/-
The history of a run agrees with its state. Every name in the history belongs to the place it was
given to, every definition was offered under a name of its place, and the table holds the first
definition offered under each name: `Recorded`. Runs only add names, definitions and events
(`run_grows`), they leave the references in progress as they were (`run_inProgress`), and they
keep the history right (`run_recorded`).
-/
import Scaffold.Proofs.Api.Names
import Scaffold.Proofs.Api.Run

namespace Scaffold
namespace Api

open Resolver Resolve Json.Pointer

/-! ## Growth -/

/-- Nothing that was named, defined or noted is lost. -/
structure Grows (r r' : Resolver) : Prop where
  names : KeepsNames r r'
  table : ∀ name d, r.table.get? name = some d → r'.table.get? name = some d
  history : r.history ⊆ r'.history

namespace Grows

theorem refl (r : Resolver) : Grows r r :=
  ⟨.refl r, fun _ _ h => h, fun _ h => h⟩

theorem trans {r r' r'' : Resolver} (h : Grows r r') (h' : Grows r' r'') : Grows r r'' :=
  ⟨h.names.trans h'.names, fun name d found => h'.table name d (h.table name d found),
    fun _ e => h'.history (h.history e)⟩

theorem claim (r : Resolver) (wanted place : String) : Grows r (r.claim wanted place) :=
  ⟨keepsNames_claim r wanted place, fun _ _ h => h, fun _ h => List.mem_cons_of_mem _ h⟩

theorem offer (r : Resolver) (place : String) (source : Source) (d : TypeDefinition) :
    Grows r (r.offer place source d) :=
  ⟨fun _ _ h => h, fun _ _ h => TypeTable.get?_define_of_some h d,
    fun _ h => List.mem_cons_of_mem _ h⟩

theorem enter (r : Resolver) (reference : String) : Grows r (r.enter reference) :=
  ⟨fun _ _ h => h, fun _ _ h => h, fun _ h => h⟩

theorem settle (r : Resolver) (reference : String) (o : Except Failure TypeExpr) :
    Grows r (settle r reference o) := by
  cases o <;> exact ⟨fun _ _ h => h, fun _ _ h => h, fun _ h => h⟩

end Grows

theorem run_grows {document : Json} {n : Nat} {c : Call} {r r' : Resolver}
    {o : Except Failure c.Answer} (run : Run document n c r o r') : Grows r r' := by
  induction run with
  | endless | known | lost | unclosed | plain | noEnum | seen | lostPart | noParts | noMembers =>
    exact .refl _
  | closed => exact .claim ..
  | madeEnum _ _ _ _ _ ih | madeObject _ _ _ _ _ ih | madeOther _ _ _ _ _ ih =>
    exact (Grows.claim ..).trans ((Grows.enter ..).trans (ih.trans (.settle ..)))
  | asked _ _ ih | inner _ _ ih | noObject _ ih | followed _ _ _ _ ih | failedParts _ _ ih
  | failedPart _ ih | failedMember _ ih => exact ih
  | inlineObject _ _ ih | inlineEnum _ _ ih => exact (Grows.claim ..).trans ih
  | enum => exact .offer ..
  | object _ ih => exact ih.trans (.offer ..)
  | own _ _ _ first second | part _ _ first second | member _ _ first second =>
    exact first.trans second

theorem inProgress_settle {r r' : Resolver} {reference : String} (o : Except Failure TypeExpr)
    (h : r'.inProgress = reference :: r.inProgress) :
    (settle r' reference o).inProgress = r.inProgress := by
  cases o <;> simp [settle, leave, remember, h]

/-- A reference that is entered is left again, so a run ends with those in progress that it
started with. -/
theorem run_inProgress {document : Json} {n : Nat} {c : Call} {r r' : Resolver}
    {o : Except Failure c.Answer} (run : Run document n c r o r') :
    r'.inProgress = r.inProgress := by
  induction run with
  | endless | known | lost | unclosed | plain | noEnum | seen | lostPart | noParts | noMembers
  | closed | enum => rfl
  | madeEnum _ _ _ _ _ ih | madeObject _ _ _ _ _ ih | madeOther _ _ _ _ _ ih =>
    exact inProgress_settle _ ih
  | asked _ _ ih | inner _ _ ih | noObject _ ih | followed _ _ _ _ ih | failedParts _ _ ih
  | failedPart _ ih | failedMember _ ih | inlineObject _ _ ih | inlineEnum _ _ ih
  | object _ ih => exact ih
  | own _ _ _ first second | part _ _ first second | member _ _ first second =>
    exact second.trans first

/-! ## The record -/

/-- The definition that was first offered under a name; the latest event is at the head. -/
def firstOffered (name : String) : List Event → Option TypeDefinition
  | [] => none
  | .claimed .. :: earlier => firstOffered name earlier
  | .offered _ _ d :: earlier =>
    (firstOffered name earlier).or (if d.name = name then some d else none)

theorem mem_of_firstOffered {name : String} {d : TypeDefinition} {events : List Event}
    (h : firstOffered name events = some d) :
    ∃ place source, .offered place source d ∈ events := by
  induction events with
  | nil => cases h
  | cons event earlier ih =>
    have before (h : firstOffered name earlier = some d) :
        ∃ place source, .offered place source d ∈ event :: earlier := by
      obtain ⟨place, source, mem⟩ := ih h
      exact ⟨place, source, List.mem_cons_of_mem _ mem⟩
    cases event with
    | claimed => exact before h
    | offered place source d' =>
      rw [firstOffered] at h
      cases first : firstOffered name earlier with
      | some d'' =>
        rw [first, Option.some_or] at h
        exact before (first.trans h)
      | none =>
        rw [first, Option.none_or] at h
        split at h
        · rw [Option.some.inj h]
          exact ⟨place, source, List.mem_cons_self⟩
        · cases h

/-- Every name was given out as it was wanted, without a number. -/
def AsWanted (r : Resolver) : Prop :=
  ∀ wanted place name, .claimed wanted place name ∈ r.history → name = baseName wanted

theorem AsWanted.of_grows {r r' : Resolver} (h : AsWanted r') (grows : Grows r r') : AsWanted r :=
  fun wanted place name mem => h wanted place name (grows.history mem)

theorem AsWanted.nameFor_eq {r r' : Resolver} {wanted place : String} (h : AsWanted r')
    (grows : Grows (r.claim wanted place) r') : r.nameFor wanted place = baseName wanted :=
  h wanted place _ (grows.history List.mem_cons_self)

/-- The history says what the names and the table say. -/
structure Recorded (r : Resolver) : Prop where
  /-- A name that was given to a place is that place's. -/
  owned : ∀ {wanted place name}, .claimed wanted place name ∈ r.history →
    r.names.get? name = some place
  /-- A place that wants the same again gets the name it was given. -/
  again : ∀ {wanted place name}, .claimed wanted place name ∈ r.history →
    r.nameFor wanted place = name
  /-- A definition is offered under a name of its place. -/
  offered : ∀ {place source d}, .offered place source d ∈ r.history →
    r.names.get? d.name = some place
  /-- The table holds the first definition offered under each name. -/
  first : ∀ name, r.table.get? name = firstOffered name r.history

namespace Recorded

theorem start : Recorded .start :=
  ⟨by simp [Resolver.start], by simp [Resolver.start], by simp [Resolver.start], fun _ => rfl⟩

/-- The record only depends on names, table and history. -/
theorem of_same {r r' : Resolver} (h : Recorded r) (names : r'.names = r.names)
    (table : r'.table = r.table) (history : r'.history = r.history) : Recorded r' where
  owned e := by rw [names]; exact h.owned (history ▸ e)
  again e := by
    have same := h.again (history ▸ e)
    simp only [nameFor, names] at same ⊢
    exact same
  offered e := by rw [names]; exact h.offered (history ▸ e)
  first name := by rw [table, history]; exact h.first name

theorem claim {r : Resolver} (h : Recorded r) (wanted place : String) :
    Recorded (r.claim wanted place) where
  owned e := by
    rcases List.mem_cons.mp e with new | old
    · injection new with _ hp hn
      rw [hn, hp]
      exact get?_claim r wanted place
    · exact keepsNames_claim r wanted place _ _ (h.owned old)
  again e := by
    rcases List.mem_cons.mp e with new | old
    · injection new with hw hp hn
      rw [hw, hp, hn]
      exact nameFor_of_claimed (keepsNames_claim r wanted place) (get?_claim r wanted place)
    · rw [← h.again old]
      refine nameFor_of_claimed (keepsNames_claim r wanted place) ?_
      rw [h.again old]
      exact keepsNames_claim r wanted place _ _ (h.owned old)
  offered e := by
    rcases List.mem_cons.mp e with new | old
    · cases new
    · exact keepsNames_claim r wanted place _ _ (h.offered old)
  first name := h.first name

/-- The table takes a definition only if none was offered under its name before. -/
theorem offer {r : Resolver} (h : Recorded r) {place : String} (source : Source)
    {d : TypeDefinition} (owned : r.names.get? d.name = some place) :
    Recorded (r.offer place source d) where
  owned e := by
    rcases List.mem_cons.mp e with new | old
    · cases new
    · exact h.owned old
  again e := by
    rcases List.mem_cons.mp e with new | old
    · cases new
    · exact h.again old
  offered e := by
    rcases List.mem_cons.mp e with new | old
    · injection new with hp _ hd
      rw [hp, hd]
      exact owned
    · exact h.offered old
  first name := by
    show (r.table.define d).get? name = (firstOffered name r.history).or _
    rw [← h.first name]
    unfold TypeTable.define KeyMap.contains
    cases taken : r.table.get? d.name with
    | some d' =>
      by_cases same : d.name = name
      · rw [same] at taken
        simp [taken]
      · simp [same]
    | none =>
      by_cases same : d.name = name
      · rw [same] at taken
        simp [taken, same]
      · simp [same]

theorem enter {r : Resolver} (h : Recorded r) (reference : String) :
    Recorded (r.enter reference) :=
  h.of_same rfl rfl rfl

theorem settle {r : Resolver} (h : Recorded r) (reference : String)
    (o : Except Failure TypeExpr) : Recorded (settle r reference o) := by
  cases o <;> exact h.of_same rfl rfl rfl

end Recorded

/-- The table holds definitions under their own names. -/
theorem Recorded.name_eq {r : Resolver} (h : Recorded r) {name : String} {d : TypeDefinition}
    (found : r.table.get? name = some d) : d.name = name := by
  rw [h.first name] at found
  generalize r.history = events at found
  induction events with
  | nil => cases found
  | cons e earlier ih =>
    cases e with
    | claimed wanted place name' => exact ih found
    | offered place source d' =>
      rw [firstOffered] at found
      cases first : firstOffered name earlier with
      | some d'' =>
        rw [first, Option.some_or] at found
        exact ih (first.trans found)
      | none =>
        rw [first, Option.none_or] at found
        split at found
        · next same =>
          rw [← Option.some.inj found]
          exact same
        · cases found

/-- A definition is made under a name that its place has. -/
def Call.Owned (r : Resolver) : Call → Prop
  | .enum name _ place => r.names.get? name = some place
  | .object name _ place => r.names.get? name = some place
  | _ => True

theorem run_recorded {document : Json} {n : Nat} {c : Call} {r r' : Resolver}
    {o : Except Failure c.Answer} (run : Run document n c r o r') (recorded : Recorded r)
    (owned : c.Owned r) : Recorded r' := by
  induction run with
  | endless | known | lost | unclosed | plain | noEnum | seen | lostPart | noParts | noMembers =>
    exact recorded
  | closed => exact recorded.claim ..
  | madeEnum _ _ _ _ _ ih | madeObject _ _ _ _ _ ih =>
    exact (ih ((recorded.claim ..).enter _) (get?_claim ..)).settle ..
  | madeOther _ _ _ _ _ ih => exact (ih ((recorded.claim ..).enter _) trivial).settle ..
  | asked _ _ ih | inner _ _ ih => exact ih recorded trivial
  | inlineObject _ _ ih | inlineEnum _ _ ih => exact ih (recorded.claim ..) (get?_claim ..)
  | enum => exact recorded.offer _ owned
  | object run ih =>
    exact (ih recorded trivial).offer _ ((run_grows run).names _ _ owned)
  | noObject _ ih | followed _ _ _ _ ih | failedParts _ _ ih | failedPart _ ih
  | failedMember _ ih => exact ih recorded trivial
  | own _ _ _ first second | part _ _ first second | member _ _ first second =>
    exact second (first recorded trivial) trivial

end Api
end Scaffold
