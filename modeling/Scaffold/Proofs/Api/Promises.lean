/-
Names that are used before they are defined. While a run is under way, a type may mention a name whose
definition is not in the table yet: it is promised by a reference to an object that is in progress. When
the reference is settled the definition is there. A run that gives an answer keeps all promises, and one
that fails keeps all but those for objects whose definitions it breaks off: `run_closed`.
-/
import Scaffold.Proofs.Api.Moments

namespace Scaffold

namespace Api

open Resolver Resolve Json.Pointer

variable {document : Json}

/-! ## References of documents -/

/-- Every reference of the document is a text. -/
def TextRefs (document : Json) : Prop :=
  ∀ v ∈ document.values, (v.get? "$ref").all (·.str?.isSome) = true

instance (document : Json) : Decidable (TextRefs document) :=
  inferInstanceAs (Decidable (∀ v ∈ document.values, _ = true))

theorem TextRefs.has_ref (text : TextRefs document) {reference : String} {target : Json}
    (here : lookup? document reference = some target) (ref : Schema.ref? target = none) :
    Schema.has target "$ref" = false := by
  have all := text target (mem_values_of_lookup? here)
  unfold Schema.ref? Json.strAt? at ref
  unfold Schema.has
  cases found : target.get? "$ref" with
  | none => rfl
  | some v =>
    rw [found] at all ref
    simp only [Option.all_some, Option.bind_some] at all ref
    rw [ref] at all
    cases all

theorem TextRefs.proper (text : TextRefs document) : CyclesProper document :=
  fun _ _ _ here ref => text.has_ref here ref

/-- An object at the end of a cycle is what a reference to it defines. -/
theorem LeadsToObject.kind (text : TextRefs document) {reference : String} {target : Json}
    (object : LeadsToObject document reference)
    (here : lookup? document reference = some target) : Schema.kind target = .object :=
  object.kind_of_plain here (text.has_ref here)

/-! ## Promises -/

/-- A reference to an object that is asked for while its own definition is made. -/
structure Recurs (document : Json) (reference : String) : Prop where
  object : LeadsToObject document reference
  again : Relation.TransGen (Leads document) reference reference

/-- A name is defined, or it was given to an object whose definition is being made, or it is lost. -/
def Promised (document : Json) (lost : String → Prop) (r : Resolver) (name : String) : Prop :=
  (∃ d, r.table.get? name = some d) ∨
    (∃ q ∈ r.inProgress, Recurs document q ∧ .claimed (lastSegment q) q name ∈ r.history) ∨ lost name

def PromisedType (document : Json) (lost : String → Prop) (r : Resolver) (t : TypeExpr) : Prop :=
  ∀ name ∈ t.references, Promised document lost r name

/-- The names that are lost if no name is. -/
def noneLost (_ : String) : Prop :=
  False

variable {lost lost' : String → Prop}

/-- Promises outlast additions while the same references are in progress, or more, and the same names
are lost, or more. -/
theorem Promised.mono {r r' : Resolver} {name : String} (h : Promised document lost r name)
    (grows : Grows r r') (progress : r.inProgress ⊆ r'.inProgress)
    (more : ∀ name, lost name → lost' name) : Promised document lost' r' name := by
  rcases h with ⟨d, found⟩ | ⟨q, mem, recurs, claimed⟩ | is_lost
  · exact .inl ⟨d, grows.table name d found⟩
  · exact .inr (.inl ⟨q, progress mem, recurs, grows.history claimed⟩)
  · exact .inr (.inr (more name is_lost))

theorem PromisedType.mono {r r' : Resolver} {t : TypeExpr} (h : PromisedType document lost r t)
    (grows : Grows r r') (progress : r.inProgress ⊆ r'.inProgress) :
    PromisedType document lost r' t :=
  fun name mem => (h name mem).mono grows progress fun _ is_lost => is_lost

/-- Every name in a resolved type or in a definition is promised. -/
structure Closed (document : Json) (lost : String → Prop) (r : Resolver) : Prop where
  recorded : Recorded r
  resolved : ∀ reference type, r.resolved.get? reference = some type →
    PromisedType document lost r type
  table : ∀ d ∈ r.table.values, ∀ t ∈ d.propertyTypes, PromisedType document lost r t

namespace Closed

theorem start (document : Json) (lost : String → Prop) : Closed document lost .start :=
  ⟨.start, by simp [Resolver.start], by simp [Resolver.start, KeyMap.empty, KeyMap.values]⟩

theorem lose {r : Resolver} (h : Closed document lost r) (more : ∀ name, lost name → lost' name) :
    Closed document lost' r where
  recorded := h.recorded
  resolved reference type found name mem :=
    (h.resolved reference type found name mem).mono (.refl r) (fun _ hq => hq) more
  table d hd t ht name mem := (h.table d hd t ht name mem).mono (.refl r) (fun _ hq => hq) more

/-- A step that leaves the resolved types and the table alone. -/
theorem of_same {r r' : Resolver} (h : Closed document lost r) (recorded : Recorded r')
    (grows : Grows r r') (progress : r.inProgress ⊆ r'.inProgress)
    (resolved : r'.resolved = r.resolved) (table : r'.table = r.table) : Closed document lost r' where
  recorded := recorded
  resolved reference type found :=
    (h.resolved reference type (resolved ▸ found)).mono grows progress
  table d hd t ht := (h.table d (table ▸ hd) t ht).mono grows progress

theorem claim {r : Resolver} (h : Closed document lost r) (wanted place : String) :
    Closed document lost (r.claim wanted place) :=
  h.of_same (h.recorded.claim ..) (.claim ..) (fun _ hq => hq) rfl rfl

theorem enter {r : Resolver} (h : Closed document lost r) (reference : String) :
    Closed document lost (r.enter reference) :=
  h.of_same (h.recorded.enter _) (.enter ..) (fun _ hq => List.mem_cons_of_mem _ hq) rfl rfl

theorem offer {r : Resolver} (h : Closed document lost r) {place : String} (source : Source)
    {d : TypeDefinition} (owned : r.names.get? d.name = some place)
    (types : ∀ t ∈ d.propertyTypes, PromisedType document lost r t) :
    Closed document lost (r.offer place source d) where
  recorded := h.recorded.offer source owned
  resolved reference type found := (h.resolved reference type found).mono (.offer ..) fun _ hq => hq
  table d' hd' t ht := by
    rcases TypeTable.mem_values_define hd' with rfl | old
    · exact (types t ht).mono (.offer ..) fun _ hq => hq
    · exact (h.table d' old t ht).mono (.offer ..) fun _ hq => hq

/-- An offered name is defined. -/
theorem promised_offer (r : Resolver) (place : String) (source : Source) (d : TypeDefinition) :
    Promised document lost (r.offer place source d) d.name :=
  .inl (TypeTable.exists_get?_define r.table d)

end Closed

/-! ## Calls and what they ask for at once -/

namespace Call

/-- A call that asks for the type of a reference at once. -/
def LeadsTo (next : String) : Call → Prop
  | .reference asked _ => asked = next
  | .schema value _ _ => Schema.ref? value = some next
  | _ => False

/-- Where an alias in progress leads to is in progress too, or is what the call is about. -/
def Follows (document : Json) (r : Resolver) (c : Call) : Prop :=
  ∀ q ∈ r.inProgress, ∀ next, Alias document q next → next ∈ r.inProgress ∨ c.LeadsTo next

/-- The types that are gathered already when a call is made. -/
def given : Call → List TypeExpr
  | .gather _ _ _ g => g.properties.map (·.type)
  | .parts _ _ _ g => g.properties.map (·.type)
  | .members _ _ _ _ g => g.properties.map (·.type)
  | _ => []

/-- The types in the answer to a call. -/
def types : (c : Call) → c.Answer → List TypeExpr
  | .reference .., t => [t]
  | .schema .., t => [t]
  | .enum .., t => [t]
  | .object .., t => [t]
  | .gather .., g => g.properties.map (·.type)
  | .parts .., g => g.properties.map (·.type)
  | .members .., g => g.properties.map (·.type)

end Call

/-- Nothing is asked for without being in progress, once the call that asks has gone on. -/
theorem Call.Follows.inProgress {r : Resolver} {c : Call} (h : c.Follows document r)
    (none : ∀ next, c.LeadsTo next → next ∈ r.inProgress) (c' : Call) :
    c'.Follows document r :=
  fun q hq next step => .inl ((h q hq next step).elim id (none next))

/-- A cycle ends at an object that is in progress. -/
theorem mem_inProgress_of_chain {r : Resolver} {reference place last : String}
    (follows : (Call.reference reference place).Follows document r)
    (met : reference ∈ r.inProgress)
    (chain : Relation.ReflTransGen (Alias document) reference last) : last ∈ r.inProgress := by
  induction chain with
  | refl => exact met
  | tail _ step ih =>
    rcases follows _ ih _ step with h | same
    · exact h
    · rw [← (same : reference = _)]
      exact met

theorem mem_types_putProperty {p : TypedProperty} {properties : List TypedProperty}
    {t : TypeExpr} (h : t ∈ (putProperty p properties).map (·.type)) :
    t = p.type ∨ t ∈ properties.map (·.type) := by
  induction properties with
  | nil => simpa [putProperty] using h
  | cons q rest ih =>
    simp only [putProperty] at h
    split at h
    · rcases List.mem_cons.mp h with same | old
      · exact .inl same
      · exact .inr (List.mem_cons_of_mem _ old)
    · rcases List.mem_cons.mp h with same | later
      · exact .inr (List.mem_cons.mpr (.inl same))
      · rcases ih later with same | old
        · exact .inl same
        · exact .inr (List.mem_cons_of_mem _ old)

/-- An object that was made has its name in the table. -/
theorem object_defined {n : Nat} {name place : String} {schema : Json} {r r' : Resolver}
    {t : TypeExpr} (run : Run document n (.object name schema place) r (.ok t) r') :
    ∃ d, r'.table.get? name = some d := by
  cases run with
  | object => exact TypeTable.exists_get?_define _ _

/-- While the definition of a reference is made, it is in progress, and if it is an alias then
what it leads to is asked for at once. -/
theorem Call.Follows.enter {r : Resolver} {reference place wanted : String} {c : Call}
    (h : (Call.reference reference place).Follows document r)
    (own : ∀ next, Alias document reference next → c.LeadsTo next) :
    c.Follows document ((r.claim wanted reference).enter reference) := by
  intro q hq next step
  rcases List.mem_cons.mp hq with same | old
  · rw [same] at step
    exact .inr (own next step)
  · left
    rcases h q old next step with known | same
    · exact List.mem_cons_of_mem _ known
    · exact List.mem_cons.mpr (.inl (same : reference = next).symm)

theorem Call.Follows.of_inProgress_eq {r r' : Resolver} {c : Call} (h : c.Follows document r)
    (progress : r'.inProgress = r.inProgress) : c.Follows document r' := by
  intro q hq next step
  rw [progress] at hq ⊢
  exact h q hq next step

/-- A schema that is no reference asks for nothing at once. -/
theorem Call.Follows.of_ref?_eq_none {r : Resolver} {schema : Json} {context place : String}
    (h : (Call.schema schema context place).Follows document r)
    (ref : Schema.ref? schema = none) (c : Call) : c.Follows document r := by
  refine h.inProgress (fun next leads => ?_) c
  rw [Call.LeadsTo, ref] at leads
  cases leads

theorem not_alias {reference : String} {target : Json}
    (here : lookup? document reference = some target) (ref : Schema.ref? target = none)
    (next : String) : ¬Alias document reference next := by
  rintro ⟨target', here', ref'⟩
  rw [here] at here'
  rw [← Option.some.inj here', ref] at ref'
  cases ref'

theorem given_mono {r r' : Resolver} {types : List TypeExpr} (grows : Grows r r')
    (progress : r'.inProgress = r.inProgress) (h : ∀ t ∈ types, PromisedType document lost r t) :
    ∀ t ∈ types, PromisedType document lost r' t :=
  fun t ht => (h t ht).mono grows (progress ▸ fun _ hq => hq)

/-! ## Moments -/

/-- What a call relies on: its name belongs to its place, aliases in progress were followed, and
everything in progress leads to what is asked for. -/
structure Moment.Ready (document : Json) (m : Moment) : Prop where
  owned : m.call.Owned m.state
  follows : m.call.Follows document m.state
  stacked : m.Stacked document

/-- Further calls can rely on the same. -/
theorem Moment.Ready.makes {m m' : Moment} (ready : m.Ready document)
    (makes : Makes document m m') : m'.Ready document := by
  obtain ⟨owned, follows, stacked⟩ := ready
  refine ⟨?_, ?_, stacked.makes makes⟩
  · cases makes with
    | enum | object | inlineObject | inlineEnum => exact get?_claim ..
    | _ => trivial
  · cases makes with
    | enum _ here _ kind | object _ here _ kind =>
      have own := not_alias here (Schema.ref?_eq_none_of_kind (by simp [kind]))
      exact follows.enter fun next step => absurd step (own next)
    | other _ here =>
      refine follows.enter fun next step => ?_
      obtain ⟨target, here', ref⟩ := step
      rw [here] at here'
      rw [Call.LeadsTo, Option.some.inj here']
      exact ref
    | asked form =>
      have ref := Schema.ref?_of_form_reference form
      exact fun q hq next step => (follows q hq next step).imp_right fun leads =>
        Option.some.inj (ref.symm.trans leads)
    | inner form => exact follows.of_ref?_eq_none (Schema.ref?_of_form_inner form) _
    | inlineObject form => exact follows.of_ref?_eq_none (Schema.ref?_of_form_object form) _
    | inlineEnum form => exact follows.of_ref?_eq_none (Schema.ref?_of_form_enum form) _
    | gather | followed | parts | part | member =>
      exact follows.inProgress (fun _ leads => leads.elim) _
    | members _ run | otherParts run | otherMembers run =>
      exact (follows.inProgress (fun _ leads => leads.elim) _).of_inProgress_eq (run_inProgress run)

/-- In the course of a call the making of an object fails that is asked for again while it is made. -/
inductive Moment.BreaksOff (document : Json) (m : Moment) : String → Prop where
  | mk {n : Nat} {reference place : String} {r r' : Resolver} {failure : Failure}
      (course : Relation.ReflTransGen (Makes document) m ⟨n, .reference reference place, r⟩)
      (free : reference ∉ r.inProgress) (recurs : Recurs document reference)
      (fails : Run document n (.reference reference place) r (.error failure) r') :
      BreaksOff document m (r.nameFor (lastSegment reference) reference)

/-- The names that are lost before a call or in its course. -/
def Moment.Loses (document : Json) (m : Moment) (lost : String → Prop) (name : String) : Prop :=
  lost name ∨ m.BreaksOff document name

theorem Moment.Makes.loses {m m' : Moment} (makes : Makes document m m') (name : String)
    (loses : m'.Loses document lost name) : m.Loses document lost name := by
  refine loses.imp_right fun breaks => ?_
  obtain ⟨course, free, recurs, fails⟩ := breaks
  exact ⟨course.head makes, free, recurs, fails⟩

/-! ## Runs keep promises -/

/-- When a reference is settled, its promise has been kept, or the name is lost. -/
theorem Promised.settle {r r' : Resolver} {reference name : String}
    (h : Promised document lost r' name) (progress : r'.inProgress = reference :: r.inProgress)
    (kept : Recurs document reference →
      .claimed (lastSegment reference) reference name ∈ r'.history →
      (∃ d, r'.table.get? name = some d) ∨ lost name)
    (o : Except Failure TypeExpr) : Promised document lost (settle r' reference o) name := by
  have table : (Resolve.settle r' reference o).table = r'.table := by cases o <;> rfl
  have history : (Resolve.settle r' reference o).history = r'.history := by cases o <;> rfl
  rw [Promised, table, history, inProgress_settle o progress]
  rcases h with found | ⟨q, mem, recurs, claimed⟩ | is_lost
  · exact .inl found
  · rw [progress] at mem
    rcases List.mem_cons.mp mem with rfl | mem
    · exact (kept recurs claimed).imp_right .inr
    · exact .inr (.inl ⟨q, mem, recurs, claimed⟩)
  · exact .inr (.inr is_lost)

/-- A settled reference leaves the table closed. -/
theorem Closed.settle {r r' : Resolver} {reference : String} (h : Closed document lost r')
    (progress : r'.inProgress = reference :: r.inProgress)
    (kept : Recurs document reference → ∀ name,
      .claimed (lastSegment reference) reference name ∈ r'.history →
      (∃ d, r'.table.get? name = some d) ∨ lost name)
    (o : Except Failure TypeExpr)
    (promised : ∀ type, o = .ok type → PromisedType document lost r' type) :
    Closed document lost (settle r' reference o) ∧
      ∀ type, o = .ok type → PromisedType document lost (settle r' reference o) type := by
  have keep (t : TypeExpr) (ht : PromisedType document lost r' t) :
      PromisedType document lost (Resolve.settle r' reference o) t :=
    fun name mem => (ht name mem).settle progress (fun recurs => kept recurs name) o
  refine ⟨⟨h.recorded.settle _ _, fun other t found => keep t ?_, fun d hd t ht => keep t ?_⟩,
    fun type same => keep type (promised type same)⟩
  · cases o with
    | error failure => exact h.resolved other t found
    | ok type =>
      simp only [Resolve.settle, remember, leave, KeyMap.get?_insert] at found
      split at found
      · rw [← Option.some.inj found]
        exact promised type rfl
      · exact h.resolved other t found
  · have table : (Resolve.settle r' reference o).table = r'.table := by cases o <;> rfl
    rw [table] at hd
    exact h.table d hd t ht

/-- What a call ends with that gives types, or fails: only a failure loses names. -/
def Ends (document : Json) (m : Moment) (lost : String → Prop) :
    Except Failure (List TypeExpr) → Resolver → Prop
  | .ok types, r => Closed document lost r ∧ ∀ t ∈ types, PromisedType document lost r t
  | .error _, r => Closed document (m.Loses document lost) r

/-- A call ends as the last one that it makes. -/
theorem Ends.of_makes {m m' : Moment} {types : Except Failure (List TypeExpr)} {r : Resolver}
    (h : Ends document m' lost types r) (makes : Moment.Makes document m m') :
    Ends document m lost types r := by
  cases types with
  | ok types => exact h
  | error failure => exact h.lose makes.loses

/-- A type that is made of the one of another call has the same names. -/
theorem Ends.wrapped {m : Moment} {o : Except Failure TypeExpr} {r : Resolver}
    {wrap : TypeExpr → TypeExpr} (h : Ends document m lost (o.map fun t => [t]) r)
    (same : ∀ t, (wrap t).references = t.references) :
    Ends document m lost ((o.map wrap).map fun t => [t]) r := by
  cases o with
  | error failure => exact h
  | ok type =>
    refine ⟨h.1, List.forall_mem_singleton.mpr ?_⟩
    rw [PromisedType, same]
    exact h.2 type List.mem_cons_self

/-- The end of making a reference. The promise for it is kept if there is a type, and else lost. -/
theorem Ends.made {m : Moment} {reference : String} {r r' : Resolver} {o : Except Failure TypeExpr}
    (h : Ends document m lost (o.map fun t => [t]) r')
    (progress : r'.inProgress = reference :: r.inProgress)
    (kept : Recurs document reference → ∀ name,
      .claimed (lastSegment reference) reference name ∈ r'.history →
      (∀ type, o = .ok type → ∃ d, r'.table.get? name = some d) ∧
        ∀ failure, o = .error failure → m.BreaksOff document name) :
    Ends document m lost (o.map fun t => [t]) (settle r' reference o) := by
  cases o with
  | ok type =>
    obtain ⟨closed, types⟩ := h
    have settled := closed.settle progress
      (fun recurs name claimed => .inl ((kept recurs name claimed).1 type rfl)) (.ok type)
      fun t same => types t (List.mem_singleton.mpr (Except.ok.inj same).symm)
    exact ⟨settled.1, List.forall_mem_singleton.mpr (settled.2 type rfl)⟩
  | error failure =>
    exact (Closed.settle h progress
      (fun recurs name claimed => .inr (.inr ((kept recurs name claimed).2 failure rfl)))
      (.error failure) fun _ same => nomatch same).1

/-- What a call has to keep: the table stays closed but for what is lost, and the names in an answer are
promised. -/
def Kept (document : Json) (m : Moment) (o : Except Failure m.call.Answer) (r : Resolver) : Prop :=
  ∀ lost, Closed document lost m.state → m.Ready document →
    (∀ t ∈ m.call.given, PromisedType document lost m.state t) →
    Ends document m lost (o.map m.call.types) r

/-- Every run keeps the promises, but for those that it breaks off. -/
theorem run_closed (text : TextRefs document) {n : Nat} {c : Call} {r r' : Resolver}
    {o : Except Failure c.Answer} (run : Run document n c r o r') :
    Kept document ⟨n, c, r⟩ o r' := by
  induction run with
  | endless | lost | unclosed | noEnum | lostPart =>
    exact fun lost closed _ _ => closed.lose fun _ => .inl
  | known known =>
    intro lost closed _ _
    exact ⟨closed, List.forall_mem_singleton.mpr (closed.resolved _ _ known)⟩
  | @closed n reference place last target r new here met close =>
    intro lost closed ready _
    obtain ⟨chain, object⟩ := cycleEnd_spec close
    have last_met := mem_inProgress_of_chain ready.follows met chain
    have again : Relation.TransGen (Leads document) last last :=
      (ready.stacked last last_met reference rfl).trans_left
        (Relation.ReflTransGen.mono (fun _ _ => Alias.leads) _ _ chain)
    refine ⟨closed.claim _ _, List.forall_mem_singleton.mpr fun name mem => ?_⟩
    rw [TypeExpr.references_reference, List.mem_singleton] at mem
    exact .inr (.inl ⟨last, last_met, ⟨object, again⟩, by simp [mem, Resolver.claim]⟩)
  | madeEnum new here free kind made ih =>
    intro lost closed ready _
    have makes := ready.makes (.enum new here free kind)
    have ends := ih lost ((closed.claim _ _).enter _) makes (by simp [Call.given])
    refine (ends.of_makes (.enum new here free kind)).made (run_inProgress made) fun recurs => ?_
    rw [recurs.object.kind text here] at kind
    cases kind
  | @madeObject n reference place target r r' o new here free kind made ih =>
    intro lost closed ready _
    have makes := ready.makes (.object new here free kind)
    have ends := ih lost ((closed.claim _ _).enter _) makes (by simp [Call.given])
    refine (ends.of_makes (.object new here free kind)).made (run_inProgress made)
      fun recurs name claimed => ?_
    have recorded : Recorded r' :=
      run_recorded made ((closed.recorded.claim ..).enter _) (get?_claim ..)
    have first : Event.claimed (lastSegment reference) reference
        (r.nameFor (lastSegment reference) reference) ∈ r'.history :=
      (run_grows made).history List.mem_cons_self
    obtain rfl : name = r.nameFor (lastSegment reference) reference := by
      rw [← recorded.again claimed, recorded.again first]
    refine ⟨fun type same => ?_, fun failure same => ?_⟩
    · subst same
      exact object_defined made
    · subst same
      exact ⟨.refl, free, recurs, .madeObject new here free kind made⟩
  | madeOther new here free kind made ih =>
    intro lost closed ready _
    have makes := ready.makes (.other new here free kind)
    have ends := ih lost ((closed.claim _ _).enter _) makes (by simp [Call.given])
    refine (ends.of_makes (.other new here free kind)).made (run_inProgress made) fun recurs => ?_
    rw [recurs.object.kind text here] at kind
    cases kind
  | asked form _ ih =>
    intro lost closed ready _
    have ends := ih lost closed (ready.makes (.asked form)) (by simp [Call.given])
    exact (ends.of_makes (.asked form)).wrapped (Schema.references_apply _)
  | inner form _ ih =>
    intro lost closed ready _
    have ends := ih lost closed (ready.makes (.inner form)) (by simp [Call.given])
    exact (ends.of_makes (.inner form)).wrapped (Schema.references_apply _)
  | inlineObject form _ ih =>
    intro lost closed ready _
    have ends := ih lost (closed.claim _ _) (ready.makes (.inlineObject form)) (by simp [Call.given])
    exact (ends.of_makes (.inlineObject form)).wrapped fun t => TypeExpr.references_withNullable t _
  | inlineEnum form _ ih =>
    intro lost closed ready _
    have ends := ih lost (closed.claim _ _) (ready.makes (.inlineEnum form)) (by simp [Call.given])
    exact (ends.of_makes (.inlineEnum form)).wrapped fun t => TypeExpr.references_withNullable t _
  | plain form =>
    intro lost closed _ _
    refine ⟨closed, List.forall_mem_singleton.mpr fun name mem => ?_⟩
    rw [Schema.references_of_form_plain form] at mem
    exact absurd mem List.not_mem_nil
  | enum values_eq =>
    intro lost closed ready _
    refine ⟨closed.offer _ ready.owned (by simp [Schema.enumDefinition, TypeDefinition.propertyTypes]),
      List.forall_mem_singleton.mpr fun name mem => ?_⟩
    rw [TypeExpr.references_enumeration, List.mem_singleton] at mem
    rw [mem]
    exact Closed.promised_offer ..
  | object run ih =>
    intro lost closed ready _
    obtain ⟨closed', types⟩ := ih lost closed (ready.makes .gather) (by simp [Call.given])
    refine ⟨closed'.offer _ ((run_grows run).names _ _ ready.owned) types,
      List.forall_mem_singleton.mpr fun name mem => ?_⟩
    rw [TypeExpr.references_reference, List.mem_singleton] at mem
    rw [mem]
    exact Closed.promised_offer ..
  | noObject _ ih =>
    intro lost closed ready _
    exact (ih lost closed (ready.makes .gather) (by simp [Call.given])).of_makes .gather
  | seen | noParts | noMembers => exact fun lost closed _ given => ⟨closed, given⟩
  | followed ref new here _ ih =>
    intro lost closed ready given
    exact (ih lost closed (ready.makes (.followed ref new here)) given).of_makes (.followed ref new here)
  | own ref parts _ first second =>
    intro lost closed ready given
    obtain ⟨closed', types⟩ := first lost closed (ready.makes (.parts ref)) given
    exact (second lost closed' (ready.makes (.members ref parts)) types).of_makes (.members ref parts)
  | failedParts ref _ ih =>
    intro lost closed ready given
    exact (ih lost closed (ready.makes (.parts ref)) given).of_makes (.parts ref)
  | part run _ first second =>
    intro lost closed ready given
    obtain ⟨closed', types⟩ := first lost closed (ready.makes .part) given
    exact (second lost closed' (ready.makes (.otherParts run)) types).of_makes (.otherParts run)
  | failedPart _ ih =>
    intro lost closed ready given
    exact (ih lost closed (ready.makes .part) given).of_makes .part
  | member run _ first second =>
    intro lost closed ready given
    obtain ⟨closed', types⟩ := first lost closed (ready.makes .member) (by simp [Call.given])
    refine (second lost closed' (ready.makes (.otherMembers run)) fun t ht => ?_).of_makes
      (.otherMembers run)
    rcases mem_types_putProperty ht with rfl | old
    · exact types _ List.mem_cons_self
    · exact given_mono (run_grows run) (run_inProgress run) given t old
  | failedMember _ ih =>
    intro lost closed ready given
    exact (ih lost closed (ready.makes .member) (by simp [Call.given])).of_makes .member

end Api
end Scaffold
