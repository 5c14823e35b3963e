/-
What the names have in common that a resolver gives out. Each one is a name in Pascal case, with a number
or none behind it, so a condition that all of these meet is met by every name in use and by every
definition in the table (`run_namesIn`), and by the types of a document (`load_namesIn`).
-/
import Scaffold.Proofs.Api.Operations
import Scaffold.Proofs.Text.Case
import Scaffold.Proofs.TypeTable

namespace Scaffold
namespace Api

open Resolver Resolve

/-! ## Candidates -/

theorem baseName_eq (wanted : String) : baseName wanted = "Anonymous" ∨
    Text.pascalCase wanted ≠ "" ∧ baseName wanted = Text.pascalCase wanted := by
  unfold baseName
  by_cases empty : (Text.pascalCase wanted).isEmpty = true
  · exact .inl (if_pos empty)
  · exact .inr ⟨by simpa using empty, if_neg empty⟩

theorem isBlankText_append {a b : String} (visible : Text.isBlankText a = false) :
    Text.isBlankText (a ++ b) = false := by
  simp only [Text.isBlankText, String.toList_append, List.all_append, Bool.and_eq_false_imp] at visible ⊢
  simp [visible]

theorem isBlankText_candidate (wanted : String) (k : Nat) :
    Text.isBlankText (candidate (baseName wanted) k) = false := by
  have base : Text.isBlankText (baseName wanted) = false := by
    rcases baseName_eq wanted with same | ⟨visible, same⟩
    · rw [same]
      decide
    · rw [same]
      exact Text.isBlankText_pascalCase visible
  cases k with
  | zero => exact base
  | succ k => exact isBlankText_append base

theorem slash_notMem_candidate (wanted : String) (k : Nat) :
    '/' ∉ (candidate (baseName wanted) k).toList := by
  have base : '/' ∉ (baseName wanted).toList := by
    rcases baseName_eq wanted with same | ⟨-, same⟩
    · rw [same]
      decide
    · rw [same]
      exact Text.slash_notMem_pascalCase wanted
  cases k with
  | zero => exact base
  | succ k =>
    have number : '/' ∉ (k + 2).repr.toList := by
      rw [Nat.toList_repr]
      intro slash
      have digit := Nat.isDigit_of_mem_toDigits (by decide) (by decide) slash
      revert digit
      decide
    rw [candidate, String.toList_append, List.mem_append]
    exact fun slash => slash.elim base number

/-! ## Names in use -/

/-- The names in use and those of definitions meet a condition. -/
structure NamesIn (P : String → Prop) (r : Resolver) : Prop where
  names : ∀ name place, r.names.get? name = some place → P name
  table : ∀ d ∈ r.table.values, P d.name

variable {document : Json} {P : String → Prop} {r r' : Resolver}

namespace NamesIn

theorem start : NamesIn P .start :=
  ⟨nofun, by simp [Resolver.start, KeyMap.empty, KeyMap.values]⟩

theorem enter (h : NamesIn P r) (reference : String) : NamesIn P (r.enter reference) :=
  ⟨h.names, h.table⟩

theorem settle (h : NamesIn P r) (reference : String) (o : Except Failure TypeExpr) :
    NamesIn P (settle r reference o) := by
  cases o <;> exact ⟨h.names, h.table⟩

/-- A definition is offered under a name in use. -/
theorem offer (h : NamesIn P r) {place : String} (source : Source) {d : TypeDefinition}
    (owned : r.names.get? d.name = some place) : NamesIn P (r.offer place source d) where
  names := h.names
  table d' mem := by
    rcases TypeTable.mem_values_define mem with rfl | old
    · exact h.names _ place owned
    · exact h.table d' old

variable (each : ∀ wanted k, P (candidate (baseName wanted) k))

include each

theorem claim (h : NamesIn P r) (wanted place : String) : NamesIn P (r.claim wanted place) where
  names name owner owned := by
    rw [Resolver.claim, KeyMap.get?_insert] at owned
    split at owned
    · next same =>
      obtain ⟨k, candidate, -⟩ := nameFor_spec r wanted place
      rw [← same, candidate]
      exact each wanted k
    · exact h.names name owner owned
  table := h.table

end NamesIn

section

variable (each : ∀ wanted k, P (candidate (baseName wanted) k))

include each

theorem run_namesIn {n : Nat} {c : Call} {o : Except Failure c.Answer}
    (run : Run document n c r o r') (h : NamesIn P r) (owned : c.Owned r) : NamesIn P r' := by
  -- A definition is offered under a name that was claimed before, and names in use stay in use.
  induction run with
  | endless | known | lost | unclosed | plain | noEnum | seen | lostPart | noParts | noMembers => exact h
  | closed => exact h.claim each _ _
  | madeEnum _ _ _ _ _ ih | madeObject _ _ _ _ _ ih =>
    exact (ih ((h.claim each _ _).enter _) (get?_claim ..)).settle _ _
  | madeOther _ _ _ _ _ ih => exact (ih ((h.claim each _ _).enter _) trivial).settle _ _
  | inlineObject _ _ ih | inlineEnum _ _ ih => exact ih (h.claim each _ _) (get?_claim ..)
  | enum => exact h.offer _ owned
  | object run ih => exact (ih h trivial).offer _ ((run_grows run).names _ _ owned)
  | asked _ _ ih | inner _ _ ih | noObject _ ih | followed _ _ _ _ ih | failedParts _ _ ih
  | failedPart _ ih | failedMember _ ih => exact ih h trivial
  | own _ _ _ first second | part _ _ first second | member _ _ first second =>
    exact second (first h trivial) trivial

/-! ## Documents -/

theorem ensures_namesIn (n : Nat) (c : Call) (owned : ∀ r, c.Owned r) :
    Ensures (NamesIn P) (fun _ => NamesIn P) (fun _ => True) (c.compute document n) fun _ _ => True :=
  .of_run fun {r _ _} run h => run_namesIn each run h (owned r)

theorem steady_namesIn : Steady document (NamesIn P) (fun _ _ => True) fun _ => NamesIn P where
  lasting _ := .const True
  fails h _ := h
  schema {schema context place} _ :=
    ensures_namesIn each (nestingBound document) (.schema schema context place) fun _ => trivial
  claim _ _ h := h.claim each _ _
  form _ h owned _ := ⟨h.offer _ owned, trivial⟩

/-- Types of a loaded document have names that were given out. -/
theorem load_namesIn {path : String} {d : Document} (loaded : load document path = .ok d) :
    ∀ definition ∈ d.types.values, P definition.name := by
  obtain ⟨r, run, types⟩ := outcome_of_load loaded
  have named (name : String) :
      Ensures (NamesIn P) (fun _ => NamesIn P) (fun _ => True) (ofName document name) fun _ _ => True :=
    ensures_namesIn each (nestingBound document)
      (.reference (Json.Pointer.child (schemasPrefix document) name) (schemasPrefix document))
      fun _ => trivial
  have all : Ensures (NamesIn P) (fun _ => NamesIn P) (fun _ => True) (everything document)
      fun _ _ => True :=
    .bind (ensures_allNamed fun {name _} _ => named name) fun _ =>
      (steady_namesIn each).operations_spec.mono (fun _ h => h) fun _ _ _ => trivial
  have ends := all.kept NamesIn.start
  rw [run] at ends
  rw [types]
  exact ends.table

end

end Api
end Scaffold
