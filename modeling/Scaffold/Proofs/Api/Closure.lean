/-
The type table of a document is closed: every name that a property or an operation mentions is
defined, also the names that were given out to end a cycle.
-/
import Scaffold.Proofs.Api.Promises

namespace Scaffold
namespace Api

open Resolver Resolve Json.Pointer

variable {document : Json}

/-- Nothing is in progress, and the table is closed but for the names that are lost. -/
structure Settled (document : Json) (lost : String → Prop) (r : Resolver) : Prop where
  closed : Closed document lost r
  idle : r.inProgress = []

/-- All names in a type are in the table, but for those that are lost. -/
def Defined (lost : String → Prop) (t : TypeExpr) (r : Resolver) : Prop :=
  ∀ name ∈ t.references, (∃ d, r.table.get? name = some d) ∨ lost name

variable {lost : String → Prop}

theorem defined_lasting (lost : String → Prop) (t : TypeExpr) : Lasting (Defined lost t) := by
  intro r r' grows defined name mem
  exact (defined name mem).imp_left fun ⟨d, found⟩ => ⟨d, grows.table name d found⟩

/-- A promise is only good while something is in progress. -/
theorem PromisedType.defined {r : Resolver} {t : TypeExpr} (h : PromisedType document lost r t)
    (idle : r.inProgress = []) : Defined lost t r := by
  intro name mem
  rcases h name mem with found | ⟨q, hq, _⟩ | is_lost
  · exact .inl found
  · rw [idle] at hq
    exact absurd hq List.not_mem_nil
  · exact .inr is_lost

theorem Defined.promised {r : Resolver} {t : TypeExpr} (h : Defined lost t r) :
    PromisedType document lost r t :=
  fun name mem => (h name mem).imp_right .inr

/-- If no name is lost, all names in a type are in the table. -/
theorem Defined.exists_get? {r : Resolver} {t : TypeExpr} (h : Defined noneLost t r) {name : String}
    (mem : name ∈ t.references) : ∃ d, r.table.get? name = some d :=
  (h name mem).resolve_right id

theorem Settled.start (document : Json) (lost : String → Prop) : Settled document lost .start :=
  ⟨.start document lost, rfl⟩

/-- What a run from a state with nothing in progress ends with. -/
theorem Settled.ends (text : TextRefs document) {n : Nat} {c : Call} {r r' : Resolver}
    {o : Except Failure c.Answer} (settled : Settled document lost r) (run : Run document n c r o r')
    (owned : c.Owned r) (given : c.given = []) :
    Ends document ⟨n, c, r⟩ lost (o.map c.types) r' := by
  have nothing (q : String) : q ∉ r.inProgress := by simp [settled.idle]
  refine run_closed text run lost settled.closed ⟨owned, ?_, ?_⟩ (by simp [given])
  · exact fun q met => absurd met (nothing q)
  · exact Moment.stacked_of_inProgress settled.idle

/-- A call from a state with nothing in progress gives defined types, or fails and loses names. -/
theorem Settled.call (text : TextRefs document) {n : Nat} {c : Call} {r : Resolver}
    (settled : Settled document lost r) (owned : c.Owned r) (given : c.given = []) :
    EndsIn (Settled document lost) (fun _ => Settled document (Moment.Loses document ⟨n, c, r⟩ lost))
      (fun a r' => ∀ t ∈ c.types a, Defined lost t r') r (outcome (c.compute document n) r) := by
  have run := Run.run_compute document n c r
  generalize outcome (c.compute document n) r = o at run ⊢
  obtain ⟨o, r'⟩ := o
  have idle : r'.inProgress = [] := (run_inProgress run).trans settled.idle
  have ends := settled.ends text run owned given
  cases o with
  | error failure => exact ⟨ends, idle⟩
  | ok a => exact ⟨⟨ends.1, idle⟩, run_grows run, fun t ht => (ends.2 t ht).defined idle⟩

theorem ensures_call (text : TextRefs document) (n : Nat) (c : Call)
    (owned : ∀ r, c.Owned r) (given : c.given = []) :
    Ensures (Settled document lost) (fun _ _ => True) (fun _ => True) (c.compute document n)
      fun a r => ∀ t ∈ c.types a, Defined lost t r :=
  fun r settled _ => (settled.call text (owned r) given).mono (fun _ _ _ => trivial) fun _ _ h => h

theorem steady_settled (text : TextRefs document) :
    Steady document (Settled document lost) (Defined lost) fun _ _ => True where
  lasting := defined_lasting lost
  fails _ _ := trivial
  schema {schema context place} _ :=
    (ensures_call text (nestingBound document) (.schema schema context place)
      (fun _ => trivial) rfl).mono (fun _ h => h) fun t _ h => h t List.mem_cons_self
  claim wanted place settled := ⟨settled.closed.claim wanted place, settled.idle⟩
  form {r name first rest properties} _ settled owned types := by
    refine ⟨⟨settled.closed.offer _ owned fun t ht => ?_, settled.idle⟩, fun n mem => ?_⟩
    · obtain ⟨p, hp, rfl⟩ := List.mem_map.mp ht
      exact (types p hp).promised
    · rw [TypeExpr.references_reference, List.mem_singleton] at mem
      rw [mem]
      exact .inl (TypeTable.exists_get?_define r.table ⟨name, none, .object properties⟩)

theorem ensures_allNamed_settled (text : TextRefs document) :
    Ensures (Settled document lost) (fun _ _ => True) (fun _ => True) (allNamed document)
      fun _ _ => True :=
  ensures_allNamed fun {name _} _ =>
    (ensures_call text (nestingBound document)
      (.reference (child (schemasPrefix document) name) (schemasPrefix document))
      (fun _ => trivial) rfl).mono (fun _ h => h) fun _ _ _ => trivial

/-- The types that a document mentions: those of properties and those of operations. -/
def Document.mentioned (d : Document) : List TypeExpr :=
  d.types.values.flatMap (·.propertyTypes) ++ d.operations.flatMap (·.signatureTypes)

/-- Every name that a loaded document mentions is the name of one of its definitions. -/
theorem load_closed {path : String} {d : Document} (text : TextRefs document)
    (loaded : load document path = .ok d) {t : TypeExpr} (mentioned : t ∈ d.mentioned)
    {name : String} (used : name ∈ t.references) :
    ∃ definition, d.types.get? name = some definition ∧ definition.name = name := by
  obtain ⟨r, run, types⟩ := outcome_of_load loaded
  have ends := Ensures.bind (ensures_allNamed_settled text)
    (fun _ => (steady_settled text).operations_spec) .start (.start document noneLost) trivial
  rw [everything] at run
  rw [run] at ends
  obtain ⟨settled, -, signatures⟩ := ends
  have defined : Defined noneLost t r := by
    rcases List.mem_append.mp mentioned with inside | inside
    · obtain ⟨definition, mem, ht⟩ := List.mem_flatMap.mp inside
      rw [types] at mem
      exact (settled.closed.table definition mem t ht).defined settled.idle
    · obtain ⟨op, mem, ht⟩ := List.mem_flatMap.mp inside
      exact signatures op mem t ht
  obtain ⟨definition, found⟩ := defined.exists_get? used
  rw [types]
  exact ⟨definition, found, settled.closed.recorded.name_eq found⟩

/-- An alias and the object it stands for, which refers to itself through the alias. -/
def aliasedCycle : Json :=
  .object [("components", .object [("schemas", .object [
    ("Link", .object [("$ref", .string "#/components/schemas/Node")]),
    ("Node", .object [("type", .string "object"), ("properties", .object [
      ("next", .object [("$ref", .string "#/components/schemas/Link")])])])])])]

theorem load_closed_aliasedCycle :
    TextRefs aliasedCycle ∧ ∃ d, load aliasedCycle "links.json" = .ok d ∧
      .reference "Node" ∈ d.mentioned ∧ "Node" ∈ (TypeExpr.reference "Node").references ∧
      ∃ definition, d.types.get? "Node" = some definition ∧ definition.name = "Node" := by
  have text : TextRefs aliasedCycle := by decide
  have found : (match load aliasedCycle "links.json" with
      | .ok d => decide (.reference "Node" ∈ d.mentioned)
      | .error _ => false) = true := by
    decide +kernel
  cases loaded : load aliasedCycle "links.json" with
  | error failure =>
    rw [loaded] at found
    cases found
  | ok d =>
    rw [loaded] at found
    have mentioned := of_decide_eq_true found
    exact ⟨text, d, rfl, mentioned, by simp, load_closed text loaded mentioned (by simp)⟩

end Api
end Scaffold
