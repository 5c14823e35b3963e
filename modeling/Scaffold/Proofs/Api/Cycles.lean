/-
Cycles of references. Making the type of a reference leads to other references; a reference that is
met while it is in progress leads back to itself. Such a cycle closes if aliases lead from the
reference to an object (`Closes`), and then the name of that object ends it: `cycleEnd_of_closes`.
-/
import Scaffold.Proofs.Api.Walk

namespace Scaffold
namespace Api

open Resolver Resolve Json.Pointer

variable {document : Json}

/-! ## Where references lead -/

/-- The schemas that are met while the type of a reference is made, other references aside. -/
inductive Enters (document : Json) (reference : String) : Json → Prop where
  | target {schema : Json} (here : lookup? document reference = some schema)
      (kind : Schema.kind schema = .other) : Enters document reference schema
  | property {schema property : Json} (here : lookup? document reference = some schema)
      (kind : Schema.kind schema = .object) (owns : Owns document schema property) :
      Enters document reference property
  | further {schema next : Json} (enters : Enters document reference schema)
      (step : Below document schema next) : Enters document reference next

/-- The type of a reference asks for that of another one. -/
def Leads (document : Json) (reference next : String) : Prop :=
  ∃ schema wrap, Enters document reference schema ∧ Schema.form schema = .reference next wrap

/-- The zone of references that lead only to one another, and of what is met for them. -/
def Zone.ofLeads (asked : String → Prop)
    (closed : ∀ reference next, asked reference → Leads document reference next → asked next)
    (guarded : ∀ reference schema, asked reference → Enters document reference schema →
      Merges schema → ¬Relation.TransGen (Below document) schema schema) : Zone document where
  asked := asked
  met schema := ∃ reference, asked reference ∧ Enters document reference schema
  asked_of_met := fun ⟨reference, asked, enters⟩ form =>
    closed reference _ asked ⟨_, _, enters, form⟩
  met_of_asked asked here kind := ⟨_, asked, .target here kind⟩
  met_of_owns asked here kind owns := ⟨_, asked, .property here kind owns⟩
  met_of_below := fun ⟨reference, asked, enters⟩ step => ⟨reference, asked, .further enters step⟩
  guarded := fun _ _ ⟨reference, asked, enters⟩ merges => guarded reference _ asked enters merges

/-- The references that resolving the named schemas asks for. -/
def AskedByNames (document : Json) (reference : String) : Prop :=
  ∃ name schema, (name, schema) ∈ namedSchemas document ∧
    Relation.ReflTransGen (Leads document) (child (schemasPrefix document) name) reference

theorem AskedByNames.tail {reference next : String} (h : AskedByNames document reference)
    (leads : Relation.ReflTransGen (Leads document) reference next) :
    AskedByNames document next := by
  obtain ⟨name, schema, mem, chain⟩ := h
  exact ⟨name, schema, mem, chain.trans leads⟩

/-- A schema that is met while references are in progress, all of which lead to the one that it is
met for. -/
def Walks (document : Json) (r : Resolver) (schema : Json) : Prop :=
  ∃ reference, AskedByNames document reference ∧ Enters document reference schema ∧
    ∀ q ∈ r.inProgress, Relation.ReflTransGen (Leads document) q reference

theorem Walks.step {r : Resolver} {schema next : Json} (h : Walks document r schema)
    (step : Below document schema next) : Walks document r next := by
  obtain ⟨reference, asked, enters, leads⟩ := h
  exact ⟨reference, asked, .further enters step, leads⟩

theorem Walks.of_inProgress_eq {r r' : Resolver} {schema : Json} (h : Walks document r schema)
    (progress : r'.inProgress = r.inProgress) : Walks document r' schema := by
  unfold Walks
  rw [progress]
  exact h

/-- What a call is about is met for a reference that those in progress lead to. -/
def Call.Under (document : Json) (r : Resolver) : Call → Prop
  | .reference asked _ => AskedByNames document asked ∧
    ∀ q ∈ r.inProgress, Relation.TransGen (Leads document) q asked
  | .schema value _ _ => Walks document r value
  | .enum .. => True
  | .object _ value _ => ∀ property, Owns document value property → Walks document r property
  | .gather _ value _ _ => ∀ property, Owns document value property → Walks document r property
  | .parts _ list _ _ => ∀ part ∈ list, ∀ property, Owns document part.1 property →
    Walks document r property
  | .members _ _ list _ _ => ∀ member ∈ list, Walks document r member.2

namespace Call.Under

variable {r r' : Resolver}

theorem of_inProgress_eq {c : Call} (h : c.Under document r)
    (progress : r'.inProgress = r.inProgress) : c.Under document r' := by
  cases c with
  | enum => trivial
  | reference =>
    refine ⟨h.1, ?_⟩
    rw [progress]
    exact h.2
  | schema => exact Walks.of_inProgress_eq h progress
  | object | gather => exact fun property owns => (h property owns).of_inProgress_eq progress
  | parts =>
    exact fun part mem property owns => (h part mem property owns).of_inProgress_eq progress
  | members => exact fun member mem => (h member mem).of_inProgress_eq progress

/-- All references in progress lead to the one that is entered, itself too. -/
theorem leads_entered {reference place : String} (h : (Call.reference reference place).Under document r)
    (progress : r'.inProgress = reference :: r.inProgress) :
    ∀ q ∈ r'.inProgress, Relation.ReflTransGen (Leads document) q reference := by
  intro q hq
  rw [progress] at hq
  rcases List.mem_cons.mp hq with rfl | old
  · exact .refl
  · exact (h.2 q old).to_reflTransGen

theorem target {reference place context : String} {schema : Json}
    (h : (Call.reference reference place).Under document r)
    (here : lookup? document reference = some schema) (kind : Schema.kind schema = .other)
    (progress : r'.inProgress = reference :: r.inProgress) :
    (Call.schema schema context reference).Under document r' :=
  ⟨reference, h.1, .target here kind, h.leads_entered progress⟩

theorem object {reference place name : String} {schema : Json}
    (h : (Call.reference reference place).Under document r)
    (here : lookup? document reference = some schema) (kind : Schema.kind schema = .object)
    (progress : r'.inProgress = reference :: r.inProgress) :
    (Call.object name schema reference).Under document r' :=
  fun _ owns => ⟨reference, h.1, .property here kind owns, h.leads_entered progress⟩

theorem asked {schema : Json} {context place reference : String} {wrap : Schema.Wrap}
    (h : (Call.schema schema context place).Under document r)
    (form : Schema.form schema = .reference reference wrap) :
    (Call.reference reference place).Under document r := by
  obtain ⟨origin, asked, enters, leads⟩ := h
  have step : Leads document origin reference := ⟨schema, wrap, enters, form⟩
  exact ⟨asked.tail (.single step), fun q hq => .tail' (leads q hq) step⟩

theorem inner {schema inner : Json} {context place context' place' suffix segment : String}
    {wrap : Schema.Wrap} (h : (Call.schema schema context place).Under document r)
    (form : Schema.form schema = .inner inner suffix segment wrap) :
    (Call.schema inner context' place').Under document r :=
  Walks.step h (.inner form)

theorem inline {schema : Json} {context place name place' : String} {nullable : Bool}
    (h : (Call.schema schema context place).Under document r)
    (form : Schema.form schema = .object nullable) :
    (Call.object name schema place').Under document r :=
  fun _ owns => Walks.step h (.property form owns)

theorem followed {owner owner' place place' reference : String} {schema target : Json}
    {g g' : Gathered} (h : (Call.gather owner schema place g).Under document r)
    (ref : Schema.ref? schema = some reference) (here : lookup? document reference = some target) :
    (Call.gather owner' target place' g').Under document r :=
  fun property owns => h property (owns.of_gathers (.reference ref here (.here target)))

theorem parts {owner owner' place place' : String} {schema : Json} {g g' : Gathered}
    (h : (Call.gather owner schema place g).Under document r)
    (ref : Schema.ref? schema = none) :
    (Call.parts owner' (schema.itemsAt "allOf").zipIdx place' g').Under document r :=
  fun part mem property owns => h property
    (owns.of_gathers (.part ref (List.fst_mem_of_mem_zipIdx mem) (.here part.1)))

theorem members {owner owner' place place' : String} {required : List String} {schema : Json}
    {g g' : Gathered} (h : (Call.gather owner schema place g).Under document r)
    (ref : Schema.ref? schema = none) :
    (Call.members owner' required (schema.membersAt "properties") place' g').Under document r :=
  fun member mem => h member.2 ⟨schema, member.1, .here schema, ref, mem⟩

theorem otherParts {owner place : String} {part : Json × Nat} {rest : List (Json × Nat)}
    {g g' : Gathered} (h : (Call.parts owner (part :: rest) place g).Under document r) :
    (Call.parts owner rest place g').Under document r :=
  fun part mem => h part (List.mem_cons_of_mem _ mem)

theorem otherMembers {owner place : String} {required : List String} {member : String × Json}
    {rest : List (String × Json)} {g g' : Gathered}
    (h : (Call.members owner required (member :: rest) place g).Under document r) :
    (Call.members owner required rest place g').Under document r :=
  fun member mem => h member (List.mem_cons_of_mem _ mem)

end Call.Under

/-! ## Cycles that close -/

/-- Aliases lead from a reference to an object; if marks matter, none of them is marked. -/
inductive Closes (document : Json) (marks : Bool) : String → String → Prop where
  | object {reference : String} (object : LeadsToObject document reference) :
      Closes document marks reference reference
  | next {reference next last : String} {target : Json}
      (here : lookup? document reference = some target) (ref : Schema.ref? target = some next)
      (plain : marks = true → Schema.isNullable target = false)
      (rest : Closes document marks next last) : Closes document marks reference last

/-- A reference that the named schemas ask for, and that leads back to itself. -/
def OnCycle (document : Json) (reference : String) : Prop :=
  AskedByNames document reference ∧ Relation.TransGen (Leads document) reference reference

/-- What is met again while it is in progress is on a cycle. -/
theorem Call.Under.onCycle {reference place : String} {r : Resolver}
    (under : (Call.reference reference place).Under document r) (met : reference ∈ r.inProgress) :
    OnCycle document reference :=
  ⟨under.1, under.2 reference met⟩

/-- Every reference on a cycle closes. -/
def CyclesClose (document : Json) : Prop :=
  ∀ reference, OnCycle document reference → ∃ last, Closes document false reference last

/-- No alias on a cycle is marked. -/
def CyclesUnmarked (document : Json) : Prop :=
  ∀ reference target next, OnCycle document reference → lookup? document reference = some target →
    Schema.ref? target = some next → Schema.isNullable target = false

/-- What is no alias on a cycle has no reference at all, not even one that is no text. -/
def CyclesProper (document : Json) : Prop :=
  ∀ reference target, OnCycle document reference → lookup? document reference = some target →
    Schema.ref? target = none → Schema.has target "$ref" = false

/-- An alias leads to what it stands for. -/
theorem Alias.leads {reference next : String} (step : Alias document reference next) :
    Leads document reference next := by
  obtain ⟨target, here, ref⟩ := step
  have kind : Schema.kind target = .other := by
    by_contra other
    rw [Schema.ref?_eq_none_of_kind other] at ref
    cases ref
  exact ⟨target, _, .target here kind, Schema.form_of_ref? ref⟩

/-- An alias leads nowhere else. -/
theorem Alias.unique_leads {reference next next' : String} (step : Alias document reference next)
    (leads : Leads document reference next') : next' = next := by
  obtain ⟨target, here, ref⟩ := step
  have form := Schema.form_of_ref? ref
  have entered {schema : Json} (enters : Enters document reference schema) : schema = target := by
    induction enters with
    | target here' => exact Option.some.inj (here'.symm.trans here)
    | property here' kind =>
      rw [Option.some.inj (here'.symm.trans here)] at kind
      rw [Schema.ref?_eq_none_of_kind (by simp [kind])] at ref
      cases ref
    | further _ step ih =>
      subst ih
      cases step with
      | inner form' | property form' =>
        rw [form] at form'
        cases form'
  obtain ⟨schema, wrap, enters, form'⟩ := leads
  rw [entered enters, form] at form'
  injection form' with same
  exact same.symm

/-- What an alias on a cycle stands for is on the cycle too. -/
theorem OnCycle.alias {reference next : String} (cyclic : OnCycle document reference)
    (step : Alias document reference next) : OnCycle document next := by
  obtain ⟨asked, cycle⟩ := cyclic
  obtain ⟨next', leads, back⟩ := Relation.TransGen.head'_iff.mp cycle
  rw [step.unique_leads leads] at back
  exact ⟨asked.tail (.single step.leads), .tail' back step.leads⟩

theorem OnCycle.chain {reference last : String} (cyclic : OnCycle document reference)
    (chain : Relation.ReflTransGen (Alias document) reference last) : OnCycle document last := by
  induction chain with
  | refl => exact cyclic
  | tail _ step ih => exact ih.alias step

/-- On a cycle a chain of aliases closes with its marks, if there are none on cycles. -/
theorem OnCycle.closes {marks : Bool} {reference last : String} (cyclic : OnCycle document reference)
    (unmarked : marks = true → CyclesUnmarked document)
    (chain : Relation.ReflTransGen (Alias document) reference last)
    (object : LeadsToObject document last) : Closes document marks reference last := by
  induction chain using Relation.ReflTransGen.head_induction_on with
  | refl => exact .object object
  | head step _ ih =>
    obtain ⟨target, here, ref⟩ := step
    exact .next here ref (fun marked => unmarked marked _ _ _ cyclic here ref)
      (ih (cyclic.alias ⟨target, here, ref⟩))

/-- An object without any reference is what a reference to it defines. -/
theorem LeadsToObject.kind_of_plain {reference : String} {target : Json}
    (object : LeadsToObject document reference) (here : lookup? document reference = some target)
    (plain : Schema.ref? target = none → Schema.has target "$ref" = false) :
    Schema.kind target = .object := by
  obtain ⟨target', here', ref, object⟩ := object
  rw [here] at here'
  rw [← Option.some.inj here'] at ref object
  simp only [Bool.and_eq_true, Bool.not_eq_true'] at object
  simp [Schema.kind, plain ref, object]

/-- Aliases lead one way only, so those that lead to an object lead nowhere twice. -/
theorem Closes.not_cyclic {marks : Bool} {reference last : String}
    (h : Closes document marks reference last) :
    ¬Relation.TransGen (Alias document) reference reference := by
  induction h with
  | object object =>
    intro cycle
    obtain ⟨target, here, none, _⟩ := object
    obtain ⟨_, ⟨target', here', ref⟩, _⟩ := Relation.TransGen.head'_iff.mp cycle
    rw [here] at here'
    rw [← Option.some.inj here', none] at ref
    cases ref
  | next here ref _ _ ih =>
    intro cycle
    obtain ⟨next', ⟨target', here', ref'⟩, back⟩ := Relation.TransGen.head'_iff.mp cycle
    rw [here] at here'
    rw [← Option.some.inj here', ref] at ref'
    rw [← Option.some.inj ref'] at back
    exact ih (.tail' back ⟨_, here, ref⟩)

/-- The search for the end of a cycle finds the object that the cycle closes on: it meets no
reference twice, and the references run out before the fuel does. -/
theorem cycleEnd_of_closes {marks : Bool} {reference place current last : String} {fuel : Nat}
    {seen : List String} (closes : Closes document marks current last)
    (before : ∀ q ∈ seen, Relation.TransGen (Alias document) q current)
    (nodup : seen.Nodup) (texts : current :: seen ⊆ reference :: textsOf document)
    (enough : fuel + seen.length = document.size + 2) :
    cycleEnd document reference place fuel seen current = .ok last := by
  have new : current ∉ seen := fun old => closes.not_cyclic (before current old)
  have nodup' : (current :: seen).Nodup := List.nodup_cons.mpr ⟨new, nodup⟩
  have short := length_le_of_texts nodup' texts
  rw [List.length_cons] at short
  induction closes generalizing fuel seen with
  | @object current object =>
    obtain ⟨fuel, rfl⟩ : ∃ n, fuel = n + 1 := ⟨fuel - 1, by omega⟩
    obtain ⟨target, here, none, object⟩ := object
    rw [cycleEnd, if_neg (by simpa using new)]
    simp only [follow, here, bind, Except.bind, none, object, if_true]
  | @next current next last target here ref _ rest ih =>
    obtain ⟨fuel, rfl⟩ : ∃ n, fuel = n + 1 := ⟨fuel - 1, by omega⟩
    rw [cycleEnd, if_neg (by simpa using new)]
    simp only [follow, here, bind, Except.bind, ref]
    have step : Alias document current next := ⟨target, here, ref⟩
    have before' : ∀ q ∈ current :: seen, Relation.TransGen (Alias document) q next := by
      intro q hq
      rcases List.mem_cons.mp hq with rfl | old
      · exact .single step
      · exact (before q old).tail step
    have new' : next ∉ current :: seen := fun old => rest.not_cyclic (before' next old)
    have known := ref?_mem_textsOf (mem_values_of_lookup? here) ref
    have texts' : next :: current :: seen ⊆ reference :: textsOf document :=
      List.cons_subset.mpr ⟨List.mem_cons_of_mem _ known, texts⟩
    have nodup'' : (next :: current :: seen).Nodup := List.nodup_cons.mpr ⟨new', nodup'⟩
    have short' := length_le_of_texts nodup'' texts'
    refine ih before' nodup' texts' ?_ new' nodup'' short'
    rw [List.length_cons]
    omega

end Api
end Scaffold
