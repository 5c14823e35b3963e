/-
Where the resolver walks. A schema leads below itself to inner schemas and, if it is an inline
object, to the properties gathered for it, also those of parts it refers to. References whose types
are asked for are not gone through here. The one shape that would be walked for ever is an inline
merge of parts that leads below itself: `Guarded` excludes it.
-/
import Mathlib.Logic.Relation
import Scaffold.Proofs.Api.Forms
import Scaffold.Proofs.Api.Operations

namespace Scaffold

/-! ## Counting

Something that is used for the first time leaves fewer unused ones. -/

theorem countP_lt_of_mem {α : Type} {items : List α} {p q : α → Bool} {a : α}
    (sub : ∀ x ∈ items, p x = true → q x = true) (mem : a ∈ items) (hq : q a = true)
    (hp : p a = false) : items.countP p < items.countP q := by
  induction items with
  | nil => exact absurd mem List.not_mem_nil
  | cons x rest ih =>
    have sub_rest : ∀ y ∈ rest, p y = true → q y = true :=
      fun y hy => sub y (List.mem_cons_of_mem x hy)
    have le : rest.countP p ≤ rest.countP q := List.countP_mono_left sub_rest
    rcases List.mem_cons.mp mem with rfl | later
    · rw [List.countP_cons_of_neg (by simp [hp]), List.countP_cons_of_pos hq]
      omega
    · have lt := ih sub_rest later
      by_cases hx : p x = true
      · rw [List.countP_cons_of_pos hx, List.countP_cons_of_pos (sub x List.mem_cons_self hx)]
        omega
      · rw [List.countP_cons_of_neg hx, List.countP_cons]
        omega

/-- How many of the names are not used. -/
def unused (names used : List String) : Nat :=
  names.countP fun name => decide (name ∉ used)

theorem unused_le (names used : List String) : unused names used ≤ names.length :=
  List.countP_le_length

theorem unused_mono {names used used' : List String} (h : used ⊆ used') :
    unused names used' ≤ unused names used := by
  refine List.countP_mono_left fun name _ new => ?_
  exact decide_eq_true fun mem => of_decide_eq_true new (h mem)

theorem unused_cons_lt {names used : List String} {name : String} (mem : name ∈ names)
    (new : name ∉ used) : unused names (name :: used) < unused names used := by
  refine countP_lt_of_mem (fun other _ h => ?_) mem (decide_eq_true new) (by simp)
  exact decide_eq_true fun old => of_decide_eq_true h (List.mem_cons_of_mem name old)

namespace Api

/-! ## Steps below a schema -/

open Resolve Json.Pointer

/-- A schema whose properties are gathered together with those of another. -/
inductive Gathers (document : Json) : Json → Json → Prop where
  | here (schema : Json) : Gathers document schema schema
  | reference {schema target last : Json} {reference : String}
      (ref : Schema.ref? schema = some reference) (here : lookup? document reference = some target)
      (rest : Gathers document target last) : Gathers document schema last
  | part {schema part last : Json} (ref : Schema.ref? schema = none)
      (mem : part ∈ schema.itemsAt "allOf") (rest : Gathers document part last) :
      Gathers document schema last

/-- The schema of a property that is gathered for an object. -/
def Owns (document schema property : Json) : Prop :=
  ∃ last name, Gathers document schema last ∧ Schema.ref? last = none ∧
    (name, property) ∈ last.membersAt "properties"

/-- One step below a schema. -/
inductive Below (document : Json) : Json → Json → Prop where
  | inner {schema inner : Json} {suffix segment : String} {wrap : Schema.Wrap}
      (form : Schema.form schema = .inner inner suffix segment wrap) :
      Below document schema inner
  | property {schema property : Json} {nullable : Bool}
      (form : Schema.form schema = .object nullable) (owns : Owns document schema property) :
      Below document schema property

/-- An object that is merged of two parts or more. -/
def Merges (schema : Json) : Prop :=
  (∃ nullable, Schema.form schema = .object nullable) ∧ 2 ≤ (schema.itemsAt "allOf").length

mutual

/-- The references whose types a run can ask for. -/
inductive Asked (document : Json) : String → Prop where
  | named {name : String} {schema : Json} (mem : (name, schema) ∈ namedSchemas document) :
      Asked document (child (schemasPrefix document) name)
  | schema {schema : Json} {reference : String} {wrap : Schema.Wrap} (met : Met document schema)
      (form : Schema.form schema = .reference reference wrap) : Asked document reference

/-- The schemas that a run can meet other than as the object or the enum that a reference stands
for. -/
inductive Met (document : Json) : Json → Prop where
  | operation {place : String} {schema : Json} (asked : OperationSchema document place schema) :
      Met document schema
  | target {reference : String} {schema : Json} (asked : Asked document reference)
      (here : lookup? document reference = some schema) (kind : Schema.kind schema = .other) :
      Met document schema
  | property {reference : String} {schema property : Json} (asked : Asked document reference)
      (here : lookup? document reference = some schema) (kind : Schema.kind schema = .object)
      (owns : Owns document schema property) : Met document property
  | further {schema next : Json} (met : Met document schema) (step : Below document schema next) :
      Met document next

end

/-- No merge that is met leads back to itself. -/
def Guarded (document : Json) : Prop :=
  ∀ schema ∈ document.values, Met document schema → Merges schema →
    ¬Relation.TransGen (Below document) schema schema

/-- What a walk asks for and meets, with everything it goes on to from there. No merge in it leads
back to itself. -/
structure Zone (document : Json) where
  asked : String → Prop
  met : Json → Prop
  asked_of_met : ∀ {schema reference wrap}, met schema →
    Schema.form schema = .reference reference wrap → asked reference
  met_of_asked : ∀ {reference schema}, asked reference →
    lookup? document reference = some schema → Schema.kind schema = .other → met schema
  met_of_owns : ∀ {reference schema property}, asked reference →
    lookup? document reference = some schema → Schema.kind schema = .object →
    Owns document schema property → met property
  met_of_below : ∀ {schema next}, met schema → Below document schema next → met next
  guarded : ∀ schema ∈ document.values, met schema → Merges schema →
    ¬Relation.TransGen (Below document) schema schema

variable {document : Json}

/-- The zone of everything that resolving a document can ask for and meet. -/
def Guarded.zone (guarded : Guarded document) : Zone document where
  asked := Asked document
  met := Met document
  asked_of_met := .schema
  met_of_asked := .target
  met_of_owns := .property
  met_of_below := .further
  guarded := guarded

/-! ## Gathering -/

theorem Gathers.trans {schema middle last : Json} (h : Gathers document schema middle)
    (h' : Gathers document middle last) : Gathers document schema last := by
  induction h with
  | here => exact h'
  | reference ref here _ ih => exact .reference ref here (ih h')
  | part ref mem _ ih => exact .part ref mem (ih h')

theorem Gathers.mem_values {schema last : Json} (h : Gathers document schema last)
    (inside : schema ∈ document.values) : last ∈ document.values := by
  induction h with
  | here => exact inside
  | reference _ here _ ih => exact ih (mem_values_of_lookup? here)
  | part _ mem _ ih =>
    exact ih (Json.values_subset document inside
      (Json.values_subset_of_mem_itemsAt mem (Json.mem_values_self _)))

theorem Owns.of_gathers {schema middle property : Json} (h : Gathers document schema middle)
    (owns : Owns document middle property) : Owns document schema property := by
  obtain ⟨last, name, gathers, ref, mem⟩ := owns
  exact ⟨last, name, h.trans gathers, ref, mem⟩

theorem Owns.mem_values {schema property : Json} (h : Owns document schema property)
    (inside : schema ∈ document.values) : property ∈ document.values := by
  obtain ⟨last, name, gathers, _, mem⟩ := h
  exact Json.values_subset document (gathers.mem_values inside)
    (Json.values_subset_of_mem_membersAt mem (Json.mem_values_self _))

/-- What a reference owns is what its target owns. -/
theorem owns_of_reference {schema target property : Json} {reference : String}
    (ref : Schema.ref? schema = some reference) (here : lookup? document reference = some target)
    (h : Owns document schema property) : Owns document target property := by
  obtain ⟨last, name, gathers, none, mem⟩ := h
  cases gathers with
  | here =>
    rw [ref] at none
    cases none
  | reference ref' here' rest =>
    rw [ref] at ref'
    rw [← Option.some.inj ref', here] at here'
    rw [Option.some.inj here']
    exact ⟨last, name, rest, none, mem⟩
  | part ref' =>
    rw [ref] at ref'
    cases ref'

/-- Other schemas own their properties and what their parts own. -/
theorem owns_cases {schema property : Json} (ref : Schema.ref? schema = none)
    (h : Owns document schema property) :
    (∃ name, (name, property) ∈ schema.membersAt "properties") ∨
      ∃ part ∈ schema.itemsAt "allOf", Owns document part property := by
  obtain ⟨last, name, gathers, none, mem⟩ := h
  cases gathers with
  | here => exact .inl ⟨name, mem⟩
  | reference ref' =>
    rw [ref] at ref'
    cases ref'
  | part _ part_mem rest => exact .inr ⟨_, part_mem, last, name, rest, none, mem⟩

theorem Below.mem_values {schema next : Json} (h : Below document schema next)
    (inside : schema ∈ document.values) : next ∈ document.values := by
  cases h with
  | inner form =>
    exact Json.values_subset document inside
      ((Schema.inner_of_form form).values_subset (Json.mem_values_self _))
  | property _ owns => exact owns.mem_values inside

/-! ## Counting merges -/

open Classical in
/-- How many merges of the document there are at or below one of the given schemas. -/
noncomputable def mergesFrom (document : Json) (roots : Json → Prop) : Nat :=
  document.values.countP fun v =>
    decide (Merges v ∧ ∃ root, roots root ∧ Relation.ReflTransGen (Below document) root v)

/-- The merges at or below a schema. -/
noncomputable def mergesBelow (document schema : Json) : Nat :=
  mergesFrom document (· = schema)

/-- The merges at or below the properties gathered for a schema. -/
noncomputable def mergesOwned (document schema : Json) : Nat :=
  mergesFrom document (Owns document schema)

variable (document) in
theorem mergesFrom_le_size (roots : Json → Prop) : mergesFrom document roots ≤ document.size := by
  rw [← Json.length_values]
  exact List.countP_le_length

theorem mergesFrom_mono {roots roots' : Json → Prop}
    (h : ∀ root, roots root → ∃ root', roots' root' ∧
      Relation.ReflTransGen (Below document) root' root) :
    mergesFrom document roots ≤ mergesFrom document roots' := by
  classical
  refine List.countP_mono_left fun v _ hv => ?_
  obtain ⟨merges, root, is_root, leads⟩ := of_decide_eq_true hv
  obtain ⟨root', is_root', leads'⟩ := h root is_root
  exact decide_eq_true ⟨merges, root', is_root', leads'.trans leads⟩

theorem mergesBelow_le {schema next : Json} (h : Below document schema next) :
    mergesBelow document next ≤ mergesBelow document schema :=
  mergesFrom_mono fun _ same => ⟨schema, rfl, same ▸ .single h⟩

theorem mergesBelow_le_owned {schema property : Json} (h : Owns document schema property) :
    mergesBelow document property ≤ mergesOwned document schema :=
  mergesFrom_mono fun _ same => ⟨property, h, same ▸ .refl⟩

theorem mergesOwned_le_of_gathers {schema middle : Json} (h : Gathers document schema middle) :
    mergesOwned document middle ≤ mergesOwned document schema :=
  mergesFrom_mono fun root owns => ⟨root, owns.of_gathers h, .refl⟩

theorem mergesOwned_le {schema : Json} {nullable : Bool}
    (form : Schema.form schema = .object nullable) :
    mergesOwned document schema ≤ mergesBelow document schema :=
  mergesFrom_mono fun _ owns => ⟨schema, rfl, .single (.property form owns)⟩

/-- A guarded merge is not among those it owns. -/
theorem mergesOwned_lt {schema : Json} (inside : schema ∈ document.values)
    (merges : Merges schema) (guarded : ¬Relation.TransGen (Below document) schema schema) :
    mergesOwned document schema < mergesBelow document schema := by
  classical
  obtain ⟨nullable, form⟩ := merges.1
  refine countP_lt_of_mem (fun v _ hv => ?_) inside ?_ ?_
  · obtain ⟨merges', root, owns, leads⟩ := of_decide_eq_true hv
    exact decide_eq_true ⟨merges', schema, rfl, .head (.property form owns) leads⟩
  · exact decide_eq_true ⟨merges, schema, rfl, .refl⟩
  · refine decide_eq_false fun ⟨_, root, owns, leads⟩ => guarded ?_
    exact .head' (.property form owns) leads

end Api
end Scaffold
