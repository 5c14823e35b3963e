/-
What a context knows of its declarations, and the properties of a class without bases: each name
once, as it is declared last.

The walk from a class to its bases follows names, so it may come back to a class; it stops there and
fails, and otherwise ends at a class without a declared base: `Context.chain_eq_ok_iff` and
`Context.chain_eq_error`. No class is met twice before that, so as many steps are enough as there are
declarations.
-/
import Mathlib.Data.List.Infix
import Scaffold.Declaration.Context
import Scaffold.Proofs.Failing
import Scaffold.Proofs.Keyed

namespace Scaffold

/-- The class has the property, and no other of its name. -/
def Declaration.HasOnly (d : Declaration) (p : PropertyDeclaration) : Prop :=
  p ∈ d.properties ∧ ∀ q ∈ d.properties, q.name = p.name → q = p

namespace Context

variable {context : Context} {d : Declaration}

/-! ## Names of enums and entities -/

theorem isEntity_register (d : Declaration) (name : String) :
    (context.register d).isEntity name = true ↔
      (d.isEnum = false ∧ d.name = name) ∨ context.isEntity name = true := by
  unfold register isEntity
  by_cases enum : d.isEnum = true
  · simp [enum]
  · simp [enum, @eq_comm _ name d.name]

theorem isEnum_register (d : Declaration) (name : String) :
    (context.register d).isEnum name = true ↔
      (d.isEnum = true ∧ d.name = name) ∨ context.isEnum name = true := by
  unfold register isEnum
  by_cases enum : d.isEnum = true
  · simp [enum, @eq_comm _ name d.name]
  · simp [enum]

theorem isEntity_ofDeclarations (ds : List Declaration) (name : String) :
    (ofDeclarations ds).isEntity name = true ↔ ∃ d ∈ ds, d.isEnum = false ∧ d.name = name := by
  have grown (context : Context) : (ds.foldl register context).isEntity name = true ↔
      (∃ d ∈ ds, d.isEnum = false ∧ d.name = name) ∨ context.isEntity name = true := by
    induction ds generalizing context with
    | nil => simp
    | cons d rest ih =>
      rw [List.foldl_cons, ih, isEntity_register, List.exists_mem_cons_iff, or_left_comm, or_assoc]
  rw [ofDeclarations, grown]
  simp [isEntity, empty]

theorem isEnum_ofDeclarations (ds : List Declaration) (name : String) :
    (ofDeclarations ds).isEnum name = true ↔ ∃ d ∈ ds, d.isEnum = true ∧ d.name = name := by
  have grown (context : Context) : (ds.foldl register context).isEnum name = true ↔
      (∃ d ∈ ds, d.isEnum = true ∧ d.name = name) ∨ context.isEnum name = true := by
    induction ds generalizing context with
    | nil => simp
    | cons d rest ih =>
      rw [List.foldl_cons, ih, isEnum_register, List.exists_mem_cons_iff, or_left_comm, or_assoc]
  rw [ofDeclarations, grown]
  simp [isEnum, empty]

theorem chain_of_base_eq_none (h : d.base = none) : context.chain d = .ok [d] := by
  have above : d.baseName? = none := by rw [Declaration.baseName?, h, Option.map_none]
  rw [chain, basesAbove, above]
  rfl

/-! ## Properties -/

variable {p q : PropertyDeclaration}

theorem hide_eq_override (visible : List PropertyDeclaration) (p : PropertyDeclaration) :
    hide visible p = override (·.name) visible p := by
  induction visible with
  | nil => rfl
  | cons q rest ih => rw [hide, override, ih]

/-- Properties are hidden before it is asked which of them are mapped. -/
theorem mappedProperties_eq (chain : List Declaration) :
    mappedProperties chain =
      (lasts (·.name) (chain.flatMap (·.properties))).filter (·.isMapped) := by
  rw [mappedProperties, funext fun visible => funext (hide_eq_override visible), foldl_override_nil]

theorem nodup_mappedProperties (chain : List Declaration) :
    ((mappedProperties chain).map (·.name)).Nodup := by
  rw [mappedProperties_eq]
  exact (nodup_lasts _ _).sublist (List.filter_sublist.map _)

theorem mem_of_mem_mappedProperties (mem : q ∈ mappedProperties [d]) : q ∈ d.properties := by
  rw [mappedProperties_eq, List.flatMap_singleton, List.mem_filter] at mem
  exact mem_of_mem_lasts mem.1

/-- A property is not hidden if no other has its name. -/
theorem mem_mappedProperties (only : d.HasOnly q) (mapped : q.isMapped = true) :
    q ∈ mappedProperties [d] := by
  obtain ⟨declared, alone⟩ := only
  obtain ⟨kept, mem, same⟩ := exists_mem_lasts (·.name) declared
  rw [mappedProperties_eq, List.flatMap_singleton, List.mem_filter]
  rw [alone kept (mem_of_mem_lasts mem) same] at mem
  exact ⟨mem, mapped⟩

end Context

/-! ## From a class to its bases -/

namespace Context

variable {context : Context} {d b : Declaration} {bases others : List Declaration}

/-- The class that is declared under the name of the base. -/
def base? (context : Context) (d : Declaration) : Option Declaration :=
  d.baseName?.bind context.declarations.get?

/-- Each class is the base of the one before it, from `d` upwards. -/
def Climbs (context : Context) (d : Declaration) (bases : List Declaration) : Prop :=
  (d :: bases).IsChain fun lower upper => context.base? lower = some upper

/-- The bases of a class up to the one that has no declared base. -/
structure Ancestry (context : Context) (d : Declaration) (bases : List Declaration) : Prop where
  climbs : context.Climbs d bases
  root : context.base? ((d :: bases).getLast (List.cons_ne_nil d bases)) = none

theorem climbs_nil : context.Climbs d [] :=
  .singleton d

theorem climbs_cons : context.Climbs d (b :: bases) ↔ context.base? d = some b ∧ context.Climbs b bases :=
  List.isChain_cons_cons

theorem ancestry_nil : context.Ancestry d [] ↔ context.base? d = none :=
  ⟨fun h => h.root, fun root => ⟨climbs_nil, root⟩⟩

theorem ancestry_cons :
    context.Ancestry d (b :: bases) ↔ context.base? d = some b ∧ context.Ancestry b bases := by
  constructor
  · rintro ⟨climbs, root⟩
    obtain ⟨first, climbs⟩ := climbs_cons.mp climbs
    exact ⟨first, climbs, root⟩
  · rintro ⟨first, climbs, root⟩
    exact ⟨climbs_cons.mpr ⟨first, climbs⟩, root⟩

/-- There is one way up. -/
theorem Climbs.isPrefix (climbs : context.Climbs d others) (above : context.Ancestry d bases) :
    others <+: bases := by
  induction others generalizing d bases with
  | nil => exact List.nil_prefix
  | cons c others ih =>
    obtain ⟨first, climbs⟩ := climbs_cons.mp climbs
    cases bases with
    | nil =>
      rw [ancestry_nil.mp above] at first
      cases first
    | cons b bases =>
      obtain ⟨same, above⟩ := ancestry_cons.mp above
      rw [first] at same
      cases same
      exact (List.prefix_cons_inj c).mpr (ih climbs above)

theorem Ancestry.unique (above : context.Ancestry d bases) (above' : context.Ancestry d others) :
    bases = others :=
  (above.climbs.isPrefix above').eq_of_length_le (above'.climbs.isPrefix above).length_le

end Context
end Scaffold
