/-
The five shapes of an entity fit together (`Entity.shapes_fit`). All of it comes of one fact: a shape has
the properties that it takes over from the entity and, if it is written or filtered by, the keys of the
required navigations that are not ignored, each name once: `names_dtoProperties` and
`nodup_dtoProperties`.
-/
import Mathlib.Data.List.Nodup
import Scaffold.Dto
import Scaffold.Proofs.Entity

namespace Scaffold

/-- The name of the scalar that stands for a navigation. -/
def Navigation.keyName (n : Navigation) : String :=
  n.foreignKey.getD (n.name ++ "Id")

/-- The property as it is in shapes of which every part may be left out. -/
def Property.optional (p : Property) : Property :=
  { p with isNullable := true, isRequired := false }

namespace Entity

variable {e : Entity} {config : Config} {kind : DtoKind} {key p : Property} {props : List Property}

/-! ## Keys -/

theorem name_foreignKeyProperty (e : Entity) (keyType : String) (n : Navigation) :
    (e.foreignKeyProperty keyType n).name = n.keyName := by
  unfold foreignKeyProperty
  extract_lets key
  split
  · next p found =>
    have named : p.name = key := by
      simpa using List.find?_some (Option.filter_eq_some_iff.mp found).1
    exact named
  · rfl

/-- Merging a key adds a name only if it is new. -/
theorem names_mergeKey (key : Property) (props : List Property) :
    (mergeKey key props).map (·.name) =
      if key.name ∈ props.map (·.name) then props.map (·.name)
      else props.map (·.name) ++ [key.name] := by
  induction props with
  | nil => simp [mergeKey]
  | cons p rest ih =>
    rw [mergeKey]
    by_cases same : p.name = key.name
    · simp [same]
    · rw [if_neg same, List.map_cons, ih, List.map_cons]
      have other : key.name ≠ p.name := Ne.symm same
      by_cases old : key.name ∈ rest.map (·.name)
      · simp [old]
      · rw [if_neg old, if_neg (by simpa [other] using old), List.cons_append]

theorem nodup_foldl_mergeKey (keys : List Property) (distinct : (props.map (·.name)).Nodup) :
    ((keys.foldl (fun props key => mergeKey key props) props).map (·.name)).Nodup := by
  induction keys generalizing props with
  | nil => exact distinct
  | cons key rest ih =>
    refine ih ?_
    rw [names_mergeKey]
    split
    · exact distinct
    · next fresh => exact List.nodup_append'.mpr ⟨distinct, List.nodup_singleton _, by simpa using fresh⟩

theorem mem_names_foldl_mergeKey (keys : List Property) (name : String) :
    name ∈ (keys.foldl (fun props key => mergeKey key props) props).map (·.name) ↔
      name ∈ props.map (·.name) ∨ name ∈ keys.map (·.name) := by
  induction keys generalizing props with
  | nil => simp
  | cons key rest ih =>
    rw [List.foldl_cons, ih, names_mergeKey, List.map_cons, List.mem_cons]
    split
    · next old =>
      constructor
      · exact Or.imp_right .inr
      · rintro (own | rfl | later)
        · exact .inl own
        · exact .inl old
        · exact .inr later
    · rw [List.mem_append, List.mem_singleton, or_assoc]

/-! ## Names of a shape -/

/-- The keys of the required navigations that are not ignored. -/
def keptKeys (e : Entity) (config : Config) : List Property :=
  (e.requiredForeignKeys config.naming.keyType).filter (!config.isIgnored ·.name)

/-- The properties of a shape before any of them may be left out. -/
def filled (e : Entity) (kind : DtoKind) (config : Config) : List Property :=
  if kind.hasForeignKeys then
    (e.keptKeys config).foldl (fun props key => mergeKey key props) (e.ownProperties kind config)
  else e.ownProperties kind config

theorem dtoProperties_eq (e : Entity) (kind : DtoKind) (config : Config) :
    e.dtoProperties kind config =
      if kind.isPartial then (e.filled kind config).map Property.optional
      else e.filled kind config := rfl

theorem names_dtoProperties (e : Entity) (kind : DtoKind) (config : Config) :
    (e.dtoProperties kind config).map (·.name) = (e.filled kind config).map (·.name) := by
  rw [dtoProperties_eq]
  split
  · rw [List.map_map]
    rfl
  · rfl

theorem mem_names_keptKeys (e : Entity) (config : Config) (name : String) :
    name ∈ (e.keptKeys config).map (·.name) ↔
      ∃ n ∈ e.requiredNavigations, n.keyName = name ∧ config.isIgnored name = false := by
  simp only [keptKeys, requiredForeignKeys, List.mem_map, List.mem_filter, Bool.not_eq_true']
  constructor
  · rintro ⟨p, ⟨⟨n, mem, rfl⟩, kept⟩, named⟩
    rw [name_foreignKeyProperty] at kept named
    exact ⟨n, mem, named, named ▸ kept⟩
  · rintro ⟨n, mem, named, kept⟩
    refine ⟨_, ⟨⟨n, mem, rfl⟩, ?_⟩, ?_⟩
    · rwa [name_foreignKeyProperty, named]
    · rw [name_foreignKeyProperty, named]

/-- A shape has the names of its own properties and, if it carries foreign keys, those of the required
navigations that are not ignored. -/
theorem mem_names_dtoProperties (e : Entity) (kind : DtoKind) (config : Config) (name : String) :
    name ∈ (e.dtoProperties kind config).map (·.name) ↔
      name ∈ (e.ownProperties kind config).map (·.name) ∨
        kind.hasForeignKeys = true ∧
          ∃ n ∈ e.requiredNavigations, n.keyName = name ∧ config.isIgnored name = false := by
  rw [names_dtoProperties, filled]
  split
  · next carries => rw [mem_names_foldl_mergeKey, mem_names_keptKeys, carries, eq_self, true_and]
  · next none => rw [eq_false none, false_and, or_false]

/-! ## Properties of a shape -/

theorem ownProperties_sublist (e : Entity) (kind : DtoKind) (config : Config) :
    (e.ownProperties kind config).Sublist e.properties := by
  unfold ownProperties
  cases kind <;> exact List.filter_sublist

theorem nodup_dtoProperties (distinct : e.propertyNames.Nodup) (kind : DtoKind) (config : Config) :
    ((e.dtoProperties kind config).map (·.name)).Nodup := by
  have own : ((e.ownProperties kind config).map (·.name)).Nodup :=
    distinct.sublist ((e.ownProperties_sublist kind config).map _)
  rw [names_dtoProperties, filled]
  split
  · exact nodup_foldl_mergeKey _ own
  · exact own

theorem not_isIgnored_own (carries : kind.hasForeignKeys = true)
    (mem : p ∈ e.ownProperties kind config) : config.isIgnored p.name = false := by
  cases kind with
  | add | update | filter =>
    have kept := (List.mem_filter.mp mem).2
    simp only [Bool.and_eq_true, Bool.not_eq_true'] at kept
    grind
  | detail | item => cases carries

/-- What is filtered by can be written. -/
theorem own_filter_subset (e : Entity) (config : Config) :
    e.ownProperties .filter config ⊆ e.ownProperties .add config := by
  intro p mem
  obtain ⟨mem, kept⟩ := List.mem_filter.mp mem
  refine List.mem_filter.mpr ⟨mem, ?_⟩
  simp only [Property.isFilterable, Bool.and_eq_true, Bool.not_eq_true', Bool.or_eq_false_iff] at kept
  simp [kept]

theorem optional_of_isPartial (partly : kind.isPartial = true)
    (mem : p ∈ e.dtoProperties kind config) : p.isNullable = true ∧ p.isRequired = false := by
  rw [dtoProperties_eq, if_pos partly] at mem
  obtain ⟨q, -, rfl⟩ := List.mem_map.mp mem
  exact ⟨rfl, rfl⟩

/-! ## Collections -/

def withoutCollections (e : Entity) : Entity :=
  { e with navigations := e.navigations.filter (!·.isCollection) }

theorem dtoProperties_withoutCollections (e : Entity) (kind : DtoKind) (config : Config) :
    e.withoutCollections.dtoProperties kind config = e.dtoProperties kind config := by
  have required : e.withoutCollections.requiredNavigations = e.requiredNavigations := by
    unfold requiredNavigations withoutCollections
    rw [List.filter_filter]
    exact List.filter_congr fun n _ => by simp
  have keys : e.withoutCollections.keptKeys config = e.keptKeys config := by
    rw [keptKeys, requiredForeignKeys, required]
    rfl
  rw [dtoProperties_eq, filled, keys]
  rfl

/-! ## All shapes -/

/-- How the shapes of an entity fit together. -/
structure ShapesFit (e : Entity) (config : Config) : Prop where
  distinct : ∀ kind, ((e.dtoProperties kind config).map (·.name)).Nodup
  /-- What is written or filtered by is not ignored. -/
  kept : ∀ kind ∈ [DtoKind.add, .update, .filter], ∀ p ∈ e.dtoProperties kind config,
    config.isIgnored p.name = false
  update : e.dtoProperties .update config = (e.dtoProperties .add config).map fun p =>
    { p with isNullable := true, isRequired := false }
  filter : ∀ p ∈ e.dtoProperties .filter config, p.isNullable = true ∧ p.isRequired = false ∧
    ∃ q ∈ e.dtoProperties .add config, q.name = p.name
  detail : e.dtoProperties .detail config = e.properties.filter (!·.isNavigation)
  item : (e.dtoProperties .item config).Sublist (e.dtoProperties .detail config)
  /-- The key of a required navigation is there, whether the entity has a property for it or not. -/
  keys : ∀ n ∈ e.navigations, n.isRequired = true → n.isCollection = false →
    config.isIgnored n.keyName = false → ∀ kind ∈ [DtoKind.add, .update, .filter],
      ∃ p ∈ e.dtoProperties kind config, p.name = n.keyName
  collections : ∀ kind, e.withoutCollections.dtoProperties kind config = e.dtoProperties kind config

theorem hasForeignKeys_of_mem (mem : kind ∈ [DtoKind.add, .update, .filter]) :
    kind.hasForeignKeys = true := by
  revert kind
  decide

/-- The shapes of an entity with distinct property names fit together. -/
theorem shapes_fit (distinct : e.propertyNames.Nodup) (config : Config) : e.ShapesFit config where
  distinct kind := nodup_dtoProperties distinct kind config
  kept kind carries p mem := by
    have carries := hasForeignKeys_of_mem carries
    have named := (mem_names_dtoProperties e kind config p.name).mp (List.mem_map_of_mem mem)
    rcases named with own | ⟨-, n, -, -, kept⟩
    · obtain ⟨q, q_mem, same⟩ := List.mem_map.mp own
      rw [← same]
      exact not_isIgnored_own carries q_mem
    · exact kept
  update := rfl
  filter p mem := by
    obtain ⟨nullable, free⟩ := optional_of_isPartial rfl mem
    refine ⟨nullable, free, ?_⟩
    have named := (mem_names_dtoProperties e .filter config p.name).mp (List.mem_map_of_mem mem)
    have added : p.name ∈ (e.dtoProperties .add config).map (·.name) := by
      rw [mem_names_dtoProperties]
      exact named.imp_left fun own => List.map_subset _ (own_filter_subset e config) own
    simpa using added
  detail := rfl
  item := by
    show (e.properties.filter _).Sublist (e.properties.filter _)
    refine List.monotone_filter_right _ fun p kept => ?_
    simp only [Bool.and_eq_true] at kept
    exact kept.1.1
  keys n mem required single kept kind carries := by
    have named : n.keyName ∈ (e.dtoProperties kind config).map (·.name) := by
      rw [mem_names_dtoProperties]
      refine .inr ⟨hasForeignKeys_of_mem carries, n, ?_, rfl, kept⟩
      exact List.mem_filter.mpr ⟨mem, by simp [required, single]⟩
    simpa using named
  collections kind := dtoProperties_withoutCollections e kind config

/-- An order with three required navigations: to its customer, whose key may be null, to its payer, who
has no key, and to its tenant, whose key is ignored. -/
def placedOrder : Entity :=
  let one (name : String) : Navigation := ⟨name, name, some (name ++ "Id"), true, false, false⟩
  { Entity.empty "Order" "Shop" with
    properties := [.scalar "Id" "long", { Property.scalar "Code" "string" with isRequired := true },
      { Property.scalar "CustomerId" "long" with isNullable := true },
      { Property.scalar "Items" "List<Item>" with isList := true, isNavigation := true }]
    navigations := [one "Customer", { one "Payer" with foreignKey := none }, one "Tenant",
      ⟨"Items", "Item", some "OrderId", true, true, false⟩] }

theorem shapes_fit_placedOrder :
    placedOrder.propertyNames.Nodup ∧ placedOrder.ShapesFit {} ∧
      (placedOrder.dtoProperties .add {}).map (·.name) = ["Code", "CustomerId", "PayerId"] :=
  ⟨by decide, shapes_fit (by decide) {}, by decide⟩

end Entity
end Scaffold
