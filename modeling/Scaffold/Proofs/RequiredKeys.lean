/-
Keys of required navigations on the shape that adds an entity. Merging a key makes the property of its
name required, or adds the key where there is no such property (`find?_mergeKey`), and all keys of a name
are one key. So the shape has the key of a required navigation once and demands it. Whether it may be null
is not merged: a property of the entity keeps its own mark, `key_demanded`.
-/
import Mathlib.Data.List.Find
import Scaffold.Proofs.Dto

namespace Scaffold

def Property.demanded (p : Property) : Property :=
  { p with isRequired := true }

theorem Property.demanded_of_isRequired {p : Property} (required : p.isRequired = true) :
    p.demanded = p := by
  cases p
  cases required
  rfl

/-- Where names are distinct, what is found by a name is all there is of the name. -/
theorem filter_of_find? {α : Type} {named : α → String} {items : List α} {name : String} {a : α}
    (distinct : (items.map named).Nodup) (found : items.find? (named · == name) = some a) :
    items.filter (named · == name) = [a] := by
  obtain ⟨is_named, before, after, rfl, earlier⟩ := List.find?_eq_some_iff_append.mp found
  obtain rfl : named a = name := beq_iff_eq.mp is_named
  rw [List.map_append, List.map_cons, List.nodup_append', List.nodup_cons] at distinct
  have none_before : before.filter (named · == named a) = [] := by
    simpa using earlier
  have none_after : after.filter (named · == named a) = [] := by
    rw [List.filter_eq_nil_iff]
    intro b mem same
    exact distinct.2.1.1 (beq_iff_eq.mp same ▸ List.mem_map_of_mem mem)
  rw [List.filter_append, none_before, List.filter_cons, if_pos is_named, none_after, List.nil_append]

namespace Entity

variable {e : Entity} {config : Config} {key p : Property} {props keys : List Property} {n : Navigation}

/-! ## Merging -/

theorem find?_mergeKey (key : Property) (props : List Property) (name : String) :
    (mergeKey key props).find? (·.name == name) =
      if key.name = name then some (((props.find? (·.name == name)).map Property.demanded).getD key)
      else props.find? (·.name == name) := by
  induction props with
  | nil =>
    by_cases named : key.name = name
    · simp [mergeKey, named]
    · simp [mergeKey, named]
  | cons p rest ih =>
    rw [mergeKey]
    by_cases same : p.name = key.name
    · rw [if_pos same]
      by_cases named : key.name = name
      · simp [same, named, Property.demanded]
      · simp [same, named]
    · rw [if_neg same, List.find?_cons, List.find?_cons]
      by_cases here : p.name = name
      · have other : key.name ≠ name := fun named => same (here.trans named.symm)
        simp [here, other]
      · have other : (p.name == name) = false := beq_eq_false_iff_ne.mpr here
        simp only [other, ih]

/-- Once the property of a name is required, further keys leave it as it is. -/
theorem find?_foldl_mergeKey_of_isRequired {name : String}
    (found : props.find? (·.name == name) = some p) (required : p.isRequired = true)
    (keys : List Property) :
    (keys.foldl (fun props key => mergeKey key props) props).find? (·.name == name) = some p := by
  induction keys generalizing props with
  | nil => exact found
  | cons key rest ih =>
    refine ih ?_
    rw [find?_mergeKey, found]
    split
    · simp [Property.demanded_of_isRequired required]
    · rfl

/-- A key that is the only one of its name makes the property of the name required, or is added. -/
theorem find?_foldl_mergeKey (mem : key ∈ keys) (only : ∀ k ∈ keys, k.name = key.name → k = key)
    (required : key.isRequired = true) (props : List Property) :
    (keys.foldl (fun props key => mergeKey key props) props).find? (·.name == key.name) =
      some (((props.find? (·.name == key.name)).map Property.demanded).getD key) := by
  induction keys generalizing props with
  | nil => cases mem
  | cons k rest ih =>
    rw [List.foldl_cons]
    by_cases named : k.name = key.name
    · obtain rfl := only k List.mem_cons_self named
      have merged := find?_mergeKey k props k.name
      rw [if_pos rfl] at merged
      refine find?_foldl_mergeKey_of_isRequired merged ?_ rest
      cases props.find? (·.name == k.name) with
      | none => exact required
      | some p => rfl
    · have later : key ∈ rest := (List.mem_cons.mp mem).resolve_left fun here => named (here ▸ rfl)
      rw [ih later (fun k' mem' => only k' (List.mem_cons_of_mem k mem')), find?_mergeKey, if_neg named]

/-! ## The key of a navigation -/

theorem foreignKeyProperty_eq (e : Entity) (keyType : String) (n : Navigation) :
    e.foreignKeyProperty keyType n =
      match (e.property? n.keyName).filter (!·.isNavigation) with
      | some p => { p with isRequired := true, isNullable := false }
      | none => (Property.scalar n.keyName keyType).demanded := rfl

theorem isRequired_foreignKeyProperty (e : Entity) (keyType : String) (n : Navigation) :
    (e.foreignKeyProperty keyType n).isRequired = true := by
  rw [foreignKeyProperty_eq]
  split <;> rfl

theorem foreignKeyProperty_congr {n' : Navigation} (same : n.keyName = n'.keyName) (keyType : String) :
    e.foreignKeyProperty keyType n = e.foreignKeyProperty keyType n' := by
  rw [foreignKeyProperty_eq, foreignKeyProperty_eq, same]

theorem foreignKeyProperty_of_none (unknown : e.property? n.keyName = none) (keyType : String) :
    e.foreignKeyProperty keyType n = (Property.scalar n.keyName keyType).demanded := by
  rw [foreignKeyProperty_eq, unknown]
  rfl

theorem mem_keptKeys (mem : n ∈ e.requiredNavigations) (kept : config.isIgnored n.keyName = false) :
    e.foreignKeyProperty config.naming.keyType n ∈ e.keptKeys config := by
  refine List.mem_filter.mpr ⟨List.mem_map_of_mem mem, ?_⟩
  rw [name_foreignKeyProperty, kept]
  rfl

theorem eq_of_mem_keptKeys (mem : key ∈ e.keptKeys config) (named : key.name = n.keyName) :
    key = e.foreignKeyProperty config.naming.keyType n := by
  obtain ⟨n', -, rfl⟩ := List.mem_map.mp (List.mem_filter.mp mem).1
  rw [name_foreignKeyProperty] at named
  exact foreignKeyProperty_congr named _

/-- The name of the key is that of no navigation and no complex property. -/
def HasPlainKey (e : Entity) (n : Navigation) : Prop :=
  ∀ p ∈ e.properties, p.name = n.keyName → p.isNavigation = false ∧ p.isComplex = false

/-- A property under the name of the key is written as it is. -/
theorem find?_own (plain : e.HasPlainKey n) (kept : config.isIgnored n.keyName = false) :
    (e.ownProperties .add config).find? (·.name == n.keyName) = e.property? n.keyName := by
  show (e.properties.filter _).find? _ = e.properties.find? _
  rw [List.find?_filter]
  refine List.find?_congr fun p mem => ?_
  by_cases named : p.name = n.keyName
  · obtain ⟨no_navigation, no_complex⟩ := plain p mem named
    simp [named, kept, no_navigation, no_complex]
  · simp [named]

def addedKey (e : Entity) (keyType : String) (n : Navigation) : Property :=
  ((e.property? n.keyName).getD (.scalar n.keyName keyType)).demanded

theorem find?_add (mem : n ∈ e.requiredNavigations) (plain : e.HasPlainKey n)
    (kept : config.isIgnored n.keyName = false) :
    (e.dtoProperties .add config).find? (·.name == n.keyName) =
      some (e.addedKey config.naming.keyType n) := by
  have only : ∀ k ∈ e.keptKeys config, k.name = (e.foreignKeyProperty config.naming.keyType n).name →
      k = e.foreignKeyProperty config.naming.keyType n := by
    intro k k_mem named
    exact eq_of_mem_keptKeys k_mem (named.trans (name_foreignKeyProperty e _ n))
  have merged := find?_foldl_mergeKey (mem_keptKeys mem kept) only
    (isRequired_foreignKeyProperty e _ n) (e.ownProperties .add config)
  rw [name_foreignKeyProperty, find?_own plain kept] at merged
  refine merged.trans ?_
  unfold addedKey
  cases found : e.property? n.keyName with
  | some p => rfl
  | none => simp [foreignKeyProperty_of_none found]

/-- The shape that adds an entity has the key of a required navigation once, and it is required. It may
be null exactly if the entity has a property for it that may. -/
theorem key_demanded (distinct : e.propertyNames.Nodup) (config : Config) (mem : n ∈ e.navigations)
    (required : n.isRequired = true) (single : n.isCollection = false)
    (kept : config.isIgnored n.keyName = false) (plain : e.HasPlainKey n) :
    ∃ p, (e.dtoProperties .add config).filter (·.name == n.keyName) = [p] ∧ p.isRequired = true ∧
      (p.isNullable = false ↔ ∀ q ∈ e.properties, q.name = n.keyName → q.isNullable = false) := by
  have demands : n ∈ e.requiredNavigations := List.mem_filter.mpr ⟨mem, by simp [required, single]⟩
  have found := find?_add demands plain kept
  have names := nodup_dtoProperties distinct .add config
  refine ⟨_, filter_of_find? names found, rfl, ?_⟩
  show ((e.property? n.keyName).getD _).isNullable = false ↔ _
  constructor
  · intro full q q_mem named
    rw [← named, property?_of_mem distinct q_mem] at full
    exact full
  · intro full
    cases own : e.property? n.keyName with
    | none => rfl
    | some q =>
      have named : q.name = n.keyName := by simpa using List.find?_some own
      exact full q (List.mem_of_find?_eq_some own) named

/-- A parcel whose order is named twice, with a number that it may be sent without. -/
def parcel : Entity :=
  let one (name key : String) : Navigation := ⟨name, name, some key, true, false, false⟩
  { Entity.empty "Parcel" "Shop" with
    properties := [.scalar "Id" "long", .scalar "OrderId" "long"]
    navigations := [one "Order" "OrderId", one "Sale" "OrderId", one "Carrier" "CarrierId"] }

theorem key_demanded_parcel :
    ∃ p, (parcel.dtoProperties .add {}).filter (·.name == "OrderId") = [p] ∧ p.isRequired = true ∧
      p.isNullable = false := by
  let order : Navigation := ⟨"Sale", "Sale", some "OrderId", true, false, false⟩
  obtain ⟨p, only, required, full⟩ := key_demanded (e := parcel) (n := order) (by decide) {}
    (by decide) rfl rfl (by decide) (by unfold HasPlainKey; decide)
  exact ⟨p, only, required, full.mpr (by decide)⟩

/-- The key of the customer is demanded and may be null all the same. -/
theorem placedOrder_key_nullable :
    ∃ n ∈ placedOrder.navigations, n.isRequired = true ∧ n.isCollection = false ∧
      ({} : Config).isIgnored n.keyName = false ∧ placedOrder.HasPlainKey n ∧
      ¬∃ p, (placedOrder.dtoProperties .add {}).filter (·.name == n.keyName) = [p] ∧
        p.isRequired = true ∧ p.isNullable = false := by
  let customer : Navigation := ⟨"Customer", "Customer", some "CustomerId", true, false, false⟩
  have marks : ((placedOrder.dtoProperties .add {}).filter (·.name == customer.keyName)).map
      (fun p => (p.isRequired, p.isNullable)) = [(true, true)] := by
    decide
  refine ⟨customer, by decide, rfl, rfl, by decide, by unfold HasPlainKey; decide, ?_⟩
  rintro ⟨p, only, -, full⟩
  simp [only, full] at marks

end Entity
end Scaffold
