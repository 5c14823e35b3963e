/-
Enums of columns. An enum is named after table and column, and of several with one name the first is
declared, so every column has its enum, but the values are its own exactly if no earlier column took the
name for others: `enum_declared`.
-/
import Scaffold.Proofs.Database.Tables
import Scaffold.Proofs.Keyed

namespace Scaffold
namespace Database

open MappingModel

variable {tables : List Table} {t : Table} {c : Column} {values : List String}

/-- The enums of a table: a name and the values of a column each. -/
def Table.enums (t : Table) : List (String × List String) :=
  t.columns.filterMap fun c => c.enumValues.map (enumName (entityName t.name) c.name, ·)

/-- The values of the first column whose enum has the name. -/
def valuesOf? (tables : List Table) (name : String) : Option (List String) :=
  (tables.flatMap Table.enums).lookup name

/-- The enum of a name with the given values. -/
def enumDeclaration (namespaceName : String) (enum : String × List String) : Declaration :=
  { Declaration.plain enum.1 namespaceName with isEnum := true, members := enum.2 }

theorem enumOf?_columnMapping (namespaceName entity : String) (c : Column) :
    enumOf? namespaceName (columnMapping entity c) =
      (c.enumValues.map (enumName entity c.name, ·)).map (enumDeclaration namespaceName) := by
  unfold enumOf? columnMapping
  cases c.enumValues <;> rfl

/-- The enums of all columns, in order. -/
theorem enums_columns (tables : List Table) (namespaceName : String) :
    ((mappingModel tables).entities.flatMap (·.columns)).filterMap (enumOf? namespaceName) =
      (tables.flatMap Table.enums).map (enumDeclaration namespaceName) := by
  rw [entities_mappingModel, List.flatMap_map, List.filterMap_flatMap, List.map_flatMap]
  refine List.flatMap_congr fun t _ => ?_
  rw [Table.columns_entity, List.filterMap_map, Table.enums, List.map_filterMap]
  refine List.filterMap_congr fun c _ => ?_
  exact enumOf?_columnMapping namespaceName (entityName t.name) c

theorem typeText_of_enum (entity : String) (has : c.enumValues = some values) :
    (columnMapping entity c).typeText = enumName entity c.name := by
  simp [columnMapping, has]

/-- The declaration of a name is that of the first column with an enum of the name. -/
theorem find?_enums (tables : List Table) (namespaceName name : String) :
    (enums namespaceName (mappingModel tables)).find? (·.name == name) =
      (valuesOf? tables name).map fun values => enumDeclaration namespaceName (name, values) := by
  rw [enums_eq, find?_firsts, enums_columns, valuesOf?]
  induction tables.flatMap Table.enums with
  | nil => rfl
  | cons enum rest ih =>
    obtain ⟨first, values⟩ := enum
    rw [List.map_cons, List.find?_cons, List.lookup_cons, ih, BEq.comm]
    by_cases same : first = name
    · subst same
      simp [enumDeclaration, Declaration.plain]
    · have other : (name == first) = false := beq_eq_false_iff_ne.mpr (Ne.symm same)
      simp [enumDeclaration, Declaration.plain, other]

theorem exists_valuesOf (t_mem : t ∈ tables) (c_mem : c ∈ t.columns)
    (has : c.enumValues = some values) :
    ∃ first, valuesOf? tables (enumName (entityName t.name) c.name) = some first := by
  have own : (enumName (entityName t.name) c.name, values) ∈ tables.flatMap Table.enums := by
    refine List.mem_flatMap.mpr ⟨t, t_mem, List.mem_filterMap.mpr ⟨c, c_mem, ?_⟩⟩
    rw [has, Option.map_some]
  have listed : (valuesOf? tables (enumName (entityName t.name) c.name)).isSome = true := by
    rw [valuesOf?, List.lookup_isSome_iff]
    exact ⟨_, own, beq_self_eq_true _⟩
  exact Option.isSome_iff_exists.mp listed

/-- The type of a column with values is declared as an enum. It has the values of the column exactly if
these are the ones of the first column whose enum has the name. -/
theorem enum_declared (t_mem : t ∈ tables) (c_mem : c ∈ t.columns)
    (has : c.enumValues = some values) (namespaceName : String) :
    (∃ d ∈ (mappingModel tables).declarations namespaceName, d.isEnum = true ∧
      d.name = (columnMapping (entityName t.name) c).typeText) ∧
    ((∃ d ∈ (mappingModel tables).declarations namespaceName, d.isEnum = true ∧
        d.name = (columnMapping (entityName t.name) c).typeText ∧ d.members = values) ↔
      valuesOf? tables (columnMapping (entityName t.name) c).typeText = some values) := by
  rw [typeText_of_enum _ has]
  have found := find?_enums tables namespaceName (enumName (entityName t.name) c.name)
  have declared {values : List String}
      (first : valuesOf? tables (enumName (entityName t.name) c.name) = some values) :
      ∃ d ∈ (mappingModel tables).declarations namespaceName, d.isEnum = true ∧
        d.name = enumName (entityName t.name) c.name ∧ d.members = values := by
    rw [first, Option.map_some] at found
    exact ⟨_, List.mem_append_right _ (List.mem_of_find?_eq_some found), rfl, rfl, rfl⟩
  refine ⟨?_, ?_, declared⟩
  · obtain ⟨first, taken⟩ := exists_valuesOf t_mem c_mem has
    obtain ⟨d, mem, is_enum, named, -⟩ := declared taken
    exact ⟨d, mem, is_enum, named⟩
  · rintro ⟨d, mem, is_enum, named, rfl⟩
    rcases List.mem_append.mp mem with cls | enum
    · obtain ⟨_, -, made⟩ := exists_table_of_class cls
      rw [made.isEnum] at is_enum
      cases is_enum
    · have distinct : ((enums namespaceName (mappingModel tables)).map (·.name)).Nodup := by
        rw [enums_eq]
        exact nodup_firsts _ _
      have only := find?_of_mem distinct enum
      rw [named, found] at only
      obtain ⟨values, first, rfl⟩ := Option.map_eq_some_iff.mp only
      exact first

def valueColumn (name : String) (values : List String) : Column :=
  ⟨name, "ENUM", false, none, false, false, some values, none⟩

/-- A table of items with a type each. -/
def itemTable (name column : String) (values : List String) : Table :=
  ⟨name, [⟨"id", "BIGINT", false, none, false, false, none, none⟩, valueColumn column values],
    [], [], ["id"]⟩

/-- Orders of one item, and items of an order. The types of both are enums called `OrderItemType`. -/
def itemTypes (ofOrders ofItems : List String) : List Table :=
  [itemTable "orders" "item_type" ofOrders, itemTable "order_items" "type" ofItems]

theorem enum_declared_itemTypes :
    let tables := itemTypes ["new", "used"] ["new", "used"]
    let t := itemTable "order_items" "type" ["new", "used"]
    let c := valueColumn "type" ["new", "used"]
    t ∈ tables ∧ c ∈ t.columns ∧ c.enumValues = some ["new", "used"] ∧
      ∃ d ∈ (mappingModel tables).declarations "Shop", d.isEnum = true ∧
        d.name = (columnMapping (entityName t.name) c).typeText ∧ d.members = ["new", "used"] := by
  intro tables t c
  have t_mem : t ∈ tables := List.mem_cons_of_mem _ (List.mem_singleton_self _)
  have c_mem : c ∈ t.columns := List.mem_cons_of_mem _ (List.mem_singleton_self _)
  refine ⟨t_mem, c_mem, rfl, (enum_declared t_mem c_mem rfl "Shop").2.mpr ?_⟩
  -- Whether or not the two columns have one enum, the values are the same.
  show List.lookup _ [(_, ["new", "used"]), (enumName (entityName t.name) c.name, _)] = _
  rw [List.lookup_cons, List.lookup_cons]
  split <;> simp [columnMapping, c, valueColumn]

/-- The items have types of their own, but the enum of their name has those of the orders. -/
theorem itemTypes_taken :
    ∃ t ∈ itemTypes ["new", "used"] ["gift"], ∃ c ∈ t.columns, c.enumValues = some ["gift"] ∧
      ¬∃ d ∈ (mappingModel (itemTypes ["new", "used"] ["gift"])).declarations "Shop",
        d.isEnum = true ∧ d.name = (columnMapping (entityName t.name) c).typeText ∧
          d.members = ["gift"] := by
  decide +kernel

end Database
end Scaffold
