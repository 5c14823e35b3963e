/-
A schema alone gives entities: every class that is declared for its tables is extracted together with
them, if the names that come of the tables are plain and none of them is both an enum and an entity:
`extract_tables`. Enums are named after table and column, and an entity can have the same name.
-/
import Scaffold.Proofs.Database.Tables
import Scaffold.Proofs.Mapping.Declare
import Scaffold.Proofs.Text.Case

namespace Scaffold
namespace Database

open MappingModel TypeExpr

variable {tables : List Table} {namespaceName : String}

theorem exists_column_of_isEnum {name : String}
    (enum : ((mappingModel tables).context namespaceName).isEnum name = true) :
    ∃ t ∈ tables, ∃ c ∈ t.columns, c.enumValues.isSome = true ∧
      enumName (entityName t.name) c.name = name := by
  obtain ⟨e, e_mem, c, c_mem, named⟩ := exists_enumType_of_isEnum enum
  obtain ⟨t, t_mem, rfl⟩ := mem_entities.mp e_mem
  rw [Table.columns_entity] at c_mem
  obtain ⟨column, column_mem, rfl⟩ := List.mem_map.mp c_mem
  obtain ⟨values, some_values, same⟩ := Option.map_eq_some_iff.mp named
  exact ⟨t, t_mem, column, column_mem, Option.isSome_iff_exists.mpr ⟨values, some_values⟩, same⟩

theorem apart_context (apart : ∀ t ∈ tables, ∀ c ∈ t.columns, c.enumValues.isSome = true →
    ∀ t' ∈ tables, enumName (entityName t.name) c.name = entityName t'.name →
      IsAlias (entityName t'.name)) :
    ((mappingModel tables).context namespaceName).Apart := by
  intro name entity enum
  obtain ⟨t', t'_mem, rfl⟩ := (isEntity_context_iff name).mp entity
  obtain ⟨t, t_mem, c, c_mem, values, same⟩ := exists_column_of_isEnum enum
  exact apart t t_mem c c_mem values t' t'_mem same

theorem extract_of_mem_classes (visible : ∀ t ∈ tables, entityName t.name ≠ "")
    (plain : ∀ t ∈ tables, t.PlainNames) (apart : ((mappingModel tables).context namespaceName).Apart)
    {d : Declaration} (cls : d ∈ (mappingModel tables).classes namespaceName) :
    ∃ e, ((mappingModel tables).classInput namespaceName d).extract = .ok e ∧ e.name = d.name := by
  refine extract_class cls ?_ (read_classes plain cls) apart
  obtain ⟨t, t_mem, made⟩ := exists_table_of_class cls
  rw [made.name]
  exact Text.isBlankText_pascalCase (visible t t_mem)

/-- Every class of a schema is extracted, and every table has its entity. -/
theorem extract_tables (visible : ∀ t ∈ tables, entityName t.name ≠ "")
    (plain : ∀ t ∈ tables, t.PlainNames)
    (apart : ∀ t ∈ tables, ∀ c ∈ t.columns, c.enumValues.isSome = true → ∀ t' ∈ tables,
      enumName (entityName t.name) c.name = entityName t'.name → IsAlias (entityName t'.name)) :
    (∀ d ∈ (mappingModel tables).declarations namespaceName, d.isEnum = false →
      ∃ e, ((mappingModel tables).classInput namespaceName d).extract = .ok e ∧ e.name = d.name) ∧
    ∀ t ∈ tables, ∃ d ∈ (mappingModel tables).declarations namespaceName, d.isEnum = false ∧
      ∃ e, ((mappingModel tables).classInput namespaceName d).extract = .ok e ∧
        e.name = entityName t.name := by
  constructor
  · intro d mem no_enum
    exact extract_of_mem_classes visible plain (apart_context apart) (mem_classes mem no_enum)
  · intro t t_mem
    have spec := classes_spec (mappingModel tables) namespaceName
    obtain ⟨d, cls, made⟩ := exists_of_mem_left spec (mem_entities.mpr ⟨t, t_mem, rfl⟩)
    obtain ⟨e, extracted, named⟩ := extract_of_mem_classes visible plain (apart_context apart) cls
    exact ⟨d, List.mem_append_left _ cls, made.isEnum, e, extracted, named.trans made.name⟩

/-! ## A schema -/

/-- Customers and their orders, each of which is placed by one customer and may be paid by another. -/
def shop : List Table :=
  let column (name dataType : String) (isNullable : Bool) : Column :=
    ⟨name, dataType, isNullable, none, false, false, none, none⟩
  [⟨"customers", [column "id" "BIGINT" false], [], [], ["id"]⟩,
    ⟨"orders",
      [column "id" "BIGINT" false, { column "status" "ENUM" false with enumValues := some ["open"] },
        column "customer_id" "BIGINT" false, column "payer_id" "BIGINT" true],
      [], [⟨"customer_id", "customers", "id"⟩, ⟨"payer_id", "customers", "id"⟩], ["id"]⟩]

theorem visible_shop : ∀ t ∈ shop, entityName t.name ≠ "" := by
  decide

theorem plainNames_shop : ∀ t ∈ shop, t.PlainNames := by
  intro t mem
  refine ⟨?_, fun _ => ?_, ?_⟩
  · revert t
    decide
  · revert t
    decide
  · revert t
    decide

theorem apart_shop : ∀ t ∈ shop, ∀ c ∈ t.columns, c.enumValues.isSome = true → ∀ t' ∈ shop,
    enumName (entityName t.name) c.name = entityName t'.name → IsAlias (entityName t'.name) := by
  decide

theorem extract_shop {d : Declaration} (mem : d ∈ (mappingModel shop).declarations "Shop")
    (no_enum : d.isEnum = false) : ∃ e, ((mappingModel shop).classInput "Shop" d).extract = .ok e := by
  obtain ⟨e, extracted, -⟩ := extract_of_mem_classes visible_shop plainNames_shop
    (apart_context apart_shop) (mem_classes mem no_enum)
  exact ⟨e, extracted⟩

theorem extract_tables_shop :
    (∀ t ∈ shop, t.PlainNames) ∧
    (∀ d ∈ (mappingModel shop).declarations "Shop", d.isEnum = false →
      ∃ e, ((mappingModel shop).classInput "Shop" d).extract = .ok e ∧ e.name = d.name) ∧
    ∀ t ∈ shop, ∃ d ∈ (mappingModel shop).declarations "Shop", d.isEnum = false ∧
      ∃ e, ((mappingModel shop).classInput "Shop" d).extract = .ok e ∧ e.name = entityName t.name :=
  ⟨plainNames_shop, extract_tables visible_shop plainNames_shop apart_shop⟩

/-- Orders with an enum of their own for items, in a schema that has a table of order items. -/
def itemizedOrders : List Table :=
  let id : Column := ⟨"id", "BIGINT", false, none, false, false, none, none⟩
  [⟨"orders", [id, ⟨"item", "ENUM('a', 'b')", false, none, false, false, some ["a", "b"], none⟩],
      [], [], ["id"]⟩,
    ⟨"order_items", [id], [], [], ["id"]⟩]

/-- The enum of the column `item` and the entity of the table `order_items` have one name, so the
class of orders has a property that is both. -/
theorem itemizedOrders_clash :
    (itemizedOrders.map (entityName ·.name)) = ["Order", "OrderItem"] ∧
    ∃ d ∈ (mappingModel itemizedOrders).declarations "Shop", d.isEnum = false ∧ d.name = "Order" ∧
      ((mappingModel itemizedOrders).classInput "Shop" d).extract =
        .error ⟨"Order", .navigationAndEnum "Item"⟩ := by
  decide

end Database
end Scaffold
