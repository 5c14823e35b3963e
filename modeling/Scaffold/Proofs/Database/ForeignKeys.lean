/-
Both ends of a foreign key agree: the collection that was added to the principal and the reference of
the dependent lead to each other and name the same column, `foreignKey_ends`. Each end finds the key
again by name, so it has to be the first one that fits, and a name that is another spelling of a
primitive is lost on the way.
-/
import Scaffold.Proofs.Database.Feed
import Scaffold.Proofs.Mapping.Collections

namespace Scaffold
namespace Database

open MappingModel TypeExpr

variable {tables before after : List Table} {t : Table} {earlier later : List ForeignKey}
  {k : ForeignKey} {navigation inverse namespaceName : String} {d : Declaration} {e : Entity}

/-! ## The collection of the principal -/

/-- The class of the principal had no property of the name when the foreign key had its turn, so the
collection of that name was added for this key. -/
def AddedFor (tables before : List Table) (t : Table) (earlier : List ForeignKey) (k : ForeignKey)
    (namespaceName inverse : String) : Prop :=
  ClassHas (entityName k.table) (Fresh · inverse)
    ((mappingModel tables).classesBefore namespaceName (before.map Table.entity) t.entity
      (earlier.map t.key))

instance (tables before : List Table) (t : Table) (earlier : List ForeignKey) (k : ForeignKey)
    (namespaceName inverse : String) :
    Decidable (AddedFor tables before t earlier k namespaceName inverse) :=
  inferInstanceAs (Decidable (ClassHas _ _ _))

/-- No earlier key fits the collection: it has another principal, or an inverse that is named
differently, as the collection was not there yet. -/
theorem not_inverse_of_earlier (principal : ∃ t' ∈ tables, entityName t'.name = entityName k.table)
    (added : AddedFor tables before t earlier k namespaceName inverse)
    (named : ∀ k' ∈ earlier, entityName k'.table = entityName k.table → (t.key k').inverse ≠ none) :
    ∀ k' ∈ earlier,
      ((t.key k').principal == entityName k.table && (t.key k').inverse.all (· == inverse)) = false := by
  intro k' mem
  rw [Table.principal_key, Bool.and_eq_false_imp, beq_iff_eq]
  intro same
  cases given : (t.key k').inverse with
  | none => exact absurd given (named k' mem same)
  | some other =>
    rw [Option.all_some, beq_eq_false_iff_ne]
    rintro rfl
    have known : ∃ e' ∈ (mappingModel tables).entities, e'.name = (t.key k').principal := by
      obtain ⟨t', t'_mem, name⟩ := principal
      exact ⟨_, mem_entities.mpr ⟨t', t'_mem, rfl⟩, by rw [Table.principal_key, same]; exact name⟩
    obtain ⟨d, found, fresh⟩ := added
    have before_key : ClassHas (t.key k').principal (¬Fresh · other)
        ((mappingModel tables).classesBefore namespaceName (before.map Table.entity) t.entity
          (earlier.map t.key)) :=
      classHas_not_fresh known (List.mem_map_of_mem mem) given
    obtain ⟨d', found', taken⟩ := before_key
    rw [Table.principal_key, same, found] at found'
    cases found'
    exact taken fresh

/-- The class of the principal has the collection of the key and no other property of that name. -/
theorem hasOnly_inverse (tables_eq : tables = before ++ t :: after)
    (keys : t.foreignKeys = earlier ++ k :: later)
    (distinct : (tables.map (entityName ·.name)).Nodup) (no_join : t.entity.isJoinTable = false)
    (given : (t.key k).inverse = some inverse)
    (added : AddedFor tables before t earlier k namespaceName inverse)
    (cls : d ∈ (mappingModel tables).classes namespaceName)
    (is_principal : d.name = entityName k.table) :
    d.HasOnly (collection inverse (entityName t.name)) := by
  have entities : (mappingModel tables).entities =
      before.map Table.entity ++ t.entity :: after.map Table.entity := by
    rw [entities_mappingModel, tables_eq, List.map_append, List.map_cons]
  have keys : t.entity.foreignKeys = earlier.map t.key ++ t.key k :: later.map t.key := by
    rw [Table.foreignKeys_entity, keys, List.map_append, List.map_cons]
  rw [AddedFor, ← Table.principal_key t k] at added
  obtain ⟨d', found, only⟩ := classHas_collection entities no_join keys given added
  have same := find?_of_mem (nodup_classes distinct namespaceName) cls
  rw [is_principal, ← Table.principal_key t k, found] at same
  cases same
  exact only

/-- The extraction of the principal finds the key again. -/
theorem inverseKey?_key (mem : t ∈ tables) (keys : t.foreignKeys = earlier ++ k :: later)
    (distinct : (tables.map (entityName ·.name)).Nodup) (given : (t.key k).inverse = some inverse)
    (principal : ∃ t' ∈ tables, entityName t'.name = entityName k.table)
    (added : AddedFor tables before t earlier k namespaceName inverse)
    (named : ∀ k' ∈ earlier, entityName k'.table = entityName k.table → (t.key k').inverse ≠ none) :
    (mappingModel tables).inverseKey? (entityName k.table) inverse (entityName t.name) =
      some (t.key k) := by
  have others := not_inverse_of_earlier principal added named
  rw [inverseKey?, entity?_of_mem distinct mem, Option.bind_some, Table.foreignKeys_entity, keys,
    List.map_append, List.map_cons, List.find?_eq_some_iff_append]
  refine ⟨by simp [given], earlier.map t.key, later.map t.key, rfl, fun key key_mem => ?_⟩
  obtain ⟨k', k'_mem, rfl⟩ := List.mem_map.mp key_mem
  rw [others k' k'_mem]
  rfl

theorem navigation?_inverse (tables_eq : tables = before ++ t :: after)
    (keys : t.foreignKeys = earlier ++ k :: later)
    (distinct : (tables.map (entityName ·.name)).Nodup) (no_join : t.entity.isJoinTable = false)
    (given : (t.key k).inverse = some inverse) (plain : PlainName (entityName t.name))
    (own : ¬IsAlias (entityName t.name))
    (named : ∀ k' ∈ earlier, entityName k'.table = entityName k.table → (t.key k').inverse ≠ none)
    (added : AddedFor tables before t earlier k namespaceName inverse)
    (cls : d ∈ (mappingModel tables).classes namespaceName) (is_principal : d.name = entityName k.table)
    (ok : ((mappingModel tables).classInput namespaceName d).extract = .ok e) :
    e.navigation? inverse =
      some ⟨inverse, entityName t.name, some (Text.pascalCase k.column), false, true, false⟩ := by
  have mem : t ∈ tables := by simp [tables_eq]
  obtain ⟨t', t'_mem, made⟩ := exists_table_of_class cls
  have only := hasOnly_inverse tables_eq keys distinct no_join given added cls is_principal
  have named_inside : (list (apply (entityName t.name) [])).innermost.name = entityName t.name := by
    rw [list, innermost_list, (isScalar_apply _).innermost]
    exact name_apply own
  obtain ⟨mapping, described, q, via⟩ :=
    navigates_of_extract made.base ok only rfl (parse_collection plain) (simple_apply plain).list
      (by rw [named_inside]; exact (isEntity_context_iff _).mpr ⟨t, mem, rfl⟩) rfl
  have element := via.elementName.trans named_inside
  have reached : (mappingModel tables).inverseKey? described.name q.name q.elementName =
      some (t.key k) := by
    have principal : ∃ t' ∈ tables, entityName t'.name = entityName k.table :=
      ⟨t', t'_mem, made.name.symm.trans is_principal⟩
    rw [via.owner, is_principal, via.name, element]
    exact inverseKey?_key mem keys distinct given principal added named
  have found := via.navigation
  rw [navigationOf_collection via.isList reached, via.name, element, Table.properties_key,
    List.head?_cons] at found
  exact found

/-! ## The reference of the dependent -/

/-- The property of the dependent for a foreign key. -/
def Table.reference (t : Table) (k : ForeignKey) (name : String) : PropertyDeclaration :=
  { PropertyDeclaration.plain name (markedType (entityName k.table) (!(t.key k).isRequired)) with
    attributes := [Attribute.plain "ForeignKey" [Text.pascalCase k.column]] }

@[simp] theorem Table.name_reference : (t.reference k navigation).name = navigation := rfl

theorem referenceProperty?_key (named : (t.key k).navigation = some navigation) :
    referenceProperty? (t.key k) = some (t.reference k navigation) := by
  rw [referenceProperty?, named, Option.map_some, Table.properties_key, Table.principal_key]
  rfl

/-- Its only attribute names the column. -/
theorem has_reference (name : String) : (t.reference k navigation).has name = ("ForeignKey" == name) := by
  have short (column : String) : (Attribute.plain "ForeignKey" [column]).shortName = "ForeignKey" := by
    show (Attribute.plain "ForeignKey" []).shortName = "ForeignKey"
    decide
  rw [PropertyDeclaration.has, PropertyDeclaration.attribute?, Attribute.find?, List.isSome_find?,
    Table.reference]
  simp only [List.any_cons, List.any_nil, Bool.or_false, short]

theorem isMapped_reference : (t.reference k navigation).isMapped = true := by
  rw [PropertyDeclaration.isMapped, has_reference, has_reference]
  rfl

/-- A navigation that only one key has is the only property of its name. -/
theorem hasOnly_reference (made : ClassFor (mappingModel tables) namespaceName t.entity d)
    (mem : k ∈ t.foreignKeys) (named : (t.key k).navigation = some navigation)
    (single : ∀ k' ∈ t.foreignKeys, (t.key k').navigation = some navigation → k' = k) :
    d.HasOnly (t.reference k navigation) := by
  obtain ⟨added, properties, -, apart, -⟩ := made.properties
  have own : t.reference k navigation ∈ (classOf namespaceName t.entity).properties := by
    refine List.mem_append_right _ (List.mem_filterMap.mpr ⟨t.key k, ?_, referenceProperty?_key named⟩)
    rw [Table.foreignKeys_entity]
    exact List.mem_map_of_mem mem
  refine ⟨properties ▸ List.mem_append_left _ own, fun q q_mem same => ?_⟩
  rw [properties, List.mem_append] at q_mem
  rcases q_mem with mine | later
  · rcases List.mem_append.mp mine with column | reference
    · obtain ⟨c, c_mem, rfl⟩ := List.mem_map.mp column
      exact absurd same (Table.fresh_navigation named c c_mem)
    · rw [Table.foreignKeys_entity, List.filterMap_map] at reference
      obtain ⟨k', k'_mem, given⟩ := List.mem_filterMap.mp reference
      have named' := navigation_of_referenceProperty? given
      rw [same, Table.name_reference] at named'
      rw [Function.comp_apply, single k' k'_mem named', referenceProperty?_key named] at given
      exact (Option.some.inj given).symm
  · exact absurd same.symm (apart q later _ own)

theorem find?_navigation (mem : k ∈ t.foreignKeys) (named : (t.key k).navigation = some navigation)
    (single : ∀ k' ∈ t.foreignKeys, (t.key k').navigation = some navigation → k' = k) :
    t.entity.foreignKeys.find? (·.navigation == some navigation) = some (t.key k) := by
  rw [Table.foreignKeys_entity]
  cases found : (t.foreignKeys.map t.key).find? (·.navigation == some navigation) with
  | none =>
    have other := List.find?_eq_none.mp found (t.key k) (List.mem_map_of_mem mem)
    rw [named, beq_self_eq_true] at other
    exact absurd rfl other
  | some key =>
    obtain ⟨k', k'_mem, rfl⟩ := List.mem_map.mp (List.mem_of_find?_eq_some found)
    have named' : (t.key k').navigation = some navigation := by simpa using List.find?_some found
    rw [single k' k'_mem named']

theorem navigation?_reference (distinct : (tables.map (entityName ·.name)).Nodup) (mem : t ∈ tables)
    (k_mem : k ∈ t.foreignKeys) (named : (t.key k).navigation = some navigation)
    (plain : PlainName (entityName k.table)) (own : ¬IsAlias (entityName k.table))
    (single : ∀ k' ∈ t.foreignKeys, (t.key k').navigation = some navigation → k' = k)
    (principal : ∃ t' ∈ tables, entityName t'.name = entityName k.table)
    (cls : d ∈ (mappingModel tables).classes namespaceName) (is_dependent : d.name = entityName t.name)
    (ok : ((mappingModel tables).classInput namespaceName d).extract = .ok e) :
    e.navigation? navigation = some ⟨navigation, entityName k.table, some (Text.pascalCase k.column),
      (t.columns.find? (·.name == k.column)).any (!·.isNullable), false, false⟩ := by
  obtain ⟨t', t'_mem, made⟩ := exists_table_of_class cls
  obtain rfl : t = t' :=
    List.inj_on_of_nodup_map distinct mem t'_mem (is_dependent.symm.trans made.name)
  have only := hasOnly_reference made k_mem named single
  have given := referenceProperty?_key named
  have plain_key : PlainName (t.key k).principal := by
    rw [Table.principal_key]
    exact plain
  have named_inside : ((apply (t.key k).principal []).withNullable (!(t.key k).isRequired)).innermost.name
      = entityName k.table := by
    rw [name_innermost_withNullable, (isScalar_apply _).innermost, Table.principal_key]
    exact name_apply own
  have scalar := (isScalar_apply (t.key k).principal).withNullable (!(t.key k).isRequired)
  obtain ⟨mapping, described, q, via⟩ :=
    navigates_of_extract made.base ok only isMapped_reference
      (parse_referenceProperty? plain_key given) ((simple_apply plain_key).withNullable _)
      (by rw [named_inside]; exact (isEntity_context_iff _).mpr principal) scalar.2
  have element := via.elementName.trans named_inside
  -- The extraction of the dependent finds the key again.
  have reached : mapping.foreignKeyFor? q.name q.elementName = some (t.key k) := by
    have found_mapping := via.entity
    rw [is_dependent, entity?_of_mem distinct mem] at found_mapping
    obtain rfl := Option.some.inj found_mapping
    rw [via.name, Table.name_reference, EntityMapping.foreignKeyFor?, find?_navigation k_mem named single]
  have property := via.property
  have required := via.isRequired
  have found := via.navigation
  rw [Table.name_reference] at property found
  rw [has_reference] at required
  rw [navigationOf_reference (via.isList.trans scalar.1) reached, via.name, Table.name_reference, element,
    property, Option.any_some, required, Table.properties_key, Table.isRequired_key] at found
  exact found

/-! ## Both ends -/

/-- A foreign key that is named at both ends is found again from both. The collection of the principal
that was added for it is about the dependent, if no earlier key to the same principal was left without
names; the reference of the dependent is about the principal, if no other key has its name. Both name
the column of the key. -/
theorem foreignKey_ends (tables_eq : tables = before ++ t :: after)
    (keys : t.foreignKeys = earlier ++ k :: later)
    (distinct : (tables.map (entityName ·.name)).Nodup) (no_join : t.entity.isJoinTable = false)
    (named : (t.key k).navigation = some navigation) (given : (t.key k).inverse = some inverse) :
    (PlainName (entityName t.name) → ¬IsAlias (entityName t.name) →
      (∀ k' ∈ earlier, entityName k'.table = entityName k.table → (t.key k').inverse ≠ none) →
      AddedFor tables before t earlier k namespaceName inverse →
      ∀ d ∈ (mappingModel tables).declarations namespaceName, d.isEnum = false →
        d.name = entityName k.table →
        ∀ e, ((mappingModel tables).classInput namespaceName d).extract = .ok e →
          e.navigation? inverse =
            some ⟨inverse, entityName t.name, some (Text.pascalCase k.column), false, true, false⟩) ∧
    (PlainName (entityName k.table) → ¬IsAlias (entityName k.table) →
      (∀ k' ∈ t.foreignKeys, (t.key k').navigation = some navigation → k' = k) →
      (∃ t' ∈ tables, entityName t'.name = entityName k.table) →
      ∀ d ∈ (mappingModel tables).declarations namespaceName, d.isEnum = false →
        d.name = entityName t.name →
        ∀ e, ((mappingModel tables).classInput namespaceName d).extract = .ok e →
          e.navigation? navigation =
            some ⟨navigation, entityName k.table, some (Text.pascalCase k.column),
              (t.columns.find? (·.name == k.column)).any (!·.isNullable), false, false⟩) := by
  constructor
  · intro plain own first added d mem no_enum is_principal e ok
    exact navigation?_inverse tables_eq keys distinct no_join given plain own first added
      (mem_classes mem no_enum) is_principal ok
  · intro plain own single principal d mem no_enum is_dependent e ok
    have mem_tables : t ∈ tables := by simp [tables_eq]
    have mem_keys : k ∈ t.foreignKeys := by simp [keys]
    exact navigation?_reference distinct mem_tables mem_keys named plain own single principal
      (mem_classes mem no_enum) is_dependent ok

/-- The second key of orders, which may be absent, after one to the same principal. -/
theorem foreignKey_ends_payer :
    (∃ d e, d ∈ (mappingModel shop).declarations "Shop" ∧
      ((mappingModel shop).classInput "Shop" d).extract = .ok e ∧ e.navigation? "PayerOrders" =
        some ⟨"PayerOrders", "Order", some "PayerId", false, true, false⟩) ∧
    ∃ d e, d ∈ (mappingModel shop).declarations "Shop" ∧
      ((mappingModel shop).classInput "Shop" d).extract = .ok e ∧ e.navigation? "Payer" =
        some ⟨"Payer", "Customer", some "PayerId", false, false, false⟩ := by
  let customers := shop[0]
  let orders := shop[1]
  let customer_key := orders.foreignKeys[0]
  let payer_key := orders.foreignKeys[1]
  have ends := @foreignKey_ends shop [customers] [] orders [customer_key] [] payer_key "Payer"
    "PayerOrders" "Shop" rfl rfl (by decide +kernel) (by decide +kernel) (by decide +kernel)
    (by decide +kernel)
  have added : AddedFor shop [customers] orders [customer_key] payer_key "Shop" "PayerOrders" := by
    decide +kernel
  have order : entityName orders.name = "Order" := by decide +kernel
  have customer : entityName payer_key.table = "Customer" := by decide +kernel
  have payer : Text.pascalCase payer_key.column = "PayerId" := by decide +kernel
  have nullable : (orders.columns.find? (·.name == payer_key.column)).any (!·.isNullable) = false := by
    decide +kernel
  rw [order, customer, payer, nullable] at ends
  constructor
  · obtain ⟨d, mem, no_enum, named⟩ : ∃ d ∈ (mappingModel shop).declarations "Shop",
        d.isEnum = false ∧ d.name = "Customer" := by
      decide +kernel
    obtain ⟨e, ok⟩ := extract_shop mem no_enum
    exact ⟨d, e, mem, ok, ends.1 (by decide) (by decide +kernel) (by decide +kernel) added d mem no_enum
      named e ok⟩
  · obtain ⟨d, mem, no_enum, named⟩ : ∃ d ∈ (mappingModel shop).declarations "Shop",
        d.isEnum = false ∧ d.name = "Order" := by
      decide +kernel
    obtain ⟨e, ok⟩ := extract_shop mem no_enum
    exact ⟨d, e, mem, ok, ends.2 (by decide) (by decide +kernel) (by decide +kernel) (by decide +kernel)
      d mem no_enum named e ok⟩

/-- Orders with the text of a bill, which takes the name that the key `billing_id` would get. -/
def shippedOrders : List Table :=
  let column (name dataType : String) : Column :=
    ⟨name, dataType, false, none, false, false, none, none⟩
  [⟨"customers", [column "id" "BIGINT"], [], [], ["id"]⟩,
    ⟨"orders",
      [column "id" "BIGINT", column "billing_id" "BIGINT", column "billing" "VARCHAR(40)",
        column "shipping_id" "BIGINT"],
      [], [⟨"billing_id", "customers", "id"⟩, ⟨"shipping_id", "customers", "id"⟩], ["id"]⟩]

/-- Only the second key adds a collection, but the collection is led back to the first key, which was
left without names. -/
theorem shippedOrders_confused :
    (mappingModel shippedOrders).entities.flatMap
        (fun e => e.foreignKeys.map fun k => (k.properties, k.navigation, k.inverse)) =
      [(["BillingId"], none, none), (["ShippingId"], some "Shipping", some "ShippingOrders")] ∧
    ∃ d ∈ (mappingModel shippedOrders).declarations "Shop", d.isEnum = false ∧ d.name = "Customer" ∧
      (((mappingModel shippedOrders).classInput "Shop" d).extract.toOption.bind
          (·.navigation? "ShippingOrders")) =
        some ⟨"ShippingOrders", "Order", some "BillingId", false, true, false⟩ := by
  decide +kernel

end Database
end Scaffold
