/-
A mapping model only adds to a declared entity, and what it adds it adds at once:
`enrich_augments_idem`. The first half reads off `enrichProperty_eq`, which says mark by mark what a
property gets. The second rests on what the additions depend on. Those of a property depend on its
name, its type and its marks of shape, and a navigation on the name of the entity and on its
properties; no addition changes any of these but the marks that it makes true itself.
-/
import Scaffold.Proofs.Mapping.Enrich

namespace Scaffold

/-- The second property is the first with additions: marks are only turned on, but for the mark of a
nested type, which a navigation replaces, and a length is only given where there is none. -/
structure Property.Augments (p q : Property) : Prop where
  name : q.name = p.name
  typeText : q.typeText = p.typeText
  isList : q.isList = p.isList
  isDictionary : q.isDictionary = p.isDictionary
  isEnum : q.isEnum = p.isEnum
  isNullable : q.isNullable = p.isNullable
  isRequired : q.isRequired = p.isRequired
  isNavigation : p.isNavigation = true → q.isNavigation = true
  isKey : p.isKey = true → q.isKey = true
  isIndexed : p.isIndexed = true → q.isIndexed = true
  isComplex : q.isComplex = true → p.isComplex = true
  replaced : p.isComplex = true → q.isComplex = false → q.isNavigation = true
  maxLength : ∀ n, p.maxLength = some n → q.maxLength = some n
  minLength : q.minLength = p.minLength
  defaultValue : q.defaultValue = p.defaultValue
  summary : q.summary = p.summary
  xml : q.xml = p.xml

/-- The second entity is the first with additions to its properties, in their order, with a comment if
there was none, and with navigations of its own. -/
structure Entity.Augments (e e' : Entity) : Prop where
  name : e'.name = e.name
  namespaceName : e'.namespaceName = e.namespaceName
  moduleName : e'.moduleName = e.moduleName
  filePath : e'.filePath = e.filePath
  comment : ∀ text, e.comment = some text → e'.comment = some text
  properties : List.Forall₂ Property.Augments e.properties e'.properties

namespace EntityMapping

/-- Whether an index begins with the property. -/
def isLeading (mapping : EntityMapping) (property : String) : Bool :=
  mapping.indexes.any (·.properties.head? == some property)

def maxLength? (mapping : EntityMapping) (property : String) : Option Nat :=
  (mapping.column? property).bind (·.maxLength)

end EntityMapping

namespace MappingModel

variable {m : MappingModel} {mapping : EntityMapping} {declared e e' : Entity} {p : Property}

/-! ## One property -/

/-- Whether a property is a text depends on its type and its shape only. -/
theorem isString_enrichProperty : (m.enrichProperty mapping p).isString = p.isString := by
  have h := enriches_enrichProperty m mapping p
  rw [Property.isString, Property.isCollection, Property.textType, h.isList, h.isDictionary, h.typeText]
  rfl

theorem isTarget_enrichProperty : m.isTarget (m.enrichProperty mapping p) = m.isTarget p := by
  have h := enriches_enrichProperty m mapping p
  rw [isTarget, Property.elementName, Property.textType, h.isDictionary, h.typeText]
  rfl

/-- A length is taken from a column only where there is none, and only for a text. -/
theorem fill_eq (p : Property) (column : Option ColumnMapping) :
    (match column with
      | some column =>
        if p.maxLength.isNone && p.isString then { p with maxLength := column.maxLength } else p
      | none => p) =
      { p with maxLength :=
          p.maxLength.or (if p.isString then column.bind (·.maxLength) else none) } := by
  cases column with
  | none => simp
  | some column =>
    cases string : p.isString with
    | false => simp
    | true =>
      cases known : p.maxLength with
      | none => rfl
      | some n =>
        show p = { p with maxLength := some n }
        rw [← known]

/-- What a property gets, mark by mark. -/
theorem enrichProperty_eq (m : MappingModel) (mapping : EntityMapping) (p : Property) :
    m.enrichProperty mapping p =
      { p with
        isNavigation := p.isNavigation || m.isTarget p
        isComplex := p.isComplex && !m.isTarget p
        isKey := p.isKey || mapping.keys.contains p.name
        isIndexed := p.isIndexed || mapping.isLeading p.name
        maxLength := p.maxLength.or (if p.isString then mapping.maxLength? p.name else none) } := by
  unfold enrichProperty
  extract_lets target kind key leads index
  have kind_eq : kind =
      { p with
        isNavigation := p.isNavigation || m.isTarget p
        isComplex := p.isComplex && !m.isTarget p } := by
    show (if m.isTarget p = true then _ else _) = _
    by_cases is_target : m.isTarget p = true <;> simp [is_target]
  have key_eq : key = { kind with isKey := kind.isKey || mapping.keys.contains kind.name } := by
    show (if _ then _ else _) = _
    by_cases is_key : mapping.keys.contains kind.name = true
    · rw [if_pos is_key, is_key, Bool.or_true]
    · rw [if_neg is_key, Bool.of_not_eq_true is_key, Bool.or_false]
  have index_eq : index = { key with isIndexed := key.isIndexed || mapping.isLeading key.name } := by
    show (if mapping.isLeading key.name = true then _ else _) = _
    by_cases is_leading : mapping.isLeading key.name = true
    · rw [if_pos is_leading, is_leading, Bool.or_true]
    · rw [if_neg is_leading, Bool.of_not_eq_true is_leading, Bool.or_false]
  refine (fill_eq index (mapping.column? index.name)).trans ?_
  rw [index_eq, key_eq, kind_eq]
  rfl

/-- Doing it again adds nothing. -/
theorem enrichProperty_idem :
    m.enrichProperty mapping (m.enrichProperty mapping p) = m.enrichProperty mapping p := by
  have target : m.isTarget (m.enrichProperty mapping p) = m.isTarget p := isTarget_enrichProperty
  have string : (m.enrichProperty mapping p).isString = p.isString := isString_enrichProperty
  rw [enrichProperty_eq m mapping (m.enrichProperty mapping p), target, string, enrichProperty_eq]
  simp only [Bool.or_assoc, Bool.or_self, Bool.and_assoc, Bool.and_self, Option.or_assoc, Option.or_self]

theorem augments_enrichProperty (m : MappingModel) (mapping : EntityMapping) (p : Property) :
    p.Augments (m.enrichProperty mapping p) := by
  rw [enrichProperty_eq]
  constructor
  case isNavigation => exact fun on => Bool.or_eq_true_iff.mpr (.inl on)
  case isKey => exact fun on => Bool.or_eq_true_iff.mpr (.inl on)
  case isIndexed => exact fun on => Bool.or_eq_true_iff.mpr (.inl on)
  case isComplex => exact fun still => (Bool.and_eq_true_iff.mp still).1
  case replaced =>
    -- The mark is taken off what names an entity of the model only.
    intro on off
    have target : m.isTarget p = true := by simpa [on] using off
    exact Bool.or_eq_true_iff.mpr (.inr target)
  case maxLength =>
    intro n known
    exact Option.or_eq_some_iff.mpr (.inl known)
  all_goals rfl

/-! ## The navigations and the entity -/

/-- A navigation depends on the name of its entity and on its properties. -/
theorem navigationOf_congr (name : e'.name = e.name) (properties : e'.properties = e.properties) :
    m.navigationOf mapping e' = m.navigationOf mapping e := by
  have property? : e'.property? = e.property? := by
    funext name
    rw [Entity.property?, Entity.property?, properties]
  funext p
  unfold navigationOf collectionNavigation referenceNavigation
  rw [name, property?]

/-- There is nothing left to describe. -/
theorem described_enriched :
    m.described mapping (m.enriched mapping declared) = m.enriched mapping declared := by
  have comment : (declared.comment.or mapping.comment).or mapping.comment =
      declared.comment.or mapping.comment := by
    rw [Option.or_assoc, Option.or_self]
  have properties : (declared.properties.map (m.enrichProperty mapping)).map (m.enrichProperty mapping) =
      declared.properties.map (m.enrichProperty mapping) := by
    rw [List.map_map]
    exact List.map_congr_left fun p _ => enrichProperty_idem
  show { m.enriched mapping declared with
    comment := (declared.comment.or mapping.comment).or mapping.comment
    properties := (declared.properties.map (m.enrichProperty mapping)).map (m.enrichProperty mapping) } = _
  rw [comment, properties]
  rfl

theorem enriched_idem :
    m.enriched mapping (m.enriched mapping declared) = m.enriched mapping declared := by
  have same : m.navigationOf mapping (m.enriched mapping declared) =
      m.navigationOf mapping (m.described mapping declared) := navigationOf_congr rfl rfl
  rw [enriched, described_enriched, same]
  rfl

theorem augments_enriched : declared.Augments (m.enriched mapping declared) where
  name := rfl
  namespaceName := rfl
  moduleName := rfl
  filePath := rfl
  comment := fun _ known => Option.or_eq_some_iff.mpr (.inl known)
  properties := by
    show List.Forall₂ _ _ (List.map _ _)
    rw [List.forall₂_map_right_iff, List.forall₂_same]
    exact fun p _ => augments_enrichProperty m mapping p

/-- Enriching a declared entity only adds to it, and enriching it again changes nothing. -/
theorem enrich_augments_idem (ok : m.enrich declared = .ok e) :
    declared.Augments e ∧ m.enrich e = .ok e := by
  obtain ⟨mapping, known, rfl, valid⟩ := enrich_eq_ok_iff.mp ok
  refine ⟨augments_enriched, enrich_eq_ok_iff.mpr ⟨mapping, known, ?_, valid⟩⟩
  exact enriched_idem.symm

/-- Orders with a commented table and a foreign key to customers. -/
def orderBook : MappingModel :=
  let note : ColumnMapping := ⟨"Note", "note", "string", true, some 200, none, none, false, none, []⟩
  let customer : ForeignKeyMapping := ⟨["CustomerId"], "Customer", ["Id"], none, none, true⟩
  ⟨[⟨"Customer", "customers", none, [], ["Id"], [], []⟩,
    ⟨"Order", "orders", some "What was ordered", [note], ["Id"],
      [⟨"IX_placed", ["Placed", "Id"], false⟩], [customer]⟩]⟩

def order : Entity :=
  { Entity.empty "Order" "Shop" with
    properties := [.scalar "Id" "long", .scalar "Note" "string", .scalar "Placed" "DateTime",
      { Property.scalar "Customer" "Customer" with isComplex := true }] }

/-- Each property has got something of its own. -/
def enrichedOrder : Entity :=
  { order with
    comment := some "What was ordered"
    properties :=
      [{ Property.scalar "Id" "long" with isKey := true },
        { Property.scalar "Note" "string" with maxLength := some 200 },
        { Property.scalar "Placed" "DateTime" with isIndexed := true },
        { Property.scalar "Customer" "Customer" with isNavigation := true }]
    navigations := [⟨"Customer", "Customer", some "CustomerId", true, false, false⟩] }

theorem enrich_augments_idem_order :
    orderBook.enrich order = .ok enrichedOrder ∧ order.Augments enrichedOrder ∧
      orderBook.enrich enrichedOrder = .ok enrichedOrder := by
  have computed : (orderBook.enrich order).toOption = some enrichedOrder := by
    decide
  have ok := toOption_eq_some_iff.mp computed
  exact ⟨ok, enrich_augments_idem ok⟩

end MappingModel
end Scaffold
