/-
What a mapping model adds to a declared entity: `enrich_eq_ok_iff`. Names and types stay as they are,
properties that name an entity of the model become navigations, and the navigations are made anew, so
a sound entity that passes the checks again is still sound: `sound_of_enrich`.
-/
import Scaffold.Mapping.Enrich
import Scaffold.Proofs.Entity
import Scaffold.Proofs.Failing

namespace Scaffold
namespace MappingModel

variable {m : MappingModel} {mapping : EntityMapping} {declared e : Entity}

/-- Whether a property is a navigation because of what its type names. -/
def isTarget (m : MappingModel) (p : Property) : Bool :=
  !p.isDictionary && m.contains p.elementName

/-- What enriching a property keeps and changes, as far as types and navigations go. -/
structure Enriches (m : MappingModel) (p q : Property) : Prop where
  name : q.name = p.name
  typeText : q.typeText = p.typeText
  isList : q.isList = p.isList
  isDictionary : q.isDictionary = p.isDictionary
  isEnum : q.isEnum = p.isEnum
  isNullable : q.isNullable = p.isNullable
  isRequired : q.isRequired = p.isRequired
  isNavigation : q.isNavigation = (p.isNavigation || m.isTarget p)
  isComplex : q.isComplex = (p.isComplex && !m.isTarget p)

/-- A mark beside the type, set under a condition. -/
theorem Enriches.mark {p q r : Property} (h : m.Enriches p q) (condition : Bool)
    (same : r.SameShape q) (required : r.isRequired = q.isRequired) :
    m.Enriches p (if condition then r else q) := by
  cases condition with
  | false => exact h
  | true =>
    constructor
    · exact same.name.trans h.name
    · exact same.typeText.trans h.typeText
    · exact same.isList.trans h.isList
    · exact same.isDictionary.trans h.isDictionary
    · exact same.isEnum.trans h.isEnum
    · exact same.isNullable.trans h.isNullable
    · exact required.trans h.isRequired
    · exact same.isNavigation.trans h.isNavigation
    · exact same.isComplex.trans h.isComplex

theorem enriches_enrichProperty (m : MappingModel) (mapping : EntityMapping) (p : Property) :
    m.Enriches p (m.enrichProperty mapping p) := by
  unfold enrichProperty
  extract_lets target kind key leads index
  have kind_spec : m.Enriches p kind := by
    have same : m.isTarget p = target := rfl
    by_cases is_target : target = true
    · rw [show kind = _ from if_pos is_target]
      constructor <;> simp [same, is_target]
    · rw [show kind = _ from if_neg is_target]
      constructor <;> simp [same, is_target]
  have key_spec : m.Enriches p key := kind_spec.mark _ (by constructor <;> rfl) rfl
  have index_spec : m.Enriches p index := key_spec.mark _ (by constructor <;> rfl) rfl
  split
  · exact index_spec.mark _ (by constructor <;> rfl) rfl
  · exact index_spec

theorem Enriches.clear {p q : Property} (h : m.Enriches p q) (clear : p.Clear)
    (allowed : (q.isNavigation && q.isEnum) = false) : q.Clear := by
  obtain ⟨shape, -, navigation, enum⟩ := clear
  refine ⟨?_, allowed, ?_, ?_⟩
  · rw [h.isList, h.isDictionary]
    exact shape
  · rw [h.isNavigation, h.isComplex]
    by_cases target : m.isTarget p = true
    · simp [target]
    · simpa [target] using navigation
  · rw [h.isEnum, h.isComplex]
    simp only [Bool.and_eq_false_imp] at enum ⊢
    intro is_enum
    simp [enum is_enum]

/-- The declared entity with what the mapping says of its properties. -/
def described (m : MappingModel) (mapping : EntityMapping) (declared : Entity) : Entity :=
  { declared with
    comment := declared.comment.or mapping.comment
    properties := declared.properties.map (m.enrichProperty mapping) }

/-- The declared entity with all that its mapping adds. -/
def enriched (m : MappingModel) (mapping : EntityMapping) (declared : Entity) : Entity :=
  let e := m.described mapping declared
  { e with navigations := (e.properties.filter (·.isNavigation)).map (m.navigationOf mapping e) }

theorem enrich_eq_ok_iff :
    m.enrich declared = .ok e ↔ ∃ mapping, m.entity? declared.name = some mapping ∧
      e = m.enriched mapping declared ∧ e.validate = .ok () := by
  unfold enrich
  cases m.entity? declared.name with
  | none => simp
  | some mapping =>
    simp only [bind_eq_ok_iff, Option.some.injEq, exists_eq_left']
    constructor
    · rintro ⟨⟨⟩, valid, run⟩
      cases run
      exact ⟨rfl, valid⟩
    · rintro ⟨rfl, valid⟩
      exact ⟨(), valid, rfl⟩

theorem filePath_enrich (ok : m.enrich declared = .ok e) : e.filePath = declared.filePath := by
  obtain ⟨mapping, -, rfl, -⟩ := enrich_eq_ok_iff.mp ok
  rfl

theorem name_navigationOf (p : Property) : (m.navigationOf mapping e p).name = p.name := by
  unfold navigationOf
  split <;> rfl

theorem isCollection_navigationOf (p : Property) :
    (m.navigationOf mapping e p).isCollection = p.isList := by
  unfold navigationOf
  split
  · next list => exact list.symm
  · next scalar => exact (Bool.of_not_eq_true scalar).symm

theorem isRequired_navigationOf {p : Property}
    (collection : (m.navigationOf mapping e p).isCollection = true) :
    (m.navigationOf mapping e p).isRequired = false := by
  rw [isCollection_navigationOf] at collection
  rw [navigationOf, if_pos collection]
  rfl

theorem navigationOf_collection {p : Property} {k : ForeignKeyMapping} (list : p.isList = true)
    (found : m.inverseKey? e.name p.name p.elementName = some k) :
    m.navigationOf mapping e p = ⟨p.name, p.elementName, k.properties.head?, false, true, false⟩ := by
  rw [navigationOf, if_pos list, collectionNavigation, found]

theorem navigationOf_reference {p : Property} {k : ForeignKeyMapping} (single : p.isList = false)
    (found : mapping.foreignKeyFor? p.name p.elementName = some k) :
    m.navigationOf mapping e p = ⟨p.name, p.elementName, k.properties.head?,
      (e.property? p.name).any (·.isRequired) || k.isRequired, false, false⟩ := by
  rw [navigationOf, if_neg (by simp [single]), referenceNavigation, found]

theorem sound_of_enrich (sound : declared.Sound) (ok : m.enrich declared = .ok e) : e.Sound := by
  obtain ⟨mapping, -, rfl, valid⟩ := enrich_eq_ok_iff.mp ok
  obtain ⟨visible, distinct, allowed⟩ := (Entity.validate_eq_ok_iff _).mp valid
  refine ⟨visible, distinct, fun q mem => ?_, ?_, fun n mem collection => ?_⟩
  · obtain ⟨p, p_mem, rfl⟩ := List.mem_map.mp mem
    exact (enriches_enrichProperty m mapping p).clear (sound.clear p p_mem) (allowed _ mem).2
  · show (List.map _ (List.map _ _)) = _
    rw [List.map_map]
    refine List.map_congr_left fun p _ => ?_
    rw [Function.comp_apply, name_navigationOf, isCollection_navigationOf]
  · obtain ⟨p, -, rfl⟩ := List.mem_map.mp mem
    exact isRequired_navigationOf collection

end MappingModel
end Scaffold
