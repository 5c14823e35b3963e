/-
The declarations that a mapping model gives: one class for every entity, with the properties of its
columns and foreign keys and with collections under names of their own (`classes_spec`), and enums
that columns name. A class is extracted if the types of its properties can be read and nothing they name is
both an enum and an entity: `extract_class`.
-/
import Mathlib.Data.List.Nodup
import Scaffold.Input.Extract
import Scaffold.Mapping.Declare
import Scaffold.Proofs.Declaration.Chain
import Scaffold.Proofs.Declaration.Extract
import Scaffold.Proofs.Keyed
import Scaffold.Proofs.Mapping.Enrich

namespace Scaffold
namespace MappingModel

variable {m : MappingModel} {namespaceName : String} {e : EntityMapping} {ds : List Declaration}

/-! ## Collections -/

def collection (name element : String) : PropertyDeclaration :=
  .plain name ("List<" ++ element ++ ">")

/-- A name that collections and references of an entity may be about: its own, or a principal's. -/
def Relates (e : EntityMapping) (name : String) : Prop :=
  ∃ k ∈ e.foreignKeys, name = e.name ∨ name = k.principal

/-- What one foreign key does to the classes. -/
def addInverse (e : EntityMapping) (classes : List Declaration) (k : ForeignKeyMapping) :
    List Declaration :=
  match k.inverse with
  | some name => addCollection k.principal name e.name classes
  | none => classes

theorem addCollections_of_not_join (no_join : e.isJoinTable = false) (ds : List Declaration) :
    addCollections ds e = e.foreignKeys.foldl (addInverse e) ds := by
  unfold addCollections
  rw [no_join]
  rfl

/-- What every added collection keeps is kept by all collections of an entity. -/
theorem addCollections_induction {P : List Declaration → Prop}
    (step : ∀ ds owner name element, Relates e element → P ds →
      P (addCollection owner name element ds)) (start : P ds) : P (addCollections ds e) := by
  unfold addCollections
  split
  · next first second _ keys =>
    have left : Relates e first.principal := ⟨first, by simp [keys], .inr rfl⟩
    have right : Relates e second.principal := ⟨second, by simp [keys], .inr rfl⟩
    exact step _ _ _ _ left (step _ _ _ _ right start)
  · have all (keys : List ForeignKeyMapping) (inside : keys ⊆ e.foreignKeys)
        (ds : List Declaration) (start : P ds) : P (keys.foldl (addInverse e) ds) := by
      induction keys generalizing ds with
      | nil => exact start
      | cons k rest ih =>
        refine ih (fun k' mem => inside (List.mem_cons_of_mem k mem)) _ ?_
        unfold addInverse
        split
        · exact step _ _ _ _ ⟨k, inside List.mem_cons_self, .inl rfl⟩ start
        · exact start
    exact all e.foreignKeys (fun k mem => mem) ds start

theorem forall₂_addCollection {α : Type} {R : α → Declaration → Prop} {as : List α}
    {owner name element : String}
    (keeps : ∀ a d, R a d → R a (addCollectionTo name element d)) (h : List.Forall₂ R as ds) :
    List.Forall₂ R as (addCollection owner name element ds) := by
  induction h with
  | nil => exact .nil
  | cons first rest ih =>
    rw [addCollection]
    split
    · exact .cons (keeps _ _ first) rest
    · exact .cons first ih

/-! ## Written types -/

open TypeExpr

/-- A name with a mark for null is read as what the name is taken for. -/
theorem parse_markedType {name : String} (plain : PlainName name) (nullable : Bool) :
    parse (markedType name nullable) = .ok ((apply name []).withNullable nullable) := by
  have written : markedType name nullable = ((reference name).withNullable nullable).text := by
    cases nullable <;> simp [markedType, TypeExpr.withNullable, reference, text, argsText]
  rw [written, parse_text_of_plain (plain_reference plain nullable), reread_reference]

theorem navigation_of_referenceProperty? {k : ForeignKeyMapping} {p : PropertyDeclaration}
    (made : referenceProperty? k = some p) : k.navigation = some p.name := by
  obtain ⟨name, named, rfl⟩ := Option.map_eq_some_iff.mp made
  exact named

theorem parse_referenceProperty? {k : ForeignKeyMapping} {p : PropertyDeclaration}
    (plain : PlainName k.principal) (made : referenceProperty? k = some p) :
    parse p.typeText = .ok ((apply k.principal []).withNullable (!k.isRequired)) := by
  obtain ⟨name, -, rfl⟩ := Option.map_eq_some_iff.mp made
  exact parse_markedType plain _

theorem parse_collection {name element : String} (plain : PlainName element) :
    parse (collection name element).typeText = .ok (list (apply element [])) := by
  let inner := (reference element).withNullable false
  have written : (collection name element).typeText = (list inner).text := by
    simp [inner, collection, PropertyDeclaration.plain, list, listName, TypeExpr.withNullable, reference,
      text, argsText, restText, ← String.append_assoc]
  rw [written, parse_text_of_plain (plain_list (plain_reference plain false)), reread_list,
    reread_reference, withNullable_apply]

/-! ## Classes -/

def classes (m : MappingModel) (namespaceName : String) : List Declaration :=
  m.entities.foldl addCollections (m.entities.map (classOf namespaceName))

theorem declarations_eq (m : MappingModel) (namespaceName : String) :
    m.declarations namespaceName = m.classes namespaceName ++ enums namespaceName m := rfl

/-- What the class for an entity looks like: it has the properties of columns and references, and
after them collections, each under a name that no other property has. -/
structure ClassFor (m : MappingModel) (namespaceName : String) (e : EntityMapping) (d : Declaration) :
    Prop where
  name : d.name = e.name
  isEnum : d.isEnum = false
  base : d.base = none
  filePath : d.filePath = none
  properties : ∃ added, d.properties = (classOf namespaceName e).properties ++ added ∧
    (added.map (·.name)).Nodup ∧
    (∀ p ∈ added, ∀ q ∈ (classOf namespaceName e).properties, q.name ≠ p.name) ∧
    ∀ p ∈ added, ∃ e' ∈ m.entities, ∃ element, Relates e' element ∧ p = collection p.name element

theorem classFor_classOf (m : MappingModel) (namespaceName : String) (e : EntityMapping) :
    ClassFor m namespaceName e (classOf namespaceName e) :=
  ⟨rfl, rfl, rfl, rfl, [], by simp⟩

theorem ClassFor.addCollectionTo {e' : EntityMapping} {d : Declaration} {name element : String}
    (h : ClassFor m namespaceName e d) (mem : e' ∈ m.entities) (relates : Relates e' element) :
    ClassFor m namespaceName e (addCollectionTo name element d) := by
  unfold MappingModel.addCollectionTo
  split
  · next fresh =>
    refine ⟨h.name, h.isEnum, h.base, h.filePath, ?_⟩
    obtain ⟨added, properties, distinct, apart, collections⟩ := h.properties
    simp only [properties, List.all_append, Bool.and_eq_true, List.all_eq_true, bne_iff_ne] at fresh
    obtain ⟨not_own, not_added⟩ := fresh
    refine ⟨added ++ [collection name element], ?_, ?_, ?_, ?_⟩
    · rw [← List.append_assoc, ← properties]
      rfl
    · rw [List.map_append, List.nodup_append']
      refine ⟨distinct, List.nodup_singleton _, fun n old new => ?_⟩
      obtain ⟨p, p_mem, same⟩ := List.mem_map.mp old
      exact not_added p p_mem (same.trans (List.mem_singleton.mp new))
    · intro p p_mem q q_mem
      rcases List.mem_append.mp p_mem with old | new
      · exact apart p old q q_mem
      · rw [List.mem_singleton.mp new]
        exact not_own q q_mem
    · intro p p_mem
      rcases List.mem_append.mp p_mem with old | new
      · exact collections p old
      · exact ⟨e', mem, element, relates, by rw [List.mem_singleton.mp new]; rfl⟩
  · exact h

/-- Every entity has its class, and there are no others. -/
theorem classes_spec (m : MappingModel) (namespaceName : String) :
    List.Forall₂ (ClassFor m namespaceName) m.entities (m.classes namespaceName) := by
  have all (es : List EntityMapping) (inside : es ⊆ m.entities) (ds : List Declaration)
      (start : List.Forall₂ (ClassFor m namespaceName) m.entities ds) :
      List.Forall₂ (ClassFor m namespaceName) m.entities (es.foldl addCollections ds) := by
    induction es generalizing ds with
    | nil => exact start
    | cons e rest ih =>
      refine ih (fun e' mem => inside (List.mem_cons_of_mem e mem)) _ ?_
      refine addCollections_induction (fun ds owner name element relates start => ?_) start
      exact forall₂_addCollection
        (fun a d h => h.addCollectionTo (inside List.mem_cons_self) relates) start
  refine all m.entities (fun e mem => mem) _ ?_
  rw [List.forall₂_map_right_iff, List.forall₂_same]
  exact fun e _ => classFor_classOf m namespaceName e

/-! ## Enums -/

/-- Of the enums of all columns each name is declared once, as it comes first. -/
theorem enums_eq (m : MappingModel) (namespaceName : String) :
    enums namespaceName m =
      firsts (·.name) ((m.entities.flatMap (·.columns)).filterMap (enumOf? namespaceName)) :=
  foldl_addNew_nil _ _

theorem mem_enums {d : Declaration} (mem : d ∈ enums namespaceName m) :
    d.isEnum = true ∧ ∃ e ∈ m.entities, ∃ c ∈ e.columns, c.enumType = some d.name := by
  rw [enums_eq] at mem
  obtain ⟨c, c_mem, made⟩ := List.mem_filterMap.mp ((firsts_sublist _ _).subset mem)
  obtain ⟨e, e_mem, c_mem⟩ := List.mem_flatMap.mp c_mem
  obtain ⟨name, named, rfl⟩ := Option.map_eq_some_iff.mp made
  exact ⟨rfl, e, e_mem, c, c_mem, named⟩

theorem mem_classes {d : Declaration} (mem : d ∈ m.declarations namespaceName)
    (no_enum : d.isEnum = false) : d ∈ m.classes namespaceName := by
  rcases List.mem_append.mp mem with cls | enum
  · exact cls
  · rw [(mem_enums enum).1] at no_enum
    cases no_enum

theorem filePath_declarations {d : Declaration} (mem : d ∈ m.declarations namespaceName) :
    d.filePath = none := by
  rcases List.mem_append.mp mem with cls | enum
  · obtain ⟨e, -, h⟩ := exists_of_mem_right (classes_spec m namespaceName) cls
    exact h.filePath
  · rw [enums_eq] at enum
    obtain ⟨c, -, made⟩ := List.mem_filterMap.mp ((firsts_sublist _ _).subset enum)
    obtain ⟨name, -, rfl⟩ := Option.map_eq_some_iff.mp made
    rfl

/-! ## The context of all declarations -/

def context (m : MappingModel) (namespaceName : String) : Context :=
  .ofDeclarations (m.declarations namespaceName)

def classInput (m : MappingModel) (namespaceName : String) (d : Declaration) : EntityInput :=
  .relational (m.context namespaceName) m d

theorem isEntity_context (name : String) :
    (m.context namespaceName).isEntity name = true ↔ ∃ e ∈ m.entities, e.name = name := by
  rw [context, Context.isEntity_ofDeclarations, declarations_eq]
  have spec := classes_spec m namespaceName
  constructor
  · rintro ⟨d, mem, no_enum, named⟩
    rcases List.mem_append.mp mem with cls | enum
    · obtain ⟨e, e_mem, h⟩ := exists_of_mem_right spec cls
      exact ⟨e, e_mem, h.name.symm.trans named⟩
    · rw [(mem_enums enum).1] at no_enum
      cases no_enum
  · rintro ⟨e, e_mem, named⟩
    obtain ⟨d, mem, h⟩ := exists_of_mem_left spec e_mem
    exact ⟨d, List.mem_append_left _ mem, h.isEnum, h.name.trans named⟩

theorem exists_enumType_of_isEnum {name : String} (enum : (m.context namespaceName).isEnum name = true) :
    ∃ e ∈ m.entities, ∃ c ∈ e.columns, c.enumType = some name := by
  rw [context, Context.isEnum_ofDeclarations, declarations_eq] at enum
  obtain ⟨d, mem, is_enum, named⟩ := enum
  rcases List.mem_append.mp mem with cls | enum
  · obtain ⟨e, -, h⟩ := exists_of_mem_right (classes_spec m namespaceName) cls
    rw [h.isEnum] at is_enum
    cases is_enum
  · rw [← named]
    exact (mem_enums enum).2

theorem contains_eq_isEntity (m : MappingModel) (namespaceName name : String) :
    m.contains name = (m.context namespaceName).isEntity name := by
  rw [Bool.eq_iff_iff, isEntity_context, contains, entity?, List.isSome_find?, List.any_eq_true]
  simp only [beq_iff_eq]

end MappingModel

/-! ## Entities from the classes -/

namespace MappingModel

open TypeExpr Context

variable {m : MappingModel} {namespaceName : String} {d : Declaration}

/-- What is extracted from a class without bases: its mapped properties are classified one by one,
and enriched by the mapping of the class. -/
theorem extract_classInput {e : Entity} (base : d.base = none)
    (ok : (m.classInput namespaceName d).extract = .ok e) :
    ∃ mapping declared, m.entity? d.name = some mapping ∧ declared.name = d.name ∧
      List.Forall₂ (m.context namespaceName).Classifies (mappedProperties [d]) declared.properties ∧
      e = m.enriched mapping declared ∧ e.propertyNames.Nodup := by
  obtain ⟨declared, first, second⟩ := eq_ok_of_bind ok
  obtain ⟨-, chain, made, above, all, -, rfl, -⟩ := extract_eq_ok_iff.mp first
  obtain ⟨mapping, found, rfl, valid⟩ := enrich_eq_ok_iff.mp second
  rw [chain_of_base_eq_none base] at above
  cases above
  obtain ⟨ps, pairs, same⟩ := finished_properties all
  have distinct := ((Entity.validate_eq_ok_iff _).mp valid).2.1
  rw [same] at found distinct ⊢
  exact ⟨mapping, _, found, rfl, pairs, rfl, distinct⟩

/-- The navigation of an entity for a declared property: it is made of a described property that says
of the type what the declaration says. -/
structure Navigates (m : MappingModel) (d : Declaration) (p : PropertyDeclaration) (t : TypeExpr)
    (e : Entity) (mapping : EntityMapping) (described : Entity) (q : Property) : Prop where
  entity : m.entity? d.name = some mapping
  owner : described.name = d.name
  property : described.property? p.name = some q
  name : q.name = p.name
  isList : q.isList = t.isList
  elementName : q.elementName = t.innermost.name
  isRequired : q.isRequired = p.has "Required"
  navigation : e.navigation? p.name = some (m.navigationOf mapping described q)

/-- An extracted class has a navigation for a property that names an entity. -/
theorem navigates_of_extract {e : Entity} {p : PropertyDeclaration} {t : TypeExpr}
    (base : d.base = none) (ok : (m.classInput namespaceName d).extract = .ok e) (only : d.HasOnly p)
    (mapped : p.isMapped = true) (read : TypeExpr.parse p.typeText = .ok t) (simple : t.Simple)
    (entity : (m.context namespaceName).isEntity t.innermost.name = true)
    (no_map : t.isDictionary = false) :
    ∃ mapping described q, m.Navigates d p t e mapping described q := by
  obtain ⟨mapping, declared, found, named, pairs, rfl, distinct⟩ := extract_classInput base ok
  obtain ⟨q, q_mem, classifies⟩ := exists_of_mem_left pairs (mem_mappedProperties only mapped)
  have shows := classifies.shows read simple
  have enriches := enriches_enrichProperty m mapping q
  have q'_mem : m.enrichProperty mapping q ∈ (m.described mapping declared).properties :=
    List.mem_map_of_mem q_mem
  have name : (m.enrichProperty mapping q).name = p.name := enriches.name.trans shows.name
  have navigation : (m.enrichProperty mapping q).isNavigation = true := by
    rw [enriches.isNavigation, shows.isNavigation, entity, no_map]
    rfl
  refine ⟨mapping, m.described mapping declared, m.enrichProperty mapping q, ?_⟩
  constructor
  · exact found
  · exact named
  · rw [← name]
    exact Entity.property?_of_mem distinct q'_mem
  · exact name
  · exact enriches.isList.trans shows.isList
  · rw [Property.elementName, Property.textType, enriches.typeText]
    exact shows.elementName
  · exact enriches.isRequired.trans shows.isRequired
  · have names : ((m.enriched mapping declared).navigations.map (·.name)).Nodup := by
      show (List.map _ (List.map _ _)).Nodup
      rw [List.map_map, show (·.name) ∘ m.navigationOf mapping _ = (·.name) from funext name_navigationOf]
      exact List.Nodup.sublist (List.filter_sublist.map _) distinct
    have mem : m.navigationOf mapping (m.described mapping declared) (m.enrichProperty mapping q) ∈
        (m.enriched mapping declared).navigations :=
      List.mem_map_of_mem (List.mem_filter.mpr ⟨q'_mem, navigation⟩)
    have first := find?_of_mem names mem
    rw [name_navigationOf, name] at first
    exact first

/-- A property of a type that can be read is no navigation if it is an enum, before and after the
mapping is looked at. -/
theorem not_navigation_of_isEnum {p : PropertyDeclaration} {q q' : Property} {t : TypeExpr}
    (shows : (m.context namespaceName).Shows p t q) (enriches : m.Enriches q q') (simple : t.Simple)
    (apart : (m.context namespaceName).Apart) :
    (q.isNavigation && q.isEnum) = false ∧ (q'.isNavigation && q'.isEnum) = false := by
  have other : ((m.context namespaceName).isEntity t.innermost.name &&
      (m.context namespaceName).isEnum t.innermost.name) = false := by
    rw [Bool.and_eq_false_imp]
    intro entity
    by_contra enum
    exact simple.canonical.not_isAlias (apart _ entity (Bool.of_not_eq_false enum))
  rw [enriches.isNavigation, enriches.isEnum, isTarget, shows.elementName,
    contains_eq_isEntity m namespaceName, shows.isNavigation, shows.isEnum]
  revert other
  cases (m.context namespaceName).isEntity t.innermost.name <;>
    cases (m.context namespaceName).isEnum t.innermost.name <;> simp

/-- It passes the checks of the model, before and after. -/
theorem allowed_of_classifies {p : PropertyDeclaration} {q : Property} {t : TypeExpr}
    (classifies : (m.context namespaceName).Classifies p q)
    (parsed : TypeExpr.parse p.typeText = .ok t) (simple : t.Simple)
    (apart : (m.context namespaceName).Apart) (mapping : EntityMapping) :
    q.Allowed ∧ (m.enrichProperty mapping q).Allowed := by
  have enriches := enriches_enrichProperty m mapping q
  have shape : (q.isList && q.isDictionary) = false := by
    obtain ⟨t, -, same, -⟩ := classifies
    rw [same.isList, same.isDictionary]
    exact Property.shape_ofType p.name _
  obtain ⟨before, after⟩ :=
    not_navigation_of_isEnum (classifies.shows parsed simple) enriches simple apart
  refine ⟨⟨shape, before⟩, ?_, after⟩
  rw [enriches.isList, enriches.isDictionary]
  exact shape

theorem extract_class (cls : d ∈ m.classes namespaceName) (visible : Text.isBlankText d.name = false)
    (read : ∀ p ∈ d.properties, ∃ t, TypeExpr.parse p.typeText = .ok t ∧ t.Simple)
    (apart : (m.context namespaceName).Apart) :
    ∃ e, (m.classInput namespaceName d).extract = .ok e ∧ e.name = d.name := by
  obtain ⟨mapped, mapped_mem, cls⟩ := exists_of_mem_right (classes_spec m namespaceName) cls
  have chain : (m.context namespaceName).chain d = .ok [d] := chain_of_base_eq_none cls.base
  -- Every mapped property is classified.
  have classified : ∀ p ∈ mappedProperties [d], ∃ q, (m.context namespaceName).classify d p = .ok q := by
    intro p mem
    obtain ⟨t, parsed, -⟩ := read p (mem_of_mem_mappedProperties mem)
    exact ⟨_, classify_eq_ok_iff.mpr ⟨t, parsed, rfl⟩⟩
  obtain ⟨made, all⟩ := exists_forall₂ classified
  have made_distinct : (made.map (·.name)).Nodup := by
    rw [← map_eq_map (f := (·.name)) all fun p q ok => (classifies_of_classify ok).name.symm]
    exact nodup_mappedProperties [d]
  obtain ⟨ps, pairs, same⟩ := finished_properties all
  have ps_distinct : (ps.map (·.name)).Nodup := by
    rw [← map_eq_map (f := (·.name)) pairs fun p q h => h.name.symm]
    exact nodup_mappedProperties [d]
  have allowed (mapping : EntityMapping) (q : Property) (mem : q ∈ ps) :
      q.Allowed ∧ (m.enrichProperty mapping q).Allowed := by
    obtain ⟨p, p_mem, classifies⟩ := exists_of_mem_right pairs mem
    obtain ⟨t, parsed, simple⟩ := read p (mem_of_mem_mappedProperties p_mem)
    exact allowed_of_classifies classifies parsed simple apart mapping
  -- The class is extracted as declared, and again with its mapping.
  have declared : (m.context namespaceName).extract d = .ok (finished d [d] made) := by
    refine extract_eq_ok_iff.mpr ⟨cls.isEnum, [d], made, chain, all, made_distinct, rfl, ?_⟩
    rw [same, Entity.validate_eq_ok_iff]
    exact ⟨visible, ps_distinct, fun q mem => (allowed mapped q mem).1⟩
  obtain ⟨mapping, found⟩ : ∃ mapping, m.entity? d.name = some mapping := by
    rw [entity?, ← Option.isSome_iff_exists, List.isSome_find?, List.any_eq_true]
    exact ⟨mapped, mapped_mem, by simp [cls.name]⟩
  refine ⟨m.enriched mapping (finished d [d] made), ?_, by rw [same]; rfl⟩
  show (do m.enrich (← (m.context namespaceName).extract d)) = _
  rw [declared]
  refine enrich_eq_ok_iff.mpr ⟨mapping, ?_, rfl, ?_⟩
  · rw [same]
    exact found
  · rw [same, Entity.validate_eq_ok_iff]
    refine ⟨visible, ?_, fun q mem => ?_⟩
    · show ((ps.map (m.enrichProperty mapping)).map (·.name)).Nodup
      have enriched_names : (ps.map (m.enrichProperty mapping)).map (·.name) = ps.map (·.name) := by
        rw [List.map_map]
        exact List.map_congr_left fun q _ => (enriches_enrichProperty m mapping q).name
      rw [enriched_names]
      exact ps_distinct
    · obtain ⟨p, p_mem, rfl⟩ := List.mem_map.mp mem
      exact (allowed mapping p p_mem).2

end MappingModel
end Scaffold
