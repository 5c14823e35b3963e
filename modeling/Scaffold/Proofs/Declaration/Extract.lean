/-
What the extraction of a class does when it succeeds, step by step: `Context.extract_eq_ok_iff`. Each
mapped property is classified, attributes only touch marks that say nothing about types, and the
navigations are those of the properties that name an entity, so that the entity is sound:
`Context.sound_of_extract`.

The innermost name of a type that can be read says what becomes of a property, as an enum or as an entity,
and this name is found again in the property.
-/
import Scaffold.Declaration.Context
import Scaffold.Proofs.Entity
import Scaffold.Proofs.Keyed
import Scaffold.Proofs.TypeExpr.Names

namespace Scaffold

namespace Context

open Property

/-! ## Marks that say nothing about types -/

theorem sameShape_applyAttribute (p : Property) (a : Attribute) : (applyAttribute p a).SameShape p := by
  unfold applyAttribute
  split <;> constructor <;> rfl

theorem sameShape_foldl_applyAttribute (attributes : List Attribute) (p : Property) :
    (attributes.foldl applyAttribute p).SameShape p := by
  induction attributes generalizing p with
  | nil => exact .refl p
  | cons a rest ih => exact (ih (applyAttribute p a)).trans (sameShape_applyAttribute p a)

/-- Of the attributes only one says that a property is required. -/
theorem isRequired_foldl_applyAttribute (attributes : List Attribute) (p : Property) :
    (attributes.foldl applyAttribute p).isRequired =
      (p.isRequired || attributes.any (·.shortName == "Required")) := by
  have one (p : Property) (a : Attribute) :
      (applyAttribute p a).isRequired = (p.isRequired || a.shortName == "Required") := by
    unfold applyAttribute
    split <;> simp_all
  induction attributes generalizing p with
  | nil => simp
  | cons a rest ih => rw [List.foldl_cons, ih, one, List.any_cons, Bool.or_assoc]

/-- What a change of a property keeps is kept when it is made in a list. -/
theorem forall₂_modifyProperty {R : Property → Property → Prop} {name : String}
    {f : Property → Property} (keeps : ∀ p q, R p q → R (f p) q) {ps qs : List Property}
    (h : List.Forall₂ R ps qs) : List.Forall₂ R (Entity.modifyProperty.go name f ps) qs := by
  induction h with
  | nil => exact .nil
  | cons first rest ih =>
    rw [Entity.modifyProperty.go]
    split
    · exact .cons (keeps _ _ first) rest
    · exact .cons first ih

/-- Indexes only mark properties as indexed. -/
theorem markIndexes_eq (chain : List Declaration) (e : Entity) :
    ∃ marked, markIndexes chain e = { e with properties := marked } ∧
      List.Forall₂ (fun q p => q.SameShape p ∧ q.isRequired = p.isRequired) marked e.properties := by
  have marks (columns : List String) (marked : List Property)
      (same : List.Forall₂ (fun q p => q.SameShape p ∧ q.isRequired = p.isRequired)
        marked e.properties) :
      ∃ marked', columns.foldl (fun e column => e.modifyProperty column
          fun p => { p with isIndexed := true }) { e with properties := marked } =
        { e with properties := marked' } ∧
          List.Forall₂ (fun q p => q.SameShape p ∧ q.isRequired = p.isRequired)
            marked' e.properties := by
    induction columns generalizing marked with
    | nil => exact ⟨marked, rfl, same⟩
    | cons column rest ih =>
      refine ih _ (forall₂_modifyProperty (fun p q related => ?_) same)
      have marked : ({ p with isIndexed := true } : Property).SameShape p := by constructor <;> rfl
      exact ⟨marked.trans related.1, related.2⟩
  exact marks _ e.properties (List.forall₂_same.mpr fun p _ => ⟨.refl p, rfl⟩)

/-- The columns that the index attributes of a chain name. -/
def indexColumns (chain : List Declaration) : List String :=
  (chain.flatMap fun d => d.attributes.filter (·.shortName == "Index")).flatMap (·.arguments)

/-- The property, marked as indexed if one of the columns has its name. -/
def indexed (columns : List String) (q : Property) : Property :=
  { q with isIndexed := q.isIndexed || columns.contains q.name }

/-- The property for a declared one of the given type, before its attributes are looked at. -/
def classified (context : Context) (p : PropertyDeclaration) (read : TypeExpr) : Property :=
  let inner := read.innermost.name
  let type := if context.isEnum inner then read.mapInnermost TypeExpr.asEnum else read
  let base := Property.ofType p.name type
  let isNavigation := context.isEntity inner && !base.isDictionary
  { base with
    isNavigation := isNavigation
    isComplex := type.innermost.isReference && !base.isEnum && !isNavigation
      && !context.isEntity inner
    defaultValue := p.defaultValue
    summary := p.comment.bind summaryText
    xml := p.comment }

variable {context : Context} {d : Declaration} {p : PropertyDeclaration} {q : Property}

theorem classify_eq_ok_iff :
    context.classify d p = .ok q ↔ ∃ type, TypeExpr.parse p.typeText = .ok type ∧
      q = p.attributes.foldl applyAttribute (context.classified p type) := by
  unfold Context.classify
  cases TypeExpr.parse p.typeText with
  | error e => simp
  | ok type =>
    simp only [Except.ok.injEq, exists_eq_left', classified]
    exact eq_comm

/-- A property says of its type what the declared type makes of it, and is required if an attribute
says so. -/
def Classifies (context : Context) (p : PropertyDeclaration) (q : Property) : Prop :=
  ∃ type, TypeExpr.parse p.typeText = .ok type ∧ q.SameShape (context.classified p type) ∧
    q.isRequired = p.has "Required"

theorem classifies_of_read {t : TypeExpr} (read : TypeExpr.parse p.typeText = .ok t) :
    context.Classifies p (p.attributes.foldl applyAttribute (context.classified p t)) := by
  refine ⟨t, read, sameShape_foldl_applyAttribute _ _, ?_⟩
  rw [isRequired_foldl_applyAttribute, PropertyDeclaration.has, PropertyDeclaration.attribute?,
    Attribute.find?, List.isSome_find?]
  rfl

theorem classifies_of_classify (ok : context.classify d p = .ok q) : context.Classifies p q := by
  obtain ⟨type, read, rfl⟩ := classify_eq_ok_iff.mp ok
  exact classifies_of_read read

theorem Classifies.name (h : context.Classifies p q) : q.name = p.name := by
  obtain ⟨type, -, same, -⟩ := h
  exact same.name

/-- Complex types are neither enums nor entities. -/
theorem Classifies.clear (h : context.Classifies p q)
    (allowed : (q.isNavigation && q.isEnum) = false) : q.Clear := by
  obtain ⟨type, -, same, -⟩ := h
  refine ⟨?_, allowed, ?_, ?_⟩
  · rw [same.isList, same.isDictionary]
    exact Property.shape_ofType p.name _
  · rw [same.isNavigation, same.isComplex]
    simp only [classified]
    grind
  · rw [same.isEnum, same.isComplex]
    simp only [classified]
    grind

/-! ## Extraction -/

/-- The entity of a class without its properties. -/
def bare (d : Declaration) : Entity :=
  { Entity.empty d.name d.namespaceName with
    moduleName := d.moduleName.filter (!·.isEmpty)
    filePath := d.filePath
    comment := d.comment.bind summaryText }

/-- The entity of a class whose properties were classified. -/
def finished (d : Declaration) (chain : List Declaration) (made : List Property) : Entity :=
  let e := markIndexes chain { bare d with properties := made }
  { e with
    navigations := (mappedProperties chain).filterMap (navigation? (mappedProperties chain) e) }

/-- A class is extracted if it is no enum, its bases are not cyclic, all mapped properties can be
classified under different names, and the result passes the checks of the model. -/
theorem extract_eq_ok_iff {e : Entity} :
    context.extract d = .ok e ↔ d.isEnum = false ∧ ∃ chain made, context.chain d = .ok chain ∧
      List.Forall₂ (fun p q => context.classify d p = .ok q) (mappedProperties chain) made ∧
      (made.map (·.name)).Nodup ∧ e = finished d chain made ∧ e.validate = .ok () := by
  have steps (e : Entity) (p : PropertyDeclaration) (e' : Entity) :
      (do e.addProperty (← context.classify d p)) = .ok e' ↔
        ∃ q, context.classify d p = .ok q ∧ e.addProperty q = .ok e' := bind_eq_ok_iff
  have none : (bare d).propertyNames.Nodup := List.nodup_nil
  unfold extract
  by_cases enum : d.isEnum = true
  · simp [enum, throw, throwThe, MonadExceptOf.throw, bind, Except.bind]
  · rw [if_neg enum]
    simp only [bind_eq_ok_iff]
    constructor
    · rintro ⟨chain, above, filled, fold, ⟨⟩, valid, run⟩
      obtain ⟨made, all, names, rfl⟩ :=
        (Entity.foldlM_eq_ok_iff steps (mappedProperties chain) none).mp fold
      cases run
      exact ⟨Bool.of_not_eq_true enum, chain, made, above, all, names, rfl, valid⟩
    · rintro ⟨-, chain, made, above, all, names, rfl, valid⟩
      have fold := (Entity.foldlM_eq_ok_iff (e := { bare d with properties := made }) steps
        (mappedProperties chain) none).mpr ⟨made, all, names, rfl⟩
      exact ⟨chain, above, _, fold, (), valid, rfl⟩

/-- The properties of an extracted entity are those of its class, classified one by one. -/
theorem finished_properties {chain : List Declaration} {made : List Property}
    (all : List.Forall₂ (fun p q => context.classify d p = .ok q) (mappedProperties chain) made) :
    ∃ ps, List.Forall₂ context.Classifies (mappedProperties chain) ps ∧
      finished d chain made = { bare d with
        properties := ps
        navigations := (mappedProperties chain).filterMap
          (navigation? (mappedProperties chain) { bare d with properties := ps }) } := by
  obtain ⟨marked, same, shapes⟩ := markIndexes_eq chain { bare d with properties := made }
  refine ⟨marked, forall₂_comp all shapes.flip fun p q r classify marks => ?_, ?_⟩
  · obtain ⟨type, read, shape, required⟩ := classifies_of_classify classify
    exact ⟨type, read, marks.1.trans shape, marks.2.trans required⟩
  · rw [finished, same]

/-! ## Navigations -/

/-- The navigations are those of the navigation properties, in order. -/
theorem map_navigation? {all declared : List PropertyDeclaration} {e : Entity} {ps : List Property}
    (distinct : e.propertyNames.Nodup) (inside : ∀ q ∈ ps, q ∈ e.properties)
    (pairs : List.Forall₂ (fun p q => q.name = p.name) declared ps) :
    (declared.filterMap (navigation? all e)).map (fun n => (n.name, n.isCollection)) =
      (ps.filter (·.isNavigation)).map fun p => (p.name, p.isList) := by
  induction pairs with
  | nil => rfl
  | @cons p q rest others first pairs ih =>
    have found : e.property? p.name = some q := by
      rw [← first]
      exact Entity.property?_of_mem distinct (inside q List.mem_cons_self)
    have tail := ih fun r hr => inside r (List.mem_cons_of_mem q hr)
    rw [List.filterMap_cons, List.filter_cons]
    by_cases navigation : q.isNavigation = true
    · simp [navigation?, found, navigation, tail, first]
    · simp [navigation?, found, navigation, tail]

theorem isRequired_of_navigation? {all : List PropertyDeclaration} {e : Entity}
    {n : Navigation} (made : navigation? all e p = some n) (collection : n.isCollection = true) :
    n.isRequired = false := by
  unfold navigation? at made
  split at made
  · cases made
  · split at made
    · cases made
    · cases made
      simp only at collection
      simp [collection]

theorem sound_of_extract {e : Entity} (ok : context.extract d = .ok e) : e.Sound := by
  obtain ⟨-, chain, made, -, all, -, rfl, valid⟩ := extract_eq_ok_iff.mp ok
  obtain ⟨ps, pairs, same⟩ := finished_properties all
  rw [same] at valid ⊢
  obtain ⟨visible, distinct, allowed⟩ := (Entity.validate_eq_ok_iff _).mp valid
  refine ⟨visible, distinct, fun q mem => ?_, ?_, fun n mem collection => ?_⟩
  · obtain ⟨p, -, classifies⟩ := exists_of_mem_right pairs mem
    exact classifies.clear (allowed q mem).2
  · exact map_navigation? distinct (fun q mem => mem) (pairs.imp fun p q h => h.name)
  · obtain ⟨p, -, made⟩ := List.mem_filterMap.mp mem
    exact isRequired_of_navigation? made collection

end Context

/-! ## Properties of types that can be read -/

namespace Property

open TypeExpr

/-- The name inside the type of a property is found again in its text. -/
theorem elementName_of_typeText {q : Property} {t : TypeExpr} (simple : t.Simple)
    (same : q.typeText = t.canonicalName) : q.elementName = t.innermost.name := by
  rw [elementName, textType, ofText, same, simple.canonical.parse_canonicalName, Option.getD_some,
    canonicalName_of_plain, name_innermost_withNullable]
  rw [args_innermost_withNullable]
  exact simple.plain

end Property

namespace Context

open TypeExpr

variable {context : Context} {p : PropertyDeclaration} {q : Property} {t : TypeExpr}

/-- No name of an entity is the name of an enum too, unless it is another spelling of a primitive and so
never the name of a type that is read. -/
def Apart (context : Context) : Prop :=
  ∀ name, context.isEntity name = true → context.isEnum name = true → IsAlias name

/-- A property is an enum if the name inside its type is that of one. -/
theorem isEnum_classified (read : TypeExpr.parse p.typeText = .ok t) :
    (context.classified p t).isEnum = context.isEnum t.innermost.name := by
  show (TypeExpr.innermost _).isEnum = _
  split
  · next enum => rw [enum, isEnum_innermost_mapInnermost_asEnum]
  · next other => rw [Bool.of_not_eq_true other, isEnum_innermost_of_parse read]

theorem isDictionary_classified (p : PropertyDeclaration) (t : TypeExpr) :
    (context.classified p t).isDictionary = t.isDictionary := by
  show TypeExpr.isDictionary _ = _
  split
  · exact isDictionary_mapInnermost_asEnum t
  · rfl

/-- It is a navigation if the name inside its type is that of an entity, unless it is a map. -/
theorem isNavigation_classified (p : PropertyDeclaration) (t : TypeExpr) :
    (context.classified p t).isNavigation =
      (context.isEntity t.innermost.name && !t.isDictionary) := by
  rw [← isDictionary_classified p]
  rfl

/-- What is known of a property by the type that its declaration has. -/
structure Shows (context : Context) (p : PropertyDeclaration) (t : TypeExpr) (q : Property) : Prop where
  name : q.name = p.name
  isList : q.isList = t.isList
  isDictionary : q.isDictionary = t.isDictionary
  isEnum : q.isEnum = context.isEnum t.innermost.name
  isNavigation : q.isNavigation = (context.isEntity t.innermost.name && !t.isDictionary)
  elementName : q.elementName = t.innermost.name
  isRequired : q.isRequired = p.has "Required"

theorem Classifies.shows (classifies : context.Classifies p q)
    (read : TypeExpr.parse p.typeText = .ok t) (simple : t.Simple) : context.Shows p t q := by
  obtain ⟨t', read', same, required⟩ := classifies
  rw [read] at read'
  cases read'
  have text : (context.classified p t).typeText = t.canonicalName := by
    show TypeExpr.canonicalName _ = _
    split
    · exact canonicalName_mapInnermost_asEnum t
    · rfl
  constructor
  · exact same.name
  · rw [same.isList]
    show TypeExpr.isList _ = _
    split
    · exact isList_mapInnermost_asEnum t
    · rfl
  · exact same.isDictionary.trans (isDictionary_classified p t)
  · exact same.isEnum.trans (isEnum_classified read)
  · exact same.isNavigation.trans (isNavigation_classified p t)
  · exact Property.elementName_of_typeText simple (same.typeText.trans text)
  · exact required

end Context
end Scaffold
