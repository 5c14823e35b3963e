/-
What the generators rely on in an entity, and what the checks of the model say about it: `Entity.Sound`
and `Entity.validate_eq_ok_iff`. Properties are added one after the other, so an entity has what was
made for each of them, in order and under different names: `Entity.foldlM_eq_ok_iff`.
-/
import Scaffold.Entity
import Scaffold.Proofs.Failing
import Scaffold.Proofs.Keyed

namespace Scaffold
namespace Property

/-- What the checks of the model demand of a property. -/
def Allowed (p : Property) : Prop :=
  (p.isList && p.isDictionary) = false ∧ (p.isNavigation && p.isEnum) = false

/-- One shape, and one kind. -/
structure Clear (p : Property) : Prop where
  shape : (p.isList && p.isDictionary) = false
  navigation_or_enum : (p.isNavigation && p.isEnum) = false
  navigation_or_complex : (p.isNavigation && p.isComplex) = false
  enum_or_complex : (p.isEnum && p.isComplex) = false

theorem shape_ofType (name : String) (t : TypeExpr) :
    ((ofType name t).isList && (ofType name t).isDictionary) = false := by
  show (t.isList && t.isDictionary) = false
  rw [Bool.and_eq_false_imp]
  intro list
  simp only [TypeExpr.isList, Bool.and_eq_true, beq_iff_eq] at list
  simp [TypeExpr.isDictionary, list, TypeExpr.listName, TypeExpr.dictionaryName]

/-- Two properties that say the same about their types. -/
structure SameShape (p q : Property) : Prop where
  name : p.name = q.name
  typeText : p.typeText = q.typeText
  isList : p.isList = q.isList
  isDictionary : p.isDictionary = q.isDictionary
  isEnum : p.isEnum = q.isEnum
  isNullable : p.isNullable = q.isNullable
  isNavigation : p.isNavigation = q.isNavigation
  isComplex : p.isComplex = q.isComplex

namespace SameShape

theorem refl (p : Property) : p.SameShape p := by
  constructor <;> rfl

theorem trans {p q r : Property} (h : p.SameShape q) (h' : q.SameShape r) : p.SameShape r where
  name := h.name.trans h'.name
  typeText := h.typeText.trans h'.typeText
  isList := h.isList.trans h'.isList
  isDictionary := h.isDictionary.trans h'.isDictionary
  isEnum := h.isEnum.trans h'.isEnum
  isNullable := h.isNullable.trans h'.isNullable
  isNavigation := h.isNavigation.trans h'.isNavigation
  isComplex := h.isComplex.trans h'.isComplex

end SameShape

end Property

namespace Entity

open Property

variable {e e' : Entity}

def propertyNames (e : Entity) : List String :=
  e.properties.map (·.name)

/-- What every generator relies on. -/
structure Sound (e : Entity) : Prop where
  visible : Text.isBlankText e.name = false
  distinct : e.propertyNames.Nodup
  clear : ∀ p ∈ e.properties, p.Clear
  /-- The navigations are those of the navigation properties, once each and in their order, and
  are collections where these are lists. -/
  navigations : e.navigations.map (fun n => (n.name, n.isCollection)) =
    (e.properties.filter (·.isNavigation)).map fun p => (p.name, p.isList)
  free : ∀ n ∈ e.navigations, n.isCollection = true → n.isRequired = false

/-! ## Checks -/

theorem firstFault?_eq_none_iff (seen : List String) (properties : List Property) :
    firstFault? seen properties = none ↔
      (∀ p ∈ properties, p.name ∉ seen) ∧ (properties.map (·.name)).Nodup ∧
        ∀ p ∈ properties, p.Allowed := by
  induction properties generalizing seen with
  | nil => simp [firstFault?]
  | cons p rest ih =>
    rw [firstFault?, List.forall_mem_cons, List.map_cons, List.nodup_cons, List.forall_mem_cons]
    by_cases old : p.name ∈ seen
    · simp [old]
    · rw [if_neg (by simpa using old)]
      by_cases both : (p.isList && p.isDictionary) = true
      · have forbidden : ¬p.Allowed := fun allowed => by simp [allowed.1] at both
        simp [both, forbidden]
      · rw [if_neg both]
        by_cases kinds : (p.isNavigation && p.isEnum) = true
        · have forbidden : ¬p.Allowed := fun allowed => by simp [allowed.2] at kinds
          simp [kinds, forbidden]
        · have allowed : p.Allowed := ⟨Bool.of_not_eq_true both, Bool.of_not_eq_true kinds⟩
          rw [if_neg kinds, ih]
          constructor
          · rintro ⟨fresh, distinct, others⟩
            refine ⟨⟨old, fun q hq seen => fresh q hq (List.mem_cons_of_mem _ seen)⟩,
              ⟨fun mem => ?_, distinct⟩, allowed, others⟩
            obtain ⟨q, hq, same⟩ := List.mem_map.mp mem
            exact fresh q hq (List.mem_cons.mpr (.inl same))
          · rintro ⟨⟨-, fresh⟩, ⟨first, distinct⟩, -, others⟩
            refine ⟨fun q hq seen => ?_, distinct, others⟩
            rcases List.mem_cons.mp seen with same | seen
            · exact first (List.mem_map.mpr ⟨q, hq, same⟩)
            · exact fresh q hq seen

/-- The checks of the model are passed by entities with a visible name and distinct properties,
each of which is allowed, and by no others. -/
theorem validate_eq_ok_iff (e : Entity) :
    e.validate = .ok () ↔
      Text.isBlankText e.name = false ∧ e.propertyNames.Nodup ∧ ∀ p ∈ e.properties, p.Allowed := by
  have faultless := firstFault?_eq_none_iff [] e.properties
  rw [validate]
  by_cases blank : Text.isBlankText e.name = true
  · simp [blank]
  · rw [if_neg blank]
    cases fault : firstFault? [] e.properties with
    | some cause =>
      rw [fault] at faultless
      simpa [blank, propertyNames] using faultless
    | none =>
      rw [fault] at faultless
      simpa [blank, propertyNames] using faultless

theorem Sound.validate (sound : e.Sound) : e.validate = .ok () := by
  rw [validate_eq_ok_iff]
  refine ⟨sound.visible, sound.distinct, fun p mem => ?_⟩
  have clear := sound.clear p mem
  exact ⟨clear.shape, clear.navigation_or_enum⟩

/-! ## Adding properties -/

theorem property?_eq_none_iff (e : Entity) (name : String) :
    e.property? name = none ↔ name ∉ e.propertyNames := by
  simp [property?, propertyNames, List.find?_eq_none]

theorem property?_of_mem (distinct : e.propertyNames.Nodup) {p : Property}
    (mem : p ∈ e.properties) : e.property? p.name = some p :=
  find?_of_mem distinct mem

theorem addProperty_eq_ok_iff (e : Entity) (p : Property) :
    e.addProperty p = .ok e' ↔
      p.name ∉ e.propertyNames ∧ e' = { e with properties := e.properties ++ [p] } := by
  rw [addProperty, ← property?_eq_none_iff]
  cases e.property? p.name with
  | none => simp [eq_comm]
  | some q => simp

/-- When properties are made and added one after the other, all of them are made, they come after
those that were there, and all names are different. -/
theorem foldlM_eq_ok_iff {α : Type} {step : Entity → α → Except Failure Entity}
    {make : α → Except Failure Property}
    (steps : ∀ e a e', step e a = .ok e' ↔ ∃ p, make a = .ok p ∧ e.addProperty p = .ok e')
    (items : List α) {start : Entity} (distinct : start.propertyNames.Nodup) :
    items.foldlM step start = .ok e ↔
      ∃ made, List.Forall₂ (fun a p => make a = .ok p) items made ∧
        ((start.properties ++ made).map (·.name)).Nodup ∧
        e = { start with properties := start.properties ++ made } := by
  induction items generalizing start with
  | nil =>
    simp only [List.foldlM_nil, List.forall₂_nil_left_iff, exists_eq_left, List.append_nil]
    constructor
    · rintro ⟨⟩
      exact ⟨distinct, rfl⟩
    · rintro ⟨-, rfl⟩
      rfl
  | cons a rest ih =>
    rw [List.foldlM_cons]
    constructor
    · intro run
      obtain ⟨next, first, run⟩ := eq_ok_of_bind run
      obtain ⟨p, made_p, added⟩ := (steps _ _ _).mp first
      obtain ⟨fresh, rfl⟩ := (addProperty_eq_ok_iff _ _).mp added
      have distinct' : ((start.properties ++ [p]).map (·.name)).Nodup := by
        rw [List.map_append, List.map_singleton]
        exact List.nodup_append'.mpr ⟨distinct, List.nodup_singleton _, by
          simpa [propertyNames] using fresh⟩
      obtain ⟨made, all, names, rfl⟩ :=
        (@ih { start with properties := start.properties ++ [p] } distinct').mp run
      refine ⟨p :: made, .cons made_p all, ?_, ?_⟩
      · simpa using names
      · simp
    · rintro ⟨made, all, names, rfl⟩
      cases all with
      | @cons _ p _ rest_made made_p all =>
        have parts : start.properties ++ p :: rest_made = (start.properties ++ [p]) ++ rest_made := by
          simp
        rw [parts] at names
        have front : ((start.properties ++ [p]).map (·.name)).Nodup := by
          rw [List.map_append] at names
          exact names.of_append_left
        have fresh : p.name ∉ start.propertyNames := by
          intro old
          rw [List.map_append, List.nodup_append'] at front
          exact front.2.2 old (by simp)
        have first : step start a = .ok { start with properties := start.properties ++ [p] } :=
          (steps _ _ _).mpr ⟨p, made_p, (addProperty_eq_ok_iff _ _).mpr ⟨fresh, rfl⟩⟩
        rw [first]
        exact (@ih { start with properties := start.properties ++ [p] } front).mpr
          ⟨rest_made, all, names, by simp⟩

end Entity
end Scaffold
