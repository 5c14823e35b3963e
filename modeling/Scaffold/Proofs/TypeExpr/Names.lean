/-
Names as types. A name is a primitive or the name of another type; with no other spelling of a primitive
it is found again in the type that is read from it: `name_apply`. Types with one name inside are `Simple`.
Such are the types that schemas resolve to: lists, and maps from texts, around a primitive or a name. Written
as text with marks and read back, such a type is printed as it was, if its name is plain and no other
spelling of a primitive: `renderText_of_resolved`.
-/
import Scaffold.Proofs.TypeExpr.Flattening
import Scaffold.Proofs.TypeTable

namespace Scaffold
namespace TypeExpr

variable {t : TypeExpr}

/-- Another spelling of a primitive than its own name. -/
def IsAlias (name : String) : Prop :=
  ∃ canonical, canonicalPrimitive? name = some canonical ∧ canonical ≠ name

instance (name : String) : Decidable (IsAlias name) :=
  decidable_of_iff ((canonicalPrimitive? name).any (· != name) = true) (by simp [IsAlias, Option.any_eq_true])

/-- What is read has no other spelling of a primitive inside. -/
theorem Canonical.not_isAlias (h : Canonical t) : ¬IsAlias t.innermost.name := by
  obtain ⟨inside, scalar⟩ := h.innermost
  generalize t.innermost = inner at inside scalar
  rintro ⟨c, known, other⟩
  cases inside with
  | primitive p =>
    rw [canonicalPrimitive?_name] at known
    exact other (Option.some.inj known).symm
  | list => exact absurd scalar.1 (by simp [isList])
  | dictionary => exact absurd scalar.2 (by simp [isDictionary])
  | reference _ _ unknown =>
    rw [unknown] at known
    cases known

theorem canonicalName_of_plain (plain : t.args = []) : t.canonicalName = t.name := by
  obtain ⟨name, args, r, e, u⟩ := t
  cases plain
  simp [canonicalName, withNullable, text, argsText]

theorem canonicalName_mapInnermost_asEnum (t : TypeExpr) :
    (t.mapInnermost asEnum).canonicalName = t.canonicalName := by
  rw [canonicalName, canonicalName, ← mapInnermost_asEnum_withNullable, text_mapInnermost_asEnum]

@[simp] theorem isDictionary_mapInnermost_asEnum (t : TypeExpr) :
    (t.mapInnermost asEnum).isDictionary = t.isDictionary := by
  cases t using wrapping_induction with
  | scalar t scalar => rw [scalar.mapInnermost]; rfl
  | list element r e u => simp [isDictionary]
  | dictionary key value r e u => simp [isDictionary]

/-- A canonical type whose innermost type has no arguments, so that its name says all of it. -/
structure Simple (t : TypeExpr) : Prop where
  canonical : Canonical t
  plain : t.innermost.args = []

theorem Simple.withNullable (simple : t.Simple) (nullable : Bool) : (t.withNullable nullable).Simple := by
  refine ⟨simple.canonical.withNullable nullable, ?_⟩
  rw [args_innermost_withNullable]
  exact simple.plain

theorem Simple.list (simple : t.Simple) : (list t).Simple := by
  refine ⟨.list false simple.canonical, ?_⟩
  rw [TypeExpr.list, innermost_list]
  exact simple.plain

/-! ## Names as types -/

variable {name : String}

theorem apply_of_primitive {canonical : String} (known : canonicalPrimitive? name = some canonical) :
    apply name [] = named canonical := by
  simp only [TypeExpr.apply, known]

theorem apply_of_reference (other : canonicalPrimitive? name = none) :
    apply name [] = reference name := by
  simp only [TypeExpr.apply, other]

theorem canonical_apply (plain : PlainName name) : Canonical (apply name []) := by
  cases known : canonicalPrimitive? name with
  | some canonical =>
    rw [apply_of_primitive known]
    obtain ⟨p, rfl⟩ := eq_name_of_canonicalPrimitive? known
    exact .primitive p false
  | none =>
    rw [apply_of_reference known]
    exact .reference false plain known (by simp [IsWrapper]) (List.forall_mem_nil _)

theorem args_apply (name : String) : (apply name []).args = [] := by
  cases known : canonicalPrimitive? name with
  | some canonical => rw [apply_of_primitive known, named]
  | none => rw [apply_of_reference known, reference]

theorem isScalar_apply (name : String) : IsScalar (apply name []) := by
  simp [IsScalar, isList, isDictionary, args_apply]

theorem simple_apply (plain : PlainName name) : (apply name []).Simple := by
  refine ⟨canonical_apply plain, ?_⟩
  rw [(isScalar_apply name).innermost]
  exact args_apply name

theorem name_apply (own : ¬IsAlias name) : (apply name []).name = name := by
  cases known : canonicalPrimitive? name with
  | some canonical =>
    rw [apply_of_primitive known]
    exact not_not.mp fun other => own ⟨canonical, known, other⟩
  | none => rw [apply_of_reference known, reference]

theorem withNullable_apply (name : String) : (apply name []).withNullable false = apply name [] := by
  cases known : canonicalPrimitive? name with
  | some canonical => rw [apply_of_primitive known]; rfl
  | none => rw [apply_of_reference known]; rfl

theorem plain_reference (plain : PlainName name) (nullable : Bool) :
    Plain ((reference name).withNullable nullable) :=
  .mk plain (List.forall_mem_nil _)

theorem reread_reference (name : String) (nullable : Bool) :
    ((reference name).withNullable nullable).reread = (apply name []).withNullable nullable := by
  rw [TypeExpr.withNullable, reference, reread, rereadAll]
  cases nullable with
  | true => rfl
  | false => exact (withNullable_apply name).symm

theorem plain_list (inside : Plain t) : Plain (list t) :=
  .mk (by decide) (List.forall_mem_singleton.mpr inside)

theorem reread_list (t : TypeExpr) : (list t).reread = list t.reread := by
  have not_null : listName ∉ nullableWrappers := by decide
  have is_list : listName ∈ listWrappers := by decide
  simp only [list, reread, rereadAll, TypeExpr.apply, if_neg not_null, if_pos is_list]
  rfl

end TypeExpr

/-! ## Types of schemas -/

namespace TypeExpr

/-- The types that schemas resolve to. -/
inductive Resolved : TypeExpr → Prop where
  | primitive (p : Primitive) (nullable : Bool) : Resolved ⟨p.name, [], false, false, nullable⟩
  | name (name : String) (isEnum nullable : Bool) : Resolved ⟨name, [], true, isEnum, nullable⟩
  | list {element : TypeExpr} (nullable : Bool) (inside : Resolved element) :
      Resolved ⟨listName, [element], false, false, nullable⟩
  | dictionary {value : TypeExpr} (nullable : Bool) (inside : Resolved value) :
      Resolved ⟨dictionaryName, [.primitive "string", value], false, false, nullable⟩

namespace Resolved

variable {t : TypeExpr}

theorem withNullable (h : Resolved t) (nullable : Bool) : Resolved (t.withNullable nullable) := by
  cases h with
  | primitive p => exact .primitive p nullable
  | name name isEnum => exact .name name isEnum nullable
  | list _ inside => exact .list nullable inside
  | dictionary _ inside => exact .dictionary nullable inside

theorem reference (name : String) : Resolved (reference name) :=
  .name name false false

theorem enumeration (name : String) : Resolved (enumeration name) :=
  .name name true false

theorem of_primitive (p : Primitive) : Resolved (TypeExpr.primitive p.name) := by
  rw [TypeExpr.primitive, canonicalPrimitive?_name]
  exact .primitive p false

end Resolved

/-! ## Reading back -/

/-- What a type is read back as: the same text, and either the same type without its marks for enums or
one that is printed alike. -/
structure Reading (t s : TypeExpr) : Prop where
  canonical : Canonical s
  plain : s.innermost.args = []
  text : s.text = t.text
  canonicalName : s.canonicalName = t.canonicalName
  isList : s.isList = t.isList
  isNullable : s.isNullable = t.isNullable
  enum : t.innermost.isEnum = true → s.mapInnermost asEnum = t
  other : t.innermost.isEnum = false → ∀ target : Target, target.render s = target.render t

namespace Reading

variable {t s : TypeExpr} {name : String} {p : Primitive} {isEnum nullable : Bool}

theorem primitive : Reading ⟨p.name, [], false, false, nullable⟩ ⟨p.name, [], false, false, nullable⟩ where
  canonical := .primitive p nullable
  plain := by simp [innermost]
  text := rfl
  canonicalName := rfl
  isList := rfl
  isNullable := rfl
  enum is_enum := by simp [innermost] at is_enum
  other _ _ := rfl

theorem ofName (plain : PlainName name) (own : ¬IsAlias name) :
    Reading ⟨name, [], true, isEnum, nullable⟩ ((apply name []).withNullable nullable) := by
  have canonical := (canonical_apply plain).withNullable nullable
  obtain ⟨r, same⟩ : ∃ r, apply name [] = ⟨name, [], r, false, false⟩ := by
    have named := name_apply own
    cases known : canonicalPrimitive? name with
    | some c =>
      rw [apply_of_primitive known] at named ⊢
      exact ⟨false, congrArg TypeExpr.named named⟩
    | none => exact ⟨true, apply_of_reference known⟩
  rw [same] at canonical ⊢
  refine ⟨canonical, by simp [innermost, TypeExpr.withNullable], ?_, rfl, rfl, rfl, fun is_enum => ?_,
    fun no_enum target => ?_⟩
  · rw [TypeExpr.withNullable, TypeExpr.text, TypeExpr.text]
  · have is_enum : isEnum = true := by simpa [innermost] using is_enum
    rw [is_enum]
    rfl
  · have no_enum : isEnum = false := by simpa [innermost] using no_enum
    rw [no_enum, TypeExpr.withNullable, Target.render, Target.render]

theorem list (inside : Reading t s) :
    Reading ⟨listName, [t], false, false, nullable⟩ ⟨listName, [s], false, false, nullable⟩ where
  canonical := .list nullable inside.canonical
  plain := by simpa using inside.plain
  text := by simp [TypeExpr.text, argsText, inside.text]
  canonicalName := by
    simp [TypeExpr.canonicalName, TypeExpr.withNullable, TypeExpr.text, argsText, inside.text]
  isList := rfl
  isNullable := rfl
  enum is_enum := by
    rw [innermost_list] at is_enum
    rw [mapInnermost_list, inside.enum is_enum]
  other no_enum target := by
    rw [innermost_list] at no_enum
    simp only [Target.render, Target.renderAll, inside.other no_enum target, List.isEmpty_cons]

theorem dictionary (inside : Reading t s) :
    Reading ⟨dictionaryName, [.primitive "string", t], false, false, nullable⟩
      ⟨dictionaryName, [.primitive "string", s], false, false, nullable⟩ where
  canonical := .dictionary nullable (.primitive .string false) inside.canonical
  plain := by simpa using inside.plain
  text := by simp [TypeExpr.text, argsText, restText, inside.text]
  canonicalName := by
    simp [TypeExpr.canonicalName, TypeExpr.withNullable, TypeExpr.text, argsText, restText, inside.text]
  isList := rfl
  isNullable := rfl
  enum is_enum := by
    rw [innermost_dictionary] at is_enum
    rw [mapInnermost_dictionary, inside.enum is_enum]
  other no_enum target := by
    rw [innermost_dictionary] at no_enum
    simp only [Target.render, Target.renderAll, inside.other no_enum target, List.isEmpty_cons]

end Reading

/-- A type of a schema is read back, if its names are what they are taken for. -/
theorem Resolved.reading {t : TypeExpr} (resolved : Resolved t)
    (names : ∀ name ∈ t.references, PlainName name ∧ ¬IsAlias name) : ∃ s, Reading t s := by
  induction resolved with
  | primitive p nullable => exact ⟨_, .primitive⟩
  | name name isEnum nullable =>
    obtain ⟨plain, own⟩ := names name (by simp [references])
    exact ⟨_, .ofName plain own⟩
  | list nullable _ ih =>
    obtain ⟨s, inside⟩ := ih (by simpa [references, referencesIn] using names)
    exact ⟨_, inside.list⟩
  | @dictionary value nullable _ ih =>
    obtain ⟨s, inside⟩ := ih fun name mem => names name (by simp [references, referencesIn, mem])
    exact ⟨_, inside.dictionary⟩

/-- The text and the marks of a type of a schema are printed as the type. -/
theorem renderText_of_resolved {t : TypeExpr} (resolved : Resolved t)
    (names : ∀ name ∈ t.references, PlainName name ∧ ¬IsAlias name) (target : Target) :
    target.renderText t.canonicalName ⟨t.innermost.isEnum, t.isList, t.isNullable⟩ = target.render t := by
  obtain ⟨s, reading⟩ := resolved.reading names
  cases enum : t.innermost.isEnum with
  | true =>
    have flat : Flat t := reading.enum enum ▸ .enumeration reading.canonical reading.plain
    have described := flat.describe
    rw [enum] at described
    rw [Target.renderText, described]
  | false =>
    have described := (Flat.canonical reading.canonical).describe
    rw [reading.canonical.isEnum_innermost, reading.canonicalName, reading.isList, reading.isNullable]
      at described
    rw [Target.renderText, described, reading.other enum target]

end TypeExpr
end Scaffold
