/-
Canonical types: primitives under their own names, lists, maps, and references whose names mean
nothing else. Reading a type text gives a canonical type, unless a name in the type is empty:
`canonical_of_parse`.
-/
import Mathlib.Data.List.TakeWhile
import Mathlib.Tactic.Tauto
import Scaffold.Proofs.Failing
import Scaffold.TypeExpr.Reader

namespace Scaffold
namespace TypeExpr

/-- A letter, a digit or an underscore. -/
def isPlainChar (c : Char) : Bool :=
  Text.isAlphanumeric c || c == '_'

/-- A name that is not empty and needs no quotes. -/
def PlainName (name : String) : Prop :=
  name ≠ "" ∧ ∀ c ∈ name.toList, isPlainChar c = true

instance (name : String) : Decidable (PlainName name) :=
  decidable_of_iff (name ≠ "" ∧ name.toList.all isPlainChar = true)
    (and_congr_right fun _ => List.all_eq_true)

/-- The name means a list, a map or null when it is applied to so many arguments. -/
def IsWrapper (name : String) (arity : Nat) : Prop :=
  (arity = 1 ∧ (name ∈ nullableWrappers ∨ name ∈ listWrappers)) ∨
    (arity = 2 ∧ name ∈ mapWrappers)

instance (name : String) (arity : Nat) : Decidable (IsWrapper name arity) :=
  inferInstanceAs (Decidable (_ ∨ _))

/-- The types that have one spelling each. No node of them is marked as an enum. -/
inductive Canonical : TypeExpr → Prop where
  | primitive (p : Primitive) (nullable : Bool) : Canonical ⟨p.name, [], false, false, nullable⟩
  | list {element : TypeExpr} (nullable : Bool) (inside : Canonical element) :
      Canonical ⟨listName, [element], false, false, nullable⟩
  | dictionary {key value : TypeExpr} (nullable : Bool) (key_inside : Canonical key)
      (value_inside : Canonical value) :
      Canonical ⟨dictionaryName, [key, value], false, false, nullable⟩
  | reference {name : String} {args : List TypeExpr} (nullable : Bool) (plain : PlainName name)
      (other : canonicalPrimitive? name = none) (own : ¬IsWrapper name args.length)
      (inside : ∀ t ∈ args, Canonical t) : Canonical ⟨name, args, true, false, nullable⟩

/-- No name in the type is empty. -/
inductive Named : TypeExpr → Prop where
  | mk {name : String} {args : List TypeExpr} {isReference isEnum isNullable : Bool}
      (visible : name ≠ "") (inside : ∀ t ∈ args, Named t) :
      Named ⟨name, args, isReference, isEnum, isNullable⟩

theorem Canonical.withNullable {t : TypeExpr} (h : Canonical t) (nullable : Bool) :
    Canonical (t.withNullable nullable) := by
  cases h with
  | primitive p => exact .primitive p nullable
  | list _ inside => exact .list nullable inside
  | dictionary _ key_inside value_inside => exact .dictionary nullable key_inside value_inside
  | reference _ plain other own inside => exact .reference nullable plain other own inside

theorem Named.of_withNullable {t : TypeExpr} {nullable : Bool} (h : Named (t.withNullable nullable)) :
    Named t := by
  obtain ⟨name, args, r, e, u⟩ := t
  cases h with
  | mk visible inside => exact .mk visible inside

/-! ## Names -/

theorem canonicalPrimitive?_name (p : Primitive) : canonicalPrimitive? p.name = some p.name := by
  simp [canonicalPrimitive?, Primitive.ofSpelling?_name]

theorem eq_name_of_canonicalPrimitive? {name canonical : String}
    (h : canonicalPrimitive? name = some canonical) : ∃ p : Primitive, canonical = p.name := by
  obtain ⟨p, _, same⟩ := Option.map_eq_some_iff.mp h
  exact ⟨p, same.symm⟩

/-- What a name applied to arguments can mean. -/
inductive Applied (name : String) : List TypeExpr → TypeExpr → Prop where
  | orNull (arg : TypeExpr) : Applied name [arg] arg.orNull
  | list (arg : TypeExpr) : Applied name [arg] (list arg)
  | dictionary (key value : TypeExpr) : Applied name [key, value] (dictionary key value)
  | primitive (args : List TypeExpr) (p : Primitive) : Applied name args (named p.name)
  | generic (args : List TypeExpr) (other : canonicalPrimitive? name = none)
      (own : ¬IsWrapper name args.length) : Applied name args (generic name args)

/-- A name that is no wrapper is that of a primitive or of another type. -/
theorem applied_of_own {name : String} {args : List TypeExpr} (own : ¬IsWrapper name args.length) :
    Applied name args (match canonicalPrimitive? name with
      | some p => named p
      | none => generic name args) := by
  split
  · next known =>
    obtain ⟨p, rfl⟩ := eq_name_of_canonicalPrimitive? known
    exact .primitive args p
  · next other => exact .generic args other own

theorem applied_apply (name : String) (args : List TypeExpr) :
    Applied name args (apply name args) := by
  rcases args with _ | ⟨first, _ | ⟨second, _ | ⟨third, rest⟩⟩⟩
  · have unwrapped : Applied name [] _ := applied_of_own (by simp [IsWrapper])
    unfold apply
    cases other : canonicalPrimitive? name with
    | some p => simpa only [other] using unwrapped
    | none => simpa only [other, generic, reference] using unwrapped
  · simp only [apply]
    split
    · exact .orNull first
    · next not_null =>
      split
      · exact .list first
      · next not_list => exact applied_of_own (by simp [IsWrapper, not_null, not_list])
  · simp only [apply]
    split
    · exact .dictionary first second
    · next not_map => exact applied_of_own (by simp [IsWrapper, not_map])
  · have unwrapped : Applied name (first :: second :: third :: rest) _ := applied_of_own (by simp [IsWrapper])
    unfold apply
    cases other : canonicalPrimitive? name <;> simpa only [other] using unwrapped

/-- What is left of a name without qualifiers and arity marks is plain. -/
theorem isPlainChar_of_mem_shortNameChars {cs : List Char} {c : Char}
    (name : ∀ c ∈ cs, isNameChar c = true) (mem : c ∈ shortNameChars cs) : isPlainChar c = true := by
  unfold shortNameChars Text.afterLast at mem
  have last := List.mem_takeWhile_imp (List.mem_reverse.mp mem)
  have front := List.mem_reverse.mp (List.takeWhile_subset _ (List.mem_reverse.mp mem))
  have mark := List.mem_takeWhile_imp front
  have known := name c (List.takeWhile_subset _ front)
  simp only [isNameChar, Bool.not_eq_true', Bool.or_eq_false_iff, Bool.or_eq_true, beq_eq_false_iff_ne,
    beq_iff_eq] at last mark known
  simp only [isPlainChar, Bool.or_eq_true, beq_iff_eq]
  tauto

/-! ## Reading -/

/-- It is passed on from the parts of a type to the type, in each of the ways a reading puts types
together. -/
structure Built (P : TypeExpr → Prop) : Prop where
  orNull : ∀ {t : TypeExpr}, P t → P t.orNull
  list : ∀ {t : TypeExpr}, P t → P (list t)
  apply : ∀ {name : String} {args : List TypeExpr}, (∀ c ∈ name.toList, isPlainChar c = true) →
    (∀ t ∈ args, P t) → P (apply name args)

namespace Built

variable {P : TypeExpr → Prop} (built : Built P)

include built

/-- The marks after a type keep it. -/
theorem of_readMarks {fuel : Nat} {t t' : TypeExpr} {cs rest : List Char}
    (h : readMarks fuel t cs = .ok (t', rest)) (holds : P t) : P t' := by
  induction fuel generalizing t cs with
  | zero =>
    cases h
    exact holds
  | succ fuel ih =>
    rw [readMarks] at h
    split at h
    · exact ih h (built.orNull holds)
    · split at h
      · obtain ⟨cs', -, h⟩ := eq_ok_of_bind h
        exact ih h (built.list holds)
      · cases h
        exact holds

/-- It holds of what is read, a type or the arguments of one. -/
theorem of_read (fuel : Nat) :
    (∀ cs t rest, readType fuel cs = .ok (t, rest) → P t) ∧
      ∀ cs ts rest, readArgs fuel cs = .ok (ts, rest) → ∀ t ∈ ts, P t := by
  induction fuel with
  | zero =>
    constructor
    · intro cs t rest h
      cases h
    · intro cs ts rest h
      cases h
  | succ fuel ih =>
    obtain ⟨ih_type, ih_args⟩ := ih
    constructor
    · intro cs t rest h
      rw [readType] at h
      split at h
      · obtain ⟨⟨element, rest₁⟩, inside, h⟩ := eq_ok_of_bind h
        obtain ⟨rest₂, -, h⟩ := eq_ok_of_bind h
        exact built.of_readMarks h (built.list (ih_type _ _ _ inside))
      · split at h
        · cases h
        · next name rest₁ _ taken =>
          have plain : ∀ c ∈ (String.ofList (shortNameChars name)).toList, isPlainChar c = true := by
            rw [String.toList_ofList]
            intro c mem
            refine isPlainChar_of_mem_shortNameChars (fun d d_mem => ?_) mem
            rw [takeName] at taken
            injection taken with taken
            rw [← taken] at d_mem
            exact List.mem_takeWhile_imp d_mem
          simp only at h
          split at h
          · obtain ⟨⟨args, rest₂⟩, inside, h⟩ := eq_ok_of_bind h
            obtain ⟨rest₃, -, h⟩ := eq_ok_of_bind h
            exact built.of_readMarks h (built.apply plain (ih_args _ _ _ inside))
          · exact built.of_readMarks h (built.apply plain (by simp))
    · intro cs ts rest h
      rw [readArgs] at h
      obtain ⟨⟨arg, rest'⟩, first, h⟩ := eq_ok_of_bind h
      have first_holds := ih_type _ _ _ first
      simp only at h
      split at h
      · obtain ⟨⟨args, rest''⟩, others, h⟩ := eq_ok_of_bind h
        cases h
        exact List.forall_mem_cons.mpr ⟨first_holds, ih_args _ _ _ others⟩
      · cases h
        exact List.forall_mem_singleton.mpr first_holds

theorem of_parse {input : String} {t : TypeExpr} (h : parse input = .ok t) : P t := by
  unfold parse at h
  simp only at h
  split at h
  · cases h
  · next read =>
    split at h
    · rw [← Except.ok.inj h]
      exact (built.of_read _).1 _ _ _ read
    · cases h

end Built

/-! ## Canonical types -/

/-- Canonical, if it has names. -/
def Readable (t : TypeExpr) : Prop :=
  Named t → Canonical t

theorem Readable.orNull {t : TypeExpr} (h : Readable t) : Readable t.orNull :=
  fun named => (h named.of_withNullable).withNullable true

theorem Readable.list {t : TypeExpr} (h : Readable t) : Readable (list t) := by
  intro named
  cases named with
  | mk _ inside => exact .list false (h (inside t List.mem_cons_self))

theorem Readable.dictionary {k v : TypeExpr} (hk : Readable k) (hv : Readable v) :
    Readable (dictionary k v) := by
  intro named
  cases named with
  | mk _ inside =>
    exact .dictionary false (hk (inside k List.mem_cons_self)) (hv (inside v (by simp)))

theorem Readable.generic {name : String} {args : List TypeExpr}
    (plain : ∀ c ∈ name.toList, isPlainChar c = true) (other : canonicalPrimitive? name = none)
    (own : ¬IsWrapper name args.length) (inside : ∀ t ∈ args, Readable t) :
    Readable (generic name args) := by
  intro named
  cases named with
  | mk visible named =>
    exact .reference false ⟨visible, plain⟩ other own fun t mem => inside t mem (named t mem)

/-- Wrappers and primitives are led back to their canonical form; any other name is a reference. -/
theorem Readable.apply {name : String} {args : List TypeExpr}
    (plain : ∀ c ∈ name.toList, isPlainChar c = true) (inside : ∀ t ∈ args, Readable t) :
    Readable (apply name args) := by
  have applied := applied_apply name args
  generalize TypeExpr.apply name args = t at applied
  cases applied with
  | orNull arg => exact (inside arg List.mem_cons_self).orNull
  | list arg => exact (inside arg List.mem_cons_self).list
  | dictionary key value =>
    exact (inside key List.mem_cons_self).dictionary (inside value (by simp))
  | primitive _ p => exact fun _ => .primitive p false
  | generic _ other own => exact .generic plain other own inside

theorem built_readable : Built Readable where
  orNull := Readable.orNull
  list := Readable.list
  apply := Readable.apply

/-- A text that can be read denotes a canonical type, unless a name is empty. -/
theorem canonical_of_parse {input : String} {t : TypeExpr} (h : parse input = .ok t)
    (named : Named t) : Canonical t :=
  built_readable.of_parse h named

end TypeExpr
end Scaffold
