/-
A property holds its type as a text with marks beside it. Nothing is lost that way: the text and the
marks of a property mean the type it was made of, so every language writes it as that type:
`fullType_ofType`.

What a text and its marks can mean at all is said by `described_describe`. The marks are about the type
that the text denotes, and a text that cannot be read is a name, which is never that of a primitive.
-/
import Scaffold.Field
import Scaffold.Proofs.Target.Render
import Scaffold.Proofs.TypeExpr.RoundTrip

namespace Scaffold
namespace TypeExpr

/-! ## Lists and maps around a type -/

/-- Neither a list nor a map. -/
def IsScalar (t : TypeExpr) : Prop :=
  t.isList = false ∧ t.isDictionary = false

/-- A type is a scalar, a list or a map. -/
theorem wrapping_induction {motive : TypeExpr → Prop} (scalar : ∀ t, IsScalar t → motive t)
    (list : ∀ element r e u, motive element → motive ⟨listName, [element], r, e, u⟩)
    (dictionary : ∀ key value r e u, motive value → motive ⟨dictionaryName, [key, value], r, e, u⟩)
    (t : TypeExpr) : motive t := by
  fun_induction innermost t with
  | case1 element r e u ih => exact list element r e u ih
  | case2 name element r e u other =>
    exact scalar _ (by simp [IsScalar, isList, isDictionary, other])
  | case3 key value r e u ih => exact dictionary key value r e u ih
  | case4 name key value r e u other =>
    exact scalar _ (by simp [IsScalar, isList, isDictionary, other])
  | case5 t not_single not_pair =>
    refine scalar t ?_
    obtain ⟨name, args, r, e, u⟩ := t
    rcases args with _ | ⟨first, _ | ⟨second, _ | ⟨third, rest⟩⟩⟩
    · simp [IsScalar, isList, isDictionary]
    · exact absurd rfl (not_single name first r e u)
    · exact absurd rfl (not_pair name first second r e u)
    · simp [IsScalar, isList, isDictionary]

theorem IsScalar.innermost {t : TypeExpr} (h : IsScalar t) : t.innermost = t := by
  fun_cases TypeExpr.innermost t <;> simp_all [IsScalar, isList, isDictionary]

theorem IsScalar.mapInnermost {t : TypeExpr} (h : IsScalar t) (f : TypeExpr → TypeExpr) :
    t.mapInnermost f = f t := by
  fun_cases TypeExpr.mapInnermost f t <;> simp_all [IsScalar, isList, isDictionary]

@[simp] theorem innermost_list (element : TypeExpr) (r e u : Bool) :
    innermost ⟨listName, [element], r, e, u⟩ = element.innermost := by
  simp [innermost]

@[simp] theorem innermost_dictionary (key value : TypeExpr) (r e u : Bool) :
    innermost ⟨dictionaryName, [key, value], r, e, u⟩ = value.innermost := by
  simp [innermost]

variable (f : TypeExpr → TypeExpr)

@[simp] theorem mapInnermost_list (element : TypeExpr) (r e u : Bool) :
    mapInnermost f ⟨listName, [element], r, e, u⟩ =
      ⟨listName, [element.mapInnermost f], r, e, u⟩ := by
  simp [mapInnermost]

@[simp] theorem mapInnermost_dictionary (key value : TypeExpr) (r e u : Bool) :
    mapInnermost f ⟨dictionaryName, [key, value], r, e, u⟩ =
      ⟨dictionaryName, [key, value.mapInnermost f], r, e, u⟩ := by
  simp [mapInnermost]

variable {f : TypeExpr → TypeExpr} (t : TypeExpr)

/-- Only what a function does to the innermost type counts. -/
theorem mapInnermost_congr {g : TypeExpr → TypeExpr} (same : f t.innermost = g t.innermost) :
    t.mapInnermost f = t.mapInnermost g := by
  induction t using wrapping_induction with
  | scalar t scalar => rwa [scalar.mapInnermost, scalar.mapInnermost, ← scalar.innermost]
  | list element r e u ih => simp [ih (by simpa using same)]
  | dictionary key value r e u ih => simp [ih (by simpa using same)]

/-! ## The null mark -/

@[simp] theorem isNullable_withNullable (nullable : Bool) :
    (t.withNullable nullable).isNullable = nullable := rfl

@[simp] theorem isList_withNullable (nullable : Bool) :
    (t.withNullable nullable).isList = t.isList := rfl

theorem IsScalar.withNullable {t : TypeExpr} (h : IsScalar t) (nullable : Bool) :
    IsScalar (t.withNullable nullable) := h

theorem withNullable_isNullable : t.withNullable t.isNullable = t := by
  obtain ⟨name, args, r, e, u⟩ := t
  rfl

/-- The mark is on the whole type, so it only touches what is inside if nothing is around that. -/
theorem innermost_withNullable (nullable : Bool) :
    ∃ mark, (t.withNullable nullable).innermost = t.innermost.withNullable mark := by
  cases t using wrapping_induction with
  | scalar t scalar =>
    exact ⟨nullable, by rw [scalar.innermost, (scalar.withNullable nullable).innermost]⟩
  | list element r e u =>
    refine ⟨element.innermost.isNullable, ?_⟩
    rw [TypeExpr.withNullable, innermost_list, innermost_list, withNullable_isNullable]
  | dictionary key value r e u =>
    refine ⟨value.innermost.isNullable, ?_⟩
    rw [TypeExpr.withNullable, innermost_dictionary, innermost_dictionary, withNullable_isNullable]

@[simp] theorem args_innermost_withNullable (nullable : Bool) :
    (t.withNullable nullable).innermost.args = t.innermost.args := by
  obtain ⟨mark, same⟩ := innermost_withNullable t nullable
  rw [same, TypeExpr.withNullable]

@[simp] theorem name_innermost_withNullable (nullable : Bool) :
    (t.withNullable nullable).innermost.name = t.innermost.name := by
  obtain ⟨mark, same⟩ := innermost_withNullable t nullable
  rw [same, TypeExpr.withNullable]

@[simp] theorem isEnum_innermost_withNullable (nullable : Bool) :
    (t.withNullable nullable).innermost.isEnum = t.innermost.isEnum := by
  obtain ⟨mark, same⟩ := innermost_withNullable t nullable
  rw [same, TypeExpr.withNullable]

/-! ## Enums inside -/

theorem mapInnermost_asEnum_withNullable (nullable : Bool) :
    (t.withNullable nullable).mapInnermost asEnum =
      (t.mapInnermost asEnum).withNullable nullable := by
  cases t using wrapping_induction with
  | scalar t scalar => rw [scalar.mapInnermost, (scalar.withNullable nullable).mapInnermost]; rfl
  | list element r e u => simp [TypeExpr.withNullable]
  | dictionary key value r e u => simp [TypeExpr.withNullable]

@[simp] theorem isList_mapInnermost_asEnum : (t.mapInnermost asEnum).isList = t.isList := by
  cases t using wrapping_induction with
  | scalar t scalar => rw [scalar.mapInnermost]; rfl
  | list element r e u => simp [isList]
  | dictionary key value r e u => simp [isList]

/-- The mark is not written. -/
@[simp] theorem text_mapInnermost_asEnum : (t.mapInnermost asEnum).text = t.text := by
  induction t using wrapping_induction with
  | scalar t scalar =>
    obtain ⟨name, args, r, e, u⟩ := t
    rw [scalar.mapInnermost, asEnum, text, text]
  | list element r e u ih => simp [text, argsText, ih]
  | dictionary key value r e u ih => simp [text, argsText, restText, ih]

theorem isEnum_innermost_mapInnermost_asEnum : (t.mapInnermost asEnum).innermost.isEnum = true := by
  induction t using wrapping_induction with
  | scalar t scalar =>
    have marked : IsScalar t.asEnum := scalar
    rw [scalar.mapInnermost, marked.innermost]
    rfl
  | list element r e u ih => simp [ih]
  | dictionary key value r e u ih => simp [ih]

/-- What is inside the lists and maps of a canonical type is a primitive or a reference. -/
theorem Canonical.innermost {t : TypeExpr} (h : Canonical t) :
    Canonical t.innermost ∧ IsScalar t.innermost := by
  induction h with
  | primitive p nullable =>
    have scalar : IsScalar ⟨p.name, [], false, false, nullable⟩ := by
      simp [IsScalar, isList, isDictionary]
    rw [scalar.innermost]
    exact ⟨.primitive p nullable, scalar⟩
  | list _ _ ih => simpa using ih
  | dictionary _ _ _ _ ih => simpa using ih
  | @reference name args nullable plain other own inside =>
    have not_list : ¬(name = listName ∧ args.length = 1) := by
      rintro ⟨rfl, one⟩
      exact own (.inl ⟨one, .inr (by decide)⟩)
    have not_map : ¬(name = dictionaryName ∧ args.length = 2) := by
      rintro ⟨rfl, two⟩
      exact own (.inr ⟨two, by decide⟩)
    have scalar : IsScalar ⟨name, args, true, false, nullable⟩ := by
      simpa [IsScalar, isList, isDictionary] using And.intro not_list not_map
    rw [scalar.innermost]
    exact ⟨.reference nullable plain other own inside, scalar⟩

theorem Canonical.isEnum_innermost {t : TypeExpr} (h : Canonical t) : t.innermost.isEnum = false := by
  obtain ⟨inside, -⟩ := h.innermost
  generalize t.innermost = inner at inside
  cases inside <;> rfl

/-- Where no argument is an enum inside, an unmarked type is none either. -/
theorem isEnum_innermost_of_args {name : String} {args : List TypeExpr} {r u : Bool}
    (inside : ∀ t ∈ args, t.innermost.isEnum = false) :
    (innermost ⟨name, args, r, false, u⟩).isEnum = false := by
  rcases args with _ | ⟨first, _ | ⟨second, _ | ⟨third, rest⟩⟩⟩
  · rfl
  · rw [innermost]
    split
    · exact inside first List.mem_cons_self
    · rfl
  · rw [innermost]
    split
    · exact inside second (by simp)
    · rfl
  · rfl

theorem built_isEnum_innermost : Built fun t => t.innermost.isEnum = false where
  orNull holds := (isEnum_innermost_withNullable _ true).trans holds
  list holds := isEnum_innermost_of_args (List.forall_mem_singleton.mpr holds)
  apply {name args} _ holds := by
    have applied := applied_apply name args
    generalize TypeExpr.apply name args = t at applied
    cases applied with
    | orNull arg => exact (isEnum_innermost_withNullable _ true).trans (holds arg List.mem_cons_self)
    | list | dictionary | generic => exact isEnum_innermost_of_args holds
    | primitive => exact isEnum_innermost_of_args (List.forall_mem_nil _)

/-- No type text says that something is an enum. -/
theorem isEnum_innermost_of_parse {input : String} {t : TypeExpr} (h : parse input = .ok t) :
    t.innermost.isEnum = false :=
  built_isEnum_innermost.of_parse h

/-! ## Text and marks -/

/-- The text of a canonical type without its null mark denotes the type without that mark. -/
theorem Canonical.parse_canonicalName {t : TypeExpr} (h : Canonical t) :
    parse? t.canonicalName = some (t.withNullable false) := by
  rw [parse?, canonicalName, parse_text_of_canonical (h.withNullable false)]
  rfl

/-- An enum without arguments is marked the way a property marks it. -/
theorem mapInnermost_asEnum_of_plain (plain : t.innermost.args = []) :
    t.mapInnermost (fun inner => { inner.asEnum with args := [] }) = t.mapInnermost asEnum :=
  mapInnermost_congr t (by rw [asEnum, plain])

/-- What a property can hold: a canonical type, whose innermost type may be marked as an enum if it
has no arguments. -/
inductive Flat : TypeExpr → Prop where
  | canonical {t : TypeExpr} (inside : Canonical t) : Flat t
  | enumeration {t : TypeExpr} (inside : Canonical t) (plain : t.innermost.args = []) :
      Flat (t.mapInnermost asEnum)

theorem Flat.describe {t : TypeExpr} (flat : Flat t) :
    describe t.canonicalName ⟨t.innermost.isEnum, t.isList, t.isNullable⟩ = t := by
  cases flat with
  | canonical inside =>
    simp only [TypeExpr.describe, inside.parse_canonicalName, inside.isEnum_innermost,
      Option.getD_some, isList_withNullable, Bool.and_not_self, Bool.false_eq_true, if_false]
    exact orNull_of_isNullable t
  | @enumeration t inside plain =>
    have text : (t.mapInnermost asEnum).canonicalName = t.canonicalName := by
      rw [canonicalName, canonicalName, ← mapInnermost_asEnum_withNullable, text_mapInnermost_asEnum]
    have marked : (t.withNullable false).mapInnermost (fun inner => { inner.asEnum with args := [] }) =
        (t.mapInnermost asEnum).withNullable false := by
      rw [mapInnermost_asEnum_of_plain _ (by rwa [args_innermost_withNullable]),
        mapInnermost_asEnum_withNullable]
    simp only [TypeExpr.describe, text, inside.parse_canonicalName, Option.getD_some,
      isList_mapInnermost_asEnum, isList_withNullable, Bool.and_not_self, Bool.false_eq_true, if_false,
      isEnum_innermost_mapInnermost_asEnum, if_true, marked]
    exact orNull_of_isNullable (t.mapInnermost asEnum)

end TypeExpr

open TypeExpr

/-- A property means the type it was made of, and every language writes it as that type. -/
theorem Property.fullType_ofType (name : String) (t : TypeExpr) (flat : Flat t) :
    (ofType name t).fullType = t ∧
      ∀ target : Target, target.renderText (ofType name t).typeText (ofType name t).marks =
        target.render t :=
  ⟨flat.describe, fun target => congrArg target.render flat.describe⟩

/-- Lists of states by key, where the states are an enum and the lists can be null. -/
def Property.statesByKey : TypeExpr :=
  (dictionary (named "string") (list (enumeration "State")).orNull).orNull

theorem Property.fullType_ofType_statesByKey :
    Flat statesByKey ∧
    (ofType "states" statesByKey).typeText = "Dictionary<string, List<State>?>" ∧
    (ofType "states" statesByKey).marks = ⟨true, false, true⟩ ∧
    (ofType "states" statesByKey).fullType = statesByKey ∧
    Target.typescript.renderText (ofType "states" statesByKey).typeText
        (ofType "states" statesByKey).marks = "Record<string, State[] | null> | null" := by
  have state : Canonical (reference "State") :=
    .reference false (by decide) (by decide) (by decide) (List.forall_mem_nil _)
  have flat : Flat statesByKey :=
    .enumeration (.dictionary true (.primitive .string false) (.list true state)) (by decide)
  obtain ⟨full, rendered⟩ := fullType_ofType "states" statesByKey flat
  refine ⟨flat, by decide, by decide, full, ?_⟩
  rw [rendered]
  decide

/-! ## What texts with marks can mean -/

namespace TypeExpr

open Text

/-- The types that texts with marks mean. Unlike canonical ones they can have any names, and the innermost
type can be marked as an enum. -/
inductive Described : TypeExpr → Prop where
  | primitive (p : Primitive) (nullable : Bool) : Described ⟨p.name, [], false, false, nullable⟩
  | enumeration (name : String) (nullable : Bool) : Described ⟨name, [], true, true, nullable⟩
  | list {element : TypeExpr} (nullable : Bool) (inside : Described element) :
      Described ⟨listName, [element], false, false, nullable⟩
  | dictionary {key value : TypeExpr} (nullable : Bool) (key_inside : Described key)
      (value_inside : Described value) :
      Described ⟨dictionaryName, [key, value], false, false, nullable⟩
  | reference {name : String} {args : List TypeExpr} (nullable : Bool)
      (other : Primitive.ofName? name = none) (own : ¬IsWrapper name args.length)
      (inside : ∀ t ∈ args, Described t) : Described ⟨name, args, true, false, nullable⟩

namespace Described

variable {t : TypeExpr}

theorem withNullable (h : Described t) (nullable : Bool) : Described (t.withNullable nullable) := by
  cases h with
  | primitive p => exact .primitive p nullable
  | enumeration name => exact .enumeration name nullable
  | list _ inside => exact .list nullable inside
  | dictionary _ key_inside value_inside => exact .dictionary nullable key_inside value_inside
  | reference _ other own inside => exact .reference nullable other own inside

theorem ite {s t : TypeExpr} {p : Prop} [Decidable p] (hs : Described s) (ht : Described t) :
    Described (if p then s else t) := by
  split
  · exact hs
  · exact ht

/-- Where the enum mark goes, nothing but the name is left. -/
theorem markEnum (h : Described t) :
    Described (t.mapInnermost fun inner => { inner.asEnum with args := [] }) := by
  induction t using wrapping_induction with
  | scalar t scalar =>
    rw [scalar.mapInnermost]
    exact .enumeration t.name t.isNullable
  | list element r e u ih =>
    rw [mapInnermost_list]
    generalize is_list : listName = name at h ⊢
    cases h with
    | list _ inside => exact .list u (ih inside)
    | reference _ _ own => exact absurd (.inl ⟨rfl, .inr (is_list ▸ by decide)⟩) own
  | dictionary key value r e u ih =>
    rw [mapInnermost_dictionary]
    generalize is_map : dictionaryName = name at h ⊢
    cases h with
    | dictionary _ key_inside value_inside => exact .dictionary u key_inside (ih value_inside)
    | reference _ _ own => exact absurd (.inr ⟨rfl, is_map ▸ by decide⟩) own

end Described

theorem built_described : Built Described where
  orNull holds := holds.withNullable true
  list holds := .list false holds
  apply {name args} _ holds := by
    have applied := applied_apply name args
    generalize apply name args = t at applied
    cases applied with
    | orNull arg => exact (holds arg List.mem_cons_self).withNullable true
    | list arg => exact .list false (holds arg List.mem_cons_self)
    | dictionary key value => exact .dictionary false (holds key (by simp)) (holds value (by simp))
    | primitive _ p => exact .primitive p false
    | generic _ other own => exact .reference false (Target.ofName?_eq_none other) own holds

/-! ## Texts that cannot be read -/

theorem eat_dropBlank (c : Char) (cs : List Char) : eat c (dropBlank cs) = eat c cs := by
  rw [eat, eat, dropBlank_dropBlank]

theorem readType_dropBlank (fuel : Nat) (cs : List Char) :
    readType (fuel + 1) (dropBlank cs) = readType (fuel + 1) cs := by
  rw [readType, readType, skipBorrow, skipBorrow, eat_dropBlank]

theorem exists_blank_of_dropBlankEnd (cs : List Char) :
    ∃ back, cs = dropBlankEnd cs ++ back ∧ ∀ c ∈ back, isBlank c = true := by
  refine ⟨(cs.reverse.takeWhile isBlank).reverse, ?_, fun c mem => ?_⟩
  · rw [dropBlankEnd, dropBlank, ← List.reverse_append, List.takeWhile_append_dropWhile, List.reverse_reverse]
  · exact List.mem_takeWhile_imp (List.mem_reverse.mp mem)

theorem parse_of_trim {text name : String} (written : WrittenName name) (trimmed : trim text = name) :
    parse text = .ok (apply (shortName name) []) := by
  obtain ⟨back, visible, blank⟩ := exists_blank_of_dropBlankEnd (dropBlank text.toList)
  have chars : dropBlankEnd (dropBlank text.toList) = name.toList := by
    rw [← trimmed, trim, String.toList_ofList]
  have nothing : dropBlank back = [] := List.dropWhile_eq_nil_iff.mpr blank
  have stops : ∀ c cs, back = c :: cs → isNameChar c = false := by
    rintro c cs rfl
    by_contra inside
    have visible := isBlank_of_isNameChar (Bool.of_not_eq_false inside)
    rw [blank c List.mem_cons_self] at visible
    cases visible
  have closed : eat '<' back = (false, []) := eat_eq_false_iff.mpr ⟨nothing, nofun⟩
  rw [chars] at visible
  rw [parse_eq_ok_iff, ← readType_dropBlank, visible, readType_succ, readFront_name written stops, closed]
  rfl

/-- What cannot be read is no name of a primitive. -/
theorem ofName?_trim_eq_none {text : String} (unread : parse? text = none) :
    Primitive.ofName? (trim text) = none := by
  by_contra known
  obtain ⟨p, found⟩ := Option.ne_none_iff_exists'.mp known
  have named : p.name = trim text := by simpa using List.find?_some found
  have read := parse_of_trim (plainName_primitive p).written named.symm
  rw [parse?, read] at unread
  cases unread

/-- A text with marks means one of the types that can be told from such. -/
theorem described_describe (text : String) (marks : Marks) : Described (describe text marks) := by
  have read : Described ((parse? text).getD (reference (trim text))) := by
    cases outcome : parse text with
    | ok t =>
      rw [parse?, outcome]
      exact built_described.of_parse outcome
    | error e =>
      have unread : parse? text = none := by rw [parse?, outcome]; rfl
      rw [unread]
      exact .reference false (ofName?_trim_eq_none unread) (by simp [IsWrapper]) (List.forall_mem_nil _)
  have listed := Described.ite (p := marks.isList && !((parse? text).getD (reference (trim text))).isList)
    (.list false (read.withNullable false)) read
  unfold describe
  exact .ite ((listed.markEnum.ite listed).withNullable true) (listed.markEnum.ite listed)

end TypeExpr
end Scaffold
