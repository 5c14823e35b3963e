/-
Names that are identifiers of the generated languages. Whatever ASCII text they are made from, members of
enums are identifiers; the names of types are if the first letter or digit of the text is a letter, and so
are the names of fields in Rust, but for the three words that not even `r#` makes a name of
(`identifier_iff`). What is written as a field in Rust is read as one name there
(`Target.IsIdentifier.takeName`).
-/
import Mathlib.Data.List.TakeDrop
import Mathlib.Data.List.TakeWhile
import Scaffold.Code.Reading
import Scaffold.Proofs.Api.GivenNames
import Scaffold.Proofs.Generate.Members

namespace Scaffold

open Text

variable {s : String} {c : Char} {target : Target}

/-! ## Words -/

/-- The signs that identifiers are made of: ASCII letters, digits and underscores. -/
def isWordSign (c : Char) : Bool :=
  c.isAlphanum || c == '_'

/-- Whether a text consists of such signs and does not start with a digit. -/
def isWord (s : String) : Bool :=
  s.toList.head?.any (!·.isDigit) && s.toList.all isWordSign

theorem ascii_of_isUpper (capital : c.isUpper = true) : c.toNat < 128 :=
  Nat.lt_of_le_of_lt (UInt32.le_iff_toNat_le.mp (of_decide_eq_true capital).2) (by decide)

theorem ascii_of_isWordSign (sign : isWordSign c = true) : c.toNat < 128 := by
  rcases Bool.or_eq_true_iff.mp sign with letter | underscore
  · rcases Bool.or_eq_true_iff.mp (show (c.isAlpha || c.isDigit) = true from letter) with letter | digit
    · rcases Bool.or_eq_true_iff.mp (show (c.isUpper || c.isLower) = true from letter) with
        capital | small
      · exact ascii_of_isUpper capital
      · exact IsPlain.ascii (.inl small)
    · exact IsPlain.ascii (.inr digit)
  · rw [beq_iff_eq.mp underscore]
    decide

theorem isWord_iff : isWord s = true ↔
    (∃ c, s.toList.head? = some c ∧ c.isDigit = false) ∧ ∀ c ∈ s.toList, isWordSign c = true := by
  simp [isWord, Option.any_eq_true]

theorem ne_nil_of_isWord (word : isWord s = true) : s.toList ≠ [] := by
  obtain ⟨⟨c, first, -⟩, -⟩ := isWord_iff.mp word
  rintro none
  rw [none] at first
  cases first

theorem isWord_eq (signs : ∀ c ∈ s.toList, isWordSign c = true) (first : s.toList.head? = some c) :
    isWord s = !c.isDigit := by
  rw [isWord, List.all_eq_true.mpr signs, first, Bool.and_true]
  rfl

/-- What is known of single signs, one by one. -/
theorem ascii_forms (ascii : c.toNat < 128) :
    (c.isUpper = true → c.isDigit = false) ∧
    (isAlphanumeric c = true →
      (c.toUpper.isUpper = true ∨ c.toUpper.isDigit = true) ∧ c.toUpper.isDigit = c.isDigit ∧
        IsPlain c.toLower ∧ c.toLower.isDigit = c.isDigit) ∧
    (IsPlain c → isWordSign c = true ∧ isWordSign c.toUpper = true ∧
      (c.isDigit = false → c.toUpper.isUpper = true)) ∧
    (isWordSign c = true →
      Code.isWordPart c = true ∧ (c.isDigit = false → Code.isWordStart c = true)) :=
  forall_ascii
    (p := fun c => (c.isUpper = true → c.isDigit = false) ∧
      (isAlphanumeric c = true →
        (c.toUpper.isUpper = true ∨ c.toUpper.isDigit = true) ∧ c.toUpper.isDigit = c.isDigit ∧
          IsPlain c.toLower ∧ c.toLower.isDigit = c.isDigit) ∧
      (IsPlain c → isWordSign c = true ∧ isWordSign c.toUpper = true ∧
        (c.isDigit = false → c.toUpper.isUpper = true)) ∧
      (isWordSign c = true →
        Code.isWordPart c = true ∧ (c.isDigit = false → Code.isWordStart c = true)))
    (by decide) c ascii

theorem isDigit_eq_false_of_isUpper (capital : c.isUpper = true) : c.isDigit = false :=
  (ascii_forms (ascii_of_isUpper capital)).1 capital

theorem hash_notMem_of_isWordSign (signs : ∀ c ∈ s.toList, isWordSign c = true) : '#' ∉ s.toList :=
  fun mem => absurd (signs '#' mem) (by decide)

namespace Target

/-- Words that are no names of types, members or fields, because the language keeps them for itself. -/
def reservedWords : Target → List String
  | .csharp => csharpKeywords
  | .typescript => [
    "any", "await", "bigint", "boolean", "break", "case", "catch", "class", "const", "continue",
    "debugger", "default", "delete", "do", "else", "enum", "export", "extends", "false", "finally",
    "for", "function", "if", "implements", "import", "in", "instanceof", "interface", "let", "never",
    "new", "null", "number", "object", "package", "private", "protected", "public", "return", "static",
    "string", "super", "switch", "symbol", "this", "throw", "true", "try", "typeof", "undefined",
    "unknown", "var", "void", "while", "with", "yield"]
  | .rust => Code.keywords

/-- The identifiers of a language that are written in ASCII. Rust has raw ones too, for most of the words
that it keeps. -/
inductive IsIdentifier : Target → String → Prop
  | word {target : Target} {s : String} (word : isWord s = true) (free : s ∉ target.reservedWords) :
    IsIdentifier target s
  | raw {s : String} (word : isWord s = true) (permitted : s ∉ Code.neverNames) :
    IsIdentifier .rust ("r#" ++ s)

theorem isIdentifier_iff_of_signs (signs : ∀ c ∈ s.toList, isWordSign c = true) :
    target.IsIdentifier s ↔ isWord s = true ∧ s ∉ target.reservedWords := by
  refine ⟨fun legal => ?_, fun ⟨word, free⟩ => .word word free⟩
  cases legal with
  | word word free => exact ⟨word, free⟩
  | raw word permitted => exact absurd (by simp) (hash_notMem_of_isWordSign signs)

theorem isIdentifier_raw_iff (word : isWord s = true) :
    rust.IsIdentifier ("r#" ++ s) ↔ s ∉ Code.neverNames := by
  refine ⟨fun legal => ?_, .raw word⟩
  generalize whole : "r#" ++ s = name at legal
  cases legal with
  | word word' free =>
    subst whole
    exact absurd (by simp) (hash_notMem_of_isWordSign (isWord_iff.mp word').2)
  | raw word' permitted => exact (String.append_right_inj "r#").mp whole ▸ permitted

/-- Words that start with a capital are free in every language, but for one. -/
theorem mem_reservedWords_iff (first : s.toList.head? = some c) (capital : c.isUpper = true) :
    s ∈ target.reservedWords ↔ target = .rust ∧ s = "Self" := by
  have only_self : ∀ target ∈ all, ∀ word ∈ target.reservedWords,
      word.toList.head?.any Char.isUpper = true → target = .rust ∧ word = "Self" := by
    decide
  constructor
  · intro mem
    have listed : target ∈ all := by cases target <;> decide
    exact only_self target listed s mem (by rw [first]; exact capital)
  · rintro ⟨rfl, rfl⟩
    decide

/-- What starts with a capital or a digit is an identifier if it starts with the capital. -/
theorem isIdentifier_iff_of_head (signs : ∀ c ∈ s.toList, isWordSign c = true)
    (first : s.toList.head? = some c) (form : c.isUpper = true ∨ c.isDigit = true) :
    target.IsIdentifier s ↔ c.isDigit = false ∧ ¬(target = .rust ∧ s = "Self") := by
  rw [isIdentifier_iff_of_signs signs, isWord_eq signs first, Bool.not_eq_true']
  refine and_congr_right fun letter => not_congr (mem_reservedWords_iff first ?_)
  exact form.resolve_right (by simp [letter])

end Target

/-! ## Names in ASCII -/

/-- The first letter or digit of a text. -/
def firstSign? (s : String) : Option Char :=
  s.toList.find? isAlphanumeric

theorem head?_pascalCase (ascii : IsAscii s) (first : firstSign? s = some c) :
    (pascalCase s).toList.head? = some c.toUpper := by
  obtain ⟨w, ws, words⟩ := nameWords_head first
  have is_ascii : c.toNat < 128 := ascii c (List.mem_of_find?_eq_some first)
  rw [pascalCase, words, String.toList_ofList, List.flatMap_cons, capitalWord, upperForm, if_pos is_ascii]
  rfl

theorem head?_snakeCase (ascii : IsAscii s) (first : firstSign? s = some c) :
    (snakeCase s).toList.head? = some c.toLower := by
  obtain ⟨w, ws, words⟩ := nameWords_head first
  have word := smallWord_eq (ascii.isAsciiWord (words ▸ List.mem_cons_self))
  rw [snakeCase, separated, words, String.toList_ofList, List.map_cons, word]
  cases ws <;> rfl

/-- Whether the first letter or digit of a text is a letter. -/
def startsWithLetter (s : String) : Bool :=
  (firstSign? s).any (!·.isDigit)

theorem startsWithLetter_iff (first : firstSign? s = some c) :
    startsWithLetter s = true ↔ c.isDigit = false := by
  simp [startsWithLetter, first]

theorem form_toUpper (ascii : c.toNat < 128) (inside : isAlphanumeric c = true) :
    (c.toUpper.isUpper = true ∨ c.toUpper.isDigit = true) ∧ c.toUpper.isDigit = c.isDigit :=
  have form := (ascii_forms ascii).2.1 inside
  ⟨form.1, form.2.1⟩

theorem form_toLower (ascii : c.toNat < 128) (inside : isAlphanumeric c = true) :
    IsPlain c.toLower ∧ c.toLower.isDigit = c.isDigit :=
  ((ascii_forms ascii).2.1 inside).2.2

theorem isWordSign_of_plain (plain : IsPlain c) : isWordSign c = true ∧ isWordSign c.toUpper = true :=
  have form := (ascii_forms plain.ascii).2.2.1 plain
  ⟨form.1, form.2.1⟩

theorem isWordSign_of_mem_pascal {ws : List (List Char)} (plain : ∀ w ∈ ws, ∀ c ∈ w, IsPlain c) :
    ∀ c ∈ pascal ws, isWordSign c = true := by
  intro c mem
  obtain ⟨w, w_mem, inside⟩ := List.mem_flatMap.mp mem
  have w_plain := plain w w_mem
  cases w with
  | nil => cases inside
  | cons d ds =>
    rcases List.mem_cons.mp inside with rfl | inside
    · exact (isWordSign_of_plain (w_plain d List.mem_cons_self)).2
    · exact (isWordSign_of_plain (w_plain c (List.mem_cons_of_mem d inside))).1

theorem isWordSign_of_mem_pascalCase (ascii : IsAscii s) :
    ∀ c ∈ (pascalCase s).toList, isWordSign c = true := by
  rw [pascalCase_eq ascii, String.toList_ofList]
  exact isWordSign_of_mem_pascal (spelled_spelling ascii).plain

theorem isWordSign_of_mem_snakeCase (ascii : IsAscii s) :
    ∀ c ∈ (snakeCase s).toList, isWordSign c = true := by
  intro c mem
  rw [snakeCase, separated, String.toList_ofList] at mem
  rcases mem_intercalate mem with separator | ⟨w, w_mem, inside⟩
  · rw [List.mem_singleton.mp separator]
    decide
  · exact (isWordSign_of_plain (ascii.plain_smallWords w_mem c inside)).1

/-! ## Names of types -/

theorem isWordSign_of_mem_candidate {base : String} (signs : ∀ c ∈ base.toList, isWordSign c = true)
    (k : Nat) : ∀ c ∈ (Api.Resolver.candidate base k).toList, isWordSign c = true := by
  cases k with
  | zero => exact signs
  | succ k =>
    intro c mem
    rw [Api.Resolver.candidate, String.toList_append, List.mem_append] at mem
    refine mem.elim (signs c) fun number => ?_
    have digit : c.isDigit = true := by
      replace number : c ∈ (k + 2).repr.toList := number
      rw [Nat.toList_repr] at number
      exact Nat.isDigit_of_mem_toDigits (by decide) (by decide) number
    exact (isWordSign_of_plain (.inr digit)).1

theorem isIdentifier_nameFor_iff (ascii : IsAscii s) (first : firstSign? s = some c)
    (r : Api.Resolver) (place : String) :
    target.IsIdentifier (r.nameFor s place) ↔
      startsWithLetter s = true ∧ ¬(target = .rust ∧ r.nameFor s place = "Self") := by
  have head := head?_pascalCase ascii first
  have base : Api.Resolver.baseName s = pascalCase s := by
    have some_sign : pascalCase s ≠ "" := by
      intro none
      rw [none] at head
      cases head
    rw [Api.Resolver.baseName]
    exact if_neg (by simpa using some_sign)
  obtain ⟨k, name, -⟩ := Api.Resolver.nameFor_spec r s place
  have signs : ∀ c ∈ (r.nameFor s place).toList, isWordSign c = true := by
    rw [name, base]
    exact isWordSign_of_mem_candidate (isWordSign_of_mem_pascalCase ascii) k
  have name_head := Api.Resolver.nameFor_head (r := r) (base.symm ▸ head) place
  obtain ⟨form, digit⟩ := form_toUpper (ascii c (List.mem_of_find?_eq_some first)) (List.find?_some first)
  rw [Target.isIdentifier_iff_of_head signs name_head form, digit, startsWithLetter_iff first]

/-! ## Names of members -/

/-- The words of a member start with a letter. -/
theorem head?_pascal_valued {ws : List (List Char)} (spelled : Spelled ws) :
    ∃ c, (pascal (valued ws)).head? = some c ∧ c.isUpper = true := by
  cases ws with
  | nil => exact ⟨'V', rfl, by decide⟩
  | cons first rest =>
    rw [valued]
    split
    · exact ⟨'V', rfl, by decide⟩
    · next letter =>
      obtain ⟨c, cs, rfl⟩ := List.exists_cons_of_ne_nil (spelled.ne_nil first List.mem_cons_self)
      have plain := spelled.plain _ List.mem_cons_self c List.mem_cons_self
      exact ⟨c.toUpper, rfl, ((ascii_forms plain.ascii).2.2.1 plain).2.2 (by simpa using letter)⟩

theorem isIdentifier_enumMemberName_iff (ascii : IsAscii s) :
    target.IsIdentifier (enumMemberName s) ↔ ¬(target = .rust ∧ enumMemberName s = "Self") := by
  have spelled := spelled_spelling (isAscii_unquoted ascii)
  have chars : (enumMemberName s).toList = pascal (valued (spelling (unquoted s))) := by
    rw [enumMemberName_eq, pascalCase_eq (isAscii_unquoted ascii), withLead_pascal spelled,
      String.toList_ofList]
  obtain ⟨c, first, capital⟩ := head?_pascal_valued spelled
  have signs := isWordSign_of_mem_pascal (spelled_valued spelled).plain
  rw [← chars] at first signs
  rw [Target.isIdentifier_iff_of_head signs first (.inl capital)]
  exact and_iff_right (isDigit_eq_false_of_isUpper capital)

/-! ## Names of fields -/

/-- The words that a small first letter leaves of those that are never names. -/
theorem mem_neverNames_iff (first : s.toList.head? = some c) (form : IsPlain c) :
    s ∈ Code.neverNames ↔ s ∈ ["crate", "self", "super"] := by
  have small : ∀ word ∈ Code.neverNames, word.toList.head?.any (decide <| IsPlain ·) = true →
      word ∈ ["crate", "self", "super"] := by
    decide
  have all_never : ∀ word ∈ ["crate", "self", "super"], word ∈ Code.neverNames := by decide
  exact ⟨fun mem => small s mem (by simp [first, form]), all_never s⟩

theorem isIdentifier_rustFieldName_iff (ascii : IsAscii s) (first : firstSign? s = some c) :
    Target.rust.IsIdentifier (Target.rustFieldName s) ↔
      startsWithLetter s = true ∧ snakeCase s ∉ ["crate", "self", "super"] := by
  have signs := isWordSign_of_mem_snakeCase ascii
  have head := head?_snakeCase ascii first
  obtain ⟨form, digit⟩ := form_toLower (ascii c (List.mem_of_find?_eq_some first)) (List.find?_some first)
  rw [startsWithLetter_iff first, ← digit, ← mem_neverNames_iff head form]
  have word := isWord_eq signs head
  unfold Target.rustFieldName
  by_cases keyword : Target.isRustKeyword (snakeCase s) = true
  · -- No keyword starts with a digit.
    have letter : c.toLower.isDigit = false := by
      have letters : ∀ word ∈ Target.rustKeywords, word.toList.head?.all (!·.isDigit) = true := by
        decide
      have own := letters _ (by simpa [Target.isRustKeyword] using keyword)
      rw [head] at own
      simpa using own
    rw [letter] at word
    simp only [keyword, if_true]
    rw [Target.isIdentifier_raw_iff word]
    exact (and_iff_right letter).symm
  · -- Apart from the underscore, what Rust keeps are the keywords that the generator knows.
    have free : snakeCase s ∉ Code.keywords := by
      have known : ∀ word ∈ Code.keywords, word ∈ Target.rustKeywords ∨ word = "_" := by decide
      intro mem
      rcases known _ mem with listed | underscore
      · exact keyword (by simpa [Target.isRustKeyword] using listed)
      · rw [underscore] at head
        have same : '_' = c.toLower := Option.some.inj head
        rw [← same] at form
        exact absurd form (by decide)
    have never : snakeCase s ∉ Code.neverNames := by
      have kept : ∀ word ∈ Code.neverNames, word ∈ Code.keywords := by decide
      exact fun mem => free (kept _ mem)
    simp only [keyword, Bool.false_eq_true, if_false]
    rw [Target.isIdentifier_iff_of_signs signs, word, Bool.not_eq_true']
    exact and_congr_right fun _ => iff_of_true free never

/-! ## Reading -/

theorem takeWord_of_isWord (word : isWord s = true) : Code.takeWord s.toList = (s.toList, []) := by
  obtain ⟨⟨c, first, letter⟩, signs⟩ := isWord_iff.mp word
  have part (c : Char) (sign : isWordSign c = true) :
      Code.isWordPart c = true ∧ (c.isDigit = false → Code.isWordStart c = true) :=
    (ascii_forms (ascii_of_isWordSign sign)).2.2.2 sign
  obtain ⟨cs, chars⟩ := List.head?_eq_some_iff.mp first
  have start := (part c (signs c (List.mem_of_mem_head? first))).2 letter
  have parts (d : Char) (mem : d ∈ c :: cs) : Code.isWordPart d = true :=
    (part d (signs d (chars ▸ mem))).1
  rw [chars, Code.takeWord, if_pos start, List.span_eq_takeWhile_dropWhile,
    List.takeWhile_eq_self_iff.mpr parts, List.dropWhile_eq_nil_iff.mpr parts]

/-- Identifiers of Rust are read as one name there. -/
theorem Target.IsIdentifier.takeName (legal : rust.IsIdentifier s) :
    Code.takeName s.toList = some (s.toList, []) ∧ Code.isName s = true := by
  cases legal with
  | word word free =>
    have signs := (isWord_iff.mp word).2
    refine ⟨?_, by simpa [Code.isName, reservedWords] using free⟩
    unfold Code.takeName
    split
    · next raw => exact absurd (by simp [raw]) (hash_notMem_of_isWordSign signs)
    · rw [takeWord_of_isWord word]
      exact if_neg (by simp [ne_nil_of_isWord word])
  | @raw s word permitted =>
    have no_hash : ∀ word ∈ Code.keywords, '#' ∉ word.toList := by decide
    have name : Code.isName ("r#" ++ s) = true := by
      simp only [Code.isName, Bool.not_eq_true', List.contains_eq_mem, decide_eq_false_iff_not]
      exact fun mem => no_hash _ mem (by simp)
    refine ⟨?_, name⟩
    rw [String.toList_append]
    show Code.takeName ('r' :: '#' :: s.toList) = _
    rw [Code.takeName, takeWord_of_isWord word]
    exact if_neg (by simp [ne_nil_of_isWord word, permitted])

/-! ## All names -/

/-- Names made from an ASCII text with a letter or digit: members are identifiers, but for `Self` in Rust;
so are types if the first letter or digit is a letter, and fields in Rust if moreover they are none of the
words that are never names. -/
theorem identifier_iff (ascii : IsAscii s) (visible : ∃ c ∈ s.toList, isAlphanumeric c = true) :
    (∀ (r : Api.Resolver) (place : String), ∃ name,
      Api.Resolve.outcome (Api.Resolve.claimName s place) r = (.ok name, r.claim s place) ∧
        ∀ target : Target, target.IsIdentifier name ↔
          startsWithLetter s = true ∧ ¬(target = .rust ∧ name = "Self")) ∧
    (∀ target : Target, target.IsIdentifier (enumMemberName s) ↔
      ¬(target = .rust ∧ enumMemberName s = "Self")) ∧
    (Target.rust.IsIdentifier (Target.rustFieldName s) ↔
      startsWithLetter s = true ∧ snakeCase s ∉ ["crate", "self", "super"]) := by
  obtain ⟨c, first⟩ := Option.isSome_iff_exists.mp (List.find?_isSome.mpr visible)
  refine ⟨fun r place => ⟨_, Api.Resolve.outcome_claimName s place r, fun target => ?_⟩,
    fun target => isIdentifier_enumMemberName_iff ascii, isIdentifier_rustFieldName_iff ascii first⟩
  exact isIdentifier_nameFor_iff ascii first r place

theorem identifier_type :
    IsAscii "Type!" ∧ (∃ c ∈ "Type!".toList, isAlphanumeric c = true) ∧
      startsWithLetter "Type!" = true ∧ Target.rustFieldName "Type!" = "r#type" ∧
      Target.rust.IsIdentifier (Target.rustFieldName "Type!") ∧
      ∃ name, Api.Resolve.outcome (Api.Resolve.claimName "Type!" "#/definitions/Type!") .start =
        (.ok name, Api.Resolver.start.claim "Type!" "#/definitions/Type!") ∧
        Target.typescript.IsIdentifier name := by
  have ascii : IsAscii "Type!" := by decide
  have visible : ∃ c ∈ "Type!".toList, isAlphanumeric c = true := ⟨'T', by decide, by decide⟩
  have letter : startsWithLetter "Type!" = true := by decide
  obtain ⟨types, -, fields⟩ := identifier_iff ascii visible
  obtain ⟨name, claimed, legal⟩ := types .start "#/definitions/Type!"
  exact ⟨ascii, visible, letter, by decide, fields.mpr ⟨letter, by decide +kernel⟩, name, claimed,
    (legal .typescript).mpr ⟨letter, by simp⟩⟩

/-- A text that starts with a digit gives no name of a type or a field, while it gives that of a member, and
`self` gives no name of a field. -/
theorem no_identifier_of_digit :
    (∀ target : Target, ¬target.IsIdentifier (Api.Resolver.start.nameFor "2fa" "#/definitions/2fa")) ∧
      ¬Target.rust.IsIdentifier (Target.rustFieldName "2fa") ∧
      (∀ target : Target, target.IsIdentifier (enumMemberName "2fa")) ∧
      Target.rustFieldName "self" = "r#self" ∧ ¬Target.rust.IsIdentifier (Target.rustFieldName "self") := by
  have ascii : IsAscii "2fa" := by decide
  have first : firstSign? "2fa" = some '2' := by decide
  have digit : ¬startsWithLetter "2fa" = true := by decide
  have member : enumMemberName "2fa" = "Value2fa" := by decide
  refine ⟨fun target legal => ?_, fun legal => ?_, fun target => ?_, by decide, fun legal => ?_⟩
  · exact digit ((isIdentifier_nameFor_iff ascii first _ _).mp legal).1
  · exact digit ((isIdentifier_rustFieldName_iff ascii first).mp legal).1
  · rw [isIdentifier_enumMemberName_iff ascii, member]
    exact fun rust => absurd rust.2 (by decide)
  · have own : snakeCase "self" ∈ ["crate", "self", "super"] := by decide
    exact ((isIdentifier_rustFieldName_iff (c := 's') (by decide) (by decide)).mp legal).2 own

end Scaffold
