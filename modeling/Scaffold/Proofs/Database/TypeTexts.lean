/-
The canonical type of a data type with numbers in parentheses beside that of its name alone. Rules that
look at the start of a text, or for a mark without parentheses, do not see the numbers. Of the others, one
looks for a width of one behind the names that start as a flag does, and some compare the whole text with
a name, which numbers spoil: `canonicalType_sized_iff`. No rule sees the case of a letter.
-/
import Scaffold.Database.DataType
import Scaffold.Database.Schema
import Scaffold.Proofs.Text.Basic
import Scaffold.Proofs.Text.Case
import Scaffold.Proofs.Text.Search
import Scaffold.Proofs.Text.Words

namespace Scaffold
namespace Database

open Text (startsWith contains smallForms SameLetters)

/-! ## What the rules look at -/

def typeFronts : List String :=
  ["tinyint", "smallint", "mediumint", "int", "bigint", "float", "double", "real", "decimal", "numeric",
    "binary", "varbinary", "bit", "datetime", "timestamp"]

/-- The names that are compared with the whole text. -/
def wholeNames : List String :=
  ["bool", "boolean", "date", "time", "json"]

/-- The start of a name that stands for a flag if its width is one. -/
def hasFlagFront (small : String) : Bool :=
  startsWith "tinyint" small || startsWith "bit" small

variable {small small' : String}

/-- Texts that no rule can tell apart. -/
structure RulesAgree (small small' : String) : Prop where
  fronts : ∀ front ∈ typeFronts, startsWith front small = startsWith front small'
  bytes : contains "blob" small = contains "blob" small'
  flag : (hasFlagFront small && contains "(1)" small) = (hasFlagFront small' && contains "(1)" small')
  whole : ∀ name ∈ wholeNames, (small == name) = (small' == name)

theorem RulesAgree.symm (agree : RulesAgree small small') : RulesAgree small' small where
  fronts front mem := (agree.fronts front mem).symm
  bytes := agree.bytes.symm
  flag := agree.flag.symm
  whole name mem := (agree.whole name mem).symm

theorem RulesAgree.trans {small'' : String} (agree : RulesAgree small small')
    (agree' : RulesAgree small' small'') : RulesAgree small small'' where
  fronts front mem := (agree.fronts front mem).trans (agree'.fronts front mem)
  bytes := agree.bytes.trans agree'.bytes
  flag := agree.flag.trans agree'.flag
  whole name mem := (agree.whole name mem).trans (agree'.whole name mem)

theorem RulesAgree.hasFlagFront_eq (agree : RulesAgree small small') :
    hasFlagFront small = hasFlagFront small' := by
  rw [hasFlagFront, agree.fronts "tinyint" (by decide), agree.fronts "bit" (by decide), hasFlagFront]

theorem RulesAgree.mem_wholeNames_iff (agree : RulesAgree small small') :
    small ∈ wholeNames ↔ small' ∈ wholeNames := by
  have same (name : String) (mem : name ∈ wholeNames) : small = name ↔ small' = name := by
    rw [← beq_iff_eq, agree.whole name mem, beq_iff_eq]
  constructor
  · intro mem
    rwa [(same small mem).mp rfl]
  · intro mem
    rwa [(same small' mem).mpr rfl]

theorem RulesAgree.isBooleanType_eq (agree : RulesAgree small small') :
    isBooleanType small = isBooleanType small' := by
  show (_ || (hasFlagFront small && contains "(1)" small)) = _
  rw [agree.flag, agree.whole "bool" (by decide), agree.whole "boolean" (by decide)]
  rfl

theorem RulesAgree.canonicalOf_eq (agree : RulesAgree small small') (isUnsigned : Bool) :
    canonicalOf small isUnsigned = canonicalOf small' isUnsigned := by
  have fronts := agree.fronts
  have whole := agree.whole
  simp only [typeFronts, wholeNames, List.forall_mem_cons] at fronts whole
  unfold canonicalOf
  simp only [agree.isBooleanType_eq, fronts, agree.bytes, whole]

/-! ## The case of letters -/

def Column.withType (c : Column) (text : String) : Column :=
  { c with dataType := text }

/-- A sigma is in no mark, so its form does not matter. -/
theorem rulesAgree_plainSigma (cs : List Char) :
    RulesAgree (String.ofList (cs.map Text.plainSigma)) (String.ofList cs) := by
  have fronts : ∀ front ∈ typeFronts, startsWith front (String.ofList (cs.map Text.plainSigma)) =
      startsWith front (String.ofList cs) := by
    have free : ∀ front ∈ typeFronts, Text.NoSigma front.toList := by decide
    intro front mem
    rw [Text.startsWith_ofList, Text.startsWith_ofList, Text.isPrefixOf_map (free front mem).plainSigma_eq_iff]
  have marks (mark : String) (free : Text.NoSigma mark.toList) :
      contains mark (String.ofList (cs.map Text.plainSigma)) = contains mark (String.ofList cs) := by
    rw [Text.contains_ofList, Text.contains_ofList, Text.occursIn_map free.plainSigma_eq_iff]
  refine ⟨fronts, marks _ (by decide), ?_, fun name mem => ?_⟩
  · rw [hasFlagFront, hasFlagFront, fronts "tinyint" (by decide), fronts "bit" (by decide),
      marks _ (by decide)]
  · have free : ∀ name ∈ wholeNames, Text.NoSigma name.toList := by decide
    rw [Bool.eq_iff_iff, beq_iff_eq, beq_iff_eq, ← String.toList_inj, ← String.toList_inj,
      String.toList_ofList, String.toList_ofList, Text.map_eq_iff (free name mem).plainSigma_eq_iff]

theorem rulesAgree_lowercase (s : String) :
    RulesAgree (Text.lowercase s) (String.ofList (smallForms s)) := by
  have formed := rulesAgree_plainSigma (Text.lowercase s).toList
  rw [Text.map_lowercase, String.ofList_toList] at formed
  exact formed.symm.trans (rulesAgree_plainSigma (smallForms s))

theorem canonicalType_withType (c : Column) (text : String) :
    canonicalType (c.withType text) = canonicalOf (String.ofList (smallForms text)) c.isUnsigned :=
  (rulesAgree_lowercase text).canonicalOf_eq c.isUnsigned

theorem canonicalType_of_sameLetters {text other : String} (same : SameLetters text other) (c : Column) :
    canonicalType (c.withType text) = canonicalType (c.withType other) := by
  rw [canonicalType_withType, ← (rulesAgree_plainSigma _).canonicalOf_eq, same,
    (rulesAgree_plainSigma _).canonicalOf_eq, canonicalType_withType]

/-! ## Parentheses behind a name -/

/-- A text in small letters with parentheses behind a name. No mark of the rules can begin in them. -/
structure SizedText where
  name : List Char
  body : List Char
  words : List Char
  name_free : '(' ∉ name
  body_free : '(' ∉ body ∧ ')' ∉ body ∧ 'b' ∉ body
  words_free : '(' ∉ words
  apart : words = [] ∨ ∃ rest, words = ' ' :: rest

namespace SizedText

variable (t : SizedText)

def text : String :=
  String.ofList (t.name ++ '(' :: (t.body ++ ')' :: t.words))

def plain : String :=
  String.ofList (t.name ++ t.words)

def emptied : SizedText :=
  { t with body := [], body_free := by simp }

theorem startsWith_text {front : String} (no_paren : '(' ∉ front.toList) (no_blank : ' ' ∉ front.toList) :
    startsWith front t.text = startsWith front t.plain := by
  rw [text, plain, Text.startsWith_ofList, Text.startsWith_ofList, Text.isPrefixOf_append_cons no_paren]
  rcases t.apart with none | ⟨rest, some⟩
  · rw [none, List.append_nil]
  · rw [some, Text.isPrefixOf_append_cons no_blank]

theorem hasFlagFront_text : hasFlagFront t.text = hasFlagFront t.plain := by
  rw [hasFlagFront, t.startsWith_text (by decide) (by decide), t.startsWith_text (by decide) (by decide),
    hasFlagFront]

theorem contains_blob_text : contains "blob" t.text = contains "blob" t.plain := by
  have some : "blob".toList ≠ [] := by decide
  have body_none : Text.occursIn "blob".toList t.body = false :=
    Text.occursIn_eq_false (by decide) t.body_free.2.2
  rw [text, plain, Text.contains_ofList, Text.contains_ofList, Text.occursIn_append_cons some (by decide),
    Text.occursIn_append_cons some (by decide), body_none, Bool.false_or]
  rcases t.apart with none | ⟨rest, words⟩
  · rw [none, Text.occursIn_nil some, Bool.or_false, List.append_nil]
  · have behind := Text.occursIn_append_cons some (c := ' ') (by decide) [] rest
    rw [List.nil_append, Text.occursIn_nil some, Bool.false_or] at behind
    rw [words, behind, Text.occursIn_append_cons some (by decide)]

theorem contains_one_text : contains "(1)" t.text = decide (t.body = ['1']) := by
  obtain ⟨no_open, no_close, -⟩ := t.body_free
  have back_free : '(' ∉ t.body ++ ')' :: t.words := by
    simp [no_open, t.words_free]
  rw [text, Text.contains_ofList]
  show Text.occursIn ('(' :: ['1', ')']) _ = _
  rw [Text.occursIn_at t.name_free back_free]
  show (['1'] ++ [')']).isPrefixOf _ = _
  exact Text.isPrefixOf_closed (by decide) no_close t.words

theorem contains_one_plain : contains "(1)" t.plain = false := by
  rw [plain, Text.contains_ofList]
  exact Text.occursIn_eq_false (c := '(') (by decide) (by simp [t.name_free, t.words_free])

theorem text_beq_whole {entry : String} (mem : entry ∈ wholeNames) : (t.text == entry) = false := by
  have free : ∀ entry ∈ wholeNames, '(' ∉ entry.toList := by decide
  rw [beq_eq_false_iff_ne]
  rintro rfl
  exact free _ mem (by simp [text])

theorem startsWith_text_of_mem {front : String} (mem : front ∈ typeFronts) :
    startsWith front t.text = startsWith front t.plain := by
  have free : ∀ front ∈ typeFronts, '(' ∉ front.toList ∧ ' ' ∉ front.toList := by decide
  exact t.startsWith_text (free front mem).1 (free front mem).2

variable {t}

/-- Only a width of one behind the front of a flag, or a name compared as a whole, makes a difference. -/
theorem rulesAgree (no_flag : t.body = ['1'] → hasFlagFront t.plain = false)
    (not_whole : t.plain ∉ wholeNames) : RulesAgree t.text t.plain where
  fronts _ := t.startsWith_text_of_mem
  bytes := t.contains_blob_text
  flag := by
    rw [t.hasFlagFront_text, t.contains_one_text, t.contains_one_plain, Bool.and_false]
    by_cases one : t.body = ['1']
    · rw [no_flag one, Bool.false_and]
    · rw [decide_eq_false one, Bool.and_false]
  whole entry mem := by
    rw [t.text_beq_whole mem, eq_comm, beq_eq_false_iff_ne]
    rintro rfl
    exact not_whole mem

theorem canonicalOf_flag (one : t.body = ['1']) (front : hasFlagFront t.plain = true) (isUnsigned : Bool) :
    canonicalOf t.text isUnsigned = "bool" := by
  have boolean : isBooleanType t.text = true := by
    show (_ || (hasFlagFront t.text && contains "(1)" t.text)) = true
    rw [t.hasFlagFront_text, front, t.contains_one_text, decide_eq_true one, Bool.and_true, Bool.or_true]
  rw [canonicalOf, boolean]
  rfl

theorem rulesAgree_emptied (no_flag : hasFlagFront t.plain = false) : RulesAgree t.text t.emptied.text where
  fronts _ mem := (t.startsWith_text_of_mem mem).trans (t.emptied.startsWith_text_of_mem mem).symm
  bytes := t.contains_blob_text.trans t.emptied.contains_blob_text.symm
  flag := by
    have no_flag' : hasFlagFront t.emptied.plain = false := no_flag
    rw [t.hasFlagFront_text, t.emptied.hasFlagFront_text, no_flag, no_flag', Bool.false_and, Bool.false_and]
  whole _ mem := by rw [t.text_beq_whole mem, t.emptied.text_beq_whole mem]

/-- A name compared as a whole is not known with anything behind it. -/
theorem canonicalOf_ne_of_whole (whole : t.plain ∈ wholeNames) (isUnsigned : Bool) :
    canonicalOf t.text isUnsigned ≠ canonicalOf t.plain isUnsigned := by
  have known : ∀ entry ∈ wholeNames, ' ' ∉ entry.toList ∧ hasFlagFront entry = false ∧
      ∀ isUnsigned, canonicalOf (entry ++ "()") isUnsigned ≠ canonicalOf entry isUnsigned := by
    decide
  obtain ⟨no_blank, no_flag, other⟩ := known _ whole
  -- What stands in the parentheses does not matter here, so the few names with `()` decide.
  have no_words : t.words = [] := by
    rcases t.apart with none | ⟨rest, some⟩
    · exact none
    · exact absurd (by simp [plain, some]) no_blank
  have emptied : t.emptied.text = t.plain ++ "()" := by
    simp [text, plain, SizedText.emptied, no_words]
  rw [(rulesAgree_emptied no_flag).canonicalOf_eq, emptied]
  exact other isUnsigned

end SizedText

/-! ## Lists of numbers -/

/-- A name, numbers in parentheses if there are any, and words. -/
def typeText (name separator : String) (numbers : List Nat) (words : String) : String :=
  DataType.withArguments name separator (numbers.map toString) ++ words

/-- Words behind a type, apart from it and without parentheses. -/
def IsQualifier (words : String) : Prop :=
  words = "" ∨ ∃ rest, words = " " ++ rest ∧ '(' ∉ rest.toList

/-- The width of one behind the front of a flag. -/
def IsFlag (text : String) (numbers : List Nat) : Prop :=
  numbers = [1] ∧ hasFlagFront (Text.lowercase text) = true

instance (text : String) (numbers : List Nat) : Decidable (IsFlag text numbers) :=
  inferInstanceAs (Decidable (_ ∧ _))

def IsNumberSign (c : Char) : Prop :=
  c.isDigit = true ∨ c = ',' ∨ c = ' '

variable {c : Char} {name separator words : String} {numbers : List Nat}

theorem IsNumberSign.lowerForm (sign : IsNumberSign c) : Text.lowerForm c = [c] := by
  rcases sign with digit | rfl | rfl
  · exact Text.forall_ascii (p := fun c => c.isDigit = true → Text.lowerForm c = [c]) (by decide +kernel)
      c (Text.IsPlain.ascii (.inr digit)) digit
  · decide
  · decide

theorem isNumberSign_of_mem (between : separator ∈ [",", ", "])
    (mem : c ∈ (Text.join separator (numbers.map toString)).toList) : IsNumberSign c := by
  rw [Text.join, String.toList_intercalate] at mem
  rcases Text.mem_intercalate mem with sign | ⟨digits, digits_mem, inside⟩
  · rcases List.mem_pair.mp between with rfl | rfl
    · exact .inr (.inl (List.mem_singleton.mp sign))
    · exact .inr (List.mem_pair.mp sign)
  · rw [List.map_map] at digits_mem
    obtain ⟨n, -, rfl⟩ := List.mem_map.mp digits_mem
    have digit : c ∈ n.repr.toList := inside
    rw [Nat.toList_repr] at digit
    exact .inl (Nat.isDigit_of_mem_toDigits (by omega) (by omega) digit)

theorem smallForms_numbers (between : separator ∈ [",", ", "]) :
    smallForms (Text.join separator (numbers.map toString)) =
      (Text.join separator (numbers.map toString)).toList := by
  rw [smallForms, List.flatMap_congr fun c mem => (isNumberSign_of_mem between mem).lowerForm,
    List.flatMap_singleton']

theorem join_numbers_eq_one_iff (between : separator ∈ [",", ", "]) (some : numbers ≠ []) :
    (Text.join separator (numbers.map toString)).toList = ['1'] ↔ numbers = [1] := by
  rw [Text.join, String.toList_intercalate]
  cases numbers with
  | nil => exact absurd rfl some
  | cons n rest =>
    cases rest with
    | nil =>
      rw [List.map_singleton, List.map_singleton, List.intercalate_singleton]
      show (toString n).toList = (toString 1).toList ↔ _
      rw [String.toList_inj]
      constructor
      · intro same
        rw [Text.toString_injective same]
      · rintro ⟨⟩
        rfl
    | cons m rest =>
      have comma : ∀ separator ∈ [",", ", "], ',' ∈ separator.toList := by decide
      constructor
      · intro one
        have inside : ',' ∈ ['1'] := by
          rw [← one, List.map_cons, List.map_cons, List.intercalate_cons_of_ne_nil (by simp)]
          simp [comma separator between]
        exact absurd inside (by decide)
      · intro one
        cases one

theorem paren_notMem_smallForms {text : String} (free : '(' ∉ text.toList) : '(' ∉ smallForms text := by
  have closed : Text.CaseClosed (· != '(') := .other (by decide) (by decide)
  intro mem
  obtain ⟨c, inside, form⟩ := List.mem_flatMap.mp mem
  have other := closed.lower c (bne_iff_ne.mpr fun same => free (same ▸ inside)) _ form
  simp at other

theorem IsQualifier.smallForms (qualified : IsQualifier words) :
    '(' ∉ smallForms words ∧ (smallForms words = [] ∨ ∃ rest, smallForms words = ' ' :: rest) := by
  rcases qualified with rfl | ⟨rest, rfl, free⟩
  · exact ⟨List.not_mem_nil, .inl rfl⟩
  · refine ⟨paren_notMem_smallForms (by simpa using free), .inr ⟨Text.smallForms rest, ?_⟩⟩
    rw [Text.smallForms_append]
    rfl

theorem exists_sizedText (bare : '(' ∉ name.toList) (between : separator ∈ [",", ", "])
    (qualified : IsQualifier words) (some : numbers ≠ []) :
    ∃ t : SizedText, t.text = String.ofList (smallForms (typeText name separator numbers words)) ∧
      t.plain = String.ofList (smallForms (name ++ words)) ∧ (t.body = ['1'] ↔ numbers = [1]) := by
  have no_sign (c : Char) (other : ¬IsNumberSign c) :
      c ∉ (Text.join separator (numbers.map toString)).toList :=
    fun mem => other (isNumberSign_of_mem between mem)
  let t : SizedText :=
    { name := smallForms name
      body := (Text.join separator (numbers.map toString)).toList
      words := smallForms words
      name_free := paren_notMem_smallForms bare
      body_free := ⟨no_sign _ (by simp [IsNumberSign]), no_sign _ (by simp [IsNumberSign]),
        no_sign _ (by simp [IsNumberSign])⟩
      words_free := qualified.smallForms.1
      apart := qualified.smallForms.2 }
  refine ⟨t, ?_, ?_, join_numbers_eq_one_iff between some⟩
  · have full : (numbers.map toString).isEmpty = false := by simp [some]
    have opened : smallForms "(" = ['('] := by decide
    have closed : smallForms ")" = [')'] := by decide
    simp [typeText, DataType.withArguments, full, smallForms_numbers between, opened, closed,
      SizedText.text, t]
  · rw [Text.smallForms_append]
    rfl

/-- Numbers make a width of one behind the front of a flag a truth value. Otherwise they do not change
the canonical type, exactly if they are not behind a name that is compared with the whole text. The case
of letters never matters. -/
theorem canonicalType_sized_iff (bare : '(' ∉ name.toList) (between : separator ∈ [",", ", "])
    (qualified : IsQualifier words) (c : Column) :
    (IsFlag (name ++ words) numbers →
      canonicalType (c.withType (typeText name separator numbers words)) = "bool") ∧
    (¬IsFlag (name ++ words) numbers →
      (canonicalType (c.withType (typeText name separator numbers words)) =
          canonicalType (c.withType (name ++ words)) ↔
        numbers = [] ∨ Text.lowercase (name ++ words) ∉ wholeNames)) ∧
    ∀ text other, SameLetters text other →
      canonicalType (c.withType text) = canonicalType (c.withType other) := by
  have agree := rulesAgree_lowercase (name ++ words)
  refine ⟨?_, fun no_flag => ?_, fun text other same => canonicalType_of_sameLetters same c⟩
  · rintro ⟨rfl, front⟩
    obtain ⟨t, text, plain, one⟩ := exists_sizedText bare between qualified (List.cons_ne_nil 1 [])
    rw [canonicalType_withType, ← text]
    refine SizedText.canonicalOf_flag (one.mpr rfl) ?_ c.isUnsigned
    rw [plain, ← agree.hasFlagFront_eq, front]
  · by_cases none : numbers = []
    · subst none
      exact iff_of_true rfl (.inl rfl)
    · obtain ⟨t, text, plain, one⟩ := exists_sizedText bare between qualified none
      rw [canonicalType_withType, canonicalType_withType, ← text, ← plain, agree.mem_wholeNames_iff, ← plain,
        or_iff_right none]
      constructor
      · intro same whole
        exact SizedText.canonicalOf_ne_of_whole whole c.isUnsigned same
      · intro not_whole
        refine (SizedText.rulesAgree ?_ not_whole).canonicalOf_eq c.isUnsigned
        intro width
        rw [plain, ← agree.hasFlagFront_eq]
        exact Bool.of_not_eq_true fun front => no_flag ⟨one.mp width, front⟩

def priceColumn : Column where
  name := "price"
  dataType := "DECIMAL"
  isNullable := false
  defaultValue := none
  isAutoIncrement := false
  isUnsigned := true
  enumValues := none
  comment := none

theorem canonicalType_sized_price :
    canonicalType (priceColumn.withType "Decimal(10, 2) UNSIGNED") =
      canonicalType (priceColumn.withType "decimal unsigned") := by
  obtain ⟨-, other, letters⟩ := @canonicalType_sized_iff "Decimal" ", " " UNSIGNED" [10, 2] (by decide)
    (by decide) (.inr ⟨"UNSIGNED", by decide, by decide⟩) priceColumn
  have text : typeText "Decimal" ", " [10, 2] " UNSIGNED" = "Decimal(10, 2) UNSIGNED" := by decide +kernel
  have same := (other (by decide +kernel)).mpr (.inr (by decide +kernel))
  rw [text] at same
  exact same.trans (letters _ _ (by decide +kernel))

section Schema

-- The characters of a schema are a list that is as deep as it is long.
set_option maxRecDepth 2000

/-- Times of the day and bits, with a number and without. -/
def shiftSchema : String :=
  "CREATE TABLE shifts (starts_at TIME(6), ends_at TIME, days BIT VARYING(1), crew BIT VARYING);"

theorem shiftSchema_types :
    (tables? shiftSchema).map (·.map (·.columns.map fun c => (c.dataType, canonicalType c))) =
      some [[("TIME(6)", "string"), ("TIME", "TimeOnly"), ("BIT VARYING(1)", "bool"),
        ("BIT VARYING", "List<byte>")]] := by
  rw [show shiftSchema = String.ofList _ from rfl, tables?, statements?_ofList]
  decide +kernel

end Schema

end Database
end Scaffold
