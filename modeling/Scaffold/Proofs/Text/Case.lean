/-
Names in the identifier styles. They have no slash and no blank, a capital letter at their start
stays there, and a word that follows small letters is still the last word of the name.
-/
import Mathlib.Data.List.Basic
import Scaffold.Proofs.Text.Basic
import Scaffold.Text.Case

namespace Scaffold
namespace Text

/-! ## Classes of characters -/

/-- A class of characters to which the case forms of its members belong. -/
structure CaseClosed (p : Char → Bool) : Prop where
  upper : ∀ c, p c = true → ∀ d ∈ upperForm c, p d = true
  lower : ∀ c, p c = true → ∀ d ∈ lowerForm c, p d = true
  sigma : p finalSigma = true

section

variable {p : Char → Bool} {expansions : List (Nat × List Nat)} {shifts : List Shift}

/-- What tables say of case forms is in the class. -/
def TablesIn (p : Char → Bool) (expansions : List (Nat × List Nat)) (shifts : List Shift) : Prop :=
  (∀ e ∈ expansions, ∀ code ∈ e.2, p (Char.ofNat code) = true) ∧
    ∀ s ∈ shifts, ∀ code ∈ List.range' s.run.first (s.run.last + 1 - s.run.first),
      p (Char.ofNat ((code : Int) + s.distance).toNat) = true

instance : Decidable (TablesIn p expansions shifts) :=
  inferInstanceAs (Decidable (_ ∧ _))

theorem TablesIn.caseForm (tables : TablesIn p expansions shifts) {c d : Char} (inside : p c = true)
    (mem : d ∈ caseForm expansions shifts c) : p d = true := by
  obtain ⟨expanded, shifted⟩ := tables
  unfold Text.caseForm at mem
  split at mem
  · next codes found =>
    obtain ⟨code, code_mem, rfl⟩ := List.mem_map.mp mem
    exact expanded _ (List.mem_of_find?_eq_some found) code code_mem
  · split at mem
    · next shift found =>
      have covered := List.find?_some found
      rw [List.mem_singleton.mp mem]
      exact shifted shift (List.mem_of_find?_eq_some found) c.toNat (Run.mem_range'_of_covers covered)
    · rw [List.mem_singleton.mp mem]
      exact inside

theorem TablesIn.mono {q : Char → Bool} (tables : TablesIn p expansions shifts)
    (more : ∀ c, p c = true → q c = true) : TablesIn q expansions shifts :=
  ⟨fun e mem code code_mem => more _ (tables.1 e mem code code_mem),
    fun s mem code code_mem => more _ (tables.2 s mem code code_mem)⟩

/-- The letters of ASCII, and what can be seen outside of it. -/
def isFormChar (c : Char) : Bool :=
  !isBlank c && (c.isAlpha || 128 ≤ c.toNat)

theorem isFormChar_ofNat {code : Nat} (valid : code.isValidChar) (wide : 128 ≤ code)
    (seen : ∀ blank ∈ blankRuns, blank.covers code = false) : isFormChar (Char.ofNat code) = true := by
  have same : (Char.ofNat code).toNat = code := by
    rw [Char.ofNat, dif_pos valid]
    rfl
  have shown : isBlank (Char.ofNat code) = false := by
    rw [isBlank, same, if_neg (by omega), inRuns, same]
    exact List.any_eq_false.mpr fun blank mem => by simp [seen blank mem]
  rw [isFormChar, shown, same]
  simp [wide]

/-- The characters that a shift gives, from the first one to the last. -/
def Shift.target (s : Shift) : Run :=
  ⟨(s.run.first + s.distance).toNat, (s.run.last + s.distance).toNat, 1⟩

/-- They are valid and outside of ASCII, and there is no blank among them. -/
def Shift.isSeen (s : Shift) : Bool :=
  Nat.ble 128 s.target.first && (s.target.last.blt 0xd800 || Nat.blt 0xdfff s.target.first) &&
    s.target.last.blt 0x110000 && blankRuns.all s.target.apart

theorem Shift.isFormChar_of_isSeen {s : Shift} (seen : s.isSeen = true) {code : Nat}
    (mem : code ∈ List.range' s.run.first (s.run.last + 1 - s.run.first)) :
    isFormChar (Char.ofNat ((code : Int) + s.distance).toNat) = true := by
  simp only [isSeen, Bool.and_eq_true, Bool.or_eq_true, Nat.ble_eq, Nat.blt_eq, List.all_eq_true] at seen
  obtain ⟨⟨⟨wide, gap⟩, bound⟩, apart⟩ := seen
  rw [List.mem_range'_1] at mem
  have low : s.target.first ≤ ((code : Int) + s.distance).toNat := Int.toNat_le_toNat (by omega)
  have high : ((code : Int) + s.distance).toNat ≤ s.target.last := Int.toNat_le_toNat (by omega)
  have inside : s.target.covers ((code : Int) + s.distance).toNat = true := by
    simp only [Run.covers, Bool.and_eq_true, decide_eq_true_eq, beq_iff_eq]
    exact ⟨⟨low, high⟩, Nat.mod_one _⟩
  refine isFormChar_ofNat ?_ (by omega) fun blank mem => Run.covers_eq_false_of_apart (apart blank mem) inside
  unfold Nat.isValidChar
  omega

/-- Few shifts lead into ASCII, and these are looked at one by one. -/
theorem tablesIn_of_isSeen {expansions : List (Nat × List Nat)} {shifts : List Shift}
    (expanded : ∀ e ∈ expansions, ∀ code ∈ e.2, isFormChar (Char.ofNat code) = true)
    (shifted : ∀ s ∈ shifts, s.isSeen = true ∨
      ∀ code ∈ List.range' s.run.first (s.run.last + 1 - s.run.first),
        isFormChar (Char.ofNat ((code : Int) + s.distance).toNat) = true) :
    TablesIn isFormChar expansions shifts := by
  refine ⟨expanded, fun s mem code code_mem => ?_⟩
  rcases shifted s mem with seen | all
  · exact Shift.isFormChar_of_isSeen seen code_mem
  · exact all code code_mem

theorem tablesIn_upper : TablesIn isFormChar upperExpansions upperShifts :=
  tablesIn_of_isSeen (by decide +kernel) (by decide +kernel)

theorem tablesIn_lower : TablesIn isFormChar lowerExpansions lowerShifts :=
  tablesIn_of_isSeen (by decide +kernel) (by decide +kernel)

/-- A class with everything that the tables give is closed if it is so within ASCII. -/
theorem CaseClosed.of_ascii
    (ascii : ∀ code < 128, p (Char.ofNat code) = true →
      p (Char.ofNat code).toUpper = true ∧ p (Char.ofNat code).toLower = true)
    (forms : ∀ c, isFormChar c = true → p c = true) : CaseClosed p := by
  have small (c : Char) (is_ascii : c.toNat < 128) (inside : p c = true) :
      p c.toUpper = true ∧ p c.toLower = true := by
    have forms := ascii c.toNat is_ascii
    rw [Char.ofNat_toNat] at forms
    exact forms inside
  refine ⟨fun c inside d mem => ?_, fun c inside d mem => ?_, forms finalSigma (by decide)⟩
  · unfold upperForm at mem
    split at mem
    · next is_ascii =>
      rw [List.mem_singleton.mp mem]
      exact (small c is_ascii inside).1
    · exact (tablesIn_upper.mono forms).caseForm inside mem
  · unfold lowerForm at mem
    split at mem
    · next is_ascii =>
      rw [List.mem_singleton.mp mem]
      exact (small c is_ascii inside).2
    · exact (tablesIn_lower.mono forms).caseForm inside mem

/-- All characters but one that is neither a letter nor outside of ASCII. -/
theorem CaseClosed.other {sign : Char} (free : isFormChar sign = false)
    (ascii : ∀ code < 128, (Char.ofNat code != sign) = true →
      ((Char.ofNat code).toUpper != sign) = true ∧ ((Char.ofNat code).toLower != sign) = true) :
    CaseClosed (· != sign) := by
  refine .of_ascii ascii fun c form => bne_iff_ne.mpr ?_
  rintro rfl
  rw [free] at form
  cases form

end

theorem caseClosed_notSlash : CaseClosed (· != '/') :=
  .other (by decide) (by decide)

theorem caseClosed_notPoint : CaseClosed (· != '.') :=
  .other (by decide) (by decide)

/-- All characters that can be seen. -/
theorem caseClosed_visible : CaseClosed (!isBlank ·) :=
  .of_ascii (by decide) fun _ form => (Bool.and_eq_true_iff.mp form).1

/-! ## Words -/

theorem mem_of_mem_wordsFrom {state : WordCase} {word cs v : List Char} {c : Char}
    (mem : v ∈ wordsFrom state word cs) (inside : c ∈ v) : c ∈ word ∨ c ∈ cs := by
  fun_induction wordsFrom state word cs with
  | case1 => cases mem
  | case2 =>
    simp only [List.mem_singleton] at mem
    simp only [mem, List.mem_reverse, List.mem_cons] at inside ⊢
    grind
  | case3 state word d e rest _ ih =>
    rcases List.mem_cons.mp mem with rfl | mem
    · simp only [List.mem_reverse, List.mem_cons] at inside ⊢
      grind
    · have later := ih mem
      simp only [List.not_mem_nil, List.mem_cons] at later ⊢
      grind
  | case4 state word d e rest _ _ ih =>
    rcases List.mem_cons.mp mem with rfl | mem
    · exact .inl (List.mem_reverse.mp inside)
    · have later := ih mem
      simp only [List.not_mem_nil, List.mem_cons] at later ⊢
      grind
  | case5 state word d e rest _ _ ih =>
    have later := ih mem
    simp only [List.mem_cons] at later ⊢
    grind

theorem isAlphanumeric_of_mem_nameWords {s : String} {word : List Char} {c : Char}
    (mem : word ∈ nameWords s) (inside : c ∈ word) : isAlphanumeric c = true := by
  obtain ⟨piece, piece_mem, mem⟩ := List.mem_flatMap.mp mem
  rcases mem_of_mem_wordsFrom mem inside with none | inside
  · cases none
  · have letter := (of_mem_splitWhere piece_mem inside).2
    simpa using letter

namespace CaseClosed

variable {p : Char → Bool}

theorem smallWord (closed : CaseClosed p) {word : List Char} (inside : ∀ c ∈ word, p c = true) :
    ∀ d ∈ smallWord word, p d = true := by
  fun_induction Text.smallWord word with
  | case1 => exact inside
  | case2 => exact List.forall_mem_singleton.mpr closed.sigma
  | case3 c => exact closed.lower c (inside c List.mem_cons_self)
  | case4 c rest _ ih =>
    intro d mem
    rcases List.mem_append.mp mem with first | later
    · exact closed.lower c (inside c List.mem_cons_self) d first
    · exact ih (fun b hb => inside b (List.mem_cons_of_mem c hb)) d later

theorem capitalWord (closed : CaseClosed p) {word : List Char} (inside : ∀ c ∈ word, p c = true) :
    ∀ d ∈ capitalWord word, p d = true := by
  cases word with
  | nil => exact inside
  | cons c rest =>
    intro d mem
    rw [Text.capitalWord, List.mem_append] at mem
    rcases mem with first | later
    · exact closed.upper c (inside c List.mem_cons_self) d first
    · exact closed.smallWord (fun b hb => inside b (List.mem_cons_of_mem c hb)) d later

/-- A name in Pascal case has the characters of its letters and digits only. -/
theorem pascalCase (closed : CaseClosed p) (letters : ∀ c, isAlphanumeric c = true → p c = true)
    (s : String) : ∀ d ∈ (pascalCase s).toList, p d = true := by
  intro d mem
  rw [Text.pascalCase, String.toList_ofList] at mem
  obtain ⟨word, word_mem, mem⟩ := List.mem_flatMap.mp mem
  have inside (c : Char) (hc : c ∈ word) : p c = true :=
    letters c (isAlphanumeric_of_mem_nameWords word_mem hc)
  exact closed.capitalWord inside d mem

theorem camelCase (closed : CaseClosed p) (letters : ∀ c, isAlphanumeric c = true → p c = true)
    (s : String) : ∀ d ∈ (camelCase s).toList, p d = true := by
  have inside (word : List Char) (word_mem : word ∈ nameWords s) (c : Char) (hc : c ∈ word) : p c = true :=
    letters c (isAlphanumeric_of_mem_nameWords word_mem hc)
  intro d mem
  unfold Text.camelCase at mem
  split at mem
  · cases mem
  · next first rest words =>
    rw [words] at inside
    rw [String.toList_ofList, List.mem_append] at mem
    rcases mem with small | capital
    · exact closed.smallWord (inside first List.mem_cons_self) d small
    · obtain ⟨word, word_mem, mem⟩ := List.mem_flatMap.mp capital
      exact closed.capitalWord (inside word (List.mem_cons_of_mem first word_mem)) d mem

end CaseClosed

theorem bne_of_isAlphanumeric {mark : Char} (other : isAlphanumeric mark = false) (c : Char)
    (letter : isAlphanumeric c = true) : (c != mark) = true := by
  refine bne_iff_ne.mpr ?_
  rintro rfl
  rw [other] at letter
  cases letter

theorem slash_notMem_pascalCase (s : String) : '/' ∉ (pascalCase s).toList := by
  intro slash
  have other := caseClosed_notSlash.pascalCase (bne_of_isAlphanumeric (by decide)) s '/' slash
  simp at other

/-- Letters and digits can be seen in every case form. -/
theorem isBlank_eq_false_of_mem_pascalCase {s : String} {c : Char}
    (mem : c ∈ (pascalCase s).toList) : isBlank c = false := by
  have visible (d : Char) (letter : isAlphanumeric d = true) : (!isBlank d) = true := by
    by_contra blank
    have blank : isBlank d = true := by simpa using blank
    rw [isAlphanumeric_eq_false_of_isBlank blank] at letter
    cases letter
  simpa using caseClosed_visible.pascalCase visible s c mem

theorem isBlankText_pascalCase {s : String} (some_letter : pascalCase s ≠ "") :
    isBlankText (pascalCase s) = false := by
  have chars : (pascalCase s).toList ≠ [] := fun none => some_letter (String.toList_eq_nil_iff.mp none)
  obtain ⟨c, cs, first⟩ := List.exists_cons_of_ne_nil chars
  have visible : isBlank c = false :=
    isBlank_eq_false_of_mem_pascalCase (s := s) (first ▸ List.mem_cons_self)
  simp [isBlankText, first, visible]

theorem mem_intercalate {c : Char} {separator : List Char} {words : List (List Char)}
    (mem : c ∈ separator.intercalate words) : c ∈ separator ∨ ∃ word ∈ words, c ∈ word := by
  induction words with
  | nil => cases mem
  | cons word rest ih =>
    by_cases last : rest = []
    · rw [last, List.intercalate_singleton] at mem
      exact .inr ⟨word, List.mem_cons_self, mem⟩
    · rw [List.intercalate_cons_of_ne_nil last, List.mem_append, List.mem_append] at mem
      rcases mem with (here | between) | later
      · exact .inr ⟨word, List.mem_cons_self, here⟩
      · exact .inl between
      · rcases ih later with between | ⟨other, other_mem, inside⟩
        · exact .inl between
        · exact .inr ⟨other, List.mem_cons_of_mem word other_mem, inside⟩

/-- A name whose words are joined has the characters of its letters and digits, and separators. -/
theorem CaseClosed.separated {p : Char → Bool} (closed : CaseClosed p)
    (letters : ∀ c, isAlphanumeric c = true → p c = true) (separator : Char) (s : String) :
    ∀ d ∈ (separated separator s).toList, d = separator ∨ p d = true := by
  intro d mem
  rw [Text.separated, String.toList_ofList] at mem
  refine (mem_intercalate mem).imp List.mem_singleton.mp ?_
  rintro ⟨form, form_mem, inside⟩
  obtain ⟨word, word_mem, rfl⟩ := List.mem_map.mp form_mem
  exact closed.smallWord (fun c hc => letters c (isAlphanumeric_of_mem_nameWords word_mem hc)) d inside

/-- Joined words have no mark but their separator. -/
theorem CaseClosed.notMem_separated {mark separator : Char} (closed : CaseClosed (· != mark))
    (no_letter : isAlphanumeric mark = false) (other : separator ≠ mark) (s : String) :
    mark ∉ (Text.separated separator s).toList := by
  intro inside
  rcases closed.separated (bne_of_isAlphanumeric no_letter) separator s mark inside with same | free
  · exact other same.symm
  · simp at free

theorem slash_notMem_kebabCase (s : String) : '/' ∉ (kebabCase s).toList :=
  caseClosed_notSlash.notMem_separated (by decide) (by decide) s

theorem slash_notMem_snakeCase (s : String) : '/' ∉ (snakeCase s).toList :=
  caseClosed_notSlash.notMem_separated (by decide) (by decide) s

/-! ## The first letter -/

/-- The first word starts as the text does. -/
theorem wordsFrom_head {c : Char} {cs : List Char} (more : cs ≠ []) (state : WordCase)
    (word : List Char) (start : word = [] → state = .unknown)
    (first : (word.reverse ++ cs).head? = some c) :
    ∃ w ws, wordsFrom state word cs = (c :: w) :: ws := by
  induction cs generalizing state word with
  | nil => exact absurd rfl more
  | cons d rest ih =>
    have whole : (d :: word).reverse = word.reverse ++ [d] := List.reverse_cons
    cases rest with
    | nil =>
      rw [wordsFrom, whole]
      obtain ⟨w, word_eq⟩ := List.head?_eq_some_iff.mp first
      exact ⟨w, [], by rw [word_eq]⟩
    | cons e rest =>
      rw [wordsFrom]
      split
      · cases reversed : word.reverse with
        | nil =>
          rw [reversed] at first
          obtain rfl : d = c := Option.some.inj first
          exact ⟨[], _, by rw [whole, reversed]; rfl⟩
        | cons b w =>
          rw [reversed] at first
          obtain rfl : b = c := Option.some.inj first
          exact ⟨w ++ [d], _, by rw [whole, reversed]; rfl⟩
      · split
        · next capital =>
          cases reversed : word.reverse with
          | nil =>
            have unknown := start (List.reverse_eq_nil_iff.mp reversed)
            rw [capital.1] at unknown
            cases unknown
          | cons b w =>
            rw [reversed] at first
            obtain rfl : b = c := Option.some.inj first
            exact ⟨w, _, rfl⟩
        · refine ih (by simp) _ (d :: word) (by simp) ?_
          rw [whole, List.append_assoc]
          exact first

/-- The first word starts with the first letter or digit of the text. -/
theorem nameWords_head {c : Char} {s : String} (first : s.toList.find? isAlphanumeric = some c) :
    ∃ w ws, nameWords s = (c :: w) :: ws := by
  unfold nameWords
  generalize s.toList = cs at first ⊢
  induction cs with
  | nil => cases first
  | cons d cs ih =>
    by_cases inside : isAlphanumeric d = true
    · rw [List.find?_cons_of_pos inside, Option.some.injEq] at first
      subst first
      obtain ⟨piece, pieces, split⟩ :=
        splitWhere_head (p := (!isAlphanumeric ·)) (c := d) (by simp [inside]) cs
      obtain ⟨word, words, from_piece⟩ := wordsFrom_head (List.cons_ne_nil d piece) .unknown []
        (fun _ => rfl) rfl
      rw [split, List.flatMap_cons, from_piece, List.cons_append]
      exact ⟨word, _, rfl⟩
    · rw [List.find?_cons_of_neg inside] at first
      rw [splitWhere, if_pos (by simpa using inside)]
      exact ih first

/-- A letter at the start that is its own capital form stays there. -/
theorem pascalCase_head {c : Char} {s : String} (inside : isAlphanumeric c = true)
    (capital : upperForm c = [c]) (first : s.toList.head? = some c) :
    (pascalCase s).toList.head? = some c := by
  obtain ⟨cs, chars⟩ := List.head?_eq_some_iff.mp first
  have found : s.toList.find? isAlphanumeric = some c := by
    rw [chars, List.find?_cons_of_pos inside]
  obtain ⟨word, words, split⟩ := nameWords_head found
  rw [pascalCase, String.toList_ofList, split, List.flatMap_cons, capitalWord, capital]
  rfl

/-! ## The last word -/

/-- A small letter, which stays what it is in small letters. -/
structure IsSmall (c : Char) : Prop where
  small : isLowercase c = true
  not_capital : isUppercase c = false
  form : lowerForm c = [c]
  not_sigma : c ≠ 'Σ'

/-- A capital letter after two small ones starts the last word. -/
theorem wordsFrom_append {a b d : Char} {tail : List Char} (ha : IsSmall a) (hb : IsSmall b)
    (hd : isUppercase d = true) (one : wordsFrom .unknown [] (d :: tail) = [d :: tail])
    (state : WordCase) (word cs : List Char) :
    ∃ front back, wordsFrom state word (cs ++ a :: b :: d :: tail) =
      front ++ [back ++ [a, b], d :: tail] := by
  induction cs generalizing state word with
  | nil =>
    refine ⟨[], word.reverse, ?_⟩
    have after (s : WordCase) : s.after b = .small := by simp [WordCase.after, hb.small]
    rw [List.nil_append, wordsFrom, if_neg (by simp [hb.not_capital]),
      if_neg (by simp [ha.not_capital]), wordsFrom, if_pos ⟨after _, hd⟩, one]
    simp
  | cons c cs ih =>
    obtain ⟨next, rest, chars⟩ : ∃ next rest, cs ++ a :: b :: d :: tail = next :: rest :=
      List.exists_cons_of_ne_nil (by simp)
    rw [chars] at ih
    rw [List.cons_append, chars, wordsFrom]
    split
    · obtain ⟨front, back, words⟩ := ih .unknown []
      exact ⟨(c :: word).reverse :: front, back, by rw [words]; rfl⟩
    · split
      · obtain ⟨front, back, words⟩ := ih .unknown [c]
        exact ⟨word.reverse :: front, back, by rw [words]; rfl⟩
      · exact ih _ _

variable {a b d : Char} {tail : List Char}

theorem nameWords_append (ha : IsSmall a) (hb : IsSmall b) (hd : isUppercase d = true)
    (one : wordsFrom .unknown [] (d :: tail) = [d :: tail])
    (inside : ∀ c ∈ a :: b :: d :: tail, isAlphanumeric c = true) {s : String} {cs : List Char}
    (chars : s.toList = cs ++ a :: b :: d :: tail) :
    ∃ front back, nameWords s = front ++ [back ++ [a, b], d :: tail] := by
  obtain ⟨pieces, last, -, split⟩ := splitWhere_append_inside
    (p := (!isAlphanumeric ·)) (fun c mem => by simp [inside c mem]) cs
  obtain ⟨front, back, words⟩ := wordsFrom_append ha hb hd one .unknown [] last
  refine ⟨pieces.flatMap (wordsFrom .unknown []) ++ front, back, ?_⟩
  rw [nameWords, chars, split, List.flatMap_append, List.flatMap_singleton, words,
    List.append_assoc]

theorem smallWord_concat (hb : IsSmall b) (word : List Char) :
    ∃ front, smallWord (word ++ [b]) = front ++ [b] := by
  induction word with
  | nil => exact ⟨[], by simp [smallWord, hb.not_sigma, hb.form]⟩
  | cons c word ih =>
    obtain ⟨front, small⟩ := ih
    refine ⟨lowerForm c ++ front, ?_⟩
    rw [List.cons_append, smallWord, small, List.append_assoc]
    simp

theorem capitalWord_concat (hb : IsSmall b) (word : List Char) (a : Char) :
    ∃ front, capitalWord (word ++ [a, b]) = front ++ [b] := by
  cases word with
  | nil => exact ⟨upperForm a, by simp [capitalWord, smallWord, hb.not_sigma, hb.form]⟩
  | cons c word =>
    obtain ⟨front, small⟩ := smallWord_concat hb (word ++ [a])
    refine ⟨upperForm c ++ front, ?_⟩
    rw [List.append_assoc] at small
    rw [List.cons_append, capitalWord, List.append_assoc]
    exact congrArg (upperForm c ++ ·) small

theorem intercalate_concat (separator : List Char) {words : List (List Char)} (some : words ≠ [])
    (last : List Char) :
    separator.intercalate (words ++ [last]) = separator.intercalate words ++ (separator ++ last) := by
  induction words with
  | nil => exact absurd rfl some
  | cons word rest ih =>
    by_cases none : rest = []
    · simp [none, List.intercalate_cons_cons]
    · rw [List.cons_append, List.intercalate_cons_of_ne_nil (by simp),
        List.intercalate_cons_of_ne_nil none, ih none]
      simp

variable {s : String} {front : List (List Char)} {back last : List Char}

theorem pascalCase_append (hb : IsSmall b) (words : nameWords s = front ++ [back ++ [a, b], last]) :
    ∃ start, (pascalCase s).toList = start ++ b :: capitalWord last := by
  obtain ⟨start, capital⟩ := capitalWord_concat hb back a
  refine ⟨front.flatMap capitalWord ++ start, ?_⟩
  rw [pascalCase, String.toList_ofList, words]
  simp [capital]

theorem separated_append (hb : IsSmall b) (words : nameWords s = front ++ [back ++ [a, b], last])
    (separator : Char) :
    ∃ start, (separated separator s).toList = start ++ b :: separator :: smallWord last := by
  obtain ⟨start, small⟩ := smallWord_concat hb (back ++ [a])
  rw [List.append_assoc] at small
  have forms : (nameWords s).map smallWord =
      (front.map smallWord ++ [start ++ [b]]) ++ [smallWord last] := by
    simpa [words] using small
  rw [separated, String.toList_ofList, forms, intercalate_concat _ (by simp)]
  by_cases only : front.map smallWord = []
  · exact ⟨start, by simp [only]⟩
  · rw [intercalate_concat _ only]
    exact ⟨[separator].intercalate (front.map smallWord) ++ ([separator] ++ start), by simp⟩

end Text
end Scaffold
