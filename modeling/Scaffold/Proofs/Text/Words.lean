/-
The words of a name in small letters are all that the identifier styles keep of it. Names are equal in snake
case exactly when their words are (`snakeCase_eq_iff`). Camel case and Pascal case do not show where a word
starts that has no letter to be made a capital, so there the names are equal exactly when their spellings
are (`camelCase_eq_iff`, `pascalCase_eq_iff`); what is in camel case can be read back (`cut_camel`).
-/
import Scaffold.Proofs.Text.Case

namespace Scaffold
namespace Text

/-- The words of a name, in small letters. -/
def smallWords (s : String) : List (List Char) :=
  (nameWords s).map smallWord

/-- Words as they are seen when only capitals mark them: one that starts with a digit goes on with the
word before it. -/
def glued : List (List Char) → List (List Char)
  | [] => []
  | word :: rest =>
    match glued rest with
    | [] => [word]
    | next :: others =>
      if next.head?.any Char.isDigit then (word ++ next) :: others else word :: next :: others

/-- What camel case and Pascal case keep of a name. -/
def spelling (s : String) : List (List Char) :=
  glued (smallWords s)

def IsAscii (s : String) : Prop :=
  ∀ c ∈ s.toList, c.toNat < 128

instance (s : String) : Decidable (IsAscii s) :=
  List.decidableBAll (fun c : Char => c.toNat < 128) s.toList

variable {s s' : String} {c : Char} {w v : List Char} {ws ws' : List (List Char)}

/-! ## ASCII -/

theorem forall_ascii {p : Char → Prop} (all : ∀ code < 128, p (Char.ofNat code)) (c : Char)
    (ascii : c.toNat < 128) : p c := by
  have holds := all c.toNat ascii
  rwa [Char.ofNat_toNat] at holds

/-- A small letter or a digit: what small words consist of. -/
def IsPlain (c : Char) : Prop :=
  c.isLower = true ∨ c.isDigit = true

instance (c : Char) : Decidable (IsPlain c) :=
  inferInstanceAs (Decidable (_ ∨ _))

theorem IsPlain.ascii (plain : IsPlain c) : c.toNat < 128 := by
  have below {bound : UInt32} (le : decide (c.val ≤ bound) = true) (small : bound.toNat < 128) :
      c.toNat < 128 :=
    Nat.lt_of_le_of_lt (UInt32.le_iff_toNat_le.mp (of_decide_eq_true le)) small
  rcases plain with letter | digit
  · exact below (Bool.and_eq_true_iff.mp letter).2 (by decide)
  · exact below (Bool.and_eq_true_iff.mp digit).2 (by decide)

/-- What is known of the case of a plain character and of its capital. -/
@[mk_iff]
structure PlainForms (c : Char) : Prop where
  letter : isAlphanumeric c = true
  not_capital : isUppercase c = false
  upper_ascii : c.toUpper.toNat < 128
  upper_letter : isAlphanumeric c.toUpper = true
  back : c.toUpper.toLower = c ∧ c.toLower = c
  upper_digit : c.toUpper.isDigit = c.isDigit
  small : c.isLower = true → isLowercase c = true ∧ isUppercase c.toUpper = true ∧
    isLowercase c.toUpper = false ∧ c.isDigit = false
  digit : c.isDigit = true → isLowercase c = false ∧ c.toUpper = c

instance (c : Char) : Decidable (PlainForms c) :=
  decidable_of_iff' _ (plainForms_iff c)

theorem IsPlain.forms (plain : IsPlain c) : PlainForms c :=
  forall_ascii (p := fun c => IsPlain c → PlainForms c) (by decide) c plain.ascii plain

theorem IsPlain.not_capital (plain : IsPlain c) : isUppercase c = false :=
  plain.forms.not_capital

/-- What a plain character is in capitals can be told from it. -/
theorem IsPlain.toLower_toUpper (plain : IsPlain c) : c.toUpper.toLower = c ∧ c.toLower = c :=
  plain.forms.back

theorem isUppercase_toUpper (small : c.isLower = true) : isUppercase c.toUpper = true :=
  ((IsPlain.forms (.inl small)).small small).2.1

theorem toUpper_of_isDigit (digit : c.isDigit = true) : c.toUpper = c :=
  ((IsPlain.forms (.inr digit)).digit digit).2

theorem IsPlain.isDigit_toUpper (plain : IsPlain c) : c.toUpper.isDigit = c.isDigit :=
  plain.forms.upper_digit

theorem isPlain_toLower (ascii : c.toNat < 128) (inside : isAlphanumeric c = true) :
    IsPlain c.toLower ∧ c.toLower.toUpper = c.toUpper :=
  forall_ascii
    (p := fun c => isAlphanumeric c = true → IsPlain c.toLower ∧ c.toLower.toUpper = c.toUpper)
    (by decide) c ascii inside

/-! ## Words -/

theorem ne_nil_of_mem_wordsFrom {state : WordCase} {word cs : List Char}
    (start : word = [] → state = .unknown) (mem : v ∈ wordsFrom state word cs) : v ≠ [] := by
  fun_induction wordsFrom state word cs with
  | case1 => cases mem
  | case2 =>
    rw [List.mem_singleton.mp mem]
    simp
  | case3 state word d e rest _ ih =>
    rcases List.mem_cons.mp mem with rfl | mem
    · simp
    · exact ih (fun _ => rfl) mem
  | case4 state word d e rest _ capital ih =>
    rcases List.mem_cons.mp mem with rfl | mem
    · intro none
      have unknown := start (List.reverse_eq_nil_iff.mp none)
      rw [capital.1] at unknown
      cases unknown
    · exact ih (by simp) mem
  | case5 state word d e rest _ _ ih => exact ih (by simp) mem

theorem ne_nil_of_mem_nameWords (mem : w ∈ nameWords s) : w ≠ [] := by
  obtain ⟨piece, -, mem⟩ := List.mem_flatMap.mp mem
  exact ne_nil_of_mem_wordsFrom (fun _ => rfl) mem

theorem lowerForm_ne_nil (c : Char) : lowerForm c ≠ [] := by
  unfold lowerForm caseForm
  split
  · simp
  · split
    · next codes found =>
      have some : ∀ e ∈ lowerExpansions, e.2 ≠ [] := by decide
      simpa using some _ (List.mem_of_find?_eq_some found)
    · split <;> simp

theorem smallWord_ne_nil (some : w ≠ []) : smallWord w ≠ [] := by
  fun_cases smallWord w with
  | case1 => exact some
  | case2 => simp
  | case3 c => exact lowerForm_ne_nil c
  | case4 c rest => simp [lowerForm_ne_nil c]

theorem ne_nil_of_mem_smallWords (mem : w ∈ smallWords s) : w ≠ [] := by
  obtain ⟨word, word_mem, rfl⟩ := List.mem_map.mp mem
  exact smallWord_ne_nil (ne_nil_of_mem_nameWords word_mem)

theorem IsAscii.of_mem_nameWords (ascii : IsAscii s) (mem : w ∈ nameWords s) (inside : c ∈ w) :
    c.toNat < 128 := by
  obtain ⟨piece, piece_mem, mem⟩ := List.mem_flatMap.mp mem
  rcases mem_of_mem_wordsFrom mem inside with none | inside
  · cases none
  · exact ascii c (of_mem_splitWhere piece_mem inside).1

/-- A word in which an ASCII letter or digit stands at every place. -/
def IsAsciiWord (w : List Char) : Prop :=
  ∀ c ∈ w, c.toNat < 128 ∧ isAlphanumeric c = true

theorem IsAscii.isAsciiWord (ascii : IsAscii s) (mem : w ∈ nameWords s) : IsAsciiWord w :=
  fun _ inside => ⟨ascii.of_mem_nameWords mem inside, isAlphanumeric_of_mem_nameWords mem inside⟩

/-- A word with a capital in front, if it starts with a letter. -/
def capitalised : List Char → List Char
  | [] => []
  | c :: rest => c.toUpper :: rest

theorem smallWord_eq (ascii : IsAsciiWord w) : smallWord w = w.map Char.toLower := by
  fun_induction smallWord w with
  | case1 => rfl
  | case2 => exact absurd (ascii 'Σ' List.mem_cons_self).1 (by decide)
  | case3 c _ =>
    rw [lowerForm, if_pos (ascii c List.mem_cons_self).1]
    rfl
  | case4 c rest _ ih =>
    rw [lowerForm, if_pos (ascii c List.mem_cons_self).1,
      ih fun d mem => ascii d (List.mem_cons_of_mem c mem)]
    rfl

theorem capitalWord_eq (ascii : IsAsciiWord w) : capitalWord w = capitalised (smallWord w) := by
  cases w with
  | nil => rfl
  | cons c rest =>
    obtain ⟨small, inside⟩ := ascii c List.mem_cons_self
    have later : IsAsciiWord rest := fun d mem => ascii d (List.mem_cons_of_mem c mem)
    rw [smallWord_eq ascii, capitalWord, upperForm, if_pos small, smallWord_eq later, List.map_cons,
      capitalised, (isPlain_toLower small inside).2]
    rfl

/-- Words as a name in camel case or Pascal case shows them. -/
structure Spelled (ws : List (List Char)) : Prop where
  ne_nil : ∀ w ∈ ws, w ≠ []
  plain : ∀ w ∈ ws, ∀ c ∈ w, IsPlain c
  /-- All words but the first start with a letter. -/
  later : ∀ w ∈ ws.tail, ∃ c rest, w = c :: rest ∧ c.isLower = true

theorem Spelled.tail (h : Spelled (w :: ws)) : Spelled ws where
  ne_nil v mem := h.ne_nil v (List.mem_cons_of_mem w mem)
  plain v mem := h.plain v (List.mem_cons_of_mem w mem)
  later v mem := h.later v (List.mem_of_mem_tail mem)

theorem Spelled.cons (first : w ≠ []) (plain : ∀ c ∈ w, IsPlain c) (h : Spelled ws)
    (start : ∀ v ∈ ws.head?, ∃ c rest, v = c :: rest ∧ c.isLower = true) : Spelled (w :: ws) where
  ne_nil v mem := by
    rcases List.mem_cons.mp mem with rfl | mem
    · exact first
    · exact h.ne_nil v mem
  plain v mem := by
    rcases List.mem_cons.mp mem with rfl | mem
    · exact plain
    · exact h.plain v mem
  later v mem := by
    cases ws with
    | nil => cases mem
    | cons next others =>
      rcases List.mem_cons.mp mem with rfl | mem
      · exact start v rfl
      · exact h.later v mem

theorem Spelled.prepend (plain : ∀ c ∈ v, IsPlain c) (h : Spelled (w :: ws)) :
    Spelled ((v ++ w) :: ws) where
  ne_nil u mem := by
    rcases List.mem_cons.mp mem with rfl | mem
    · simp [h.ne_nil w List.mem_cons_self]
    · exact h.ne_nil u (List.mem_cons_of_mem w mem)
  plain u mem := by
    rcases List.mem_cons.mp mem with rfl | mem
    · exact fun c inside =>
        (List.mem_append.mp inside).elim (plain c) (h.plain w List.mem_cons_self c)
    · exact h.plain u (List.mem_cons_of_mem w mem)
  later := h.later

theorem spelled_nil : Spelled [] :=
  ⟨by simp, by simp, by simp⟩

theorem spelled_glued (first : ∀ w ∈ ws, w ≠ []) (plain : ∀ w ∈ ws, ∀ c ∈ w, IsPlain c) :
    Spelled (glued ws) := by
  induction ws with
  | nil => exact spelled_nil
  | cons w rest ih =>
    have h := ih (fun v mem => first v (List.mem_cons_of_mem w mem))
      fun v mem => plain v (List.mem_cons_of_mem w mem)
    have w_first := first w List.mem_cons_self
    have w_plain := plain w List.mem_cons_self
    rw [glued]
    split
    · next none => exact .cons w_first w_plain (none ▸ h) (by simp)
    · next next others words =>
      rw [words] at h
      have next_plain := h.plain next List.mem_cons_self
      split
      · exact h.prepend w_plain
      · next letter =>
        refine .cons w_first w_plain h fun v mem => ?_
        obtain rfl : next = v := Option.some.inj mem
        obtain ⟨c, cs, rfl⟩ := List.exists_cons_of_ne_nil (h.ne_nil next List.mem_cons_self)
        exact ⟨c, cs, rfl, (next_plain c List.mem_cons_self).resolve_right (by simpa using letter)⟩

theorem IsAscii.plain_smallWords (ascii : IsAscii s) (mem : w ∈ smallWords s) : ∀ c ∈ w, IsPlain c := by
  obtain ⟨word, word_mem, rfl⟩ := List.mem_map.mp mem
  rw [smallWord_eq (ascii.isAsciiWord word_mem)]
  intro c inside
  obtain ⟨d, d_mem, rfl⟩ := List.mem_map.mp inside
  obtain ⟨d_ascii, d_inside⟩ := ascii.isAsciiWord word_mem d d_mem
  exact (isPlain_toLower d_ascii d_inside).1

theorem spelled_spelling (ascii : IsAscii s) : Spelled (spelling s) :=
  spelled_glued (fun _ mem => ne_nil_of_mem_smallWords mem) fun _ mem => ascii.plain_smallWords mem

/-! ## Camel case and Pascal case -/

/-- Words with capitals in front. -/
def pascal (ws : List (List Char)) : List Char :=
  ws.flatMap capitalised

/-- Words with capitals in front of all but the first. -/
def camel : List (List Char) → List Char
  | [] => []
  | first :: rest => first ++ pascal rest

theorem capitalised_of_digit (digit : v.head?.any Char.isDigit = true) : capitalised v = v := by
  cases v with
  | nil => rfl
  | cons d ds => exact congrArg (· :: ds) (toUpper_of_isDigit (by simpa using digit))

theorem pascal_glued (first : ∀ w ∈ ws, w ≠ []) : pascal (glued ws) = pascal ws := by
  induction ws with
  | nil => rfl
  | cons w rest ih =>
    have later := ih fun v mem => first v (List.mem_cons_of_mem w mem)
    have whole : pascal (w :: rest) = capitalised w ++ pascal (glued rest) := by
      rw [later]
      rfl
    rw [whole, glued]
    split
    · next none => rw [none]; rfl
    · next next others words =>
      rw [words]
      split
      · next digit =>
        obtain ⟨c, cs, rfl⟩ := List.exists_cons_of_ne_nil (first w List.mem_cons_self)
        show capitalised (c :: cs ++ next) ++ pascal others =
          capitalised (c :: cs) ++ (capitalised next ++ pascal others)
        rw [capitalised_of_digit digit]
        simp [capitalised]
      · rfl

theorem camel_glued (first : ∀ w ∈ ws, w ≠ []) : camel (glued ws) = camel ws := by
  cases ws with
  | nil => rfl
  | cons w rest =>
    have later := pascal_glued fun v mem => first v (List.mem_cons_of_mem w mem)
    rw [camel, ← later, glued]
    split
    · next none => rw [none]; rfl
    · next next others words =>
      rw [words]
      split
      · next digit =>
        show w ++ next ++ pascal others = w ++ (capitalised next ++ pascal others)
        rw [capitalised_of_digit digit, List.append_assoc]
      · rfl

theorem flatMap_capitalWord (ascii : ∀ w ∈ ws, IsAsciiWord w) :
    ws.flatMap capitalWord = pascal (ws.map smallWord) := by
  rw [pascal, List.flatMap_map]
  exact List.flatMap_congr fun w mem => capitalWord_eq (ascii w mem)

theorem pascalCase_eq (ascii : IsAscii s) : pascalCase s = String.ofList (pascal (spelling s)) := by
  rw [pascalCase, flatMap_capitalWord fun w mem => ascii.isAsciiWord mem, spelling,
    pascal_glued fun w mem => ne_nil_of_mem_smallWords mem]
  rfl

theorem camelCase_eq (ascii : IsAscii s) : camelCase s = String.ofList (camel (spelling s)) := by
  rw [spelling, camel_glued fun w mem => ne_nil_of_mem_smallWords mem, camelCase, smallWords]
  split
  · next none => rw [none]; rfl
  · next first rest words =>
    have later (w : List Char) (mem : w ∈ rest) : IsAsciiWord w :=
      ascii.isAsciiWord (words ▸ List.mem_cons_of_mem first mem)
    rw [words, flatMap_capitalWord later]
    rfl

/-! ## Reading back -/

/-- The words of a text in which capitals mark them. -/
def cut : List Char → List (List Char)
  | [] => []
  | c :: rest =>
    if rest.head?.any isUppercase then [c.toLower] :: cut rest else extendHead c.toLower (cut rest)

theorem cut_append {rest : List Char} (word : v ≠ []) (whole : ∀ c ∈ v.tail, isUppercase c = false)
    (stop : ∀ c ∈ rest.head?, isUppercase c = true) :
    cut (v ++ rest) = v.map Char.toLower :: cut rest := by
  induction v with
  | nil => exact absurd rfl word
  | cons c cs ih =>
    cases cs with
    | nil =>
      rw [List.singleton_append, cut]
      cases rest with
      | nil => rfl
      | cons d ds => simp [stop d rfl]
    | cons d ds =>
      have small : isUppercase d = false := whole d List.mem_cons_self
      rw [List.cons_append, cut, ih (List.cons_ne_nil d ds) fun e mem =>
        whole e (List.mem_cons_of_mem d mem)]
      simp [small, extendHead]

theorem Spelled.head_pascal (h : Spelled (w :: ws)) : ∀ c ∈ (pascal ws).head?, isUppercase c = true := by
  cases ws with
  | nil => simp [pascal]
  | cons next others =>
    obtain ⟨c, rest, rfl, small⟩ := h.later next List.mem_cons_self
    simpa [pascal, capitalised] using isUppercase_toUpper small

theorem map_toLower (plain : ∀ c ∈ w, IsPlain c) : w.map Char.toLower = w :=
  (List.map_congr_left fun c mem => (plain c mem).toLower_toUpper.2).trans (List.map_id' w)

theorem Spelled.cut_pascal (h : Spelled ws) : cut (pascal ws) = ws := by
  induction ws with
  | nil => rfl
  | cons w rest ih =>
    obtain ⟨c, cs, rfl⟩ := List.exists_cons_of_ne_nil (h.ne_nil w List.mem_cons_self)
    have plain := h.plain _ List.mem_cons_self
    have later (d : Char) (mem : d ∈ cs) : IsPlain d := plain d (List.mem_cons_of_mem c mem)
    show cut (c.toUpper :: cs ++ pascal rest) = _
    rw [cut_append (List.cons_ne_nil _ _) (fun d mem => (later d mem).not_capital) h.head_pascal,
      ih h.tail, List.map_cons, (plain c List.mem_cons_self).toLower_toUpper.1, map_toLower later]

theorem Spelled.cut_camel (h : Spelled ws) : cut (camel ws) = ws := by
  cases ws with
  | nil => rfl
  | cons w rest =>
    have plain := h.plain _ List.mem_cons_self
    rw [camel, cut_append (h.ne_nil w List.mem_cons_self)
      (fun d mem => (plain d (List.mem_of_mem_tail mem)).not_capital) h.head_pascal, h.tail.cut_pascal,
      map_toLower plain]

theorem Spelled.pascal_inj (h : Spelled ws) (h' : Spelled ws') : pascal ws = pascal ws' ↔ ws = ws' := by
  refine ⟨fun same => ?_, congrArg pascal⟩
  rw [← h.cut_pascal, same, h'.cut_pascal]

theorem pascalCase_eq_iff (ascii : IsAscii s) (ascii' : IsAscii s') :
    pascalCase s = pascalCase s' ↔ spelling s = spelling s' := by
  rw [pascalCase_eq ascii, pascalCase_eq ascii', String.ofList_inj]
  exact (spelled_spelling ascii).pascal_inj (spelled_spelling ascii')

theorem camelCase_eq_iff (ascii : IsAscii s) (ascii' : IsAscii s') :
    camelCase s = camelCase s' ↔ spelling s = spelling s' := by
  rw [camelCase_eq ascii, camelCase_eq ascii', String.ofList_inj]
  refine ⟨fun same => ?_, congrArg camel⟩
  rw [← (spelled_spelling ascii).cut_camel, same, (spelled_spelling ascii').cut_camel]

/-! ## Snake case -/

/-- All characters but the signs that stand between words and in front of keywords. -/
def noSign (c : Char) : Bool :=
  c != '_' && c != '#' && c != '@'

theorem eq_of_noSign_eq_false {c : Char} (sign : noSign c = false) : c = '_' ∨ c = '#' ∨ c = '@' := by
  simp only [noSign, Bool.and_eq_false_iff, bne_eq_false_iff_eq] at sign
  exact or_assoc.mp sign

theorem caseClosed_noSign : CaseClosed noSign := by
  refine .of_ascii (by decide) fun c form => ?_
  by_contra sign
  rcases eq_of_noSign_eq_false (Bool.of_not_eq_true sign) with rfl | rfl | rfl <;>
    exact absurd form (by decide)

theorem noSign_of_isAlphanumeric (c : Char) (letter : isAlphanumeric c = true) : noSign c = true := by
  by_contra sign
  rcases eq_of_noSign_eq_false (Bool.of_not_eq_true sign) with rfl | rfl | rfl <;>
    exact absurd letter (by decide)

theorem noSign_of_mem_smallWords (mem : w ∈ smallWords s) : ∀ c ∈ w, noSign c = true := by
  obtain ⟨word, word_mem, rfl⟩ := List.mem_map.mp mem
  exact caseClosed_noSign.smallWord fun d d_mem =>
    noSign_of_isAlphanumeric d (isAlphanumeric_of_mem_nameWords word_mem d_mem)

theorem hash_notMem_snakeCase (s : String) : '#' ∉ (snakeCase s).toList := by
  intro sign
  rcases caseClosed_noSign.separated noSign_of_isAlphanumeric '_' s '#' sign with same | free
  · cases same
  · cases free

theorem at_notMem_pascalCase (s : String) : '@' ∉ (pascalCase s).toList := by
  intro sign
  cases caseClosed_noSign.pascalCase noSign_of_isAlphanumeric s '@' sign

theorem at_notMem_camelCase (s : String) : '@' ∉ (camelCase s).toList := by
  intro sign
  cases caseClosed_noSign.camelCase noSign_of_isAlphanumeric s '@' sign

theorem underscore_of_noSign (plain : noSign c = true) : (c == '_') = false := by
  rw [beq_eq_false_iff_ne]
  rintro rfl
  cases plain

theorem splitWhere_intercalate {p : Char → Bool} {separator : Char} (hp : p separator = true)
    {texts : List (List Char)} (some : texts ≠ []) :
    splitWhere p ([separator].intercalate texts) = texts.flatMap (splitWhere p) := by
  induction texts with
  | nil => exact absurd rfl some
  | cons text rest ih =>
    by_cases last : rest = []
    · simp [last]
    · rw [List.intercalate_cons_of_ne_nil last, List.append_assoc, List.singleton_append,
        splitWhere_append hp, ih last, List.flatMap_cons]

theorem splitWhere_snakeCase (some : smallWords s ≠ []) :
    splitWhere (· == '_') (snakeCase s).toList = smallWords s := by
  rw [snakeCase, separated, String.toList_ofList, ← smallWords, splitWhere_intercalate rfl some]
  exact (List.flatMap_congr fun w mem =>
    splitWhere_eq_singleton fun c inside => underscore_of_noSign (noSign_of_mem_smallWords mem c inside)).trans
      (List.flatMap_singleton' _)

theorem snakeCase_eq_iff : snakeCase s = snakeCase s' ↔ smallWords s = smallWords s' := by
  have empty {s s' : String} (same : snakeCase s = snakeCase s') (none : smallWords s = []) :
      smallWords s' = [] := by
    by_contra some
    have words := splitWhere_snakeCase some
    rw [← same, snakeCase, separated, ← smallWords, none] at words
    have inside : [] ∈ smallWords s' := words ▸ List.mem_singleton_self []
    exact ne_nil_of_mem_smallWords inside rfl
  constructor
  · intro same
    by_cases none : smallWords s = []
    · rw [none, empty same none]
    · have some' : smallWords s' ≠ [] := fun none' => none (empty same.symm none')
      rw [← splitWhere_snakeCase none, same, splitWhere_snakeCase some']
  · intro same
    rw [snakeCase, snakeCase, separated, separated, ← smallWords, ← smallWords, same]

/-! ## Names of several parts -/

/-- A name of several parts has the words of its parts. -/
theorem smallWords_join (parts : List String) :
    smallWords (join "_" parts) = parts.flatMap smallWords := by
  by_cases none : parts = []
  · rw [none]; rfl
  · have separator : (!isAlphanumeric '_') = true := by decide
    have some : parts.map String.toList ≠ [] := by simpa using none
    have underscore : "_".toList = ['_'] := rfl
    rw [smallWords, nameWords, join, String.toList_intercalate, underscore,
      splitWhere_intercalate separator some]
    simp only [List.flatMap_map, List.flatMap_assoc, List.map_flatMap]
    exact List.flatMap_congr fun part _ => List.map_flatMap.symm

end Text
end Scaffold
