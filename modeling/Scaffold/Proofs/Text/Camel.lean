/-
Names in camel case taken apart again. A name has its words back if their ends can be seen there: a small
letter before a capital ends a word, and so does a capital before a capital that a small letter follows
(`smallWords_camel`). What a name is spelled like does not change then (`spelling_camelCase`).
-/
import Scaffold.Proofs.Text.Words

namespace Scaffold
namespace Text

variable {s : String} {c : Char} {w v : List Char} {ws : List (List Char)}

/-! ## Runs of one case -/

theorem isLowercase_of_isLower (small : c.isLower = true) : isLowercase c = true :=
  ((IsPlain.forms (.inl small)).small small).1

theorem WordCase.after_small (plain : IsPlain c) : WordCase.after .small c = .small := by
  simp [WordCase.after, plain.not_capital]

theorem WordCase.after_toUpper (small : c.isLower = true) (state : WordCase) :
    state.after c.toUpper = .capital := by
  have no_small : isLowercase c.toUpper = false := ((IsPlain.forms (.inl small)).small small).2.2.1
  simp [after, no_small, isUppercase_toUpper small]

theorem wordsFrom_plain (plain : ∀ c ∈ v, IsPlain c) (some : v ≠ []) (state : WordCase)
    (word : List Char) : wordsFrom state word v = [word.reverse ++ v] := by
  induction v generalizing state word with
  | nil => exact absurd rfl some
  | cons c rest ih =>
    cases rest with
    | nil => simp [wordsFrom]
    | cons d rest =>
      have no_capital (e : Char) (mem : e ∈ c :: d :: rest) : isUppercase e = false :=
        (plain e mem).not_capital
      rw [wordsFrom, if_neg (by simp [no_capital d]), if_neg (by simp [no_capital c]),
        ih (fun e mem => plain e (List.mem_cons_of_mem c mem)) (List.cons_ne_nil d rest)]
      simp

/-- A word with a small letter ends where a capital follows. -/
theorem wordsFrom_plain_append {u : Char} (capital : isUppercase u = true) (rest : List Char)
    (plain : ∀ c ∈ v, IsPlain c) (some : v ≠ []) {state : WordCase}
    (small : state = .small ∨ ∃ c ∈ v, c.isLower = true) (word : List Char) :
    wordsFrom state word (v ++ u :: rest) =
      (word.reverse ++ v) :: wordsFrom .unknown [] (u :: rest) := by
  induction v generalizing state word with
  | nil => exact absurd rfl some
  | cons c cs ih =>
    have c_plain := plain c List.mem_cons_self
    cases cs with
    | nil =>
      have after : state.after c = .small := by
        rcases small with rfl | ⟨d, mem, letter⟩
        · exact WordCase.after_small c_plain
        · obtain rfl := List.mem_singleton.mp mem
          simp [WordCase.after, isLowercase_of_isLower letter]
      rw [List.singleton_append, wordsFrom, if_pos ⟨after, capital⟩]
      simp
    | cons d ds =>
      have d_plain := plain d (List.mem_cons_of_mem c List.mem_cons_self)
      have after : state.after c = .small ∨ ∃ e ∈ d :: ds, e.isLower = true := by
        rcases small with rfl | ⟨e, mem, letter⟩
        · exact .inl (WordCase.after_small c_plain)
        · rcases List.mem_cons.mp mem with rfl | mem
          · exact .inl (by simp [WordCase.after, isLowercase_of_isLower letter])
          · exact .inr ⟨e, mem, letter⟩
      rw [List.cons_append, List.cons_append, wordsFrom, if_neg (by simp [d_plain.not_capital]),
        if_neg (by simp [c_plain.not_capital]), ← List.cons_append,
        ih (fun e mem => plain e (List.mem_cons_of_mem c mem)) (List.cons_ne_nil d ds) after]
      simp

/-- Digits at the end of a word that has been in capitals so far leave it open. -/
theorem wordsFrom_digits (digits : ∀ c ∈ v, c.isDigit = true) (word : List Char) (u : Char)
    (rest : List Char) :
    wordsFrom .capital word (v ++ u :: rest) = wordsFrom .capital (v.reverse ++ word) (u :: rest) := by
  induction v generalizing word with
  | nil => rfl
  | cons c cs ih =>
    have digit : c.isDigit = true := digits c List.mem_cons_self
    have forms := IsPlain.forms (.inr digit)
    have caseless : isUppercase c = false ∧ isLowercase c = false :=
      ⟨forms.not_capital, (forms.digit digit).1⟩
    obtain ⟨next, others, chars⟩ : ∃ next others, cs ++ u :: rest = next :: others :=
      List.exists_cons_of_ne_nil (by simp)
    have after : WordCase.after .capital c = .capital := by simp [WordCase.after, caseless]
    rw [List.cons_append, chars, wordsFrom, after, if_neg (by simp), if_neg (by simp [caseless]), ← chars,
      ih fun d mem => digits d (List.mem_cons_of_mem c mem)]
    simp

/-- A word that starts with a capital is open after it. -/
theorem wordsFrom_capital (small : c.isLower = true) {cs : List Char} (more : cs ≠ []) :
    wordsFrom .unknown [] (c.toUpper :: cs) = wordsFrom .capital [c.toUpper] cs := by
  obtain ⟨d, ds, rfl⟩ := List.exists_cons_of_ne_nil more
  rw [wordsFrom, WordCase.after_toUpper small, if_neg (by simp), if_neg (by simp)]

/-- From a small letter on it does not matter which case was seen before. -/
theorem wordsFrom_of_isLower (small : c.isLower = true) (state state' : WordCase)
    (word cs : List Char) : wordsFrom state word (c :: cs) = wordsFrom state' word (c :: cs) := by
  have no_capital : isUppercase c = false := IsPlain.not_capital (.inl small)
  have after (state : WordCase) : state.after c = .small := by
    simp [WordCase.after, isLowercase_of_isLower small]
  cases cs with
  | nil => rw [wordsFrom, wordsFrom]
  | cons d ds => simp only [wordsFrom, after, no_capital, Bool.false_eq_true, false_and, and_false, if_false]

/-! ## Words with capitals in front -/

/-- Whether the end of a word can be told when a capital follows: it has another letter than the one it
starts with, or the next word starts with two letters. -/
def EndsBefore (w next : List Char) : Prop :=
  (∃ c ∈ w.tail, c.isLower = true) ∨ ∃ c ∈ next.tail.head?, c.isLower = true

instance (w next : List Char) : Decidable (EndsBefore w next) :=
  decidable_of_iff (w.tail.any Char.isLower = true ∨ next.tail.head?.any Char.isLower = true)
    (or_congr List.any_eq_true (by cases next.tail.head? <;> simp))

theorem wordsFrom_capitalised_append {d : Char} {cs ds : List Char} (plain : ∀ e ∈ cs, IsPlain e)
    (small : c.isLower = true) (d_small : d.isLower = true) (ends : EndsBefore (c :: cs) (d :: ds))
    (rest : List Char) :
    wordsFrom .unknown [] (c.toUpper :: (cs ++ d.toUpper :: (ds ++ rest))) =
      (c.toUpper :: cs) :: wordsFrom .unknown [] (d.toUpper :: (ds ++ rest)) := by
  have capital := isUppercase_toUpper d_small
  rw [wordsFrom_capital small (by simp)]
  by_cases letters : ∃ e ∈ cs, e.isLower = true
  · obtain ⟨e, mem, letter⟩ := letters
    exact wordsFrom_plain_append capital (ds ++ rest) plain (List.ne_nil_of_mem mem)
      (.inr ⟨e, mem, letter⟩) _
  · have digits (e : Char) (mem : e ∈ cs) : e.isDigit = true :=
      (plain e mem).resolve_left fun letter => letters ⟨e, mem, letter⟩
    obtain ⟨f, f_mem, f_small⟩ := ends.resolve_left letters
    obtain ⟨fs, rfl⟩ := List.head?_eq_some_iff.mp f_mem
    -- The word ends before the last of the capitals, which starts the next one.
    rw [wordsFrom_digits digits, wordsFrom_capital d_small (by simp), List.cons_append, wordsFrom,
      WordCase.after_toUpper d_small, if_neg (by simp),
      if_pos ⟨rfl, capital, isLowercase_of_isLower f_small⟩,
      wordsFrom_of_isLower f_small .unknown .capital]
    simp

/-- Words whose ends can be told in camel case. -/
structure Parted (ws : List (List Char)) : Prop where
  first : ∀ w ∈ ws.head?, ∃ c ∈ w, c.isLower = true
  later : ws.tail.IsChain EndsBefore

instance (ws : List (List Char)) : Decidable (Parted ws) :=
  have first : ws.head?.all (·.any Char.isLower) = true ↔ ∀ w ∈ ws.head?, ∃ c ∈ w, c.isLower = true := by
    cases ws <;> simp
  decidable_of_iff (ws.head?.all (·.any Char.isLower) = true ∧ ws.tail.IsChain EndsBefore)
    ⟨fun h => ⟨first.mp h.1, h.2⟩, fun h => ⟨first.mpr h.first, h.later⟩⟩

theorem wordsFrom_pascal (plain : ∀ w ∈ ws, ∀ c ∈ w, IsPlain c)
    (letters : ∀ w ∈ ws, ∃ c rest, w = c :: rest ∧ c.isLower = true) (ends : ws.IsChain EndsBefore) :
    wordsFrom .unknown [] (pascal ws) = ws.map capitalised := by
  induction ws with
  | nil => rfl
  | cons w rest ih =>
    obtain ⟨c, cs, rfl, small⟩ := letters w List.mem_cons_self
    have cs_plain (d : Char) (mem : d ∈ cs) : IsPlain d :=
      plain _ List.mem_cons_self d (List.mem_cons_of_mem c mem)
    cases rest with
    | nil =>
      show wordsFrom .unknown [] (c.toUpper :: (cs ++ [])) = [c.toUpper :: cs]
      rw [List.append_nil]
      by_cases only : cs = []
      · rw [only]; rfl
      · rw [wordsFrom_capital small only, wordsFrom_plain cs_plain only]
        rfl
    | cons next others =>
      have later := ih (fun v mem => plain v (List.mem_cons_of_mem _ mem))
        (fun v mem => letters v (List.mem_cons_of_mem _ mem))
        (List.isChain_cons_cons.mp ends).2
      obtain ⟨d, ds, rfl, d_small⟩ := letters next (List.mem_cons_of_mem _ List.mem_cons_self)
      exact (wordsFrom_capitalised_append cs_plain small d_small
        (List.isChain_cons_cons.mp ends).1 (pascal others)).trans
          (congrArg ((c.toUpper :: cs) :: ·) later)

theorem wordsFrom_camel (h : Spelled ws) (parted : Parted ws) :
    wordsFrom .unknown [] (camel ws) =
      match ws with
      | [] => []
      | first :: rest => first :: rest.map capitalised := by
  cases ws with
  | nil => rfl
  | cons w rest =>
    have later := wordsFrom_pascal h.tail.plain h.later parted.later
    have plain := h.plain w List.mem_cons_self
    have some := h.ne_nil w List.mem_cons_self
    cases rest with
    | nil =>
      show wordsFrom .unknown [] (w ++ []) = [w]
      rw [List.append_nil, wordsFrom_plain plain some]
      rfl
    | cons next others =>
      obtain ⟨e, es, rfl, small⟩ := h.later next List.mem_cons_self
      exact (wordsFrom_plain_append (isUppercase_toUpper small) (es ++ pascal others) plain some
        (.inr (parted.first w rfl)) []).trans (congrArg (w :: ·) later)

theorem Spelled.glued (h : Spelled ws) : glued ws = ws := by
  induction ws with
  | nil => rfl
  | cons w rest ih =>
    rw [Text.glued, ih h.tail]
    cases rest with
    | nil => rfl
    | cons next others =>
      obtain ⟨c, cs, rfl, small⟩ := h.later next List.mem_cons_self
      have letter : c.isDigit = false := ((IsPlain.forms (.inl small)).small small).2.2.2
      simp [letter]

/-! ## Names in camel case -/

theorem IsPlain.isAlphanumeric (plain : IsPlain c) : isAlphanumeric c = true :=
  plain.forms.letter

theorem IsPlain.toUpper (plain : IsPlain c) :
    c.toUpper.toNat < 128 ∧ Text.isAlphanumeric c.toUpper = true :=
  ⟨plain.forms.upper_ascii, plain.forms.upper_letter⟩

theorem isAsciiWord_camel (plain : ∀ w ∈ ws, ∀ c ∈ w, IsPlain c) : IsAsciiWord (camel ws) := by
  have one {c : Char} (c_plain : IsPlain c) : c.toNat < 128 ∧ Text.isAlphanumeric c = true :=
    ⟨c_plain.ascii, c_plain.isAlphanumeric⟩
  intro c mem
  cases ws with
  | nil => cases mem
  | cons first rest =>
    rcases List.mem_append.mp mem with inside | later
    · exact one (plain first List.mem_cons_self c inside)
    · obtain ⟨w, w_mem, inside⟩ := List.mem_flatMap.mp later
      have w_plain := plain w (List.mem_cons_of_mem first w_mem)
      cases w with
      | nil => cases inside
      | cons d ds =>
        rcases List.mem_cons.mp inside with rfl | inside
        · exact (w_plain d List.mem_cons_self).toUpper
        · exact one (w_plain c (List.mem_cons_of_mem d inside))

theorem isAscii_camelCase (ascii : IsAscii s) : IsAscii (camelCase s) := by
  intro c mem
  rw [camelCase_eq ascii, String.toList_ofList] at mem
  exact (isAsciiWord_camel (spelled_spelling ascii).plain c mem).1

theorem isAsciiWord_of_plain (plain : ∀ c ∈ w, IsPlain c) : IsAsciiWord w :=
  fun c mem => ⟨(plain c mem).ascii, (plain c mem).isAlphanumeric⟩

theorem smallWord_of_plain (plain : ∀ c ∈ w, IsPlain c) : smallWord w = w := by
  rw [smallWord_eq (isAsciiWord_of_plain plain), map_toLower plain]

theorem smallWord_capitalised (plain : ∀ c ∈ w, IsPlain c) : smallWord (capitalised w) = w := by
  cases w with
  | nil => rfl
  | cons c rest =>
    have later (d : Char) (mem : d ∈ rest) : IsPlain d := plain d (List.mem_cons_of_mem c mem)
    have first := plain c List.mem_cons_self
    have ascii : IsAsciiWord (c.toUpper :: rest) :=
      List.forall_mem_cons.mpr ⟨first.toUpper, isAsciiWord_of_plain later⟩
    rw [capitalised, smallWord_eq ascii, List.map_cons, first.toLower_toUpper.1, map_toLower later]

/-- A name in camel case has the words it was made of. -/
theorem smallWords_camel (h : Spelled ws) (parted : Parted ws) :
    smallWords (String.ofList (camel ws)) = ws := by
  have whole : splitWhere (!isAlphanumeric ·) (camel ws) = [camel ws] :=
    splitWhere_eq_singleton fun c mem => by simp [(isAsciiWord_camel h.plain c mem).2]
  rw [smallWords, nameWords, String.toList_ofList, whole, List.flatMap_singleton,
    wordsFrom_camel h parted]
  cases ws with
  | nil => rfl
  | cons first rest =>
    rw [List.map_cons, List.map_map, smallWord_of_plain (h.plain first List.mem_cons_self)]
    congr 1
    exact (List.map_congr_left fun w mem => smallWord_capitalised (h.tail.plain w mem)).trans
      (List.map_id' rest)

theorem spelling_camelCase (ascii : IsAscii s) (parted : Parted (spelling s)) :
    spelling (camelCase s) = spelling s := by
  have spelled := spelled_spelling ascii
  rw [camelCase_eq ascii, spelling, smallWords_camel spelled parted, spelled.glued]

end Text
end Scaffold
