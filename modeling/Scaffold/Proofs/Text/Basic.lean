/-
Small facts of texts. A text is cut at separators: what is before and after a separator is cut for itself,
and a piece has no separator. Blank characters are not letters or digits. Numbers are read back from their
decimal digits, of which the first is no zero.
-/
import Scaffold.Text.Blank
import Scaffold.Text.Natural
import Scaffold.Text.Split

namespace Scaffold
namespace Text

/-! ## Pieces -/

variable {p : Char → Bool}

theorem splitWhere_cons {c : Char} {cs : List Char} (inside : p c = false) :
    splitWhere p (c :: cs) = extendHead c (splitWhere p cs) := by
  rw [splitWhere, inside, if_neg Bool.false_ne_true]

theorem splitWhere_append {sep : Char} (hp : p sep = true) (front back : List Char) :
    splitWhere p (front ++ sep :: back) = splitWhere p front ++ splitWhere p back := by
  induction front with
  | nil => simp [splitWhere, hp]
  | cons c rest ih =>
    simp only [List.cons_append, splitWhere, ih]
    split
    · rfl
    · cases pieces : splitWhere p rest with
      | nil => exact absurd pieces (splitWhere_ne_nil p rest)
      | cons piece more => rfl

theorem splitWhere_eq_singleton {cs : List Char} (h : ∀ c ∈ cs, p c = false) :
    splitWhere p cs = [cs] := by
  induction cs with
  | nil => rfl
  | cons c rest ih =>
    rw [splitWhere_cons (h c List.mem_cons_self), ih fun d hd => h d (List.mem_cons_of_mem c hd)]
    rfl

theorem splitWhere_head {c : Char} (inside : p c = false) (cs : List Char) :
    ∃ w ws, splitWhere p (c :: cs) = (c :: w) :: ws := by
  rw [splitWhere_cons inside]
  cases splitWhere p cs with
  | nil => exact ⟨[], [], rfl⟩
  | cons piece rest => exact ⟨piece, rest, rfl⟩

/-- What is put behind a text is put behind its last piece, if nothing of it is a separator. -/
theorem splitWhere_append_inside {bs : List Char} (inside : ∀ b ∈ bs, p b = false)
    (as : List Char) : ∃ front last, splitWhere p as = front ++ [last] ∧
      splitWhere p (as ++ bs) = front ++ [last ++ bs] := by
  induction as with
  | nil => exact ⟨[], [], rfl, splitWhere_eq_singleton inside⟩
  | cons a as ih =>
    obtain ⟨front, last, own, pieces⟩ := ih
    rw [List.cons_append, splitWhere, splitWhere, own, pieces]
    split
    · exact ⟨[] :: front, last, rfl, rfl⟩
    · cases front with
      | nil => exact ⟨[], a :: last, rfl, rfl⟩
      | cons first others => exact ⟨(a :: first) :: others, last, rfl, rfl⟩

theorem of_mem_splitWhere {cs piece : List Char} {c : Char} (mem : piece ∈ splitWhere p cs)
    (inside : c ∈ piece) : c ∈ cs ∧ p c = false := by
  induction cs generalizing piece with
  | nil =>
    rw [List.mem_singleton.mp mem] at inside
    cases inside
  | cons d rest ih =>
    have later {piece : List Char} (mem : piece ∈ splitWhere p rest) (inside : c ∈ piece) :
        c ∈ d :: rest ∧ p c = false :=
      (ih mem inside).imp_left (List.mem_cons_of_mem d)
    rw [splitWhere] at mem
    split at mem
    · rcases List.mem_cons.mp mem with rfl | mem
      · cases inside
      · exact later mem inside
    · next whole =>
      cases pieces : splitWhere p rest with
      | nil => exact absurd pieces (splitWhere_ne_nil p rest)
      | cons first others =>
        rw [pieces, extendHead] at mem
        rcases List.mem_cons.mp mem with rfl | mem
        · rcases List.mem_cons.mp inside with rfl | inside
          · exact ⟨List.mem_cons_self, Bool.of_not_eq_true whole⟩
          · exact later (pieces ▸ List.mem_cons_self) inside
        · exact later (pieces ▸ List.mem_cons_of_mem first mem) inside

/-- What is behind a separator is the last piece if it has no separator. -/
theorem afterLast_append_cons {sep : Char} (hp : p sep = true) {back : List Char}
    (inside : ∀ c ∈ back, p c = false) (front : List Char) :
    afterLast p (front ++ sep :: back) = back := by
  have behind : (back.reverse ++ sep :: front.reverse).takeWhile (!p ·) = back.reverse := by
    rw [List.takeWhile_append_of_pos (by simpa using inside), List.takeWhile_cons, hp]
    simp
  rw [afterLast, List.reverse_append, List.reverse_cons, List.append_assoc, List.singleton_append,
    behind, List.reverse_reverse]

/-! ## Blanks -/

theorem Run.mem_range'_of_covers {run : Run} {code : Nat} (h : run.covers code = true) :
    code ∈ List.range' run.first (run.last + 1 - run.first) := by
  simp only [covers, Bool.and_eq_true, decide_eq_true_eq] at h
  rw [List.mem_range'_1]
  omega

/-- One run ends before the other one starts. -/
def Run.apart (run run' : Run) : Bool :=
  run.last.blt run'.first || run'.last.blt run.first

theorem Run.covers_eq_false_of_apart {run run' : Run} (apart : run.apart run' = true) {code : Nat}
    (h : run.covers code = true) : run'.covers code = false := by
  refine Bool.eq_false_iff.mpr fun covers => ?_
  simp only [Run.covers, Bool.and_eq_true, decide_eq_true_eq] at h covers
  simp only [Run.apart, Bool.or_eq_true, Nat.blt_eq] at apart
  omega

/-- Blank characters beyond ASCII are not in a class whose runs are apart from theirs. -/
theorem inRuns_eq_false_of_isBlank {runs : List Run}
    (apart : (blankRuns.all fun blank => runs.all blank.apart) = true) {c : Char} (wide : ¬c.toNat < 128)
    (blank : isBlank c = true) : inRuns runs c = false := by
  rw [isBlank, if_neg wide] at blank
  obtain ⟨run, mem, covers⟩ := List.any_eq_true.mp blank
  have others := List.all_eq_true.mp apart run mem
  refine List.any_eq_false.mpr fun run' mem' => ?_
  rw [Run.covers_eq_false_of_apart (List.all_eq_true.mp others run' mem') covers]
  exact Bool.false_ne_true

theorem isAlphanumeric_eq_false_of_isBlank {c : Char} (h : isBlank c = true) :
    isAlphanumeric c = false := by
  unfold isAlphanumeric
  split
  · next ascii =>
    rw [isBlank, if_pos ascii] at h
    simp only [Bool.or_eq_true, beq_iff_eq, Bool.and_eq_true, decide_eq_true_eq] at h
    rcases h with rfl | ⟨low, high⟩
    · decide
    · have none : ∀ code ∈ List.range' 9 5, (Char.ofNat code).isAlphanum = false := by decide
      have mem : c.toNat ∈ List.range' 9 5 := by
        rw [List.mem_range'_1]
        omega
      simpa using none c.toNat mem
  · next wide => exact inRuns_eq_false_of_isBlank (by decide +kernel) wide h

/-! ## Numbers -/

theorem naturalOf_repr (n : Nat) : naturalOf n.repr.toList = n := by
  have digits : naturalOf n.repr.toList = Nat.ofDigitChars 10 n.repr.toList 0 := by
    rw [Nat.ofDigitChars_eq_foldl]
    rfl
  rw [digits, Nat.toList_repr]
  exact Nat.ofDigitChars_ten_toDigits

theorem toString_injective {m n : Nat} (h : toString m = toString n) : m = n := by
  have same : m.repr = n.repr := h
  rw [← naturalOf_repr m, ← naturalOf_repr n, same]

theorem digits?_toString (n : Nat) : digits? (toString n).toList = some n := by
  show digits? n.repr.toList = some n
  have digit : n.repr.toList.all Char.isDigit = true := by
    rw [List.all_eq_true, Nat.toList_repr]
    exact fun c hc => Nat.isDigit_of_mem_toDigits (by omega) (by omega) hc
  have full : n.repr.toList.isEmpty = false := by
    rw [Nat.toList_repr, List.isEmpty_eq_false_iff]
    exact Nat.toDigits_ne_nil
  simp only [digits?, full, digit, naturalOf_repr]
  rfl

theorem toDigits_ne_zero_cons {n : Nat} (pos : 0 < n) (rest : List Char) :
    Nat.toDigits 10 n ≠ '0' :: rest := by
  induction n using Nat.strongRecOn generalizing rest with
  | _ n ih =>
    by_cases small : n < 10
    · rw [Nat.toDigits_of_lt_base small]
      intro h
      have digit : n.digitChar = '0' := (List.cons.inj h).1
      have : ∀ k < 10, 0 < k → Nat.digitChar k ≠ '0' := by decide
      exact this n small pos digit
    · rw [Nat.toDigits_of_base_le (by omega) (by omega)]
      intro h
      cases front : Nat.toDigits 10 (n / 10) with
      | nil => exact Nat.toDigits_ne_nil front
      | cons c cs =>
        rw [front] at h
        have same : c = '0' := (List.cons.inj h).1
        exact ih (n / 10) (by omega) (by omega) cs (same ▸ front)

end Text
end Scaffold
