/-
Searching for a mark in a text. A character that the mark does not have parts the text: the mark starts
the text if it starts what is in front of the character, and occurs in the text if it occurs on one side
of it.

A text in small letters has the small form of every character, but for a sigma that ends a word:
`map_lowercase`. A mark without a sigma does not see the difference.
-/
import Scaffold.Text.Letter
import Scaffold.Text.Split

namespace Scaffold
namespace Text

variable {mark front back cs : List Char} {c : Char}

theorem startsWith_ofList (front : String) (cs : List Char) :
    startsWith front (String.ofList cs) = front.toList.isPrefixOf cs := by
  rw [startsWith, String.toList_ofList]

theorem contains_ofList (mark : String) (cs : List Char) :
    contains mark (String.ofList cs) = occursIn mark.toList cs := by
  rw [contains, String.toList_ofList]

theorem isPrefixOf_append_cons (free : c ∉ mark) (front back : List Char) :
    mark.isPrefixOf (front ++ c :: back) = mark.isPrefixOf front := by
  induction mark generalizing front with
  | nil => simp
  | cons m rest ih =>
    obtain ⟨other, free⟩ := not_or.mp (mt List.mem_cons.mpr free)
    cases front with
    | nil => simp [List.isPrefixOf_cons_cons, Ne.symm other]
    | cons d front => simp [List.isPrefixOf_cons_cons, ih free]

theorem occursIn_cons (mark : List Char) (c : Char) (cs : List Char) :
    occursIn mark (c :: cs) = (mark.isPrefixOf (c :: cs) || occursIn mark cs) := by
  rw [occursIn, cutAt?]
  by_cases here : mark.isPrefixOf (c :: cs) = true
  · rw [if_pos here, here]
    rfl
  · rw [if_neg here, Option.isSome_map, Bool.of_not_eq_true here]
    rfl

theorem occursIn_nil (some : mark ≠ []) : occursIn mark [] = false := by
  rw [occursIn, cutAt?, if_neg some]
  rfl

theorem occursIn_append_cons (some : mark ≠ []) (free : c ∉ mark) (front back : List Char) :
    occursIn mark (front ++ c :: back) = (occursIn mark front || occursIn mark back) := by
  induction front with
  | nil =>
    have no_start := isPrefixOf_append_cons free [] back
    rw [List.nil_append] at no_start ⊢
    rw [occursIn_cons, no_start, occursIn_nil some]
    simp [some]
  | cons d rest ih =>
    have start := isPrefixOf_append_cons free (d :: rest) back
    rw [List.cons_append] at start ⊢
    rw [occursIn_cons, start, ih, occursIn_cons, Bool.or_assoc]

/-- A mark is not where one of its characters is missing. -/
theorem occursIn_eq_false (mem : c ∈ mark) (free : c ∉ cs) : occursIn mark cs = false := by
  induction cs with
  | nil => exact occursIn_nil (List.ne_nil_of_mem mem)
  | cons d rest ih =>
    have no_start : mark.isPrefixOf (d :: rest) = false := by
      rw [Bool.eq_false_iff]
      exact fun start => free ((List.isPrefixOf_iff_prefix.mp start).subset mem)
    rw [occursIn_cons, no_start, ih (not_or.mp (mt List.mem_cons.mpr free)).2]
    rfl

/-- A mark that starts with a character is where the character is. -/
theorem occursIn_at (front_free : c ∉ front) (back_free : c ∉ back) (mark : List Char) :
    occursIn (c :: mark) (front ++ c :: back) = mark.isPrefixOf back := by
  induction front with
  | nil =>
    rw [List.nil_append, occursIn_cons, occursIn_eq_false List.mem_cons_self back_free]
    simp
  | cons d rest ih =>
    obtain ⟨other, free⟩ := not_or.mp (mt List.mem_cons.mpr front_free)
    rw [List.cons_append, occursIn_cons, ih free]
    simp [other]

/-- A mark that a closing character ends is all there is before the first such character. -/
theorem isPrefixOf_closed (mark_free : c ∉ mark) (front_free : c ∉ front) (back : List Char) :
    (mark ++ [c]).isPrefixOf (front ++ c :: back) = decide (front = mark) := by
  induction mark generalizing front with
  | nil =>
    cases front with
    | nil => simp
    | cons d front =>
      have other := (not_or.mp (mt List.mem_cons.mpr front_free)).1
      simp [List.isPrefixOf_cons_cons, other]
  | cons m rest ih =>
    obtain ⟨other, mark_free⟩ := not_or.mp (mt List.mem_cons.mpr mark_free)
    cases front with
    | nil => simp [List.isPrefixOf_cons_cons, Ne.symm other]
    | cons d front =>
      have front_free := (not_or.mp (mt List.mem_cons.mpr front_free)).2
      have same : (m == d) = decide (d = m) := by
        rw [Bool.eq_iff_iff, beq_iff_eq, decide_eq_true_iff, eq_comm]
      simp [List.isPrefixOf_cons_cons, ih mark_free front_free, same]

/-! ## Cuts at a character -/

/-- A text is cut at the first of the characters. -/
theorem cutAt?_append_cons (free : c ∉ front) (back : List Char) :
    cutAt? [c] (front ++ c :: back) = some (front, back) := by
  induction front with
  | nil => simp [cutAt?]
  | cons d rest ih =>
    obtain ⟨other, free⟩ := not_or.mp (mt List.mem_cons.mpr free)
    have no_start : ¬[c].isPrefixOf (d :: (rest ++ c :: back)) = true := by simp [other]
    rw [List.cons_append, cutAt?, if_neg no_start, ih free]
    rfl

theorem cutAt?_eq_none_iff : cutAt? [c] cs = none ↔ c ∉ cs := by
  constructor
  · intro none mem
    obtain ⟨front, back, rfl, free⟩ := List.eq_append_cons_of_mem mem
    rw [cutAt?_append_cons free] at none
    cases none
  · intro free
    have nowhere : occursIn [c] cs = false := occursIn_eq_false List.mem_cons_self free
    rwa [occursIn, Option.isSome_eq_false_iff, Option.isNone_iff_eq_none] at nowhere

theorem of_cutAt? (h : cutAt? [c] cs = some (front, back)) : cs = front ++ c :: back ∧ c ∉ front := by
  by_cases mem : c ∈ cs
  · obtain ⟨front', back', rfl, free⟩ := List.eq_append_cons_of_mem mem
    rw [cutAt?_append_cons free] at h
    cases h
    exact ⟨rfl, free⟩
  · rw [cutAt?_eq_none_iff.mpr mem] at h
    cases h

/-! ## Characters taken for others -/

section

variable {f : Char → Char}

theorem isPrefixOf_map (own : ∀ m ∈ mark, ∀ d, f d = m ↔ d = m) (cs : List Char) :
    mark.isPrefixOf (cs.map f) = mark.isPrefixOf cs := by
  induction mark generalizing cs with
  | nil => simp
  | cons m rest ih =>
    cases cs with
    | nil => rfl
    | cons d cs =>
      have same : (m == f d) = (m == d) := by
        rw [Bool.eq_iff_iff, beq_iff_eq, beq_iff_eq, eq_comm, own m List.mem_cons_self, eq_comm]
      rw [List.map_cons, List.isPrefixOf_cons_cons, List.isPrefixOf_cons_cons, same,
        ih fun m' mem => own m' (List.mem_cons_of_mem m mem)]

theorem occursIn_map (own : ∀ m ∈ mark, ∀ d, f d = m ↔ d = m) (cs : List Char) :
    occursIn mark (cs.map f) = occursIn mark cs := by
  induction cs with
  | nil => rfl
  | cons d rest ih =>
    have start := isPrefixOf_map own (d :: rest)
    rw [List.map_cons] at start ⊢
    rw [occursIn_cons, occursIn_cons, start, ih]

theorem map_eq_iff (own : ∀ m ∈ mark, ∀ d, f d = m ↔ d = m) (cs : List Char) :
    cs.map f = mark ↔ cs = mark := by
  induction mark generalizing cs with
  | nil => exact List.map_eq_nil_iff
  | cons m rest ih =>
    cases cs with
    | nil => simp
    | cons d cs =>
      rw [List.map_cons, List.cons.injEq, List.cons.injEq, own m List.mem_cons_self,
        ih fun m' mem => own m' (List.mem_cons_of_mem m mem)]

end

/-! ## Small letters -/

def smallForms (s : String) : List Char :=
  s.toList.flatMap lowerForm

@[simp] theorem smallForms_append (s t : String) : smallForms (s ++ t) = smallForms s ++ smallForms t := by
  simp [smallForms]

def plainSigma (c : Char) : Char :=
  if c = finalSigma then 'σ' else c

/-- Texts that differ in the case of letters at most. -/
def SameLetters (s t : String) : Prop :=
  (smallForms s).map plainSigma = (smallForms t).map plainSigma

instance (s t : String) : Decidable (SameLetters s t) :=
  inferInstanceAs (Decidable (_ = _))

theorem map_lowerAfter (before cs : List Char) :
    (lowerAfter before cs).map plainSigma = (cs.flatMap lowerForm).map plainSigma := by
  induction cs generalizing before with
  | nil => rfl
  | cons c rest ih =>
    rw [lowerAfter, List.map_append, ih, List.flatMap_cons, List.map_append]
    congr 1
    split
    · next final =>
      simp only [Bool.and_eq_true, beq_iff_eq] at final
      rw [final.1.1]
      decide
    · rfl

theorem map_lowercase (s : String) :
    (lowercase s).toList.map plainSigma = (smallForms s).map plainSigma := by
  rw [lowercase, String.toList_ofList, map_lowerAfter, smallForms]

def NoSigma (mark : List Char) : Prop :=
  'σ' ∉ mark ∧ finalSigma ∉ mark

instance (mark : List Char) : Decidable (NoSigma mark) :=
  inferInstanceAs (Decidable (_ ∧ _))

theorem NoSigma.plainSigma_eq_iff (free : NoSigma mark) :
    ∀ m ∈ mark, ∀ d, plainSigma d = m ↔ d = m := by
  intro m mem d
  unfold plainSigma
  split
  · next final =>
    subst final
    constructor
    · rintro rfl
      exact absurd mem free.1
    · rintro rfl
      exact absurd mem free.2
  · rfl

end Text
end Scaffold
