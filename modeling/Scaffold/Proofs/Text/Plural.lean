/-
Singulars of regular plurals. A plural is regular when it is the noun with an `s` behind it. The rules for
singulars only see how a plural ends, so they lead some regular plurals back to other words, and some
to themselves: `singularize_pluralize_iff` says which.
-/
import Mathlib.Data.List.Basic
import Scaffold.Proofs.Text.Words
import Scaffold.Text.Plural

namespace Scaffold
namespace Text

variable {w : String}

/-! ## Small letters -/

/-- ASCII without capital letters. -/
def IsSmallAscii (s : String) : Prop :=
  ∀ c ∈ s.toList, c.toNat < 128 ∧ c.toLower = c

instance (s : String) : Decidable (IsSmallAscii s) :=
  List.decidableBAll (fun c : Char => c.toNat < 128 ∧ c.toLower = c) s.toList

theorem lowerAfter_of_small {cs : List Char} (small : ∀ c ∈ cs, c.toNat < 128 ∧ c.toLower = c)
    (before : List Char) : lowerAfter before cs = cs := by
  induction cs generalizing before with
  | nil => rfl
  | cons c rest ih =>
    obtain ⟨⟨ascii, lower⟩, small_rest⟩ := List.forall_mem_cons.mp small
    have no_sigma : (c == 'Σ') = false := by
      rw [beq_eq_false_iff_ne]
      rintro rfl
      exact absurd ascii (by decide)
    rw [lowerAfter, ih small_rest, no_sigma, lowerForm, if_pos ascii, lower]
    rfl

theorem IsSmallAscii.lowercase (small : IsSmallAscii w) : lowercase w = w := by
  rw [Text.lowercase, lowerAfter_of_small small, String.ofList_toList]

theorem IsSmallAscii.append_s (small : IsSmallAscii w) : IsSmallAscii (w ++ "s") := by
  intro c mem
  rw [String.toList_append, List.mem_append] at mem
  rcases mem with mem | mem
  · exact small c mem
  · rw [List.mem_singleton.mp mem]
    decide

/-! ## Endings -/

theorem endsWith_append (back s t : String) : endsWith (back ++ t) (s ++ t) = endsWith back s := by
  rw [Bool.eq_iff_iff, endsWith, endsWith, List.isSuffixOf_iff_suffix, List.isSuffixOf_iff_suffix,
    String.toList_append, String.toList_append, List.suffix_append_inj_of_length_eq rfl, and_iff_left rfl]

theorem endsInAny_append (endings : List String) (s t : String) :
    endsInAny (endings.map (· ++ t)) (s ++ t) = endsInAny endings s := by
  simp [endsInAny, Function.comp_def, endsWith_append]

theorem eq_append_of_endsInAny {back : String} (ends : endsInAny [back] w = true) :
    ∃ front, w = front ++ back := by
  have suffix : back.toList <:+ w.toList := by simpa [endsInAny, endsWith] using ends
  obtain ⟨front, same⟩ := suffix
  refine ⟨String.ofList front, ?_⟩
  rw [← String.toList_inj, String.toList_append, String.toList_ofList, same]

theorem length_dropLastChars (n : Nat) (s : String) : (dropLastChars n s).length = s.length - n := by
  simp [dropLastChars, String.length_toList]

theorem dropLastChars_append_s (n : Nat) (w : String) :
    dropLastChars (n + 1) (w ++ "s") = dropLastChars n w := by
  simp [dropLastChars, List.take_append]

/-! ## What the rules make of a word with an `s` behind it -/

theorem find?_irregularPlurals (w : String) :
    irregularPlurals.find? (·.1 == w ++ "s") =
      if w = "indice" then some ("indices", "index") else none := by
  split
  · next same =>
    subst same
    decide
  · next other =>
    rw [List.find?_eq_none]
    intro entry mem same
    have same := eq_of_beq same
    have ends : endsWith "s" entry.1 = true := by
      rw [same]
      exact endsWith_append "" w "s"
    have only : ∀ entry ∈ irregularPlurals, endsWith "s" entry.1 = true → entry.1 = "indice" ++ "s" := by
      decide
    rw [only entry mem ends, String.append_left_inj] at same
    exact other same.symm

theorem utf8ByteSize_append_s (some : w ≠ "") : 1 < (w ++ "s").utf8ByteSize := by
  have pos : w.utf8ByteSize ≠ 0 := fun empty => some (String.utf8ByteSize_eq_zero_iff.mp empty)
  have one : "s".utf8ByteSize = 1 := by decide
  rw [String.utf8ByteSize_append]
  omega

/-- Of the plurals in `-ies` only the ending itself is too short for its rule. -/
theorem utf8ByteSize_ies (ends : endsInAny ["ie"] w = true) : 3 < (w ++ "s").utf8ByteSize ↔ w ≠ "ie" := by
  obtain ⟨front, rfl⟩ := eq_append_of_endsInAny ends
  have sizes : "ie".utf8ByteSize = 2 ∧ "s".utf8ByteSize = 1 := by decide
  have alone : front ++ "ie" = "ie" ↔ front.utf8ByteSize = 0 := by
    rw [String.utf8ByteSize_eq_zero_iff]
    simp
  rw [String.utf8ByteSize_append, String.utf8ByteSize_append, Ne, alone]
  omega

/-- The rule that a word with an `s` behind it comes under. -/
theorem singularize_append_s (small : IsSmallAscii w) (some : w ≠ "") :
    singularize (w ++ "s") =
      if w = "indice" then "index"
      else if endsInAny ["ie"] w = true ∧ w ≠ "ie" then dropLastChars 2 w ++ "y"
      else if endsInAny ["sse", "xe", "che", "she"] w = true then dropLastChars 1 w
      else if endsInAny ["s", "u"] w = true then w ++ "s"
      else w := by
  have s : endsInAny ["s"] (w ++ "s") = true :=
    (endsInAny_append [""] w "s").trans (by simp [endsInAny, endsWith])
  have ies : endsInAny ["ies"] (w ++ "s") = endsInAny ["ie"] w := endsInAny_append ["ie"] w "s"
  have es : endsInAny ["sses", "xes", "ches", "shes"] (w ++ "s") =
      endsInAny ["sse", "xe", "che", "she"] w :=
    endsInAny_append ["sse", "xe", "che", "she"] w "s"
  have kept : endsInAny ["ss", "us"] (w ++ "s") = endsInAny ["s", "u"] w :=
    endsInAny_append ["s", "u"] w "s"
  unfold singularize
  dsimp only
  rw [small.append_s.lowercase, find?_irregularPlurals, ies, es, kept, s]
  by_cases irregular : w = "indice"
  · subst irregular
    decide
  rw [if_neg irregular, if_neg irregular]
  have whole : dropLastChars 0 w = w := by simp [dropLastChars]
  simp only [dropLastChars_append_s, Bool.and_eq_true, decide_eq_true_eq, gt_iff_lt,
    and_congr_right utf8ByteSize_ies, utf8ByteSize_append_s some, Bool.not_eq_true', true_and, and_true]
  cases endsInAny ["s", "u"] w <;> simp [whole]

/-! ## Regular plurals -/

theorem no_s_behind_e (front : String) : endsInAny ["s"] (front ++ "e") = false := by
  simp only [endsInAny, List.any_cons, List.any_nil, Bool.or_false, endsWith, List.isSuffixOf,
    String.toList_append, List.reverse_append]
  rfl

/-- No noun that ends with an `s` has a regular plural. -/
theorem endsInAny_s_of_regular (small : IsSmallAscii w) (regular : pluralize w = w ++ "s") :
    endsInAny ["s"] w = false := by
  rw [Bool.eq_false_iff]
  intro ends
  have visible : ¬w.isEmpty = true := by
    intro empty
    rw [String.isEmpty_iff.mp empty] at ends
    exact absurd ends (by decide)
  have irregulars : ∀ entry ∈ irregularNouns, endsInAny ["s"] entry.1 = false := by decide
  have no_irregular : irregularNouns.find? (·.1 == w) = none := by
    rw [List.find?_eq_none]
    intro entry mem same
    rw [← eq_of_beq same, irregulars entry mem] at ends
    cases ends
  have sibilant : endsInAny ["s", "x", "z", "ch", "sh"] w = true := by
    simp only [endsInAny, List.any_cons, List.any_nil, Bool.or_false] at ends ⊢
    rw [ends, Bool.true_or]
  -- Every other rule puts an `e` in front of the last letter.
  have no_e (front : String) (same : front ++ "e" ++ "s" = w ++ "s") : False := by
    rw [← (String.append_left_inj "s").mp same, no_s_behind_e] at ends
    cases ends
  unfold pluralize at regular
  dsimp only at regular
  rw [small.lowercase, no_irregular, if_neg visible] at regular
  dsimp only at regular
  by_cases is : (endsInAny ["is"] w && decide (w.utf8ByteSize > 2)) = true
  · rw [if_pos is] at regular
    exact no_e (dropLastChars 2 w) (by rw [String.append_assoc]; exact regular)
  by_cases fe : endsInAny ["fe"] w = true
  · rw [if_neg is, if_pos fe] at regular
    exact no_e (dropLastChars 2 w ++ "v") (by rw [String.append_assoc, String.append_assoc]; exact regular)
  · rw [if_neg is, if_neg fe, if_pos sibilant] at regular
    exact no_e w (by rw [String.append_assoc]; exact regular)

/-- The singular of a regular plural is the noun it was made of, unless the noun is `indice`, which looks
like an irregular plural, or ends with `u`, so that the plural looks like a singular, or with `sse`, `xe`,
`che`, `she` or `ie`, so that it looks like the plural of a noun without the last letter or with `y`. -/
theorem singularize_pluralize_iff (small : IsSmallAscii w) (regular : pluralize w = w ++ "s") :
    singularize (pluralize w) = w ↔
      w ≠ "indice" ∧ endsInAny ["u", "sse", "xe", "che", "she"] w = false ∧
        (endsInAny ["ie"] w = true → w = "ie") := by
  have visible : w ≠ "" := by
    rintro rfl
    exact absurd regular (by decide)
  have no_s := endsInAny_s_of_regular small regular
  have split_u : endsInAny ["u", "sse", "xe", "che", "she"] w =
      (endsInAny ["s", "u"] w || endsInAny ["sse", "xe", "che", "she"] w) := by
    simp only [endsInAny, List.any_cons, List.any_nil, Bool.or_false] at no_s ⊢
    rw [no_s, Bool.false_or]
  have shorter : dropLastChars 1 w ≠ w := by
    intro same
    have some : w.length ≠ 0 := fun empty => visible (String.length_eq_zero_iff.mp empty)
    have lengths := congrArg String.length same
    rw [length_dropLastChars] at lengths
    omega
  rw [regular, singularize_append_s small visible, split_u]
  by_cases irregular : w = "indice"
  · simp [irregular]
  by_cases ie : endsInAny ["ie"] w = true ∧ w ≠ "ie"
  · have differs : dropLastChars 2 w ++ "y" ≠ w := by
      obtain ⟨front, rfl⟩ := eq_append_of_endsInAny ie.1
      intro same
      have lengths := congrArg String.length same
      simp only [String.length_append, length_dropLastChars, show "ie".length = 2 from rfl,
        show "y".length = 1 from rfl] at lengths
      omega
    simp [irregular, ie, differs]
  rw [if_neg irregular, if_neg ie]
  have no_ie : endsInAny ["ie"] w = true → w = "ie" := fun ends => by_contra fun other => ie ⟨ends, other⟩
  by_cases es : endsInAny ["sse", "xe", "che", "she"] w = true
  · simp [es, shorter]
  by_cases kept : endsInAny ["s", "u"] w = true
  · simp [es, kept]
  · simpa [es, kept, irregular] using no_ie

theorem singularize_pluralize_order_item :
    IsSmallAscii "order_item" ∧ pluralize "order_item" = "order_item" ++ "s" ∧
    singularize (pluralize "order_item") = "order_item" := by
  have small : IsSmallAscii "order_item" := by decide
  have regular : pluralize "order_item" = "order_item" ++ "s" := by decide
  exact ⟨small, regular, (singularize_pluralize_iff small regular).mpr (by decide)⟩

/-- The plural of `movie` is taken for that of `movy`, and that of `menu` for a singular. -/
theorem movie_and_menu_not_undone :
    IsSmallAscii "movie" ∧ pluralize "movie" = "movie" ++ "s" ∧
    singularize (pluralize "movie") ≠ "movie" ∧
    IsSmallAscii "menu" ∧ pluralize "menu" = "menu" ++ "s" ∧
    singularize (pluralize "menu") ≠ "menu" := by
  decide

end Text
end Scaffold
