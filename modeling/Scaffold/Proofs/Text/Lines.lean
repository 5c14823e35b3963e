/-
Texts in their final form. A text is seen as its visible lines, each with the number of blank lines before
it (`spaced`). Tidying keeps the visible lines, and one blank line where there were blank lines between two
of them (`spaced_tidyLines`). What is tidied once is left as it is, since its lines are `Tidy` already
(`tidyLines_eq_self`).
-/
import Mathlib.Data.List.DropRight
import Mathlib.Data.List.Induction
import Scaffold.Proofs.Text.Basic
import Scaffold.Text.Blank

namespace Scaffold
namespace Text

variable {s : String} {b : Bool} {line : List Char} {ls : List (List Char)}

/-! ## Ends of lines and of texts -/

theorem dropEmptyEnd_eq (ls : List (List Char)) : dropEmptyEnd ls = ls.rdropWhile List.isEmpty := rfl

@[simp] theorem dropBlankEnd_dropBlankEnd (cs : List Char) :
    dropBlankEnd (dropBlankEnd cs) = dropBlankEnd cs :=
  List.rdropWhile_idempotent isBlank cs

/-- Blanks around what has none at its ends are all that is dropped. -/
theorem dropBlankEnd_dropBlank_append {front back cs : List Char}
    (before : ∀ c ∈ front, isBlank c = true) (after : ∀ c ∈ back, isBlank c = true)
    (trimmed : dropBlankEnd (dropBlank cs) = cs) :
    dropBlankEnd (dropBlank (front ++ cs ++ back)) = cs := by
  have start : dropBlank cs = cs := by
    refine (List.dropWhile_suffix isBlank).eq_of_length_le ?_
    rw [← dropBlank]
    have shorter := (List.rdropWhile_prefix isBlank (dropBlank cs)).length_le
    rwa [show (dropBlank cs).rdropWhile isBlank = cs from trimmed] at shorter
  have ends : dropBlankEnd cs = cs := by rwa [start] at trimmed
  have tail : dropBlankEnd (cs ++ back) = cs := by
    rw [dropBlankEnd, List.reverse_append, dropBlank,
      List.dropWhile_append_of_pos (by simpa using after)]
    exact ends
  rw [List.append_assoc, dropBlank, List.dropWhile_append_of_pos before, ← dropBlank]
  cases cs with
  | nil => rw [List.nil_append, dropBlank, List.dropWhile_eq_nil_iff.mpr after, dropBlankEnd]; rfl
  | cons c rest =>
    have visible : ¬isBlank c = true := List.dropWhile_eq_self_iff.mp start (Nat.succ_pos _)
    rw [List.cons_append, dropBlank, List.dropWhile_cons_of_neg visible, ← List.cons_append]
    exact tail

theorem isPrefix_dropEmptyEnd (ls : List (List Char)) : dropEmptyEnd ls <+: ls :=
  List.rdropWhile_prefix List.isEmpty ls

theorem getLast?_dropEmptyEnd (ls : List (List Char)) : (dropEmptyEnd ls).getLast? ≠ some [] := by
  intro last
  have full : dropEmptyEnd ls ≠ [] := by
    intro none
    rw [none] at last
    cases last
  refine List.rdropWhile_last_not List.isEmpty ls full ?_
  rw [List.getLast?_eq_some_getLast full, Option.some_inj] at last
  exact List.isEmpty_iff.mpr last

theorem dropEmptyEnd_eq_self (last : ls.getLast? ≠ some []) : dropEmptyEnd ls = ls := by
  refine List.rdropWhile_eq_self_iff.mpr fun full empty => last ?_
  rw [List.getLast?_eq_some_getLast full, List.isEmpty_iff.mp empty]

/-! ## Lines of a text -/

theorem newline_notMem_of_mem_lines {cs : List Char} (mem : line ∈ lines cs) : '\n' ∉ line := by
  intro inside
  have piece : line ∈ splitWhere (· == '\n') cs := by
    rw [lines] at mem
    split at mem
    · exact List.dropLast_subset _ mem
    · exact mem
  exact Bool.false_ne_true (of_mem_splitWhere piece inside).2.symm

/-- Lines that are written down one after the other, each with a line feed, are the lines of the text. -/
theorem lines_flatMap (whole : ∀ line ∈ ls, '\n' ∉ line) :
    lines (ls.flatMap (· ++ ['\n'])) = ls := by
  have pieces : splitWhere (· == '\n') (ls.flatMap (· ++ ['\n'])) = ls ++ [[]] := by
    induction ls with
    | nil => rfl
    | cons line rest ih =>
      have own : splitWhere (· == '\n') line = [line] := splitWhere_eq_singleton fun c hc =>
        beq_false_of_ne fun same => whole line List.mem_cons_self (same ▸ hc)
      rw [List.flatMap_cons, List.append_assoc, List.singleton_append,
        splitWhere_append (p := (· == '\n')) rfl, own,
        ih fun line mem => whole line (List.mem_cons_of_mem _ mem)]
      rfl
  simp [lines, pieces]

/-! ## Lines in their final form -/

/-- Lines without trailing blanks, of which no two in a row are blank; nor is the first, when the line
before it was (`afterBlank`). -/
def Tidy : Bool → List (List Char) → Prop
  | _, [] => True
  | afterBlank, line :: rest =>
    dropBlankEnd line = line ∧ (afterBlank → line ≠ []) ∧ Tidy line.isEmpty rest

theorem tidy_tidyLines (b : Bool) (ls : List (List Char)) : Tidy b (tidyLines b ls) := by
  induction ls generalizing b with
  | nil => trivial
  | cons line rest ih =>
    rw [tidyLines]
    cases shown : dropBlankEnd line with
    | nil =>
      cases b with
      | true => exact ih true
      | false => exact ⟨rfl, nofun, ih true⟩
    | cons c cs =>
      refine ⟨?_, nofun, ih false⟩
      rw [← shown, dropBlankEnd_dropBlankEnd]

/-- What is in its final form is left as it is. -/
theorem tidyLines_eq_self (tidy : Tidy b ls) : tidyLines b ls = ls := by
  induction ls generalizing b with
  | nil => rfl
  | cons line rest ih =>
    obtain ⟨trimmed, first, later⟩ := tidy
    rw [tidyLines, trimmed]
    cases line with
    | nil =>
      have other : b = false := Bool.eq_false_iff.mpr fun after => first after rfl
      rw [other]
      exact congrArg (List.cons []) (ih later)
    | cons c cs => exact congrArg (List.cons (c :: cs)) (ih later)

theorem Tidy.of_isPrefix {front : List (List Char)} (tidy : Tidy b ls) (start : front <+: ls) :
    Tidy b front := by
  induction front generalizing b ls with
  | nil => trivial
  | cons line rest ih =>
    obtain ⟨more, rfl⟩ := start
    exact ⟨tidy.1, tidy.2.1, ih tidy.2.2 (List.prefix_append rest more)⟩

theorem Tidy.trimmed (tidy : Tidy b ls) (mem : line ∈ ls) : dropBlankEnd line = line := by
  induction ls generalizing b with
  | nil => cases mem
  | cons first rest ih =>
    rcases List.mem_cons.mp mem with rfl | mem
    · exact tidy.1
    · exact ih tidy.2.2 mem

theorem Tidy.chain (tidy : Tidy b ls) :
    ls.IsChain fun line next => dropBlankEnd line = [] → dropBlankEnd next ≠ [] := by
  induction ls generalizing b with
  | nil => exact .nil
  | cons line rest ih =>
    cases rest with
    | nil => exact .singleton line
    | cons next rest =>
      obtain ⟨trimmed, -, later⟩ := tidy
      refine .cons_cons (fun blank => ?_) (ih later)
      rw [later.1]
      exact later.2.1 (List.isEmpty_iff.mpr (trimmed.symm.trans blank))

theorem mem_of_mem_tidyLines (mem : line ∈ tidyLines b ls) : ∃ own ∈ ls, dropBlankEnd own = line := by
  induction ls generalizing b with
  | nil => cases mem
  | cons first rest ih =>
    have later {b : Bool} (mem : line ∈ tidyLines b rest) :
        ∃ own ∈ first :: rest, dropBlankEnd own = line := by
      obtain ⟨own, inside, same⟩ := ih mem
      exact ⟨own, List.mem_cons_of_mem first inside, same⟩
    rw [tidyLines] at mem
    split at mem
    · next shown =>
      split at mem
      · exact later mem
      · rcases List.mem_cons.mp mem with rfl | mem
        · exact ⟨first, List.mem_cons_self, shown⟩
        · exact later mem
    · rcases List.mem_cons.mp mem with rfl | mem
      · exact ⟨first, List.mem_cons_self, rfl⟩
      · exact later mem

/-! ## Visible lines and the blank ones between them -/

/-- The lines in which something can be seen, each with the number of blank lines right before it; `n` more
came before these lines. -/
def spaced (n : Nat) : List (List Char) → List (Nat × List Char)
  | [] => []
  | line :: rest =>
    match dropBlankEnd line with
    | [] => spaced (n + 1) rest
    | visible => (n, visible) :: spaced 0 rest

/-- The lines in which something can be seen, without the blanks at their ends. -/
def visibleLines (s : String) : List (List Char) :=
  ((lines s.toList).map dropBlankEnd).filter (!·.isEmpty)

/-- How many blank lines stand between a visible line and the next one. -/
def gaps (s : String) : List Nat :=
  (spaced 0 (lines s.toList)).tail.map Prod.fst

theorem map_snd_spaced (n : Nat) (ls : List (List Char)) :
    (spaced n ls).map Prod.snd = (ls.map dropBlankEnd).filter (!·.isEmpty) := by
  induction ls generalizing n with
  | nil => rfl
  | cons line rest ih =>
    rw [spaced]
    cases shown : dropBlankEnd line <;> simp [ih, shown]

/-- Blank lines before the first visible one only change its number. -/
theorem tail_spaced (n : Nat) (ls : List (List Char)) : (spaced n ls).tail = (spaced 0 ls).tail := by
  induction ls generalizing n with
  | nil => rfl
  | cons line rest ih =>
    rw [spaced, spaced]
    cases dropBlankEnd line with
    | nil => exact (ih (n + 1)).trans (ih 1).symm
    | cons c cs => rfl

/-- Tidying keeps the visible lines, and of the blank lines before one of them it keeps one. -/
theorem spaced_tidyLines (n : Nat) (ls : List (List Char)) :
    spaced (min 1 n) (tidyLines (decide (0 < n)) ls) = (spaced n ls).map (Prod.map (min 1) id) := by
  induction ls generalizing n with
  | nil => rfl
  | cons line rest ih =>
    rw [tidyLines, spaced]
    cases shown : dropBlankEnd line with
    | nil =>
      -- A blank line is the first of its kind only when none was counted yet.
      cases n with
      | zero => exact ih 1
      | succ n => simpa using ih (n + 2)
    | cons c cs =>
      have again : dropBlankEnd (c :: cs) = c :: cs := by rw [← shown, dropBlankEnd_dropBlankEnd]
      have later := ih 0
      rw [spaced, again]
      simpa using later

theorem spaced_concat_empty (n : Nat) (ls : List (List Char)) : spaced n (ls ++ [[]]) = spaced n ls := by
  induction ls generalizing n with
  | nil => rfl
  | cons line rest ih =>
    rw [List.cons_append, spaced, spaced]
    cases dropBlankEnd line with
    | nil => exact ih (n + 1)
    | cons c cs => exact congrArg _ (ih 0)

theorem spaced_dropEmptyEnd (n : Nat) (ls : List (List Char)) :
    spaced n (dropEmptyEnd ls) = spaced n ls := by
  induction ls using List.reverseRecOn with
  | nil => rfl
  | append_singleton ls line ih =>
    rw [dropEmptyEnd_eq, List.rdropWhile_concat]
    split
    · next empty => rw [List.isEmpty_iff.mp empty, spaced_concat_empty, ← ih, dropEmptyEnd_eq]
    · rfl

/-! ## Texts in their final form -/

/-- The lines that tidying leaves of a text. -/
def finalLines (s : String) : List (List Char) :=
  dropEmptyEnd (tidyLines true (lines s.toList))

theorem tidy_finalLines (s : String) : Tidy true (finalLines s) :=
  (tidy_tidyLines true _).of_isPrefix (isPrefix_dropEmptyEnd _)

theorem newline_notMem_finalLines (mem : line ∈ finalLines s) : '\n' ∉ line := by
  obtain ⟨own, inside, rfl⟩ := mem_of_mem_tidyLines ((isPrefix_dropEmptyEnd _).subset mem)
  exact fun c => newline_notMem_of_mem_lines inside ((List.rdropWhile_prefix isBlank own).subset c)

theorem spaced_finalLines (s : String) :
    spaced 1 (finalLines s) = (spaced 1 (lines s.toList)).map (Prod.map (min 1) id) := by
  rw [finalLines, spaced_dropEmptyEnd]
  exact spaced_tidyLines 1 _

theorem visible_finalLines (s : String) :
    ((finalLines s).map dropBlankEnd).filter (!·.isEmpty) = visibleLines s := by
  rw [← map_snd_spaced 1, spaced_finalLines, visibleLines, ← map_snd_spaced 1, List.map_map]
  rfl

/-- Nothing is left exactly of the texts in which nothing can be seen. -/
theorem finalLines_eq_nil_iff : finalLines s = [] ↔ visibleLines s = [] := by
  rw [← visible_finalLines]
  refine ⟨fun none => by rw [none]; rfl, fun hidden => ?_⟩
  have tidy := tidy_finalLines s
  cases left : finalLines s with
  | nil => rfl
  | cons line rest =>
    rw [left] at hidden tidy
    obtain ⟨trimmed, first, -⟩ := tidy
    simp [trimmed, first rfl] at hidden

theorem tidy_of_hidden (hidden : finalLines s = []) : tidy s = "\n" := by
  rw [finalLines] at hidden
  rw [tidy, hidden]

theorem tidy_of_shown (shown : finalLines s ≠ []) :
    tidy s = String.ofList ((finalLines s).flatMap (· ++ ['\n'])) := by
  rw [tidy, finalLines]
  split
  · next none => exact absurd none shown
  · rfl

theorem lines_tidy (shown : finalLines s ≠ []) : lines (tidy s).toList = finalLines s := by
  rw [tidy_of_shown shown, String.toList_ofList]
  exact lines_flatMap fun _ mem => newline_notMem_finalLines mem

theorem finalLines_tidy (s : String) : finalLines (tidy s) = finalLines s := by
  by_cases hidden : finalLines s = []
  · rw [tidy_of_hidden hidden, hidden]
    rfl
  · rw [finalLines, lines_tidy hidden, tidyLines_eq_self (tidy_finalLines s)]
    exact dropEmptyEnd_eq_self (getLast?_dropEmptyEnd _)

/-- The form of a text with something to be seen: it ends with one line feed and no more, no line has
trailing blanks, the first line is not blank, and of two lines in a row one is not blank. -/
structure Tidied (t : String) : Prop where
  ending : ∃ body, t.toList = body ++ ['\n'] ∧ body.getLast? ≠ some '\n'
  trimmed : ∀ line ∈ lines t.toList, dropBlankEnd line = line
  first : ∀ line ∈ (lines t.toList).head?, dropBlankEnd line ≠ []
  single : (lines t.toList).IsChain fun line next => dropBlankEnd line = [] → dropBlankEnd next ≠ []

theorem tidied_tidy (shown : finalLines s ≠ []) : Tidied (tidy s) := by
  have tidy := tidy_finalLines s
  refine ⟨?_, ?_, ?_, ?_⟩
  · -- The last line is not empty, so no line feed comes before the one at its end.
    obtain ⟨front, last, ends⟩ := (List.eq_nil_or_concat (finalLines s)).resolve_left shown
    have full : last ≠ [] := by
      intro empty
      refine getLast?_dropEmptyEnd (tidyLines true (lines s.toList)) ?_
      change (finalLines s).getLast? = some []
      rw [ends, List.concat_eq_append, List.getLast?_concat, empty]
    refine ⟨front.flatMap (· ++ ['\n']) ++ last, ?_, ?_⟩
    · rw [tidy_of_shown shown, String.toList_ofList, ends]
      simp
    · intro feed
      rw [List.getLast?_append_of_ne_nil _ full] at feed
      have mem : last ∈ finalLines s := by rw [ends]; simp
      exact newline_notMem_finalLines mem (List.mem_of_getLast? feed)
  · rw [lines_tidy shown]
    exact fun _ mem => tidy.trimmed mem
  · rw [lines_tidy shown]
    cases left : finalLines s with
    | nil => exact absurd left shown
    | cons line rest =>
      rw [left] at tidy
      rintro _ ⟨⟩
      rw [tidy.1]
      exact tidy.2.1 rfl
  · rw [lines_tidy shown]
    exact tidy.chain

/-- Tidying is a normal form. A text in which nothing can be seen becomes one line feed, every other text
takes the final form. The visible lines stay, two of them have one blank line between them exactly where the
text had some, and to tidy once more changes nothing. -/
theorem tidy_normal (s : String) :
    (if visibleLines s = [] then tidy s = "\n" else Tidied (tidy s)) ∧
      visibleLines (tidy s) = visibleLines s ∧
      gaps (tidy s) = (gaps s).map (min 1) ∧
      tidy (tidy s) = tidy s := by
  have again : tidy (tidy s) = tidy s := by
    by_cases hidden : finalLines s = []
    · rw [tidy_of_hidden hidden]
      rfl
    · have shown : finalLines (tidy s) ≠ [] := by rwa [finalLines_tidy]
      rw [tidy_of_shown shown, finalLines_tidy, ← tidy_of_shown hidden]
  have seen : visibleLines (tidy s) = visibleLines s := by
    rw [← visible_finalLines, finalLines_tidy, visible_finalLines]
  refine ⟨?_, seen, ?_, again⟩
  · split
    · next none => exact tidy_of_hidden (finalLines_eq_nil_iff.mpr none)
    · next some => exact tidied_tidy fun none => some (finalLines_eq_nil_iff.mp none)
  · by_cases hidden : finalLines s = []
    · have none : spaced 1 (lines s.toList) = [] := by
        have kept := spaced_finalLines s
        rw [hidden] at kept
        exact List.map_eq_nil_iff.mp kept.symm
      rw [tidy_of_hidden hidden, gaps, gaps, ← tail_spaced 1 (lines s.toList), none]
      rfl
    · rw [gaps, gaps, lines_tidy hidden, ← tail_spaced 1, spaced_finalLines, ← tail_spaced 1,
        ← List.map_tail, List.map_map, List.map_map]
      rfl

end Text
end Scaffold
