/-
The reader in the middle of a longer text. A type is read up to its own end: when a text is one type
expression and what follows is a mark, a comma or a closing bracket, only the marks are left to read
(`readType_append`). So the reading of a text follows from the readings of its parts: `parse_applied`,
`parse_array`, `parse_brackets`, `parse_orNull`.
-/
import Mathlib.Data.List.Forall2
import Scaffold.Proofs.TypeExpr.Steps

namespace Scaffold
namespace TypeExpr

open Text

variable {c : Char} {cs rest : List Char} {t t' : TypeExpr}

/-! ## Marks -/

/-- Nothing is left, or something that is no mark. -/
def Unmarked (cs : List Char) : Prop :=
  ∀ c ds, cs = c :: ds → isBlank c = false ∧ c ≠ '?' ∧ c ≠ '['

theorem Unmarked.nil : Unmarked [] :=
  nofun

theorem Unmarked.dropBlank (h : Unmarked cs) : dropBlank cs = cs := by
  cases cs with
  | nil => rfl
  | cons c ds => exact dropBlank_cons (h c ds rfl).1

theorem Unmarked.append (h : Unmarked cs) (some : cs ≠ []) (more : List Char) :
    Unmarked (cs ++ more) := by
  obtain ⟨c, ds, rfl⟩ := List.exists_cons_of_ne_nil some
  rintro d es ⟨⟩
  exact h c ds rfl

theorem mark_cases (cs : List Char) :
    (∃ rest, dropBlank cs = '?' :: rest) ∨ (∃ rest, dropBlank cs = '[' :: rest) ∨
      Unmarked (dropBlank cs) := by
  cases visible : dropBlank cs with
  | nil => exact .inr (.inr .nil)
  | cons c rest =>
    by_cases null : c = '?'
    · exact .inl ⟨rest, by rw [null]⟩
    by_cases bracket : c = '['
    · exact .inr (.inl ⟨rest, by rw [bracket]⟩)
    refine .inr (.inr ?_)
    rintro d ds ⟨⟩
    exact ⟨isBlank_of_dropBlank visible, null, bracket⟩

theorem length_lt_of_brackets {left : List Char} (h : dropBlank cs = '[' :: left)
    (close : expect ']' (skipCommas left) = .ok rest) : rest.length < cs.length := by
  have opened := length_lt_of_dropBlank h
  have skipped : (skipCommas left).length ≤ left.length := (List.dropWhile_suffix _).length_le
  have closed := length_lt_of_dropBlank (expect_eq_ok_iff.mp close)
  omega

/-- Every mark takes a character, so more fuel than characters makes no difference. -/
theorem readMarks_of_lt {fuel fuel' : Nat} (enough : cs.length < fuel) (enough' : cs.length < fuel') :
    readMarks fuel t cs = readMarks fuel' t cs := by
  induction fuel generalizing fuel' t cs with
  | zero => omega
  | succ fuel ih =>
    obtain ⟨fuel', rfl⟩ : ∃ n, fuel' = n + 1 := ⟨fuel' - 1, by omega⟩
    rw [readMarks, readMarks]
    cases null : eat '?' cs with
    | mk found rest =>
      cases found with
      | true =>
        have shorter := length_lt_of_dropBlank (eat_eq_true_iff.mp null)
        exact ih (by omega) (by omega)
      | false =>
        have no_longer : rest.length ≤ cs.length := by
          rw [← (eat_eq_false_iff.mp null).1]
          exact length_dropBlank_le cs
        simp only
        cases bracket : eat '[' rest with
        | mk found rest' =>
          cases found with
          | false => rfl
          | true =>
            cases close : expect ']' (skipCommas rest') with
            | error stop =>
              simp only [close]
              rfl
            | ok left =>
              have shorter := length_lt_of_brackets (eat_eq_true_iff.mp bracket) close
              simp only [close]
              exact ih (by omega) (by omega)

/-- Applies all the marks in front. -/
def marks (t : TypeExpr) (cs : List Char) : Except Stop (TypeExpr × List Char) :=
  readMarks (cs.length + 1) t cs

theorem marks_null (h : dropBlank cs = '?' :: rest) : marks t cs = marks t.orNull rest := by
  have shorter := length_lt_of_dropBlank h
  rw [marks, readMarks, eat_eq_true_iff.mpr h]
  exact readMarks_of_lt shorter (by omega)

theorem marks_list (h : dropBlank cs = '[' :: rest) :
    marks t cs = expect ']' (skipCommas rest) >>= marks (list t) := by
  have shorter := length_lt_of_dropBlank h
  have no_null : eat '?' cs = (false, '[' :: rest) := eat_eq_false_iff.mpr ⟨h, nofun⟩
  rw [marks, readMarks, no_null]
  simp only [eat_cons (by decide : isBlank '[' = false), if_true]
  cases close : expect ']' (skipCommas rest) with
  | error stop => rfl
  | ok left =>
    have closed := length_lt_of_brackets h close
    exact readMarks_of_lt (by omega) (by omega)

theorem marks_of_unmarked (h : Unmarked (dropBlank cs)) : marks t cs = .ok (t, dropBlank cs) := by
  have no_null : eat '?' cs = (false, dropBlank cs) :=
    eat_eq_false_iff.mpr ⟨rfl, fun ds same => (h _ ds same).2.1 rfl⟩
  have no_bracket : eat '[' (dropBlank cs) = (false, dropBlank cs) :=
    eat_eq_false_iff.mpr ⟨h.dropBlank, fun ds same => (h _ ds same).2.2 rfl⟩
  rw [marks, readMarks, no_null]
  simp only [no_bracket]

theorem marks_dropBlank (t : TypeExpr) (cs : List Char) : marks t (dropBlank cs) = marks t cs := by
  have same := dropBlank_dropBlank cs
  rcases mark_cases cs with ⟨rest, h⟩ | ⟨rest, h⟩ | h
  · rw [marks_null h, marks_null (same.trans h)]
  · rw [marks_list h, marks_list (same.trans h)]
  · rw [marks_of_unmarked h, marks_of_unmarked (same.symm ▸ h), same]

/-- Induction on the marks in front, from the last one to the first. -/
theorem marks_induction {motive : TypeExpr → List Char → Prop}
    (null : ∀ t cs rest, dropBlank cs = '?' :: rest → motive t.orNull rest → motive t cs)
    (brackets : ∀ t cs rest, dropBlank cs = '[' :: rest →
      (∀ left, expect ']' (skipCommas rest) = .ok left → motive (list t) left) → motive t cs)
    (unmarked : ∀ t cs, Unmarked (dropBlank cs) → motive t cs) (t : TypeExpr) (cs : List Char) :
    motive t cs := by
  induction n : cs.length using Nat.strong_induction_on generalizing t cs with
  | _ n ih =>
    subst n
    rcases mark_cases cs with ⟨rest, visible⟩ | ⟨rest, visible⟩ | none
    · exact null t cs rest visible (ih _ (length_lt_of_dropBlank visible) _ _ rfl)
    · refine brackets t cs rest visible fun left close => ?_
      exact ih _ (length_lt_of_brackets visible close) _ _ rfl
    · exact unmarked t cs none

theorem unmarked_of_marks (h : marks t cs = .ok (t', rest)) : Unmarked rest := by
  induction t, cs using marks_induction with
  | null t cs left visible ih => exact ih (marks_null visible ▸ h)
  | brackets t cs left visible ih =>
    rw [marks_list visible] at h
    obtain ⟨left', close, h⟩ := eq_ok_of_bind h
    exact ih left' close h
  | unmarked t cs none =>
    rw [marks_of_unmarked none] at h
    cases h
    exact none

/-- Marks are read in the same way when more follows, and then those that follow. -/
theorem marks_append {more : List Char} (stops : Stops more) (h : marks t cs = .ok (t', rest)) :
    marks t (cs ++ more) = marks t' (rest ++ more) := by
  induction t, cs using marks_induction with
  | null t cs left visible ih =>
    rw [marks_null visible] at h
    have longer := dropBlank_append stops cs
    rw [visible, List.cons_append] at longer
    rw [marks_null longer]
    exact ih h
  | brackets t cs left visible ih =>
    rw [marks_list visible] at h
    obtain ⟨left', close, h⟩ := eq_ok_of_bind h
    have longer := dropBlank_append stops cs
    rw [visible, List.cons_append] at longer
    rw [marks_list longer, skipCommas_append stops close]
    exact ih left' close h
  | unmarked t cs none =>
    rw [marks_of_unmarked none] at h
    cases h
    rw [← marks_dropBlank, dropBlank_append stops]

theorem marks_append_of_unmarked {more : List Char} (h : Unmarked cs) (some : cs ≠ []) :
    marks t (cs ++ more) = .ok (t, cs ++ more) := by
  have unmarked := h.append some more
  have visible := unmarked.dropBlank
  rw [marks_of_unmarked (visible.symm ▸ unmarked), visible]

/-! ## Types in a longer text -/

/-- What stands in front of the marks: a type in brackets, or a name with its arguments. -/
def readFront (fuel : Nat) (cs : List Char) : Except Stop (TypeExpr × List Char) :=
  match eat '[' (skipBorrow cs) with
  | (true, rest) => do
    let (element, rest) ← readType fuel rest
    let rest ← expect ']' (skipLength rest)
    pure (list element, rest)
  | (false, rest) =>
    match takeName rest with
    | ([], rest) => .error ⟨.expectedName, rest.length⟩
    | (name, rest) =>
      let short := String.ofList (shortNameChars name)
      match eat '<' rest with
      | (true, rest) => do
        let (args, rest) ← readArgs fuel rest
        let rest ← expect '>' rest
        pure (apply short args, rest)
      | (false, rest) => pure (apply short [], rest)

theorem readType_succ (fuel : Nat) (cs : List Char) :
    readType (fuel + 1) cs = readFront fuel cs >>= fun (t, rest) => marks t rest := by
  rw [readType, readFront]
  cases eat '[' (skipBorrow cs) with
  | mk found inside =>
    cases found with
    | true =>
      simp only
      cases readType fuel inside with
      | error stop => rfl
      | ok result =>
        cases close : expect ']' (skipLength result.2) with
        | error stop => simp [bind, Except.bind, close]
        | ok rest => simp [bind, Except.bind, close, pure, Except.pure, marks]
    | false =>
      simp only
      rcases takeName inside with ⟨_ | ⟨first, others⟩, left⟩
      · rfl
      · simp only
        cases eat '<' left with
        | mk found inside =>
          cases found with
          | false => rfl
          | true =>
            simp only
            cases readArgs fuel inside with
            | error stop => rfl
            | ok result =>
              cases close : expect '>' result.2 with
              | error stop => simp [bind, Except.bind, close]
              | ok rest => simp [bind, Except.bind, close, pure, Except.pure, marks]

theorem unmarked_of_readType {fuel : Nat} (h : readType fuel cs = .ok (t, rest)) : Unmarked rest := by
  cases fuel with
  | zero => cases h
  | succ fuel =>
    rw [readType_succ] at h
    obtain ⟨⟨front, left⟩, -, marked⟩ := eq_ok_of_bind h
    exact unmarked_of_marks marked

/-- The front of a type is read in the same way when more follows, if the types inside of it are. -/
theorem readFront_append {more : List Char} (stops : Stops more) {fuel fuel' : Nat}
    (types : ∀ cs t rest, readType fuel cs = .ok (t, rest) →
      readType fuel' (cs ++ more) = marks t (rest ++ more))
    (args : ∀ cs ts rest, readArgs fuel cs = .ok (ts, rest) → rest ≠ [] →
      readArgs fuel' (cs ++ more) = .ok (ts, rest ++ more))
    (h : readFront fuel cs = .ok (t, rest)) : readFront fuel' (cs ++ more) = .ok (t, rest ++ more) := by
  unfold readFront at h ⊢
  rw [skipBorrow_append stops]
  cases bracket : eat '[' (skipBorrow cs) with
  | mk found inside =>
    rw [bracket] at h
    cases found with
    | true =>
      obtain ⟨⟨element, left⟩, read, h⟩ := eq_ok_of_bind h
      obtain ⟨left', close, h⟩ := eq_ok_of_bind h
      -- The bracket is left, so the marks of the element end in front of it in the longer text, too.
      have some : left ≠ [] := by
        rintro rfl
        cases close
      have read' := types _ _ _ read
      rw [marks_append_of_unmarked (unmarked_of_readType read) some] at read'
      rw [eat_append_true stops bracket]
      simp only [read', bind, Except.bind, skipLength_append stops close]
      cases h
      rfl
    | false =>
      simp only at h
      cases taken : takeName inside with
      | mk name left =>
        rw [taken] at h
        cases name with
        | nil => cases h
        | cons first others =>
          simp only at h
          have some : inside ≠ [] := by
            rintro rfl
            cases taken
          rw [eat_append_false stops bracket (.inl some)]
          simp only [takeName_append stops, taken]
          cases angle : eat '<' left with
          | mk found left' =>
            rw [angle] at h
            cases found with
            | true =>
              obtain ⟨⟨ts, left''⟩, read, h⟩ := eq_ok_of_bind h
              obtain ⟨end_, close, h⟩ := eq_ok_of_bind h
              have read' := args _ _ _ read (ne_nil_of_expect close)
              rw [eat_append_true stops angle]
              simp only [read', bind, Except.bind, expect_append stops close]
              cases h
              rfl
            | false =>
              rw [eat_append_false stops angle (.inr rfl)]
              cases h
              rfl

/-- Types are read in the same way when more follows, up to the marks that follow; arguments are
when something closes them. -/
theorem read_append {more : List Char} (stops : Stops more) (fuel : Nat) :
    (∀ cs t rest fuel', readType fuel cs = .ok (t, rest) → fuel ≤ fuel' →
      readType fuel' (cs ++ more) = marks t (rest ++ more)) ∧
    ∀ cs ts rest fuel', readArgs fuel cs = .ok (ts, rest) → rest ≠ [] → fuel ≤ fuel' →
      readArgs fuel' (cs ++ more) = .ok (ts, rest ++ more) := by
  -- On the fuel: every call spends some, so each of the two readers can use the other one's case.
  induction fuel with
  | zero =>
    constructor
    · intro cs t rest fuel' h
      cases h
    · intro cs ts rest fuel' h
      cases h
  | succ fuel ih =>
    obtain ⟨types, args⟩ := ih
    constructor
    · intro cs t rest fuel' h more_fuel
      obtain ⟨fuel', rfl⟩ : ∃ n, fuel' = n + 1 := ⟨fuel' - 1, by omega⟩
      rw [readType_succ] at h ⊢
      obtain ⟨⟨front, left⟩, read, marked⟩ := eq_ok_of_bind h
      have read' := readFront_append stops
        (fun cs t rest h => types cs t rest fuel' h (by omega))
        (fun cs ts rest h some => args cs ts rest fuel' h some (by omega)) read
      rw [read']
      exact marks_append stops marked
    · intro cs ts rest fuel' h some more_fuel
      obtain ⟨fuel', rfl⟩ : ∃ n, fuel' = n + 1 := ⟨fuel' - 1, by omega⟩
      rw [readArgs] at h ⊢
      obtain ⟨⟨arg, left⟩, read, h⟩ := eq_ok_of_bind h
      have read' := types _ _ _ fuel' read (by omega)
      simp only at h
      cases comma : eat ',' left with
      | mk found left' =>
        rw [comma] at h
        have left_some : left ≠ [] := by
          rintro rfl
          cases comma
          cases h
          exact some rfl
        rw [marks_append_of_unmarked (unmarked_of_readType read) left_some] at read'
        cases found with
        | true =>
          obtain ⟨⟨others, end_⟩, read_others, h⟩ := eq_ok_of_bind h
          cases h
          have others' := args _ _ _ fuel' read_others some (by omega)
          simp only [read', bind, Except.bind, eat_append_true stops comma, others']
          rfl
        | false =>
          cases h
          simp only [read', bind, Except.bind, eat_append_false stops comma (.inl some)]
          rfl

/-! ## Texts from their parts -/

variable {text name : String}

theorem parse_eq_ok_iff :
    parse text = .ok t ↔ readType (2 * text.toList.length + 2) text.toList = .ok (t, []) := by
  unfold parse
  cases read : readType (2 * text.toList.length + 2) text.toList with
  | error stop => simp [read]
  | ok result =>
    obtain ⟨t', rest⟩ := result
    have visible := (unmarked_of_readType read).dropBlank
    simp only [read, visible]
    cases rest <;> simp

/-- A text that is one type expression is read as it in front of a stop, too. -/
theorem readType_append (h : parse text = .ok t) {more : List Char} (stops : Stops more) {fuel : Nat}
    (enough : 2 * text.toList.length + 2 ≤ fuel) : readType fuel (text.toList ++ more) = marks t more :=
  (read_append stops _).1 _ _ _ _ (parse_eq_ok_iff.mp h) enough

theorem marks_of_stop {c : Char} (stop : isStop c = true) (null : c ≠ '?') (bracket : c ≠ '[')
    (cs : List Char) : marks t (c :: cs) = .ok (t, c :: cs) := by
  have unmarked : Unmarked (c :: cs) := by
    rintro d ds ⟨⟩
    exact ⟨isBlank_of_isStop stop, null, bracket⟩
  have visible := unmarked.dropBlank
  rw [marks_of_unmarked (visible.symm ▸ unmarked), visible]

theorem parse_orNull (h : parse text = .ok t) : parse (text ++ "?") = .ok t.orNull := by
  have enough : 2 * text.toList.length + 2 ≤ 2 * (text.toList.length + 1) + 2 := by omega
  have read := readType_append h (.cons (by decide : isStop '?' = true) []) enough
  rw [parse_eq_ok_iff, String.toList_append, List.length_append]
  exact read

theorem parse_array (h : parse text = .ok t) : parse (text ++ "[]") = .ok (list t) := by
  have enough : 2 * text.toList.length + 2 ≤ 2 * (text.toList.length + 2) + 2 := by omega
  have read := readType_append h (.cons (by decide : isStop '[' = true) [']']) enough
  rw [parse_eq_ok_iff, String.toList_append, List.length_append]
  exact read

theorem parse_brackets (h : parse text = .ok t) : parse ("[" ++ text ++ "]") = .ok (list t) := by
  have chars : ("[" ++ text ++ "]").toList = '[' :: (text.toList ++ [']']) := by simp
  have bracket : eat '[' (skipBorrow ('[' :: (text.toList ++ [']']))) =
      (true, text.toList ++ [']']) := rfl
  have read : readType (2 * (text.toList.length + 2) + 1) (text.toList ++ [']']) = .ok (t, [']']) := by
    rw [readType_append h (.cons (by decide) []) (by omega), marks_of_stop] <;> decide
  have length : ('[' :: (text.toList ++ [']'])).length = text.toList.length + 2 := by simp
  rw [parse_eq_ok_iff, chars, length, readType_succ, readFront, bracket]
  simp only [read, bind, Except.bind]
  rfl

theorem readType_space (fuel : Nat) (cs : List Char) :
    readType (fuel + 1) (' ' :: cs) = readType (fuel + 1) cs := by
  rw [readType, readType, skipBorrow, skipBorrow, eat_space]

theorem readArgs_space (fuel : Nat) (cs : List Char) :
    readArgs (fuel + 2) (' ' :: cs) = readArgs (fuel + 2) cs := by
  rw [readArgs, readArgs, readType_space]

theorem toList_join_cons_cons (first second : String) (others : List String) :
    (join ", " (first :: second :: others)).toList =
      first.toList ++ ',' :: ' ' :: (join ", " (second :: others)).toList := by
  simp [join, String.toList_intercalate]

/-- Arguments are read one after the other up to the bracket that closes them. -/
theorem readArgs_join {texts : List String} {types : List TypeExpr}
    (each : List.Forall₂ (fun text t => parse text = .ok t) texts types) (some : texts ≠ [])
    (rest : List Char) {fuel : Nat} (enough : 2 * (join ", " texts).toList.length + 3 ≤ fuel) :
    readArgs fuel ((join ", " texts).toList ++ '>' :: rest) = .ok (types, '>' :: rest) := by
  induction each generalizing fuel with
  | nil => exact absurd rfl some
  | @cons text t others types first each ih =>
    obtain ⟨fuel, rfl⟩ : ∃ n, fuel = n + 1 := ⟨fuel - 1, by omega⟩
    rw [readArgs]
    cases each with
    | nil =>
      have alone : join ", " [text] = text := by simp [join]
      rw [alone] at enough ⊢
      rw [readType_append first (.cons (by decide) rest) (by omega),
        marks_of_stop (by decide) (by decide) (by decide)]
      rfl
    | @cons next t' others types second each =>
      rw [toList_join_cons_cons] at enough ⊢
      simp only [List.length_append, List.length_cons] at enough
      have enough_later : 2 * (join ", " (next :: others)).toList.length + 3 ≤ fuel := by omega
      have read_others := ih (List.cons_ne_nil _ _) enough_later
      obtain ⟨fuel, rfl⟩ : ∃ n, fuel = n + 2 := ⟨fuel - 2, by omega⟩
      rw [List.append_assoc, List.cons_append, List.cons_append,
        readType_append first (.cons (by decide) _) (by omega),
        marks_of_stop (by decide) (by decide) (by decide)]
      simp only [bind, Except.bind, eat_cons (by decide : isBlank ',' = false), if_true,
        readArgs_space, read_others]
      rfl

/-- A name is applied to arguments if there are any. -/
theorem readFront_name (written : WrittenName name) {rest : List Char}
    (stops : ∀ c cs, rest = c :: cs → isNameChar c = false) (fuel : Nat) :
    readFront fuel (name.toList ++ rest) =
      match eat '<' rest with
      | (true, rest) => do
        let (args, rest) ← readArgs fuel rest
        let rest ← expect '>' rest
        pure (apply (shortName name) args, rest)
      | (false, rest) => pure (apply (shortName name) [], rest) := by
  rw [readFront, written.skipBorrow_append, written.eat_append (by decide)]
  simp only [written.takeName_append stops, shortName]
  obtain ⟨c, cs, chars, -⟩ := written.toList_eq_cons
  rw [chars]

theorem parse_name (written : WrittenName name) : parse name = .ok (apply (shortName name) []) := by
  have stops (c : Char) (cs : List Char) (more : [] = c :: cs) : isNameChar c = false := nomatch more
  have front := readFront_name written stops (2 * name.toList.length + 1)
  rw [List.append_nil] at front
  rw [parse_eq_ok_iff, readType_succ, front]
  rfl

theorem parse_applied (written : WrittenName name) {texts : List String} {types : List TypeExpr}
    (each : List.Forall₂ (fun text t => parse text = .ok t) texts types) (some : texts ≠ []) :
    parse (name ++ "<" ++ join ", " texts ++ ">") = .ok (apply (shortName name) types) := by
  have chars : (name ++ "<" ++ join ", " texts ++ ">").toList =
      name.toList ++ '<' :: ((join ", " texts).toList ++ ['>']) := by simp
  have stops : ∀ c cs, '<' :: ((join ", " texts).toList ++ ['>']) = c :: cs → isNameChar c = false := by
    rintro c cs ⟨⟩
    decide
  have length : 2 * (join ", " texts).toList.length + 3 ≤
      2 * (name.toList ++ '<' :: ((join ", " texts).toList ++ ['>'])).length + 1 := by
    simp only [List.length_append, List.length_cons]
    omega
  have args := readArgs_join each some [] length
  rw [parse_eq_ok_iff, chars, readType_succ, readFront_name written stops, eat_cons (by decide), if_pos rfl]
  simp only [args, bind, Except.bind, expect_cons (by decide : isBlank '>' = false)]
  rfl

/-- Arguments that are written one by one are read one by one. -/
theorem forall₂_parse_map {α : Type} {write : α → String} {mean : α → TypeExpr} {args : List α}
    (each : ∀ arg ∈ args, parse (write arg) = .ok (mean arg)) :
    List.Forall₂ (fun text t => parse text = .ok t) (args.map write) (args.map mean) := by
  rw [List.forall₂_map_left_iff, List.forall₂_map_right_iff, List.forall₂_same]
  exact each

theorem parse_applied_one (written : WrittenName name) (read : parse text = .ok t) :
    parse (name ++ "<" ++ text ++ ">") = .ok (apply (shortName name) [t]) := by
  have applied := parse_applied written (.cons read .nil) (List.cons_ne_nil _ _)
  simpa [join] using applied

theorem parse_applied_two (written : WrittenName name) {key value : String} {k v : TypeExpr}
    (read_key : parse key = .ok k) (read_value : parse value = .ok v) :
    parse (name ++ "<" ++ key ++ ", " ++ value ++ ">") = .ok (apply (shortName name) [k, v]) := by
  have applied := parse_applied written (.cons read_key (.cons read_value .nil)) (List.cons_ne_nil _ _)
  have joined : join ", " [key, value] = key ++ ", " ++ value := by simp [join]
  rw [joined, ← String.append_assoc, ← String.append_assoc] at applied
  exact applied

end TypeExpr
end Scaffold
