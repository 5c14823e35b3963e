/-
Texts that the reader cannot get past. Behind a sign that goes on neither a type nor the arguments around
it, a reading that succeeds stops in front of the sign, whatever follows and with any fuel (`Stuck`). Such a
text is no type expression, and neither is one that has it among its arguments.
-/
import Scaffold.Proofs.TypeExpr.Reading

namespace Scaffold
namespace TypeExpr

open Text

variable {c : Char} {cs rest rest' : List Char} {t t' : TypeExpr} {ts ts' : List TypeExpr} {fuel fuel' : Nat}
variable {name text : String} {texts : List String}

/-! ## Fuel -/

theorem Stops.nil : Stops [] :=
  nofun

theorem readType_mono (h : readType fuel cs = .ok (t, rest)) (more : fuel ≤ fuel') :
    readType fuel' cs = .ok (t, rest) := by
  have unmarked := unmarked_of_readType h
  have read := (read_append Stops.nil fuel).1 _ _ _ _ h more
  rw [List.append_nil, List.append_nil] at read
  rw [read, marks_of_unmarked (unmarked.dropBlank.symm ▸ unmarked), unmarked.dropBlank]

theorem readArgs_mono (h : readArgs fuel cs = .ok (ts, rest)) (some : rest ≠ []) (more : fuel ≤ fuel') :
    readArgs fuel' cs = .ok (ts, rest) := by
  have read := (read_append Stops.nil fuel).2 _ _ _ _ h some more
  rwa [List.append_nil, List.append_nil] at read

/-- What is read does not depend on the fuel, once there is enough. -/
theorem readType_unique (h : readType fuel cs = .ok (t, rest)) (h' : readType fuel' cs = .ok (t', rest')) :
    t = t' ∧ rest = rest' := by
  have settled := readType_mono h (Nat.le_max_left fuel fuel')
  rw [readType_mono h' (Nat.le_max_right fuel fuel')] at settled
  cases settled
  exact ⟨rfl, rfl⟩

theorem readArgs_unique (h : readArgs fuel cs = .ok (ts, rest)) (some : rest ≠ [])
    (h' : readArgs fuel' cs = .ok (ts', rest')) (some' : rest' ≠ []) : ts = ts' ∧ rest = rest' := by
  have settled := readArgs_mono h some (Nat.le_max_left fuel fuel')
  rw [readArgs_mono h' some' (Nat.le_max_right fuel fuel')] at settled
  cases settled
  exact ⟨rfl, rfl⟩

/-! ## Signs -/

/-- The rest starts with a sign that goes on neither a type nor the arguments around it. -/
def Halted (cs : List Char) : Prop :=
  ∃ c ds, cs = c :: ds ∧ isBlank c = false ∧ c ≠ ',' ∧ c ≠ '>'

theorem Halted.eat_comma (h : Halted cs) : eat ',' cs = (false, cs) := by
  obtain ⟨c, ds, rfl, visible, other, -⟩ := h
  rw [eat_cons visible, if_neg other]

theorem Halted.expect_ne_ok (h : Halted cs) : expect '>' cs ≠ .ok rest := by
  obtain ⟨c, ds, rfl, visible, -, other⟩ := h
  intro close
  rw [expect_eq_ok_iff, dropBlank_cons visible] at close
  exact other (List.cons.inj close).1

/-- However the text goes on, the reading of a type from its start ends before such a sign or fails. -/
def Stuck (cs : List Char) : Prop :=
  ∀ more fuel t rest, readType fuel (cs ++ more) = .ok (t, rest) → Halted rest

namespace Stuck

theorem append (h : Stuck cs) (ds : List Char) : Stuck (cs ++ ds) := by
  intro more fuel t rest read
  rw [List.append_assoc] at read
  exact h (ds ++ more) fuel t rest read

theorem parse_ne_ok (h : Stuck text.toList) (t : TypeExpr) : parse text ≠ .ok t := by
  intro read
  rw [parse_eq_ok_iff] at read
  obtain ⟨c, ds, some, -⟩ := h [] _ t [] (by rwa [List.append_nil])
  cases some

end Stuck

/-- What is no blank and has no meaning to the reader but as a part of a name, if it can be one. -/
def isPathSign (c : Char) : Bool :=
  !isBlank c && !"<>,?[&\x60".toList.contains c

theorem isBlank_of_isPathSign (sign : isPathSign c = true) : isBlank c = false := by
  simp only [isPathSign, Bool.and_eq_true, Bool.not_eq_true'] at sign
  exact sign.1

theorem ne_of_isPathSign {d : Char} (sign : isPathSign c = true) (mark : isPathSign d = false) : c ≠ d := by
  rintro rfl
  rw [sign] at mark
  cases mark

theorem marks_of_isPathSign (sign : isPathSign c = true) (cs : List Char) :
    marks t (c :: cs) = .ok (t, c :: cs) := by
  have unmarked : Unmarked (c :: cs) := by
    rintro d ds ⟨⟩
    exact ⟨isBlank_of_isPathSign sign, ne_of_isPathSign sign (by decide), ne_of_isPathSign sign (by decide)⟩
  have visible := unmarked.dropBlank
  rw [marks_of_unmarked (visible.symm ▸ unmarked), visible]

theorem halted_of_isPathSign (sign : isPathSign c = true) (cs : List Char) : Halted (c :: cs) :=
  ⟨c, cs, rfl, isBlank_of_isPathSign sign, ne_of_isPathSign sign (by decide),
    ne_of_isPathSign sign (by decide)⟩

/-- A name ends before a sign that no name has, and nothing goes on there. -/
theorem stuck_of_isPathSign (signs : ∀ c ∈ cs, isPathSign c = true)
    (outside : ∃ c ∈ cs, isNameChar c = false) : Stuck cs := by
  intro more fuel t rest h
  obtain ⟨d, ds, stop⟩ : ∃ d ds, cs.dropWhile isNameChar = d :: ds := by
    refine List.exists_cons_of_ne_nil fun all => ?_
    obtain ⟨c, mem, other⟩ := outside
    rw [List.dropWhile_eq_nil_iff.mp all c mem] at other
    cases other
  have mem : d ∈ cs := (List.dropWhile_suffix isNameChar).subset (stop ▸ List.mem_cons_self)
  have stop_sign := signs d mem
  obtain ⟨c, cs, rfl⟩ := List.exists_cons_of_ne_nil (List.ne_nil_of_mem mem)
  have sign := signs c List.mem_cons_self
  have visible := isBlank_of_isPathSign sign
  have no_borrow : skipBorrow (c :: cs ++ more) = c :: cs ++ more := by
    rw [List.cons_append, skipBorrow, eat_cons visible, if_neg (ne_of_isPathSign sign (by decide))]
  have no_bracket : eat '[' (c :: cs ++ more) = (false, c :: cs ++ more) := by
    rw [List.cons_append, eat_cons visible, if_neg (ne_of_isPathSign sign (by decide))]
  have taken : takeName (c :: cs ++ more) = ((c :: cs).takeWhile isNameChar, d :: ds ++ more) := by
    have short : ((c :: cs).takeWhile isNameChar).length ≠ (c :: cs).length := by
      have both := congrArg List.length (List.takeWhile_append_dropWhile (p := isNameChar) (l := c :: cs))
      rw [List.length_append, stop, List.length_cons] at both
      omega
    have first : dropBlank (c :: cs ++ more) = c :: cs ++ more := dropBlank_cons visible
    rw [takeName, first, List.takeWhile_append, if_neg short, List.dropWhile_append, stop]
    rfl
  cases fuel with
  | zero => cases h
  | succ fuel =>
    rw [readType_succ, readFront, no_borrow, no_bracket] at h
    simp only [taken] at h
    cases first : (c :: cs).takeWhile isNameChar with
    | nil =>
      rw [first] at h
      cases h
    | cons e es =>
      rw [first] at h
      simp only [List.cons_append, eat_cons (isBlank_of_isPathSign stop_sign),
        if_neg (ne_of_isPathSign stop_sign (by decide : isPathSign '<' = false))] at h
      obtain ⟨⟨front, left⟩, named, marked⟩ := eq_ok_of_bind h
      cases named
      rw [marks_of_isPathSign stop_sign] at marked
      cases marked
      exact halted_of_isPathSign stop_sign _

/-! ## Arguments -/

theorem toList_join_cons (text : String) (others : List String) :
    ∃ later, (join ", " (text :: others)).toList = text.toList ++ later := by
  cases others with
  | nil => exact ⟨[], by simp [join]⟩
  | cons next others => exact ⟨_, toList_join_cons_cons text next others⟩

/-- No reading of the texts as arguments comes to the bracket that closes them. -/
structure ArgsStuck (texts : List String) : Prop where
  some : texts ≠ []
  halted : ∀ more fuel ts rest,
    readArgs fuel ((join ", " texts).toList ++ '>' :: more) = .ok (ts, rest) → Halted rest

theorem ArgsStuck.head (stuck : Stuck text.toList) (others : List String) : ArgsStuck (text :: others) := by
  refine ⟨List.cons_ne_nil _ _, fun more fuel ts rest h => ?_⟩
  obtain ⟨later, split⟩ := toList_join_cons text others
  rw [split, List.append_assoc] at h
  cases fuel with
  | zero => cases h
  | succ fuel =>
    rw [readArgs] at h
    obtain ⟨⟨arg, left⟩, read, h⟩ := eq_ok_of_bind h
    have halted := stuck _ _ _ _ read
    simp only [halted.eat_comma] at h
    cases h
    exact halted

theorem ArgsStuck.tail (first : parse text = .ok t) (stuck : ArgsStuck texts) :
    ArgsStuck (text :: texts) := by
  refine ⟨List.cons_ne_nil _ _, fun more fuel ts rest h => ?_⟩
  obtain ⟨next, others, rfl⟩ := List.exists_cons_of_ne_nil stuck.some
  rw [toList_join_cons_cons, List.append_assoc, List.cons_append, List.cons_append] at h
  cases fuel with
  | zero => cases h
  | succ fuel =>
    rw [readArgs] at h
    obtain ⟨⟨arg, left⟩, read, h⟩ := eq_ok_of_bind h
    have whole := readType_append first
      (.cons (by decide : isStop ',' = true) (' ' :: ((join ", " (next :: others)).toList ++ '>' :: more)))
      (Nat.le_refl _)
    rw [marks_of_stop (by decide) (by decide) (by decide)] at whole
    obtain ⟨-, rfl⟩ := readType_unique whole read
    simp only [eat_cons (by decide : isBlank ',' = false), if_true] at h
    obtain ⟨⟨args, rest'⟩, later, h⟩ := eq_ok_of_bind h
    cases h
    -- Less fuel would not be enough to read an argument.
    obtain _ | _ | fuel := fuel
    · cases later
    · cases later
    · rw [readArgs_space] at later
      exact stuck.halted more _ _ _ later

/-- Arguments that can be read are, up to the bracket that closes them. -/
theorem readArgs_join_unique (each : List.Forall₂ (fun text t => parse text = .ok t) texts ts)
    (some : texts ≠ []) {more : List Char}
    (h : readArgs fuel ((join ", " texts).toList ++ '>' :: more) = .ok (ts', rest)) (left : rest ≠ []) :
    rest = '>' :: more :=
  (readArgs_unique h left (readArgs_join each some more (Nat.le_refl _)) (List.cons_ne_nil _ _)).2

/-- What a name with arguments is read from, and what is left behind the closing bracket. -/
theorem args_of_readType (written : WrittenName name) {more : List Char}
    (h : readType fuel (name.toList ++ '<' :: more) = .ok (t, rest)) :
    ∃ fuel' args left after front, readArgs fuel' more = .ok (args, left) ∧ expect '>' left = .ok after ∧
      marks front after = .ok (t, rest) := by
  cases fuel with
  | zero => cases h
  | succ fuel =>
    have ends : ∀ c cs, '<' :: more = c :: cs → isNameChar c = false := by
      rintro c cs ⟨⟩
      decide
    rw [readType_succ, readFront_name written ends, eat_cons (by decide : isBlank '<' = false),
      if_pos rfl] at h
    obtain ⟨⟨front, after⟩, named, marked⟩ := eq_ok_of_bind h
    obtain ⟨⟨args, left⟩, read, named⟩ := eq_ok_of_bind named
    obtain ⟨after', close, named⟩ := eq_ok_of_bind named
    cases named
    exact ⟨fuel, args, left, after, _, read, close, marked⟩

/-- A name with such arguments cannot be got past. -/
theorem stuck_of_argsStuck (written : WrittenName name) (args : ArgsStuck texts) :
    Stuck (name ++ "<" ++ join ", " texts ++ ">").toList := by
  intro more fuel t rest h
  have chars : (name ++ "<" ++ join ", " texts ++ ">").toList ++ more =
      name.toList ++ '<' :: ((join ", " texts).toList ++ '>' :: more) := by simp
  rw [chars] at h
  obtain ⟨fuel', ts, left, after, front, read, close, -⟩ := args_of_readType written h
  exact absurd close (args.halted _ _ _ _ read).expect_ne_ok

/-- Behind the arguments of a name, no path goes on. -/
theorem stuck_behind_args (written : WrittenName name)
    (each : List.Forall₂ (fun text t => parse text = .ok t) texts ts) (some : texts ≠ []) (later : String) :
    Stuck (name ++ "<" ++ join ", " texts ++ ">" ++ "::" ++ later).toList := by
  intro more fuel t rest h
  have chars : (name ++ "<" ++ join ", " texts ++ ">" ++ "::" ++ later).toList ++ more =
      name.toList ++ '<' :: ((join ", " texts).toList ++ '>' :: ':' :: ':' :: (later.toList ++ more)) := by
    simp
  rw [chars] at h
  obtain ⟨fuel', ts', left, after, front, read, close, marked⟩ := args_of_readType written h
  have rest_args := readArgs_join_unique each some read (ne_nil_of_expect close)
  rw [rest_args, expect_cons (by decide)] at close
  cases close
  rw [marks_of_isPathSign (by decide)] at marked
  cases marked
  exact halted_of_isPathSign (by decide) _

/-! ## Texts that are read under a condition -/

/-- The text is read as the type under the condition, and cannot be got past otherwise. -/
structure ReadsIf (text : String) (t : TypeExpr) (readable : Prop) : Prop where
  read : readable → parse text = .ok t
  stuck : ¬readable → Stuck text.toList

/-- The same of texts that are arguments. -/
structure ArgsReadIf (texts : List String) (ts : List TypeExpr) (readable : Prop) : Prop where
  read : readable → List.Forall₂ (fun text t => parse text = .ok t) texts ts
  stuck : ¬readable → ArgsStuck texts

variable {p q : Prop}

namespace ReadsIf

theorem parse_eq_ok_iff (h : ReadsIf text t p) : parse text = .ok t' ↔ p ∧ t' = t := by
  by_cases readable : p
  · rw [h.read readable]
    simp [readable, eq_comm]
  · exact iff_of_false ((h.stuck readable).parse_ne_ok t') fun both => readable both.1

theorem congr (h : ReadsIf text t p) (same : p ↔ q) (type : p → t = t') : ReadsIf text t' q := by
  refine ⟨fun readable => ?_, fun other => h.stuck (mt same.mp other)⟩
  rw [← type (same.mpr readable)]
  exact h.read (same.mpr readable)

theorem array (h : ReadsIf text t p) : ReadsIf (text ++ "[]") (list t) p := by
  refine ⟨fun readable => parse_array (h.read readable), fun other => ?_⟩
  rw [String.toList_append]
  exact (h.stuck other).append _

theorem alone (some : name ≠ "") (signs : ∀ c ∈ name.toList, isPathSign c = true) :
    ReadsIf name (apply (shortName name) []) (∀ c ∈ name.toList, isNameChar c = true) := by
  refine ⟨fun inside => parse_name ⟨some, inside⟩, fun other => stuck_of_isPathSign signs ?_⟩
  simpa using other

end ReadsIf

namespace ArgsReadIf

theorem nil : ArgsReadIf [] [] True :=
  ⟨fun _ => .nil, fun other => absurd trivial other⟩

theorem cons (first : ReadsIf text t p) (others : ArgsReadIf texts ts q) :
    ArgsReadIf (text :: texts) (t :: ts) (p ∧ q) := by
  refine ⟨fun readable => .cons (first.read readable.1) (others.read readable.2), fun other => ?_⟩
  by_cases readable : p
  · exact (others.stuck fun later => other ⟨readable, later⟩).tail (first.read readable)
  · exact .head (first.stuck readable) texts

theorem congr (h : ArgsReadIf texts ts p) (same : p ↔ q) : ArgsReadIf texts ts q :=
  ⟨fun readable => h.read (same.mpr readable), fun other => h.stuck (mt same.mp other)⟩

end ArgsReadIf

section applied

variable (some : name ≠ "") (signs : ∀ c ∈ name.toList, isPathSign c = true) (args : ArgsReadIf texts ts p)

include some signs args

theorem ReadsIf.applied (given : texts ≠ []) :
    ReadsIf (name ++ "<" ++ join ", " texts ++ ">") (apply (shortName name) ts)
      ((∀ c ∈ name.toList, isNameChar c = true) ∧ p) := by
  refine ⟨fun ⟨inside, readable⟩ => parse_applied ⟨some, inside⟩ (args.read readable) given, fun other => ?_⟩
  by_cases inside : ∀ c ∈ name.toList, isNameChar c = true
  · exact stuck_of_argsStuck ⟨some, inside⟩ (args.stuck fun readable => other ⟨inside, readable⟩)
  · simp only [String.toList_append, List.append_assoc]
    exact ((ReadsIf.alone some signs).stuck inside).append _

/-- Nothing can follow the arguments of a name, whether those can be read or not. -/
theorem Stuck.behind_args (given : texts ≠ []) (later : String) :
    Stuck (name ++ "<" ++ join ", " texts ++ ">" ++ "::" ++ later).toList := by
  by_cases readable : (∀ c ∈ name.toList, isNameChar c = true) ∧ p
  · exact stuck_behind_args ⟨some, readable.1⟩ (args.read readable.2) given later
  · rw [String.append_assoc, String.toList_append]
    exact ((ReadsIf.applied some signs args given).stuck readable).append _

end applied

end TypeExpr
end Scaffold
