/-
Steps of the reader: blanks, single characters, names, borrows and lengths. Each of them does the same in
a longer text, as long as what follows is a mark, a comma or a closing bracket (`Stops`).
-/
import Scaffold.Proofs.Text.Basic
import Scaffold.Proofs.TypeExpr.Canonical

namespace Scaffold
namespace TypeExpr

open Text

/-! ## Blanks and single characters -/

theorem dropBlank_cons {c : Char} {cs : List Char} (visible : isBlank c = false) :
    dropBlank (c :: cs) = c :: cs := by
  simp [dropBlank, visible]

theorem dropBlank_space (cs : List Char) : dropBlank (' ' :: cs) = dropBlank cs := by
  have blank : isBlank ' ' = true := by decide
  simp [dropBlank, blank]

theorem dropBlank_dropBlank (cs : List Char) : dropBlank (dropBlank cs) = dropBlank cs := by
  refine List.dropWhile_eq_self_iff.mpr fun some => ?_
  exact List.dropWhile_get_zero_not isBlank cs some

theorem length_dropBlank_le (cs : List Char) : (dropBlank cs).length ≤ cs.length :=
  (List.dropWhile_suffix _).length_le

theorem eat_cons {c d : Char} {cs : List Char} (visible : isBlank d = false) :
    eat c (d :: cs) = if d = c then (true, cs) else (false, d :: cs) := by
  rw [eat, dropBlank_cons visible]

theorem eat_space (c : Char) (cs : List Char) : eat c (' ' :: cs) = eat c cs := by
  rw [eat, eat, dropBlank_space]

theorem expect_cons {c : Char} (visible : isBlank c = false) (cs : List Char) :
    expect c (c :: cs) = .ok cs := by
  rw [expect, eat_cons visible, if_pos rfl]

variable {c : Char} {cs rest : List Char}

theorem eat_eq_true_iff : eat c cs = (true, rest) ↔ dropBlank cs = c :: rest := by
  unfold eat
  cases dropBlank cs with
  | nil => simp
  | cons d ds =>
    by_cases same : d = c
    · simp [same]
    · simp [same]

theorem eat_eq_false_iff :
    eat c cs = (false, rest) ↔ dropBlank cs = rest ∧ ∀ ds, rest ≠ c :: ds := by
  unfold eat
  cases dropBlank cs with
  | nil =>
    constructor
    · rintro ⟨⟩
      exact ⟨rfl, fun _ => nofun⟩
    · rintro ⟨rfl, -⟩
      rfl
  | cons d ds =>
    by_cases same : d = c
    · subst same
      simp only [if_true]
      constructor
      · nofun
      · rintro ⟨rfl, other⟩
        exact absurd rfl (other ds)
    · simp only [if_neg same]
      constructor
      · rintro ⟨⟩
        refine ⟨rfl, fun _ h => same ?_⟩
        exact (List.cons.inj h).1
      · rintro ⟨rfl, -⟩
        rfl

theorem expect_eq_ok_iff : expect c cs = .ok rest ↔ dropBlank cs = c :: rest := by
  rw [← eat_eq_true_iff, expect]
  cases eat c cs with
  | mk found left => cases found <;> simp

theorem ne_nil_of_expect (h : expect c cs = .ok rest) : cs ≠ [] := by
  rintro rfl
  cases h

theorem isBlank_of_dropBlank (h : dropBlank cs = c :: rest) : isBlank c = false := by
  have again := dropBlank_dropBlank cs
  rw [h] at again
  by_contra blank
  rw [dropBlank, List.dropWhile_cons, if_pos (Bool.of_not_eq_false blank)] at again
  have shorter := length_dropBlank_le rest
  rw [dropBlank, again, List.length_cons] at shorter
  omega

theorem length_lt_of_dropBlank (h : dropBlank cs = c :: rest) : rest.length < cs.length := by
  have shorter := length_dropBlank_le cs
  rw [h, List.length_cons] at shorter
  omega

/-! ## Names -/

theorem isNameChar_of_isPlainChar (plain : isPlainChar c = true) : isNameChar c = true := by
  simp only [isPlainChar, Bool.or_eq_true] at plain
  simp only [isNameChar, Bool.or_eq_true]
  tauto

theorem isBlank_of_isNameChar (inside : isNameChar c = true) : isBlank c = false := by
  by_contra blank
  have letter := isAlphanumeric_eq_false_of_isBlank (Bool.of_not_eq_false blank)
  simp only [isNameChar, letter, Bool.false_or, Bool.or_eq_true, beq_iff_eq] at inside
  rcases inside with ((rfl | rfl) | rfl) | rfl <;> exact blank (by decide)

theorem ne_of_isNameChar {d : Char} (inside : isNameChar c = true) (other : isNameChar d = false) :
    c ≠ d := by
  rintro rfl
  rw [inside] at other
  cases other

/-- A name as it is read: with its qualifiers and its arity mark. -/
structure WrittenName (name : String) : Prop where
  visible : name ≠ ""
  inside : ∀ c ∈ name.toList, isNameChar c = true

instance (name : String) : Decidable (WrittenName name) :=
  decidable_of_iff (name ≠ "" ∧ name.toList.all isNameChar = true)
    ⟨fun h => ⟨h.1, List.all_eq_true.mp h.2⟩, fun h => ⟨h.visible, List.all_eq_true.mpr h.inside⟩⟩

variable {name : String}

theorem PlainName.written (h : PlainName name) : WrittenName name :=
  ⟨h.1, fun c mem => isNameChar_of_isPlainChar (h.2 c mem)⟩

theorem PlainName.ne (h : PlainName name) {c d : Char} (mem : c ∈ name.toList)
    (other : isPlainChar d = false) : c ≠ d := by
  rintro rfl
  rw [h.2 c mem] at other
  cases other

/-- A plain name has neither qualifiers nor an arity mark. -/
theorem PlainName.shortName (h : PlainName name) : shortName name = name := by
  have front : beforeFirst (· == arityMark) name.toList = name.toList :=
    List.takeWhile_eq_self_iff.mpr fun c mem => by simpa using h.ne mem (by decide)
  have back : afterLast (fun c => c == '.' || c == ':') name.toList = name.toList := by
    rw [afterLast, List.takeWhile_eq_self_iff.mpr, List.reverse_reverse]
    intro c mem
    have mem := List.mem_reverse.mp mem
    simpa using ⟨h.ne mem (by decide), h.ne mem (by decide)⟩
  rw [TypeExpr.shortName, shortNameChars, front, back, String.ofList_toList]

/-- A qualified name is short for its last name. -/
theorem PlainName.shortName_qualified (h : PlainName name) {qualifier : String}
    (unmarked : ∀ c ∈ qualifier.toList, c ≠ arityMark) :
    TypeExpr.shortName (qualifier ++ ":" ++ name) = name := by
  have chars : (qualifier ++ ":" ++ name).toList = qualifier.toList ++ ':' :: name.toList := by simp
  have front : beforeFirst (· == arityMark) (qualifier.toList ++ ':' :: name.toList) =
      qualifier.toList ++ ':' :: name.toList := by
    rw [beforeFirst, List.takeWhile_eq_self_iff, List.forall_mem_append, List.forall_mem_cons]
    refine ⟨?_, by decide, ?_⟩
    · exact fun c mem => by simpa using unmarked c mem
    · exact fun c mem => by simpa using h.ne mem (by decide)
  have back : afterLast (fun c => c == '.' || c == ':') (qualifier.toList ++ ':' :: name.toList) =
      name.toList :=
    afterLast_append_cons rfl (fun c mem => by simpa using ⟨h.ne mem (by decide), h.ne mem (by decide)⟩) _
  rw [TypeExpr.shortName, shortNameChars, chars, front, back, String.ofList_toList]

namespace WrittenName

variable (h : WrittenName name)

include h

theorem toList_eq_cons : ∃ c cs, name.toList = c :: cs ∧ isNameChar c = true := by
  cases chars : name.toList with
  | nil => exact absurd (String.toList_eq_nil_iff.mp chars) h.visible
  | cons c cs => exact ⟨c, cs, rfl, h.inside c (chars ▸ List.mem_cons_self)⟩

/-- A name ends before anything that no name has. -/
theorem takeName_append {rest : List Char}
    (stops : ∀ c cs, rest = c :: cs → isNameChar c = false) :
    takeName (name.toList ++ rest) = (name.toList, rest) := by
  obtain ⟨c, cs, chars, first⟩ := h.toList_eq_cons
  have visible : dropBlank (name.toList ++ rest) = name.toList ++ rest := by
    rw [chars, List.cons_append, dropBlank_cons (isBlank_of_isNameChar first)]
  rw [takeName, visible, List.takeWhile_append_of_pos h.inside, List.dropWhile_append_of_pos h.inside]
  cases rest with
  | nil => simp
  | cons d ds => simp [stops d ds rfl]

theorem skipBorrow_append (rest : List Char) :
    skipBorrow (name.toList ++ rest) = name.toList ++ rest := by
  obtain ⟨c, cs, chars, first⟩ := h.toList_eq_cons
  rw [chars, List.cons_append, skipBorrow, eat_cons (isBlank_of_isNameChar first),
    if_neg (ne_of_isNameChar first (by decide))]

theorem eat_append {c : Char} (other : isNameChar c = false) (rest : List Char) :
    eat c (name.toList ++ rest) = (false, name.toList ++ rest) := by
  obtain ⟨d, ds, chars, first⟩ := h.toList_eq_cons
  rw [chars, List.cons_append, eat_cons (isBlank_of_isNameChar first),
    if_neg (ne_of_isNameChar first other)]

end WrittenName

/-! ## Steps of the reader in a longer text -/

/-- A mark, a comma or a closing bracket: what can stand right behind a type. None of them goes on
with anything but marks. -/
def isStop (c : Char) : Bool :=
  c == '?' || c == '[' || c == ']' || c == '>' || c == ','

/-- The text is empty or starts with a stop. -/
def Stops (more : List Char) : Prop :=
  ∀ c cs, more = c :: cs → isStop c = true

theorem Stops.cons {c : Char} (stop : isStop c = true) (cs : List Char) : Stops (c :: cs) := by
  rintro d ds ⟨⟩
  exact stop

theorem all_of_isStop {p : Char → Bool} (each : ['?', '[', ']', '>', ','].all p = true) {c : Char}
    (stop : isStop c = true) : p c = true := by
  refine List.all_eq_true.mp each c ?_
  simp only [isStop, Bool.or_eq_true, beq_iff_eq] at stop
  simp only [List.mem_cons, List.not_mem_nil, or_false]
  tauto

theorem isBlank_of_isStop {c : Char} (stop : isStop c = true) : isBlank c = false := by
  have visible := all_of_isStop (p := (!isBlank ·)) (by decide) stop
  simpa using visible

theorem isNameChar_of_isStop {c : Char} (stop : isStop c = true) : isNameChar c = false := by
  have outside := all_of_isStop (p := (!isNameChar ·)) (by decide) stop
  simpa using outside

theorem Stops.not_name {more : List Char} (stops : Stops more) :
    ∀ c cs, more = c :: cs → isNameChar c = false :=
  fun c cs same => isNameChar_of_isStop (stops c cs same)

section append

variable {more : List Char} (stops : Stops more)

include stops

theorem Stops.dropBlank : dropBlank more = more := by
  cases more with
  | nil => rfl
  | cons d ds => exact dropBlank_cons (isBlank_of_isStop (stops d ds rfl))

theorem dropBlank_append (cs : List Char) : dropBlank (cs ++ more) = dropBlank cs ++ more := by
  have none_left := stops.dropBlank
  unfold Text.dropBlank at none_left ⊢
  rw [List.dropWhile_append]
  split
  · next empty => rw [none_left, List.isEmpty_iff.mp empty, List.nil_append]
  · rfl

theorem eat_append_true (h : eat c cs = (true, rest)) : eat c (cs ++ more) = (true, rest ++ more) := by
  rw [eat_eq_true_iff] at h ⊢
  rw [dropBlank_append stops, h, List.cons_append]

/-- A character that is not next is not next in the longer text either, if there are others in front
of the rest or the rest cannot start with it. -/
theorem eat_append_false (h : eat c cs = (false, rest)) (other : rest ≠ [] ∨ isStop c = false) :
    eat c (cs ++ more) = (false, rest ++ more) := by
  rw [eat_eq_false_iff] at h ⊢
  obtain ⟨rfl, differs⟩ := h
  refine ⟨dropBlank_append stops cs, fun ds same => ?_⟩
  cases visible : Text.dropBlank cs with
  | nil =>
    rw [visible, List.nil_append] at same
    have stop := stops c ds same
    rcases other with some | no_stop
    · exact some visible
    · rw [no_stop] at stop
      cases stop
  | cons d front =>
    rw [visible, List.cons_append] at same
    obtain ⟨rfl, -⟩ := List.cons.inj same
    exact differs front visible

theorem expect_append (h : expect c cs = .ok rest) : expect c (cs ++ more) = .ok (rest ++ more) := by
  rw [expect_eq_ok_iff] at h ⊢
  rw [dropBlank_append stops, h, List.cons_append]

theorem takeName_append (cs : List Char) :
    takeName (cs ++ more) = ((takeName cs).1, (takeName cs).2 ++ more) := by
  have taken : more.takeWhile isNameChar = [] := by
    cases more with
    | nil => rfl
    | cons d ds => simp [stops.not_name d ds rfl]
  have left : more.dropWhile isNameChar = more := by
    cases more with
    | nil => rfl
    | cons d ds => simp [stops.not_name d ds rfl]
  simp only [takeName, dropBlank_append stops, List.takeWhile_append, List.dropWhile_append, taken,
    left, List.append_nil, Prod.mk.injEq]
  constructor
  · split
    · next all => exact (List.takeWhile_prefix _).eq_of_length all |>.symm
    · rfl
  · split
    · next none => rw [List.isEmpty_iff.mp none, List.nil_append]
    · rfl

/-- A word without stops cannot go on into what follows. -/
theorem isPrefix_of_isPrefix_append {word : List Char} (inside : word.all (!isStop ·) = true)
    (h : word <+: cs ++ more) : word <+: cs := by
  induction word generalizing cs with
  | nil => exact List.nil_prefix
  | cons c word ih =>
    rw [List.all_cons, Bool.and_eq_true] at inside
    obtain ⟨first, others⟩ := inside
    cases cs with
    | nil =>
      obtain ⟨ds, same⟩ := h
      have stop := stops c (word ++ ds) same.symm
      rw [stop] at first
      cases first
    | cons d ds =>
      rw [List.cons_append, List.cons_prefix_cons] at h
      exact List.cons_prefix_cons.mpr ⟨h.1, ih others h.2⟩

theorem skipBorrow_append (cs : List Char) : skipBorrow (cs ++ more) = skipBorrow cs ++ more := by
  have longer {ds : List Char} (front : ¬['m', 'u', 't', ' '] <+: ds) :
      ¬['m', 'u', 't', ' '] <+: ds ++ more :=
    fun h => front (isPrefix_of_isPrefix_append stops (by decide) h)
  unfold skipBorrow
  cases borrow : eat '&' cs with
  | mk found rest =>
    cases found with
    | false => rw [eat_append_false stops borrow (.inr rfl)]
    | true =>
      rw [eat_append_true stops borrow]
      cases quote : eat '\x27' rest with
      | mk found rest =>
        cases found
        case' false =>
          simp only [quote, eat_append_false stops quote (.inr rfl), dropBlank_append stops]
        case' true =>
          simp only [quote, eat_append_true stops quote, takeName_append stops, dropBlank_append stops]
        -- Either way the word is looked for at the start of one text.
        all_goals
          generalize Text.dropBlank _ = ds
          by_cases front : ['m', 'u', 't', ' '] <+: ds
          · obtain ⟨rest, rfl⟩ := front
            rfl
          · split
            · next rest same => exact absurd ⟨rest, same.symm⟩ (longer front)
            · split
              · next rest _ => exact absurd ⟨rest, rfl⟩ front
              · rfl

theorem skipLength_append (h : expect ']' (skipLength cs) = .ok rest) :
    expect ']' (skipLength (cs ++ more)) = .ok (rest ++ more) := by
  unfold skipLength at h ⊢
  cases semicolon : eat ';' cs with
  | mk found left =>
    rw [semicolon] at h
    cases found with
    | false =>
      rw [eat_append_false stops semicolon (.inr rfl)]
      exact expect_append stops h
    | true =>
      rw [eat_append_true stops semicolon]
      simp only at h ⊢
      rw [List.dropWhile_append, if_neg]
      · exact expect_append stops h
      · intro empty
        rw [List.isEmpty_iff.mp empty] at h
        cases h

theorem skipCommas_append (h : expect ']' (skipCommas cs) = .ok rest) :
    expect ']' (skipCommas (cs ++ more)) = .ok (rest ++ more) := by
  unfold skipCommas at h ⊢
  rw [List.dropWhile_append, if_neg]
  · exact expect_append stops h
  · intro empty
    rw [List.isEmpty_iff.mp empty] at h
    cases h

end append

end TypeExpr
end Scaffold
