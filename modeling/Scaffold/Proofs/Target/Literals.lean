/-
Literals of texts in JavaScript and C#, as the languages read them: `Quotation.value?`. A text that is
written with a backslash in front of its quotes is read back exactly if it has neither a backslash nor the
end of a line (`Quotation.Lawful.denotes_written_iff`).
-/
import Scaffold.Text.Natural
import Scaffold.Text.Split

namespace Scaffold

/-! ## Code units -/

/-- The code units of a character code in UTF-16. -/
def codeUnits (code : Nat) : List Nat :=
  if code < 0x10000 then [code]
  else [0xd800 + (code - 0x10000) / 0x400, 0xdc00 + (code - 0x10000) % 0x400]

/-- The code units of a character. -/
def charUnits (c : Char) : List Nat :=
  codeUnits c.toNat

/-- A text as the languages hold it. -/
def textUnits (s : String) : List Nat :=
  s.toList.flatMap charUnits

def totalUnits (cs : List Char) : Nat :=
  (cs.flatMap charUnits).length

/-! ## Literals -/

/-- How a language writes texts in one line: in quotes, with escapes that start with a backslash. -/
structure Quotation where
  quote : Char
  endsLine : Char → Bool
  /-- The code units that characters behind a backslash stand for, and how many characters these are. -/
  escape? : List Char → Option (List Nat × Nat)

namespace Quotation

variable (q : Quotation)

/-- The code units of a literal that goes on with the given characters, up to the quote that ends it and
is the last of them. -/
def content? : List Char → Option (List Nat)
  | [] => none
  | c :: rest =>
    if c = q.quote then if rest = [] then some [] else none
    else if c = '\\' then
      match q.escape? rest with
      | some (units, n) => (content? (rest.drop n)).map (units ++ ·)
      | none => none
    else if q.endsLine c then none
    else (content? rest).map (charUnits c ++ ·)
termination_by cs => cs.length

/-- The code units that a text stands for if it is a literal. -/
def value? (text : String) : Option (List Nat) :=
  match text.toList with
  | [] => none
  | c :: rest => if c = q.quote then q.content? rest else none

/-- A text is a literal, and stands for `v`. -/
def Denotes (text v : String) : Prop :=
  q.value? text = some (textUnits v)

/-- The characters of a text with a backslash in front of its quotes. -/
def inside (cs : List Char) : List Char :=
  Text.replaceChar q.quote ['\\', q.quote] cs

/-- A text in quotes. -/
def written (v : String) : String :=
  String.ofList (q.quote :: (q.inside v.toList ++ [q.quote]))

/-- What cannot stand for itself: a backslash, and the end of a line. -/
def isUnclean (c : Char) : Bool :=
  c == '\\' || q.endsLine c

/-- A character that is a quote or unclean counts one. -/
def marks (c : Char) : Nat :=
  (if q.isUnclean c then 1 else 0) + (if c = q.quote then 1 else 0)

def totalMarks : List Char → Nat
  | [] => 0
  | c :: rest => q.marks c + totalMarks rest

/-- No escape is short for a longer text: it stands for half as many code units as it has characters, or
has one character, which stands for itself. -/
def Fits (cs : List Char) (units : List Nat) (n : Nat) : Prop :=
  n ≤ cs.length ∧ (2 * units.length ≤ n + 1 ∨ n = 1 ∧ units = (cs.take 1).flatMap charUnits)

/-- What literals with escaped quotes rely on. -/
structure Lawful : Prop where
  quote_single : (charUnits q.quote).length = 1
  quote_clean : q.isUnclean q.quote = false
  escape_quote : ∀ rest, q.escape? (q.quote :: rest) = some (charUnits q.quote, 1)
  escape_fits : ∀ {cs units n}, q.escape? cs = some (units, n) → Fits cs units n

end Quotation

/-! ## Counting -/

theorem length_charUnits_pos (c : Char) : 1 ≤ (charUnits c).length := by
  unfold charUnits codeUnits
  split <;> simp

@[simp] theorem totalUnits_nil : totalUnits [] = 0 := rfl

@[simp] theorem totalUnits_cons (c : Char) (cs : List Char) :
    totalUnits (c :: cs) = (charUnits c).length + totalUnits cs := by
  simp [totalUnits]

@[simp] theorem totalUnits_append (cs ds : List Char) :
    totalUnits (cs ++ ds) = totalUnits cs + totalUnits ds := by
  simp [totalUnits]

theorem length_textUnits (s : String) : (textUnits s).length = totalUnits s.toList := rfl

theorem length_le_totalUnits (cs : List Char) : cs.length ≤ totalUnits cs := by
  induction cs with
  | nil => exact Nat.le_refl 0
  | cons c rest ih =>
    have some := length_charUnits_pos c
    rw [List.length_cons, totalUnits_cons]
    omega

namespace Quotation

variable {q : Quotation}

@[simp] theorem totalMarks_nil : q.totalMarks [] = 0 := rfl

@[simp] theorem totalMarks_cons (c : Char) (cs : List Char) :
    q.totalMarks (c :: cs) = q.marks c + q.totalMarks cs := rfl

@[simp] theorem totalMarks_append (cs ds : List Char) :
    q.totalMarks (cs ++ ds) = q.totalMarks cs + q.totalMarks ds := by
  induction cs with
  | nil => simp
  | cons c rest ih => rw [List.cons_append, totalMarks_cons, totalMarks_cons, ih, Nat.add_assoc]

theorem marks_of_clean {c : Char} (clean : q.isUnclean c = false) (other : c ≠ q.quote) : q.marks c = 0 := by
  simp [marks, clean, other]

@[simp] theorem isUnclean_backslash (q : Quotation) : q.isUnclean '\\' = true := by
  simp [isUnclean]

namespace Lawful

variable (lawful : q.Lawful)
include lawful

theorem quote_ne : q.quote ≠ '\\' := by
  intro same
  have clean := lawful.quote_clean
  rw [same, isUnclean_backslash] at clean
  cases clean

theorem marks_backslash : q.marks '\\' = 1 := by
  simp [marks, lawful.quote_ne.symm]

theorem marks_quote : q.marks q.quote = 1 := by
  simp [marks, lawful.quote_clean]

theorem marks_le_one (c : Char) : q.marks c ≤ 1 := by
  by_cases same : c = q.quote
  · subst same
    exact Nat.le_of_eq lawful.marks_quote
  · rw [marks, if_neg same]
    split <;> simp

theorem totalMarks_le (cs : List Char) :
    q.totalMarks cs ≤ cs.length := by
  induction cs with
  | nil => exact Nat.le_refl 0
  | cons c rest ih =>
    have first := lawful.marks_le_one c
    rw [totalMarks_cons, List.length_cons]
    omega

/-- What is behind a backslash has room for what it stands for. -/
theorem escape_room {cs : List Char} {units : List Nat} {n : Nat} (escape : q.escape? cs = some (units, n)) :
    2 * units.length + q.totalMarks (cs.take n) ≤ 2 * totalUnits (cs.take n) + 1 := by
  obtain ⟨there, fits⟩ := lawful.escape_fits escape
  have marks := lawful.totalMarks_le (cs.take n)
  rw [List.length_take_of_le there] at marks
  rcases fits with few | ⟨rfl, itself⟩
  · have units := length_le_totalUnits (cs.take n)
    rw [List.length_take_of_le there] at units
    omega
  · have units : units.length = totalUnits (cs.take 1) := congrArg List.length itself
    omega

/-- Whatever a literal stands for, its code units and the marks inside are no more than there is room
for, counting twice what could stand for itself. -/
theorem content_room {cs : List Char} {units : List Nat} (read : q.content? cs = some units) :
    2 * units.length + q.totalMarks cs < 2 * totalUnits cs := by
  fun_induction content? q cs generalizing units with
  | case1 => cases read
  | case2 =>
    cases read
    have some := length_charUnits_pos q.quote
    simp only [List.length_nil, totalMarks_cons, totalMarks_nil, totalUnits_cons, totalUnits_nil, lawful.marks_quote]
    omega
  | case3 => cases read
  | case4 rest units' n escape _ ih =>
    obtain ⟨later, later_read, rfl⟩ := Option.map_eq_some_iff.mp read
    have here := lawful.escape_room escape
    have there := ih later_read
    have marks := totalMarks_append (q := q) (rest.take n) (rest.drop n)
    have units := totalUnits_append (rest.take n) (rest.drop n)
    rw [List.take_append_drop] at marks units
    have single : (charUnits '\\').length = 1 := rfl
    rw [List.length_append, totalMarks_cons, totalUnits_cons, lawful.marks_backslash]
    omega
  | case5 => cases read
  | case6 => cases read
  | case7 c rest other no_escape no_end ih =>
    obtain ⟨later, later_read, rfl⟩ := Option.map_eq_some_iff.mp read
    have there := ih later_read
    have clean : q.isUnclean c = false := by simp [isUnclean, no_escape, no_end]
    rw [List.length_append, totalMarks_cons, totalUnits_cons, marks_of_clean clean other]
    omega

end Lawful

/-! ## What is written -/

theorem inside_quote (q : Quotation) (cs : List Char) :
    q.inside (q.quote :: cs) = '\\' :: q.quote :: q.inside cs := by
  simp [inside, Text.replaceChar]

theorem inside_cons {c : Char} (other : c ≠ q.quote) (cs : List Char) :
    q.inside (c :: cs) = c :: q.inside cs := by
  simp [inside, Text.replaceChar, other]

theorem value?_written (q : Quotation) (v : String) :
    q.value? (q.written v) = q.content? (q.inside v.toList ++ [q.quote]) := by
  have chars : (q.written v).toList = q.quote :: (q.inside v.toList ++ [q.quote]) := String.toList_ofList
  rw [value?, chars]
  exact if_pos rfl

theorem totalMarks_eq (q : Quotation) (cs : List Char) :
    q.totalMarks cs = cs.countP q.isUnclean + cs.count q.quote := by
  induction cs with
  | nil => rfl
  | cons c rest ih =>
    rw [totalMarks_cons, ih, List.countP_cons, List.count_cons, marks]
    simp only [beq_iff_eq]
    omega

theorem totalUnits_inside (q : Quotation) (cs : List Char) :
    totalUnits (q.inside cs) = totalUnits cs + cs.count q.quote := by
  induction cs with
  | nil => rfl
  | cons c rest ih =>
    have single : (charUnits '\\').length = 1 := rfl
    by_cases same : c = q.quote
    · subst same
      rw [inside_quote, totalUnits_cons, totalUnits_cons, totalUnits_cons, ih, List.count_cons_self]
      omega
    · rw [inside_cons same, totalUnits_cons, totalUnits_cons, ih, List.count_cons_of_ne same]
      omega

namespace Lawful

variable (lawful : q.Lawful)
include lawful

theorem totalMarks_inside (cs : List Char) :
    q.totalMarks (q.inside cs) = q.totalMarks cs + cs.count q.quote := by
  induction cs with
  | nil => rfl
  | cons c rest ih =>
    by_cases same : c = q.quote
    · subst same
      rw [inside_quote, totalMarks_cons, totalMarks_cons, totalMarks_cons, ih, List.count_cons_self,
        lawful.marks_backslash]
      omega
    · rw [inside_cons same, totalMarks_cons, totalMarks_cons, ih, List.count_cons_of_ne same]
      omega

/-- A text that its literal stands for is clean: every quote takes one backslash, and there is no room for
another, nor for the end of a line. -/
theorem clean_of_denotes {v : String} (denotes : q.Denotes (q.written v) v) :
    ∀ c ∈ v.toList, q.isUnclean c = false := by
  rw [Denotes, value?_written] at denotes
  have room := lawful.content_room denotes
  rw [totalMarks_append, lawful.totalMarks_inside, totalMarks_eq, totalMarks_cons, lawful.marks_quote, totalMarks_nil,
    totalUnits_append, totalUnits_inside, totalUnits_cons, lawful.quote_single, totalUnits_nil,
    length_textUnits] at room
  have none : v.toList.countP q.isUnclean = 0 := by omega
  simpa using List.countP_eq_zero.mp none

theorem content?_inside {cs : List Char} (clean : ∀ c ∈ cs, q.isUnclean c = false) :
    q.content? (q.inside cs ++ [q.quote]) = some (cs.flatMap charUnits) := by
  induction cs with
  | nil =>
    rw [inside, Text.replaceChar, List.flatMap_nil, List.nil_append, content?, if_pos rfl, if_pos rfl, List.flatMap_nil]
  | cons c rest ih =>
    obtain ⟨first, later⟩ := List.forall_mem_cons.mp clean
    have ih := ih later
    by_cases same : c = q.quote
    · subst same
      rw [inside_quote, List.cons_append, List.cons_append, content?, if_neg lawful.quote_ne.symm, if_pos rfl,
        lawful.escape_quote]
      simp only [List.drop_one, List.tail_cons, ih, Option.map_some, List.flatMap_cons]
    · simp only [isUnclean, Bool.or_eq_false_iff, beq_eq_false_iff_ne] at first
      rw [inside_cons same, List.cons_append, content?, if_neg same, if_neg first.1, if_neg (by simp [first.2]), ih,
        Option.map_some, List.flatMap_cons]

end Lawful
end Quotation

/-! ## Texts from their code units -/

theorem charUnits_append_inj {c d : Char} {us vs : List Nat} (same : charUnits c ++ us = charUnits d ++ vs) :
    c = d ∧ us = vs := by
  have c_valid : c.toNat < 0xd800 ∨ 0xdfff < c.toNat ∧ c.toNat < 0x110000 := c.valid
  have d_valid : d.toNat < 0xd800 ∨ 0xdfff < d.toNat ∧ d.toNat < 0x110000 := d.valid
  have codes : c.toNat = d.toNat ∧ us = vs := by
    unfold charUnits codeUnits at same
    split at same <;> split at same <;> simp only [List.cons_append, List.nil_append, List.cons.injEq] at same
    · exact same
    · omega
    · omega
    · exact ⟨by omega, same.2.2⟩
  exact ⟨Char.toNat_inj.mp codes.1, codes.2⟩

theorem charUnits_append_ne_nil (c : Char) (us : List Nat) : charUnits c ++ us ≠ [] := by
  have some := length_charUnits_pos c
  intro empty
  rw [List.append_eq_nil_iff.mp empty |>.1] at some
  cases some

theorem textUnits_inj {v w : String} : textUnits v = textUnits w ↔ v = w := by
  refine ⟨fun same => ?_, congrArg textUnits⟩
  unfold textUnits at same
  apply String.toList_injective
  generalize v.toList = cs at same
  generalize w.toList = ds at same
  induction cs generalizing ds with
  | nil =>
    cases ds with
    | nil => rfl
    | cons d rest => exact absurd same.symm (charUnits_append_ne_nil d _)
  | cons c rest ih =>
    cases ds with
    | nil => exact absurd same (charUnits_append_ne_nil c _)
    | cons d rest' =>
      obtain ⟨rfl, later⟩ := charUnits_append_inj same
      rw [ih rest' later]

namespace Quotation.Lawful

variable {q : Quotation}

/-- A written text is read back, and as nothing else, exactly if it is clean. -/
theorem denotes_written_iff (lawful : q.Lawful) (v : String) :
    (∀ w, q.Denotes (q.written v) w ↔ w = v) ↔ ∀ c ∈ v.toList, q.isUnclean c = false := by
  constructor
  · intro only
    exact lawful.clean_of_denotes ((only v).mpr rfl)
  · intro clean w
    rw [Denotes, value?_written, lawful.content?_inside clean, Option.some_inj]
    exact textUnits_inj.trans eq_comm

end Quotation.Lawful
/-! ## The escapes of the languages -/

/-- The number that hexadecimal digits stand for. -/
def hexValue? (digits : List Char) : Option Nat :=
  digits.foldlM (fun n c => (Text.hexDigit? c).map (16 * n + ·)) 0

/-- The code that exactly `n` hexadecimal digits at the front stand for. -/
def hexCode? (n : Nat) (cs : List Char) : Option Nat :=
  if cs.length < n then none else (hexValue? (cs.take n)).filter (· ≤ 0x10ffff)

/-- The hexadecimal digits at the front. -/
def hexFront (cs : List Char) : List Char :=
  cs.takeWhile fun c => (Text.hexDigit? c).isSome

def lineSeparator : Char := Char.ofNat 0x2028

def paragraphSeparator : Char := Char.ofNat 0x2029

namespace JavaScript

def controls : List (Char × Nat) :=
  [('b', 8), ('t', 9), ('n', 10), ('v', 11), ('f', 12), ('r', 13)]

def bracedCode? (cs : List Char) : Option (List Nat × Nat) :=
  let digits := hexFront cs
  match digits, cs[digits.length]?, hexValue? digits with
  | _ :: _, some '\x7d', some code => if code ≤ 0x10ffff then some (codeUnits code, digits.length + 3) else none
  | _, _, _ => none

/-- Escapes as modules have them, without octal numbers. The end of a line is left out, and what is no
escape stands for itself. -/
def escape? : List Char → Option (List Nat × Nat)
  | [] => none
  | 'x' :: rest => (hexCode? 2 rest).map fun code => ([code], 3)
  | 'u' :: '\x7b' :: rest => bracedCode? rest
  | 'u' :: rest => (hexCode? 4 rest).map fun code => ([code], 5)
  | '\r' :: '\n' :: _ => some ([], 2)
  | c :: rest =>
    if c = '\n' ∨ c = '\r' ∨ c = lineSeparator ∨ c = paragraphSeparator then some ([], 1)
    else if c = '0' ∧ (rest.head?.any Char.isDigit) = false then some ([0], 1)
    else if c.isDigit then none
    else some (((List.lookup c controls).map ([·])).getD (charUnits c), 1)

def singleQuoted : Quotation where
  quote := '\x27'
  endsLine c := c == '\n' || c == '\r'
  escape? := escape?

example : singleQuoted.value? "'\\u\x7b1F600\x7d\\x41\\\n\\q'" = some [0xd83d, 0xde00, 0x41, 0x71] := by
  decide +kernel

end JavaScript

namespace CSharp

def simple : List (Char × Nat) :=
  [('\x27', 39), ('"', 34), ('\\', 92), ('0', 0), ('a', 7), ('b', 8), ('e', 27), ('f', 12), ('n', 10),
    ('r', 13), ('t', 9), ('v', 11)]

def escape? : List Char → Option (List Nat × Nat)
  | [] => none
  | 'x' :: rest =>
    let digits := (hexFront rest).take 4
    if digits.isEmpty then none else (hexValue? digits).map fun code => ([code], digits.length + 1)
  | 'u' :: rest => (hexCode? 4 rest).map fun code => ([code], 5)
  | 'U' :: rest => (hexCode? 8 rest).map fun code => (codeUnits code, 9)
  | c :: _ => (List.lookup c simple).map fun code => ([code], 1)

/-- Texts in double quotes that are not verbatim. -/
def doubleQuoted : Quotation where
  quote := '"'
  endsLine c := c == '\n' || c == '\r' || c == Char.ofNat 0x85 || c == lineSeparator || c == paragraphSeparator
  escape? := escape?

example : doubleQuoted.value? "\"\\x41g\\U0001F600'\\'\"" = some [0x41, 0x67, 0xd83d, 0xde00, 0x27, 0x27] := by
  decide +kernel

end CSharp

/-! ## Escapes fit -/

theorem length_codeUnits_le (code : Nat) : (codeUnits code).length ≤ 2 := by
  unfold codeUnits
  split <;> simp

open Quotation (Fits)

theorem fits_of_hexCode? {k n code : Nat} {c : Char} {rest : List Char} {units units' : List Nat}
    (found : hexCode? k rest = some code) (same : (units', k + 1) = (units, n))
    (few : 2 * units'.length ≤ k + 2) : Fits (c :: rest) units n := by
  obtain ⟨rfl, rfl⟩ := Prod.mk.inj same
  unfold hexCode? at found
  split at found
  · cases found
  · exact ⟨by rw [List.length_cons]; omega, .inl few⟩

namespace JavaScript

theorem fits_bracedCode? {rest : List Char} {units : List Nat} {n : Nat}
    (found : bracedCode? rest = some (units, n)) : Fits ('u' :: '\x7b' :: rest) units n := by
  unfold bracedCode? at found
  dsimp only at found
  split at found
  · next first others code digits close value =>
    split at found
    · obtain ⟨rfl, rfl⟩ := Prod.mk.inj (Option.some.inj found)
      have closed := (List.getElem?_eq_some_iff.mp close).1
      have few := length_codeUnits_le code
      simp only [Fits, List.length_cons]
      rw [digits] at closed ⊢
      rw [List.length_cons] at closed ⊢
      exact ⟨by omega, .inl (by omega)⟩
    · cases found
  · cases found

theorem fits_escape? {cs : List Char} {units : List Nat} {n : Nat}
    (found : escape? cs = some (units, n)) : Fits cs units n := by
  unfold escape? at found
  split at found
  · cases found
  · obtain ⟨code, code_eq, same⟩ := Option.map_eq_some_iff.mp found
    exact fits_of_hexCode? code_eq same (by simp)
  · exact fits_bracedCode? found
  · obtain ⟨code, code_eq, same⟩ := Option.map_eq_some_iff.mp found
    exact fits_of_hexCode? code_eq same (by simp)
  · obtain ⟨rfl, rfl⟩ := Prod.mk.inj (Option.some.inj found)
    exact ⟨by simp, .inl (by simp)⟩
  · next c rest _ _ _ _ =>
    split at found
    · obtain ⟨rfl, rfl⟩ := Prod.mk.inj (Option.some.inj found)
      exact ⟨by simp, .inl (by simp)⟩
    · split at found
      · obtain ⟨rfl, rfl⟩ := Prod.mk.inj (Option.some.inj found)
        exact ⟨by simp, .inl (by simp)⟩
      · split at found
        · cases found
        · obtain ⟨rfl, rfl⟩ := Prod.mk.inj (Option.some.inj found)
          refine ⟨by simp, ?_⟩
          cases List.lookup c controls with
          | none => exact .inr ⟨rfl, by simp⟩
          | some code => exact .inl (by simp)

theorem lawful_singleQuoted : singleQuoted.Lawful where
  quote_single := rfl
  quote_clean := by decide
  escape_quote rest := by
    have ends : ¬('\x27' = '\n' ∨ '\x27' = '\r' ∨ '\x27' = lineSeparator ∨ '\x27' = paragraphSeparator) := by
      decide
    show escape? ('\x27' :: rest) = _
    rw [escape?, if_neg ends, if_neg (by simp), if_neg (by decide)]
    · rfl
    all_goals simp
  escape_fits := fits_escape?

end JavaScript

namespace CSharp

theorem fits_escape? {cs : List Char} {units : List Nat} {n : Nat}
    (found : escape? cs = some (units, n)) : Fits cs units n := by
  unfold escape? at found
  split at found
  · cases found
  · next rest =>
    dsimp only at found
    split at found
    · cases found
    · next some =>
      obtain ⟨code, -, same⟩ := Option.map_eq_some_iff.mp found
      obtain ⟨rfl, rfl⟩ := Prod.mk.inj same
      have front : ((hexFront rest).take 4).length ≤ rest.length :=
        ((List.take_sublist _ _).trans (List.takeWhile_sublist _)).length_le
      exact ⟨Nat.succ_le_succ front, .inl (by simp)⟩
  · obtain ⟨code, code_eq, same⟩ := Option.map_eq_some_iff.mp found
    exact fits_of_hexCode? code_eq same (by simp)
  · obtain ⟨code, code_eq, same⟩ := Option.map_eq_some_iff.mp found
    exact fits_of_hexCode? code_eq same (by have := length_codeUnits_le code; omega)
  · obtain ⟨code, -, same⟩ := Option.map_eq_some_iff.mp found
    obtain ⟨rfl, rfl⟩ := Prod.mk.inj same
    exact ⟨by simp, .inl (by simp)⟩

theorem lawful_doubleQuoted : doubleQuoted.Lawful where
  quote_single := rfl
  quote_clean := by decide
  escape_quote rest := by
    show escape? ('"' :: rest) = _
    rw [escape?]
    · rfl
    all_goals simp
  escape_fits := fits_escape?

end CSharp
end Scaffold
