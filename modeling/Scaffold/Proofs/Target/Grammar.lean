/-
A grammar of TypeScript types: names with arguments, parentheses, arrays and unions. The brackets of an
array bind tighter than the bar of a union. A text has at most one tree (`Reads.unique`), because a
machine with a stack, which reads a token at a time, finds every tree that can be derived
(`Derives.finds`).
-/
import Mathlib.Data.List.Basic
import Scaffold.Proofs.Text.Basic
import Scaffold.Proofs.TypeExpr.Canonical

namespace Scaffold
namespace TypeScript

open TypeExpr

inductive Token where
  | name (text : String)
  | symbol (c : Char)
deriving DecidableEq, Repr

/-- The name that ends here, if one was begun. -/
def nameToken : List Char → List Token
  | [] => []
  | word => [.name (String.ofList word)]

/-- A character that no name has: blanks say nothing. -/
def symbolToken (c : Char) : List Token :=
  if Text.isBlank c then [] else [.symbol c]

/-- The tokens of a text, after the start of a name. -/
def tokensFrom (word : List Char) : List Char → List Token
  | [] => nameToken word
  | c :: cs =>
    if isPlainChar c then tokensFrom (word ++ [c]) cs
    else nameToken word ++ (symbolToken c ++ tokensFrom [] cs)

def tokens (text : String) : List Token :=
  tokensFrom [] text.toList

/-- Types as the grammar groups them. -/
inductive Tree where
  | apply (name : String) (args : List Tree)
  | array (element : Tree)
  | union (left right : Tree)
deriving Inhabited

/-- How tightly a type holds together: by itself, as a member of a union, or as a union. -/
inductive Level where
  | atom
  | member
  | union
deriving DecidableEq

def separated : List (List Token) → List Token
  | [] => []
  | [piece] => piece
  | piece :: pieces => piece ++ .symbol ',' :: separated pieces

/-- The types of the grammar and their trees. A union is made from left to right. -/
inductive Derives : Level → List Token → Tree → Prop where
  | name (n : String) : Derives .atom [.name n] (.apply n [])
  | apply (n : String) {args : List (List Token × Tree)} (present : args ≠ [])
      (inside : ∀ arg ∈ args, Derives .union arg.1 arg.2) :
      Derives .atom (.name n :: .symbol '<' :: (separated (args.map (·.1)) ++ [.symbol '>']))
        (.apply n (args.map (·.2)))
  | paren {ts : List Token} {t : Tree} (inside : Derives .union ts t) :
      Derives .atom (.symbol '(' :: (ts ++ [.symbol ')'])) t
  | atom {ts : List Token} {t : Tree} (inside : Derives .atom ts t) : Derives .member ts t
  | array {ts : List Token} {t : Tree} (inside : Derives .member ts t) :
      Derives .member (ts ++ [.symbol '[', .symbol ']']) (.array t)
  | member {ts : List Token} {t : Tree} (inside : Derives .member ts t) : Derives .union ts t
  | union {ts us : List Token} {t u : Tree} (left : Derives .union ts t)
      (right : Derives .member us u) : Derives .union (ts ++ .symbol '|' :: us) (.union t u)

/-- The text is a type of the grammar, and this is its tree. -/
def Reads (text : String) (t : Tree) : Prop :=
  Derives .union (tokens text) t

/-! ## Tokens -/

theorem tokensFrom_append {c : Char} (other : isPlainChar c = false) (word cs ds : List Char) :
    tokensFrom word (cs ++ c :: ds) = tokensFrom word cs ++ (symbolToken c ++ tokensFrom [] ds) := by
  induction cs generalizing word with
  | nil =>
    simp only [List.nil_append, tokensFrom, other, Bool.false_eq_true, if_false]
  | cons d cs ih =>
    rw [List.cons_append, tokensFrom, tokensFrom]
    by_cases plain : isPlainChar d = true
    · rw [if_pos plain, if_pos plain]
      exact ih _
    · rw [if_neg plain, if_neg plain, ih]
      simp only [List.append_assoc]

theorem tokensFrom_plain {cs : List Char} (plain : ∀ c ∈ cs, isPlainChar c = true) (word : List Char) :
    tokensFrom word cs = nameToken (word ++ cs) := by
  induction cs generalizing word with
  | nil => rw [tokensFrom, List.append_nil]
  | cons c cs ih =>
    obtain ⟨first, others⟩ := List.forall_mem_cons.mp plain
    rw [tokensFrom, if_pos first, ih others, List.append_assoc]
    rfl

theorem tokens_name {name : String} (plain : PlainName name) : tokens name = [.name name] := by
  rw [tokens, tokensFrom_plain plain.2, List.nil_append]
  cases chars : name.toList with
  | nil => exact absurd (String.toList_eq_nil_iff.mp chars) plain.1
  | cons c cs => rw [nameToken, ← chars, String.ofList_toList]; nofun

/-- Two texts are read one after the other when no name goes from one into the other. -/
theorem tokens_append_of_first {front back : String} {c : Char} (first : back.toList.head? = some c)
    (other : isPlainChar c = false) : tokens (front ++ back) = tokens front ++ tokens back := by
  obtain ⟨cs, chars⟩ := List.head?_eq_some_iff.mp first
  have alone := tokensFrom_append other [] [] cs
  rw [tokens, tokens, tokens, String.toList_append, chars, tokensFrom_append other]
  rw [List.nil_append] at alone
  rw [alone]
  rfl

theorem tokens_append_of_last {front back : String} {c : Char} (last : front.toList.getLast? = some c)
    (other : isPlainChar c = false) : tokens (front ++ back) = tokens front ++ tokens back := by
  obtain ⟨cs, chars⟩ := List.getLast?_eq_some_iff.mp last
  rw [tokens, tokens, tokens, String.toList_append, chars, List.append_assoc, List.singleton_append,
    tokensFrom_append other, tokensFrom_append other, tokensFrom]
  simp only [nameToken, List.append_nil, List.append_assoc]

/-! ## The machine -/

/-- What was begun and not ended yet. -/
inductive Frame where
  | union (left : Tree)
  | args (name : String) (done : List Tree)
  | paren

/-- What was read last. -/
inductive Focus where
  | operand
  | name (n : String)
  | value (t : Tree)
  | bracket (t : Tree)

structure State where
  stack : List Frame
  focus : Focus

/-- Ends the union that a type is the last member of. -/
def fold : List Frame → Tree → List Frame × Tree
  | .union left :: stack, t => (stack, .union left t)
  | stack, t => (stack, t)

/-- What the token after a whole union does. -/
def close : List Frame × Tree → Token → Option State
  | (stack, t), .symbol '|' => some ⟨.union t :: stack, .operand⟩
  | (.args name done :: stack, t), .symbol ',' => some ⟨.args name (done ++ [t]) :: stack, .operand⟩
  | (.args name done :: stack, t), .symbol '>' => some ⟨stack, .value (.apply name (done ++ [t]))⟩
  | (.paren :: stack, t), .symbol ')' => some ⟨stack, .value t⟩
  | _, _ => none

/-- What the token after a type does. -/
def after (stack : List Frame) (t : Tree) : Token → Option State
  | .symbol '[' => some ⟨stack, .bracket t⟩
  | token => close (fold stack t) token

def step : State → Token → Option State
  | ⟨stack, .operand⟩, .name n => some ⟨stack, .name n⟩
  | ⟨stack, .operand⟩, .symbol '(' => some ⟨.paren :: stack, .operand⟩
  | ⟨stack, .name n⟩, .symbol '<' => some ⟨.args n [] :: stack, .operand⟩
  | ⟨stack, .name n⟩, token => after stack (.apply n []) token
  | ⟨stack, .value t⟩, token => after stack t token
  | ⟨stack, .bracket t⟩, .symbol ']' => some ⟨stack, .value (.array t)⟩
  | _, _ => none

def run (s : State) (ts : List Token) : Option State :=
  ts.foldlM step s

theorem run_append {s s' : State} {ts : List Token} (first : run s ts = some s') (us : List Token) :
    run s (ts ++ us) = run s' us := by
  rw [run, List.foldlM_append]
  rw [run] at first
  rw [first]
  rfl

theorem run_cons {s s' : State} {token : Token} (first : step s token = some s') (ts : List Token) :
    run s (token :: ts) = run s' ts := by
  rw [run, List.foldlM_cons, first]
  rfl

/-- A type was read, and nothing is on the stack that was not there before. A name is a type as long as
no arguments follow. -/
inductive Holds : State → List Frame → Tree → Prop where
  | value (stack : List Frame) (t : Tree) : Holds ⟨stack, .value t⟩ stack t
  | name (stack : List Frame) (n : String) : Holds ⟨stack, .name n⟩ stack (.apply n [])

theorem Holds.step {s : State} {stack : List Frame} {t : Tree} (holds : Holds s stack t) {c : Char}
    (other : c ≠ '<') : step s (.symbol c) = after stack t (.symbol c) := by
  cases holds with
  | value => rfl
  | name =>
    rw [TypeScript.step]
    rintro ⟨⟩
    exact other rfl

theorem Holds.unique {s : State} {stack stack' : List Frame} {t t' : Tree} (holds : Holds s stack t)
    (holds' : Holds s stack' t') : stack = stack' ∧ t = t' := by
  cases holds with
  | value => cases holds'; exact ⟨rfl, rfl⟩
  | name => cases holds'; exact ⟨rfl, rfl⟩

/-- A type was read that may be the last member of a union; with the union it is what is held. -/
def Ends (s : State) (stack : List Frame) (t : Tree) : Prop :=
  ∃ stack' t', Holds s stack' t' ∧ fold stack' t' = (stack, t)

theorem Ends.step {s : State} {stack : List Frame} {t : Tree} (ends : Ends s stack t) {c : Char}
    (other : c ≠ '<') (no_array : c ≠ '[') : step s (.symbol c) = close (stack, t) (.symbol c) := by
  obtain ⟨stack', t', holds, folded⟩ := ends
  rw [holds.step other, after, folded]
  rintro ⟨⟩
  exact no_array rfl

/-- No union was begun right before. -/
def Outer (stack : List Frame) : Prop :=
  ∀ t, fold stack t = (stack, t)

/-- What the machine holds after a type of each level. -/
def Reached : Level → State → List Frame → Tree → Prop
  | .union => Ends
  | _ => Holds

/-- Arguments are read one after the other. -/
theorem run_args {name : String} {args : List (List Token × Tree)} (present : args ≠ [])
    (each : ∀ arg ∈ args, ∀ stack, Outer stack →
      ∃ s, run ⟨stack, .operand⟩ arg.1 = some s ∧ Ends s stack arg.2)
    (stack : List Frame) (done : List Tree) :
    ∃ s t others, run ⟨.args name done :: stack, .operand⟩ (separated (args.map (·.1))) = some s ∧
      Ends s (.args name others :: stack) t ∧ others ++ [t] = done ++ args.map (·.2) := by
  induction args generalizing done with
  | nil => exact absurd rfl present
  | cons arg args ih =>
    obtain ⟨first, others⟩ := List.forall_mem_cons.mp each
    obtain ⟨s, ran, ends⟩ := first (.args name done :: stack) fun _ => rfl
    cases args with
    | nil => exact ⟨s, arg.2, done, ran, ends, rfl⟩
    | cons next args =>
      obtain ⟨s', t, before, ran', ends', same⟩ := ih (List.cons_ne_nil _ _) others (done ++ [arg.2])
      refine ⟨s', t, before, ?_, ends', by rw [same, List.append_assoc]; rfl⟩
      have comma : step s (.symbol ',') = some ⟨.args name (done ++ [arg.2]) :: stack, .operand⟩ := by
        rw [ends.step (by decide) (by decide)]
        rfl
      rw [List.map_cons, List.map_cons, separated, run_append ran, run_cons comma]
      · exact ran'
      · nofun

/-- From the tokens of a type the machine finds the tree they were derived with. -/
theorem Derives.finds {level : Level} {ts : List Token} {t : Tree} (derives : Derives level ts t)
    (stack : List Frame) (outer : level = .union → Outer stack) :
    ∃ s, run ⟨stack, .operand⟩ ts = some s ∧ Reached level s stack t := by
  induction derives generalizing stack with
  | name n => exact ⟨⟨stack, .name n⟩, rfl, .name stack n⟩
  | @apply n args present inside ih =>
    obtain ⟨s, t, before, ran, ends, same⟩ := run_args present
      (fun arg mem stack outer => ih arg mem stack fun _ => outer) stack []
    have close : step s (.symbol '>') = some ⟨stack, .value (.apply n (args.map (·.2)))⟩ := by
      rw [ends.step (by decide) (by decide)]
      rw [List.nil_append] at same
      rw [← same]
      rfl
    have opened : step ⟨stack, .name n⟩ (.symbol '<') = some ⟨.args n [] :: stack, .operand⟩ := rfl
    refine ⟨⟨stack, .value _⟩, ?_, .value stack _⟩
    rw [run_cons rfl, run_cons opened, run_append ran, run_cons close]
    rfl
  | @paren ts t inside ih =>
    obtain ⟨s, ran, ends⟩ := ih (.paren :: stack) fun _ _ => rfl
    have opened : step ⟨stack, .operand⟩ (.symbol '(') = some ⟨.paren :: stack, .operand⟩ := rfl
    have closed : step s (.symbol ')') = some ⟨stack, .value t⟩ := by
      rw [Ends.step ends (by decide) (by decide)]
      rfl
    refine ⟨⟨stack, .value t⟩, ?_, .value stack t⟩
    rw [run_cons opened, run_append ran, run_cons closed]
    rfl
  | atom inside ih => exact ih stack nofun
  | @array ts t inside ih =>
    obtain ⟨s, ran, holds⟩ := ih stack nofun
    have opened : step s (.symbol '[') = some ⟨stack, .bracket t⟩ := by
      rw [Holds.step holds (by decide)]
      rfl
    refine ⟨⟨stack, .value (.array t)⟩, ?_, .value stack _⟩
    rw [run_append ran, run_cons opened]
    rfl
  | @member ts t inside ih =>
    obtain ⟨s, ran, holds⟩ := ih stack nofun
    exact ⟨s, ran, stack, t, holds, outer rfl t⟩
  | @union ts us t u left right left_ih right_ih =>
    obtain ⟨s, ran, ends⟩ := left_ih stack outer
    -- The right member is read on top of the left union, which `fold` takes from the stack afterwards.
    obtain ⟨s', ran', holds⟩ := right_ih (.union t :: stack) nofun
    have bar : step s (.symbol '|') = some ⟨.union t :: stack, .operand⟩ := by
      rw [Ends.step ends (by decide) (by decide)]
      rfl
    refine ⟨s', ?_, .union t :: stack, u, holds, rfl⟩
    rw [run_append ran, run_cons bar]
    exact ran'

/-- A text is a type with one tree only. -/
theorem Reads.unique {text : String} {t t' : Tree} (reads : Reads text t) (reads' : Reads text t') :
    t = t' := by
  obtain ⟨s, ran, stack, u, holds, folded⟩ := Derives.finds reads [] fun _ _ => rfl
  obtain ⟨s', ran', stack', u', holds', folded'⟩ := Derives.finds reads' [] fun _ _ => rfl
  cases ran.symm.trans ran'
  obtain ⟨rfl, rfl⟩ := holds.unique holds'
  exact (Prod.mk.inj (folded.symm.trans folded')).2

end TypeScript
end Scaffold
