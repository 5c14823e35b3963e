/-
Reading from trees: signs, words, names and groups.
-/
import Scaffold.Code.Tree
import Scaffold.Reading

namespace Scaffold
namespace Code

abbrev Read (α : Type) := Reading Tree α

mutual

def Tree.size : Tree → Nat
  | .word _ | .sign _ _ | .literal _ => 1
  | .group _ content => 1 + sizes content

def sizes : List Tree → Nat
  | [] => 0
  | t :: rest => t.size + sizes rest

end

/-- Words with a meaning of their own. None of them is a name. -/
def keywords : List String := [
  "_", "abstract", "as", "async", "await", "become", "box", "break", "const", "continue", "crate",
  "do", "dyn", "else", "enum", "extern", "false", "final", "fn", "for", "if", "impl", "in", "let",
  "loop", "macro", "match", "mod", "move", "mut", "override", "priv", "pub", "ref", "return",
  "Self", "self", "static", "struct", "super", "trait", "true", "try", "type", "typeof", "unsafe",
  "unsized", "use", "virtual", "where", "while", "yield"]

def isName (text : String) : Bool :=
  !keywords.contains text

/-- What follows a sign of one or more characters. -/
def afterSign? : List Char → List Tree → Option (List Tree)
  | [], ts => some ts
  | [c], .sign d _ :: rest => if c = d then some rest else none
  | c :: cs, .sign d true :: rest => if c = d then afterSign? cs rest else none
  | _, _ => none

namespace Read

open Reading

def atSign (text : String) : Read Bool :=
  fun ts => some ((afterSign? text.toList ts).isSome, ts)

def sign? (text : String) : Read Bool :=
  fun ts => match afterSign? text.toList ts with
  | some rest => some (true, rest)
  | none => some (false, ts)

def sign (text : String) : Read Unit := do
  if ← sign? text then pure () else fail

def isWord (text : String) : Tree → Bool
  | .word other => text == other
  | _ => false

def atWord (text : String) : Read Bool := do
  return (← peek).any (isWord text)

def atSecondWord (text : String) : Read Bool :=
  fun ts => some (ts[1]?.any (isWord text), ts)

def word? (text : String) : Read Bool := do
  return (← takeIf fun t => if isWord text t then some () else none).isSome

def word (text : String) : Read Unit := do
  if ← word? text then pure () else fail

def oneOf? : List String → Read (Option String)
  | [] => pure none
  | text :: rest => do
    if ← word? text then pure (some text) else oneOf? rest

def anyWord? : Read (Option String) :=
  takeIf fun t => match t with
  | .word text => some text
  | _ => none

def anyWord : Read String :=
  required anyWord?

def name? : Read (Option String) :=
  takeIf fun t => match t with
  | .word text => if isName text then some text else none
  | _ => none

def name : Read String :=
  required name?

def isNameTree : Tree → Bool
  | .word text => isName text
  | _ => false

def atName : Read Bool := do
  return (← peek).any isNameTree

def atSecondName : Read Bool :=
  fun ts => some (ts[1]?.any isNameTree, ts)

def literal? : Read (Option Literal) :=
  takeIf fun t => match t with
  | .literal l => some l
  | _ => none

def atEnd : Read Bool := do
  return (← peek).isNone

def anyTree : Read Tree :=
  required (takeIf some)

def remaining : Read (List Tree) :=
  fun ts => some (ts, [])

def remainder : Read (List Tree) := do
  let ts ← remaining
  if ts.isEmpty then fail else pure ts

/-- Reads all of a list of trees. -/
def all? {α : Type} (read : Read α) (ts : List Tree) : Option α :=
  match read ts with
  | some (a, []) => some a
  | _ => none

def atGroup (bracket : Bracket) : Read Bool := do
  return (← peek).any fun t => match t with
  | .group b _ => b = bracket
  | _ => false

/-- Reads the inside of a group to its end, if a group comes next. -/
def inGroup? {α : Type} (bracket : Bracket) (read : Read α) : Read (Option α) :=
  fun ts => match ts with
  | .group b content :: rest =>
    if b = bracket then (all? read content).map fun a => (some a, rest) else some (none, ts)
  | _ => some (none, ts)

def inGroup {α : Type} (bracket : Bracket) (read : Read α) : Read α :=
  required (inGroup? bracket read)

def anyGroup? : Read (Option (Bracket × List Tree)) :=
  takeIf fun t => match t with
  | .group bracket content => some (bracket, content)
  | _ => none

/-- Items with commas between them, up to an end that is not taken. The last item may have a comma
too. -/
def commaUntil {α : Type} (ending : Read Bool) (read : Read α) : Read (List α) :=
  fun ts => go (ts.length + 1) ts
where
  go : Nat → Read (List α)
    | 0 => fail
    | fuel + 1 => do
      if ← ending then return []
      let a ← read
      if ← ending then return [a]
      sign ","
      return a :: (← go fuel)

/-- Items with commas between them, up to the end. -/
def commaList {α : Type} (read : Read α) : Read (List α) :=
  commaUntil atEnd read

/-- Passes over trees until one satisfies `p`. -/
def skipUntil (p : Tree → Bool) : Read Unit :=
  fun ts => some ((), ts.dropWhile (!p ·))

def isSign (c : Char) : Tree → Bool
  | .sign d _ => c = d
  | _ => false

def isGroup (bracket : Bracket) : Tree → Bool
  | .group b _ => b = bracket
  | _ => false

end Read
end Code
end Scaffold
