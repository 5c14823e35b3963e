/-
Reading from the tokens of statements: keywords, names, lists in parentheses.
-/
import Scaffold.Database.Token
import Scaffold.Reading
import Scaffold.Text.Case
import Scaffold.Text.Natural

namespace Scaffold
namespace Database

/-- A name as it is written, with its quote if it has one. -/
structure Ident where
  text : String
  quote : Option Char
deriving DecidableEq, Repr

/-- Doubles the quotes in a text. Those that are doubled already stay, and so do those behind a
backslash; `before` is the character in front. -/
def doubleQuotes (quote before : Char) : List Char → List Char
  | [] => []
  | [c] => if c == quote && before != '\\' then [c, c] else [c]
  | c :: d :: rest =>
    if c != quote then c :: doubleQuotes quote c (d :: rest)
    else if before == '\\' then c :: doubleQuotes quote before (d :: rest)
    else if d == quote then c :: d :: doubleQuotes quote c rest
    else c :: c :: doubleQuotes quote c (d :: rest)

def quoted (quote : Char) (text : String) : String :=
  String.ofList (quote :: doubleQuotes quote '\x00' text.toList ++ [quote])

def Ident.written (i : Ident) : String :=
  match i.quote with
  | some quote => quoted quote i.text
  | none => i.text

abbrev Read (α : Type) := Reading Token α

namespace Read

open Reading

def sign? (text : String) : Read Bool :=
  item? (.sign text)

def sign (text : String) : Read Unit :=
  item (.sign text)

/-- Whether a token is the given keyword, in letters of either case. -/
def isKeyword (keyword : String) : Token → Bool
  | .word text none => Text.uppercase text == keyword
  | _ => false

/-- Takes keywords that stand in a row, all or none of them. -/
def keywords? (keywords : List String) : Read Bool :=
  fun ts =>
    let here := ts.take keywords.length
    if here.length = keywords.length && (here.zip keywords).all fun (t, k) => isKeyword k t then
      some (true, ts.drop keywords.length)
    else some (false, ts)

def keyword? (keyword : String) : Read Bool :=
  keywords? [keyword]

def keywords (ks : List String) : Read Unit := do
  if ← keywords? ks then pure () else fail

def keyword (k : String) : Read Unit :=
  keywords [k]

/-- Takes the first of some keywords that is there. -/
def oneOf? : List String → Read (Option String)
  | [] => pure none
  | k :: rest => do
    if ← keyword? k then pure (some k) else oneOf? rest

/-- Whether one of the keywords comes next; it is not taken. -/
def atKeyword (ks : List String) : Read Bool := do
  return (← peek).any fun t => ks.any (isKeyword · t)

def atSign (text : String) : Read Bool := do
  return (← peek) == some (.sign text)

def commaSeparated {α : Type} (read : Read α) : Read (List α) :=
  separated (.sign ",") read

def inParens {α : Type} (read : Read α) : Read α := do
  sign "("
  let a ← read
  sign ")"
  return a

/-- A list in parentheses. -/
def listed {α : Type} (item : Read α) : Read (List α) :=
  inParens (commaSeparated item)

/-- A name: any word, or a quoted text. -/
def ident? : Read (Option Ident) :=
  takeIf fun
    | .word text quote => some ⟨text, quote⟩
    | .string text => some ⟨text, some '\x27'⟩
    | .doubleQuoted text => some ⟨text, some '"'⟩
    | _ => none

def ident : Read Ident :=
  required ident?

/-- A name with the names it belongs to in front, between points. -/
def path : Read (List Ident) := do
  let first ← ident
  let rest ← many do
    if ← sign? "." then return some (← ident) else pure none
  return first :: rest

def literalText : Read String :=
  required (takeIf fun
    | .word text _ => some text
    | .string text => some text
    | .doubleQuoted text => some text
    | _ => none)

def string : Read String :=
  required (takeIf fun
    | .string text => some text
    | _ => none)

/-- A natural number of at most 64 bits. -/
def natural : Read Nat :=
  required (takeIf fun
    | .number text => (Text.digits? text.toList).filter (· < Nat.pow 2 64)
    | _ => none)

end Read
end Database
end Scaffold
