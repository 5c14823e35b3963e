/-
Literals of source code: where one ends, and the text or the number it stands for.
-/
import Scaffold.Text.Identifier
import Scaffold.Text.Natural

namespace Scaffold
namespace Code

/-- What a literal stands for, as far as it matters. -/
inductive Value where
  | text (content : String)
  | integer (n : Nat)
  | other
deriving DecidableEq, Repr

/-- A literal as it is written, and its value. -/
structure Literal where
  source : String
  value : Value
deriving DecidableEq, Repr

def isWordStart (c : Char) : Bool :=
  c == '_' || Text.isIdentifierStart c

def isWordPart (c : Char) : Bool :=
  Text.isIdentifierPart c

def takeWord (cs : List Char) : List Char × List Char :=
  match cs with
  | c :: _ => if isWordStart c then cs.span isWordPart else ([], cs)
  | [] => ([], [])

/-! ## Quoted texts -/

inductive Quoted where
  | text
  /-- ASCII characters, each a byte. -/
  | bytes
  /-- A text without the character that ends it in memory. -/
  | terminated
deriving DecidableEq, Repr

/-- Reads the digits of a character code up to the closing brace, at most six of them; bars
may stand behind the first. -/
def takeCode : Nat → Nat → List Char → Option (Nat × List Char)
  | _, _, [] => none
  | count, n, c :: rest =>
    if c == '\x7d' then if count = 0 then none else some (n, rest)
    else if c == '_' then if count = 0 then none else takeCode count n rest
    else match Text.hexDigit? c with
      | some d => if count = 6 then none else takeCode (count + 1) (16 * n + d) rest
      | none => none

def takeEscape (kind : Quoted) : List Char → Option (Char × List Char)
  | 'n' :: rest => some ('\n', rest)
  | 'r' :: rest => some ('\r', rest)
  | 't' :: rest => some ('\t', rest)
  | '\\' :: rest => some ('\\', rest)
  | '\'' :: rest => some ('\'', rest)
  | '"' :: rest => some ('"', rest)
  | '0' :: rest => if kind = .terminated then none else some ('\x00', rest)
  | 'x' :: a :: b :: rest => do
    let code := 16 * (← Text.hexDigit? a) + (← Text.hexDigit? b)
    if (kind = .text ∧ 128 ≤ code) ∨ (kind = .terminated ∧ code = 0) then none
    else some (Char.ofNat code, rest)
  | 'u' :: '\x7b' :: rest => do
    let (code, rest) ← takeCode 0 0 rest
    if kind = .bytes ∨ !code.isValidChar ∨ (kind = .terminated ∧ code = 0) then none
    else some (Char.ofNat code, rest)
  | _ => none

/-- What follows a line end behind a backslash, without the blanks at its start. -/
def afterContinuation : List Char → Option (List Char)
  | '\r' :: '\n' :: rest => afterContinuation ('\n' :: rest)
  | '\r' :: _ => none
  | ' ' :: rest => afterContinuation rest
  | '\t' :: rest => afterContinuation rest
  | '\n' :: rest => afterContinuation rest
  | [] => none
  | cs => some cs

/-- Reads up to the closing quote. Line ends of two characters count as one, and a backslash
at a line end hides it with the blanks that follow. -/
def takeQuoted (kind : Quoted) : Nat → List Char → Option (List Char × List Char)
  | 0, _ => none
  | fuel + 1, cs =>
    match cs with
    | [] => none
    | '"' :: rest => some ([], rest)
    | '\r' :: '\n' :: rest => more '\n' (takeQuoted kind fuel rest)
    | '\r' :: _ => none
    | '\\' :: '\n' :: rest => (afterContinuation ('\n' :: rest)).bind (takeQuoted kind fuel)
    | '\\' :: '\r' :: rest => (afterContinuation ('\r' :: rest)).bind (takeQuoted kind fuel)
    | '\\' :: rest =>
      (takeEscape kind rest).bind fun (c, rest) => more c (takeQuoted kind fuel rest)
    | c :: rest =>
      if (kind = .bytes ∧ 128 ≤ c.toNat) ∨ (kind = .terminated ∧ c = '\x00') then none
      else more c (takeQuoted kind fuel rest)
where
  more (c : Char) (read : Option (List Char × List Char)) : Option (List Char × List Char) :=
    read.map fun (text, rest) => (c :: text, rest)

/-- Reads up to a quote with the given number of hashes behind it; nothing is escaped. -/
def takeRaw (kind : Quoted) (hashes : List Char) : List Char → Option (List Char × List Char)
  | [] => none
  | c :: rest =>
    if c == '"' && hashes.isPrefixOf rest then some ([], rest.drop hashes.length)
    else if (c == '\r' && rest.head? != some '\n') || (kind = .bytes && 128 ≤ c.toNat) ||
        (kind = .terminated && c == '\x00') then none
    else (takeRaw kind hashes rest).map fun (text, rest) => (c :: text, rest)

def takeRawText (kind : Quoted) (cs : List Char) : Option (List Char × List Char) :=
  let (hashes, rest) := cs.span (· == '#')
  match rest with
  | '"' :: rest => if hashes.length ≤ 255 then takeRaw kind hashes rest else none
  | _ => none

def takeCharacter (kind : Quoted) (cs : List Char) : Option (List Char) := do
  let rest ← match cs with
    | '\\' :: rest => (takeEscape kind rest).map (·.2)
    | c :: rest => if kind = .bytes ∧ 128 ≤ c.toNat then none else some rest
    | [] => none
  match rest with
  | '\'' :: rest => some rest
  | _ => none

def takeQuotedLiteral (cs : List Char) : Option (Value × List Char) :=
  let plain := fun kind rest => takeQuoted kind (rest.length + 1) rest
  let text := fun (p : List Char × List Char) => (Value.text (String.ofList p.1), p.2)
  let other := fun (p : List Char × List Char) => (Value.other, p.2)
  match cs with
  | '"' :: rest => (plain .text rest).map text
  | 'b' :: '"' :: rest => (plain .bytes rest).map other
  | 'c' :: '"' :: rest => (plain .terminated rest).map other
  | 'b' :: '\'' :: rest => (takeCharacter .bytes rest).map fun rest => (.other, rest)
  | '\'' :: rest => (takeCharacter .text rest).map fun rest => (.other, rest)
  | 'b' :: 'r' :: rest => (takeRawText .bytes rest).map other
  | 'c' :: 'r' :: rest => (takeRawText .terminated rest).map other
  | 'r' :: rest => (takeRawText .text rest).map text
  | _ => none

/-! ## Numbers -/

/-- The base of a number, from its first characters, and the digits that follow. -/
def takeBase : List Char → Nat × List Char
  | '0' :: 'x' :: rest => (16, rest)
  | '0' :: 'o' :: rest => (8, rest)
  | '0' :: 'b' :: rest => (2, rest)
  | cs => (10, cs)

/-- Reads digits of a base; a decimal digit that the base does not have is an error. Bars may
stand between digits. -/
def takeDigits (base : Nat) : Nat → Bool → List Char → Option (Nat × List Char)
  | n, read, [] => if read then some (n, []) else none
  | n, read, c :: rest =>
    if c == '_' then if !read && base = 10 then none else takeDigits base n read rest
    else match Text.hexDigit? c with
      | some d =>
        if d < base then takeDigits base (base * n + d) true rest
        else if c.isDigit || !read then none
        else some (n, c :: rest)
      | none => if read then some (n, c :: rest) else none

def skipDigits (cs : List Char) : List Char :=
  cs.dropWhile fun c => c.isDigit || c == '_'

/-- What follows an exponent at the start, if there is one. -/
def afterExponent : List Char → Option (List Char)
  | e :: rest =>
    if e == 'e' || e == 'E' then
      let rest := match rest.dropWhile (· == '_') with
        | '+' :: rest => rest
        | '-' :: rest => rest
        | rest => rest
      let (digits, rest) := rest.span fun c => c.isDigit || c == '_'
      if digits.any Char.isDigit then some rest else none
    else none
  | [] => none

/-- What follows a number with a point or an exponent at the start, if there is one. -/
def afterDecimal : List Char → Option (List Char)
  | c :: rest =>
    if c.isDigit then
      match skipDigits rest with
      | '.' :: rest =>
        if rest.head?.any fun c => c == '.' || isWordStart c then none
        else
          let rest := skipDigits rest
          some ((afterExponent rest).getD rest)
      | rest => afterExponent rest
    else none
  | [] => none

def takeNumber (cs : List Char) : Option (Value × List Char) := do
  let (value, rest) ← match afterDecimal cs with
    | some rest => some (.other, rest)
    | none =>
      let (base, digits) := takeBase cs
      (takeDigits base 0 false digits).map fun (n, rest) => (.integer n, rest)
  let (_, rest) := takeWord rest
  if rest.head?.any isWordPart then none else some (value, rest)

/-- Reads a literal, and the word directly behind it that belongs to it. -/
def takeLiteral (cs : List Char) : Option (Literal × List Char) := do
  let (value, rest) ← match takeQuotedLiteral cs with
    | some (value, rest) => some (value, (takeWord rest).2)
    | none => takeNumber cs
  some (⟨String.ofList (cs.take (cs.length - rest.length)), value⟩, rest)

end Code
end Scaffold
