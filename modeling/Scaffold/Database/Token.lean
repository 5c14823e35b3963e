/-
Tokens of schema statements: words, numbers, quoted texts and signs. Blanks and comments separate
tokens and are no tokens themselves.
-/
import Scaffold.Text.Identifier
import Scaffold.Text.Letter
import Scaffold.Text.Natural
import Scaffold.Text.Split

namespace Scaffold
namespace Database

inductive Token where
  /-- A keyword or a name; a quoted word is always a name. -/
  | word (text : String) (quote : Option Char)
  | number (text : String)
  | string (text : String)
  | doubleQuoted (text : String)
  /-- A text with a letter in front that says what it holds: `B` for bits, `X` for hexadecimal
  digits, `N` for national characters. -/
  | marked (letter : Char) (text : String)
  | sign (text : String)
deriving DecidableEq, Repr

namespace Token

def isBlank (c : Char) : Bool :=
  c == ' ' || c == '\t' || c == '\n' || c == '\r' || c == '\x0b' || c == '\x0c'

/-- Characters a word starts with: letters, three signs, and everything of 16 bits beyond ASCII. -/
def isWordStart (c : Char) : Bool :=
  c == '_' || c == '$' || c == '@' || (0x80 ≤ c.toNat && c.toNat ≤ 0xffff) ||
    Text.isIdentifierStart c

def isWordPart (c : Char) : Bool :=
  isWordStart c || c.isDigit

/-- What a character stands for after a backslash. The wildcards keep their backslash. -/
def unescape (c : Char) : List Char :=
  match c with
  | '0' => ['\x00']
  | 'a' => ['\x07']
  | 'b' => ['\x08']
  | 'f' => ['\x0c']
  | 'n' => ['\n']
  | 'r' => ['\r']
  | 't' => ['\t']
  | 'Z' => ['\x1a']
  | '%' => ['\\', '%']
  | '_' => ['\\', '_']
  | c => [c]

/-- Reads up to the closing quote; a quote written twice stands for itself. -/
def takeQuoted (quote : Char) (escapes : Bool) : List Char → Option (List Char × List Char)
  | [] => none
  | [c] => if c == quote then some ([], []) else none
  | c :: d :: rest =>
    if c == quote then
      if d == quote then
        (takeQuoted quote escapes rest).map fun (text, rest) => (quote :: text, rest)
      else some ([], d :: rest)
    else if escapes && c == '\\' then
      (takeQuoted quote escapes rest).map fun (text, rest) => (unescape d ++ text, rest)
    else (takeQuoted quote escapes (d :: rest)).map fun (text, rest) => (c :: text, rest)

/-- The exponent at the start, with its letter and its sign; empty if there is none. -/
def takeExponent (cs : List Char) : List Char :=
  match cs with
  | e :: rest =>
    if e == 'e' || e == 'E' then
      let lead := match rest with
        | '+' :: _ => ['+']
        | '-' :: _ => ['-']
        | _ => []
      let digits := (rest.drop lead.length).takeWhile Char.isDigit
      if digits.isEmpty then [] else e :: lead ++ digits
    else []
  | [] => []

def isWord : Token → Bool
  | .word _ _ => true
  | _ => false

/-- Reads a number, a name that starts with digits, or a point. -/
def takeNumber (before : Option Token) (cs : List Char) : Option (Token × List Char) :=
  let afterWord := before.any isWord
  let whole := cs.takeWhile Char.isDigit
  let rest := cs.drop whole.length
  match whole, rest with
  | ['0'], 'x' :: rest =>
    let digits := rest.takeWhile fun c => (Text.hexDigit? c).isSome
    some (.marked 'X' (String.ofList digits), rest.drop digits.length)
  | _, _ =>
    let (point, rest) := match rest with
      | '.' :: rest => (['.'], rest)
      | _ => ([], rest)
    if whole.isEmpty && rest.head? == some '_' then
      if afterWord then some (.sign ".", rest) else none
    else if whole.isEmpty && (afterWord || !rest.head?.any Char.isDigit) then some (.sign ".", rest)
    else
      let places := rest.takeWhile Char.isDigit
      let rest := rest.drop places.length
      let exponent := takeExponent rest
      let rest := rest.drop exponent.length
      let text := whole ++ point ++ places ++ exponent
      let tail := if exponent.isEmpty then rest.takeWhile isWordPart else []
      if !tail.isEmpty || (!exponent.isEmpty && before == some (.sign ".")) then
        some (.word (String.ofList (text ++ tail)) none, rest.drop tail.length)
      else some (.number (String.ofList text), rest)

/-- Signs of more than one character; a longer one comes before those it starts with. -/
def longSigns : List String :=
  ["->>", "<=>", "->", "<=", "<>", "<<", ">=", ">>", "!=", "||", "&&", ":=", "::", "=="]

/-- Reads a sign; any character that starts nothing else is one. -/
def takeSign (c : Char) (rest : List Char) : Token × List Char :=
  match longSigns.find? (·.toList.isPrefixOf (c :: rest)) with
  | some text => (.sign text, (c :: rest).drop text.length)
  | none => (.sign (String.ofList [c]), rest)

/-- Two dashes start a comment only in front of a blank. -/
def startsDashComment : List Char → Bool
  | '-' :: '-' :: c :: _ => isBlank c
  | _ => false

/-- What follows a comment at the start. A block comment with an exclamation mark and a version
is no comment: its text is read like any other. -/
def skipComment (cs : List Char) : Option (List Char) :=
  match cs with
  | '/' :: '*' :: '!' :: rest =>
    (Text.cutAt? ['*', '/'] rest).map fun (text, rest) =>
      text.dropWhile Char.isDigit ++ ' ' :: rest
  | '/' :: '*' :: rest => (Text.cutAt? ['*', '/'] rest).map (·.2)
  | _ => some (cs.dropWhile (· != '\n'))

def startsComment (cs : List Char) : Bool :=
  startsDashComment cs || cs.head? == some '#' || ['/', '*'].isPrefixOf cs

def takeWord (cs : List Char) : Token × List Char :=
  (.word (String.ofList (cs.takeWhile isWordPart)) none, cs.dropWhile isWordPart)

/-- Letters in front of a quoted text that say what it holds. -/
def marks : List Char :=
  ['b', 'B', 'n', 'N', 'x', 'X']

def take (before : Option Token) (cs : List Char) : Option (Token × List Char) :=
  match cs with
  | [] => none
  | c :: '\x27' :: rest =>
    if marks.contains c then
      (takeQuoted '\x27' (c != 'b' && c != 'B') rest).map fun (text, rest) =>
        (.marked c.toUpper (String.ofList text), rest)
    else takePlain c ('\x27' :: rest)
  | c :: rest => takePlain c rest
where
  takePlain (c : Char) (rest : List Char) : Option (Token × List Char) :=
    if c == '\x27' then
      (takeQuoted c true rest).map fun (text, rest) => (.string (String.ofList text), rest)
    else if c == '"' then
      (takeQuoted c true rest).map fun (text, rest) => (.doubleQuoted (String.ofList text), rest)
    else if c == '\x60' then
      (takeQuoted c false rest).map fun (text, rest) =>
        (.word (String.ofList text) (some c), rest)
    else if c.isDigit || c == '.' then takeNumber before (c :: rest)
    else if isWordStart c then some (takeWord (c :: rest))
    else some (takeSign c rest)

/-- Reads tokens; each step takes one or passes over a comment or a blank. -/
def run : Nat → Option Token → List Char → Option (List Token)
  | 0, _, _ => none
  | fuel + 1, before, cs =>
    match cs with
    | [] => some []
    | c :: rest =>
      if isBlank c then run fuel none rest
      else if startsComment cs then (skipComment cs).bind (run fuel none)
      else (take before cs).bind fun (t, rest) => (run fuel (some t) rest).map (t :: ·)

end Token

/-- The tokens of a text; none if a quoted text or a comment has no end. -/
def tokens? (text : String) : Option (List Token) :=
  Token.run (text.toList.length + 1) none text.toList

end Database
end Scaffold
