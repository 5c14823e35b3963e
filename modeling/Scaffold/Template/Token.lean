/-
The source of a template in pieces: text that stands for itself, values to be written, and tags
that steer. A tag takes the blanks in front of it on its line with it, and the line end after it.
-/
import Scaffold.Json.Reader
import Scaffold.Text.Blank
import Scaffold.Text.Natural

namespace Scaffold
namespace Template

inductive Token where
  | name (text : String)
  | string (text : String)
  | number (n : Number)
  | sign (text : String)
deriving DecidableEq, Repr

inductive Piece where
  | text (cs : List Char)
  | emit (tokens : List Token)
  | tag (tokens : List Token)
deriving DecidableEq, Repr

namespace Token

def isNameStart (c : Char) : Bool :=
  c.isAlpha || c == '_' || 128 ≤ c.toNat

def isNamePart (c : Char) : Bool :=
  isNameStart c || c.isDigit

/-- Reads a quoted text after its quote, with the escapes of JSON. -/
def takeString (quote : Char) : Nat → List Char → Option (List Char × List Char)
  | 0, _ => none
  | fuel + 1, cs =>
    match cs with
    | [] => none
    | '\\' :: 'u' :: a :: b :: c :: d :: rest => do
      let value ← [a, b, c, d].foldlM (fun n c => (Text.hexDigit? c).map (16 * n + ·)) 0
      let (text, rest) ← takeString quote fuel rest
      some (Char.ofNat value :: text, rest)
    | '\\' :: c :: rest => do
      let plain ← match c with
        | 'b' => some '\x08'
        | 'f' => some '\x0c'
        | 'n' => some '\n'
        | 'r' => some '\r'
        | 't' => some '\t'
        | '\\' => some '\\'
        | '/' => some '/'
        | '"' => some '"'
        | '\x27' => some '\x27'
        | _ => none
      let (text, rest) ← takeString quote fuel rest
      some (plain :: text, rest)
    | c :: rest =>
      if c == quote then some ([], rest)
      else (takeString quote fuel rest).map fun (text, rest) => (c :: text, rest)

def takeNumber (cs : List Char) : Option (Token × List Char) :=
  let whole := cs.takeWhile Char.isDigit
  let rest := cs.drop whole.length
  match rest with
  | '.' :: d :: rest =>
    if d.isDigit then
      let places := (d :: rest).takeWhile Char.isDigit
      (Binary64.ofDecimal? false (Text.naturalOf (whole ++ places)) (-(places.length : Int))).map
        fun x => (.number (.float x), (d :: rest).drop places.length)
    else some (.number (.natural (Text.naturalOf whole)), '.' :: d :: rest)
  | _ => some (.number (.natural (Text.naturalOf whole)), rest)

def longSigns : List String :=
  ["==", "!=", "<=", ">=", "//", "**"]

def shortSigns : List Char :=
  "+-*/%<>=.,:()[]|~".toList

def take (cs : List Char) : Option (Token × List Char) :=
  match cs with
  | [] => none
  | c :: rest =>
    if isNameStart c then
      some (.name (String.ofList (cs.takeWhile isNamePart)), cs.dropWhile isNamePart)
    else if c.isDigit then takeNumber cs
    else if c == '"' || c == '\x27' then
      (takeString c (cs.length + 1) rest).map fun (text, rest) =>
        (.string (String.ofList text), rest)
    else match longSigns.find? (·.toList.isPrefixOf cs) with
    | some text => some (.sign text, cs.drop 2)
    | none => if shortSigns.contains c then some (.sign (String.ofList [c]), rest) else none

/-- What happens to blanks next to a mark: they go, they stay, or the rule for the mark decides. -/
inductive Blanks where
  | byRule
  | drop
  | keep
deriving DecidableEq, Repr

/-- The closing mark at the start, with what it says about the blanks after it. -/
def closing? (mark cs : List Char) : Option (Blanks × List Char) :=
  match cs with
  | '-' :: rest => (Text.dropFront? mark rest).map (.drop, ·)
  | '+' :: rest => (Text.dropFront? mark rest).map (.keep, ·)
  | _ => (Text.dropFront? mark cs).map (.byRule, ·)

def takeAll (mark : List Char) : Nat → List Char → Option (List Token × Blanks × List Char)
  | 0, _ => none
  | fuel + 1, cs =>
    let cs := Text.dropBlank cs
    match closing? mark cs with
    | some (blanks, rest) => some ([], blanks, rest)
    | none => do
      let (t, rest) ← take cs
      let (ts, blanks, rest) ← takeAll mark fuel rest
      some (t :: ts, blanks, rest)

end Token

namespace Piece

open Token

inductive Mark where
  | emit
  | tag
  | comment
deriving DecidableEq, Repr

/-- The mark opened at the start of a text. -/
def opening? : List Char → Option (Mark × List Char)
  | '\x7b' :: '\x7b' :: rest => some (.emit, rest)
  | '\x7b' :: '%' :: rest => some (.tag, rest)
  | '\x7b' :: '#' :: rest => some (.comment, rest)
  | _ => none

/-- What the first character behind an opening mark says about the blanks in front of it. -/
def openingBlanks : List Char → Blanks × List Char
  | '-' :: rest => (.drop, rest)
  | '+' :: rest => (.keep, rest)
  | rest => (.byRule, rest)

/-- The text up to the next mark, the mark, and what is behind it. -/
def cut : List Char → List Char × Option (Mark × List Char)
  | [] => ([], none)
  | c :: rest =>
    match opening? (c :: rest) with
    | some mark => ([], some mark)
    | none =>
      let (before, mark) := cut rest
      (c :: before, mark)

def isLineEnd (c : Char) : Bool :=
  c == '\n' || c == '\r'

/-- The text without the blanks in front of a tag that stands first on its line; `inLine` holds
if the line began before the text. -/
def dropIndent (inLine : Bool) (cs : List Char) : List Char :=
  let last := (cs.reverse.takeWhile (!isLineEnd ·)).reverse
  let isFirst := last.all Text.isBlank && !(inLine && last.length = cs.length)
  if isFirst then cs.take (cs.length - last.length) else cs

/-- The text in front of a mark. -/
def leadOf (mark : Mark) (blanks : Blanks) (inLine : Bool) (cs : List Char) : List Char :=
  match blanks with
  | .drop => Text.dropBlankEnd cs
  | .keep => cs
  | .byRule => if mark = .emit then cs else dropIndent inLine cs

def dropLineEnd : List Char → List Char
  | '\r' :: '\n' :: rest => rest
  | '\n' :: rest => rest
  | '\r' :: rest => rest
  | rest => rest

def restOf (mark : Mark) (blanks : Blanks) (cs : List Char) : List Char :=
  match blanks with
  | .drop => Text.dropBlank cs
  | .keep => cs
  | .byRule => if mark = .emit then cs else dropLineEnd cs

def ofText (cs : List Char) : List Piece :=
  if cs.isEmpty then [] else [.text cs]

/-- Reads what a mark encloses. A comment encloses nothing. -/
def takeMarked (mark : Mark) (cs : List Char) : Option (List Piece × Blanks × List Char) :=
  match mark with
  | .emit => (takeAll "\x7d\x7d".toList (cs.length + 1) cs).map fun (ts, rest) => ([.emit ts], rest)
  | .tag => (takeAll "%\x7d".toList (cs.length + 1) cs).map fun (ts, rest) => ([.tag ts], rest)
  | .comment =>
    (Text.cutAt? "#\x7d".toList cs).map fun (inside, rest) =>
      let blanks := match inside.getLast? with
        | some '-' => .drop
        | some '+' => .keep
        | _ => .byRule
      ([], blanks, rest)

/-- Cuts a source into pieces. `inLine` holds if something stands on the line already. -/
def cutAll : Nat → Bool → List Char → Option (List Piece)
  | 0, _, _ => none
  | fuel + 1, inLine, cs =>
    match cut cs with
    | (before, none) => some (ofText before)
    | (before, some (mark, rest)) => do
      let (lead, rest) := openingBlanks rest
      let (pieces, blanks, rest) ← takeMarked mark rest
      let left := restOf mark blanks rest
      let isLineOver := (rest.take (rest.length - left.length)).any isLineEnd
      let later ← cutAll fuel (!isLineOver) left
      some (ofText (leadOf mark lead inLine before) ++ pieces ++ later)

end Piece

/-- The pieces of a source; none if a mark is not closed or holds what is no token. -/
def pieces? (source : String) : Option (List Piece) :=
  Piece.cutAll (source.toList.length + 1) false source.toList

end Template
end Scaffold
