/-
Reading settings files: lines with a key and a value, and headers that open tables.
-/
import Scaffold.Json.Reader
import Scaffold.Reading
import Scaffold.Text.Split
import Scaffold.Toml.Table

namespace Scaffold
namespace Toml

abbrev Read (α : Type) := Reading Char α

namespace Read

open Reading

def takeWhile (p : Char → Bool) : Read (List Char) :=
  fun cs => some (cs.span p)

def text? (s : String) : Read Bool :=
  fun cs => some (match Text.dropFront? s.toList cs with
    | some rest => (true, rest)
    | none => (false, cs))

def text (s : String) : Read Unit := do
  if ← text? s then pure () else fail

def atText (s : String) : Read Bool :=
  fun cs => some (s.toList.isPrefixOf cs, cs)

def anyChar : Read Char :=
  required (takeIf some)

def atEnd : Read Bool := do
  return (← peek).isNone

/-! ## Between values -/

/-- Control characters, of which none but the tab may stand in a line. -/
def isControl (c : Char) : Bool :=
  (c.toNat < 32 && c != '\t') || c.toNat == 127

def blanks : Read Unit := do
  let _ ← takeWhile fun c => c == ' ' || c == '\t'

def lineEnd? : Read Bool := do
  if ← text? "\n" then return true else text? "\r\n"

def comment : Read Unit := do
  if ← text? "#" then
    let _ ← takeWhile (!isControl ·)

/-- Reads to the end of the line, where nothing but a comment may stand. -/
def restOfLine : Read Unit := do
  blanks
  comment
  if ← lineEnd? then pure ()
  else if ← atEnd then pure ()
  else fail

/-- Passes over blanks, comments and line ends. -/
def gap : Read Unit := do
  let _ ← many do
    blanks
    comment
    if ← lineEnd? then return some () else return none

/-! ## Texts -/

def code (count : Nat) : Read Char := do
  let rec go : Nat → Nat → Read Nat
    | 0, n => pure n
    | left + 1, n => do
      match Text.hexDigit? (← anyChar) with
      | some d => go left (16 * n + d)
      | none => fail
  let n ← go count 0
  if n.isValidChar then return Char.ofNat n else fail

def escape : Read Char := do
  match ← anyChar with
  | 'b' => return '\x08'
  | 't' => return '\t'
  | 'n' => return '\n'
  | 'f' => return '\x0c'
  | 'r' => return '\r'
  | 'e' => return '\x1b'
  | '"' => return '"'
  | '\\' => return '\\'
  | 'x' => code 2
  | 'u' => code 4
  | 'U' => code 8
  | _ => fail

def lineText (quote : Char) (escapes : Bool) : Read String := do
  let cs ← many do
    match ← anyChar with
    | '\\' => if escapes then return some (← escape) else return some '\\'
    | c =>
      if c == quote then return none
      else if isControl c then fail
      else return some c
  return String.ofList cs

/-- Whether a backslash here hides the line end and the blanks that follow it. -/
def hidesLineEnd : Read Bool :=
  fun cs => some (match cs.dropWhile fun c => c == ' ' || c == '\t' with
    | '\n' :: _ => true
    | '\r' :: '\n' :: _ => true
    | _ => false, cs)

/-- Reads a part of a text of several lines. -/
def longPart (escapes : Bool) : Read (List Char) := do
  match ← anyChar with
  | '\\' =>
    if !escapes then return ['\\']
    else if ← hidesLineEnd then
      let _ ← takeWhile fun c => c == ' ' || c == '\t' || c == '\n' || c == '\r'
      return []
    else return [← escape]
  | '\n' => return ['\n']
  | '\r' => if ← text? "\n" then return ['\n'] else fail
  | c => if isControl c then fail else return [c]

/-- Reads a text of several lines up to three quotes; up to two more are part of it. A line end at
its start is not. -/
def longText (quote : Char) (escapes : Bool) : Read String := do
  let _ ← lineEnd?
  return String.ofList (← fun cs => go (cs.length + 1) cs)
where
  go : Nat → Read (List Char)
    | 0 => fail
    | fuel + 1 => do
      if ← text? (String.ofList [quote, quote, quote]) then
        let more ← takeWhile (· == quote)
        if more.length ≤ 2 then return more else fail
      else
        let part ← longPart escapes
        return part ++ (← go fuel)

def quotedText (long : Bool) : Read String := do
  if ← text? "\"" then
    if long && (← text? "\"\"") then longText '"' true else lineText '"' true
  else
    text "'"
    if long && (← text? "''") then longText '\'' false else lineText '\'' false

/-! ## Keys -/

def isKeyChar (c : Char) : Bool :=
  c.isAlphanum || c == '_' || c == '-'

def key : Read String := do
  if (← atText "\"") || (← atText "'") then quotedText false
  else
    let cs ← takeWhile isKeyChar
    if cs.isEmpty then fail else return String.ofList cs

def keys : Read (List String) := do
  blanks
  let first ← key
  blanks
  let rest ← many do
    if ← text? "." then
      blanks
      let next ← key
      blanks
      return some next
    else return none
  return first :: rest

/-! ## Numbers and moments -/

/-- The digits of a number without the bars between them; none if a bar is elsewhere. -/
def plainDigits? (isDigit : Char → Bool) : List Char → Option (List Char)
  | [] => none
  | [c] => if isDigit c then some [c] else none
  | c :: '_' :: d :: rest =>
    if isDigit c && isDigit d then (plainDigits? isDigit (d :: rest)).map (c :: ·) else none
  | c :: rest => if isDigit c then (plainDigits? isDigit rest).map (c :: ·) else none

/-- The number written by digits of a base, if it has at most 63 bits. -/
def based? (base : Nat) (cs : List Char) : Option Value :=
  let digit? := fun c : Char => (Text.hexDigit? c).filter (· < base)
  (plainDigits? (fun c => (digit? c).isSome) cs).bind fun digits =>
    let n := digits.foldl (fun n c => base * n + (digit? c).getD 0) 0
    if n < Nat.pow 2 63 then some (.number (.natural n)) else none

/-- A decimal with places, an exponent or both. -/
def decimal? (negative : Bool) (cs : List Char) : Option Value := do
  let (whole, rest) := cs.span fun c => c.isDigit || c == '_'
  let whole ← plainDigits? Char.isDigit whole
  if whole.head? == some '0' && whole.length > 1 then none
  let (places, rest) ← match rest with
    | '.' :: rest =>
      let (places, rest) := rest.span fun c => c.isDigit || c == '_'
      (plainDigits? Char.isDigit places).map fun places => ('.' :: places, rest)
    | rest => some ([], rest)
  let exponent ← match rest with
    | [] => some []
    | e :: rest =>
      if e == 'e' || e == 'E' then
        let (sign, rest) := match rest with
          | '-' :: rest => (['-'], rest)
          | '+' :: rest => ([], rest)
          | rest => ([], rest)
        (plainDigits? Char.isDigit rest).map fun digits => 'e' :: sign ++ digits
      else none
  let text := (if negative then ['-'] else []) ++ whole ++ places ++ exponent
  match Number.read text with
  | some (n, []) => some (.number n)
  | _ => none

/-- A whole number in decimal digits, or another decimal. -/
def signed? (negative : Bool) (cs : List Char) : Option Value :=
  match plainDigits? Char.isDigit cs with
  | some digits =>
    let n := Text.naturalOf digits
    if digits.head? == some '0' && digits.length > 1 then none
    else if negative then
      if n = 0 then some (.number (.natural 0))
      else if n ≤ Nat.pow 2 63 then some (.number (.negative n)) else none
    else if n < Nat.pow 2 63 then some (.number (.natural n)) else none
  | none =>
    if cs == "inf".toList || cs == "nan".toList then some (.moment (String.ofList cs))
    else decimal? negative cs

/-- Whether the characters are digits in the form of a pattern, where `d` stands for one. -/
def hasForm : List Char → List Char → Bool
  | [], [] => true
  | 'd' :: pattern, c :: cs => c.isDigit && hasForm pattern cs
  | p :: pattern, c :: cs => p == c && hasForm pattern cs
  | _, _ => false

def isDate (cs : List Char) : Bool :=
  let month := Text.naturalOf ((cs.drop 5).take 2)
  let day := Text.naturalOf ((cs.drop 8).take 2)
  hasForm "dddd-dd-dd".toList cs && 1 ≤ month && month ≤ 12 && 1 ≤ day && day ≤ 31

/-- Whether the characters are an hour and a minute that exist. -/
def isHour (cs : List Char) : Bool :=
  hasForm "dd:dd".toList cs && Text.naturalOf (cs.take 2) < 24 && Text.naturalOf (cs.drop 3) < 60

def isTime (cs : List Char) : Bool :=
  let rest := cs.drop 8
  let placesFit := match rest with
    | [] => true
    | '.' :: places => !places.isEmpty && places.all Char.isDigit
    | _ => false
  isHour (cs.take 5) && hasForm ":dd".toList ((cs.drop 5).take 3) &&
    Text.naturalOf ((cs.drop 6).take 2) ≤ 60 && placesFit

def isOffset (cs : List Char) : Bool :=
  match cs with
  | [] => true
  | ['Z'] => true
  | ['z'] => true
  | '+' :: rest => isHour rest
  | '-' :: rest => isHour rest
  | _ => false

/-- Whether the characters are a date, a time, or both with an offset or without. -/
def isMoment (cs : List Char) : Bool :=
  let (_, behind) := (cs.drop 11).span fun c => c.isDigit || c == ':' || c == '.'
  let time := (cs.drop 11).take (cs.length - 11 - behind.length)
  let separator := ((cs.drop 10).head?).any fun c => c == 'T' || c == 't' || c == ' '
  isDate cs || isTime cs || (isDate (cs.take 10) && separator && isTime time && isOffset behind)

/-- Characters that numbers and moments are made of. -/
def isScalarChar (c : Char) : Bool :=
  c.isAlphanum || c == '_' || c == '+' || c == '-' || c == '.' || c == ':'

/-- Reads the characters of a number or a moment; between a date and a time there may be a blank. -/
def scalarChars : Read (List Char) := do
  let cs ← takeWhile isScalarChar
  let atTime : Bool ← fun rest => some (match rest with
    | ' ' :: c :: d :: ':' :: _ => c.isDigit && d.isDigit && isDate cs
    | _ => false, rest)
  if atTime then
    let _ ← anyChar
    return cs ++ ' ' :: (← takeWhile isScalarChar)
  else return cs

def scalar? (cs : List Char) : Option Value :=
  match cs with
  | '0' :: 'x' :: digits => based? 16 digits
  | '0' :: 'o' :: digits => based? 8 digits
  | '0' :: 'b' :: digits => based? 2 digits
  | '+' :: rest => signed? false rest
  | '-' :: rest => signed? true rest
  | _ =>
    if cs == "true".toList then some (.flag true)
    else if cs == "false".toList then some (.flag false)
    else if isMoment cs then some (.moment (String.ofList cs))
    else signed? false cs

/-! ## Values -/

def items (value : Read Value) : Read (List Value) := do
  gap
  fun cs => go (cs.length + 1) cs
where
  go : Nat → Read (List Value)
    | 0 => fail
    | fuel + 1 => do
      if ← text? "]" then return []
      let v ← value
      gap
      if ← text? "," then
        gap
        return v :: (← go fuel)
      text "]"
      return [v]

/-- Reads a key and its value into a table. -/
def member (value : Read Value) (ms : Members) : Read Members := do
  let path ← keys
  text "="
  blanks
  let v ← value
  match Members.addDotted v path ms with
  | some ms => return ms
  | none => fail

/-- Reads the members of a table that is written as a value; a comma may follow the last. -/
def inlineMembers (value : Read Value) : Read Members := do
  gap
  let ms ← fun cs => go (cs.length + 1) [] cs
  text "\x7d"
  return ms
where
  go : Nat → Members → Read Members
    | 0, _ => fail
    | fuel + 1, ms => do
      if ← atText "\x7d" then return ms
      let ms ← member value ms
      gap
      if ← text? "," then
        gap
        go fuel ms
      else return ms

/-- Tables inside a table that is written as a value are as fixed as it is. -/
def fixed : Value → Value
  | .table _ members => .table .inline members
  | v => v

def value : Nat → Read Value
  | 0 => fail
  | depth + 1 => do
    if (← atText "\"") || (← atText "'") then return .text (← quotedText true)
    else if ← text? "[" then return .array (← items (value depth))
    else if ← text? "\x7b" then
      return .table .inline ((← inlineMembers (value depth)).map fun m => (m.1, fixed m.2))
    else
      match scalar? (← scalarChars) with
      | some v => return v
      | none => fail

/-! ## Lines -/

/-- What is read so far, and the keys of the table that members go into. -/
structure State where
  members : Members
  header : List String

def line (s : State) : Read State := do
  blanks
  if (← atEnd) || (← atText "#") || (← atText "\n") || (← atText "\r\n") then
    restOfLine
    return s
  else if ← text? "[[" then
    let path ← keys
    text "]]"
    restOfLine
    match Members.openNext path s.members with
    | some members => return ⟨members, path⟩
    | none => fail
  else if ← text? "[" then
    let path ← keys
    text "]"
    restOfLine
    match Members.openTable path s.members with
    | some members => return ⟨members, path⟩
    | none => fail
  else
    let path ← keys
    text "="
    blanks
    let v ← fun cs => value (cs.length + 1) cs
    restOfLine
    match Members.inHeader (Members.addDotted v path) s.header s.members with
    | some members => return ⟨members, s.header⟩
    | none => fail

def lines (s : State) : Read State :=
  grow (fun s => do if ← atEnd then return none else return some (← line s)) s

end Read

/-- The members of a settings file; none if something in it is out of place. -/
def parse? (source : String) : Option Members :=
  let cs := match source.toList with
    | '\ufeff' :: rest => rest
    | cs => cs
  match Read.lines ⟨[], []⟩ cs with
  | some (s, []) => some s.members
  | _ => none

end Toml
end Scaffold
