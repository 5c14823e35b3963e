/-
Documents from nodes: plain scalars are null, flags or numbers where they look like it, and keys
are taken as they are written.
-/
import Scaffold.Json.Reader
import Scaffold.Text.Natural
import Scaffold.Yaml.Node

namespace Scaffold
namespace Yaml

/-- The number written by digits of a base, if it has at most 64 bits. -/
def digits? (base : Nat) (cs : List Char) : Option Nat :=
  let digit? := fun c : Char => (Text.hexDigit? c).filter (· < base)
  if cs.isEmpty then none
  else (cs.foldlM (fun n c => (digit? c).map (base * n + ·)) 0).filter (· ≤ Number.maxNatural)

/-- Digits after a zero, which are a text and no number. -/
def isPaddedNumber (cs : List Char) : Bool :=
  let cs := match cs with
    | '-' :: rest => rest
    | '+' :: rest => rest
    | _ => cs
  cs.length > 1 && cs.head? == some '0' && cs.all Char.isDigit

/-- The magnitude of an integer, in one of the four bases. -/
def magnitude? (cs : List Char) : Option Nat :=
  let based := match cs with
    | '0' :: 'x' :: rest => digits? 16 rest
    | '0' :: 'o' :: rest => digits? 8 rest
    | '0' :: 'b' :: rest => digits? 2 rest
    | _ => none
  based.or (if isPaddedNumber cs then none else digits? 10 cs)

/-- An integer: up to 64 bits, or a negative one of 63. -/
def integer? (cs : List Char) : Option Number :=
  match cs with
  | '-' :: rest =>
    if isPaddedNumber cs then none
    else ((magnitude? rest).filter (· ≤ Nat.pow 2 63)).map fun n =>
      if n = 0 then .natural 0 else .negative n
  | '+' :: rest => (magnitude? rest).map .natural
  | _ => (magnitude? cs).map .natural

/-- An integer that does not fit into 64 bits. -/
def isHugeInteger (cs : List Char) : Bool :=
  let cs := match cs with
    | '-' :: rest => rest
    | '+' :: rest => rest
    | _ => cs
  !cs.isEmpty && cs.all Char.isDigit && !isPaddedNumber cs &&
    Text.naturalOf cs < Nat.pow 2 128

/-- A decimal with a point or an exponent, in parts: whether it is negative, its digits, and the
power of ten they are multiplied by. -/
def decimal? (cs : List Char) : Option (Bool × Nat × Int) := do
  let (negative, cs) := match cs with
    | '-' :: rest => (true, rest)
    | _ => (false, cs)
  let whole := cs.takeWhile Char.isDigit
  let rest := cs.drop whole.length
  let (places, rest) := match rest with
    | '.' :: rest => (rest.takeWhile Char.isDigit, rest.dropWhile Char.isDigit)
    | _ => ([], rest)
  if whole.isEmpty && places.isEmpty then none
  let digits := Text.naturalOf (whole ++ places)
  let shift : Int := -(places.length : Int)
  match rest with
  | [] => some (negative, digits, shift)
  | c :: rest =>
    if c ≠ 'e' ∧ c ≠ 'E' then none
    else
      let (down, exponent) := match rest with
        | '-' :: rest => (true, rest)
        | '+' :: rest => (false, rest)
        | _ => (false, rest)
      let n ← Text.digits? exponent
      some (negative, digits, if down then shift - n else shift + n)

/-- A floating number, null where it is none; nothing if the text is no number. -/
def float? (cs : List Char) : Option Json :=
  let unsigned := match cs with
    | '+' :: '+' :: _ => none
    | '+' :: '-' :: _ => none
    | '+' :: rest => some rest
    | _ => some cs
  unsigned.bind fun cs' =>
    if [".inf", ".Inf", ".INF"].contains (String.ofList cs') ||
        ["-.inf", "-.Inf", "-.INF", ".nan", ".NaN", ".NAN"].contains (String.ofList cs) then
      some .null
    else
      (decimal? cs').bind fun (negative, digits, exponent) =>
        (Binary64.ofDecimal? negative digits exponent).map fun x => .number (.float x)

/-- The value of a plain scalar; none for an integer that is too large. -/
def plainValue? (text : String) : Option Json :=
  let cs := text.toList
  if ["", "null", "Null", "NULL", "~"].contains text then some .null
  else if ["true", "True", "TRUE"].contains text then some (.bool true)
  else if ["false", "False", "FALSE"].contains text then some (.bool false)
  else match integer? cs with
  | some n => some (.number n)
  | none =>
    if isHugeInteger cs then none
    else if isPaddedNumber cs then some (.string text)
    else some ((float? cs).getD (.string text))

/-- The value of a scalar. A tag of a core type demands that type. -/
def scalarValue? (tag : Option Tag) (style : Style) (text : String) : Option Json :=
  match tag with
  | none => if style = .plain then plainValue? text else some (.string text)
  | some (.custom _) => none
  | some (.core name) =>
    let demanded := fun (isRight : Json → Bool) => (plainValue? text).filter isRight
    match name with
    | "bool" => demanded fun
      | .bool _ => true
      | _ => false
    | "int" => ((integer? text.toList).map .number)
    | "float" => float? text.toList
    | "null" => if text.isEmpty then none else demanded fun
      | .null => true
      | _ => false
    | _ => some (.string text)

/-- Whether a tag leaves a container what it is. -/
def isPlainTag : Option Tag → Bool
  | some (.custom _) => false
  | _ => true

/-- The text of a key; only a scalar is one. -/
def keyText? : Node → Option String
  | .scalar _ _ text => some text
  | _ => none

mutual

def value? : Node → Option Json
  | .scalar tag style text => scalarValue? tag style text
  | .sequence tag items =>
    if isPlainTag tag then (values? items).map .array else none
  | .mapping tag entries =>
    if isPlainTag tag then (members? [] entries).map .object else none

def values? : List Node → Option (List Json)
  | [] => some []
  | node :: rest => do
    let value ← value? node
    let values ← values? rest
    some (value :: values)

/-- Adds entries to the members before them; a key that comes again changes its value. -/
def members? (members : List (String × Json)) : List (Node × Node) → Option (List (String × Json))
  | [] => some members
  | (key, node) :: rest => do
    let key ← keyText? key
    let value ← value? node
    members? (Json.setMember key value members) rest

end

def maxDepth : Nat := 128

def parse? (text : String) : Option Json :=
  (tokens? text).bind fun ts => (Reader.document maxDepth ts).bind value?

end Yaml
end Scaffold
