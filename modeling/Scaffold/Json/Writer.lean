/-
The compact text of a document.
-/
import Scaffold.Json.Basic

namespace Scaffold
namespace Number

/-- A float always shows a point or an exponent: positional notation up to sixteen digits before
the point and five zeros after it, scientific notation beyond. -/
def floatText (x : Binary64) : List Char :=
  let sign := if x.negative then ['-'] else []
  if x.isZero then sign ++ ['0', '.', '0']
  else
    let ⟨ds, point⟩ := x.shortest
    let count : Int := ds.length
    if count ≤ point ∧ point ≤ 16 then
      sign ++ ds ++ List.replicate (point - count).toNat '0' ++ ['.', '0']
    else if 0 < point ∧ point ≤ 16 then
      sign ++ ds.take point.toNat ++ '.' :: ds.drop point.toNat
    else if -5 < point ∧ point ≤ 0 then
      sign ++ ['0', '.'] ++ List.replicate (-point).toNat '0' ++ ds
    else
      let exponent := 'e' :: (toString (point - 1)).toList
      match ds with
      | [d] => sign ++ d :: exponent
      | d :: rest => sign ++ d :: '.' :: rest ++ exponent
      | [] => sign ++ ['0', '.', '0']

def text : Number → String
  | .natural n => toString n
  | .negative n => "-" ++ toString n
  | .float x => String.ofList (floatText x)

end Number

namespace Json

def hexDigit (n : Nat) : Char :=
  if n < 10 then Char.ofNat (48 + n) else Char.ofNat (87 + n)

/-- One character inside quotes; only quotes, backslashes and control characters are escaped. -/
def escapeChar (c : Char) : List Char :=
  if c = '"' then ['\\', '"']
  else if c = '\\' then ['\\', '\\']
  else if c = '\n' then ['\\', 'n']
  else if c = '\r' then ['\\', 'r']
  else if c = '\t' then ['\\', 't']
  else if c.toNat = 8 then ['\\', 'b']
  else if c.toNat = 12 then ['\\', 'f']
  else if c.toNat < 32 then
    ['\\', 'u', '0', '0', hexDigit (c.toNat / 16), hexDigit (c.toNat % 16)]
  else [c]

def quote (s : String) : List Char :=
  '"' :: s.toList.flatMap escapeChar ++ ['"']

mutual

/-- The compact text, as characters in front of `rest`. -/
def writeOnto (rest : List Char) : Json → List Char
  | .null => ['n', 'u', 'l', 'l'] ++ rest
  | .bool true => ['t', 'r', 'u', 'e'] ++ rest
  | .bool false => ['f', 'a', 'l', 's', 'e'] ++ rest
  | .number n => n.text.toList ++ rest
  | .string s => quote s ++ rest
  | .array [] => '[' :: ']' :: rest
  | .array (item :: items) => '[' :: writeOnto (writeItems (']' :: rest) items) item
  | .object [] => '\x7b' :: '\x7d' :: rest
  | .object ((key, value) :: members) =>
    '\x7b' :: quote key ++ ':' :: writeOnto (writeMembers ('\x7d' :: rest) members) value

def writeItems (rest : List Char) : List Json → List Char
  | [] => rest
  | item :: items => ',' :: writeOnto (writeItems rest items) item

def writeMembers (rest : List Char) : List (String × Json) → List Char
  | [] => rest
  | (key, value) :: members =>
    ',' :: quote key ++ ':' :: writeOnto (writeMembers rest members) value

end

def text (value : Json) : String :=
  String.ofList (writeOnto [] value)

end Json
end Scaffold
