/-
Reading documents. A reader takes the characters left and gives a value and what follows it.
Numbers are read as in the usual fast reader: integers up to 64 bits are exact, and a decimal is
its first 64-bit worth of digits, rounded, times or divided by a rounded power of ten.
-/
import Scaffold.Json.Basic
import Scaffold.Text.Natural

namespace Scaffold
namespace Number

/-- The greatest number of 64 bits. -/
def maxNatural : Nat := Nat.pow 2 64 - 1

/-- The greatest exponent that is counted. -/
def maxCount : Nat := Nat.pow 2 31 - 1

def digitValue (c : Char) : Nat :=
  c.toNat - '0'.toNat

/-- Appends digits while the number has at most 64 bits; gives the number and what follows. -/
def takeDigits (n : Nat) : List Char → Nat × List Char
  | [] => (n, [])
  | c :: rest =>
    if c.isDigit && 10 * n + digitValue c ≤ maxNatural then
      takeDigits (10 * n + digitValue c) rest
    else (n, c :: rest)

/-- Dividing by the largest power of ten until the exponent is in the table. -/
def scaleDown : Nat → Binary64 → Nat → Option Binary64
  | 0, _, _ => none
  | fuel + 1, x, k =>
    if k ≤ 308 then
      (Binary64.ofNat? (Nat.pow 10 k)).bind x.div?
    else if x.isZero then some x
    else (((Binary64.ofNat? (Nat.pow 10 308)).bind x.div?)).bind fun y => scaleDown fuel y (k - 308)

/-- `digits * 10 ^ exponent` in binary64 arithmetic. -/
def scaled? (negative : Bool) (digits : Nat) (exponent : Int) : Option Number :=
  let sign := fun x : Binary64 => Number.float (if negative then x.neg else x)
  (Binary64.ofNat? digits).bind fun x =>
    if 0 ≤ exponent then
      if x.isZero then some (sign x)
      else if exponent > 308 then none
      else ((Binary64.ofNat? (Nat.pow 10 exponent.toNat)).bind x.mul?).map sign
    else (scaleDown 8 x (-exponent).toNat).map sign

/-- The digits of an exponent, as far as they are counted, and what follows all of them. -/
def takeCount (n : Nat) : List Char → Nat × List Char
  | [] => (n, [])
  | c :: rest =>
    if c.isDigit then takeCount (min (10 * n + digitValue c) (maxCount + 1)) rest
    else (n, c :: rest)

def readExponent (negative : Bool) (digits : Nat) (start : Int) (cs : List Char) :
    Option (Number × List Char) :=
  let (down, cs) := match cs with
    | '+' :: rest => (false, rest)
    | '-' :: rest => (true, rest)
    | _ => (false, cs)
  match cs with
  | c :: _ =>
    if c.isDigit then
      let (n, rest) := takeCount 0 cs
      if n > maxCount then
        if digits ≠ 0 ∧ ¬ down then none else some (.float (.zero negative), rest)
      else (scaled? negative digits (if down then start - n else start + n)).map (·, rest)
    else none
  | [] => none

def readTail (negative : Bool) (digits : Nat) (exponent : Int) (cs : List Char) :
    Option (Number × List Char) :=
  match cs with
  | 'e' :: rest => readExponent negative digits exponent rest
  | 'E' :: rest => readExponent negative digits exponent rest
  | _ => (scaled? negative digits exponent).map (·, cs)

/-- Reads what follows the decimal point; digits beyond 64 bits are passed over. -/
def readFraction (negative : Bool) (digits : Nat) (dropped : Nat) (cs : List Char) :
    Option (Number × List Char) :=
  match cs with
  | c :: _ =>
    if c.isDigit then
      let (all, rest) := takeDigits digits cs
      let places := cs.length - rest.length
      readTail negative all ((dropped : Int) - places) (rest.dropWhile Char.isDigit)
    else none
  | [] => none

/-- Reads what follows the integer part, of which `dropped` digits did not fit. -/
def readRest (negative : Bool) (digits dropped : Nat) (cs : List Char) :
    Option (Number × List Char) :=
  match cs with
  | '.' :: rest => readFraction negative digits dropped rest
  | 'e' :: rest => readExponent negative digits dropped rest
  | 'E' :: rest => readExponent negative digits dropped rest
  | _ =>
    if dropped ≠ 0 then (scaled? negative digits dropped).map (·, cs)
    else if ¬ negative then some (.natural digits, cs)
    else if digits = 0 ∨ digits > Nat.pow 2 63 then
      (Binary64.ofNat? digits).map fun x => (.float x.neg, cs)
    else some (.negative digits, cs)

def readUnsigned (negative : Bool) (cs : List Char) : Option (Number × List Char) :=
  match cs with
  | '0' :: c :: rest => if c.isDigit then none else readRest negative 0 0 (c :: rest)
  | ['0'] => readRest negative 0 0 []
  | c :: _ =>
    if c.isDigit then
      let (digits, rest) := takeDigits 0 cs
      let after := rest.dropWhile Char.isDigit
      readRest negative digits (rest.length - after.length) after
    else none
  | [] => none

def read (cs : List Char) : Option (Number × List Char) :=
  match cs with
  | '-' :: rest => readUnsigned true rest
  | _ => readUnsigned false cs

end Number

namespace Json

/-- The blanks allowed between tokens. -/
def isSpace (c : Char) : Bool :=
  c == ' ' || c == '\t' || c == '\n' || c == '\r'

def skipSpace (cs : List Char) : List Char :=
  cs.dropWhile isSpace

/-- The number written by four hexadecimal digits. -/
def readHex4 : List Char → Option (Nat × List Char)
  | a :: b :: c :: d :: rest => do
    let a ← Text.hexDigit? a
    let b ← Text.hexDigit? b
    let c ← Text.hexDigit? c
    let d ← Text.hexDigit? d
    some (((a * 16 + b) * 16 + c) * 16 + d, rest)
  | _ => none

/-- What follows a backslash and `u`: one character, written by one code unit or by two. -/
def readUnicode (cs : List Char) : Option (Char × List Char) := do
  let (high, rest) ← readHex4 cs
  if 0xd800 ≤ high ∧ high < 0xdc00 then
    match rest with
    | '\\' :: 'u' :: rest =>
      let (low, rest) ← readHex4 rest
      if 0xdc00 ≤ low ∧ low < 0xe000 then
        some (Char.ofNat (0x10000 + (high - 0xd800) * 0x400 + (low - 0xdc00)), rest)
      else none
    | _ => none
  else if 0xdc00 ≤ high ∧ high < 0xe000 then none
  else some (Char.ofNat high, rest)

/-- The character meant by a letter after a backslash. -/
def plainEscape? (c : Char) : Option Char :=
  if c = '"' ∨ c = '\\' ∨ c = '/' then some c
  else if c = 'b' then some (Char.ofNat 8)
  else if c = 'f' then some (Char.ofNat 12)
  else if c = 'n' then some '\n'
  else if c = 'r' then some '\r'
  else if c = 't' then some '\t'
  else none

/-- Reads a text up to its closing quote; `text` holds the characters so far, in reverse. -/
def readText : Nat → List Char → List Char → Option (String × List Char)
  | 0, _, _ => none
  | fuel + 1, text, cs =>
    match cs with
    | '"' :: rest => some (String.ofList text.reverse, rest)
    | '\\' :: 'u' :: rest => (readUnicode rest).bind fun (c, rest) => readText fuel (c :: text) rest
    | '\\' :: c :: rest => (plainEscape? c).bind fun d => readText fuel (d :: text) rest
    | c :: rest => if c.toNat < 32 ∨ c = '\\' then none else readText fuel (c :: text) rest
    | [] => none

def readItems (read : List Char → Option (Json × List Char)) :
    Nat → List Json → List Char → Option (Json × List Char)
  | 0, _, _ => none
  | fuel + 1, items, cs =>
    match skipSpace cs with
    | ',' :: rest => (read rest).bind fun (item, rest) => readItems read fuel (item :: items) rest
    | ']' :: rest => some (.array items.reverse, rest)
    | _ => none

def readMember (read : List Char → Option (Json × List Char)) (cs : List Char) :
    Option ((String × Json) × List Char) :=
  match skipSpace cs with
  | '"' :: rest =>
    (readText (rest.length + 1) [] rest).bind fun (key, rest) =>
      match skipSpace rest with
      | ':' :: rest => (read rest).map fun (value, rest) => ((key, value), rest)
      | _ => none
  | _ => none

def readMembers (read : List Char → Option (Json × List Char)) :
    Nat → List (String × Json) → List Char → Option (Json × List Char)
  | 0, _, _ => none
  | fuel + 1, members, cs =>
    match skipSpace cs with
    | ',' :: rest =>
      (readMember read rest).bind fun ((key, value), rest) =>
        readMembers read fuel (setMember key value members) rest
    | '\x7d' :: rest => some (.object members, rest)
    | _ => none

/-- Reads a value whose containers are nested at most `depth` deep. -/
def readValue (depth : Nat) (cs : List Char) : Option (Json × List Char) :=
  match skipSpace cs with
  | 'n' :: 'u' :: 'l' :: 'l' :: rest => some (.null, rest)
  | 't' :: 'r' :: 'u' :: 'e' :: rest => some (.bool true, rest)
  | 'f' :: 'a' :: 'l' :: 's' :: 'e' :: rest => some (.bool false, rest)
  | '"' :: rest => (readText (rest.length + 1) [] rest).map fun (s, rest) => (.string s, rest)
  | '[' :: rest =>
    match depth with
    | 0 => none
    | depth + 1 =>
      match skipSpace rest with
      | ']' :: rest => some (.array [], rest)
      | rest =>
        (readValue depth rest).bind fun (item, rest) =>
          readItems (readValue depth) (rest.length + 1) [item] rest
  | '\x7b' :: rest =>
    match depth with
    | 0 => none
    | depth + 1 =>
      match skipSpace rest with
      | '\x7d' :: rest => some (.object [], rest)
      | rest =>
        (readMember (readValue depth) rest).bind fun (member, rest) =>
          readMembers (readValue depth) (rest.length + 1) [member] rest
  | cs => (Number.read cs).map fun (n, rest) => (.number n, rest)

/-- The greatest nesting of containers that is read. -/
def maxDepth : Nat := 127

/-- Reads a text that holds one value and nothing else. -/
def parse? (s : String) : Option Json :=
  match readValue maxDepth s.toList with
  | some (value, rest) => if (skipSpace rest).isEmpty then some value else none
  | none => none

end Json
end Scaffold
