/-
Reading types. The readers below take the reader of a type that is nested less deeply, `ty`; its
argument says whether further bounds may follow behind a plus sign.
-/
import Scaffold.Code.Reading
import Scaffold.Code.Type

namespace Scaffold
namespace Code
namespace Read

open Reading

def atLifetime : Read Bool :=
  atSign "'"

def lifetime : Read String := do
  sign "'"
  anyWord

def lifetime? : Read (Option String) := do
  if ← atLifetime then return some (← lifetime) else return none

/-- Takes a constant: a literal, a number below zero or a truth value. -/
def constant? : Read (Option (List Tree)) :=
  fun ts => match ts with
  | .literal l :: rest => some (some [.literal l], rest)
  | .word "true" :: rest => some (some [.word "true"], rest)
  | .word "false" :: rest => some (some [.word "false"], rest)
  | .group .curly content :: rest => some (some [.group .curly content], rest)
  | .sign '-' joined :: .literal l :: rest => some (some [.sign '-' joined, .literal l], rest)
  | _ => some (none, ts)

/-! ## Bounds -/

/-- Reads the lifetimes that hold for what follows. -/
def forLifetimes? : Read Bool := do
  if ← word? "for" then
    sign "<"
    let _ ← commaUntil (atSign ">") do
      let _ ← lifetime
      if ← sign? ":" then
        let _ ← grow (fun () => do
          let _ ← lifetime?
          if ← sign? "+" then return some () else return none) ()
    sign ">"
    return true
  else return false

/-- Whether something comes next that a bound may start with. -/
def atBound : Read Bool := do
  if ← atLifetime then return true
  if (← atSign "?") || (← atSign "::") || (← atSign "~") then return true
  return (← peek).any fun t => match t with
  | .word _ => true
  | .group .round _ => true
  | _ => false

/-! ## Paths -/

def isRound (a : Arguments) : Bool :=
  match a with
  | .round _ _ => true
  | _ => false

def takeBound (path : Read Ty) (deeper : Read Unit) : Read Unit := do
  if ← atLifetime then
    let _ ← lifetime
  else
    match ← inGroup? .round deeper with
    | some () => pure ()
    | none =>
      let _ ← forLifetimes?
      if ← sign? "~" then word "const"
      let _ ← sign? "?"
      let _ ← path

def takeBounds (path : Read Ty) (deeper : Read Unit) : Read Unit := do
  takeBound path deeper
  let _ ← many do
    if ← sign? "+" then
      if ← atBound then
        takeBound path deeper
      return some ()
    else return none

/-- Passes over lifetimes with the plus signs behind them. -/
def skipLifetimes : Read Unit := do
  let _ ← many do
    if ← atLifetime then
      let _ ← lifetime
      let _ ← sign? "+"
      return some ()
    else return none

/-- Whether there is a trait among the bounds that come next. -/
def atTrait : Read Bool :=
  fun ts => some (((do skipLifetimes; atBound : Read Bool) ts).any (·.1), ts)

def takeArgument (ty : Bool → Read Ty) (bounds : Read Unit) : Read Argument := do
  match ← maybe (do
    let name ← lifetime
    if ← atSign "+" then fail else pure name) with
  | some name => return .lifetime name
  | none =>
    match ← constant? with
    | some value => return .constant value
    | none =>
      let t ← ty true
      match t with
      | .path false [s] =>
        if isRound s.arguments then return .type t
        else if ← sign? "=" then
          match ← constant? with
          | some _ => pure ()
          | none =>
            let _ ← ty true
          return .binding
        else if ← sign? ":" then
          if !(← atSign ",") && !(← atSign ">") then bounds
          return .binding
        else return .type t
      | _ => return .type t

def takeArguments (ty : Bool → Read Ty) (bounds : Read Unit) : Read (List Argument) := do
  let _ ← sign? "::"
  sign "<"
  let arguments ← commaUntil (atSign ">") (takeArgument ty bounds)
  sign ">"
  return arguments

/-- Words that stand for a segment of a path. -/
def rootWords : List String :=
  ["super", "self", "crate", "try"]

/-- Whether arguments come next, with a separator in front or without. -/
def atArguments : Read Bool :=
  fun ts =>
    let start := (afterSign? "::".toList ts).getD ts
    some ((afterSign? ['<'] start).isSome && (start.length < ts.length ||
      (afterSign? ['<', '='] start).isNone), ts)

def takeSegment (ty : Bool → Read Ty) (bounds : Read Unit) : Read Segment := do
  match ← oneOf? rootWords with
  | some text => return .mk text .absent
  | none =>
    let text ← if ← word? "Self" then pure "Self" else name
    if ← atArguments then return .mk text (.angled (← takeArguments ty bounds))
    else return .mk text .absent

/-- Whether a separator comes next that no parentheses follow. -/
def atSeparator : Read Bool :=
  fun ts => some (match afterSign? "::".toList ts with
    | some (.group .round _ :: _) => false
    | some _ => true
    | none => false, ts)

def takeMoreSegments (ty : Bool → Read Ty) (bounds : Read Unit) : Read (List Segment) :=
  many do
    if ← atSeparator then
      sign "::"
      return some (← takeSegment ty bounds)
    else return none

def takeOutput (ty : Bool → Read Ty) : Read (Option Ty) := do
  if ← sign? "->" then return some (← ty false) else return none

/-- Reads inputs and output for the last segment of a path, if it has no arguments yet, and the
segments that may follow. -/
def takeRound (ty : Bool → Read Ty) (bounds : Read Unit) (segments : List Segment) :
    Read (Option (List Segment)) := do
  let last := segments.getLast?
  let atRound ← atGroup .round
  let atLateRound : Bool ← fun ts => some (match afterSign? "::".toList ts with
    | some (.group .round _ :: _) => true
    | _ => false, ts)
  match last with
  | some (.mk text .absent) =>
    if atRound || atLateRound then
      let _ ← sign? "::"
      let inputs ← inGroup .round (commaList (ty true))
      let output ← takeOutput ty
      let whole := segments.dropLast ++ [.mk text (.round inputs output)]
      match output with
      | none | some (.paren _) => return some (whole ++ (← takeMoreSegments ty bounds))
      | some _ => return some whole
    else return none
  | _ => return none

def takePath (ty : Bool → Read Ty) (bounds : Read Unit) : Read (Bool × List Segment) := do
  let leading ← sign? "::"
  let first ← takeSegment ty bounds
  return (leading, first :: (← takeMoreSegments ty bounds))

def takePathType (ty : Bool → Read Ty) (bounds : Read Unit) : Read Ty := do
  if ← sign? "<" then
    let owner ← ty true
    let inside ← if ← word? "as" then pure (← takePath ty bounds).2 else pure []
    sign ">"
    sign "::"
    let first ← takeSegment ty bounds
    let outside := first :: (← many do
      if ← sign? "::" then return some (← takeSegment ty bounds) else return none)
    let segments ← grow (takeRound ty bounds) (inside ++ outside)
    return .member owner inside.length segments
  else
    let (leading, segments) ← takePath ty bounds
    return .path leading (← grow (takeRound ty bounds) segments)

/-! ## Types -/

def skipMarks : Read Unit := do
  let _ ← many do
    if ← sign? "#" then
      let _ ← inGroup .square remainder
      return some ()
    else return none

def takeFunction (ty : Bool → Read Ty) : Read Ty := do
  let _ ← word? "unsafe"
  if ← word? "extern" then
    let _ ← literal?
  word "fn"
  let _ ← inGroup .round (commaList do
    skipMarks
    let _ ← maybe (do
      let _ ← required (takeIf fun t => match t with
        | .word text => if isName text || text == "_" then some () else none
        | _ => none)
      if ← atSign "::" then fail
      sign ":")
    if !(← sign? "...") then
      let _ ← ty true)
  let _ ← takeOutput ty
  return .other

def takeParens (ty : Bool → Read Ty) (bounds : Read Unit) (plus : Bool) : Read Ty := do
  let inner ← inGroup .round do
    if ← atEnd then return Ty.tuple []
    if (← atLifetime) || (← atSign "?") then
      bounds
      return .paren .other
    let first ← ty true
    if ← sign? "," then return .tuple (first :: (← commaList (ty true)))
    else return .paren first
  match inner with
  | .paren _ =>
    if plus && (← sign? "+") then
      bounds
      return .other
    else return inner
  | _ => return inner

/-- Reads a type that starts with a path: the path itself, a macro, or a trait with bounds. -/
def takeFromPath (ty : Bool → Read Ty) (bounds : Read Unit) (bound plus : Bool) : Read Ty := do
  let t ← takePathType ty bounds
  match t with
  | .path _ segments =>
    let atMacro := (← atSign "!") && !(← atSign "!=")
    if atMacro && segments.all Segment.isPlain then
      sign "!"
      let _ ← required anyGroup?
      return .other
    else if plus && (← sign? "+") then
      if ← atBound then bounds
      return .other
    else return if bound then .other else t
  | _ => return t

def takeBracketed (ty : Bool → Read Ty) : Read Ty :=
  inGroup .square do
    let element ← ty true
    if ← sign? ";" then return .array element (← remainder) else return .slice element

def takePointer (ty : Bool → Read Ty) : Read Ty := do
  match ← oneOf? ["const", "mut"] with
  | some text => return .pointer (text == "mut") (← ty false)
  | none => fail

def takeType (ty : Bool → Read Ty) (bounds : Read Unit) (plus : Bool) : Read Ty := do
  let bound ← forLifetimes?
  let atFunction := (← atWord "fn") || (← atWord "unsafe") || (← atWord "extern")
  let atPath := (← atName) || (← atSign "::") || (← atWord "Self") || (← atWord "self") ||
    (← atWord "super") || (← atWord "crate")
  if atFunction then takeFunction ty
  else if atPath then takeFromPath ty bounds bound plus
  else if bound then fail
  else if ← atSign "<" then takeFromPath ty bounds false plus
  else if ← atGroup .round then takeParens ty bounds plus
  else if ← atGroup .square then takeBracketed ty
  else if ← sign? "*" then takePointer ty
  else if ← sign? "&" then
    let name ← lifetime?
    let mutable ← word? "mut"
    return .reference name mutable (← ty false)
  else if (← atSign "!") && !(← atSign "!=") then
    sign "!"
    return .never
  else if ← word? "_" then return .infer
  else if (← word? "dyn") || (← word? "impl") || (← atLifetime) then
    if !(← atTrait) then fail
    bounds
    return .other
  else fail

end Read

mutual

/-- Reads a type that is nested at most `depth` deep. -/
def Ty.take (depth : Nat) (plus : Bool) : Read Ty :=
  match depth with
  | 0 => Reading.fail
  | depth + 1 => Read.takeType (Ty.take depth) (takeBounds depth) plus

/-- Reads bounds that are nested at most `depth` deep. -/
def takeBounds (depth : Nat) : Read Unit :=
  match depth with
  | 0 => Reading.fail
  | depth + 1 =>
    Read.takeBounds (Read.takePathType (Ty.take depth) (takeBounds depth)) (takeBounds depth)

end

def Ty.read : Read Ty :=
  fun ts => Ty.take (2 * sizes ts + 2) true ts

def readBounds : Read Unit :=
  fun ts => takeBounds (2 * sizes ts + 2) ts

end Code
end Scaffold
