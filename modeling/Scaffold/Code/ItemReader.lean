/-
Reading items and whole files. Items are read in full, but for what computes: the bodies of functions
and the values of constants are passed over.
-/
import Scaffold.Code.Item
import Scaffold.Code.TypeReader

namespace Scaffold
namespace Code
namespace Read

open Reading

/-! ## Attributes -/

def namePath : Read NamePath := do
  let leading ← sign? "::"
  let segment : Read String := required (takeIf fun t => match t with
    | .word text =>
      if isName text || ["super", "self", "Self", "crate"].contains text then some text else none
    | _ => none)
  let first ← segment
  let rest ← many do
    if ← sign? "::" then return some (← segment) else return none
  return ⟨leading, first :: rest⟩

def markContent : Read MarkContent := do
  match ← anyGroup? with
  | some (bracket, content) => return .list bracket content
  | none =>
    if ← sign? "=" then
      if ← atSign "#" then fail
      return .value (← remainder)
    else return .none

def markBody (isInner : Bool) : Read Mark := do
  if ← word? "unsafe" then
    match ← inGroup? .round (do return (← namePath, ← markContent)) with
    | some (path, content) => return ⟨isInner, path, content⟩
    | none => return ⟨isInner, ⟨false, ["unsafe"]⟩, ← markContent⟩
  else
    let path ← namePath
    return ⟨isInner, path, ← markContent⟩

def outerMarks : Read (List Mark) :=
  many do
    if ← sign? "#" then return some (← inGroup .square (markBody false)) else return none

def innerMarks : Read (List Mark) :=
  many do
    let isInner : Bool ← fun ts => some (match ts with
      | .sign '#' _ :: .sign '!' _ :: _ => true
      | _ => false, ts)
    if isInner then
      sign "#"
      sign "!"
      return some (← inGroup .square (markBody true))
    else return none

/-! ## Parameters and conditions -/

def takeParameter : Read Unit := do
  skipMarks
  if ← atLifetime then
    let _ ← lifetime
    if ← sign? ":" then
      if ← atBound then readBounds
  else if ← word? "const" then
    let _ ← name
    sign ":"
    let _ ← Ty.read
    if ← sign? "=" then
      let _ ← required constant?
  else
    if !(← word? "_") then
      let _ ← name
    if ← sign? ":" then
      if ← atBound then readBounds
    if ← sign? "=" then
      let _ ← Ty.read

def takeParameters : Read Bool := do
  if ← sign? "<" then
    let _ ← commaUntil (atSign ">") takeParameter
    sign ">"
    return true
  else return false

def takeCondition : Read Unit := do
  if ← atLifetime then
    let _ ← lifetime
  else
    let _ ← forLifetimes?
    let _ ← Ty.read
  sign ":"
  if ← atBound then readBounds

def takeConditions : Read Bool := do
  if ← word? "where" then
    let ending : Read Bool := do
      return (← atEnd) || (← atGroup .curly) || (← atSign ";") || (← atSign "=")
    let _ ← commaUntil ending takeCondition
    return true
  else return false

/-! ## Records and enums -/

def visibility : Read Visibility := do
  if ← word? "pub" then
    let scope : Read (List Tree) := fun ts => match ts with
      | [.word text] =>
        if ["crate", "self", "super"].contains text then some (ts, []) else none
      | .word "in" :: rest => (all? namePath rest).map fun _ => (ts, [])
      | _ => none
    match ← maybe (inGroup .round scope) with
    | some content => return .within content
    | none => return .everywhere
  else return .inherited

def namedField : Read RecordField := do
  let marks ← outerMarks
  let visibility ← visibility
  let text ← if ← word? "_" then pure "_" else name
  if ← atSign "::" then fail
  sign ":"
  return ⟨marks, visibility, some text, ← Ty.read⟩

def positionalField : Read RecordField := do
  let marks ← outerMarks
  let visibility ← visibility
  return ⟨marks, visibility, none, ← Ty.read⟩

/-- Reads what a record has behind its name and its parameters: the fields, and whether there are
conditions. -/
def recordBody : Read (Fields × Bool) := do
  let early ← takeConditions
  match ← inGroup? .curly (commaList namedField) with
  | some fields => return (.named fields, early)
  | none =>
    if early then
      sign ";"
      return (.unit, true)
    else match ← inGroup? .round (commaList positionalField) with
      | some fields =>
        let late ← takeConditions
        sign ";"
        return (.positional fields, late)
      | none =>
        sign ";"
        return (.unit, false)

def takeRecord : Read ItemKind := do
  let text ← name
  let hasParameters ← takeParameters
  let (fields, hasConditions) ← recordBody
  return .record text (!hasParameters && !hasConditions) fields

def takeUnion : Read ItemKind := do
  let _ ← name
  let _ ← takeParameters
  let _ ← takeConditions
  let _ ← inGroup .curly (commaList namedField)
  return .other

def variant : Read Variant := do
  let marks ← outerMarks
  let _ ← visibility
  let text ← name
  let fields ← match ← inGroup? .curly (commaList namedField) with
    | some fields => pure (Fields.named fields)
    | none => match ← inGroup? .round (commaList positionalField) with
      | some fields => pure (.positional fields)
      | none => pure .unit
  if ← sign? "=" then
    let _ ← anyTree
    skipUntil (isSign ',')
  return ⟨marks, text, fields⟩

def takeEnumeration : Read ItemKind := do
  let text ← name
  let _ ← takeParameters
  let _ ← takeConditions
  return .enumeration text (← inGroup .curly (commaList variant))

/-! ## Uses -/

/-- Reads what a use names, with `deeper` for what is in groups and behind separators. -/
def takeUseTree (deeper : Read UseTree) : Read UseTree := do
  if ← sign? "*" then return .all
  match ← inGroup? .curly (commaList do
      if ← sign? "::" then return .rooted (← deeper) else deeper) with
  | some items => return .group items
  | none =>
    let text ← required (takeIf fun t => match t with
      | .word text => if isName text || rootWords.contains text then some text else none
      | _ => none)
    if ← sign? "::" then return .path text (← deeper)
    else if ← word? "as" then
      return .renamed text (← if ← word? "_" then pure "_" else name)
    else return .name text

def useTree : Nat → Read UseTree
  | 0 => fail
  | depth + 1 => takeUseTree (useTree depth)

def takeUse : Read ItemKind := do
  let leading ← sign? "::"
  let tree ← fun ts => useTree (sizes ts + 1) ts
  sign ";"
  return .use leading tree

/-! ## Other items -/

def skipBody : Read Unit := do
  skipUntil fun t => isGroup .curly t || isSign ';' t
  let _ ← inGroup .curly remaining

def skipValue : Read Unit := do
  let _ ← anyTree
  skipUntil (isSign ';')

/-- Takes the input that a method is called on, with a type or without. -/
def takeSelf? : Read Bool := do
  match ← maybe (do
    if ← sign? "&" then
      let _ ← lifetime?
    let _ ← word? "mut"
    word "self"
    if ← atSign "::" then fail) with
  | some () => return true
  | none => return false

/-- Passes over a pattern up to the colon behind it. -/
def skipPattern : Read Unit := do
  let _ ← anyTree
  let _ ← many do
    if ← sign? "::" then return some ()
    else if (← atEnd) || (← atSign ",") || (← atSign ":") then return none
    else
      let _ ← anyTree
      return some ()

def takeInput : Read Unit := do
  skipMarks
  if ← takeSelf? then
    if ← sign? ":" then
      let _ ← Ty.read
  else if !(← sign? "...") then
    if (← atSign ":") || (← atSign ",") then fail
    skipPattern
    sign ":"
    if !(← sign? "...") then
      let _ ← Ty.read

def takeFunctionItem : Read ItemKind := do
  let _ ← name
  let _ ← takeParameters
  let _ ← inGroup .round (commaList takeInput)
  let _ ← takeOutput (fun _ => Ty.read)
  let _ ← takeConditions
  if !(← sign? ";") then inGroup .curly (do let _ ← remaining)
  return .other

def takeConstant : Read ItemKind := do
  if !(← word? "_") then
    let _ ← name
  let _ ← takeParameters
  sign ":"
  let _ ← Ty.read
  if ← sign? "=" then skipValue
  sign ";"
  return .other

def takeStatic : Read ItemKind := do
  let _ ← word? "mut"
  let _ ← name
  if ← sign? ":" then
    let _ ← Ty.read
  if ← sign? "=" then skipValue
  sign ";"
  return .other

def takeAlias : Read ItemKind := do
  let _ ← name
  let _ ← takeParameters
  if ← sign? ":" then
    if ← atBound then readBounds
  let _ ← takeConditions
  if ← sign? "=" then
    let _ ← Ty.read
  let _ ← takeConditions
  sign ";"
  return .other

def takeMacro : Read ItemKind := do
  let _ ← namePath
  sign "!"
  let _ ← name?
  let (bracket, _) ← required anyGroup?
  if bracket ≠ .curly then sign ";"
  return .other

/-- Reads an item behind a declaration of how functions are called from elsewhere; `members` reads
what stands in braces. -/
def takeExtern (members : Read Unit) : Read ItemKind := do
  if ← word? "crate" then
    if !(← word? "self") then
      let _ ← name
    if ← word? "as" then
      if !(← word? "_") then
        let _ ← name
    sign ";"
    return .other
  else
    let _ ← literal?
    if ← word? "fn" then takeFunctionItem
    else
      inGroup .curly members
      return .other

/-- Reads an item behind the words that say how its functions run. -/
def takeQualified (members : Read Unit) : Read ItemKind := do
  let _ ← word? "async"
  let _ ← word? "unsafe"
  if ← word? "extern" then takeExtern members
  else if ← word? "fn" then takeFunctionItem
  else fail

/-- Whether a constant function starts here. -/
def atConstantFunction : Read Bool := do
  return (← atSecondWord "fn") || (← atSecondWord "unsafe") || (← atSecondWord "async") ||
    (← atSecondWord "extern")

/-! ## Members

Traits, implementations and declarations of what is elsewhere have members in braces. -/

def takeMember : Read Unit := do
  let _ ← outerMarks
  let _ ← visibility
  if (← atWord "default") && !(← atSecondSign) then word "default"
  let _ ← if (← atWord "const") && !(← atConstantFunction) then do
      word "const"
      takeConstant
    else if ← word? "type" then takeAlias
    else if ← word? "static" then takeStatic
    else if (← atWord "fn") || (← atWord "const") || (← atWord "async") || (← atWord "unsafe") ||
        (← atWord "extern") || (← atWord "safe") then do
      let _ ← word? "safe"
      let _ ← word? "const"
      takeQualified fail
    else takeMacro
where
  /-- A sign behind the next word, which is then no word of its own. -/
  atSecondSign : Read Bool :=
    fun ts => some (ts[1]?.any fun t => match t with
      | .sign _ _ => true
      | _ => false, ts)

def takeMembers : Read Unit := do
  let _ ← innerMarks
  let _ ← many do
    if ← atEnd then return none
    takeMember
    return some ()

def takeTrait : Read ItemKind := do
  let _ ← name
  let _ ← takeParameters
  if ← sign? "=" then
    if ← atBound then readBounds
    let _ ← takeConditions
    sign ";"
  else
    if ← sign? ":" then
      if ← atBound then readBounds
    let _ ← takeConditions
    inGroup .curly takeMembers
  return .other

def takeImplementation : Read ItemKind := do
  let _ ← maybe (do
    if !(← takeParameters) then fail
    if ← atSign "::" then fail)
  let _ ← word? "const"
  let _ ← sign? "!"
  let _ ← Ty.read
  if ← word? "for" then
    let _ ← Ty.read
  let _ ← takeConditions
  inGroup .curly takeMembers
  return .other

/-! ## Items -/

/-- Reads a module; `items` reads what a module in place holds. -/
def takeModule (items : Read Unit) : Read ItemKind := do
  let text ← name
  if ← sign? ";" then return .module text
  inGroup .curly items
  return .other

def takeItemKind (items : Read Unit) : Read ItemKind := do
  if ← word? "struct" then takeRecord
  else if ← word? "enum" then takeEnumeration
  else if ← word? "use" then takeUse
  else if ← word? "mod" then takeModule items
  else if ← word? "type" then takeAlias
  else if (← atWord "union") && (← atSecondName) then
    word "union"
    takeUnion
  else if ← word? "fn" then takeFunctionItem
  else if (← atWord "const") && !(← atConstantFunction) then
    word "const"
    takeConstant
  else if ← word? "const" then takeQualified takeMembers
  else if ← word? "static" then takeStatic
  else if ← word? "extern" then takeExtern takeMembers
  else if ← atWord "async" then takeQualified takeMembers
  else if ← word? "trait" then takeTrait
  else if (← atWord "auto") && (← atSecondWord "trait") then
    word "auto"
    word "trait"
    takeTrait
  else if ← word? "impl" then takeImplementation
  else if (← atWord "default") && ((← atSecondWord "impl") || (← atSecondWord "unsafe")) then
    word "default"
    let _ ← word? "unsafe"
    word "impl"
    takeImplementation
  else if ← atWord "unsafe" then
    if ← atSecondWord "mod" then
      word "unsafe"
      word "mod"
      takeModule items
    else if ← atSecondWord "impl" then
      word "unsafe"
      word "impl"
      takeImplementation
    else if (← atSecondWord "trait") || (← atSecondWord "auto") then
      word "unsafe"
      let _ ← word? "auto"
      word "trait"
      takeTrait
    else takeQualified takeMembers
  else if ← word? "macro" then
    skipBody
    return .other
  else fail

def takeItem (items : Read Unit) : Read Item := do
  let marks ← outerMarks
  let visibility ← visibility
  match visibility with
  | .inherited =>
    match ← maybe takeMacro with
    | some kind => return ⟨marks, visibility, kind⟩
    | none => return ⟨marks, visibility, ← takeItemKind items⟩
  | _ => return ⟨marks, visibility, ← takeItemKind items⟩

/-- Reads items that are nested at most `depth` deep, up to the end. -/
def takeItems : Nat → Read (List Item)
  | 0 => fail
  | depth + 1 => many do
    if ← atEnd then return none
    return some (← takeItem do
      let _ ← innerMarks
      let _ ← takeItems depth)

end Read

namespace SourceFile

/-- Cuts off the mark that says how the characters are stored. -/
def dropOrderMark : List Char → List Char
  | '\ufeff' :: rest => rest
  | cs => cs

def takeRunLine (cs : List Char) : Option (List Char) × List Char :=
  match cs with
  | '#' :: '!' :: rest =>
    if (skipGaps rest.length rest).head? == some '[' then (none, cs)
    else
      let (line, rest) := cs.span (· != '\n')
      (some line, rest)
  | _ => (none, cs)

/-- Reads a source file; none if something in it is out of place. -/
def read? (source : String) : Option SourceFile := do
  let (line, cs) := takeRunLine (dropOrderMark source.toList)
  let ts ← trees? (dropOrderMark cs)
  Read.all? (do
    let marks ← Read.innerMarks
    return ⟨line.map String.ofList, marks, ← Read.takeItems (sizes ts + 1)⟩) ts

end SourceFile
end Code
end Scaffold
