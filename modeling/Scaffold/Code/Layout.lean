/-
Source files in their usual form: an item a line, a field a line, long lists wrapped.
-/
import Scaffold.Code.ItemReader
import Scaffold.Text.Blank
import Scaffold.Text.Layout

namespace Scaffold
namespace Code

open Text (Doc)
open Text.Doc (word gap line box)

def indentation : Nat := 4

/-! ## Trees and attributes -/

def Bracket.ends : Bracket → String × String
  | .round => ("(", ")")
  | .square => ("[", "]")
  | .curly => ("\x7b", "\x7d")

/-- What was written last in an attribute. -/
inductive Before where
  | word
  | sign
  | lastComma
deriving DecidableEq, Repr

/-- A blank behind a word, which is a place to break inside a group. -/
def wordGap (before : Before) (nested : Bool) : List Doc :=
  if before = .word then [if nested then gap 1 "" 0 else word " "] else []

mutual

/-- The trees of an attribute. Parentheses are boxes, which may be broken behind each comma. -/
def Tree.docs (before : Before) (nested isLast : Bool) : Tree → List Doc × Before
  | .word text => (wordGap before nested ++ [word text], .word)
  | .literal l => (wordGap before nested ++ [word l.source], .word)
  | .sign c _ =>
    if c = ',' && isLast then ([gap 0 "," (if nested then indentation else 0)], .lastComma)
    else
      ((if before = .word && c = '=' then [word " "] else []) ++ [word (String.ofList [c])] ++
        (if c = '=' then [word " "]
         else if c = ',' then [if nested then gap 1 "" 0 else word " "]
         else []), .sign)
  | .group bracket content =>
    let (start, stop) := bracket.ends
    let (inside, last) := treeDocs .sign true content
    if bracket = .round then
      let close := if last = .lastComma then [] else [gap 0 "" indentation]
      ([word start, box true indentation (gap 0 "" 0 :: inside ++ close), word stop], .sign)
    else ([word start] ++ inside ++ [word stop], .sign)

def treeDocs (before : Before) (nested : Bool) : List Tree → List Doc × Before
  | [] => ([], before)
  | t :: rest =>
    let (here, before) := t.docs before nested rest.isEmpty
    let (later, before) := treeDocs before nested rest
    (here ++ later, before)

end

namespace NamePath

def text (p : NamePath) : String :=
  (if p.leading then "::" else "") ++ Text.join "::" p.names

end NamePath

/-- The values of attributes that can be written: literals. -/
def valueText? : List Tree → Option String
  | [.literal l] => some l.source
  | _ => none

/-- What an attribute has between its brackets. -/
def MarkContent.docs? : MarkContent → Option (List Doc)
  | .none => some []
  | .list bracket content => some ((Tree.group bracket content).docs .sign false true).1
  | .value content => (valueText? content).map fun text => [word (" = " ++ text)]

/-- Whether a text can stand in a block comment: its comments nest. -/
def isBlockText (cs : List Char) : Bool :=
  go 0 cs
where
  go : Nat → List Char → Bool
    | depth, [] => depth == 0
    | depth, '/' :: '*' :: rest => go (depth + 1) rest
    | depth + 1, '*' :: '/' :: rest => go depth rest
    | 0, '*' :: '/' :: _ => false
    | depth, _ :: rest => go depth rest

/-- Blanks at the end of each line but the last are left out. -/
def trimLines (cs : List Char) : List Char :=
  let lines := Text.splitWhere (· == '\n') cs
  let trimmed := lines.dropLast.map fun l => (l.reverse.dropWhile (· == ' ')).reverse
  ['\n'].intercalate (trimmed ++ lines.getLast?.toList)

/-- An attribute that documents, as a comment. -/
def documentDocs (isInner : Bool) (text : String) : Option (List Doc) :=
  let cs := text.toList
  if !cs.contains '\n' && (isInner || cs.head? != some '/') then
    let line := (cs.reverse.dropWhile (· == ' ')).reverse
    some [word ((if isInner then "//!" else "///") ++ String.ofList line), .line 0]
  else if isBlockText cs && (isInner || (cs.head? != some '*' && cs.head? != some '/')) then
    some [word ((if isInner then "/*!" else "/**") ++ String.ofList (trimLines cs) ++ "*/"), .line 0]
  else none

def Mark.docs? (m : Mark) : Option (List Doc) :=
  match m.document? with
  | some text => documentDocs m.isInner text
  | none => do
    let content ← m.content.docs?
    return word ((if m.isInner then "#![" else "#[") ++ m.path.text) :: content ++
      [word "]", gap 1 "" 0]

def markDocs? (isInner : Bool) (marks : List Mark) : Option (List Doc) := do
  return (← (marks.filter (·.isInner == isInner)).mapM Mark.docs?).flatten

def Visibility.docs : Visibility → List Doc
  | .inherited => []
  | .everywhere => [word "pub "]
  | .within [.word text] => [word ("pub(" ++ text ++ ") ")]
  | .within scope => [word "pub(in "] ++
    (scope.drop 1).map (fun t => match t with
      | .word text => word text
      | .sign c _ => word (String.ofList [c])
      | _ => word "") ++ [word ") "]

/-! ## Types -/

/-- A list that is wrapped as a whole where it does not fit. -/
def wrapped (start stop : String) (items : List (List Doc)) : List Doc :=
  [word start, box true indentation (gap 0 "" 0 :: go items), word stop]
where
  go : List (List Doc) → List Doc
    | [] => []
    | [item] => item ++ [gap 0 "," indentation]
    | item :: rest => item ++ [word ",", gap 1 "" 0] ++ go rest

mutual

/-- A type; none if it has a part that cannot be written. -/
def Ty.docs? : Ty → Option (List Doc)
  | .path leading segments => do
    return (if leading then [word "::"] else []) ++ (← segmentDocs? segments)
  | .reference lifetime mutable target => do
    let start := "&" ++ (lifetime.map fun name => "'" ++ name ++ " ").getD "" ++
      (if mutable then "mut " else "")
    return word start :: (← target.docs?)
  | .slice element => do return word "[" :: (← element.docs?) ++ [word "]"]
  | .array element length => do
    let size ← valueText? length
    return word "[" :: (← element.docs?) ++ [word ("; " ++ size ++ "]")]
  | .paren inner => do return word "(" :: (← inner.docs?) ++ [word ")"]
  | .tuple elements => do
    match ← typeDocs? elements with
    | [] => return [word "(", word ")"]
    | [element] =>
      return [word "(", box true indentation ([gap 0 "" 0] ++ element ++
        [word ",", gap 0 "" indentation]), word ")"]
    | items => return wrapped "(" ")" items
  | .pointer mutable target => do
    return word (if mutable then "*mut " else "*const ") :: (← target.docs?)
  | .never => some [word "!"]
  | .infer => some [word "_"]
  | .member _ _ _ | .other => none

def typeDocs? : List Ty → Option (List (List Doc))
  | [] => some []
  | t :: rest => do
    let here ← t.docs?
    return here :: (← typeDocs? rest)

def segmentDocs? : List Segment → Option (List Doc)
  | [] => some []
  | [s] => s.docs?
  | s :: rest => do
    let here ← s.docs?
    return here ++ [word "::"] ++ (← segmentDocs? rest)

def Segment.docs? : Segment → Option (List Doc)
  | .mk name .absent => some [word name]
  | .mk name (.angled []) => some [word name]
  | .mk name (.angled arguments) => do
    let lifetimes ← argumentDocs? true arguments
    let others ← argumentDocs? false arguments
    return word name :: wrapped "<" ">" (lifetimes ++ others)
  | .mk _ (.round _ _) => none

/-- The arguments that are lifetimes, or those that are not. -/
def argumentDocs? (lifetimes : Bool) : List Argument → Option (List (List Doc))
  | [] => some []
  | .lifetime name :: rest => do
    let later ← argumentDocs? lifetimes rest
    return if lifetimes then [word ("'" ++ name)] :: later else later
  | .type t :: rest => do
    let here ← t.docs?
    let later ← argumentDocs? lifetimes rest
    return if lifetimes then later else here :: later
  | .constant value :: rest => do
    let text ← valueText? value
    let later ← argumentDocs? lifetimes rest
    return if lifetimes then later else [word text] :: later
  | .binding :: _ => none

end

/-! ## Items -/

def RecordField.docs? (f : RecordField) : Option (List Doc) := do
  let name := f.name.map fun text => word (text ++ ": ")
  return (← markDocs? false f.marks) ++ f.visibility.docs ++ name.toList ++ (← f.type.docs?)

def fieldLines? : List RecordField → Option (List Doc)
  | [] => some []
  | [f] => do return (← f.docs?) ++ [word ",", line indentation]
  | f :: rest => do return (← f.docs?) ++ [word ",", line 0] ++ (← fieldLines? rest)

def Fields.docs? : Fields → Option (List Doc)
  | .named [] => some [word "\x7b", word "\x7d"]
  | .named fields => do
    return [word "\x7b", line 0] ++ (← fieldLines? fields) ++ [word "\x7d"]
  | .positional [] => some [word "(", word ")", word ";"]
  | .positional fields => do
    return wrapped "(" ")" (← fields.mapM RecordField.docs?) ++ [word ";"]
  | .unit => some [word ";"]

/-- Whether a use ends in a group. -/
def UseTree.endsInGroup : UseTree → Bool
  | .path _ rest => rest.endsInGroup
  | .group _ => true
  | _ => false

/-- Whether a group is needed around an item that is alone in it. -/
def UseTree.needsGroup : UseTree → Bool
  | .name text => text == "self"
  | .renamed text _ => text == "self"
  | _ => false

mutual

/-- What a use names. A group of one item is written without braces where it can be. -/
def UseTree.docs? : UseTree → Option (List Doc)
  | .path name rest => do return word (name ++ "::") :: (← rest.docs?)
  | .name text => some [word text]
  | .renamed text name => some [word (text ++ " as " ++ name)]
  | .all => some [word "*"]
  | .group [] => some [word "\x7b", box true indentation [gap 0 "" 0, box false 0 [],
      gap 0 "," indentation], word "\x7d"]
  | .group [item] => do
    let docs ← item.docs?
    return if item.needsGroup then useGroup docs else docs
  | .group items => do return useGroup (← useItemDocs? items)
  | .rooted _ => none

def useItemDocs? : List UseTree → Option (List Doc)
  | [] => some []
  | [item] => item.docs?
  | item :: rest => do
    let here ← item.docs?
    return here ++ [word ",", if item.endsInGroup then line 0 else gap 1 "" 0] ++
      (← useItemDocs? rest)

/-- Items in braces; as many of them as fit stand in a line. -/
def useGroup (items : List Doc) : List Doc :=
  [word "\x7b", box true indentation [gap 0 "" 0, box false 0 items, gap 0 "," indentation],
    word "\x7d"]

end

/-- An item; none if it is of a kind that is left as written. -/
def Item.docs? (item : Item) : Option (List Doc) := do
  let start := (← markDocs? false item.marks)
  let visibility := item.visibility.docs
  match item.kind with
  | .record name true fields =>
    return start ++ [box true indentation
      (visibility ++ [word ("struct " ++ name), ← spaceBefore fields] ++ (← fields.docs?)), line 0]
  | .use leading tree =>
    return start ++ visibility ++ [word (if leading then "use ::" else "use ")] ++
      (← tree.docs?) ++ [word ";", line 0]
  | .module name =>
    return start ++ [box true indentation (visibility ++ [word ("mod " ++ name ++ ";")]), line 0]
  | _ => none
where
  /-- Braces stand behind a blank. -/
  spaceBefore : Fields → Option Doc
    | .named _ => some (word " ")
    | _ => some (word "")

/-- A file; none if it has an item that is left as written. -/
def SourceFile.doc? (file : SourceFile) : Option Doc := do
  let start := file.runLine.map fun text => [word text, line 0]
  return box true 0 (start.getD [] ++ (← markDocs? true file.marks) ++
    (← file.items.mapM Item.docs?).flatten)

/-- A source in its usual form. One that cannot be read, or that has items of other kinds, stays as
it is. -/
def laidOut (source : String) : String :=
  match (SourceFile.read? source).bind SourceFile.doc? with
  | some doc => doc.render
  | none => source

end Code
end Scaffold
