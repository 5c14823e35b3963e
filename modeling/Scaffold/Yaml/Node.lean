/-
Nodes from tokens: scalars, sequences and mappings, with aliases replaced by what they stand for.
-/
import Scaffold.KeyMap
import Scaffold.Yaml.Token

namespace Scaffold
namespace Yaml

/-- A tag: the core types by name, or one of the application's own. -/
inductive Tag where
  | core (name : String)
  | custom (name : String)
deriving DecidableEq, Repr

inductive Node where
  | scalar (tag : Option Tag) (style : Style) (text : String)
  | sequence (tag : Option Tag) (items : List Node)
  | mapping (tag : Option Tag) (entries : List (Node × Node))
deriving Inhabited

namespace Node

/-- What nothing stands for. -/
def empty : Node :=
  .scalar none .plain ""

def withTag (tag : Option Tag) : Node → Node
  | .scalar _ style text => .scalar tag style text
  | .sequence _ items => .sequence tag items
  | .mapping _ entries => .mapping tag entries

end Node

/-- The anchors seen so far; one whose node is not complete yet stands for nothing. -/
abbrev Anchors := KeyMap (Option Node)

/-- The tag that a handle and a suffix name; only the two standard handles are known. -/
def Tag.of? (handle suffix : String) : Option Tag :=
  if handle == "!!" then some (.core suffix)
  else if handle == "!" then some (.custom suffix)
  else if handle == "" then
    match suffix.toList with
    | '!' :: rest => some (.custom (String.ofList rest))
    | cs =>
      let core := "tag:yaml.org,2002:".toList
      some (if core.isPrefixOf cs then .core (String.ofList (cs.drop core.length)) else .core suffix)
  else none

namespace Reader

/-- What is left to read: the anchors and the tokens. -/
structure State where
  anchors : Anchors
  tokens : List Token

abbrev Read (α : Type) := State → Option (α × State)

/-- The anchor and the tag in front of a node, in either order. -/
def takeProperties (s : State) : Option (Option String × Option Tag × State) :=
  match s.tokens with
  | .anchor name :: .tag handle suffix :: rest =>
    (Tag.of? handle suffix).map fun tag => (some name, some tag, { s with tokens := rest })
  | .tag handle suffix :: .anchor name :: rest =>
    (Tag.of? handle suffix).map fun tag => (some name, some tag, { s with tokens := rest })
  | .anchor name :: rest => some (some name, none, { s with tokens := rest })
  | .tag handle suffix :: rest =>
    (Tag.of? handle suffix).map fun tag => (none, some tag, { s with tokens := rest })
  | _ => some (none, none, s)

/-- Reads a node with its properties and notes its anchor. -/
def anchored (read : Read Node) (isThere : Token → Bool) : Read Node := fun s =>
  match s.tokens with
  | .reference name :: rest =>
    ((s.anchors.get? name).join).map (·, { s with tokens := rest })
  | _ => do
    let (anchor, tag, s) ← takeProperties s
    let note := fun (node : Option Node) (s : State) => match anchor with
      | some name => { s with anchors := s.anchors.insert name node }
      | none => s
    let s := note none s
    if s.tokens.head?.any isThere then
      let (node, s) ← read s
      let node := node.withTag tag
      some (node, note (some node) s)
    else if anchor.isSome || tag.isSome then
      let node := Node.empty.withTag tag
      some (node, note (some node) s)
    else none

/-- A value behind its sign; nothing stands there if one of the `ends` follows. -/
def orEmpty (read : Read Node) (ends : Token → Bool) : Read Node := fun s =>
  match s.tokens with
  | [] => some (Node.empty, s)
  | t :: _ => if ends t then some (Node.empty, s) else read s

def drop (s : State) : State :=
  { s with tokens := s.tokens.drop 1 }

def startsBlock (indentless : Bool) : Token → Bool
  | .scalar _ _ => true
  | .openBracket => true
  | .openBrace => true
  | .sequenceStart => true
  | .mappingStart => true
  | .entry => indentless
  | _ => false

def startsFlow : Token → Bool
  | .scalar _ _ => true
  | .openBracket => true
  | .openBrace => true
  | _ => false

def endsEntry : Token → Bool
  | .entry => true
  | .blockEnd => true
  | _ => false

def endsPart : Token → Bool
  | .key => true
  | .value => true
  | .blockEnd => true
  | _ => false

def endsIndentless : Token → Bool
  | .entry => true
  | .key => true
  | .value => true
  | .blockEnd => true
  | _ => false

def endsFlowKey (close : Token) (t : Token) : Bool :=
  t == .value || t == .comma || t == close

def endsFlowValue (close : Token) (t : Token) : Bool :=
  t == .comma || t == close

/-- The value after a key in brackets, if its sign follows. -/
def flowValue (read : Read Node) (close : Token) : Read Node := fun s =>
  match s.tokens with
  | .value :: _ => orEmpty read (endsFlowValue close) (drop s)
  | _ => some (Node.empty, s)

/-- Entries of a block sequence up to its end. -/
def entries (read : Read Node) : Nat → List Node → Read (List Node)
  | 0, _, _ => none
  | fuel + 1, items, s =>
    match s.tokens with
    | .entry :: _ => do
      let (node, s) ← orEmpty read endsEntry (drop s)
      entries read fuel (node :: items) s
    | .blockEnd :: _ => some (items.reverse, drop s)
    | _ => none

/-- Entries of a sequence that is not indented against its key. -/
def indentlessEntries (read : Read Node) : Nat → List Node → Read (List Node)
  | 0, _, _ => none
  | fuel + 1, items, s =>
    match s.tokens with
    | .entry :: _ => do
      let (node, s) ← orEmpty read endsIndentless (drop s)
      indentlessEntries read fuel (node :: items) s
    | _ => some (items.reverse, s)

/-- Keys and values of a block mapping up to its end. -/
def pairs (read : Read Node) : Nat → List (Node × Node) → Read (List (Node × Node))
  | 0, _, _ => none
  | fuel + 1, items, s =>
    match s.tokens with
    | .key :: _ => do
      let (key, s) ← orEmpty read endsPart (drop s)
      match s.tokens with
      | .value :: _ =>
        let (value, s) ← orEmpty read endsPart (drop s)
        pairs read fuel ((key, value) :: items) s
      | _ => pairs read fuel ((key, Node.empty) :: items) s
    | .blockEnd :: _ => some (items.reverse, drop s)
    | _ => none

/-- The comma that has to stand in front of every item in brackets but the first. -/
def separator (isFirst : Bool) (s : State) : Option State :=
  if isFirst then some s
  else match s.tokens with
    | .comma :: _ => some (drop s)
    | _ => none

/-- Items in square brackets up to the closing one; a key among them is a mapping of its own. -/
def flowItems (read : Read Node) : Nat → List Node → Read (List Node)
  | 0, _, _ => none
  | fuel + 1, items, s =>
    if s.tokens.head? = some .closeBracket then some (items.reverse, drop s)
    else do
      let s ← separator items.isEmpty s
      match s.tokens with
      | .closeBracket :: _ => some (items.reverse, drop s)
      | .key :: _ =>
        let (key, s) ← orEmpty read (endsFlowKey .closeBracket) (drop s)
        let (value, s) ← flowValue read .closeBracket s
        flowItems read fuel (.mapping none [(key, value)] :: items) s
      | _ =>
        let (node, s) ← read s
        flowItems read fuel (node :: items) s

/-- Keys and values in braces up to the closing one. -/
def flowPairs (read : Read Node) : Nat → List (Node × Node) → Read (List (Node × Node))
  | 0, _, _ => none
  | fuel + 1, items, s =>
    if s.tokens.head? = some .closeBrace then some (items.reverse, drop s)
    else do
      let s ← separator items.isEmpty s
      match s.tokens with
      | .closeBrace :: _ => some (items.reverse, drop s)
      | .key :: _ =>
        let (key, s) ← orEmpty read (endsFlowKey .closeBrace) (drop s)
        let (value, s) ← flowValue read .closeBrace s
        flowPairs read fuel ((key, value) :: items) s
      | _ =>
        let (key, s) ← read s
        flowPairs read fuel ((key, Node.empty) :: items) s

mutual

/-- Reads a node in a block, containers nested at most `depth` deep. Where a key's value is
wanted, a sequence may stand at the column of the key. -/
def blockNode (depth : Nat) (indentless : Bool) : Read Node :=
  match depth with
  | 0 => fun _ => none
  | depth + 1 => anchored (fun s => blockBody depth indentless s) (startsBlock indentless)

def blockBody (depth : Nat) (indentless : Bool) (s : State) : Option (Node × State) :=
  match depth with
  | 0 =>
    match s.tokens with
    | .scalar style text :: _ => some (.scalar none style text, drop s)
    | _ => none
  | depth + 1 =>
    let fuel := s.tokens.length + 1
    match s.tokens with
    | .scalar style text :: _ => some (.scalar none style text, drop s)
    | .entry :: _ =>
      if indentless then
        (indentlessEntries (blockNode depth false) fuel [] s).map fun (items, s) =>
          (.sequence none items, s)
      else none
    | .sequenceStart :: _ =>
      (entries (blockNode depth false) fuel [] (drop s)).map fun (items, s) =>
        (.sequence none items, s)
    | .mappingStart :: _ =>
      (pairs (blockNode depth true) fuel [] (drop s)).map fun (items, s) =>
        (.mapping none items, s)
    | .openBracket :: _ =>
      (flowItems (flowNode depth) fuel [] (drop s)).map fun (items, s) => (.sequence none items, s)
    | .openBrace :: _ =>
      (flowPairs (flowNode depth) fuel [] (drop s)).map fun (items, s) => (.mapping none items, s)
    | _ => none

/-- Reads a node in brackets. -/
def flowNode (depth : Nat) : Read Node :=
  match depth with
  | 0 => fun _ => none
  | depth + 1 => anchored (fun s => flowBody depth s) startsFlow

def flowBody (depth : Nat) (s : State) : Option (Node × State) :=
  match depth with
  | 0 =>
    match s.tokens with
    | .scalar style text :: _ => some (.scalar none style text, drop s)
    | _ => none
  | depth + 1 =>
    let fuel := s.tokens.length + 1
    match s.tokens with
    | .scalar style text :: _ => some (.scalar none style text, drop s)
    | .openBracket :: _ =>
      (flowItems (flowNode depth) fuel [] (drop s)).map fun (items, s) => (.sequence none items, s)
    | .openBrace :: _ =>
      (flowPairs (flowNode depth) fuel [] (drop s)).map fun (items, s) => (.mapping none items, s)
    | _ => none

end

/-- The directives and marks in front of a document, and whether its content has to be looked for
after a mark. -/
def documentHead (ts : List Token) : Option (Bool × List Token) :=
  match ts.dropWhile (· == .directive) with
  | .documentStart :: rest => some (true, rest)
  | rest => if rest.length = ts.length then some (false, ts) else none

/-- Tokens after the content of a document that holds no other. -/
def isDocumentEnd (ts : List Token) : Bool :=
  ts.all (· == .documentEnd)

/-- Tokens at which a document has no content. -/
def endsDocument : Token → Bool
  | .directive => true
  | .documentStart => true
  | .documentEnd => true
  | _ => false

/-- The only document that the tokens hold. A text without any token is an empty one. -/
def document (depth : Nat) (ts : List Token) : Option Node := do
  let (isMarked, ts) ← documentHead ts
  if ts.isEmpty then return .empty
  let read : Read Node := blockNode (2 * depth + 2) false
  let s : State := ⟨.empty, ts⟩
  let (node, s) ← if isMarked then orEmpty read endsDocument s else read s
  if isDocumentEnd s.tokens then some node else none

end Reader
end Yaml
end Scaffold
