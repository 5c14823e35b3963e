/-
Tokens of block and flow documents. Indentation opens and closes blocks; a text followed by a
colon on its line becomes a key, which is known only when the colon is seen, so the marks that
belong in front of it are put there afterwards.
-/
import Scaffold.Text.Natural

namespace Scaffold
namespace Yaml

/-- How a scalar is written: plain scalars may be numbers, flags or null, others are texts. -/
inductive Style where
  | plain
  | quoted
deriving DecidableEq, Repr

inductive Token where
  | directive
  | documentStart
  | documentEnd
  | sequenceStart
  | mappingStart
  | blockEnd
  | openBracket
  | closeBracket
  | openBrace
  | closeBrace
  | comma
  | entry
  | key
  | value
  | reference (name : String)
  | anchor (name : String)
  | tag (handle suffix : String)
  | scalar (style : Style) (text : String)
deriving DecidableEq, Repr

/-- A place where a key may have started. -/
structure KeyStart where
  /-- A colon has to follow. -/
  isRequired : Bool
  /-- The number of tokens in front of it. -/
  token : Nat
  index : Nat
  line : Nat
  column : Nat
deriving Repr

structure Scanner where
  rest : List Char
  index : Nat
  line : Nat
  column : Nat
  /-- The column of the innermost block; below zero outside of all blocks. -/
  indent : Int
  /-- The columns of the blocks around it. -/
  indents : List Int
  /-- A key may start here. -/
  allowKey : Bool
  /-- Possible key starts, one for each bracket that is open and one for the block. -/
  keys : List (Option KeyStart)
  /-- The tokens so far, in reverse. -/
  tokens : List Token
  count : Nat

namespace Scanner

def start (cs : List Char) : Scanner :=
  ⟨cs, 0, 0, 0, -1, [], true, [none], [], 0⟩

def isBreak (c : Char) : Bool :=
  c == '\n' || c == '\r' || c == '\u0085' || c == '\u2028' || c == '\u2029'

def isBlank (c : Char) : Bool :=
  c == ' ' || c == '\t'

def isGap (c : Char) : Bool :=
  isBlank c || isBreak c

/-- Nothing follows, or a blank or a line end. -/
def atGap : List Char → Bool
  | [] => true
  | c :: _ => isGap c

def atBreak : List Char → Bool
  | [] => true
  | c :: _ => isBreak c

/-- Characters a document may contain. -/
def isAllowed (c : Char) : Bool :=
  let n := c.toNat
  n == 9 || n == 10 || n == 13 || (0x20 ≤ n && n ≤ 0x7e) || n == 0x85 ||
    (0xa0 ≤ n && n ≠ 0xfffe && n ≠ 0xffff)

/-- Whether brackets are open. -/
def inFlow (s : Scanner) : Bool :=
  s.keys.length > 1

/-- Passes over characters of one line. -/
def skip (n : Nat) (s : Scanner) : Scanner :=
  { s with rest := s.rest.drop n, index := s.index + n, column := s.column + n }

/-- The line end at the start of the characters, in normal form, and what follows it. -/
def takeBreak : List Char → List Char × List Char
  | '\r' :: '\n' :: rest => (['\n'], rest)
  | c :: rest =>
    if c == '\n' || c == '\r' || c == '\u0085' then (['\n'], rest) else ([c], rest)
  | [] => ([], [])

def skipBreak (s : Scanner) : Scanner :=
  let (_, rest) := takeBreak s.rest
  { s with
    rest := rest
    index := s.index + (s.rest.length - rest.length)
    line := s.line + 1
    column := 0 }

def push (t : Token) (s : Scanner) : Scanner :=
  { s with tokens := t :: s.tokens, count := s.count + 1 }

/-- Puts a token behind the first `n`. -/
def insertAt (n : Nat) (t : Token) (s : Scanner) : Scanner :=
  let later := s.count - n
  { s with tokens := s.tokens.take later ++ t :: s.tokens.drop later, count := s.count + 1 }

/-- Opens a block at a column right of the current one. -/
def openBlock (column : Nat) (position : Nat) (t : Token) (s : Scanner) : Scanner :=
  if s.inFlow || !(s.indent < column) then s
  else insertAt position t { s with indent := column, indents := s.indent :: s.indents }

/-- Closes the blocks right of a column. -/
def closeBlocks (column : Int) (s : Scanner) : Scanner :=
  if s.inFlow then s
  else
    let rec go : List Int → Scanner → Scanner
      | [], s => s
      | outer :: indents, s =>
        if s.indent > column then
          go indents (push .blockEnd { s with indent := outer, indents := indents })
        else s
    go s.indents s

def setKey (key : Option KeyStart) (s : Scanner) : Scanner :=
  { s with keys := key :: s.keys.drop 1 }

/-- Key starts that are too far back are given up; a required one must not be. -/
def dropStaleKeys (s : Scanner) : Option Scanner :=
  let isStale := fun k : KeyStart => k.line < s.line || k.index + 1024 < s.index
  if s.keys.any (·.any fun k => isStale k && k.isRequired) then none
  else some { s with keys := s.keys.map (·.filter (!isStale ·)) }

/-- Gives up the current key start; a required one must not be. -/
def removeKey (s : Scanner) : Option Scanner :=
  match s.keys.head?.join with
  | some k => if k.isRequired then none else some (s.setKey none)
  | none => some s

/-- Notes that a key may start here. -/
def saveKey (s : Scanner) : Option Scanner :=
  if s.allowKey then
    let isRequired := !s.inFlow && s.indent == s.column
    (removeKey s).map (setKey (some ⟨isRequired, s.count, s.index, s.line, s.column⟩))
  else some s

/-- Passes over blanks, comments and line ends. A tab is a blank only where no key may start. -/
def skipToToken : Nat → Scanner → Scanner
  | 0, s => s
  | fuel + 1, s =>
    let s := if s.column = 0 && s.index = 0 && s.rest.head? = some '\ufeff' then
      { s with rest := s.rest.drop 1, index := 1 } else s
    let isSkipped := fun c => c == ' ' || (c == '\t' && (s.inFlow || !s.allowKey))
    let s := skip (s.rest.takeWhile isSkipped).length s
    let s := match s.rest with
      | '#' :: _ => skip (s.rest.takeWhile (!isBreak ·)).length s
      | _ => s
    match s.rest with
    | [] => s
    | c :: _ =>
      if isBreak c then
        let s := skipBreak s
        skipToToken fuel (if s.inFlow then s else { s with allowKey := true })
      else s

/-- Blank text and line ends between two parts of a scalar, as they are read. -/
structure Fold where
  blanks : List Char
  /-- The first line end; none if there was none yet. -/
  first : List Char
  /-- The line ends after it. -/
  later : List Char
  hasBreak : Bool

def Fold.none : Fold :=
  ⟨[], [], [], false⟩

/-- What the gap stands for: blanks for themselves, one line end for a space, more of them for
all but the first. -/
def Fold.text (f : Fold) : List Char :=
  if f.hasBreak then
    match f.first with
    | ['\n'] => if f.later.isEmpty then [' '] else f.later
    | first => first ++ f.later
  else f.blanks

/-- Reads blanks and line ends. With `indent`, a tab in front of that column is a fault. -/
def takeGap (indent : Option Nat) : Nat → Fold → Scanner → Option (Fold × Scanner)
  | 0, f, s => some (f, s)
  | fuel + 1, f, s =>
    match s.rest with
    | [] => some (f, s)
    | c :: _ =>
      if isBlank c then
        if f.hasBreak && c == '\t' && indent.any (s.column < ·) then Option.none
        else
          let f := if f.hasBreak then f else { f with blanks := f.blanks ++ [c] }
          takeGap indent fuel f (skip 1 s)
      else if isBreak c then
        let (lineEnd, _) := takeBreak s.rest
        let f := if f.hasBreak then { f with later := f.later ++ lineEnd }
          else { f with blanks := [], first := lineEnd, hasBreak := true }
        takeGap indent fuel f (skipBreak s)
      else some (f, s)

/-- Three dashes or dots at the start of a line, with nothing attached. -/
def atDocumentMark (s : Scanner) : Bool :=
  s.column == 0 &&
    match s.rest with
    | '-' :: '-' :: '-' :: rest => atGap rest
    | '.' :: '.' :: '.' :: rest => atGap rest
    | _ => false

/-- Marks that end a plain scalar between brackets. -/
def isFlowMark (c : Char) : Bool :=
  c == ',' || c == '[' || c == ']' || c == '\x7b' || c == '\x7d'

/-- The characters of a plain scalar up to the next gap; a colon in front of a bracket is a
fault. -/
def takePlainPart (inFlow : Bool) : List Char → Option (List Char)
  | [] => some []
  | c :: rest =>
    if isGap c then some []
    else if inFlow && c == ':' && (rest.head?.any fun d => isFlowMark d || d == '?') then Option.none
    else if (c == ':' && atGap rest) || (inFlow && isFlowMark c) then some []
    else (takePlainPart inFlow rest).map (c :: ·)

/-- Reads a plain scalar, which may go on over several lines as far as they are indented. -/
def takePlain (indent : Nat) : Nat → Fold → List Char → Scanner → Option (List Char × Scanner)
  | 0, _, _, _ => Option.none
  | fuel + 1, fold, text, s =>
    if atDocumentMark s || s.rest.head? = some '#' then finish fold text s
    else do
      let part ← takePlainPart s.inFlow s.rest
      if part.isEmpty then finish fold text s
      else
        let text := text ++ fold.text ++ part
        let s := skip part.length s
        match s.rest with
        | c :: _ =>
          if isGap c then
            let (fold, s) ← takeGap (some indent) (s.rest.length + 1) Fold.none s
            if !s.inFlow && s.column < indent then finish fold text s
            else takePlain indent fuel fold text s
          else finish Fold.none text s
        | [] => finish Fold.none text s
where
  finish (fold : Fold) (text : List Char) (s : Scanner) : Option (List Char × Scanner) :=
    some (text, if fold.hasBreak then { s with allowKey := true } else s)

def hexNumber? (cs : List Char) : Option Nat :=
  cs.foldlM (fun n c => (Text.hexDigit? c).map (16 * n + ·)) 0

/-- The character meant by a letter after a backslash, and how many digits name it if none is
meant by the letter alone. -/
def escape? (c : Char) : Option (Char ⊕ Nat) :=
  match c with
  | '0' => some (.inl '\x00')
  | 'a' => some (.inl '\x07')
  | 'b' => some (.inl '\x08')
  | 't' => some (.inl '\t')
  | '\t' => some (.inl '\t')
  | 'n' => some (.inl '\n')
  | 'v' => some (.inl '\x0b')
  | 'f' => some (.inl '\x0c')
  | 'r' => some (.inl '\r')
  | 'e' => some (.inl '\x1b')
  | ' ' => some (.inl ' ')
  | '"' => some (.inl '"')
  | '/' => some (.inl '/')
  | '\\' => some (.inl '\\')
  | 'N' => some (.inl '\u0085')
  | '_' => some (.inl '\u00a0')
  | 'L' => some (.inl '\u2028')
  | 'P' => some (.inl '\u2029')
  | 'x' => some (.inr 2)
  | 'u' => some (.inr 4)
  | 'U' => some (.inr 8)
  | _ => Option.none

/-- One character, or an escape, of a quoted scalar: what it stands for and how long it is. -/
def takeQuotedChar (double : Bool) : List Char → Option (List Char × Nat)
  | '\x27' :: '\x27' :: _ => if double then some (['\x27'], 1) else some (['\x27'], 2)
  | '\\' :: c :: rest =>
    if double then
      match escape? c with
      | some (.inl d) => some ([d], 2)
      | some (.inr n) => do
        if rest.length < n then Option.none
        let code ← hexNumber? (rest.take n)
        if code > 0x10ffff ∨ (0xd800 ≤ code ∧ code ≤ 0xdfff) then Option.none
        some ([Char.ofNat code], 2 + n)
      | Option.none => Option.none
    else some (['\\'], 1)
  | '\\' :: [] => if double then Option.none else some (['\\'], 1)
  | c :: _ => some ([c], 1)
  | [] => Option.none

/-- Reads a quoted scalar after its opening quote. -/
def takeQuoted (double : Bool) : Nat → List Char → Scanner → Option (List Char × Scanner)
  | 0, _, _ => Option.none
  | fuel + 1, text, s =>
    if atDocumentMark s then Option.none
    else match s.rest with
    | [] => Option.none
    | c :: rest =>
      if isGap c then do
        let (fold, s) ← takeGap Option.none (s.rest.length + 1) Fold.none s
        takeQuoted double fuel (text ++ fold.text) s
      else if c == (if double then '"' else '\x27') && (double || rest.head? ≠ some '\x27') then
        some (text, skip 1 s)
      else if double && c == '\\' && !rest.isEmpty && atBreak rest then do
        let s := skipBreak (skip 1 s)
        let (fold, s) ← takeGap Option.none (s.rest.length + 1) ⟨[], [], [], true⟩ s
        takeQuoted double fuel (text ++ fold.text) s
      else do
        let (part, n) ← takeQuotedChar double s.rest
        takeQuoted double fuel (text ++ part) (skip n s)

/-- Reads the empty lines in front of a line of a block scalar. While the indentation is not
known, the widest line so far is noted. -/
def takeEmptyLines (indent : Nat) :
    Nat → List Char → Nat → Scanner → Option (List Char × Nat × Scanner)
  | 0, _, _, _ => Option.none
  | fuel + 1, lines, widest, s =>
    let inside := fun column => indent == 0 || column < indent
    let spaces := s.rest.takeWhile (· == ' ')
    let n := if indent == 0 then spaces.length else min spaces.length (indent - s.column)
    let s := skip n s
    let widest := max widest s.column
    match s.rest with
    | [] => some (lines, widest, s)
    | c :: _ =>
      if inside s.column && c == '\t' then Option.none
      else if isBreak c then
        takeEmptyLines indent fuel (lines ++ (takeBreak s.rest).1) widest (skipBreak s)
      else some (lines, widest, s)

/-- Reads the lines of a block scalar. `lineEnd` is the end of the line before, `empty` the empty
lines after it, and `wasBlank` holds if that line began with a blank. -/
def takeBlockLines (literal : Bool) (indent : Nat) :
    Nat → List Char → List Char → List Char → Bool → Scanner →
      Option (List Char × List Char × List Char × Scanner)
  | 0, _, _, _, _, _ => Option.none
  | fuel + 1, text, lineEnd, empty, wasBlank, s =>
    if s.column ≠ indent || s.rest.isEmpty then some (text, lineEnd, empty, s)
    else do
      let isBlankLine := s.rest.head?.any isBlank
      let joint :=
        if !literal && lineEnd == ['\n'] && !wasBlank && !isBlankLine then
          if empty.isEmpty then [' '] else []
        else lineEnd
      let line := s.rest.takeWhile (!isBreak ·)
      let s := skip line.length s
      let (lineEnd, _) := takeBreak s.rest
      let s := if s.rest.isEmpty then s else skipBreak s
      let text := text ++ joint ++ empty ++ line
      let (empty, _, s) ← takeEmptyLines indent (s.rest.length + 1) [] 0 s
      takeBlockLines literal indent fuel text lineEnd empty isBlankLine s

/-- What happens to the line ends at the end of a block scalar. -/
inductive Chomp where
  | strip
  | clip
  | keep
deriving DecidableEq, Repr

/-- The marks after the sign of a block scalar, in either order. -/
def takeBlockMarks (cs : List Char) : Option (Chomp × Nat × Nat) :=
  let chomp? := fun c : Char =>
    if c == '+' then some Chomp.keep else if c == '-' then some Chomp.strip else Option.none
  match cs with
  | c :: d :: _ =>
    match chomp? c, c.isDigit, chomp? d, d.isDigit with
    | some m, _, _, true => if d == '0' then Option.none else some (m, d.toNat - 48, 2)
    | some m, _, _, false => some (m, 0, 1)
    | Option.none, true, some m, _ => if c == '0' then Option.none else some (m, c.toNat - 48, 2)
    | Option.none, true, Option.none, _ =>
      if c == '0' then Option.none else some (.clip, c.toNat - 48, 1)
    | _, _, _, _ => some (.clip, 0, 0)
  | [c] =>
    match chomp? c, c.isDigit with
    | some m, _ => some (m, 0, 1)
    | Option.none, true => if c == '0' then Option.none else some (.clip, c.toNat - 48, 1)
    | _, _ => some (.clip, 0, 0)
  | [] => some (.clip, 0, 0)

def takeBlock (literal : Bool) (s : Scanner) : Option (List Char × Scanner) := do
  let (chomp, width, n) ← takeBlockMarks s.rest
  let s := skip n s
  let s := skip (s.rest.takeWhile isBlank).length s
  let s := if s.rest.head? = some '#' then skip (s.rest.takeWhile (!isBreak ·)).length s else s
  if !atBreak s.rest then Option.none
  let s := if s.rest.isEmpty then s else skipBreak s
  let outer := s.indent
  let given := if width = 0 then 0 else (if 0 ≤ outer then outer.toNat + width else width)
  let (empty, widest, s) ← takeEmptyLines given (s.rest.length + 1) [] 0 s
  let indent := if given ≠ 0 then given else max (max widest (outer + 1).toNat) 1
  let (text, lineEnd, empty, s) ←
    takeBlockLines literal indent (s.rest.length + 1) [] [] empty false s
  let text := match chomp with
    | .strip => text
    | .clip => text ++ lineEnd
    | .keep => text ++ lineEnd ++ empty
  some (text, s)

def isWordChar (c : Char) : Bool :=
  c.isAlphanum || c == '_' || c == '-'

/-- The name after an anchor or alias sign; something has to separate it from what follows. -/
def takeAnchorName (cs : List Char) : Option (List Char) :=
  let name := cs.takeWhile isWordChar
  let after := cs.drop name.length
  let isSeparated := match after with
    | [] => true
    | c :: _ => isGap c || "?:,]\x7d%@\x60".toList.contains c
  if name.isEmpty || !isSeparated then Option.none else some name

def isTagChar (c : Char) : Bool :=
  isWordChar c || ";/?:@&=+$.!~*'()%".toList.contains c

/-- The handle, the rest and the length of a tag. -/
def takeTag (inFlow : Bool) (cs : List Char) : Option (String × String × Nat) := do
  let body := cs.drop 1
  let (handle, suffix, n) ← match body with
    | '<' :: rest =>
      let uri := rest.takeWhile fun c => isTagChar c || c == ',' || c == '[' || c == ']'
      if uri.isEmpty || rest[uri.length]? ≠ some '>' then Option.none
      else some ("", String.ofList uri, uri.length + 3)
    | _ =>
      let word := body.takeWhile isWordChar
      if body[word.length]? = some '!' then
        let suffix := (body.drop (word.length + 1)).takeWhile isTagChar
        if suffix.isEmpty then Option.none
        else some ("!" ++ String.ofList word ++ "!", String.ofList suffix,
          word.length + 2 + suffix.length)
      else
        let suffix := body.takeWhile isTagChar
        some ("!", String.ofList suffix, 1 + suffix.length)
  let after := cs.drop n
  if atGap after || (inFlow && after.head? = some ',') then some (handle, suffix, n)
  else Option.none

/-- A single-character token that opens or closes brackets or separates what is in them. -/
def flowToken? (c : Char) : Option Token :=
  if c == '[' then some .openBracket
  else if c == ']' then some .closeBracket
  else if c == '\x7b' then some .openBrace
  else if c == '\x7d' then some .closeBrace
  else if c == ',' then some .comma
  else Option.none

def takeFlow (t : Token) (s : Scanner) : Option Scanner := do
  match t with
  | .comma => return push t (skip 1 { (← removeKey s) with allowKey := true })
  | .openBracket | .openBrace =>
    let s ← saveKey s
    return push t (skip 1 { s with keys := Option.none :: s.keys, allowKey := true })
  | _ =>
    let s ← removeKey s
    let keys := if s.inFlow then s.keys.drop 1 else s.keys
    return push t (skip 1 { s with keys := keys, allowKey := false })

def takeEntry (s : Scanner) : Option Scanner := do
  if !s.inFlow && !s.allowKey then Option.none
  let s := openBlock s.column s.count .sequenceStart s
  return push .entry (skip 1 { (← removeKey s) with allowKey := true })

/-- Reads the sign of a key that is marked as such. -/
def takeKey (s : Scanner) : Option Scanner := do
  if !s.inFlow && !s.allowKey then Option.none
  let s := openBlock s.column s.count .mappingStart s
  return push .key (skip 1 { (← removeKey s) with allowKey := !s.inFlow })

/-- Reads a colon: it makes the possible key in front of it one, or stands for itself where a key
could. -/
def takeValue (s : Scanner) : Option Scanner :=
  match s.keys.head?.join with
  | some k =>
    let s := insertAt k.token .key (setKey Option.none s)
    let s := openBlock k.column k.token .mappingStart s
    some (push .value (skip 1 { s with allowKey := false }))
  | Option.none =>
    if !s.inFlow && !s.allowKey then Option.none
    else
      let s := openBlock s.column s.count .mappingStart s
      some (push .value (skip 1 { s with allowKey := !s.inFlow }))

/-- Reads a token that may be a key or the start of one. -/
def takeNode (read : Scanner → Option (Token × Scanner)) (s : Scanner) : Option Scanner := do
  let s ← saveKey s
  let (t, s) ← read { s with allowKey := false }
  return push t s

/-- Ends all blocks in front of a document mark. -/
def endBlocks (s : Scanner) : Option Scanner := do
  return { (← removeKey (closeBlocks (-1) s)) with allowKey := false }

/-- Characters that no plain scalar starts with. -/
def isIndicator (c : Char) : Bool :=
  "-?:,[]\x7b\x7d#&*!|>'\"%@\x60".toList.contains c

/-- Whether characters name a version that can be read, with nothing but a comment behind it. -/
def isVersion : List Char → Bool
  | '1' :: '.' :: minor :: rest =>
    let rest := rest.dropWhile isBlank
    (minor == '1' || minor == '2') && (atBreak rest || rest.head? == some '#')
  | _ => false

/-- Whether a line after a percent sign is one of the two directives there are. -/
def isDirective (cs : List Char) : Bool :=
  match cs with
  | 'Y' :: 'A' :: 'M' :: 'L' :: rest => rest.head?.any isBlank && isVersion (rest.dropWhile isBlank)
  | 'T' :: 'A' :: 'G' :: rest => rest.head?.any isBlank
  | _ => false

def takeToken (s : Scanner) : Option Scanner :=
  match s.rest with
  | [] => some s
  | c :: rest =>
    if s.column == 0 && c == '%' then
      if isDirective rest then
        (endBlocks s).map fun s =>
          push .directive (skip (s.rest.takeWhile (!isBreak ·)).length s)
      else Option.none
    else if atDocumentMark s then
      (endBlocks s).map fun s =>
        push (if c == '-' then .documentStart else .documentEnd) (skip 3 s)
    else match flowToken? c with
    | some t => takeFlow t s
    | Option.none =>
      if c == '-' && atGap rest then takeEntry s
      else if c == '?' && (s.inFlow || atGap rest) then takeKey s
      else if c == ':' && (s.inFlow || atGap rest) then takeValue s
      else if c == '*' then
        takeNode (fun s => do
          let name ← takeAnchorName (s.rest.drop 1)
          return (.reference (String.ofList name), skip (name.length + 1) s)) s
      else if c == '&' then
        takeNode (fun s => do
          let name ← takeAnchorName (s.rest.drop 1)
          return (.anchor (String.ofList name), skip (name.length + 1) s)) s
      else if c == '!' then
        takeNode (fun s => do
          let (handle, suffix, n) ← takeTag s.inFlow s.rest
          return (.tag handle suffix, skip n s)) s
      else if (c == '|' || c == '>') && !s.inFlow then do
        let s ← removeKey s
        let (text, s) ← takeBlock (c == '|') (skip 1 { s with allowKey := true })
        return push (.scalar .quoted (String.ofList text)) s
      else if c == '\x27' || c == '"' then
        takeNode (fun s => do
          let (text, s) ← takeQuoted (c == '"') (s.rest.length + 1) [] (skip 1 s)
          return (.scalar .quoted (String.ofList text), s)) s
      else if !(isGap c || isIndicator c) || (c == '-' && !(rest.head?.any isBlank)) ||
          (!s.inFlow && (c == '?' || c == ':') && !atGap rest) then
        takeNode (fun s => do
          let (text, s) ← takePlain (s.indent + 1).toNat (s.rest.length + 1) Fold.none [] s
          return (.scalar .plain (String.ofList text), s)) s
      else Option.none

def run : Nat → Scanner → Option (List Token)
  | 0, _ => Option.none
  | fuel + 1, s => do
    let s ← dropStaleKeys (skipToToken (s.rest.length + 1) s)
    let s := closeBlocks s.column s
    if s.rest.isEmpty then
      let s ← endBlocks s
      return s.tokens.reverse
    else run fuel (← takeToken s)

end Scanner

/-- The tokens of a text; none if it cannot be cut into tokens. -/
def tokens? (text : String) : Option (List Token) :=
  let cs := text.toList
  if cs.all Scanner.isAllowed then Scanner.run (2 * cs.length + 2) (Scanner.start cs) else none

end Yaml
end Scaffold
