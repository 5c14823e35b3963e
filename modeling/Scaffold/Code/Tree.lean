/-
Source code as trees: words, signs and literals, and groups of them between brackets. Comments are
left out, and those that document something are kept as the attribute they stand for.
-/
import Scaffold.Code.Literal
import Scaffold.Text.Blank

namespace Scaffold
namespace Code

inductive Bracket where
  | round
  | square
  | curly
deriving DecidableEq, Repr

inductive Tree where
  /-- A keyword or a name; a name that would be a keyword is written with `r#`. -/
  | word (text : String)
  /-- A sign of one character, and whether the next sign stands directly behind it. -/
  | sign (c : Char) (joined : Bool)
  | literal (l : Literal)
  | group (bracket : Bracket) (content : List Tree)
deriving Repr

/-- A tree, or one of the brackets around trees. -/
inductive Piece where
  | tree (t : Tree)
  | opening (bracket : Bracket)
  | closing (bracket : Bracket)

def bracketOf? : Char → Option Piece
  | '(' => some (.opening .round)
  | '[' => some (.opening .square)
  | '\x7b' => some (.opening .curly)
  | ')' => some (.closing .round)
  | ']' => some (.closing .square)
  | '\x7d' => some (.closing .curly)
  | _ => none

/-! ## Comments -/

/-- The inside of a block comment after its start, and what follows it. Comments nest. -/
def takeBlock : Nat → List Char → Option (List Char × List Char)
  | _, [] => none
  | _, [_] => none
  | depth, a :: b :: rest =>
    if a == '/' && b == '*' then more [a, b] (takeBlock (depth + 1) rest)
    else if a == '*' && b == '/' then
      match depth with
      | 0 => some ([], rest)
      | depth + 1 => more [a, b] (takeBlock depth rest)
    else more [a] (takeBlock depth (b :: rest))
where
  more (read : List Char) (later : Option (List Char × List Char)) :
      Option (List Char × List Char) :=
    later.map fun (text, rest) => (read ++ text, rest)

/-- The rest of a line, and what follows it. -/
def takeLine : List Char → List Char × List Char
  | [] => ([], [])
  | '\n' :: rest => ([], '\n' :: rest)
  | '\r' :: '\n' :: rest => ([], '\n' :: rest)
  | c :: rest =>
    let (line, rest) := takeLine rest
    (c :: line, rest)

/-- White space and the two marks that set the direction of writing. -/
def isGap (c : Char) : Bool :=
  Text.isBlank c || c == '\u200e' || c == '\u200f'

/-- What follows a blank, or a comment that documents nothing. -/
def afterGap? : List Char → Option (List Char)
  | '/' :: '/' :: '/' :: '/' :: rest => some (takeLine rest).2
  | '/' :: '/' :: '/' :: _ => none
  | '/' :: '/' :: '!' :: _ => none
  | '/' :: '/' :: rest => some (takeLine rest).2
  | '/' :: '*' :: '*' :: '/' :: rest => some rest
  | '/' :: '*' :: '*' :: '*' :: rest => (takeBlock 0 ('*' :: '*' :: rest)).map (·.2)
  | '/' :: '*' :: '*' :: _ => none
  | '/' :: '*' :: '!' :: _ => none
  | '/' :: '*' :: rest => (takeBlock 0 rest).map (·.2)
  | c :: rest => if isGap c then some rest else none
  | [] => none

/-- What follows all blanks and comments that document nothing. -/
def skipGaps : Nat → List Char → List Char
  | 0, cs => cs
  | fuel + 1, cs =>
    match afterGap? cs with
    | some rest => skipGaps fuel rest
    | none => cs

/-- Reads a comment that documents: its text, whether it documents what it stands in, and what
follows. -/
def takeDocument? (cs : List Char) : Option (List Char × Bool × List Char) :=
  let line := fun (rest : List Char) (inner : Bool) =>
    let (text, rest) := takeLine rest
    some (text, inner, rest)
  let block := fun (rest : List Char) (inner : Bool) =>
    (takeBlock 0 rest).map fun (text, rest) => (text, inner, rest)
  match cs with
  | '/' :: '/' :: '!' :: rest => line rest true
  | '/' :: '/' :: '/' :: rest => if rest.head? == some '/' then none else line rest false
  | '/' :: '*' :: '!' :: rest => block rest true
  | '/' :: '*' :: '*' :: rest => if rest.head? == some '*' then none else block rest false
  | _ => none

/-- Whether each carriage return stands in front of a line feed. -/
def endsLinesWell : List Char → Bool
  | [] => true
  | '\r' :: '\n' :: rest => endsLinesWell rest
  | '\r' :: _ => false
  | _ :: rest => endsLinesWell rest

/-- The attribute that a comment stands for. Its literal is written as nothing, because it is
nowhere in the source. -/
def documentTrees (text : List Char) (inner : Bool) : List Tree :=
  [.sign '#' false] ++ (if inner then [.sign '!' false] else []) ++
    [.group .square [.word "doc", .sign '=' false,
      .literal ⟨"", .text (String.ofList text)⟩]]

/-! ## Signs and words -/

def isSign (c : Char) : Bool :=
  "~!@#$%^&*-=+|;:,<.>/?'".toList.contains c

def startsSign : List Char → Bool
  | '/' :: '/' :: _ => false
  | '/' :: '*' :: _ => false
  | c :: _ => isSign c
  | [] => false

/-- Words that no name can be, not even with `r#`. -/
def neverNames : List String :=
  ["_", "super", "self", "Self", "crate"]

/-- Reads a word, with `r#` in front or without. -/
def takeName (cs : List Char) : Option (List Char × List Char) :=
  match cs with
  | 'r' :: '#' :: rest =>
    let (name, rest) := takeWord rest
    if name.isEmpty || neverNames.contains (String.ofList name) then none
    else some ('r' :: '#' :: name, rest)
  | _ =>
    let (name, rest) := takeWord cs
    if name.isEmpty then none else some (name, rest)

/-- Starts of quoted texts, which no word may look like. -/
def quotedStarts : List String :=
  ["r\"", "r#\"", "r##", "b\"", "b'", "br\"", "br#", "c\"", "cr\"", "cr#"]

/-- Reads a sign. A single quote is one in front of the name of a lifetime only. -/
def takeSign (cs : List Char) : Option (Tree × List Char) :=
  match cs with
  | '\'' :: rest =>
    match takeName rest with
    | some (name, after) =>
      if after.head? == some '\'' || (after.head? == some '#' && name.take 2 != ['r', '#']) then none
      else some (.sign '\'' true, rest)
    | none => none
  | c :: rest => if startsSign cs then some (.sign c (startsSign rest), rest) else none
  | [] => none

def takeLeaf (cs : List Char) : Option (Tree × List Char) :=
  match takeLiteral cs with
  | some (l, rest) => some (.literal l, rest)
  | none =>
    match takeSign cs with
    | some (t, rest) => some (t, rest)
    | none =>
      if quotedStarts.any (·.toList.isPrefixOf cs) then none
      else (takeName cs).map fun (name, rest) => (.word (String.ofList name), rest)

/-! ## Trees -/

/-- The pieces of a source; none if something in it is no piece. -/
def pieces? : Nat → List Char → Option (List Piece)
  | 0, _ => none
  | fuel + 1, cs =>
    match skipGaps cs.length cs with
    | [] => some []
    | c :: rest =>
      match takeDocument? (c :: rest) with
      | some (text, inner, rest) =>
        if endsLinesWell text then
          (pieces? fuel rest).map ((documentTrees text inner).map Piece.tree ++ ·)
        else none
      | none =>
        match bracketOf? c with
        | some piece => (pieces? fuel rest).map (piece :: ·)
        | none => do
          let (t, rest) ← takeLeaf (c :: rest)
          return .tree t :: (← pieces? fuel rest)

/-- Groups pieces by their brackets, from the end of the source to its start: `done` are the trees
read so far, and each bracket of `closed` waits for its opening, with the trees behind it. -/
def group? (done : List Tree) (closed : List (Bracket × List Tree)) :
    List Piece → Option (List Tree)
  | [] => if closed.isEmpty then some done else none
  | .tree t :: rest => group? (t :: done) closed rest
  | .closing b :: rest => group? [] ((b, done) :: closed) rest
  | .opening b :: rest =>
    match closed with
    | (c, outer) :: closed => if b = c then group? (.group b done :: outer) closed rest else none
    | [] => none

def trees? (cs : List Char) : Option (List Tree) := do
  let pieces ← pieces? (cs.length + 1) cs
  group? [] [] pieces.reverse

end Code
end Scaffold
