/-
Texts laid out in lines. A text is words with places to break, in nested boxes: a box that fits in
the line is not broken; of one that does not fit, either every place is broken, or each place in
front of a word that would not fit.
-/

namespace Scaffold
namespace Text

inductive Doc where
  | word (text : String)
  /-- A place to break. Unbroken it is some blanks; broken it is a mark, a line end and the
  indentation of its box less `outdent`. -/
  | gap (blanks : Nat) (mark : String) (outdent : Nat)
  /-- A line end in any case. -/
  | line (outdent : Nat)
  /-- `uniform` boxes are broken at every place or nowhere. -/
  | box (uniform : Bool) (indent : Nat) (content : List Doc)

namespace Doc

/-- The longest line, if its words allow it. -/
def margin : Nat := 89

/-- The room that every line has, however deep its indentation. -/
def leastRoom : Nat := 60

mutual

/-- The length of a text that is not broken, in bytes; none for a text with a line end. -/
def width : Doc → Option Nat
  | word text => some text.utf8ByteSize
  | gap blanks _ _ => some blanks
  | line _ => none
  | box _ _ content => widths content

def widths : List Doc → Option Nat
  | [] => some 0
  | d :: rest => do return (← d.width) + (← widths rest)

end

/-- How far a text reaches before the next place to break it. Boxes in it count as unbroken. Behind
the text comes one that reaches as far as `after`. -/
def reach (after : Option Nat) : List Doc → Option Nat
  | [] => after
  | word text :: rest => (reach after rest).map (text.utf8ByteSize + ·)
  | gap _ _ _ :: _ => some 0
  | line _ :: _ => some 0
  | box _ _ content :: rest => do return (← widths content) + (← reach after rest)

/-- What is written so far, the room that is left in the line, and the blanks that are due before
the next word. -/
structure Page where
  text : String
  room : Int
  due : Nat

namespace Page

def empty : Page :=
  ⟨"", margin, 0⟩

def blanks (n : Nat) : String :=
  String.ofList (List.replicate n ' ')

def word (p : Page) (text : String) : Page :=
  ⟨p.text ++ blanks p.due ++ text, p.room - text.utf8ByteSize, 0⟩

def skip (p : Page) (n : Nat) : Page :=
  ⟨p.text, p.room - n, p.due + n⟩

/-- Ends a line; blanks at its end are not written. -/
def newLine (p : Page) (indent : Nat) : Page :=
  ⟨p.text ++ "\n", max ((margin : Int) - indent) leastRoom, indent⟩

/-- Whether a text of the given length fits in the line. -/
def fits (p : Page) (length : Option Nat) : Bool :=
  length.any fun n => (n : Int) ≤ p.room

end Page

/-- How the places of a box are broken. -/
inductive Frame where
  | flat
  | uniform
  | filled
deriving DecidableEq, Repr

/-- Writes texts one behind the other. Behind them comes one that reaches as far as `after`. -/
def put (frame : Frame) (indent : Nat) (after : Option Nat) (p : Page) : List Doc → Page
  | [] => p
  | word text :: rest => put frame indent after (p.word text) rest
  | line outdent :: rest => put frame indent after (p.newLine (indent - outdent)) rest
  | gap blanks mark outdent :: rest =>
    let fits := match frame with
      | .flat => true
      | .uniform => false
      | .filled => p.fits ((reach after rest).map (blanks + ·))
    if fits then put frame indent after (p.skip blanks) rest
    else
      let p := if mark.isEmpty then p else p.word mark
      put frame indent after (p.newLine (indent - outdent)) rest
  | box uniform step content :: rest =>
    let behind := reach after rest
    let whole : Option Nat := do return (← widths content) + (← behind)
    let p :=
      if p.fits whole then put .flat indent behind p content
      else put (if uniform then .uniform else .filled) (indent + step) behind p content
    put frame indent after p rest

/-- The text in lines. -/
def render (d : Doc) : String :=
  (put .filled 0 (some 0) .empty [d]).text

/-- Places between the items of a list: a comma and a blank, and behind the last item a comma only
where it ends a line. -/
def commas : List Doc → List Doc
  | [] => []
  | [d] => [d, gap 0 "," 0]
  | d :: rest => d :: word "," :: gap 1 "" 0 :: commas rest

end Doc
end Text
end Scaffold
