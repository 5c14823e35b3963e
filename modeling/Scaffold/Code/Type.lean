/-
Types as source code writes them, and the type expression that each stands for.
-/
import Scaffold.Code.Tree
import Scaffold.Text.Split

namespace Scaffold
namespace Code

mutual

inductive Ty where
  /-- A path; `leading` says that it starts with a separator. -/
  | path (leading : Bool) (segments : List Segment)
  /-- A path in a type, `<T as A::B>::C`: the first `inside` segments are between the brackets. -/
  | member (owner : Ty) (inside : Nat) (segments : List Segment)
  | reference (lifetime : Option String) (mutable : Bool) (target : Ty)
  | slice (element : Ty)
  | array (element : Ty) (length : List Tree)
  | paren (inner : Ty)
  | tuple (elements : List Ty)
  | pointer (mutable : Bool) (target : Ty)
  | never
  | infer
  /-- Functions, traits and macros, of which no more is known. -/
  | other

inductive Segment where
  | mk (name : String) (arguments : Arguments)

inductive Arguments where
  | absent
  | angled (arguments : List Argument)
  /-- Inputs and output, as traits of functions are written. -/
  | round (inputs : List Ty) (output : Option Ty)

inductive Argument where
  | type (t : Ty)
  | lifetime (name : String)
  | constant (value : List Tree)
  /-- An associated item that is given or constrained. -/
  | binding

end

def Segment.name : Segment → String
  | .mk name _ => name

def Segment.arguments : Segment → Arguments
  | .mk _ arguments => arguments

/-- Whether a path is no more than names. -/
def Segment.isPlain (s : Segment) : Bool :=
  match s.arguments with
  | .absent => true
  | _ => false

mutual

/-- The type expression of a type: references and parentheses leave no trace, arrays and slices are
lists, and a path is written with its type arguments. Other types have none. -/
def Ty.text? : Ty → Option String
  | .path _ segments => (segmentTexts? segments).map (Text.join "::")
  | .member _ _ segments => (segmentTexts? segments).map (Text.join "::")
  | .reference _ _ target => target.text?
  | .paren inner => inner.text?
  | .slice element => element.text?.map (· ++ "[]")
  | .array element _ => element.text?.map (· ++ "[]")
  | .tuple _ | .pointer _ _ | .never | .infer | .other => none

def segmentTexts? : List Segment → Option (List String)
  | [] => some []
  | s :: rest => do
    let text ← s.text?
    return text :: (← segmentTexts? rest)

def Segment.text? : Segment → Option String
  | .mk name (.angled arguments) =>
    (argumentTexts? arguments).map fun texts =>
      if texts.isEmpty then name else name ++ "<" ++ Text.join ", " texts ++ ">"
  | .mk name _ => some name

/-- The texts of the arguments that are types. -/
def argumentTexts? : List Argument → Option (List String)
  | [] => some []
  | .type t :: rest => do
    let text ← t.text?
    return text :: (← argumentTexts? rest)
  | _ :: rest => argumentTexts? rest

end

end Code
end Scaffold
