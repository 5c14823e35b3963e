/-
Pointers into documents: segments behind slashes, in which a tilde and a slash are escaped.
-/
import Scaffold.Json.Basic
import Scaffold.Text.Natural

namespace Scaffold
namespace Json
namespace Pointer

def escapeChar (c : Char) : List Char :=
  if c = '~' then ['~', '0'] else if c = '/' then ['~', '1'] else [c]

def escape (segment : List Char) : List Char :=
  segment.flatMap escapeChar

/-- The segment that is written so: first the slashes, then the tildes are put back. -/
def unescape (written : List Char) : List Char :=
  Text.replacePair '~' '0' '~' (Text.replacePair '~' '1' '/' written)

/-- The pointer to a part of what another pointer leads to. -/
def child (base segment : String) : String :=
  base ++ "/" ++ String.ofList (escape segment.toList)

/-- The last segment of a reference. -/
def lastSegment (reference : String) : String :=
  String.ofList (unescape (Text.afterLast (· == '/') reference.toList))

/-- The index that a segment stands for in an array: digits without a zero in front. -/
def index? (segment : String) : Option Nat :=
  match segment.toList with
  | ['0'] => some 0
  | '0' :: _ => none
  | cs => Text.digits? cs

/-- The part of a value that a segment leads to. -/
def step? (value : Json) (segment : String) : Option Json :=
  match value with
  | .object members => lookup segment members
  | .array items => (index? segment).bind (items[·]?)
  | _ => none

/-- The segments of a pointer; nothing if it does not start with a slash. The empty pointer has
none and leads to the whole document. -/
def segments? (pointer : String) : Option (List String) :=
  match pointer.toList with
  | [] => some []
  | '/' :: rest =>
    some ((Text.splitWhere (· == '/') rest).map fun s => String.ofList (unescape s))
  | _ => none

/-- The part of a document that a pointer leads to. -/
def resolve? (document : Json) (pointer : String) : Option Json :=
  (segments? pointer).bind fun segments => segments.foldlM step? document

end Pointer
end Json
end Scaffold
