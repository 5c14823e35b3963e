/-
Type text with shape marks beside it, as properties store it, and the type that the two mean
together.
-/
import Scaffold.TypeExpr.Reader

namespace Scaffold
namespace TypeExpr

/-- Marks that go with a type text; the enum mark is about the innermost type. -/
structure Marks where
  isEnum : Bool
  isList : Bool
  isNullable : Bool
deriving DecidableEq, Repr

def asEnum (t : TypeExpr) : TypeExpr :=
  { t with isEnum := true, isReference := true }

/-- The type that a text denotes; a text that cannot be read is the name of another type. -/
def ofText (text : String) : TypeExpr :=
  (parse? text).getD (reference text)

/-- The type that a text and its marks mean together. A text that cannot be read is taken, without
blanks at its ends, as the name of another type. -/
def describe (text : String) (marks : Marks) : TypeExpr :=
  let t := (parse? text).getD (reference (Text.trim text))
  let t := if marks.isList && !t.isList then list (t.withNullable false) else t
  let t := if marks.isEnum then t.mapInnermost (fun inner => { inner.asEnum with args := [] })
    else t
  if marks.isNullable then t.orNull else t

end TypeExpr
end Scaffold
