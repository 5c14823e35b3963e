/-
Properties as a target language shows them: names, types and comments in its own form.
-/
import Scaffold.Entity
import Scaffold.Target.Naming
import Scaffold.Target.Render

namespace Scaffold

/-- A comment in one line. -/
def oneLine (comment : Option String) : String :=
  (comment.map Text.collapse).getD ""

/-- A property in a target language. -/
structure Field where
  name : String
  /-- The name in the model. -/
  sourceName : String
  typeText : String
  comment : String
  defaultValue : String
  isRequired : Bool
  isNullable : Bool
  isString : Bool
  maxLength : Option Nat
  minLength : Option Nat
  /-- The initial value of a C# property, from the equals sign on. -/
  initializer : String
deriving DecidableEq, Repr

namespace Field

/-- A C# property that is neither null nor a value needs something to start from. -/
def initializerOf (target : Target) (p : Property) : String :=
  if target ≠ .csharp ∨ p.isNullable then ""
  else if p.isCollection then " = new();"
  else if p.isEnum || p.textType.isValueType then ""
  else if p.isString then " = string.Empty;"
  else " = default!;"

def ofProperty (target : Target) (p : Property) : Field where
  name := target.memberName p.name
  sourceName := p.name
  typeText := target.renderText p.typeText p.marks
  comment := oneLine p.summary
  defaultValue := p.defaultValue.getD ""
  isRequired := p.isRequired
  isNullable := p.isNullable
  isString := p.isString
  maxLength := p.maxLength
  minLength := p.minLength
  initializer := initializerOf target p

end Field
end Scaffold
