/-
Entities from declarations. A context knows every declaration of a run; a class takes over the
properties of its bases, a property is classified by what its type names, and navigations find
their foreign keys.
-/
import Scaffold.Declaration.Basic
import Scaffold.Entity

namespace Scaffold

/-- The declarations of a run and the names known to be enums or entities. -/
structure Context where
  declarations : KeyMap Declaration
  enums : List String
  entities : List String

namespace Context

def empty : Context :=
  ⟨.empty, [], []⟩

/-- Adds a declaration; a later one of the same name takes the place of an earlier one. -/
def register (context : Context) (d : Declaration) : Context where
  declarations := context.declarations.insert d.name d
  enums := if d.isEnum then NameSet.insert d.name context.enums else context.enums
  entities := if d.isEnum then context.entities else NameSet.insert d.name context.entities

def ofDeclarations (declarations : List Declaration) : Context :=
  declarations.foldl register empty

def withEnum (name : String) (context : Context) : Context :=
  { context with enums := NameSet.insert name context.enums }

def withEntity (name : String) (context : Context) : Context :=
  { context with entities := NameSet.insert name context.entities }

def isEnum (context : Context) (name : String) : Bool :=
  context.enums.contains name

def isEntity (context : Context) (name : String) : Bool :=
  context.entities.contains name

def classes (context : Context) : List Declaration :=
  context.declarations.values.filter (!·.isEnum)

def failure (d : Declaration) (cause : Cause) : Failure :=
  ⟨d.filePath.getD d.name, cause⟩

/-- The bases above `current`, nearest first; `seen` holds the names on the way, each of which
was declared but perhaps the first, so their number is bounded. -/
def basesAbove (context : Context) (start : Declaration) :
    Nat → List String → Declaration → Except Failure (List Declaration)
  | 0, _, _ => .ok []
  | fuel + 1, seen, current =>
    match current.baseName? with
    | none => .ok []
    | some base =>
      match context.declarations.get? base with
      | none => .ok []
      | some next =>
        if seen.contains next.name then .error (failure start (.cyclicBase base))
        else do
          let above ← basesAbove context start fuel (next.name :: seen) next
          .ok (next :: above)

/-- The bases of a class and the class itself, root first. -/
def chain (context : Context) (d : Declaration) : Except Failure (List Declaration) := do
  let above ← basesAbove context d (context.declarations.entries.length + 1) [d.name] d
  .ok (d :: above).reverse

/-- Adds a property; one of the same name is replaced where it stands. -/
def hide (visible : List PropertyDeclaration) (p : PropertyDeclaration) :
    List PropertyDeclaration :=
  match visible with
  | [] => [p]
  | q :: rest => if q.name = p.name then p :: rest else q :: hide rest p

/-- The properties of a chain of classes: each name once, where it comes first and as it is
declared last, and only those that are mapped. -/
def mappedProperties (chain : List Declaration) : List PropertyDeclaration :=
  ((chain.flatMap (·.properties)).foldl hide []).filter (·.isMapped)

/-- What an attribute says about a property. -/
def applyAttribute (p : Property) (a : Attribute) : Property :=
  match a.shortName with
  | "Required" => { p with isRequired := true }
  | "Key" => { p with isKey := true }
  | "Index" => { p with isIndexed := true }
  | "MaxLength" => { p with maxLength := a.number? 0 }
  | "MinLength" => { p with minLength := a.number? 0 }
  | "StringLength" =>
    { p with
      maxLength := a.number? 0
      minLength := (a.namedNumber? "MinimumLength").or p.minLength }
  | "Length" => { p with minLength := a.number? 0, maxLength := a.number? 1 }
  | _ => p

/-- The property that a declared one stands for: an enum, a navigation or a complex type by what
is known about the name inside its type. -/
def classify (context : Context) (d : Declaration) (p : PropertyDeclaration) :
    Except Failure Property :=
  match TypeExpr.parse p.typeText with
  | .error e => .error (failure d (.unreadableType p.name e))
  | .ok type =>
    let inner := type.innermost.name
    let type := if context.isEnum inner then type.mapInnermost TypeExpr.asEnum else type
    let base := Property.ofType p.name type
    let isNavigation := context.isEntity inner && !base.isDictionary
    let property :=
      { base with
        isNavigation := isNavigation
        isComplex := type.innermost.isReference && !base.isEnum && !isNavigation
          && !context.isEntity inner
        defaultValue := p.defaultValue
        summary := p.comment.bind summaryText
        xml := p.comment }
    .ok (p.attributes.foldl applyAttribute property)

/-- The foreign key of a navigation: named by its attribute, or by the attribute of the scalar
that points to it, or found as the property named after it. -/
def foreignKeyOf (props : List PropertyDeclaration) (e : Entity) (isCollection : Bool)
    (p : PropertyDeclaration) : Option String :=
  let sibling := p.name ++ "Id"
  p.foreignKey?
    |>.or ((props.find? fun q => q.foreignKey? == some p.name).map (·.name))
    |>.or (if !isCollection && (e.property? sibling).isSome then some sibling else none)

/-- Whether a foreign key always has a value: its property exists and cannot be null. -/
def keyIsRequired (e : Entity) (key : String) : Bool :=
  match e.property? key with
  | some p => !p.isNullable && p.textType.isValueType
  | none => false

def navigation? (props : List PropertyDeclaration) (e : Entity) (p : PropertyDeclaration) :
    Option Navigation :=
  match e.property? p.name with
  | none => none
  | some property =>
    if !property.isNavigation then none
    else
      let isCollection := property.isList
      let key := foreignKeyOf props e isCollection p
      some {
        name := p.name
        typeName := property.elementName
        foreignKey := if isCollection then none else key
        isRequired := !isCollection && (property.isRequired || key.any (keyIsRequired e))
        isCollection := isCollection
        isSkip := false }

/-- Marks the columns that the index attributes of the chain name. -/
def markIndexes (chain : List Declaration) (e : Entity) : Entity :=
  let indexes := chain.flatMap fun d => d.attributes.filter (·.shortName == "Index")
  (indexes.flatMap (·.arguments)).foldl
    (fun e column => e.modifyProperty column fun p => { p with isIndexed := true }) e

def extract (context : Context) (d : Declaration) : Except Failure Entity := do
  if d.isEnum then throw (failure d (.notAnEntity d.name))
  let chain ← context.chain d
  let props := mappedProperties chain
  let start : Entity :=
    { Entity.empty d.name d.namespaceName with
      moduleName := d.moduleName.filter (!·.isEmpty)
      filePath := d.filePath
      comment := d.comment.bind summaryText }
  let e ← props.foldlM (fun e p => do e.addProperty (← context.classify d p)) start
  let e := markIndexes chain e
  let e := { e with navigations := props.filterMap (navigation? props e) }
  e.validate
  return e

end Context
end Scaffold
