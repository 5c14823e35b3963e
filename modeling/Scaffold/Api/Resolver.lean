/-
Schemas to types. Named schemas, and inline ones that need a name, get definitions in a table;
a reference is resolved once, and one that is met again while its own definition is being made
is answered by the name the definition will have. A resolution that fails keeps what was
defined on the way.
-/
import Scaffold.Api.Schema
import Scaffold.Failure

namespace Scaffold
namespace Api

/-- What a definition is made of. -/
inductive Source where
  | schema (schema : Json)
  /-- The fields of a form. -/
  | form (fields : List Json)

/-- What the history of a run keeps: a name that was given out, or a definition that was offered
to the table, taken or not. -/
inductive Event where
  | claimed (wanted place name : String)
  | offered (place : String) (source : Source) (definition : TypeDefinition)

/-- What is known of a document's types at some point of a run. -/
structure Resolver where
  table : TypeTable
  /-- The types of references that were resolved. -/
  resolved : KeyMap TypeExpr
  /-- References whose definitions are being made. -/
  inProgress : List String
  /-- Type names in use, each with the place that claimed it. -/
  names : KeyMap String
  /-- The events of the run, the latest first; no step depends on them. -/
  history : List Event

namespace Resolver

def start : Resolver :=
  ⟨.empty, .empty, [], .empty, []⟩

/-- The first of `base`, `base2`, `base3`, … that is free or was claimed by the same place. -/
def freeName (names : KeyMap String) (base place : String) : Nat → Nat → String → String
  | 0, _, name => name
  | fuel + 1, n, name =>
    match names.get? name with
    | none => name
    | some owner =>
      if owner = place then name
      else freeName names base place fuel (n + 1) (base ++ toString n)

/-- The type name that a wanted one stands for. -/
def baseName (wanted : String) : String :=
  let base := Text.pascalCase wanted
  if base.isEmpty then "Anonymous" else base

/-- The name for the definition at a place, numbered if the wanted one is another's. -/
def nameFor (r : Resolver) (wanted place : String) : String :=
  let base := baseName wanted
  freeName r.names base place (r.names.entries.length + 1) 2 base

def claim (r : Resolver) (wanted place : String) : Resolver :=
  let name := r.nameFor wanted place
  { r with
    names := r.names.insert name place
    history := .claimed wanted place name :: r.history }

/-- Offers a definition to the table, which takes it unless its name is taken. -/
def offer (r : Resolver) (place : String) (source : Source) (d : TypeDefinition) : Resolver :=
  { r with
    table := r.table.define d
    history := .offered place source d :: r.history }

def enter (r : Resolver) (reference : String) : Resolver :=
  { r with inProgress := reference :: r.inProgress }

def leave (r : Resolver) (reference : String) : Resolver :=
  { r with inProgress := r.inProgress.erase reference }

def remember (r : Resolver) (reference : String) (type : TypeExpr) : Resolver :=
  { r with resolved := r.resolved.insert reference type }

end Resolver

/-- A step of a run; a failure does not undo it. -/
abbrev Resolve := ExceptT Failure (StateM Resolver)

def schemasPrefix (document : Json) : String :=
  if Schema.has document "swagger" || Schema.has document "definitions" then "#/definitions"
  else "#/components/schemas"

/-- What a reference leads to; only references within the document lead anywhere. -/
def lookup? (document : Json) (reference : String) : Option Json :=
  match reference.toList with
  | '#' :: pointer => Json.Pointer.resolve? document (String.ofList pointer)
  | _ => none

def namedSchemas (document : Json) : List (String × Json) :=
  ((lookup? document (schemasPrefix document)).bind Json.members?).getD []

namespace Resolve

def failAt {α : Type} (place : String) (cause : Cause) : Resolve α :=
  throw ⟨place, cause⟩

def define (place : String) (source : Source) (d : TypeDefinition) : Resolve Unit :=
  modify (·.offer place source d)

/-- A type name for the definition at a place. -/
def claimName (wanted place : String) : Resolve String := do
  let name := (← get).nameFor wanted place
  modify (·.claim wanted place)
  return name

variable (document : Json)

/-- What a reference leads to, or the failure that it leads nowhere. -/
def follow (reference place : String) : Except Failure Json :=
  match lookup? document reference with
  | some target => .ok target
  | none => .error ⟨place, .unresolvableRef reference⟩

/-- Follows aliases from `current` to the object schema that closes a cycle. -/
def cycleEnd (reference place : String) : Nat → List String → String → Except Failure String
  | 0, _, _ => .error ⟨place, .endless⟩
  | fuel + 1, seen, current =>
    if seen.contains current then .error ⟨place, .cyclicRef reference⟩
    else do
      let target ← follow document current place
      match Schema.ref? target with
      | some next => cycleEnd reference place fuel (current :: seen) next
      | none =>
        if Schema.isObject target && !Schema.isEnum target then .ok current
        else .error ⟨place, .containsItself (Json.Pointer.lastSegment reference)⟩

/-- The type of a reference that is met while its own definition is being made. Only an object
has a definition to refer to by name. There are no more aliases to go through than values in
the document. -/
def closeCycle (reference place : String) : Resolve TypeExpr := do
  let target ← cycleEnd document reference place (document.size + 2) [] reference
  let name ← claimName (Json.Pointer.lastSegment target) target
  return .reference name

/-- Takes a step while the definition of a reference is being made, and keeps the type it gives. -/
def making (reference : String) (step : Resolve TypeExpr) : Resolve TypeExpr := do
  modify (·.enter reference)
  let leave := modify (·.leave reference)
  let type ← tryCatch step (fun failure => do leave; throw failure)
  leave
  modify (·.remember reference type)
  return type

def defineEnum (name : String) (schema : Json) (place : String) : Resolve TypeExpr :=
  match schema.itemsAt? "enum" with
  | none => failAt place .enumWithoutValues
  | some values => do
    define place (.schema schema) (Schema.enumDefinition name schema values)
    return .enumeration name

/-- Puts a property in the place of an earlier one of its name, or last. -/
def putProperty (p : TypedProperty) : List TypedProperty → List TypedProperty
  | [] => [p]
  | q :: rest => if q.name = p.name then p :: rest else q :: putProperty p rest

def requiredNames (schema : Json) : List String :=
  (schema.itemsAt "required").filterMap Json.str?

structure Gathered where
  properties : List TypedProperty
  seen : List String

def typedProperty (required : List String) (name : String) (schema : Json) (type : TypeExpr) :
    TypedProperty where
  name := name
  type := type
  isRequired := required.contains name
  comment := Schema.description? schema
  maxLength := Schema.count? schema "maxLength"
  minLength := Schema.count? schema "minLength"

def objectDefinition (name : String) (schema : Json) (properties : List TypedProperty) :
    TypeDefinition :=
  ⟨name, Schema.description? schema, .object properties⟩

mutual

def resolveRef (fuel : Nat) (reference place : String) : Resolve TypeExpr :=
  match fuel with
  | 0 => failAt place .endless
  | fuel + 1 => do
    match (← get).resolved.get? reference with
    | some type => return type
    | none =>
      let target ← follow document reference place
      if (← get).inProgress.contains reference then closeCycle document reference place
      else
        let name ← claimName (Json.Pointer.lastSegment reference) reference
        making reference
          (match Schema.kind target with
            | .enum => defineEnum name target reference
            | .object => defineObject fuel name target reference
            | .other => schemaType fuel target name reference)

/-- The type of a schema; `context` names the inline types that need a name. -/
def schemaType (fuel : Nat) (schema : Json) (context place : String) : Resolve TypeExpr :=
  match fuel with
  | 0 => failAt place .endless
  | fuel + 1 =>
    match Schema.form schema with
    | .reference reference wrap => wrap.apply <$> resolveRef fuel reference place
    | .inner inner suffix segment wrap =>
      wrap.apply <$>
        schemaType fuel inner (context ++ suffix) (Json.Pointer.child place segment)
    | .object nullable => do
      let name ← claimName context place
      TypeExpr.withNullable nullable <$> defineObject fuel name schema place
    | .enum nullable => do
      let name ← claimName context place
      TypeExpr.withNullable nullable <$> defineEnum name schema place
    | .plain type => pure type

def defineObject (fuel : Nat) (name : String) (schema : Json) (place : String) : Resolve TypeExpr :=
  match fuel with
  | 0 => failAt place .endless
  | fuel + 1 => do
    let gathered ← gather fuel name schema place ⟨[], []⟩
    define place (.schema schema) (objectDefinition name schema gathered.properties)
    return .reference name

/-- Adds the properties of a schema to those gathered: first those of its parts, then its own.
A reference is gone through once. -/
def gather (fuel : Nat) (owner : String) (schema : Json) (place : String) (gathered : Gathered) :
    Resolve Gathered :=
  match fuel with
  | 0 => failAt place .endless
  | fuel + 1 => do
    match Schema.ref? schema with
    | some reference =>
      if gathered.seen.contains reference then return gathered
      else
        let target ← follow document reference place
        gather fuel owner target reference { gathered with seen := reference :: gathered.seen }
    | none =>
      let parts := Json.Pointer.child place "allOf"
      let gathered ← (schema.itemsAt "allOf").zipIdx.foldlM (fun gathered (part, i) =>
        gather fuel owner part (Json.Pointer.child parts (toString i)) gathered) gathered
      let required := requiredNames schema
      let inside := Json.Pointer.child place "properties"
      (schema.membersAt "properties").foldlM (fun gathered (name, value) => do
        let type ← schemaType fuel value (owner ++ Text.pascalCase name)
          (Json.Pointer.child inside name)
        let p := typedProperty required name value type
        return { gathered with properties := putProperty p gathered.properties }) gathered

end

/-- A bound on the nesting of calls: between two references being made, the walk goes down
subschemas and along parts, and each part that is gone through again starts anew at most once
for every inline object. -/
def nestingBound : Nat :=
  4 * Nat.pow (document.size + 3) 4

def ofSchema (schema : Json) (context place : String) : Resolve TypeExpr :=
  schemaType document (nestingBound document) schema context place

def ofName (name : String) : Resolve TypeExpr :=
  let root := schemasPrefix document
  resolveRef document (nestingBound document) (Json.Pointer.child root name) root

def allNamed : Resolve Unit :=
  (namedSchemas document).forM fun (name, _) => do
    let _ ← ofName document name

end Resolve
end Api
end Scaffold
