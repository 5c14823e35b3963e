/-
Transfer objects: the five shapes made for every entity and the properties of each.
-/
import Scaffold.Config.Basic

namespace Scaffold

/-- The shapes, in the order they are generated in. -/
inductive DtoKind where
  | add
  | update
  | detail
  | item
  | filter
deriving DecidableEq, Repr

namespace DtoKind

def all : List DtoKind := [.add, .update, .detail, .item, .filter]

def label : DtoKind → String
  | .add => "Add"
  | .update => "Update"
  | .detail => "Detail"
  | .item => "Item"
  | .filter => "Filter"

def typeName (kind : DtoKind) (entity : String) : String :=
  entity ++ kind.label ++ "Dto"

/-- Shapes that carry the foreign keys of required navigations. -/
def hasForeignKeys : DtoKind → Bool
  | .add => true
  | .update => true
  | .filter => true
  | .detail => false
  | .item => false

/-- Shapes of which every part may be left out. -/
def isPartial : DtoKind → Bool
  | .update => true
  | .filter => true
  | .add => false
  | .detail => false
  | .item => false

end DtoKind

namespace Entity

/-- The scalar that stands for a required navigation: the property that holds its foreign key,
made required, or a new one of the key type. -/
def foreignKeyProperty (e : Entity) (keyType : String) (n : Navigation) : Property :=
  let key := n.foreignKey.getD (n.name ++ "Id")
  match (e.property? key).filter (!·.isNavigation) with
  | some p => { p with isRequired := true, isNullable := false }
  | none => { Property.scalar key keyType with isRequired := true }

def requiredForeignKeys (e : Entity) (keyType : String) : List Property :=
  e.requiredNavigations.map (e.foreignKeyProperty keyType)

/-- Adds a foreign key; where a property of its name is there already, that one is required. -/
def mergeKey (key : Property) : List Property → List Property
  | [] => [key]
  | p :: rest =>
    if p.name = key.name then { p with isRequired := true } :: rest else p :: mergeKey key rest

/-- The properties of the entity that a shape takes over. -/
def ownProperties (e : Entity) (kind : DtoKind) (config : Config) : List Property :=
  let threshold := config.filterMaxLength
  let isWritten := fun p : Property =>
    !config.isIgnored p.name && !p.isNavigation && !p.isComplex
  match kind with
  | .add => e.properties.filter isWritten
  | .update => e.properties.filter isWritten
  | .detail => e.properties.filter (!·.isNavigation)
  | .item => e.properties.filter fun p =>
      !p.isNavigation && !p.isCollection &&
        !(p.isString && p.maxLength.any (threshold ≤ ·))
  | .filter => e.properties.filter fun p =>
      !config.isIgnored p.name && p.isFilterable threshold

/-- The properties of one shape of an entity. -/
def dtoProperties (e : Entity) (kind : DtoKind) (config : Config) : List Property :=
  let own := e.ownProperties kind config
  let keys := (e.requiredForeignKeys config.naming.keyType).filter (!config.isIgnored ·.name)
  let all := if kind.hasForeignKeys then keys.foldl (fun props key => mergeKey key props) own
    else own
  if kind.isPartial then all.map fun p => { p with isNullable := true, isRequired := false }
  else all

end Entity
end Scaffold
