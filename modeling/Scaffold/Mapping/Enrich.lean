/-
Entities enriched by a mapping model: keys, indexes, lengths, and navigations with the foreign
keys behind them.
-/
import Scaffold.Entity
import Scaffold.Mapping.Basic

namespace Scaffold
namespace MappingModel

/-- The navigation to a single principal. Its foreign key comes from the mapping, else it is the
property named after the navigation. -/
def referenceNavigation (e : Entity) (mapping : EntityMapping) (name target : String) :
    Navigation :=
  let declared := (e.property? name).any (·.isRequired)
  let (key, required) := match mapping.foreignKeyFor? name target with
    | some key => (key.properties.head?, key.isRequired)
    | none =>
      match e.property? (name ++ "Id") with
      | some p => (some (name ++ "Id"), !p.isNullable && p.textType.isValueType)
      | none => (none, false)
  { name := name
    typeName := target
    foreignKey := key
    isRequired := declared || required
    isCollection := false
    isSkip := false }

/-- The foreign key of `target` whose dependents a collection of `owner` holds. -/
def inverseKey? (m : MappingModel) (owner name target : String) : Option ForeignKeyMapping :=
  (m.entity? target).bind fun dependent =>
    dependent.foreignKeys.find? fun k => k.principal == owner && k.inverse.all (· == name)

/-- The navigation to many entities: the other end of a foreign key, or through a join entity. -/
def collectionNavigation (m : MappingModel) (e : Entity) (name target : String) : Navigation :=
  let (key, isSkip) := match m.inverseKey? e.name name target with
    | some key => (key.properties.head?, false)
    | none => (none, (m.joinEntity? e.name target).isSome)
  { name := name
    typeName := target
    foreignKey := key
    isRequired := false
    isCollection := true
    isSkip := isSkip }

/-- What the mapping adds to a property. -/
def enrichProperty (m : MappingModel) (mapping : EntityMapping) (p : Property) : Property :=
  let isTarget := !p.isDictionary && m.contains p.elementName
  let p := if isTarget then { p with isNavigation := true, isComplex := false } else p
  let p := if mapping.keys.contains p.name then { p with isKey := true } else p
  let leads := mapping.indexes.any (·.properties.head? == some p.name)
  let p := if leads then { p with isIndexed := true } else p
  match mapping.column? p.name with
  | some column =>
    if p.maxLength.isNone && p.isString then { p with maxLength := column.maxLength } else p
  | none => p

def navigationOf (m : MappingModel) (mapping : EntityMapping) (e : Entity) (p : Property) :
    Navigation :=
  if p.isList then m.collectionNavigation e p.name p.elementName
  else referenceNavigation e mapping p.name p.elementName

/-- The declared entity with what its mapping adds. -/
def enrich (m : MappingModel) (declared : Entity) : Except Failure Entity :=
  match m.entity? declared.name with
  | none => .error (declared.failure (.notInModel declared.name))
  | some mapping => do
    let e :=
      { declared with
        comment := declared.comment.or mapping.comment
        properties := declared.properties.map (m.enrichProperty mapping) }
    let e :=
      { e with navigations := (e.properties.filter (·.isNavigation)).map (m.navigationOf mapping e) }
    e.validate
    return e

end MappingModel
end Scaffold
