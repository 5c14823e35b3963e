/-
What an entity comes of, in the three kinds there are, and the entity that comes of it.
-/
import Scaffold.Api.Entity
import Scaffold.Declaration.Context
import Scaffold.Mapping.Enrich

namespace Scaffold

/-- An input that one entity comes of. -/
inductive EntityInput where
  /-- A class among the declarations of a run. -/
  | declaration (context : Context) (declaration : Declaration)
  | relational (context : Context) (model : MappingModel) (declaration : Declaration)
  | schema (document : Json) (name path : String)

namespace EntityInput

def extract : EntityInput → Except Failure Entity
  | .declaration context d => context.extract d
  | .relational context model d => do model.enrich (← context.extract d)
  | .schema document name path => Api.extractEntity document name path

end EntityInput
end Scaffold
