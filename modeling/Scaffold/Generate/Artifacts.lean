/-
All that is generated for an entity or a document: the wanted artifacts, each once, in the order of
their kinds.
-/
import Scaffold.Generate.Client
import Scaffold.Generate.Controller

namespace Scaffold

def Config.wanted (c : Config) : List Artifact :=
  Artifact.all.filter c.wants

/-- The files of one kind for an entity. Clients are made for documents only. -/
def entityFilesOf (library : Library) (config : Config) (e : Entity) :
    Artifact → Except Fault (List GeneratedFile)
  | .dto => Dto.files library config e
  | .manager => Manager.files library config e
  | .controller => Controller.files library config e
  | .client => .ok []

def entityFiles (library : Library) (config : Config) (e : Entity) :
    Except Fault (List GeneratedFile) := do
  return (← config.wanted.mapM (entityFilesOf library config e)).flatten

/-- The files of one kind for a document. Transfer objects and managers are made for entities
only. -/
def documentFilesOf (library : Library) (config : Config) (d : Api.Document) :
    Artifact → Except Fault (List GeneratedFile)
  | .controller => Controller.documentFiles library config d
  | .client => Client.files library config d
  | .dto => .ok []
  | .manager => .ok []

def documentFiles (library : Library) (config : Config) (d : Api.Document) :
    Except Fault (List GeneratedFile) := do
  return (← config.wanted.mapM (documentFilesOf library config d)).flatten

end Scaffold
