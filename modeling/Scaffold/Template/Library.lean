/-
The templates of generated files by name. Any of them can be replaced.
-/
import Scaffold.Config.Basic
import Scaffold.Template.Reader
import Scaffold.Template.Render
import Scaffold.Template.Source.Client
import Scaffold.Template.Source.Dto
import Scaffold.Template.Source.Server

namespace Scaffold
namespace Template

def sources : List (String × String) := [
  ("dto.cs.j2", Source.csharpDto), ("dto.ts.j2", Source.typescriptDto),
  ("dto.rs.j2", Source.rustDto), ("dto_mod.rs.j2", Source.rustIndex),
  ("manager.cs.j2", Source.manager), ("controller.cs.j2", Source.controller),
  ("api_controller.cs.j2", Source.apiController),
  ("client_service.ts.j2", Source.typescriptService),
  ("client_model.ts.j2", Source.typescriptModel),
  ("client_index.ts.j2", Source.typescriptIndex),
  ("client_service.cs.j2", Source.csharpService),
  ("client_model.cs.j2", Source.csharpModel)]

/-- The names under which templates are found. -/
def names : List String :=
  sources.map (·.1)

end Template

/-- Templates by name; the first of a name counts. -/
abbrev Library := List (String × Template)

namespace Library

def builtin : Library :=
  Template.sources.filterMap fun (name, source) => (Template.parse? source).map (name, ·)

def find? (library : Library) (name : String) : Option Template :=
  (List.find? (·.1 == name) library).map (·.2)

/-- Sets the template of a name to the one with the given source. -/
def replace (library : Library) (name source : String) : Except Fault Library :=
  match Template.parse? source with
  | some template => .ok ((name, template) :: library)
  | none => .error .badTemplate

def render (library : Library) (name : String) (data : Json) : Except Fault String :=
  match (library.find? name).bind (Template.render · data) with
  | some text => .ok text
  | none => .error .badTemplate

end Library
end Scaffold
