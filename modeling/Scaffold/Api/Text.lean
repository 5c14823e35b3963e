/-
Documents from texts. The extension of the path tells the format; without one, a brace at the
start means JSON.
-/
import Scaffold.Failure
import Scaffold.Json.Reader
import Scaffold.Text.Path
import Scaffold.Yaml.Document

namespace Scaffold
namespace Api

/-- Whether the text at a path is JSON; it is YAML otherwise. -/
def isJsonText (text path : String) : Bool :=
  match Path.extension? path with
  | some extension => extension == "json"
  | none => (Text.dropBlank text.toList).head? == some '\x7b'

def readDocument (text path : String) : Except Failure Json :=
  if isJsonText text path then
    match Json.parse? text with
    | some document => .ok document
    | none => .error ⟨path, .invalidJson⟩
  else
    match Yaml.parse? text with
    | some document => .ok document
    | none => .error ⟨path, .invalidYaml⟩

end Api
end Scaffold
