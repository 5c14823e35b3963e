/-
The languages that code is generated in, and the kinds of artifacts there are for them.
-/
import Scaffold.Text.Blank
import Scaffold.Text.Letter

namespace Scaffold

inductive Target where
  | csharp
  | typescript
  | rust
deriving DecidableEq, Repr

namespace Target

def all : List Target := [.csharp, .typescript, .rust]

def name : Target → String
  | .csharp => "csharp"
  | .typescript => "typescript"
  | .rust => "rust"

def extension : Target → String
  | .csharp => "cs"
  | .typescript => "ts"
  | .rust => "rs"

/-- Short names accepted beside the full one. -/
def aliases : Target → List String
  | .csharp => ["cs", "c#"]
  | .typescript => ["ts"]
  | .rust => ["rs"]

def ofName? (s : String) : Option Target :=
  all.find? fun t => t.name == s || t.aliases.contains s

/-- The target with the given name, in any letter case. -/
def ofKeyword? (s : String) : Option Target :=
  ofName? (Text.lowercaseAscii s)

/-- What is said about a word that names no target. -/
def unknownMessage (s : String) : String :=
  "unknown target language `" ++ Text.lowercaseAscii s ++ "`"

end Target

inductive Artifact where
  | dto
  | manager
  | controller
  | client
deriving DecidableEq, Repr

namespace Artifact

/-- Every kind, in the order they are generated in. -/
def all : List Artifact := [.dto, .manager, .controller, .client]

def label : Artifact → String
  | .dto => "dto"
  | .manager => "manager"
  | .controller => "controller"
  | .client => "client"

def supports : Artifact → Target → Bool
  | .dto, _ => true
  | .manager, target => target == .csharp
  | .controller, target => target == .csharp
  | .client, target => target != .rust

def ofLabel? (s : String) : Option Artifact :=
  all.find? (·.label == s)

/-- The artifact with the given name, in any letter case and with blanks around it. -/
def ofKeyword? (s : String) : Option Artifact :=
  ofLabel? (Text.lowercaseAscii (Text.trim s))

/-- What is said about a word that names no artifact. -/
def unknownMessage (s : String) : String :=
  "unknown artifact kind `" ++ s ++ "`"

end Artifact
end Scaffold
