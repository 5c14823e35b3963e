/-
The command line: options, each at most once but for inputs, and then what is to be done.
-/
import Scaffold.Config.Basic

namespace Scaffold
namespace Command

inductive Task where
  | generate
  | dto
  | manager
  | api
  | client
  | inspect
deriving DecidableEq, Repr

namespace Task

def all : List Task := [.generate, .dto, .manager, .api, .client, .inspect]

def name : Task → String
  | generate => "generate"
  | dto => "dto"
  | manager => "manager"
  | api => "api"
  | client => "client"
  | inspect => "inspect"

/-- The artifacts of a task that generates one kind only. -/
def artifacts? : Task → Option (List Artifact)
  | dto => some [.dto]
  | manager => some [.manager]
  | api => some [.controller]
  | client => some [.client]
  | generate => none
  | inspect => none

end Task

structure Options where
  config : Option String := none
  entities : List String := []
  output : Option String := none
  force : Bool := false
  dryRun : Bool := false
  target : Option Target := none
  task : Option Task := none
deriving DecidableEq, Repr

inductive Request where
  | run (options : Options)
  | version
  /-- The command line is no usable one. -/
  | misuse
deriving DecidableEq, Repr

inductive Setting where
  | config
  | entity
  | output
  | target
deriving DecidableEq, Repr

namespace Setting

def ofLong? : String → Option Setting
  | "config" => some config
  | "entity" => some entity
  | "output" => some output
  | "target" => some target
  | _ => none

def ofShort? : Char → Option Setting
  | 'c' => some config
  | 'e' => some entity
  | 'o' => some output
  | 't' => some target
  | _ => none

end Setting

namespace Options

/-- Takes over the value of an option. Only inputs may come more than once, and paths are not
empty. -/
def set (o : Options) (s : Setting) (value : String) : Option Options :=
  match s with
  | .config => if o.config.isSome || value.isEmpty then none else some { o with config := value }
  | .entity => if value.isEmpty then none else some { o with entities := o.entities ++ [value] }
  | .output => if o.output.isSome || value.isEmpty then none else some { o with output := value }
  | .target =>
    if o.target.isSome then none
    else (Target.ofKeyword? value).map fun t => { o with target := some t }

/-- Takes over a flag, which may come once. -/
def setFlag (o : Options) : String → Option Options
  | "force" => if o.force then none else some { o with force := true }
  | "dry-run" => if o.dryRun then none else some { o with dryRun := true }
  | _ => none

/-- Whether an argument can be the value of an option: it looks like no option. -/
def isValue (arg : String) : Bool :=
  !Text.startsWith "-" arg || arg == "-"

/-- What an argument is. -/
inductive Part where
  | value (s : Setting) (text : String)
  /-- An option whose value is the next argument. -/
  | awaits (s : Setting)
  | flag (name : String)
  | version
  | task (t : Task)
  | unknown

/-- The parts of an argument with one hyphen. -/
def shortPart (first : Char) (rest : List Char) : Part :=
  match Setting.ofShort? first with
  | some s =>
    match rest with
    | [] => .awaits s
    | '=' :: rest => .value s (String.ofList rest)
    | rest => .value s (String.ofList rest)
  | none => if first == 'V' then .version else .unknown

/-- What an argument with two hyphens is, behind these. -/
def longPart (cs : List Char) : Part :=
  let (name, rest) := cs.span (· != '=')
  let name := String.ofList name
  match Setting.ofLong? name, rest with
  | some s, _ :: value => .value s (String.ofList value)
  | some s, [] => .awaits s
  | none, [] => if name == "version" then .version else .flag name
  | none, _ => .unknown

def part (arg : String) : Part :=
  match arg.toList with
  | '-' :: '-' :: cs => longPart cs
  | '-' :: c :: rest => shortPart c rest
  | _ =>
    match Task.all.find? (·.name == arg) with
    | some t => .task t
    | none => .unknown

/-- Reads arguments one after the other; the first that is wrong decides. -/
def read (o : Options) : List String → Request
  | [] => .run o
  | ["--"] => .run o
  | arg :: rest =>
    match part arg with
    | .value s text =>
      match o.set s text with
      | some o => o.read rest
      | none => .misuse
    | .awaits s =>
      match rest with
      | text :: rest =>
        if isValue text then
          match o.set s text with
          | some o => o.read rest
          | none => .misuse
        else .misuse
      | [] => .misuse
    | .flag name =>
      match o.setFlag name with
      | some o => o.read rest
      | none => .misuse
    | .version => .version
    | .task t =>
      if rest.isEmpty || rest == ["--"] then .run { o with task := some t } else .misuse
    | .unknown => .misuse

def apply (o : Options) (c : Config) : Config :=
  { c with
    entityPaths := if o.entities.isEmpty then c.entityPaths else o.entities
    outputDir := o.output.getD c.outputDir
    force := c.force || o.force
    dryRun := c.dryRun || o.dryRun
    dtoTarget := o.target.getD c.dtoTarget
    clientTarget := o.target.getD c.clientTarget
    artifacts := (o.task.bind Task.artifacts?).getD c.artifacts }

end Options

def parse (args : List String) : Request :=
  Options.read {} args

end Command
end Scaffold
