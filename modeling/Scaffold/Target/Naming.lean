/-
Names in the style of each target language: members, parameters, files, directories and methods.
-/
import Scaffold.Target.Basic
import Scaffold.Text.Plural

namespace Scaffold

def enumName (owner column : String) : String :=
  Text.pascalCase owner ++ Text.pascalCase column

/-- Drops a character from both ends as often as it stands there. -/
def stripQuotes (quote : Char) (s : String) : String :=
  String.ofList
    ((s.toList.dropWhile (· == quote)).reverse.dropWhile (· == quote)).reverse

/-- The name of an enum member for a value: quotes are dropped, and a name that would be empty or
start with a digit gets a word in front. -/
def enumMemberName (value : String) : String :=
  let name := Text.pascalCase (stripQuotes '"' (stripQuotes '\x27' value))
  match name.toList with
  | [] => "Value"
  | c :: _ => if c.isDigit then "Value" ++ name else name

/-- The name of the method that calls an operation: its identifier if it has a visible one, else
the method followed by the fixed segments of the path. -/
def operationMethodName (operationId : Option String) (method path : String) : String :=
  match operationId.filter (!Text.isBlankText ·) with
  | some id => Text.camelCase id
  | none =>
    let fixed := (Text.split (· == '/') path).filter fun segment =>
      !segment.isEmpty && !Text.startsWith "\x7b" segment
    Text.camelCase (Text.join "_" (Text.lowercase method :: fixed))

namespace Target

def rustKeywords : List String := [
  "as", "async", "await", "break", "const", "continue", "crate", "dyn", "else", "enum", "extern",
  "false", "fn", "for", "if", "impl", "in", "let", "loop", "match", "mod", "move", "mut", "pub",
  "ref", "return", "self", "Self", "static", "struct", "super", "trait", "true", "type", "unsafe",
  "use", "where", "while", "abstract", "become", "box", "do", "final", "macro", "override", "priv",
  "try", "typeof", "unsized", "virtual", "yield"]

def csharpKeywords : List String := [
  "abstract", "as", "base", "bool", "break", "byte", "case", "catch", "char", "checked", "class",
  "const", "continue", "decimal", "default", "delegate", "do", "double", "else", "enum", "event",
  "explicit", "extern", "false", "finally", "fixed", "float", "for", "foreach", "goto", "if",
  "implicit", "in", "int", "interface", "internal", "is", "lock", "long", "namespace", "new",
  "null", "object", "operator", "out", "override", "params", "private", "protected", "public",
  "readonly", "ref", "return", "sbyte", "sealed", "short", "sizeof", "stackalloc", "static",
  "string", "struct", "switch", "this", "throw", "true", "try", "typeof", "uint", "ulong",
  "unchecked", "unsafe", "ushort", "using", "virtual", "void", "volatile", "while"]

def isRustKeyword (s : String) : Bool :=
  rustKeywords.contains s

def isCSharpKeyword (s : String) : Bool :=
  csharpKeywords.contains s

/-- The name of a Rust field; a keyword is written as a raw identifier. -/
def rustFieldName (name : String) : String :=
  let snake := Text.snakeCase name
  if isRustKeyword snake then "r#" ++ snake else snake

/-- A C# identifier; a keyword gets an at sign in front. -/
def csharpIdentifier (name : String) : String :=
  if isCSharpKeyword name then "@" ++ name else name

/-- The name of a member in the target language. -/
def memberName : Target → String → String
  | .csharp, name => csharpIdentifier (Text.pascalCase name)
  | .typescript, name => Text.camelCase name
  | .rust, name => rustFieldName name

/-- The name of a parameter or local variable in the target language. -/
def parameterName : Target → String → String
  | .csharp, name => csharpIdentifier (Text.camelCase name)
  | .typescript, name => Text.camelCase name
  | .rust, name => rustFieldName name

/-- The name of the file for a type, without its extension. -/
def fileStem : Target → String → String
  | .csharp, name => Text.pascalCase name
  | .typescript, name => Text.kebabCase name
  | .rust, name => Text.snakeCase name

/-- The name of a directory for a group of files. -/
def dirName : Target → String → String
  | .csharp, name => name
  | .typescript, name => Text.kebabCase name
  | .rust, name => Text.snakeCase name

end Target
end Scaffold
