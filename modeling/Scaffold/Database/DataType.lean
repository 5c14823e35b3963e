/-
Data types of columns and their normal spelling: names in capitals, arguments in parentheses,
qualifiers after them. A name that is not known is a type of the user's own.
-/
import Scaffold.Database.Reading

namespace Scaffold
namespace Database

inductive DataType where
  | builtin (name : String) (arguments : List String) (qualifier : String)
  /-- The members of an enumeration, some of them with a number. -/
  | enum (members : List (String × Option String))
  | set (members : List String)
  | custom (path : List Ident) (arguments : List String)
deriving DecidableEq, Repr

def writtenPath (path : List Ident) : String :=
  Text.join "." (path.map Ident.written)

namespace DataType

def writtenMember : String × Option String → String
  | (name, none) => quoted '\x27' name
  | (name, some number) => quoted '\x27' name ++ " = " ++ number

def withArguments (name separator : String) (arguments : List String) : String :=
  if arguments.isEmpty then name else name ++ "(" ++ Text.join separator arguments ++ ")"

def written : DataType → String
  | builtin name arguments qualifier =>
    withArguments name "," arguments ++ (if qualifier.isEmpty then "" else " " ++ qualifier)
  | enum members => "ENUM(" ++ Text.join ", " (members.map writtenMember) ++ ")"
  | set members => "SET(" ++ Text.join ", " (members.map (quoted '\x27')) ++ ")"
  | custom path arguments => withArguments (writtenPath path) ", " arguments

/-- What may stand in the parentheses of a type. -/
inductive Arguments where
  | nothing
  | length
  /-- Digits, and how many of them are decimal places. -/
  | digits
  | characters
  | bytes
deriving DecidableEq, Repr

/-- The built-in types. A name of several words comes before those it starts with. -/
def builtins : List (List String × Arguments) := [
  (["BOOLEAN"], .nothing), (["BOOL"], .nothing),
  (["FLOAT"], .digits), (["FLOAT4"], .nothing), (["FLOAT8"], .nothing), (["FLOAT32"], .nothing),
  (["FLOAT64"], .nothing), (["REAL"], .nothing),
  (["DOUBLE", "PRECISION"], .nothing), (["DOUBLE"], .digits),
  (["TINYINT"], .length), (["SMALLINT"], .length), (["MEDIUMINT"], .length), (["INT"], .length),
  (["INTEGER"], .length), (["BIGINT"], .length), (["INT2"], .length), (["INT4"], .length),
  (["INT8"], .length),
  (["VARCHAR"], .characters), (["NVARCHAR"], .characters),
  (["CHARACTER", "VARYING"], .characters), (["CHARACTER", "LARGE", "OBJECT"], .length),
  (["CHARACTER"], .characters), (["CHAR", "VARYING"], .characters),
  (["CHAR", "LARGE", "OBJECT"], .length), (["CHAR"], .characters), (["CLOB"], .length),
  (["BINARY", "LARGE", "OBJECT"], .length), (["BINARY"], .length), (["VARBINARY"], .bytes),
  (["BLOB"], .length), (["TINYBLOB"], .nothing), (["MEDIUMBLOB"], .nothing),
  (["LONGBLOB"], .nothing), (["BYTES"], .length), (["BYTEA"], .nothing),
  (["BIT", "VARYING"], .length), (["BIT"], .length), (["VARBIT"], .length),
  (["UUID"], .nothing), (["DATE"], .nothing), (["DATETIME"], .length), (["TIMESTAMP"], .length),
  (["TIMESTAMPTZ"], .length), (["TIME"], .length), (["TIMETZ"], .length),
  (["INTERVAL"], .nothing), (["REGCLASS"], .nothing),
  (["JSON"], .nothing), (["JSONB"], .nothing), (["STRING"], .length), (["TEXT"], .nothing),
  (["TINYTEXT"], .nothing), (["MEDIUMTEXT"], .nothing), (["LONGTEXT"], .nothing),
  (["NUMERIC"], .digits), (["DECIMAL"], .digits), (["DEC"], .digits),
  (["BIGNUMERIC"], .digits), (["BIGDECIMAL"], .digits),
  (["SIGNED", "INTEGER"], .nothing), (["SIGNED"], .nothing),
  (["UNSIGNED", "INTEGER"], .nothing), (["UNSIGNED"], .nothing)]

def integers : List String :=
  ["TINYINT", "SMALLINT", "MEDIUMINT", "INT", "INTEGER", "BIGINT", "INT2", "INT4", "INT8"]

/-- Other types that can be without a sign. -/
def unsignable : List String :=
  ["FLOAT", "REAL", "DOUBLE PRECISION", "DOUBLE", "DECIMAL", "DEC"]

def takePlaces : Read String := do
  let isNegative ← Read.sign? "-"
  if !isNegative then
    let _ ← Read.sign? "+"
  let places ← Read.natural
  if places ≥ Nat.pow 2 63 then Reading.fail
  return if isNegative && places ≠ 0 then "-" ++ toString places else toString places

def takeDigits : Read (List String) := Read.inParens do
  let total ← Read.natural
  if ← Read.sign? "," then return [toString total, ← takePlaces]
  else return [toString total]

def takeCharacters : Read String := do
  if ← Read.keyword? "MAX" then return "MAX"
  let n ← Read.natural
  match ← Read.oneOf? ["CHARACTERS", "OCTETS"] with
  | some unit => return toString n ++ " " ++ unit
  | none => return toString n

def takeArguments (arguments : Arguments) : Read (List String) := do
  if arguments = .nothing || !(← Read.atSign "(") then pure []
  else match arguments with
  | .digits => takeDigits
  | .characters => return [← Read.inParens takeCharacters]
  | .bytes => return [← Read.inParens do
      if ← Read.keyword? "MAX" then return "MAX" else return toString (← Read.natural)]
  | _ => return [toString (← Read.inParens Read.natural)]

/-- Reads the words after a type that say more about it. -/
def takeQualifier (name : String) : Read String := do
  if integers.contains name || unsignable.contains name then
    if ← Read.keyword? "UNSIGNED" then return "UNSIGNED"
    if integers.contains name then
      let _ ← Read.keyword? "SIGNED"
    return ""
  else if name == "TIMESTAMP" || name == "TIME" then
    match ← Read.oneOf? ["WITH", "WITHOUT"] with
    | some word =>
      Read.keywords ["TIME", "ZONE"]
      return word ++ " TIME ZONE"
    | none => return ""
  else return ""

def takeName : List (List String × Arguments) → Read (Option (String × Arguments))
  | [] => pure none
  | (words, arguments) :: rest => do
    if ← Read.keywords? words then return some (Text.join " " words, arguments)
    else takeName rest

def takeMember : Read (String × Option String) := do
  let name ← Read.literalText
  if ← Read.sign? "=" then return (name, some (toString (← Read.natural)))
  else return (name, none)

/-- Reads the arguments of a type of the user's own. -/
def takeModifiers : Read (List String) := do
  if !(← Read.sign? "(") then return []
  let parts ← Reading.many (Reading.takeIf fun
    | .word text quote => some (some (Ident.written ⟨text, quote⟩))
    | .number text => some (some text)
    | .string text => some (some text)
    | .sign "," => some none
    | _ => none)
  Read.sign ")"
  return parts.filterMap id

def take : Read DataType := do
  match ← takeName builtins with
  | some (name, arguments) =>
    let arguments ← takeArguments arguments
    return .builtin name arguments (← takeQualifier name)
  | none =>
    if ← Read.keyword? "ENUM" then return .enum (← Read.listed takeMember)
    else if ← Read.keyword? "SET" then return .set (← Read.listed Read.string)
    else match ← Reading.peek with
    | some (.word _ _) =>
      let path ← Read.path
      return .custom path (← takeModifiers)
    | _ => Reading.fail

def isCustom : DataType → Bool
  | custom _ _ => true
  | _ => false

end DataType
end Database
end Scaffold
