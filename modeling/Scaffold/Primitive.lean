/-
The primitive types every source and target knows, under one canonical name each.
-/

namespace Scaffold

inductive Primitive where
  | string
  | char
  | bool
  | byte
  | sbyte
  | short
  | ushort
  | int
  | uint
  | long
  | ulong
  | float
  | double
  | decimal
  | guid
  | dateTime
  | dateTimeOffset
  | dateOnly
  | timeOnly
  | timeSpan
  | object
deriving DecidableEq, Repr

namespace Primitive

def all : List Primitive := [
  .string, .char, .bool, .byte, .sbyte, .short, .ushort, .int, .uint, .long, .ulong, .float,
  .double, .decimal, .guid, .dateTime, .dateTimeOffset, .dateOnly, .timeOnly, .timeSpan, .object]

def name : Primitive → String
  | .string => "string"
  | .char => "char"
  | .bool => "bool"
  | .byte => "byte"
  | .sbyte => "sbyte"
  | .short => "short"
  | .ushort => "ushort"
  | .int => "int"
  | .uint => "uint"
  | .long => "long"
  | .ulong => "ulong"
  | .float => "float"
  | .double => "double"
  | .decimal => "decimal"
  | .guid => "Guid"
  | .dateTime => "DateTime"
  | .dateTimeOffset => "DateTimeOffset"
  | .dateOnly => "DateOnly"
  | .timeOnly => "TimeOnly"
  | .timeSpan => "TimeSpan"
  | .object => "object"

/-- Other names of the same type in the languages that declarations come from. -/
def aliases : Primitive → List String
  | .string => ["String", "str"]
  | .char => ["Char"]
  | .bool => ["Boolean"]
  | .byte => ["Byte", "u8"]
  | .sbyte => ["SByte", "i8"]
  | .short => ["Int16", "i16"]
  | .ushort => ["UInt16", "u16"]
  | .int => ["Int32", "i32"]
  | .uint => ["UInt32", "u32"]
  | .long => ["Int64", "i64", "isize"]
  | .ulong => ["UInt64", "u64", "usize"]
  | .float => ["Single", "f32"]
  | .double => ["Double", "f64"]
  | .decimal => ["Decimal"]
  | .guid => ["Uuid"]
  | .dateTime => ["NaiveDateTime"]
  | .dateTimeOffset => []
  | .dateOnly => ["NaiveDate"]
  | .timeOnly => ["NaiveTime"]
  | .timeSpan => ["Duration"]
  | .object => ["Object", "dynamic", "Value"]

def spellings (p : Primitive) : List String :=
  p.name :: p.aliases

def ofName? (s : String) : Option Primitive :=
  all.find? (·.name == s)

def ofSpelling? (s : String) : Option Primitive :=
  all.find? (·.spellings.contains s)

theorem ofName?_name (p : Primitive) : ofName? p.name = some p := by
  cases p <;> rfl

theorem ofSpelling?_name (p : Primitive) : ofSpelling? p.name = some p := by
  cases p <;> rfl

def isValue (p : Primitive) : Bool :=
  p != .string && p != .object

end Primitive

/-- The canonical name of a primitive in any spelling. -/
def canonicalPrimitive? (s : String) : Option String :=
  (Primitive.ofSpelling? s).map Primitive.name

/-- Whether a name in any spelling is a primitive that cannot be null without a marker. -/
def isValuePrimitive (s : String) : Bool :=
  (Primitive.ofSpelling? s).any Primitive.isValue

end Scaffold
