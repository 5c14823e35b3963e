/-
Reading type expressions in the spellings of the supported sources: `List<T>`, `T[]`, `[T; 4]`,
`T?`, `Option<T>`, `Dictionary<K, V>`, arity marks, qualified names and borrows. Wrappers that
mean a list, a map or null are led back to those.
-/
import Scaffold.Text.Blank
import Scaffold.TypeExpr.Basic

namespace Scaffold
namespace TypeExpr

/-- Wrappers of one argument that mean a list. -/
def listWrappers : List String := [
  "List", "IList", "ICollection", "IEnumerable", "IReadOnlyList", "IReadOnlyCollection",
  "Collection", "ObservableCollection", "HashSet", "ISet", "SortedSet", "LinkedList", "Vec",
  "VecDeque", "BTreeSet"]

/-- Wrappers of two arguments that mean a map. -/
def mapWrappers : List String := [
  "Dictionary", "IDictionary", "IReadOnlyDictionary", "SortedDictionary", "ConcurrentDictionary",
  "HashMap", "BTreeMap", "IndexMap", "Map", "Record"]

/-- Wrappers of one argument that add null. -/
def nullableWrappers : List String := ["Nullable", "Option"]

def arityMark : Char := '\x60'

/-- A name without its arity mark and the names it is qualified by. -/
def shortNameChars (cs : List Char) : List Char :=
  Text.afterLast (fun c => c == '.' || c == ':') (Text.beforeFirst (· == arityMark) cs)

def shortName (name : String) : String :=
  String.ofList (shortNameChars name.toList)

/-- A name applied to arguments, with wrappers and primitives in their canonical form. Arguments
of a primitive say nothing about its shape and are dropped. -/
def apply (name : String) (args : List TypeExpr) : TypeExpr :=
  match args, canonicalPrimitive? name with
  | [arg], primitive =>
    if name ∈ nullableWrappers then arg.orNull
    else if name ∈ listWrappers then list arg
    else match primitive with
      | some p => named p
      | none => generic name [arg]
  | [key, value], primitive =>
    if name ∈ mapWrappers then dictionary key value
    else match primitive with
      | some p => named p
      | none => generic name [key, value]
  | _, some p => named p
  | [], none => reference name
  | args, none => generic name args

/-- Why a text is not a type expression. -/
inductive Fault where
  | expectedName
  | expected (c : Char)
  | trailing
deriving DecidableEq, Repr

def Fault.message : Fault → String
  | .expectedName => "expected a type name"
  | .expected c => "expected `" ++ c.toString ++ "`"
  | .trailing => "unexpected trailing characters"

/-- A fault and the number of characters left where it was found. -/
structure Stop where
  fault : Fault
  left : Nat
deriving DecidableEq, Repr

/-- Skips blanks, then the given character if it is next. -/
def eat (c : Char) (cs : List Char) : Bool × List Char :=
  match Text.dropBlank cs with
  | d :: rest => if d = c then (true, rest) else (false, d :: rest)
  | [] => (false, [])

/-- Skips blanks and demands the given character. -/
def expect (c : Char) (cs : List Char) : Except Stop (List Char) :=
  match eat c cs with
  | (true, rest) => .ok rest
  | (false, rest) => .error ⟨.expected c, rest.length⟩

def isNameChar (c : Char) : Bool :=
  Text.isAlphanumeric c || c == '_' || c == '.' || c == ':' || c == arityMark

/-- Skips blanks, then takes the name characters that follow. -/
def takeName (cs : List Char) : List Char × List Char :=
  let cs := Text.dropBlank cs
  (cs.takeWhile isNameChar, cs.dropWhile isNameChar)

/-- Skips a borrow mark with its lifetime and mutability. -/
def skipBorrow (cs : List Char) : List Char :=
  match eat '&' cs with
  | (false, cs) => cs
  | (true, cs) =>
    let cs := match eat '\x27' cs with
      | (true, rest) => (takeName rest).2
      | (false, rest) => rest
    match Text.dropBlank cs with
    | 'm' :: 'u' :: 't' :: ' ' :: rest => rest
    | rest => rest

/-- Skips the length of an array type, if there is one. -/
def skipLength (cs : List Char) : List Char :=
  match eat ';' cs with
  | (true, rest) => rest.dropWhile (· != ']')
  | (false, rest) => rest

def skipCommas (cs : List Char) : List Char :=
  cs.dropWhile fun c => Text.isBlank c || c == ','

/-- Applies the marks after a type from left to right: `int?[]` is a list of nullable ints. -/
def readMarks : Nat → TypeExpr → List Char → Except Stop (TypeExpr × List Char)
  | 0, t, cs => .ok (t, cs)
  | fuel + 1, t, cs =>
    match eat '?' cs with
    | (true, rest) => readMarks fuel t.orNull rest
    | (false, rest) =>
      match eat '[' rest with
      | (true, rest) => do
        let rest ← expect ']' (skipCommas rest)
        readMarks fuel (list t) rest
      | (false, rest) => .ok (t, rest)

mutual

/-- Reads a type; `fuel` bounds the nesting. -/
def readType (fuel : Nat) (cs : List Char) : Except Stop (TypeExpr × List Char) :=
  match fuel with
  | 0 => .error ⟨.expectedName, cs.length⟩
  | fuel + 1 => do
    let (t, rest) ← match eat '[' (skipBorrow cs) with
      | (true, rest) => do
        let (element, rest) ← readType fuel rest
        let rest ← expect ']' (skipLength rest)
        pure (list element, rest)
      | (false, rest) =>
        match takeName rest with
        | ([], rest) => .error ⟨.expectedName, rest.length⟩
        | (name, rest) =>
          let short := String.ofList (shortNameChars name)
          match eat '<' rest with
          | (true, rest) => do
            let (args, rest) ← readArgs fuel rest
            let rest ← expect '>' rest
            pure (apply short args, rest)
          | (false, rest) => pure (apply short [], rest)
    readMarks (rest.length + 1) t rest

def readArgs (fuel : Nat) (cs : List Char) : Except Stop (List TypeExpr × List Char) :=
  match fuel with
  | 0 => .error ⟨.expectedName, cs.length⟩
  | fuel + 1 => do
    let (arg, rest) ← readType fuel cs
    match eat ',' rest with
    | (true, rest) => do
      let (args, rest) ← readArgs fuel rest
      pure (arg :: args, rest)
    | (false, rest) => pure ([arg], rest)

end

structure ParseError where
  input : String
  offset : Nat
  fault : Fault
deriving DecidableEq, Repr

def ParseError.message (e : ParseError) : String :=
  "invalid type expression `" ++ e.input ++ "` at offset " ++ toString e.offset ++ ": " ++
    e.fault.message

def parse (input : String) : Except ParseError TypeExpr :=
  let cs := input.toList
  let fail := fun (stop : Stop) => ParseError.mk input (cs.length - stop.left) stop.fault
  match readType (2 * cs.length + 2) cs with
  | .error stop => .error (fail stop)
  | .ok (t, rest) =>
    match Text.dropBlank rest with
    | [] => .ok t
    | rest => .error (fail ⟨.trailing, rest.length⟩)

def parse? (input : String) : Option TypeExpr :=
  (parse input).toOption

end TypeExpr
end Scaffold
