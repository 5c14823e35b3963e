/-
English plurals by suffix rules and a short list of irregular nouns.
-/
import Scaffold.Text.Case

namespace Scaffold
namespace Text

def irregularNouns : List (String × String) := [
  ("person", "people"), ("child", "children"), ("man", "men"), ("woman", "women"),
  ("foot", "feet"), ("tooth", "teeth"), ("mouse", "mice"), ("index", "indices")]

/-- Irregular plurals that are led back to their singular. -/
def irregularPlurals : List (String × String) := [
  ("people", "person"), ("children", "child"), ("men", "man"), ("women", "woman"),
  ("indices", "index")]

/-- The replacement starts with a capital letter when the replaced word does. -/
def likeFirstLetter (word replacement : String) : String :=
  match word.toList with
  | c :: _ => if isUppercase c then pascalCase replacement else replacement
  | [] => replacement

def endsInAny (endings : List String) (s : String) : Bool :=
  endings.any (endsWith · s)

def dropLastChars (n : Nat) (s : String) : String :=
  String.ofList (s.toList.take (s.toList.length - n))

/-- The letters after which a final `y` stays. -/
def vowels : List Char := ['a', 'e', 'i', 'o', 'u']

/-- The character at the position of the last but one byte of the text in small letters: for
ASCII words, the letter before the last. -/
def letterBeforeLast? (small : String) : Option Char :=
  small.toList[small.utf8ByteSize - 2]?

def pluralize (word : String) : String :=
  let small := lowercase word
  if word.isEmpty then word
  else match irregularNouns.find? (·.1 == small) with
  | some (_, plural) => likeFirstLetter word plural
  | none =>
    if endsInAny ["is"] small && word.utf8ByteSize > 2 then dropLastChars 2 word ++ "es"
    else if endsInAny ["fe"] word then dropLastChars 2 word ++ "ves"
    else if endsInAny ["s", "x", "z", "ch", "sh"] small then word ++ "es"
    else if endsInAny ["y"] small && word.utf8ByteSize > 1
        && !((letterBeforeLast? small).any vowels.contains) then
      dropLastChars 1 word ++ "ies"
    else word ++ "s"

/-- The singular of a plural noun; a word that does not look like a plural stays. -/
def singularize (word : String) : String :=
  let small := lowercase word
  match irregularPlurals.find? (·.1 == small) with
  | some (_, singular) => likeFirstLetter word singular
  | none =>
    if endsInAny ["ies"] small && word.utf8ByteSize > 3 then dropLastChars 3 word ++ "y"
    else if endsInAny ["sses", "xes", "ches", "shes"] small then dropLastChars 2 word
    else if endsInAny ["s"] small && !endsInAny ["ss", "us"] small && word.utf8ByteSize > 1 then
      dropLastChars 1 word
    else word

end Text
end Scaffold
