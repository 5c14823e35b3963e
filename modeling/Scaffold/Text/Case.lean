/-
Identifier styles. A text is cut into words at every character that is neither a letter nor a
digit, and inside such a piece where a small letter is followed by a capital one and before
the last capital of a run of capitals that a small letter follows. A style then says how
the words are written and joined.
-/
import Scaffold.Text.Letter
import Scaffold.Text.Split

namespace Scaffold
namespace Text

/-- The case of the last letter seen in the current word. -/
inductive WordCase where
  | unknown
  | small
  | capital
deriving DecidableEq, Repr

/-- The case after one more character; a character without case changes nothing. -/
def WordCase.after (state : WordCase) (c : Char) : WordCase :=
  if isLowercase c then .small else if isUppercase c then .capital else state

/-- The words of a piece of letters and digits; `word` is the current one, in reverse. -/
def wordsFrom (state : WordCase) (word : List Char) : List Char → List (List Char)
  | [] => []
  | [c] => [(c :: word).reverse]
  | c :: d :: rest =>
    if state.after c = .small ∧ isUppercase d then
      (c :: word).reverse :: wordsFrom .unknown [] (d :: rest)
    else if state = .capital ∧ isUppercase c ∧ isLowercase d then
      word.reverse :: wordsFrom .unknown [c] (d :: rest)
    else wordsFrom (state.after c) (c :: word) (d :: rest)

def nameWords (s : String) : List (List Char) :=
  (splitWhere (!isAlphanumeric ·) s.toList).flatMap (wordsFrom .unknown [])

/-- A word in small letters; a sigma at its end is the final one. -/
def smallWord : List Char → List Char
  | [] => []
  | [c] => if c = 'Σ' then [finalSigma] else lowerForm c
  | c :: rest => lowerForm c ++ smallWord rest

def capitalWord : List Char → List Char
  | [] => []
  | c :: rest => upperForm c ++ smallWord rest

/-- Words with capital first letters and nothing between them: `OrderItem`. -/
def pascalCase (s : String) : String :=
  String.ofList ((nameWords s).flatMap capitalWord)

/-- As `pascalCase`, but the first word is in small letters: `orderItem`. -/
def camelCase (s : String) : String :=
  match nameWords s with
  | [] => ""
  | first :: rest => String.ofList (smallWord first ++ rest.flatMap capitalWord)

/-- Words in small letters with a separator between them. -/
def separated (separator : Char) (s : String) : String :=
  String.ofList ([separator].intercalate ((nameWords s).map smallWord))

/-- Words joined by underscores: `order_item`. -/
def snakeCase (s : String) : String :=
  separated '_' s

/-- Words joined by hyphens: `order-item`. -/
def kebabCase (s : String) : String :=
  separated '-' s

end Text
end Scaffold
