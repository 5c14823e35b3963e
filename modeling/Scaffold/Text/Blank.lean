/-
Blank characters: trimming, lines and words.
-/
import Scaffold.Text.Alphabet
import Scaffold.Text.Split

namespace Scaffold
namespace Text

/-- Blank characters beyond ASCII. -/
def blankRuns : List Run := [
  ⟨0x85, 0x85, 1⟩, ⟨0xa0, 0xa0, 1⟩, ⟨0x1680, 0x1680, 1⟩, ⟨0x2000, 0x200a, 1⟩,
  ⟨0x2028, 0x2029, 1⟩, ⟨0x202f, 0x202f, 1⟩, ⟨0x205f, 0x205f, 1⟩, ⟨0x3000, 0x3000, 1⟩]

/-- White space: the space, tabs, line ends and the wide spaces of other scripts. -/
def isBlank (c : Char) : Bool :=
  if c.toNat < 128 then c == ' ' || (9 ≤ c.toNat && c.toNat ≤ 13) else inRuns blankRuns c

def dropBlank (cs : List Char) : List Char :=
  cs.dropWhile isBlank

def dropBlankEnd (cs : List Char) : List Char :=
  (dropBlank cs.reverse).reverse

def trimStart (s : String) : String :=
  String.ofList (dropBlank s.toList)

def trimEnd (s : String) : String :=
  String.ofList (dropBlankEnd s.toList)

def trim (s : String) : String :=
  String.ofList (dropBlankEnd (dropBlank s.toList))

/-- A text in which nothing can be seen. -/
def isBlankText (s : String) : Bool :=
  s.toList.all isBlank

def words (s : String) : List String :=
  ((splitWhere isBlank s.toList).filter (!·.isEmpty)).map String.ofList

/-- Blank stretches become one space each, and none is left at the ends. -/
def collapse (s : String) : String :=
  join " " (words s)

/-- The texts between line feeds; what follows the last one is a line only if it is not empty. -/
def lines (cs : List Char) : List (List Char) :=
  let pieces := splitWhere (· == '\n') cs
  if pieces.getLast? = some [] then pieces.dropLast else pieces

/-- The lines in their final form: no blanks at the end of a line, and of consecutive blank
lines only the first, unless it comes before every visible line (`afterBlank` holds when the
line before was blank, or there was none). -/
def tidyLines (afterBlank : Bool) : List (List Char) → List (List Char)
  | [] => []
  | line :: rest =>
    match dropBlankEnd line with
    | [] => if afterBlank then tidyLines true rest else [] :: tidyLines true rest
    | visible => visible :: tidyLines false rest

/-- Drops the empty lines at the end. -/
def dropEmptyEnd (ls : List (List Char)) : List (List Char) :=
  (ls.reverse.dropWhile List.isEmpty).reverse

/-- The normal form of a generated text: lines without trailing blanks, at most one blank line in
a row, none at either end, and a line feed at the end. A text without visible lines is one
line feed. -/
def tidy (s : String) : String :=
  match dropEmptyEnd (tidyLines true (lines s.toList)) with
  | [] => "\n"
  | ls => String.ofList (ls.flatMap (· ++ ['\n']))

end Text
end Scaffold
