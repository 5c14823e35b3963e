/-
Cutting texts into pieces and joining them. The working form of a text is its list of
characters; the functions on `String` wrap the ones on lists.
-/

namespace Scaffold
namespace Text

/-- Puts a character in front of the first piece. -/
def extendHead (c : Char) : List (List Char) → List (List Char)
  | [] => [[c]]
  | piece :: rest => (c :: piece) :: rest

/-- The pieces between the characters that satisfy `p`; one piece more than there are such
characters. -/
def splitWhere (p : Char → Bool) : List Char → List (List Char)
  | [] => [[]]
  | c :: rest => if p c then [] :: splitWhere p rest else extendHead c (splitWhere p rest)

theorem splitWhere_ne_nil (p : Char → Bool) (cs : List Char) : splitWhere p cs ≠ [] := by
  cases cs with
  | nil => simp [splitWhere]
  | cons c rest =>
    rw [splitWhere]
    split
    · simp
    · cases splitWhere p rest <;> simp [extendHead]

def split (p : Char → Bool) (s : String) : List String :=
  (splitWhere p s.toList).map String.ofList

/-- The piece after the last character that satisfies `p`. -/
def afterLast (p : Char → Bool) (cs : List Char) : List Char :=
  (cs.reverse.takeWhile (!p ·)).reverse

/-- The piece before the first character that satisfies `p`. -/
def beforeFirst (p : Char → Bool) (cs : List Char) : List Char :=
  cs.takeWhile (!p ·)

/-- What follows `front` in a list that starts with it. -/
def dropFront? (front : List Char) (cs : List Char) : Option (List Char) :=
  if front.isPrefixOf cs then some (cs.drop front.length) else none

/-- What precedes `back` in a list that ends with it. -/
def dropBack? (back : List Char) (cs : List Char) : Option (List Char) :=
  if back.isSuffixOf cs then some (cs.take (cs.length - back.length)) else none

/-- The characters before the first occurrence of `mark` and those after it. -/
def cutAt? (mark : List Char) : List Char → Option (List Char × List Char)
  | [] => if mark = [] then some ([], []) else none
  | c :: rest =>
    if mark.isPrefixOf (c :: rest) then some ([], (c :: rest).drop mark.length)
    else (cutAt? mark rest).map fun (before, after) => (c :: before, after)

/-- Whether `mark` occurs in the list. -/
def occursIn (mark cs : List Char) : Bool :=
  (cutAt? mark cs).isSome

theorem cutAt?_length {mark cs before after : List Char}
    (h : cutAt? mark cs = some (before, after)) : after.length + mark.length ≤ cs.length := by
  induction cs generalizing before with
  | nil =>
    rw [cutAt?] at h
    split at h
    · simp_all
    · simp at h
  | cons c rest ih =>
    rw [cutAt?] at h
    split at h
    · next hp =>
      have hl := (List.isPrefixOf_iff_prefix.mp hp).length_le
      simp only [Option.some.injEq, Prod.mk.injEq] at h
      rw [← h.2, List.length_drop]
      omega
    · obtain ⟨⟨b, a⟩, hb, he⟩ := Option.map_eq_some_iff.mp h
      simp only [Prod.mk.injEq] at he
      have := ih (he.2 ▸ hb)
      simp only [List.length_cons]
      omega

/-- Every occurrence of a character is replaced by a text. -/
def replaceChar (c : Char) (replacement : List Char) (cs : List Char) : List Char :=
  cs.flatMap fun d => if d = c then replacement else [d]

/-- Non-overlapping occurrences of the pair `a`, `b`, from the left, become `c`. -/
def replacePair (a b c : Char) : List Char → List Char
  | x :: y :: rest =>
    if x = a ∧ y = b then c :: replacePair a b c rest else x :: replacePair a b c (y :: rest)
  | cs => cs

def join (separator : String) (pieces : List String) : String :=
  separator.intercalate pieces

def startsWith (front s : String) : Bool :=
  front.toList.isPrefixOf s.toList

def endsWith (back s : String) : Bool :=
  back.toList.isSuffixOf s.toList

def contains (part s : String) : Bool :=
  occursIn part.toList s.toList

end Text
end Scaffold
