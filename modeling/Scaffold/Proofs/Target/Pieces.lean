/-
What written types are made of: signs of the language, its names of primitives, and names that stand in
the text as the model has them (`printedNames`). Of the types that texts and marks mean, the references are
the names that are printed and those inside the keys of maps, which no language prints:
`mem_references_iff_printed`.
-/
import Scaffold.Proofs.Reachability
import Scaffold.Proofs.TypeExpr.Flattening

namespace Scaffold

namespace TypeExpr

mutual

/-- The names of references inside the keys of maps. -/
def keyReferences : TypeExpr → List String
  | ⟨name, [key, value], _, _, _⟩ =>
    (if name = dictionaryName then references key else keyReferences key) ++ keyReferences value
  | ⟨_, args, _, _, _⟩ => keyReferencesIn args

def keyReferencesIn : List TypeExpr → List String
  | [] => []
  | t :: rest => keyReferences t ++ keyReferencesIn rest

end

end TypeExpr

namespace Target

open TypeExpr

/-- A part of a written type. -/
inductive Piece where
  /-- A sign or a word of the language. -/
  | sign (text : String)
  | primitive (p : Primitive)
  /-- A name as the model has it. -/
  | name (name : String)

namespace Piece

def text (target : Target) : Piece → String
  | sign s => s
  | primitive p => target.primitiveName p
  | name n => n

def name? : Piece → Option String
  | name n => some n
  | _ => none

end Piece

def textOf (target : Target) (pieces : List Piece) : String :=
  String.join (pieces.map (·.text target))

def namesOf (pieces : List Piece) : List String :=
  pieces.filterMap (·.name?)

/-! ## The pieces of a type -/

def separate : List (List Piece) → List Piece
  | [] => []
  | [ps] => ps
  | ps :: rest => ps ++ .sign ", " :: separate rest

def enclosed (front : String) (inside : List Piece) (back : String) : List Piece :=
  .sign front :: (inside ++ [.sign back])

def listPieces : Target → List Piece → List Piece
  | .csharp, element => enclosed "List<" element ">"
  | .typescript, element =>
    if (textOf .typescript element).toList.contains ' ' then enclosed "(" element ")[]"
    else element ++ [.sign "[]"]
  | .rust, element => enclosed "Vec<" element ">"

def mapPieces : Target → List Piece → List Piece
  | .csharp, value => enclosed "Dictionary<string, " value ">"
  | .typescript, value => enclosed "Record<string, " value ">"
  | .rust, value => enclosed "std::collections::HashMap<String, " value ">"

/-- The pieces with those of null, unless their text looks as if they had null already. -/
def nullPieces (target : Target) (base : List Piece) : List Piece :=
  if target.hasNull (textOf target base) then base
  else match target with
    | .csharp => base ++ [.sign "?"]
    | .typescript => base ++ [.sign nullUnion]
    | .rust => enclosed "Option<" base ">"

/-- A name alone: a primitive of the language's table, or the name of another type. -/
def namePiece (name : String) : Piece :=
  match Primitive.ofName? name with
  | some p => .primitive p
  | none => .name name

/-- A type that is neither a list nor a map: an enum, a name alone, or a generic type. -/
def plainPieces (name : String) (isEnum : Bool) (args : List (List Piece)) : List Piece :=
  if isEnum then [.name name]
  else if args.isEmpty then [namePiece name]
  else .name name :: enclosed "<" (separate args) ">"

/-- A type without null. -/
def basePieces (target : Target) (name : String) (isEnum : Bool) (args : List (List Piece)) :
    List Piece :=
  match args with
  | [element] => if name = listName then target.listPieces element else plainPieces name isEnum args
  | [_, value] => if name = dictionaryName then target.mapPieces value else plainPieces name isEnum args
  | _ => plainPieces name isEnum args

mutual

def pieces (target : Target) : TypeExpr → List Piece
  | ⟨name, args, _, isEnum, isNullable⟩ =>
    let base := target.basePieces name isEnum (piecesAll target args)
    if isNullable then target.nullPieces base else base

def piecesAll (target : Target) : List TypeExpr → List (List Piece)
  | [] => []
  | t :: rest => pieces target t :: piecesAll target rest

end

/-- The names that a written type prints as they are, at any depth. -/
def printedNames (target : Target) (t : TypeExpr) : List String :=
  namesOf (target.pieces t)

/-! ## Texts -/

/-- A type that is neither a list nor a map in writing. -/
def plainText (target : Target) (name : String) (isEnum : Bool) (texts : List String) : String :=
  if isEnum then name
  else match texts with
    | [] => target.typeName name
    | texts => applied name texts

/-- A type without null in writing. -/
def baseText (target : Target) (name : String) (isEnum : Bool) (texts : List String) : String :=
  match texts with
  | [element] => if name = listName then target.listOf element else target.plainText name isEnum texts
  | [_, value] => if name = dictionaryName then target.mapOf value else target.plainText name isEnum texts
  | _ => target.plainText name isEnum texts

theorem render_eq (target : Target) (name : String) (args : List TypeExpr) (r isEnum nullable : Bool) :
    target.render ⟨name, args, r, isEnum, nullable⟩ =
      target.marked nullable (target.baseText name isEnum (args.map target.render)) := by
  rw [render, renderAll_eq_map]
  rcases args with _ | ⟨first, _ | ⟨second, _ | ⟨third, rest⟩⟩⟩ <;> rfl

variable {target : Target}

@[simp] theorem textOf_nil : textOf target [] = "" := rfl

@[simp] theorem textOf_cons (p : Piece) (ps : List Piece) :
    textOf target (p :: ps) = p.text target ++ textOf target ps := by
  simp [textOf, String.join_cons]

@[simp] theorem textOf_append (ps qs : List Piece) :
    textOf target (ps ++ qs) = textOf target ps ++ textOf target qs := by
  induction ps with
  | nil => simp
  | cons p rest ih => rw [List.cons_append, textOf_cons, textOf_cons, ih, String.append_assoc]

@[simp] theorem textOf_enclosed (front back : String) (ps : List Piece) :
    textOf target (enclosed front ps back) = front ++ textOf target ps ++ back := by
  simp [enclosed, Piece.text, String.append_assoc]

theorem textOf_separate (lists : List (List Piece)) :
    textOf target (separate lists) = Text.join ", " (lists.map (textOf target)) := by
  induction lists with
  | nil => rfl
  | cons first rest ih =>
    cases rest with
    | nil => simp [separate, Text.join]
    | cons second others =>
      apply String.toList_injective
      rw [separate, textOf_append, textOf_cons, ih]
      · simp [Piece.text, toList_join_cons_cons]
      · exact List.cons_ne_nil _ _

theorem textOf_listPieces (element : List Piece) :
    textOf target (target.listPieces element) = target.listOf (textOf target element) := by
  cases target with
  | csharp | rust => exact textOf_enclosed _ _ element
  | typescript =>
    rw [listPieces, listOf]
    split
    · exact textOf_enclosed _ _ element
    · simp [Piece.text]

theorem textOf_mapPieces (value : List Piece) :
    textOf target (target.mapPieces value) = target.mapOf (textOf target value) := by
  cases target <;> exact textOf_enclosed _ _ value

theorem textOf_nullPieces (base : List Piece) :
    textOf target (target.nullPieces base) = target.nullableOf (textOf target base) := by
  have asked : target.nullableOf (textOf target base) =
      if target.hasNull (textOf target base) then textOf target base
      else match target with
        | .csharp => textOf target base ++ "?"
        | .typescript => textOf target base ++ nullUnion
        | .rust => "Option<" ++ textOf target base ++ ">" := by
    cases target <;> rfl
  rw [asked]
  unfold nullPieces
  split
  · rfl
  · cases target <;> simp [Piece.text]

theorem text_namePiece (name : String) : (namePiece name).text target = target.typeName name := by
  rw [namePiece, typeName]
  cases Primitive.ofName? name <;> rfl

theorem textOf_plainPieces (name : String) (isEnum : Bool) (args : List (List Piece)) :
    textOf target (plainPieces name isEnum args) =
      target.plainText name isEnum (args.map (textOf target)) := by
  unfold plainPieces
  cases isEnum with
  | true => simp [plainText, Piece.text]
  | false =>
    cases args with
    | nil => simp [plainText, text_namePiece]
    | cons first rest =>
      have front : (Piece.name name).text target = name := rfl
      simp [plainText, front, textOf_separate, applied, String.append_assoc]

theorem textOf_basePieces (name : String) (isEnum : Bool) (args : List (List Piece)) :
    textOf target (target.basePieces name isEnum args) =
      target.baseText name isEnum (args.map (textOf target)) := by
  have plain : textOf target (plainPieces name isEnum args) = _ := textOf_plainPieces name isEnum args
  rcases args with _ | ⟨first, _ | ⟨second, _ | ⟨third, rest⟩⟩⟩
  · exact plain
  · simp only [basePieces, baseText, List.map_cons, List.map_nil, apply_ite (textOf target),
      textOf_listPieces, plain]
  · simp only [basePieces, baseText, List.map_cons, List.map_nil, apply_ite (textOf target),
      textOf_mapPieces, plain]
  · exact plain

mutual

theorem textOf_pieces (target : Target) : (t : TypeExpr) → textOf target (target.pieces t) = target.render t
  | ⟨name, args, r, isEnum, nullable⟩ => by
    rw [render_eq, ← map_textOf_piecesAll target args, ← textOf_basePieces, pieces]
    cases nullable with
    | false => rfl
    | true => exact textOf_nullPieces _

theorem map_textOf_piecesAll (target : Target) :
    (ts : List TypeExpr) → (target.piecesAll ts).map (textOf target) = ts.map target.render
  | [] => rfl
  | t :: rest => by
    rw [piecesAll, List.map_cons, List.map_cons, textOf_pieces, map_textOf_piecesAll]

end

/-! ## Names -/

@[simp] theorem namesOf_append (ps qs : List Piece) : namesOf (ps ++ qs) = namesOf ps ++ namesOf qs :=
  List.filterMap_append

@[simp] theorem namesOf_enclosed (front back : String) (ps : List Piece) :
    namesOf (enclosed front ps back) = namesOf ps := by
  simp [enclosed, namesOf, Piece.name?]

theorem namesOf_separate (lists : List (List Piece)) :
    namesOf (separate lists) = lists.flatMap namesOf := by
  induction lists with
  | nil => rfl
  | cons first rest ih =>
    cases rest with
    | nil => simp [separate]
    | cons second others =>
      rw [List.flatMap_cons, ← ih, separate, namesOf_append]
      · rfl
      · exact List.cons_ne_nil _ _

theorem namesOf_listPieces (element : List Piece) : namesOf (target.listPieces element) = namesOf element := by
  cases target with
  | csharp | rust => exact namesOf_enclosed _ _ element
  | typescript =>
    rw [listPieces]
    split
    · exact namesOf_enclosed _ _ element
    · simp [namesOf, Piece.name?]

theorem namesOf_mapPieces (value : List Piece) : namesOf (target.mapPieces value) = namesOf value := by
  cases target <;> exact namesOf_enclosed _ _ value

theorem namesOf_nullPieces (base : List Piece) : namesOf (target.nullPieces base) = namesOf base := by
  unfold nullPieces
  split
  · rfl
  · cases target <;> simp [enclosed, namesOf, Piece.name?]

theorem piecesAll_eq_map (ts : List TypeExpr) : target.piecesAll ts = ts.map target.pieces := by
  induction ts with
  | nil => rfl
  | cons t rest ih => rw [piecesAll, ih, List.map_cons]

theorem printedNames_eq (name : String) (args : List TypeExpr) (r isEnum nullable : Bool) :
    target.printedNames ⟨name, args, r, isEnum, nullable⟩ =
      namesOf (target.basePieces name isEnum (args.map target.pieces)) := by
  rw [printedNames, pieces, piecesAll_eq_map]
  cases nullable with
  | false => rfl
  | true => exact namesOf_nullPieces _

theorem printedNames_primitive (p : Primitive) (nullable : Bool) :
    target.printedNames ⟨p.name, [], false, false, nullable⟩ = [] := by
  rw [printedNames_eq, List.map_nil, basePieces, plainPieces]
  · simp [namePiece, Primitive.ofName?_name, namesOf, Piece.name?]
  · nofun
  · nofun

theorem printedNames_enumeration (name : String) (nullable : Bool) :
    target.printedNames ⟨name, [], true, true, nullable⟩ = [name] := by
  rw [printedNames_eq]
  rfl

theorem printedNames_list (element : TypeExpr) (nullable : Bool) :
    target.printedNames ⟨listName, [element], false, false, nullable⟩ = target.printedNames element := by
  rw [printedNames_eq, List.map_singleton, basePieces, if_pos rfl, namesOf_listPieces, printedNames]

theorem printedNames_dictionary (key value : TypeExpr) (nullable : Bool) :
    target.printedNames ⟨dictionaryName, [key, value], false, false, nullable⟩ =
      target.printedNames value := by
  rw [printedNames_eq, List.map_cons, List.map_singleton, basePieces, if_pos rfl, namesOf_mapPieces,
    printedNames]

variable {name : String} {args : List TypeExpr}

theorem basePieces_own (own : ¬IsWrapper name args.length) (isEnum : Bool) :
    target.basePieces name isEnum (args.map target.pieces) =
      plainPieces name isEnum (args.map target.pieces) := by
  rcases args with _ | ⟨first, _ | ⟨second, _ | ⟨third, rest⟩⟩⟩
  · rfl
  · refine if_neg ?_
    rintro rfl
    exact own (.inl ⟨rfl, .inr (by decide)⟩)
  · refine if_neg ?_
    rintro rfl
    exact own (.inr ⟨rfl, by decide⟩)
  · rfl

theorem printedNames_reference (other : Primitive.ofName? name = none)
    (own : ¬IsWrapper name args.length) (nullable : Bool) :
    target.printedNames ⟨name, args, true, false, nullable⟩ =
      name :: args.flatMap target.printedNames := by
  rw [printedNames_eq, basePieces_own own, plainPieces]
  cases args with
  | nil => simp [namePiece, other, namesOf, Piece.name?]
  | cons first rest =>
    have inside : namesOf (enclosed "<" (separate ((first :: rest).map target.pieces)) ">") =
        (first :: rest).flatMap target.printedNames := by
      rw [namesOf_enclosed, namesOf_separate, List.flatMap_map]
      rfl
    rw [← inside]
    rfl

end Target

/-! ## References -/

namespace TypeExpr

theorem keyReferencesIn_eq (ts : List TypeExpr) : keyReferencesIn ts = ts.flatMap keyReferences := by
  induction ts with
  | nil => rfl
  | cons t rest ih => rw [keyReferencesIn, ih, List.flatMap_cons]

theorem keyReferences_own {name : String} {args : List TypeExpr} (own : ¬IsWrapper name args.length)
    (r e u : Bool) : keyReferences ⟨name, args, r, e, u⟩ = args.flatMap keyReferences := by
  rcases args with _ | ⟨first, _ | ⟨second, _ | ⟨third, rest⟩⟩⟩
  · rfl
  · exact keyReferencesIn_eq _
  · have not_map : name ≠ dictionaryName := by
      rintro rfl
      exact own (.inr ⟨rfl, by decide⟩)
    rw [keyReferences, if_neg not_map]
    simp
  · exact keyReferencesIn_eq _

/-- What a described type refers to is printed, or stands inside the key of a map. -/
theorem mem_references_iff_printed {t : TypeExpr} (described : Described t) (target : Target)
    (name : String) :
    name ∈ t.references ↔ name ∈ target.printedNames t ∨ name ∈ t.keyReferences := by
  induction described with
  | primitive p nullable =>
    rw [Target.printedNames_primitive]
    simp [references, referencesIn, keyReferences, keyReferencesIn]
  | enumeration own nullable =>
    rw [Target.printedNames_enumeration]
    simp [references, referencesIn, keyReferences, keyReferencesIn]
  | list nullable _ ih =>
    rw [Target.printedNames_list]
    simpa [references, referencesIn, keyReferences, keyReferencesIn] using ih
  | dictionary nullable _ _ _ value_ih =>
    rw [Target.printedNames_dictionary]
    simp only [references, referencesIn, keyReferences, if_true, Bool.false_eq_true, if_false,
      List.nil_append, List.append_nil, List.mem_append, value_ih]
    tauto
  | @reference own args nullable other is_own _ ih =>
    rw [Target.printedNames_reference other is_own, keyReferences_own is_own, references, if_pos rfl,
      List.mem_append, List.mem_singleton, mem_referencesIn_iff, List.mem_cons, List.mem_flatMap,
      List.mem_flatMap, or_assoc, ← exists_or]
    refine or_congr_right (exists_congr fun arg => ?_)
    rw [← and_or_left]
    exact and_congr_right fun mem => ih arg mem

end TypeExpr
end Scaffold
