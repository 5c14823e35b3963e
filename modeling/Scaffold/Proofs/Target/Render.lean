/-
How canonical types are written: one equation for each form of them. The null mark is put on what the
type is without it (`marked`).
-/
import Scaffold.Proofs.TypeExpr.Canonical
import Scaffold.Target.Render

namespace Scaffold
namespace Target

open TypeExpr

variable {target : Target} {name : String} {args : List TypeExpr}

/-- A written type, with null if that is among its values. -/
def marked (target : Target) (nullable : Bool) (base : String) : String :=
  if nullable then target.nullableOf base else base

/-- A name with written arguments. -/
def applied (name : String) : List String → String
  | [] => name
  | texts => name ++ "<" ++ Text.join ", " texts ++ ">"

theorem renderAll_eq_map (target : Target) (ts : List TypeExpr) :
    target.renderAll ts = ts.map target.render := by
  induction ts with
  | nil => rfl
  | cons t ts ih => rw [renderAll, ih, List.map_cons]

theorem ofName?_eq_none (other : canonicalPrimitive? name = none) : Primitive.ofName? name = none := by
  rw [canonicalPrimitive?, Option.map_eq_none_iff, Primitive.ofSpelling?, List.find?_eq_none] at other
  rw [Primitive.ofName?, List.find?_eq_none]
  intro p mem same
  rw [beq_iff_eq] at same
  refine other p mem ?_
  rw [Primitive.spellings, same]
  exact List.contains_iff_mem.mpr List.mem_cons_self

theorem render_primitive (target : Target) (p : Primitive) (nullable : Bool) :
    target.render ⟨p.name, [], false, false, nullable⟩ =
      target.marked nullable (target.primitiveName p) := by
  have name : target.typeName p.name = target.primitiveName p := by
    rw [typeName, Primitive.ofName?_name]
  rw [render]
  simp only [renderAll, List.isEmpty_nil, if_true, Bool.false_eq_true, if_false, name]
  rfl

theorem render_list (target : Target) (element : TypeExpr) (nullable : Bool) :
    target.render ⟨listName, [element], false, false, nullable⟩ =
      target.marked nullable (target.listOf (target.render element)) := by
  rw [render]
  simp only [renderAll, if_true]
  rfl

theorem render_dictionary (target : Target) (key value : TypeExpr) (nullable : Bool) :
    target.render ⟨dictionaryName, [key, value], false, false, nullable⟩ =
      target.marked nullable (target.mapOf (target.render value)) := by
  rw [render]
  simp only [renderAll, if_true]
  rfl

/-- A name that means nothing else is written as it is. -/
theorem render_reference (target : Target) (other : canonicalPrimitive? name = none)
    (own : ¬IsWrapper name args.length) (nullable : Bool) :
    target.render ⟨name, args, true, false, nullable⟩ =
      target.marked nullable (applied name (args.map target.render)) := by
  have own_name : target.typeName name = name := by
    rw [typeName, ofName?_eq_none other]
  rw [render, renderAll_eq_map]
  rcases args with _ | ⟨first, _ | ⟨second, _ | ⟨third, rest⟩⟩⟩
  · simp only [List.map_nil, List.isEmpty_nil, if_true, Bool.false_eq_true, if_false, own_name]
    rfl
  · have not_list : name ≠ listName := by
      rintro rfl
      exact own (.inl ⟨rfl, .inr (by decide)⟩)
    simp only [List.map_cons, List.map_nil, if_neg not_list]
    rfl
  · have not_map : name ≠ dictionaryName := by
      rintro rfl
      exact own (.inr ⟨rfl, by decide⟩)
    simp only [List.map_cons, List.map_nil, if_neg not_map]
    rfl
  · rfl

/-! ## The null mark

Null is put on what is written without it only if it is not there yet, and that is seen from the text
alone. A text without a mark never looks like one with it. -/

/-- The text ends or starts as one with null does. -/
def hasNull : Target → String → Bool
  | csharp, base => Text.endsWith "?" base
  | typescript, base => Text.endsWith nullUnion base
  | rust, base => Text.startsWith "Option<" base

theorem endsWith_eq_false_of_notMem {c : Char} {back s : String} (mem : c ∈ back.toList)
    (notMem : c ∉ s.toList) : Text.endsWith back s = false := by
  by_contra ends
  rw [Bool.not_eq_false, Text.endsWith, List.isSuffixOf_iff_suffix] at ends
  exact notMem (ends.subset mem)

theorem endsWith_eq_false_of_last {c d : Char} {back s : String} (back_last : back.toList.getLast? = some c)
    (last : s.toList.getLast? = some d) (other : c ≠ d) : Text.endsWith back s = false := by
  by_contra ends
  rw [Bool.not_eq_false, Text.endsWith, List.isSuffixOf_iff_suffix] at ends
  obtain ⟨rest, same⟩ := ends
  rw [← same, List.getLast?_append, back_last] at last
  exact other (Option.some.inj last)

theorem getLast?_append {c : Char} {back : String} (last : back.toList.getLast? = some c) (front : String) :
    (front ++ back).toList.getLast? = some c := by
  rw [String.toList_append, List.getLast?_append, last]
  rfl

/-- The marks at the end of a text with null are no closing brackets. -/
theorem hasNull_of_closed (spoken : target ≠ rust) {back : String} (closed : back = ">" ∨ back = "[]")
    (front : String) : target.hasNull (front ++ back) = false := by
  have last : ∃ d, back.toList.getLast? = some d ∧ (d = '>' ∨ d = ']') := by
    rcases closed with rfl | rfl
    · exact ⟨'>', by decide, .inl rfl⟩
    · exact ⟨']', by decide, .inr rfl⟩
  obtain ⟨d, last, bracket⟩ := last
  have text_last := getLast?_append last front
  cases target with
  | rust => exact absurd rfl spoken
  | csharp =>
    have mark_last : "?".toList.getLast? = some '?' := by decide
    refine endsWith_eq_false_of_last mark_last text_last ?_
    rcases bracket with rfl | rfl <;> decide
  | typescript =>
    have mark_last : nullUnion.toList.getLast? = some 'l' := by decide
    refine endsWith_eq_false_of_last mark_last text_last ?_
    rcases bracket with rfl | rfl <;> decide

theorem startsWith_eq_false_of_first {c d : Char} {front s : String} (front_first : front.toList.head? = some c)
    (first : s.toList.head? = some d) (other : c ≠ d) : Text.startsWith front s = false := by
  by_contra starts
  rw [Bool.not_eq_false, Text.startsWith, List.isPrefixOf_iff_prefix] at starts
  obtain ⟨rest, same⟩ := starts
  rw [← same, List.head?_append, front_first] at first
  exact other (Option.some.inj first)

theorem head?_append {c : Char} {front : String} (first : front.toList.head? = some c) (back : String) :
    (front ++ back).toList.head? = some c := by
  rw [String.toList_append, List.head?_append, first]
  rfl

theorem startsWith_eq_false_of_notMem {c : Char} {front s : String} (mem : c ∈ front.toList)
    (notMem : c ∉ s.toList) : Text.startsWith front s = false := by
  by_contra starts
  rw [Bool.not_eq_false, Text.startsWith, List.isPrefixOf_iff_prefix] at starts
  exact notMem (starts.subset mem)

theorem hasNull_primitiveName (target : Target) (p : Primitive) :
    target.hasNull (target.primitiveName p) = false := by
  cases target <;> cases p <;> decide

theorem hasNull_listOf (target : Target) (element : String) :
    target.hasNull (target.listOf element) = false := by
  cases target with
  | csharp => exact hasNull_of_closed (by decide) (.inl rfl) _
  | typescript =>
    rw [listOf]
    split
    · have closed := hasNull_of_closed (by decide : typescript ≠ rust) (.inr rfl) ("(" ++ element ++ ")")
      have written : "(" ++ element ++ ")[]" = "(" ++ element ++ ")" ++ "[]" := by
        simp only [String.append_assoc]
        rfl
      rwa [← written] at closed
    · exact hasNull_of_closed (by decide) (.inr rfl) element
  | rust =>
    rw [hasNull, listOf, String.append_assoc]
    exact startsWith_eq_false_of_first (by decide : _ = some 'O') (head?_append (by decide : _ = some 'V') _)
      (by decide)

theorem hasNull_mapOf (target : Target) (value : String) :
    target.hasNull (target.mapOf value) = false := by
  cases target with
  | csharp => exact hasNull_of_closed (by decide) (.inl rfl) _
  | typescript => exact hasNull_of_closed (by decide) (.inl rfl) _
  | rust =>
    have written : rust.mapOf value = "std::collections::HashMap<String, " ++ (value ++ ">") :=
      String.append_assoc
    rw [hasNull, written]
    have first : "std::collections::HashMap<String, ".toList.head? = some 's' := by decide
    exact startsWith_eq_false_of_first (by decide : _ = some 'O') (head?_append first _) (by decide)

theorem notMem_of_plainName (plain : PlainName name) {c : Char} (other : isPlainChar c = false) :
    c ∉ name.toList := by
  intro mem
  rw [plain.2 c mem] at other
  cases other

/-- A name in front of a bracket is the whole of what stands there. -/
theorem eq_of_startsWith {front name rest : String} (front_plain : PlainName front)
    (plain : PlainName name) (starts : Text.startsWith (front ++ "<") (name ++ "<" ++ rest) = true) :
    name = front := by
  rw [Text.startsWith, List.isPrefixOf_iff_prefix] at starts
  obtain ⟨tail, same⟩ := starts
  -- Both names end at the first bracket.
  have cut (s : String) (plain : PlainName s) (rest : List Char) :
      (s.toList ++ '<' :: rest).takeWhile (· != '<') = s.toList := by
    have inside : ∀ c ∈ s.toList, (c != '<') = true := by
      rintro c mem
      rw [bne_iff_ne]
      rintro rfl
      exact notMem_of_plainName plain (by decide) mem
    rw [List.takeWhile_append_of_pos inside, List.takeWhile_cons_of_neg (by decide), List.append_nil]
  have same : front.toList ++ '<' :: tail = name.toList ++ '<' :: rest.toList := by simpa using same
  have cut_same := congrArg (List.takeWhile (· != '<')) same
  rw [cut front front_plain, cut name plain] at cut_same
  exact (String.toList_injective cut_same).symm

/-- Only a name with arguments can look as if it had null, and only if it is the one that says so. -/
theorem hasNull_applied (target : Target) (plain : PlainName name) {texts : List String}
    (own : target = rust → texts ≠ [] → name ≠ "Option") :
    target.hasNull (applied name texts) = false := by
  cases texts with
  | nil =>
    cases target with
    | csharp =>
      have no_mark : '?' ∉ name.toList := notMem_of_plainName plain (by decide)
      exact endsWith_eq_false_of_notMem (by decide) no_mark
    | typescript =>
      have no_space : ' ' ∉ name.toList := notMem_of_plainName plain (by decide)
      exact endsWith_eq_false_of_notMem (by decide) no_space
    | rust =>
      have no_bracket : '<' ∉ name.toList := notMem_of_plainName plain (by decide)
      exact startsWith_eq_false_of_notMem (by decide) no_bracket
  | cons first others =>
    rw [applied]
    · cases target with
      | csharp => exact hasNull_of_closed (by decide) (.inl rfl) _
      | typescript => exact hasNull_of_closed (by decide) (.inl rfl) _
      | rust =>
        by_contra starts
        have option : PlainName "Option" := by decide
        rw [Bool.not_eq_false, hasNull, String.append_assoc] at starts
        exact own rfl (List.cons_ne_nil _ _) (eq_of_startsWith option plain starts)
    · nofun

end Target
end Scaffold
