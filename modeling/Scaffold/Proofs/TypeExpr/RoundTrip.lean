/-
Written types are read back. From the text of a type with plain names the reader makes of each name
what it means to it: `parse_text_of_plain`. A canonical type says what its names mean, so reading and
writing agree on it: `parse_text`.
-/
import Scaffold.Proofs.TypeExpr.Reading

namespace Scaffold
namespace TypeExpr

open Text

variable {name : String}

/-! ## Types with plain names -/

/-- Every name in the type is plain. -/
inductive Plain : TypeExpr → Prop where
  | mk {name : String} {args : List TypeExpr} {isReference isEnum isNullable : Bool}
      (plain : PlainName name) (inside : ∀ t ∈ args, Plain t) :
      Plain ⟨name, args, isReference, isEnum, isNullable⟩

mutual

/-- The type that is read from the text of a type: every name is what the reader takes it for. -/
def reread : TypeExpr → TypeExpr
  | ⟨name, args, _, _, isNullable⟩ =>
    let t := apply name (rereadAll args)
    if isNullable then t.orNull else t

def rereadAll : List TypeExpr → List TypeExpr
  | [] => []
  | t :: rest => reread t :: rereadAll rest

end

theorem rereadAll_eq_map (ts : List TypeExpr) : rereadAll ts = ts.map reread := by
  induction ts with
  | nil => rfl
  | cons t rest ih => rw [rereadAll, ih, List.map_cons]

/-- A null mark that was taken off is put back. -/
theorem orNull_of_isNullable (t : TypeExpr) :
    (if t.isNullable then (t.withNullable false).orNull else t.withNullable false) = t := by
  obtain ⟨name, args, r, e, u⟩ := t
  cases u <;> rfl

/-! ## Canonical types -/

theorem plainName_primitive (p : Primitive) : PlainName p.name := by
  cases p <;> decide

/-- A name that is neither a primitive nor a wrapper is that of another type. -/
theorem apply_own {args : List TypeExpr} (other : canonicalPrimitive? name = none)
    (own : ¬IsWrapper name args.length) : apply name args = ⟨name, args, true, false, false⟩ := by
  rcases args with _ | ⟨first, _ | ⟨second, _ | ⟨third, rest⟩⟩⟩
  · simp only [TypeExpr.apply, other]
    rfl
  · simp only [IsWrapper, List.length_singleton, true_and, not_or] at own
    simp only [TypeExpr.apply, other, if_neg own.1.1, if_neg own.1.2]
    rfl
  · have own : name ∉ mapWrappers := fun mem => own (.inr ⟨rfl, mem⟩)
    simp only [TypeExpr.apply, other, if_neg own]
    rfl
  · simp only [TypeExpr.apply, other]
    rfl

/-- A canonical type is its name applied to its arguments, all of which are canonical. -/
theorem Canonical.parts {t : TypeExpr} (h : Canonical t) :
    PlainName t.name ∧ (∀ arg ∈ t.args, Canonical arg) ∧
      apply t.name t.args = t.withNullable false := by
  cases h with
  | primitive p nullable =>
    refine ⟨plainName_primitive p, by simp, ?_⟩
    simp only [TypeExpr.apply, canonicalPrimitive?_name]
    rfl
  | @list element nullable inside =>
    refine ⟨(by decide : PlainName listName), by simpa using inside, ?_⟩
    have not_null : listName ∉ nullableWrappers := by decide
    have is_list : listName ∈ listWrappers := by decide
    simp only [TypeExpr.apply, if_neg not_null, if_pos is_list]
    rfl
  | @dictionary key value nullable key_inside value_inside =>
    refine ⟨(by decide : PlainName dictionaryName), by simp [key_inside, value_inside], ?_⟩
    have is_map : dictionaryName ∈ mapWrappers := by decide
    simp only [TypeExpr.apply, if_pos is_map]
    rfl
  | @reference name args nullable plain other own inside =>
    exact ⟨plain, inside, apply_own other own⟩

theorem Canonical.named {t : TypeExpr} (h : Canonical t) : Named t := by
  induction h with
  | primitive p => exact .mk (plainName_primitive p).1 (List.forall_mem_nil _)
  | list _ _ ih => exact .mk (by decide) (List.forall_mem_singleton.mpr ih)
  | dictionary _ _ _ key value =>
    exact .mk (by decide) (List.forall_mem_cons.mpr ⟨key, List.forall_mem_singleton.mpr value⟩)
  | reference _ plain _ _ _ ih => exact .mk plain.1 ih

theorem Canonical.plain {t : TypeExpr} (h : Canonical t) : Plain t := by
  induction h with
  | primitive p => exact .mk (plainName_primitive p) (List.forall_mem_nil _)
  | list _ _ ih => exact .mk (by decide) (List.forall_mem_singleton.mpr ih)
  | dictionary _ _ _ key value =>
    exact .mk (by decide) (List.forall_mem_cons.mpr ⟨key, List.forall_mem_singleton.mpr value⟩)
  | reference _ plain _ _ _ ih => exact .mk plain ih

/-- The names of a canonical type are what they are taken for. -/
theorem Canonical.reread {t : TypeExpr} (h : Canonical t) : t.reread = t := by
  -- One step for all forms: each is its name, applied to arguments that are what they are taken for.
  have again {name : String} {args : List TypeExpr} {r e u : Bool}
      (canonical : Canonical ⟨name, args, r, e, u⟩) (inside : ∀ t ∈ args, t.reread = t) :
      TypeExpr.reread ⟨name, args, r, e, u⟩ = ⟨name, args, r, e, u⟩ := by
    have same : rereadAll args = args := by
      rw [rereadAll_eq_map, List.map_congr_left inside, List.map_id']
    rw [TypeExpr.reread, same, canonical.parts.2.2]
    exact orNull_of_isNullable ⟨name, args, r, e, u⟩
  have canonical := h
  induction h with
  | primitive p => exact again canonical (List.forall_mem_nil _)
  | list _ inside ih => exact again canonical (List.forall_mem_singleton.mpr (ih inside))
  | dictionary _ key_inside value_inside key value =>
    exact again canonical
      (List.forall_mem_cons.mpr ⟨key key_inside, List.forall_mem_singleton.mpr (value value_inside)⟩)
  | reference _ _ _ _ inside ih =>
    exact again canonical fun t mem => ih t mem (inside t mem)

/-! ## Reading what was written -/

/-- The arguments are written with commas between them. -/
theorem text_append_restText (first : TypeExpr) (others : List TypeExpr) :
    text first ++ restText others = join ", " ((first :: others).map text) := by
  induction others generalizing first with
  | nil => simp [restText, join]
  | cons second others ih =>
    have rest := congrArg String.toList (ih second)
    simp only [List.map_cons, String.toList_append] at rest
    apply String.toList_injective
    simp [restText, toList_join_cons_cons, ← rest]

/-- The text of a type with plain names denotes the type that they are taken for. -/
theorem parse_text_of_plain {t : TypeExpr} (plain : Plain t) : parse t.text = .ok t.reread := by
  induction plain with
  | @mk name args r e nullable plain inside ih =>
    have applied : parse (name ++ argsText args) = .ok (apply name (rereadAll args)) := by
      cases args with
      | nil =>
        rw [argsText, String.append_empty, parse_name plain.written, plain.shortName, rereadAll]
      | cons first others =>
        have written : name ++ argsText (first :: others) =
            name ++ "<" ++ join ", " ((first :: others).map text) ++ ">" := by
          rw [← text_append_restText, argsText]
          simp only [String.append_assoc]
        rw [written, parse_applied plain.written (forall₂_parse_map ih) (by simp), plain.shortName,
          rereadAll_eq_map]
    cases nullable with
    | true => exact parse_orNull applied
    | false =>
      rw [text, reread, if_neg (by decide), if_neg (by decide), String.append_empty]
      exact applied

/-- A canonical type is read from its text. -/
theorem parse_text_of_canonical {t : TypeExpr} (canonical : Canonical t) :
    parse t.text = .ok t := by
  rw [parse_text_of_plain canonical.plain, canonical.reread]

/-- Reading and writing types agree: a canonical type is read from its text, and whatever else a
text is read as is canonical too, unless a name in it is empty, so that writing it and reading it
again changes nothing. -/
theorem parse_text :
    (∀ t, Canonical t → parse t.text = .ok t) ∧
      ∀ input t, parse input = .ok t → Named t → Canonical t ∧ parse t.text = .ok t := by
  refine ⟨fun t => parse_text_of_canonical, fun input t read named => ?_⟩
  have canonical := canonical_of_parse read named
  exact ⟨canonical, parse_text_of_canonical canonical⟩

/-- A map of pages, with null at three depths. -/
def pagesByKey : TypeExpr :=
  (dictionary (named "string")
    (list (generic "Page" [(reference "Order").orNull, named "int"]).orNull)).orNull

theorem canonical_pagesByKey : Canonical pagesByKey := by
  have page : Canonical (generic "Page" [(reference "Order").orNull, named "int"]).orNull := by
    refine .reference true (by decide) (by decide) (by decide) ?_
    have order : Canonical (reference "Order").orNull :=
      .reference true (by decide) (by decide) (by decide) (List.forall_mem_nil _)
    exact List.forall_mem_cons.mpr ⟨order, List.forall_mem_singleton.mpr (.primitive .int false)⟩
  exact .dictionary true (.primitive .string false) (.list false page)

theorem parse_text_pagesByKey :
    Canonical pagesByKey ∧ parse "Dictionary<string, List<Page<Order?, int>?>>?" = .ok pagesByKey ∧
    parse "HashMap<&str, Vec<Option<crate::Page<Order ?, i32>>>>?" = .ok pagesByKey ∧
    Named pagesByKey ∧ parse pagesByKey.text = .ok pagesByKey := by
  have read : parse "HashMap<&str, Vec<Option<crate::Page<Order ?, i32>>>>?" = .ok pagesByKey := by
    decide +kernel
  have named := canonical_pagesByKey.named
  have written := parse_text.1 pagesByKey canonical_pagesByKey
  exact ⟨canonical_pagesByKey, written, read, named, (parse_text.2 _ _ read named).2⟩

end TypeExpr
end Scaffold
