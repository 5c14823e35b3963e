/-
Types seen through a renaming of their references, with or without their marks for null. Two runs
may give a definition different names; seen by the places that own the names, types can be compared.
-/
import Scaffold.Api.Schema
import Scaffold.Proofs.TypeTable

namespace Scaffold
namespace TypeExpr

mutual

/-- The type with its references renamed, and with its marks for null or without them. -/
def view (rename : String → String) (marks : Bool) : TypeExpr → TypeExpr
  | ⟨name, args, isReference, isEnum, isNullable⟩ =>
    ⟨if isReference then rename name else name, viewAll rename marks args, isReference, isEnum,
      marks && isNullable⟩

def viewAll (rename : String → String) (marks : Bool) : List TypeExpr → List TypeExpr
  | [] => []
  | t :: rest => view rename marks t :: viewAll rename marks rest

end

variable {f g : String → String} {marks : Bool}

mutual

/-- Only the names in the type matter. -/
theorem view_congr : (t : TypeExpr) → (∀ name ∈ t.references, f name = g name) →
    t.view f marks = t.view g marks
  | ⟨name, args, isReference, isEnum, isNullable⟩ => fun same => by
    rw [view, view, viewAll_congr args fun n mem => same n (List.mem_append_right _ mem)]
    cases isReference with
    | false => rfl
    | true =>
      have own : f name = g name := same name (List.mem_append_left _ List.mem_cons_self)
      simp only [if_true, own]

theorem viewAll_congr : (ts : List TypeExpr) → (∀ name ∈ referencesIn ts, f name = g name) →
    viewAll f marks ts = viewAll g marks ts
  | [] => fun _ => rfl
  | t :: rest => fun same => by
    rw [viewAll, viewAll, view_congr t fun n mem => same n (List.mem_append_left _ mem),
      viewAll_congr rest fun n mem => same n (List.mem_append_right _ mem)]

end

mutual

/-- Seen under its own names and with its marks, a type is itself. -/
@[simp] theorem view_id : (t : TypeExpr) → t.view id true = t
  | ⟨name, args, isReference, isEnum, isNullable⟩ => by simp [view, viewAll_id args]

@[simp] theorem viewAll_id : (ts : List TypeExpr) → viewAll id true ts = ts
  | [] => rfl
  | t :: rest => by rw [viewAll, view_id t, viewAll_id rest]

end

@[simp] theorem name_view_id (t : TypeExpr) : (t.view id marks).name = t.name := by
  obtain ⟨name, args, isReference, isEnum, isNullable⟩ := t
  simp [view]

@[simp] theorem view_reference (name : String) :
    (reference name).view f marks = reference (f name) := by
  simp [reference, view, viewAll]

@[simp] theorem view_enumeration (name : String) :
    (enumeration name).view f marks = enumeration (f name) := by
  simp [enumeration, view, viewAll]

@[simp] theorem view_list (t : TypeExpr) : (list t).view f marks = list (t.view f marks) := by
  simp [list, view, viewAll]

@[simp] theorem view_dictionary (t : TypeExpr) :
    (dictionary (primitive "string") t).view f marks =
      dictionary (primitive "string") (t.view f marks) := by
  simp [dictionary, primitive, named, view, viewAll]

@[simp] theorem view_withNullable (t : TypeExpr) (nullable : Bool) :
    (t.withNullable nullable).view f marks = (t.view f marks).withNullable (marks && nullable) := by
  obtain ⟨name, args, r, e, u⟩ := t
  simp [withNullable, view]

@[simp] theorem isNullable_view (t : TypeExpr) :
    (t.view f marks).isNullable = (marks && t.isNullable) := by
  obtain ⟨name, args, r, e, u⟩ := t
  simp [view]

end TypeExpr

namespace Api
namespace Schema

/-- What is wrapped alike is seen alike. -/
theorem view_apply_congr {f g : String → String} {marks : Bool} {t t' : TypeExpr} (wrap : Wrap)
    (same : t.view f marks = t'.view g marks) :
    (wrap.apply t).view f marks = (wrap.apply t').view g marks := by
  have null : (marks && t.isNullable) = (marks && t'.isNullable) := by
    rw [← TypeExpr.isNullable_view (f := f), ← TypeExpr.isNullable_view (f := g), same]
  cases wrap with
  | same nullable =>
    simp only [Wrap.apply, TypeExpr.view_withNullable, same, Bool.and_or_distrib_left, null]
  | list nullable => simp only [Wrap.apply, TypeExpr.view_withNullable, TypeExpr.view_list, same]
  | map nullable =>
    simp only [Wrap.apply, TypeExpr.view_withNullable, TypeExpr.view_dictionary, same]

end Schema
end Api

namespace TypedProperty

/-- The property with its type seen through a renaming. -/
def view (rename : String → String) (marks : Bool) (p : TypedProperty) : TypedProperty :=
  { p with type := p.type.view rename marks }

end TypedProperty

namespace TypeBody

/-- The body with the types of its properties seen through a renaming. -/
def view (rename : String → String) (marks : Bool) : TypeBody → TypeBody
  | object properties => object (properties.map (·.view rename marks))
  | enum members isInteger => enum members isInteger

@[simp] theorem view_id (body : TypeBody) : body.view id true = body := by
  cases body with
  | object properties => simp [view, TypedProperty.view]
  | enum => rfl

end TypeBody
end Scaffold
