/-
Tables of definitions: what a table holds after a definition was offered, and the names that types
mention.
-/
import Scaffold.TypeTable

namespace Scaffold

/-! ## Names in types -/

namespace TypeExpr

@[simp] theorem references_withNullable (t : TypeExpr) (nullable : Bool) :
    (t.withNullable nullable).references = t.references := by
  obtain ⟨name, args, r, e, u⟩ := t
  simp [withNullable, references]

@[simp] theorem references_list (t : TypeExpr) : (list t).references = t.references := by
  simp [list, references, referencesIn]

@[simp] theorem references_primitive (name : String) : (primitive name).references = [] := by
  simp [primitive, named, references, referencesIn]

@[simp] theorem references_dictionary (t : TypeExpr) :
    (dictionary (primitive "string") t).references = t.references := by
  simp [dictionary, references, referencesIn]

@[simp] theorem references_reference (name : String) : (reference name).references = [name] := by
  simp [reference, references, referencesIn]

@[simp] theorem references_enumeration (name : String) :
    (enumeration name).references = [name] := by
  simp [enumeration, references, referencesIn]

end TypeExpr

namespace KeyMap

variable {α : Type}

theorem mem_values_insert {map : KeyMap α} {key : String} {value v : α}
    (h : v ∈ (map.insert key value).values) : v = value ∨ v ∈ map.values := by
  obtain ⟨entries⟩ := map
  unfold insert values at h
  unfold values
  induction entries with
  | nil => simpa [put] using h
  | cons e rest ih =>
    obtain ⟨k, w⟩ := e
    simp only [put] at h
    split at h
    · rcases List.mem_cons.mp h with same | old
      · exact .inl same
      · exact .inr (List.mem_cons_of_mem _ old)
    · split at h
      · rcases List.mem_cons.mp h with same | old
        · exact .inl same
        · exact .inr old
      · rcases List.mem_cons.mp h with same | later
        · exact .inr (List.mem_cons.mpr (.inl same))
        · rcases ih later with same | old
          · exact .inl same
          · exact .inr (List.mem_cons_of_mem _ old)

end KeyMap

namespace TypeTable

theorem mem_values_define {table : TypeTable} {d d' : TypeDefinition}
    (h : d ∈ (define table d').values) : d = d' ∨ d ∈ table.values := by
  unfold define at h
  split at h
  · exact .inr h
  · exact KeyMap.mem_values_insert h

/-- A definition that was offered, or an earlier one of its name, is in the table. -/
theorem exists_get?_define (table : TypeTable) (d : TypeDefinition) :
    ∃ d', (define table d).get? d.name = some d' := by
  unfold define
  split
  · next taken => exact Option.isSome_iff_exists.mp taken
  · exact ⟨d, by simp⟩

end TypeTable

end Scaffold
