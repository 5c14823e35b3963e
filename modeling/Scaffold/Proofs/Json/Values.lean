/-
The values inside a document. Whatever a key, an index or a pointer leads to is one of them, and
there are as many as the document is large.
-/
import Scaffold.Json.Pointer

namespace Scaffold
namespace Json

mutual

/-- The values in a document, itself first. -/
def values : Json → List Json
  | .array items => .array items :: itemValues items
  | .object members => .object members :: memberValues members
  | .null => [.null]
  | .bool b => [.bool b]
  | .number n => [.number n]
  | .string s => [.string s]

def itemValues : List Json → List Json
  | [] => []
  | item :: rest => values item ++ itemValues rest

def memberValues : List (String × Json) → List Json
  | [] => []
  | (_, value) :: rest => values value ++ memberValues rest

end

mutual

theorem length_values : (v : Json) → v.values.length = v.size
  | .array items => by
    rw [values, size, List.length_cons, length_itemValues items, Nat.add_comm]
  | .object members => by
    rw [values, size, List.length_cons, length_memberValues members, Nat.add_comm]
  | .null | .bool _ | .number _ | .string _ => by simp [values, size]

theorem length_itemValues : (items : List Json) → (itemValues items).length = sizeItems items
  | [] => rfl
  | item :: rest => by
    rw [itemValues, sizeItems, List.length_append, length_values item, length_itemValues rest]

theorem length_memberValues :
    (members : List (String × Json)) → (memberValues members).length = sizeMembers members
  | [] => rfl
  | (_, value) :: rest => by
    rw [memberValues, sizeMembers, List.length_append, length_values value,
      length_memberValues rest]

end

theorem mem_values_self (v : Json) : v ∈ v.values := by
  cases v <;> simp [values]

theorem mem_itemValues {v : Json} {items : List Json} :
    v ∈ itemValues items ↔ ∃ item ∈ items, v ∈ item.values := by
  induction items with
  | nil => simp [itemValues]
  | cons item rest ih => simp [itemValues, ih]

theorem mem_memberValues {v : Json} {members : List (String × Json)} :
    v ∈ memberValues members ↔ ∃ m ∈ members, v ∈ m.2.values := by
  induction members with
  | nil => simp [memberValues]
  | cons m rest ih => simp [memberValues, ih]

theorem size_pos (v : Json) : 0 < v.size := by
  rw [← length_values]
  exact List.length_pos_of_mem (mem_values_self v)

theorem values_subset_of_mem_items {items : List Json} {item : Json} (h : item ∈ items) :
    item.values ⊆ (Json.array items).values :=
  fun _ hv => List.mem_cons_of_mem _ (mem_itemValues.mpr ⟨item, h, hv⟩)

theorem values_subset_of_mem_members {members : List (String × Json)} {m : String × Json}
    (h : m ∈ members) : m.2.values ⊆ (Json.object members).values :=
  fun _ hv => List.mem_cons_of_mem _ (mem_memberValues.mpr ⟨m, h, hv⟩)

mutual

/-- The values inside a value of the document are inside the document. -/
theorem values_subset {v : Json} : (d : Json) → v ∈ d.values → v.values ⊆ d.values
  | .array items => fun h => by
    rcases List.mem_cons.mp h with rfl | h
    · exact fun _ hv => hv
    · exact fun _ hv => List.mem_cons_of_mem _ (itemValues_subset items h hv)
  | .object members => fun h => by
    rcases List.mem_cons.mp h with rfl | h
    · exact fun _ hv => hv
    · exact fun _ hv => List.mem_cons_of_mem _ (memberValues_subset members h hv)
  | .null | .bool _ | .number _ | .string _ => fun h => by
    rw [List.mem_singleton.mp h]
    exact fun _ hv => hv

theorem itemValues_subset {v : Json} :
    (items : List Json) → v ∈ itemValues items → v.values ⊆ itemValues items
  | [] => fun h => absurd h List.not_mem_nil
  | item :: rest => fun h _ hv => by
    rcases List.mem_append.mp h with h | h
    · exact List.mem_append_left _ (values_subset item h hv)
    · exact List.mem_append_right _ (itemValues_subset rest h hv)

theorem memberValues_subset {v : Json} :
    (members : List (String × Json)) → v ∈ memberValues members →
      v.values ⊆ memberValues members
  | [] => fun h => absurd h List.not_mem_nil
  | (_, value) :: rest => fun h _ hv => by
    rcases List.mem_append.mp h with h | h
    · exact List.mem_append_left _ (values_subset value h hv)
    · exact List.mem_append_right _ (memberValues_subset rest h hv)

end

mutual

theorem size_le_of_mem_values {v : Json} : (d : Json) → v ∈ d.values → v.size ≤ d.size
  | .array items => fun h => by
    rcases List.mem_cons.mp h with rfl | h
    · exact Nat.le_refl _
    · have := size_le_of_mem_itemValues items h
      rw [size]
      omega
  | .object members => fun h => by
    rcases List.mem_cons.mp h with rfl | h
    · exact Nat.le_refl _
    · have := size_le_of_mem_memberValues members h
      rw [size]
      omega
  | .null | .bool _ | .number _ | .string _ => fun h =>
    Nat.le_of_eq (congrArg size (List.mem_singleton.mp h))

theorem size_le_of_mem_itemValues {v : Json} :
    (items : List Json) → v ∈ itemValues items → v.size ≤ sizeItems items
  | [] => fun h => absurd h List.not_mem_nil
  | item :: rest => fun h => by
    rw [sizeItems]
    rcases List.mem_append.mp h with h | h
    · have := size_le_of_mem_values item h
      omega
    · have := size_le_of_mem_itemValues rest h
      omega

theorem size_le_of_mem_memberValues {v : Json} :
    (members : List (String × Json)) → v ∈ memberValues members → v.size ≤ sizeMembers members
  | [] => fun h => absurd h List.not_mem_nil
  | (_, value) :: rest => fun h => by
    rw [sizeMembers]
    rcases List.mem_append.mp h with h | h
    · have := size_le_of_mem_values value h
      omega
    · have := size_le_of_mem_memberValues rest h
      omega

end

/-! ## Where keys lead -/

theorem mem_of_lookup {key : String} {members : List (String × Json)} {v : Json}
    (h : lookup key members = some v) : (key, v) ∈ members := by
  obtain ⟨m, found, rfl⟩ := Option.map_eq_some_iff.mp h
  have same : m.1 = key := by simpa using List.find?_some found
  rw [← same]
  exact List.mem_of_find?_eq_some found

/-- If keys are different, each leads to its own member. -/
theorem lookup_of_mem {members : List (String × Json)} {name : String} {value : Json}
    (distinct : (members.map (·.1)).Nodup) (mem : (name, value) ∈ members) :
    lookup name members = some value := by
  induction members with
  | nil => exact absurd mem List.not_mem_nil
  | cons m rest ih =>
    obtain ⟨k, v⟩ := m
    obtain ⟨new, rest_distinct⟩ := List.nodup_cons.mp distinct
    rcases List.mem_cons.mp mem with same | later
    · injection same with hk hv
      simp [lookup, hk, hv]
    · have other : k ≠ name := by
        rintro rfl
        exact new (List.mem_map.mpr ⟨_, later, rfl⟩)
      have := ih rest_distinct later
      simp only [lookup] at this ⊢
      simpa [List.find?_cons, other] using this

theorem mem_members_of_get? {key : String} {v w : Json} (h : v.get? key = some w) :
    ∃ members, v = .object members ∧ (key, w) ∈ members := by
  cases v with
  | object members => exact ⟨members, rfl, mem_of_lookup h⟩
  | _ => simp [get?] at h

theorem values_subset_of_get? {key : String} {v w : Json} (h : v.get? key = some w) :
    w.values ⊆ v.values := by
  obtain ⟨members, rfl, mem⟩ := mem_members_of_get? h
  exact values_subset_of_mem_members mem

theorem sizeMembers_le {members : List (String × Json)} {m : String × Json} (h : m ∈ members) :
    m.2.size ≤ sizeMembers members := by
  induction members with
  | nil => exact absurd h List.not_mem_nil
  | cons head rest ih =>
    rw [sizeMembers]
    rcases List.mem_cons.mp h with rfl | h
    · omega
    · have := ih h
      omega

theorem sizeItems_le {items : List Json} {item : Json} (h : item ∈ items) :
    item.size ≤ sizeItems items := by
  induction items with
  | nil => exact absurd h List.not_mem_nil
  | cons head rest ih =>
    rw [sizeItems]
    rcases List.mem_cons.mp h with rfl | h
    · omega
    · have := ih h
      omega

theorem size_lt_of_mem_members {members : List (String × Json)} {m : String × Json}
    (h : m ∈ members) : m.2.size < (Json.object members).size := by
  have := sizeMembers_le h
  rw [size]
  omega

theorem size_lt_of_mem_items {items : List Json} {item : Json} (h : item ∈ items) :
    item.size < (Json.array items).size := by
  have := sizeItems_le h
  rw [size]
  omega

theorem size_lt_of_get? {key : String} {v w : Json} (h : v.get? key = some w) :
    w.size < v.size := by
  obtain ⟨members, rfl, mem⟩ := mem_members_of_get? h
  exact size_lt_of_mem_members mem

theorem get?_of_strAt? {key s : String} {v : Json} (h : v.strAt? key = some s) :
    v.get? key = some (.string s) := by
  obtain ⟨w, found, text⟩ := Option.bind_eq_some_iff.mp h
  cases w with
  | string t => rw [found, Option.some.inj text]
  | _ => simp [str?] at text

theorem get?_of_itemsAt? {key : String} {v : Json} {items : List Json}
    (h : v.itemsAt? key = some items) : v.get? key = some (.array items) := by
  obtain ⟨w, found, list⟩ := Option.bind_eq_some_iff.mp h
  cases w with
  | array as => rw [found, Option.some.inj list]
  | _ => simp [items?] at list

theorem get?_of_membersAt? {key : String} {v : Json} {members : List (String × Json)}
    (h : v.membersAt? key = some members) : v.get? key = some (.object members) := by
  obtain ⟨w, found, object⟩ := Option.bind_eq_some_iff.mp h
  cases w with
  | object ms => rw [found, Option.some.inj object]
  | _ => simp [members?] at object

theorem eq_object_of_members? {v : Json} {members : List (String × Json)}
    (h : v.members? = some members) : v = .object members := by
  cases v with
  | object ms => rw [Option.some.inj h]
  | _ => simp [members?] at h

theorem itemsAt?_of_mem {key : String} {v item : Json} (h : item ∈ v.itemsAt key) :
    ∃ items, v.itemsAt? key = some items ∧ item ∈ items := by
  unfold itemsAt at h
  cases found : v.itemsAt? key with
  | none =>
    rw [found] at h
    exact absurd h List.not_mem_nil
  | some items =>
    rw [found] at h
    exact ⟨items, rfl, h⟩

theorem membersAt?_of_mem {key : String} {v : Json} {m : String × Json}
    (h : m ∈ v.membersAt key) : ∃ members, v.membersAt? key = some members ∧ m ∈ members := by
  unfold membersAt at h
  cases found : v.membersAt? key with
  | none =>
    rw [found] at h
    exact absurd h List.not_mem_nil
  | some members =>
    rw [found] at h
    exact ⟨members, rfl, h⟩

theorem values_subset_of_mem_itemsAt {key : String} {v item : Json} (h : item ∈ v.itemsAt key) :
    item.values ⊆ v.values := by
  obtain ⟨items, found, mem⟩ := itemsAt?_of_mem h
  exact fun _ hw =>
    values_subset_of_get? (get?_of_itemsAt? found) (values_subset_of_mem_items mem hw)

theorem values_subset_of_mem_membersAt {key : String} {v : Json} {m : String × Json}
    (h : m ∈ v.membersAt key) : m.2.values ⊆ v.values := by
  obtain ⟨members, found, mem⟩ := membersAt?_of_mem h
  exact fun _ hw =>
    values_subset_of_get? (get?_of_membersAt? found) (values_subset_of_mem_members mem hw)

theorem size_lt_of_mem_itemsAt {key : String} {v item : Json} (h : item ∈ v.itemsAt key) :
    item.size < v.size := by
  obtain ⟨items, found, mem⟩ := itemsAt?_of_mem h
  have := size_lt_of_get? (get?_of_itemsAt? found)
  have := size_lt_of_mem_items mem
  omega

theorem size_lt_of_mem_membersAt {key : String} {v : Json} {m : String × Json}
    (h : m ∈ v.membersAt key) : m.2.size < v.size := by
  obtain ⟨members, found, mem⟩ := membersAt?_of_mem h
  have := size_lt_of_get? (get?_of_membersAt? found)
  have := size_lt_of_mem_members mem
  omega

/-! ## Where pointers lead -/

namespace Pointer

theorem values_subset_of_step? {v w : Json} {segment : String} (h : step? v segment = some w) :
    w.values ⊆ v.values := by
  cases v with
  | object members => exact values_subset_of_mem_members (mem_of_lookup h)
  | array items =>
    obtain ⟨i, _, found⟩ := Option.bind_eq_some_iff.mp h
    exact values_subset_of_mem_items (List.mem_of_getElem? found)
  | _ => simp [step?] at h

theorem values_subset_of_foldlM {segments : List String} {v w : Json}
    (h : segments.foldlM step? v = some w) : w.values ⊆ v.values := by
  induction segments generalizing v with
  | nil =>
    rw [Option.some.inj h]
    exact fun _ hw => hw
  | cons segment rest ih =>
    obtain ⟨u, first, last⟩ := Option.bind_eq_some_iff.mp h
    exact fun _ hw => values_subset_of_step? first (ih last hw)

theorem mem_values_of_resolve? {d v : Json} {pointer : String}
    (h : resolve? d pointer = some v) : v ∈ d.values := by
  obtain ⟨segments, _, found⟩ := Option.bind_eq_some_iff.mp h
  exact values_subset_of_foldlM found (mem_values_self v)

end Pointer
end Json
end Scaffold
