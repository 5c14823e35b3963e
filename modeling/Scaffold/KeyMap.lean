/-
Finite maps from names, listed in name order, and sorted sets of names.
-/

namespace Scaffold

/-- The entries of a finite map in the order of their keys. -/
structure KeyMap (α : Type) where
  entries : List (String × α)

namespace KeyMap

variable {α : Type}

def empty : KeyMap α :=
  ⟨[]⟩

instance : Inhabited (KeyMap α) :=
  ⟨empty⟩

def find? (key : String) : List (String × α) → Option α
  | [] => none
  | (k, v) :: rest => if k = key then some v else find? key rest

def put (key : String) (value : α) : List (String × α) → List (String × α)
  | [] => [(key, value)]
  | (k, v) :: rest =>
    if k = key then (key, value) :: rest
    else if key < k then (key, value) :: (k, v) :: rest
    else (k, v) :: put key value rest

def get? (map : KeyMap α) (key : String) : Option α :=
  find? key map.entries

def contains (map : KeyMap α) (key : String) : Bool :=
  (map.get? key).isSome

/-- Sets the value of a key; an earlier value is lost. -/
def insert (map : KeyMap α) (key : String) (value : α) : KeyMap α :=
  ⟨put key value map.entries⟩

def keys (map : KeyMap α) : List String :=
  map.entries.map (·.1)

def values (map : KeyMap α) : List α :=
  map.entries.map (·.2)

theorem find?_put (key other : String) (value : α) (entries : List (String × α)) :
    find? other (put key value entries) =
      if key = other then some value else find? other entries := by
  induction entries with
  | nil => simp [put, find?]
  | cons e rest ih =>
    obtain ⟨k, v⟩ := e
    rw [put]
    split
    · next h =>
      subst h
      simp only [find?]
      split <;> rfl
    · split
      · simp [find?]
      · next h _ =>
        simp only [find?, ih]
        by_cases hk : k = other
        · simp [hk, Ne.symm (hk ▸ h)]
        · simp [hk]

theorem mem_of_find? {entries : List (String × α)} {key : String} {value : α}
    (h : find? key entries = some value) : (key, value) ∈ entries := by
  induction entries with
  | nil => cases h
  | cons e rest ih =>
    obtain ⟨k, v⟩ := e
    rw [find?] at h
    split at h
    · next same =>
      rw [same, Option.some.inj h]
      exact List.mem_cons_self
    · exact List.mem_cons_of_mem _ (ih h)

theorem mem_keys_of_get? {map : KeyMap α} {key : String} {value : α}
    (h : map.get? key = some value) : key ∈ map.keys :=
  List.mem_map.mpr ⟨_, mem_of_find? h, rfl⟩

theorem mem_values_of_get? {map : KeyMap α} {key : String} {value : α}
    (h : map.get? key = some value) : value ∈ map.values :=
  List.mem_map.mpr ⟨_, mem_of_find? h, rfl⟩

@[simp] theorem get?_insert (map : KeyMap α) (key other : String) (value : α) :
    (map.insert key value).get? other = if key = other then some value else map.get? other :=
  find?_put key other value map.entries

@[simp] theorem get?_empty (key : String) : (empty : KeyMap α).get? key = none :=
  rfl

end KeyMap

namespace NameSet

/-- Puts a name at its place in a sorted list, unless it is there. -/
def insert (name : String) : List String → List String
  | [] => [name]
  | n :: rest =>
    if n = name then n :: rest
    else if name < n then name :: n :: rest
    else n :: insert name rest

/-- The names of a list, each once, in order. -/
def ofList (names : List String) : List String :=
  names.foldl (fun set name => insert name set) []

@[simp] theorem mem_insert (name other : String) (names : List String) :
    other ∈ insert name names ↔ other = name ∨ other ∈ names := by
  induction names with
  | nil => simp [insert]
  | cons n rest ih =>
    rw [insert]
    split
    · next h => subst h; simp
    · split
      · simp
      · simp [ih, or_left_comm]

theorem mem_foldl_insert (other : String) (names set : List String) :
    other ∈ names.foldl (fun set name => insert name set) set ↔ other ∈ names ∨ other ∈ set := by
  induction names generalizing set with
  | nil => simp
  | cons n rest ih => simp [ih, or_assoc, or_left_comm]

@[simp] theorem mem_ofList (other : String) (names : List String) :
    other ∈ ofList names ↔ other ∈ names := by
  simp [ofList, mem_foldl_insert]

end NameSet
end Scaffold
