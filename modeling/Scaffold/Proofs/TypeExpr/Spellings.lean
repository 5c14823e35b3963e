/-
Spellings of one type are read alike, whatever texts they are made of and wherever they stand:
`parse_spellings`.
-/
import Scaffold.Proofs.TypeExpr.Reading

namespace Scaffold
namespace TypeExpr

open Text

/-- All ways to write a list. -/
def listSpellings (text : String) : List String :=
  [text ++ "[]", "[" ++ text ++ "]", "List<" ++ text ++ ">", "IList<" ++ text ++ ">",
   "ICollection<" ++ text ++ ">", "IEnumerable<" ++ text ++ ">", "IReadOnlyList<" ++ text ++ ">",
   "IReadOnlyCollection<" ++ text ++ ">", "Collection<" ++ text ++ ">",
   "ObservableCollection<" ++ text ++ ">", "HashSet<" ++ text ++ ">", "ISet<" ++ text ++ ">",
   "SortedSet<" ++ text ++ ">", "LinkedList<" ++ text ++ ">", "Vec<" ++ text ++ ">",
   "VecDeque<" ++ text ++ ">", "BTreeSet<" ++ text ++ ">"]

/-- All ways to write that null is among the values. -/
def nullableSpellings (text : String) : List String :=
  [text ++ "?", "Nullable<" ++ text ++ ">", "Option<" ++ text ++ ">"]

/-- All ways to write a map. -/
def mapSpellings (key value : String) : List String :=
  ["Dictionary<" ++ key ++ ", " ++ value ++ ">", "IDictionary<" ++ key ++ ", " ++ value ++ ">",
   "IReadOnlyDictionary<" ++ key ++ ", " ++ value ++ ">",
   "SortedDictionary<" ++ key ++ ", " ++ value ++ ">",
   "ConcurrentDictionary<" ++ key ++ ", " ++ value ++ ">", "HashMap<" ++ key ++ ", " ++ value ++ ">",
   "BTreeMap<" ++ key ++ ", " ++ value ++ ">", "IndexMap<" ++ key ++ ", " ++ value ++ ">",
   "Map<" ++ key ++ ", " ++ value ++ ">", "Record<" ++ key ++ ", " ++ value ++ ">"]

theorem listSpellings_eq (text : String) :
    listSpellings text =
      [text ++ "[]", "[" ++ text ++ "]"] ++ listWrappers.map (· ++ "<" ++ text ++ ">") :=
  rfl

theorem nullableSpellings_eq (text : String) :
    nullableSpellings text = (text ++ "?") :: nullableWrappers.map (· ++ "<" ++ text ++ ">") :=
  rfl

theorem mapSpellings_eq (key value : String) :
    mapSpellings key value = mapWrappers.map (· ++ "<" ++ key ++ ", " ++ value ++ ">") :=
  rfl

/-- A place for a type in a longer type text. -/
inductive Frame where
  | orNull
  | array
  | brackets
  | argument (name : String) (before after : List String)

namespace Frame

/-- The longer text, with a text put in. -/
def fill : Frame → String → String
  | orNull, text => text ++ "?"
  | array, text => text ++ "[]"
  | brackets, text => "[" ++ text ++ "]"
  | argument name before after, text =>
    name ++ "<" ++ join ", " (before ++ text :: after) ++ ">"

/-- What stands around the place is a name and other types. -/
def WellFormed : Frame → Prop
  | argument name before after =>
    WrittenName name ∧ ∀ text ∈ before ++ after, ∃ t, parse text = .ok t
  | _ => True

end Frame

variable {name text : String} {t : TypeExpr}

theorem plainName_wrapper (wrapper : name ∈ listWrappers ∨ name ∈ nullableWrappers ∨ name ∈ mapWrappers) :
    PlainName name := by
  have lists : ∀ name ∈ listWrappers, PlainName name := by decide
  have nullables : ∀ name ∈ nullableWrappers, PlainName name := by decide
  have maps : ∀ name ∈ mapWrappers, PlainName name := by decide
  rcases wrapper with mem | mem | mem
  · exact lists name mem
  · exact nullables name mem
  · exact maps name mem

theorem apply_list (mem : name ∈ listWrappers) (t : TypeExpr) : apply name [t] = list t := by
  have lists : ∀ name ∈ listWrappers, name ∉ nullableWrappers := by decide
  simp only [TypeExpr.apply, if_neg (lists name mem), if_pos mem]

theorem apply_nullable (mem : name ∈ nullableWrappers) (t : TypeExpr) : apply name [t] = t.orNull := by
  simp only [TypeExpr.apply, if_pos mem]

theorem apply_map (mem : name ∈ mapWrappers) (key value : TypeExpr) :
    apply name [key, value] = dictionary key value := by
  simp only [TypeExpr.apply, if_pos mem]

theorem parse_listSpellings (read : parse text = .ok t) :
    ∀ spelling ∈ listSpellings text, parse spelling = .ok (list t) := by
  intro spelling mem
  rw [listSpellings_eq, List.mem_append] at mem
  rcases mem with mem | mem
  · rw [List.mem_pair] at mem
    rcases mem with rfl | rfl
    · exact parse_array read
    · exact parse_brackets read
  · obtain ⟨name, wrapper, rfl⟩ := List.mem_map.mp mem
    have plain := plainName_wrapper (.inl wrapper)
    rw [parse_applied_one plain.written read, plain.shortName, apply_list wrapper]

theorem parse_nullableSpellings (read : parse text = .ok t) :
    ∀ spelling ∈ nullableSpellings text, parse spelling = .ok t.orNull := by
  intro spelling mem
  rw [nullableSpellings_eq, List.mem_cons] at mem
  rcases mem with rfl | mem
  · exact parse_orNull read
  · obtain ⟨name, wrapper, rfl⟩ := List.mem_map.mp mem
    have plain := plainName_wrapper (.inr (.inl wrapper))
    rw [parse_applied_one plain.written read, plain.shortName, apply_nullable wrapper]

theorem parse_mapSpellings {key value : String} {k v : TypeExpr} (read_key : parse key = .ok k)
    (read_value : parse value = .ok v) :
    ∀ spelling ∈ mapSpellings key value, parse spelling = .ok (dictionary k v) := by
  intro spelling mem
  rw [mapSpellings_eq] at mem
  obtain ⟨name, wrapper, rfl⟩ := List.mem_map.mp mem
  have plain := plainName_wrapper (.inr (.inr wrapper))
  rw [parse_applied_two plain.written read_key read_value, plain.shortName, apply_map wrapper]

theorem exists_forall₂_parse {texts : List String} (each : ∀ text ∈ texts, ∃ t, parse text = .ok t) :
    ∃ types, List.Forall₂ (fun text t => parse text = .ok t) texts types := by
  induction texts with
  | nil => exact ⟨[], .nil⟩
  | cons text texts ih =>
    obtain ⟨first, others⟩ := List.forall_mem_cons.mp each
    obtain ⟨t, read⟩ := first
    obtain ⟨types, read_others⟩ := ih others
    exact ⟨t :: types, .cons read read_others⟩

/-- A longer text says of a type the same in whatever way the type is written. -/
theorem Frame.parse_fill {frame : Frame} (wellFormed : frame.WellFormed) :
    ∃ f : TypeExpr → TypeExpr, ∀ text t, parse text = .ok t → parse (frame.fill text) = .ok (f t) := by
  cases frame with
  | orNull => exact ⟨TypeExpr.orNull, fun _ _ => parse_orNull⟩
  | array => exact ⟨list, fun _ _ => parse_array⟩
  | brackets => exact ⟨list, fun _ _ => parse_brackets⟩
  | argument name before after =>
    obtain ⟨written, each⟩ := wellFormed
    rw [List.forall_mem_append] at each
    obtain ⟨types, read_before⟩ := exists_forall₂_parse each.1
    obtain ⟨types', read_after⟩ := exists_forall₂_parse each.2
    -- The types around the place are read once, before anything is put in.
    refine ⟨fun t => apply (shortName name) (types ++ t :: types'), fun text t read => ?_⟩
    exact parse_applied written (List.rel_append read_before (.cons read read_after)) (by simp)

/-- From the outermost place to the innermost. -/
theorem parse_fill {frames : List Frame} (wellFormed : ∀ frame ∈ frames, frame.WellFormed) :
    ∃ f : TypeExpr → TypeExpr, ∀ text t, parse text = .ok t →
      parse (frames.foldr Frame.fill text) = .ok (f t) := by
  induction frames with
  | nil => exact ⟨id, fun _ _ read => read⟩
  | cons frame frames ih =>
    obtain ⟨first, others⟩ := List.forall_mem_cons.mp wellFormed
    obtain ⟨f, outer⟩ := Frame.parse_fill first
    obtain ⟨g, inner⟩ := ih others
    exact ⟨f ∘ g, fun text t read => outer _ _ (inner text t read)⟩

/-- Equivalent spellings are read alike. From any text that is read as a type, every spelling of a list
gives the list of that type and every spelling of null adds null to it; from any two texts, every
spelling of a map gives the same map. In a longer text only the type counts that is read, not the
spelling. -/
theorem parse_spellings {key value : String} {k v : TypeExpr} (read : parse text = .ok t)
    (read_key : parse key = .ok k) (read_value : parse value = .ok v) :
    (∀ spelling ∈ listSpellings text, parse spelling = .ok (list t)) ∧
    (∀ spelling ∈ nullableSpellings text, parse spelling = .ok t.orNull) ∧
    (∀ spelling ∈ mapSpellings key value, parse spelling = .ok (dictionary k v)) ∧
    ∀ frames : List Frame, (∀ frame ∈ frames, frame.WellFormed) →
      ∃ f : TypeExpr → TypeExpr, ∀ text t, parse text = .ok t →
        parse (frames.foldr Frame.fill text) = .ok (f t) :=
  ⟨parse_listSpellings read, parse_nullableSpellings read, parse_mapSpellings read_key read_value,
    fun _ => parse_fill⟩

/-- What a borrowed array of optional pages, with odd blanks and a second dimension, is read as. -/
def pageRows : TypeExpr :=
  list (list (generic "Page" [named "int"])).orNull

theorem parse_spellings_pageRows :
    parse "&'a mut [ crate::Page<i32> ; N + 1 ] ? [,]" = .ok pageRows ∧ parse "& str" = .ok (named "string") ∧
    parse "Vec<&'a mut [ crate::Page<i32> ; N + 1 ] ? [,]>" = .ok (list pageRows) ∧
    parse "&'a mut [ crate::Page<i32> ; N + 1 ] ? [,]?" = .ok pageRows.orNull ∧
    parse "HashMap<& str, &'a mut [ crate::Page<i32> ; N + 1 ] ? [,]>" =
      .ok (dictionary (named "string") pageRows) := by
  have read : parse "&'a mut [ crate::Page<i32> ; N + 1 ] ? [,]" = .ok pageRows := by decide +kernel
  have read_key : parse "& str" = .ok (named "string") := by decide +kernel
  obtain ⟨lists, nullables, maps, -⟩ := parse_spellings read read_key read
  exact ⟨read, read_key, lists _ (by decide +kernel), nullables _ (by decide +kernel),
    maps _ (by decide +kernel)⟩

end TypeExpr
end Scaffold
