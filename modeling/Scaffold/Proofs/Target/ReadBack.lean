/-
Written types of C# and Rust read as type expressions again: what a canonical type is written as
denotes that type, but for what the language cannot say: `parse_render`. Keys of maps are always texts,
and Rust has one type for both kinds of points in time.
-/
import Scaffold.Proofs.Target.Render
import Scaffold.Proofs.TypeExpr.RoundTrip
import Scaffold.Proofs.TypeExpr.Spellings

namespace Scaffold
namespace TypeExpr

/-! ## What is lost -/

/-- Arguments in which the key of a map is a text. -/
def stringKey (name : String) : List TypeExpr → List TypeExpr
  | [key, value] => if name = dictionaryName then [named "string", value] else [key, value]
  | args => args

mutual

/-- The type with texts for the keys of all maps. -/
def stringKeys : TypeExpr → TypeExpr
  | ⟨name, args, isReference, isEnum, isNullable⟩ =>
    ⟨name, stringKey name (stringKeysAll args), isReference, isEnum, isNullable⟩

def stringKeysAll : List TypeExpr → List TypeExpr
  | [] => []
  | t :: rest => stringKeys t :: stringKeysAll rest

end

mutual

/-- The type with other names. -/
def mapNames (f : String → String) : TypeExpr → TypeExpr
  | ⟨name, args, isReference, isEnum, isNullable⟩ =>
    ⟨f name, mapNamesAll f args, isReference, isEnum, isNullable⟩

def mapNamesAll (f : String → String) : List TypeExpr → List TypeExpr
  | [] => []
  | t :: rest => mapNames f t :: mapNamesAll f rest

end

/-- The type without offsets in its points in time. -/
def withoutOffsets (t : TypeExpr) : TypeExpr :=
  t.mapNames fun name =>
    if name = Primitive.dateTimeOffset.name then Primitive.dateTime.name else name

/-- No name with arguments in the type is that of optional values. -/
inductive OptionFree : TypeExpr → Prop where
  | mk {name : String} {args : List TypeExpr} {isReference isEnum isNullable : Bool}
      (own : args ≠ [] → name ≠ "Option") (inside : ∀ t ∈ args, OptionFree t) :
      OptionFree ⟨name, args, isReference, isEnum, isNullable⟩

theorem stringKeysAll_eq_map (ts : List TypeExpr) : stringKeysAll ts = ts.map stringKeys := by
  induction ts with
  | nil => rfl
  | cons t rest ih => rw [stringKeysAll, ih, List.map_cons]

theorem mapNamesAll_eq_map (f : String → String) (ts : List TypeExpr) :
    mapNamesAll f ts = ts.map (mapNames f) := by
  induction ts with
  | nil => rfl
  | cons t rest ih => rw [mapNamesAll, ih, List.map_cons]

theorem withoutOffsets_eq {name : String} (other : name ≠ Primitive.dateTimeOffset.name)
    (args : List TypeExpr) (r e u : Bool) :
    withoutOffsets ⟨name, args, r, e, u⟩ = ⟨name, args.map withoutOffsets, r, e, u⟩ := by
  rw [withoutOffsets, mapNames, mapNamesAll_eq_map, if_neg other]
  rfl

theorem stringKeys_eq (name : String) (args : List TypeExpr) (r e u : Bool) :
    stringKeys ⟨name, args, r, e, u⟩ = ⟨name, stringKey name (args.map stringKeys), r, e, u⟩ := by
  rw [stringKeys, stringKeysAll_eq_map]

theorem stringKey_own {name : String} {args : List TypeExpr} (own : ¬IsWrapper name args.length) :
    stringKey name args = args := by
  rcases args with _ | ⟨first, _ | ⟨second, _ | ⟨third, rest⟩⟩⟩
  · rfl
  · rfl
  · have not_map : name ≠ dictionaryName := by
      rintro rfl
      exact own (.inr ⟨rfl, by decide⟩)
    rw [stringKey, if_neg not_map]
  · rfl

end TypeExpr

namespace Target

open TypeExpr

/-- What the written type denotes. -/
def kept : Target → TypeExpr → TypeExpr
  | rust, t => t.withoutOffsets.stringKeys
  | _, t => t.stringKeys

def keptPrimitive : Target → Primitive → Primitive
  | rust, .dateTimeOffset => .dateTime
  | _, p => p

theorem kept_primitive (target : Target) (p : Primitive) (nullable : Bool) :
    target.kept ⟨p.name, [], false, false, nullable⟩ =
      ⟨(target.keptPrimitive p).name, [], false, false, nullable⟩ := by
  cases target <;> cases p <;> rfl

theorem kept_list (target : Target) (element : TypeExpr) (nullable : Bool) :
    target.kept ⟨listName, [element], false, false, nullable⟩ =
      ⟨listName, [target.kept element], false, false, nullable⟩ := by
  cases target <;> rfl

theorem kept_dictionary (target : Target) (key value : TypeExpr) (nullable : Bool) :
    target.kept ⟨dictionaryName, [key, value], false, false, nullable⟩ =
      ⟨dictionaryName, [named "string", target.kept value], false, false, nullable⟩ := by
  cases target <;> rfl

theorem kept_reference (target : Target) {name : String} {args : List TypeExpr}
    (other : canonicalPrimitive? name = none) (own : ¬IsWrapper name args.length) (nullable : Bool) :
    target.kept ⟨name, args, true, false, nullable⟩ =
      ⟨name, args.map target.kept, true, false, nullable⟩ := by
  have not_offset : name ≠ Primitive.dateTimeOffset.name := by
    rintro rfl
    rw [canonicalPrimitive?_name] at other
    cases other
  have keyed (f : TypeExpr → TypeExpr) : stringKey name (args.map f) = args.map f :=
    stringKey_own (by rwa [List.length_map])
  cases target with
  | rust =>
    rw [kept, withoutOffsets_eq not_offset, stringKeys_eq, List.map_map, keyed]
    rfl
  | csharp =>
    rw [kept, stringKeys_eq, keyed]
    · rfl
    · nofun
  | typescript =>
    rw [kept, stringKeys_eq, keyed]
    · rfl
    · nofun

variable {target : Target} (spoken : target ≠ typescript) {name base text : String} {t : TypeExpr}

/-! ## Parts -/

section parts

include spoken

theorem parse_primitiveName (p : Primitive) :
    parse (target.primitiveName p) = .ok (named (target.keptPrimitive p).name) := by
  cases target with
  | typescript => exact absurd rfl spoken
  | csharp => cases p <;> decide +kernel
  | rust => cases p <;> decide +kernel

theorem parse_listOf (read : parse text = .ok t) : parse (target.listOf text) = .ok (list t) := by
  cases target with
  | typescript => exact absurd rfl spoken
  | csharp => exact parse_listSpellings read _ (by simp [listSpellings, listOf])
  | rust => exact parse_listSpellings read _ (by simp [listSpellings, listOf])

theorem parse_mapOf (read : parse text = .ok t) :
    parse (target.mapOf text) = .ok (dictionary (named "string") t) := by
  cases target with
  | typescript => exact absurd rfl spoken
  | csharp =>
    have written : WrittenName "Dictionary" := by decide
    have short : shortName "Dictionary" ∈ mapWrappers := by decide
    have key : parse "string" = .ok (named "string") := by decide
    have applied := parse_applied_two written key read
    rw [apply_map short] at applied
    exact applied
  | rust =>
    have written : WrittenName "std::collections::HashMap" := by decide
    have short : shortName "std::collections::HashMap" ∈ mapWrappers := by decide
    have key : parse "String" = .ok (named "string") := by decide
    have applied := parse_applied_two written key read
    rw [apply_map short] at applied
    exact applied

/-- A base text that does not look as if it had null gets it. -/
theorem parse_marked (clear : target.hasNull base = false)
    (read : parse base = .ok t) (plain : t.isNullable = false) (nullable : Bool) :
    parse (target.marked nullable base) = .ok (t.withNullable nullable) := by
  cases nullable with
  | false =>
    obtain ⟨name, args, r, e, u⟩ := t
    cases plain
    exact read
  | true =>
    cases target with
    | typescript => exact absurd rfl spoken
    | csharp =>
      have nulled := parse_orNull read
      rw [hasNull] at clear
      rw [marked, if_pos rfl, nullableOf, clear]
      exact nulled
    | rust =>
      have written : WrittenName "Option" := by decide
      have short : shortName "Option" ∈ nullableWrappers := by decide
      have nulled := parse_applied_one written read
      rw [apply_nullable short] at nulled
      rw [hasNull] at clear
      rw [marked, if_pos rfl, nullableOf, clear]
      exact nulled

end parts

/-! ## Whole types -/

/-- What a type is written as is read as what the language keeps of it. -/
theorem parse_render_kept (spoken : target ≠ typescript) (canonical : Canonical t)
    (free : target = rust → OptionFree t) : parse (target.render t) = .ok (target.kept t) := by
  induction canonical with
  | primitive p nullable =>
    rw [render_primitive, kept_primitive]
    exact parse_marked spoken (hasNull_primitiveName target p) (parse_primitiveName spoken p) rfl nullable
  | list nullable inside ih =>
    have element := ih fun rust => by
      obtain ⟨-, inside⟩ := free rust
      exact inside _ List.mem_cons_self
    rw [render_list, kept_list]
    exact parse_marked spoken (hasNull_listOf target _) (parse_listOf spoken element) rfl nullable
  | dictionary nullable key_inside value_inside key_ih value_ih =>
    have value := value_ih fun rust => by
      obtain ⟨-, inside⟩ := free rust
      exact inside _ (List.mem_cons_of_mem _ List.mem_cons_self)
    rw [render_dictionary, kept_dictionary]
    exact parse_marked spoken (hasNull_mapOf target _) (parse_mapOf spoken value) rfl nullable
  | @reference name args nullable plain other own inside ih =>
    have read : parse (applied name (args.map target.render)) =
        .ok ⟨name, args.map target.kept, true, false, false⟩ := by
      -- What the language loses inside does not change what the name is taken for.
      have meaning : TypeExpr.apply name (args.map target.kept) =
          ⟨name, args.map target.kept, true, false, false⟩ := apply_own other (by rwa [List.length_map])
      have each : ∀ arg ∈ args, parse (target.render arg) = .ok (target.kept arg) := by
        intro arg mem
        refine ih arg mem fun rust => ?_
        obtain ⟨-, inside⟩ := free rust
        exact inside arg mem
      cases args with
      | nil =>
        rw [List.map_nil, applied, parse_name plain.written, plain.shortName]
        exact congrArg Except.ok meaning
      | cons first others =>
        have some : (first :: others).map target.render ≠ [] := List.cons_ne_nil _ _
        have read := parse_applied plain.written (forall₂_parse_map each) some
        rw [plain.shortName, meaning] at read
        exact read
    have clear : target.hasNull (applied name (args.map target.render)) = false := by
      refine hasNull_applied target plain fun rust some => ?_
      obtain ⟨own, -⟩ := free rust
      exact own fun none => some (by rw [none, List.map_nil])
    rw [render_reference target other own, kept_reference target other own]
    exact parse_marked spoken clear read rfl nullable

/-- What a canonical type is written as in C# denotes the type with texts for the keys of its maps, and
what it is written as in Rust denotes that without the offsets of points in time, as long as `Option`
is not the name of a type of the model with arguments. -/
theorem parse_render {t : TypeExpr} (canonical : Canonical t) :
    parse (csharp.render t) = .ok t.stringKeys ∧
      (OptionFree t → parse (rust.render t) = .ok t.withoutOffsets.stringKeys) := by
  constructor
  · exact parse_render_kept (by decide) canonical nofun
  · intro free
    exact parse_render_kept (by decide) canonical fun _ => free

/-- Slots by number; they begin at a point in time, or nobody knows when. -/
def schedule : TypeExpr :=
  (dictionary (named "int")
    (list (generic "Slot" [(named "DateTimeOffset").orNull, reference "Option"]).orNull)).orNull

theorem canonical_schedule : Canonical schedule := by
  have arguments : ∀ t ∈ [(named "DateTimeOffset").orNull, reference "Option"], Canonical t := by
    refine List.forall_mem_cons.mpr ⟨.primitive .dateTimeOffset true, List.forall_mem_singleton.mpr ?_⟩
    exact .reference false (by decide) (by decide) (by decide) (List.forall_mem_nil _)
  have slot : Canonical (generic "Slot" [(named "DateTimeOffset").orNull, reference "Option"]).orNull :=
    .reference true (by decide) (by decide) (by decide) arguments
  exact .dictionary true (.primitive .int false) (.list false slot)

theorem optionFree_schedule : OptionFree schedule := by
  have leaf (name : String) (r u : Bool) : OptionFree ⟨name, [], r, false, u⟩ :=
    .mk (absurd rfl) (List.forall_mem_nil _)
  have slot : OptionFree (generic "Slot" [(named "DateTimeOffset").orNull, reference "Option"]).orNull :=
    .mk (fun _ => by decide)
      (List.forall_mem_cons.mpr ⟨leaf _ _ _, List.forall_mem_singleton.mpr (leaf _ _ _)⟩)
  have slots : OptionFree (list (generic "Slot" [(named "DateTimeOffset").orNull, reference "Option"]).orNull) :=
    .mk (fun _ => by decide) (List.forall_mem_singleton.mpr slot)
  exact .mk (fun _ => by decide)
    (List.forall_mem_cons.mpr ⟨leaf _ _ _, List.forall_mem_singleton.mpr slots⟩)

theorem parse_render_schedule :
    Canonical schedule ∧ OptionFree schedule ∧
    csharp.render schedule = "Dictionary<string, List<Slot<DateTimeOffset?, Option>?>>?" ∧
    rust.render schedule = "Option<std::collections::HashMap<String, " ++
      "Vec<Option<Slot<Option<chrono::DateTime<chrono::Utc>>, Option>>>>>" ∧
    parse (csharp.render schedule) = .ok schedule.stringKeys ∧
    parse (rust.render schedule) = .ok schedule.withoutOffsets.stringKeys := by
  have read := parse_render canonical_schedule
  exact ⟨canonical_schedule, optionFree_schedule, by decide, by decide, read.1,
    read.2 optionFree_schedule⟩

end Target
end Scaffold
