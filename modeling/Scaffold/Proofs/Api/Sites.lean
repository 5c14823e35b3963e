/-
Places locate schemas. A layout says where the reading of a place starts; from there on the place
of a schema is a pointer to it, but for the schema that alone stands for an array of parts or
variants: its place is that of the array. No two schemas with members have one place
(`located_unique`), and runs offer definitions of schemas at their places (`run_sited`).
-/
import Scaffold.Proofs.Api.Aliases
import Scaffold.Proofs.Api.Forms
import Scaffold.Proofs.Api.History
import Scaffold.Proofs.Json.Pointers

namespace Scaffold
namespace Api

open Resolver Resolve Json.Pointer

variable {document : Json}

/-! ## Spots -/

/-- The segments of a place. -/
def segmentsOf (place : String) : Option (List String) :=
  match place.toList with
  | '#' :: pointer => segments? (String.ofList pointer)
  | _ => none

theorem lookup?_eq (document : Json) (reference : String) :
    lookup? document reference = (segmentsOf reference).bind fun s => s.foldlM step? document := by
  by_cases hash : ∃ pointer, reference.toList = '#' :: pointer
  · obtain ⟨pointer, same⟩ := hash
    simp only [lookup?, segmentsOf, same]
    rfl
  · have nowhere : lookup? document reference = none := by
      unfold lookup?
      split
      · next pointer same => exact absurd ⟨pointer, same⟩ hash
      · rfl
    have no_segments : segmentsOf reference = none := by
      unfold segmentsOf
      split
      · next pointer same => exact absurd ⟨pointer, same⟩ hash
      · rfl
    rw [nowhere, no_segments]
    rfl

theorem segmentsOf_child {base : String} {segments : List String} (segment : String)
    (h : segmentsOf base = some segments) :
    segmentsOf (child base segment) = some (segments ++ [segment]) := by
  unfold segmentsOf at h ⊢
  rw [toList_child]
  split at h
  · next pointer same =>
    rw [same]
    exact segments?_append segment h
  · cases h

theorem lookup?_child {place : String} {segments : List String} (found : segmentsOf place = some segments)
    (key : String) :
    lookup? document (child place key) = (lookup? document place).bind (step? · key) := by
  rw [lookup?_eq, lookup?_eq, segmentsOf_child key found, found]
  simp only [Option.bind_some, List.foldlM_append]
  cases segments.foldlM step? document <;> simp

/-- Where a document keeps its named schemas, as keys from the top. -/
def schemasPath (document : Json) : List String :=
  if Schema.has document "swagger" || Schema.has document "definitions" then ["definitions"]
  else ["components", "schemas"]

theorem segmentsOf_schemasPrefix (document : Json) :
    segmentsOf (schemasPrefix document) = some (schemasPath document) := by
  unfold schemasPrefix schemasPath
  split <;> decide

/-- The pointer to a named schema leads to what the section has under the name. -/
theorem lookup?_named_of_object {members : List (String × Json)}
    (object : lookup? document (schemasPrefix document) = some (.object members)) (name : String) :
    lookup? document (child (schemasPrefix document) name) = Json.lookup name members := by
  rw [lookup?_child (segmentsOf_schemasPrefix document), object]
  rfl

/-- The item that alone stands for an array of parts or variants. -/
def single? (segment : String) (v : Json) : Option Json :=
  match v with
  | .array items =>
    match if segment = "allOf" then items else items.filter (!Schema.isNull ·) with
    | [item] => some item
    | _ => none
  | _ => none

/-- What a pointer leads to, with its last segment. -/
structure Spot where
  value : Json
  segment : String

namespace Spot

def single (spot : Spot) : Option Json :=
  single? spot.segment spot.value

/-- The way on leads through the value, or else through what alone stands for it. -/
def step? (spot : Spot) (segment : String) : Option Spot :=
  ((Json.Pointer.step? spot.value segment).or
    (spot.single.bind (Json.Pointer.step? · segment))).map (⟨·, segment⟩)

/-- A schema that a spot can be the place of. -/
def Stands (spot : Spot) (v : Json) : Prop :=
  v = spot.value ∨ spot.single = some v

theorem array_of_single {spot : Spot} {v : Json} (h : spot.single = some v) :
    ∃ items, spot.value = .array items := by
  unfold single single? at h
  split at h
  · next items same => exact ⟨items, same⟩
  · cases h

end Spot

/-- Where the reading of segments starts, with those that are left to read. Paths may be apart
from the rest of the document. -/
structure Layout where
  start? : List String → Option (Json × List String)
  start?_append : ∀ {segments rest : List String} {v : Json} (segment : String),
    start? segments = some (v, rest) → (segments = [] → segment ≠ "paths") →
    start? (segments ++ [segment]) = some (v, rest ++ [segment])

/-- All places are read from the whole document. -/
def Layout.whole (document : Json) : Layout where
  start? segments := some (document, segments)
  start?_append segment h _ := by
    injection h with h
    injection h with same_value same_rest
    rw [same_value, same_rest]

variable {layout : Layout}

def Layout.spotAt? (layout : Layout) (place : String) : Option Spot :=
  ((segmentsOf place).bind layout.start?).bind fun (v, rest) => rest.foldlM Spot.step? ⟨v, ""⟩

/-- The place is that of the schema. -/
def Located (layout : Layout) (place : String) (v : Json) : Prop :=
  ∃ spot, layout.spotAt? place = some spot ∧ spot.Stands v

theorem located_unique {place : String} {members members' : List (String × Json)}
    (h : Located layout place (.object members))
    (h' : Located layout place (.object members')) : members = members' := by
  obtain ⟨spot, found, stands⟩ := h
  obtain ⟨spot', found', stands'⟩ := h'
  rw [found] at found'
  rw [← Option.some.inj found'] at stands'
  rcases stands with same | single
  · rcases stands' with same' | single'
    · rw [← same'] at same
      exact Json.object.inj same
    · obtain ⟨items, array⟩ := Spot.array_of_single single'
      rw [← same] at array
      cases array
  · rcases stands' with same' | single'
    · obtain ⟨items, array⟩ := Spot.array_of_single single
      rw [← same'] at array
      cases array
    · rw [single] at single'
      exact Json.object.inj (Option.some.inj single')

theorem spot_of_foldlM {segments : List String} (start : Spot) {v : Json}
    (h : segments.foldlM step? start.value = some v) :
    ∃ spot, segments.foldlM Spot.step? start = some spot ∧ spot.value = v := by
  induction segments generalizing start with
  | nil => exact ⟨start, rfl, Option.some.inj h⟩
  | cons segment rest ih =>
    obtain ⟨u, first, last⟩ := Option.bind_eq_some_iff.mp h
    have step : start.step? segment = some ⟨u, segment⟩ := by
      simp [Spot.step?, first]
    obtain ⟨spot, found, same⟩ := ih ⟨u, segment⟩ last
    refine ⟨spot, ?_, same⟩
    rw [List.foldlM_cons, step]
    exact found

/-- A place that leads to nothing further is that of what its reading starts from. -/
theorem located_of_start? {place : String} {segments : List String} {v : Json}
    (found : segmentsOf place = some segments) (start : layout.start? segments = some (v, [])) :
    Located layout place v := by
  refine ⟨⟨v, ""⟩, ?_, .inl rfl⟩
  rw [Layout.spotAt?, found, Option.bind_some, start]
  rfl

/-- A reference is the place of what it leads to, if it is read from the whole document. -/
theorem located_of_lookup? {reference : String} {v : Json}
    (whole : ∀ segments, segmentsOf reference = some segments →
      layout.start? segments = some (document, segments))
    (h : lookup? document reference = some v) : Located layout reference v := by
  rw [lookup?_eq] at h
  obtain ⟨segments, found, leads⟩ := Option.bind_eq_some_iff.mp h
  obtain ⟨spot, reached, same⟩ := spot_of_foldlM ⟨document, ""⟩ leads
  refine ⟨spot, ?_, .inl same.symm⟩
  rw [Layout.spotAt?, found, Option.bind_some, whole segments found]
  exact reached

/-! ## Parts of located schemas -/

theorem spotAt?_child {place segment : String} {spot spot' : Spot}
    (found : layout.spotAt? place = some spot) (step : spot.step? segment = some spot')
    (apart : segmentsOf place = some [] → segment ≠ "paths") :
    layout.spotAt? (child place segment) = some spot' := by
  obtain ⟨⟨v, rest⟩, start, reached⟩ := Option.bind_eq_some_iff.mp found
  obtain ⟨segments, segments_eq, start⟩ := Option.bind_eq_some_iff.mp start
  have start := layout.start?_append segment start fun nil => apart (nil ▸ segments_eq)
  rw [Layout.spotAt?, segmentsOf_child segment segments_eq, Option.bind_some, start,
    Option.bind_some]
  dsimp only at reached ⊢
  rw [List.foldlM_append, reached]
  simp [step]

/-- Below the first segment a place does not come among the paths. -/
theorem spotAt?_grandchild {place outer segment : String} {spot spot' spot'' : Spot}
    (found : layout.spotAt? place = some spot) (first : spot.step? outer = some spot')
    (second : spot'.step? segment = some spot'') (apart : outer ≠ "paths") :
    layout.spotAt? (child (child place outer) segment) = some spot'' := by
  refine spotAt?_child (spotAt?_child found first fun _ => apart) second fun nil => ?_
  obtain ⟨_, start, _⟩ := Option.bind_eq_some_iff.mp found
  obtain ⟨segments, segments_eq, _⟩ := Option.bind_eq_some_iff.mp start
  rw [segmentsOf_child outer segments_eq] at nil
  simp at nil

theorem step?_of_get? {spot : Spot} {key : String} {v w : Json} (stands : spot.Stands v)
    (name : index? key = none) (h : v.get? key = some w) : spot.step? key = some ⟨w, key⟩ := by
  obtain ⟨members, rfl, _⟩ := Json.mem_members_of_get? h
  have step : step? (.object members) key = some w := h
  rcases stands with same | single
  · simp [Spot.step?, ← same, step]
  · obtain ⟨items, array⟩ := Spot.array_of_single single
    have none : Json.Pointer.step? spot.value key = none := by
      simp [array, Json.Pointer.step?, name]
    simp [Spot.step?, none, single, step]

/-- A member of a located schema is at the place below. -/
theorem spot_of_get? {place key : String} {v w : Json} (located : Located layout place v)
    (name : index? key = none) (apart : key ≠ "paths") (h : v.get? key = some w) :
    layout.spotAt? (child place key) = some ⟨w, key⟩ := by
  obtain ⟨spot, found, stands⟩ := located
  exact spotAt?_child found (step?_of_get? stands name h) fun _ => apart

theorem located_of_get? {place key : String} {v w : Json} (located : Located layout place v)
    (name : index? key = none) (apart : key ≠ "paths") (h : v.get? key = some w) :
    Located layout (child place key) w :=
  ⟨⟨w, key⟩, spot_of_get? located name apart h, .inl rfl⟩

/-- The way an inner schema is found is the way its place is made. -/
theorem located_of_inner {place segment : String} {v inner : Json}
    (located : Located layout place v) (h : Schema.Inner v segment inner) :
    Located layout (child place segment) inner := by
  cases h with
  | part single =>
    have spot := spot_of_get? located rfl (by decide) (Json.get?_of_itemsAt? single)
    refine ⟨_, spot, .inr ?_⟩
    simp [Spot.single, single?]
  | variant key_mem variants_eq single =>
    have name : index? segment = none := by
      rcases List.mem_pair.mp key_mem with rfl | rfl <;> rfl
    have other : segment ≠ "allOf" ∧ segment ≠ "paths" := by
      rcases List.mem_pair.mp key_mem with rfl | rfl <;> decide
    have spot := spot_of_get? located name other.2 (Json.get?_of_itemsAt? variants_eq)
    refine ⟨_, spot, .inr ?_⟩
    simp [Spot.single, single?, other.1, single]
  | items found => exact located_of_get? located rfl (by decide) found
  | value found => exact located_of_get? located rfl (by decide) found

theorem located_of_part {place : String} {v part : Json} {i : Nat}
    (located : Located layout place v) (mem : (part, i) ∈ (v.itemsAt "allOf").zipIdx) :
    Located layout (child (child place "allOf") (toString i)) part := by
  obtain ⟨items, found, _⟩ := Json.itemsAt?_of_mem (List.fst_mem_of_mem_zipIdx mem)
  have item : items[i]? = some part := by
    unfold Json.itemsAt at mem
    rw [found] at mem
    exact List.mem_zipIdx_iff_getElem?.mp mem
  obtain ⟨spot, place_found, stands⟩ := located
  have array := step?_of_get? stands rfl (Json.get?_of_itemsAt? found)
  have step : step? (.array items) (toString i) = some part := by
    rw [step?, index?_toString, Option.bind_some, item]
  refine ⟨⟨part, toString i⟩, spotAt?_grandchild place_found array ?_ (by decide), .inl rfl⟩
  rw [Spot.step?, step]
  rfl

/-- The keys of every object in a document are different. -/
def DistinctKeys (document : Json) : Prop :=
  ∀ v ∈ document.values, ((v.members?.getD []).map (·.1)).Nodup

instance (document : Json) : Decidable (DistinctKeys document) :=
  inferInstanceAs (Decidable (∀ v ∈ document.values, _))

theorem located_of_property {place name : String} {v value : Json}
    (distinct : DistinctKeys document) (inside : v ∈ document.values)
    (located : Located layout place v) (mem : (name, value) ∈ v.membersAt "properties") :
    Located layout (child (child place "properties") name) value := by
  obtain ⟨members, found, mem⟩ := Json.membersAt?_of_mem mem
  have object := Json.get?_of_membersAt? found
  have members_inside : Json.object members ∈ document.values :=
    Json.values_subset document inside (Json.values_subset_of_get? object (Json.mem_values_self _))
  have keys : (members.map (·.1)).Nodup := distinct _ members_inside
  obtain ⟨spot, place_found, stands⟩ := located
  have inside := step?_of_get? stands rfl object
  refine ⟨⟨value, name⟩, spotAt?_grandchild place_found inside ?_ (by decide), .inl rfl⟩
  simp [Spot.step?, step?, Json.lookup_of_mem keys mem]

/-! ## Definitions are made of what their places locate -/

theorem object_of_form_object {v : Json} {nullable : Bool}
    (h : Schema.form v = .object nullable) : ∃ members, v = .object members := by
  cases v with
  | object members => exact ⟨members, rfl⟩
  | _ => cases h

theorem object_of_kind_object {v : Json} (h : Schema.kind v = .object) :
    ∃ members, v = .object members := by
  cases v with
  | object members => exact ⟨members, rfl⟩
  | _ => cases h

/-- The schema is one of the document, and the place is its. -/
def Sited (document : Json) (layout : Layout) (place : String) (v : Json) : Prop :=
  v ∈ document.values ∧ Located layout place v

/-- The place of what the reference leads to is the reference. -/
def Covers (document : Json) (layout : Layout) (reference : String) : Prop :=
  ∀ v, lookup? document reference = some v → Located layout reference v

/-- All references of the document are places. -/
def CoversAll (document : Json) (layout : Layout) : Prop :=
  ∀ v ∈ document.values, ∀ reference, Schema.ref? v = some reference →
    Covers document layout reference

theorem covers_whole (document : Json) (reference : String) :
    Covers document (.whole document) reference :=
  fun _ here => located_of_lookup? (fun _ _ => rfl) here

namespace Sited

variable {place : String} {v : Json}

theorem of_lookup? {reference : String} (covers : Covers document layout reference)
    (here : lookup? document reference = some v) : Sited document layout reference v :=
  ⟨mem_values_of_lookup? here, covers v here⟩

theorem inner {inner : Json} {suffix segment : String} {wrap : Schema.Wrap}
    (h : Sited document layout place v)
    (form : Schema.form v = .inner inner suffix segment wrap) :
    Sited document layout (child place segment) inner := by
  have inner := Schema.inner_of_form form
  refine ⟨?_, located_of_inner h.2 inner⟩
  exact Json.values_subset document h.1 (inner.values_subset (Json.mem_values_self _))

theorem part {x : Json × Nat} (h : Sited document layout place v)
    (mem : x ∈ (v.itemsAt "allOf").zipIdx) :
    Sited document layout (child (child place "allOf") (toString x.2)) x.1 := by
  refine ⟨Json.values_subset document h.1 ?_, located_of_part h.2 mem⟩
  exact Json.values_subset_of_mem_itemsAt (List.fst_mem_of_mem_zipIdx mem) (Json.mem_values_self _)

theorem property (distinct : DistinctKeys document) {m : String × Json}
    (h : Sited document layout place v) (mem : m ∈ v.membersAt "properties") :
    Sited document layout (child (child place "properties") m.1) m.2 := by
  refine ⟨Json.values_subset document h.1 ?_, located_of_property distinct h.1 h.2 mem⟩
  exact Json.values_subset_of_mem_membersAt mem (Json.mem_values_self _)

end Sited

/-- The schemas of a call are where its places say. -/
def Call.Sited (document : Json) (layout : Layout) : Call → Prop
  | .reference asked _ => Covers document layout asked
  | .schema v _ place => Api.Sited document layout place v
  | .enum _ v place => Api.Sited document layout place v
  | .object _ v place => Api.Sited document layout place v ∧ ∃ members, v = .object members
  | .gather _ v place _ => Api.Sited document layout place v
  | .parts _ list place _ =>
    ∀ x ∈ list, Api.Sited document layout (child place (toString x.2)) x.1
  | .members _ _ list place _ => ∀ m ∈ list, Api.Sited document layout (child place m.1) m.2

/-- What every definition that was offered is made of meets a condition. -/
def Offers (P : String → Source → Prop) (r : Resolver) : Prop :=
  ∀ place source d, .offered place source d ∈ r.history → P place source

namespace Offers

variable {P : String → Source → Prop} {r : Resolver}

theorem start : Offers P .start := by
  intro place source d mem
  cases mem

theorem claim (h : Offers P r) (wanted place : String) : Offers P (r.claim wanted place) := by
  intro place' source d mem
  rcases List.mem_cons.mp mem with new | old
  · cases new
  · exact h place' source d old

theorem offer (h : Offers P r) {place : String} {source : Source} (meets : P place source)
    (d : TypeDefinition) : Offers P (r.offer place source d) := by
  intro place' source' d' mem
  rcases List.mem_cons.mp mem with new | old
  · injection new with same_place same_source _
    rw [same_place, same_source]
    exact meets
  · exact h place' source' d' old

theorem settle (h : Offers P r) (reference : String) (o : Except Failure TypeExpr) :
    Offers P (settle r reference o) := by
  cases o <;> exact h

end Offers

/-- The source is an object schema, and the place is its. -/
inductive FromSchema (layout : Layout) : String → Source → Prop where
  | mk {place : String} {members : List (String × Json)}
      (located : Located layout place (.object members)) :
      FromSchema layout place (.schema (.object members))

theorem FromSchema.unique {place : String} {source source' : Source}
    (h : FromSchema layout place source) (h' : FromSchema layout place source') :
    source' = source := by
  obtain ⟨located⟩ := h
  obtain ⟨located'⟩ := h'
  rw [located_unique located' located]

/-- Runs make definitions of the schemas at their places. -/
theorem run_sited {P : String → Source → Prop} (distinct : DistinctKeys document)
    (covers : CoversAll document layout)
    (allowed : ∀ {place source}, FromSchema layout place source → P place source)
    {n : Nat} {c : Call} {r r' : Resolver} {o : Except Failure c.Answer}
    (run : Run document n c r o r') (offers : Offers P r) (sited : c.Sited document layout) :
    Offers P r' := by
  induction run with
  | endless | known | lost | unclosed | plain | noEnum | seen | lostPart | noParts | noMembers =>
    exact offers
  | closed => exact offers.claim _ _
  | madeEnum _ here _ _ _ ih =>
    exact (ih (offers.claim _ _) (.of_lookup? sited here)).settle _ _
  | madeObject _ here _ kind _ ih =>
    exact (ih (offers.claim _ _)
      ⟨.of_lookup? sited here, object_of_kind_object kind⟩).settle _ _
  | madeOther _ here _ _ _ ih =>
    exact (ih (offers.claim _ _) (.of_lookup? sited here)).settle _ _
  | asked form _ ih =>
    exact ih offers (covers _ sited.1 _ (Schema.ref?_of_form_reference form))
  | inner form _ ih => exact ih offers (sited.inner form)
  | inlineObject form _ ih => exact ih (offers.claim _ _) ⟨sited, object_of_form_object form⟩
  | inlineEnum _ _ ih => exact ih (offers.claim _ _) sited
  | enum values_eq =>
    obtain ⟨members, rfl, _⟩ := Json.mem_members_of_get? (Json.get?_of_itemsAt? values_eq)
    exact offers.offer (allowed ⟨sited.2⟩) _
  | object _ ih =>
    obtain ⟨sited, members, rfl⟩ := sited
    exact (ih offers sited).offer (allowed ⟨sited.2⟩) _
  | noObject _ ih => exact ih offers sited.1
  | followed ref _ here _ ih =>
    exact ih offers (.of_lookup? (covers _ sited.1 _ ref) here)
  | own _ _ _ first second =>
    refine second (first offers fun x mem => sited.part mem) fun m mem => sited.property distinct mem
  | failedParts _ _ ih => exact ih offers fun x mem => sited.part mem
  | part _ _ first second =>
    exact second (first offers (sited _ List.mem_cons_self))
      fun x mem => sited x (List.mem_cons_of_mem _ mem)
  | member _ _ first second =>
    exact second (first offers (sited _ List.mem_cons_self))
      fun x mem => sited x (List.mem_cons_of_mem _ mem)
  | failedPart _ ih | failedMember _ ih => exact ih offers (sited _ List.mem_cons_self)

end Api
end Scaffold
