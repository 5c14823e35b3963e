/-
The properties of an object that is put together from parts. Each name stands where the tour through the
parts comes to it first, as the tour comes to it last: `defineObject_merges`. That includes whether it is
required, so a part that only lists a name as required is not heard: `isRequired_iff_last_lists`.
-/
import Scaffold.Proofs.Api.Listing
import Scaffold.Proofs.Api.Parts

namespace Scaffold
namespace Api

open Resolve Json.Pointer

variable {document schema : Json} {name place : String} {n : Nat} {type : TypeExpr} {r r' : Resolver}

/-! ## The last visit -/

theorem names_typed {visits : List Visit} {types : List TypeExpr} (length : types.length = visits.length) :
    (List.zipWith Visit.typed visits types).map (·.name) = visits.map (·.name) := by
  rw [← List.map_uncurry_zip_eq_zipWith, List.map_map]
  conv_rhs => rw [← List.map_fst_zip (Nat.le_of_eq length.symm), List.map_map]
  rfl

/-- What is kept of a name is the property of its last visit. -/
theorem exists_last_visit {visits : List Visit} {types : List TypeExpr} {p : TypedProperty}
    (mem : p ∈ lasts (·.name) (List.zipWith Visit.typed visits types)) :
    ∃ before visit type after, visits.zip types = before ++ (visit, type) :: after ∧
      p = visit.typed type ∧ ∀ later ∈ after, later.1.name ≠ visit.name := by
  obtain ⟨before, after, split, none⟩ := mem_lasts_iff.mp mem
  rw [← List.map_uncurry_zip_eq_zipWith, List.map_eq_append_iff] at split
  obtain ⟨before', rest, split, -, rest_eq⟩ := split
  obtain ⟨⟨visit, type⟩, after', rfl, rfl, rfl⟩ := List.map_eq_cons_iff.mp rest_eq
  exact ⟨before', visit, type, after', split, rfl,
    fun later later_mem => none _ (List.mem_map_of_mem later_mem)⟩

/-- The properties of a defined object have different names, in the order in which the tour first comes
to them. Each is the property of the last visit to its name: it has the type that this visit gave, it is
required if the part that declares it lists it, and its comment and lengths are those of its schema. -/
theorem defineObject_merges
    (ok : outcome (defineObject document n name schema place) r = (.ok type, r')) :
    ∃ visited followed types properties r₁,
      Tour document [⟨schema, place⟩] [] visited followed ∧ followed.Nodup ∧
      Types document n name (visited.flatMap Part.visits) r types r₁ ∧
      types.length = (visited.flatMap Part.visits).length ∧
      type = .reference name ∧
      r' = r₁.offer place (.schema schema) (objectDefinition name schema properties) ∧
      (properties.map (·.name)).Nodup ∧
      properties.map (·.name) = firsts id ((visited.flatMap Part.visits).map (·.name)) ∧
      ∀ p ∈ properties, ∃ before visit type after,
        (visited.flatMap Part.visits).zip types = before ++ (visit, type) :: after ∧
          (∀ later ∈ after, later.1.name ≠ visit.name) ∧
          p.name = visit.name ∧ p.type = type ∧
          (p.isRequired = true ↔ visit.name ∈ requiredNames visit.part.schema) ∧
          p.comment = Schema.description? visit.schema ∧
          p.maxLength = Schema.count? visit.schema "maxLength" ∧
          p.minLength = Schema.count? visit.schema "minLength" := by
  obtain ⟨visited, followed, types, r₁, tour, gives, length, named, offered⟩ := merges_of_defineObject ok
  refine ⟨visited, followed, types, _, r₁, tour, tour.nodup List.nodup_nil, gives, length, named, offered,
    nodup_lasts _ _, ?_, fun p mem => ?_⟩
  · rw [map_lasts, names_typed length]
  · obtain ⟨before, visit, type, after, split, same, none⟩ := exists_last_visit mem
    exact ⟨before, visit, type, after, split, none, Visit.eq_typed_iff.mp same⟩

/-- A property without further marks. -/
def plainProperty (name type : String) (isRequired : Bool) : TypedProperty :=
  ⟨name, .primitive type, isRequired, none, none, none⟩

/-- A short text with a description. -/
def tag : Json :=
  .object [("type", .string "string"), ("description", .string "As on the collar"),
    ("minLength", Json.ofNat 1), ("maxLength", Json.ofNat 8)]

/-- A pet takes over from an animal twice, and from itself; it has another id, and must have a tag. -/
def pet : Json :=
  .object [("allOf", .array [schemaRef "Animal", schemaRef "Named", schemaRef "Pet"]),
    ("required", .array [.string "tag"]), ("properties", .object [("tag", tag), ("id", typeNamed "string")])]

def mergedPets : Json :=
  listing [("Animal", record [("id", typeNamed "integer"), ("name", typeNamed "string")]),
    ("Named", .object [("allOf", .array [schemaRef "Animal"])]), ("Pet", pet)]

theorem defineObject_merges_pet :
    ∃ r', outcome (defineObject mergedPets 9 "Pet" pet "#/components/schemas/Pet") .start =
        (.ok (.reference "Pet"), r') ∧
      (r'.table.get? "Pet").map (·.body) = some (.object [plainProperty "id" "string" false,
        plainProperty "name" "string" false,
        ⟨"tag", .primitive "string", true, some "As on the collar", some 8, some 1⟩]) ∧
      ∃ (visited : List Part) (followed : List String) (properties : List TypedProperty) (r₁ : Resolver),
        Tour mergedPets [⟨pet, "#/components/schemas/Pet"⟩] [] visited followed ∧ followed.Nodup ∧
        r' = r₁.offer "#/components/schemas/Pet" (.schema pet) (objectDefinition "Pet" pet properties) ∧
        properties.map (·.name) = firsts id ((visited.flatMap Part.visits).map (·.name)) := by
  have run : outcome (defineObject mergedPets 9 "Pet" pet "#/components/schemas/Pet") .start =
      (.ok (.reference "Pet"), _) := Prod.ext (by decide) rfl
  obtain ⟨visited, followed, types, properties, r₁, tour, once, -, -, -, offered, -, names, -⟩ :=
    defineObject_merges run
  exact ⟨_, run, by decide, visited, followed, properties, r₁, tour, once, offered, names⟩

/-! ## Required properties -/

namespace Part

/-- The part has a property of the name itself. -/
def Declares (part : Part) (name : String) : Prop :=
  name ∈ part.visits.map (·.name)

theorem part_of_mem_visits {part : Part} {visit : Visit} (mem : visit ∈ part.visits) :
    visit.part = part := by
  obtain ⟨member, -, rfl⟩ := List.mem_map.mp mem
  rfl

/-- What is visited last was declared by one of the parts, and what is visited after that is declared by
it or by a later part. -/
theorem exists_of_visits_eq {visited : List Part} {before after : List Visit} {visit : Visit}
    (split : visited.flatMap visits = before ++ visit :: after) :
    ∃ earlier later, visited = earlier ++ visit.part :: later ∧ visit ∈ visit.part.visits ∧
      ∀ v ∈ later.flatMap visits, v ∈ after := by
  induction visited generalizing before with
  | nil => simp at split
  | cons part rest ih =>
    rw [List.flatMap_cons, List.append_eq_append_iff] at split
    rcases split with ⟨before', rfl, split⟩ | ⟨inside, own, split⟩
    · obtain ⟨earlier, later, rfl, mem, after_mem⟩ := ih split
      exact ⟨part :: earlier, later, rfl, mem, after_mem⟩
    · cases inside with
      | nil =>
        obtain ⟨earlier, later, rfl, mem, after_mem⟩ := @ih [] split.symm
        exact ⟨part :: earlier, later, rfl, mem, after_mem⟩
      | cons v inside =>
        rw [List.cons_append, List.cons.injEq] at split
        obtain ⟨rfl, rfl⟩ := split
        have mem : visit ∈ part.visits := by simp [own]
        have same := part_of_mem_visits mem
        refine ⟨[], rest, by rw [same]; rfl, by rwa [same], fun v v_mem => List.mem_append_right _ v_mem⟩

end Part

/-- A property of a defined object is required if the last part that declares it lists it. It is therefore
required just if any part lists it when this part does, or when none does. -/
theorem isRequired_iff_last_lists
    (ok : outcome (defineObject document n name schema place) r = (.ok type, r')) :
    ∃ (visited : List Part) (followed : List String) (properties : List TypedProperty) (r₁ : Resolver),
      Tour document [⟨schema, place⟩] [] visited followed ∧
      r' = r₁.offer place (.schema schema) (objectDefinition name schema properties) ∧
      ∀ p ∈ properties, ∃ earlier last later, visited = earlier ++ last :: later ∧
        last.Declares p.name ∧ (∀ part ∈ later, ¬part.Declares p.name) ∧
        (p.isRequired = true ↔ p.name ∈ requiredNames last.schema) ∧
        ((p.isRequired = true ↔ ∃ part ∈ visited, p.name ∈ requiredNames part.schema) ↔
          p.name ∈ requiredNames last.schema ∨
            ∀ part ∈ visited, p.name ∉ requiredNames part.schema) := by
  obtain ⟨visited, followed, types, r₁, tour, -, length, -, offered⟩ := merges_of_defineObject ok
  refine ⟨visited, followed, _, r₁, tour, offered, fun p mem => ?_⟩
  obtain ⟨before, visit, type, after, split, rfl, none⟩ := exists_last_visit mem
  have visits : visited.flatMap Part.visits = before.map (·.1) ++ visit :: after.map (·.1) := by
    rw [← List.map_fst_zip (Nat.le_of_eq length.symm), split]
    simp
  obtain ⟨earlier, later, rfl, declared, rest⟩ := Part.exists_of_visits_eq visits
  have required : (visit.typed type).isRequired = true ↔
      visit.name ∈ requiredNames visit.part.schema := List.contains_iff_mem
  refine ⟨earlier, visit.part, later, rfl, List.mem_map_of_mem declared, ?_, required, ?_⟩
  · intro part part_mem declares
    obtain ⟨other, other_mem, same⟩ := List.mem_map.mp declares
    obtain ⟨⟨v, t⟩, later_mem, rfl⟩ := List.mem_map.mp (rest other (List.mem_flatMap.mpr ⟨part, part_mem, other_mem⟩))
    exact none (v, t) later_mem same
  · rw [required]
    have listed : visit.name ∈ requiredNames visit.part.schema →
        ∃ part ∈ earlier ++ visit.part :: later, visit.name ∈ requiredNames part.schema :=
      fun lists => ⟨visit.part, by simp, lists⟩
    constructor
    · intro heard
      by_cases lists : visit.name ∈ requiredNames visit.part.schema
      · exact .inl lists
      · exact .inr fun part mem lists' => lists (heard.mpr ⟨part, mem, lists'⟩)
    · rintro (lists | none)
      · exact ⟨listed, fun _ => lists⟩
      · exact ⟨listed, fun ⟨part, mem, lists⟩ => absurd lists (none part mem)⟩

/-- A part that demands what the base only declares. -/
def demand : Json :=
  .object [("required", .array [.string "name"])]

/-- A pet is an animal with a name. -/
def namedPet : Json :=
  .object [("allOf", .array [schemaRef "Animal", demand])]

def animal : Json :=
  .object [("type", .string "object"), ("required", .array [.string "id"]),
    ("properties", .object [("id", typeNamed "integer"), ("name", typeNamed "string")])]

def namedPets : Json :=
  listing [("Animal", animal), ("Pet", namedPet)]

theorem outcome_namedPet :
    (outcome (defineObject namedPets 9 "Pet" namedPet "#/components/schemas/Pet") .start).1 =
      .ok (.reference "Pet") := by
  decide

theorem isRequired_iff_last_lists_namedPet :
    ∃ r', outcome (defineObject namedPets 9 "Pet" namedPet "#/components/schemas/Pet") .start =
        (.ok (.reference "Pet"), r') ∧
      ∃ (visited : List Part) (followed : List String) (properties : List TypedProperty) (r₁ : Resolver),
        Tour namedPets [⟨namedPet, "#/components/schemas/Pet"⟩] [] visited followed ∧
        r' = r₁.offer "#/components/schemas/Pet" (.schema namedPet)
          (objectDefinition "Pet" namedPet properties) ∧
        ∀ p ∈ properties, ∃ last ∈ visited, (p.isRequired = true ↔ p.name ∈ requiredNames last.schema) := by
  have run := Prod.ext outcome_namedPet (Eq.refl _)
  obtain ⟨visited, followed, properties, r₁, tour, offered, last⟩ := isRequired_iff_last_lists run
  refine ⟨_, run, visited, followed, properties, r₁, tour, offered, fun p mem => ?_⟩
  obtain ⟨earlier, part, later, rfl, -, -, required, -⟩ := last p mem
  exact ⟨part, by simp, required⟩

/-- The name is demanded by a part that is visited, and the pet's name is not required. -/
theorem demand_unheard :
    ∃ (visited : List Part) (followed : List String) (r' : Resolver),
      Tour namedPets [⟨namedPet, "#/components/schemas/Pet"⟩] [] visited followed ∧
      (∃ part ∈ visited, "name" ∈ requiredNames part.schema) ∧
      outcome (defineObject namedPets 9 "Pet" namedPet "#/components/schemas/Pet") .start =
        (.ok (.reference "Pet"), r') ∧
      (r'.table.get? "Pet").map (·.body) =
        some (.object [plainProperty "id" "int" true, plainProperty "name" "string" false]) := by
  have base : Tour namedPets [⟨schemaRef "Animal", "#/components/schemas/Pet/allOf/0"⟩] []
      [⟨animal, "#/components/schemas/Animal"⟩] ["#/components/schemas/Animal"] :=
    .followed rfl List.not_mem_nil rfl (.alone rfl rfl)
  have demands : Tour namedPets [⟨demand, "#/components/schemas/Pet/allOf/1"⟩]
      ["#/components/schemas/Animal"] [⟨demand, "#/components/schemas/Pet/allOf/1"⟩]
      ["#/components/schemas/Animal"] := .alone rfl rfl
  exact ⟨_, _, _, .own rfl (base.append demands) .done,
    ⟨⟨demand, "#/components/schemas/Pet/allOf/1"⟩, by simp, by decide⟩,
    Prod.ext outcome_namedPet rfl, by decide⟩

end Api
end Scaffold
