/-
Going through the parts of an object for its properties. A reference stands for what it leads to and is
followed once; any other schema comes after its own parts, in order: `Tour`. Every property met on the
way is given a type, and takes the place of an earlier one of its name: `merges_of_defineObject`.
-/
import Scaffold.Proofs.Api.Nesting
import Scaffold.Proofs.Keyed

namespace Scaffold
namespace Api

open Resolve Json.Pointer

variable {document : Json}

/-- A schema that belongs to an object, and where it stands. -/
structure Part where
  schema : Json
  place : String

/-- A property that a part declares itself. -/
structure Visit where
  part : Part
  name : String
  schema : Json

namespace Part

def below (place : String) (parts : List (Json × Nat)) : List Part :=
  parts.map fun (schema, i) => ⟨schema, child place (toString i)⟩

def parts (part : Part) : List Part :=
  below (child part.place "allOf") (part.schema.itemsAt "allOf").zipIdx

/-- The members are declared by the part. -/
def declaring (part : Part) (members : List (String × Json)) : List Visit :=
  members.map fun (name, schema) => ⟨part, name, schema⟩

def visits (part : Part) : List Visit :=
  part.declaring (part.schema.membersAt "properties")

end Part

namespace Visit

def place (visit : Visit) : String :=
  child (child visit.part.place "properties") visit.name

/-- The step that gives the type of the property. -/
def typeOf (document : Json) (n : Nat) (owner : String) (visit : Visit) : Resolve TypeExpr :=
  schemaType document n visit.schema (owner ++ Text.pascalCase visit.name) visit.place

/-- The property with its type. Only its own part is asked whether it is required. -/
def typed (visit : Visit) (type : TypeExpr) : TypedProperty :=
  typedProperty (requiredNames visit.part.schema) visit.name visit.schema type

theorem eq_typed_iff {visit : Visit} {type : TypeExpr} {p : TypedProperty} :
    p = visit.typed type ↔
      p.name = visit.name ∧ p.type = type ∧
        (p.isRequired = true ↔ visit.name ∈ requiredNames visit.part.schema) ∧
        p.comment = Schema.description? visit.schema ∧
        p.maxLength = Schema.count? visit.schema "maxLength" ∧
        p.minLength = Schema.count? visit.schema "minLength" := by
  constructor
  · rintro rfl
    exact ⟨rfl, rfl, List.contains_iff_mem, rfl, rfl, rfl⟩
  · obtain ⟨name, own, isRequired, comment, maxLength, minLength⟩ := p
    rintro ⟨rfl, rfl, required, rfl, rfl, rfl⟩
    obtain rfl : isRequired = (requiredNames visit.part.schema).contains visit.name :=
      Bool.eq_iff_iff.mpr (required.trans List.contains_iff_mem.symm)
    rfl

end Visit

/-! ## Tours -/

/-- `Tour document queue seen visited seen'`: going through the schemas of `queue`, when the references
`seen` were followed before, visits these parts, and the references `seen'` were followed then. -/
inductive Tour (document : Json) : List Part → List String → List Part → List String → Prop where
  | done {seen : List String} : Tour document [] seen [] seen
  | again {part : Part} {queue visited : List Part} {seen seen' : List String} {reference : String}
      (ref : Schema.ref? part.schema = some reference) (old : reference ∈ seen)
      (rest : Tour document queue seen visited seen') : Tour document (part :: queue) seen visited seen'
  | followed {part : Part} {queue visited : List Part} {seen seen' : List String} {reference : String}
      {target : Json} (ref : Schema.ref? part.schema = some reference) (new : reference ∉ seen)
      (here : lookup? document reference = some target)
      (rest : Tour document (⟨target, reference⟩ :: queue) (reference :: seen) visited seen') :
      Tour document (part :: queue) seen visited seen'
  | own {part : Part} {queue before after : List Part} {seen seen' seen'' : List String}
      (ref : Schema.ref? part.schema = none) (parts : Tour document part.parts seen before seen')
      (rest : Tour document queue seen' after seen'') :
      Tour document (part :: queue) seen (before ++ part :: after) seen''

namespace Tour

variable {queue queue' visited visited' : List Part} {seen seen' seen'' : List String}

theorem append (first : Tour document queue seen visited seen')
    (second : Tour document queue' seen' visited' seen'') :
    Tour document (queue ++ queue') seen (visited ++ visited') seen'' := by
  induction first with
  | done => exact second
  | again ref old _ ih => exact .again ref old (ih second)
  | followed ref new here _ ih => exact .followed ref new here (ih second)
  | own ref parts _ _ ih =>
    rw [List.append_assoc]
    exact .own ref parts (ih second)

/-- A schema without parts is visited alone. -/
theorem alone {part : Part} (ref : Schema.ref? part.schema = none) (none : part.parts = []) :
    Tour document [part] seen [part] seen := by
  have parts : Tour document part.parts seen [] seen := by
    rw [none]
    exact .done
  exact .own ref parts .done

/-- No reference is followed twice. -/
theorem nodup (tour : Tour document queue seen visited seen') (fresh : seen.Nodup) : seen'.Nodup := by
  induction tour with
  | done => exact fresh
  | again _ _ _ ih => exact ih fresh
  | followed _ new _ _ ih => exact ih (List.nodup_cons.mpr ⟨new, fresh⟩)
  | own _ _ _ parts rest => exact rest (parts fresh)

/-- The document alone decides where a tour leads. -/
theorem unique (tour : Tour document queue seen visited seen')
    (tour' : Tour document queue seen visited' seen'') : visited' = visited ∧ seen'' = seen' := by
  induction tour generalizing visited' seen'' with
  | done =>
    cases tour'
    exact ⟨rfl, rfl⟩
  | again ref old _ ih =>
    cases tour' with
    | again _ _ rest => exact ih rest
    | followed ref' new =>
      rw [ref] at ref'
      exact absurd (Option.some.inj ref' ▸ old) new
    | own ref' =>
      rw [ref] at ref'
      cases ref'
  | followed ref new here _ ih =>
    cases tour' with
    | again ref' old =>
      rw [ref] at ref'
      exact absurd old (Option.some.inj ref' ▸ new)
    | followed ref' _ here' rest =>
      rw [ref] at ref'
      cases ref'
      rw [here] at here'
      cases here'
      exact ih rest
    | own ref' =>
      rw [ref] at ref'
      cases ref'
  | own ref _ _ parts_ih rest_ih =>
    cases tour' with
    | again ref' | followed ref' =>
      rw [ref] at ref'
      cases ref'
    | own _ parts rest =>
      obtain ⟨rfl, rfl⟩ := parts_ih parts
      obtain ⟨rfl, rfl⟩ := rest_ih rest
      exact ⟨rfl, rfl⟩

end Tour

/-! ## Types of what is visited -/

/-- Going through properties, from `r` to `r'`, gives them these types. -/
def Types (document : Json) (n : Nat) (owner : String) (visits : List Visit) (r : Resolver)
    (types : List TypeExpr) (r' : Resolver) : Prop :=
  outcome (visits.mapM (Visit.typeOf document n owner)) r = (.ok types, r')

/-- Going through properties adds them, typed, to those that were gathered. -/
def Adds (document : Json) (n : Nat) (owner : String) (visits : List Visit)
    (properties : List TypedProperty) (r : Resolver) (properties' : List TypedProperty)
    (r' : Resolver) : Prop :=
  ∃ types, Types document n owner visits r types r' ∧ types.length = visits.length ∧
    properties' = (List.zipWith Visit.typed visits types).foldl (override (·.name)) properties

theorem putProperty_eq_override (p : TypedProperty) (ps : List TypedProperty) :
    putProperty p ps = override (·.name) ps p := by
  induction ps with
  | nil => rfl
  | cons q rest ih => rw [putProperty, override, ih]

namespace Adds

variable {n : Nat} {owner : String} {visits others : List Visit}
  {properties properties' properties'' : List TypedProperty} {r r' r'' : Resolver}

theorem nil : Adds document n owner [] properties r properties r :=
  ⟨[], rfl, rfl, rfl⟩

theorem cons {visit : Visit} {type : TypeExpr}
    (first : outcome (visit.typeOf document n owner) r = (.ok type, r'))
    (rest : Adds document n owner visits (putProperty (visit.typed type) properties) r' properties' r'') :
    Adds document n owner (visit :: visits) properties r properties' r'' := by
  obtain ⟨types, run, length, rfl⟩ := rest
  refine ⟨type :: types, ?_, congrArg (· + 1) length, ?_⟩
  · rw [Types, List.mapM_cons, outcome_bind, first, andThen_ok, outcome_bind, run]
    rfl
  · rw [putProperty_eq_override]
    rfl

theorem append (first : Adds document n owner visits properties r properties' r')
    (second : Adds document n owner others properties' r' properties'' r'') :
    Adds document n owner (visits ++ others) properties r properties'' r'' := by
  obtain ⟨types, run, length, rfl⟩ := first
  obtain ⟨types', run', length', rfl⟩ := second
  refine ⟨types ++ types', ?_, by simp [length, length'], ?_⟩
  · rw [Types, List.mapM_append, outcome_bind, run, andThen_ok, outcome_bind, run']
    rfl
  · rw [List.zipWith_append length.symm, List.foldl_append]

end Adds

/-! ## Runs -/

/-- What a run that gathers properties has done: it made a tour, and gave types on the way. -/
def Gone (document : Json) (n : Nat) :
    (c : Call) → Resolver → Except Failure c.Answer → Resolver → Prop
  | .gather owner schema place g, r, .ok g', r' =>
    ∃ visited, Tour document [⟨schema, place⟩] g.seen visited g'.seen ∧
      Adds document n owner (visited.flatMap Part.visits) g.properties r g'.properties r'
  | .parts owner parts place g, r, .ok g', r' =>
    ∃ visited, Tour document (Part.below place parts) g.seen visited g'.seen ∧
      Adds document n owner (visited.flatMap Part.visits) g.properties r g'.properties r'
  | .members owner required members place g, r, .ok g', r' =>
    ∀ part : Part, required = requiredNames part.schema → place = child part.place "properties" →
      g'.seen = g.seen ∧ Adds document n owner (part.declaring members) g.properties r g'.properties r'
  | _, _, _, _ => True

theorem gone_of_run {n m : Nat} {c : Call} {r r' : Resolver} {o : Except Failure c.Answer}
    (run : Run document m c r o r') (le : m ≤ n) : Gone document n c r o r' := by
  induction run with
  | @endless c => cases c <;> trivial
  | known | lost | closed | unclosed | madeEnum | madeObject | madeOther | asked | inner
  | inlineObject | inlineEnum | plain | enum | noEnum | object | noObject => trivial
  | seen ref old => exact ⟨[], .again ref old .done, .nil⟩
  | lostPart | failedParts | failedPart | failedMember => trivial
  | @followed _ _ _ _ _ _ _ _ _ outcome ref new here _ ih =>
    cases outcome with
    | error => trivial
    | ok g' =>
      obtain ⟨visited, tour, adds⟩ := ih (Nat.le_of_succ_le le)
      exact ⟨visited, .followed ref new here tour, adds⟩
  | @own _ _ place schema _ _ _ _ _ outcome ref _ _ first second =>
    cases outcome with
    | error => trivial
    | ok g' =>
      obtain ⟨visited, tour, adds⟩ := first (Nat.le_of_succ_le le)
      obtain ⟨same, own_adds⟩ := second (Nat.le_of_succ_le le) ⟨schema, place⟩ rfl rfl
      refine ⟨visited ++ [⟨schema, place⟩], ?_, ?_⟩
      · rw [same]
        exact .own ref tour .done
      · rw [List.flatMap_append, List.flatMap_singleton]
        exact adds.append own_adds
  | noParts => exact ⟨[], .done, .nil⟩
  | @part _ _ _ _ _ _ _ _ _ _ _ outcome _ _ first second =>
    cases outcome with
    | error => trivial
    | ok g' =>
      obtain ⟨visited, tour, adds⟩ := first le
      obtain ⟨others, rest_tour, rest_adds⟩ := second le
      refine ⟨visited ++ others, tour.append rest_tour, ?_⟩
      rw [List.flatMap_append]
      exact adds.append rest_adds
  | noMembers => exact fun _ _ _ => ⟨rfl, .nil⟩
  | @member _ _ _ name _ value _ _ _ _ _ _ outcome first_run _ _ second =>
    cases outcome with
    | error => trivial
    | ok g' =>
      rintro part rfl rfl
      obtain ⟨same, adds⟩ := second le part rfl rfl
      have gives : outcome (Visit.typeOf document n _ ⟨part, name, value⟩) _ = _ :=
        Run.compute_run (Run.deepen first_run (Run.complete_ok _) le)
      exact ⟨same, .cons gives adds⟩

/-- Defining an object makes a tour from its schema, gives each property on the way a type, and offers
the definition with the last property of each name, where the first one was met. -/
theorem merges_of_defineObject {n : Nat} {name place : String} {schema : Json} {type : TypeExpr}
    {r r' : Resolver} (ok : outcome (defineObject document n name schema place) r = (.ok type, r')) :
    ∃ visited followed types r₁, Tour document [⟨schema, place⟩] [] visited followed ∧
      Types document n name (visited.flatMap Part.visits) r types r₁ ∧
      types.length = (visited.flatMap Part.visits).length ∧ type = .reference name ∧
      r' = r₁.offer place (.schema schema) (objectDefinition name schema
        (lasts (·.name) (List.zipWith Visit.typed (visited.flatMap Part.visits) types))) := by
  have run : Run document n (.object name schema place) r (.ok type) r' := by
    have run := Run.run_compute document n (.object name schema place) r
    simp only [Call.compute] at run
    rwa [ok] at run
  cases run with
  | @object m _ _ _ gathered _ r₁ run =>
    obtain ⟨visited, tour, types, gives, length, same⟩ := gone_of_run run (Nat.le_succ m)
    refine ⟨visited, gathered.seen, types, r₁, tour, gives, length, rfl, ?_⟩
    rw [same, foldl_override_nil]

end Api
end Scaffold
