/-
Everything a call of the resolver can do. What a step gives from a state, and in which state it ends, is
its outcome; a sequence of steps is taken apart by `outcome_bind`. `Run document n c r outcome r'` says that the call `c`,
nested at most `n` deep, takes the state `r` to `r'` with the given outcome; there is one rule for
each way a call can go. The main statement is `run_compute`: what the resolver computes is a run.
Facts about the resolver are then proved by induction on runs, a rule at a time.
-/
import Scaffold.Api.Document

namespace Scaffold
namespace Api

/-! ## Outcomes of steps -/

namespace Resolve

variable {α β : Type}

theorem eq_ok_of_map {o : Except Failure α} {g : α → β} {b : β} (h : o.map g = .ok b) :
    ∃ a, o = .ok a ∧ g a = b := by
  cases o with
  | error failure => cases h
  | ok a => exact ⟨a, rfl, Except.ok.inj h⟩

theorem eq_error_of_map {o : Except Failure α} {g : α → β} {failure : Failure}
    (h : o.map g = .error failure) : o = .error failure := by
  cases o with
  | error failure' => rw [Except.error.inj h]
  | ok a => cases h

/-- What a step gives from a state, and the state it ends in. -/
def outcome (x : Resolve α) (r : Resolver) : Except Failure α × Resolver :=
  x.run r

/-- Goes on with what an outcome gives; a failure is final. -/
def andThen (o : Except Failure α × Resolver) (f : α → Resolve β) : Except Failure β × Resolver :=
  match o with
  | (.ok a, r) => outcome (f a) r
  | (.error e, r) => (.error e, r)

@[simp] theorem andThen_ok (a : α) (r : Resolver) (f : α → Resolve β) :
    andThen (.ok a, r) f = outcome (f a) r := rfl

@[simp] theorem andThen_error (e : Failure) (r : Resolver) (f : α → Resolve β) :
    andThen (.error e, r) f = (.error e, r) := rfl

@[simp] theorem outcome_pure (a : α) (r : Resolver) :
    outcome (pure a) r = (.ok a, r) := rfl

@[simp] theorem outcome_failAt (place : String) (cause : Cause) (r : Resolver) :
    outcome (failAt place cause : Resolve α) r = (.error ⟨place, cause⟩, r) := rfl

@[simp] theorem outcome_throw (e : Failure) (r : Resolver) :
    outcome (throw e : Resolve α) r = (.error e, r) := rfl

@[simp] theorem outcome_bind (x : Resolve α) (f : α → Resolve β) (r : Resolver) :
    outcome (x >>= f) r = andThen (outcome x r) f := by
  show outcome (ExceptT.bind x f) r = andThen (x r) f
  rcases hx : x r with ⟨failure | a, r'⟩
  · simp [outcome, ExceptT.bind, ExceptT.mk, ExceptT.run, bind, StateT.bind, hx,
      ExceptT.bindCont, andThen]
    rfl
  · simp [outcome, ExceptT.bind, ExceptT.mk, ExceptT.run, bind, StateT.bind, hx,
      ExceptT.bindCont, andThen]

@[simp] theorem outcome_map (g : α → β) (x : Resolve α) (r : Resolver) :
    outcome (g <$> x) r = ((outcome x r).1.map g, (outcome x r).2) := by
  show outcome (ExceptT.map g x) r = ((x r).1.map g, (x r).2)
  rcases hx : x r with ⟨failure | a, r'⟩
  · simp [outcome, ExceptT.map, ExceptT.mk, ExceptT.run, bind, StateT.bind, hx, Except.map]
    rfl
  · simp [outcome, ExceptT.map, ExceptT.mk, ExceptT.run, bind, StateT.bind, hx, Except.map]
    rfl

@[simp] theorem outcome_get (r : Resolver) :
    outcome (get : Resolve Resolver) r = (.ok r, r) := rfl

@[simp] theorem outcome_modify (f : Resolver → Resolver) (r : Resolver) :
    outcome (modify f : Resolve PUnit) r = (.ok ⟨⟩, f r) := rfl

@[simp] theorem outcome_lift (x : Except Failure α) (r : Resolver) :
    outcome (liftM x : Resolve α) r = (x, r) := rfl

@[simp] theorem outcome_define (place : String) (source : Source) (d : TypeDefinition)
    (r : Resolver) : outcome (define place source d) r = (.ok ⟨⟩, r.offer place source d) := rfl

@[simp] theorem outcome_claimName (wanted place : String) (r : Resolver) :
    outcome (claimName wanted place) r = (.ok (r.nameFor wanted place), r.claim wanted place) := rfl

@[simp] theorem outcome_tryCatch (x : Resolve α) (h : Failure → Resolve α) (r : Resolver) :
    outcome (tryCatch x h) r =
      match outcome x r with
      | (.ok a, r') => (.ok a, r')
      | (.error e, r') => outcome (h e) r' := by
  show outcome (ExceptT.tryCatch x h) r =
    match x r with
    | (.ok a, r') => (.ok a, r')
    | (.error e, r') => outcome (h e) r'
  rcases hx : x r with ⟨failure | a, r'⟩
  · simp [outcome, ExceptT.tryCatch, ExceptT.mk, ExceptT.run, bind, StateT.bind, hx]
  · simp [outcome, ExceptT.tryCatch, ExceptT.mk, ExceptT.run, bind, StateT.bind, hx]
    rfl

/-- The end of making the definition of a reference. -/
def settle (r : Resolver) (reference : String) : Except Failure TypeExpr → Resolver
  | .ok type => (r.leave reference).remember reference type
  | .error _ => r.leave reference

/-- The definition of a reference is left again however the step ends. -/
@[simp] theorem outcome_making (reference : String) (step : Resolve TypeExpr) (r : Resolver) :
    outcome (making reference step) r =
      let o := outcome step (r.enter reference)
      (o.1, settle o.2 reference o.1) := by
  simp only [making, outcome_bind, outcome_modify, andThen_ok, outcome_tryCatch]
  rcases outcome step (r.enter reference) with ⟨failure | type, r'⟩ <;> rfl

end Resolve

/-! ## Calls -/

/-- A call of one of the functions that resolve types. -/
inductive Call where
  | reference (reference place : String)
  | schema (schema : Json) (context place : String)
  | enum (name : String) (schema : Json) (place : String)
  | object (name : String) (schema : Json) (place : String)
  | gather (owner : String) (schema : Json) (place : String) (gathered : Resolve.Gathered)
  /-- The parts of a schema, each with its index. -/
  | parts (owner : String) (parts : List (Json × Nat)) (place : String)
      (gathered : Resolve.Gathered)
  /-- The properties that a schema declares itself. -/
  | members (owner : String) (required : List String) (members : List (String × Json))
      (place : String) (gathered : Resolve.Gathered)

namespace Call

/-- What a call gives. -/
abbrev Answer : Call → Type
  | .reference .. => TypeExpr
  | .schema .. => TypeExpr
  | .enum .. => TypeExpr
  | .object .. => TypeExpr
  | .gather .. => Resolve.Gathered
  | .parts .. => Resolve.Gathered
  | .members .. => Resolve.Gathered

open Resolve Json.Pointer in
/-- The computation that a call stands for. -/
def compute (document : Json) (n : Nat) : (c : Call) → Resolve c.Answer
  | .reference target place => resolveRef document n target place
  | .schema value context place => schemaType document n value context place
  | .enum name value place => defineEnum name value place
  | .object name value place => defineObject document n name value place
  | .gather owner value place g => Resolve.gather document n owner value place g
  | .parts owner list place g =>
    list.foldlM (fun g (part, i) =>
      Resolve.gather document n owner part (child place (toString i)) g) g
  | .members owner required list place g =>
    list.foldlM (fun g (name, value) => do
      let type ← schemaType document n value (owner ++ Text.pascalCase name) (child place name)
      let p := typedProperty required name value type
      return { g with properties := putProperty p g.properties }) g

/-- Where a call is made. -/
def place : Call → String
  | .reference _ place => place
  | .schema _ _ place => place
  | .enum _ _ place => place
  | .object _ _ place => place
  | .gather _ _ place _ => place
  | .parts _ _ place _ => place
  | .members _ _ _ place _ => place

/-- A call that counts towards the nesting. -/
def Deep : Call → Prop
  | .enum .. => False
  | .parts .. => False
  | .members .. => False
  | _ => True

end Call

open Resolve Json.Pointer in
/-- The runs of calls, with a bound on their nesting. -/
inductive Run (document : Json) :
    Nat → (c : Call) → Resolver → Except Failure c.Answer → Resolver → Prop where
  | endless {c : Call} {r : Resolver} (deep : c.Deep) :
      Run document 0 c r (.error ⟨c.place, .endless⟩) r
  | known {n : Nat} {reference place : String} {type : TypeExpr} {r : Resolver}
      (known : r.resolved.get? reference = some type) :
      Run document (n + 1) (.reference reference place) r (.ok type) r
  | lost {n : Nat} {reference place : String} {r : Resolver}
      (new : r.resolved.get? reference = none) (lost : lookup? document reference = none) :
      Run document (n + 1) (.reference reference place) r
        (.error ⟨place, .unresolvableRef reference⟩) r
  | closed {n : Nat} {reference place last : String} {target : Json} {r : Resolver}
      (new : r.resolved.get? reference = none) (here : lookup? document reference = some target)
      (met : reference ∈ r.inProgress)
      (close : cycleEnd document reference place (document.size + 2) [] reference = .ok last) :
      Run document (n + 1) (.reference reference place) r
        (.ok (.reference (r.nameFor (lastSegment last) last))) (r.claim (lastSegment last) last)
  | unclosed {n : Nat} {reference place : String} {target : Json} {failure : Failure} {r : Resolver}
      (new : r.resolved.get? reference = none) (here : lookup? document reference = some target)
      (met : reference ∈ r.inProgress)
      (close : cycleEnd document reference place (document.size + 2) [] reference =
        .error failure) :
      Run document (n + 1) (.reference reference place) r (.error failure) r
  | madeEnum {n : Nat} {reference place : String} {target : Json} {r r' : Resolver}
      {outcome : Except Failure TypeExpr}
      (new : r.resolved.get? reference = none) (here : lookup? document reference = some target)
      (free : reference ∉ r.inProgress) (kind : Schema.kind target = .enum)
      (made : Run document n
        (.enum (r.nameFor (lastSegment reference) reference) target reference)
        ((r.claim (lastSegment reference) reference).enter reference) outcome r') :
      Run document (n + 1) (.reference reference place) r outcome (settle r' reference outcome)
  | madeObject {n : Nat} {reference place : String} {target : Json} {r r' : Resolver}
      {outcome : Except Failure TypeExpr}
      (new : r.resolved.get? reference = none) (here : lookup? document reference = some target)
      (free : reference ∉ r.inProgress) (kind : Schema.kind target = .object)
      (made : Run document n
        (.object (r.nameFor (lastSegment reference) reference) target reference)
        ((r.claim (lastSegment reference) reference).enter reference) outcome r') :
      Run document (n + 1) (.reference reference place) r outcome (settle r' reference outcome)
  | madeOther {n : Nat} {reference place : String} {target : Json} {r r' : Resolver}
      {outcome : Except Failure TypeExpr}
      (new : r.resolved.get? reference = none) (here : lookup? document reference = some target)
      (free : reference ∉ r.inProgress) (kind : Schema.kind target = .other)
      (made : Run document n
        (.schema target (r.nameFor (lastSegment reference) reference) reference)
        ((r.claim (lastSegment reference) reference).enter reference) outcome r') :
      Run document (n + 1) (.reference reference place) r outcome (settle r' reference outcome)
  | asked {n : Nat} {schema : Json} {context place reference : String} {wrap : Schema.Wrap}
      {r r' : Resolver} {outcome : Except Failure TypeExpr}
      (form : Schema.form schema = .reference reference wrap)
      (asked : Run document n (.reference reference place) r outcome r') :
      Run document (n + 1) (.schema schema context place) r (outcome.map wrap.apply) r'
  | inner {n : Nat} {schema inner : Json} {context place suffix segment : String}
      {wrap : Schema.Wrap} {r r' : Resolver} {outcome : Except Failure TypeExpr}
      (form : Schema.form schema = .inner inner suffix segment wrap)
      (run : Run document n (.schema inner (context ++ suffix) (child place segment)) r
        outcome r') :
      Run document (n + 1) (.schema schema context place) r (outcome.map wrap.apply) r'
  | inlineObject {n : Nat} {schema : Json} {context place : String} {nullable : Bool}
      {r r' : Resolver} {outcome : Except Failure TypeExpr}
      (form : Schema.form schema = .object nullable)
      (run : Run document n (.object (r.nameFor context place) schema place)
        (r.claim context place) outcome r') :
      Run document (n + 1) (.schema schema context place) r
        (outcome.map (TypeExpr.withNullable nullable)) r'
  | inlineEnum {n : Nat} {schema : Json} {context place : String} {nullable : Bool}
      {r r' : Resolver} {outcome : Except Failure TypeExpr}
      (form : Schema.form schema = .enum nullable)
      (run : Run document n (.enum (r.nameFor context place) schema place)
        (r.claim context place) outcome r') :
      Run document (n + 1) (.schema schema context place) r
        (outcome.map (TypeExpr.withNullable nullable)) r'
  | plain {n : Nat} {schema : Json} {context place : String} {type : TypeExpr} {r : Resolver}
      (form : Schema.form schema = .plain type) :
      Run document (n + 1) (.schema schema context place) r (.ok type) r
  | enum {n : Nat} {name place : String} {schema : Json} {values : List Json} {r : Resolver}
      (values_eq : schema.itemsAt? "enum" = some values) :
      Run document n (.enum name schema place) r (.ok (.enumeration name))
        (r.offer place (.schema schema) (Schema.enumDefinition name schema values))
  | noEnum {n : Nat} {name place : String} {schema : Json} {r : Resolver}
      (none : schema.itemsAt? "enum" = none) :
      Run document n (.enum name schema place) r (.error ⟨place, .enumWithoutValues⟩) r
  | object {n : Nat} {name place : String} {schema : Json} {gathered : Gathered}
      {r r' : Resolver}
      (run : Run document n (.gather name schema place ⟨[], []⟩) r (.ok gathered) r') :
      Run document (n + 1) (.object name schema place) r (.ok (.reference name))
        (r'.offer place (.schema schema) (objectDefinition name schema gathered.properties))
  | noObject {n : Nat} {name place : String} {schema : Json} {failure : Failure}
      {r r' : Resolver}
      (run : Run document n (.gather name schema place ⟨[], []⟩) r (.error failure) r') :
      Run document (n + 1) (.object name schema place) r (.error failure) r'
  | seen {n : Nat} {owner place reference : String} {schema : Json} {gathered : Gathered}
      {r : Resolver}
      (ref : Schema.ref? schema = some reference) (old : reference ∈ gathered.seen) :
      Run document (n + 1) (.gather owner schema place gathered) r (.ok gathered) r
  | lostPart {n : Nat} {owner place reference : String} {schema : Json} {gathered : Gathered}
      {r : Resolver}
      (ref : Schema.ref? schema = some reference) (new : reference ∉ gathered.seen)
      (lost : lookup? document reference = none) :
      Run document (n + 1) (.gather owner schema place gathered) r
        (.error ⟨place, .unresolvableRef reference⟩) r
  | followed {n : Nat} {owner place reference : String} {schema target : Json}
      {gathered : Gathered} {r r' : Resolver} {outcome : Except Failure Gathered}
      (ref : Schema.ref? schema = some reference) (new : reference ∉ gathered.seen)
      (here : lookup? document reference = some target)
      (run : Run document n
        (.gather owner target reference { gathered with seen := reference :: gathered.seen })
        r outcome r') :
      Run document (n + 1) (.gather owner schema place gathered) r outcome r'
  | own {n : Nat} {owner place : String} {schema : Json} {gathered gathered' : Gathered}
      {r r' r'' : Resolver} {outcome : Except Failure Gathered}
      (ref : Schema.ref? schema = none)
      (parts : Run document n
        (.parts owner (schema.itemsAt "allOf").zipIdx (child place "allOf") gathered)
        r (.ok gathered') r')
      (members : Run document n
        (.members owner (requiredNames schema) (schema.membersAt "properties")
          (child place "properties") gathered')
        r' outcome r'') :
      Run document (n + 1) (.gather owner schema place gathered) r outcome r''
  | failedParts {n : Nat} {owner place : String} {schema : Json} {gathered : Gathered}
      {r r' : Resolver} {failure : Failure}
      (ref : Schema.ref? schema = none)
      (parts : Run document n
        (.parts owner (schema.itemsAt "allOf").zipIdx (child place "allOf") gathered)
        r (.error failure) r') :
      Run document (n + 1) (.gather owner schema place gathered) r (.error failure) r'
  | noParts {n : Nat} {owner place : String} {gathered : Gathered} {r : Resolver} :
      Run document n (.parts owner [] place gathered) r (.ok gathered) r
  | part {n i : Nat} {owner place : String} {part : Json} {rest : List (Json × Nat)}
      {gathered gathered' : Gathered} {r r' r'' : Resolver} {outcome : Except Failure Gathered}
      (first : Run document n (.gather owner part (child place (toString i)) gathered)
        r (.ok gathered') r')
      (rest_run : Run document n (.parts owner rest place gathered') r' outcome r'') :
      Run document n (.parts owner ((part, i) :: rest) place gathered) r outcome r''
  | failedPart {n i : Nat} {owner place : String} {part : Json} {rest : List (Json × Nat)}
      {gathered : Gathered} {r r' : Resolver} {failure : Failure}
      (first : Run document n (.gather owner part (child place (toString i)) gathered)
        r (.error failure) r') :
      Run document n (.parts owner ((part, i) :: rest) place gathered) r (.error failure) r'
  | noMembers {n : Nat} {owner place : String} {required : List String} {gathered : Gathered}
      {r : Resolver} :
      Run document n (.members owner required [] place gathered) r (.ok gathered) r
  | member {n : Nat} {owner place name : String} {required : List String} {value : Json}
      {rest : List (String × Json)} {gathered : Gathered} {type : TypeExpr}
      {r r' r'' : Resolver} {outcome : Except Failure Gathered}
      (first : Run document n
        (.schema value (owner ++ Text.pascalCase name) (child place name)) r (.ok type) r')
      (rest_run : Run document n
        (.members owner required rest place { gathered with
          properties :=
            putProperty (typedProperty required name value type) gathered.properties })
        r' outcome r'') :
      Run document n (.members owner required ((name, value) :: rest) place gathered) r
        outcome r''
  | failedMember {n : Nat} {owner place name : String} {required : List String} {value : Json}
      {rest : List (String × Json)} {gathered : Gathered} {r r' : Resolver} {failure : Failure}
      (first : Run document n
        (.schema value (owner ++ Text.pascalCase name) (child place name)) r
        (.error failure) r') :
      Run document n (.members owner required ((name, value) :: rest) place gathered) r
        (.error failure) r'

namespace Run

open Resolve Json.Pointer

/-- What a call computes is a run of it. -/
def Computed (document : Json) (n : Nat) (c : Call) : Prop :=
  ∀ r, Run document n c r (outcome (c.compute document n) r).1 (outcome (c.compute document n) r).2

variable {document : Json} {n : Nat}

theorem parts_compute
    (gathers : ∀ owner schema place g, Computed document n (.gather owner schema place g))
    (owner : String) (parts : List (Json × Nat)) (place : String) (g : Gathered) :
    Computed document n (.parts owner parts place g) := by
  induction parts generalizing g with
  | nil => exact fun r => .noParts
  | cons head rest ih =>
    intro r
    obtain ⟨part, i⟩ := head
    have first := gathers owner part (child place (toString i)) g r
    simp only [Call.compute, List.foldlM_cons, outcome_bind] at first ⊢
    rcases h : outcome (gather document n owner part (child place (toString i)) g) r
      with ⟨failure | g', r'⟩
    · rw [h] at first
      exact .failedPart first
    · rw [h] at first
      exact .part first (ih g' r')

theorem members_compute
    (schemas : ∀ schema context place, Computed document n (.schema schema context place))
    (owner : String) (required : List String) (members : List (String × Json)) (place : String)
    (g : Gathered) : Computed document n (.members owner required members place g) := by
  induction members generalizing g with
  | nil => exact fun r => .noMembers
  | cons head rest ih =>
    intro r
    obtain ⟨name, value⟩ := head
    have first := schemas value (owner ++ Text.pascalCase name) (child place name) r
    simp only [Call.compute, List.foldlM_cons, outcome_bind] at first ⊢
    rcases h : outcome
        (schemaType document n value (owner ++ Text.pascalCase name) (child place name)) r
      with ⟨failure | type, r'⟩
    · rw [h] at first
      exact .failedMember first
    · rw [h] at first
      exact .member first (ih _ r')

theorem enum_compute (name : String) (schema : Json) (place : String) :
    Computed document n (.enum name schema place) := by
  intro r
  simp only [Call.compute, defineEnum]
  cases values : schema.itemsAt? "enum" with
  | none => exact .noEnum values
  | some items => exact .enum values

theorem reference_compute (ih : ∀ c, Computed document n c) (reference place : String) :
    Computed document (n + 1) (.reference reference place) := by
  intro r
  simp only [Call.compute, resolveRef, outcome_bind, outcome_get, andThen_ok]
  cases new : r.resolved.get? reference with
  | some type => exact .known new
  | none =>
    simp only [outcome_bind, outcome_lift, follow]
    cases here : lookup? document reference with
    | none => exact .lost new here
    | some target =>
      simp only [andThen_ok, outcome_bind, outcome_get, List.contains_iff_mem]
      by_cases met : reference ∈ r.inProgress
      · simp only [if_pos met, closeCycle, outcome_bind, outcome_lift]
        cases close : cycleEnd document reference place (document.size + 2) [] reference with
        | error failure => exact .unclosed new here met close
        | ok last => exact .closed new here met close
      · simp only [if_neg met, outcome_bind, outcome_claimName, andThen_ok, outcome_making]
        cases kind : Schema.kind target with
        | enum => exact .madeEnum new here met kind (enum_compute _ target reference _)
        | object => exact .madeObject new here met kind (ih (.object _ target reference) _)
        | other => exact .madeOther new here met kind (ih (.schema target _ reference) _)

theorem schema_compute (ih : ∀ c, Computed document n c) (schema : Json)
    (context place : String) : Computed document (n + 1) (.schema schema context place) := by
  intro r
  simp only [Call.compute, schemaType]
  cases form : Schema.form schema with
  | reference reference wrap =>
    simp only [outcome_map]
    exact .asked form (ih (.reference reference place) r)
  | inner inner suffix segment wrap =>
    simp only [outcome_map]
    exact .inner form (ih (.schema inner (context ++ suffix) (child place segment)) r)
  | object nullable =>
    simp only [outcome_bind, outcome_claimName, andThen_ok, outcome_map]
    exact .inlineObject form (ih (.object _ schema place) _)
  | enum nullable =>
    simp only [outcome_bind, outcome_claimName, andThen_ok, outcome_map]
    exact .inlineEnum form (enum_compute _ schema place _)
  | plain type => exact .plain form

theorem object_compute (ih : ∀ c, Computed document n c) (name : String) (schema : Json)
    (place : String) : Computed document (n + 1) (.object name schema place) := by
  intro r
  have run := ih (.gather name schema place ⟨[], []⟩) r
  simp only [Call.compute, defineObject, outcome_bind] at run ⊢
  rcases h : outcome (gather document n name schema place ⟨[], []⟩) r with ⟨failure | g, r'⟩
  · rw [h] at run
    exact .noObject run
  · rw [h] at run
    exact .object run

theorem gather_compute (ih : ∀ c, Computed document n c) (owner : String) (schema : Json)
    (place : String) (g : Gathered) :
    Computed document (n + 1) (.gather owner schema place g) := by
  intro r
  simp only [Call.compute, gather]
  cases ref : Schema.ref? schema with
  | some reference =>
    simp only [List.contains_iff_mem]
    by_cases old : reference ∈ g.seen
    · simp only [if_pos old]
      exact .seen ref old
    · simp only [if_neg old, outcome_bind, outcome_lift, follow]
      cases here : lookup? document reference with
      | none => exact .lostPart ref old here
      | some target => exact .followed ref old here (ih (.gather owner target reference _) r)
  | none =>
    let parts : Call := .parts owner (schema.itemsAt "allOf").zipIdx (child place "allOf") g
    have run : Run document n parts r _ _ := ih parts r
    simp only [outcome_bind]
    rcases h : outcome (parts.compute document n) r with ⟨failure | g', r'⟩
    · rw [h] at run
      simp only [parts, Call.compute] at h
      rw [h]
      exact .failedParts ref run
    · rw [h] at run
      simp only [parts, Call.compute] at h
      rw [h]
      exact .own ref run (ih (.members owner (requiredNames schema)
        (schema.membersAt "properties") (child place "properties") g') r')

/-- The runs of lists of calls come from those of their members. -/
theorem compute_of_single
    (references : ∀ reference place, Computed document n (.reference reference place))
    (schemas : ∀ schema context place, Computed document n (.schema schema context place))
    (objects : ∀ name schema place, Computed document n (.object name schema place))
    (gathers : ∀ owner schema place g, Computed document n (.gather owner schema place g))
    (c : Call) : Computed document n c := by
  cases c with
  | reference reference place => exact references reference place
  | schema schema context place => exact schemas schema context place
  | enum name schema place => exact enum_compute name schema place
  | object name schema place => exact objects name schema place
  | gather owner schema place g => exact gathers owner schema place g
  | parts owner parts place g => exact parts_compute gathers owner parts place g
  | members owner required members place g =>
    exact members_compute schemas owner required members place g

variable (document) in
/-- What the resolver computes is a run. -/
theorem run_compute (n : Nat) (c : Call) : Computed document n c := by
  induction n generalizing c with
  | zero =>
    exact compute_of_single (fun _ _ _ => .endless trivial) (fun _ _ _ _ => .endless trivial)
      (fun _ _ _ _ => .endless trivial) (fun _ _ _ _ _ => .endless trivial) c
  | succ n ih =>
    exact compute_of_single (reference_compute ih) (schema_compute ih) (object_compute ih)
      (gather_compute ih) c

end Run

end Api
end Scaffold
