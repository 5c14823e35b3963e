/-
References that lead nowhere, and where a failure says that they are. A run makes the place of a schema on
its way there, from the place that the way starts from (`Trail`). The place is a pointer to the schema as long
as the way does not go through the only part or variant of a schema, which gets the place of the array
(`Trail.lookup?_iff`). A load that fails because of a reference names the place that was made for the schema
with this reference, unless the reference is one of a path, a parameter, a body or an answer: `load_lost`.
-/
import Scaffold.Proofs.Api.Listing
import Scaffold.Proofs.Api.Sites
import Scaffold.Proofs.Api.Termination

namespace Scaffold
namespace Api

open Resolver Resolve Json.Pointer

variable {document : Json}

/-! ## Ways and places -/

/-- Segments that lead to an inner schema. The others lead to an array with the inner schema in it. -/
def leadsToInner (segment : String) : Bool :=
  segment == "items" || segment == "additionalProperties"

/-- A way from a schema to one inside of it, with the place that is made on it. The way is exact if it leads
to no inner schema that alone stands for an array. -/
inductive Trail (start : String) (root : Json) : String → Json → Bool → Prop where
  | here : Trail start root start root true
  | inner {place segment : String} {v inner : Json} {exact : Bool} (before : Trail start root place v exact)
      (step : Schema.Inner v segment inner) :
      Trail start root (child place segment) inner (exact && leadsToInner segment)
  | part {place : String} {v : Json} {x : Json × Nat} {exact : Bool}
      (before : Trail start root place v exact) (mem : x ∈ (v.itemsAt "allOf").zipIdx) :
      Trail start root (child (child place "allOf") (toString x.2)) x.1 exact
  | property {place : String} {v : Json} {m : String × Json} {exact : Bool}
      (before : Trail start root place v exact) (mem : m ∈ v.membersAt "properties") :
      Trail start root (child (child place "properties") m.1) m.2 exact

/-- A place where a schema can be found, with its segments. -/
structure Found (document : Json) (place : String) (v : Json) : Prop where
  segments : ∃ segments, segmentsOf place = some segments
  here : lookup? document place = some v

/-- A place of an array, or of nothing. -/
structure Astray (document : Json) (place : String) : Prop where
  segments : ∃ segments, segmentsOf place = some segments
  array : ∀ v, lookup? document place = some v → ∃ items, v = .array items

theorem Found.of_lookup? {place : String} {v : Json} (here : lookup? document place = some v) :
    Found document place v := by
  refine ⟨?_, here⟩
  rw [lookup?_eq] at here
  obtain ⟨segments, found, -⟩ := Option.bind_eq_some_iff.mp here
  exact ⟨segments, found⟩

theorem Found.child {place key : String} {v w : Json} (h : Found document place v)
    (step : step? v key = some w) : Found document (child place key) w := by
  obtain ⟨⟨segments, found⟩, here⟩ := h
  refine ⟨⟨_, segmentsOf_child key found⟩, ?_⟩
  rw [lookup?_child found, here]
  exact step

theorem Found.get? {place key : String} {v w : Json} (h : Found document place v)
    (member : v.get? key = some w) : Found document (Json.Pointer.child place key) w := by
  obtain ⟨members, rfl, -⟩ := Json.mem_members_of_get? member
  exact h.child member

/-- No name leads on from an array. -/
theorem Astray.child {place key : String} (h : Astray document place) (name : index? key = none) :
    lookup? document (child place key) = none := by
  obtain ⟨⟨segments, found⟩, array⟩ := h
  rw [lookup?_child found]
  cases here : lookup? document place with
  | none => rfl
  | some v =>
    obtain ⟨items, rfl⟩ := array v here
    simp [step?, name]

theorem Astray.step {place key : String} (h : Astray document place) (name : index? key = none) :
    Astray document (Json.Pointer.child place key) := by
  obtain ⟨segments, found⟩ := h.segments
  refine ⟨⟨_, segmentsOf_child key found⟩, fun v here => ?_⟩
  rw [h.child name] at here
  cases here

/-- Behind such a step nothing is found, whatever comes next. -/
theorem Astray.grandchild {place outer : String} (h : Astray document place) (name : index? outer = none)
    (key : String) : Astray document (Json.Pointer.child (Json.Pointer.child place outer) key) := by
  obtain ⟨segments, found⟩ := (h.step name).segments
  refine ⟨⟨_, segmentsOf_child key found⟩, fun v here => ?_⟩
  rw [lookup?_child found, h.child name] at here
  cases here

theorem index?_of_inner {v inner : Json} {segment : String} (h : Schema.Inner v segment inner) :
    index? segment = none := by
  cases h with
  | part | items | value => rfl
  | variant key_mem => rcases List.mem_pair.mp key_mem with rfl | rfl <;> rfl

namespace Trail

variable {start place : String} {root v : Json} {exact : Bool}

/-- An exact way leads to the schema at its place, and any other one astray. The keys of an object have to be
distinct for a property to be the one that is found under its key. -/
theorem found_or_astray (distinct : DistinctKeys document) (here : lookup? document start = some root)
    (trail : Trail start root place v exact) :
    if exact = true then Found document place v else Astray document place := by
  induction trail with
  | here => exact .of_lookup? here
  | @inner place segment v inner exact before step ih =>
    cases exact with
    | false => exact Astray.step ih (index?_of_inner step)
    | true =>
      have found : Found document place v := ih
      cases step with
      | items member | value member => exact found.get? member
      | part single =>
        have array := found.get? (Json.get?_of_itemsAt? single)
        exact ⟨array.segments, fun w there => ⟨_, Option.some.inj (there.symm.trans array.here)⟩⟩
      | variant key_mem variants_eq =>
        have array := found.get? (Json.get?_of_itemsAt? variants_eq)
        have other : leadsToInner segment = false := by
          rcases List.mem_pair.mp key_mem with rfl | rfl <;> rfl
        rw [other]
        exact ⟨array.segments, fun w there => ⟨_, Option.some.inj (there.symm.trans array.here)⟩⟩
  | @part place v x exact before mem ih =>
    cases exact with
    | false => exact Astray.grandchild ih rfl _
    | true =>
      have found : Found document place v := ih
      obtain ⟨items, items_eq, -⟩ := Json.itemsAt?_of_mem (List.fst_mem_of_mem_zipIdx mem)
      have item : items[x.2]? = some x.1 := by
        unfold Json.itemsAt at mem
        rw [items_eq] at mem
        exact List.mem_zipIdx_iff_getElem?.mp mem
      refine (found.get? (Json.get?_of_itemsAt? items_eq)).child ?_
      rw [step?, index?_toString, Option.bind_some, item]
  | @property place v m exact before mem ih =>
    cases exact with
    | false => exact Astray.grandchild ih rfl _
    | true =>
      have found : Found document place v := ih
      obtain ⟨members, members_eq, mem⟩ := Json.membersAt?_of_mem mem
      have object := Json.get?_of_membersAt? members_eq
      have inside : Json.object members ∈ document.values :=
        mem_values_of_lookup? (found.get? object).here
      exact (found.get? object).child (Json.lookup_of_mem (distinct _ inside) mem)

/-- A schema with a reference is found at its place exactly if the way to it is exact. -/
theorem lookup?_iff (distinct : DistinctKeys document) (here : lookup? document start = some root)
    (trail : Trail start root place v exact) {reference : String} (ref : Schema.ref? v = some reference) :
    lookup? document place = some v ↔ exact = true := by
  have ends := trail.found_or_astray distinct here
  cases exact with
  | true => exact iff_of_true ends.here rfl
  | false =>
    refine iff_of_false (fun found => ?_) Bool.false_ne_true
    obtain ⟨items, rfl⟩ := Astray.array ends v found
    cases ref

end Trail

/-! ## What a run comes to -/

/-- Where the ways of a load start: with what a reference leads to, and with the schemas of operations, for
which places are made in ways of their own. -/
inductive Start (document : Json) : String → Json → Prop where
  | reference {reference : String} {root : Json} (here : lookup? document reference = some root) :
      Start document reference root
  | operation {place : String} {schema : Json} (asked : OperationSchema document place schema) :
      Start document place schema

/-- A schema that is come to in a load, with the place that is made for it. -/
def Visited (document : Json) (place : String) (v : Json) : Prop :=
  ∃ start root exact, Start document start root ∧ Trail start root place v exact

theorem Visited.of_lookup? {reference : String} {v : Json} (here : lookup? document reference = some v) :
    Visited document reference v :=
  ⟨reference, v, true, .reference here, .here⟩

theorem Visited.inner {place suffix segment : String} {v inner : Json} {wrap : Schema.Wrap}
    (h : Visited document place v) (form : Schema.form v = .inner inner suffix segment wrap) :
    Visited document (child place segment) inner := by
  obtain ⟨start, root, exact, from_start, trail⟩ := h
  exact ⟨start, root, _, from_start, trail.inner (Schema.inner_of_form form)⟩

theorem Visited.part {place : String} {v : Json} {x : Json × Nat} (h : Visited document place v)
    (mem : x ∈ (v.itemsAt "allOf").zipIdx) :
    Visited document (child (child place "allOf") (toString x.2)) x.1 := by
  obtain ⟨start, root, exact, from_start, trail⟩ := h
  exact ⟨start, root, exact, from_start, trail.part mem⟩

theorem Visited.property {place : String} {v : Json} {m : String × Json} (h : Visited document place v)
    (mem : m ∈ v.membersAt "properties") :
    Visited document (child (child place "properties") m.1) m.2 := by
  obtain ⟨start, root, exact, from_start, trail⟩ := h
  exact ⟨start, root, exact, from_start, trail.property mem⟩

/-- The reference leads nowhere, and the place is that of a schema with it. -/
structure LostAt (document : Json) (place reference : String) : Prop where
  nowhere : lookup? document reference = none
  schema : ∃ v, Visited document place v ∧ Schema.ref? v = some reference

/-- What a call is about was come to at its place; a reference was come to in a schema, or leads somewhere. -/
def Call.Visits (document : Json) : Call → Prop
  | .reference asked place => (∃ v, Visited document place v ∧ Schema.ref? v = some asked) ∨
    ∃ target, lookup? document asked = some target
  | .schema v _ place => Visited document place v
  | .enum .. => True
  | .object _ v place => Visited document place v
  | .gather _ v place _ => Visited document place v
  | .parts _ list place _ => ∀ x ∈ list, Visited document (child place (toString x.2)) x.1
  | .members _ _ list place _ => ∀ m ∈ list, Visited document (child place m.1) m.2

/-! ## Aliases in progress -/

/-- The call asks for the type of the reference next. -/
def Call.GoesTo (next : String) : Call → Prop
  | .reference asked _ => asked = next
  | .schema v _ _ => Schema.ref? v = some next
  | _ => False

/-- What is in progress leads somewhere, and a reference that it is an alias of is in progress as well, or
asked for next. -/
def Linked (document : Json) (r : Resolver) (c : Call) : Prop :=
  ∀ q ∈ r.inProgress, ∃ target, lookup? document q = some target ∧
    ∀ next, Schema.ref? target = some next → next ∈ r.inProgress ∨ c.GoesTo next

theorem Linked.of_idle {r : Resolver} (idle : Idle r) (c : Call) : Linked document r c := by
  intro q met
  rw [idle] at met
  cases met

theorem Linked.mono {r r' : Resolver} {c c' : Call} (h : Linked document r c)
    (same : r'.inProgress = r.inProgress) (goes : ∀ next, c.GoesTo next → c'.GoesTo next) :
    Linked document r' c' := by
  intro q met
  rw [same] at met ⊢
  obtain ⟨target, here, links⟩ := h q met
  exact ⟨target, here, fun next ref => (links next ref).imp_right (goes next)⟩

theorem Linked.enter {r : Resolver} {reference place wanted : String} {target : Json} {c : Call}
    (h : Linked document r (.reference reference place)) (here : lookup? document reference = some target)
    (goes : ∀ next, Schema.ref? target = some next → c.GoesTo next) :
    Linked document ((r.claim wanted reference).enter reference) c := by
  intro q met
  rcases List.mem_cons.mp met with rfl | met
  · exact ⟨target, here, fun next ref => .inr (goes next ref)⟩
  · obtain ⟨target', here', links⟩ := h q met
    refine ⟨target', here', fun next ref => .inl ?_⟩
    rcases links next ref with met' | rfl
    · exact List.mem_cons_of_mem _ met'
    · exact List.mem_cons_self

/-- A cycle does not lead nowhere. -/
theorem cycleEnd_leads {r : Resolver} {reference place current : String} {fuel : Nat} {seen : List String}
    (linked : ∀ q ∈ r.inProgress, ∃ target, lookup? document q = some target ∧
      ∀ next, Schema.ref? target = some next → next ∈ r.inProgress)
    (met : current ∈ r.inProgress) {failure : Failure}
    (h : cycleEnd document reference place fuel seen current = .error failure) (lost : String) :
    failure.cause ≠ .unresolvableRef lost := by
  induction fuel generalizing seen current with
  | zero =>
    rw [← Except.error.inj h]
    simp
  | succ fuel ih =>
    rw [cycleEnd] at h
    split at h
    · rw [← Except.error.inj h]
      simp
    · obtain ⟨target, here, links⟩ := linked current met
      simp only [follow, here, bind, Except.bind] at h
      split at h
      · next next ref => exact ih (links next ref) h
      · split at h
        · cases h
        · rw [← Except.error.inj h]
          simp

/-- A run that fails because of a reference names the place of a schema with it. -/
theorem run_lost {n : Nat} {c : Call} {r r' : Resolver} {o : Except Failure c.Answer}
    (run : Run document n c r o r') (linked : Linked document r c) (visits : c.Visits document)
    {failure : Failure} (failed : o = .error failure) {reference : String}
    (cause : failure.cause = .unresolvableRef reference) : LostAt document failure.path reference := by
  -- The failure comes of a look for a reference or of a cycle, and all calls around pass it on.
  induction run with
  | endless | noEnum =>
    cases failed
    cases cause
  | known | closed | plain | enum | object | seen | noParts | noMembers => cases failed
  | @lost n asked place r new lost =>
    cases failed
    cases cause
    rcases visits with visited | ⟨target, here⟩
    · exact ⟨lost, visited⟩
    · rw [lost] at here
      cases here
  | @unclosed n asked place target failure' r new here met close =>
    cases failed
    -- The alias that asks again is in progress itself, so the cycle never leaves what is in progress.
    refine absurd cause (cycleEnd_leads (fun q met' => ?_) met close reference)
    obtain ⟨target', here', links⟩ := linked q met'
    refine ⟨target', here', fun next ref => ?_⟩
    rcases links next ref with met'' | rfl
    · exact met''
    · exact met
  | madeEnum _ here _ kind _ ih =>
    have none := Schema.ref?_eq_none_of_kind (by rw [kind]; simp)
    exact ih (linked.enter here fun next ref => by simp [none] at ref) trivial failed
  | madeObject _ here _ kind _ ih =>
    have none := Schema.ref?_eq_none_of_kind (by rw [kind]; simp)
    exact ih (linked.enter here fun next ref => by simp [none] at ref) (.of_lookup? here) failed
  | madeOther _ here _ _ _ ih =>
    exact ih (linked.enter here fun next ref => ref) (.of_lookup? here) failed
  | asked form _ ih =>
    have ref := Schema.ref?_of_form_reference form
    refine ih (linked.mono rfl fun next goes => ?_) (.inl ⟨_, visits, ref⟩) (eq_error_of_map failed)
    exact Option.some.inj (ref.symm.trans goes)
  | inner form _ ih =>
    have none := Schema.ref?_of_form_inner form
    refine ih (linked.mono rfl fun next goes => ?_) (visits.inner form) (eq_error_of_map failed)
    cases none.symm.trans goes
  | inlineObject form _ ih =>
    have none := Schema.ref?_of_form_object form
    refine ih (linked.mono rfl fun next goes => ?_) visits (eq_error_of_map failed)
    cases none.symm.trans goes
  | inlineEnum form _ ih =>
    have none := Schema.ref?_of_form_enum form
    refine ih (linked.mono rfl fun next goes => ?_) trivial (eq_error_of_map failed)
    cases none.symm.trans goes
  | noObject _ ih =>
    cases failed
    exact ih (linked.mono rfl fun _ => False.elim) visits rfl
  | @lostPart n owner place asked schema gathered r ref new lost =>
    cases failed
    cases cause
    exact ⟨lost, schema, visits, ref⟩
  | followed _ _ here _ ih => exact ih (linked.mono rfl fun _ => False.elim) (.of_lookup? here) failed
  | own _ first_run _ _ second =>
    exact second (linked.mono (run_inProgress first_run) fun _ => False.elim)
      (fun m mem => visits.property mem) failed
  | failedParts _ _ ih =>
    cases failed
    exact ih (linked.mono rfl fun _ => False.elim) (fun x mem => visits.part mem) rfl
  | part first_run _ _ second =>
    exact second (linked.mono (run_inProgress first_run) fun _ => False.elim)
      (fun x mem => visits x (List.mem_cons_of_mem _ mem)) failed
  | member first_run _ _ second =>
    exact second (linked.mono (run_inProgress first_run) fun _ => False.elim)
      (fun m mem => visits m (List.mem_cons_of_mem _ mem)) failed
  | @failedPart n i owner place part rest gathered r r' failure' _ ih =>
    have visited : Visited document _ part := visits (part, i) List.mem_cons_self
    exact ih (linked.mono rfl fun _ => False.elim) visited (by rw [Except.error.inj failed])
  | @failedMember n owner place name required value rest gathered r r' failure' _ ih =>
    have visited : Visited document _ value := visits (name, value) List.mem_cons_self
    exact ih (linked.mono rfl fun _ => False.elim) visited (by rw [Except.error.inj failed])

/-! ## What operations come to -/

/-- What may be described elsewhere in an operation, a reference in its place: the path that it belongs to, a
parameter, the body or an answer. -/
inductive OperationPart (document : Json) : String → Json → Prop where
  | path {path : String} {item : Json} (mem : (path, item) ∈ document.membersAt "paths") :
      OperationPart document (child "#/paths" path) item
  | parameter {place : String} {op value : Json} {shared : List Json} {i : Nat}
      (endpoint : Endpoint document place op shared)
      (mem : (value, i) ∈ (shared ++ op.itemsAt "parameters").zipIdx) :
      OperationPart document (child (child place "parameters") (toString i)) value
  | body {place : String} {op value : Json} {shared : List Json}
      (endpoint : Endpoint document place op shared) (body : op.get? "requestBody" = some value) :
      OperationPart document (child place "requestBody") value
  | answer {place code : String} {op value answer : Json} {shared : List Json}
      {responses : List (String × Json)} (endpoint : Endpoint document place op shared)
      (responses_eq : op.get? "responses" = some value) (members : value.members? = some responses)
      (found : Json.lookup code responses = some answer) :
      OperationPart document (child (child place "responses") code) answer

/-- If the failure is that of a reference that leads nowhere, its path is the place of the part of an
operation that is described by references the last of which is this one, or of a schema with it. -/
def Blames (document : Json) (failure : Failure) : Prop :=
  ∀ reference, failure.cause = .unresolvableRef reference →
    (lookup? document reference = none ∧ ∃ value, OperationPart document failure.path value ∧
      described document value failure.path = .error failure) ∨
    LostAt document failure.path reference

theorem blames_of_ne {failure : Failure} (other : ∀ reference, failure.cause ≠ .unresolvableRef reference) :
    Blames document failure :=
  fun reference cause => absurd cause (other reference)

theorem deref_lost {place : String} {fuel : Nat} {seen : List String} {value : Json} {failure : Failure}
    (h : deref document place fuel seen value = .error failure) {reference : String}
    (cause : failure.cause = .unresolvableRef reference) :
    failure.path = place ∧ lookup? document reference = none := by
  induction fuel generalizing seen value with
  | zero =>
    rw [← Except.error.inj h] at cause
    cases cause
  | succ fuel ih =>
    rw [deref] at h
    split at h
    · cases h
    · next asked ref =>
      split at h
      · rw [← Except.error.inj h] at cause
        cases cause
      · unfold follow at h
        cases here : lookup? document asked with
        | some target =>
          simp only [here, bind, Except.bind] at h
          exact ih h
        | none =>
          rw [here] at h
          rw [← Except.error.inj h] at cause ⊢
          cases cause
          exact ⟨rfl, here⟩

theorem blames_of_described {place : String} {value : Json} (part : OperationPart document place value)
    {failure : Failure} (h : described document value place = .error failure) : Blames document failure := by
  intro reference cause
  obtain ⟨rfl, nowhere⟩ := deref_lost h cause
  exact .inl ⟨nowhere, value, part, h⟩

variable (document) in
/-- A step of a load: nothing is in progress before and after, and failures blame what they should. -/
def Loads {α : Type} (x : Resolve α) : Prop :=
  Ensures Idle (fun failure _ => Blames document failure) (fun _ => True) x fun _ _ => True

namespace Loads

variable {α β : Type} {x : Resolve α} {f : α → Resolve β}

theorem pure (a : α) : Loads document (pure a) :=
  Ensures.pure fun _ _ => trivial

theorem bind (first : Loads document x) (second : ∀ a, Loads document (f a)) : Loads document (x >>= f) :=
  Ensures.bind first fun a => second a

theorem failAt {place : String} {cause : Cause} (other : ∀ reference, cause ≠ .unresolvableRef reference) :
    Loads document (failAt place cause : Resolve α) :=
  Ensures.failAt fun _ _ => blames_of_ne other

theorem bind_described {place : String} {value : Json} {f : Json → Resolve α}
    (part : OperationPart document place value)
    (next : ∀ target, described document value place = .ok target → Loads document (f target)) :
    Loads document (liftM (described document value place) >>= f) :=
  Ensures.bind_lift next fun _ h _ _ => blames_of_described part h

/-- A call with nothing in progress. -/
theorem call {n : Nat} {c : Call} (visits : c.Visits document) : Loads document (c.compute document n) := by
  intro r idle _
  have run := Run.run_compute document n c r
  have idle' : Idle (outcome (c.compute document n) r).2 := (run_inProgress run).trans idle
  have grows := run_grows run
  have lost {failure : Failure} (failed : (outcome (c.compute document n) r).1 = .error failure) :
      Blames document failure :=
    fun _ cause => .inr (run_lost run (.of_idle idle c) visits failed cause)
  generalize outcome (c.compute document n) r = o at idle' grows lost ⊢
  obtain ⟨failure | a, r'⟩ := o
  · exact lost rfl
  · exact ⟨idle', grows, trivial⟩

theorem ofSchema {schema : Json} {place : String} (asked : OperationSchema document place schema)
    (context : String) : Loads document (ofSchema document schema context place) :=
  call (c := .schema schema context place) ⟨place, schema, true, .operation asked, .here⟩

variable {place : String} {op value : Json} {shared : List Json}

theorem parameter (input : Input document place value) (context : String) :
    Loads document (parameter document value context place) := by
  unfold Resolve.parameter
  rw [described_self input.ref?_eq_none]
  show Loads document ((Pure.pure value : Resolve Json) >>= _)
  rw [pure_bind]
  cases value.strAt? "name" with
  | none => exact failAt (by simp)
  | some name =>
    cases carried : (value.strAt? "in").bind Location.ofName? with
    | none => exact pure _
    | some location =>
      have no_field : ¬IsField value := by
        intro field
        rw [field] at carried
        cases carried
      cases found : value.get? "schema" with
      | none => exact .bind (ofSchema (.bare input found) _) fun _ => pure _
      | some schema => exact .bind (ofSchema (.parameter input no_field found) _) fun _ => pure _

theorem requestBody (endpoint : Endpoint document place op shared) (body : op.get? "requestBody" = some value)
    (context : String) : Loads document (requestBody document value context (child place "requestBody")) := by
  unfold Resolve.requestBody
  refine bind_described (.body endpoint body) fun target h => ?_
  dsimp only
  split
  · exact pure _
  · next kind media content =>
    split
    · exact pure _
    · next schema schema_eq =>
      exact .bind (ofSchema (.body endpoint body h content schema_eq) _) fun _ => pure _

theorem firstResponse {responses : List (String × Json)} {codes : List String}
    (part : ∀ code answer, Json.lookup code responses = some answer →
      OperationPart document (child place code) answer)
    (asked : ∀ code schema, FirstAnswer document place responses codes code schema →
      OperationSchema document (child (child place code) "schema") schema) (context : String) :
    Loads document (firstResponse document responses context place codes) := by
  induction codes with
  | nil => exact pure _
  | cons code rest ih =>
    unfold Resolve.firstResponse
    refine Ensures.bind_lift (fun target h => ?_) fun failure h _ _ => ?_
    · split
      · next schema some => exact .bind (ofSchema (asked _ _ (.here h some)) _) fun _ => pure _
      · next none => exact ih fun code schema first => asked code schema (.later h none first)
    · cases found : Json.lookup code responses with
      | none =>
        rw [found] at h
        cases h
      | some answer =>
        rw [found] at h
        exact blames_of_described (part code answer found) h

theorem response (endpoint : Endpoint document place op shared) (responses : op.get? "responses" = some value)
    (context : String) : Loads document (response document value context (child place "responses")) := by
  unfold Resolve.response
  split
  · exact pure _
  · next members found =>
    exact firstResponse (fun _ _ here => .answer endpoint responses found here)
      (fun _ _ first => .answer endpoint responses found first) context

/-- The fields that were taken in are fields, each with its place. -/
def Fields (document : Json) (fields : List (Json × String)) : Prop :=
  ∀ field ∈ fields, Input document field.2 field.1 ∧ IsField field.1

/-- A step that takes inputs in. -/
def Takes (document : Json) (inputs : Inputs) (x : Resolve Inputs) : Prop :=
  Ensures Idle (fun failure _ => Blames document failure) (fun _ => Fields document inputs.fields) x
    fun inputs' _ => Fields document inputs'.fields

theorem takes_same {inputs inputs' : Inputs} (same : inputs'.fields = inputs.fields) :
    Takes document inputs (Pure.pure inputs') :=
  Ensures.pure fun _ fields => by rwa [same]

theorem takes_bind {inputs : Inputs} {f : α → Resolve Inputs} (first : Loads document x)
    (second : ∀ a, Takes document inputs (f a)) : Takes document inputs (x >>= f) :=
  Ensures.bind (Ensures.alone first (.const _)) fun a =>
    (second a).mono (fun _ h => h.2) fun _ _ h => h

theorem input {inputs : Inputs} {parameter : Json × Nat} (endpoint : Endpoint document place op shared)
    (mem : parameter ∈ (shared ++ op.itemsAt "parameters").zipIdx) (context : String) :
    Takes document inputs (input document context
      (child (child place "parameters") (toString parameter.2)) inputs parameter.1) := by
  unfold Resolve.input
  refine Ensures.bind_lift (fun w h => ?_) fun failure h _ _ =>
    blames_of_described (.parameter endpoint mem) h
  have input : Input document _ w := ⟨endpoint, mem, h⟩
  split
  · next in_body =>
    have no_field : ¬IsField w := by
      intro field
      rw [field] at in_body
      exact absurd in_body (by decide)
    split
    · exact takes_same rfl
    · next schema schema_eq =>
      exact takes_bind (ofSchema (.parameter input no_field schema_eq) _) fun _ => takes_same rfl
  · next in_form => exact Ensures.pure fun _ fields => List.forall_mem_cons.mpr ⟨⟨input, in_form⟩, fields⟩
  · refine takes_bind (Loads.parameter input context) fun p? => ?_
    cases p? <;> exact takes_same rfl

theorem inputs (endpoint : Endpoint document place op shared) {parameters : List (Json × Nat)}
    (inside : parameters ⊆ (shared ++ op.itemsAt "parameters").zipIdx) (context : String) (inputs : Inputs) :
    Takes document inputs (parameters.foldlM
      (fun inputs (value, i) =>
        Resolve.input document context (child (child place "parameters") (toString i)) inputs value)
      inputs) := by
  unfold Takes
  exact Ensures.foldlM (J := fun (inputs : Inputs) (_ : Resolver) => Fields document inputs.fields)
    (fun parameter mem inputs => Loads.input endpoint (inside mem) context) inputs

theorem formBody {first : Json × String} {rest : List (Json × String)}
    (fields : Fields document (first :: rest)) (context : String) :
    Loads document (formBody document context first rest) := by
  unfold Resolve.formBody
  have named : Loads document (claimName (context ++ "Form") first.2) :=
    fun r idle _ => ⟨idle, .claim .., trivial⟩
  have defined (name : String) (properties : List TypedProperty) : Loads document
      (define first.2 (.form ((first :: rest).map (·.1))) ⟨name, none, .object properties⟩) :=
    fun r idle _ => ⟨idle, .offer .., trivial⟩
  refine bind named fun name => ?_
  have gathered : Loads document ((first :: rest).mapM (formField document name)) := by
    refine (Ensures.mapM (S := fun _ _ => True) (.const True) (fun _ => .const True)
      fun field mem => ?_).mono (fun _ h => h) fun _ _ _ => trivial
    obtain ⟨input, is_field⟩ := fields field mem
    unfold formField
    dsimp only
    cases field.1.strAt? "name" with
    | none => exact failAt (by simp)
    | some name => exact .bind (ofSchema (.field input is_field) _) fun _ => pure _
  exact bind gathered fun properties => bind (defined name properties) fun _ => pure _

theorem operationBody (endpoint : Endpoint document place op shared) (inputs : Inputs) (context : String) :
    Ensures Idle (fun failure _ => Blames document failure) (fun _ => Fields document inputs.fields)
      (operationBody document op inputs context place) fun _ _ => True := by
  intro r idle fields
  unfold Resolve.operationBody
  split
  · next value _ _ body => exact requestBody endpoint body context r idle trivial
  · next first rest _ same =>
    have reversed : Fields document (first :: rest) := by
      intro field mem
      rw [← same, List.mem_reverse] at mem
      exact fields field mem
    exact Ensures.map (S := fun _ _ => True) (Loads.formBody reversed context) r idle trivial
  · exact pure _ r idle trivial

theorem operationResponse (endpoint : Endpoint document place op shared) (context : String) :
    Loads document (operationResponse document op context place) := by
  unfold Resolve.operationResponse
  split
  · next value found => exact response endpoint found context
  · exact pure _

theorem operation (endpoint : Endpoint document place op shared) (path method : String) :
    Loads document (operation document path method op shared place) := by
  unfold Resolve.operation
  refine Ensures.bind ((Loads.inputs endpoint (List.Subset.refl _) _ _).mono (fun _ _ => nofun)
    fun _ _ h => h) fun inputs => ?_
  refine Ensures.bind (operationBody endpoint inputs _) fun _ => ?_
  exact bind (operationResponse endpoint _) fun _ => pure _

theorem operations : Loads document (operations document) := by
  unfold Resolve.operations
  refine bind ?_ fun _ => pure _
  refine (Ensures.mapM (S := fun _ _ => True) (.const True) (fun _ => .const True)
    fun (path, item) mem => ?_).mono (fun _ h => h) fun _ _ _ => trivial
  unfold pathOperations
  refine bind_described (.path mem) fun target h => ?_
  refine (Ensures.filterMapM (S := fun _ _ => True) (.const True) (fun _ => .const True)
    fun method method_mem => ?_).mono (fun _ h => h) fun _ _ _ => trivial
  split
  · exact Ensures.pure fun _ _ _ _ => trivial
  · next op found =>
    exact Ensures.map ((operation (.mk mem h method_mem found) path method).mono (fun _ h => h)
      fun _ _ _ _ _ => trivial)

end Loads

/-! ## Documents whose operations say everything in one place -/

/-- Nothing in the operations is described elsewhere, no parameters are shared by the operations of a path,
and answers have their schemas on themselves. -/
structure PlainOperations (document : Json) : Prop where
  described : ∀ place value, OperationPart document place value → Schema.ref? value = none
  unshared : ∀ place op shared, Endpoint document place op shared → shared = []
  answers : ∀ place op shared value responses code answer, Endpoint document place op shared →
    op.get? "responses" = some value → value.members? = some responses →
    Json.lookup code responses = some answer → answer.membersAt? "content" = none

namespace PlainOperations

variable {place : String} {op value : Json} {shared : List Json}

/-- What is not described elsewhere describes itself. -/
theorem eq_of_described (plain : PlainOperations document) (part : OperationPart document place value)
    {target : Json} (h : Resolve.described document value place = .ok target) : target = value :=
  (described_spec h).eq_of_ref?_eq_none (plain.described place value part)

theorem found_endpoint (plain : PlainOperations document) (distinct : DistinctKeys document)
    (endpoint : Endpoint document place op shared) : Found document place op := by
  cases endpoint with
  | @mk path method item target op item_mem item_described method_mem op_eq =>
    obtain rfl := plain.eq_of_described (.path item_mem) item_described
    obtain ⟨members, found, mem⟩ := Json.membersAt?_of_mem item_mem
    have object := Json.get?_of_membersAt? found
    have root : Found document "#" document := .of_lookup? rfl
    have paths : Found document "#/paths" (.object members) := root.get? object
    have keys := distinct _ (mem_values_of_lookup? paths.here)
    exact (paths.child (Json.lookup_of_mem keys mem)).get? op_eq

theorem found_input (plain : PlainOperations document) (distinct : DistinctKeys document)
    (input : Input document place value) : Found document place value := by
  cases input with
  | @mk place op value target shared i endpoint mem value_described =>
    obtain rfl := plain.eq_of_described (.parameter endpoint mem) value_described
    obtain rfl := plain.unshared place op shared endpoint
    rw [List.nil_append] at mem
    obtain ⟨items, items_eq, -⟩ := Json.itemsAt?_of_mem (List.fst_mem_of_mem_zipIdx mem)
    have item : items[i]? = some value := by
      unfold Json.itemsAt at mem
      rw [items_eq] at mem
      exact List.mem_zipIdx_iff_getElem?.mp mem
    refine ((plain.found_endpoint distinct endpoint).get? (Json.get?_of_itemsAt? items_eq)).child ?_
    rw [step?, index?_toString, Option.bind_some, item]

/-- The schemas of such operations are found at their places. -/
theorem found (plain : PlainOperations document) (distinct : DistinctKeys document) {schema : Json}
    (asked : OperationSchema document place schema) : Found document place schema := by
  cases asked with
  | parameter input _ schema_eq => exact (plain.found_input distinct input).get? schema_eq
  | bare input | field input => exact plain.found_input distinct input
  | @body place kind op value target media schema shared endpoint body value_described content schema_eq =>
    obtain rfl := plain.eq_of_described (.body endpoint body) value_described
    obtain ⟨_, _, picked⟩ := List.exists_of_findSome?_eq_some content
    obtain ⟨_, media_eq, same⟩ := Option.map_eq_some_iff.mp picked
    cases same
    obtain ⟨members, members_eq, -⟩ := Json.membersAt?_of_mem (Json.mem_of_lookup media_eq)
    rw [Json.membersAt, members_eq] at media_eq
    have inside := ((plain.found_endpoint distinct endpoint).get? body).get?
      (Json.get?_of_membersAt? members_eq)
    exact (inside.child (v := .object members) media_eq).get? schema_eq
  | @answer place code op value schema shared responses endpoint responses_eq members first =>
    obtain ⟨response, answer, response_eq, answer_described, some⟩ := first.spec
    obtain rfl := plain.eq_of_described (.answer endpoint responses_eq members response_eq) answer_described
    have no_content := plain.answers _ _ _ _ _ _ _ endpoint responses_eq members response_eq
    rw [responseSchema?, no_content] at some
    have object := Json.eq_object_of_members? members
    have inside := (plain.found_endpoint distinct endpoint).get? responses_eq
    rw [object] at inside
    exact (inside.child (v := .object responses) response_eq).get? some

theorem lookup?_start (plain : PlainOperations document) (distinct : DistinctKeys document) {start : String}
    {root : Json} (h : Start document start root) : lookup? document start = some root := by
  cases h with
  | reference here => exact here
  | operation asked => exact (plain.found distinct asked).here

end PlainOperations

/-! ## Loads -/

theorem lookup?_of_mem_namedSchemas (distinct : DistinctKeys document) {name : String} {schema : Json}
    (mem : (name, schema) ∈ namedSchemas document) :
    lookup? document (child (schemasPrefix document) name) = some schema := by
  unfold namedSchemas at mem
  cases here : lookup? document (schemasPrefix document) with
  | none =>
    rw [here] at mem
    cases mem
  | some v =>
    cases members_eq : v.members? with
    | none =>
      rw [here, Option.bind_some, members_eq] at mem
      cases mem
    | some members =>
      rw [here, Option.bind_some, members_eq, Option.getD_some] at mem
      obtain rfl := Json.eq_object_of_members? members_eq
      rw [lookup?_named_of_object here]
      exact Json.lookup_of_mem (distinct _ (mem_values_of_lookup? here)) mem

theorem loads_everything (distinct : DistinctKeys document) : Loads document (everything document) := by
  have named : Loads document (allNamed document) := ensures_allNamed fun {name schema} mem =>
    Loads.call (c := .reference (child (schemasPrefix document) name) (schemasPrefix document))
      (.inr ⟨schema, lookup?_of_mem_namedSchemas distinct mem⟩)
  exact Loads.bind named fun _ => .operations

/-- A load that fails because of a reference tells the place of it behind the path of the file. Either it is
the reference of a part of an operation that is described elsewhere, or that of a schema. Then the place was
made on a way to the schema, and if the start of the way is found at its own place, as those of references
are, and in documents with plain operations all of them, the schema is found at the place exactly if the way
does not go through the only part or variant of a schema. -/
theorem load_lost (distinct : DistinctKeys document) {path p reference : String}
    (failed : load document path = .error ⟨p, .unresolvableRef reference⟩) :
    ∃ place, p = path ++ place ∧ lookup? document reference = none ∧
      ((∃ value, OperationPart document place value ∧
          described document value place = .error ⟨place, .unresolvableRef reference⟩) ∨
        ∃ v start root exact, Schema.ref? v = some reference ∧ Start document start root ∧
          Trail start root place v exact ∧
          (PlainOperations document → lookup? document start = some root) ∧
          (lookup? document start = some root → (lookup? document place = some v ↔ exact = true))) := by
  have loads := loads_everything distinct .start rfl trivial
  unfold load at failed
  split at failed
  · split at failed
    · cases failed
    · next document failure r run =>
      obtain ⟨place, cause⟩ := failure
      cases failed
      rw [outcome, run] at loads
      refine ⟨place, rfl, ?_⟩
      rcases loads reference rfl with ⟨nowhere, part⟩ | ⟨nowhere, v, visited, ref⟩
      · exact ⟨nowhere, .inl part⟩
      · obtain ⟨start, root, exact, from_start, trail⟩ := visited
        exact ⟨nowhere, .inr ⟨v, start, root, exact, ref, from_start, trail,
          fun plain => plain.lookup?_start distinct from_start,
          fun here => trail.lookup?_iff distinct here ref⟩⟩
  · cases failed

/-! ## An order of a customer that the document lacks -/

theorem plainOperations_listing (schemas : List (String × Json)) : PlainOperations (listing schemas) := by
  have no_endpoint {place : String} {op : Json} {shared : List Json} :
      ¬Endpoint (listing schemas) place op shared := by
    rintro ⟨item_mem, -, -, -⟩
    cases item_mem
  refine ⟨fun place value part => ?_, fun _ _ _ endpoint => (no_endpoint endpoint).elim,
    fun _ _ _ _ _ _ _ endpoint => (no_endpoint endpoint).elim⟩
  cases part with
  | path mem => cases mem
  | parameter endpoint | body endpoint | answer endpoint => exact (no_endpoint endpoint).elim

/-- Orders only, with the given schema of their customer. -/
def strayOrder (customer : Json) : Json :=
  listing [("Order", record [("customer", customer)])]

theorem load_lost_strayOrder :
    DistinctKeys (strayOrder (schemaRef "Customer")) ∧
    load (strayOrder (schemaRef "Customer")) "shop.json" =
      .error ⟨"shop.json#/components/schemas/Order/properties/customer",
        .unresolvableRef "#/components/schemas/Customer"⟩ ∧
    ∃ place v start root exact,
      "shop.json#/components/schemas/Order/properties/customer" = "shop.json" ++ place ∧
      Schema.ref? v = some "#/components/schemas/Customer" ∧ Trail start root place v exact ∧
      lookup? (strayOrder (schemaRef "Customer")) start = some root ∧
      (lookup? (strayOrder (schemaRef "Customer")) place = some v ↔ exact = true) := by
  have distinct : DistinctKeys (strayOrder (schemaRef "Customer")) := by decide
  have failed : load (strayOrder (schemaRef "Customer")) "shop.json" =
      .error ⟨"shop.json#/components/schemas/Order/properties/customer",
        .unresolvableRef "#/components/schemas/Customer"⟩ := by rfl
  have plain : PlainOperations (strayOrder (schemaRef "Customer")) := plainOperations_listing _
  refine ⟨distinct, failed, ?_⟩
  obtain ⟨place, path_eq, -, lost⟩ := load_lost distinct failed
  rcases lost with ⟨value, part, described⟩ | ⟨v, start, root, exact, ref, -, trail, here, found⟩
  · rw [described_self (plain.described place value part)] at described
    cases described
  · exact ⟨place, v, start, root, exact, path_eq, ref, trail, here plain, found (here plain)⟩

/-- The only part of a schema alone stands for it, and a failure in it names the array. -/
theorem load_strayOrder_part :
    DistinctKeys (strayOrder (.object [("allOf", .array [schemaRef "Customer"])])) ∧
    load (strayOrder (.object [("allOf", .array [schemaRef "Customer"])])) "shop.json" =
      .error ⟨"shop.json#/components/schemas/Order/properties/customer/allOf",
        .unresolvableRef "#/components/schemas/Customer"⟩ ∧
    ¬∃ place v, "shop.json#/components/schemas/Order/properties/customer/allOf" = "shop.json" ++ place ∧
      lookup? (strayOrder (.object [("allOf", .array [schemaRef "Customer"])])) place = some v ∧
      Schema.ref? v = some "#/components/schemas/Customer" := by
  refine ⟨by decide, rfl, ?_⟩
  rintro ⟨place, v, path_eq, here, ref⟩
  have place_eq : place = "#/components/schemas/Order/properties/customer/allOf" :=
    (String.append_right_inj "shop.json").mp path_eq.symm
  subst place_eq
  obtain rfl : Json.array [schemaRef "Customer"] = v := Option.some.inj here
  cases ref

end Api
end Scaffold
