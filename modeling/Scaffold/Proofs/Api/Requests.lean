/-
A resolver that is asked again after requests that failed. A failure keeps what was resolved before it,
so types can go by the name of an object whose definition it broke off. But these are the only names that
can be missing later: what a request gives leads to defined names, and to names that an earlier failed
request broke off (`defined_or_broken`). Only an object that is asked for while it is made can be broken
off in this way, so nothing is lost where references lead to no object twice.
-/
import Mathlib.Data.List.Induction
import Scaffold.Proofs.Api.Closure
import Scaffold.Proofs.Api.Listing
import Scaffold.Proofs.Reachability

namespace Scaffold
namespace Api

open Resolver Resolve Json.Pointer

variable {document : Json} {lost : String → Prop}

/-! ## Requests -/

/-- What a resolver can be asked for. -/
inductive Request where
  | named (name : String)
  /-- All named schemas, in document order. -/
  | all
  | schema (schema : Json) (context place : String)

/-- The types that a request gives. -/
def Request.ask (document : Json) : Request → Resolve (List TypeExpr)
  | .named name => (fun t => [t]) <$> ofName document name
  | .all => (fun _ => []) <$> allNamed document
  | .schema value context place => (fun t => [t]) <$> ofSchema document value context place

/-- The resolver after a request, whether it failed or not. -/
def Request.after (document : Json) (r : Resolver) (request : Request) : Resolver :=
  (outcome (request.ask document) r).2

/-- The resolver after some requests, one after the other. -/
def askedFor (document : Json) (requests : List Request) : Resolver :=
  requests.foldl (Request.after document) .start

/-- Resolves named schemas, one after the other. -/
def inOrder (document : Json) (schemas : List (String × Json)) : Resolve Unit :=
  schemas.forM fun (name, _) => do
    let _ ← ofName document name

theorem allNamed_eq (document : Json) :
    allNamed document = inOrder document (namedSchemas document) := rfl

theorem inOrder_append (document : Json) (first second : List (String × Json)) :
    inOrder document (first ++ second) = (do inOrder document first; inOrder document second) :=
  List.forM_append

theorem outcome_inOrder_cons {name : String} {schema : Json} {rest : List (String × Json)}
    {r : Resolver} : outcome (inOrder document ((name, schema) :: rest)) r =
      andThen (outcome (ofName document name) r) fun _ => inOrder document rest := by
  show outcome ((do let _ ← ofName document name) >>= fun _ => inOrder document rest) r = _
  simp only [outcome_bind]
  rcases outcome (ofName document name) r with ⟨failure | type, r'⟩ <;> rfl

/-- The call for a named schema. -/
def namedMoment (document : Json) (name : String) (r : Resolver) : Moment :=
  ⟨nestingBound document, .reference (child (schemasPrefix document) name) (schemasPrefix document), r⟩

/-- The calls that a request consists of, with the states in which they are made. Of all named schemas
each is called for once those before it are resolved. -/
inductive Request.Begins (document : Json) (r : Resolver) : Request → Moment → Prop where
  | named (name : String) : Begins document r (.named name) (namedMoment document name r)
  | all {earlier later : List (String × Json)} {name : String} {schema : Json} {r' : Resolver}
      (schemas : namedSchemas document = earlier ++ (name, schema) :: later)
      (resolved : outcome (inOrder document earlier) r = (.ok ⟨⟩, r')) :
      Begins document r .all (namedMoment document name r')
  | schema (schema : Json) (context place : String) :
      Begins document r (.schema schema context place)
        ⟨nestingBound document, .schema schema context place, r⟩

/-- The request fails and breaks off the definition of an object that is to have the name. -/
def Request.BreaksOff (document : Json) (r : Resolver) (request : Request) (name : String) : Prop :=
  (∃ failure, (outcome (request.ask document) r).1 = .error failure) ∧
    ∃ m, request.Begins document r m ∧ m.BreaksOff document name

/-- One of the requests breaks off the definition of an object that is to have the name. -/
def Broken (document : Json) (requests : List Request) (name : String) : Prop :=
  ∃ earlier request later, requests = earlier ++ request :: later ∧
    request.BreaksOff document (askedFor document earlier) name

/-- Nothing is broken off where no object is asked for while it is made. -/
theorem not_broken_of_acyclic {requests : List Request} {name : String}
    (acyclic : ∀ reference, ¬Recurs document reference) : ¬Broken document requests name := by
  rintro ⟨-, -, -, -, -, m, -, -, -, recurs, -⟩
  exact acyclic _ recurs

/-! ## What requests keep -/

/-- The names that are lost before a request or in its course. -/
def Request.Loses (document : Json) (r : Resolver) (request : Request) (lost : String → Prop)
    (name : String) : Prop :=
  lost name ∨ ∃ m, request.Begins document r m ∧ m.BreaksOff document name

theorem Request.Begins.loses {r : Resolver} {request : Request} {m : Moment}
    (begins : request.Begins document r m) (name : String) (loses : m.Loses document lost name) :
    request.Loses document r lost name :=
  loses.imp_right fun breaks => ⟨m, begins, breaks⟩

theorem Settled.lose {lost' : String → Prop} {r : Resolver} (h : Settled document lost r)
    (more : ∀ name, lost name → lost' name) : Settled document lost' r :=
  ⟨h.closed.lose more, h.idle⟩

theorem Settled.named (text : TextRefs document) {r : Resolver} (settled : Settled document lost r)
    (name : String) :
    EndsIn (Settled document lost)
      (fun _ => Settled document ((namedMoment document name r).Loses document lost))
      (fun t r' => ∀ t' ∈ [t], Defined lost t' r') r (outcome (ofName document name) r) :=
  settled.call text (n := nestingBound document)
    (c := .reference (child (schemasPrefix document) name) (schemasPrefix document)) trivial rfl

/-- Named schemas are resolved as long as none fails. -/
theorem Settled.inOrder (text : TextRefs document) {r₀ r : Resolver}
    (earlier : List (String × Json)) {schemas : List (String × Json)}
    (all : namedSchemas document = earlier ++ schemas)
    (resolved : outcome (inOrder document earlier) r₀ = (.ok ⟨⟩, r))
    (settled : Settled document lost r) :
    EndsIn (Settled document lost) (fun _ => Settled document (Request.Loses document r₀ .all lost))
      (fun _ _ => True) r (outcome (Api.inOrder document schemas) r) := by
  induction schemas generalizing earlier r with
  | nil => exact ⟨settled, .refl r, trivial⟩
  | cons head rest ih =>
    obtain ⟨name, schema⟩ := head
    have first := settled.named text name
    rw [outcome_inOrder_cons]
    rcases named : outcome (ofName document name) r with ⟨failure | type, r'⟩
    · rw [named] at first
      exact first.lose (Request.Begins.all all resolved).loses
    · rw [named] at first
      have resolved' : outcome (Api.inOrder document (earlier ++ [(name, schema)])) r₀ = (.ok ⟨⟩, r') := by
        rw [inOrder_append, outcome_bind, resolved, andThen_ok, outcome_inOrder_cons, named]
        rfl
      have others := ih _ (by rw [all, List.append_assoc]; rfl) resolved' first.1
      rw [andThen_ok]
      generalize outcome (Api.inOrder document rest) r' = o at others ⊢
      obtain ⟨failure | _, r''⟩ := o
      · exact others
      · exact ⟨others.1, first.2.1.trans others.2.1, trivial⟩

/-- A request gives defined types, or fails and loses names. -/
theorem Settled.request (text : TextRefs document) {r : Resolver} (settled : Settled document lost r)
    (request : Request) :
    EndsIn (Settled document lost) (fun _ => Settled document (request.Loses document r lost))
      (fun types r' => ∀ t ∈ types, Defined lost t r') r (outcome (request.ask document) r) := by
  cases request with
  | named name =>
    exact ((settled.named text name).mono
      (fun _ _ h => h.lose (Request.Begins.named name).loses) fun _ _ h => h).map
  | all =>
    rw [Request.ask, allNamed_eq]
    exact ((settled.inOrder text [] rfl rfl).mono
      (fun _ _ h => h) fun _ _ _ => List.forall_mem_nil _).map
  | schema value context place =>
    have call := settled.call (n := nestingBound document) (c := .schema value context place) text
      trivial rfl
    exact (call.mono (fun _ _ h => h.lose (Request.Begins.schema value context place).loses)
      fun _ _ h => h).map

theorem askedFor_append (document : Json) (requests : List Request) (request : Request) :
    askedFor document (requests ++ [request]) = request.after document (askedFor document requests) := by
  rw [askedFor, List.foldl_append]
  rfl

/-- What is lost after some requests is what they have broken off. -/
theorem settled_askedFor (text : TextRefs document) (requests : List Request) :
    Settled document (Broken document requests) (askedFor document requests) := by
  induction requests using List.reverseRecOn with
  | nil => exact .start document _
  | append_singleton earlier request ih =>
    have more (name : String) (broken : Broken document earlier name) :
        Broken document (earlier ++ [request]) name := by
      obtain ⟨first, failed, later, rfl, breaks⟩ := broken
      exact ⟨first, failed, later ++ [request], by simp, breaks⟩
    have ends := ih.request text request
    rw [askedFor_append, Request.after]
    rcases done : outcome (request.ask document) (askedFor document earlier) with ⟨failure | types, r⟩
    · rw [done] at ends
      refine ends.lose fun name loses => ?_
      rcases loses with old | new
      · exact more name old
      · exact ⟨earlier, request, [], rfl, ⟨failure, by rw [done]⟩, new⟩
    · rw [done] at ends
      exact ends.1.lose more

/-- Whatever a resolver was asked for before, and whether it failed: if a request gives types, then the
names that these lead to through the table are defined in it, but for those of objects whose definitions
an earlier request broke off when it failed. -/
theorem defined_or_broken (text : TextRefs document) {requests : List Request} {request : Request}
    {types : List TypeExpr} {r : Resolver}
    (given : outcome (request.ask document) (askedFor document requests) = (.ok types, r))
    {name : String} (reached : r.table.Reaches types name) :
    (∃ d, r.table.get? name = some d) ∨ Broken document requests name := by
  have ends := (settled_askedFor text requests).request text request
  rw [given] at ends
  obtain ⟨settled, -, defined⟩ := ends
  cases reached with
  | root mem mentions => exact defined _ mem _ (TypeExpr.mem_references_iff.mpr mentions)
  | further _ found object mem mentions =>
    have promised := settled.closed.table _ (KeyMap.mem_values_of_get? found) _
      (TypeDefinition.mem_propertyTypes object mem)
    exact promised.defined settled.idle _ (TypeExpr.mem_references_iff.mpr mentions)

/-- Tracks and albums lead to one another, and a track to the list that it is in. -/
def playlists : Json :=
  listing [("Playlist", listOf (schemaRef "Track")),
    ("Track", record [("album", schemaRef "Album"), ("related", schemaRef "Playlist")]),
    ("Album", record [("single", schemaRef "Track")])]

def albumDefinition : TypeDefinition :=
  ⟨"Album", none, .object [⟨"single", .reference "Track", false, none, none, none⟩]⟩

theorem reaches_track {table : TypeTable} (album : table.get? "Album" = some albumDefinition) :
    table.Reaches [.reference "Album"] "Track" :=
  .further (.root (List.mem_singleton.mpr rfl) (TypeExpr.mem_references_iff.mp (by simp))) album rfl
    (List.mem_singleton.mpr rfl) (TypeExpr.mem_references_iff.mp (by simp))

/-- What is not there breaks nothing off. -/
theorem not_breaksOff_of_lost {n : Nat} {reference place name : String} {r : Resolver}
    (missing : lookup? document reference = none) :
    ¬Moment.BreaksOff document ⟨n, .reference reference place, r⟩ name := by
  rintro ⟨course, -, recurs, -⟩
  rcases Relation.ReflTransGen.cases_head course with same | ⟨m, makes, -⟩
  · cases same
    obtain ⟨target, here, -⟩ := recurs.object
    rw [missing] at here
    cases here
  · cases makes with
    | enum _ here | object _ here | other _ here =>
      rw [missing] at here
      cases here

/-- What comes of asking for an album after another request. -/
def albumAfter (request : Request) : Except Failure (List TypeExpr) × Resolver :=
  outcome ((Request.named "Album").ask playlists) (askedFor playlists [request])

/-- What is given and where it leads are read off one computation. -/
theorem given_and_reaches_track {request : Request}
    (computed : (match albumAfter request with
      | (types, r) => (types.toOption, r.table.get? "Album")) =
        (some [.reference "Album"], some albumDefinition)) :
    ∃ r, albumAfter request = (.ok [.reference "Album"], r) ∧
      r.table.Reaches [.reference "Album"] "Track" := by
  generalize albumAfter request = after at computed ⊢
  obtain ⟨types, r⟩ := after
  obtain ⟨given, album⟩ := Prod.mk.inj computed
  exact ⟨r, congrArg (·, r) (toOption_eq_some_iff.mp given), reaches_track album⟩

/-- An album can be had after a request that failed at once. -/
theorem defined_or_broken_album :
    (∃ failure, (outcome ((Request.named "Ghost").ask playlists) .start).1 = .error failure) ∧
    ∃ types r, albumAfter (.named "Ghost") = (.ok types, r) ∧ r.table.Reaches types "Track" ∧
      ∃ d, r.table.get? "Track" = some d := by
  obtain ⟨r, given, reached⟩ : ∃ r, albumAfter (.named "Ghost") = (.ok [.reference "Album"], r) ∧
      r.table.Reaches [.reference "Album"] "Track" := given_and_reaches_track (by decide)
  refine ⟨⟨_, rfl⟩, _, _, given, reached, ?_⟩
  refine (defined_or_broken (by decide) given reached).resolve_right ?_
  rintro ⟨earlier, request, later, split, -, m, begins, breaks⟩
  obtain ⟨rfl, same⟩ : earlier = [] ∧ [Request.named "Ghost"] = request :: later := by
    cases earlier with
    | nil => exact ⟨rfl, split⟩
    | cons first rest => simp at split
  cases same
  cases begins
  exact not_breaksOff_of_lost (by decide) breaks

/-- Resolving the list fails while a track is made, but an album is defined by then that goes by the name
of the track. The album is given later as if nothing was missing. -/
theorem track_missing :
    (∃ failure, (outcome ((Request.named "Playlist").ask playlists) .start).1 = .error failure) ∧
    ∃ types r, albumAfter (.named "Playlist") = (.ok types, r) ∧ r.table.Reaches types "Track" ∧
      r.table.get? "Track" = none := by
  obtain ⟨r, given, reached⟩ : ∃ r, albumAfter (.named "Playlist") = (.ok [.reference "Album"], r) ∧
      r.table.Reaches [.reference "Album"] "Track" := given_and_reaches_track (by decide)
  have missing : (albumAfter (.named "Playlist")).2.table.get? "Track" = none := by
    decide
  rw [given] at missing
  exact ⟨⟨_, rfl⟩, _, r, given, reached, missing⟩

end Api
end Scaffold
