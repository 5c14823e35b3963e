/-
The moments of a run: each call with the state in which it is made. A call makes further calls
(`Moment.Makes`), and all calls come of those that are made while nothing is in progress (`Arises`). What
is in progress at such a moment leads to everything that the call asks for: `Arises.stacked`.
-/
import Scaffold.Proofs.Api.Cycles
import Scaffold.Proofs.Api.Entries

namespace Scaffold
namespace Api

open Resolver Resolve Json.Pointer

variable {document : Json}

/-- A call, how deep further ones may be nested in it, and the state in which it is made. -/
structure Moment where
  depth : Nat
  call : Call
  state : Resolver

/-- The first call makes the second one, right away or after what it made before. -/
inductive Moment.Makes (document : Json) : Moment → Moment → Prop where
  | enum {n : Nat} {reference place : String} {target : Json} {r : Resolver}
      (new : r.resolved.get? reference = none) (here : lookup? document reference = some target)
      (free : reference ∉ r.inProgress) (kind : Schema.kind target = .enum) :
      Makes document ⟨n + 1, .reference reference place, r⟩
        ⟨n, .enum (r.nameFor (lastSegment reference) reference) target reference,
          (r.claim (lastSegment reference) reference).enter reference⟩
  | object {n : Nat} {reference place : String} {target : Json} {r : Resolver}
      (new : r.resolved.get? reference = none) (here : lookup? document reference = some target)
      (free : reference ∉ r.inProgress) (kind : Schema.kind target = .object) :
      Makes document ⟨n + 1, .reference reference place, r⟩
        ⟨n, .object (r.nameFor (lastSegment reference) reference) target reference,
          (r.claim (lastSegment reference) reference).enter reference⟩
  | other {n : Nat} {reference place : String} {target : Json} {r : Resolver}
      (new : r.resolved.get? reference = none) (here : lookup? document reference = some target)
      (free : reference ∉ r.inProgress) (kind : Schema.kind target = .other) :
      Makes document ⟨n + 1, .reference reference place, r⟩
        ⟨n, .schema target (r.nameFor (lastSegment reference) reference) reference,
          (r.claim (lastSegment reference) reference).enter reference⟩
  | asked {n : Nat} {schema : Json} {context place reference : String} {wrap : Schema.Wrap}
      {r : Resolver} (form : Schema.form schema = .reference reference wrap) :
      Makes document ⟨n + 1, .schema schema context place, r⟩ ⟨n, .reference reference place, r⟩
  | inner {n : Nat} {schema inner : Json} {context place suffix segment : String}
      {wrap : Schema.Wrap} {r : Resolver}
      (form : Schema.form schema = .inner inner suffix segment wrap) :
      Makes document ⟨n + 1, .schema schema context place, r⟩
        ⟨n, .schema inner (context ++ suffix) (child place segment), r⟩
  | inlineObject {n : Nat} {schema : Json} {context place : String} {nullable : Bool} {r : Resolver}
      (form : Schema.form schema = .object nullable) :
      Makes document ⟨n + 1, .schema schema context place, r⟩
        ⟨n, .object (r.nameFor context place) schema place, r.claim context place⟩
  | inlineEnum {n : Nat} {schema : Json} {context place : String} {nullable : Bool} {r : Resolver}
      (form : Schema.form schema = .enum nullable) :
      Makes document ⟨n + 1, .schema schema context place, r⟩
        ⟨n, .enum (r.nameFor context place) schema place, r.claim context place⟩
  | gather {n : Nat} {name place : String} {schema : Json} {r : Resolver} :
      Makes document ⟨n + 1, .object name schema place, r⟩ ⟨n, .gather name schema place ⟨[], []⟩, r⟩
  | followed {n : Nat} {owner place reference : String} {schema target : Json} {g : Gathered}
      {r : Resolver} (ref : Schema.ref? schema = some reference) (new : reference ∉ g.seen)
      (here : lookup? document reference = some target) :
      Makes document ⟨n + 1, .gather owner schema place g, r⟩
        ⟨n, .gather owner target reference { g with seen := reference :: g.seen }, r⟩
  | parts {n : Nat} {owner place : String} {schema : Json} {g : Gathered} {r : Resolver}
      (ref : Schema.ref? schema = none) :
      Makes document ⟨n + 1, .gather owner schema place g, r⟩
        ⟨n, .parts owner (schema.itemsAt "allOf").zipIdx (child place "allOf") g, r⟩
  | members {n : Nat} {owner place : String} {schema : Json} {g g' : Gathered} {r r' : Resolver}
      (ref : Schema.ref? schema = none)
      (parts : Run document n
        (.parts owner (schema.itemsAt "allOf").zipIdx (child place "allOf") g) r (.ok g') r') :
      Makes document ⟨n + 1, .gather owner schema place g, r⟩
        ⟨n, .members owner (requiredNames schema) (schema.membersAt "properties")
          (child place "properties") g', r'⟩
  | part {n i : Nat} {owner place : String} {part : Json} {rest : List (Json × Nat)} {g : Gathered}
      {r : Resolver} :
      Makes document ⟨n, .parts owner ((part, i) :: rest) place g, r⟩
        ⟨n, .gather owner part (child place (toString i)) g, r⟩
  | otherParts {n i : Nat} {owner place : String} {part : Json} {rest : List (Json × Nat)}
      {g g' : Gathered} {r r' : Resolver}
      (first : Run document n (.gather owner part (child place (toString i)) g) r (.ok g') r') :
      Makes document ⟨n, .parts owner ((part, i) :: rest) place g, r⟩
        ⟨n, .parts owner rest place g', r'⟩
  | member {n : Nat} {owner place name : String} {required : List String} {value : Json}
      {rest : List (String × Json)} {g : Gathered} {r : Resolver} :
      Makes document ⟨n, .members owner required ((name, value) :: rest) place g, r⟩
        ⟨n, .schema value (owner ++ Text.pascalCase name) (child place name), r⟩
  | otherMembers {n : Nat} {owner place name : String} {required : List String} {value : Json}
      {rest : List (String × Json)} {g : Gathered} {type : TypeExpr} {r r' : Resolver}
      (first : Run document n
        (.schema value (owner ++ Text.pascalCase name) (child place name)) r (.ok type) r') :
      Makes document ⟨n, .members owner required ((name, value) :: rest) place g, r⟩
        ⟨n, .members owner required rest place { g with
          properties := putProperty (typedProperty required name value type) g.properties }, r'⟩

/-- A state between the calls for a document: names were claimed, definitions were offered, and calls
have come to their ends. -/
inductive Paused (document : Json) : Resolver → Prop where
  | start : Paused document .start
  | claimed {r : Resolver} (wanted place : String) (before : Paused document r) :
      Paused document (r.claim wanted place)
  | offered {r : Resolver} (place : String) (source : Source) (d : TypeDefinition)
      (before : Paused document r) : Paused document (r.offer place source d)
  | ran {n : Nat} {c : Call} {r r' : Resolver} {o : Except Failure c.Answer}
      (before : Paused document r) (run : Run document n c r o r') : Paused document r'

theorem Paused.inProgress_eq_nil {r : Resolver} (h : Paused document r) : r.inProgress = [] := by
  induction h with
  | start => rfl
  | claimed _ _ _ ih | offered _ _ _ _ ih => exact ih
  | ran _ run ih => exact (run_inProgress run).trans ih

/-- The call is made in the course of one that was made between calls. -/
def Arises (document : Json) (m : Moment) : Prop :=
  ∃ first, Paused document first.state ∧
    Relation.ReflTransGen (Moment.Makes document) first m

theorem ensures_paused (n : Nat) (c : Call) :
    Ensures (Paused document) (fun _ => Paused document) (fun _ => True) (c.compute document n)
      fun _ _ => True :=
  .of_run fun run before => before.ran run

theorem steady_paused :
    Steady document (Paused document) (fun _ _ => True) fun _ => Paused document where
  lasting _ := .const True
  fails before _ := before
  schema {schema context place} _ :=
    ensures_paused (nestingBound document) (.schema schema context place)
  claim _ _ before := before.claimed _ _
  form _ before _ _ := ⟨before.offered _ _ _, trivial⟩

/-- Whatever is resolved for a document, in any order, its calls are made in such states. -/
theorem ReachedByDocument.paused {r : Resolver} (h : ReachedByDocument document r) :
    Paused document r := by
  have named (name : String) :
      Ensures (Paused document) (fun _ => Paused document) (fun _ => True) (ofName document name)
        fun _ _ => True :=
    ensures_paused (nestingBound document)
      (.reference (child (schemasPrefix document) name) (schemasPrefix document))
  induction h with
  | start => exact .start
  | all _ ih => exact (ensures_allNamed fun {name _} _ => named name).kept ih
  | named _ name ih => exact (named name).kept ih
  | operations _ ih => exact steady_paused.operations_spec.kept ih

/-! ## What calls ask for -/

/-- The schema asks for the type of the reference, itself or below. -/
def AsksFor (document schema : Json) (reference : String) : Prop :=
  ∃ last wrap, Relation.ReflTransGen (Below document) schema last ∧
    Schema.form last = .reference reference wrap

/-- A property that is gathered for the schema asks for the type of the reference. -/
def OwnsAsking (document schema : Json) (reference : String) : Prop :=
  ∃ property, Owns document schema property ∧ AsksFor document property reference

/-- The call can ask for the type of the reference. -/
def Call.Asks (document : Json) : Call → String → Prop
  | .reference asked _, next => next = asked
  | .schema value _ _, next => AsksFor document value next
  | .enum .., _ => False
  | .object _ value _, next => OwnsAsking document value next
  | .gather _ value _ _, next => OwnsAsking document value next
  | .parts _ list _ _, next => ∃ part ∈ list, OwnsAsking document part.1 next
  | .members _ _ list _ _, next => ∃ member ∈ list, AsksFor document member.2 next

theorem AsksFor.leads {reference next : String} {schema : Json}
    (enters : Enters document reference schema) (asks : AsksFor document schema next) :
    Leads document reference next := by
  obtain ⟨last, wrap, chain, form⟩ := asks
  have entered : Enters document reference last := by
    clear form
    induction chain with
    | refl => exact enters
    | tail _ step ih => exact .further ih step
  exact ⟨last, wrap, entered, form⟩

theorem AsksFor.of_below {schema next : Json} {reference : String} (step : Below document schema next)
    (asks : AsksFor document next reference) : AsksFor document schema reference := by
  obtain ⟨last, wrap, chain, form⟩ := asks
  exact ⟨last, wrap, .head step chain, form⟩

/-- A further call asks for nothing new, unless it makes the type of a reference that leads there. -/
theorem Moment.Makes.asks {m m' : Moment} (makes : Makes document m m') :
    (m'.state.inProgress = m.state.inProgress ∧
      ∀ reference, m'.call.Asks document reference → m.call.Asks document reference) ∨
    ∃ reference, m.call.Asks document reference ∧
      m'.state.inProgress = reference :: m.state.inProgress ∧
      ∀ next, m'.call.Asks document next → Leads document reference next := by
  cases makes with
  | @enum _ reference => exact .inr ⟨reference, rfl, rfl, fun _ asks => asks.elim⟩
  | @object _ reference _ _ _ _ here _ kind =>
    exact .inr ⟨reference, rfl, rfl, fun _ ⟨_, owns, asks⟩ => asks.leads (.property here kind owns)⟩
  | @other _ reference _ _ _ _ here _ kind =>
    exact .inr ⟨reference, rfl, rfl, fun _ asks => asks.leads (.target here kind)⟩
  | asked form => exact .inl ⟨rfl, fun _ same => ⟨_, _, .refl, same ▸ form⟩⟩
  | inner form => exact .inl ⟨rfl, fun _ asks => asks.of_below (.inner form)⟩
  | inlineObject form =>
    exact .inl ⟨rfl, fun _ ⟨_, owns, asks⟩ => asks.of_below (.property form owns)⟩
  | inlineEnum => exact .inl ⟨rfl, fun _ asks => asks.elim⟩
  | gather => exact .inl ⟨rfl, fun _ asks => asks⟩
  | followed ref _ here =>
    exact .inl ⟨rfl, fun _ ⟨_, owns, asks⟩ =>
      ⟨_, owns.of_gathers (.reference ref here (.here _)), asks⟩⟩
  | parts ref =>
    exact .inl ⟨rfl, fun _ ⟨p, mem, _, owns, asks⟩ =>
      ⟨_, owns.of_gathers (.part ref (List.fst_mem_of_mem_zipIdx mem) (.here p.1)), asks⟩⟩
  | members ref parts =>
    exact .inl ⟨run_inProgress parts, fun _ ⟨p, mem, asks⟩ =>
      ⟨_, ⟨_, p.1, .here _, ref, mem⟩, asks⟩⟩
  | part => exact .inl ⟨rfl, fun _ owns => ⟨_, List.mem_cons_self, owns⟩⟩
  | otherParts first =>
    exact .inl ⟨run_inProgress first, fun _ ⟨p, mem, owns⟩ =>
      ⟨p, List.mem_cons_of_mem _ mem, owns⟩⟩
  | member => exact .inl ⟨rfl, fun _ asks => ⟨_, List.mem_cons_self, asks⟩⟩
  | otherMembers first =>
    exact .inl ⟨run_inProgress first, fun _ ⟨p, mem, asks⟩ =>
      ⟨p, List.mem_cons_of_mem _ mem, asks⟩⟩

/-- Everything in progress leads to all that is asked for. -/
def Moment.Stacked (document : Json) (m : Moment) : Prop :=
  ∀ q ∈ m.state.inProgress, ∀ reference, m.call.Asks document reference →
    Relation.TransGen (Leads document) q reference

theorem Moment.Stacked.makes {m m' : Moment} (stacked : m.Stacked document)
    (makes : Makes document m m') : m'.Stacked document := by
  intro q met next asks
  obtain ⟨progress, fewer⟩ | ⟨reference, asked, progress, leads⟩ := makes.asks
  · rw [progress] at met
    exact stacked q met next (fewer next asks)
  · rw [progress] at met
    rcases List.mem_cons.mp met with rfl | old
    · exact .single (leads next asks)
    · exact (stacked q old reference asked).tail (leads next asks)

theorem Moment.stacked_of_inProgress {m : Moment} (idle : m.state.inProgress = []) :
    m.Stacked document := by
  intro q met
  rw [idle] at met
  cases met

theorem Arises.stacked {m : Moment} (arises : Arises document m) : m.Stacked document := by
  obtain ⟨first, paused, chain⟩ := arises
  induction chain with
  | refl => exact Moment.stacked_of_inProgress paused.inProgress_eq_nil
  | tail _ makes ih => exact ih.makes makes

end Api
end Scaffold
