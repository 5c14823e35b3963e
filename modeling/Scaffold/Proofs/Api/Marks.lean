/-
The marks for null that a schema comes to. A schema that is an alias, in one form or another, has its
own marks and those of what it stands for (`Tail`). A chain of references through such schemas ends at a
type that is known or has a definition of its own, and whether the type of the first one can be null
depends on that and on the marks on the way, and on nothing else of the state: `answers_of_run`.
-/
import Scaffold.Proofs.Api.Moments
import Scaffold.Proofs.Api.Nesting

namespace Scaffold
namespace Api

open Resolver Resolve Json.Pointer

variable {document document' : Json}

/-! ## Where null comes from -/

/-- Whether a schema of the form can be null, if that does not depend on another type. -/
def Schema.Form.nullable? : Schema.Form → Option Bool
  | .reference _ _ => none
  | .inner _ _ _ (.same _) => none
  | .inner _ _ _ (.list nullable) => some nullable
  | .inner _ _ _ (.map nullable) => some nullable
  | .object nullable => some nullable
  | .enum nullable => some nullable
  | .plain type => some type.isNullable

/-- The marks of a schema and of the inner ones it stands for, and the reference that these come to in
the end, if there is one. -/
inductive Tail : Json → Bool → Option String → Prop where
  | own {schema : Json} {nullable : Bool} (form : (Schema.form schema).nullable? = some nullable) :
      Tail schema nullable none
  | reference {schema : Json} {reference : String} (ref : Schema.ref? schema = some reference) :
      Tail schema (Schema.isNullable schema) (some reference)
  | inner {schema inner : Json} {suffix segment : String} {nullable marks : Bool}
      {last : Option String} (form : Schema.form schema = .inner inner suffix segment (.same nullable))
      (rest : Tail inner marks last) : Tail schema (nullable || marks) last

theorem Tail.unique {schema : Json} {marks marks' : Bool} {last last' : Option String}
    (tail : Tail schema marks last) (tail' : Tail schema marks' last') :
    marks' = marks ∧ last' = last := by
  induction tail generalizing marks' last' with
  | own form =>
    cases tail' with
    | own form' =>
      rw [form] at form'
      exact ⟨(Option.some.inj form').symm, rfl⟩
    | reference ref =>
      rw [Schema.form_of_ref? ref] at form
      cases form
    | inner form' =>
      rw [form'] at form
      cases form
  | reference ref =>
    cases tail' with
    | own form =>
      rw [Schema.form_of_ref? ref] at form
      cases form
    | reference ref' =>
      rw [ref] at ref'
      exact ⟨rfl, ref'.symm⟩
    | inner form =>
      rw [Schema.form_of_ref? ref] at form
      cases form
  | inner form _ ih =>
    cases tail' with
    | own form' =>
      rw [form] at form'
      cases form'
    | reference ref =>
      rw [Schema.form_of_ref? ref] at form
      cases form
    | inner form' rest =>
      rw [form] at form'
      cases form'
      obtain ⟨rfl, rfl⟩ := ih rest
      exact ⟨rfl, rfl⟩

theorem Tail.asksFor {schema : Json} {marks : Bool} {last : Option String} {reference : String}
    (tail : Tail schema marks last) (ends : last = some reference) :
    AsksFor document schema reference := by
  induction tail with
  | own => cases ends
  | reference ref =>
    cases ends
    exact ⟨_, _, .refl, Schema.form_of_ref? ref⟩
  | inner form _ ih => exact (ih ends).of_below (.inner form)

/-- What a schema is resolved to has the marks that it comes to, and those of the type that is asked for
in the end. -/
theorem tail_of_run {n : Nat} {schema : Json} {context place : String} {type : TypeExpr}
    {r r' : Resolver} (run : Run document n (.schema schema context place) r (.ok type) r') :
    Tail schema type.isNullable none ∨ ∃ marks reference place' last,
      Tail schema marks (some reference) ∧
        Run document n (.reference reference place') r (.ok last) r' ∧
        type.isNullable = (marks || last.isNullable) := by
  induction n generalizing schema context place type with
  | zero => cases run
  | succ n ih =>
    generalize same : Except.ok type = o at run
    cases run with
    | asked form run =>
      obtain ⟨last, rfl, rfl⟩ := eq_ok_of_map same.symm
      have ref := Schema.ref?_of_form_reference form
      rw [Schema.form_of_ref? ref] at form
      cases form
      exact .inr ⟨_, _, _, last, .reference ref, run.deepen (Run.complete_ok _) n.le_succ, rfl⟩
    | inner form run =>
      obtain ⟨t, rfl, rfl⟩ := eq_ok_of_map same.symm
      rename_i wrap
      cases wrap with
      | list nullable | map nullable => exact .inl (.own (by rw [form]; rfl))
      | same nullable =>
        obtain tail | ⟨marks, reference, place', last, tail, run, marked⟩ := ih run
        · exact .inl (.inner form tail)
        · refine .inr ⟨_, reference, place', last, .inner form tail,
            run.deepen (Run.complete_ok _) n.le_succ, ?_⟩
          show (nullable || t.isNullable) = _
          rw [marked, Bool.or_assoc]
    | inlineObject form | inlineEnum form =>
      obtain ⟨t, -, rfl⟩ := eq_ok_of_map same.symm
      exact .inl (.own (by rw [form]; rfl))
    | plain form =>
      cases same
      exact .inl (.own (by rw [form]; rfl))

theorem isNullable_of_enum {n : Nat} {name place : String} {schema : Json} {type : TypeExpr}
    {r r' : Resolver} (run : Run document n (.enum name schema place) r (.ok type) r') :
    type.isNullable = false := by
  cases run with
  | enum => rfl

theorem isNullable_of_object {n : Nat} {name place : String} {schema : Json} {type : TypeExpr}
    {r r' : Resolver} (run : Run document n (.object name schema place) r (.ok type) r') :
    type.isNullable = false := by
  cases run with
  | object => rfl

/-! ## Chains of aliases -/

/-- The type of a reference is that of another one, up to marks for null. -/
def Links (document : Json) (reference next : String) : Prop :=
  ∃ target marks, lookup? document reference = some target ∧ Schema.kind target = .other ∧
    Tail target marks (some next)

theorem Links.leads {reference next : String} (links : Links document reference next) :
    Leads document reference next := by
  obtain ⟨target, marks, here, kind, tail⟩ := links
  exact (tail.asksFor rfl).leads (.target here kind)

theorem leads_of_links {reference next : String}
    (chain : Relation.TransGen (Links document) reference next) :
    Relation.TransGen (Leads document) reference next :=
  Relation.TransGen.mono (fun _ _ => Links.leads) _ _ chain

def Resolver.nullable? (r : Resolver) (reference : String) : Option Bool :=
  (r.resolved.get? reference).map (·.isNullable)

theorem nullable?_of_known {r : Resolver} {reference : String} {type : TypeExpr}
    (known : r.resolved.get? reference = some type) :
    r.nullable? reference = some type.isNullable := by
  rw [Resolver.nullable?, known]
  rfl

/-- Whether the type that a reference is given can be null, where this is known of some references and
the given ones are gone through already. -/
inductive Answers (document : Json) (nulls : String → Option Bool) :
    List String → String → Bool → Prop where
  | known {entered : List String} {reference : String} {nullable : Bool}
      (known : nulls reference = some nullable) : Answers document nulls entered reference nullable
  | closed {entered : List String} {reference : String} (new : nulls reference = none)
      (met : reference ∈ entered) : Answers document nulls entered reference false
  | named {entered : List String} {reference : String} {target : Json}
      (new : nulls reference = none) (free : reference ∉ entered)
      (here : lookup? document reference = some target) (kind : Schema.kind target ≠ .other) :
      Answers document nulls entered reference false
  | own {entered : List String} {reference : String} {target : Json} {marks : Bool}
      (new : nulls reference = none) (free : reference ∉ entered)
      (here : lookup? document reference = some target) (kind : Schema.kind target = .other)
      (tail : Tail target marks none) : Answers document nulls entered reference marks
  | passed {entered : List String} {reference next : String} {target : Json} {marks rest : Bool}
      (new : nulls reference = none) (free : reference ∉ entered)
      (here : lookup? document reference = some target) (kind : Schema.kind target = .other)
      (tail : Tail target marks (some next))
      (answers : Answers document nulls (reference :: entered) next rest) :
      Answers document nulls entered reference (marks || rest)

/-- The answer is the same wherever the chain has the same behind it, whatever was gone through apart
from it. -/
theorem Answers.unique {nulls nulls' : String → Option Bool} {entered entered' : List String}
    {reference : String} {nullable nullable' : Bool}
    (answers : Answers document nulls entered reference nullable)
    (answers' : Answers document' nulls' entered' reference nullable')
    (alike : ∀ q, Relation.ReflTransGen (Links document) reference q →
      lookup? document' q = lookup? document q ∧ nulls' q = nulls q ∧
        (q ∈ entered ↔ q ∈ entered')) : nullable' = nullable := by
  induction answers generalizing entered' nullable' with
  | known known =>
    obtain ⟨-, same, -⟩ := alike _ .refl
    cases answers' with
    | known known' =>
      rw [same, known] at known'
      cases known'
      rfl
    | closed new | named new | own new | passed new =>
      rw [same, known] at new
      cases new
  | closed new met =>
    obtain ⟨-, same, both⟩ := alike _ .refl
    cases answers' with
    | known known =>
      rw [same, new] at known
      cases known
    | closed => rfl
    | named _ free | own _ free | passed _ free => exact absurd (both.mp met) free
  | named new free here kind =>
    obtain ⟨there, same, both⟩ := alike _ .refl
    cases answers' with
    | known known =>
      rw [same, new] at known
      cases known
    | closed _ met => exact absurd (both.mpr met) free
    | named => rfl
    | own _ _ here' kind' | passed _ _ here' kind' =>
      rw [there, here] at here'
      cases here'
      exact absurd kind' kind
  | own new free here kind tail =>
    obtain ⟨there, same, both⟩ := alike _ .refl
    cases answers' with
    | known known =>
      rw [same, new] at known
      cases known
    | closed _ met => exact absurd (both.mpr met) free
    | named _ _ here' kind' =>
      rw [there, here] at here'
      cases here'
      exact absurd kind kind'
    | own _ _ here' _ tail' =>
      rw [there, here] at here'
      cases here'
      exact (tail.unique tail').1
    | passed _ _ here' _ tail' =>
      rw [there, here] at here'
      cases here'
      cases (tail.unique tail').2
  | @passed _ _ next target _ _ new free here kind tail _ ih =>
    obtain ⟨there, same, both⟩ := alike _ .refl
    cases answers' with
    | known known =>
      rw [same, new] at known
      cases known
    | closed _ met => exact absurd (both.mpr met) free
    | named _ _ here' kind' =>
      rw [there, here] at here'
      cases here'
      exact absurd kind kind'
    | own _ _ here' _ tail' =>
      rw [there, here] at here'
      cases here'
      cases (tail.unique tail').2
    | passed _ _ here' _ tail' rest' =>
      rw [there, here] at here'
      cases here'
      obtain ⟨rfl, last⟩ := tail.unique tail'
      cases last
      have step : Links document _ next := ⟨target, _, here, kind, tail⟩
      rw [ih rest' fun q links => by
        obtain ⟨there, same, both⟩ := alike q (.head step links)
        exact ⟨there, same, by rw [List.mem_cons, List.mem_cons, both]⟩]

/-- What a run answers, in a state that only differs in what the chain came through. -/
theorem answers_of_run {n : Nat} {reference place : String} {entered : List String} {type : TypeExpr}
    {r r₁ r' : Resolver} (run : Run document n (.reference reference place) r₁ (.ok type) r')
    (resolved : r₁.resolved = r.resolved) (progress : r₁.inProgress = entered ++ r.inProgress)
    (clear : ∀ q ∈ r.inProgress, ¬Relation.ReflTransGen (Links document) reference q) :
    Answers document r.nullable? entered reference type.isNullable := by
  induction n generalizing reference place entered type r₁ r' with
  | zero => cases run
  | succ n ih =>
    have out : reference ∈ r₁.inProgress → reference ∈ entered := fun met => by
      rw [progress] at met
      exact (List.mem_append.mp met).resolve_right fun old => clear _ old .refl
    have unknown (new : r₁.resolved.get? reference = none) : r.nullable? reference = none := by
      rw [Resolver.nullable?, ← resolved, new]
      rfl
    have into : reference ∈ entered → reference ∈ r₁.inProgress := fun met => by
      rw [progress]
      exact List.mem_append_left _ met
    generalize same : Except.ok type = o at run
    cases run with
    | known known =>
      cases same
      exact .known (nullable?_of_known (resolved ▸ known))
    | lost | unclosed => cases same
    | closed new _ met =>
      cases same
      exact .closed (unknown new) (out met)
    | madeEnum new here free kind made =>
      subst same
      rw [isNullable_of_enum made]
      exact .named (unknown new) (fun met => free (into met)) here (by simp [kind])
    | madeObject new here free kind made =>
      subst same
      rw [isNullable_of_object made]
      exact .named (unknown new) (fun met => free (into met)) here (by simp [kind])
    | madeOther new here free kind made =>
      subst same
      have fresh : reference ∉ entered := fun met => free (into met)
      obtain tail | ⟨marks, next, place', last, tail, run, marked⟩ := tail_of_run made
      · exact .own (unknown new) fresh here kind tail
      · have links : Links document reference next := ⟨_, marks, here, kind, tail⟩
        have progress' : reference :: r₁.inProgress = (reference :: entered) ++ r.inProgress := by
          rw [progress, List.cons_append]
        rw [marked]
        refine .passed (unknown new) fresh here kind tail
          (ih run resolved progress' fun q met chain => ?_)
        exact clear q met (.head links chain)

/-- Whether the type of a schema can be null: by its own marks, or by what is passed on to it. -/
def Marked (document : Json) (nulls : String → Option Bool) (entered : List String) (schema : Json)
    (nullable : Bool) : Prop :=
  Tail schema nullable none ∨ ∃ marks next rest, Tail schema marks (some next) ∧
    Answers document nulls entered next rest ∧ nullable = (marks || rest)

theorem Marked.unique {nulls nulls' : String → Option Bool} {entered entered' : List String}
    {schema : Json} {nullable nullable' : Bool}
    (marked : Marked document nulls entered schema nullable)
    (marked' : Marked document' nulls' entered' schema nullable')
    (alike : ∀ marks next, Tail schema marks (some next) →
      ∀ q, Relation.ReflTransGen (Links document) next q →
        lookup? document' q = lookup? document q ∧ nulls' q = nulls q ∧
          (q ∈ entered ↔ q ∈ entered')) : nullable' = nullable := by
  obtain tail | ⟨marks, next, rest, tail, answers, rfl⟩ := marked <;>
    obtain tail' | ⟨marks', next', rest', tail', answers', rfl⟩ := marked'
  · exact (tail.unique tail').1
  · cases (tail.unique tail').2
  · cases (tail.unique tail').2
  · obtain ⟨rfl, last⟩ := tail.unique tail'
    cases last
    rw [answers.unique answers' (alike _ _ tail)]

theorem marked_of_run {n : Nat} {schema : Json} {context place : String} {entered : List String}
    {type : TypeExpr} {r r₁ r' : Resolver}
    (run : Run document n (.schema schema context place) r₁ (.ok type) r')
    (resolved : r₁.resolved = r.resolved) (progress : r₁.inProgress = entered ++ r.inProgress)
    (clear : ∀ marks next, Tail schema marks (some next) →
      ∀ q ∈ r.inProgress, ¬Relation.ReflTransGen (Links document) next q) :
    Marked document r.nullable? entered schema type.isNullable := by
  obtain tail | ⟨marks, next, place', last, tail, asked, marked⟩ := tail_of_run run
  · exact .inl tail
  · exact .inr ⟨marks, next, _, tail,
      answers_of_run asked resolved progress (clear marks next tail), marked⟩

end Api
end Scaffold
