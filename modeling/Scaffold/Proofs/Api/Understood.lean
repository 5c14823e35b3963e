/-
Runs resolve types as they are meant. The types and definitions that a run gives are those that the
document denotes: `run_understood`. Names may be numbered in the course of a run, so they are read as the
places that own them unless each was given as it was wanted. Marks for null may be lost where a cycle
closes behind a marked alias, so types are compared without marks unless no such alias is part of a cycle.
-/
import Scaffold.Proofs.Api.History
import Scaffold.Proofs.Api.Meaning

namespace Scaffold
namespace Api

open Resolver Resolve Json.Pointer

variable {document : Json} {marks names : Bool}

/-! ## Types as their names are read -/

/-- The place that owns a name. -/
def ownerOf (r : Resolver) (name : String) : String :=
  (r.names.get? name).getD ""

/-- How the names of a run are read: as themselves if names matter, and else as the places that own them. -/
def reading (names : Bool) (r : Resolver) : String → String :=
  match names with
  | true => id
  | false => ownerOf r

theorem reading_eq (names : Bool) {r : Resolver} {name place : String}
    (owner : r.names.get? name = some place) : reading names r name = label names name place := by
  cases names with
  | false => simp [reading, ownerOf, owner, label]
  | true => rfl

theorem eq_of_reading {r r' : Resolver} {name name' : String}
    (same : reading names r' name' = reading names r name) (matter : names = true) : name' = name := by
  subst matter
  exact same

/-- All names in a type have owners, and as they are read the type is the given one. -/
structure Shown (marks names : Bool) (meaning t : TypeExpr) (r : Resolver) : Prop where
  owned : ∀ name ∈ t.references, ∃ place, r.names.get? name = some place
  same : t.view (reading names r) marks = meaning.view id marks

theorem reading_of_keeps {r r' : Resolver} (keeps : KeepsNames r r') {name : String}
    (owned : ∃ place, r.names.get? name = some place) :
    reading names r' name = reading names r name := by
  obtain ⟨place, owner⟩ := owned
  rw [reading_eq names owner, reading_eq names (keeps name place owner)]

namespace Shown

variable {meaning t : TypeExpr} {r r' : Resolver}

theorem mono (h : Shown marks names meaning t r) (keeps : KeepsNames r r') : Shown marks names meaning t r' where
  owned name mem := by
    obtain ⟨place, owner⟩ := h.owned name mem
    exact ⟨place, keeps name place owner⟩
  same := by
    rw [← h.same]
    exact TypeExpr.view_congr t fun name mem => reading_of_keeps keeps (h.owned name mem)

theorem apply (h : Shown marks names meaning t r) (wrap : Schema.Wrap) :
    Shown marks names (wrap.apply meaning) (wrap.apply t) r where
  owned name mem := h.owned name (Schema.references_apply wrap t ▸ mem)
  same := Schema.view_apply_congr wrap h.same

theorem withNullable (h : Shown marks names meaning t r) (nullable : Bool) :
    Shown marks names (meaning.withNullable nullable) (t.withNullable nullable) r where
  owned name mem := h.owned name (TypeExpr.references_withNullable t nullable ▸ mem)
  same := by rw [TypeExpr.view_withNullable, TypeExpr.view_withNullable, h.same]

theorem reference {name place : String} (owner : r.names.get? name = some place) :
    Shown marks names (.reference (label names name place)) (.reference name) r where
  owned n mem := by
    rw [TypeExpr.references_reference, List.mem_singleton] at mem
    exact ⟨place, mem ▸ owner⟩
  same := by simp [reading_eq names owner]

theorem enumeration {name place : String} (owner : r.names.get? name = some place) :
    Shown marks names (.enumeration (label names name place)) (.enumeration name) r where
  owned n mem := by
    rw [TypeExpr.references_enumeration, List.mem_singleton] at mem
    exact ⟨place, mem ▸ owner⟩
  same := by simp [reading_eq names owner]

theorem of_no_references (none : t.references = []) : Shown marks names t t r where
  owned name mem := by simp [none] at mem
  same := TypeExpr.view_congr t fun name mem => by simp [none] at mem

end Shown

/-- A type is what a query denotes. -/
def Meant (document : Json) (marks names : Bool) (query : Query) (t : TypeExpr) (r : Resolver) : Prop :=
  ∃ meaning, Denotes document names query meaning ∧ Shown marks names meaning t r

theorem Meant.mono {query : Query} {t : TypeExpr} {r r' : Resolver}
    (h : Meant document marks names query t r) (keeps : KeepsNames r r') :
    Meant document marks names query t r' := by
  obtain ⟨meaning, denotes, shown⟩ := h
  exact ⟨meaning, denotes, shown.mono keeps⟩

/-! ## Properties as their names are read -/

theorem view_putProperty (f : String → String) (p : TypedProperty) (ps : List TypedProperty) :
    (putProperty p ps).map (·.view f marks) =
      putProperty (p.view f marks) (ps.map (·.view f marks)) := by
  induction ps with
  | nil => rfl
  | cons q rest ih =>
    rw [List.map_cons, putProperty, putProperty]
    by_cases same : q.name = p.name
    · have same' : (q.view f marks).name = (p.view f marks).name := same
      rw [if_pos same, if_pos same', List.map_cons]
    · have other : (q.view f marks).name ≠ (p.view f marks).name := same
      rw [if_neg same, if_neg other, List.map_cons, ih]

/-- What was gathered is the given, as names are read. -/
structure ShownAll (marks names : Bool) (meaning g : Gathered) (r : Resolver) : Prop where
  seen : g.seen = meaning.seen
  owned : ∀ t ∈ g.properties.map (·.type), ∀ name ∈ t.references,
    ∃ place, r.names.get? name = some place
  same : g.properties.map (·.view (reading names r) marks) = meaning.properties.map (·.view id marks)

namespace ShownAll

variable {meaning g : Gathered} {r r' : Resolver}

theorem start (marks names : Bool) (r : Resolver) : ShownAll marks names ⟨[], []⟩ ⟨[], []⟩ r :=
  ⟨rfl, by simp, rfl⟩

theorem mono (h : ShownAll marks names meaning g r) (keeps : KeepsNames r r') :
    ShownAll marks names meaning g r' where
  seen := h.seen
  owned t mem name used := by
    obtain ⟨place, owner⟩ := h.owned t mem name used
    exact ⟨place, keeps name place owner⟩
  same := by
    rw [← h.same]
    refine List.map_congr_left fun p mem => ?_
    have mem := List.mem_map_of_mem (f := (·.type)) mem
    rw [TypedProperty.view, TypedProperty.view,
      TypeExpr.view_congr p.type fun name used => reading_of_keeps keeps (h.owned _ mem name used)]

theorem see (h : ShownAll marks names meaning g r) (reference : String) :
    ShownAll marks names { meaning with seen := reference :: meaning.seen }
      { g with seen := reference :: g.seen } r :=
  ⟨congrArg (reference :: ·) h.seen, h.owned, h.same⟩

theorem put (h : ShownAll marks names meaning g r) {t type : TypeExpr} (shown : Shown marks names type t r)
    (required : List String) (name : String) (value : Json) :
    ShownAll marks names
      { meaning with
        properties := putProperty (typedProperty required name value type) meaning.properties }
      { g with properties := putProperty (typedProperty required name value t) g.properties } r where
  seen := h.seen
  owned t' mem := by
    rcases mem_types_putProperty mem with rfl | old
    · exact shown.owned
    · exact h.owned t' old
  same := by
    have own : (typedProperty required name value t).view (reading names r) marks =
        (typedProperty required name value type).view id marks := by
      simp only [typedProperty, TypedProperty.view, shown.same]
    simp only [view_putProperty, h.same, own]

end ShownAll

/-! ## Runs -/

/-- The schema gets the definition of an object. -/
def IsObjectlike (schema : Json) : Prop :=
  Schema.kind schema = .object ∨ ∃ nullable, Schema.form schema = .object nullable

/-- The definition that a schema at a place is meant to have. -/
inductive Stated (document : Json) (marks names : Bool) (place : String) (schema : Json) (r : Resolver) :
    TypeDefinition → Prop where
  | enum {name : String} {values : List Json} (values_eq : schema.itemsAt? "enum" = some values) :
      Stated document marks names place schema r (Schema.enumDefinition name schema values)
  | object {name : String} {g meaning : Gathered} (objectlike : IsObjectlike schema)
      (collects : Collects document names (.whole name schema place) ⟨[], []⟩ meaning)
      (shown : ShownAll marks names meaning g r) :
      Stated document marks names place schema r (objectDefinition name schema g.properties)

theorem Stated.mono {place : String} {schema : Json} {d : TypeDefinition} {r r' : Resolver}
    (h : Stated document marks names place schema r d) (keeps : KeepsNames r r') :
    Stated document marks names place schema r' d := by
  cases h with
  | enum values_eq => exact .enum values_eq
  | object objectlike collects shown => exact .object objectlike collects (shown.mono keeps)

/-- Everything that is known at a point of a run is meant so. -/
structure Understood (document : Json) (marks names : Bool) (r : Resolver) : Prop where
  resolved : ∀ reference t, r.resolved.get? reference = some t →
    Meant document marks names (.reference reference) t r
  offered : ∀ place schema d, .offered place (.schema schema) d ∈ r.history →
    Stated document marks names place schema r d

namespace Understood

variable {r r' : Resolver}

theorem start : Understood document marks names .start where
  resolved _ _ found := by cases found
  offered _ _ _ mem := by cases mem

theorem of_same (h : Understood document marks names r) (same : r'.names = r.names)
    (resolved : r'.resolved = r.resolved) (history : r'.history = r.history) :
    Understood document marks names r' := by
  have keeps : KeepsNames r r' := fun name place owner => same ▸ owner
  refine ⟨fun reference t found => ?_, fun place schema d mem => ?_⟩
  · rw [resolved] at found
    exact (h.resolved reference t found).mono keeps
  · rw [history] at mem
    exact (h.offered place schema d mem).mono keeps

theorem claim (h : Understood document marks names r) (wanted place : String) :
    Understood document marks names (r.claim wanted place) := by
  have keeps := keepsNames_claim r wanted place
  refine ⟨fun reference t found => (h.resolved reference t found).mono keeps, ?_⟩
  intro place' schema d mem
  rcases List.mem_cons.mp mem with new | old
  · cases new
  · exact (h.offered place' schema d old).mono keeps

theorem offer (h : Understood document marks names r) {place : String} {schema : Json}
    {d : TypeDefinition} (stated : Stated document marks names place schema r d) :
    Understood document marks names (r.offer place (.schema schema) d) where
  resolved reference t found := (h.resolved reference t found).mono fun _ _ owner => owner
  offered place' schema' d' mem := by
    have keeps : KeepsNames r (r.offer place (.schema schema) d) := fun _ _ owner => owner
    rcases List.mem_cons.mp mem with new | old
    · injection new with same_place same_source same_definition
      injection same_source with same_schema
      rw [same_place, same_schema, same_definition]
      exact stated.mono keeps
    · exact (h.offered place' schema' d' old).mono keeps

theorem settle (h : Understood document marks names r) {reference : String} {t : TypeExpr}
    (meant : Meant document marks names (.reference reference) t r) :
    Understood document marks names (Resolve.settle r reference (.ok t)) where
  resolved reference' t' found := by
    have keeps : KeepsNames r (Resolve.settle r reference (.ok t)) := fun _ _ owner => owner
    simp only [Resolve.settle, remember, KeyMap.get?_insert] at found
    split at found
    · next same =>
      rw [← same, ← Option.some.inj found]
      exact meant.mono keeps
    · exact (h.resolved reference' t' found).mono keeps
  offered place schema d mem := (h.offered place schema d mem).mono fun _ _ owner => owner

end Understood

/-- What the answer of a call is meant to be. -/
def Call.Means (document : Json) (marks names : Bool) (r r' : Resolver) : (c : Call) → c.Answer → Prop
  | .reference asked _, t => Meant document marks names (.reference asked) t r'
  | .schema value context place, t => Meant document marks names (.schema value context place) t r'
  | .enum name _ place, t => Shown marks names (.enumeration (label names name place)) t r'
  | .object name _ place, t => Shown marks names (.reference (label names name place)) t r'
  | .gather owner value place g, g' => ∀ meaning, ShownAll marks names meaning g r →
    ∃ meaning', Collects document names (.whole owner value place) meaning meaning' ∧
      ShownAll marks names meaning' g' r'
  | .parts owner list place g, g' => ∀ meaning, ShownAll marks names meaning g r →
    ∃ meaning', Collects document names (.parts owner list place) meaning meaning' ∧
      ShownAll marks names meaning' g' r'
  | .members owner required list place g, g' => ∀ meaning, ShownAll marks names meaning g r →
    ∃ meaning', Collects document names (.members owner required list place) meaning meaning' ∧
      ShownAll marks names meaning' g' r'

/-- Objects are made of schemas that describe objects. -/
def Call.Objectlike : Call → Prop
  | .object _ value _ => IsObjectlike value
  | _ => True

/-- What a run knows and gives is meant so, provided that names are given as they are wanted if they
matter. -/
def Grasped (document : Json) (marks names : Bool) (c : Call) (r : Resolver)
    (o : Except Failure c.Answer) (r' : Resolver) : Prop :=
  Understood document marks names r → c.Owned r → c.Objectlike → c.Under document r →
    (names = true → AsWanted r') →
    ∀ a, o = .ok a → Understood document marks names r' ∧ c.Means document marks names r r' a

/-- The state in which the definition of a reference is made. -/
theorem Understood.entered {r : Resolver} (h : Understood document marks names r)
    (reference : String) : Understood document marks names
      ((r.claim (lastSegment reference) reference).enter reference) :=
  (h.claim (lastSegment reference) reference).of_same rfl rfl rfl

/-- The label of a name that is given as it is wanted. -/
theorem label_nameFor {r r' : Resolver} {wanted place : String}
    (given : names = true → AsWanted r') (grows : Grows (r.claim wanted place) r') :
    label names (r.nameFor wanted place) place = label names (baseName wanted) place :=
  label_congr (fun matter => (given matter).nameFor_eq grows) place

theorem run_understood (proper : CyclesProper document)
    (unmarked : marks = true → CyclesUnmarked document) {n : Nat} {c : Call} {r r' : Resolver}
    {o : Except Failure c.Answer} (run : Run document n c r o r') :
    Grasped document marks names c r o r' := by
  induction run with
  | endless | lost | unclosed | noEnum | noObject | lostPart | failedParts | failedPart
  | failedMember => exact fun _ _ _ _ _ _ ok => nomatch ok
  | known known =>
    rintro understood - - - - _ ⟨⟩
    exact ⟨understood, understood.resolved _ _ known⟩
  | @closed n reference place last target r new here met found =>
    rintro understood - - under given _ ⟨⟩
    obtain ⟨chain, object⟩ := cycleEnd_spec found
    have cyclic := under.onCycle met
    obtain ⟨meaning, denotes, same⟩ := denotes_of_closes names (cyclic.closes unmarked chain object)
      fun target here => object.kind_of_plain here (proper last target (cyclic.chain chain) here)
    have shown : Shown marks names
        (.reference (label names (r.nameFor (lastSegment last) last) last))
        (.reference (r.nameFor (lastSegment last) last)) (r.claim (lastSegment last) last) :=
      .reference (get?_claim ..)
    refine ⟨understood.claim _ _, meaning, denotes, shown.owned, ?_⟩
    rw [shown.same, same, TypeExpr.view_reference, label_nameFor given (.refl _)]
    rfl
  | @madeEnum n reference place target r r' o new here free kind made ih =>
    rintro understood - - - given type rfl
    have given (matter : names = true) : AsWanted r' := (given matter).of_grows (.settle ..)
    have grows := (Grows.enter ..).trans (run_grows made)
    obtain ⟨understood', shown⟩ :=
      ih (understood.entered reference) (get?_claim ..) trivial trivial given type rfl
    rw [Call.Means, label_nameFor given grows] at shown
    have meant : Meant document marks names (.reference reference) type r' :=
      ⟨_, .enumReference here kind, shown⟩
    exact ⟨understood'.settle meant, meant.mono fun _ _ owner => owner⟩
  | @madeObject n reference place target r r' o new here free kind made ih =>
    rintro understood - - under given type rfl
    have given (matter : names = true) : AsWanted r' := (given matter).of_grows (.settle ..)
    have grows := (Grows.enter ..).trans (run_grows made)
    obtain ⟨understood', shown⟩ := ih (understood.entered reference) (get?_claim ..) (.inl kind)
      (under.object here kind rfl) given type rfl
    rw [Call.Means, label_nameFor given grows] at shown
    have meant : Meant document marks names (.reference reference) type r' :=
      ⟨_, .objectReference here kind, shown⟩
    exact ⟨understood'.settle meant, meant.mono fun _ _ owner => owner⟩
  | @madeOther n reference place target r r' o new here free kind made ih =>
    rintro understood - - under given type rfl
    have given (matter : names = true) : AsWanted r' := (given matter).of_grows (.settle ..)
    have grows := (Grows.enter ..).trans (run_grows made)
    obtain ⟨understood', meaning, denotes, shown⟩ := ih (understood.entered reference) trivial
      trivial (under.target here kind rfl) given type rfl
    have rest := denotes.recontext fun matter => ((given matter).nameFor_eq grows).symm
    have meant : Meant document marks names (.reference reference) type r' :=
      ⟨meaning, .otherReference here kind rest, shown⟩
    exact ⟨understood'.settle meant, meant.mono fun _ _ owner => owner⟩
  | asked form _ ih =>
    rintro understood - - under given type ok
    obtain ⟨t, rfl, rfl⟩ := eq_ok_of_map ok
    obtain ⟨understood', meaning, denotes, shown⟩ :=
      ih understood trivial trivial (under.asked form) given t rfl
    exact ⟨understood', _, .asked form denotes, shown.apply _⟩
  | inner form _ ih =>
    rintro understood - - under given type ok
    obtain ⟨t, rfl, rfl⟩ := eq_ok_of_map ok
    obtain ⟨understood', meaning, denotes, shown⟩ :=
      ih understood trivial trivial (under.inner form) given t rfl
    exact ⟨understood', _, .inner form denotes, shown.apply _⟩
  | inlineObject form run ih =>
    rintro understood - - under given type ok
    obtain ⟨t, rfl, rfl⟩ := eq_ok_of_map ok
    obtain ⟨understood', shown⟩ := ih (understood.claim _ _) (get?_claim ..) (.inr ⟨_, form⟩)
      (Call.Under.of_inProgress_eq (under.inline form) rfl) given t rfl
    rw [Call.Means, label_nameFor given (run_grows run)] at shown
    exact ⟨understood', _, .object form, shown.withNullable _⟩
  | inlineEnum form run ih =>
    rintro understood - - under given type ok
    obtain ⟨t, rfl, rfl⟩ := eq_ok_of_map ok
    obtain ⟨understood', shown⟩ :=
      ih (understood.claim _ _) (get?_claim ..) trivial trivial given t rfl
    rw [Call.Means, label_nameFor given (run_grows run)] at shown
    exact ⟨understood', _, .enum form, shown.withNullable _⟩
  | plain form =>
    rintro understood - - - - _ ⟨⟩
    exact ⟨understood, _, .plain form, .of_no_references (Schema.references_of_form_plain form)⟩
  | enum values_eq =>
    rintro understood owned - - - _ ⟨⟩
    exact ⟨understood.offer (.enum values_eq), .enumeration owned⟩
  | object run ih =>
    rintro understood owned objectlike under given _ ⟨⟩
    obtain ⟨understood', means⟩ := ih understood trivial trivial under
      (fun matter => (given matter).of_grows (.offer ..)) _ rfl
    obtain ⟨meaning, collects, shown⟩ := means _ (.start marks names _)
    exact ⟨understood'.offer (.object objectlike collects shown),
      .reference ((run_grows run).names _ _ owned)⟩
  | seen ref old =>
    rintro understood - - - - _ ⟨⟩
    exact ⟨understood, fun meaning shown => ⟨meaning, .seen ref (shown.seen ▸ old), shown⟩⟩
  | followed ref new here _ ih =>
    rintro understood - - under given _ ok
    obtain ⟨understood', means⟩ := ih understood trivial trivial (under.followed ref here) given _ ok
    refine ⟨understood', fun meaning shown => ?_⟩
    obtain ⟨meaning', collects, shown'⟩ := means _ (shown.see _)
    exact ⟨meaning', .followed ref (shown.seen ▸ new) here collects, shown'⟩
  | own ref parts members first second =>
    rintro understood - - under given _ ok
    obtain ⟨understood', means⟩ := first understood trivial trivial (under.parts ref)
      (fun matter => (given matter).of_grows (run_grows members)) _ rfl
    obtain ⟨understood'', means'⟩ := second understood' trivial trivial
      (Call.Under.of_inProgress_eq (under.members ref) (run_inProgress parts)) given _ ok
    refine ⟨understood'', fun meaning shown => ?_⟩
    obtain ⟨meaning', collects, shown'⟩ := means meaning shown
    obtain ⟨meaning'', collects', shown''⟩ := means' meaning' shown'
    exact ⟨meaning'', .own ref collects collects', shown''⟩
  | noParts =>
    rintro understood - - - - _ ⟨⟩
    exact ⟨understood, fun meaning shown => ⟨meaning, .noParts, shown⟩⟩
  | noMembers =>
    rintro understood - - - - _ ⟨⟩
    exact ⟨understood, fun meaning shown => ⟨meaning, .noMembers, shown⟩⟩
  | part run others first second =>
    rintro understood - - under given _ ok
    obtain ⟨understood', means⟩ := first understood trivial trivial (under _ List.mem_cons_self)
      (fun matter => (given matter).of_grows (run_grows others)) _ rfl
    obtain ⟨understood'', means'⟩ := second understood' trivial trivial
      (Call.Under.of_inProgress_eq under.otherParts (run_inProgress run)) given _ ok
    refine ⟨understood'', fun meaning shown => ?_⟩
    obtain ⟨meaning', collects, shown'⟩ := means meaning shown
    obtain ⟨meaning'', collects', shown''⟩ := means' meaning' shown'
    exact ⟨meaning'', .part collects collects', shown''⟩
  | member run others first second =>
    rintro understood - - under given _ ok
    obtain ⟨understood', type, denotes, shown_type⟩ :=
      first understood trivial trivial (under _ List.mem_cons_self)
        (fun matter => (given matter).of_grows (run_grows others)) _ rfl
    obtain ⟨understood'', means⟩ := second understood' trivial trivial
      (Call.Under.of_inProgress_eq under.otherMembers (run_inProgress run)) given _ ok
    refine ⟨understood'', fun meaning shown => ?_⟩
    have put := (shown.mono (run_grows run).names).put shown_type
    obtain ⟨meaning', collects, shown'⟩ := means _ (put _ _ _)
    exact ⟨meaning', .member denotes collects, shown'⟩

end Api
end Scaffold
