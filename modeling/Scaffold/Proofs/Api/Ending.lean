/-
Resolving always ends, unless an inline merge leads back to itself. Every call is given a need: how
deep calls can nest below it. The references that are not in progress count most, since each is
entered at most once; then the merges below, since a guarded merge is not met again below itself;
then the references that gathering has not gone through; and last the size of the schema.
-/
import Mathlib.Tactic.Linarith
import Mathlib.Tactic.Ring
import Scaffold.Proofs.Api.Nesting
import Scaffold.Proofs.Api.Walk

namespace Scaffold
namespace Api

open Resolve Json.Pointer

variable {document : Json}

/-- The nesting that one merge may take until another is met. -/
def mergeCost (document : Json) : Nat :=
  (document.size + 3) ^ 2

/-- The nesting that one reference may take until another is entered. -/
def referenceCost (document : Json) : Nat :=
  (document.size + 2) * mergeCost document

/-- The nesting left for references, the first of which may come from outside the document. -/
def referenceNeed (document : Json) (first : String) (r : Resolver) : Nat :=
  unused (first :: textsOf document) r.inProgress * referenceCost document

/-- A schema whose properties are its own. -/
def Plain (schema : Json) : Prop :=
  Schema.ref? schema = none ∧ schema.itemsAt "allOf" = []

instance (schema : Json) : Decidable (Plain schema) :=
  inferInstanceAs (Decidable (_ ∧ _))

/-- The nesting within the parts of one schema. -/
def gatherRoom (document schema : Json) (seen : List String) : Nat :=
  if Plain schema then 3 * schema.size
  else unused (textsOf document) seen * (document.size + 1) + schema.size + 3 * document.size + 2

noncomputable def schemaNeed (document : Json) (first : String) (r : Resolver) (schema : Json) :
    Nat :=
  referenceNeed document first r + mergesBelow document schema * mergeCost document +
    3 * schema.size + 2

noncomputable def gatherNeed (document : Json) (first : String) (r : Resolver) (schema : Json)
    (seen : List String) : Nat :=
  referenceNeed document first r + mergesOwned document schema * mergeCost document +
    gatherRoom document schema seen

/-! ## Needs go down -/

theorem length_textsOf_le : (textsOf document).length ≤ document.size := by
  rw [← Json.length_values]
  exact List.length_filterMap_le ..

theorem gatherRoom_lt {schema : Json} (seen : List String) (inside : schema ∈ document.values) :
    gatherRoom document schema seen + 2 ≤ mergeCost document := by
  have size := Json.size_le_of_mem_values document inside
  have few : unused (textsOf document) seen * (document.size + 1) ≤
      document.size * (document.size + 1) :=
    Nat.mul_le_mul_right _ (Nat.le_trans (unused_le _ _) length_textsOf_le)
  have square : mergeCost document = document.size * (document.size + 1) + 5 * document.size + 9 := by
    unfold mergeCost
    ring
  unfold gatherRoom
  split <;> omega

theorem merges_mul_le {n : Nat} (h : n ≤ document.size) :
    n * mergeCost document + mergeCost document + mergeCost document ≤ referenceCost document := by
  have := Nat.mul_le_mul_right (mergeCost document) h
  unfold referenceCost
  rw [Nat.add_mul]
  omega

/-- Entering a reference leaves room for everything below it. -/
theorem referenceNeed_enter {first reference : String} {r r' : Resolver}
    (known : reference ∈ first :: textsOf document) (free : reference ∉ r.inProgress)
    (progress : r'.inProgress = reference :: r.inProgress) :
    referenceNeed document first r' + referenceCost document ≤ referenceNeed document first r := by
  have lt := unused_cons_lt known free
  unfold referenceNeed
  rw [progress, ← Nat.succ_mul]
  exact Nat.mul_le_mul_right _ lt

theorem schemaNeed_enter {first reference : String} {r r' : Resolver} {schema : Json}
    (known : reference ∈ first :: textsOf document) (free : reference ∉ r.inProgress)
    (progress : r'.inProgress = reference :: r.inProgress) (inside : schema ∈ document.values) :
    schemaNeed document first r' schema ≤ referenceNeed document first r := by
  have entered := referenceNeed_enter known free progress
  have merges := merges_mul_le (mergesFrom_le_size document (· = schema))
  have size := Json.size_le_of_mem_values document inside
  have square : 3 * document.size + 2 ≤ mergeCost document := by
    unfold mergeCost
    nlinarith
  unfold schemaNeed mergesBelow
  omega

theorem gatherNeed_enter {first reference : String} {r r' : Resolver} {schema : Json}
    (known : reference ∈ first :: textsOf document) (free : reference ∉ r.inProgress)
    (progress : r'.inProgress = reference :: r.inProgress) (inside : schema ∈ document.values) :
    gatherNeed document first r' schema [] + 1 ≤ referenceNeed document first r := by
  have entered := referenceNeed_enter known free progress
  have merges := merges_mul_le (mergesFrom_le_size document (Owns document schema))
  have room := gatherRoom_lt [] inside
  unfold gatherNeed mergesOwned
  omega

theorem schemaNeed_inner {first : String} {r : Resolver} {schema inner : Json}
    {suffix segment : String} {wrap : Schema.Wrap}
    (form : Schema.form schema = .inner inner suffix segment wrap) :
    schemaNeed document first r inner + 1 ≤ schemaNeed document first r schema := by
  have below : Below document schema inner := .inner form
  have merges := Nat.mul_le_mul_right (mergeCost document) (mergesBelow_le below)
  have size := (Schema.inner_of_form form).size_lt
  unfold schemaNeed
  omega

/-- An inline object is plain, or it is a merge and uses one up. -/
theorem gatherNeed_inline (zone : Zone document) {first : String} {r : Resolver}
    {schema : Json} {nullable : Bool} (form : Schema.form schema = .object nullable)
    (inside : schema ∈ document.values) (met : zone.met schema) :
    gatherNeed document first r schema [] + 2 ≤ schemaNeed document first r schema := by
  by_cases plain : Plain schema
  · have merges := Nat.mul_le_mul_right (mergeCost document)
      (mergesOwned_le form : mergesOwned document schema ≤ _)
    unfold gatherNeed schemaNeed gatherRoom
    rw [if_pos plain]
    omega
  · have merges : Merges schema := by
      refine ⟨⟨nullable, form⟩, Nat.le_of_not_lt fun few => plain ?_⟩
      exact ⟨Schema.ref?_of_form_object form, Schema.itemsAt_allOf_of_form_object form few⟩
    have lt := mergesOwned_lt inside merges (zone.guarded schema inside met merges)
    have cost := Nat.mul_le_mul_right (mergeCost document) lt
    have room := gatherRoom_lt [] inside
    rw [Nat.succ_mul] at cost
    unfold gatherNeed schemaNeed
    omega

/-- Going through a reference uses it up. -/
theorem gatherNeed_reference {first reference : String} {r : Resolver} {schema target : Json}
    {seen : List String} (ref : Schema.ref? schema = some reference) (new : reference ∉ seen)
    (here : lookup? document reference = some target) (inside : schema ∈ document.values) :
    gatherNeed document first r target (reference :: seen) + 1 ≤
      gatherNeed document first r schema seen := by
  have merges := Nat.mul_le_mul_right (mergeCost document)
    (mergesOwned_le_of_gathers (.reference ref here (.here target)))
  have size := Json.size_le_of_mem_values document (mem_values_of_lookup? here)
  have lt := unused_cons_lt (ref?_mem_textsOf inside ref) new
  have room := Nat.mul_le_mul_right (document.size + 1) lt
  have not_plain : ¬Plain schema := fun plain => by
    rw [plain.1] at ref
    cases ref
  rw [Nat.succ_mul] at room
  unfold gatherNeed gatherRoom
  rw [if_neg not_plain]
  split <;> omega

theorem gatherNeed_part {first : String} {r : Resolver} {schema part : Json} {seen : List String}
    (ref : Schema.ref? schema = none) (mem : part ∈ schema.itemsAt "allOf")
    (inside : schema ∈ document.values) :
    gatherNeed document first r part seen + 1 ≤ gatherNeed document first r schema seen := by
  have merges := Nat.mul_le_mul_right (mergeCost document)
    (mergesOwned_le_of_gathers (.part ref mem (.here part)) : mergesOwned document part ≤ _)
  have smaller := Json.size_lt_of_mem_itemsAt mem
  have size := Json.size_le_of_mem_values document inside
  have not_plain : ¬Plain schema := fun plain => by
    rw [plain.2] at mem
    exact absurd mem List.not_mem_nil
  unfold gatherNeed gatherRoom
  rw [if_neg not_plain]
  split <;> omega

theorem schemaNeed_property {first name : String} {r : Resolver} {schema property : Json}
    {seen : List String} (ref : Schema.ref? schema = none)
    (mem : (name, property) ∈ schema.membersAt "properties") (inside : schema ∈ document.values) :
    schemaNeed document first r property + 1 ≤ gatherNeed document first r schema seen := by
  have merges := Nat.mul_le_mul_right (mergeCost document)
    (mergesBelow_le_owned ⟨schema, name, .here schema, ref, mem⟩ : mergesBelow document property ≤ _)
  have smaller : property.size < schema.size := Json.size_lt_of_mem_membersAt mem
  have size := Json.size_le_of_mem_values document inside
  unfold schemaNeed gatherNeed gatherRoom
  split <;> omega

/-- The more references were gone through, the less is needed. -/
theorem gatherNeed_mono {first : String} {r : Resolver} {schema : Json} {seen seen' : List String}
    (h : seen ⊆ seen') :
    gatherNeed document first r schema seen' ≤ gatherNeed document first r schema seen := by
  have room := Nat.mul_le_mul_right (document.size + 1)
    (unused_mono h : unused (textsOf document) seen' ≤ _)
  unfold gatherNeed gatherRoom
  split <;> omega

/-! ## Runs end -/

/-- References that were gone through are in the answer too. -/
def Call.KeepsSeen : (c : Call) → c.Answer → Prop
  | .gather _ _ _ g, g' => g.seen ⊆ g'.seen
  | .parts _ _ _ g, g' => g.seen ⊆ g'.seen
  | .members _ _ _ _ g, g' => g.seen ⊆ g'.seen
  | _, _ => True

theorem run_seen {n : Nat} {c : Call} {r r' : Resolver} {o : Except Failure c.Answer}
    (run : Run document n c r o r') {a : c.Answer} (ok : o = .ok a) : c.KeepsSeen a := by
  induction run with
  | endless | lost | unclosed | noEnum | noObject | lostPart | failedParts | failedPart
  | failedMember => cases ok
  | known | closed | madeEnum | madeObject | madeOther | asked | inner | inlineObject | inlineEnum
  | plain | enum | object => trivial
  | seen | noParts | noMembers =>
    injection ok with ok
    subst ok
    exact fun _ h => h
  | followed _ _ _ _ ih => exact fun _ h => ih ok (List.mem_cons_of_mem _ h)
  | own _ _ _ first second | part _ _ first second => exact fun _ h => second ok (first rfl h)
  | member _ _ _ second => exact fun _ h => second ok h

variable {zone : Zone document}

/-- All that is gathered for a schema is met. -/
def Gatherable (zone : Zone document) (schema : Json) : Prop :=
  ∀ property, Owns document schema property → zone.met property

theorem Gatherable.of_gathers {schema middle : Json} (h : Gatherable zone schema)
    (gathers : Gathers document schema middle) : Gatherable zone middle :=
  fun property owns => h property (owns.of_gathers gathers)

/-- The call stays within what is met, and may be nested as deep as it needs. -/
def Call.Enough (zone : Zone document) (first : String) (n : Nat) (r : Resolver) : Call → Prop
  | .reference asked _ =>
    zone.asked asked ∧ asked ∈ first :: textsOf document ∧
      referenceNeed document first r + 1 ≤ n
  | .schema value _ _ =>
    value ∈ document.values ∧ zone.met value ∧ schemaNeed document first r value ≤ n
  | .enum .. => True
  | .object _ value _ =>
    value ∈ document.values ∧ Gatherable zone value ∧
      gatherNeed document first r value [] + 1 ≤ n
  | .gather _ value _ g =>
    value ∈ document.values ∧ Gatherable zone value ∧
      gatherNeed document first r value g.seen ≤ n
  | .parts _ list _ g => ∀ part ∈ list,
    part.1 ∈ document.values ∧ Gatherable zone part.1 ∧
      gatherNeed document first r part.1 g.seen ≤ n
  | .members _ _ list _ _ => ∀ member ∈ list,
    member.2 ∈ document.values ∧ zone.met member.2 ∧
      schemaNeed document first r member.2 ≤ n

theorem Call.Enough.pos {first : String} {r : Resolver} {c : Call} (deep : c.Deep) :
    ¬c.Enough zone first 0 r := by
  intro h
  cases c with
  | reference =>
    have := h.2.2
    omega
  | schema =>
    have := h.2.2
    unfold schemaNeed at this
    omega
  | object =>
    have := h.2.2
    omega
  | gather owner value place g =>
    have := h.2.2
    have := value.size_pos
    unfold gatherNeed gatherRoom at *
    split at * <;> omega
  | enum | parts | members => exact deep

theorem needs_eq {first : String} {r r' : Resolver} (progress : r'.inProgress = r.inProgress) :
    referenceNeed document first r' = referenceNeed document first r := by
  unfold referenceNeed
  rw [progress]

theorem Call.Enough.of_inProgress_eq {first : String} {n : Nat} {r r' : Resolver} {c : Call}
    (progress : r'.inProgress = r.inProgress) (h : c.Enough zone first n r) :
    c.Enough zone first n r' := by
  cases c with
  | enum => trivial
  | _ => simpa only [Call.Enough, schemaNeed, gatherNeed, needs_eq progress] using h

/-- With as much nesting as is needed, no run breaks off. -/
theorem run_ends (zone : Zone document) {first : String} {n : Nat} {c : Call}
    {r r' : Resolver} {o : Except Failure c.Answer} (run : Run document n c r o r')
    (enough : c.Enough zone first n r) : Run.Complete o := by
  intro failure failed
  induction run with
  | known | closed | plain | enum | object | seen | noParts | noMembers => cases failed
  | endless deep => exact absurd enough (Call.Enough.pos deep)
  | lost | noEnum | lostPart =>
    rw [← Except.error.inj failed]
    simp
  | unclosed _ _ _ close =>
    rw [← Except.error.inj failed]
    exact cycleEnd_ne_endless close
  | madeEnum _ _ _ _ _ ih => exact ih trivial failed
  | madeObject _ here free kind _ ih =>
    obtain ⟨asked, known, need⟩ := enough
    have inside := mem_values_of_lookup? here
    refine ih ⟨inside, fun _ owns => zone.met_of_owns asked here kind owns, ?_⟩ failed
    exact Nat.le_trans (gatherNeed_enter known free rfl inside) (Nat.le_of_succ_le_succ need)
  | madeOther _ here free kind _ ih =>
    obtain ⟨asked, known, need⟩ := enough
    have inside := mem_values_of_lookup? here
    refine ih ⟨inside, zone.met_of_asked asked here kind, ?_⟩ failed
    exact Nat.le_trans (schemaNeed_enter known free rfl inside) (Nat.le_of_succ_le_succ need)
  | asked form _ ih =>
    obtain ⟨inside, met, need⟩ := enough
    have known := ref?_mem_textsOf inside (Schema.ref?_of_form_reference form)
    refine ih ⟨zone.asked_of_met met form, List.mem_cons_of_mem _ known, ?_⟩
      (eq_error_of_map failed)
    unfold schemaNeed at need
    omega
  | inner form _ ih =>
    obtain ⟨inside, met, need⟩ := enough
    have below : Below document _ _ := .inner form
    refine ih ⟨below.mem_values inside, zone.met_of_below met below, ?_⟩ (eq_error_of_map failed)
    exact Nat.le_of_succ_le_succ (Nat.le_trans (schemaNeed_inner form) need)
  | inlineObject form _ ih =>
    obtain ⟨inside, met, need⟩ := enough
    refine ih ⟨inside, fun _ owns => zone.met_of_below met (.property form owns), ?_⟩
      (eq_error_of_map failed)
    exact Nat.le_of_succ_le_succ (Nat.le_trans (gatherNeed_inline zone form inside met) need)
  | inlineEnum _ _ ih => exact ih trivial (eq_error_of_map failed)
  | noObject _ ih =>
    obtain ⟨inside, gatherable, need⟩ := enough
    exact ih ⟨inside, gatherable, Nat.le_of_succ_le_succ need⟩
      (congrArg Except.error (Except.error.inj failed))
  | followed ref new here _ ih =>
    obtain ⟨inside, gatherable, need⟩ := enough
    refine ih ⟨mem_values_of_lookup? here,
      gatherable.of_gathers (.reference ref here (.here _)), ?_⟩ failed
    exact Nat.le_of_succ_le_succ
      (Nat.le_trans (gatherNeed_reference ref new here inside) need)
  | own ref parts _ first second =>
    obtain ⟨inside, gatherable, need⟩ := enough
    refine second (.of_inProgress_eq (run_inProgress parts) fun member mem => ?_) failed
    obtain ⟨name, value⟩ := member
    refine ⟨?_, gatherable value ⟨_, name, .here _, ref, mem⟩,
      Nat.le_of_succ_le_succ (Nat.le_trans (schemaNeed_property ref mem inside) need)⟩
    exact Json.values_subset document inside
      (Json.values_subset_of_mem_membersAt mem (Json.mem_values_self _))
  | failedParts ref _ ih =>
    obtain ⟨inside, gatherable, need⟩ := enough
    refine ih (fun (part, i) mem => ?_) failed
    have mem := List.fst_mem_of_mem_zipIdx mem
    refine ⟨?_, gatherable.of_gathers (.part ref mem (.here part)),
      Nat.le_of_succ_le_succ (Nat.le_trans (gatherNeed_part ref mem inside) need)⟩
    exact Json.values_subset document inside
      (Json.values_subset_of_mem_itemsAt mem (Json.mem_values_self _))
  | part run _ _ second =>
    refine second (.of_inProgress_eq (run_inProgress run) fun part mem => ?_) failed
    obtain ⟨inside, gatherable, need⟩ := enough part (List.mem_cons_of_mem _ mem)
    exact ⟨inside, gatherable, Nat.le_trans (gatherNeed_mono (run_seen run rfl)) need⟩
  | failedPart _ ih =>
    exact ih (enough _ List.mem_cons_self) (congrArg Except.error (Except.error.inj failed))
  | member run _ _ second =>
    exact second (.of_inProgress_eq (run_inProgress run) fun member mem =>
      enough member (List.mem_cons_of_mem _ mem)) failed
  | failedMember _ ih =>
    exact ih (enough _ List.mem_cons_self) (congrArg Except.error (Except.error.inj failed))

end Api
end Scaffold
