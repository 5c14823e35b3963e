/-
The type names that a document wants. Resolving the named schemas wants a name for every reference that is
asked for, and for every inline object and enum (`Wants`). If no name is wanted for two places, every name
is given as it is wanted, and none has to be numbered: `run_unnumbered`.
-/
import Scaffold.Proofs.Api.Alike
import Scaffold.Proofs.Api.History

namespace Scaffold
namespace Api

open Resolver Resolve Json.Pointer

variable {document document' : Json}

/-! ## Schemas with their contexts and places -/

/-- A schema whose properties are gathered together with those of another, and its place. -/
inductive GathersAt (document : Json) : Json → String → Json → String → Prop where
  | here (schema : Json) (place : String) : GathersAt document schema place schema place
  | reference {schema target last : Json} {place reference final : String}
      (ref : Schema.ref? schema = some reference) (here : lookup? document reference = some target)
      (rest : GathersAt document target reference last final) :
      GathersAt document schema place last final
  | part {schema part last : Json} {place final : String} {i : Nat}
      (ref : Schema.ref? schema = none) (mem : (part, i) ∈ (schema.itemsAt "allOf").zipIdx)
      (rest : GathersAt document part (child (child place "allOf") (toString i)) last final) :
      GathersAt document schema place last final

theorem GathersAt.gathers {schema last : Json} {place final : String}
    (h : GathersAt document schema place last final) : Gathers document schema last := by
  induction h with
  | here => exact .here _
  | reference ref here _ ih => exact .reference ref here ih
  | part ref mem _ ih => exact .part ref (List.fst_mem_of_mem_zipIdx mem) ih

/-- A property that is gathered for an object, with its name and its place. -/
def OwnsAt (document schema : Json) (place name : String) (property : Json) (final : String) : Prop :=
  ∃ last base, GathersAt document schema place last base ∧ Schema.ref? last = none ∧
    (name, property) ∈ last.membersAt "properties" ∧ final = child (child base "properties") name

theorem OwnsAt.owns {schema property : Json} {place name final : String}
    (h : OwnsAt document schema place name property final) : Owns document schema property := by
  obtain ⟨last, base, gathers, ref, mem, -⟩ := h
  exact ⟨last, name, gathers.gathers, ref, mem⟩

/-- A schema that is met for a reference, with its context, if names are given as they are wanted. -/
inductive Site (document : Json) : Json → String → String → Prop where
  | target {reference : String} {schema : Json} (asked : AskedByNames document reference)
      (here : lookup? document reference = some schema) (kind : Schema.kind schema = .other) :
      Site document schema (baseName (lastSegment reference)) reference
  | property {reference name place : String} {schema property : Json}
      (asked : AskedByNames document reference) (here : lookup? document reference = some schema)
      (kind : Schema.kind schema = .object)
      (owns : OwnsAt document schema reference name property place) :
      Site document property (baseName (lastSegment reference) ++ Text.pascalCase name) place
  | inner {schema inner : Json} {context place suffix segment : String} {wrap : Schema.Wrap}
      (site : Site document schema context place)
      (form : Schema.form schema = .inner inner suffix segment wrap) :
      Site document inner (context ++ suffix) (child place segment)
  | inline {schema property : Json} {context place name final : String} {nullable : Bool}
      (site : Site document schema context place) (form : Schema.form schema = .object nullable)
      (owns : OwnsAt document schema place name property final) :
      Site document property (baseName context ++ Text.pascalCase name) final

/-- A site is met for a reference that is asked for. -/
theorem Site.entered {schema : Json} {context place : String}
    (site : Site document schema context place) :
    ∃ reference, AskedByNames document reference ∧ Enters document reference schema := by
  induction site with
  | target asked here kind => exact ⟨_, asked, .target here kind⟩
  | property asked here kind owns => exact ⟨_, asked, .property here kind owns.owns⟩
  | inner _ form ih =>
    obtain ⟨reference, asked, enters⟩ := ih
    exact ⟨reference, asked, .further enters (.inner form)⟩
  | inline _ form owns ih =>
    obtain ⟨reference, asked, enters⟩ := ih
    exact ⟨reference, asked, .further enters (.property form owns.owns)⟩

theorem Site.asked {schema : Json} {context place reference : String} {wrap : Schema.Wrap}
    (site : Site document schema context place)
    (form : Schema.form schema = .reference reference wrap) : AskedByNames document reference := by
  obtain ⟨origin, asked, enters⟩ := site.entered
  exact asked.tail (.single ⟨schema, wrap, enters, form⟩)

/-! ## Wanted names -/

/-- A type name that resolving the named schemas wants for a place. -/
inductive Wants (document : Json) : String → String → Prop where
  | reference {reference : String} (asked : AskedByNames document reference) :
      Wants document (lastSegment reference) reference
  | object {schema : Json} {context place : String} {nullable : Bool}
      (site : Site document schema context place) (form : Schema.form schema = .object nullable) :
      Wants document context place
  | enum {schema : Json} {context place : String} {nullable : Bool}
      (site : Site document schema context place) (form : Schema.form schema = .enum nullable) :
      Wants document context place

/-- No type name is wanted for two places. -/
def NamesApart (document : Json) : Prop :=
  ∀ wanted place wanted' place', Wants document wanted place → Wants document wanted' place' →
    baseName wanted' = baseName wanted → place' = place

/-! ## Runs -/

/-- Names are in use as they were wanted. -/
structure Unnumbered (document : Json) (r : Resolver) : Prop where
  wanted : ∀ name place, r.names.get? name = some place →
    ∃ wanted, Wants document wanted place ∧ baseName wanted = name
  given : AsWanted r

namespace Unnumbered

variable {r r' : Resolver}

theorem start (document : Json) : Unnumbered document .start :=
  ⟨nofun, nofun⟩

theorem of_same (h : Unnumbered document r) (names : r'.names = r.names) (history : r'.history = r.history) :
    Unnumbered document r' := by
  refine ⟨names ▸ h.wanted, ?_⟩
  unfold AsWanted
  rw [history]
  exact h.given

theorem offer (h : Unnumbered document r) (place : String) (source : Source) (d : TypeDefinition) :
    Unnumbered document (r.offer place source d) where
  wanted := h.wanted
  given wanted place name mem := by
    rcases List.mem_cons.mp mem with new | old
    · cases new
    · exact h.given wanted place name old

/-- A wanted name is free, or the place has it already. -/
theorem nameFor_eq (h : Unnumbered document r) (apart : NamesApart document) {wanted place : String}
    (wants : Wants document wanted place) : r.nameFor wanted place = baseName wanted := by
  obtain ⟨j, name, -, before⟩ := nameFor_spec r wanted place
  cases j with
  | zero => exact name
  | succ j =>
    obtain ⟨owner, owned, other⟩ := before 0 j.succ_pos
    obtain ⟨wanted', wants', same⟩ := h.wanted _ owner owned
    exact absurd (apart wanted place wanted' owner wants wants' same) other

theorem claim (h : Unnumbered document r) (apart : NamesApart document) {wanted place : String}
    (wants : Wants document wanted place) : Unnumbered document (r.claim wanted place) where
  wanted name owner owned := by
    rw [Resolver.claim, KeyMap.get?_insert] at owned
    split at owned
    · next same =>
      rw [← Option.some.inj owned, ← same]
      exact ⟨wanted, wants, (h.nameFor_eq apart wants).symm⟩
    · exact h.wanted name owner owned
  given wanted' place' name mem := by
    rcases List.mem_cons.mp mem with new | old
    · injection new with same_wanted _ same_name
      rw [same_wanted, same_name]
      exact h.nameFor_eq apart wants
    · exact h.given wanted' place' name old

end Unnumbered

/-- What a call is about is met at its place and in its context. -/
def Call.Placed (document : Json) : Call → Prop
  | .reference asked _ => AskedByNames document asked
  | .schema value context place => Site document value context place
  | .enum .. => True
  | .object owner value place => ∀ name property final,
    OwnsAt document value place name property final →
    Site document property (owner ++ Text.pascalCase name) final
  | .gather owner value place _ => ∀ name property final,
    OwnsAt document value place name property final →
    Site document property (owner ++ Text.pascalCase name) final
  | .parts owner list place _ => ∀ part ∈ list, ∀ name property final,
    OwnsAt document part.1 (child place (toString part.2)) name property final →
    Site document property (owner ++ Text.pascalCase name) final
  | .members owner _ list place _ => ∀ member ∈ list,
    Site document member.2 (owner ++ Text.pascalCase member.1) (child place member.1)

/-- If no name is wanted for two places, all names are given as they are wanted. -/
theorem run_unnumbered (apart : NamesApart document) {n : Nat} {c : Call} {r r' : Resolver}
    {o : Except Failure c.Answer} (run : Run document n c r o r') (h : Unnumbered document r)
    (placed : c.Placed document) : Unnumbered document r' := by
  induction run with
  | endless | known | lost | unclosed | plain | noEnum | seen | lostPart | noParts | noMembers =>
    exact h
  | closed _ _ _ found =>
    obtain ⟨chain, -⟩ := cycleEnd_spec found
    have leads := Relation.ReflTransGen.mono (fun _ _ => Alias.leads) _ _ chain
    exact h.claim apart (.reference (AskedByNames.tail placed leads))
  | @madeEnum _ _ _ _ _ _ o _ _ _ _ _ ih =>
    have ends := ih ((h.claim apart (.reference placed)).of_same rfl rfl) trivial
    cases o <;> exact ends.of_same rfl rfl
  | @madeObject _ _ _ _ _ _ o _ here _ kind _ ih =>
    have name := h.nameFor_eq apart (.reference placed)
    have ends := ih ((h.claim apart (.reference placed)).of_same rfl rfl) fun _ _ _ owns => by
      rw [name]
      exact .property placed here kind owns
    cases o <;> exact ends.of_same rfl rfl
  | @madeOther _ _ _ _ _ _ o _ here _ kind _ ih =>
    have name := h.nameFor_eq apart (.reference placed)
    have ends := ih ((h.claim apart (.reference placed)).of_same rfl rfl) (by
      rw [name]
      exact .target placed here kind)
    cases o <;> exact ends.of_same rfl rfl
  | asked form _ ih => exact ih h (placed.asked form)
  | inner form _ ih => exact ih h (placed.inner form)
  | inlineObject form _ ih =>
    have wants := Wants.object placed form
    refine ih (h.claim apart wants) fun _ _ _ owns => ?_
    rw [h.nameFor_eq apart wants]
    exact placed.inline form owns
  | inlineEnum form _ ih => exact ih (h.claim apart (.enum placed form)) trivial
  | enum => exact h.offer _ _ _
  | object _ ih => exact (ih h placed).offer _ _ _
  | noObject _ ih => exact ih h placed
  | followed ref _ here _ ih =>
    refine ih h fun name property final ⟨last, base, gathers, rest⟩ => ?_
    exact placed name property final ⟨last, base, .reference ref here gathers, rest⟩
  | own ref _ _ first second =>
    refine second (first h fun part mem name property final ⟨last, base, gathers, rest⟩ => ?_)
      fun member mem => ?_
    · exact placed name property final ⟨last, base, .part ref mem gathers, rest⟩
    · exact placed member.1 member.2 _ ⟨_, _, .here _ _, ref, mem, rfl⟩
  | failedParts ref _ ih =>
    refine ih h fun part mem name property final ⟨last, base, gathers, rest⟩ => ?_
    exact placed name property final ⟨last, base, .part ref mem gathers, rest⟩
  | part _ _ first second =>
    exact second (first h (placed _ List.mem_cons_self))
      fun part mem => placed part (List.mem_cons_of_mem _ mem)
  | member _ _ first second =>
    exact second (first h (placed _ List.mem_cons_self))
      fun member mem => placed member (List.mem_cons_of_mem _ mem)
  | failedPart _ ih | failedMember _ ih => exact ih h (placed _ List.mem_cons_self)

/-! ## Documents without inline objects -/

def isInline (schema : Json) : Bool :=
  match Schema.form schema with
  | .object _ | .enum _ => true
  | _ => false

/-- Nothing in a schema is an inline object or enum. -/
def Flat (schema : Json) : Prop :=
  ∀ v ∈ schema.values, isInline v = false

instance (schema : Json) : Decidable (Flat schema) :=
  inferInstanceAs (Decidable (∀ v ∈ schema.values, _))

theorem Site.flat
    (targets : ∀ reference target, AskedByNames document reference →
      lookup? document reference = some target → Schema.kind target = .other → Flat target)
    (properties : ∀ v ∈ document.values, ∀ m ∈ v.membersAt "properties", Flat m.2)
    {schema : Json} {context place : String} (site : Site document schema context place) :
    Flat schema := by
  induction site with
  | target asked here kind => exact targets _ _ asked here kind
  | property asked here kind owns =>
    obtain ⟨last, name, gathers, -, mem⟩ := owns.owns
    exact properties last (gathers.mem_values (mem_values_of_lookup? here)) _ mem
  | inner site form ih =>
    exact fun v inside => ih v ((Schema.inner_of_form form).values_subset inside)
  | inline site form owns ih =>
    have outside := ih _ (Json.mem_values_self _)
    rw [isInline, form] at outside
    cases outside

/-- If nothing is inline, only references want names. -/
theorem namesApart_of_flat
    (targets : ∀ reference target, AskedByNames document reference →
      lookup? document reference = some target → Schema.kind target = .other → Flat target)
    (properties : ∀ v ∈ document.values, ∀ m ∈ v.membersAt "properties", Flat m.2)
    (apart : ∀ reference reference', AskedByNames document reference →
      AskedByNames document reference' →
      baseName (lastSegment reference') = baseName (lastSegment reference) →
      reference' = reference) : NamesApart document := by
  have only {wanted place : String} (wants : Wants document wanted place) :
      AskedByNames document place ∧ wanted = lastSegment place := by
    cases wants with
    | reference asked => exact ⟨asked, rfl⟩
    | object site form | enum site form =>
      have outside := site.flat targets properties _ (Json.mem_values_self _)
      rw [isInline, form] at outside
      cases outside
  intro wanted place wanted' place' wants wants' same
  obtain ⟨asked, rfl⟩ := only wants
  obtain ⟨asked', rfl⟩ := only wants'
  exact apart place place' asked asked' same

/-! ## Equivalent documents -/

theorem GathersAt.of_matches (same : Matches document document') {v v' last : Json}
    {place final : String} (alike : Alike v v') (h : GathersAt document v place last final) :
    ∃ last', Alike last last' ∧ GathersAt document' v' place last' final := by
  induction h generalizing v' with
  | here => exact ⟨v', alike, .here v' _⟩
  | reference ref here _ ih =>
    obtain ⟨target', here', alike'⟩ := same _ _ here
    obtain ⟨last', alike_last, rest⟩ := ih alike'
    exact ⟨last', alike_last, .reference (alike.ref?_eq.trans ref) here' rest⟩
  | part ref mem _ ih =>
    obtain ⟨last', alike_last, rest⟩ := ih (.refl _)
    exact ⟨last', alike_last, .part (alike.ref?_eq.trans ref) (alike.parts_eq ▸ mem) rest⟩

theorem OwnsAt.of_matches (same : Matches document document') {v v' property : Json}
    {place name final : String} (alike : Alike v v')
    (h : OwnsAt document v place name property final) :
    OwnsAt document' v' place name property final := by
  obtain ⟨last, base, gathers, ref, mem, at_place⟩ := h
  obtain ⟨last', alike, gathers⟩ := gathers.of_matches same alike
  exact ⟨last', base, gathers, alike.ref?_eq.trans ref, alike.properties_eq ▸ mem, at_place⟩

theorem Site.of_equivalent (same : Equivalent document document') {schema : Json}
    {context place : String} (h : Site document schema context place) :
    ∃ schema', Alike schema schema' ∧ Site document' schema' context place := by
  induction h with
  | target asked here kind =>
    obtain ⟨schema', here', alike⟩ := same.forth _ _ here
    exact ⟨schema', alike, .target (asked.of_equivalent same) here' (alike.kind_eq.trans kind)⟩
  | property asked here kind owns =>
    obtain ⟨schema', here', alike⟩ := same.forth _ _ here
    exact ⟨_, .refl _, .property (asked.of_equivalent same) here' (alike.kind_eq.trans kind)
      (owns.of_matches same.forth alike)⟩
  | inner _ form ih =>
    obtain ⟨schema', alike, site⟩ := ih
    exact ⟨_, .refl _, site.inner (alike.form_eq.trans form)⟩
  | inline _ form owns ih =>
    obtain ⟨schema', alike, site⟩ := ih
    exact ⟨_, .refl _, site.inline (alike.form_eq.trans form) (owns.of_matches same.forth alike)⟩

theorem Wants.of_equivalent (same : Equivalent document document') {wanted place : String}
    (h : Wants document wanted place) : Wants document' wanted place := by
  cases h with
  | reference asked => exact .reference (asked.of_equivalent same)
  | object site form =>
    obtain ⟨schema', alike, site⟩ := site.of_equivalent same
    exact .object site (alike.form_eq.trans form)
  | enum site form =>
    obtain ⟨schema', alike, site⟩ := site.of_equivalent same
    exact .enum site (alike.form_eq.trans form)

theorem NamesApart.of_equivalent (same : Equivalent document document')
    (h : NamesApart document) : NamesApart document' :=
  fun wanted place wanted' place' wants wants' =>
    h wanted place wanted' place' (wants.of_equivalent same.symm) (wants'.of_equivalent same.symm)

end Api
end Scaffold
