/-
Rules for steps that keep a condition on the state. `Ensures I E P x Q` says that from every state
with `I` and `P` the step `x` ends in a state with `I` again, in which its result meets `Q`, or in a
failure with `E`. What lasts through every addition can be framed off a step: `Ensures.frame`.
-/
import Scaffold.Proofs.Api.History

namespace Scaffold
namespace Api

open Resolve

/-- A fact that no addition undoes. -/
def Lasting (P : Resolver → Prop) : Prop :=
  ∀ ⦃r r' : Resolver⦄, Grows r r' → P r → P r'

theorem Lasting.and {P Q : Resolver → Prop} (hP : Lasting P) (hQ : Lasting Q) :
    Lasting fun r => P r ∧ Q r :=
  fun _ _ grows h => ⟨hP grows h.1, hQ grows h.2⟩

theorem Lasting.forall {α : Sort*} {P : α → Resolver → Prop} (h : ∀ a, Lasting (P a)) :
    Lasting fun r => ∀ a, P a r :=
  fun _ _ grows all a => h a grows (all a)

theorem Lasting.implies {p : Prop} {P : Resolver → Prop} (h : Lasting P) :
    Lasting fun r => p → P r :=
  fun _ _ grows given hp => h grows (given hp)

theorem Lasting.const (p : Prop) : Lasting fun _ => p :=
  fun _ _ _ h => h

/-- The end of a step that keeps `I`. -/
def EndsIn {α : Type} (I : Resolver → Prop) (E : Failure → Resolver → Prop)
    (Q : α → Resolver → Prop) (r : Resolver) : Except Failure α × Resolver → Prop
  | (.ok a, r') => I r' ∧ Grows r r' ∧ Q a r'
  | (.error f, r') => E f r'

/-- What a step keeps and gives may be less, and what holds after a failure too. -/
theorem EndsIn.mono {α : Type} {I : Resolver → Prop} {E E' : Failure → Resolver → Prop}
    {Q Q' : α → Resolver → Prop} {r : Resolver} {o : Except Failure α × Resolver}
    (h : EndsIn I E Q r o) (fails : ∀ f r', E f r' → E' f r') (after : ∀ a r', Q a r' → Q' a r') :
    EndsIn I E' Q' r o := by
  obtain ⟨failure | a, r'⟩ := o
  · exact fails failure r' h
  · exact ⟨h.1, h.2.1, after a r' h.2.2⟩

theorem EndsIn.map {α β : Type} {I : Resolver → Prop} {E : Failure → Resolver → Prop}
    {Q : β → Resolver → Prop} {x : Resolve α} {g : α → β} {r : Resolver}
    (h : EndsIn I E (fun a => Q (g a)) r (outcome x r)) : EndsIn I E Q r (outcome (g <$> x) r) := by
  rw [outcome_map]
  generalize outcome x r = o at h ⊢
  obtain ⟨failure | a, r'⟩ := o <;> exact h

/-- What a step does from states with `I` and `P`. -/
def Ensures {α : Type} (I : Resolver → Prop) (E : Failure → Resolver → Prop) (P : Resolver → Prop)
    (x : Resolve α) (Q : α → Resolver → Prop) : Prop :=
  ∀ r, I r → P r → EndsIn I E Q r (outcome x r)

namespace Ensures

variable {α β : Type} {I : Resolver → Prop} {E : Failure → Resolver → Prop}
  {P P' R : Resolver → Prop} {x : Resolve α} {Q Q' : α → Resolver → Prop}

theorem pure {a : α} (h : ∀ r, P r → Q a r) : Ensures I E P (pure a) Q :=
  fun r hI hP => ⟨hI, .refl r, h r hP⟩

theorem failAt {place : String} {cause : Cause} (h : ∀ r, I r → E ⟨place, cause⟩ r) :
    Ensures I E P (failAt place cause) Q :=
  fun r hI _ => h r hI

theorem bind {S : β → Resolver → Prop} {f : α → Resolve β} (first : Ensures I E P x Q)
    (second : ∀ a, Ensures I E (Q a) (f a) S) : Ensures I E P (x >>= f) S := by
  intro r hI hP
  have h := first r hI hP
  rw [outcome_bind]
  generalize outcome x r = o at h ⊢
  obtain ⟨failure | a, r'⟩ := o
  · exact h
  · obtain ⟨hI', grows, hQ⟩ := h
    have h' := second a r' hI' hQ
    rw [andThen_ok]
    generalize outcome (f a) r' = o at h' ⊢
    obtain ⟨failure | b, r''⟩ := o
    · exact h'
    · obtain ⟨hI'', grows', hS⟩ := h'
      exact ⟨hI'', grows.trans grows', hS⟩

/-- Going on with what does not look at the state. -/
theorem bind_lift {S : β → Resolver → Prop} {o : Except Failure α} {f : α → Resolve β}
    (ok : ∀ a, o = .ok a → Ensures I E P (f a) S)
    (error : ∀ failure, o = .error failure → ∀ r, I r → E failure r) :
    Ensures I E P (liftM o >>= f) S := by
  intro r hI hP
  rw [outcome_bind, outcome_lift]
  cases o with
  | ok a => exact ok a rfl r hI hP
  | error failure => exact error failure rfl r hI

/-- What is known before may be more and after less. -/
theorem mono (h : Ensures I E P x Q) (before : ∀ r, P' r → P r)
    (after : ∀ a r, Q a r → Q' a r) : Ensures I E P' x Q' :=
  fun r hI hP' => (h r hI (before r hP')).mono (fun _ _ h => h) after

/-- What lasts is still known after a step. -/
theorem frame (h : Ensures I E P x Q) (lasting : Lasting R) :
    Ensures I E (fun r => P r ∧ R r) x fun a r => Q a r ∧ R r := by
  intro r hI ⟨hP, hR⟩
  have h := h r hI hP
  generalize outcome x r = o at h ⊢
  obtain ⟨failure | a, r'⟩ := o
  · exact h
  · exact ⟨h.1, h.2.1, h.2.2, lasting h.2.1 hR⟩

/-- A step that needs nothing, when something that lasts is known. -/
theorem alone (h : Ensures I E (fun _ => True) x Q) (lasting : Lasting R) :
    Ensures I E R x fun a r => Q a r ∧ R r :=
  (h.frame lasting).mono (fun _ hR => ⟨trivial, hR⟩) fun _ _ h => h

theorem map {g : α → β} {S : β → Resolver → Prop}
    (h : Ensures I E P x fun a r => S (g a) r) : Ensures I E P (g <$> x) S :=
  fun r hI hP => (h r hI hP).map

theorem foldlM {σ : Type} {J : σ → Resolver → Prop} {f : σ → α → Resolve σ} {items : List α}
    (step : ∀ a ∈ items, ∀ s, Ensures I E (J s) (f s a) J) (s : σ) :
    Ensures I E (J s) (items.foldlM f s) J := by
  induction items generalizing s with
  | nil => exact pure fun _ h => h
  | cons a rest ih =>
    rw [List.foldlM_cons]
    exact bind (step a List.mem_cons_self s) fun s' =>
      ih (fun b hb => step b (List.mem_cons_of_mem a hb)) s'

theorem forM {f : α → Resolve PUnit} {items : List α}
    (step : ∀ a ∈ items, Ensures I E P (f a) fun _ => P) :
    Ensures I E P (items.forM f) fun _ => P := by
  induction items with
  | nil => exact pure fun _ h => h
  | cons a rest ih =>
    show Ensures I E P (f a >>= fun _ => rest.forM f) fun _ => P
    exact bind (step a List.mem_cons_self) fun _ =>
      ih fun b hb => step b (List.mem_cons_of_mem a hb)

theorem mapM {S : β → Resolver → Prop} {f : α → Resolve β} {items : List α}
    (lasting : Lasting P) (lasts : ∀ b, Lasting (S b))
    (step : ∀ a ∈ items, Ensures I E P (f a) S) :
    Ensures I E P (items.mapM f) fun bs r => (∀ b ∈ bs, S b r) ∧ P r := by
  induction items with
  | nil =>
    rw [List.mapM_nil]
    exact pure fun _ h => ⟨by simp, h⟩
  | cons a rest ih =>
    rw [List.mapM_cons]
    have first : Ensures I E P (f a) fun b r => P r ∧ S b r :=
      ((step a List.mem_cons_self).frame lasting).mono (fun _ h => ⟨h, h⟩) fun _ _ h => h.symm
    refine bind first fun b => ?_
    have others := (ih fun c hc => step c (List.mem_cons_of_mem a hc)).frame (lasts b)
    refine bind others fun bs => pure fun r ⟨⟨hbs, hP⟩, hb⟩ => ⟨?_, hP⟩
    exact List.forall_mem_cons.mpr ⟨hb, hbs⟩

theorem filterMapM {S : β → Resolver → Prop} {f : α → Resolve (Option β)} {items : List α}
    (lasting : Lasting P) (lasts : ∀ b, Lasting (S b))
    (step : ∀ a ∈ items, Ensures I E P (f a) fun b? r => ∀ b, b? = some b → S b r) :
    Ensures I E P (items.filterMapM f) fun bs r => (∀ b ∈ bs, S b r) ∧ P r := by
  induction items with
  | nil =>
    rw [List.filterMapM_nil]
    exact pure fun _ h => ⟨by simp, h⟩
  | cons a rest ih =>
    rw [List.filterMapM_cons]
    have first : Ensures I E P (f a) fun b? r => P r ∧ ∀ b, b? = some b → S b r :=
      ((step a List.mem_cons_self).frame lasting).mono (fun _ h => ⟨h, h⟩) fun _ _ h => h.symm
    have others := ih fun c hc => step c (List.mem_cons_of_mem a hc)
    refine bind first fun b? => ?_
    cases b? with
    | none => exact others.mono (fun _ h => h.1) fun _ _ h => h
    | some b =>
      refine bind ((others.frame (lasts b)).mono (fun _ h => ⟨h.1, h.2 b rfl⟩) fun _ _ h => h)
        fun bs => pure fun r ⟨⟨hbs, hP⟩, hb⟩ => ⟨?_, hP⟩
      exact List.forall_mem_cons.mpr ⟨hb, hbs⟩

/-- A condition that failures keep too is kept in any case. -/
theorem kept {r : Resolver} (h : Ensures I (fun _ => I) (fun _ => True) x Q) (hI : I r) :
    I (outcome x r).2 := by
  have ends := h r hI trivial
  generalize outcome x r = o at ends ⊢
  obtain ⟨failure | a, r'⟩ := o
  · exact ends
  · exact ends.1

/-- A call keeps what its runs keep. -/
theorem of_run {document : Json} {n : Nat} {c : Call}
    (keeps : ∀ {r r' o}, Run document n c r o r' → I r → I r') :
    Ensures I (fun _ => I) (fun _ => True) (c.compute document n) fun _ _ => True := by
  intro r hI _
  have run := Run.run_compute document n c r
  have hI' := keeps run hI
  have grows := run_grows run
  generalize outcome (c.compute document n) r = o at hI' grows ⊢
  obtain ⟨failure | a, r'⟩ := o
  · exact hI'
  · exact ⟨hI', grows, trivial⟩

end Ensures

/-- What calls for named schemas keep is kept when all are called for. -/
theorem ensures_allNamed {document : Json} {I : Resolver → Prop} {E : Failure → Resolver → Prop}
    (named : ∀ {name schema}, (name, schema) ∈ namedSchemas document →
      Ensures I E (fun _ => True) (ofName document name) fun _ _ => True) :
    Ensures I E (fun _ => True) (allNamed document) fun _ _ => True := by
  unfold allNamed
  refine Ensures.forM fun (name, _) mem => ?_
  exact .bind (named mem) fun _ => .pure fun _ _ => trivial

end Api
end Scaffold
