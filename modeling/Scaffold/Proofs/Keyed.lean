/-
Of several elements with one key the first is kept: `firsts`. A loop that appends what is new to what
it has seen keeps these and no others, and a permutation of the list only permutes their keys.

Or the last is kept, where it stands: `finals`. This is what is left if each element drops the one it
replaces and comes last: `finals_concat`.

Or the last is kept, where the first of them stands: `lasts`. A loop that puts each element in the place
of the one it replaces, or last if it is new, ends with these: `foldl_override_nil`.

What is listed under different names is found by name, and lists can correspond one by one: relations are
composed along them, and what is in one list has its partner in the other.
-/
import Mathlib.Data.List.Dedup
import Mathlib.Data.List.Forall2
import Mathlib.Data.List.Induction
import Mathlib.Data.List.Nodup
import Mathlib.Data.List.Perm.Basic

namespace Scaffold

section

variable {α β κ : Type} [BEq κ] {key : α → κ}

/-- The elements that no earlier one has the key of. -/
def firsts (key : α → κ) : List α → List α
  | [] => []
  | a :: rest => a :: (firsts key rest).filter (key · != key a)

theorem firsts_sublist (key : α → κ) (as : List α) : (firsts key as).Sublist as := by
  induction as with
  | nil => exact .slnil
  | cons a rest ih => exact (List.filter_sublist.trans ih).cons_cons a

/-- Keys that tell the same elements apart are distinct together. -/
theorem nodup_map_congr {γ δ : Type} {f : α → γ} {g : α → δ} {as : List α}
    (alike : ∀ a ∈ as, ∀ b ∈ as, f a = f b ↔ g a = g b) : (as.map f).Nodup ↔ (as.map g).Nodup := by
  simp only [List.Nodup, List.pairwise_map]
  exact List.Pairwise.iff_of_mem fun {a b} a_mem b_mem => not_congr (alike a a_mem b b_mem)

theorem map_firsts (key : β → κ) (f : α → β) (as : List α) :
    (firsts (fun a => key (f a)) as).map f = firsts key (as.map f) := by
  induction as with
  | nil => rfl
  | cons a rest ih =>
    rw [firsts, List.map_cons, List.map_cons, firsts, ← ih, List.filter_map]
    rfl

variable [LawfulBEq κ]

theorem nodup_firsts (key : α → κ) (as : List α) : ((firsts key as).map key).Nodup := by
  induction as with
  | nil => exact List.nodup_nil
  | cons a rest ih =>
    rw [firsts, List.map_cons, List.nodup_cons]
    refine ⟨fun mem => ?_, ih.sublist (List.filter_sublist.map key)⟩
    obtain ⟨b, b_mem, same⟩ := List.mem_map.mp mem
    exact bne_iff_ne.mp (List.mem_filter.mp b_mem).2 same

theorem find?_firsts (key : α → κ) (k : κ) (as : List α) :
    (firsts key as).find? (key · == k) = as.find? (key · == k) := by
  induction as with
  | nil => rfl
  | cons a rest ih =>
    rw [firsts, List.find?_cons, List.find?_cons]
    split
    · rfl
    · next other =>
      rw [← ih, List.find?_filter]
      congr 1
      funext b
      by_cases same : key b = k
      · have apart : k ≠ key a := fun both => by simp [both] at other
        simp [same, apart]
      · simp [same]

theorem exists_mem_firsts (key : α → κ) {as : List α} {a : α} (mem : a ∈ as) :
    ∃ b ∈ firsts key as, key b = key a := by
  have found : (as.find? (key · == key a)).isSome := by
    rw [List.find?_isSome]
    exact ⟨a, mem, beq_self_eq_true _⟩
  obtain ⟨b, found⟩ := Option.isSome_iff_exists.mp found
  rw [← find?_firsts] at found
  exact ⟨b, List.mem_of_find?_eq_some found, by simpa using List.find?_some found⟩

/-! ## Loops -/

/-- What a loop does with an element: it is appended if no other of its key was seen. -/
def addNew (key : α → κ) (seen : List α) (a : α) : List α :=
  if seen.any (key · == key a) then seen else seen ++ [a]

theorem foldl_addNew (key : α → κ) (seen as : List α) :
    as.foldl (addNew key) seen =
      seen ++ (firsts key as).filter fun a => !seen.any (key · == key a) := by
  induction as generalizing seen with
  | nil => simp [firsts]
  | cons a rest ih =>
    rw [List.foldl_cons, ih, firsts, List.filter_cons, List.filter_filter, addNew]
    by_cases old : seen.any (key · == key a) = true
    · rw [if_pos old, if_neg (by simp [old])]
      congr 1
      refine List.filter_congr fun b _ => ?_
      by_cases same : key b = key a
      · simp [same, old]
      · simp [same]
    · rw [if_neg old, if_pos (by simpa using old), List.append_assoc, List.singleton_append]
      congr 2
      refine List.filter_congr fun b _ => ?_
      rw [List.any_append, Bool.not_or, List.any_cons, List.any_nil, Bool.or_false, bne,
        BEq.comm (a := key a)]

theorem foldl_addNew_nil (key : α → κ) (as : List α) : as.foldl (addNew key) [] = firsts key as := by
  rw [foldl_addNew, List.nil_append]
  exact List.filter_eq_self.mpr fun a _ => rfl

theorem firsts_concat (key : α → κ) (as : List α) (a : α) :
    firsts key (as ++ [a]) = addNew key (firsts key as) a := by
  rw [← foldl_addNew_nil, List.foldl_append, foldl_addNew_nil]
  rfl

/-! ## Parts of a list -/

theorem firsts_append (key : α → κ) (as bs : List α) :
    firsts key (as ++ bs) =
      firsts key as ++ (firsts key bs).filter fun b => !(firsts key as).any (key · == key b) := by
  rw [← foldl_addNew_nil, List.foldl_append, foldl_addNew, foldl_addNew_nil]

theorem mem_keys_firsts (key : α → κ) {as : List α} {k : κ} :
    k ∈ (firsts key as).map key ↔ k ∈ as.map key := by
  constructor
  · intro mem
    exact List.map_subset key (firsts_sublist key as).subset mem
  · intro mem
    obtain ⟨a, a_mem, rfl⟩ := List.mem_map.mp mem
    obtain ⟨b, b_mem, same⟩ := exists_mem_firsts key a_mem
    exact List.mem_map.mpr ⟨b, b_mem, same⟩

theorem firsts_append_of_disjoint {as bs : List α} (apart : (as.map key).Disjoint (bs.map key)) :
    firsts key (as ++ bs) = firsts key as ++ firsts key bs := by
  rw [firsts_append]
  congr 1
  refine List.filter_eq_self.mpr fun b b_mem => ?_
  rw [Bool.not_eq_true', List.any_eq_false]
  intro a a_mem same
  have a_key : key a ∈ as.map key := (mem_keys_firsts key).mp (List.mem_map_of_mem a_mem)
  have b_key : key b ∈ bs.map key := (mem_keys_firsts key).mp (List.mem_map_of_mem b_mem)
  rw [beq_iff_eq.mp same] at a_key
  exact apart a_key b_key

/-- Lists without common keys are gone through one by one. -/
theorem firsts_flatten {lists : List (List α)}
    (apart : lists.Pairwise fun as bs => (as.map key).Disjoint (bs.map key)) :
    firsts key lists.flatten = lists.flatMap (firsts key) := by
  induction lists with
  | nil => rfl
  | cons as rest ih =>
    rw [List.pairwise_cons] at apart
    rw [List.flatten_cons, List.flatMap_cons, firsts_append_of_disjoint, ih apart.2]
    intro k here later
    obtain ⟨b, b_mem, rfl⟩ := List.mem_map.mp later
    obtain ⟨bs, bs_mem, b_mem⟩ := List.mem_flatten.mp b_mem
    exact apart.1 bs bs_mem here (List.mem_map_of_mem b_mem)

/-! ## Permutations -/

/-- What is said of the first elements does not depend on the order of the list, if it is the same
for all elements of a key. -/
theorem perm_map_firsts {as bs : List α} (order : as.Perm bs) {view : α → β}
    (agree : ∀ a ∈ as, ∀ b ∈ as, key a = key b → view a = view b) :
    ((firsts key as).map view).Perm ((firsts key bs).map view) := by
  -- With the key beside it, what is said of an element occurs once.
  let keyed (a : α) : κ × β := (key a, view a)
  have distinct (cs : List α) : ((firsts key cs).map keyed).Nodup := by
    have keys := nodup_firsts key cs
    rw [show key = Prod.fst ∘ keyed from rfl, ← List.map_map] at keys
    exact keys.of_map
  have mem {cs : List α} (inside : cs ⊆ as) {c : κ × β} :
      c ∈ (firsts key cs).map keyed ↔ c ∈ cs.map keyed := by
    constructor
    · exact fun mem => List.map_subset keyed (firsts_sublist key cs).subset mem
    · intro mem
      obtain ⟨a, a_mem, rfl⟩ := List.mem_map.mp mem
      obtain ⟨b, b_mem, same⟩ := exists_mem_firsts key a_mem
      have b_in := inside ((firsts_sublist key cs).subset b_mem)
      refine List.mem_map.mpr ⟨b, b_mem, ?_⟩
      rw [Prod.mk.injEq]
      exact ⟨same, agree b b_in a (inside a_mem) same⟩
  have keyed_perm : ((firsts key as).map keyed).Perm ((firsts key bs).map keyed) := by
    rw [List.perm_ext_iff_of_nodup (distinct as) (distinct bs)]
    intro c
    rw [mem (List.Subset.refl as), mem order.symm.subset]
    exact (order.map keyed).mem_iff
  have views := keyed_perm.map Prod.snd
  rwa [List.map_map, List.map_map] at views

/-- Lists without common keys can be gone through in any order. -/
theorem perm_firsts_flatten {lists lists' : List (List α)} (order : lists.Perm lists')
    (apart : lists.Pairwise fun as bs => (as.map key).Disjoint (bs.map key)) :
    (firsts key lists.flatten).Perm (firsts key lists'.flatten) := by
  rw [firsts_flatten apart, firsts_flatten ((order.pairwise_iff fun h => h.symm).mp apart)]
  exact order.flatMap fun as _ => .refl _

end

/-! ## The last of each key, where it stands -/

section

variable {α κ : Type} [BEq κ] {key : α → κ}

/-- The elements that no later one has the key of. -/
def finals (key : α → κ) (as : List α) : List α :=
  (firsts key as.reverse).reverse

theorem finals_concat (key : α → κ) (as : List α) (a : α) :
    finals key (as ++ [a]) = (finals key as).filter (key · != key a) ++ [a] := by
  rw [finals, List.reverse_append, List.reverse_singleton, List.singleton_append, firsts,
    List.reverse_cons, ← List.filter_reverse]
  rfl

theorem finals_sublist (key : α → κ) (as : List α) : (finals key as).Sublist as := by
  have reversed := (firsts_sublist key as.reverse).reverse
  rwa [List.reverse_reverse] at reversed

variable [LawfulBEq κ]

theorem nodup_finals (key : α → κ) (as : List α) : ((finals key as).map key).Nodup := by
  rw [finals, List.map_reverse, List.nodup_reverse]
  exact nodup_firsts key as.reverse

theorem mem_keys_finals {as : List α} {k : κ} : k ∈ (finals key as).map key ↔ k ∈ as.map key := by
  rw [finals, List.map_reverse, List.mem_reverse, mem_keys_firsts, List.map_reverse, List.mem_reverse]

end

/-! ## The last of each key, where the first stands -/

section

variable {α κ : Type} [DecidableEq κ] {key : α → κ}

/-- The keys in the order in which they first occur, each with its last element. -/
def lasts (key : α → κ) (as : List α) : List α :=
  (firsts id (as.map key)).filterMap fun k => as.reverse.find? (key · == k)

/-- What a loop does with an element: it takes the place of the one with its key, or comes last. -/
def override (key : α → κ) (seen : List α) (a : α) : List α :=
  match seen with
  | [] => [a]
  | b :: rest => if key b = key a then a :: rest else b :: override key rest a

theorem mem_firsts_id {ks : List κ} {k : κ} : k ∈ firsts id ks ↔ k ∈ ks := by
  have keys : k ∈ (firsts id ks).map id ↔ k ∈ ks.map id := mem_keys_firsts id
  rwa [List.map_id, List.map_id] at keys

/-! ## One step -/

theorem mem_keys_iff_exists_last (as : List α) (k : κ) :
    k ∈ as.map key ↔ ∃ a, as.reverse.find? (key · == k) = some a := by
  rw [← Option.isSome_iff_exists, List.find?_isSome]
  simp

theorem key_of_last {as : List α} {k : κ} {a : α} (last : as.reverse.find? (key · == k) = some a) :
    key a = k := by
  simpa using List.find?_some last

/-- In a list of elements found by their keys, an element is put where its key stands. -/
theorem override_filterMap {find : κ → Option α} {keys : List κ} {a : α} (distinct : keys.Nodup)
    (found : ∀ k ∈ keys, ∃ b, find k = some b ∧ key b = k) :
    override key (keys.filterMap find) a =
      (addNew id keys (key a)).filterMap fun k => if key a = k then some a else find k := by
  have others {ks : List κ} (absent : key a ∉ ks) :
      ks.filterMap (fun k => if key a = k then some a else find k) = ks.filterMap find :=
    List.filterMap_congr fun k mem => if_neg fun same => by
      rw [same] at absent
      exact absent mem
  induction keys with
  | nil => simp [override, addNew]
  | cons k rest ih =>
    obtain ⟨fresh, distinct⟩ := List.nodup_cons.mp distinct
    obtain ⟨b, here, own⟩ := found k List.mem_cons_self
    have ih := ih distinct fun k mem => found k (List.mem_cons_of_mem _ mem)
    rw [List.filterMap_cons_some here, override, own]
    by_cases same : k = key a
    · subst same
      rw [if_pos rfl]
      simp [addNew, others fresh]
    · have step : addNew id (k :: rest) (key a) = k :: addNew id rest (key a) := by
        simp only [addNew, List.any_cons, id_eq, beq_eq_false_iff_ne.mpr same, Bool.false_or]
        split <;> simp
      rw [if_neg same, ih, step, List.filterMap_cons, if_neg (Ne.symm same), here]

theorem lasts_concat (key : α → κ) (as : List α) (a : α) :
    lasts key (as ++ [a]) = override key (lasts key as) a := by
  have distinct : (firsts id (as.map key)).Nodup := by
    simpa using nodup_firsts id (as.map key)
  have found : ∀ k ∈ firsts id (as.map key),
      ∃ b, as.reverse.find? (key · == k) = some b ∧ key b = k := by
    intro k mem
    obtain ⟨b, last⟩ := (mem_keys_iff_exists_last as k).mp (mem_firsts_id.mp mem)
    exact ⟨b, last, key_of_last last⟩
  rw [lasts, lasts, override_filterMap distinct found, List.map_append, List.map_singleton,
    firsts_concat]
  refine List.filterMap_congr fun k _ => ?_
  rw [List.reverse_append, List.reverse_singleton, List.singleton_append, List.find?_cons]
  by_cases same : key a = k
  · simp [same]
  · simp [same, beq_eq_false_iff_ne.mpr same]

/-- A loop of replacements keeps the last element of each key. -/
theorem foldl_override_nil (key : α → κ) (as : List α) : as.foldl (override key) [] = lasts key as := by
  induction as using List.reverseRecOn with
  | nil => rfl
  | append_singleton as a ih => rw [List.foldl_append, ih, lasts_concat]; rfl

/-! ## Keys and elements -/

theorem map_lasts (key : α → κ) (as : List α) : (lasts key as).map key = firsts id (as.map key) := by
  have found : ∀ k ∈ firsts id (as.map key),
      ((as.reverse.find? (key · == k)).map key) = some k := by
    intro k mem
    obtain ⟨b, last⟩ := (mem_keys_iff_exists_last as k).mp (mem_firsts_id.mp mem)
    rw [last, Option.map_some, key_of_last last]
  rw [lasts, List.map_filterMap, List.filterMap_congr found, List.filterMap_some]

theorem nodup_lasts (key : α → κ) (as : List α) : ((lasts key as).map key).Nodup := by
  rw [map_lasts]
  simpa using nodup_firsts id (as.map key)

/-- What is kept has no later element of its key. -/
theorem mem_lasts_iff {as : List α} {a : α} :
    a ∈ lasts key as ↔ ∃ before after, as = before ++ a :: after ∧ ∀ b ∈ after, key b ≠ key a := by
  have last_iff : as.reverse.find? (key · == key a) = some a ↔
      ∃ before after, as = before ++ a :: after ∧ ∀ b ∈ after, key b ≠ key a := by
    rw [List.find?_eq_some_iff_append]
    constructor
    · rintro ⟨-, after, before, split, none⟩
      refine ⟨before.reverse, after.reverse, ?_, fun b mem => ?_⟩
      · rw [← List.reverse_reverse as, split]
        simp
      · simpa using none b (List.mem_reverse.mp mem)
    · rintro ⟨before, after, rfl, none⟩
      refine ⟨beq_self_eq_true _, after.reverse, before.reverse, by simp, fun b mem => ?_⟩
      simpa using none b (List.mem_reverse.mp mem)
  rw [← last_iff, lasts, List.mem_filterMap]
  constructor
  · rintro ⟨k, -, last⟩
    rw [key_of_last last]
    exact last
  · intro last
    refine ⟨key a, ?_, last⟩
    exact mem_firsts_id.mpr ((mem_keys_iff_exists_last as (key a)).mpr ⟨a, last⟩)

theorem mem_of_mem_lasts {as : List α} {a : α} (mem : a ∈ lasts key as) : a ∈ as := by
  obtain ⟨before, after, rfl, -⟩ := mem_lasts_iff.mp mem
  simp

theorem exists_mem_lasts (key : α → κ) {as : List α} {a : α} (mem : a ∈ as) :
    ∃ b ∈ lasts key as, key b = key a := by
  have known : key a ∈ (lasts key as).map key := by
    rw [map_lasts]
    exact mem_firsts_id.mpr (List.mem_map_of_mem mem)
  exact List.mem_map.mp known

end

/-! ## Lists that correspond one by one -/

variable {α β γ δ : Type} {R : α → β → Prop} {S : β → γ → Prop} {T : α → γ → Prop}
  {as : List α} {bs : List β} {cs : List γ}

theorem forall₂_comp (h : List.Forall₂ R as bs) (h' : List.Forall₂ S bs cs)
    (comp : ∀ a b c, R a b → S b c → T a c) : List.Forall₂ T as cs := by
  induction h generalizing cs with
  | nil =>
    cases h'
    exact .nil
  | cons first _ ih =>
    cases h' with
    | cons first' rest' => exact .cons (comp _ _ _ first first') (ih rest')

theorem exists_of_mem_left (h : List.Forall₂ R as bs) {a : α} (mem : a ∈ as) : ∃ b ∈ bs, R a b := by
  induction h with
  | nil => cases mem
  | cons first _ ih =>
    rcases List.mem_cons.mp mem with rfl | mem
    · exact ⟨_, List.mem_cons_self, first⟩
    · obtain ⟨b, hb, related⟩ := ih mem
      exact ⟨b, List.mem_cons_of_mem _ hb, related⟩

theorem exists_of_mem_right (h : List.Forall₂ R as bs) {b : β} (mem : b ∈ bs) :
    ∃ a ∈ as, R a b :=
  exists_of_mem_left h.flip mem

theorem exists_forall₂ (h : ∀ a ∈ as, ∃ b, R a b) : ∃ bs, List.Forall₂ R as bs := by
  induction as with
  | nil => exact ⟨[], .nil⟩
  | cons a rest ih =>
    obtain ⟨b, first⟩ := h a List.mem_cons_self
    obtain ⟨bs, others⟩ := ih fun c mem => h c (List.mem_cons_of_mem a mem)
    exact ⟨b :: bs, .cons first others⟩

theorem map_eq_map {f : α → δ} {g : β → δ} (h : List.Forall₂ R as bs)
    (same : ∀ a b, R a b → f a = g b) : as.map f = bs.map g := by
  rw [← List.forall₂_eq_eq_eq, List.forall₂_map_left_iff, List.forall₂_map_right_iff]
  exact h.imp same

theorem find?_of_mem {name : α → String} (distinct : (as.map name).Nodup) {a : α} (mem : a ∈ as) :
    as.find? (name · == name a) = some a := by
  cases found : as.find? (name · == name a) with
  | none =>
    have absent := List.find?_eq_none.mp found a mem
    simp at absent
  | some b =>
    have same : name b = name a := by simpa using List.find?_some found
    rw [List.inj_on_of_nodup_map distinct (List.mem_of_find?_eq_some found) mem same]

end Scaffold
