/-
What can be reached in a table of definitions. A search visits the names that types mention, and again
the names that their definitions mention, so it ends at the least set of names that is closed under this:
`TypeTable.reachable_exact`. Nothing but what is pending and what follows from it is visited
(`mem_of_mem_reachFrom`), and what a visited name refers to is visited or pending at any time (`Explored`).
-/
import Mathlib.Data.String.Basic
import Scaffold.Proofs.TypeTable

namespace Scaffold

/-! ## Names inside types -/

namespace TypeExpr

/-- A type stands somewhere inside another one, or is it. -/
inductive Within (s : TypeExpr) : TypeExpr → Prop where
  | self : Within s s
  | argument {a t : TypeExpr} (mem : a ∈ t.args) (within : Within s a) : Within s t

/-- The name is that of a type of the model that is referred to somewhere inside the type. -/
def Mentions (t : TypeExpr) (name : String) : Prop :=
  ∃ s, Within s t ∧ s.isReference = true ∧ s.name = name

theorem mem_referencesIn_iff {ts : List TypeExpr} {name : String} :
    name ∈ referencesIn ts ↔ ∃ t ∈ ts, name ∈ t.references := by
  induction ts with
  | nil => simp [referencesIn]
  | cons t rest ih => simp [referencesIn, ih]

mutual

theorem mentions_of_mem_references {name : String} :
    (t : TypeExpr) → name ∈ t.references → t.Mentions name
  | ⟨own, args, isReference, e, u⟩, mem => by
    rw [references, List.mem_append] at mem
    rcases mem with here | inside
    · split at here
      · next marked => exact ⟨_, .self, marked, (List.mem_singleton.mp here).symm⟩
      · cases here
    · obtain ⟨a, a_mem, s, within, marked⟩ := mentions_of_mem_referencesIn args inside
      exact ⟨s, .argument a_mem within, marked⟩

theorem mentions_of_mem_referencesIn {name : String} :
    (ts : List TypeExpr) → name ∈ referencesIn ts → ∃ t ∈ ts, t.Mentions name
  | [], mem => absurd mem List.not_mem_nil
  | t :: rest, mem => by
    rw [referencesIn, List.mem_append] at mem
    rcases mem with first | later
    · exact ⟨t, List.mem_cons_self, mentions_of_mem_references t first⟩
    · obtain ⟨t', t'_mem, mentions⟩ := mentions_of_mem_referencesIn rest later
      exact ⟨t', List.mem_cons_of_mem t t'_mem, mentions⟩

end

/-- The references of a type are the names that stand anywhere in it. -/
theorem mem_references_iff {t : TypeExpr} {name : String} :
    name ∈ t.references ↔ t.Mentions name := by
  refine ⟨mentions_of_mem_references t, ?_⟩
  rintro ⟨s, within, marked, rfl⟩
  induction within with
  | self =>
    obtain ⟨name, args, isReference, e, u⟩ := s
    simp [references, show isReference = true from marked]
  | @argument a t a_mem _ ih =>
    obtain ⟨name, args, isReference, e, u⟩ := t
    rw [references]
    exact List.mem_append_right _ (mem_referencesIn_iff.mpr ⟨a, a_mem, ih⟩)

end TypeExpr

theorem TypeDefinition.mem_propertyTypes {d : TypeDefinition} {properties : List TypedProperty}
    {p : TypedProperty} (object : d.body = .object properties) (mem : p ∈ properties) :
    p.type ∈ d.propertyTypes := by
  rw [propertyTypes, object]
  exact List.mem_map_of_mem mem

/-- The type of a property mentions the name. -/
def TypeDefinition.Mentions (d : TypeDefinition) (name : String) : Prop :=
  ∃ properties p, d.body = .object properties ∧ p ∈ properties ∧ p.type.Mentions name

theorem TypeDefinition.mem_references_iff {d : TypeDefinition} {name : String} :
    name ∈ d.references ↔ d.Mentions name := by
  obtain ⟨own, comment, body⟩ := d
  cases body with
  | object properties =>
    simp [references, propertyTypes, Mentions, TypeExpr.mem_referencesIn_iff,
      TypeExpr.mem_references_iff]
  | enum members isInteger =>
    simp [references, propertyTypes, Mentions, TypeExpr.referencesIn]

/-! ## Sorted sets of names -/

namespace NameSet

theorem pairwise_insert {names : List String} (sorted : names.Pairwise (· < ·)) (name : String) :
    (insert name names).Pairwise (· < ·) := by
  induction names with
  | nil => exact List.pairwise_singleton _ _
  | cons n rest ih =>
    obtain ⟨first, sorted⟩ := List.pairwise_cons.mp sorted
    rw [insert]
    split
    · exact List.pairwise_cons.mpr ⟨first, sorted⟩
    · next other =>
      split
      · next before =>
        refine List.pairwise_cons.mpr ⟨fun m mem => ?_, List.pairwise_cons.mpr ⟨first, sorted⟩⟩
        rcases List.mem_cons.mp mem with rfl | later
        · exact before
        · exact lt_trans before (first m later)
      · next after =>
        have behind : n < name := lt_of_le_of_ne (not_lt.mp after) other
        refine List.pairwise_cons.mpr ⟨fun m mem => ?_, ih sorted⟩
        rcases (mem_insert name m rest).mp mem with rfl | later
        · exact behind
        · exact first m later

/-- A set lists its names in order, each once. -/
theorem pairwise_ofList (names : List String) : (ofList names).Pairwise (· < ·) := by
  suffices ∀ set : List String, set.Pairwise (· < ·) →
      (names.foldl (fun set name => insert name set) set).Pairwise (· < ·) from
    this [] List.Pairwise.nil
  induction names with
  | nil => exact fun _ sorted => sorted
  | cons name rest ih => exact fun set sorted => ih _ (pairwise_insert sorted name)

end NameSet

namespace TypeTable

variable {table : TypeTable} {name : String}

/-! ## The search -/

/-- The search leaves no set of names that holds what is pending and what its definitions refer to. -/
theorem mem_of_mem_reachFrom {P : String → Prop} {visited pending : List String}
    (closed : ∀ n d, P n → table.get? n = some d → ∀ next ∈ d.references, P next)
    (old : ∀ n ∈ visited, P n) (waiting : ∀ n ∈ pending, P n) :
    ∀ n ∈ reachFrom table visited pending, P n := by
  fun_induction reachFrom table visited pending with
  | case1 visited => exact old
  | case2 visited n pending seen ih =>
    exact ih old fun m mem => waiting m (List.mem_cons_of_mem n mem)
  | case3 visited n pending seen found ih =>
    have here := waiting n List.mem_cons_self
    exact ih (List.forall_mem_cons.mpr ⟨here, old⟩) fun m mem => waiting m (List.mem_cons_of_mem n mem)
  | case4 visited n pending seen d found new ih =>
    have here := waiting n List.mem_cons_self
    refine ih (List.forall_mem_cons.mpr ⟨here, old⟩) fun m mem => ?_
    rcases List.mem_append.mp mem with next | later
    · exact closed n d here found m (List.mem_of_mem_filter next)
    · exact waiting m (List.mem_cons_of_mem n later)

/-- What visited names refer to is visited as well, or pending. -/
def Explored (table : TypeTable) (visited pending : List String) : Prop :=
  ∀ n ∈ visited, ∀ d, table.get? n = some d → ∀ next ∈ d.references, next ∈ visited ∨ next ∈ pending

theorem Explored.seen {visited pending : List String} (h : Explored table visited (name :: pending))
    (seen : name ∈ visited) : Explored table visited pending := by
  intro n mem d found next used
  rcases h n mem d found next used with old | waiting
  · exact .inl old
  · rcases List.mem_cons.mp waiting with rfl | later
    · exact .inl seen
    · exact .inr later

/-- A name is visited, and what it refers to is pending if it is not visited. -/
theorem Explored.visit {visited pending new : List String}
    (h : Explored table visited (name :: pending))
    (all : ∀ d, table.get? name = some d → ∀ next ∈ d.references, next ∈ name :: visited ∨ next ∈ new) :
    Explored table (name :: visited) (new ++ pending) := by
  intro n mem d found next used
  rcases List.mem_cons.mp mem with rfl | old
  · exact (all d found next used).imp_right (List.mem_append_left pending)
  · rcases h n old d found next used with known | waiting
    · exact .inl (List.mem_cons_of_mem name known)
    · rcases List.mem_cons.mp waiting with rfl | later
      · exact .inl List.mem_cons_self
      · exact .inr (List.mem_append_right new later)

theorem append_cons_subset {visited visited' pending pending' : List String}
    (old : visited ⊆ visited') (here : name ∈ visited') (waiting : pending ⊆ pending') :
    visited ++ name :: pending ⊆ visited' ++ pending' :=
  List.append_subset.mpr ⟨List.subset_append_of_subset_left pending' old,
    List.cons_subset.mpr ⟨List.mem_append_left pending' here,
      List.subset_append_of_subset_right visited' waiting⟩⟩

/-- The search ends with everything visited, and nothing pending. -/
theorem explored_reachFrom {visited pending : List String} (h : Explored table visited pending) :
    Explored table (reachFrom table visited pending) [] ∧
      visited ++ pending ⊆ reachFrom table visited pending := by
  fun_induction reachFrom table visited pending with
  | case1 visited => exact ⟨h, by simp⟩
  | case2 visited n pending seen ih =>
    have n_seen : n ∈ visited := by simpa using seen
    obtain ⟨explored, found⟩ := ih (h.seen n_seen)
    have kept := append_cons_subset (List.Subset.refl visited) n_seen (List.Subset.refl pending)
    exact ⟨explored, List.Subset.trans kept found⟩
  | case3 visited n pending seen undefined ih =>
    have all (d : TypeDefinition) (defined : table.get? n = some d) :
        ∀ next ∈ d.references, next ∈ n :: visited ∨ next ∈ [] := by
      rw [undefined] at defined
      cases defined
    obtain ⟨explored, found⟩ := ih (h.visit all)
    have kept := append_cons_subset (List.subset_cons_self n visited) List.mem_cons_self
      (List.Subset.refl pending)
    exact ⟨explored, List.Subset.trans kept found⟩
  | case4 visited n pending seen d defined new ih =>
    have all (d' : TypeDefinition) (defined' : table.get? n = some d') :
        ∀ next ∈ d'.references, next ∈ n :: visited ∨ next ∈ new := by
      intro next used
      rw [defined] at defined'
      cases defined'
      by_cases old : next ∈ n :: visited
      · exact .inl old
      · exact .inr (List.mem_filter.mpr ⟨used, by simpa using old⟩)
    obtain ⟨explored, found⟩ := ih (h.visit all)
    have kept := append_cons_subset (List.subset_cons_self n visited) List.mem_cons_self
      (List.subset_append_right new pending)
    exact ⟨explored, List.Subset.trans kept found⟩

/-! ## What it finds -/

/-- A chain of names leads to the given one: the first is mentioned in one of the types, and each other in
the type of a property of the one before it, which is a defined object. -/
inductive Reaches (table : TypeTable) (roots : List TypeExpr) : String → Prop where
  | root {t : TypeExpr} {name : String} (mem : t ∈ roots) (mentions : t.Mentions name) :
      Reaches table roots name
  | further {d : TypeDefinition} {properties : List TypedProperty} {p : TypedProperty}
      {name next : String} (reached : Reaches table roots name) (found : table.get? name = some d)
      (object : d.body = .object properties) (mem : p ∈ properties) (mentions : p.type.Mentions next) :
      Reaches table roots next

/-- A set of names that holds those of the types, and those of each definition in it, holds all that are
reached. -/
theorem Reaches.mem_of_explored {roots : List TypeExpr} {visited : List String}
    (explored : Explored table visited []) (start : ∀ n ∈ TypeExpr.referencesIn roots, n ∈ visited)
    (reached : table.Reaches roots name) : name ∈ visited := by
  induction reached with
  | root mem mentions =>
    exact start _ (TypeExpr.mem_referencesIn_iff.mpr
      ⟨_, mem, TypeExpr.mem_references_iff.mpr mentions⟩)
  | further _ found object mem mentions ih =>
    have used := TypeDefinition.mem_references_iff.mpr ⟨_, _, object, mem, mentions⟩
    exact (explored _ ih _ found _ used).resolve_right List.not_mem_nil

theorem mem_reachFrom_iff (roots : List TypeExpr) :
    name ∈ reachFrom table [] (NameSet.ofList (TypeExpr.referencesIn roots)) ↔
      table.Reaches roots name := by
  constructor
  · refine mem_of_mem_reachFrom (fun n d reached found next used => ?_) (List.forall_mem_nil _) ?_ name
    · obtain ⟨properties, p, object, mem, mentions⟩ := TypeDefinition.mem_references_iff.mp used
      exact .further reached found object mem mentions
    · intro n mem
      obtain ⟨t, t_mem, used⟩ := TypeExpr.mem_referencesIn_iff.mp ((NameSet.mem_ofList n _).mp mem)
      exact .root t_mem (TypeExpr.mem_references_iff.mp used)
  · have nothing : Explored table [] (NameSet.ofList (TypeExpr.referencesIn roots)) :=
      fun n mem => absurd mem List.not_mem_nil
    obtain ⟨explored, found⟩ := explored_reachFrom nothing
    exact Reaches.mem_of_explored explored fun n mem => found ((NameSet.mem_ofList n _).mpr mem)

/-- The search of a table gives the defined names that chains lead to from the types, in order and each
once, whatever cycles there are and whatever names are undefined. -/
theorem reachable_exact (table : TypeTable) (roots : List TypeExpr) :
    (table.reachable roots).Pairwise (· < ·) ∧
      ∀ name, name ∈ table.reachable roots ↔
        table.Reaches roots name ∧ ∃ d, table.get? name = some d := by
  refine ⟨NameSet.pairwise_ofList _, fun name => ?_⟩
  rw [reachable, NameSet.mem_ofList, List.mem_filter, mem_reachFrom_iff, KeyMap.contains,
    Option.isSome_iff_exists]

/-- A cycle of two types, one of which also mentions a name without a definition. -/
example :
    let pet : TypeDefinition := ⟨"Pet", none, .object [⟨"owner", .reference "Owner", true, none, none, none⟩]⟩
    let owner : TypeDefinition := ⟨"Owner", none, .object [
      ⟨"pets", .list (.reference "Pet"), false, none, none, none⟩,
      ⟨"lost", .reference "Ghost", false, none, none, none⟩]⟩
    reachable (define (define .empty pet) owner) [.list (.reference "Pet")] = ["Owner", "Pet"] := by
  cbv

end TypeTable
end Scaffold
