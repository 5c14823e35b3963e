/-
Join entities. A collection is marked as one through a join entity only if there is a third entity with
foreign keys to both sides (`joinEntity?_of_isSkip`). The search asks for the two keys one at a time, so
they are two keys if the sides differ, and in a relation of an entity with itself only if some other
entity has two keys to it: `joined_iff_of_isSkip`. The principals of what is taken for a join table get
collections of each other, and lose those of the entity. It takes two foreign keys and a key that consists
of their properties; nobody asks whether it has all of them, so an entity that shares the key of one
principal is taken for a join table as well: `isPureJoin_iff_of_joined`.
-/
import Mathlib.Data.List.Perm.Subperm
import Scaffold.Proofs.Mapping.Collections
import Scaffold.Proofs.Mapping.Enrich

namespace Scaffold

/-! ## Navigations through join entities -/

namespace EntityMapping

variable {d : EntityMapping} {left right principal : String}

/-- Two foreign keys of the entity lead to the two sides, one to each. -/
def Joins (d : EntityMapping) (left right : String) : Prop :=
  ∃ k k', [k, k'].Subperm d.foreignKeys ∧ k.principal = left ∧ k'.principal = right

theorem refersTo_iff : d.refersTo principal = true ↔ ∃ k ∈ d.foreignKeys, k.principal = principal := by
  simp [refersTo]

theorem joins_of_ne (differ : left ≠ right) (to_left : d.refersTo left = true)
    (to_right : d.refersTo right = true) : d.Joins left right := by
  obtain ⟨k, mem, rfl⟩ := refersTo_iff.mp to_left
  obtain ⟨k', mem', rfl⟩ := refersTo_iff.mp to_right
  have apart : k ≠ k' := fun same => differ (congrArg _ same)
  have two : [k, k'].Nodup := by simp [apart]
  refine ⟨k, k', two.subperm fun x x_mem => ?_, rfl, rfl⟩
  rcases List.mem_pair.mp x_mem with rfl | rfl
  · exact mem
  · exact mem'

/-- Two keys to one principal are counted as two. -/
theorem joins_self_iff :
    d.Joins principal principal ↔ 2 ≤ d.foreignKeys.countP (·.principal == principal) := by
  constructor
  · rintro ⟨k, k', two, rfl, same⟩
    have counted := two.countP_le (·.principal == k.principal)
    simpa [same] using counted
  · intro two
    rw [List.countP_eq_length_filter] at two
    have inside : ((d.foreignKeys.filter (·.principal == principal)).take 2).Sublist
        (d.foreignKeys.filter (·.principal == principal)) := List.take_sublist 2 _
    obtain ⟨k, k', first⟩ := List.length_eq_two.mp (List.length_take_of_le two)
    rw [first] at inside
    have leads (x : ForeignKeyMapping) (mem : x ∈ [k, k']) : x.principal = principal :=
      beq_iff_eq.mp (List.mem_filter.mp (inside.subset mem)).2
    exact ⟨k, k', (inside.trans List.filter_sublist).subperm, leads k (by simp), leads k' (by simp)⟩

end EntityMapping

namespace MappingModel

variable {m : MappingModel} {mapping : EntityMapping} {declared e : Entity} {n : Navigation}
  {left right : String}

/-- A third entity joins the two sides. -/
def Joined (m : MappingModel) (left right : String) : Prop :=
  ∃ d ∈ m.entities, d.name ≠ left ∧ d.name ≠ right ∧ d.Joins left right

theorem exists_of_joinEntity? (found : (m.joinEntity? left right).isSome = true) :
    ∃ d ∈ m.entities, d.name ≠ left ∧ d.name ≠ right ∧ d.refersTo left = true ∧
      d.refersTo right = true := by
  obtain ⟨d, found⟩ := Option.isSome_iff_exists.mp found
  have fits := List.find?_some found
  simp only [Bool.and_eq_true, bne_iff_ne] at fits
  obtain ⟨⟨⟨not_left, not_right⟩, to_left⟩, to_right⟩ := fits
  exact ⟨d, List.mem_of_find?_eq_some found, not_left, not_right, to_left, to_right⟩

/-- Only a collection that is not the other end of a foreign key goes through a join entity. -/
theorem isSkip_navigationOf {p : Property} (skip : (m.navigationOf mapping e p).isSkip = true) :
    p.isList = true ∧ m.inverseKey? e.name p.name p.elementName = none ∧
      (m.joinEntity? e.name p.elementName).isSome = true := by
  by_cases list : p.isList = true
  · rw [navigationOf, if_pos list, collectionNavigation] at skip
    cases inverse : m.inverseKey? e.name p.name p.elementName with
    | some key =>
      rw [inverse] at skip
      cases skip
    | none =>
      rw [inverse] at skip
      exact ⟨list, rfl, skip⟩
  · rw [navigationOf, if_neg list] at skip
    cases skip

theorem typeName_navigationOf (p : Property) : (m.navigationOf mapping e p).typeName = p.elementName := by
  unfold navigationOf
  split <;> rfl

theorem joinEntity?_of_isSkip (ok : m.enrich declared = .ok e) (mem : n ∈ e.navigations)
    (skip : n.isSkip = true) : (m.joinEntity? e.name n.typeName).isSome = true := by
  obtain ⟨mapping, -, rfl, -⟩ := enrich_eq_ok_iff.mp ok
  obtain ⟨p, -, rfl⟩ := List.mem_map.mp mem
  rw [typeName_navigationOf]
  exact (isSkip_navigationOf skip).2.2

theorem joined_self_iff : m.Joined left left ↔
    ∃ d ∈ m.entities, d.name ≠ left ∧ 2 ≤ d.foreignKeys.countP (·.principal == left) := by
  simp only [Joined, EntityMapping.joins_self_iff, ← and_assoc, and_self]

/-- What is marked as going through a join entity has one, with a foreign key to each side, but for a
relation of an entity with itself that is marked because of a single key. -/
theorem joined_iff_of_isSkip (ok : m.enrich declared = .ok e) (mem : n ∈ e.navigations)
    (skip : n.isSkip = true) :
    m.Joined e.name n.typeName ↔ e.name ≠ n.typeName ∨
      ∃ d ∈ m.entities, d.name ≠ e.name ∧ 2 ≤ d.foreignKeys.countP (·.principal == e.name) := by
  obtain ⟨d, d_mem, not_left, not_right, to_left, to_right⟩ :=
    exists_of_joinEntity? (joinEntity?_of_isSkip ok mem skip)
  by_cases self : e.name = n.typeName
  · rw [← self, joined_self_iff]
    exact ⟨.inr, fun | .inl differ => absurd rfl differ | .inr two => two⟩
  · have joins : d.Joins e.name n.typeName := EntityMapping.joins_of_ne self to_left to_right
    exact ⟨fun _ => .inl self, fun _ => ⟨d, d_mem, not_left, not_right, joins⟩⟩

/-- Posts and tags, with an entity that joins one post and one tag. -/
def blog : MappingModel :=
  let key (property principal : String) : ForeignKeyMapping :=
    ⟨[property], principal, ["Id"], none, none, true⟩
  ⟨[⟨"Post", "posts", none, [], ["Id"], [], []⟩,
    ⟨"Tag", "tags", none, [], ["Id"], [], []⟩,
    ⟨"PostTag", "post_tags", none, [], ["PostId", "TagId"], [], [key "PostId" "Post", key "TagId" "Tag"]⟩]⟩

def post : Entity :=
  let list (name typeText : String) : Property := { Property.scalar name typeText with isList := true }
  { Entity.empty "Post" "Blog" with properties := [list "Tags" "List<Tag>", list "Related" "List<Post>"] }

theorem joined_iff_of_isSkip_tags :
    ∃ e n, blog.enrich post = .ok e ∧ n ∈ e.navigations ∧ n.isSkip = true ∧ n.typeName = "Tag" ∧
      blog.Joined e.name n.typeName := by
  have computed : (blog.enrich post).toOption.map (fun e => (e.name, e.navigation? "Tags")) =
      some ("Post", some ⟨"Tags", "Tag", none, false, true, true⟩) := by
    decide
  obtain ⟨e, enriched, found⟩ := Option.map_eq_some_iff.mp computed
  obtain ⟨named, found⟩ := Prod.mk.inj found
  have ok := toOption_eq_some_iff.mp enriched
  have mem := List.mem_of_find?_eq_some found
  refine ⟨e, _, ok, mem, rfl, rfl, (joined_iff_of_isSkip ok mem rfl).mpr (.inl ?_)⟩
  rw [named]
  decide

/-- Related posts are taken to be joined by what joins a post and a tag. -/
theorem relatedPosts_not_joined :
    ∃ e n, blog.enrich post = .ok e ∧ n ∈ e.navigations ∧ n.isSkip = true ∧
      ¬blog.Joined e.name n.typeName := by
  have computed : (blog.enrich post).toOption.map (fun e => (e.name, e.navigation? "Related")) =
      some ("Post", some ⟨"Related", "Post", none, false, true, true⟩) := by
    decide
  obtain ⟨e, enriched, found⟩ := Option.map_eq_some_iff.mp computed
  obtain ⟨named, found⟩ := Prod.mk.inj found
  refine ⟨e, _, toOption_eq_some_iff.mp enriched, List.mem_of_find?_eq_some found, rfl, ?_⟩
  rw [named, joined_self_iff]
  decide

end MappingModel

/-! ## Join tables -/

namespace EntityMapping

variable {e : EntityMapping}

/-- The key is exactly the properties of two foreign keys, of both and nothing else. -/
structure IsPureJoin (e : EntityMapping) : Prop where
  two : e.foreignKeys.length = 2
  key : ∀ p, p ∈ e.keys ↔ ∃ k ∈ e.foreignKeys, p ∈ k.properties

theorem isJoinTable_iff : e.isJoinTable = true ↔
    e.foreignKeys.length = 2 ∧ e.keys ≠ [] ∧ ∀ p ∈ e.keys, ∃ k ∈ e.foreignKeys, p ∈ k.properties := by
  simp [isJoinTable, and_assoc]

theorem isPureJoin_iff (join : e.isJoinTable = true) :
    e.IsPureJoin ↔ ∀ k ∈ e.foreignKeys, k.properties ⊆ e.keys := by
  obtain ⟨two, -, inside⟩ := isJoinTable_iff.mp join
  constructor
  · intro pure k mem p p_mem
    exact (pure.key p).mpr ⟨k, mem, p_mem⟩
  · intro all
    exact ⟨two, fun p => ⟨inside p, fun ⟨k, mem, p_mem⟩ => all k mem p_mem⟩⟩

end EntityMapping

namespace MappingModel

variable {m : MappingModel} {namespaceName : String} {e : EntityMapping} {ds : List Declaration}
  {first second : ForeignKeyMapping} {before after : List EntityMapping}

/-- Collections of each other for the principals of two foreign keys. -/
def addEachOther (first second : ForeignKeyMapping) (ds : List Declaration) : List Declaration :=
  addCollection second.principal (Text.pluralize first.principal) first.principal
    (addCollection first.principal (Text.pluralize second.principal) second.principal ds)

theorem addCollections_of_join (join : e.isJoinTable = true) (keys : e.foreignKeys = [first, second])
    (ds : List Declaration) : addCollections ds e = addEachOther first second ds := by
  unfold addCollections
  rw [join, keys]
  rfl

/-- When the entity has its turn, its principals get collections of each other, and the collections of the
entity itself would have been others. -/
def PairsPrincipals (m : MappingModel) (namespaceName : String) (e : EntityMapping) : Prop :=
  ∃ before after first second, m.entities = before ++ e :: after ∧ e.foreignKeys = [first, second] ∧
    let ds := m.classesBefore namespaceName before e []
    addCollections ds e = addEachOther first second ds ∧
      addEachOther first second ds ≠ e.foreignKeys.foldl (addInverse e) ds

/-- In the end a principal has no collection of the name that a foreign key of the entity gives. -/
def LosesCollection (m : MappingModel) (namespaceName : String) (e : EntityMapping) : Prop :=
  ∃ k ∈ e.foreignKeys, ∃ name, k.inverse = some name ∧
    ClassHas k.principal (Fresh · name) (m.classes namespaceName)

theorem isJoinTable_of_pairs (pairs : m.PairsPrincipals namespaceName e) : e.isJoinTable = true := by
  obtain ⟨before, after, first, second, -, -, turn, others⟩ := pairs
  by_contra no_join
  rw [addCollections_of_not_join (Bool.of_not_eq_true no_join)] at turn
  exact others turn.symm

/-- A class is there for an entity. -/
theorem known_of_classHas {owner : String} {P : Declaration → Prop}
    (has : ClassHas owner P (m.classes namespaceName)) : ∃ e ∈ m.entities, e.name = owner := by
  obtain ⟨d, found, -⟩ := has
  obtain ⟨e, mem, cls⟩ :=
    exists_of_mem_right (classes_spec m namespaceName) (List.mem_of_find?_eq_some found)
  have named : d.name = owner := by simpa using List.find?_some found
  exact ⟨e, mem, cls.name.symm.trans named⟩

/-- Every foreign key of an entity that is no join table finds its collection in place, or leaves one. -/
theorem classHas_inverse {k : ForeignKeyMapping} {name : String} (mem : e ∈ m.entities)
    (no_join : e.isJoinTable = false) (key : k ∈ e.foreignKeys) (inverse : k.inverse = some name)
    (known : ∃ e' ∈ m.entities, e'.name = k.principal) :
    ClassHas k.principal (¬Fresh · name) (m.classes namespaceName) := by
  obtain ⟨before, after, entities⟩ := List.append_of_mem mem
  have turn : ClassHas k.principal (¬Fresh · name)
      (m.classesBefore namespaceName before e e.foreignKeys) :=
    classHas_not_fresh known key inverse
  have all : m.classes namespaceName =
      after.foldl addCollections (m.classesBefore namespaceName before e e.foreignKeys) := by
    rw [classes, classesBefore]
    conv_lhs => arg 3; rw [entities]
    rw [List.foldl_append, List.foldl_cons, addCollections_of_not_join no_join]
  rw [all]
  exact turn.foldl_addCollections (kept_not_fresh name) after

theorem isJoinTable_of_loses (mem : e ∈ m.entities) (loses : m.LosesCollection namespaceName e) :
    e.isJoinTable = true := by
  obtain ⟨k, key, name, inverse, has⟩ := loses
  by_contra no_join
  obtain ⟨d, found, taken⟩ :=
    classHas_inverse mem (Bool.of_not_eq_true no_join) key inverse (known_of_classHas has)
  obtain ⟨d', found', fresh⟩ := has
  rw [found] at found'
  cases found'
  exact taken fresh

/-- An entity whose principals get collections of each other, or miss one of the entity, has two foreign
keys and a key of their properties. It joins them purely exactly if its key has all of these. -/
theorem isPureJoin_iff_of_joined (mem : e ∈ m.entities)
    (joined : m.PairsPrincipals namespaceName e ∨ m.LosesCollection namespaceName e) :
    e.foreignKeys.length = 2 ∧ e.keys ≠ [] ∧ (∀ p ∈ e.keys, ∃ k ∈ e.foreignKeys, p ∈ k.properties) ∧
      (e.IsPureJoin ↔ ∀ k ∈ e.foreignKeys, k.properties ⊆ e.keys) := by
  have join : e.isJoinTable = true := by
    rcases joined with pairs | loses
    · exact isJoinTable_of_pairs pairs
    · exact isJoinTable_of_loses mem loses
  obtain ⟨two, some_key, inside⟩ := EntityMapping.isJoinTable_iff.mp join
  exact ⟨two, some_key, inside, EntityMapping.isPureJoin_iff join⟩

/-- A profile of a user, with an image and the given key. -/
def profile (keys : List String) : EntityMapping :=
  let key (property principal : String) : ForeignKeyMapping :=
    ⟨[property], principal, ["Id"], some principal, some "Profiles", true⟩
  ⟨"Profile", "profiles", none, [], keys, [], [key "UserId" "User", key "ImageId" "Image"]⟩

def profiles (keys : List String) : MappingModel :=
  ⟨[⟨"User", "users", none, [], ["Id"], [], []⟩, ⟨"Image", "images", none, [], ["Id"], [], []⟩,
    profile keys]⟩

theorem profile_mem (keys : List String) : profile keys ∈ (profiles keys).entities := by
  simp [profiles]

theorem pairs_profiles {keys : List String} (mem : keys ∈ [["UserId", "ImageId"], ["UserId"]]) :
    (profiles keys).PairsPrincipals "Shop" (profile keys) := by
  have join : (profile keys).isJoinTable = true := by
    revert keys
    decide
  refine ⟨(profiles keys).entities.take 2, [], _, _, rfl, rfl, addCollections_of_join join rfl _, ?_⟩
  intro same
  have names := congrArg (List.map fun d => d.properties.map (·.name)) same
  clear same join
  revert keys
  decide

theorem isPureJoin_iff_of_joined_profiles :
    (profiles ["UserId", "ImageId"]).PairsPrincipals "Shop" (profile ["UserId", "ImageId"]) ∧
      (profile ["UserId", "ImageId"]).IsPureJoin := by
  have pairs : (profiles ["UserId", "ImageId"]).PairsPrincipals "Shop" (profile ["UserId", "ImageId"]) :=
    pairs_profiles (by decide)
  obtain ⟨-, -, -, pure⟩ := isPureJoin_iff_of_joined (profile_mem _) (.inl pairs)
  exact ⟨pairs, pure.mpr (by decide)⟩

/-- Profiles under the key of their user give users and images collections of each other, and users miss
their profiles. -/
theorem profiles_of_users_lost :
    profile ["UserId"] ∈ (profiles ["UserId"]).entities ∧
      (profiles ["UserId"]).PairsPrincipals "Shop" (profile ["UserId"]) ∧
      (profiles ["UserId"]).LosesCollection "Shop" (profile ["UserId"]) ∧
      ¬(profile ["UserId"]).IsPureJoin := by
  refine ⟨profile_mem _, pairs_profiles (by decide), ?_, ?_⟩
  · exact ⟨(profile ["UserId"]).foreignKeys[0], List.getElem_mem _, "Profiles", rfl, by decide⟩
  · rw [EntityMapping.isPureJoin_iff (by decide)]
    decide

end MappingModel
end Scaffold
