/-
Types in TypeScript are grouped as they are meant: the text of a canonical type is a type of the grammar,
and its only tree is that of the type (`reads_render`). Whether the element of an array needs parentheses
is seen from the spaces in its text; an element that is a union always has one.
-/
import Scaffold.Proofs.Target.Grammar
import Scaffold.Proofs.Target.Render
import Scaffold.Proofs.TypeExpr.Reading

namespace Scaffold
namespace TypeExpr

open TypeScript (Tree)

/-! ## The tree of a type -/

/-- What a type without arguments is called. -/
def atomName (name : String) : String :=
  if name ∈ ["string", "char", "Guid", "DateTime", "DateTimeOffset", "DateOnly", "TimeOnly",
    "TimeSpan"] then "string"
  else if name ∈ ["byte", "sbyte", "short", "ushort", "int", "uint", "long", "ulong", "float", "double",
    "decimal"] then "number"
  else if name = "bool" then "boolean"
  else if name = "object" then "any"
  else name

theorem atomName_primitive (p : Primitive) : atomName p.name = Target.typescript.primitiveName p := by
  cases p <;> rfl

/-- What is no primitive keeps its name. -/
theorem atomName_of_other {name : String} (other : canonicalPrimitive? name = none) :
    atomName name = name := by
  have new : name ∉ Primitive.all.map Primitive.name := by
    intro mem
    obtain ⟨p, -, rfl⟩ := List.mem_map.mp mem
    rw [canonicalPrimitive?, Primitive.ofSpelling?_name] at other
    cases other
  simp only [Primitive.all, Primitive.name, List.map_cons, List.map_nil, List.mem_cons,
    List.not_mem_nil, or_false, not_or] at new
  simp [atomName, new]

/-- A type without null. Keys of maps are always texts. -/
def baseTree (name : String) : List Tree → Tree
  | [] => .apply (atomName name) []
  | [element] => if name = listName then .array element else .apply name [element]
  | [key, value] =>
    if name = dictionaryName then .apply "Record" [.apply "string" [], value]
    else .apply name [key, value]
  | args => .apply name args

def withNull (nullable : Bool) (t : Tree) : Tree :=
  if nullable then .union t (.apply "null" []) else t

mutual

/-- How a type is meant: null is one more member of a union wherever it is among the values. -/
def tree : TypeExpr → Tree
  | ⟨name, args, _, _, isNullable⟩ => withNull isNullable (baseTree name (trees args))

def trees : List TypeExpr → List Tree
  | [] => []
  | t :: rest => tree t :: trees rest

end

theorem trees_eq_map (ts : List TypeExpr) : trees ts = ts.map tree := by
  induction ts with
  | nil => rfl
  | cons t rest ih => rw [trees, ih, List.map_cons]

variable {name : String} {args : List TypeExpr}

theorem tree_primitive (p : Primitive) (nullable : Bool) :
    tree ⟨p.name, [], false, false, nullable⟩ =
      withNull nullable (.apply (Target.typescript.primitiveName p) []) := by
  rw [tree, trees, baseTree, atomName_primitive]

theorem tree_list (element : TypeExpr) (nullable : Bool) :
    tree ⟨listName, [element], false, false, nullable⟩ =
      withNull nullable (.array (tree element)) := by
  simp only [tree, trees, baseTree, if_true]

theorem tree_dictionary (key value : TypeExpr) (nullable : Bool) :
    tree ⟨dictionaryName, [key, value], false, false, nullable⟩ =
      withNull nullable (.apply "Record" [.apply "string" [], tree value]) := by
  simp only [tree, trees, baseTree, if_true]

theorem tree_reference (other : canonicalPrimitive? name = none)
    (own : ¬IsWrapper name args.length) (nullable : Bool) :
    tree ⟨name, args, true, false, nullable⟩ =
      withNull nullable (.apply name (args.map tree)) := by
  rw [tree, trees_eq_map]
  refine congrArg (withNull nullable) ?_
  rcases args with _ | ⟨first, _ | ⟨second, _ | ⟨third, rest⟩⟩⟩
  · rw [List.map_nil, baseTree, atomName_of_other other]
  · have not_list : name ≠ listName := by
      rintro rfl
      exact own (.inl ⟨rfl, .inr (by decide)⟩)
    simp only [List.map_cons, List.map_nil, baseTree, if_neg not_list]
  · have not_map : name ≠ dictionaryName := by
      rintro rfl
      exact own (.inr ⟨rfl, by decide⟩)
    simp only [List.map_cons, List.map_nil, baseTree, if_neg not_map]
  · rfl

end TypeExpr

namespace Target

open TypeExpr TypeScript

/-! ## Texts from their parts -/

theorem tokens_join (first : String) (others : List String) :
    tokens (Text.join ", " (first :: others)) = separated ((first :: others).map tokens) := by
  induction others generalizing first with
  | nil => simp [Text.join, separated]
  | cons second others ih =>
    have written : Text.join ", " (first :: second :: others) =
        first ++ ", " ++ Text.join ", " (second :: others) := by
      apply String.toList_injective
      simp [toList_join_cons_cons]
    have comma : tokens (first ++ ", ") = tokens first ++ [.symbol ','] :=
      tokens_append_of_first (c := ',') (by decide) (by decide)
    rw [written, tokens_append_of_last (c := ' ') (getLast?_append (by decide) first) (by decide), comma, ih]
    simp [separated]

theorem tokens_applied {name : String} (plain : PlainName name) (first : String) (others : List String) :
    tokens (applied name (first :: others)) =
      .name name :: .symbol '<' :: (separated ((first :: others).map tokens) ++ [.symbol '>']) := by
  have opened : tokens (name ++ "<") = [.name name, .symbol '<'] := by
    rw [tokens_append_of_first (c := '<') (by decide) (by decide), tokens_name plain]
    rfl
  rw [applied, tokens_append_of_first (c := '>') (by decide) (by decide),
    tokens_append_of_last (c := '<') (getLast?_append (by decide) name) (by decide), opened, tokens_join]
  · rfl
  · exact List.cons_ne_nil first others

theorem derives_name {name : String} (plain : PlainName name) :
    Derives .member (tokens name) (.apply name []) := by
  rw [tokens_name plain]
  exact .atom (.name name)

theorem derives_mapOf {value : String} {t : Tree} (inside : Derives .union (tokens value) t) :
    Derives .member (tokens (typescript.mapOf value)) (.apply "Record" [.apply "string" [], t]) := by
  have written : typescript.mapOf value = "Record<string, " ++ value ++ ">" := rfl
  have opened : tokens "Record<string, " = [.name "Record", .symbol '<', .name "string", .symbol ','] := by
    decide
  have key : Derives .union [.name "string"] (.apply "string" []) := .member (.atom (.name "string"))
  have arguments : ∀ arg ∈ [([Token.name "string"], Tree.apply "string" []), (tokens value, t)],
      Derives .union arg.1 arg.2 :=
    List.forall_mem_cons.mpr ⟨key, List.forall_mem_singleton.mpr inside⟩
  rw [written, tokens_append_of_first (c := '>') (by decide) (by decide),
    tokens_append_of_last (c := ' ') (by decide) (by decide), opened]
  exact .atom (.apply "Record" (List.cons_ne_nil _ _) arguments)

/-- An element with a space in its text is put in parentheses; one without must hold together by
itself. -/
theorem derives_listOf {element : String} {t : Tree} (inside : Derives .union (tokens element) t)
    (together : ' ' ∉ element.toList → Derives .member (tokens element) t) :
    Derives .member (tokens (typescript.listOf element)) (.array t) := by
  rw [listOf]
  by_cases space : ' ' ∈ element.toList
  · rw [if_pos (List.contains_iff_mem.mpr space), tokens_append_of_first (c := ')') (by decide) (by decide),
      tokens_append_of_last (c := '(') (by decide) (by decide)]
    have opened : tokens "(" = [.symbol '('] := by decide
    have closed : tokens ")[]" = [.symbol ')', .symbol '[', .symbol ']'] := by decide
    have grouped := (Derives.atom (.paren inside)).array
    rw [opened, closed]
    simpa using grouped
  · rw [if_neg (mt List.contains_iff_mem.mp space), tokens_append_of_first (c := '[') (by decide) (by decide)]
    exact (together space).array

theorem derives_applied {name : String} (plain : PlainName name) {args : List TypeExpr}
    (inside : ∀ t ∈ args, Derives .union (tokens (typescript.render t)) t.tree) :
    Derives .member (tokens (applied name (args.map typescript.render))) (.apply name (args.map tree)) := by
  cases args with
  | nil => exact derives_name plain
  | cons first others =>
    -- That there are arguments is all that the rest needs to know of them.
    generalize arguments : first :: others = args at inside
    have pieces : ∀ arg ∈ args.map fun t => (tokens (typescript.render t), t.tree),
        Derives .union arg.1 arg.2 := by
      intro arg mem
      obtain ⟨t, arg_mem, rfl⟩ := List.mem_map.mp mem
      exact inside t arg_mem
    have present : args.map (fun t => (tokens (typescript.render t), t.tree)) ≠ [] := by
      simp [← arguments]
    have derived := Derives.apply name present pieces
    rw [List.map_map, List.map_map] at derived
    have written : tokens (applied name (args.map typescript.render)) =
        .name name :: .symbol '<' ::
          (separated ((args.map typescript.render).map tokens) ++ [.symbol '>']) := by
      rw [← arguments]
      exact tokens_applied plain _ _
    rw [written, List.map_map]
    exact .atom derived

theorem derives_marked {base : String} {t : Tree} (clear : typescript.hasNull base = false)
    (member : Derives .member (tokens base) t) (nullable : Bool) :
    Derives .union (tokens (typescript.marked nullable base)) (withNull nullable t) := by
  cases nullable with
  | false => exact .member member
  | true =>
    have null : tokens nullUnion = [.symbol '|', .name "null"] := by decide
    rw [hasNull] at clear
    rw [marked, if_pos rfl, nullableOf, clear, if_neg (by decide),
      tokens_append_of_first (c := ' ') (by decide) (by decide), null]
    exact .union (.member member) (.atom (.name "null"))

/-- A text with null has a space. -/
theorem space_mem_marked (base : String) : ' ' ∈ (typescript.marked true base).toList := by
  have space : ' ' ∈ nullUnion.toList := by decide
  rw [marked, if_pos rfl, nullableOf]
  split
  · next ends =>
    rw [Text.endsWith, List.isSuffixOf_iff_suffix] at ends
    exact ends.subset space
  · rw [String.toList_append]
    exact List.mem_append_right _ space

/-- The text of a type is a type of the grammar. It holds together by itself unless it has null, and then
there is a space in it. -/
structure Grouped (text : String) (t : Tree) : Prop where
  union : Derives .union (tokens text) t
  member : ' ' ∉ text.toList → Derives .member (tokens text) t

theorem grouped_marked {base : String} {t : Tree} (clear : typescript.hasNull base = false)
    (member : Derives .member (tokens base) t) (nullable : Bool) :
    Grouped (typescript.marked nullable base) (withNull nullable t) := by
  refine ⟨derives_marked clear member nullable, fun no_space => ?_⟩
  cases nullable with
  | false => exact member
  | true => exact absurd (space_mem_marked base) no_space

theorem grouped_render {t : TypeExpr} (canonical : Canonical t) : Grouped (typescript.render t) t.tree := by
  induction canonical with
  | primitive p nullable =>
    have plain : PlainName (typescript.primitiveName p) := by
      cases p <;> decide
    rw [render_primitive, tree_primitive]
    exact grouped_marked (hasNull_primitiveName typescript p) (derives_name plain) nullable
  | list nullable inside ih =>
    rw [render_list, tree_list]
    exact grouped_marked (hasNull_listOf typescript _) (derives_listOf ih.union ih.member) nullable
  | dictionary nullable key_inside value_inside key_ih value_ih =>
    rw [render_dictionary, tree_dictionary]
    exact grouped_marked (hasNull_mapOf typescript _) (derives_mapOf value_ih.union) nullable
  | reference nullable plain other own inside ih =>
    rw [render_reference typescript other own, tree_reference other own]
    have arguments := derives_applied plain fun t mem => (ih t mem).union
    exact grouped_marked (hasNull_applied typescript plain nofun) arguments nullable

/-- What a canonical type is written as in TypeScript is a type of the grammar, and the tree of the type
is the only one that it has. -/
theorem reads_render {t : TypeExpr} (canonical : Canonical t) (read : Tree) :
    Reads (typescript.render t) read ↔ read = t.tree := by
  have reads : Reads (typescript.render t) t.tree := (grouped_render canonical).union
  constructor
  · exact fun other => other.unique reads
  · rintro rfl
    exact reads

/-- A page of optional lists of optional numbers, with the number of pages by topic. -/
def ratings : TypeExpr :=
  list (generic "Page" [(list (named "int").orNull).orNull, dictionary (named "Guid") (list (named "long"))])

theorem reads_render_ratings :
    Canonical ratings ∧
    typescript.render ratings = "(Page<(number | null)[] | null, Record<string, number[]>>)[]" ∧
    ∀ read, Reads (typescript.render ratings) read ↔
      read = .array (.apply "Page" [
        .union (.array (.union (.apply "number" []) (.apply "null" []))) (.apply "null" []),
        .apply "Record" [.apply "string" [], .array (.apply "number" [])]]) := by
  have scores : Canonical (list (named "int").orNull).orNull := .list true (.primitive .int true)
  have pages : Canonical (dictionary (named "Guid") (list (named "long"))) :=
    .dictionary false (.primitive .guid false) (.list false (.primitive .long false))
  have page : Canonical (generic "Page" [(list (named "int").orNull).orNull,
      dictionary (named "Guid") (list (named "long"))]) :=
    .reference false (by decide) (by decide) (by decide)
      (List.forall_mem_cons.mpr ⟨scores, List.forall_mem_singleton.mpr pages⟩)
  have canonical : Canonical ratings := .list false page
  exact ⟨canonical, by decide, reads_render canonical⟩

end Target
end Scaffold
