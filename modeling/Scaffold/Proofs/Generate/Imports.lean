/-
What transfer objects import: `Dto.imports_names`. In TypeScript and Rust the names of the import line are
those that the types of the fields print as they are, and those inside the keys of maps, which are never
printed. They can be read back from the line, unless one of them has a character that ends names there.
-/
import Mathlib.Data.List.Sort
import Scaffold.Generate.Dto
import Scaffold.Proofs.Target.Pieces
import Scaffold.Proofs.Text.Lines

namespace Scaffold

variable {target : Target} {properties : List Property} {name : String}

/-- A field is written in the pieces of its type. -/
theorem Field.typeText_eq_textOf (target : Target) (p : Property) :
    (ofProperty target p).typeText = Target.textOf target (target.pieces p.fullType) :=
  (Target.textOf_pieces target p.fullType).symm

theorem mem_referencedTypes :
    name ∈ referencedTypes properties ↔ ∃ p ∈ properties, name ∈ p.fullType.references := by
  simp [referencedTypes, NameSet.mem_ofList, TypeExpr.mem_referencesIn_iff]

theorem mem_referencedTypes_iff_printed (target : Target) :
    name ∈ referencedTypes properties ↔
      ∃ p ∈ properties, name ∈ target.printedNames p.fullType ∨ name ∈ p.fullType.keyReferences := by
  rw [mem_referencedTypes]
  refine exists_congr fun p => and_congr_right fun _ => ?_
  exact TypeExpr.mem_references_iff_printed (TypeExpr.described_describe p.typeText p.marks) target name

namespace Dto

/-! ## Reading import lines -/

/-- What names stand between in an import line. -/
def isMark (c : Char) : Bool :=
  c == '\x7b' || c == ',' || c == '\x7d'

/-- The names in an import line: what stands between its braces, cut at commas, without the blanks
around it. -/
def namesIn (line : String) : List String :=
  (Text.split isMark line).tail.dropLast.map Text.trim

/-- A name that can be told from what stands around it. -/
structure IsListed (name : String) : Prop where
  unmarked : ∀ c ∈ name.toList, isMark c = false
  trimmed : Text.trim name = name

theorem unmarked_iff {text : String} :
    (∀ c ∈ text.toList, isMark c = false) ↔ text.toList.any isMark = false := by
  simp only [List.any_eq_false, Bool.not_eq_true]

instance (name : String) : Decidable (IsListed name) :=
  decidable_of_iff (name.toList.any isMark = false ∧ Text.trim name = name)
    ⟨fun h => ⟨unmarked_iff.mpr h.1, h.2⟩, fun h => ⟨unmarked_iff.mp h.unmarked, h.trimmed⟩⟩

/-- Names that are joined are cut apart again, whatever spaces stand before the first and after the last. -/
theorem pieces_intercalate (names : List (List Char)) (some : names ≠ [])
    (unmarked : ∀ name ∈ names, ∀ c ∈ name, isMark c = false)
    (trimmed : ∀ name ∈ names, Text.dropBlankEnd (Text.dropBlank name) = name)
    {front back : List Char} (before : ∀ c ∈ front, c = ' ') (after : ∀ c ∈ back, c = ' ') :
    (Text.splitWhere isMark (front ++ [',', ' '].intercalate names ++ back)).map
      (fun piece => Text.dropBlankEnd (Text.dropBlank piece)) = names := by
  have blank {spaces : List Char} (all : ∀ c ∈ spaces, c = ' ') :
      ∀ c ∈ spaces, Text.isBlank c = true := fun c mem => all c mem ▸ by decide
  have inside {spaces : List Char} (all : ∀ c ∈ spaces, c = ' ') :
      ∀ c ∈ spaces, isMark c = false := fun c mem => all c mem ▸ by decide
  induction names generalizing front with
  | nil => exact absurd rfl some
  | cons name rest ih =>
    have own := unmarked name List.mem_cons_self
    cases rest with
    | nil =>
      have whole : ∀ c ∈ front ++ name ++ back, isMark c = false :=
        List.forall_mem_append.mpr
          ⟨List.forall_mem_append.mpr ⟨inside before, own⟩, inside after⟩
      rw [List.intercalate_singleton, Text.splitWhere_eq_singleton whole, List.map_singleton,
        Text.dropBlankEnd_dropBlank_append (blank before) (blank after)
          (trimmed name List.mem_cons_self)]
    | cons next others =>
      have first : ∀ c ∈ front ++ name, isMark c = false :=
        List.forall_mem_append.mpr ⟨inside before, own⟩
      have cut : front ++ [',', ' '].intercalate (name :: next :: others) ++ back =
          (front ++ name) ++ ',' :: ([' '] ++ [',', ' '].intercalate (next :: others) ++ back) := by
        rw [List.intercalate_cons_cons]
        simp
      have alone := Text.dropBlankEnd_dropBlank_append (blank before) (List.forall_mem_nil _)
        (trimmed name List.mem_cons_self)
      rw [List.append_nil] at alone
      rw [cut, Text.splitWhere_append (by decide), Text.splitWhere_eq_singleton first,
        List.singleton_append, List.map_cons, alone,
        ih (List.cons_ne_nil next others) (fun name mem => unmarked name (List.mem_cons_of_mem _ mem))
          (fun name mem => trimmed name (List.mem_cons_of_mem _ mem)) (by simp)]

/-- Names between braces are read back, if nothing around the braces ends names. -/
theorem namesIn_braced {names : List String} (some : names ≠ []) (listed : ∀ name ∈ names, IsListed name)
    {line : String} (front back gap : List Char) (before : ∀ c ∈ front, isMark c = false)
    (after : ∀ c ∈ back, isMark c = false) (spaces : ∀ c ∈ gap, c = ' ')
    (cut : line.toList = front ++ '\x7b' ::
      (gap ++ [',', ' '].intercalate (names.map String.toList) ++ gap ++ '\x7d' :: back)) :
    namesIn line = names := by
  have unmarked : ∀ name ∈ names.map String.toList, ∀ c ∈ name, isMark c = false :=
    List.forall_mem_map.mpr fun name mem => (listed name mem).unmarked
  have trimmed : ∀ name ∈ names.map String.toList, Text.dropBlankEnd (Text.dropBlank name) = name :=
    List.forall_mem_map.mpr fun name mem => by
      simpa [Text.trim] using congrArg String.toList (listed name mem).trimmed
  have pieces := pieces_intercalate _ (by simpa using some) unmarked trimmed spaces spaces
  calc namesIn line
    _ = ((Text.splitWhere isMark (gap ++ [',', ' '].intercalate (names.map String.toList) ++ gap)).map
          fun piece => Text.dropBlankEnd (Text.dropBlank piece)).map String.ofList := by
      rw [namesIn, Text.split, cut, Text.splitWhere_append (by decide),
        Text.splitWhere_append (by decide), Text.splitWhere_eq_singleton before,
        Text.splitWhere_eq_singleton after]
      simp [Text.trim, Function.comp_def]
    _ = names := by
      rw [pieces]
      simp

/-! ## Import lines -/

theorem importLine_typescript (naming : Naming) (names : List String) :
    importLine .typescript naming names =
      "import \x7b " ++ ", ".intercalate names ++ " \x7d from '" ++ naming.tsTypesImport ++ "';" :=
  rfl

theorem importLine_rust (naming : Naming) (names : List String) :
    importLine .rust naming names =
      "use " ++ naming.rustTypesPath ++ "::\x7b" ++ ", ".intercalate names ++ "\x7d;" :=
  rfl

theorem namesIn_importLine (other : target ≠ .csharp) {naming : Naming} {names : List String}
    (some : names ≠ []) (listed : ∀ name ∈ names, IsListed name)
    (typescript : ∀ c ∈ naming.tsTypesImport.toList, isMark c = false)
    (rust : ∀ c ∈ naming.rustTypesPath.toList, isMark c = false) :
    namesIn (importLine target naming names) = names := by
  cases target with
  | csharp => exact absurd rfl other
  | typescript =>
    have after : ∀ c ∈ " from '".toList ++ naming.tsTypesImport.toList ++ "';".toList, isMark c = false :=
      List.forall_mem_append.mpr ⟨List.forall_mem_append.mpr
        ⟨unmarked_iff.mpr (by decide), typescript⟩, unmarked_iff.mpr (by decide)⟩
    refine namesIn_braced some listed "import ".toList _ [' '] (unmarked_iff.mpr (by decide)) after
      (by simp) ?_
    simp [importLine_typescript, String.toList_intercalate]
  | rust =>
    have before : ∀ c ∈ "use ".toList ++ naming.rustTypesPath.toList ++ "::".toList, isMark c = false :=
      List.forall_mem_append.mpr ⟨List.forall_mem_append.mpr
        ⟨unmarked_iff.mpr (by decide), rust⟩, unmarked_iff.mpr (by decide)⟩
    refine namesIn_braced some listed _ ";".toList [] before (unmarked_iff.mpr (by decide)) (by simp) ?_
    simp [importLine_rust, String.toList_intercalate]

theorem imports_of_ne_csharp (other : target ≠ .csharp) (naming : Naming) (e : Entity) :
    imports target naming e properties =
      if referencedTypes properties = [] then []
      else [importLine target naming (referencedTypes properties)] := by
  cases target with
  | csharp => exact absurd rfl other
  | typescript | rust => simp only [imports, List.isEmpty_iff]

/-- The import line of a transfer object has, in order and each once, the names that its fields print at
any depth and those inside keys of maps. Without such names there is no line. The names are joined by
commas between braces, and are read back from there if none of them, and nothing around them, has commas
or braces. -/
theorem imports_names (other : target ≠ .csharp) (naming : Naming) (e : Entity)
    (properties : List Property) :
    ∃ names : List String, names.Pairwise (· < ·) ∧
      (∀ name, name ∈ names ↔ ∃ p ∈ properties,
        name ∈ target.printedNames p.fullType ∨ name ∈ p.fullType.keyReferences) ∧
      (∀ p ∈ properties,
        (Field.ofProperty target p).typeText = Target.textOf target (target.pieces p.fullType)) ∧
      imports target naming e properties =
        (if names = [] then [] else [importLine target naming names]) ∧
      (target = .typescript → importLine target naming names =
        "import \x7b " ++ ", ".intercalate names ++ " \x7d from '" ++ naming.tsTypesImport ++ "';") ∧
      (target = .rust → importLine target naming names =
        "use " ++ naming.rustTypesPath ++ "::\x7b" ++ ", ".intercalate names ++ "\x7d;") ∧
      ((∀ name ∈ names, IsListed name) → (∀ c ∈ naming.tsTypesImport.toList, isMark c = false) →
        (∀ c ∈ naming.rustTypesPath.toList, isMark c = false) →
        ∀ line ∈ imports target naming e properties, namesIn line = names) := by
  refine ⟨referencedTypes properties, NameSet.pairwise_ofList _,
    fun _ => mem_referencedTypes_iff_printed target,
    fun p _ => Field.typeText_eq_textOf target p, imports_of_ne_csharp other naming e, ?_, ?_, ?_⟩
  · rintro rfl
    exact importLine_typescript naming _
  · rintro rfl
    exact importLine_rust naming _
  · intro listed typescript rust line mem
    rw [imports_of_ne_csharp other] at mem
    split at mem
    · cases mem
    · next some =>
      rw [List.mem_singleton.mp mem]
      exact namesIn_importLine other some listed typescript rust

/-- Prices by region. -/
def prices : Property :=
  .scalar "prices" "Dictionary<Region, List<Price?>>"

def priceList : Entity :=
  { Entity.empty "PriceList" "Shop" with properties := [prices] }

/-- Regions are imported for the keys, which are printed as `string`. -/
theorem imports_names_prices :
    (Field.ofProperty .typescript prices).typeText = "Record<string, (Price | null)[]>" ∧
    imports .typescript {} priceList priceList.properties =
      ["import \x7b Price, Region \x7d from '../models';"] ∧
    namesIn "import \x7b Price, Region \x7d from '../models';" = ["Price", "Region"] := by
  have printed : Target.printedNames .typescript prices.fullType = ["Price"] := by decide +kernel
  have keys : prices.fullType.keyReferences = ["Region"] := by decide +kernel
  obtain ⟨names, sorted, mem, texts, line, typescript, -, read⟩ :=
    imports_names (by decide : Target.typescript ≠ .csharp) {} priceList priceList.properties
  simp only [priceList, List.mem_singleton, exists_eq_left, printed, keys] at mem
  obtain rfl : names = ["Price", "Region"] :=
    sorted.eq_of_mem_iff (by decide) fun name => by rw [mem]; simp
  rw [typescript rfl, if_neg (List.cons_ne_nil _ _)] at line
  have listed : ∀ name ∈ ["Price", "Region"], IsListed name := by
    simp only [List.forall_mem_cons]
    exact ⟨by decide +kernel, by decide +kernel, List.forall_mem_nil _⟩
  refine ⟨?_, line, read listed (unmarked_iff.mpr (by decide +kernel))
    (unmarked_iff.mpr (by decide +kernel)) _ (line ▸ List.mem_singleton_self _)⟩
  rw [texts prices (List.mem_singleton_self _)]
  decide +kernel

end Dto
end Scaffold
