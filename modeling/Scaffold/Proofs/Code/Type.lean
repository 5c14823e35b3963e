/-
What the type expression of a type in source code is read as. References, parentheses and lengths leave no
trace, arrays and slices are lists, and a path is its last name applied to the types among its arguments
(`Ty.meaning?`). The text is read as just that if the names in it are plain and only the last one of each
path has types for arguments, and else it is no type expression: `Ty.parse_iff_readable`.
-/
import Mathlib.Data.List.TakeDrop
import Mathlib.Data.List.TakeWhile
import Scaffold.Code.Type
import Scaffold.Proofs.Text.Words
import Scaffold.Proofs.TypeExpr.Stuck

namespace Scaffold

/-! ## Characters of words -/

namespace Text

variable {c : Char}

theorem isIdentifierPart_eq_false_of_isBlank (blank : isBlank c = true) : isIdentifierPart c = false := by
  by_cases ascii : c.toNat < 128
  · exact forall_ascii (p := fun c => isBlank c = true → isIdentifierPart c = false) (by decide +kernel)
      c ascii blank
  · rw [isIdentifierPart, if_neg ascii, Bool.or_eq_false_iff]
    exact ⟨inRuns_eq_false_of_isBlank (by decide +kernel) ascii blank,
      inRuns_eq_false_of_isBlank (by decide +kernel) ascii blank⟩

end Text

namespace Code

open TypeExpr

mutual

/-- What a type means, if it has a text. -/
def Ty.meaning? : Ty → Option TypeExpr
  | .path _ segments => segmentsMeaning? segments
  | .member _ _ segments => segmentsMeaning? segments
  | .reference _ _ target => target.meaning?
  | .paren inner => inner.meaning?
  | .slice element => element.meaning?.map list
  | .array element _ => element.meaning?.map list
  | .tuple _ | .pointer _ _ | .never | .infer | .other => none

/-- What the last segment of a path means. -/
def segmentsMeaning? : List Segment → Option TypeExpr
  | [] => none
  | s :: rest =>
    match rest with
    | [] => s.meaning?
    | _ :: _ => segmentsMeaning? rest

def Segment.meaning? : Segment → Option TypeExpr
  | .mk name (.angled arguments) => (argumentMeanings? arguments).map (apply name)
  | .mk name _ => some (apply name [])

/-- What the arguments that are types mean. -/
def argumentMeanings? : List Argument → Option (List TypeExpr)
  | [] => some []
  | .type t :: rest => do
    let e ← t.meaning?
    return e :: (← argumentMeanings? rest)
  | _ :: rest => argumentMeanings? rest

end

mutual

/-- The paths that the text of a type is made of. -/
def Ty.paths : Ty → List (List Segment)
  | .path _ segments => segments :: segmentPaths segments
  | .member _ _ segments => segments :: segmentPaths segments
  | .reference _ _ target => target.paths
  | .paren inner => inner.paths
  | .slice element => element.paths
  | .array element _ => element.paths
  | .tuple _ | .pointer _ _ | .never | .infer | .other => []

def segmentPaths : List Segment → List (List Segment)
  | [] => []
  | s :: rest => s.paths ++ segmentPaths rest

def Segment.paths : Segment → List (List Segment)
  | .mk _ (.angled arguments) => argumentPaths arguments
  | .mk _ _ => []

def argumentPaths : List Argument → List (List Segment)
  | [] => []
  | .type t :: rest => t.paths ++ argumentPaths rest
  | _ :: rest => argumentPaths rest

end

/-- The types among the arguments of a segment. -/
def Segment.types : Segment → List Ty
  | .mk _ (.angled arguments) => arguments.filterMap fun
    | .type t => some t
    | _ => none
  | .mk _ _ => []

/-- A name as sources have it. -/
def IsWord (name : String) : Prop :=
  takeName name.toList = some (name.toList, [])

instance (name : String) : Decidable (IsWord name) :=
  inferInstanceAs (Decidable (_ = _))

/-- Paths as sources have them: each has names, and they are words. -/
def Written (paths : List (List Segment)) : Prop :=
  ∀ path ∈ paths, path ≠ [] ∧ ∀ s ∈ path, IsWord s.name

instance (paths : List (List Segment)) : Decidable (Written paths) :=
  decidable_of_iff (∀ path ∈ paths, path.isEmpty = false ∧ ∀ s ∈ path, IsWord s.name) (by simp [Written])

/-- The names of a path are plain, and none but the last has types for arguments. -/
structure Readable (path : List Segment) : Prop where
  plain : ∀ s ∈ path, PlainName s.name
  inner : ∀ s ∈ path.dropLast, s.types = []

instance (path : List Segment) : Decidable (Readable path) :=
  decidable_of_iff ((∀ s ∈ path, PlainName s.name) ∧ ∀ s ∈ path.dropLast, s.types.isEmpty = true)
    ⟨fun h => ⟨h.1, by simpa using h.2⟩, fun h => ⟨h.plain, by simpa using h.inner⟩⟩

variable {name front : String} {texts : List String} {types : List TypeExpr} {t : TypeExpr}

/-! ## Names -/

/-- What is known of the signs of a word. -/
structure WordText (name : String) : Prop where
  some : name ≠ ""
  signs : ∀ c ∈ name.toList, isPathSign c = true
  plain : (∀ c ∈ name.toList, isNameChar c = true) → PlainName name

theorem isWordPart_forms {c : Char} (part : isWordPart c = true) :
    isPathSign c = true ∧ (isNameChar c = true → isPlainChar c = true) := by
  by_cases ascii : c.toNat < 128
  · exact Text.forall_ascii
      (p := fun c => isWordPart c = true →
        isPathSign c = true ∧ (isNameChar c = true → isPlainChar c = true))
      (by decide +kernel) c ascii part
  · have visible : Text.isBlank c = false := by
      by_contra blank
      rw [isWordPart, Text.isIdentifierPart_eq_false_of_isBlank (Bool.of_not_eq_false blank)] at part
      cases part
    have other {d : Char} (small : d.toNat < 128) : c ≠ d := by
      rintro rfl
      exact ascii small
    constructor
    · simp [isPathSign, visible, other]
    · intro inside
      simpa [isNameChar, isPlainChar, arityMark, other] using inside

theorem isWordPart_of_takeWord {cs word rest : List Char} (h : takeWord cs = (word, rest)) :
    ∀ c ∈ word, isWordPart c = true := by
  unfold takeWord at h
  split at h
  · split at h
    · rw [List.span_eq_takeWhile_dropWhile] at h
      cases h
      exact fun c mem => List.mem_takeWhile_imp mem
    · cases h
      nofun
  · cases h
    nofun

theorem wordText_of_isWordPart (some : name ≠ "") (parts : ∀ c ∈ name.toList, isWordPart c = true) :
    WordText name where
  some := some
  signs c mem := (isWordPart_forms (parts c mem)).1
  plain inside := ⟨some, fun c mem => (isWordPart_forms (parts c mem)).2 (inside c mem)⟩

theorem IsWord.wordText (word : IsWord name) : WordText name := by
  unfold IsWord takeName at word
  split at word
  · next rest raw =>
    cases taken : takeWord rest with
    | mk chars left =>
      simp only [taken] at word
      split at word
      · cases word
      · simp only [Option.some.injEq, Prod.mk.injEq] at word
        have chars : name.toList = 'r' :: '#' :: chars := by rw [← word.1]
        refine ⟨fun empty => ?_, fun c mem => ?_, fun inside => ?_⟩
        · rw [empty] at chars
          cases chars
        · rw [chars] at mem
          rcases List.mem_cons.mp mem with rfl | mem
          · decide
          rcases List.mem_cons.mp mem with rfl | mem
          · decide
          exact (isWordPart_forms (isWordPart_of_takeWord taken c mem)).1
        · exact absurd (inside '#' (by simp [chars])) (by decide)
  · cases taken : takeWord name.toList with
    | mk chars left =>
      simp only [taken] at word
      split at word
      · cases word
      · next some =>
        simp only [Option.some.injEq, Prod.mk.injEq] at word
        obtain ⟨rfl, rfl⟩ := word
        refine wordText_of_isWordPart ?_ (isWordPart_of_takeWord taken)
        simpa using some

theorem isWordPart_of_isWordStart {c : Char} (start : isWordStart c = true) : isWordPart c = true := by
  rw [isWordStart, Bool.or_eq_true, beq_iff_eq] at start
  rcases start with rfl | start
  · decide
  · exact Text.isIdentifierPart_of_start start

theorem takeWord_of_takeWord {cs word rest : List Char} (h : takeWord cs = (word, rest)) :
    takeWord word = (word, []) := by
  have parts := isWordPart_of_takeWord h
  unfold takeWord at h
  split at h
  · next c later =>
    split at h
    · next start =>
      rw [List.span_eq_takeWhile_dropWhile] at h
      have part : isWordPart c = true := isWordPart_of_isWordStart start
      obtain ⟨others, rfl⟩ : ∃ others, word = c :: others := by
        rw [List.takeWhile_cons_of_pos part] at h
        exact ⟨_, (Prod.mk.inj h).1.symm⟩
      rw [takeWord, if_pos start, List.span_eq_takeWhile_dropWhile, List.takeWhile_eq_self_iff.mpr parts,
        List.dropWhile_eq_nil_iff.mpr parts]
    · cases h
      rfl
  · cases h
    rfl

/-- The names that are read from a source are words. -/
theorem isWord_of_takeName {cs rest : List Char} (h : takeName cs = some (name.toList, rest)) :
    IsWord name := by
  unfold takeName at h
  split at h
  · next later =>
    cases taken : takeWord later with
    | mk word left =>
      simp only [taken] at h
      split at h
      · cases h
      · next legal =>
        simp only [Option.some.injEq, Prod.mk.injEq] at h
        rw [IsWord, ← h.1, takeName, takeWord_of_takeWord taken]
        simp only [if_neg legal]
  · next other =>
    cases taken : takeWord cs with
    | mk word left =>
      simp only [taken] at h
      split at h
      · cases h
      · next some =>
        simp only [Option.some.injEq, Prod.mk.injEq] at h
        obtain ⟨rfl, rfl⟩ := h
        have parts := isWordPart_of_takeWord taken
        rw [IsWord, takeName, takeWord_of_takeWord taken]
        · simp only [if_neg some]
        · intro later raw
          rw [raw] at parts
          exact absurd (parts '#' (by simp)) (by decide)

/-- What can stand in front of the last names of a path. -/
structure Qualifier (front : String) : Prop where
  signs : ∀ c ∈ front.toList, isPathSign c = true
  ends : front = "" ∨ ∃ names, front = names ++ "::"

theorem Qualifier.empty : Qualifier "" :=
  ⟨by simp, .inl rfl⟩

theorem Qualifier.snoc (h : Qualifier front) (word : WordText name) : Qualifier (front ++ name ++ "::") := by
  refine ⟨?_, .inr ⟨_, rfl⟩⟩
  have separator : ∀ c ∈ "::".toList, isPathSign c = true := by
    simp
    decide
  rw [String.toList_append, String.toList_append, List.forall_mem_append, List.forall_mem_append]
  exact ⟨⟨h.signs, word.signs⟩, separator⟩

theorem Qualifier.shortName (h : Qualifier front) (plain : PlainName name) :
    shortName (front ++ name) = name := by
  rcases h.ends with rfl | ⟨names, rfl⟩
  · rw [String.empty_append, plain.shortName]
  · have split : names ++ "::" = names ++ ":" ++ ":" := by rw [String.append_assoc]; rfl
    have unmarked : ∀ c ∈ (names ++ ":").toList, c ≠ arityMark := by
      intro c mem
      refine ne_of_isPathSign (h.signs c ?_) (by decide)
      rw [split, String.toList_append]
      exact List.mem_append_left _ mem
    rw [split, plain.shortName_qualified unmarked]

/-! ## Segments -/

theorem of_types_eq_nil {arguments : List Argument}
    (none : (Segment.mk name (.angled arguments)).types = []) :
    argumentTexts? arguments = some [] ∧ argumentMeanings? arguments = some [] ∧
      argumentPaths arguments = [] := by
  induction arguments with
  | nil => exact ⟨rfl, rfl, rfl⟩
  | cons a rest ih =>
    cases a with
    | type t => cases none
    | lifetime _ | constant _ | binding => exact ih none

theorem types_eq_nil_of_texts {arguments : List Argument} (h : argumentTexts? arguments = some []) :
    (Segment.mk name (.angled arguments)).types = [] := by
  induction arguments with
  | nil => rfl
  | cons a rest ih =>
    cases a with
    | type t =>
      simp only [argumentTexts?, bind, Option.bind_eq_some_iff] at h
      obtain ⟨_, -, _, -, h⟩ := h
      cases h
    | lifetime _ | constant _ | binding => exact ih h

/-- How the text of a segment is read behind the names in front of it. -/
structure Segment.Reads (s : Segment) (text : String) (t : TypeExpr) : Prop where
  last : ∀ front, Qualifier front → ReadsIf (front ++ text) t
    ((∀ c ∈ front.toList, isNameChar c = true) ∧ PlainName s.name ∧ ∀ path ∈ s.paths, Readable path)
  bare : s.types = [] → text = s.name ∧ s.paths = []
  inner : s.types ≠ [] → ∀ front later, Qualifier front → Stuck (front ++ text ++ "::" ++ later).toList

theorem qualified_ne_empty (word : WordText name) (front : String) : front ++ name ≠ "" := by
  intro empty
  exact word.some (String.append_eq_empty_iff.mp empty).2

theorem qualified_signs (h : Qualifier front) (word : WordText name) :
    ∀ c ∈ (front ++ name).toList, isPathSign c = true := by
  rw [String.toList_append]
  exact List.forall_mem_append.mpr ⟨h.signs, word.signs⟩

theorem qualified_inside_iff (word : WordText name) :
    (∀ c ∈ (front ++ name).toList, isNameChar c = true) ↔
      (∀ c ∈ front.toList, isNameChar c = true) ∧ PlainName name := by
  rw [String.toList_append, List.forall_mem_append]
  exact and_congr_right fun _ => ⟨word.plain, fun plain => plain.written.inside⟩

theorem reads_bare {s : Segment} (word : WordText s.name) (paths : s.paths = []) (none : s.types = []) :
    s.Reads s.name (apply s.name []) where
  last front h := by
    have alone := ReadsIf.alone (qualified_ne_empty word front) (qualified_signs h word)
    refine alone.congr ?_ fun readable => ?_
    · rw [qualified_inside_iff word, paths]
      simp
    · rw [h.shortName ((qualified_inside_iff word).mp readable).2]
  bare _ := ⟨rfl, paths⟩
  inner some := absurd none some

theorem reads_applied {arguments : List Argument} (word : WordText name)
    (written : argumentTexts? arguments = some texts)
    (args : ArgsReadIf texts types (∀ path ∈ argumentPaths arguments, Readable path)) (given : texts ≠ []) :
    (Segment.mk name (.angled arguments)).Reads (name ++ "<" ++ Text.join ", " texts ++ ">")
      (apply name types) where
  last front h := by
    have applied := ReadsIf.applied (qualified_ne_empty word front) (qualified_signs h word) args given
    have text : front ++ (name ++ "<" ++ Text.join ", " texts ++ ">") =
        front ++ name ++ "<" ++ Text.join ", " texts ++ ">" := by simp only [String.append_assoc]
    rw [text]
    refine applied.congr ?_ fun readable => ?_
    · rw [qualified_inside_iff word, and_assoc]
      rfl
    · rw [h.shortName ((qualified_inside_iff word).mp readable.1).2]
  bare none := by
    rw [(of_types_eq_nil none).1] at written
    exact absurd (Option.some.inj written).symm given
  inner _ front later h := by
    have stuck := Stuck.behind_args (qualified_ne_empty word front) (qualified_signs h word) args given later
    have text : front ++ (name ++ "<" ++ Text.join ", " texts ++ ">") ++ "::" ++ later =
        front ++ name ++ "<" ++ Text.join ", " texts ++ ">" ++ "::" ++ later := by
      simp only [String.append_assoc]
    rwa [text]

/-! ## Paths -/

theorem readable_singleton_iff {s : Segment} : Readable [s] ↔ PlainName s.name := by
  refine ⟨fun h => h.plain s List.mem_cons_self, fun plain => ⟨?_, nofun⟩⟩
  intro s' mem
  rwa [List.mem_singleton.mp mem]

theorem readable_cons_iff {s next : Segment} {rest : List Segment} :
    Readable (s :: next :: rest) ↔ PlainName s.name ∧ s.types = [] ∧ Readable (next :: rest) := by
  constructor
  · rintro ⟨plain, inner⟩
    rw [List.forall_mem_cons] at plain
    rw [List.dropLast_cons_cons, List.forall_mem_cons] at inner
    exact ⟨plain.1, inner.1, plain.2, inner.2⟩
  · rintro ⟨plain, none, later⟩
    refine ⟨List.forall_mem_cons.mpr ⟨plain, later.plain⟩, ?_⟩
    rw [List.dropLast_cons_cons]
    exact List.forall_mem_cons.mpr ⟨none, later.inner⟩

/-- How the texts of the last segments of a path are read behind the names in front of them. -/
def PathReads (segments : List Segment) (texts : List String) (t : TypeExpr) : Prop :=
  ∀ front, Qualifier front → ReadsIf (front ++ Text.join "::" texts) t
    ((∀ c ∈ front.toList, isNameChar c = true) ∧ Readable segments ∧
      ∀ path ∈ segmentPaths segments, Readable path)

theorem segmentTexts?_cons {s : Segment} {rest : List Segment} (h : segmentTexts? (s :: rest) = some texts) :
    ∃ text others, texts = text :: others := by
  rw [segmentTexts?] at h
  simp only [bind, pure, Option.bind_eq_some_iff, Option.some.injEq] at h
  obtain ⟨text, -, others, -, rfl⟩ := h
  exact ⟨text, others, rfl⟩

theorem pathReads_last {s : Segment} {text : String} (own : s.Reads text t) : PathReads [s] [text] t := by
  intro front h
  have alone : Text.join "::" [text] = text := by simp [Text.join]
  rw [alone]
  refine (own.last front h).congr ?_ fun _ => rfl
  rw [readable_singleton_iff, segmentPaths, segmentPaths, List.append_nil]

theorem pathReads_cons {s next : Segment} {rest : List Segment} {text other : String} (word : WordText s.name)
    {t' : TypeExpr} (own : s.Reads text t') (later : PathReads (next :: rest) (other :: texts) t) :
    PathReads (s :: next :: rest) (text :: other :: texts) t := by
  intro front h
  have split : Text.join "::" (text :: other :: texts) =
      text ++ "::" ++ Text.join "::" (other :: texts) := by
    simp [Text.join]
  rw [split]
  by_cases none : s.types = []
  · obtain ⟨rfl, paths⟩ := own.bare none
    rw [← String.append_assoc, ← String.append_assoc]
    refine (later _ (h.snoc word)).congr ?_ fun _ => rfl
    have separator : ∀ c ∈ "::".toList, isNameChar c = true := by
      simp
      decide
    have inside : segmentPaths (s :: next :: rest) = segmentPaths (next :: rest) := by
      rw [segmentPaths, paths, List.nil_append]
    rw [readable_cons_iff, String.toList_append, List.forall_mem_append, qualified_inside_iff word, inside]
    constructor
    · rintro ⟨⟨⟨signs, plain⟩, -⟩, others, all⟩
      exact ⟨signs, ⟨plain, none, others⟩, all⟩
    · rintro ⟨signs, ⟨plain, -, others⟩, all⟩
      exact ⟨⟨⟨signs, plain⟩, separator⟩, others, all⟩
  · refine ⟨fun readable => absurd (readable_cons_iff.mp readable.2.1).2.1 none, fun _ => ?_⟩
    rw [← String.append_assoc, ← String.append_assoc]
    exact own.inner none front _ h

/-! ## Types -/

mutual

theorem Ty.readsIf {t : Ty} {text : String} (written : Written t.paths) (h : t.text? = some text) :
    ∃ e, t.meaning? = some e ∧ ReadsIf text e (∀ path ∈ t.paths, Readable path) := by
  match t with
  | .path _ segments | .member _ _ segments =>
    obtain ⟨texts, own, rfl⟩ := Option.map_eq_some_iff.mp h
    obtain ⟨⟨given, words⟩, inside⟩ := List.forall_mem_cons.mp written
    obtain ⟨e, means, reads⟩ := segments_read segments given words inside own
    refine ⟨e, means, ?_⟩
    have whole := reads "" .empty
    rw [String.empty_append] at whole
    refine whole.congr ?_ fun _ => rfl
    rw [Ty.paths, List.forall_mem_cons]
    exact and_iff_right (by simp)
  | .reference _ _ target => exact Ty.readsIf (t := target) written h
  | .paren inner => exact Ty.readsIf (t := inner) written h
  | .slice element | .array element _ =>
    obtain ⟨inner, own, rfl⟩ := Option.map_eq_some_iff.mp h
    obtain ⟨e, means, reads⟩ := Ty.readsIf (t := element) written own
    exact ⟨list e, by rw [Ty.meaning?, means, Option.map_some], reads.array⟩
  | .tuple _ | .pointer _ _ | .never | .infer | .other => cases h

theorem segments_read (segments : List Segment) {texts : List String} (given : segments ≠ [])
    (words : ∀ s ∈ segments, IsWord s.name)
    (written : Written (segmentPaths segments))
    (h : segmentTexts? segments = some texts) :
    ∃ e, segmentsMeaning? segments = some e ∧ PathReads segments texts e := by
  match segments with
  | [] => exact absurd rfl given
  | [s] =>
    simp only [segmentTexts?, bind, Option.bind_some, pure, Option.bind_eq_some_iff, Option.some.injEq] at h
    obtain ⟨text, own, rfl⟩ := h
    rw [segmentPaths, segmentPaths, List.append_nil] at written
    obtain ⟨e, means, reads⟩ := Segment.reads (s := s) (words s List.mem_cons_self) written own
    exact ⟨e, means, pathReads_last reads⟩
  | s :: next :: rest =>
    rw [segmentTexts?] at h
    simp only [bind, pure, Option.bind_eq_some_iff, Option.some.injEq] at h
    obtain ⟨text, own, texts, later, rfl⟩ := h
    rw [segmentPaths] at written
    obtain ⟨inside, behind⟩ := List.forall_mem_append.mp written
    obtain ⟨word, words⟩ := List.forall_mem_cons.mp words
    obtain ⟨_, -, reads⟩ := Segment.reads (s := s) word inside own
    obtain ⟨e, means, reads_later⟩ :=
      segments_read (next :: rest) (List.cons_ne_nil _ _) words behind later
    obtain ⟨other, texts, rfl⟩ := segmentTexts?_cons later
    exact ⟨e, means, pathReads_cons word.wordText reads reads_later⟩

theorem Segment.reads {s : Segment} {text : String} (word : IsWord s.name)
    (written : Written s.paths) (h : s.text? = some text) :
    ∃ e, s.meaning? = some e ∧ s.Reads text e := by
  match s with
  | .mk name .absent | .mk name (.round _ _) =>
    cases h
    exact ⟨_, rfl, reads_bare word.wordText rfl rfl⟩
  | .mk name (.angled arguments) =>
    obtain ⟨texts, own, rfl⟩ := Option.map_eq_some_iff.mp h
    obtain ⟨es, means, args⟩ := arguments_readIf arguments written own
    refine ⟨apply name es, by rw [Segment.meaning?, means, Option.map_some], ?_⟩
    by_cases none : texts = []
    · subst none
      have no_types : (Segment.mk name (.angled arguments)).types = [] := types_eq_nil_of_texts own
      obtain ⟨-, nothing, paths⟩ := of_types_eq_nil no_types
      cases means.symm.trans nothing
      exact reads_bare word.wordText paths no_types
    · rw [if_neg (by simpa using none)]
      exact reads_applied word.wordText own args none

theorem arguments_readIf (arguments : List Argument) {texts : List String}
    (written : Written (argumentPaths arguments))
    (h : argumentTexts? arguments = some texts) :
    ∃ es, argumentMeanings? arguments = some es ∧
      ArgsReadIf texts es (∀ path ∈ argumentPaths arguments, Readable path) := by
  match arguments with
  | [] =>
    cases h
    exact ⟨[], rfl, ArgsReadIf.nil.congr (by simp [argumentPaths])⟩
  | .type t :: rest =>
    rw [argumentTexts?] at h
    simp only [bind, pure, Option.bind_eq_some_iff, Option.some.injEq] at h
    obtain ⟨text, own, texts, later, rfl⟩ := h
    obtain ⟨first, others⟩ := List.forall_mem_append.mp written
    obtain ⟨e, means, reads⟩ := Ty.readsIf (t := t) first own
    obtain ⟨es, mean, read⟩ := arguments_readIf rest others later
    refine ⟨e :: es, by simp [argumentMeanings?, means, mean], (ArgsReadIf.cons reads read).congr ?_⟩
    rw [argumentPaths, List.forall_mem_append]
  | .lifetime _ :: rest => exact arguments_readIf rest written h
  | .constant _ :: rest => exact arguments_readIf rest written h
  | .binding :: rest => exact arguments_readIf rest written h

end

/-- The type expression of a type is read as what the type means, exactly if the names in it are plain and no
segment of a path but the last has types for arguments. -/
theorem Ty.parse_iff_readable {t : Ty} {text : String} (written : Written t.paths) (h : t.text? = some text) :
    ∃ e, t.meaning? = some e ∧
      ∀ e', parse text = .ok e' ↔ (∀ path ∈ t.paths, Readable path) ∧ e' = e := by
  obtain ⟨e, means, reads⟩ := Ty.readsIf written h
  exact ⟨e, means, fun e' => reads.parse_eq_ok_iff⟩

/-- A borrowed map from texts to lists of items, with a lifetime, a length and a constant in it. -/
def borrowedMap : Ty :=
  let text := Ty.reference (some "a") false (.path false [.mk "str" .absent])
  let item := Ty.path false [.mk "shop" .absent,
    .mk "Item" (.angled [.lifetime "a", .type (.paren (.path false [.mk "Row" .absent])), .constant []])]
  .reference none true (.path false [.mk "HashMap" (.angled [.type text, .type (.array item [])])])

theorem parse_iff_readable_borrowedMap :
    Written borrowedMap.paths ∧ borrowedMap.text? = some "HashMap<str, shop::Item<Row>[]>" ∧
      parse "HashMap<str, shop::Item<Row>[]>" =
        .ok (dictionary (named "string") (list (generic "Item" [reference "Row"]))) := by
  have written : Written borrowedMap.paths := by decide
  have text : borrowedMap.text? = some "HashMap<str, shop::Item<Row>[]>" := by decide
  obtain ⟨e, means, reads⟩ := Ty.parse_iff_readable written text
  cases means.symm.trans (show borrowedMap.meaning? = some _ from rfl)
  exact ⟨written, text, (reads _).mpr ⟨by decide, rfl⟩⟩

/-- A name that is written with `r#`, and arguments in front of the last name of a path. -/
theorem raw_and_inner_not_parsed :
    (Ty.path false [.mk "r#type" .absent]).text? = some "r#type" ∧ parse? "r#type" = none ∧
      (Ty.path false [.mk "Page" (.angled [.type (.path false [.mk "Row" .absent])]),
        .mk "Item" .absent]).text? = some "Page<Row>::Item" ∧ parse? "Page<Row>::Item" = none := by
  decide

end Code
end Scaffold
