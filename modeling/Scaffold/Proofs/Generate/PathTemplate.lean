/-
Paths with placeholders. Every path can be taken apart in one way: into placeholders without a closing brace
in them, text without an opening brace between them, and what is behind an opening brace that is never
closed. In the expression for a path a value stands in the place of each placeholder, and nothing else is
changed: `Client.pathExpression_template`.
-/
import Mathlib.Logic.ExistsUnique
import Scaffold.Generate.Client
import Scaffold.Proofs.Text.Search

namespace Scaffold
namespace Client

open Text (cutAt? cutAt?_append_cons cutAt?_eq_none_iff of_cutAt?)

/-- A path as a template of the paths that come of it when its placeholders are filled. -/
inductive PathTemplate where
  /-- Text without an opening brace. -/
  | plain (text : List Char) (free : '\x7b' ∉ text)
  /-- Text with an opening brace behind it that is never closed. -/
  | unclosed (front rest : List Char) (front_free : '\x7b' ∉ front) (rest_free : '\x7d' ∉ rest)
  /-- Text, the name in the braces behind it, and the template of what comes after them. -/
  | placeholder (front name : List Char) (back : PathTemplate) (front_free : '\x7b' ∉ front)
      (name_free : '\x7d' ∉ name)

namespace PathTemplate

/-- The text with something for each name in the place of its placeholder. -/
def filled (value : List Char → List Char) : PathTemplate → List Char
  | plain text _ => text
  | unclosed front rest _ _ => front ++ '\x7b' :: rest
  | placeholder front name back _ _ => front ++ value name ++ back.filled value

/-- A placeholder as it is written. -/
def braced (name : List Char) : List Char :=
  '\x7b' :: name ++ ['\x7d']

/-- The path as it is written. -/
def path (t : PathTemplate) : List Char :=
  t.filled braced

theorem path_placeholder (front name : List Char) (back : PathTemplate) (front_free : '\x7b' ∉ front)
    (name_free : '\x7d' ∉ name) :
    (placeholder front name back front_free name_free).path =
      front ++ '\x7b' :: (name ++ '\x7d' :: back.path) := by
  simp [path, filled, braced]

/-- What is before and behind the first opening brace. -/
def opened? : PathTemplate → Option (List Char × List Char)
  | plain _ _ => none
  | unclosed front rest _ _ => some (front, rest)
  | placeholder front name back _ _ => some (front, name ++ '\x7d' :: back.path)

theorem cutAt?_path (t : PathTemplate) : cutAt? ['\x7b'] t.path = t.opened? := by
  cases t with
  | plain text free => exact cutAt?_eq_none_iff.mpr free
  | unclosed front rest front_free _ => exact cutAt?_append_cons front_free rest
  | placeholder front name back front_free _ =>
    rw [path_placeholder]
    exact cutAt?_append_cons front_free _

theorem opened?_eq {t t' : PathTemplate} (same : t.path = t'.path) : t.opened? = t'.opened? := by
  rw [← cutAt?_path, same, cutAt?_path]

/-- No path is written by two templates. -/
theorem path_injective : Function.Injective path := by
  intro t t' same
  -- The induction is on one of the templates. The cut at the first opening brace gives both the same text in
  -- front, and what is behind it has a closing brace only if the brace opens a placeholder.
  induction t generalizing t' with
  | plain text =>
    have cut := opened?_eq same
    cases t' with
    | plain text' _ =>
      obtain rfl : text = text' := same
      rfl
    | unclosed | placeholder => cases cut
  | unclosed front rest _ rest_free =>
    have cut := opened?_eq same
    cases t' with
    | plain => cases cut
    | unclosed =>
      cases cut
      rfl
    | placeholder =>
      cases cut
      exact absurd (by simp) rest_free
  | placeholder front name back _ name_free ih =>
    have cut := opened?_eq same
    cases t' with
    | plain => cases cut
    | unclosed _ _ _ rest_free =>
      cases cut
      exact absurd (by simp) rest_free
    | placeholder front' name' back' _ name_free' =>
      obtain ⟨rfl, behind⟩ := Prod.mk.inj (Option.some.inj cut)
      -- The cut of the rest at the first closing brace gives both the same name.
      have second := congrArg (cutAt? ['\x7d']) behind
      rw [cutAt?_append_cons name_free, cutAt?_append_cons name_free'] at second
      obtain ⟨rfl, backs⟩ := Prod.mk.inj (Option.some.inj second)
      rw [ih backs]

/-- The search for placeholders takes a text apart as a template: each round finds a placeholder, or it is the
last one and finds no opening brace, or one that is not closed. -/
theorem exists_spliced (target : Target) (text : List Char) :
    ∃ t : PathTemplate, t.path = text ∧ spliced target text = t.filled (splice target) := by
  fun_induction spliced target text with
  | case1 text none => exact ⟨plain text (cutAt?_eq_none_iff.mp none), rfl, rfl⟩
  | case2 text front rest opened none =>
    obtain ⟨rfl, front_free⟩ := of_cutAt? opened
    exact ⟨unclosed front rest front_free (cutAt?_eq_none_iff.mp none), rfl, rfl⟩
  | case3 text front rest opened name after closed ih =>
    obtain ⟨rfl, front_free⟩ := of_cutAt? opened
    obtain ⟨rfl, name_free⟩ := of_cutAt? closed
    obtain ⟨back, rfl, spliced_eq⟩ := ih
    refine ⟨placeholder front name back front_free name_free, path_placeholder .., ?_⟩
    rw [spliced_eq, filled]

end PathTemplate

/-- In an interpolated text of C# the value is escaped where it stands. -/
theorem splice_csharp (name : List Char) :
    splice .csharp name =
      ("\x7bUri.EscapeDataString(" ++ Target.csharp.parameterName (String.ofList name) ++
        ".ToString()!)\x7d").toList :=
  rfl

/-- So it is in a template of TypeScript. -/
theorem splice_of_ne_csharp {target : Target} (other : target ≠ .csharp) (name : List Char) :
    splice target name =
      ("$\x7bencodeURIComponent(String(" ++ target.parameterName (String.ofList name) ++ "))\x7d").toList := by
  cases target with
  | csharp => exact absurd rfl other
  | typescript | rust => rfl

/-- Every path is written by one template, and its expression is the template filled with the escaped values
of the parameters. -/
theorem pathExpression_template (target : Target) (op : Api.Operation) :
    (∃! t : PathTemplate, t.path = op.path.toList) ∧
      (∀ t : PathTemplate, t.path = op.path.toList →
        pathExpression target op = String.ofList (t.filled (splice target))) ∧
      (target = .csharp → ∀ name, splice target name =
        ("\x7bUri.EscapeDataString(" ++ target.parameterName (String.ofList name) ++
          ".ToString()!)\x7d").toList) ∧
      (target ≠ .csharp → ∀ name, splice target name =
        ("$\x7bencodeURIComponent(String(" ++ target.parameterName (String.ofList name) ++
          "))\x7d").toList) := by
  obtain ⟨t, written, spliced_eq⟩ := PathTemplate.exists_spliced target op.path.toList
  have only (t' : PathTemplate) (h : t'.path = op.path.toList) : t' = t :=
    PathTemplate.path_injective (h.trans written.symm)
  refine ⟨⟨t, written, only⟩, fun t' h => ?_, ?_, splice_of_ne_csharp⟩
  · rw [only t' h, pathExpression, spliced_eq]
  · rintro rfl
    exact splice_csharp

/-- The stock of an item in a shop. Only two of the braces in the path open a placeholder. -/
def stockOfItem : Api.Operation where
  operationId := none
  method := "GET"
  path := "/\x7bshop-id\x7d/\x7d\x7bitem\x7bno\x7dé\x7b"
  tag := "Stock"
  summary := none
  parameters := [⟨"shop-id", .path, .named "string", true, none⟩, ⟨"item\x7bno", .path, .named "int", true, none⟩]
  body := none
  response := some (.named "int")

def stockTemplate : PathTemplate :=
  .placeholder ['/'] "shop-id".toList
    (.placeholder ['/', '\x7d'] "item\x7bno".toList
      (.unclosed ['é'] [] (by decide) (by decide)) (by decide) (by decide)) (by decide) (by decide)

theorem pathExpression_template_stockOfItem :
    stockTemplate.path = stockOfItem.path.toList ∧
      pathExpression .typescript stockOfItem =
        "/$\x7bencodeURIComponent(String(shopId))\x7d/\x7d$\x7bencodeURIComponent(String(itemNo))\x7dé\x7b" := by
  have written : stockTemplate.path = stockOfItem.path.toList := by decide
  have filled : String.ofList (stockTemplate.filled (splice .typescript)) =
      "/$\x7bencodeURIComponent(String(shopId))\x7d/\x7d$\x7bencodeURIComponent(String(itemNo))\x7dé\x7b" := by
    rfl
  exact ⟨written, ((pathExpression_template .typescript stockOfItem).2.1 stockTemplate written).trans filled⟩

end Client
end Scaffold
