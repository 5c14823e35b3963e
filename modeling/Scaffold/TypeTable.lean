/-
Named types: objects with typed properties and enums with members, kept in name order. Types
refer to each other by name, so cycles are harmless.
-/
import Scaffold.KeyMap
import Scaffold.TypeExpr.Basic

namespace Scaffold

/-- A property of a named object type. -/
structure TypedProperty where
  name : String
  type : TypeExpr
  isRequired : Bool
  comment : Option String
  maxLength : Option Nat
  minLength : Option Nat
deriving DecidableEq

/-- A member of a named enum type: its identifier and the value it stands for. -/
structure EnumMember where
  name : String
  value : String
  description : Option String
deriving DecidableEq, Repr

/-- What a named type consists of. -/
inductive TypeBody where
  | object (properties : List TypedProperty)
  | enum (members : List EnumMember) (isInteger : Bool)
deriving DecidableEq

structure TypeDefinition where
  name : String
  comment : Option String
  body : TypeBody
deriving DecidableEq

namespace TypeDefinition

def isEnum (d : TypeDefinition) : Bool :=
  match d.body with
  | .enum _ _ => true
  | .object _ => false

/-- The types of the properties; none for an enum. -/
def propertyTypes (d : TypeDefinition) : List TypeExpr :=
  match d.body with
  | .object properties => properties.map (·.type)
  | .enum _ _ => []

def references (d : TypeDefinition) : List String :=
  NameSet.ofList (TypeExpr.referencesIn d.propertyTypes)

end TypeDefinition

/-- Definitions by name. -/
abbrev TypeTable := KeyMap TypeDefinition

namespace TypeTable

/-- Adds a definition, unless its name is taken. -/
def define (table : TypeTable) (d : TypeDefinition) : TypeTable :=
  if table.contains d.name then table else table.insert d.name d

theorem get?_define_of_some {table : TypeTable} {name : String} {d : TypeDefinition}
    (h : table.get? name = some d) (new : TypeDefinition) :
    (define table new).get? name = some d := by
  unfold define
  split
  · exact h
  · next hc =>
    rw [KeyMap.get?_insert]
    split
    · next he => simp [KeyMap.contains, he, h] at hc
    · exact h

def isEnum (table : TypeTable) (name : String) : Bool :=
  (table.get? name).any TypeDefinition.isEnum

/-- The names of the table that are not visited yet. -/
def unvisited (table : TypeTable) (visited : List String) : List String :=
  table.keys.filter (!visited.contains ·)

theorem unvisited_cons (table : TypeTable) (name : String) (visited : List String) :
    table.unvisited (name :: visited) = (table.unvisited visited).filter (· != name) := by
  rw [unvisited, unvisited, List.filter_filter]
  refine List.filter_congr fun key _ => ?_
  rw [List.contains_cons, Bool.not_or, bne]

theorem length_unvisited_le (table : TypeTable) (name : String) (visited : List String) :
    (table.unvisited (name :: visited)).length ≤ (table.unvisited visited).length := by
  rw [unvisited_cons]
  exact List.length_filter_le ..

theorem length_unvisited_lt {table : TypeTable} {name : String} {visited : List String}
    (new : ¬visited.contains name = true) (mem : name ∈ table.keys) :
    (table.unvisited (name :: visited)).length < (table.unvisited visited).length := by
  rw [unvisited_cons, List.length_filter_lt_length_iff_exists]
  exact ⟨name, List.mem_filter.mpr ⟨mem, by simpa using new⟩, by simp⟩

/-- Visits the pending names, and those that are not visited of what their definitions refer to. The
names without a definition are visited too. Each round visits a name of the table for the first time, or
else leaves fewer names pending. -/
def reachFrom (table : TypeTable) (visited : List String) : List String → List String
  | [] => visited
  | name :: pending =>
    if _ : visited.contains name then reachFrom table visited pending
    else
      match _ : table.get? name with
      | none => reachFrom table (name :: visited) pending
      | some d =>
        let new := d.references.filter (!(name :: visited).contains ·)
        reachFrom table (name :: visited) (new ++ pending)
termination_by pending => ((table.unvisited visited).length, pending.length)
decreasing_by
  · exact Prod.Lex.right _ (Nat.lt_succ_self _)
  · exact Prod.Lex.right' _ (length_unvisited_le ..) (Nat.lt_succ_self _)
  · exact Prod.Lex.left _ _ (length_unvisited_lt ‹_› (KeyMap.mem_keys_of_get? ‹_›))

/-- The defined names that can be reached from the given types, in order. -/
def reachable (table : TypeTable) (roots : List TypeExpr) : List String :=
  let pending := NameSet.ofList (TypeExpr.referencesIn roots)
  NameSet.ofList ((reachFrom table [] pending).filter table.contains)

end TypeTable
end Scaffold
