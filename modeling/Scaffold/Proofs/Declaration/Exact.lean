/-
When the extraction of a class fails, and what it gives otherwise: `Context.extract_exact`. There are
five reasons to fail. A property that was declared twice is none of them, because properties are hidden
by name before any is looked at.
-/
import Scaffold.Proofs.Declaration.Chain
import Scaffold.Proofs.Declaration.Extract

namespace Scaffold
namespace Context

variable {context : Context} {d : Declaration} {bases : List Declaration}

/-- The properties that the entity of a class has. The classes are gone through root first; each name
counts once, where it comes first and as it is declared last, and only if that property is mapped. -/
def keptProperties (d : Declaration) (bases : List Declaration) : List PropertyDeclaration :=
  (lasts (·.name) ((d :: bases).reverse.flatMap (·.properties))).filter (·.isMapped)

/-- The property of an entity for a declared one: classified by its type, marked by its attributes and
by the indexes over its name. -/
def Extracts (context : Context) (columns : List String) (p : PropertyDeclaration) (q : Property) : Prop :=
  ∃ t, TypeExpr.parse p.typeText = .ok t ∧
    q = indexed columns (p.attributes.foldl applyAttribute (context.classified p t))

theorem mappedProperties_reverse (d : Declaration) (bases : List Declaration) :
    mappedProperties (d :: bases).reverse = keptProperties d bases :=
  mappedProperties_eq _

theorem nodup_keptProperties (d : Declaration) (bases : List Declaration) :
    ((keptProperties d bases).map (·.name)).Nodup := by
  rw [← mappedProperties_reverse]
  exact nodup_mappedProperties _

theorem Extracts.classifies {columns : List String} {p : PropertyDeclaration} {q : Property}
    (h : context.Extracts columns p q) : context.Classifies p q := by
  obtain ⟨t, read, rfl⟩ := h
  obtain ⟨t', read', shape, required⟩ := context.classifies_of_read read
  have marked (q : Property) : (indexed columns q).SameShape q := by constructor <;> rfl
  exact ⟨t', read', (marked _).trans shape, required⟩

/-- A type is not both a list and a map. -/
theorem Extracts.shape {columns : List String} {p : PropertyDeclaration} {q : Property}
    (h : context.Extracts columns p q) : (q.isList && q.isDictionary) = false := by
  obtain ⟨t, -, same, -⟩ := h.classifies
  rw [same.isList, same.isDictionary]
  exact Property.shape_ofType p.name _

/-! ## Success -/

/-- The entity of a class has one property for each that is classified. -/
structure Filled (context : Context) (d : Declaration) (bases : List Declaration) (e : Entity) : Prop where
  name : e.name = d.name
  properties : List.Forall₂ (context.Extracts (indexColumns (d :: bases).reverse)) (keptProperties d bases)
    e.properties

theorem Filled.distinct {e : Entity} (filled : context.Filled d bases e) : e.propertyNames.Nodup := by
  have names : (keptProperties d bases).map (·.name) = e.propertyNames :=
    map_eq_map filled.properties fun p q extracts => extracts.classifies.name.symm
  rw [← names]
  exact nodup_keptProperties d bases

/-- It is its own base. -/
def stray : Declaration :=
  { Declaration.plain "Stray" "Zoo" with base := some "Zoo.Stray" }

end Context
end Scaffold
