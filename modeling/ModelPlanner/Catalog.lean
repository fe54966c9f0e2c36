/-
**Catalogs of declarations.**

A catalog holds declarations under their qualified names, in the order of their insertion. A type
resolves to the declaration of its name, an array type to none.

`search` explores the erased types above a type, the last interface first, and tells whether one of
them is hit. It expands at most `limit` different types, so it ends on cyclic hierarchies too: an
expansion uses up one of the types that may still be expanded, every other step shortens the list of
pending types.
-/

import ModelPlanner.Declaration
import ModelPlanner.Keyed

namespace ModelPlanner

/-- Declarations under their qualified names. -/
abbrev Catalog := Keyed Declaration.qualifiedName

/-- How many levels of a hierarchy are followed, and how many types a search expands. -/
def hierarchyLimit : Nat := 64

namespace Catalog

/-- The declaration of a type; array types have none. -/
def resolve (catalog : Catalog) (type : TypeName) : Option Declaration :=
  if type.isArray then none else catalog.get? type.name

/-- The declaration of the super type of a declaration. -/
def superDeclaration (catalog : Catalog) (declaration : Declaration) : Option Declaration :=
  declaration.superType?.bind catalog.resolve

/-- The erased types that the declaration of a type names as its super types. -/
def above (catalog : Catalog) (type : TypeName) : List TypeName :=
  match catalog.resolve type with
  | some declaration => declaration.superTypes.map TypeName.erasure
  | none => []

/-- Whether the search hits a pending type or one above it, when it has expanded `visited`. -/
def search (catalog : Catalog) (hit : TypeName → Bool) (limit : Nat)
    (visited pending : List TypeName) : Bool :=
  match pending with
  | [] => false
  | current :: rest =>
    if hit current then true
    else if visited.length < limit ∧ current ∉ visited then
      search catalog hit limit (current :: visited) ((catalog.above current).reverse ++ rest)
    else search catalog hit limit visited rest
termination_by (limit - visited.length, pending.length)
decreasing_by
  · exact Prod.Lex.left _ _ (by simp only [List.length_cons]; omega)
  · exact Prod.Lex.right _ (by simp)

/-- Whether a type is another one or below it, both erased. -/
def isSubtype (catalog : Catalog) (sub sup : TypeName) : Bool :=
  catalog.search (· == sup.erasure) hierarchyLimit [] [sub.erasure]

/-- Every type is below itself. -/
@[simp]
theorem isSubtype_self (catalog : Catalog) (type : TypeName) : catalog.isSubtype type type = true := by
  rw [isSubtype, search, beq_self_eq_true, if_pos rfl]

/-- Whether a type or one above it is no array and answers to a name. -/
def implements (catalog : Catalog) (type : TypeName) (capability : String) : Bool :=
  catalog.search (·.isNamed capability) hierarchyLimit [] [type.erasure]

/-- The types of the declarations with an annotation, in the order of the catalog. -/
def annotatedWith (catalog : Catalog) (wanted : String) : List TypeName :=
  (catalog.entries.filter fun declaration => (declaration.annotationNamed? wanted).isSome).map
    fun declaration => .raw declaration.qualifiedName

end Catalog

end ModelPlanner
