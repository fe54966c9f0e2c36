/-
**The type that a model is bound to.**

A generated model is generic in the type of the objects that it is bound to. The bound type of a
declaration is taken from the highest level of its hierarchy that states one: what the super
declaration is bound to, unless that is a type variable of the super declaration, and otherwise an
argument of the super type. A single argument counts if it is a type or has an upper bound; of
several, the first such one below a marker type.
-/

import ModelPlanner.Catalog
import ModelPlanner.Config

namespace ModelPlanner

/-- The type that an argument stands for: the type itself or the upper bound of a wildcard. -/
def TypeArg.boundType? : TypeArg → Option TypeName
  | .exact type | .upper type => some type
  | .wildcard | .lower _ => none

/-- Whether a type is below one of the marker types. -/
def isMarked (catalog : Catalog) (config : Config) (type : TypeName) : Bool :=
  config.boundTypeMarkers.any fun marker => catalog.isSubtype type (.raw marker)

/-- The bound type that the arguments of a super type state. -/
def statedBound? (catalog : Catalog) (config : Config) (superType : TypeName) : Option TypeName :=
  let types := superType.args.filterMap TypeArg.boundType?
  if superType.args.length = 1 then types.head? else types.find? (isMarked catalog config)

/-- The bound type that the super type of a declaration states. -/
def Declaration.statedBound? (catalog : Catalog) (config : Config) (declaration : Declaration) :
    Option TypeName :=
  declaration.superType?.bind (ModelPlanner.statedBound? catalog config)

/-- The bound type of a declaration, climbing at most `levels` levels. -/
def findBound? (catalog : Catalog) (config : Config) (levels : Nat) (declaration : Declaration) :
    Option TypeName :=
  match levels with
  | 0 => declaration.statedBound? catalog config
  | levels + 1 =>
    let inherited? := (catalog.superDeclaration declaration).bind fun parent =>
      (findBound? catalog config levels parent).filter (!parent.isTypeVariable ·)
    inherited?.or (declaration.statedBound? catalog config)

/-- The bound type of a declaration, if its hierarchy states one. -/
def boundType? (catalog : Catalog) (config : Config) (declaration : Declaration) :
    Option TypeName :=
  findBound? catalog config hierarchyLimit declaration

/-- Whether the declaration or one above it is a generated model already. -/
def isAlsoGenerated (catalog : Catalog) (config : Config) (declaration : Declaration) : Bool :=
  catalog.implements declaration.asType config.capability

end ModelPlanner
