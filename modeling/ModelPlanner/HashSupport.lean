/-
**Types with an equality of their own.**

Instances of a class compare by identity unless the class or one above it declares `equals` with one
parameter and `hashCode` without parameters. The two may be declared at different levels. The root
class does not count. Primitive types, arrays, interfaces and types without a declaration are taken
to compare by value.
-/

import ModelPlanner.Catalog

namespace ModelPlanner

/-- The class at the top of every hierarchy. -/
def rootClass : String := "java.lang.Object"

/-- Whether a declaration has a method of a name with so many parameters. -/
def Declaration.declares (declaration : Declaration) (name : String) (params : Nat) : Bool :=
  declaration.members.any fun member =>
    member.returnType?.isSome && member.name == name && member.params.length == params

namespace Catalog

/-- Whether a class and those above it, at most `levels` of them, declare what is still missing of
an equality and its hash. -/
def completesHash (catalog : Catalog) (levels : Nat) (declaration : Declaration)
    (hasEquals hasHash : Bool) : Bool :=
  match levels with
  | 0 => false
  | levels + 1 =>
    if declaration.qualifiedName = rootClass then false
    else
      let hasEquals := hasEquals || declaration.declares "equals" 1
      let hasHash := hasHash || declaration.declares "hashCode" 0
      if hasEquals && hasHash then true
      else
        match catalog.superDeclaration declaration with
        | some parent => completesHash catalog levels parent hasEquals hasHash
        | none => false

/-- Whether the values of a type are taken to compare by value. -/
def implementsHash (catalog : Catalog) (type : TypeName) : Bool :=
  if type.isPrimitive || type.isArray then true
  else
    match catalog.resolve type with
    | none => true
    | some declaration =>
      declaration.kind == .interfaceKind ||
        catalog.completesHash hierarchyLimit declaration false false

end Catalog

end ModelPlanner
