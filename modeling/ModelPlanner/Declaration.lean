/-
**Declarations and their members.**

A declaration is a class or an interface with its modifiers, annotations, type parameters, super
types and members. A member is a constructor, a method with a return type or a field with a type.
-/

import ModelPlanner.Annotation
import ModelPlanner.Modifiers
import ModelPlanner.TypeName.Basic

namespace ModelPlanner

/-- A parameter of a method or constructor. -/
structure Param where
  type : TypeName
  name : String
  annotations : List Annotation
deriving DecidableEq

/-- The text of a parameter: its annotations, its type and its name. -/
def Param.text (param : Param) : String :=
  String.join (param.annotations.map (·.text ++ " ")) ++ param.type.text ++ " " ++ param.name

/-- What a member is. -/
inductive MemberKind where
  | constructor
  | method (returnType : TypeName)
  | field (type : TypeName)
deriving DecidableEq

/-- A member of a declaration. -/
structure Member where
  name : String
  kind : MemberKind
  modifiers : Modifiers
  annotations : List Annotation
  params : List Param
  varargs : Bool
deriving DecidableEq

namespace Member

/-- The name under which constructors are listed. -/
def constructorName : String := "<init>"

/-- Whether the member is a constructor. -/
def isConstructor (member : Member) : Bool := member.kind matches .constructor

/-- The return type, if the member is a method. -/
def returnType? (member : Member) : Option TypeName :=
  match member.kind with
  | .method returnType => some returnType
  | _ => none

/-- The type, if the member is a field. -/
def fieldType? (member : Member) : Option TypeName :=
  match member.kind with
  | .field type => some type
  | _ => none

/-- The first annotation of the member that answers to a name. -/
def annotationNamed? (member : Member) (wanted : String) : Option Annotation :=
  ModelPlanner.annotationNamed? member.annotations wanted

end Member

/-- Whether a declaration is a class or an interface. -/
inductive DeclarationKind where
  | classKind
  | interfaceKind
deriving Repr, DecidableEq

/-- A class or an interface. -/
structure Declaration where
  qualifiedName : String
  kind : DeclarationKind
  modifiers : Modifiers
  annotations : List Annotation
  typeParams : List String
  superType? : Option TypeName
  interfaces : List TypeName
  members : List Member
deriving DecidableEq

namespace Declaration

/-- A declaration of a kind with nothing in it; an interface is abstract. -/
def bare (kind : DeclarationKind) (qualifiedName : String) : Declaration :=
  { qualifiedName
    kind
    modifiers := match kind with
      | .classKind => .empty
      | .interfaceKind => .ofList [.abstract]
    annotations := []
    typeParams := []
    superType? := none
    interfaces := []
    members := [] }

@[simp]
theorem qualifiedName_bare (kind : DeclarationKind) (name : String) :
    (bare kind name).qualifiedName = name := rfl

/-- The name after its last dot. -/
def simpleName (declaration : Declaration) : String :=
  QualifiedName.simple declaration.qualifiedName

/-- The name before its last dot. -/
def package (declaration : Declaration) : String :=
  QualifiedName.package declaration.qualifiedName

/-- The type that a declaration declares, applied to its own type parameters. -/
def asType (declaration : Declaration) : TypeName :=
  .applied declaration.qualifiedName (declaration.typeParams.map fun param => .exact (.raw param))

/-- The first annotation of the declaration that answers to a name. -/
def annotationNamed? (declaration : Declaration) (wanted : String) : Option Annotation :=
  ModelPlanner.annotationNamed? declaration.annotations wanted

/-- Whether a type is one of the declaration's type parameters. -/
def isTypeVariable (declaration : Declaration) (type : TypeName) : Bool :=
  type.args.isEmpty && !type.isArray && declaration.typeParams.contains type.name

/-- The types that the declaration names as its super types, class first. -/
def superTypes (declaration : Declaration) : List TypeName :=
  declaration.superType?.toList ++ declaration.interfaces

end Declaration

end ModelPlanner
