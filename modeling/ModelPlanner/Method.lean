/-
**Methods and constructors of an extended declaration.**

A chainable method returns its receiver, so a generated class overrides it to return itself. Methods
are identified by name, modifiers, parameters and the varargs mark; where a method was found and
whether it is marked as an attribute do not count. Its signature is its name with the types of its
parameters.
-/

import ModelPlanner.Attribute
import ModelPlanner.Declaration

namespace ModelPlanner

/-- The text of a parameter list; the last array of a varargs list is written with three dots. -/
def paramsText (params : List Param) (varargs : Bool) : String :=
  let last := params.length - 1
  ", ".intercalate (params.zipIdx.map fun (param, index) =>
    match param.type.component? with
    | some component =>
      if varargs && index == last then component.text ++ "..." else param.type.text
    | none => param.type.text)

/-- A chainable method. -/
structure Method where
  name : String
  modifiers : Modifiers
  params : List Param
  varargs : Bool
  isAttribute : Bool
  origin : String
deriving DecidableEq

/-- What identifies a method. -/
structure MethodIdentity where
  name : String
  modifiers : Modifiers
  params : List Param
  varargs : Bool
deriving DecidableEq

namespace Method

/-- What identifies a method. -/
def identity (method : Method) : MethodIdentity :=
  ⟨method.name, method.modifiers, method.params, method.varargs⟩

/-- The name of a method with the types of its parameters. -/
def signature (method : Method) : String × List TypeName :=
  (method.name, method.params.map (·.type))

/-- Whether the setter of an attribute takes the place of the method: the same name and one parameter
of the attribute's type. -/
def isShadowedBy (method : Method) (attr : Attribute) : Bool :=
  method.signature = (attr.name, [attr.type])

/-- The text of a method. -/
def text (method : Method) : String :=
  method.name ++ "(" ++ paramsText method.params method.varargs ++ ")"

/-- The method that a member declares. -/
def ofMember (member : Member) (origin : String) (isAttribute : Bool) : Method :=
  { name := member.name
    modifiers := member.modifiers
    params := member.params
    varargs := member.varargs
    isAttribute
    origin }

end Method

/-- A constructor. -/
structure Constructor where
  modifiers : Modifiers
  params : List Param
  varargs : Bool
deriving DecidableEq

namespace Constructor

/-- Whether the constructor has no parameters. -/
def isEmpty (constructor : Constructor) : Bool := constructor.params.isEmpty

/-- The text of a constructor. -/
def text (constructor : Constructor) : String :=
  Member.constructorName ++ "(" ++ paramsText constructor.params constructor.varargs ++ ")"

/-- The constructors that a declaration leaves open to subclasses, in member order. -/
def ofDeclaration (declaration : Declaration) : List Constructor :=
  (declaration.members.filter fun member =>
    member.isConstructor && !member.modifiers.has .privateAccess).map
    fun member => ⟨member.modifiers, member.params, member.varargs⟩

end Constructor

end ModelPlanner
