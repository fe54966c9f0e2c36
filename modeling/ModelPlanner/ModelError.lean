/-
**Why a model cannot be built.**

A model error stops the generation for one declaration. Every cause has a code and a wording.
-/

import ModelPlanner.TypeName.Parser

namespace ModelPlanner

/-- Why an attribute is not supported. -/
inductive Refusal where
  | notIdentifier
  | voidType
  | nullablePrimitive (type : TypeName)
  | grouped (group : String)
  | fixedField
  | unknownPolicy (text : String)
  | stated (reason : String)
deriving DecidableEq

/-- The wording of a refusal. -/
def Refusal.text : Refusal → String
  | .notIdentifier => "field name is not a valid identifier"
  | .voidType => "attributes cannot be void"
  | .nullablePrimitive type => "primitive type `" ++ type.text ++ "` cannot be nullable"
  | .grouped group => "already belongs to group `" ++ group ++ "`"
  | .fixedField => "fields cannot be private, static or final"
  | .unknownPolicy text => "unknown hash policy `" ++ text ++ "`"
  | .stated reason => reason

/-- Why a model cannot be built. -/
inductive ModelError where
  | emptyGroup (group : String)
  | conflictingGroupDefaults (group : String) (members : List String)
  | defaultWithoutCode (group attr : String)
  | unknownGroupMember (group attr : String)
  | unsupportedAttribute (attr : String) (refusal : Refusal)
  | finalDeclaration (declaration : String)
  | unknownDeclaration (declaration : String)
  | invalidType (text : String) (cause : TypeName.ParseError)
deriving DecidableEq

namespace ModelError

/-- The wording of a model error. -/
def message : ModelError → String
  | .emptyGroup group => "Attributes cannot be empty (group `" ++ group ++ "`)"
  | .conflictingGroupDefaults _ members =>
    "Only one default value can exist for a group of attributes: " ++ ", ".intercalate members
  | .defaultWithoutCode group attr =>
    "Default attribute has no default code (group `" ++ group ++ "`, attribute `" ++ attr
      ++ "`)"
  | .unknownGroupMember group attr =>
    "Group `" ++ group ++ "` refers to unknown attribute `" ++ attr ++ "`"
  | .unsupportedAttribute attr refusal =>
    "Unsupported attribute `" ++ attr ++ "`: " ++ refusal.text
  | .finalDeclaration declaration => "Class `" ++ declaration ++ "` cannot be final"
  | .unknownDeclaration declaration => "Unknown declaration `" ++ declaration ++ "`"
  | .invalidType text cause => "Invalid type `" ++ text ++ "`: " ++ cause.message

/-- The code of a model error. -/
def code : ModelError → String
  | .emptyGroup _ => "E0001"
  | .conflictingGroupDefaults _ _ => "E0002"
  | .defaultWithoutCode _ _ => "E0003"
  | .unknownGroupMember _ _ => "E0004"
  | .unsupportedAttribute _ _ => "E0005"
  | .finalDeclaration _ => "E0006"
  | .unknownDeclaration _ => "E0007"
  | .invalidType _ _ => "E0008"

/-- The attribute that a model error is about, if it names one as its subject. -/
def subject? : ModelError → Option String
  | .defaultWithoutCode _ attr => some attr
  | .unsupportedAttribute attr _ => some attr
  | _ => none

end ModelError

end ModelPlanner
