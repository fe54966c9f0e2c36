/-
**Annotations.**

An annotation is a qualified name with arguments, whose values stay uninterpreted source text. It is
written by its simple name; the only argument is written without its key when that key is `value`.
-/

import ModelPlanner.QualifiedName
import ModelPlanner.Text

namespace ModelPlanner

/-- An annotation with its arguments, in the order in which they are written. -/
structure Annotation where
  name : String
  args : List (String × String)
deriving Repr, DecidableEq

namespace Annotation

/-- The name after its last dot. -/
def simpleName (mark : Annotation) : String := QualifiedName.simple mark.name

/-- The value of the first argument with a key. -/
def arg? (mark : Annotation) (key : String) : Option String := mark.args.lookup key

/-- Whether an argument is there and says `true`. -/
def flag (mark : Annotation) (key : String) : Bool :=
  match mark.arg? key with
  | some value => Text.trim value == "true"
  | none => false

/-- Whether the annotation answers to a name. -/
def isNamed (mark : Annotation) (wanted : String) : Bool :=
  QualifiedName.answersTo mark.name wanted

/-- The text of an annotation. -/
def text (mark : Annotation) : String :=
  "@" ++ mark.simpleName ++
    match mark.args with
    | [] => ""
    | [(key, value)] =>
      if key == "value" then "(" ++ value ++ ")" else "(" ++ key ++ " = " ++ value ++ ")"
    | args => "(" ++ ", ".intercalate (args.map fun (key, value) => key ++ " = " ++ value) ++ ")"

end Annotation

/-- The first annotation of a list that answers to a name. -/
def annotationNamed? (annotations : List Annotation) (wanted : String) : Option Annotation :=
  annotations.find? (·.isNamed wanted)

end ModelPlanner
