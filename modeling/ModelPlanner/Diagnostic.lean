/-
**Diagnostics.**

A diagnostic says what is wrong with a declaration or one of its members, how severe it is and what
else it relates to. It is written as

    severity[code]: origin#member: message

where the code and the member may be missing. A log keeps diagnostics in the order of their arrival.
-/

import ModelPlanner.ModelError

namespace ModelPlanner

/-- How severe a diagnostic is. -/
inductive Severity where
  | error
  | warning
  | note
deriving Repr, DecidableEq

/-- The word for a severity. -/
def Severity.text : Severity → String
  | .error => "error"
  | .warning => "warning"
  | .note => "note"

/-- A further declaration that a diagnostic relates to. -/
structure RelatedInfo where
  origin : String
  message : String
deriving Repr, DecidableEq

/-- A finding about a declaration or one of its members. -/
structure Diagnostic where
  severity : Severity
  origin : String
  message : String
  member? : Option String := none
  code? : Option String := none
  related : List RelatedInfo := []
deriving Repr, DecidableEq

namespace Diagnostic

/-- The text of a diagnostic. -/
def text (diagnostic : Diagnostic) : String :=
  let code := match diagnostic.code? with
    | some code => "[" ++ code ++ "]"
    | none => ""
  let member := match diagnostic.member? with
    | some member => "#" ++ member
    | none => ""
  diagnostic.severity.text ++ code ++ ": " ++ diagnostic.origin ++ member ++ ": "
    ++ diagnostic.message

/-- Whether the diagnostic is an error. -/
def isError (diagnostic : Diagnostic) : Bool := diagnostic.severity == .error

/-- The error of a declaration whose model cannot be built. -/
def ofModelError (origin : String) (error : ModelError) : Diagnostic :=
  { severity := .error
    origin
    message := error.message
    member? := error.subject?
    code? := some error.code }

/-- The warning that the values of an attribute's type may compare unequal. -/
def missingHashCode (origin name typeName : String) : Diagnostic :=
  { severity := .warning
    origin
    message := "attribute type '" ++ typeName ++ "' does not implement equals and hashCode; "
      ++ "instances may compare unequal"
    member? := some name
    code? := some "W0001"
    related := [⟨typeName, "declared here"⟩] }

/-- The warning that an argument of a model is ignored. -/
def invalidModelArgument (origin argument value : String) : Diagnostic :=
  { severity := .warning
    origin
    message := "ignoring model argument '" ++ argument ++ "': cannot use '" ++ value ++ "'"
    code? := some "W0002" }

end Diagnostic

/-- Diagnostics in the order of their arrival. -/
structure DiagnosticLog where
  entries : List Diagnostic := []
deriving Repr, DecidableEq

namespace DiagnosticLog

/-- The log with one more diagnostic. -/
def add (log : DiagnosticLog) (diagnostic : Diagnostic) : DiagnosticLog :=
  ⟨log.entries ++ [diagnostic]⟩

/-- The log with more diagnostics. -/
def extend (log : DiagnosticLog) (diagnostics : List Diagnostic) : DiagnosticLog :=
  ⟨log.entries ++ diagnostics⟩

/-- The diagnostics of an origin. -/
def ofOrigin (log : DiagnosticLog) (origin : String) : List Diagnostic :=
  log.entries.filter (·.origin == origin)

/-- The number of diagnostics of a severity. -/
def count (log : DiagnosticLog) (severity : Severity) : Nat :=
  (log.entries.filter (·.severity == severity)).length

/-- Whether there is an error. -/
def hasErrors (log : DiagnosticLog) : Bool := log.entries.any Diagnostic.isError

end DiagnosticLog

end ModelPlanner
