/-
**Planning a batch of models.**

A planner has a catalog, a configuration and the cache of its method walks. It handles the targets of
a batch in two phases.

* Staging resolves every target, starts its model and registers the attributes of its own fields.
* Finishing adds the inherited attributes of new keys, makes the groups that annotations name, and
  then, if overloads are to be grouped, one group per field name that several ungrouped attributes
  share and no annotation names.

A model inherits the attributes that the fields of the classes above its declaration declare, nearest
class first. An attribute that is private to its package is inherited within the package only. The climb
visits no class twice and at most `hierarchyLimit` classes.

A target that fails in either phase is dropped with an error and does not disturb the others. At the
end the types of fully compared attributes are checked, if the configuration asks for it.
-/

import ModelPlanner.Diagnostic
import ModelPlanner.FieldAttribute
import ModelPlanner.HashSupport
import ModelPlanner.Model

namespace ModelPlanner

/-- Pairs gathered by their first part: every first part once, in the order of its first pair, with
its second parts, each once. -/
def gather {κ α : Type} [DecidableEq κ] [DecidableEq α] (pairs : List (κ × α)) :
    List (κ × List α) :=
  (keepFirst Prod.fst pairs).map fun (key, _) =>
    (key, keepFirst id ((pairs.filter (·.1 = key)).map Prod.snd))

/-- A catalog, a configuration and the cache of the method walks so far. -/
structure Planner where
  catalog : Catalog
  config : Config
  cache : MethodCache

namespace Planner

/-- A new planner. -/
def start (catalog : Catalog) (config : Config) : Planner := ⟨catalog, config, .empty⟩

/-- A dropped target and why it was dropped. -/
structure Dropped where
  origin : String
  error : ModelError
deriving DecidableEq

/-- A target after the first phase. -/
structure Stage where
  declaration : Declaration
  model : Model
  own : List FieldAttribute
  warnings : List Diagnostic

/-- The state after an operation that succeeded. -/
def committed {α : Type} : Except ModelError α × Model → Except ModelError Model
  | (.error error, _) => .error error
  | (.ok _, model) => .ok model

/-! ### Staging -/

/-- The model with the layout that an annotation names; a name that is none gives a warning. -/
def applyLayout (model : Model) (mark : Annotation) : Model × List Diagnostic :=
  match mark.arg? "autoLayout" with
  | none => (model, [])
  | some text =>
    match AutoLayout.ofText? text with
    | some layout => (model.setAutoLayout layout, [])
    | none => (model, [.invalidModelArgument model.header.origin "autoLayout" text])

/-- The model with the style that an annotation names. -/
def applyStyle (model : Model) (mark : Annotation) : Except ModelError Model :=
  match mark.arg? "style" with
  | none => .ok model
  | some text =>
    match TypeName.parse (Text.trim text) with
    | .error cause => .error (.invalidType text cause)
    | .ok style => committed (model.setStyle style)

/-- The model with the arguments of the model annotation applied. -/
def applyArguments (config : Config) (declaration : Declaration) (model : Model) :
    Except ModelError (Model × List Diagnostic) :=
  match declaration.annotationNamed? config.modelAnnotationName with
  | none => .ok (model, [])
  | some mark =>
    let (laidOut, warnings) := applyLayout model mark
    (applyStyle laidOut mark).map (·, warnings)

/-- The stage of a declaration whose model was just started. -/
def fill (catalog : Catalog) (config : Config) (declaration : Declaration) (model : Model) :
    Except ModelError Stage := do
  let (styled, warnings) ← applyArguments config declaration model
  let own ← FieldAttribute.ofDeclaration catalog config declaration
  let registered ← committed (styled.addAttributes (own.map (·.attr)))
  return ⟨declaration, registered, own, warnings⟩

/-- The stage of a target and the cache after it. -/
def stage (catalog : Catalog) (config : Config) (target : TypeName) (cache : MethodCache) :
    Except Dropped Stage × MethodCache :=
  match catalog.resolve target with
  | none => (.error ⟨target.name, .unknownDeclaration target.text⟩, cache)
  | some declaration =>
    let (started, after) := Model.ofDeclaration catalog config declaration cache
    ((started.bind (fill catalog config declaration)).mapError (⟨target.name, ·⟩), after)

/-- The stages of all targets, in their order, and the cache after them. -/
def stageAll (catalog : Catalog) (config : Config) :
    List TypeName → MethodCache → List (Except Dropped Stage) × MethodCache
  | [], cache => ([], cache)
  | target :: targets, cache =>
    let (first, after) := stage catalog config target cache
    let (rest, final) := stageAll catalog config targets after
    (first :: rest, final)

/-! ### Inherited attributes -/

/-- Whether a class in a package sees the attribute of a class above it. -/
def isVisibleFrom (package : String) (field : FieldAttribute) : Bool :=
  !field.attr.packagePrivate || field.attr.package == package

/-- The attributes declared above a declaration that a class in a package sees. What `known` gives for
a class is taken instead of reading its fields. -/
def inheritedFields (catalog : Catalog) (config : Config)
    (known : String → Option (List FieldAttribute)) (package : String) (visited : List String)
    (declaration : Declaration) : Except ModelError (List FieldAttribute) :=
  match catalog.superDeclaration declaration with
  | none => .ok []
  | some parent =>
    if visited.length < hierarchyLimit ∧ parent.qualifiedName ∉ visited then do
      let fields ← match known parent.qualifiedName with
        | some fields => .ok fields
        | none => FieldAttribute.ofDeclaration catalog config parent
      let above ← inheritedFields catalog config known package (parent.qualifiedName :: visited)
        parent
      return fields.filter (isVisibleFrom package) ++ above
    else .ok []
termination_by hierarchyLimit - visited.length
decreasing_by simp only [List.length_cons]; omega

/-! ### Finishing -/

/-- The own attributes of the staged declaration of a name. -/
def ownFields? (stages : List Stage) (name : String) : Option (List FieldAttribute) :=
  (stages.find? (·.declaration.qualifiedName == name)).map (·.own)

/-- The groups that annotations name, with the keys of their members. -/
def statedGroups (fields : List FieldAttribute) : List (String × List AttributeKey) :=
  gather (fields.filterMap fun field => field.group?.map (·, field.attr.key))

/-- The groups of ungrouped attributes that share a field name and that no annotation names. -/
def overloadGroups (model : Model) (stated : List (String × List AttributeKey)) :
    List (String × List AttributeKey) :=
  (gather ((model.attributes.filter (·.group?.isNone)).map fun attr => (attr.name, attr.key))).filter
    fun (name, keys) => 1 < keys.length && !(stated.map Prod.fst).contains name

/-- The model with the attributes of new keys. -/
def addInherited (model : Model) (fields : List FieldAttribute) : Except ModelError Model :=
  fields.foldlM (fun model field => committed (model.addIfAbsent field.attr)) model

/-- The model with more groups. -/
def addGroups (model : Model) (groups : List (String × List AttributeKey)) :
    Except ModelError Model :=
  groups.foldlM (fun model (name, keys) => committed (model.addGroup name keys)) model

/-- The model of a stage with inherited attributes and groups. -/
def complete (catalog : Catalog) (config : Config) (stages : List Stage) (stage : Stage) :
    Except ModelError Model := do
  let inherited ← inheritedFields catalog config (ownFields? stages) stage.declaration.package []
    stage.declaration
  let merged ← addInherited stage.model inherited
  let stated := statedGroups (stage.own ++ inherited)
  let grouped ← addGroups merged stated
  if config.groupOverloads then addGroups grouped (overloadGroups grouped stated)
  else return grouped

/-- A finished model with the warnings of its stage. -/
structure Finished where
  model : Model
  warnings : List Diagnostic

/-- The finished model of a stage. -/
def finish (catalog : Catalog) (config : Config) (stages : List Stage) (stage : Stage) :
    Except Dropped Finished :=
  match complete catalog config stages stage with
  | .error error => .error ⟨stage.declaration.qualifiedName, error⟩
  | .ok model => .ok ⟨model, stage.warnings⟩

/-! ### Batches -/

/-- The models of a batch and what was found on the way. -/
structure Output where
  models : List Model
  diagnostics : DiagnosticLog

/-- The model of an origin. -/
def Output.model? (output : Output) (origin : String) : Option Model :=
  output.models.find? (·.header.origin == origin)

/-- The models for which classes are generated. -/
def Output.modelsToEmit (output : Output) : List Model :=
  output.models.filter (·.header.shouldGenerate)

/-- The values of the successful results. -/
def successes {ε α : Type} (results : List (Except ε α)) : List α :=
  results.filterMap Except.toOption

/-- The error of a dropped target. -/
def Dropped.diagnostic (dropped : Dropped) : Diagnostic :=
  .ofModelError dropped.origin dropped.error

/-- The errors of the dropped targets. -/
def stagingErrors (results : List (Except Dropped Stage)) : List Diagnostic :=
  results.filterMap fun
    | .error dropped => some dropped.diagnostic
    | .ok _ => none

/-- The diagnostics of the second phase: the warnings of finished models and the errors of dropped
targets, in target order. -/
def finishingDiagnostics (results : List (Except Dropped Finished)) : List Diagnostic :=
  results.flatMap fun
    | .error dropped => [dropped.diagnostic]
    | .ok finished => finished.warnings

/-- The warnings about fully compared attributes of a model whose types compare by identity. -/
def hashWarnings (catalog : Catalog) (model : Model) : List Diagnostic :=
  if !model.header.shouldGenerate then []
  else
    (model.attributes.filter fun attr =>
      attr.hashPolicy == .full && !catalog.implementsHash attr.type).map
      fun attr => .missingHashCode model.header.origin attr.name attr.type.name

/-- Plans the models of a batch of targets. -/
def process (planner : Planner) (targets : List TypeName) : Output × Planner :=
  let { catalog, config, cache } := planner
  let (staged, after) := stageAll catalog config targets cache
  let stages := successes staged
  let finished := stages.map (finish catalog config stages)
  let models := (successes finished).map (·.model)
  let checks := if config.requireHashCode then models.flatMap (hashWarnings catalog) else []
  (⟨models, ⟨stagingErrors staged ++ finishingDiagnostics finished ++ checks⟩⟩,
    { planner with cache := after })

end Planner

end ModelPlanner
