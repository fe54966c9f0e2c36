/-
**Snapshots of models.**

A snapshot is what an emitter in another process needs to know of a model, with types, keys and
signatures as texts. A snapshot file is a list of snapshots under a format version.
-/

import ModelPlanner.Model

namespace ModelPlanner

/-- An attribute in a snapshot. -/
structure AttributeSnapshot where
  name : String
  type : String
  nullable : Bool
  required : Bool
  default : DefaultValue
  hash : String
  group? : Option String
deriving Repr, DecidableEq

/-- A group in a snapshot. -/
structure GroupSnapshot where
  name : String
  members : List String
  defaultAttribute? : Option String
  required : Bool
deriving Repr, DecidableEq

/-- A model in a snapshot. -/
structure ModelSnapshot where
  origin : String
  generatedType : String
  superType : String
  boundType : String
  shouldGenerate : Bool
  superAlsoGenerated : Bool
  attributes : List AttributeSnapshot
  groups : List GroupSnapshot
  chainableMethods : List String
  constructors : List String
  autoLayout : String
  styleBuilder? : Option String
deriving Repr, DecidableEq

/-- A list of snapshots under a format version. -/
structure SnapshotFile where
  version : Nat
  models : List ModelSnapshot
deriving Repr, DecidableEq

/-- The version of the format. -/
def snapshotVersion : Nat := 1

/-- The snapshot of an attribute. -/
def AttributeSnapshot.ofAttribute (attr : Attribute) : AttributeSnapshot :=
  { name := attr.name
    type := attr.type.text
    nullable := attr.nullable
    required := attr.required
    default := attr.default
    hash := attr.hashPolicy.text
    group? := attr.group? }

/-- The snapshot of a group. -/
def GroupSnapshot.ofGroup (group : Group) : GroupSnapshot :=
  { name := group.name
    members := group.members.map AttributeKey.text
    defaultAttribute? := group.default?.map AttributeKey.text
    required := group.isRequired }

/-- The snapshot of a model. -/
def ModelSnapshot.ofModel (model : Model) : ModelSnapshot :=
  { origin := model.header.origin
    generatedType := model.header.generatedType.text
    superType := model.header.superType.text
    boundType := model.header.boundType.text
    shouldGenerate := model.header.shouldGenerate
    superAlsoGenerated := model.header.superAlsoGenerated
    attributes := model.attributes.map .ofAttribute
    groups := model.groups.entries.map .ofGroup
    chainableMethods := model.registry.methods.map Method.text
    constructors := model.header.constructors.map Constructor.text
    autoLayout := model.autoLayout.text
    styleBuilder? := model.style?.map TypeName.text }

/-- The snapshot file of models. -/
def SnapshotFile.ofModels (models : List Model) : SnapshotFile :=
  ⟨snapshotVersion, models.map .ofModel⟩

end ModelPlanner
