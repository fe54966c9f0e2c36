/-
**Snapshot files as JSON.**

Every record is an object with its fields in a fixed order; an absent field is not written. A default
is an object with its kind and, if it has some, its code.

Reading takes what writing produces and more: fields in any order, unknown fields, records as arrays,
absent fields as null. A file of another version is refused, after all of it has been read.
-/

import ModelPlanner.Json.Reader
import ModelPlanner.Json.Record
import ModelPlanner.Snapshot

namespace ModelPlanner

/-! ### Writing -/

/-- The kind of a default. -/
def DefaultValue.kind : DefaultValue → String
  | .absent => "none"
  | .implicit _ => "implicit"
  | .explicit _ => "explicit"
  | .languageNative => "languageNative"

/-- A default in JSON. -/
def DefaultValue.toJson (default : DefaultValue) : Json :=
  .ofFields [("kind", some (.text default.kind)), ("code", default.code?.map .text)]

/-- An attribute in JSON. -/
def AttributeSnapshot.toJson (attr : AttributeSnapshot) : Json :=
  .ofFields
    [("name", some (.text attr.name)),
     ("type", some (.text attr.type)),
     ("nullable", some (.bool attr.nullable)),
     ("required", some (.bool attr.required)),
     ("default", some attr.default.toJson),
     ("hash", some (.text attr.hash)),
     ("group", attr.group?.map .text)]

/-- A group in JSON. -/
def GroupSnapshot.toJson (group : GroupSnapshot) : Json :=
  .ofFields
    [("name", some (.text group.name)),
     ("members", some (.array (group.members.map .text))),
     ("defaultAttribute", group.defaultAttribute?.map .text),
     ("required", some (.bool group.required))]

/-- A model in JSON. -/
def ModelSnapshot.toJson (model : ModelSnapshot) : Json :=
  .ofFields
    [("origin", some (.text model.origin)),
     ("generatedType", some (.text model.generatedType)),
     ("superType", some (.text model.superType)),
     ("boundObjectType", some (.text model.boundType)),
     ("shouldGenerate", some (.bool model.shouldGenerate)),
     ("superAlsoGenerated", some (.bool model.superAlsoGenerated)),
     ("attributes", some (.array (model.attributes.map AttributeSnapshot.toJson))),
     ("groups", some (.array (model.groups.map GroupSnapshot.toJson))),
     ("chainableMethods", some (.array (model.chainableMethods.map .text))),
     ("constructors", some (.array (model.constructors.map .text))),
     ("autoLayout", some (.text model.autoLayout)),
     ("styleBuilder", model.styleBuilder?.map .text)]

/-- A snapshot file in JSON. -/
def SnapshotFile.toJson (file : SnapshotFile) : Json :=
  .ofFields
    [("version", some (.ofNat file.version)),
     ("models", some (.array (file.models.map ModelSnapshot.toJson)))]

/-- The text of a snapshot file. -/
def SnapshotFile.write (file : SnapshotFile) : String := file.toJson.write

/-! ### Reading -/

/-- The kind that a field of an object names: a string, or an object with null under the only key. -/
def kindName? : Json → Option String
  | .object [(some name, .null)] => some name
  | json => json.text?

/-- A default without code, which may be written as null. -/
def withoutCode? (default : DefaultValue) : Option Json → Option DefaultValue
  | none | some .null => some default
  | _ => none

/-- The default of a kind. -/
def DefaultValue.ofKind? (kind : String) (code? : Option Json) : Option DefaultValue :=
  if kind = "none" then withoutCode? .absent code?
  else if kind = "implicit" then (Json.required? Json.text? code?).map .implicit
  else if kind = "explicit" then (Json.required? Json.text? code?).map .explicit
  else if kind = "languageNative" then withoutCode? .languageNative code?
  else none

/-- The default that a JSON value holds; as an array it has both its parts, the kind as a string. -/
def DefaultValue.ofJson? (json : Json) : Option DefaultValue := do
  let fields ← json.record? ["kind", "code"]
  match json, fields with
  | .array _, [some kind, some code] => DefaultValue.ofKind? (← kind.text?) (some code)
  | .object _, [some kind, code?] => DefaultValue.ofKind? (← kindName? kind) code?
  | _, _ => none

/-- The attribute that a JSON value holds. -/
def AttributeSnapshot.ofJson? (json : Json) : Option AttributeSnapshot := do
  let fields ← json.record?
    ["name", "type", "nullable", "required", "default", "hash", "group"]
  match fields with
  | [name, type, nullable, required, default, hash, group] =>
    return {
      name := ← Json.required? Json.text? name
      type := ← Json.required? Json.text? type
      nullable := ← Json.required? Json.bool? nullable
      required := ← Json.required? Json.bool? required
      default := ← Json.required? DefaultValue.ofJson? default
      hash := ← Json.required? Json.text? hash
      group? := ← Json.optional? Json.text? group }
  | _ => none

/-- The group that a JSON value holds. -/
def GroupSnapshot.ofJson? (json : Json) : Option GroupSnapshot := do
  let fields ← json.record? ["name", "members", "defaultAttribute", "required"]
  match fields with
  | [name, members, defaultAttribute, required] =>
    return {
      name := ← Json.required? Json.text? name
      members := ← Json.required? (Json.list? Json.text?) members
      defaultAttribute? := ← Json.optional? Json.text? defaultAttribute
      required := ← Json.required? Json.bool? required }
  | _ => none

/-- The model that a JSON value holds. -/
def ModelSnapshot.ofJson? (json : Json) : Option ModelSnapshot := do
  let fields ← json.record?
    ["origin", "generatedType", "superType", "boundObjectType", "shouldGenerate",
     "superAlsoGenerated", "attributes", "groups", "chainableMethods", "constructors",
     "autoLayout", "styleBuilder"]
  match fields with
  | [origin, generatedType, superType, boundType, shouldGenerate, superAlsoGenerated, attributes,
      groups, chainableMethods, constructors, autoLayout, styleBuilder] =>
    return {
      origin := ← Json.required? Json.text? origin
      generatedType := ← Json.required? Json.text? generatedType
      superType := ← Json.required? Json.text? superType
      boundType := ← Json.required? Json.text? boundType
      shouldGenerate := ← Json.required? Json.bool? shouldGenerate
      superAlsoGenerated := ← Json.required? Json.bool? superAlsoGenerated
      attributes := ← Json.required? (Json.list? AttributeSnapshot.ofJson?) attributes
      groups := ← Json.required? (Json.list? GroupSnapshot.ofJson?) groups
      chainableMethods := ← Json.required? (Json.list? Json.text?) chainableMethods
      constructors := ← Json.required? (Json.list? Json.text?) constructors
      autoLayout := ← Json.required? Json.text? autoLayout
      styleBuilder? := ← Json.optional? Json.text? styleBuilder }
  | _ => none

/-- The snapshot file that a JSON value holds. -/
def SnapshotFile.ofJson? (json : Json) : Option SnapshotFile := do
  let fields ← json.record? ["version", "models"]
  match fields with
  | [version, models] =>
    return {
      version := (← Json.required? (Json.intBetween? 0 (UInt32.size - 1)) version).toNat
      models := ← Json.required? (Json.list? ModelSnapshot.ofJson?) models }
  | _ => none

/-- Why a text is no snapshot file. -/
inductive SnapshotError where
  | malformed
  | unsupportedVersion (version : Nat)
deriving Repr, DecidableEq

/-- The wording of a refused snapshot file. -/
def SnapshotError.message : SnapshotError → String
  | .malformed => "JSON error"
  | .unsupportedVersion version => s!"Unsupported snapshot version: {version}"

/-- The snapshot file that a text holds. -/
def SnapshotFile.read (text : String) : Except SnapshotError SnapshotFile :=
  match (Json.read? text).bind SnapshotFile.ofJson? with
  | none => .error .malformed
  | some file =>
    if file.version = snapshotVersion then .ok file else .error (.unsupportedVersion file.version)

end ModelPlanner
