/-
**Snapshots are read back.**

* `ofJson?_toJson`: every part of a snapshot file is found again in the JSON value that it is written
  as, and these values are integral (`integral_toJson`);
* `SnapshotFile.Holds`: a text holds a snapshot file, whatever the version of the file is;
* `holds_write_iff`: what is written for a file holds this file, exactly if its version fits;
* `Versioned.holds`: with another version in place of its own, a text holds the file with this version;
* `read_written`: hence snapshots of models are read back, and files of other versions are refused.
-/

import ModelPlanner.Proofs.Json.Record
import ModelPlanner.Proofs.Model.Edits
import ModelPlanner.Snapshot.Json

namespace ModelPlanner

open Json (Integral integral_ofFields)

/-! ### Parts of a file in JSON -/

/-- A default is read back. -/
@[simp]
theorem DefaultValue.ofJson?_toJson (default : DefaultValue) :
    DefaultValue.ofJson? default.toJson = some default := by
  have fields : default.toJson.record? ["kind", "code"] = some _ := Json.record?_ofFields (by simp)
  rw [ofJson?, fields]
  cases default <;> rfl

/-- An attribute is read back. -/
@[simp]
theorem AttributeSnapshot.ofJson?_toJson (attr : AttributeSnapshot) :
    AttributeSnapshot.ofJson? attr.toJson = some attr := by
  have fields : attr.toJson.record?
      ["name", "type", "nullable", "required", "default", "hash", "group"] = some _ :=
    Json.record?_ofFields (by simp)
  rw [ofJson?, fields]
  simp [Json.required?]
  rfl

/-- A group is read back. -/
@[simp]
theorem GroupSnapshot.ofJson?_toJson (group : GroupSnapshot) :
    GroupSnapshot.ofJson? group.toJson = some group := by
  have fields : group.toJson.record? ["name", "members", "defaultAttribute", "required"] = some _ :=
    Json.record?_ofFields (by simp)
  rw [ofJson?, fields]
  simp [Json.required?]
  rfl

/-- A model is read back. -/
@[simp]
theorem ModelSnapshot.ofJson?_toJson (model : ModelSnapshot) :
    ModelSnapshot.ofJson? model.toJson = some model := by
  have fields : model.toJson.record?
      ["origin", "generatedType", "superType", "boundObjectType", "shouldGenerate",
        "superAlsoGenerated", "attributes", "groups", "chainableMethods", "constructors", "autoLayout",
        "styleBuilder"] = some _ :=
    Json.record?_ofFields (by simp)
  rw [ofJson?, fields]
  simp [Json.required?]
  rfl

/-- A version is read if it fits. -/
theorem Json.intBetween?_version (version : Nat) :
    intBetween? 0 (UInt32.size - 1) (ofNat version) =
      if version < UInt32.size then some (version : Int) else none := by
  have fits : (0 : Int) ≤ version ∧ (version : Int) ≤ UInt32.size - 1 ↔ version < UInt32.size := by
    omega
  rw [intBetween?_ofNat]
  simp only [fits]

/-- A file is read back if its version fits, and otherwise nothing is read. -/
theorem SnapshotFile.ofJson?_toJson (file : SnapshotFile) :
    SnapshotFile.ofJson? file.toJson = if file.version < UInt32.size then some file else none := by
  have fields : file.toJson.record? ["version", "models"] = some _ := Json.record?_ofFields (by simp)
  rw [ofJson?, fields]
  simp only [Json.required?, Option.bind_eq_bind, Option.bind_some, List.map_cons, List.map_nil,
    Json.intBetween?_version, Json.list?_map ModelSnapshot.ofJson?_toJson]
  split <;> rfl

/-! ### Integral parts -/

@[simp]
theorem DefaultValue.integral_toJson (default : DefaultValue) : default.toJson.Integral :=
  integral_ofFields (by simp)

@[simp]
theorem AttributeSnapshot.integral_toJson (attr : AttributeSnapshot) : attr.toJson.Integral :=
  integral_ofFields (by simp [Integral.bool])

@[simp]
theorem GroupSnapshot.integral_toJson (group : GroupSnapshot) : group.toJson.Integral :=
  integral_ofFields (by simp [Integral.bool])

@[simp]
theorem ModelSnapshot.integral_toJson (model : ModelSnapshot) : model.toJson.Integral :=
  integral_ofFields (by simp [Integral.bool])

namespace SnapshotFile

@[simp]
theorem integral_toJson (file : SnapshotFile) : file.toJson.Integral :=
  integral_ofFields (by simp)

/-! ### Files in texts -/

/-- A text holds a file if it is JSON for the file, whatever the version of the file is. -/
def Holds (text : String) (file : SnapshotFile) : Prop :=
  (Json.read? text).bind SnapshotFile.ofJson? = some file

/-- What is written for a file holds this file and no other, and that only if its version fits. -/
theorem holds_write_iff {file other : SnapshotFile} :
    Holds file.write other ↔ other = file ∧ file.version < UInt32.size := by
  rw [Holds, write, Json.read?_write file.integral_toJson, Option.bind_some, ofJson?_toJson,
    Option.ite_none_right_eq_some, Option.some.injEq, and_comm, eq_comm]

variable {text : String} {file : SnapshotFile} {version : Nat}

/-- What reading gives for a text that holds a file. -/
theorem read_of_holds (holds : Holds text file) :
    read text =
      if file.version = snapshotVersion then .ok file
      else .error (.unsupportedVersion file.version) := by
  unfold Holds at holds
  rw [read, holds]

/-- A text is accepted if it holds a file of the supported version. -/
theorem read_eq_ok_iff : read text = .ok file ↔ Holds text file ∧ file.version = snapshotVersion := by
  constructor
  · intro accepted
    unfold read at accepted
    split at accepted
    · cases accepted
    · next found holds =>
      split at accepted
      · next supported =>
        cases accepted
        exact ⟨holds, supported⟩
      · cases accepted
  · rintro ⟨holds, supported⟩
    rw [read_of_holds holds, if_pos supported]

/-- A text is refused for its version if it holds a file of this version and the version is not the
supported one. -/
theorem read_eq_unsupportedVersion_iff :
    read text = .error (.unsupportedVersion version) ↔
      version ≠ snapshotVersion ∧ ∃ models, Holds text ⟨version, models⟩ := by
  constructor
  · intro refused
    unfold read at refused
    split at refused
    · cases refused
    · next found holds =>
      split at refused
      · cases refused
      · next other =>
        cases refused
        exact ⟨other, found.models, holds⟩
  · rintro ⟨other, models, holds⟩
    rw [read_of_holds holds, if_neg other]

/-! ### Other versions -/

/-- A text holds an object with a version among other fields. -/
def Versioned (front back : List (Option String × Json)) (version : Nat) (text : String) : Prop :=
  Json.read? text = some (.object (front ++ (some "version", .ofNat version) :: back))

/-- What is written for a file starts with its version. -/
theorem versioned_write (file : SnapshotFile) :
    Versioned [] [(some "models", .array (file.models.map ModelSnapshot.toJson))] file.version
      file.write :=
  Json.read?_write file.integral_toJson

variable {front back : List (Option String × Json)} {other : String} {old : Nat}

/-- With another version that fits in place of its own, a text holds the file with this version. -/
theorem Versioned.holds (versioned : Versioned front back old text) (holds : Holds text file)
    (changed : Versioned front back version other) (fits : version < UInt32.size) :
    Holds other { file with version } := by
  unfold Holds at holds ⊢
  rw [versioned, Option.bind_some] at holds
  rw [changed, Option.bind_some]
  obtain ⟨values, record, holds⟩ := Option.bind_eq_some_iff.mp holds
  obtain ⟨models, rfl, replaced⟩ := Json.record?_replace (by decide) record
  obtain ⟨_, _, holds⟩ := Option.bind_eq_some_iff.mp holds
  obtain ⟨_, listed, same⟩ := Option.bind_eq_some_iff.mp holds
  cases same
  have new : Json.required? (Json.intBetween? 0 (UInt32.size - 1)) (some (.ofNat version)) =
      some (version : Int) := (Json.intBetween?_version version).trans (if_pos fits)
  rw [ofJson?, replaced]
  simp only [Option.bind_eq_bind, Option.bind_some, new, listed]
  rfl

/-- **Snapshots of models are read back, and other versions are refused.** The text written for models is
read as the file of version 1 with their snapshots. A text is accepted exactly if it holds a file of
version 1, and refused for a version exactly if it holds a file of this version and this is another one.
There are such texts of every version that fits: what is written for a file, and every accepted text with
its version replaced. -/
theorem read_written :
    (∀ models : List Model, read (ofModels models).write = .ok ⟨1, models.map .ofModel⟩) ∧
    (∀ text file, read text = .ok file ↔ Holds text file ∧ file.version = 1) ∧
    (∀ text version, read text = .error (.unsupportedVersion version) ↔
      version ≠ 1 ∧ ∃ models, Holds text ⟨version, models⟩) ∧
    (∀ file other, Holds file.write other ↔ other = file ∧ file.version < UInt32.size) ∧
    ∀ front back text file, Versioned front back 1 text → read text = .ok file →
      ∀ version other, Versioned front back version other → version < UInt32.size → version ≠ 1 →
        read other = .error (.unsupportedVersion version) := by
  refine ⟨fun models => ?_, fun text file => read_eq_ok_iff,
    fun text version => read_eq_unsupportedVersion_iff, fun file other => holds_write_iff,
    fun front back text file versioned accepted version other changed fits differs => ?_⟩
  · have fits : snapshotVersion < UInt32.size := by decide
    exact read_eq_ok_iff.mpr ⟨holds_write_iff.mpr ⟨rfl, fits⟩, rfl⟩
  · have holds : Holds text file := (read_eq_ok_iff.mp accepted).1
    exact read_eq_unsupportedVersion_iff.mpr
      ⟨differs, file.models, versioned.holds holds changed fits⟩

/-- The snapshot of a card is read back, and with the version 2 in place of its own it is refused. -/
theorem read_written_card :
    let card := ofModels [Model.cardModel]
    let changed : SnapshotFile := { card with version := 2 }
    read card.write = .ok card ∧ read changed.write = .error (.unsupportedVersion 2) := by
  intro card changed
  have ⟨models, _, _, _, others⟩ := read_written
  have accepted : read card.write = .ok card := models [Model.cardModel]
  exact ⟨accepted, others [] _ card.write card (versioned_write card) accepted 2 changed.write
    (versioned_write changed) (by decide) (by decide)⟩

end SnapshotFile

end ModelPlanner
