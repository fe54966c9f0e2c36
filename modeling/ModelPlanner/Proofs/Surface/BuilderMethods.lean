/-
**The methods of a builder.**

A builder has a method for every attribute and the methods that all builders have. The methods of the
attributes differ in their signatures, and so do the common ones; but an attribute may have one of the
five keys whose signature a common method has (`reservedKeys`), and registration accepts them all.

* `isReserved_iff`: the method of an attribute has the signature of a common one exactly if its key is
  reserved;
* `builder_declared_twice_iff`: the signatures that a builder declares twice are those of the
  registered reserved keys;
* `id_declared_twice`: an attribute `id` of a `long` is registered, and then two methods have its signature.
-/

import Mathlib.Data.List.Nodup
import ModelPlanner.Proofs.Model.Edits
import ModelPlanner.Surface

namespace ModelPlanner

namespace Surface

/-- The signature of the method that sets the attribute of a key. -/
def keySignature (key : AttributeKey) : String × List TypeName := (key.name, [key.type])

/-- The signatures that a builder declares. -/
def builderSignatures (surface : Surface) : List (String × List TypeName) :=
  surface.builderMethods.map BuilderMethod.signature

/-- The signatures of the methods that all builders have. -/
def commonSignatures : List (String × List TypeName) := commonMethods.map BuilderMethod.signature

/-- The keys whose methods have the signature of a common one. -/
def reservedKeys : List AttributeKey :=
  [⟨"id", .raw "long"⟩, ⟨"id", (TypeName.raw "java.lang.Number").arrayOf⟩,
   ⟨"id", .raw "java.lang.CharSequence"⟩, ⟨"layout", .raw "int"⟩,
   ⟨"spanSizeOverride", .raw "SpanSizeOverrideCallback"⟩]

theorem keySignature_injective : Function.Injective keySignature := by
  rintro ⟨firstName, firstType⟩ ⟨secondName, secondType⟩ same
  cases same
  rfl

theorem commonSignatures_nodup : commonSignatures.Nodup := by decide

/-- A key is reserved exactly if a common method has its signature: of the common methods, those with
one parameter. -/
@[simp]
theorem isReserved_iff {key : AttributeKey} :
    keySignature key ∈ commonSignatures ↔ key ∈ reservedKeys := by
  obtain ⟨name, type⟩ := key
  unfold commonSignatures commonMethods reservedKeys keySignature
  simp only [List.map_cons, List.map_nil, BuilderMethod.signature, plainParam, markedParam,
    List.mem_cons, List.not_mem_nil, Prod.mk.injEq, List.cons.injEq, AttributeKey.mk.injEq, and_true,
    reduceCtorEq, and_false, or_false, false_or]

section Plan

variable (model : Model) (config : Config)

theorem builderSignatures_plan : (plan model config).builderSignatures =
    model.registry.attributes.keys.map keySignature ++ commonSignatures := by
  show (model.attributes.map attributeMethod ++ commonMethods).map BuilderMethod.signature = _
  rw [List.map_append, List.map_map, Keyed.keys, List.map_map]
  rfl

/-- The methods of the attributes differ in their signatures. -/
theorem attributeSignatures_nodup : (model.registry.attributes.keys.map keySignature).Nodup :=
  model.registry.attributes.distinct.map keySignature_injective

/-- A builder declares a signature at most twice, and twice only for an attribute and in common. -/
theorem count_builderSignatures (signature : String × List TypeName) :
    (plan model config).builderSignatures.count signature ≤ 2 ∧
      ((plan model config).builderSignatures.count signature = 2 ↔
        signature ∈ model.registry.attributes.keys.map keySignature ∧
          signature ∈ commonSignatures) := by
  have once := List.nodup_iff_count_le_one.mp (attributeSignatures_nodup model) signature
  have commonOnce := List.nodup_iff_count_le_one.mp commonSignatures_nodup signature
  rw [builderSignatures_plan, List.count_append, ← List.count_pos_iff, ← List.count_pos_iff]
  omega

/-- The signature of a common method is declared for an attribute if its key is reserved. -/
theorem declared_for_attribute_iff {signature : String × List TypeName} :
    signature ∈ model.registry.attributes.keys.map keySignature ∧ signature ∈ commonSignatures ↔
      ∃ attr ∈ model.attributes, attr.key ∈ reservedKeys ∧ signature = (attr.name, [attr.type]) := by
  constructor
  · rintro ⟨registered, common⟩
    obtain ⟨key, known, rfl⟩ := List.mem_map.mp registered
    obtain ⟨attr, member, rfl⟩ := List.mem_map.mp known
    exact ⟨attr, member, isReserved_iff.mp common, rfl⟩
  · rintro ⟨attr, member, reserved, rfl⟩
    exact ⟨List.mem_map_of_mem (List.mem_map_of_mem member), isReserved_iff.mpr reserved⟩

/-- **A builder declares a signature twice exactly if it is the one of a registered reserved key.** It
declares none more often. So its methods differ in their signatures exactly if no attribute has a
reserved key. -/
theorem builder_declared_twice_iff :
    (∀ signature, (plan model config).builderSignatures.count signature ≤ 2) ∧
    (∀ signature, (plan model config).builderSignatures.count signature = 2 ↔
      ∃ attr ∈ model.attributes, attr.key ∈ reservedKeys ∧ signature = (attr.name, [attr.type])) ∧
    ((plan model config).builderSignatures.Nodup ↔
      ∀ attr ∈ model.attributes, attr.key ∉ reservedKeys) := by
  have atMost := fun signature => (count_builderSignatures model config signature).1
  have twice : ∀ signature, (plan model config).builderSignatures.count signature = 2 ↔
      ∃ attr ∈ model.attributes, attr.key ∈ reservedKeys ∧ signature = (attr.name, [attr.type]) :=
    fun signature => (count_builderSignatures model config signature).2.trans
      (declared_for_attribute_iff model)
  refine ⟨atMost, twice, ?_⟩
  rw [List.nodup_iff_count_le_one]
  constructor
  · intro once attr member reserved
    have repeated := (twice (attr.name, [attr.type])).mpr ⟨attr, member, reserved, rfl⟩
    have single := once (attr.name, [attr.type])
    omega
  · intro free signature
    have bound := atMost signature
    have differs : (plan model config).builderSignatures.count signature ≠ 2 := by
      intro repeated
      obtain ⟨attr, member, reserved, _⟩ := (twice signature).mp repeated
      exact free attr member reserved
    omega

end Plan

/-- A model with the attribute of a key alone, and whether the key could be registered. -/
def registering (key : AttributeKey) : Except ModelError Unit × Model :=
  (Model.bare Model.cardHeader []).edit (.addAttribute (.ofKey key))

-- every reserved key can be registered, and then its signature is declared twice
example : ∀ key ∈ reservedKeys, (registering key).1 = .ok () ∧
    (plan (registering key).2 {}).builderSignatures.count (keySignature key) = 2 := by
  decide +kernel

/-- A card with a number for its identity has two methods `id` of a `long`. -/
theorem id_declared_twice :
    (registering ⟨"id", .raw "long"⟩).1 = .ok () ∧
      (plan (registering ⟨"id", .raw "long"⟩).2 {}).builderSignatures =
        [("id", [.raw "long"]), ("id", [.raw "long"]),
         ("id", [(TypeName.raw "java.lang.Number").arrayOf]), ("id", [.raw "long", .raw "long"]),
         ("id", [.raw "java.lang.CharSequence"]),
         ("id", [.raw "java.lang.CharSequence", (TypeName.raw "java.lang.CharSequence").arrayOf]),
         ("id", [.raw "java.lang.CharSequence", .raw "long"]), ("layout", [.raw "int"]),
         ("spanSizeOverride", [.raw "SpanSizeOverrideCallback"])] ∧
      ¬ (plan (registering ⟨"id", .raw "long"⟩).2 {}).builderSignatures.Nodup := by
  decide +kernel

end Surface

end ModelPlanner
