/-
**The values of an instance fit the types of its attributes.**

Values come into an instance by a setter, which checks the value that it is given, by the setters of other
members of a group, which assign zero values, and by resets, which assign the planned values unchecked.

* `zeroValue_fits`: the zero value of a type fits this type, whatever the type;
* `accepted_iff`: an attribute accepts exactly the values that fit, among them null only if it is nullable;
* `AllFit.apply`, `AllFit.reset`: both kinds of events keep all values fitting, the second one if the planned
  values fit;
* `values_fit`: hence all values fit after every history of calls.
-/

import ModelPlanner.Proofs.Instance.LastEvent

namespace ModelPlanner

/-! ### Zero values -/

namespace Value

/-- **The zero value of a type fits it.** -/
@[simp]
theorem zeroValue_fits (type : TypeName) : type.zeroValue.fits type = true := by
  have falsehood : ofLiteral "false" = .bool false := by decide +kernel
  have float : ofLiteral "0.0" = .float 0 := by decide +kernel
  have integer : ofLiteral "0" = .int 0 := by decide +kernel
  unfold fits
  split
  · rfl
  · next primitive =>
    rw [TypeName.zeroValue, TypeName.zeroLiteral, if_neg primitive]
    by_cases boolean : (type.name == "boolean") = true
    · rw [if_pos boolean, falsehood]
      exact boolean
    · by_cases floating : (type.name == "float" || type.name == "double") = true
      · rw [if_neg boolean, if_pos floating, float]
        exact floating
      · rw [if_neg boolean, if_neg floating, integer]
        simpa using boolean

@[simp]
theorem isNull_iff {value : Value} : value.isNull = true ↔ value = .null := by
  cases value <;> simp [isNull]

/-- A primitive type has no room for null, for texts and for callbacks. -/
theorem primitive_of_fits {value : Value} {type : TypeName} (fitting : value.fits type = true)
    (primitive : type.isPrimitive = true) :
    value ≠ .null ∧ (∀ text, value ≠ .str text) ∧ ∀ identity, value ≠ .callback identity := by
  refine ⟨?_, fun text => ?_, fun identity => ?_⟩ <;> rintro rfl <;> simp [fits, primitive] at fitting

end Value

namespace Instance

/-! ### Setters -/

/-- A setter refuses null if it checks for it, and what does not fit, and nothing else. -/
theorem refusal?_eq_none_iff {setter : SetterPlan} {value : Value} :
    refusal? setter value = none ↔
      value.fits setter.key.type = true ∧ (value.isNull = true → setter.nullCheck = false) := by
  unfold refusal?
  cases value.isNull <;> cases setter.nullCheck <;> cases value.fits setter.key.type <;> simp

/-- The setter of a registered attribute is planned for it. -/
theorem setter?_of_mem {model : Model} (config : Config) {attr : Attribute}
    (registered : attr ∈ model.attributes) :
    (Surface.plan model config).setter? attr.key = some (Surface.planSetter model config attr) := by
  cases found : (Surface.plan model config).setter? attr.key with
  | none =>
    have planned : Surface.planSetter model config attr ∈ (Surface.plan model config).setters :=
      List.mem_map_of_mem registered
    exact absurd (beq_self_eq_true attr.key) (List.find?_eq_none.mp found _ planned)
  | some setter =>
    obtain ⟨other, otherRegistered, same, rfl⟩ := setter?_plan found
    rw [Keyed.eq_of_key_eq otherRegistered registered same]

/-- **An attribute accepts exactly what fits its type**, null only if it is nullable. -/
theorem accepted_iff {model : Model} {config : Config} {self : Instance}
    (planned : self.surface = .plan model config) {attr : Attribute}
    (registered : attr ∈ model.attributes) (value : Value) :
    (self.set attr.key value).1 = .ok () ↔
      value.fits attr.type = true ∧ (value = .null → attr.nullable = true) := by
  have accepted : (self.set attr.key value).1 = .ok () ↔
      refusal? (Surface.planSetter model config attr) value = none := by
    rw [set, planned, setter?_of_mem config registered]
    simp only
    split
    · next error refused => exact iff_of_false nofun fun free => nomatch refused.symm.trans free
    · next free => exact iff_of_true rfl free
  have nullChecked : (Surface.planSetter model config attr).nullCheck = false ↔
      attr.nullable = true ∨ attr.type.isPrimitive = true := by
    show (!attr.nullable && !attr.type.isPrimitive) = false ↔ _
    cases attr.nullable <;> simp
  rw [accepted, refusal?_eq_none_iff, nullChecked, Value.isNull_iff]
  -- null does not fit a primitive type, so only the nullable ones take it
  refine and_congr_right fun fitting =>
    ⟨fun unchecked null => ?_, fun allowed null => Or.inl (allowed null)⟩
  refine (unchecked null).resolve_right fun primitive => ?_
  exact (Value.primitive_of_fits fitting primitive).1 null

/-! ### All values -/

/-- All values of the instance fit the types of their keys. -/
def AllFit (self : Instance) : Prop :=
  ∀ key value, self.get? key = some value → value.fits key.type = true

namespace AllFit

variable {self : Instance}

theorem assign (allFit : self.AllFit) {key : AttributeKey} {value : Value}
    (fitting : value.fits key.type = true) : (self.assign key value).AllFit := by
  intro other found there
  have before := allFit other found
  grind

/-- Assignments of values that fit keep all values fitting. -/
theorem foldl_assign {α : Type} (key : α → AttributeKey) (value : α → Value) {steps : List α}
    (allFit : self.AllFit) (fitting : ∀ step ∈ steps, (value step).fits (key step).type = true) :
    (steps.foldl (fun self step => self.assign (key step) (value step)) self).AllFit := by
  induction steps generalizing self with
  | nil => exact allFit
  | cons step steps ih =>
    obtain ⟨first, others⟩ := List.forall_mem_cons.mp fitting
    exact ih (allFit.assign first) others

/-- A setter that accepts a value keeps all values fitting: those that it clears get the zero values of
their types. -/
theorem apply (allFit : self.AllFit) {setter : SetterPlan} {value : Value}
    (accepted : refusal? setter value = none) : (self.apply setter value).AllFit := by
  have cleared : (setter.clears.foldl (fun self key => self.assign key key.type.zeroValue) self).AllFit :=
    foldl_assign id (·.type.zeroValue) allFit fun key _ => Value.zeroValue_fits key.type
  exact cleared.assign (refusal?_eq_none_iff.mp accepted).1

/-- A reset to values that fit keeps all values fitting. -/
theorem reset (allFit : self.AllFit)
    (suited : ∀ step ∈ self.surface.reset, step.value.value.fits step.key.type = true) :
    self.reset.AllFit :=
  foldl_assign ResetStep.key (·.value.value) allFit suited

end AllFit

/-! ### Histories -/

/-- All values fit, and no attribute of the model is without a value. -/
structure Fitting (model : Model) (self : Instance) : Prop where
  allFit : self.AllFit
  filled : ∀ attr ∈ model.attributes, ∃ value, self.get? attr.key = some value

section Histories

variable {model : Model} (suited : ∀ attr ∈ model.attributes,
  (Surface.resetValue model attr).value.fits attr.type = true)
include suited

theorem fitting_reset {config : Config} {self : Instance} (planned : self.surface = .plan model config)
    (allFit : self.AllFit) : Fitting model self.reset where
  allFit := by
    refine allFit.reset fun step listed => ?_
    rw [planned] at listed
    obtain ⟨attr, registered, rfl⟩ := List.mem_map.mp listed
    exact suited attr registered
  filled attr registered := ⟨_, get?_reset planned registered⟩

/-- A new instance has no values before its first reset. -/
theorem fitting_ofModel (config : Config) : Fitting model (ofModel model config) := by
  refine fitting_reset suited (show _ = Surface.plan model config from rfl) fun key value there => ?_
  cases there

theorem Effect.fitting {config : Config} {self after : Instance} (planned : self.surface = .plan model config)
    (effect : Effect self after) (fitting : Fitting model self) : Fitting model after := by
  obtain ⟨allFit, filled⟩ := fitting
  cases effect with
  | kept _ sameValues =>
    exact ⟨fun key value there => allFit key value (get?_congr sameValues key ▸ there),
      fun attr registered => get?_congr sameValues attr.key ▸ filled attr registered⟩
  | @applied key setter value found accepted =>
    refine ⟨allFit.apply accepted, fun attr registered => ?_⟩
    have before := filled attr registered
    grind
  | reset => exact fitting_reset suited planned allFit

/-- All values fit after every history of calls. -/
theorem Reachable.fitting {config : Config} {self : Instance} (reachable : self.Reachable model config) :
    Fitting model self := by
  induction reachable with
  | ofModel => exact fitting_ofModel suited _
  | call call history ih => exact (call_effect _ call).fitting suited history.surface_eq ih

/-- **Values keep fitting the types of their attributes.** If the planned reset values fit, then after every
history of calls each attribute has a value that fits its type, so that a primitive one never holds null, a
text or a callback. A value is accepted exactly if it fits, null only for a nullable attribute; and after a
refused call the instance has all the values that it had before. -/
theorem values_fit (config : Config) (calls : List Call) :
    let self := (ofModel model config).run calls
    (∀ attr ∈ model.attributes, ∃ value, self.get? attr.key = some value ∧ value.fits attr.type = true ∧
        (attr.type.isPrimitive = true →
          value ≠ .null ∧ (∀ text, value ≠ .str text) ∧ ∀ identity, value ≠ .callback identity)) ∧
      (∀ attr ∈ model.attributes, ∀ value, (self.set attr.key value).1 = .ok () ↔
        value.fits attr.type = true ∧ (value = .null → attr.nullable = true)) ∧
      ∀ call error, (self.call call).1 = .error error → (self.call call).2 = self := by
  intro self
  have reachable : self.Reachable model config := Reachable.run .ofModel calls
  obtain ⟨allFit, filled⟩ := reachable.fitting suited
  refine ⟨fun attr registered => ?_, fun attr registered => accepted_iff reachable.surface_eq registered,
    fun call error => call_refused⟩
  obtain ⟨value, there⟩ := filled attr registered
  have fits := allFit attr.key value there
  exact ⟨value, there, fits, Value.primitive_of_fits fits⟩

end Histories

/-- The flag of a card stays a truth value, also when the listener takes it back; a text is refused and
changes nothing, and the title takes no null. -/
theorem values_fit_card :
    let calls : List Call := [.set Model.clickableKey (.bool true), .setNamed "clickable" .null,
      .set Model.listenerKey (.callback 7)]
    let self := (ofModel Model.cardModel {}).run calls
    (∀ attr ∈ Model.cardModel.attributes,
        (Surface.resetValue Model.cardModel attr).value.fits attr.type = true) ∧
      (∃ value, self.get? Model.clickableKey = some value ∧ value.fits (.raw "boolean") = true ∧
        value ≠ .null) ∧
      (self.set Model.clickableKey (.str "yes")).2 = self ∧
      (self.set Model.titleKey .null).1 ≠ .ok () := by
  intro calls self
  have suited : ∀ attr ∈ Model.cardModel.attributes,
      (Surface.resetValue Model.cardModel attr).value.fits attr.type = true := by decide +kernel
  have clickable : { Attribute.ofKey Model.clickableKey with group? := some "click" } ∈
      Model.cardModel.attributes := by decide
  have title : Attribute.ofKey Model.titleKey ∈ Model.cardModel.attributes := by decide
  have ⟨fitting, accepted, refused⟩ := values_fit suited {} calls
  obtain ⟨value, there, fits, primitive⟩ := fitting _ clickable
  refine ⟨suited, ⟨value, there, fits, (primitive (by decide)).1⟩, ?_, fun taken => ?_⟩
  · exact refused (.set Model.clickableKey (.str "yes"))
      (.typeMismatch "clickable" (.raw "boolean") "string") rfl
  · exact absurd (((accepted _ title .null).mp taken).2 rfl) (by decide)

end Instance

end ModelPlanner
