/-
**Histories of an instance.**

A history of an instance starts with a new instance of a model and goes on with calls: `set`,
`setNamed`, `reset` and `withSuperState`, whatever their outcome: `Instance.Reachable`.

* `get?_apply`: an accepted value is assigned to its own attribute, the zero value to the attributes
  that the setter clears, and no other attribute changes;
* `get?_reset`: a reset assigns to every attribute its planned value;
* `call_effect`: a call changes no value, or applies a setter to a value that it accepts, or resets;
* `call_frame`: a call changes neither the model nor what was planned for it, so a history keeps them:
  `Reachable.frame_eq`, `Reachable.surface_eq`.
-/

import ModelPlanner.Instance

namespace ModelPlanner.Instance

/-- What no call of an instance changes. -/
structure Frame where
  model : Model
  surface : Surface
  multiplier : Int32

/-- The frame of an instance. -/
def frame (self : Instance) : Frame := ⟨self.model, self.surface, self.multiplier⟩

/-! ### Assignments -/

/-- Assigning a value to a key changes what is found under this key only. -/
@[simp, grind =]
theorem get?_assign (self : Instance) (key : AttributeKey) (value : Value) (other : AttributeKey) :
    (self.assign key value).get? other = if other = key then some value else self.get? other := by
  simp only [get?, assign, Keyed.get?_put]
  split <;> rfl

theorem get?_congr {first second : Instance} (same : first.values = second.values)
    (key : AttributeKey) : first.get? key = second.get? key := by
  rw [get?, same, get?]

section Assignments

variable {α : Type} (key : α → AttributeKey) (value : α → Value)

@[simp]
theorem foldl_assign_frame (steps : List α) (self : Instance) :
    (steps.foldl (fun self step => self.assign (key step) (value step)) self).frame =
      self.frame := by
  induction steps generalizing self with
  | nil => rfl
  | cons step steps ih => exact ih _

/-- What is found under a key after assignments that agree on its value. -/
theorem get?_foldl_assign (steps : List α) (self : Instance) (wanted : AttributeKey) (result : Value)
    (agree : ∀ step ∈ steps, key step = wanted → value step = result) :
    (steps.foldl (fun self step => self.assign (key step) (value step)) self).get? wanted =
      if wanted ∈ steps.map key then some result else self.get? wanted := by
  induction steps generalizing self with
  | nil => rfl
  | cons step steps ih =>
    obtain ⟨here, later⟩ := List.forall_mem_cons.mp agree
    rw [List.foldl_cons, ih _ later]
    grind

end Assignments

/-! ### Setting and resetting -/

/-- An applied setter assigns the value to its attribute and zero values to those it clears. -/
@[grind =]
theorem get?_apply (self : Instance) (setter : SetterPlan) (value : Value) (key : AttributeKey) :
    (self.apply setter value).get? key =
      if key = setter.key then some value
      else if key ∈ setter.clears then some key.type.zeroValue
      else self.get? key := by
  have cleared := get?_foldl_assign id (·.type.zeroValue) setter.clears self key key.type.zeroValue
    fun _ _ same => by rw [← same]; rfl
  rw [List.map_id] at cleared
  unfold apply
  rw [get?_assign]
  split
  · rfl
  · exact cleared

@[simp]
theorem apply_frame (self : Instance) (setter : SetterPlan) (value : Value) :
    (self.apply setter value).frame = self.frame :=
  foldl_assign_frame id (·.type.zeroValue) setter.clears self

@[simp]
theorem reset_frame (self : Instance) : self.reset.frame = self.frame :=
  foldl_assign_frame ResetStep.key (·.value.value) self.surface.reset self

/-- A reset assigns to every attribute of the model its planned value. -/
theorem get?_reset {self : Instance} {model : Model} {config : Config}
    (planned : self.surface = .plan model config) {attr : Attribute}
    (registered : attr ∈ model.attributes) :
    self.reset.get? attr.key = some (Surface.resetValue model attr).value := by
  have steps : self.surface.reset =
      model.attributes.map fun attr => ⟨attr.key, Surface.resetValue model attr⟩ := by
    rw [planned]
    rfl
  unfold reset
  rw [get?_foldl_assign ResetStep.key (·.value.value) self.surface.reset self attr.key
    (Surface.resetValue model attr).value, if_pos]
  · rw [steps, List.map_map]
    exact List.mem_map.mpr ⟨attr, registered, rfl⟩
  · -- no other attribute has the key
    intro step member same
    rw [steps] at member
    obtain ⟨other, otherRegistered, rfl⟩ := List.mem_map.mp member
    rw [Keyed.eq_of_key_eq otherRegistered registered same]

/-- The planned setter of a key is that of the registered attribute of this key. -/
theorem setter?_plan {model : Model} {config : Config} {key : AttributeKey} {setter : SetterPlan}
    (found : (Surface.plan model config).setter? key = some setter) :
    ∃ attr ∈ model.attributes, attr.key = key ∧ setter = Surface.planSetter model config attr := by
  have member : setter ∈ model.attributes.map (Surface.planSetter model config) :=
    List.mem_of_find?_eq_some found
  obtain ⟨attr, registered, rfl⟩ := List.mem_map.mp member
  have same : (Surface.planSetter model config attr).key = key := by
    simpa using List.find?_some found
  exact ⟨attr, registered, same, rfl⟩

/-- Setting a key is refused and changes nothing, or it applies the key's setter. -/
theorem set_cases (self : Instance) (key : AttributeKey) (value : Value) :
    (∃ error, self.set key value = (.error error, self)) ∨
      ∃ setter, self.surface.setter? key = some setter ∧ refusal? setter value = none ∧
        self.set key value = (.ok (), self.apply setter value) := by
  unfold set
  cases found : self.surface.setter? key with
  | none => exact Or.inl ⟨_, rfl⟩
  | some setter =>
    simp only
    cases refused : refusal? setter value with
    | some error => exact Or.inl ⟨error, rfl⟩
    | none => exact Or.inr ⟨setter, rfl, refused, rfl⟩

/-- Setting a name is refused and changes nothing, or it sets the only key of this name. -/
theorem setNamed_cases (self : Instance) (name : String) (value : Value) :
    (∃ error, self.setNamed name value = (.error error, self)) ∨
      ∃ key, self.uniqueKey? name = some key ∧ self.setNamed name value = self.set key value := by
  unfold setNamed
  cases found : self.uniqueKey? name with
  | none => exact Or.inl ⟨_, rfl⟩
  | some key => exact Or.inr ⟨key, rfl, rfl⟩

/-! ### Histories -/

/-- A call of an instance. -/
inductive Call where
  | set (key : AttributeKey) (value : Value)
  | setNamed (name : String) (value : Value)
  | reset
  | withSuperState (superState : SuperState)

/-- Carries out a call. -/
def call (self : Instance) : Call → Except SetError Unit × Instance
  | .set key value => self.set key value
  | .setNamed name value => self.setNamed name value
  | .reset => (.ok (), self.reset)
  | .withSuperState superState => (.ok (), self.withSuperState superState)

/-- An instance of a model with a history. -/
inductive Reachable (model : Model) (config : Config) : Instance → Prop
  | ofModel : Reachable model config (.ofModel model config)
  | call {self : Instance} (call : Call) :
      Reachable model config self → Reachable model config (self.call call).2

/-- What a call does to an instance: it changes no value, or applies a setter to a value that it
accepts, or resets. -/
inductive Effect (self : Instance) : Instance → Prop
  | kept {after : Instance} :
      after.surface = self.surface → after.values = self.values → Effect self after
  | applied {key : AttributeKey} {setter : SetterPlan} {value : Value} :
      self.surface.setter? key = some setter → refusal? setter value = none →
        Effect self (self.apply setter value)
  | reset : Effect self self.reset

theorem set_effect (self : Instance) (key : AttributeKey) (value : Value) :
    Effect self (self.set key value).2 := by
  rcases set_cases self key value with ⟨error, refused⟩ | ⟨setter, found, fits, accepted⟩
  · rw [refused]
    exact .kept rfl rfl
  · rw [accepted]
    exact .applied found fits

/-- **Every call has one of the effects.** -/
theorem call_effect (self : Instance) (call : Call) : Effect self (self.call call).2 := by
  cases call with
  | set key value => exact set_effect self key value
  | setNamed name value =>
    show Effect self (self.setNamed name value).2
    rcases setNamed_cases self name value with ⟨error, refused⟩ | ⟨key, _, accepted⟩
    · rw [refused]
      exact .kept rfl rfl
    · rw [accepted]
      exact set_effect self key value
  | reset => exact .reset
  | withSuperState => exact .kept rfl rfl

@[simp]
theorem set_frame (self : Instance) (key : AttributeKey) (value : Value) :
    (self.set key value).2.frame = self.frame := by
  rcases set_cases self key value with ⟨error, refused⟩ | ⟨setter, _, _, accepted⟩
  · rw [refused]
  · simp [accepted]

/-- A call keeps the frame. -/
@[simp]
theorem call_frame (self : Instance) (call : Call) : (self.call call).2.frame = self.frame := by
  cases call with
  | set key value => exact set_frame self key value
  | setNamed name value =>
    rcases setNamed_cases self name value with ⟨error, refused⟩ | ⟨key, _, accepted⟩
    · simp [call, refused]
    · simp [call, accepted]
  | reset => exact reset_frame self
  | withSuperState => rfl

@[simp]
theorem call_surface (self : Instance) (call : Call) : (self.call call).2.surface = self.surface :=
  congrArg Frame.surface (call_frame self call)

/-- A history keeps what was planned for the model. -/
theorem Reachable.frame_eq {model : Model} {config : Config} {self : Instance}
    (reachable : self.Reachable model config) :
    self.frame = ⟨model, .plan model config, config.hashMultiplier⟩ := by
  induction reachable with
  | ofModel => exact reset_frame _
  | @call self call _ ih => exact (call_frame self call).trans ih

theorem Reachable.surface_eq {model : Model} {config : Config} {self : Instance}
    (reachable : self.Reachable model config) : self.surface = .plan model config :=
  congrArg Frame.surface reachable.frame_eq

end ModelPlanner.Instance
