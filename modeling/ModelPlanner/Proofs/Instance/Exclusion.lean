/-
**The members of a group exclude each other.**

In an instance of a reachable model at most one member of each group holds another value than the zero
value of its type (`Exclusive`).

* `exclusive_reset`: a reset gives the zero value to all members but the default;
* `exclusive_apply`: a setter gives it to the other members of the group of its attribute, and touches
  no other group;
* `Reachable.exclusive`: hence it holds after every history of calls.
-/

import ModelPlanner.Proofs.Instance.Calls
import ModelPlanner.Proofs.Model.Links

namespace ModelPlanner.Instance

/-- At most one member of the group holds another value than the zero value of its type. -/
def Exclusive (self : Instance) (group : Group) : Prop :=
  ∀ first ∈ group.members, ∀ second ∈ group.members,
    self.get? first ≠ some first.type.zeroValue → self.get? second ≠ some second.type.zeroValue →
      first = second

/-- A setter sets the attribute of its key. -/
theorem key_of_setter? {model : Model} {config : Config} {self : Instance}
    (planned : self.surface = .plan model config) {key : AttributeKey} {setter : SetterPlan}
    (found : self.surface.setter? key = some setter) : setter.key = key := by
  rw [planned] at found
  obtain ⟨attr, _, same, rfl⟩ := setter?_plan found
  exact same

section Exclusion

variable {model : Model} (linked : Model.Linked model.registry model.groups)
variable {group : Group} (grouped : group ∈ model.groups.entries)
variable {config : Config} {self : Instance} (planned : self.surface = .plan model config)
include linked grouped planned

/-! ### Resetting -/

/-- A member that a reset gives another value than zero is the default of its group. -/
theorem default_of_reset_ne {key : AttributeKey} (member : key ∈ group.members)
    (differs : self.reset.get? key ≠ some key.type.zeroValue) : group.default? = some key := by
  obtain ⟨attr, registered, rfl⟩ := Model.exists_of_mem_group linked grouped member
  have found : model.groupOf? attr.key = some group :=
    (Model.groupOf?_eq_some_iff linked).mpr ⟨grouped, member⟩
  rw [get?_reset planned registered, Surface.resetValue, found] at differs
  by_cases default : group.default? = some attr.key
  · exact default
  · refine absurd ?_ differs
    simp only [if_neg default]
    rfl

/-- Directly after a reset the members of a group exclude each other. -/
theorem exclusive_reset : self.reset.Exclusive group := by
  intro first firstMember second secondMember firstDiffers secondDiffers
  have one := default_of_reset_ne linked grouped planned firstMember firstDiffers
  rw [default_of_reset_ne linked grouped planned secondMember secondDiffers] at one
  exact (Option.some.inj one).symm

/-! ### Setting -/

section Setting

variable {key : AttributeKey} {setter : SetterPlan} {value : Value}
variable (found : self.surface.setter? key = some setter)
include found

/-- A member of a group is cleared exactly by the setters of the other members. -/
theorem mem_clears_iff {other : AttributeKey} (member : other ∈ group.members) :
    other ∈ setter.clears ↔ other ≠ key ∧ key ∈ group.members := by
  rw [planned] at found
  obtain ⟨attr, _, rfl, rfl⟩ := setter?_plan found
  rw [Model.mem_clears linked]
  constructor
  · rintro ⟨different, listing, listingGrouped, inListing, sibling⟩
    rw [Model.eq_of_mem_groups linked grouped listingGrouped member sibling]
    exact ⟨different, inListing⟩
  · rintro ⟨different, inGroup⟩
    exact ⟨different, group, grouped, inGroup, member⟩

/-- An applied setter gives the other members of its attribute's group the zero value. -/
theorem get?_apply_sibling (inGroup : key ∈ group.members) {other : AttributeKey}
    (member : other ∈ group.members) (different : other ≠ key) :
    (self.apply setter value).get? other = some other.type.zeroValue := by
  have cleared : other ∈ setter.clears :=
    (mem_clears_iff linked grouped planned found member).mpr ⟨different, inGroup⟩
  simp [get?_apply, key_of_setter? planned found, different, cleared]

/-- An applied setter does not touch the members of a group without its attribute. -/
theorem get?_apply_outside (outside : key ∉ group.members) {other : AttributeKey}
    (member : other ∈ group.members) : (self.apply setter value).get? other = self.get? other := by
  have kept : other ∉ setter.clears := fun cleared =>
    outside ((mem_clears_iff linked grouped planned found member).mp cleared).2
  have different : other ≠ key := fun same => outside (same ▸ member)
  simp [get?_apply, key_of_setter? planned found, different, kept]

/-- Applying a setter keeps the members of a group exclusive. -/
theorem exclusive_apply (exclusive : self.Exclusive group) :
    (self.apply setter value).Exclusive group := by
  intro first firstMember second secondMember firstDiffers secondDiffers
  by_cases inGroup : key ∈ group.members
  · have only : ∀ other ∈ group.members,
        (self.apply setter value).get? other ≠ some other.type.zeroValue → other = key := by
      intro other member differs
      by_cases same : other = key
      · exact same
      · exact absurd (get?_apply_sibling linked grouped planned found inGroup member same) differs
    rw [only first firstMember firstDiffers, only second secondMember secondDiffers]
  · rw [get?_apply_outside linked grouped planned found inGroup firstMember] at firstDiffers
    rw [get?_apply_outside linked grouped planned found inGroup secondMember] at secondDiffers
    exact exclusive first firstMember second secondMember firstDiffers secondDiffers

end Setting

/-- Every effect of a call keeps the members of a group exclusive. -/
theorem Effect.exclusive {after : Instance} (effect : Effect self after)
    (exclusive : self.Exclusive group) : after.Exclusive group := by
  cases effect with
  | kept _ sameValues =>
    unfold Exclusive
    simp only [get?_congr sameValues]
    exact exclusive
  | applied found _ => exact exclusive_apply linked grouped planned found exclusive
  | reset => exact exclusive_reset linked grouped planned

end Exclusion

/-- The members of a group exclude each other after every history of calls. -/
theorem Reachable.exclusive {model : Model} (linked : Model.Linked model.registry model.groups)
    {group : Group} (grouped : group ∈ model.groups.entries) {config : Config} {self : Instance}
    (reachable : self.Reachable model config) : self.Exclusive group := by
  induction reachable with
  | ofModel => exact exclusive_reset linked grouped (show _ = Surface.plan model config from rfl)
  | call call history ih => exact (call_effect _ call).exclusive linked grouped history.surface_eq ih

/-- **Group exclusivity.** In every instance that calls lead to, of every model that edits lead to, each
group has at most one member whose value is not the zero value of its type; and directly after an
accepted assignment to a member, all other members hold it. -/
theorem group_exclusive {model : Model} (built : model.Reachable) (config : Config) {self : Instance}
    (called : self.Reachable model config) {group : Group} (grouped : group ∈ model.groups.entries) :
    self.Exclusive group ∧
      ∀ key ∈ group.members, ∀ value, (self.set key value).1 = .ok () →
        ∀ other ∈ group.members, other ≠ key →
          (self.set key value).2.get? other = some other.type.zeroValue := by
  refine ⟨called.exclusive built.linked grouped, fun key inGroup value accepted other member
    different => ?_⟩
  rcases set_cases self key value with ⟨error, refused⟩ | ⟨setter, found, _, applied⟩
  · rw [refused] at accepted
    cases accepted
  · rw [applied]
    exact get?_apply_sibling built.linked grouped called.surface_eq found inGroup member different

/-- On a card that was made clickable, setting the listener takes the flag back. -/
theorem group_exclusive_card :
    let self := ((ofModel Model.cardModel {}).call (.set Model.clickableKey (.bool true))).2
    self.get? Model.clickableKey = some (.bool true) ∧
      (self.set Model.listenerKey (.callback 7)).2.get? Model.clickableKey = some (.bool false) := by
  intro self
  have called : self.Reachable Model.cardModel {} := .call _ .ofModel
  have grouped : (⟨"click", [Model.listenerKey, Model.clickableKey], Model.listenerKey⟩ : Group)
      ∈ Model.cardModel.groups.entries := by decide
  have cleared := (group_exclusive Model.cardModel_reachable {} called grouped).2
  exact ⟨rfl, cleared Model.listenerKey (by decide) (.callback 7) rfl Model.clickableKey (by decide)
    (by decide)⟩

end ModelPlanner.Instance
