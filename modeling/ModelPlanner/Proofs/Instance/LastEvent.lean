/-
**The last event that concerns an attribute.**

The events of a history are its accepted assignments and its resets, and the construction is a reset. An
assignment concerns its own attribute and the other members of its group, a reset concerns all attributes.

* `call_events`: a call changes no value, or is an event that applies a setter, or one that resets;
* `get?_apply_of_event`: an applied setter leaves in an attribute that it concerns its value or the zero
  value, and touches no other attribute;
* `Determined`, `determined_run`: after every history the keys are those of the model, in the order of their
  registration, and the last event that concerns an attribute determines its value;
* `entries_eq`: an instance with the keys of its model is the list of their values, so a reset gives the
  values of a new instance.
-/

import ModelPlanner.Proofs.Instance.Exclusion
import ModelPlanner.Proofs.Registry.Merge

namespace ModelPlanner.Instance

/-- What an accepted call does to the attributes of an instance. -/
inductive Event where
  | set (key : AttributeKey) (value : Value)
  | reset
deriving DecidableEq

/-- The event concerns the attribute of a key: it sets this attribute or another member of its group, or
it resets all attributes. -/
def Event.Concerns (model : Model) (key : AttributeKey) : Event → Prop
  | .set other _ =>
    other = key ∨ ∃ group ∈ model.groups.entries, other ∈ group.members ∧ key ∈ group.members
  | .reset => True

instance (model : Model) (key : AttributeKey) : DecidablePred (Event.Concerns model key)
  | .set other _ => inferInstanceAs (Decidable (other = key ∨ _))
  | .reset => isTrue trivial

/-- The value that an event leaves in an attribute that it concerns: the value that it sets, the zero value
if it sets another member of the group, the planned value if it resets. -/
def Event.leaves (model : Model) (attr : Attribute) : Event → Value
  | .set key value => if key = attr.key then value else attr.type.zeroValue
  | .reset => (Surface.resetValue model attr).value

/-- The last event that concerns the attribute of a key. -/
def lastEvent? (model : Model) (events : List Event) (key : AttributeKey) : Option Event :=
  (events.filter (·.Concerns model key)).getLast?

theorem lastEvent?_concat {model : Model} {events : List Event} {event : Event} {key : AttributeKey} :
    lastEvent? model (events ++ [event]) key =
      if event.Concerns model key then some event else lastEvent? model events key := by
  unfold lastEvent?
  rw [List.filter_append]
  split
  · next concerned =>
    rw [List.filter_cons_of_pos (by simpa using concerned), List.filter_nil, List.getLast?_concat]
  · next other =>
    rw [List.filter_cons_of_neg (by simpa using other), List.filter_nil, List.append_nil]

/-! ### The events of a history -/

/-- The event that a call is, if it is accepted and concerns attributes. -/
def event? (self : Instance) : Call → Option Event
  | .set key value =>
    match (self.set key value).1 with
    | .ok () => some (.set key value)
    | .error _ => none
  | .setNamed name value =>
    match (self.setNamed name value).1 with
    | .ok () => (self.uniqueKey? name).map (.set · value)
    | .error _ => none
  | .reset => some .reset
  | .withSuperState _ => none

/-- The instance after calls. -/
def run (self : Instance) (calls : List Call) : Instance :=
  calls.foldl (fun self call => (self.call call).2) self

/-- The events of calls. -/
def events (self : Instance) : List Call → List Event
  | [] => []
  | call :: calls => (self.event? call).toList ++ (self.call call).2.events calls

/-- A refused call changes nothing. -/
theorem call_refused {self : Instance} {call : Call} {error : SetError}
    (refused : (self.call call).1 = .error error) : (self.call call).2 = self := by
  have unset : ∀ key value, (self.set key value).1 = .error error → (self.set key value).2 = self := by
    intro key value refused
    rcases set_cases self key value with ⟨_, stopped⟩ | ⟨_, _, _, accepted⟩
    · rw [stopped]
    · rw [accepted] at refused
      cases refused
  cases call with
  | set key value => exact unset key value refused
  | setNamed name value =>
    change (self.setNamed name value).1 = .error error at refused
    show (self.setNamed name value).2 = self
    rcases setNamed_cases self name value with ⟨_, stopped⟩ | ⟨key, _, same⟩
    · rw [stopped]
    · rw [same] at refused ⊢
      exact unset key value refused
  | reset => cases refused
  | withSuperState => cases refused

/-- **A call is no event and changes no value, or it is one and applies a setter or resets.** -/
theorem call_events (self : Instance) (call : Call) :
    self.event? call = none ∧ (self.call call).2.values = self.values ∨
      (∃ key setter value, self.event? call = some (.set key value) ∧
        self.surface.setter? key = some setter ∧ (self.call call).2 = self.apply setter value) ∨
      self.event? call = some .reset ∧ (self.call call).2 = self.reset := by
  cases call with
  | set key value =>
    simp only [event?, Instance.call]
    rcases set_cases self key value with ⟨error, refused⟩ | ⟨setter, found, _, accepted⟩
    · rw [refused]
      exact Or.inl ⟨rfl, rfl⟩
    · rw [accepted]
      exact Or.inr (Or.inl ⟨key, setter, value, rfl, found, rfl⟩)
  | setNamed name value =>
    simp only [event?, Instance.call]
    rcases setNamed_cases self name value with ⟨error, refused⟩ | ⟨key, unique, same⟩
    · rw [refused]
      exact Or.inl ⟨rfl, rfl⟩
    · rw [same, unique]
      rcases set_cases self key value with ⟨error, refused⟩ | ⟨setter, found, _, accepted⟩
      · rw [refused]
        exact Or.inl ⟨rfl, rfl⟩
      · rw [accepted]
        exact Or.inr (Or.inl ⟨key, setter, value, rfl, found, rfl⟩)
  | reset => exact Or.inr (Or.inr ⟨rfl, rfl⟩)
  | withSuperState => exact Or.inl ⟨rfl, rfl⟩

/-! ### Keys -/

@[grind =]
theorem keys_assign (self : Instance) (key : AttributeKey) (value : Value) :
    (self.assign key value).values.keys =
      if key ∈ self.values.keys then self.values.keys else self.values.keys ++ [key] :=
  Keyed.keys_put self.values ⟨key, value⟩

section Assignments

variable {α : Type} (key : α → AttributeKey) (value : α → Value)

/-- Assignments to keys that are there keep the keys. -/
theorem keys_foldl_assign_of_mem {steps : List α} {self : Instance}
    (there : ∀ step ∈ steps, key step ∈ self.values.keys) :
    (steps.foldl (fun self step => self.assign (key step) (value step)) self).values.keys =
      self.values.keys := by
  induction steps generalizing self with
  | nil => rfl
  | cons step steps ih =>
    obtain ⟨first, others⟩ := List.forall_mem_cons.mp there
    have same : (self.assign (key step) (value step)).values.keys = self.values.keys := by
      simp [keys_assign, first]
    rw [List.foldl_cons, ih (same ▸ others), same]

/-- Assignments to new keys add them in their order. -/
theorem keys_foldl_assign_of_nodup {steps : List α} {self : Instance}
    (fresh : (self.values.keys ++ steps.map key).Nodup) :
    (steps.foldl (fun self step => self.assign (key step) (value step)) self).values.keys =
      self.values.keys ++ steps.map key := by
  induction steps generalizing self with
  | nil => exact (List.append_nil _).symm
  | cons step steps ih =>
    have absent : key step ∉ self.values.keys := fun there =>
      (List.nodup_append.mp fresh).2.2 _ there _ List.mem_cons_self rfl
    have first : (self.assign (key step) (value step)).values.keys = self.values.keys ++ [key step] := by
      simp [keys_assign, absent]
    rw [List.map_cons, List.append_cons] at fresh ⊢
    rw [List.foldl_cons, ih (first ▸ fresh), first]

end Assignments

/-- An instance consists of the values of the attributes of its model, if it has no other keys. -/
theorem entries_eq {model : Model} {self : Instance} {result : Attribute → Value}
    (keys : self.values.keys = model.attributes.map (·.key))
    (values : ∀ attr ∈ model.attributes, self.get? attr.key = some (result attr)) :
    self.values.entries = model.attributes.map fun attr => ⟨attr.key, result attr⟩ := by
  rw [← Keyed.filterMap_get?_keys, keys, List.filterMap_map, ← List.filterMap_eq_map]
  refine List.filterMap_congr fun attr registered => ?_
  obtain ⟨slot, found, value⟩ := Option.map_eq_some_iff.mp (values attr registered)
  rw [Function.comp_apply, Function.comp_apply, found, ← value, ← Keyed.key_of_get? found]

/-! ### One event -/

section Planned

variable {model : Model} {config : Config} {self : Instance}
variable (planned : self.surface = .plan model config)
include planned

/-- The steps of a reset have the keys of the model. -/
theorem map_key_reset : self.surface.reset.map ResetStep.key = model.attributes.map (·.key) := by
  rw [planned]
  exact List.map_map

theorem keys_reset (same : self.values.keys = model.attributes.map (·.key)) :
    self.reset.values.keys = model.attributes.map (·.key) := by
  rw [← same]
  refine keys_foldl_assign_of_mem ResetStep.key (·.value.value) fun step listed => ?_
  rw [same, ← map_key_reset planned]
  exact List.mem_map_of_mem listed

variable (linked : Model.Linked model.registry model.groups)
include linked

section Setting

variable {key : AttributeKey} {setter : SetterPlan} {value : Value}
variable (found : self.surface.setter? key = some setter)
include found

/-- An applied setter leaves its value or the zero value in the attributes that it concerns, and touches
no other attribute. -/
theorem get?_apply_of_event (attr : Attribute) :
    (self.apply setter value).get? attr.key =
      if (Event.set key value).Concerns model attr.key then
        some ((Event.set key value).leaves model attr)
      else self.get? attr.key := by
  rw [get?_apply, key_of_setter? planned found]
  rw [planned] at found
  obtain ⟨owner, _, rfl, rfl⟩ := setter?_plan found
  by_cases same : attr.key = owner.key
  · have concerned : (Event.set owner.key value).Concerns model attr.key := Or.inl same.symm
    rw [if_pos same, if_pos concerned, Event.leaves, if_pos same.symm]
  · have cleared_iff : attr.key ∈ (Surface.planSetter model config owner).clears ↔
        (Event.set owner.key value).Concerns model attr.key :=
      (Model.mem_clears linked).trans
        ⟨fun cleared => Or.inr cleared.2, fun concerned => ⟨same, concerned.resolve_left (Ne.symm same)⟩⟩
    rw [if_neg same, Event.leaves, if_neg (Ne.symm same)]
    simp only [cleared_iff]
    rfl

/-- An applied setter assigns to keys of the model only. -/
theorem keys_apply (same : self.values.keys = model.attributes.map (·.key)) :
    (self.apply setter value).values.keys = model.attributes.map (·.key) := by
  rw [planned] at found
  obtain ⟨owner, registered, rfl, rfl⟩ := setter?_plan found
  have cleared : ∀ other ∈ (Surface.planSetter model config owner).clears,
      other ∈ self.values.keys := by
    intro other member
    obtain ⟨_, group, grouped, _, sibling⟩ := (Model.mem_clears linked).mp member
    obtain ⟨attr, there, rfl⟩ := Model.exists_of_mem_group linked grouped sibling
    rw [same]
    exact List.mem_map_of_mem there
  have kept := keys_foldl_assign_of_mem id (·.type.zeroValue) cleared
  unfold apply
  rw [keys_assign]
  simp only [id] at kept
  rw [kept, same, if_pos]
  exact List.mem_map_of_mem registered

end Setting

end Planned

/-! ### Histories -/

/-- The instance has the keys of its model, and every attribute the value that the last event that
concerns it leaves. -/
structure Determined (model : Model) (reached : Instance) (events : List Event) : Prop where
  keys_eq : reached.values.keys = model.attributes.map (·.key)
  values_eq : ∀ attr ∈ model.attributes, ∃ event, lastEvent? model events attr.key = some event ∧
    reached.get? attr.key = some (event.leaves model attr)

/-- The construction is a reset. -/
theorem determined_ofModel (model : Model) (config : Config) :
    Determined model (ofModel model config) [.reset] where
  keys_eq := by
    have planned : (Surface.plan model config).reset.map ResetStep.key =
        model.attributes.map (·.key) := List.map_map
    refine (keys_foldl_assign_of_nodup ResetStep.key (·.value.value) ?_).trans planned
    show ((Surface.plan model config).reset.map ResetStep.key).Nodup
    rw [planned]
    exact model.registry.attributes.distinct
  values_eq attr registered :=
    ⟨.reset, rfl, get?_reset (show _ = Surface.plan model config from rfl) registered⟩

section Histories

variable {model : Model} {config : Config} {self : Instance} {events : List Event}
variable (linked : Model.Linked model.registry model.groups)
include linked

/-- A call goes on with the events. -/
theorem determined_call (planned : self.surface = .plan model config)
    (determined : Determined model self events) (call : Call) :
    Determined model (self.call call).2 (events ++ (self.event? call).toList) := by
  obtain ⟨keys, values⟩ := determined
  rcases call_events self call with
    ⟨silent, same⟩ | ⟨key, setter, value, one, found, after⟩ | ⟨one, after⟩
  · rw [silent, Option.toList_none, List.append_nil]
    refine ⟨same ▸ keys, fun attr registered => ?_⟩
    obtain ⟨event, last, there⟩ := values attr registered
    exact ⟨event, last, (get?_congr same attr.key).trans there⟩
  · rw [one, after, Option.toList_some]
    refine ⟨keys_apply planned linked found keys, fun attr registered => ?_⟩
    rw [get?_apply_of_event planned linked found, lastEvent?_concat]
    split
    · exact ⟨_, rfl, rfl⟩
    · exact values attr registered
  · rw [one, after, Option.toList_some]
    refine ⟨keys_reset planned keys, fun attr registered => ?_⟩
    rw [get?_reset planned registered, lastEvent?_concat,
      if_pos (show Event.reset.Concerns model attr.key from trivial)]
    exact ⟨.reset, rfl, rfl⟩

/-- A history goes on with the events. -/
theorem determined_run (planned : self.surface = .plan model config)
    (determined : Determined model self events) (calls : List Call) :
    Determined model (self.run calls) (events ++ self.events calls) := by
  induction calls generalizing self events with
  | nil =>
    show Determined model self (events ++ [])
    rw [List.append_nil]
    exact determined
  | cons call calls ih =>
    have same : (self.call call).2.surface = .plan model config := by simp [planned]
    show Determined model ((self.call call).2.run calls)
      (events ++ ((self.event? call).toList ++ (self.call call).2.events calls))
    rw [← List.append_assoc]
    exact ih same (determined_call linked planned determined call)

end Histories

theorem Reachable.run {model : Model} {config : Config} {self : Instance}
    (reachable : self.Reachable model config) (calls : List Call) :
    (self.run calls).Reachable model config := by
  induction calls generalizing self with
  | nil => exact reachable
  | cons call calls ih => exact ih (.call call reachable)

/-- **The last event that concerns an attribute determines its value.** After every history of calls on a
new instance of a reachable model, the stored keys are those of the model's attributes in the order of
their registration; every attribute has the value that the last event that concerns it leaves, where the
construction is a reset; a refused call changes nothing; and a reset gives the values of a new instance. -/
theorem value_of_last_event {model : Model} (built : model.Reachable) (config : Config)
    (calls : List Call) :
    let self := (ofModel model config).run calls
    let events := .reset :: (ofModel model config).events calls
    self.values.keys = model.attributes.map (·.key) ∧
      (∀ attr ∈ model.attributes, ∃ event, lastEvent? model events attr.key = some event ∧
        self.get? attr.key = some (event.leaves model attr)) ∧
      (∀ call error, (self.call call).1 = .error error → (self.call call).2 = self) ∧
      self.reset.values = (ofModel model config).values := by
  intro self events
  have linked := built.linked
  have start := determined_ofModel model config
  have determined : Determined model self events :=
    determined_run linked (Reachable.surface_eq .ofModel) start calls
  have planned : self.surface = .plan model config := (Reachable.run .ofModel calls).surface_eq
  refine ⟨determined.keys_eq, determined.values_eq, fun call error => call_refused, Keyed.ext ?_⟩
  rw [entries_eq (keys_reset planned determined.keys_eq) fun attr => get?_reset planned]
  refine (entries_eq start.keys_eq fun attr registered => ?_).symm
  exact get?_reset (show _ = Surface.plan model config from rfl) registered

/-- On the card an assignment to the title by its name stays, although a later one to its key is refused;
the flag that was set is taken back by the listener, and a reset brings back what a new card has. -/
theorem value_of_last_event_card :
    let calls : List Call := [.set Model.clickableKey (.bool true), .setNamed "title" (.str "news"),
      .set Model.titleKey .null, .set Model.listenerKey (.callback 7)]
    let self := (ofModel Model.cardModel {}).run calls
    self.values.keys = [Model.listenerKey, Model.clickableKey, Model.titleKey] ∧
      self.get? Model.clickableKey = some (.bool false) ∧
      self.get? Model.titleKey = some (.str "news") ∧
      self.reset.values = (ofModel Model.cardModel {}).values := by
  intro calls self
  have events : (ofModel Model.cardModel {}).events calls = [.set Model.clickableKey (.bool true),
      .set Model.titleKey (.str "news"), .set Model.listenerKey (.callback 7)] := by decide +kernel
  have ⟨keys, values, _, again⟩ := value_of_last_event Model.cardModel_reachable {} calls
  have clickable : { Attribute.ofKey Model.clickableKey with group? := some "click" } ∈
      Model.cardModel.attributes := by decide
  have title : Attribute.ofKey Model.titleKey ∈ Model.cardModel.attributes := by decide
  obtain ⟨taken, lastTaken, clickableValue⟩ := values _ clickable
  obtain ⟨named, lastNamed, titleValue⟩ := values _ title
  have byListener : lastEvent? Model.cardModel (.reset :: (ofModel Model.cardModel {}).events calls)
      Model.clickableKey = some (.set Model.listenerKey (.callback 7)) := by
    rw [events]
    decide +kernel
  have byName : lastEvent? Model.cardModel (.reset :: (ofModel Model.cardModel {}).events calls)
      Model.titleKey = some (.set Model.titleKey (.str "news")) := by
    rw [events]
    decide +kernel
  cases byListener.symm.trans lastTaken
  cases byName.symm.trans lastNamed
  exact ⟨keys, clickableValue, titleValue, again⟩

end ModelPlanner.Instance
