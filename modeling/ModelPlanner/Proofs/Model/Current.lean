/-
**Groups and the data of their members.**

A group is resolved when it is made. An attribute that is registered anew later keeps its group, and the
group keeps its default, whatever the new data are. `Current` says that a group is what its members
resolve to now.

* `current_of_resolveGroup`, `current_linkGroup`: a group is current when it is made, and making one
  changes no other;
* `ungrouped_attribute?_edit`: what data an accepted edit leaves a registered attribute with;
* `allCurrent_edit_iff`: an edit keeps all groups current unless it outdates one (`Edit.Outdates`): it is
  accepted although the members of the group resolve otherwise after it;
* `groups_current_iff`: the groups of a history are current all along if no edit outdates one.
-/

import ModelPlanner.Proofs.Model.Election
import ModelPlanner.Proofs.Model.Links
import ModelPlanner.Proofs.Registry.Merge

namespace ModelPlanner

/-- Inserting attributes gives a key the last of them that has it, the group aside. -/
theorem Registry.ungrouped_get?_foldl_insert (registry : Registry) {attrs : List Attribute}
    (ungrouped : ∀ attr ∈ attrs, attr.group? = none) (key : AttributeKey) :
    ((attrs.foldl insert registry).get? key).map Attribute.ungrouped =
      (attrs.reverse.find? (·.key == key)).or ((registry.get? key).map Attribute.ungrouped) := by
  induction attrs generalizing registry with
  | nil => rfl
  | cons attr attrs ih =>
    obtain ⟨first, others⟩ := List.forall_mem_cons.mp ungrouped
    have inserted : (if key = attr.key then some attr
          else (registry.get? key).map Attribute.ungrouped) =
        ([attr].find? (·.key == key)).or ((registry.get? key).map Attribute.ungrouped) := by
      by_cases same : key = attr.key
      · simp [same]
      · simp [same, Ne.symm same]
    rw [List.foldl_cons, ih (registry.insert attr) others, ungrouped_get?_insert registry first,
      inserted, List.reverse_cons, List.find?_append, Option.or_assoc]

namespace Model

/-! ### The data of the members -/

/-- A group is current: at most one member contends for its default, and the group is what its members
resolve to. -/
def Current (model : Model) (group : Group) : Prop :=
  (group.members.filterMap model.attribute?).countP Group.isContender ≤ 1 ∧
    Group.resolve group.name (group.members.filterMap model.attribute?) = .ok group

/-- Every group is current. -/
def AllCurrent (model : Model) : Prop := ∀ group ∈ model.groups.entries, model.Current group

instance (model : Model) (group : Group) : Decidable (model.Current group) :=
  inferInstanceAs (Decidable (_ ∧ _))

instance (model : Model) : Decidable model.AllCurrent :=
  inferInstanceAs (Decidable (∀ group ∈ model.groups.entries, model.Current group))

theorem current_iff {model : Model} {group : Group} : model.Current group ↔
    Group.resolve group.name (group.members.filterMap model.attribute?) = .ok group :=
  ⟨And.right, fun resolved => ⟨Group.count_of_resolve resolved, resolved⟩⟩

/-- Keys with the same data in two ways resolve to the same group. -/
theorem resolve_data_congr (name : String) {keys : List AttributeKey}
    {first second : AttributeKey → Option Attribute}
    (same : ∀ key ∈ keys,
      (first key).map Attribute.ungrouped = (second key).map Attribute.ungrouped) :
    Group.resolve name (keys.filterMap first) = Group.resolve name (keys.filterMap second) := by
  refine Group.resolve_congr name ?_
  rw [List.map_filterMap, List.map_filterMap]
  refine List.filterMap_congr fun key member => ?_
  -- an election does not look at the group
  have candidacies : Group.candidacy ∘ Attribute.ungrouped = Group.candidacy := rfl
  have mapped := congrArg (Option.map Group.candidacy) (same key member)
  rwa [Option.map_map, Option.map_map, candidacies] at mapped

/-! ### Making a group -/

/-- Linking a group changes no data of attributes. -/
@[simp]
theorem ungrouped_attribute?_linkGroup (model : Model) (group : Group) (key : AttributeKey) :
    ((model.linkGroup group).attribute? key).map Attribute.ungrouped =
      (model.attribute? key).map Attribute.ungrouped := by
  simp only [attribute?, linkGroup, Registry.ungrouped_get?_regroup]

/-- Linking a group leaves a group what it is among the data of its members. -/
@[simp]
theorem current_linkGroup (model : Model) (made group : Group) :
    (model.linkGroup made).Current group ↔ model.Current group := by
  rw [current_iff, current_iff,
    resolve_data_congr group.name fun key _ => ungrouped_attribute?_linkGroup model made key]

theorem filterMap_of_mapM_memberFor {model : Model} {name : String} {keys : List AttributeKey}
    {members : List Attribute} (found : keys.mapM (model.memberFor name) = .ok members) :
    keys.filterMap model.attribute? = members := by
  induction keys generalizing members with
  | nil =>
    cases found
    rfl
  | cons key keys ih =>
    rw [List.mapM_cons] at found
    obtain ⟨attr, first, found⟩ := bind_eq_ok_iff.mp found
    obtain ⟨others, rest, found⟩ := bind_eq_ok_iff.mp found
    cases found
    rw [List.filterMap_cons_some (memberFor_ok first).1, ih rest]

/-- **A group that is made is current.** -/
theorem current_of_resolveGroup {model : Model} {name : String} {keys : List AttributeKey}
    {group : Group} (resolved : model.resolveGroup name keys = .ok group) : model.Current group := by
  obtain ⟨sameName, sameMembers, _⟩ := resolveGroup_parts resolved
  rw [current_iff, sameName, sameMembers]
  rw [resolveGroup_eq] at resolved
  obtain ⟨members, found, resolved⟩ := bind_eq_ok_iff.mp resolved
  rw [filterMap_of_mapM_memberFor found]
  exact resolved

theorem allCurrent_linkGroup {model : Model} {name : String} {keys : List AttributeKey}
    {group : Group} (current : model.AllCurrent)
    (resolved : model.resolveGroup name keys = .ok group) : (model.linkGroup group).AllCurrent := by
  intro other grouped
  rw [current_linkGroup]
  rcases Keyed.mem_put.mp grouped with rfl | ⟨old, _⟩
  · exact current_of_resolveGroup resolved
  · exact current other old

/-! ### One edit -/

/-- The attributes that an edit puts in the place of registered ones. -/
def Edit.replacements (model : Model) : Edit → List Attribute
  | .addAttribute attr => [attr]
  | .addAttributes attrs => attrs
  | .addIfAbsent _ => []
  | .addGroup _ _ => []
  | .setStyle style => [model.styleAttribute style]
  | .setAutoLayout _ => []

/-- What a registered key has once an edit is accepted, the group aside: the last replacement of the key,
or what it had. -/
def Edit.renewed? (edit : Edit) (model : Model) (key : AttributeKey) : Option Attribute :=
  ((edit.replacements model).reverse.find? (·.key == key)).or (model.attribute? key)

/-- The edit is accepted although the members of some group resolve otherwise after it. -/
def Edit.Outdates (edit : Edit) (model : Model) : Prop :=
  (model.edit edit).1 = .ok () ∧ ∃ group ∈ model.groups.entries,
    Group.resolve group.name (group.members.filterMap (edit.renewed? model)) ≠ .ok group

instance (edit : Edit) (model : Model) : Decidable (edit.Outdates model) :=
  inferInstanceAs (Decidable (_ ∧ _))

theorem replacements_ungrouped (model : Model) {edit : Edit} (built : edit.BringsBuilt) :
    ∀ attr ∈ edit.replacements model, attr.group? = none := by
  cases edit with
  | addAttribute attr =>
    intro other member
    rw [List.mem_singleton.mp member]
    exact Attribute.built_iff.mp built
  | addAttributes attrs => exact fun attr member => Attribute.built_iff.mp (built attr member)
  | setStyle style =>
    intro other member
    rw [List.mem_singleton.mp member]
    rfl
  | addIfAbsent => exact fun _ member => absurd member List.not_mem_nil
  | addGroup => exact fun _ member => absurd member List.not_mem_nil
  | setAutoLayout => exact fun _ member => absurd member List.not_mem_nil

/-- **What data an accepted edit leaves a registered attribute with.** -/
theorem ungrouped_attribute?_edit {model : Model} {edit : Edit} (built : edit.BringsBuilt)
    (accepted : (model.edit edit).1 = .ok ()) {key : AttributeKey}
    (registered : model.attribute? key ≠ none) :
    ((model.edit edit).2.attribute? key).map Attribute.ungrouped =
      (edit.renewed? model key).map Attribute.ungrouped := by
  have ungrouped := replacements_ungrouped model built
  -- an accepted batch comes in as a whole
  have batch : ∀ attrs : List Attribute, (∀ attr ∈ attrs, attr.group? = none) →
      (model.registry.addAll attrs).1 = .ok () →
      ((model.registry.addAll attrs).2.get? key).map Attribute.ungrouped =
        ((attrs.reverse.find? (·.key == key)).or (model.attribute? key)).map
          Attribute.ungrouped := by
    intro attrs plain added
    rcases Registry.addAll_cases model.registry attrs with ⟨error, refused⟩ | inserted
    · rw [refused] at added
      cases added
    · rw [inserted, Registry.ungrouped_get?_foldl_insert model.registry plain, Option.map_or]
      congr 1
      cases found : attrs.reverse.find? (·.key == key) with
      | none => rfl
      | some attr =>
        have listed := List.mem_reverse.mp (List.mem_of_find?_eq_some found)
        rw [Option.map_some, Attribute.ungrouped, ← plain attr listed]
  cases edit with
  | addAttribute attr => exact batch [attr] ungrouped accepted
  | addAttributes attrs => exact batch attrs ungrouped accepted
  | addIfAbsent attr =>
    show ((model.registry.addIfAbsent attr).2.get? key).map _ = (model.registry.get? key).map _
    rcases Registry.addIfAbsent_cases model.registry attr with known | ⟨_, refused⟩ | ⟨fresh, added⟩
    · rw [known]
    · rw [refused]
    · have other : key ≠ attr.key := fun same => registered (same ▸ fresh)
      simp [added, other]
  | addGroup name keys =>
    show (((model.addGroup name keys).2).attribute? key).map _ = (model.attribute? key).map _
    unfold addGroup
    cases model.resolveGroup name keys with
    | error error => rfl
    | ok group => exact ungrouped_attribute?_linkGroup model group key
  | setStyle style =>
    have parts := (setStyle_parts model style).1
    show ((model.setStyle style).2.registry.get? key).map _ = _
    rw [parts]
    exact batch [model.styleAttribute style] ungrouped ((setStyle_outcome model style).symm.trans accepted)
  | setAutoLayout => rfl

/-- An edit leaves the groups as they are, or makes a group. -/
theorem groups_edit (model : Model) (edit : Edit) :
    (model.edit edit).2.groups = model.groups ∨
      ∃ name keys group, edit = .addGroup name keys ∧ model.resolveGroup name keys = .ok group ∧
        (model.edit edit).2 = model.linkGroup group := by
  cases edit with
  | addGroup name keys =>
    simp only [Model.edit, addGroup]
    cases resolved : model.resolveGroup name keys with
    | error error => exact Or.inl rfl
    | ok group => exact Or.inr ⟨name, keys, group, rfl, resolved, rfl⟩
  | setStyle style => exact Or.inl (setStyle_parts model style).2
  | addAttribute => exact Or.inl rfl
  | addAttributes => exact Or.inl rfl
  | addIfAbsent => exact Or.inl rfl
  | setAutoLayout => exact Or.inl rfl

/-- **An edit keeps all groups current unless it outdates one.** -/
theorem allCurrent_edit_iff {model : Model} (linked : Linked model.registry model.groups)
    (current : model.AllCurrent) {edit : Edit} (built : edit.BringsBuilt) :
    (model.edit edit).2.AllCurrent ↔ ¬ edit.Outdates model := by
  cases outcome : (model.edit edit).1 with
  | error error =>
    rw [edit_refused outcome]
    refine iff_of_true current fun ⟨accepted, _⟩ => ?_
    rw [outcome] at accepted
    cases accepted
  | ok _ =>
    rcases groups_edit model edit with same | ⟨name, keys, made, rfl, resolved, after⟩
    · have renewed : ∀ group ∈ model.groups.entries, (model.edit edit).2.Current group ↔
          Group.resolve group.name (group.members.filterMap (edit.renewed? model)) = .ok group := by
        intro group grouped
        rw [current_iff, resolve_data_congr group.name fun key member =>
          ungrouped_attribute?_edit built outcome ?_]
        exact registered_iff_exists.mpr (exists_of_mem_group linked grouped member)
      unfold AllCurrent Edit.Outdates
      rw [same, outcome]
      simp only [true_and, not_exists, not_and, not_not]
      exact forall₂_congr renewed
    · rw [after]
      refine iff_of_true (allCurrent_linkGroup current resolved) ?_
      rintro ⟨_, group, grouped, outdated⟩
      exact outdated (current_iff.mp (current group grouped))

/-! ### Histories -/

/-- The model after the first edits of a history. -/
def stateAt (model : Model) (edits : List Edit) (count : Nat) : Model :=
  model.run (edits.take count)

theorem stateAt_succ (model : Model) {edits : List Edit} {count : Nat} (inside : count < edits.length) :
    model.stateAt edits (count + 1) = ((model.stateAt edits count).edit edits[count]).2 := by
  unfold stateAt run
  rw [List.take_succ_eq_append_getElem inside, List.foldl_append]
  rfl

theorem stateAt_succ_of_le (model : Model) {edits : List Edit} {count : Nat}
    (outside : edits.length ≤ count) : model.stateAt edits (count + 1) = model.stateAt edits count := by
  unfold stateAt
  rw [List.take_of_length_le outside, List.take_of_length_le (Nat.le_succ_of_le outside)]

section History

variable {header : ModelHeader} {methods : List Method} {edits : List Edit}

/-- Every group of a history has been made by one of the edits so far, and was current then. -/
theorem exists_addGroup_of_grouped (count : Nat) :
    ∀ group ∈ ((bare header methods).stateAt edits count).groups.entries,
      ∃ index < count, edits[index]? = some (.addGroup group.name group.members) ∧
        ((bare header methods).stateAt edits (index + 1)).Current group := by
  induction count with
  | zero => exact fun _ grouped => absurd grouped List.not_mem_nil
  | succ count ih =>
    have earlier : ∀ group ∈ ((bare header methods).stateAt edits count).groups.entries,
        ∃ index < count + 1, edits[index]? = some (.addGroup group.name group.members) ∧
          ((bare header methods).stateAt edits (index + 1)).Current group := by
      intro group grouped
      obtain ⟨index, before, made⟩ := ih group grouped
      exact ⟨index, Nat.lt_succ_of_lt before, made⟩
    rcases Nat.lt_or_ge count edits.length with inside | outside
    · have step := stateAt_succ (bare header methods) inside
      rcases groups_edit ((bare header methods).stateAt edits count) edits[count] with
        same | ⟨name, keys, made, adding, resolved, after⟩
      · rw [step, same]
        exact earlier
      · rw [step, after]
        intro group grouped
        rcases Keyed.mem_put.mp grouped with rfl | ⟨old, _⟩
        · obtain ⟨rfl, rfl, _⟩ := resolveGroup_parts resolved
          refine ⟨count, Nat.lt_succ_self count, ?_, ?_⟩
          · rw [List.getElem?_eq_getElem inside, adding]
          · rw [step, after, current_linkGroup]
            exact current_of_resolveGroup resolved
        · exact earlier group old
    · rw [stateAt_succ_of_le _ outside]
      exact earlier

/-- **When the defaults of groups go stale**: in a history of built attributes every group is what its
members resolved to when it was made, with at most one explicit default among them; and the groups are so
for the data that their members have, all along, exactly if no edit is accepted that outdates one. -/
theorem groups_current_iff (built : ∀ edit ∈ edits, edit.BringsBuilt) :
    (∀ count, ∀ group ∈ ((bare header methods).stateAt edits count).groups.entries,
        ∃ index < count, edits[index]? = some (.addGroup group.name group.members) ∧
          ((bare header methods).stateAt edits (index + 1)).Current group) ∧
      ((∀ count, ((bare header methods).stateAt edits count).AllCurrent) ↔
        ∀ (index : Nat) (inside : index < edits.length),
          ¬ edits[index].Outdates ((bare header methods).stateAt edits index)) := by
  have reachable : ∀ count, ((bare header methods).stateAt edits count).Reachable := fun count =>
    Reachable.run (.bare header methods) _ fun edit member => built edit (List.mem_of_mem_take member)
  have step : ∀ (index : Nat) (inside : index < edits.length),
      ((bare header methods).stateAt edits index).AllCurrent →
        (((bare header methods).stateAt edits (index + 1)).AllCurrent ↔
          ¬ edits[index].Outdates ((bare header methods).stateAt edits index)) := by
    intro index inside current
    rw [stateAt_succ _ inside]
    exact allCurrent_edit_iff (reachable index).linked current
      (built edits[index] (List.getElem_mem inside))
  refine ⟨exists_addGroup_of_grouped, ?_, ?_⟩
  · exact fun current index inside => (step index inside (current index)).mp (current (index + 1))
  · intro kept count
    induction count with
    | zero => exact fun _ grouped => absurd grouped List.not_mem_nil
    | succ count ih =>
      rcases Nat.lt_or_ge count edits.length with inside | outside
      · exact (step count inside ih).mpr (kept count inside)
      · rw [stateAt_succ_of_le _ outside]
        exact ih

end History

/-- Edits that group the click attributes of a card, of which the listener is the default, and then
register both anew with defaults of their own: the flag, and after it the listener. -/
def clickEdits : List Edit :=
  [.addAttributes [(Attribute.ofKey listenerKey).allowNull, .ofKey clickableKey],
   .addGroup "click" [listenerKey, clickableKey],
   .addAttribute { Attribute.ofKey clickableKey with default := .explicit "true" },
   .addAttribute { Attribute.ofKey listenerKey with default := .explicit "Listener.NONE" }]

/-- With the first two of them alone, and the flag left out of comparisons after that, the group stays
current. -/
theorem groups_current_iff_click :
    let edits := clickEdits.take 2 ++
      [.addAttribute { Attribute.ofKey clickableKey with hashPolicy := .excluded }]
    (∀ edit ∈ edits, edit.BringsBuilt) ∧
      ((bare cardHeader []).stateAt edits 3).groups.entries =
        [⟨"click", [listenerKey, clickableKey], some listenerKey⟩] ∧
      ∀ count, ((bare cardHeader []).stateAt edits count).AllCurrent :=
  ⟨by decide, by decide, (groups_current_iff (by decide)).2.mpr (by decide)⟩

/-- All of them are accepted. After the third one the group still has the listener for its default, and
its members resolve to the flag; after the fourth one two members contend, which no group may be made
of. -/
theorem replaced_data_outdate :
    let state := (bare cardHeader []).stateAt clickEdits
    (∀ edit ∈ clickEdits, edit.BringsBuilt) ∧
      (∀ (index : Nat) (inside : index < clickEdits.length),
        ((state index).edit clickEdits[index]).1 = .ok ()) ∧
      (state 3).group? "click" = some ⟨"click", [listenerKey, clickableKey], some listenerKey⟩ ∧
      Group.resolve "click" ((state 3).groupMembers "click") =
        .ok ⟨"click", [listenerKey, clickableKey], some clickableKey⟩ ∧
      ((state 4).groupMembers "click").countP Group.isContender = 2 ∧
      ¬ (state 3).AllCurrent ∧ ¬ (state 4).AllCurrent := by
  decide

end Model

end ModelPlanner
