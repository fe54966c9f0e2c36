/-
**The groups of a model.**

A plan makes the groups that fields name, and then, if overloads are to be grouped, one group of the
attributes of each field name that are in none of these and that nobody names. `CompleteGroups` says what
all groups of a model come to: they are made of different registered attributes, disjoint and linked,
current, and there are no others than those, and no fewer.

* `addGroups_made`, `allCurrent_addGroups`, `ungrouped_attribute?_addGroups`: groups are made as listed,
  they are current, and they change no data of attributes;
* `Plan.loose_iff`: the attributes that overloads may be made of are those in no named group;
* `Plan.completeGroups`: the groups of a plan are complete.
-/

import ModelPlanner.Proofs.Model.Current
import ModelPlanner.Proofs.Planner.StatedGroups

namespace ModelPlanner.Planner

/-! ### Making groups -/

section Made

variable {groups : List (String × List AttributeKey)} {model after : Model}

theorem addGroups_made (done : addGroups model groups = .ok after) :
    ∀ group ∈ after.groups.entries,
      group ∈ model.groups.entries ∨ (group.name, group.members) ∈ groups := by
  refine addGroups_induction
    (motive := fun front (other : Model) => ∀ group ∈ other.groups.entries,
      group ∈ model.groups.entries ∨ (group.name, group.members) ∈ front)
    (fun _ old => Or.inl old) (fun front before made holds _ group grouped => ?_) done
  rcases Keyed.mem_put.mp grouped with rfl | ⟨old, _⟩
  · exact Or.inr (List.mem_append_right _ List.mem_cons_self)
  · exact (holds group old).imp_right (List.mem_append_left _)

theorem allCurrent_addGroups (current : model.AllCurrent) (done : addGroups model groups = .ok after) :
    after.AllCurrent :=
  addGroups_induction (motive := fun _ (other : Model) => other.AllCurrent) current
    (fun _ _ _ holds resolved => Model.allCurrent_linkGroup holds resolved) done

theorem ungrouped_attribute?_addGroups (done : addGroups model groups = .ok after) (key : AttributeKey) :
    (after.attribute? key).map Attribute.ungrouped =
      (model.attribute? key).map Attribute.ungrouped := by
  refine addGroups_induction
    (motive := fun _ (other : Model) => (other.attribute? key).map Attribute.ungrouped =
      (model.attribute? key).map Attribute.ungrouped) rfl (fun _ before group holds _ => ?_) done
  simp [holds]

end Made

/-- Exactly the groups that fields name are listed. -/
@[simp]
theorem mem_statedGroups_names {fields : List FieldAttribute} {name : String} :
    name ∈ (statedGroups fields).map Prod.fst ↔ Stated fields name := by
  refine ⟨fun member => ?_, Stated.mem_statedGroups⟩
  obtain ⟨⟨_, keys⟩, listed, rfl⟩ := List.mem_map.mp member
  obtain ⟨key, there⟩ := List.exists_mem_of_ne_nil keys (gather_values listed).2.1
  obtain ⟨field, member, _, named⟩ := mem_statedGroups.mp ⟨keys, listed, there⟩
  exact ⟨field, member, named⟩

/-! ### Overloads -/

/-- The field names of the attributes in no group, with their keys. -/
def looseNames (model : Model) : List (String × AttributeKey) :=
  (model.attributes.filter (·.group?.isNone)).map fun attr => (attr.name, attr.key)

theorem mem_looseNames {model : Model} {name : String} {key : AttributeKey} :
    (name, key) ∈ looseNames model ↔ key.name = name ∧ model.attribute? key ≠ none ∧
      model.registry.groupNameOf? key = none := by
  unfold looseNames Registry.groupNameOf?
  rw [Model.registered_iff_exists, List.mem_map]
  constructor
  · rintro ⟨attr, kept, same⟩
    cases same
    obtain ⟨member, ungrouped⟩ := List.mem_filter.mp kept
    have found : model.registry.get? attr.key = some attr := Keyed.get?_of_mem member
    rw [found]
    exact ⟨rfl, ⟨attr, member, rfl⟩, Option.isNone_iff_eq_none.mp ungrouped⟩
  · rintro ⟨rfl, ⟨attr, member, rfl⟩, ungrouped⟩
    have found : model.registry.get? attr.key = some attr := Keyed.get?_of_mem member
    rw [found] at ungrouped
    exact ⟨attr, List.mem_filter.mpr ⟨member, Option.isNone_iff_eq_none.mpr ungrouped⟩, rfl⟩

/-- Overloads are the names that several loose attributes share and that no annotation names. -/
theorem mem_overloadGroups {model : Model} {stated : List (String × List AttributeKey)} {name : String}
    {keys : List AttributeKey} : (name, keys) ∈ overloadGroups model stated ↔
      (name, keys) ∈ gather (looseNames model) ∧ 1 < keys.length ∧ name ∉ stated.map Prod.fst := by
  unfold overloadGroups looseNames
  rw [List.mem_filter]
  simp

/-! ### Complete groups -/

/-- The key is in no group that a field names. -/
def Loose (fields : List FieldAttribute) (model : Model) (key : AttributeKey) : Prop :=
  ∀ group ∈ model.groups.entries, Stated fields group.name → key ∉ group.members

/-- The groups of a model are made of different registered attributes that name them, disjoint, and
current. They are those that fields name, of the attributes of these fields; and, if overloads are to be
grouped, those of the loose attributes of a field name that nobody names, of which there are several. -/
structure CompleteGroups (config : Config) (fields : List FieldAttribute) (model : Model) : Prop where
  nonempty : ∀ group ∈ model.groups.entries, group.members ≠ []
  distinct : ∀ group ∈ model.groups.entries, group.members.Nodup
  disjoint : ∀ first ∈ model.groups.entries, ∀ second ∈ model.groups.entries, first ≠ second →
    ∀ key ∈ first.members, key ∉ second.members
  registered : ∀ group ∈ model.groups.entries, ∀ key ∈ group.members,
    ∃ attr ∈ model.attributes, attr.key = key
  linked : ∀ attr ∈ model.attributes, ∀ name, attr.group? = some name ↔
    ∃ group ∈ model.groups.entries, group.name = name ∧ attr.key ∈ group.members
  current : model.AllCurrent
  stated : ∀ name, Stated fields name → ∃ group ∈ model.groups.entries, group.name = name ∧
    ∀ key, key ∈ group.members ↔ Names fields key name
  overloads : config.groupOverloads = true → ∀ first ∈ model.attributes, ∀ second ∈ model.attributes,
    first.key ≠ second.key → first.name = second.name → Loose fields model first.key →
      Loose fields model second.key → ¬ Stated fields first.name →
        ∃ group ∈ model.groups.entries, group.name = first.name ∧ first.key ∈ group.members ∧
          second.key ∈ group.members
  unstated : ∀ group ∈ model.groups.entries, ¬ Stated fields group.name →
    config.groupOverloads = true ∧ 2 ≤ group.members.length ∧
      ∀ key, key ∈ group.members ↔
        (∃ attr ∈ model.attributes, attr.key = key ∧ attr.name = group.name) ∧ Loose fields model key

namespace Plan

variable {catalog : Catalog} {config : Config} {declaration : Declaration}
  (plan : Plan catalog config declaration)

theorem allCurrent : plan.model.AllCurrent := by
  obtain ⟨_, _, collected⟩ := plan.collected
  have bare : plan.merged.AllCurrent := by
    intro group grouped
    rw [collected.groups_eq] at grouped
    exact absurd grouped List.not_mem_nil
  exact allCurrent_addGroups (allCurrent_addGroups bare plan.grouped_eq) plan.overloaded_eq

/-- A group of a plan is listed among those that fields name, or among the overloads. -/
theorem made : ∀ group ∈ plan.model.groups.entries,
    (group.name, group.members) ∈ statedGroups (plan.own ++ plan.inherited) ∨
      config.groupOverloads = true ∧ (group.name, group.members) ∈
        overloadGroups plan.grouped (statedGroups (plan.own ++ plan.inherited)) := by
  obtain ⟨_, _, collected⟩ := plan.collected
  have first : ∀ group ∈ plan.grouped.groups.entries,
      (group.name, group.members) ∈ statedGroups (plan.own ++ plan.inherited) := by
    intro group grouped
    rcases addGroups_made plan.grouped_eq group grouped with old | listed
    · rw [collected.groups_eq] at old
      exact absurd old List.not_mem_nil
    · exact listed
  intro group grouped
  rcases addGroups_made plan.overloaded_eq group grouped with old | listed
  · exact Or.inl (first group old)
  · exact Or.inr (plan.mem_overloads.mp listed)

theorem registered_iff (key : AttributeKey) :
    plan.model.attribute? key ≠ none ↔ plan.grouped.attribute? key ≠ none := by
  have same := ungrouped_attribute?_addGroups plan.overloaded_eq key
  rw [Ne, ← Option.map_eq_none_iff, same, Option.map_eq_none_iff]

/-- A group of the model links its members to its name, and nothing else is linked to it. -/
theorem mem_members_iff {group : Group} (grouped : group ∈ plan.model.groups.entries)
    (key : AttributeKey) :
    key ∈ group.members ↔ plan.model.registry.groupNameOf? key = some group.name := by
  rw [plan.model_links.1.named_iff]
  constructor
  · exact fun member => ⟨group, Keyed.get?_of_mem grouped, member⟩
  · rintro ⟨other, found, member⟩
    rw [Keyed.get?_of_mem grouped] at found
    cases found
    exact member

/-- A group that fields name lists the keys of the fields that name it. -/
theorem mem_stated_iff {group : Group} (grouped : group ∈ plan.model.groups.entries)
    (stated : Stated (plan.own ++ plan.inherited) group.name) (key : AttributeKey) :
    key ∈ group.members ↔ Names (plan.own ++ plan.inherited) key group.name := by
  rw [plan.mem_members_iff grouped, ← plan.named_iff key stated]
  rfl

/-- **The attributes that overloads may be made of are those in no named group.** -/
theorem loose_iff (key : AttributeKey) : Loose (plan.own ++ plan.inherited) plan.model key ↔
    plan.grouped.registry.groupNameOf? key = none := by
  have links := plan.grouped_links.2 key
  constructor
  · intro loose
    refine Option.eq_none_iff_forall_ne_some.mpr fun name linked => ?_
    have names := (links name).mp linked
    obtain ⟨linkedLast, linksLast⟩ := plan.model_links
    obtain ⟨group, found, member⟩ :=
      (linkedLast.named_iff key name).mp ((linksLast key name).mpr (Or.inl names))
    obtain ⟨field, listed, _, named⟩ := names
    have same := Keyed.key_of_get? found
    exact loose group (Keyed.mem_of_get? found) (same ▸ ⟨field, listed, named⟩) member
  · intro unlinked group grouped stated member
    have linked := (links group.name).mpr ((plan.mem_stated_iff grouped stated key).mp member)
    rw [unlinked] at linked
    cases linked

/-- An overload is made of all loose attributes of its name. -/
theorem mem_overload_iff {name : String} {keys : List AttributeKey}
    (listed : (name, keys) ∈ gather (looseNames plan.grouped)) (key : AttributeKey) :
    key ∈ keys ↔ (∃ attr ∈ plan.model.attributes, attr.key = key ∧ attr.name = name) ∧
      Loose (plan.own ++ plan.inherited) plan.model key := by
  rw [(gather_values listed).2.2, mem_looseNames, ← plan.registered_iff, plan.loose_iff, ← and_assoc]
  refine and_congr_left fun _ => ?_
  rw [Model.registered_iff_exists]
  constructor
  · rintro ⟨rfl, attr, member, rfl⟩
    exact ⟨attr, member, rfl, rfl⟩
  · rintro ⟨attr, member, rfl, rfl⟩
    exact ⟨rfl, attr, member, rfl⟩

/-- Loose attributes that share a field name which nobody names are in the group of this name. -/
theorem exists_overload (grouping : config.groupOverloads = true) {first second : Attribute}
    (firstThere : first ∈ plan.model.attributes) (secondThere : second ∈ plan.model.attributes)
    (different : first.key ≠ second.key) (sameName : first.name = second.name)
    (firstLoose : Loose (plan.own ++ plan.inherited) plan.model first.key)
    (secondLoose : Loose (plan.own ++ plan.inherited) plan.model second.key)
    (unstated : ¬ Stated (plan.own ++ plan.inherited) first.name) :
    ∃ group ∈ plan.model.groups.entries, group.name = first.name ∧ first.key ∈ group.members ∧
      second.key ∈ group.members := by
  have registered : plan.grouped.attribute? first.key ≠ none := by
    rw [← plan.registered_iff, Model.registered_iff_exists]
    exact ⟨first, firstThere, rfl⟩
  have loose : (first.name, first.key) ∈ looseNames plan.grouped :=
    mem_looseNames.mpr ⟨rfl, registered, (plan.loose_iff first.key).mp firstLoose⟩
  obtain ⟨keys, gathered, firstIn⟩ := mem_gather.mpr loose
  have secondIn : second.key ∈ keys :=
    (plan.mem_overload_iff gathered second.key).mpr ⟨⟨second, secondThere, rfl, sameName.symm⟩,
      secondLoose⟩
  have several : 1 < keys.length := by
    by_contra few
    have some := List.length_pos_of_mem firstIn
    obtain ⟨only, rfl⟩ := List.length_eq_one_iff.mp (show keys.length = 1 by omega)
    exact different ((List.mem_singleton.mp firstIn).trans (List.mem_singleton.mp secondIn).symm)
  have overload : (first.name, keys) ∈
      overloadGroups plan.grouped (statedGroups (plan.own ++ plan.inherited)) :=
    mem_overloadGroups.mpr ⟨gathered, several, mt mem_statedGroups_names.mp unstated⟩
  obtain ⟨linked, links⟩ := plan.model_links
  have linkedTo : ∀ key ∈ keys, plan.model.registry.groupNameOf? key = some first.name :=
    fun key member => (links key first.name).mpr (Or.inr ⟨grouping, keys, overload, member⟩)
  obtain ⟨group, found, member⟩ := (linked.named_iff first.key first.name).mp (linkedTo _ firstIn)
  have grouped := Keyed.mem_of_get? found
  have named : group.name = first.name := Keyed.key_of_get? found
  refine ⟨group, grouped, named, member, (plan.mem_members_iff grouped _).mpr ?_⟩
  rw [named]
  exact linkedTo _ secondIn

/-- **The groups of a plan are complete.** -/
theorem completeGroups : CompleteGroups config (plan.own ++ plan.inherited) plan.model := by
  obtain ⟨linked, links⟩ := plan.model_links
  constructor
  case nonempty => exact linked.nonempty
  case distinct =>
    intro group grouped
    rcases plan.made group grouped with listed | ⟨_, listed⟩
    · exact (gather_values listed).1
    · exact (gather_values (mem_overloadGroups.mp listed).1).1
  case disjoint =>
    exact fun first firstGrouped second secondGrouped different key inFirst inSecond =>
      different (Model.eq_of_mem_groups linked firstGrouped secondGrouped inFirst inSecond)
  case registered => exact fun group grouped key => Model.exists_of_mem_group linked grouped
  case linked => exact fun attr member name => Model.group?_iff linked member name
  case current => exact plan.allCurrent
  case stated =>
    rintro name ⟨field, listed, named⟩
    have names : Names (plan.own ++ plan.inherited) field.attr.key name := ⟨field, listed, rfl, named⟩
    obtain ⟨group, found, _⟩ := (linked.named_iff _ name).mp ((links _ name).mpr (Or.inl names))
    obtain rfl : group.name = name := Keyed.key_of_get? found
    exact ⟨group, Keyed.mem_of_get? found, rfl,
      plan.mem_stated_iff (Keyed.mem_of_get? found) ⟨field, listed, named⟩⟩
  case overloads =>
    intro grouping first firstThere second secondThere different sameName firstLoose secondLoose unstated
    exact plan.exists_overload grouping firstThere secondThere different sameName firstLoose
      secondLoose unstated
  case unstated =>
    intro group grouped unstated
    rcases plan.made group grouped with listed | ⟨grouping, listed⟩
    · exact absurd (mem_statedGroups_names.mp (List.mem_map_of_mem listed)) unstated
    · obtain ⟨gathered, several, _⟩ := mem_overloadGroups.mp listed
      exact ⟨grouping, several, plan.mem_overload_iff gathered⟩

end Plan

end ModelPlanner.Planner
