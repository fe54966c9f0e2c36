/-
**Attributes and groups agree.**

That an attribute is a member of a group is stored twice: the attribute names its group, and the group
lists its members. `Linked` says that the two agree and that no group is empty. It is kept by

* inserting a built attribute (`linked_insert`): the attribute of a known key stays in its group, one of
  a new key is in none;
* linking a resolved group (`linked_linkGroup`): the members of the group that had the name are
  unlinked first, and a member of another group has been refused.

Hence it holds of every reachable model (`Reachable.linked`), and setters clear each other exactly when
their attributes share a group (`groups_linked`).
-/

import ModelPlanner.Proofs.Model.Edits
import ModelPlanner.Proofs.Outcome
import ModelPlanner.Surface

namespace ModelPlanner

/-! ### The group that an attribute names -/

namespace Registry

/-- The name of the group that the attribute of a key is in. -/
def groupNameOf? (registry : Registry) (key : AttributeKey) : Option String :=
  (registry.get? key).bind (·.group?)

theorem key_of_get? {registry : Registry} {key : AttributeKey} {attr : Attribute}
    (found : registry.get? key = some attr) : attr.key = key :=
  Keyed.key_of_get? found

/-- Inserting a built attribute puts no attribute into another group. -/
theorem groupNameOf?_insert (registry : Registry) {attr : Attribute} (built : attr.Built)
    (key : AttributeKey) : (registry.insert attr).groupNameOf? key = registry.groupNameOf? key := by
  unfold groupNameOf?
  rw [get?_insert]
  split
  · next same =>
    -- the attribute takes over the group of its key, or has none
    rw [same, Option.bind_some, keepGroup]
    cases registry.get? attr.key with
    | none => exact built.group?_eq_none
    | some old => rfl
  · rfl

/-- The groups of attributes after moving some of them to a group or to none. -/
@[simp]
theorem groupNameOf?_regroup (registry : Registry) (keys : List AttributeKey)
    (group? : Option String) (key : AttributeKey) :
    (registry.regroup keys group?).groupNameOf? key =
      if key ∈ keys then (registry.get? key).bind fun _ => group?
      else registry.groupNameOf? key := by
  simp only [groupNameOf?, get?_regroup]
  split <;> cases registry.get? key <;> rfl

end Registry

/-! ### Resolving a group -/

namespace Group

/-- A resolved group has the given name and lists the keys of the given members, of which there is at
least one. -/
theorem resolve_parts {name : String} {members : List Attribute} {group : Group}
    (resolved : resolve name members = .ok group) :
    group.name = name ∧ group.members = members.map (·.key) ∧ members ≠ [] := by
  unfold resolve at resolved
  split at resolved
  · cases resolved
  · next some =>
    have nonempty : members ≠ [] := fun none => some (by rw [none]; rfl)
    split at resolved
    · cases resolved
    · cases resolved
      exact ⟨rfl, rfl, nonempty⟩
    · split at resolved
      · cases resolved
        exact ⟨rfl, rfl, nonempty⟩
      · cases resolved

end Group

namespace Model

theorem registered_iff_exists {model : Model} {key : AttributeKey} :
    model.attribute? key ≠ none ↔ ∃ attr ∈ model.attributes, attr.key = key := by
  rw [Option.ne_none_iff_exists']
  constructor
  · exact fun ⟨attr, found⟩ => ⟨attr, Keyed.mem_of_get? found, Keyed.key_of_get? found⟩
  · rintro ⟨attr, member, rfl⟩
    exact ⟨attr, Keyed.get?_of_mem member⟩

/-- An attribute may become a member of a group when it is registered and in no other group. -/
theorem memberFor_ok {model : Model} {name : String} {key : AttributeKey} {attr : Attribute}
    (found : model.memberFor name key = .ok attr) :
    model.attribute? key = some attr ∧ ∀ other, attr.group? = some other → other = name := by
  unfold memberFor at found
  split at found
  · cases found
  · next known known? =>
    split at found
    · cases found
    · next free =>
      cases found
      refine ⟨known?, fun other named => ?_⟩
      rw [named] at free
      simpa [Option.filter_some] using free

/-- Members found for keys have these keys. -/
theorem mapM_memberFor {model : Model} {name : String} {keys : List AttributeKey}
    {members : List Attribute} (found : keys.mapM (model.memberFor name) = .ok members) :
    members.map (·.key) = keys ∧ ∀ key ∈ keys, ∃ attr, model.memberFor name key = .ok attr := by
  induction keys generalizing members with
  | nil =>
    cases found
    exact ⟨rfl, nofun⟩
  | cons key keys ih =>
    rw [List.mapM_cons] at found
    obtain ⟨attr, first, found⟩ := bind_eq_ok_iff.mp found
    obtain ⟨others, rest, found⟩ := bind_eq_ok_iff.mp found
    cases found
    obtain ⟨sameKeys, each⟩ := ih rest
    refine ⟨?_, ?_⟩
    · rw [List.map_cons, sameKeys, Registry.key_of_get? (memberFor_ok first).1]
    · rintro other (_ | ⟨_, later⟩)
      · exact ⟨attr, first⟩
      · exact each other later

theorem resolveGroup_eq (model : Model) (name : String) (keys : List AttributeKey) :
    model.resolveGroup name keys = (keys.mapM (model.memberFor name)).bind (Group.resolve name) := by
  unfold resolveGroup
  cases keys.mapM (model.memberFor name) <;> rfl

/-- A resolved group has the given name and members, which are registered and in no other group. -/
theorem resolveGroup_parts {model : Model} {name : String} {keys : List AttributeKey} {group : Group}
    (resolved : model.resolveGroup name keys = .ok group) :
    group.name = name ∧ group.members = keys ∧ keys ≠ [] ∧
      ∀ key ∈ keys, ∃ attr, model.attribute? key = some attr ∧
        ∀ other, attr.group? = some other → other = name := by
  rw [resolveGroup_eq] at resolved
  obtain ⟨members, found, resolved⟩ := bind_eq_ok_iff.mp resolved
  obtain ⟨sameKeys, each⟩ := mapM_memberFor found
  obtain ⟨sameName, sameMembers, nonempty⟩ := Group.resolve_parts resolved
  refine ⟨sameName, sameMembers.trans sameKeys, ?_, fun key member => ?_⟩
  · rw [← sameKeys]
    exact fun none => nonempty (List.map_eq_nil_iff.mp none)
  · obtain ⟨attr, registered⟩ := each key member
    exact ⟨attr, memberFor_ok registered⟩

/-! ### The invariant -/

/-- Attributes and groups agree: an attribute names a group exactly when there is a group of this name
that lists the attribute's key, and no group is empty. -/
structure Linked (registry : Registry) (groups : Keyed Group.name) : Prop where
  named_iff : ∀ key name, registry.groupNameOf? key = some name ↔
    ∃ group, groups.get? name = some group ∧ key ∈ group.members
  nonempty : ∀ group ∈ groups.entries, group.members ≠ []

theorem linked_bare (methods : List Method) : Linked (.ofMethods methods) .empty where
  named_iff _ _ := ⟨nofun, nofun⟩
  nonempty _ := nofun

/-- Inserting a built attribute keeps the links. -/
theorem linked_insert {registry : Registry} {groups : Keyed Group.name}
    (linked : Linked registry groups) {attr : Attribute} (built : attr.Built) :
    Linked (registry.insert attr) groups where
  named_iff key name := by
    rw [Registry.groupNameOf?_insert registry built]
    exact linked.named_iff key name
  nonempty := linked.nonempty

section LinkGroup

variable {model : Model} (linked : Linked model.registry model.groups)
include linked

/-- Linking a group puts its members into it, takes the other attributes of the group of its name out
of it, and moves no other attribute. -/
theorem groupNameOf?_linkGroup (group : Group) (key : AttributeKey) :
    (model.linkGroup group).registry.groupNameOf? key =
      if key ∈ group.members then (model.registry.get? key).bind fun _ => some group.name
      else if model.registry.groupNameOf? key = some group.name then none
      else model.registry.groupNameOf? key := by
  unfold linkGroup
  by_cases member : key ∈ group.members
  · cases known : model.registry.get? key <;> simp [member, known]
  · simp only [Registry.groupNameOf?_regroup, if_neg member]
    have listed := linked.named_iff key group.name
    unfold group?
    cases known : model.groups.get? group.name with
    | none =>
      have unnamed : model.registry.groupNameOf? key ≠ some group.name := by
        rw [Ne, listed, known]
        exact nofun
      rw [if_neg unnamed]
      rfl
    | some old =>
      have previous : model.registry.groupNameOf? key = some group.name ↔ key ∈ old.members := by
        rw [listed, known]
        simp
      simp only [previous]
      split
      · cases model.registry.get? key <;> rfl
      · rfl

/-- Linking a resolved group keeps the links. -/
theorem linked_linkGroup {name : String} {keys : List AttributeKey} {group : Group}
    (resolved : model.resolveGroup name keys = .ok group) :
    Linked (model.linkGroup group).registry (model.linkGroup group).groups := by
  obtain ⟨rfl, rfl, nonempty, free⟩ := resolveGroup_parts resolved
  refine ⟨fun key name => ?_, fun other member => ?_⟩
  · rw [groupNameOf?_linkGroup linked, groups_linkGroup, Keyed.get?_put]
    by_cases member : key ∈ group.members
    · obtain ⟨attr, registered, alone⟩ := free key member
      rw [if_pos member, show model.registry.get? key = some attr from registered]
      by_cases same : name = group.name
      · rw [if_pos same, same]
        simp [member]
      · -- the members were in no other group before
        have absent : model.registry.groupNameOf? key ≠ some name := by
          rw [Registry.groupNameOf?, show model.registry.get? key = some attr from registered]
          exact fun named => same (alone name named)
        rw [if_neg same, ← linked.named_iff]
        simp [absent, Ne.symm same]
    · rw [if_neg member]
      by_cases same : name = group.name
      · rw [if_pos same, same]
        simp only [Option.some.injEq, exists_eq_left', member, iff_false]
        split
        · exact nofun
        · next unnamed => exact unnamed
      · rw [if_neg same, ← linked.named_iff]
        split
        · next named =>
          rw [named]
          simp [Ne.symm same]
        · rfl
  · rcases Keyed.mem_put.mp member with rfl | ⟨old, _⟩
    · exact nonempty
    · exact linked.nonempty other old

end LinkGroup

/-- **Attributes and groups agree in every reachable model.** -/
theorem Reachable.linked {model : Model} (reachable : model.Reachable) :
    Linked model.registry model.groups :=
  reachable.induction linked_bare (fun _ _ _ built linked => linked_insert linked built)
    fun _ _ _ _ resolved linked => linked_linkGroup linked resolved

/-! ### What agreement gives -/

section Agreement

variable {model : Model} (linked : Linked model.registry model.groups)
include linked

/-- A registered attribute names a group exactly when there is such a group that lists it. -/
theorem group?_iff {attr : Attribute} (member : attr ∈ model.attributes) (name : String) :
    attr.group? = some name ↔
      ∃ group ∈ model.groups.entries, group.name = name ∧ attr.key ∈ group.members := by
  have found : model.registry.get? attr.key = some attr := Keyed.get?_of_mem member
  have named := linked.named_iff attr.key name
  rw [Registry.groupNameOf?, found, Option.bind_some] at named
  simp only [named, Keyed.get?_eq_some_iff, and_assoc]

/-- The members of a group are registered. -/
theorem exists_of_mem_group {group : Group} (grouped : group ∈ model.groups.entries)
    {key : AttributeKey} (member : key ∈ group.members) :
    ∃ attr ∈ model.attributes, attr.key = key := by
  have named := (linked.named_iff key group.name).mpr ⟨group, Keyed.get?_of_mem grouped, member⟩
  obtain ⟨attr, found, _⟩ := Option.bind_eq_some_iff.mp named
  exact ⟨attr, Keyed.mem_of_get? found, Keyed.key_of_get? found⟩

/-- The group of a key is the one that lists it. -/
theorem groupOf?_eq_some_iff {key : AttributeKey} {group : Group} :
    model.groupOf? key = some group ↔ group ∈ model.groups.entries ∧ key ∈ group.members := by
  show (model.registry.groupNameOf? key).bind model.groups.get? = some group ↔ _
  rw [Option.bind_eq_some_iff]
  constructor
  · rintro ⟨name, named, found⟩
    obtain ⟨listing, listed, member⟩ := (linked.named_iff key name).mp named
    rw [found] at listed
    cases listed
    exact ⟨Keyed.mem_of_get? found, member⟩
  · rintro ⟨grouped, member⟩
    have found := Keyed.get?_of_mem grouped
    exact ⟨group.name, (linked.named_iff key group.name).mpr ⟨group, found, member⟩, found⟩

/-- A key is a member of one group only. -/
theorem eq_of_mem_groups {first second : Group} (firstGrouped : first ∈ model.groups.entries)
    (secondGrouped : second ∈ model.groups.entries) {key : AttributeKey}
    (inFirst : key ∈ first.members) (inSecond : key ∈ second.members) : first = second := by
  have one := (groupOf?_eq_some_iff linked).mpr ⟨firstGrouped, inFirst⟩
  rw [(groupOf?_eq_some_iff linked).mpr ⟨secondGrouped, inSecond⟩] at one
  exact (Option.some.inj one).symm

/-- A setter clears the other members of the groups of its attribute. -/
theorem mem_clears {config : Config} {attr : Attribute} {other : AttributeKey} :
    other ∈ (Surface.planSetter model config attr).clears ↔ other ≠ attr.key ∧
      ∃ group ∈ model.groups.entries, attr.key ∈ group.members ∧ other ∈ group.members := by
  unfold Surface.planSetter
  cases found : model.groupOf? attr.key with
  | none =>
    refine ⟨nofun, ?_⟩
    rintro ⟨_, group, grouped, member, _⟩
    rw [(groupOf?_eq_some_iff linked).mpr ⟨grouped, member⟩] at found
    cases found
  | some group =>
    obtain ⟨grouped, member⟩ := (groupOf?_eq_some_iff linked).mp found
    simp only [Group.siblings, List.mem_filter, decide_eq_true_eq]
    constructor
    · rintro ⟨sibling, different⟩
      exact ⟨different, group, grouped, member, sibling⟩
    · rintro ⟨different, listing, listingGrouped, inListing, sibling⟩
      rw [eq_of_mem_groups linked listingGrouped grouped inListing member] at sibling
      exact ⟨sibling, different⟩

end Agreement

end Model

/-- The setter of one attribute clears another one. -/
def Surface.Clears (surface : Surface) (first second : AttributeKey) : Prop :=
  ∃ setter ∈ surface.setters, setter.key = first ∧ second ∈ setter.clears

namespace Model

/-- A planned setter clears exactly the other attributes that share a group with its own. -/
theorem clears_iff {model : Model} (linked : Linked model.registry model.groups) (config : Config)
    (first second : AttributeKey) : (Surface.plan model config).Clears first second ↔
      first ≠ second ∧
        ∃ group ∈ model.groups.entries, first ∈ group.members ∧ second ∈ group.members := by
  have setters : (Surface.plan model config).setters =
      model.attributes.map (Surface.planSetter model config) := rfl
  rw [Surface.Clears, setters]
  constructor
  · rintro ⟨setter, planned, rfl, cleared⟩
    obtain ⟨attr, _, rfl⟩ := List.mem_map.mp planned
    obtain ⟨different, shared⟩ := (mem_clears linked).mp cleared
    exact ⟨Ne.symm different, shared⟩
  · rintro ⟨different, group, grouped, inGroup, sibling⟩
    obtain ⟨attr, registered, rfl⟩ := exists_of_mem_group linked grouped inGroup
    exact ⟨_, List.mem_map_of_mem registered, rfl,
      (mem_clears linked).mpr ⟨Ne.symm different, group, grouped, inGroup, sibling⟩⟩

/-- **Groups and attributes agree, and setters clear each other exactly within groups**: in every
reachable model an attribute names a group exactly when the group lists it; members are registered;
different groups have different names and no common member; no group is empty; and in the planned
surface the clearing of attributes is symmetric and relates different attributes exactly when they
share a group. -/
theorem groups_linked {model : Model} (reachable : model.Reachable) (config : Config) :
    (∀ attr ∈ model.attributes, ∀ name, attr.group? = some name ↔
        ∃ group ∈ model.groups.entries, group.name = name ∧ attr.key ∈ group.members) ∧
      (∀ group ∈ model.groups.entries, ∀ key ∈ group.members,
        ∃ attr ∈ model.attributes, attr.key = key) ∧
      (∀ first ∈ model.groups.entries, ∀ second ∈ model.groups.entries, first ≠ second →
        first.name ≠ second.name ∧ ∀ key ∈ first.members, key ∉ second.members) ∧
      (∀ group ∈ model.groups.entries, group.members ≠ []) ∧
      (∀ first second, (Surface.plan model config).Clears first second →
        (Surface.plan model config).Clears second first) ∧
      ∀ first ∈ model.attributes, ∀ second ∈ model.attributes, first.key ≠ second.key →
        ((Surface.plan model config).Clears first.key second.key ∧
            (Surface.plan model config).Clears second.key first.key ↔
          ∃ group ∈ model.groups.entries, first.key ∈ group.members ∧ second.key ∈ group.members) := by
  have linked := reachable.linked
  refine ⟨fun attr member => group?_iff linked member, fun group grouped key member =>
    exists_of_mem_group linked grouped member, ?_, linked.nonempty, ?_, ?_⟩
  · intro first firstGrouped second secondGrouped different
    constructor
    · exact fun sameName => different (Keyed.eq_of_key_eq firstGrouped secondGrouped sameName)
    · exact fun key inFirst inSecond =>
        different (eq_of_mem_groups linked firstGrouped secondGrouped inFirst inSecond)
  · intro first second clears
    obtain ⟨different, group, grouped, inGroup, sibling⟩ := (clears_iff linked config _ _).mp clears
    exact (clears_iff linked config _ _).mpr
      ⟨Ne.symm different, group, grouped, sibling, inGroup⟩
  · intro first _ second _ different
    rw [clears_iff linked, clears_iff linked]
    constructor
    · exact fun clears => clears.1.2
    · rintro ⟨group, grouped, inGroup, sibling⟩
      exact ⟨⟨different, group, grouped, inGroup, sibling⟩,
        ⟨Ne.symm different, group, grouped, sibling, inGroup⟩⟩

/-- On the card the listener and the flag clear each other, and neither clears the title, which was in
their group before. -/
theorem groups_linked_card :
    cardModel.Reachable ∧
      (Surface.plan cardModel {}).Clears listenerKey clickableKey ∧
      (Surface.plan cardModel {}).Clears clickableKey listenerKey ∧
      ¬ ((Surface.plan cardModel {}).Clears listenerKey titleKey ∧
          (Surface.plan cardModel {}).Clears titleKey listenerKey) := by
  have ⟨_, _, _, _, symmetric, exactly⟩ := groups_linked cardModel_reachable {}
  have registered : ∀ key ∈ [listenerKey, clickableKey, titleKey],
      ∃ attr ∈ cardModel.attributes, attr.key = key := by decide
  obtain ⟨listener, listenerThere, sameListener⟩ := registered listenerKey (by decide)
  obtain ⟨clickable, clickableThere, sameClickable⟩ := registered clickableKey (by decide)
  obtain ⟨title, titleThere, sameTitle⟩ := registered titleKey (by decide)
  have click := exactly listener listenerThere clickable clickableThere
  have text := exactly listener listenerThere title titleThere
  rw [sameListener, sameClickable] at click
  rw [sameListener, sameTitle] at text
  have forward := ((click (by decide)).mpr (by decide)).1
  refine ⟨cardModel_reachable, forward, symmetric _ _ forward, ?_⟩
  rw [text (by decide)]
  decide

end Model

end ModelPlanner
