/-
**Groups that annotations name.**

The groups of a model are made from all its fields, those that a nearer field of the same key overrides
included. So a model links an attribute to a named group exactly if some field of the key, however far
above, names the group (`Plan.named_iff`).

The field whose data the model keeps decides this alone as long as no overridden field names a group that
it does not name (`Deferring`): then the links are those that it names, and the groups are made as if
the overridden fields were not there (`statedGroups_kept`). `stated_groups_nearest` puts both
together, and says that no weaker condition gives the first.
-/

import ModelPlanner.Proofs.Planner.Inheritance

namespace ModelPlanner

/-! ### Gathering -/

section Gather

variable {κ α : Type} [DecidableEq κ] [DecidableEq α]

theorem gather_names_nodup (pairs : List (κ × α)) : ((gather pairs).map Prod.fst).Nodup := by
  unfold gather
  rw [List.map_map]
  exact keepFirst_map_nodup Prod.fst pairs

/-- The values that are gathered under a first part are different, and there are some: those that stand
beside it. -/
theorem gather_values {pairs : List (κ × α)} {key : κ} {values : List α}
    (gathered : (key, values) ∈ gather pairs) :
    values.Nodup ∧ values ≠ [] ∧ ∀ value, value ∈ values ↔ (key, value) ∈ pairs := by
  obtain ⟨⟨_, beside⟩, kept, same⟩ := List.mem_map.mp gathered
  cases same
  have distinct := keepFirst_map_nodup id ((pairs.filter (·.1 = key)).map Prod.snd)
  rw [List.map_id] at distinct
  have listed : ∀ value, value ∈ keepFirst id ((pairs.filter (·.1 = key)).map Prod.snd) ↔
      (key, value) ∈ pairs := by
    intro value
    constructor
    · intro member
      obtain ⟨pair, there, rfl⟩ := List.mem_map.mp (mem_keepFirst member)
      obtain ⟨there, same⟩ := List.mem_filter.mp there
      rw [← of_decide_eq_true same]
      exact there
    · intro there
      have wanted : value ∈ (pairs.filter (·.1 = key)).map Prod.snd :=
        List.mem_map.mpr ⟨_, List.mem_filter.mpr ⟨there, decide_eq_true rfl⟩, rfl⟩
      have once : id value ∈ (keepFirst id _).map id := view_mem_keepFirst wanted
      rwa [List.map_id] at once
  exact ⟨distinct, List.ne_nil_of_mem ((listed beside).mpr (mem_keepFirst kept)), listed⟩

/-- What is gathered under a first part is what stands beside it. -/
@[simp]
theorem mem_gather {pairs : List (κ × α)} {key : κ} {value : α} :
    (∃ values, (key, values) ∈ gather pairs ∧ value ∈ values) ↔ (key, value) ∈ pairs := by
  constructor
  · rintro ⟨values, gathered, member⟩
    exact ((gather_values gathered).2.2 value).mp member
  · intro there
    have named : key ∈ (keepFirst Prod.fst pairs).map Prod.fst := view_mem_keepFirst there
    obtain ⟨first, kept, rfl⟩ := List.mem_map.mp named
    have gathered : (first.1, _) ∈ gather pairs := List.mem_map_of_mem kept
    exact ⟨_, gathered, ((gather_values gathered).2.2 value).mpr there⟩

theorem gather_of_known {front back : List (κ × α)} {pair : κ × α} (known : pair ∈ front) :
    gather (front ++ pair :: back) = gather (front ++ back) := by
  have names : keepFirst Prod.fst (front ++ pair :: back) = keepFirst Prod.fst (front ++ back) :=
    keepFirst_of_known (List.mem_map_of_mem known)
  have values : ∀ key,
      keepFirst id (((front ++ pair :: back).filter (·.1 = key)).map Prod.snd) =
        keepFirst id (((front ++ back).filter (·.1 = key)).map Prod.snd) := by
    intro key
    rw [List.filter_append, List.filter_append]
    by_cases same : pair.1 = key
    · have beside : pair.2 ∈ (front.filter (·.1 = key)).map Prod.snd :=
        List.mem_map_of_mem (List.mem_filter.mpr ⟨known, decide_eq_true same⟩)
      have positive : (pair :: back).filter (·.1 = key) = pair :: back.filter (·.1 = key) :=
        List.filter_cons_of_pos (decide_eq_true same)
      rw [positive, List.map_append, List.map_cons, List.map_append,
        keepFirst_of_known (by simpa using beside)]
    · have negative : (pair :: back).filter (·.1 = key) = back.filter (·.1 = key) :=
        List.filter_cons_of_neg (by simpa using same)
      rw [negative]
  unfold gather
  rw [names]
  simp only [values]

end Gather

namespace Planner

/-! ### The links that groups make -/

/-- A resolved group of a new name links its members to the name and leaves the other links. -/
theorem linkGroup_links {model : Model} (linked : Model.Linked model.registry model.groups)
    {group : Group} (free : ∀ key ∈ group.members, ∃ attr, model.attribute? key = some attr ∧
      ∀ other, attr.group? = some other → other = group.name)
    (new : ∀ key, model.registry.groupNameOf? key ≠ some group.name)
    (key : AttributeKey) (name : String) :
    (model.linkGroup group).registry.groupNameOf? key = some name ↔
      model.registry.groupNameOf? key = some name ∨ name = group.name ∧ key ∈ group.members := by
  rw [Model.groupNameOf?_linkGroup linked]
  by_cases member : key ∈ group.members
  · obtain ⟨attr, registered, alone⟩ := free key member
    have there : model.registry.get? key = some attr := registered
    have ungrouped : model.registry.groupNameOf? key = none := by
      rw [Registry.groupNameOf?, there, Option.bind_some]
      refine Option.eq_none_iff_forall_ne_some.mpr fun other named => ?_
      have same := alone other named
      apply new key
      rw [Registry.groupNameOf?, there, Option.bind_some, named, same]
    rw [if_pos member, there, ungrouped]
    simp [member, eq_comm]
  · rw [if_neg member, if_neg (new key)]
    simp [member]

/-- Groups of new and different names link their members to their names and leave the other links. -/
theorem addGroups_links {groups : List (String × List AttributeKey)} {model after : Model}
    (linked : Model.Linked model.registry model.groups) (done : addGroups model groups = .ok after)
    (distinct : (groups.map Prod.fst).Nodup)
    (fresh : ∀ name ∈ groups.map Prod.fst, ∀ key, model.registry.groupNameOf? key ≠ some name) :
    Model.Linked after.registry after.groups ∧
      ∀ key name, after.registry.groupNameOf? key = some name ↔
        model.registry.groupNameOf? key = some name ∨ ∃ keys, (name, keys) ∈ groups ∧ key ∈ keys := by
  induction groups generalizing model with
  | nil =>
    cases done
    exact ⟨linked, fun _ _ => by simp⟩
  | cons group groups ih =>
    obtain ⟨new, others⟩ := List.forall_mem_cons.mp fresh
    obtain ⟨alone, distinct⟩ := List.nodup_cons.mp distinct
    unfold addGroups at done
    rw [List.foldlM_cons] at done
    obtain ⟨between, first, rest⟩ := bind_eq_ok_iff.mp done
    obtain ⟨made, resolved, rfl⟩ := addGroup_eq_ok first
    have linkedNext := Model.linked_linkGroup linked resolved
    obtain ⟨name_eq, members_eq, _, free⟩ := Model.resolveGroup_parts resolved
    rw [← name_eq, ← members_eq] at free
    rw [← name_eq] at new
    have links := linkGroup_links linked free new
    -- The first group links to its own name only, and that name does not come again.
    have freshNext : ∀ name ∈ groups.map Prod.fst, ∀ key,
        (model.linkGroup made).registry.groupNameOf? key ≠ some name := by
      intro name later key named
      rcases (links key name).mp named with old | ⟨same, _⟩
      · exact others name later key old
      · exact alone (name_eq ▸ same ▸ later)
    obtain ⟨linkedLast, linksLast⟩ := ih linkedNext rest distinct freshNext
    refine ⟨linkedLast, fun key name => ?_⟩
    obtain ⟨label, members⟩ := group
    rw [linksLast, links, name_eq, members_eq, or_assoc]
    simp only [List.mem_cons, Prod.mk.injEq, or_and_right, exists_or, and_assoc, exists_and_left,
      exists_eq_left]

/-! ### The links of a plan -/

/-- A field names the group. -/
def Stated (fields : List FieldAttribute) (name : String) : Prop :=
  ∃ field ∈ fields, field.group? = some name

/-- A field of the key names the group. -/
def Names (fields : List FieldAttribute) (key : AttributeKey) (name : String) : Prop :=
  ∃ field ∈ fields, field.attr.key = key ∧ field.group? = some name

/-- The group that a field names, with the key of the field. -/
def statedPair? (field : FieldAttribute) : Option (String × AttributeKey) :=
  field.group?.map (·, field.attr.key)

@[simp]
theorem statedPair?_eq_some_iff {field : FieldAttribute} {name : String} {key : AttributeKey} :
    statedPair? field = some (name, key) ↔ field.group? = some name ∧ field.attr.key = key := by
  unfold statedPair?
  rw [Option.map_eq_some_iff]
  simp only [Prod.mk.injEq]
  constructor
  · rintro ⟨_, named, rfl, same⟩
    exact ⟨named, same⟩
  · rintro ⟨named, same⟩
    exact ⟨name, named, rfl, same⟩

theorem statedGroups_eq (fields : List FieldAttribute) :
    statedGroups fields = gather (fields.filterMap statedPair?) := rfl

/-- The groups that fields name list the keys of the fields that name them. -/
theorem mem_statedGroups {fields : List FieldAttribute} {key : AttributeKey} {name : String} :
    (∃ keys, (name, keys) ∈ statedGroups fields ∧ key ∈ keys) ↔ Names fields key name := by
  rw [statedGroups_eq, mem_gather, List.mem_filterMap]
  simp only [statedPair?_eq_some_iff, Names, and_comm]

/-- A field adds nothing to the groups if a field before it has its key and names its group. -/
theorem statedGroups_of_names {front back : List FieldAttribute} {field : FieldAttribute}
    (known : ∀ name, field.group? = some name → Names front field.attr.key name) :
    statedGroups (front ++ field :: back) = statedGroups (front ++ back) := by
  rw [statedGroups_eq, statedGroups_eq, List.filterMap_append, List.filterMap_append]
  cases pair : statedPair? field with
  | none => rw [List.filterMap_cons_none pair]
  | some stated =>
    obtain ⟨name, key⟩ := stated
    obtain ⟨named, rfl⟩ := statedPair?_eq_some_iff.mp pair
    obtain ⟨other, member, sameKey, otherNamed⟩ := known name named
    rw [List.filterMap_cons_some pair]
    exact gather_of_known
      (List.mem_filterMap.mpr ⟨other, member, statedPair?_eq_some_iff.mpr ⟨otherNamed, sameKey⟩⟩)

theorem Stated.mem_statedGroups {fields : List FieldAttribute} {name : String}
    (stated : Stated fields name) : name ∈ (statedGroups fields).map Prod.fst := by
  obtain ⟨field, member, named⟩ := stated
  have names : Names fields field.attr.key name := ⟨field, member, rfl, named⟩
  obtain ⟨keys, listed, _⟩ := Planner.mem_statedGroups.mpr names
  exact List.mem_map_of_mem listed

/-- Overloads make groups of different names, which no annotation names. -/
theorem overloadGroups_names (model : Model) (stated : List (String × List AttributeKey)) :
    ((overloadGroups model stated).map Prod.fst).Nodup ∧
      ∀ name ∈ (overloadGroups model stated).map Prod.fst, name ∉ stated.map Prod.fst := by
  unfold overloadGroups
  refine ⟨(gather_names_nodup _).sublist (List.filter_sublist.map Prod.fst), ?_⟩
  intro name member
  obtain ⟨group, listed, rfl⟩ := List.mem_map.mp member
  have kept := (List.mem_filter.mp listed).2
  simp only [Bool.and_eq_true, Bool.not_eq_true', List.contains_eq_mem, decide_eq_false_iff_not] at kept
  exact kept.2

namespace Plan

variable {catalog : Catalog} {config : Config} {declaration : Declaration}
  (plan : Plan catalog config declaration)

theorem overloads_names : (plan.overloads.map Prod.fst).Nodup ∧
    ∀ name ∈ plan.overloads.map Prod.fst,
      name ∉ (statedGroups (plan.own ++ plan.inherited)).map Prod.fst := by
  unfold overloads
  split
  · exact overloadGroups_names _ _
  · exact ⟨List.nodup_nil, fun _ member => absurd member List.not_mem_nil⟩

/-- After the groups that annotations name are made, the links are those that fields name. -/
theorem grouped_links : Model.Linked plan.grouped.registry plan.grouped.groups ∧
    ∀ key name, plan.grouped.registry.groupNameOf? key = some name ↔
      Names (plan.own ++ plan.inherited) key name := by
  obtain ⟨_, _, collected⟩ := plan.collected
  have linked := collected.linked
  have unlinked : ∀ key name, plan.merged.registry.groupNameOf? key ≠ some name := by
    intro key name named
    obtain ⟨group, found, _⟩ := (linked.named_iff key name).mp named
    rw [collected.groups_eq] at found
    cases found
  obtain ⟨linkedAfter, links⟩ := addGroups_links linked plan.grouped_eq (gather_names_nodup _)
    fun name _ key => unlinked key name
  refine ⟨linkedAfter, fun key name => ?_⟩
  rw [links, or_iff_right (unlinked key name), mem_statedGroups]

/-- **The links of a model** are those that fields name, and those of overloads, if these are grouped. -/
theorem model_links : Model.Linked plan.model.registry plan.model.groups ∧
    ∀ key name, plan.model.registry.groupNameOf? key = some name ↔
      Names (plan.own ++ plan.inherited) key name ∨ config.groupOverloads = true ∧
        ∃ keys, (name, keys) ∈ overloadGroups plan.grouped (statedGroups (plan.own ++ plan.inherited)) ∧
          key ∈ keys := by
  obtain ⟨linked, links⟩ := plan.grouped_links
  obtain ⟨distinct, unstated⟩ := plan.overloads_names
  have fresh : ∀ other ∈ plan.overloads.map Prod.fst,
      ∀ key, plan.grouped.registry.groupNameOf? key ≠ some other := by
    intro other member key named
    obtain ⟨field, listed, _, names⟩ := (links key other).mp named
    exact unstated other member (Stated.mem_statedGroups ⟨field, listed, names⟩)
  obtain ⟨linkedLast, overloaded⟩ := addGroups_links linked plan.overloaded_eq distinct fresh
  refine ⟨linkedLast, fun key name => ?_⟩
  simp [overloaded, links, and_assoc]

/-- **A model links an attribute to a named group exactly if some field of the key names it**, however
far above the field is declared. -/
theorem named_iff (key : AttributeKey) {name : String}
    (stated : Stated (plan.own ++ plan.inherited) name) :
    (plan.model.attribute? key).bind (·.group?) = some name ↔
      Names (plan.own ++ plan.inherited) key name := by
  show plan.model.registry.groupNameOf? key = some name ↔ _
  rw [plan.model_links.2, or_iff_left]
  rintro ⟨_, keys, member, _⟩
  exact (overloadGroups_names plan.grouped _).2 name (List.mem_map_of_mem member) stated.mem_statedGroups

end Plan

/-! ### The nearest field of a key -/

/-- The field whose data a model keeps for a key: the last one of the class itself, or else the first one
from above. -/
def nearestField? (own inherited : List FieldAttribute) (key : AttributeKey) :
    Option FieldAttribute :=
  (own.reverse ++ inherited).find? (·.attr.key == key)

/-- The group that the nearest field of a key names. -/
def nearestGroup? (own inherited : List FieldAttribute) (key : AttributeKey) : Option String :=
  (nearestField? own inherited key).bind (·.group?)

/-- No field names a group that the nearest field of its key does not name. -/
def Deferring (own inherited : List FieldAttribute) : Prop :=
  ∀ field ∈ own ++ inherited, ∀ name ∈ field.group?,
    nearestGroup? own inherited field.attr.key = some name

instance (own inherited : List FieldAttribute) : Decidable (Deferring own inherited) :=
  inferInstanceAs (Decidable (∀ field ∈ own ++ inherited, ∀ name ∈ field.group?, _))

def isNearest (own inherited : List FieldAttribute) (field : FieldAttribute) : Bool :=
  nearestField? own inherited field.attr.key == some field

/-- The fields without those from above that a nearer field of the same key overrides. -/
def kept (own inherited : List FieldAttribute) : List FieldAttribute :=
  own ++ inherited.filter (isNearest own inherited)

section Nearest

variable {own inherited : List FieldAttribute}

theorem names_of_nearestGroup? {key : AttributeKey} {name : String}
    (nearest : nearestGroup? own inherited key = some name) : Names (own ++ inherited) key name := by
  obtain ⟨field, found, named⟩ := Option.bind_eq_some_iff.mp nearest
  have member := List.mem_of_find?_eq_some found
  have same : field.attr.key = key := by simpa using List.find?_some found
  rw [List.mem_append, List.mem_reverse, ← List.mem_append] at member
  exact ⟨field, member, same, named⟩

/-- **The named groups are the ones that the nearest fields name exactly if all fields defer to them.** -/
theorem deferring_iff : Deferring own inherited ↔
    ∀ key name, Stated (own ++ inherited) name →
      (Names (own ++ inherited) key name ↔ nearestGroup? own inherited key = some name) := by
  constructor
  · intro deferring key name _
    refine ⟨?_, names_of_nearestGroup?⟩
    rintro ⟨field, member, rfl, named⟩
    exact deferring field member name named
  · intro agree field member name named
    exact (agree field.attr.key name ⟨field, member, named⟩).mp ⟨field, member, rfl, named⟩

/-- What an overridden field names, the nearest field of its key, which comes before it, names. -/
theorem names_of_overridden (deferring : Deferring own inherited) {front back : List FieldAttribute}
    {field : FieldAttribute} (split : inherited = front ++ field :: back)
    (overridden : isNearest own inherited field = false) (name : String)
    (named : field.group? = some name) :
    Names (own ++ front.filter (isNearest own inherited)) field.attr.key name := by
  have member : field ∈ own ++ inherited := by simp [split]
  obtain ⟨near, found, nearNamed⟩ := Option.bind_eq_some_iff.mp (deferring field member name named)
  have sameKey : near.attr.key = field.attr.key := by simpa using List.find?_some found
  have nearest : isNearest own inherited near = true := by
    rw [isNearest, sameKey, found, beq_self_eq_true]
  -- Behind the field the nearest one cannot be: the field itself would be found first.
  have before : near ∈ own.reverse ++ front := by
    rw [isNearest, found, beq_eq_false_iff_ne] at overridden
    rw [nearestField?, split, ← List.append_assoc, List.find?_append] at found
    cases early : (own.reverse ++ front).find? (·.attr.key == field.attr.key) with
    | some other =>
      rw [early] at found
      cases found
      exact List.mem_of_find?_eq_some early
    | none =>
      simp only [early, Option.none_or, List.find?_cons, beq_self_eq_true] at found
      exact absurd found.symm overridden
  refine ⟨near, ?_, sameKey, nearNamed⟩
  rcases List.mem_append.mp before with here | above
  · exact List.mem_append_left _ (List.mem_reverse.mp here)
  · exact List.mem_append_right _ (List.mem_filter.mpr ⟨above, nearest⟩)

/-- The groups that annotations name are made as if the overridden fields were not there. -/
theorem statedGroups_kept (deferring : Deferring own inherited) :
    statedGroups (own ++ inherited) = statedGroups (kept own inherited) := by
  suffices ∀ front back, inherited = front ++ back →
      statedGroups ((own ++ front.filter (isNearest own inherited)) ++ back) =
        statedGroups (kept own inherited) from by
    simpa using this [] inherited rfl
  -- The induction is on the fields to come; the ones in front are without the overridden ones already.
  intro front back
  induction back generalizing front with
  | nil =>
    intro split
    rw [List.append_nil] at split
    rw [List.append_nil, ← split, kept]
  | cons field back ih =>
    intro split
    rw [← ih (front ++ [field]) (by rw [split, List.append_cons]), List.filter_append]
    cases nearest : isNearest own inherited field with
    | true =>
      rw [List.filter_cons_of_pos nearest, List.filter_nil, ← List.append_assoc, List.append_assoc _ _ back]
      rfl
    | false =>
      have negative : ¬ isNearest own inherited field = true := by rw [nearest]; exact nofun
      rw [List.filter_cons_of_neg negative, List.filter_nil, List.append_nil]
      exact statedGroups_of_names (names_of_overridden deferring split nearest)

end Nearest

/-! ### Batches -/

/-- The model with inherited attributes and with groups as if the overridden fields were not there. -/
def completeNearest (config : Config) (model : Model) (own inherited : List FieldAttribute) :
    Except ModelError Model := do
  let merged ← addInherited model inherited
  let stated := statedGroups (kept own inherited)
  let grouped ← addGroups merged stated
  if config.groupOverloads then addGroups grouped (overloadGroups grouped stated)
  else return grouped

theorem complete_eq_nearest {catalog : Catalog} {config : Config} {stage : Stage}
    {inherited : List FieldAttribute}
    (climbed : inheritedFields catalog config (fun _ => none) stage.declaration.package []
      stage.declaration = .ok inherited) (deferring : Deferring stage.own inherited) :
    complete catalog config [] stage = completeNearest config stage.model stage.own inherited := by
  have same : inheritedFields catalog config (ownFields? []) stage.declaration.package []
      stage.declaration = .ok inherited := climbed
  unfold complete completeNearest
  rw [same, ← statedGroups_kept deferring]
  rfl

/-- **The nearest field of a key decides its group exactly if the overridden ones defer to it.** A model
links its attributes to the named groups that the nearest fields name exactly if no field names a group
that the nearest field of its key does not name. Then, too, no overridden field has a part in whether the
model is completed. -/
theorem stated_groups_nearest {planner : Planner} {target : TypeName} {declaration : Declaration}
    (resolved : planner.catalog.resolve target = some declaration) {own inherited : List FieldAttribute}
    (read : FieldAttribute.ofDeclaration planner.catalog planner.config declaration = .ok own)
    (climbed : inheritedFields planner.catalog planner.config (fun _ => none) declaration.package []
      declaration = .ok inherited) (targets : List TypeName) :
    (∀ model ∈ (planner.process targets).1.models, model.header.origin = target.name →
      (Deferring own inherited ↔ ∀ key name, Stated (own ++ inherited) name →
        ((model.attribute? key).bind (·.group?) = some name ↔
          nearestGroup? own inherited key = some name))) ∧
    (Deferring own inherited →
      let stages := successes (stageAll planner.catalog planner.config targets planner.cache).1
      ∀ stage ∈ stages, stage.declaration = declaration →
        complete planner.catalog planner.config stages stage =
          completeNearest planner.config stage.model own inherited) := by
  constructor
  · intro model planned origin
    obtain ⟨plan, rfl⟩ := exists_plan_of_origin resolved planned origin
    have sameOwn := plan.own_eq
    have sameInherited := plan.inherited_eq
    rw [read] at sameOwn
    rw [climbed] at sameInherited
    rw [deferring_iff, Except.ok.inj sameOwn, Except.ok.inj sameInherited]
    constructor
    · intro agree key name stated
      rw [plan.named_iff key stated, agree key name stated]
    · intro agree key name stated
      rw [← plan.named_iff key stated, agree key name stated]
  · intro deferring stages stage staged same
    subst same
    obtain ⟨_, _, ownRead, _⟩ := of_mem_stages staged
    rw [read] at ownRead
    rw [Except.ok.inj ownRead] at deferring ⊢
    rw [complete_eq fun _ => of_mem_stages]
    exact complete_eq_nearest climbed deferring

/-- A card with a title, below a class. -/
def titledCard (args : List (String × String)) : Declaration :=
  { Declaration.bare .classKind "app.Card" with
    superType? := some (.raw "app.Base")
    members := [attributeField "title" "String" [] args] }

/-- The titled card and a super class that declares the title too. -/
def titledTwice (near far : List (String × String)) : Catalog where
  entries := [titledCard near,
    { Declaration.bare .classKind "app.Base" with
      members := [attributeField "title" "String" [] far] }]
  distinct := by simp [titledCard]

def planCard (near far : List (String × String)) : Output :=
  ((start (titledTwice near far) {}).process [.raw "app.Card"]).1

def titleGroup? (model : Model) : Option String :=
  (model.attribute? Model.titleKey).bind (·.group?)

/-- The title that a class of the package declares. -/
def titleField (origin : String) (group? : Option String) : FieldAttribute where
  attr := { Attribute.ofKey Model.titleKey with
    packagePrivate := true
    package := "app"
    origin? := some origin }
  group?

/-- If the class above names the group of the card's own title, the title is in this group. -/
theorem stated_groups_nearest_card :
    let own := [titleField "app.Card" (some "a")]
    let inherited := [titleField "app.Base" (some "a")]
    Deferring own inherited ∧
      (planCard [("group", "a")] [("group", "a")]).models.map titleGroup? = [some "a"] ∧
      ∀ model ∈ (planCard [("group", "a")] [("group", "a")]).models,
        model.header.origin = "app.Card" →
          (titleGroup? model = some "a" ↔ nearestGroup? own inherited Model.titleKey = some "a") := by
  intro own inherited
  have deferring : Deferring own inherited := by decide
  refine ⟨deferring, by decide +kernel, fun model planned origin => ?_⟩
  let planner := start (titledTwice [("group", "a")] [("group", "a")]) {}
  have resolved : planner.catalog.resolve (.raw "app.Card") = some (titledCard [("group", "a")]) := rfl
  have read : FieldAttribute.ofDeclaration planner.catalog planner.config
      (titledCard [("group", "a")]) = .ok own := by decide +kernel
  have climbed : inheritedFields planner.catalog planner.config (fun _ => none) "app" []
      (titledCard [("group", "a")]) = .ok inherited := by decide +kernel
  have links := (stated_groups_nearest resolved read climbed [.raw "app.Card"]).1 model planned origin
  exact links.mp deferring Model.titleKey "a" ⟨titleField "app.Card" (some "a"), by decide, rfl⟩

/-- Overridden titles do not defer. One that names another group drops the card, which has a model with
the title in its own group if the other one names none; and one that names a group where the card's own
title names none puts the title there. -/
theorem overridden_title_decides :
    (planCard [("group", "a")] [("group", "b")]).models = [] ∧
      (planCard [("group", "a")] [("group", "b")]).diagnostics.entries =
        [.ofModelError "app.Card"
          (.unsupportedAttribute "title: String" (.grouped "a"))] ∧
      (planCard [("group", "a")] []).models.map titleGroup? = [some "a"] ∧
      FieldAttribute.ofDeclaration (titledTwice [] [("group", "b")]) {} (titledCard []) =
        .ok [titleField "app.Card" none] ∧
      (planCard [] [("group", "b")]).models.map titleGroup? = [some "b"] := by
  decide +kernel

end Planner

end ModelPlanner
