/-
**What targets are dropped for.**

A model that is built by hand may ask for a group without members, or of attributes that it does not have.
A planner never does: the groups that fields name have the keys of these fields, which it has registered
before, and overloads are found among the registered attributes. So no target is dropped for the members
of a group.

* `Spares`: a computation is not refused for the members of a group; each step of the two phases is so;
* `resolveGroup_spares`: a group of registered attributes, of which there is one, is not refused for its
  members;
* `complete_spares`: neither is any group that the second phase makes;
* `process_spares`: hence no error of a batch says so;
* `groups_complete`: the groups of every model of a batch are complete.
-/

import ModelPlanner.Proofs.Planner.Batch
import ModelPlanner.Proofs.Planner.Groups

namespace ModelPlanner

/-- The error says that a group has no members, or one that is not registered. -/
def ModelError.blamesMembers : ModelError → Bool
  | .emptyGroup _ => true
  | .unknownGroupMember _ _ => true
  | _ => false

/-- The code of an error tells whether it does. -/
theorem ModelError.blamesMembers_congr {first second : ModelError} (same : first.code = second.code) :
    first.blamesMembers = second.blamesMembers := by
  have coded : ∀ error : ModelError,
      error.blamesMembers = true ↔ error.code = "E0001" ∨ error.code = "E0004" := by
    intro error
    cases error <;> simp [blamesMembers, code]
  rw [Bool.eq_iff_iff, coded, coded, same]

namespace Planner

/-- The computation is not refused for the members of a group. -/
def Spares {α : Type} (result : Except ModelError α) : Prop :=
  RefusedFor (fun error => error.blamesMembers = false) result

/-! ### Registering attributes -/

section Registering

variable (model : Model)

theorem committed_spares {α : Type} {result : Except ModelError α × Model} (spares : Spares result.1) :
    Spares (committed result) := by
  obtain ⟨_ | value, after⟩ := result
  · exact .error (spares _ rfl)
  · exact .ok after

theorem validate_spares (attr : Attribute) : Spares attr.validate := by
  unfold Attribute.validate
  cases attr.refusal? with
  | none => exact .ok ()
  | some refusal => exact .error rfl

theorem addAttributes_spares (attrs : List Attribute) : Spares (model.addAttributes attrs).1 := by
  show Spares (model.registry.addAll attrs).1
  rw [Registry.addAll_outcome]
  exact .forM fun attr _ => validate_spares attr

theorem addIfAbsent_spares (attr : Attribute) : Spares (model.addIfAbsent attr).1 := by
  show Spares (model.registry.addIfAbsent attr).1
  rw [Registry.addIfAbsent_outcome]
  split
  · exact .ok false
  · exact (validate_spares attr).map _

theorem setStyle_spares (style : TypeName) : Spares (model.setStyle style).1 := by
  rw [Model.setStyle_outcome]
  exact addAttributes_spares model [model.styleAttribute style]

theorem addInherited_spares (fields : List FieldAttribute) : Spares (addInherited model fields) :=
  .foldlM (motive := fun _ => True) trivial
    (fun field _ before _ => committed_spares (addIfAbsent_spares before field.attr))
    fun _ _ _ _ _ _ => trivial

end Registering

/-! ### Staging -/

section Staging

variable {catalog : Catalog} {config : Config}

theorem ofDeclaration_spares (declaration : Declaration) :
    Spares (FieldAttribute.ofDeclaration catalog config declaration) := by
  refine .mapM ?_
  rintro ⟨field, type, mark⟩ _
  dsimp only
  unfold FieldAttribute.ofField
  split
  · exact .error rfl
  · refine RefusedFor.map ?_ _
    unfold FieldAttribute.policyOf
    split
    · exact .ok _
    · split
      · exact .ok _
      · exact .error rfl

theorem applyArguments_spares (declaration : Declaration) (model : Model) :
    Spares (applyArguments config declaration model) := by
  unfold applyArguments
  split
  · exact .ok _
  · refine RefusedFor.map ?_ _
    unfold applyStyle
    split
    · exact .ok _
    · split
      · exact .error rfl
      · exact committed_spares (setStyle_spares _ _)

theorem fill_spares (declaration : Declaration) (model : Model) :
    Spares (fill catalog config declaration model) :=
  .bind (applyArguments_spares declaration model) fun _ _ =>
    .bind (ofDeclaration_spares declaration) fun _ _ =>
      .bind (committed_spares (addAttributes_spares _ _)) fun _ _ => .ok _

/-- A target is not dropped in the first phase for the members of a group. -/
theorem stage_spares {target : TypeName} {cache : MethodCache} {dropped : Dropped}
    (refused : (stage catalog config target cache).1 = .error dropped) :
    dropped.error.blamesMembers = false := by
  unfold stage at refused
  split at refused
  · cases refused
    rfl
  · next declaration _ =>
    have started : Spares (Model.ofDeclaration catalog config declaration cache).1 := by
      unfold Model.ofDeclaration
      split
      · exact .error rfl
      · exact .ok _
    have filled : Spares ((Model.ofDeclaration catalog config declaration cache).1.bind
        (fill catalog config declaration)) := started.bind fun model _ => fill_spares declaration model
    dsimp only at refused
    cases outcome : (Model.ofDeclaration catalog config declaration cache).1.bind
        (fill catalog config declaration) with
    | error error =>
      rw [outcome] at refused
      cases refused
      exact filled error outcome
    | ok stage =>
      rw [outcome] at refused
      cases refused

/-- What a stage has registered: its style and its own attributes. -/
theorem collected_fill {declaration : Declaration} {methods : List Method} {stage : Stage}
    (filled : fill catalog config declaration
      (.bare (.ofDeclaration catalog config declaration) methods) = .ok stage) :
    ∃ header styles, stage.model.Collected header (styles ++ stage.own.map (·.attr)) [] := by
  unfold fill at filled
  obtain ⟨⟨styled, warnings⟩, applied, filled⟩ := bind_eq_ok_iff.mp filled
  obtain ⟨own, read, filled⟩ := bind_eq_ok_iff.mp filled
  obtain ⟨registered, added, filled⟩ := bind_eq_ok_iff.mp filled
  cases filled
  obtain ⟨styles, _, collected⟩ := collected_applyArguments (Model.collected_bare _ methods) applied
  have ungrouped : ∀ attr ∈ own.map (·.attr), attr.group? = none := by
    intro attr member
    obtain ⟨field, declared, rfl⟩ := List.mem_map.mp member
    exact ofDeclaration_ungrouped read field declared
  exact ⟨_, styles, collected_addAttributes collected ungrouped added⟩

end Staging

/-! ### Groups -/

section Groups

variable {model : Model} {name : String}

theorem resolve_spares {members : List Attribute} (nonempty : members ≠ []) :
    Spares (Group.resolve name members) := by
  unfold Group.resolve
  rw [if_neg (mt List.isEmpty_iff.mp nonempty)]
  split
  · exact .error rfl
  · exact .ok _
  · split
    · exact .ok _
    · exact .error rfl

/-- A group of registered attributes, of which there is one, is not refused for its members. -/
theorem resolveGroup_spares {keys : List AttributeKey} (nonempty : keys ≠ [])
    (registered : ∀ key ∈ keys, model.attribute? key ≠ none) :
    Spares (model.resolveGroup name keys) := by
  rw [Model.resolveGroup_eq]
  refine .bind (.mapM fun key member => ?_) fun members found => resolve_spares ?_
  · unfold Model.memberFor
    split
    · next unknown => exact absurd unknown (registered key member)
    · split
      · exact .error rfl
      · exact .ok _
  · rw [← (Model.mapM_memberFor found).1] at nonempty
    exact mt List.map_eq_nil_iff.mpr nonempty

theorem addGroup_spares {keys : List AttributeKey} (nonempty : keys ≠ [])
    (registered : ∀ key ∈ keys, model.attribute? key ≠ none) : Spares (model.addGroup name keys).1 := by
  rw [Model.addGroup_outcome]
  exact (resolveGroup_spares nonempty registered).map _

/-- Groups of registered attributes are not refused for their members, since none of them unregisters an
attribute. -/
theorem addGroups_spares {groups : List (String × List AttributeKey)}
    (nonempty : ∀ name keys, (name, keys) ∈ groups → keys ≠ [])
    (registered : ∀ name keys, (name, keys) ∈ groups → ∀ key ∈ keys, model.attribute? key ≠ none) :
    Spares (addGroups model groups) := by
  refine .foldlM (motive := fun before => ∀ key, model.attribute? key ≠ none →
    before.attribute? key ≠ none) (fun _ there => there) ?_ ?_
  · rintro ⟨name, keys⟩ listed before kept
    exact committed_spares (addGroup_spares (nonempty name keys listed) fun key member =>
      kept key (registered name keys listed key member))
  · rintro ⟨name, keys⟩ _ before _ kept step key there
    obtain ⟨group, _, rfl⟩ := addGroup_eq_ok step
    rw [Ne, ← Option.map_eq_none_iff, Model.ungrouped_attribute?_linkGroup, Option.map_eq_none_iff]
    exact kept key there

end Groups

/-! ### Finishing -/

section Finishing

variable {catalog : Catalog} {config : Config}

theorem inheritedFields_spares (known : String → Option (List FieldAttribute)) (package : String)
    (visited : List String) (declaration : Declaration) :
    Spares (inheritedFields catalog config known package visited declaration) := by
  fun_induction inheritedFields catalog config known package visited declaration with
  | case1 => exact .ok []
  | case2 visited declaration parent next within rest own taken ih =>
    exact .bind (.ok own) fun _ _ => .bind ih fun _ _ => .ok _
  | case3 visited declaration parent next within rest unknown ih =>
    exact .bind (ofDeclaration_spares parent) fun _ _ => .bind ih fun _ _ => .ok _
  | case4 => exact .ok []

/-- What has been registered is found. -/
theorem registered_of_merged {registry : Registry} {mine above : List Attribute}
    (merged : registry.Merged mine above) {attr : Attribute} (member : attr ∈ mine ++ above) :
    registry.get? attr.key ≠ none := by
  have known : attr.key ∈ registry.attributes.keys := by
    rw [merged.keys_eq, List.mem_eraseDups]
    exact List.mem_map_of_mem member
  simpa using known

/-- **No group that the second phase makes is refused for its members.** -/
theorem complete_spares {stage : Stage} {header : ModelHeader} {styles : List Attribute}
    (collected : stage.model.Collected header (styles ++ stage.own.map (·.attr)) []) :
    Spares (complete catalog config [] stage) := by
  unfold complete
  refine .bind (inheritedFields_spares _ _ _ _) fun inherited climbed => ?_
  have ungrouped := inheritedFields_ungrouped (fun _ _ taken => by cases taken) _ _ _ climbed
  refine .bind (addInherited_spares _ _) fun merged added => ?_
  have all := collected_addInherited collected ungrouped added
  have registered : ∀ name keys, (name, keys) ∈ statedGroups (stage.own ++ inherited) →
      ∀ key ∈ keys, merged.attribute? key ≠ none := by
    intro name keys listed key there
    obtain ⟨field, member, rfl, _⟩ := mem_statedGroups.mp ⟨keys, listed, there⟩
    refine registered_of_merged all.merged ?_
    rw [List.append_assoc, ← List.map_append]
    exact List.mem_append_right _ (List.mem_map_of_mem member)
  refine .bind (addGroups_spares (fun _ _ listed => (gather_values listed).2.1) registered)
    fun grouped made => ?_
  split
  · refine addGroups_spares (fun name keys listed => ?_) fun name keys listed key there => ?_
    · exact (gather_values (mem_overloadGroups.mp listed).1).2.1
    · have loose := ((gather_values (mem_overloadGroups.mp listed).1).2.2 key).mp there
      exact (mem_looseNames.mp loose).2.1
  · exact .ok grouped

end Finishing

/-! ### Batches -/

/-- A stage is not dropped in the second phase for the members of a group. -/
theorem finish_spares {planner : Planner} {targets : List TypeName} {stage : Stage} {dropped : Dropped}
    (staged : stage ∈ successes (stageAll planner.catalog planner.config targets planner.cache).1)
    (refused : finish planner.catalog planner.config [] stage = .error dropped) :
    dropped.error.blamesMembers = false := by
  obtain ⟨_, _, declaration, methods, _, filled⟩ := exists_of_mem_stages staged
  obtain ⟨header, styles, collected⟩ := collected_fill filled
  unfold finish at refused
  split at refused
  · next error outcome =>
    cases refused
    exact complete_spares collected error outcome
  · cases refused

/-- **A batch reports no error that says that a group has no members or an unknown one.** -/
theorem process_spares {planner : Planner} {targets : List TypeName} {origin : String}
    {error : ModelError} (reported : Diagnostic.ofModelError origin error ∈
      (planner.process targets).1.diagnostics.entries) : error.blamesMembers = false := by
  -- The report of a dropped target has the code of its error, and no warning is a report of an error.
  have spared : ∀ dropped : Dropped, dropped.error.blamesMembers = false →
      Diagnostic.ofModelError origin error = dropped.diagnostic → error.blamesMembers = false := by
    intro dropped holds same
    have code := Option.some.inj (congrArg Diagnostic.code? same)
    exact (ModelError.blamesMembers_congr code).trans holds
  have severe : (Diagnostic.ofModelError origin error).isError = true := rfl
  rcases List.mem_append.mp reported with planned | checked
  · rcases List.mem_append.mp planned with staging | finishing
    · obtain ⟨result, member, same⟩ := List.mem_filterMap.mp staging
      obtain ⟨target, _, before, rfl⟩ := exists_of_mem_stageAll member
      split at same
      · next dropped refused => exact spared dropped (stage_spares refused) (Option.some.inj same).symm
      · cases same
    · obtain ⟨result, member, same⟩ := List.mem_flatMap.mp finishing
      obtain ⟨stage, staged, rfl⟩ := List.mem_map.mp member
      rw [finish_eq fun _ => of_mem_stages] at same
      rcases finish_cases planner.catalog planner.config [] stage with ⟨_, refused⟩ | ⟨_, done⟩
      · rw [refused] at same
        exact spared _ (finish_spares staged refused) (List.mem_singleton.mp same)
      · obtain ⟨_, alone⟩ := of_mem_stages staged
        rw [done] at same
        rw [alone.warns _ same] at severe
        cases severe
  · split at checked
    · obtain ⟨model, _, member⟩ := List.mem_flatMap.mp checked
      rw [hashWarnings_warn _ member] at severe
      cases severe
    · cases checked

/-- **The groups of planned models are complete.** Every model of a batch is that of one of the targets;
its groups are complete for the fields of this target and of the classes above that it sees. No target is
dropped because a group has no members or an unknown one. -/
theorem groups_complete (planner : Planner) (targets : List TypeName) :
    (∀ model ∈ (planner.process targets).1.models, ∃ target ∈ targets, ∃ declaration own inherited,
      planner.catalog.resolve target = some declaration ∧
        model.header = .ofDeclaration planner.catalog planner.config declaration ∧
        FieldAttribute.ofDeclaration planner.catalog planner.config declaration = .ok own ∧
        inheritedFields planner.catalog planner.config (fun _ => none) declaration.package []
          declaration = .ok inherited ∧
        CompleteGroups planner.config (own ++ inherited) model) ∧
      ∀ origin group,
        Diagnostic.ofModelError origin (.emptyGroup group) ∉
            (planner.process targets).1.diagnostics.entries ∧
          ∀ attr, Diagnostic.ofModelError origin (.unknownGroupMember group attr) ∉
            (planner.process targets).1.diagnostics.entries := by
  constructor
  · intro model planned
    obtain ⟨target, listed, declaration, resolved, plan, rfl⟩ := exists_plan planned
    exact ⟨target, listed, declaration, plan.own, plan.inherited, resolved, plan.header_eq, plan.own_eq,
      plan.inherited_eq, plan.completeGroups⟩
  · intro origin group
    have blamed : ∀ error : ModelError, error.blamesMembers = true →
        Diagnostic.ofModelError origin error ∉ (planner.process targets).1.diagnostics.entries := by
      intro error blames reported
      rw [process_spares reported] at blames
      cases blames
    exact ⟨blamed _ rfl, fun attr => blamed _ rfl⟩

/-- A card with two click attributes in a group and a title, below a class with another title. -/
def overloadedCards : Catalog where
  entries :=
    [{ Declaration.bare .classKind "app.Card" with
       superType? := some (.raw "app.Base")
       members := [attributeField "onClick" "Listener" [] [("group", "click"), ("defaultValue", "NONE")],
         attributeField "clickable" "boolean" [] [("group", "click")],
         attributeField "title" "String" [] []] },
     { Declaration.bare .classKind "app.Base" with
       members := [attributeField "title" "int" [] [("languageDefault", "true")]] }]
  distinct := by decide

/-- Its groups are complete: the click group, and the titles. -/
theorem groups_complete_card :
    let output := ((start overloadedCards {}).process [.raw "app.Card"]).1
    output.models.map (·.groups.entries) =
        [[⟨"click", [⟨"onClick", .raw "Listener"⟩, ⟨"clickable", .raw "boolean"⟩],
            some ⟨"onClick", .raw "Listener"⟩⟩,
          ⟨"title", [⟨"title", .raw "String"⟩, ⟨"title", .raw "int"⟩], some ⟨"title", .raw "int"⟩⟩]] ∧
      ∀ model ∈ output.models, ∃ fields, CompleteGroups {} fields model := by
  refine ⟨by decide +kernel, fun model planned => ?_⟩
  obtain ⟨_, _, _, own, inherited, _, _, _, _, complete⟩ :=
    (groups_complete (start overloadedCards {}) [.raw "app.Card"]).1 model planned
  exact ⟨own ++ inherited, complete⟩

end Planner

end ModelPlanner
