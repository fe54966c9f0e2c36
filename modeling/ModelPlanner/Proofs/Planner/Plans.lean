/-
**How a model comes about.**

A `Plan` holds what the two phases find on the way from a declaration to its model, with the equations
that lead from each step to the next one. The classes above are read from their fields: what staged
targets tell about them is the same.

* `Plan.overloaded_eq`: the last step makes the groups of overloads, of which there are none unless they
  are to be grouped;
* `exists_plan`: every model of a batch is the model of a plan of one of the targets, whatever the
  other targets are and whatever the planner has processed before.
-/

import ModelPlanner.Proofs.Planner.Stages

namespace ModelPlanner.Planner

/-- The steps from a declaration to its model. -/
structure Plan (catalog : Catalog) (config : Config) (declaration : Declaration) where
  methods : List Method
  styled : Model
  warnings : List Diagnostic
  own : List FieldAttribute
  registered : Model
  inherited : List FieldAttribute
  merged : Model
  grouped : Model
  model : Model
  styled_eq : applyArguments config declaration
    (.bare (.ofDeclaration catalog config declaration) methods) = .ok (styled, warnings)
  own_eq : FieldAttribute.ofDeclaration catalog config declaration = .ok own
  registered_eq : committed (styled.addAttributes (own.map (·.attr))) = .ok registered
  inherited_eq : inheritedFields catalog config (fun _ => none) declaration.package [] declaration =
    .ok inherited
  merged_eq : addInherited registered inherited = .ok merged
  grouped_eq : addGroups merged (statedGroups (own ++ inherited)) = .ok grouped
  model_eq : (if config.groupOverloads then
      addGroups grouped (overloadGroups grouped (statedGroups (own ++ inherited)))
    else .ok grouped) = .ok model

variable {catalog : Catalog} {config : Config}

namespace Plan

variable {declaration : Declaration} (plan : Plan catalog config declaration)

/-- The groups that a plan makes of overloads: none, unless these are to be grouped. -/
def overloads : List (String × List AttributeKey) :=
  if config.groupOverloads then
    overloadGroups plan.grouped (statedGroups (plan.own ++ plan.inherited))
  else []

@[simp]
theorem mem_overloads {group : String × List AttributeKey} :
    group ∈ plan.overloads ↔ config.groupOverloads = true ∧
      group ∈ overloadGroups plan.grouped (statedGroups (plan.own ++ plan.inherited)) := by
  unfold overloads
  split
  · next grouping => simp [grouping]
  · next apart => simp [apart]

/-- The last step of a plan makes the groups of overloads. -/
theorem overloaded_eq : addGroups plan.grouped plan.overloads = .ok plan.model := by
  have last := plan.model_eq
  unfold overloads
  split at last
  · next grouping => rwa [if_pos grouping]
  · next apart => rwa [if_neg apart]

end Plan

@[simp]
theorem mem_successes {ε α : Type} {results : List (Except ε α)} {value : α} :
    value ∈ successes results ↔ .ok value ∈ results := by
  unfold successes
  rw [List.mem_filterMap]
  constructor
  · rintro ⟨result, member, success⟩
    cases result with
    | error error => cases success
    | ok found =>
      cases success
      exact member
  · exact fun member => ⟨_, member, rfl⟩

/-- The stages of a batch are stages of its targets, each with some cache. -/
theorem exists_of_mem_stageAll {targets : List TypeName} {cache : MethodCache}
    {result : Except Dropped Stage} (member : result ∈ (stageAll catalog config targets cache).1) :
    ∃ target ∈ targets, ∃ before, result = (stage catalog config target before).1 := by
  induction targets generalizing cache with
  | nil => cases member
  | cons target targets ih =>
    rcases List.mem_cons.mp member with rfl | later
    · exact ⟨target, List.mem_cons_self, cache, rfl⟩
    · obtain ⟨other, listed, before, same⟩ := ih later
      exact ⟨other, List.mem_cons_of_mem target listed, before, same⟩

/-- A model is started, without attributes, for a declaration that is not final. -/
theorem ofDeclaration_eq_ok {declaration : Declaration} {cache : MethodCache} {started : Model}
    (begun : (Model.ofDeclaration catalog config declaration cache).1 = .ok started) :
    declaration.modifiers.has .final = false ∧
      started = .bare (.ofDeclaration catalog config declaration)
        (cache.chainableMethods catalog config declaration).1 := by
  unfold Model.ofDeclaration at begun
  split at begun
  · cases begun
  · next open_ =>
    cases begun
    exact ⟨Bool.eq_false_iff.mpr open_, rfl⟩

/-- A target that is staged has a declaration, whose model is started and filled. -/
theorem exists_of_stage {target : TypeName} {cache : MethodCache} {result : Stage}
    (staged : (stage catalog config target cache).1 = .ok result) :
    ∃ declaration started, catalog.resolve target = some declaration ∧
      (Model.ofDeclaration catalog config declaration cache).1 = .ok started ∧
      fill catalog config declaration started = .ok result := by
  unfold stage at staged
  split at staged
  · cases staged
  · next declaration resolved =>
    cases filled : (Model.ofDeclaration catalog config declaration cache).1.bind
        (fill catalog config declaration) with
    | error error =>
      dsimp only at staged
      rw [filled] at staged
      cases staged
    | ok stage =>
      dsimp only at staged
      rw [filled] at staged
      cases staged
      obtain ⟨started, begun, filled⟩ := bind_eq_ok_iff.mp filled
      exact ⟨declaration, started, resolved, begun, filled⟩

/-- The stage of a declaration that is finished beside no others has a plan. -/
theorem exists_plan_of_stage {declaration : Declaration} {methods : List Method} {stage : Stage}
    {model : Model} (filled : fill catalog config declaration
      (.bare (.ofDeclaration catalog config declaration) methods) = .ok stage)
    (completed : complete catalog config [] stage = .ok model) :
    ∃ plan : Plan catalog config declaration, plan.methods = methods ∧ plan.model = model := by
  unfold fill at filled
  obtain ⟨⟨styled, warnings⟩, styled_eq, filled⟩ := bind_eq_ok_iff.mp filled
  obtain ⟨own, own_eq, filled⟩ := bind_eq_ok_iff.mp filled
  obtain ⟨registered, registered_eq, filled⟩ := bind_eq_ok_iff.mp filled
  cases filled
  unfold complete at completed
  obtain ⟨inherited, inherited_eq, completed⟩ := bind_eq_ok_iff.mp completed
  obtain ⟨merged, merged_eq, completed⟩ := bind_eq_ok_iff.mp completed
  obtain ⟨grouped, grouped_eq, model_eq⟩ := bind_eq_ok_iff.mp completed
  exact ⟨⟨methods, styled, warnings, own, registered, inherited, merged, grouped, model, styled_eq,
    own_eq, registered_eq, inherited_eq, merged_eq, grouped_eq, model_eq⟩, rfl, rfl⟩

/-- The stages of a batch are filled from the declarations of its targets. -/
theorem exists_of_mem_stages {targets : List TypeName} {cache : MethodCache} {stage : Stage}
    (member : stage ∈ successes (stageAll catalog config targets cache).1) :
    ∃ target ∈ targets, ∃ declaration methods, catalog.resolve target = some declaration ∧
      fill catalog config declaration
        (.bare (.ofDeclaration catalog config declaration) methods) = .ok stage := by
  obtain ⟨target, listed, before, same⟩ := exists_of_mem_stageAll (mem_successes.mp member)
  obtain ⟨declaration, started, resolved, begun, filled⟩ := exists_of_stage same.symm
  obtain ⟨_, rfl⟩ := ofDeclaration_eq_ok begun
  exact ⟨target, listed, declaration, _, resolved, filled⟩

theorem of_mem_stages {targets : List TypeName} {cache : MethodCache} {stage : Stage}
    (member : stage ∈ successes (stageAll catalog config targets cache).1) :
    ∃ target, stage.Of catalog config target := by
  obtain ⟨target, _, declaration, methods, resolved, filled⟩ := exists_of_mem_stages member
  exact ⟨target, fill_of resolved filled⟩

/-- The model of a batch is completed, beside no others, from one of the stages. -/
theorem exists_stage {planner : Planner} {targets : List TypeName} {model : Model}
    (planned : model ∈ (planner.process targets).1.models) :
    ∃ stage ∈ successes (stageAll planner.catalog planner.config targets planner.cache).1,
      complete planner.catalog planner.config [] stage = .ok model := by
  obtain ⟨finished, success, rfl⟩ := List.mem_map.mp planned
  obtain ⟨stage, staged, finishing⟩ := List.mem_map.mp (mem_successes.mp success)
  refine ⟨stage, staged, ?_⟩
  rw [finish_eq fun _ => of_mem_stages] at finishing
  unfold finish at finishing
  split at finishing
  · cases finishing
  · next completed =>
    cases finishing
    exact completed

/-- **Every model of a batch has a plan** from the declaration of one of the targets. -/
theorem exists_plan {planner : Planner} {targets : List TypeName} {model : Model}
    (planned : model ∈ (planner.process targets).1.models) :
    ∃ target ∈ targets, ∃ declaration, planner.catalog.resolve target = some declaration ∧
      ∃ plan : Plan planner.catalog planner.config declaration, plan.model = model := by
  obtain ⟨stage, staged, completed⟩ := exists_stage planned
  obtain ⟨target, member, declaration, methods, resolved, filled⟩ := exists_of_mem_stages staged
  obtain ⟨plan, _, same⟩ := exists_plan_of_stage filled completed
  exact ⟨target, member, declaration, resolved, plan, same⟩

end ModelPlanner.Planner
