/-
**Planned models have a history.**

Edits that bring built attributes lead from one model to another: `Model.LeadsTo`. The phases of a
planner consist of such edits, so whatever holds of every model with a history holds of the models of a
batch.

* `LeadsTo.pruned`: the methods that are left at the end are those of the start that are not shadowed;
* `Plan.leadsTo`: a plan leads from the new model of its declaration to its last model;
* `process_reachable`: every model of a batch is reachable;
* `exists_declaration_of_process`, `exists_declaration_of_process_short`: a target that is planned alone,
  and short targets in any batch, get models that start with the chainable methods of their declarations.
-/

import ModelPlanner.Proofs.Model.Edits
import ModelPlanner.Proofs.Planner.Batch
import ModelPlanner.Proofs.Planner.Inheritance
import ModelPlanner.Proofs.Registry.Shadowing

namespace ModelPlanner

namespace Model

/-- Edits that bring built attributes lead from one model to another. -/
def LeadsTo (first last : Model) : Prop :=
  ∃ edits : List Edit, (∀ edit ∈ edits, edit.BringsBuilt) ∧ first.run edits = last

namespace LeadsTo

variable {first middle last : Model}

theorem refl (model : Model) : model.LeadsTo model :=
  ⟨[], fun _ member => absurd member List.not_mem_nil, rfl⟩

theorem trans (one : first.LeadsTo middle) (two : middle.LeadsTo last) : first.LeadsTo last := by
  obtain ⟨front, frontBuilt, rfl⟩ := one
  obtain ⟨back, backBuilt, rfl⟩ := two
  refine ⟨front ++ back, fun edit member => ?_, List.foldl_append⟩
  rcases List.mem_append.mp member with early | late
  · exact frontBuilt edit early
  · exact backBuilt edit late

theorem edit (model : Model) (edit : Edit) (built : edit.BringsBuilt) :
    model.LeadsTo (model.edit edit).2 :=
  ⟨[edit], List.forall_mem_singleton.mpr built, rfl⟩

theorem reachable (leads : first.LeadsTo last) (start : first.Reachable) : last.Reachable := by
  obtain ⟨edits, built, rfl⟩ := leads
  exact start.run edits built

/-- What holds of the first model, and is kept by every edit, holds of the last one. -/
theorem induction {motive : Model → Prop} (leads : first.LeadsTo last) (start : motive first)
    (step : ∀ model edit, edit.BringsBuilt → motive model → motive (model.edit edit).2) :
    motive last := by
  obtain ⟨edits, built, rfl⟩ := leads
  induction edits generalizing first with
  | nil => exact start
  | cons edit edits ih =>
    obtain ⟨one, others⟩ := List.forall_mem_cons.mp built
    exact ih (step first edit one start) others

end LeadsTo

end Model

/-! ### The methods that are left -/

namespace Registry

/-- Moving attributes to a group keeps a registry pruned. -/
theorem pruned_regroup {initial : List Method} {registry : Registry} (pruned : Pruned initial registry)
    (keys : List AttributeKey) (group? : Option String) :
    Pruned initial (registry.regroup keys group?) := by
  have shadows : ∀ method, (registry.regroup keys group?).Shadows method ↔ registry.Shadows method := by
    simp [shadows_iff_keys]
  unfold Pruned at pruned ⊢
  simpa [shadows] using pruned

end Registry

namespace Model

/-- An edit of a model keeps its registry pruned. -/
theorem pruned_edit {initial : List Method} {model : Model}
    (pruned : Registry.Pruned initial model.registry) {edit : Edit} (built : edit.BringsBuilt) :
    Registry.Pruned initial (model.edit edit).2.registry := by
  rcases edit_cases model built with
    ⟨registry, _⟩ | ⟨registration, _, registry, _⟩ | ⟨_, _, group, _, after⟩
  · rw [registry]
    exact pruned
  · rw [registry]
    exact Registry.edit_induction pruned fun _ attr _ => (Registry.pruned_insert · attr)
  · rw [after]
    exact Registry.pruned_regroup (Registry.pruned_regroup pruned _ _) _ _

/-- The methods that are left are those of the start, equal ones taken once, that are not shadowed. -/
theorem LeadsTo.pruned {header : ModelHeader} {methods : List Method} {last : Model}
    (leads : (bare header methods).LeadsTo last) :
    Registry.Pruned (keepFirst Method.identity methods) last.registry :=
  leads.induction
    (motive := fun model => Registry.Pruned (keepFirst Method.identity methods) model.registry)
    (Registry.pruned_ofMethods methods) fun _ _ built pruned => pruned_edit pruned built

/-- A model of a declaration: it starts with the chainable methods of the declaration and goes on with
edits that bring built attributes. -/
def Of (catalog : Catalog) (config : Config) (declaration : Declaration) (model : Model) : Prop :=
  ∃ started, (ofDeclaration catalog config declaration .empty).1 = .ok started ∧ started.LeadsTo model

end Model

namespace Planner

/-! ### The steps of a plan -/

section Steps

variable {config : Config} {declaration : Declaration} {model after : Model}

/-- An operation that succeeds like an edit leads on. -/
theorem leadsTo_of_committed {α : Type} {result : Except ModelError α × Model} (edit : Model.Edit)
    (built : edit.BringsBuilt) (done : committed result = .ok after)
    (same : (model.edit edit).2 = result.2) : model.LeadsTo after := by
  obtain ⟨value, rfl⟩ := committed_eq_ok done
  rw [← show (model.edit edit).2 = after from same]
  exact .edit model edit built

theorem applyLayout_leadsTo (mark : Annotation) : model.LeadsTo (applyLayout model mark).1 := by
  unfold applyLayout
  split
  · exact .refl model
  · split
    · exact .edit model (.setAutoLayout _) trivial
    · exact .refl model

theorem applyStyle_leadsTo {mark : Annotation} (done : applyStyle model mark = .ok after) :
    model.LeadsTo after := by
  unfold applyStyle at done
  split at done
  · cases done
    exact .refl model
  · split at done
    · cases done
    · exact leadsTo_of_committed (.setStyle _) trivial done rfl

theorem applyArguments_leadsTo {warnings : List Diagnostic}
    (done : applyArguments config declaration model = .ok (after, warnings)) : model.LeadsTo after := by
  unfold applyArguments at done
  split at done
  · cases done
    exact .refl model
  · next mark _ =>
    obtain ⟨styled, applied, same⟩ := map_eq_ok_iff.mp done
    cases same
    exact (applyLayout_leadsTo mark).trans (applyStyle_leadsTo applied)

theorem addInherited_leadsTo {fields : List FieldAttribute}
    (ungrouped : ∀ field ∈ fields, field.attr.group? = none)
    (done : addInherited model fields = .ok after) : model.LeadsTo after := by
  refine foldlM_induction (motive := fun _ => model.LeadsTo) (.refl model)
    (fun _ field member before next leads step => leads.trans ?_) done
  have built : field.attr.Built := Attribute.built_iff.mpr (ungrouped field member)
  exact leadsTo_of_committed (.addIfAbsent field.attr) built step rfl

theorem addGroups_leadsTo {groups : List (String × List AttributeKey)}
    (done : addGroups model groups = .ok after) : model.LeadsTo after :=
  foldlM_induction (motive := fun _ => model.LeadsTo) (.refl model)
    (fun _ (name, keys) _ _ _ leads step =>
      leads.trans (leadsTo_of_committed (.addGroup name keys) trivial step rfl)) done

end Steps

variable {catalog : Catalog} {config : Config} {declaration : Declaration}

/-- **A plan leads to its model**, from the new model of its declaration. -/
theorem Plan.leadsTo (plan : Plan catalog config declaration) :
    (Model.bare (.ofDeclaration catalog config declaration) plan.methods).LeadsTo plan.model := by
  have styled := applyArguments_leadsTo plan.styled_eq
  have ownBuilt : ∀ attr ∈ plan.own.map (·.attr), attr.Built := fun attr member =>
    Attribute.built_iff.mpr (plan.own_ungrouped attr member)
  have registered : plan.styled.LeadsTo plan.registered :=
    leadsTo_of_committed (.addAttributes _) ownBuilt plan.registered_eq rfl
  have merged := addInherited_leadsTo plan.inherited_ungrouped plan.merged_eq
  have grouped := addGroups_leadsTo plan.grouped_eq
  have overloaded := addGroups_leadsTo plan.overloaded_eq
  exact styled.trans (registered.trans (merged.trans (grouped.trans overloaded)))

/-- **Every model of a batch is reachable.** -/
theorem process_reachable {planner : Planner} {targets : List TypeName} {model : Model}
    (planned : model ∈ (planner.process targets).1.models) : model.Reachable := by
  obtain ⟨_, _, _, _, plan, rfl⟩ := exists_plan planned
  exact plan.leadsTo.reachable (.bare _ _)

/-- The stage of a target alone is completed, beside no others, to a model of its declaration. -/
theorem exists_declaration_of_stageAlone {target : TypeName} {stage : Stage} {model : Model}
    (staged : stageAlone catalog config target = .ok stage)
    (completed : complete catalog config [] stage = .ok model) :
    ∃ declaration, catalog.resolve target = some declaration ∧ model.Of catalog config declaration := by
  obtain ⟨declaration, started, resolved, begun, filled⟩ := exists_of_stage staged
  obtain ⟨_, rfl⟩ := ofDeclaration_eq_ok begun
  obtain ⟨plan, methods, rfl⟩ := exists_plan_of_stage filled completed
  exact ⟨declaration, resolved, _, begun, methods ▸ plan.leadsTo⟩

/-- Planned alone, a target gets a model of its declaration. -/
theorem exists_declaration_of_process {target : TypeName} {model : Model}
    (planned : model ∈ ((start catalog config).process [target]).1.models) :
    ∃ declaration, catalog.resolve target = some declaration ∧ model.Of catalog config declaration := by
  obtain ⟨stage, staged, completed⟩ := exists_stage planned
  exact exists_declaration_of_stageAlone (List.mem_singleton.mp (mem_successes.mp staged)).symm completed

/-- In a batch, short targets get models of their declarations, whatever short targets the planner has
processed before. -/
theorem exists_declaration_of_process_short {planner : Planner} (reached : Reached catalog config planner)
    {targets : List TypeName} (short : ∀ target ∈ targets, catalog.Short target) {model : Model}
    (planned : model ∈ (planner.process targets).1.models) :
    ∃ target ∈ targets, ∃ declaration, catalog.resolve target = some declaration ∧
      model.Of catalog config declaration := by
  obtain ⟨cache, sound, rfl⟩ := reached.sound
  obtain ⟨stage, staged, completed⟩ := exists_stage planned
  rw [(stageAll_of_sound sound short).1] at staged
  obtain ⟨target, listed, alone⟩ := List.mem_map.mp (mem_successes.mp staged)
  exact ⟨target, listed, exists_declaration_of_stageAlone alone completed⟩

end Planner

end ModelPlanner
