/-
**A batch is the sum of its targets.**

A planner that has processed any short targets so far is `Reached`.

* `process_of_sound`: its output for short targets is the output for what the first phase gives each
  of them alone (`outputOf`), and it stays sound;
* `models_eq`, `diagnostics_perm`: an output for several results has the models and, up to the order,
  the diagnostics of the outputs for each of them;
* `accountsFor_stageAlone`: the output for one target has either one model and no error, or no model
  and one error of the target's name (`Output.AccountsFor`);
* `process_independent`: hence a batch puts together what new planners find for its targets.
-/

import Mathlib.Data.List.Perm.Basic
import ModelPlanner.Proofs.Planner.Stages

namespace ModelPlanner.Planner

/-- The output has one model and no error, or it has no model and one error, which is about the
target. -/
def Output.AccountsFor (output : Output) (target : TypeName) : Prop :=
  (∃ model, output.models = [model] ∧
      ∀ diagnostic ∈ output.diagnostics.entries, diagnostic.isError = false) ∨
    (output.models = [] ∧
      ∃ error, output.diagnostics.entries.filter Diagnostic.isError = [error] ∧
        error.origin = target.name)

section Output

variable (catalog : Catalog) (config : Config)

/-! ### The output of a batch -/

/-- The second phase of staged targets, each beside no others. -/
def finishAll (staged : List (Except Dropped Stage)) : List (Except Dropped Finished) :=
  (successes staged).map (finish catalog config [])

/-- The models of staged targets. -/
def plannedModels (staged : List (Except Dropped Stage)) : List Model :=
  (successes (finishAll catalog config staged)).map (·.model)

/-- The warnings about the models of staged targets. -/
def hashChecks (staged : List (Except Dropped Stage)) : List Diagnostic :=
  if config.requireHashCode then
    (plannedModels catalog config staged).flatMap (hashWarnings catalog)
  else []

/-- The output for staged targets. -/
def outputOf (staged : List (Except Dropped Stage)) : Output where
  models := plannedModels catalog config staged
  diagnostics := ⟨stagingErrors staged ++ finishingDiagnostics (finishAll catalog config staged) ++
    hashChecks catalog config staged⟩

variable {catalog config}

/-- The stages of targets alone are finished without each other. -/
theorem finish_stages (targets : List TypeName) :
    (successes (targets.map (stageAlone catalog config))).map
        (finish catalog config (successes (targets.map (stageAlone catalog config)))) =
      finishAll catalog config (targets.map (stageAlone catalog config)) := by
  refine List.map_congr_left fun stage _ => finish_eq (fun other member => ?_) stage
  obtain ⟨result, staged, success⟩ := List.mem_filterMap.mp member
  obtain ⟨target, _, rfl⟩ := List.mem_map.mp staged
  rcases stageAlone_cases catalog config target with ⟨error, dropped⟩ | ⟨stage, kept, holds⟩
  · rw [dropped] at success
    cases success
  · rw [kept] at success
    cases success
    exact ⟨target, holds⟩

/-- **A sound planner gives short targets what they get alone**, and stays sound. -/
theorem process_of_sound {cache : MethodCache} (sound : cache.Sound catalog config)
    {targets : List TypeName} (short : ∀ target ∈ targets, catalog.Short target) :
    (process ⟨catalog, config, cache⟩ targets).1 =
        outputOf catalog config (targets.map (stageAlone catalog config)) ∧
      ∃ after : MethodCache, after.Sound catalog config ∧
        (process ⟨catalog, config, cache⟩ targets).2 = ⟨catalog, config, after⟩ := by
  obtain ⟨staged, kept⟩ := stageAll_of_sound sound short
  refine ⟨?_, _, kept, rfl⟩
  unfold process
  dsimp only
  rw [staged, finish_stages]
  rfl

/-! ### Sums -/

/-- A function that respects concatenation sums up its values for the single elements. -/
theorem eq_flatMap_of_append {α β : Type} (sum : List α → List β) (empty : sum [] = [])
    (append : ∀ front back, sum (front ++ back) = sum front ++ sum back) (list : List α) :
    sum list = list.flatMap fun element => sum [element] := by
  induction list with
  | nil => exact empty
  | cons first rest ih =>
    rw [List.flatMap_cons, ← ih]
    exact append [first] rest

@[simp]
theorem finishAll_append (front back : List (Except Dropped Stage)) :
    finishAll catalog config (front ++ back) =
      finishAll catalog config front ++ finishAll catalog config back := by
  simp [finishAll, successes]

@[simp]
theorem plannedModels_append (front back : List (Except Dropped Stage)) :
    plannedModels catalog config (front ++ back) =
      plannedModels catalog config front ++ plannedModels catalog config back := by
  simp [plannedModels, successes]

/-- The models of an output are those of its single results. -/
theorem models_eq (staged : List (Except Dropped Stage)) :
    (outputOf catalog config staged).models =
      staged.flatMap fun result => (outputOf catalog config [result]).models :=
  eq_flatMap_of_append _ rfl plannedModels_append staged

/-- The diagnostics of an output are those of its single results in another order: the batch lists
them by phase. -/
theorem diagnostics_perm (staged : List (Except Dropped Stage)) :
    (outputOf catalog config staged).diagnostics.entries.Perm
      (staged.flatMap fun result => (outputOf catalog config [result]).diagnostics.entries) := by
  have staging := eq_flatMap_of_append stagingErrors rfl
    (fun front back => by simp [stagingErrors]) staged
  have finishing := eq_flatMap_of_append
    (fun staged => finishingDiagnostics (finishAll catalog config staged)) rfl
    (fun front back => by simp [finishingDiagnostics]) staged
  have checking := eq_flatMap_of_append (hashChecks catalog config)
    (by simp [hashChecks, plannedModels, finishAll, successes])
    (fun front back => by simp only [hashChecks, plannedModels_append]; split <;> simp) staged
  show List.Perm (stagingErrors staged ++ finishingDiagnostics (finishAll catalog config staged) ++
    hashChecks catalog config staged) _
  rw [staging, finishing, checking]
  exact ((List.flatMap_append_perm staged _ _).append_right _).trans
    (List.flatMap_append_perm staged _ _)

/-! ### Accounting -/

variable (catalog config) in
/-- The output for one target: its model and warnings, or the error that drops it. -/
def Output.ofTarget : Except Dropped Finished → Output
  | .error dropped => ⟨[], ⟨[dropped.diagnostic]⟩⟩
  | .ok finished =>
    { models := [finished.model]
      diagnostics :=
        ⟨finished.warnings ++
          if config.requireHashCode then hashWarnings catalog finished.model else []⟩ }

theorem outputOf_single (result : Except Dropped Stage) :
    outputOf catalog config [result] =
      .ofTarget catalog config (result.bind (finish catalog config [])) := by
  unfold outputOf hashChecks plannedModels finishAll
  cases result with
  | error dropped =>
    show Output.mk [] ⟨[dropped.diagnostic] ++ (if config.requireHashCode then [] else [])⟩ =
      ⟨[], ⟨[dropped.diagnostic]⟩⟩
    rw [ite_self, List.append_nil]
  | ok stage =>
    show _ = Output.ofTarget catalog config (finish catalog config [] stage)
    have only : successes [(Except.ok stage : Except Dropped Stage)] = [stage] := rfl
    rw [only, List.map_singleton]
    cases finish catalog config [] stage with
    | error dropped =>
      show Output.mk [] ⟨[dropped.diagnostic] ++ (if config.requireHashCode then [] else [])⟩ =
        ⟨[], ⟨[dropped.diagnostic]⟩⟩
      rw [ite_self, List.append_nil]
    | ok finished => simp [Output.ofTarget, stagingErrors, finishingDiagnostics, successes,
        Except.toOption]

theorem hashWarnings_warn {model : Model} :
    ∀ diagnostic ∈ hashWarnings catalog model, diagnostic.isError = false := by
  intro diagnostic member
  unfold hashWarnings at member
  split at member
  · cases member
  · obtain ⟨attr, _, rfl⟩ := List.mem_map.mp member
    rfl

theorem accountsFor_error {dropped : Dropped} {target : TypeName}
    (named : dropped.origin = target.name) :
    (Output.ofTarget catalog config (.error dropped)).AccountsFor target :=
  Or.inr ⟨rfl, dropped.diagnostic, rfl, named⟩

/-- **Every target is accounted for**: alone it yields a model, or the error that drops it. -/
theorem accountsFor_stageAlone (target : TypeName) :
    (outputOf catalog config [stageAlone catalog config target]).AccountsFor target := by
  rw [outputOf_single]
  rcases stageAlone_cases catalog config target with ⟨error, dropped⟩ | ⟨stage, kept, holds⟩
  · rw [dropped]
    exact accountsFor_error rfl
  · rw [kept]
    show (Output.ofTarget catalog config (finish catalog config [] stage)).AccountsFor target
    rcases finish_cases catalog config [] stage with ⟨error, dropped⟩ | ⟨model, finished⟩
    · rw [dropped]
      exact accountsFor_error (Catalog.resolve_eq_some holds.resolved).1
    · rw [finished]
      refine Or.inl ⟨model, rfl, fun diagnostic member => ?_⟩
      rcases List.mem_append.mp member with stated | checked
      · exact holds.warns diagnostic stated
      · split at checked
        · exact hashWarnings_warn diagnostic checked
        · cases checked

end Output

/-! ### Batches -/

/-- A planner that has processed batches of short targets only. -/
inductive Reached (catalog : Catalog) (config : Config) : Planner → Prop
  | start : Reached catalog config (.start catalog config)
  | process {planner : Planner} {targets : List TypeName} :
      Reached catalog config planner → (∀ target ∈ targets, catalog.Short target) →
        Reached catalog config (planner.process targets).2

variable {catalog : Catalog} {config : Config}

/-- The catalog and the configuration stay, and the cache stays sound. -/
theorem Reached.sound {planner : Planner} (reached : Reached catalog config planner) :
    ∃ cache : MethodCache, cache.Sound catalog config ∧ planner = ⟨catalog, config, cache⟩ := by
  induction reached with
  | start => exact ⟨.empty, MethodCache.sound_empty, rfl⟩
  | process _ short ih =>
    obtain ⟨cache, sound, rfl⟩ := ih
    exact (process_of_sound sound short).2

/-- **Batches are independent.** A planner that has processed any batches before finds for a batch the
models that new planners find for its targets alone, in the order of the targets, and in some order
their diagnostics; and it accounts for every target. -/
theorem process_independent {planner : Planner} (reached : Reached catalog config planner)
    {targets : List TypeName} (short : ∀ target ∈ targets, catalog.Short target) :
    let output := (planner.process targets).1
    let alone := fun target => ((start catalog config).process [target]).1
    output.models = targets.flatMap (fun target => (alone target).models) ∧
      output.diagnostics.entries.Perm
        (targets.flatMap fun target => (alone target).diagnostics.entries) ∧
      ∀ target ∈ targets, (alone target).AccountsFor target := by
  intro output alone
  obtain ⟨cache, sound, rfl⟩ := reached.sound
  have whole : output = outputOf catalog config (targets.map (stageAlone catalog config)) :=
    (process_of_sound sound short).1
  have single : ∀ target ∈ targets,
      alone target = outputOf catalog config [stageAlone catalog config target] := by
    intro target member
    refine (process_of_sound MethodCache.sound_empty fun other same => ?_).1
    rw [List.mem_singleton.mp same]
    exact short target member
  refine ⟨?_, ?_, fun target member => ?_⟩
  · rw [whole, models_eq, List.flatMap_map]
    exact List.flatMap_congr fun target member => by rw [single target member]
  · rw [whole]
    refine (diagnostics_perm _).trans (.of_eq ?_)
    rw [List.flatMap_map]
    exact List.flatMap_congr fun target member => by rw [single target member]
  · rw [single target member]
    exact accountsFor_stageAlone target

/-- A class with a super class, the super class itself and a final class. -/
def cards : Catalog where
  entries :=
    [{ Declaration.bare .classKind "app.Card" with superType? := some (.raw "app.Base") },
      .bare .classKind "app.Base",
      { Declaration.bare .classKind "app.Sealed" with modifiers := .ofList [.final] }]
  distinct := by decide

theorem cards_short (target : TypeName) : cards.Short target := by
  intro declaration resolved
  have listed : declaration ∈ cards.entries :=
    Keyed.mem_of_get? (Catalog.resolve_eq_some resolved).2
  have base : cards.Chain (.bare .classKind "app.Base") [] := .root rfl
  simp only [cards, List.mem_cons, List.not_mem_nil, or_false] at listed
  rcases listed with rfl | rfl | rfl
  · exact ⟨[.bare .classKind "app.Base"], .step rfl base, by decide⟩
  · exact ⟨[], base, by decide⟩
  · exact ⟨[], .root rfl, by decide⟩

/-- A planner that has already seen the super class plans the class twice and the super class once, as
new planners do, and drops the final class and a missing one. -/
theorem process_independent_cards :
    let planner := ((start cards {}).process [.raw "app.Base"]).2
    let targets : List TypeName :=
      [.raw "app.Card", .raw "app.Sealed", .raw "app.Gone", .raw "app.Base", .raw "app.Card"]
    let output := (planner.process targets).1
    output.models.map (·.header.origin) = ["app.Card", "app.Base", "app.Card"] ∧
      output.diagnostics.count .error = 2 ∧
      output.models =
        targets.flatMap fun target => ((start cards {}).process [target]).1.models := by
  refine ⟨by decide +kernel, by decide +kernel, ?_⟩
  exact (process_independent (.process .start fun target _ => cards_short target)
    fun target _ => cards_short target).1

end ModelPlanner.Planner
