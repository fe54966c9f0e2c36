/-
**Targets do not disturb each other.**

The two phases of a batch pass two things from one target to another: the cache of the method walks
and the attributes of staged declarations. Neither changes a result.

* `stageAll_of_sound`: with a sound cache and short targets the first phase gives every target what it
  gives it alone (`stageAlone`), and leaves a sound cache;
* `stageAlone_cases`: it drops the target under its name, or keeps a stage of its declaration with the
  attributes of the declaration's own fields, which warns at most (`Stage.Of`);
* `finish_eq`: beside such stages the second phase finishes a stage as it does without them.
-/

import ModelPlanner.Planner
import ModelPlanner.Proofs.Hierarchy.Methods
import ModelPlanner.Proofs.Outcome

namespace ModelPlanner.Planner

variable {catalog : Catalog} {config : Config}

/-! ### The first phase -/

variable (catalog config) in
/-- The first phase of a target alone. -/
def stageAlone (target : TypeName) : Except Dropped Stage :=
  (stage catalog config target .empty).1

section Sound

variable {cache : MethodCache} (sound : cache.Sound catalog config)
include sound

/-- With a sound cache a declaration starts the same model as with the empty one. -/
theorem ofDeclaration_of_sound {declaration : Declaration} {above : List Declaration}
    (named : catalog.get? declaration.qualifiedName = some declaration)
    (chain : catalog.Chain declaration above) (within : above.length ≤ hierarchyLimit) :
    (Model.ofDeclaration catalog config declaration cache).1 =
        (Model.ofDeclaration catalog config declaration .empty).1 ∧
      (Model.ofDeclaration catalog config declaration cache).2.Sound catalog config := by
  obtain ⟨found, kept⟩ := MethodCache.chainableMethods_of_sound sound named chain within
  obtain ⟨alone, _⟩ :=
    MethodCache.chainableMethods_of_sound MethodCache.sound_empty named chain within
  unfold Model.ofDeclaration
  split
  · exact ⟨rfl, sound⟩
  · refine ⟨?_, kept⟩
    dsimp only
    rw [found, alone]

/-- With a sound cache a short target is staged as it is alone. -/
theorem stage_of_sound {target : TypeName} (short : catalog.Short target) :
    (stage catalog config target cache).1 = stageAlone catalog config target ∧
      (stage catalog config target cache).2.Sound catalog config := by
  unfold stageAlone stage
  cases resolved : catalog.resolve target with
  | none => exact ⟨rfl, sound⟩
  | some declaration =>
    obtain ⟨above, chain, within⟩ := short declaration resolved
    obtain ⟨same, kept⟩ :=
      ofDeclaration_of_sound sound (Catalog.resolve_eq_some resolved).2 chain within
    refine ⟨?_, kept⟩
    dsimp only
    rw [same]

/-- **With a sound cache short targets are staged as they are alone.** -/
theorem stageAll_of_sound {targets : List TypeName}
    (short : ∀ target ∈ targets, catalog.Short target) :
    (stageAll catalog config targets cache).1 = targets.map (stageAlone catalog config) ∧
      (stageAll catalog config targets cache).2.Sound catalog config := by
  induction targets generalizing cache with
  | nil => exact ⟨rfl, sound⟩
  | cons target targets ih =>
    obtain ⟨first, after⟩ := stage_of_sound sound (short target List.mem_cons_self)
    obtain ⟨rest, final⟩ := ih after fun later member => short later (List.mem_cons_of_mem _ member)
    refine ⟨?_, final⟩
    rw [List.map_cons, ← first, ← rest]
    rfl

end Sound

/-! ### What a stage holds -/

variable (catalog config) in
/-- A stage of the declaration of a target, with the attributes of the declaration's own fields and
without errors among its diagnostics. -/
structure Stage.Of (stage : Stage) (target : TypeName) : Prop where
  resolved : catalog.resolve target = some stage.declaration
  own_eq : FieldAttribute.ofDeclaration catalog config stage.declaration = .ok stage.own
  warns : ∀ diagnostic ∈ stage.warnings, diagnostic.isError = false

/-- The arguments of an annotation warn at most. -/
theorem applyArguments_warns {declaration : Declaration} {model styled : Model}
    {warnings : List Diagnostic}
    (applied : applyArguments config declaration model = .ok (styled, warnings)) :
    ∀ diagnostic ∈ warnings, diagnostic.isError = false := by
  have layout : ∀ mark, ∀ diagnostic ∈ (applyLayout model mark).2, diagnostic.isError = false := by
    intro mark diagnostic member
    unfold applyLayout at member
    split at member
    · cases member
    · split at member
      · cases member
      · rw [List.mem_singleton.mp member]
        rfl
  unfold applyArguments at applied
  split at applied
  · cases applied
    intro diagnostic member
    cases member
  · next mark _ =>
    obtain ⟨_, _, same⟩ := map_eq_ok_iff.mp applied
    cases same
    exact layout mark

/-- What the stage of a declaration holds. -/
theorem fill_of {target : TypeName} {declaration : Declaration} {model : Model} {stage : Stage}
    (resolved : catalog.resolve target = some declaration)
    (filled : fill catalog config declaration model = .ok stage) :
    stage.Of catalog config target := by
  unfold fill at filled
  obtain ⟨⟨styled, warnings⟩, applied, filled⟩ := bind_eq_ok_iff.mp filled
  obtain ⟨own, read, filled⟩ := bind_eq_ok_iff.mp filled
  obtain ⟨registered, _, filled⟩ := bind_eq_ok_iff.mp filled
  cases filled
  exact ⟨resolved, read, applyArguments_warns applied⟩

variable (catalog config) in
/-- A target alone is dropped under its name, or it has a stage. -/
theorem stageAlone_cases (target : TypeName) :
    (∃ error, stageAlone catalog config target = .error ⟨target.name, error⟩) ∨
      ∃ stage, stageAlone catalog config target = .ok stage ∧ stage.Of catalog config target := by
  unfold stageAlone stage
  cases resolved : catalog.resolve target with
  | none => exact Or.inl ⟨_, rfl⟩
  | some declaration =>
    dsimp only
    cases filled :
        (Model.ofDeclaration catalog config declaration .empty).1.bind
          (fill catalog config declaration) with
    | error error => exact Or.inl ⟨error, rfl⟩
    | ok stage =>
      obtain ⟨model, _, filled⟩ := bind_eq_ok_iff.mp filled
      exact Or.inr ⟨stage, rfl, fill_of resolved filled⟩

/-! ### The second phase -/

/-- Taking the attributes of a class instead of reading them changes nothing that is inherited. -/
theorem inheritedFields_eq {known : String → Option (List FieldAttribute)}
    (faithful : ∀ name own declaration, known name = some own →
      catalog.get? name = some declaration →
        FieldAttribute.ofDeclaration catalog config declaration = .ok own)
    (package : String) (visited : List String) (declaration : Declaration) :
    inheritedFields catalog config known package visited declaration =
      inheritedFields catalog config (fun _ => none) package visited declaration := by
  fun_induction inheritedFields catalog config known package visited declaration with
  | case1 visited declaration ended =>
    rw [inheritedFields, ended]
  | case2 visited declaration parent next within rest own taken ih =>
    rw [inheritedFields, next]
    dsimp only
    rw [if_pos within, faithful _ own parent taken (Catalog.get?_superDeclaration next), ← ih]
  | case3 visited declaration parent next within rest unknown ih =>
    rw [inheritedFields, next]
    dsimp only
    rw [if_pos within, ← ih]
  | case4 visited declaration parent next beyond =>
    rw [inheritedFields, next]
    dsimp only
    rw [if_neg beyond]

variable (catalog config) in
/-- A stage is dropped under the name of its declaration, or its model is finished. -/
theorem finish_cases (stages : List Stage) (stage : Stage) :
    (∃ error, finish catalog config stages stage =
        .error ⟨stage.declaration.qualifiedName, error⟩) ∨
      ∃ model, finish catalog config stages stage = .ok ⟨model, stage.warnings⟩ := by
  unfold finish
  cases complete catalog config stages stage with
  | error error => exact Or.inl ⟨error, rfl⟩
  | ok model => exact Or.inr ⟨model, rfl⟩

section Staged

variable {stages : List Stage} (staged : ∀ stage ∈ stages, ∃ target, stage.Of catalog config target)
include staged

/-- What stages of targets tell about a class above is what its fields declare. -/
theorem ofDeclaration_of_ownFields? (name : String) (own : List FieldAttribute)
    (declaration : Declaration) (taken : ownFields? stages name = some own)
    (named : catalog.get? name = some declaration) :
    FieldAttribute.ofDeclaration catalog config declaration = .ok own := by
  obtain ⟨other, found, rfl⟩ := Option.map_eq_some_iff.mp taken
  obtain ⟨target, resolved, read, _⟩ := staged other (List.mem_of_find?_eq_some found)
  have same : other.declaration.qualifiedName = name := by simpa using List.find?_some found
  have there := (Catalog.resolve_eq_some resolved).2
  rw [same, named] at there
  cases there
  exact read

/-- Beside stages of targets a stage is completed as it is without them. -/
theorem complete_eq (stage : Stage) :
    complete catalog config stages stage = complete catalog config [] stage := by
  unfold complete
  rw [inheritedFields_eq (ofDeclaration_of_ownFields? staged)]
  rfl

/-- Beside stages of targets a stage is finished as it is without them. -/
theorem finish_eq (stage : Stage) :
    finish catalog config stages stage = finish catalog config [] stage := by
  unfold finish
  rw [complete_eq staged]

end Staged

end ModelPlanner.Planner
