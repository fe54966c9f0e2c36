/-
**The signatures of a generated class.**

A generated class declares the signatures of its setters and of its overrides. Overrides come from
methods that differ in what identifies a method, and that is more than the signature: modifiers, names
and annotations of parameters, and the varargs mark.

* `setters_nodup`, `shadows_iff_sets`: no signature is set twice, and none that is set is overridden;
* `signatures_nodup_iff`: no signature is declared twice exactly if the methods that the hierarchy
  contributes under a signature that is not set are equal;
* `renamed_title_twice`: a class that declares the title of its super class with another parameter name
  is to override it twice.
-/

import Mathlib.Data.List.Nodup
import ModelPlanner.Proofs.Hierarchy.Overridable
import ModelPlanner.Proofs.Planner.Histories

namespace ModelPlanner

/-- The name of a setter with the type of its parameter. -/
def SetterPlan.signature (setter : SetterPlan) : String × List TypeName :=
  (setter.key.name, [setter.param.type])

namespace Surface

/-- The signatures of the setters and of the overrides. -/
def signatures (surface : Surface) : List (String × List TypeName) :=
  surface.setters.map SetterPlan.signature ++ surface.overrides.map (·.method.signature)

/-- A setter has a signature. -/
def Sets (surface : Surface) (signature : String × List TypeName) : Prop :=
  ∃ setter ∈ surface.setters, setter.signature = signature

variable {model : Model} {config : Config}

@[simp]
theorem planSetter_signature (attr : Attribute) :
    (planSetter model config attr).signature = (attr.key.name, [attr.key.type]) := by
  unfold planSetter SetterPlan.signature
  split <;> rfl

/-- No signature is set twice. -/
theorem setters_nodup : ((plan model config).setters.map SetterPlan.signature).Nodup := by
  have signatures : (plan model config).setters.map SetterPlan.signature =
      model.registry.attributes.keys.map fun key => (key.name, [key.type]) := by
    show (model.attributes.map (planSetter model config)).map SetterPlan.signature = _
    rw [Keyed.keys, List.map_map, List.map_map]
    exact List.map_congr_left fun attr _ => planSetter_signature attr
  rw [signatures]
  refine model.registry.attributes.distinct.map fun first second same => ?_
  obtain ⟨firstName, firstType⟩ := first
  cases same
  rfl

/-- A method is shadowed exactly when its signature is set. -/
theorem shadows_iff_sets {method : Method} :
    model.registry.Shadows method ↔ (plan model config).Sets method.signature := by
  have setters : (plan model config).setters = model.attributes.map (planSetter model config) := rfl
  rw [Sets, setters]
  constructor
  · rintro ⟨attr, registered, hides⟩
    refine ⟨_, List.mem_map_of_mem registered, ?_⟩
    rw [planSetter_signature]
    exact (of_decide_eq_true (Method.isShadowedBy_iff.mpr hides)).symm
  · rintro ⟨_, planned, same⟩
    obtain ⟨attr, registered, rfl⟩ := List.mem_map.mp planned
    rw [planSetter_signature] at same
    exact ⟨attr, registered, Method.isShadowedBy_iff.mp (decide_eq_true same.symm)⟩

/-! ### Overrides of methods that are not shadowed -/

section Pruned

variable {methods : List Method}
variable (pruned : Registry.Pruned (keepFirst Method.identity methods) model.registry)
include pruned

theorem identities_nodup : (model.registry.methods.map Method.identity).Nodup := by
  rw [pruned]
  exact (keepFirst_map_nodup Method.identity methods).sublist (List.filter_sublist.map _)

/-- What is overridden is one of the given methods, and its signature is not set. -/
theorem unset_of_mem (config : Config) {method : Method}
    (overridden : method ∈ model.registry.methods) :
    method ∈ methods ∧ ¬ (plan model config).Sets method.signature := by
  rw [pruned, List.mem_filter, decide_eq_true_eq] at overridden
  exact ⟨mem_keepFirst overridden.1, fun sets => overridden.2 (shadows_iff_sets.mpr sets)⟩

/-- A given method whose signature is not set, or one equal to it, is a method of the model. -/
theorem exists_overridden {method : Method} (given : method ∈ methods)
    (unset : ¬ (plan model config).Sets method.signature) :
    ∃ twin ∈ model.registry.methods, twin.identity = method.identity := by
  have kept : method.identity ∈ (keepFirst Method.identity methods).map Method.identity :=
    view_mem_keepFirst given
  obtain ⟨twin, kept, same⟩ := List.mem_map.mp kept
  refine ⟨twin, ?_, same⟩
  rw [pruned, List.mem_filter, decide_eq_true_eq]
  refine ⟨kept, fun shadowed => unset ?_⟩
  rw [← Method.signature_congr same]
  exact shadows_iff_sets.mp shadowed

/-- The signatures of the methods of a model are different exactly if given methods of one signature,
which is not set, are equal. -/
theorem overridden_nodup_iff :
    (model.registry.methods.map Method.signature).Nodup ↔
      ∀ first ∈ methods, ∀ second ∈ methods, first.signature = second.signature →
        first.identity = second.identity ∨ (plan model config).Sets first.signature := by
  have distinct := identities_nodup pruned
  rw [List.nodup_map_iff_inj_on distinct.of_map]
  constructor
  · intro alone first firstGiven second secondGiven same
    by_cases sets : (plan model config).Sets first.signature
    · exact Or.inr sets
    · obtain ⟨one, oneThere, oneSame⟩ := exists_overridden pruned firstGiven sets
      obtain ⟨two, twoThere, twoSame⟩ := exists_overridden pruned secondGiven (same ▸ sets)
      have equal : one = two := alone one oneThere two twoThere (by
        rw [Method.signature_congr oneSame, same, Method.signature_congr twoSame])
      exact Or.inl (by rw [← oneSame, equal, twoSame])
  · intro identified first firstThere second secondThere same
    obtain ⟨firstGiven, unset⟩ := unset_of_mem pruned config firstThere
    obtain ⟨secondGiven, _⟩ := unset_of_mem pruned config secondThere
    rcases identified first firstGiven second secondGiven same with identical | sets
    · exact List.inj_on_of_nodup_map distinct firstThere secondThere identical
    · exact absurd sets unset

/-- No override has the signature of a setter. -/
theorem overrides_unset {override : OverridePlan} (planned : override ∈ (plan model config).overrides) :
    ¬ (plan model config).Sets override.method.signature := by
  have listed : override ∈ model.registry.methods.map
      (⟨·, model.header.generatedType⟩ : Method → OverridePlan) := planned
  obtain ⟨method, overridden, rfl⟩ := List.mem_map.mp listed
  exact (unset_of_mem pruned config overridden).2

/-- Since setters differ from each other and from overrides, only overrides can share a signature. -/
theorem signatures_nodup_iff_overridden : (plan model config).signatures.Nodup ↔
    (model.registry.methods.map Method.signature).Nodup := by
  have overridden : (plan model config).overrides.map (·.method.signature) =
      model.registry.methods.map Method.signature := List.map_map
  have apart : ∀ signature ∈ (plan model config).setters.map SetterPlan.signature,
      ∀ other ∈ (plan model config).overrides.map (·.method.signature), signature ≠ other := by
    rintro _ set _ overrides rfl
    obtain ⟨setter, planned, same⟩ := List.mem_map.mp set
    obtain ⟨override, listed, rfl⟩ := List.mem_map.mp overrides
    exact overrides_unset pruned listed ⟨setter, planned, same⟩
  rw [signatures, List.nodup_append, ← overridden]
  exact ⟨fun distinct => distinct.2.1, fun distinct => ⟨setters_nodup, distinct, apart⟩⟩

end Pruned

/-! ### Models of a declaration -/

/-- The chainable methods that a declaration and those that a walk climbs to contribute. -/
def contributions (catalog : Catalog) (config : Config) (declaration : Declaration) : List Method :=
  (catalog.climb hierarchyLimit declaration).flatMap (contributed catalog config)

variable {catalog : Catalog} {declaration : Declaration}

/-- A new cache answers with the contributed methods, equal ones taken once. -/
theorem chainableMethods_eq_contributions :
    (MethodCache.chainableMethods catalog config declaration .empty).1 =
      keepFirst Method.identity (contributions catalog config declaration) :=
  MethodCache.chainableMethods_eq declaration

/-- The methods of a model of a declaration are the contributed ones, equal ones taken once, that are not
shadowed. -/
theorem pruned_of_declaration (of : model.Of catalog config declaration) :
    Registry.Pruned (keepFirst Method.identity (contributions catalog config declaration))
      model.registry := by
  obtain ⟨started, begun, leads⟩ := of
  obtain ⟨_, rfl⟩ := Planner.ofDeclaration_eq_ok begun
  have pruned := leads.pruned
  rwa [chainableMethods_eq_contributions,
    keepFirst_of_nodup (keepFirst_map_nodup Method.identity _)] at pruned

/-- **A generated class declares a signature twice only if its hierarchy contributes different methods of
this signature.** Whatever edits a model of a declaration comes from, its setters have different
signatures, no override has the signature of a setter, and the overridden methods are different. All
setters and overrides together have different signatures if and only if contributed methods of one
signature are equal, unless a setter has this signature. -/
theorem signatures_nodup_iff (of : model.Of catalog config declaration) :
    ((plan model config).setters.map SetterPlan.signature).Nodup ∧
    (∀ override ∈ (plan model config).overrides,
      ¬ (plan model config).Sets override.method.signature) ∧
    ((plan model config).overrides.map (·.method.identity)).Nodup ∧
    ((plan model config).signatures.Nodup ↔
      ∀ first ∈ contributions catalog config declaration,
        ∀ second ∈ contributions catalog config declaration, first.signature = second.signature →
          first.identity = second.identity ∨ (plan model config).Sets first.signature) := by
  have pruned := pruned_of_declaration of
  have overridden : (plan model config).overrides.map (·.method.identity) =
      model.registry.methods.map Method.identity := List.map_map
  refine ⟨setters_nodup, fun override => overrides_unset pruned, ?_, ?_⟩
  · rw [overridden]
    exact identities_nodup pruned
  · rw [signatures_nodup_iff_overridden pruned]
    exact overridden_nodup_iff pruned

/-! ### A class that renames a parameter -/

/-- Members that are no methods contribute nothing. -/
theorem contributed_append {catalog : Catalog} {config : Config} {name superName : String}
    {fields methods : List Member}
    (noMethods : ∀ field ∈ fields, field.returnType? = none) :
    contributed catalog config (.extending name superName (fields ++ methods)) =
      contributed catalog config (.extending name superName methods) := by
  have none : fields.filter (isChainable catalog config (.raw name)) = [] := by
    refine List.filter_eq_nil_iff.mpr fun field member => ?_
    rw [isChainable, noMethods field member]
    exact Bool.false_ne_true
  show (List.filter (isChainable catalog config (.raw name)) (fields ++ methods)).map _ = _
  rw [List.filter_append, none, List.nil_append]
  rfl

/-- A class with fields that declares the title of its super class with another parameter name. -/
def renamingCard (fields : List Member) : Declaration :=
  .extending "app.Card" "app.Base" (fields ++ [.fluent "title" "app.Card" [.publicAccess] "text"])

def renamedCards (fields : List Member) : Catalog where
  entries := [renamingCard fields, openBase]
  distinct := by simp [renamingCard, openBase]

/-- The titles of both classes. -/
def bothTitles : List Method :=
  [.ofMember (.fluent "title" "app.Card" [.publicAccess] "text") "app.Card" false,
   .ofMember (.fluent "title" "app.Base" [.publicAccess] "value") "app.Base" false]

/-- The models that are planned for the card alone. -/
def plannedCards (fields : List Member) : List Model :=
  ((Planner.start (renamedCards fields) {}).process [.raw "app.Card"]).1.models

section Renamed

variable {fields : List Member} (noMethods : ∀ field ∈ fields, field.returnType? = none)
include noMethods

theorem contributions_renamedCards :
    contributions (renamedCards fields) {} (renamingCard fields) = bothTitles := by
  have chain : (renamedCards fields).Chain (renamingCard fields) [openBase] := .step rfl (.root rfl)
  have short : [renamingCard fields, openBase].length ≤ hierarchyLimit + 1 := Nat.le_add_left 2 63
  rw [contributions, Catalog.climb_of_chain chain, List.take_of_length_le short, List.flatMap_cons,
    List.flatMap_singleton, renamingCard, openBase, contributed_append noMethods, contributed_fluent,
    contributed_fluent]
  rfl

theorem walked_renamedCards :
    (MethodCache.chainableMethods (renamedCards fields) {} (renamingCard fields) .empty).1 =
      bothTitles := by
  rw [chainableMethods_eq_contributions, contributions_renamedCards noMethods]
  rfl

/-- Planning the card goes on with the titles of both classes. -/
theorem plannedCards_eq :
    let catalog := renamedCards fields
    let started := Model.bare (.ofDeclaration catalog {} (renamingCard fields)) bothTitles
    let stages := Planner.successes [(Planner.fill catalog {} (renamingCard fields) started).mapError
      (Planner.Dropped.mk "app.Card")]
    plannedCards fields =
      (Planner.successes (stages.map (Planner.finish catalog {} stages))).map (·.model) := by
  have resolved : (renamedCards fields).resolve (.raw "app.Card") = some (renamingCard fields) := rfl
  have notFinal : (renamingCard fields).modifiers.has .final = false := rfl
  unfold plannedCards Planner.process
  simp only [Planner.start, Planner.stageAll, Planner.stage, resolved, Model.ofDeclaration, notFinal,
    Bool.false_eq_true, if_false, walked_renamedCards noMethods]
  rfl

end Renamed

/-- An attribute for the title sets both titles, so that no signature is declared twice. -/
theorem signatures_nodup_titled :
    ∃ model ∈ plannedCards [Planner.attributeField "title" "String" [] []],
      (plan model {}).signatures = [("title", [.raw "String"])] ∧ (plan model {}).signatures.Nodup := by
  have noMethods : ∀ field ∈ [Planner.attributeField "title" "String" [] []],
      field.returnType? = none := List.forall_mem_singleton.mpr rfl
  have planned : ∃ model ∈ plannedCards [Planner.attributeField "title" "String" [] []],
      (plan model {}).setters.map SetterPlan.signature = [("title", [.raw "String"])] ∧
        (plan model {}).signatures = [("title", [.raw "String"])] := by
    rw [plannedCards_eq noMethods]
    decide +kernel
  obtain ⟨model, member, set, declared⟩ := planned
  have sets : (plan model {}).Sets ("title", [.raw "String"]) :=
    List.mem_map.mp (set ▸ List.mem_singleton_self _)
  obtain ⟨_, resolved, of⟩ := Planner.exists_declaration_of_process member
  cases resolved
  refine ⟨model, member, declared, (signatures_nodup_iff of).2.2.2.mpr ?_⟩
  rw [contributions_renamedCards noMethods]
  intro first contributes second _ _
  have same : ∀ method ∈ bothTitles, method.signature = ("title", [.raw "String"]) := by decide
  rw [same first contributes]
  exact Or.inr sets

/-- **A renamed parameter declares a signature twice**: the class generated for the card overrides the
title of the card and, once more, that of its super class. -/
theorem renamed_title_twice :
    ∃ model ∈ plannedCards [],
      (plan model {}).signatures = [("title", [.raw "String"]), ("title", [.raw "String"])] ∧
        ¬ (plan model {}).signatures.Nodup := by
  rw [plannedCards_eq (List.forall_mem_nil _)]
  decide +kernel

end Surface

end ModelPlanner
