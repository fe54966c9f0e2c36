/-
**Histories of a registry.**

A history of a registry is a list of edits: `add`, `addAll` and `addIfAbsent`, each with its incoming
attributes. `run` carries it out.

* `edit_cases`: an edit leaves the registry as it is, or it succeeds and inserts its incoming attributes
  one after the other;
* `edit_refused`: a refused edit changes nothing;
* `run_induction`: what inserting one attribute keeps, every history keeps.
-/

import ModelPlanner.Registry

namespace ModelPlanner.Registry

/-- A registration of attributes. -/
inductive Edit where
  | add (attr : Attribute)
  | addAll (attrs : List Attribute)
  | addIfAbsent (attr : Attribute)
deriving DecidableEq

/-- The attributes that an edit brings. -/
def Edit.incoming : Edit → List Attribute
  | .add attr => [attr]
  | .addAll attrs => attrs
  | .addIfAbsent attr => [attr]

/-- Carries out an edit. -/
def edit (registry : Registry) : Edit → Except ModelError Unit × Registry
  | .add attr => registry.add attr
  | .addAll attrs => registry.addAll attrs
  | .addIfAbsent attr =>
    ((registry.addIfAbsent attr).1.map fun _ => (), (registry.addIfAbsent attr).2)

/-- The registry after a history. -/
def run (registry : Registry) (edits : List Edit) : Registry :=
  edits.foldl (fun registry edit => (registry.edit edit).2) registry

/-! ### One edit -/

theorem addAll_outcome (registry : Registry) (attrs : List Attribute) :
    (registry.addAll attrs).1 = forM attrs Attribute.validate := by
  show _ = attrs.forM Attribute.validate
  unfold addAll
  cases attrs.forM Attribute.validate <;> rfl

theorem addIfAbsent_outcome (registry : Registry) (attr : Attribute) :
    (registry.addIfAbsent attr).1 =
      if registry.attributes.contains attr.key then .ok false else attr.validate.map fun _ => true := by
  unfold addIfAbsent
  split
  · rfl
  · cases attr.validate <;> rfl

/-- Registering attributes inserts all of them, or none and says why. -/
theorem addAll_cases (registry : Registry) (attrs : List Attribute) :
    (∃ error, registry.addAll attrs = (.error error, registry)) ∨
      registry.addAll attrs = (.ok (), attrs.foldl insert registry) := by
  unfold addAll
  cases attrs.forM Attribute.validate with
  | error error => exact Or.inl ⟨error, rfl⟩
  | ok _ => exact Or.inr rfl

/-- Registering an attribute if its key is new does nothing, refuses it, or inserts it. -/
theorem addIfAbsent_cases (registry : Registry) (attr : Attribute) :
    registry.addIfAbsent attr = (.ok false, registry) ∨
      (∃ error, registry.addIfAbsent attr = (.error error, registry)) ∨
      registry.get? attr.key = none ∧
        registry.addIfAbsent attr = (.ok true, registry.insert attr) := by
  unfold addIfAbsent
  by_cases known : registry.attributes.contains attr.key = true
  · exact Or.inl (if_pos known)
  · right
    rw [if_neg known]
    cases attr.validate with
    | error error => exact Or.inl ⟨error, rfl⟩
    | ok _ => exact Or.inr ⟨by simpa using known, rfl⟩

/-- **An edit leaves the registry as it is, or succeeds and inserts what it brings.** -/
theorem edit_cases (registry : Registry) (edit : Edit) :
    (registry.edit edit).2 = registry ∨
      (registry.edit edit).1 = .ok () ∧
        (registry.edit edit).2 = edit.incoming.foldl insert registry := by
  have batch : ∀ attrs : List Attribute, (registry.addAll attrs).2 = registry ∨
      (registry.addAll attrs).1 = .ok () ∧
        (registry.addAll attrs).2 = attrs.foldl insert registry := by
    intro attrs
    rcases addAll_cases registry attrs with ⟨error, refused⟩ | accepted
    · exact Or.inl (by rw [refused])
    · exact Or.inr (by rw [accepted]; exact ⟨rfl, rfl⟩)
  cases edit with
  | add attr => exact batch [attr]
  | addAll attrs => exact batch attrs
  | addIfAbsent attr =>
    simp only [Registry.edit, Edit.incoming, List.foldl_cons, List.foldl_nil]
    rcases addIfAbsent_cases registry attr with known | ⟨error, refused⟩ | ⟨_, accepted⟩
    · exact Or.inl (by rw [known])
    · exact Or.inl (by rw [refused])
    · exact Or.inr (by rw [accepted]; exact ⟨rfl, rfl⟩)

theorem edit_refused {registry : Registry} {edit : Edit} {error : ModelError}
    (refused : (registry.edit edit).1 = .error error) : (registry.edit edit).2 = registry := by
  rcases edit_cases registry edit with same | ⟨accepted, _⟩
  · exact same
  · rw [refused] at accepted
    cases accepted

/-! ### Histories -/

/-- What inserting one attribute keeps, an edit keeps. -/
theorem edit_induction {motive : Registry → Prop} {registry : Registry} {edit : Edit}
    (start : motive registry)
    (step : ∀ registry, ∀ attr ∈ edit.incoming, motive registry → motive (registry.insert attr)) :
    motive (registry.edit edit).2 := by
  have inserted : ∀ (attrs : List Attribute) (registry : Registry),
      (∀ attr ∈ attrs, attr ∈ edit.incoming) → motive registry →
        motive (attrs.foldl insert registry) := by
    intro attrs
    induction attrs with
    | nil => exact fun _ _ holds => holds
    | cons attr attrs ih =>
      intro registry brought holds
      exact ih _ (fun other member => brought other (List.mem_cons_of_mem _ member))
        (step registry attr (brought attr List.mem_cons_self) holds)
  rcases edit_cases registry edit with same | ⟨_, accepted⟩
  · rw [same]
    exact start
  · rw [accepted]
    exact inserted _ registry (fun _ member => member) start

/-- What inserting one attribute keeps, every history keeps. -/
theorem run_induction {motive : Registry → Prop} {registry : Registry} (edits : List Edit)
    (start : motive registry)
    (step : ∀ registry attr, motive registry → motive (insert registry attr)) :
    motive (registry.run edits) := by
  induction edits generalizing registry with
  | nil => exact start
  | cons edit edits ih => exact ih (edit_induction start fun registry attr _ => step registry attr)

end ModelPlanner.Registry
