/-
**Histories of a model.**

An author builds an attribute from a new one by the steps of `Attribute.Built`; none of them puts it
into a group, so exactly the attributes without a group can be built (`built_iff`).

A history of a model starts with the methods of its declaration and nothing registered, and goes on
with edits that bring built attributes: `Model.Reachable`.

* `edit_cases`: an edit inserts built attributes into the registry, or links a resolved group;
* `edit_refused`: a refused edit changes nothing;
* `Reachable.induction`: what holds of the registry and the groups of a new model, and is kept by
  inserting a built attribute and by linking a resolved group, holds of every reachable model.
-/

import ModelPlanner.Model
import ModelPlanner.Proofs.Registry.Edits

namespace ModelPlanner

/-! ### Building attributes -/

/-- An attribute built from a new one. -/
inductive Attribute.Built : Attribute → Prop
  | ofKey (key : AttributeKey) : Built (.ofKey key)
  | allowNull {attr : Attribute} : Built attr → Built attr.allowNull
  | required {attr : Attribute} : Built attr → Built { attr with required := true }
  | default {attr : Attribute} (default : DefaultValue) : Built attr → Built { attr with default }
  | hashPolicy {attr : Attribute} (hashPolicy : HashPolicy) :
      Built attr → Built { attr with hashPolicy }
  | packagePrivate {attr : Attribute} : Built attr → Built { attr with packagePrivate := true }
  | package {attr : Attribute} (package : String) : Built attr → Built { attr with package }
  | origin {attr : Attribute} (origin : String) : Built attr → Built { attr with origin? := origin }

namespace Attribute

/-- A built attribute is in no group. -/
theorem Built.group?_eq_none {attr : Attribute} (built : attr.Built) : attr.group? = none := by
  induction built with
  | ofKey => rfl
  | allowNull _ ih => exact ih
  | required _ ih => exact ih
  | default _ _ ih => exact ih
  | hashPolicy _ _ ih => exact ih
  | packagePrivate _ ih => exact ih
  | package _ _ ih => exact ih
  | origin _ _ ih => exact ih

/-- **Exactly the attributes without a group can be built.** -/
theorem built_iff {attr : Attribute} : attr.Built ↔ attr.group? = none := by
  refine ⟨Built.group?_eq_none, fun ungrouped => ?_⟩
  obtain ⟨key, nullable, required, default, hashPolicy, _, packagePrivate, package, origin?⟩ := attr
  cases ungrouped
  have plain : Built { ofKey key with default, hashPolicy, package } :=
    .package package (.hashPolicy hashPolicy (.default default (.ofKey key)))
  -- allowing absence may change the default, which is then set again
  have nullability : Built { ofKey key with nullable, default, hashPolicy, package } := by
    cases nullable with
    | false => exact plain
    | true => exact .default default (.allowNull plain)
  have requirement : Built { ofKey key with nullable, required, default, hashPolicy, package } := by
    cases required with
    | false => exact nullability
    | true => exact .required nullability
  have visibility :
      Built { ofKey key with nullable, required, default, hashPolicy, packagePrivate, package } := by
    cases packagePrivate with
    | false => exact requirement
    | true => exact .packagePrivate requirement
  cases origin? with
  | none => exact visibility
  | some origin => exact .origin origin visibility

instance : DecidablePred Attribute.Built := fun _ => decidable_of_iff _ built_iff.symm

end Attribute

/-! ### Edits -/

namespace Model

/-- A change of a model. -/
inductive Edit where
  | addAttribute (attr : Attribute)
  | addAttributes (attrs : List Attribute)
  | addIfAbsent (attr : Attribute)
  | addGroup (name : String) (keys : List AttributeKey)
  | setStyle (style : TypeName)
  | setAutoLayout (autoLayout : AutoLayout)

/-- Carries out an edit. -/
def edit (model : Model) : Edit → Except ModelError Unit × Model
  | .addAttribute attr => model.addAttribute attr
  | .addAttributes attrs => model.addAttributes attrs
  | .addIfAbsent attr => ((model.addIfAbsent attr).1.map fun _ => (), (model.addIfAbsent attr).2)
  | .addGroup name keys => model.addGroup name keys
  | .setStyle style => model.setStyle style
  | .setAutoLayout autoLayout => (.ok (), model.setAutoLayout autoLayout)

/-- The edit brings built attributes only. -/
def Edit.BringsBuilt : Edit → Prop
  | .addAttribute attr => attr.Built
  | .addAttributes attrs => ∀ attr ∈ attrs, attr.Built
  | .addIfAbsent attr => attr.Built
  | .addGroup _ _ => True
  | .setStyle _ => True
  | .setAutoLayout _ => True

instance : DecidablePred Edit.BringsBuilt
  | .addAttribute attr => inferInstanceAs (Decidable attr.Built)
  | .addAttributes attrs => inferInstanceAs (Decidable (∀ attr ∈ attrs, attr.Built))
  | .addIfAbsent attr => inferInstanceAs (Decidable attr.Built)
  | .addGroup _ _ => isTrue trivial
  | .setStyle _ => isTrue trivial
  | .setAutoLayout _ => isTrue trivial

/-- The model after a history. -/
def run (model : Model) (edits : List Edit) : Model :=
  edits.foldl (fun model edit => (model.edit edit).2) model

/-- A model with a history: it starts without attributes, and every edit, whatever its outcome, brings
built attributes. -/
inductive Reachable : Model → Prop
  | bare (header : ModelHeader) (methods : List Method) : Reachable (.bare header methods)
  | edit {model : Model} (edit : Edit) :
      edit.BringsBuilt → Reachable model → Reachable (model.edit edit).2

/-- A history leads from a reachable model to a reachable one. -/
theorem Reachable.run {model : Model} (reachable : model.Reachable) (edits : List Edit)
    (built : ∀ edit ∈ edits, edit.BringsBuilt) : (model.run edits).Reachable := by
  induction edits generalizing model with
  | nil => exact reachable
  | cons first rest ih =>
    exact ih (.edit first (built first List.mem_cons_self) reachable) fun edit member =>
      built edit (List.mem_cons_of_mem _ member)

@[simp]
theorem styleAttribute_built (model : Model) (style : TypeName) :
    (model.styleAttribute style).Built :=
  Attribute.built_iff.mpr rfl

@[simp]
theorem addGroup_outcome (model : Model) (name : String) (keys : List AttributeKey) :
    (model.addGroup name keys).1 = (model.resolveGroup name keys).map fun _ => () := by
  unfold addGroup
  cases model.resolveGroup name keys <;> rfl

@[simp]
theorem setStyle_outcome (model : Model) (style : TypeName) :
    (model.setStyle style).1 = (model.addAttribute (model.styleAttribute style)).1 := by
  unfold setStyle
  rcases model.addAttribute (model.styleAttribute style) with ⟨_ | _, after⟩ <;> rfl

/-- Setting the style edits the registry by registering the style attribute, and no group. -/
theorem setStyle_parts (model : Model) (style : TypeName) :
    (model.setStyle style).2.registry =
        (model.registry.edit (.add (model.styleAttribute style))).2 ∧
      (model.setStyle style).2.groups = model.groups := by
  have same : model.registry.edit (.add (model.styleAttribute style)) =
      model.registry.add (model.styleAttribute style) := rfl
  rw [same]
  unfold setStyle addAttribute withRegistry
  cases model.registry.add (model.styleAttribute style) with
  | mk outcome registry => cases outcome <;> exact ⟨rfl, rfl⟩

/-- **An edit edits the registry with built attributes, or it links a resolved group.** -/
theorem edit_cases (model : Model) {edit : Edit} (built : edit.BringsBuilt) :
    (model.edit edit).2.registry = model.registry ∧ (model.edit edit).2.groups = model.groups ∨
      (∃ registration : Registry.Edit, (∀ attr ∈ registration.incoming, attr.Built) ∧
        (model.edit edit).2.registry = (model.registry.edit registration).2 ∧
        (model.edit edit).2.groups = model.groups) ∨
      ∃ name keys group, model.resolveGroup name keys = .ok group ∧
        (model.edit edit).2 = model.linkGroup group := by
  cases edit with
  | addAttribute attr =>
    refine Or.inr (Or.inl ⟨.add attr, fun other member => ?_, rfl, rfl⟩)
    rw [List.mem_singleton.mp member]
    exact built
  | addAttributes attrs => exact Or.inr (Or.inl ⟨.addAll attrs, built, rfl, rfl⟩)
  | addIfAbsent attr =>
    refine Or.inr (Or.inl ⟨.addIfAbsent attr, fun other member => ?_, rfl, rfl⟩)
    rw [List.mem_singleton.mp member]
    exact built
  | addGroup name keys =>
    cases resolved : model.resolveGroup name keys with
    | error error =>
      left
      simp only [Model.edit, addGroup, resolved, and_self]
    | ok group =>
      refine Or.inr (Or.inr ⟨name, keys, group, resolved, ?_⟩)
      simp only [Model.edit, addGroup, resolved]
  | setStyle style =>
    refine Or.inr (Or.inl ⟨.add (model.styleAttribute style), fun other member => ?_,
      (setStyle_parts model style).1, (setStyle_parts model style).2⟩)
    rw [List.mem_singleton.mp member]
    exact styleAttribute_built model style
  | setAutoLayout => exact Or.inl ⟨rfl, rfl⟩

/-- A refused edit changes nothing. -/
theorem edit_refused {model : Model} {edit : Edit} {error : ModelError}
    (refused : (model.edit edit).1 = .error error) : (model.edit edit).2 = model := by
  have unchanged : ∀ (registration : Registry.Edit) (error : ModelError),
      (model.registry.edit registration).1 = .error error →
        (model.withRegistry (model.registry.edit registration)).2 = model := by
    intro registration error stopped
    show { model with registry := (model.registry.edit registration).2 } = model
    rw [Registry.edit_refused stopped]
  cases edit with
  | addAttribute attr => exact unchanged (.add attr) error refused
  | addAttributes attrs => exact unchanged (.addAll attrs) error refused
  | addIfAbsent attr => exact unchanged (.addIfAbsent attr) error refused
  | addGroup name keys =>
    simp only [Model.edit, addGroup] at refused ⊢
    split at refused
    · rfl
    · cases refused
  | setStyle style =>
    change (model.setStyle style).1 = .error error at refused
    show (model.setStyle style).2 = model
    unfold setStyle at refused ⊢
    split at refused
    · next cause after stopped =>
      have same := unchanged (.add (model.styleAttribute style)) cause (congrArg Prod.fst stopped)
      exact (congrArg Prod.snd stopped).symm.trans same
    · cases refused
  | setAutoLayout => cases refused

/-- What holds of the registry and the groups of a new model, and is kept by inserting a built
attribute and by linking a resolved group, holds of every reachable model. -/
theorem Reachable.induction {motive : Registry → Keyed Group.name → Prop}
    (bare : ∀ methods, motive (.ofMethods methods) .empty)
    (insert : ∀ registry groups attr, attr.Built → motive registry groups →
      motive (registry.insert attr) groups)
    (link : ∀ model name keys group, Model.resolveGroup model name keys = .ok group →
      motive model.registry model.groups →
        motive (model.linkGroup group).registry (model.linkGroup group).groups)
    {model : Model} (reachable : model.Reachable) : motive model.registry model.groups := by
  induction reachable with
  | bare header methods => exact bare methods
  | @edit model edit built _ ih =>
    rcases edit_cases model built with
      ⟨registry, groups⟩ | ⟨registration, brought, registry, groups⟩ |
        ⟨name, keys, group, resolved, after⟩
    · rw [registry, groups]
      exact ih
    · rw [registry, groups]
      exact Registry.edit_induction (motive := fun registry => motive registry model.groups) ih
        fun registry attr member => insert registry model.groups attr (brought attr member)
    · rw [after]
      exact link model name keys group resolved ih

/-! ### A model with a group -/

/-- The header of a card without constructors. -/
def cardHeader : ModelHeader :=
  { origin := "app.Card"
    superType := .raw "app.Card"
    generatedType := .raw "app.CardModel"
    boundType := .raw "java.lang.Object"
    shouldGenerate := true
    superAlsoGenerated := false
    constructors := [] }

/-- The key of a click listener of a card. -/
def listenerKey : AttributeKey := ⟨"onClick", .raw "Listener"⟩

/-- The key of the flag that makes a card clickable. -/
def clickableKey : AttributeKey := ⟨"clickable", .raw "boolean"⟩

/-- The key of the title of a card. -/
def titleKey : AttributeKey := ⟨"title", .raw "String"⟩

/-- A card whose group of click attributes held the title at first and was then made anew; a second
group is refused, since one of its members is in the first. -/
def cardModel : Model :=
  (bare cardHeader []).run
    [.addAttributes [(Attribute.ofKey listenerKey).allowNull, .ofKey clickableKey],
     .addIfAbsent (.ofKey titleKey),
     .addGroup "click" [listenerKey, titleKey],
     .addGroup "click" [listenerKey, clickableKey],
     .addGroup "text" [titleKey, clickableKey]]

theorem cardModel_reachable : cardModel.Reachable :=
  Reachable.run (.bare cardHeader []) _ (by decide)

end Model

end ModelPlanner
