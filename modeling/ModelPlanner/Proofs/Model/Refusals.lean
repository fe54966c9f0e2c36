/-
**Refused edits.**

An edit checks all it is given before it changes anything, so a refused edit leaves the model as it was.

* `Attribute.validate_refused_iff`: an attribute is refused unless it is `Supported`;
* `resolveGroup_refused_iff`: a group is refused for one of the faults of `GroupFault`;
* `refused_edits_change_nothing`: an edit is refused exactly if it has a fault (`Edit.Faulty`), it changes
  nothing then, and a history comes to what its accepted edits come to by themselves.
-/

import ModelPlanner.Proofs.Model.Current

namespace ModelPlanner

/-! ### Attributes -/

namespace Attribute

/-- The attribute can be a property of a class: its name is an identifier, its type is not `void`, and
it is not nullable with a primitive type. -/
def Supported (attr : Attribute) : Prop :=
  Text.isIdentifier attr.name = true ∧ attr.type.isVoid = false ∧
    ¬ (attr.nullable = true ∧ attr.type.isPrimitive = true)

@[simp]
theorem validate_refused_iff {attr : Attribute} :
    (∃ error, attr.validate = .error error) ↔ ¬ attr.Supported := by
  have refused : (∃ error, attr.validate = .error error) ↔ attr.refusal? ≠ none := by
    unfold validate
    cases attr.refusal? with
    | none => exact iff_of_false (not_refused _) (fun other => other rfl)
    | some refusal => exact iff_of_true ⟨_, rfl⟩ (Option.some_ne_none refusal)
  have supported : attr.refusal? = none ↔ attr.Supported := by
    unfold refusal? Supported
    cases Text.isIdentifier attr.name <;> cases attr.type.isVoid <;> cases attr.nullable <;>
      cases attr.type.isPrimitive <;> simp
  rw [refused, Ne, supported]

end Attribute

@[simp]
theorem Registry.addAll_refused_iff {registry : Registry} {attrs : List Attribute} :
    (∃ error, (registry.addAll attrs).1 = .error error) ↔ ∃ attr ∈ attrs, ¬ attr.Supported := by
  simp [addAll_outcome]

@[simp]
theorem Registry.addIfAbsent_refused_iff {registry : Registry} {attr : Attribute} :
    (∃ error, (registry.addIfAbsent attr).1 = .error error) ↔
      registry.get? attr.key = none ∧ ¬ attr.Supported := by
  rw [addIfAbsent_outcome]
  by_cases known : attr.key ∈ registry.attributes.keys
  · simp [known]
  · simp [known]

namespace Model

/-! ### Groups -/

/-- Why no group of the given name can be made of the attributes of the given keys. -/
inductive GroupFault (model : Model) (name : String) (keys : List AttributeKey) : Prop
  | empty : keys = [] → GroupFault model name keys
  | unknown (key : AttributeKey) : key ∈ keys → model.attribute? key = none → GroupFault model name keys
  | grouped (key : AttributeKey) (attr : Attribute) (other : String) :
      key ∈ keys → model.attribute? key = some attr → attr.group? = some other → other ≠ name →
        GroupFault model name keys
  | contended :
      2 ≤ (keys.filterMap model.attribute?).countP Group.isContender → GroupFault model name keys
  | blank (elected : Attribute) :
      Group.Elected (keys.filterMap model.attribute?) elected → elected.default.isUsable = false →
        GroupFault model name keys

/-- An attribute may not become a member when it is not registered, or in another group. -/
@[simp]
theorem memberFor_refused_iff {model : Model} {name : String} {key : AttributeKey} :
    (∃ error, model.memberFor name key = .error error) ↔ model.attribute? key = none ∨
      ∃ attr other, model.attribute? key = some attr ∧ attr.group? = some other ∧ other ≠ name := by
  unfold memberFor
  cases model.attribute? key with
  | none => exact iff_of_true ⟨_, rfl⟩ (Or.inl rfl)
  | some attr =>
    simp only [reduceCtorEq, false_or, Option.some.injEq, exists_and_left, exists_eq_left']
    cases grouped : attr.group? with
    | none => exact iff_of_false (not_refused _) (fun ⟨_, named, _⟩ => nomatch named)
    | some other =>
      simp only [Option.filter_some, Option.some.injEq, exists_eq_left']
      by_cases same : other = name
      · simp [same]
      · simp [same]

theorem members_refused_iff {model : Model} {name : String} {keys : List AttributeKey} :
    (∃ error, keys.mapM (model.memberFor name) = .error error) ↔
      ∃ key ∈ keys, model.attribute? key = none ∨
        ∃ attr other, model.attribute? key = some attr ∧ attr.group? = some other ∧ other ≠ name := by
  simp only [mapM_refused_iff, memberFor_refused_iff]

/-- **A group is refused exactly for one of the faults.** -/
@[simp]
theorem resolveGroup_refused_iff {model : Model} {name : String} {keys : List AttributeKey} :
    (∃ error, model.resolveGroup name keys = .error error) ↔ model.GroupFault name keys := by
  rw [resolveGroup_eq]
  cases found : keys.mapM (model.memberFor name) with
  | error error =>
    refine iff_of_true ⟨error, rfl⟩ ?_
    obtain ⟨key, listed, fresh | ⟨attr, other, there, grouped, different⟩⟩ :=
      members_refused_iff.mp ⟨error, found⟩
    · exact .unknown key listed fresh
    · exact .grouped key attr other listed there grouped different
  | ok attrs =>
    have known : ¬ ∃ key ∈ keys, model.attribute? key = none ∨
        ∃ attr other, model.attribute? key = some attr ∧ attr.group? = some other ∧ other ≠ name := by
      rw [← members_refused_iff, found]
      exact not_refused attrs
    have empty : attrs = [] ↔ keys = [] := by rw [← (mapM_memberFor found).1, List.map_eq_nil_iff]
    show (∃ error, Group.resolve name attrs = .error error) ↔ _
    rw [Group.resolve_refused_iff, empty, ← filterMap_of_mapM_memberFor found]
    constructor
    · rintro (none | contended | ⟨elected, first, blank⟩)
      · exact .empty none
      · exact .contended contended
      · exact .blank elected first blank
    · intro fault
      cases fault with
      | empty none => exact Or.inl none
      | unknown key listed fresh => exact absurd ⟨key, listed, Or.inl fresh⟩ known
      | grouped key attr other listed there grouped different =>
        exact absurd ⟨key, listed, Or.inr ⟨attr, other, there, grouped, different⟩⟩ known
      | contended two => exact Or.inr (Or.inl two)
      | blank elected first blank => exact Or.inr (Or.inr ⟨elected, first, blank⟩)

/-! ### Edits -/

/-- The edit has a fault: an attribute that is not supported, also among others; for a group, one of its
faults; for a style, a type of which there is no `null`. -/
def Edit.Faulty (model : Model) : Edit → Prop
  | .addAttribute attr => ¬ attr.Supported
  | .addAttributes attrs => ∃ attr ∈ attrs, ¬ attr.Supported
  | .addIfAbsent attr => model.attribute? attr.key = none ∧ ¬ attr.Supported
  | .addGroup name keys => model.GroupFault name keys
  | .setStyle style => style.isVoid = true ∨ style.isPrimitive = true
  | .setAutoLayout _ => False

/-- The edits of a history that are accepted, when their turns come. -/
def accepted (model : Model) : List Edit → List Edit
  | [] => []
  | edit :: edits =>
    match model.edit edit with
    | (.ok _, after) => edit :: after.accepted edits
    | (.error _, after) => after.accepted edits

@[simp]
theorem styleAttribute_supported_iff (model : Model) (style : TypeName) :
    ¬ (model.styleAttribute style).Supported ↔ style.isVoid = true ∨ style.isPrimitive = true := by
  have identifier : Text.isIdentifier "style" = true := by decide
  show ¬ (Text.isIdentifier "style" = true ∧ style.isVoid = false ∧
    ¬ (true = true ∧ style.isPrimitive = true)) ↔ _
  rw [identifier]
  cases style.isVoid <;> cases style.isPrimitive <;> simp

/-- **An edit is refused exactly if it has a fault.** -/
theorem edit_refused_iff {model : Model} {edit : Edit} :
    (∃ error, (model.edit edit).1 = .error error) ↔ edit.Faulty model := by
  cases edit with
  | addAttribute attr => simp [Model.edit, addAttribute, Registry.add, Edit.Faulty]
  | addAttributes attrs => simp [Model.edit, addAttributes, Edit.Faulty]
  | addIfAbsent attr => simp [Model.edit, addIfAbsent, Edit.Faulty, attribute?]
  | addGroup name keys => simp [Model.edit, Edit.Faulty]
  | setStyle style => simp [Model.edit, addAttribute, Registry.add, Edit.Faulty]
  | setAutoLayout => simp [Model.edit, Edit.Faulty]

/-- A history comes to what its accepted edits come to by themselves. -/
theorem run_accepted (model : Model) (edits : List Edit) :
    model.run (model.accepted edits) = model.run edits := by
  induction edits generalizing model with
  | nil => rfl
  | cons edit edits ih =>
    have rest : ∀ after, (model.edit edit).2 = after → model.run (edit :: edits) = after.run edits := by
      rintro after rfl
      rfl
    unfold accepted
    split
    · next after outcome =>
      have same : (model.edit edit).2 = after := congrArg Prod.snd outcome
      rw [rest after same, ← ih after, ← same]
      rfl
    · next error after outcome =>
      have same : (model.edit edit).2 = after := congrArg Prod.snd outcome
      have unchanged : after = model := same.symm.trans (edit_refused (congrArg Prod.fst outcome))
      rw [rest after same, unchanged]
      exact ih model

/-- **Refused edits change nothing**: an edit is refused exactly if it has a fault, and then the model
after it is the model before it. Hence a history comes to what its accepted edits come to by
themselves. -/
theorem refused_edits_change_nothing (model : Model) :
    (∀ edit : Edit, (∃ error, (model.edit edit).1 = .error error) ↔ edit.Faulty model) ∧
      (∀ (edit : Edit) (error : ModelError), (model.edit edit).1 = .error error →
        (model.edit edit).2 = model) ∧
      ∀ edits : List Edit, model.run edits = model.run (model.accepted edits) :=
  ⟨fun _ => edit_refused_iff, fun _ _ => edit_refused, fun edits => (run_accepted model edits).symm⟩

/-- Edits of the card with a fault each: an attribute that is not supported, after one that is, or of a
new key; a group without members, with an unknown member, and with a member of the click group; a style
of a primitive type. -/
def faultyEdits : List Edit :=
  [.addAttributes [.ofKey ⟨"count", .raw "int"⟩, (Attribute.ofKey clickableKey).allowNull],
   .addIfAbsent (.ofKey ⟨"sub title", .raw "String"⟩),
   .addGroup "click" [],
   .addGroup "click" [listenerKey, ⟨"onClick", .raw "String"⟩],
   .addGroup "text" [titleKey, clickableKey],
   .setStyle (.raw "int")]

/-- None of them changes the card, not even its click group. -/
theorem refused_edits_card :
    ∀ edit ∈ faultyEdits, edit.Faulty cardModel ∧ (cardModel.edit edit).2 = cardModel := by
  obtain ⟨fault_iff, unchanged, _⟩ := refused_edits_change_nothing cardModel
  have refused : ∀ edit ∈ faultyEdits, (cardModel.edit edit).1 ≠ .ok () := by decide +kernel
  intro edit listed
  cases outcome : (cardModel.edit edit).1 with
  | error error => exact ⟨(fault_iff edit).mp ⟨error, outcome⟩, unchanged edit error outcome⟩
  | ok _ => exact absurd outcome (refused edit listed)

end Model

end ModelPlanner
