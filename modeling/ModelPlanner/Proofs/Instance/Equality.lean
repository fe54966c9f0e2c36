/-
**Equality and hash of instances.**

Of a value equality sees, under the policy of its attribute, the value itself, its presence or nothing:
`HashPolicy.seen`. The view of an instance is what equality sees of it.

* `equals_iff_view`: instances of one model are equal exactly if their views are;
* `hash_of_view`: the hash follows from the view and the hash of the super class;
* `equals_hash_contract`: hence equality is an equivalence, and equal instances have equal hashes.
-/

import Mathlib.Data.List.Basic
import ModelPlanner.Proofs.Instance.Calls
import ModelPlanner.Proofs.Model.Edits

namespace ModelPlanner

/-- What equality sees of a value under a policy: the value, its presence, or nothing. -/
def HashPolicy.seen (policy : HashPolicy) (value : Value) : Value :=
  match policy with
  | .full => value
  | .presenceOnly => .bool value.isNull
  | .excluded => .null

namespace Instance

/-! ### One attribute -/

/-- Values agree under a policy exactly if the same is seen of them. -/
@[simp]
theorem agree_iff {policy : HashPolicy} {first second : Value} :
    agree policy first second = true ↔ policy.seen first = policy.seen second := by
  cases policy with
  | full => exact beq_iff_eq
  | presenceOnly =>
    show (first.isNull == second.isNull) = true ↔ Value.bool first.isNull = .bool second.isNull
    rw [beq_iff_eq, Value.bool.injEq]
  | excluded => exact iff_of_true rfl rfl

/-- Values of which the same is seen contribute the same to the hash. -/
theorem contribution_congr {step : EqualityStep} {first second : Value}
    (same : step.policy.seen first = step.policy.seen second) :
    contribution step first = contribution step second := by
  unfold contribution
  cases policy : step.policy with
  | full =>
    rw [policy] at same
    exact congrArg (Value.hash · step.key.type) same
  | presenceOnly =>
    rw [policy] at same
    rw [Value.bool.inj same]
  | excluded => rfl

/-! ### Instances -/

/-- What equality sees of an instance. -/
structure View where
  fields : List Value
  seen : List Value

/-- The view of an instance: the fields of the super class and what is seen of the attributes. -/
def view (self : Instance) : View :=
  { fields := self.superState.fields
    seen := self.surface.equality.map fun step => step.policy.seen (self.valueOf step.key) }

section Frames

variable {first second : Instance} (framed : first.frame = second.frame)
include framed

/-- **Instances of one model are equal exactly if their views are.** -/
theorem equals_iff_view : first.equals second = true ↔ first.view = second.view := by
  have surface : first.surface = second.surface := congrArg Frame.surface framed
  have model : first.model = second.model := congrArg Frame.model framed
  unfold equals view
  rw [← surface, ← model, View.mk.injEq, List.map_inj_left]
  simp only [Bool.and_eq_true, beq_iff_eq, true_and, List.all_eq_true, agree_iff]

/-- **The hash follows from the view** and the hash of the super class. -/
theorem hash_of_view (same : first.view = second.view)
    (sameSuper : first.superState.hash = second.superState.hash) : first.hash = second.hash := by
  have surface : first.surface = second.surface := congrArg Frame.surface framed
  have multiplier : first.multiplier = second.multiplier := congrArg Frame.multiplier framed
  have seen := congrArg View.seen same
  unfold view at seen
  rw [← surface, List.map_inj_left] at seen
  unfold hash
  rw [← surface, ← multiplier, ← sameSuper]
  exact List.foldl_ext _ _ _ fun hash step listed => by rw [contribution_congr (seen step listed)]

end Frames

/-- Instances of one model have the same frame. -/
theorem Reachable.same_frame {model : Model} {config : Config} {first second : Instance}
    (one : first.Reachable model config) (two : second.Reachable model config) :
    first.frame = second.frame :=
  one.frame_eq.trans two.frame_eq.symm

/-- **Equality and hash obey their contract.** For every model and every configuration, whatever policies,
types and values the attributes have: on the instances that calls lead to, equality is reflexive,
symmetric and transitive, and equal instances have equal hashes, if super states with equal fields have. -/
theorem equals_hash_contract (model : Model) (config : Config) :
    (∀ self : Instance, self.Reachable model config → self.equals self = true) ∧
    (∀ first second : Instance, first.Reachable model config → second.Reachable model config →
      first.equals second = true → second.equals first = true) ∧
    (∀ first second third : Instance, first.Reachable model config → second.Reachable model config →
      third.Reachable model config → first.equals second = true → second.equals third = true →
        first.equals third = true) ∧
    ∀ first second : Instance, first.Reachable model config → second.Reachable model config →
      (first.superState.fields = second.superState.fields →
        first.superState.hash = second.superState.hash) →
      first.equals second = true → first.hash = second.hash := by
  refine ⟨fun self one => ?_, fun first second one two equal => ?_,
    fun first second third one two three equal further => ?_,
    fun first second one two sameSuper equal => ?_⟩
  · exact (equals_iff_view (one.same_frame one)).mpr rfl
  · rw [equals_iff_view (one.same_frame two)] at equal
    exact (equals_iff_view (two.same_frame one)).mpr equal.symm
  · rw [equals_iff_view (one.same_frame two)] at equal
    rw [equals_iff_view (two.same_frame three)] at further
    exact (equals_iff_view (one.same_frame three)).mpr (equal.trans further)
  · rw [equals_iff_view (one.same_frame two)] at equal
    have sameFields : first.superState.fields = second.superState.fields := congrArg View.fields equal
    exact hash_of_view (one.same_frame two) equal (sameSuper sameFields)

/-! ### A card that compares a listener by its presence -/

/-- The key of a ratio that may be absent. -/
def ratioKey : AttributeKey := ⟨"ratio", .raw "java.lang.Float"⟩

/-- A card that compares its ratio, whether it has a listener, and not its title. -/
def comparedCard : Model :=
  (Model.bare Model.cardHeader []).run
    [.addAttributes [.ofKey ratioKey,
      { Attribute.ofKey Model.listenerKey with hashPolicy := .presenceOnly },
      { Attribute.ofKey Model.titleKey with hashPolicy := .excluded }]]

/-- A card with a ratio, a listener and a title, above a super state with a floating point field. -/
def comparedInstance (ratio listener : UInt64) (title : String) : Instance :=
  [.set ratioKey (.float ratio), .set Model.listenerKey (.callback listener),
    .set Model.titleKey (.str title), .withSuperState ⟨31, "", [.float 0x7FF8000000000000]⟩].foldl
      (fun (self : Instance) call => (self.call call).2) (.ofModel comparedCard {})

theorem comparedInstance_reachable (ratio listener : UInt64) (title : String) :
    (comparedInstance ratio listener title).Reachable comparedCard {} :=
  .call _ (.call _ (.call _ (.call _ .ofModel)))

/-- Cards with other listeners and other titles are equal and have one hash, although the ratio is a
negative zero and a field of the super class is no number; a card with a positive zero differs. -/
theorem equals_hash_contract_card :
    let first := comparedInstance 0x8000000000000000 7 "first"
    let second := comparedInstance 0x8000000000000000 8 "second"
    let other := comparedInstance 0 7 "first"
    first.equals second = true ∧ second.equals first = true ∧ first.hash = second.hash ∧
      first.equals other = false := by
  intro first second other
  have one : first.Reachable comparedCard {} := comparedInstance_reachable _ _ _
  have two : second.Reachable comparedCard {} := comparedInstance_reachable _ _ _
  have equal : first.equals second = true := by decide +kernel
  have ⟨_, symmetric, _, hashes⟩ := equals_hash_contract comparedCard {}
  exact ⟨equal, symmetric first second one two equal, hashes first second one two (fun _ => rfl) equal,
    by decide +kernel⟩

end Instance

end ModelPlanner
