/-
**What the members of a group resolve to.**

`Resolves` lists the outcomes, each with the members that lead to it: no members; two contenders for the
default; a first member of the highest rank, with blank code for its default or not; nobody eligible.

* `resolve_eq_iff`: the outcome of a group is the one that `Resolves` gives its members;
* `elect?_rank_perm`: whether the election is called off, whether it elects somebody, and the rank of
  the elected member do not depend on the order of the members;
* `resolve_first_of_highest_rank`: both together.
-/

import ModelPlanner.Proofs.Model.Election

namespace ModelPlanner.Group

/-- The outcomes of resolving a group, each with what it says of the members. -/
inductive Resolves (name : String) (members : List Attribute) : Except ModelError Group → Prop
  | empty : members = [] → Resolves name members (.error (.emptyGroup name))
  | conflict : 2 ≤ members.countP isContender →
      Resolves name members (.error (.conflictingGroupDefaults name (members.map (·.key.text))))
  | blank {elected : Attribute} {code : String} : members.countP isContender ≤ 1 →
      Elected members elected → elected.default.code? = some code → Text.isBlankText code = true →
        Resolves name members (.error (.defaultWithoutCode name elected.name))
  | elected {elected : Attribute} : members.countP isContender ≤ 1 → Elected members elected →
      (∀ code, elected.default.code? = some code → Text.isBlankText code = false) →
        Resolves name members (.ok ⟨name, members.map (·.key), some elected.key⟩)
  | required : members ≠ [] → (∀ member ∈ members, isEligible member = false) →
      Resolves name members (.ok ⟨name, members.map (·.key), none⟩)

variable {name : String} {members others : List Attribute} {elected : Attribute}

/-! ### The elected member -/

/-- An eligible attribute has nothing to assign exactly if its default has blank code. -/
theorem isUsable_eq_false_iff {attr : Attribute} (eligible : isEligible attr = true) :
    attr.default.isUsable = false ↔
      ∃ code, attr.default.code? = some code ∧ Text.isBlankText code = true := by
  have stated : attr.hasDefault = true := (Bool.and_eq_true_iff.mp eligible).2
  unfold Attribute.hasDefault at stated
  cases given : attr.default with
  | absent =>
    rw [given] at stated
    cases stated
  | implicit code | explicit code => simp [DefaultValue.isUsable, DefaultValue.code?]
  | languageNative => simp [DefaultValue.isUsable, DefaultValue.code?]

/-- Nobody is elected exactly if nobody is eligible. -/
theorem elect?_eq_nobody_iff :
    elect? members = some none ↔ ∀ member ∈ members, isEligible member = false := by
  rcases elect?_cases members with ⟨off, two⟩ | ⟨_, ⟨nobody, unable⟩ | ⟨elected, found, first⟩⟩
  · obtain ⟨contender, there, contends⟩ := List.countP_pos_iff.mp (Nat.lt_of_lt_of_le Nat.two_pos two)
    have elects : ¬ elect? members = some none := by
      rw [off]
      exact Option.some_ne_none none ∘ Eq.symm
    refine iff_of_false elects fun unable => ?_
    rw [isContender, unable contender there] at contends
    cases contends
  · exact iff_of_true nobody unable
  · have elects : ¬ elect? members = some none := by
      rw [found, Option.some.injEq]
      exact Option.some_ne_none elected
    refine iff_of_false elects fun unable => ?_
    have eligible := first.eligible
    rw [unable elected first.mem] at eligible
    cases eligible

/-! ### The outcome -/

/-- A group that has members is what its election ends with. -/
theorem resolve_of_ne_nil (name : String) (filled : members ≠ []) :
    resolve name members =
      match elect? members with
      | none => .error (.conflictingGroupDefaults name (members.map (·.key.text)))
      | some none => .ok ⟨name, members.map (·.key), none⟩
      | some (some elected) =>
        if elected.default.isUsable then .ok ⟨name, members.map (·.key), some elected.key⟩
        else .error (.defaultWithoutCode name elected.name) := by
  unfold resolve
  exact if_neg (mt List.isEmpty_iff.mp filled)

theorem Resolves.resolve_eq {outcome : Except ModelError Group}
    (resolves : Resolves name members outcome) : resolve name members = outcome := by
  cases resolves with
  | empty none =>
    rw [none]
    rfl
  | conflict two =>
    have filled : members ≠ [] := by
      rintro rfl
      cases two
    rw [resolve_of_ne_nil name filled, elect?_eq_none_iff.mpr two]
  | blank one first given blank =>
    have unusable := (isUsable_eq_false_iff first.eligible).mpr ⟨_, given, blank⟩
    rw [resolve_of_ne_nil name (List.ne_nil_of_mem first.mem), elect?_eq_some_iff.mpr ⟨one, first⟩]
    exact if_neg (Bool.eq_false_iff.mp unusable)
  | @elected elected one first solid =>
    have usable : elected.default.isUsable = true := Bool.of_not_eq_false fun unusable => by
      obtain ⟨code, given, blank⟩ := (isUsable_eq_false_iff first.eligible).mp unusable
      rw [solid code given] at blank
      cases blank
    rw [resolve_of_ne_nil name (List.ne_nil_of_mem first.mem), elect?_eq_some_iff.mpr ⟨one, first⟩]
    exact if_pos usable
  | required filled unable => rw [resolve_of_ne_nil name filled, elect?_eq_nobody_iff.mpr unable]

/-- The members of a group lead to one of the outcomes. -/
theorem exists_resolves (name : String) (members : List Attribute) :
    ∃ outcome, Resolves name members outcome := by
  by_cases empty : members = []
  · exact ⟨_, .empty empty⟩
  · rcases elect?_cases members with ⟨_, two⟩ | ⟨one, ⟨_, unable⟩ | ⟨elected, _, first⟩⟩
    · exact ⟨_, .conflict two⟩
    · exact ⟨_, .required empty unable⟩
    · by_cases blank : ∃ code, elected.default.code? = some code ∧ Text.isBlankText code = true
      · obtain ⟨code, given, blank⟩ := blank
        exact ⟨_, .blank one first given blank⟩
      · exact ⟨_, .elected one first fun code given =>
          Bool.eq_false_iff.mpr fun isBlank => blank ⟨code, given, isBlank⟩⟩

/-- **The outcome of a group is the one that its members lead to.** -/
theorem resolve_eq_iff {outcome : Except ModelError Group} :
    resolve name members = outcome ↔ Resolves name members outcome := by
  constructor
  · rintro rfl
    obtain ⟨outcome, resolves⟩ := exists_resolves name members
    rw [resolves.resolve_eq]
    exact resolves
  · exact Resolves.resolve_eq

/-- A group is refused for a conflict exactly if two members contend for the default. -/
theorem resolve_conflicts_iff :
    (∃ texts, resolve name members = .error (.conflictingGroupDefaults name texts)) ↔
      2 ≤ members.countP isContender := by
  constructor
  · rintro ⟨texts, refused⟩
    cases resolve_eq_iff.mp refused with
    | conflict two => exact two
  · exact fun two => ⟨_, (Resolves.conflict two).resolve_eq⟩

/-- A resolved group is required exactly if nobody is eligible. -/
theorem isRequired_iff {group : Group} (resolved : resolve name members = .ok group) :
    group.isRequired = true ↔ ∀ member ∈ members, isEligible member = false := by
  cases resolve_eq_iff.mp resolved with
  | elected _ first _ =>
    refine iff_of_false nofun fun unable => ?_
    have eligible := first.eligible
    rw [unable _ first.mem] at eligible
    cases eligible
  | required _ unable => exact iff_of_true rfl unable

/-! ### The order of the members -/

theorem Rank.height_injective {first second : Rank} (same : first.height = second.height) :
    first = second := by
  revert same
  cases first <;> cases second <;> decide

/-- The first members of the highest rank have one rank, in whatever order the members are. -/
theorem Elected.rank_eq_of_perm {one two : Attribute} (perm : members.Perm others)
    (first : Elected members one) (second : Elected others two) : rank one = rank two := by
  have upper := second.highest one (perm.mem_iff.mp first.mem) first.eligible
  have lower := first.highest two (perm.mem_iff.mpr second.mem) second.eligible
  exact Rank.height_injective (Nat.le_antisymm upper lower)

/-- **The order of the members decides neither whether the election is called off nor whether it elects
somebody nor the rank of the elected member.** -/
theorem elect?_rank_perm (perm : members.Perm others) :
    (elect? members).map (Option.map rank) = (elect? others).map (Option.map rank) := by
  have contenders : members.countP isContender = others.countP isContender := perm.countP_eq _
  rcases elect?_cases members with ⟨off, two⟩ | ⟨one, ⟨nobody, unable⟩ | ⟨elected, found, first⟩⟩
  · rw [off, elect?_eq_none_iff.mpr (contenders ▸ two)]
  · have unable : ∀ member ∈ others, isEligible member = false :=
      fun member there => unable member (perm.mem_iff.mpr there)
    rw [nobody, elect?_eq_nobody_iff.mpr unable]
  · rcases elect?_cases others with ⟨_, two⟩ | ⟨_, ⟨_, unable⟩ | ⟨other, otherFound, second⟩⟩
    · omega
    · have eligible := first.eligible
      rw [unable elected (perm.mem_iff.mp first.mem)] at eligible
      cases eligible
    · rw [found, otherFound, Option.map_some, Option.map_some, Option.map_some, Option.map_some,
        first.rank_eq_of_perm perm second]

end ModelPlanner.Group
