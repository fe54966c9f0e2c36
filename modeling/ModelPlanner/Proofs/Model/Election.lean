/-
**The default of a group.**

The election of a default goes through the members once, with a candidate so far. Two contenders, which
are eligible members with explicit defaults, call it off.

* `elect?_cases`: it is called off because of two contenders, or nobody is eligible, or it elects the
  first eligible member of the highest rank (`Elected`), of which there is one (`Elected.unique`);
* `resolve_refused_iff`: a group cannot be resolved exactly if it has no members, has two contenders, or
  elects a member that has nothing to assign;
* `resolve_congr`: the election looks at the candidacy of its members and at nothing else.
-/

import Mathlib.Data.List.Induction
import ModelPlanner.Group
import ModelPlanner.Proofs.Outcome

namespace ModelPlanner.Group

/-- A member that no other explicit default stands beside: it is eligible, and its default is
explicit. -/
def isContender (attr : Attribute) : Bool := isEligible attr && attr.default.isExplicit

/-- The member is the first eligible one of the highest rank. -/
def Elected (members : List Attribute) (elected : Attribute) : Prop :=
  ∃ front back, members = front ++ elected :: back ∧ isEligible elected = true ∧
    (∀ member ∈ front, isEligible member = true →
      (rank member).height < (rank elected).height) ∧
    ∀ member ∈ back, isEligible member = true → (rank member).height ≤ (rank elected).height

theorem height_le (attr : Attribute) : (rank attr).height ≤ 2 := by
  cases rank attr <;> decide

theorem height_eq_two_iff {attr : Attribute} : (rank attr).height = 2 ↔ rank attr = .explicit := by
  cases rank attr <;> decide

theorem rank_eq_explicit_iff {attr : Attribute} :
    rank attr = .explicit ↔ attr.default.isExplicit = true := by
  unfold rank
  split
  · next explicit => exact iff_of_true rfl explicit
  · next unstated =>
    refine iff_of_false ?_ unstated
    split <;> exact nofun

/-- The contenders are the eligible members of the highest rank there is. -/
theorem isContender_iff {attr : Attribute} :
    isContender attr = true ↔ isEligible attr = true ∧ (rank attr).height = 2 := by
  rw [height_eq_two_iff, rank_eq_explicit_iff, isContender, Bool.and_eq_true]

theorem Elected.mem {members : List Attribute} {elected : Attribute}
    (first : Elected members elected) : elected ∈ members := by
  obtain ⟨front, back, rfl, _⟩ := first
  exact List.mem_append_right _ List.mem_cons_self

theorem Elected.eligible {members : List Attribute} {elected : Attribute}
    (first : Elected members elected) : isEligible elected = true := by
  obtain ⟨_, _, _, eligible, _⟩ := first
  exact eligible

theorem Elected.highest {members : List Attribute} {elected : Attribute}
    (first : Elected members elected) : ∀ member ∈ members, isEligible member = true →
      (rank member).height ≤ (rank elected).height := by
  obtain ⟨front, back, rfl, _, before, after⟩ := first
  intro member there eligible
  rcases List.mem_append.mp there with early | late
  · exact Nat.le_of_lt (before member early eligible)
  · rcases List.mem_cons.mp late with rfl | later
    · exact Nat.le_refl _
    · exact after member later eligible

/-- At most one member is elected: of two, the later one would rank higher than the earlier one and not
higher. -/
theorem Elected.unique {members : List Attribute} {one two : Attribute} (first : Elected members one)
    (second : Elected members two) : one = two := by
  have upper := first.highest two second.mem
  have lower := second.highest one first.mem
  obtain ⟨front, back, rfl, eligible, before, _⟩ := first
  obtain ⟨front', back', same, eligible', before', _⟩ := second
  rcases List.append_eq_append_iff.mp same with ⟨between, rfl, rest⟩ | ⟨between, rfl, rest⟩
  · cases between with
    | nil => exact (List.cons.inj rest).1
    | cons head between =>
      obtain ⟨rfl, _⟩ := List.cons.inj rest
      have higher := before' one (List.mem_append_right _ List.mem_cons_self) eligible
      have bound := upper eligible'
      omega
  · cases between with
    | nil => exact (List.cons.inj rest).1.symm
    | cons head between =>
      obtain ⟨rfl, _⟩ := List.cons.inj rest
      have higher := before two (List.mem_append_right _ List.mem_cons_self) eligible'
      have bound := lower eligible
      omega

/-! ### One more member -/

section Concat

variable {front : List Attribute} {member candidate : Attribute}

@[simp]
theorem elect?_concat (front : List Attribute) (member : Attribute) :
    elect? (front ++ [member]) = (elect? front).bind (contend? · member) := by
  unfold elect?
  rw [List.foldlM_append]
  simp only [List.foldlM_cons, List.foldlM_nil, bind_pure]
  rfl

theorem Elected.concat_le (first : Elected front candidate)
    (bound : isEligible member = true → (rank member).height ≤ (rank candidate).height) :
    Elected (front ++ [member]) candidate := by
  obtain ⟨before, after, rfl, eligible, higher, highest⟩ := first
  refine ⟨before, after ++ [member], by simp, eligible, higher, fun other there => ?_⟩
  rcases List.mem_append.mp there with early | last
  · exact highest other early
  · rw [List.mem_singleton.mp last]
    exact bound

theorem Elected.concat_self (eligible : isEligible member = true)
    (higher : ∀ other ∈ front, isEligible other = true →
      (rank other).height < (rank member).height) : Elected (front ++ [member]) member :=
  ⟨front, [], rfl, eligible, higher, fun _ member => absurd member List.not_mem_nil⟩

theorem count_concat (front : List Attribute) (member : Attribute) :
    (front ++ [member]).countP isContender =
      front.countP isContender + if isContender member = true then 1 else 0 := by
  rw [List.countP_append, List.countP_singleton]

theorem count_eq_zero (lower : ∀ other ∈ front, isEligible other = true → (rank other).height < 2) :
    front.countP isContender = 0 := by
  rw [List.countP_eq_zero]
  intro other there contends
  obtain ⟨eligible, top⟩ := isContender_iff.mp contends
  have bound := lower other there eligible
  omega

/-- One more member beside an elected candidate: two contenders call the election off, a higher rank
displaces the candidate, and any other member leaves it. -/
theorem contend?_cases (member : Attribute) (first : Elected front candidate)
    (one : front.countP isContender ≤ 1) :
    contend? (some candidate) member = none ∧
        2 ≤ front.countP isContender + (if isContender member = true then 1 else 0) ∨
      front.countP isContender + (if isContender member = true then 1 else 0) ≤ 1 ∧
        ∃ elected, contend? (some candidate) member = some (some elected) ∧
          Elected (front ++ [member]) elected := by
  have able := first.eligible
  unfold contend?
  cases eligible : isEligible member with
  | false =>
    have idle : isContender member = false := by rw [isContender, eligible, Bool.false_and]
    rw [idle]
    refine Or.inr ⟨one, candidate, rfl, first.concat_le fun able => ?_⟩
    rw [eligible] at able
    cases able
  | true =>
    have contends : isContender member = true ↔ (rank member).height = 2 := by
      rw [isContender_iff, eligible]
      exact and_iff_right rfl
    have candidateContends : isContender candidate = true ↔ (rank candidate).height = 2 := by
      rw [isContender_iff, able]
      exact and_iff_right rfl
    simp only [Bool.not_true, Bool.false_eq_true, if_false, ← height_eq_two_iff]
    by_cases both : (rank candidate).height = 2 ∧ (rank member).height = 2
    · have there : 0 < front.countP isContender :=
        List.countP_pos_iff.mpr ⟨candidate, first.mem, candidateContends.mpr both.1⟩
      rw [if_pos both, if_pos (contends.mpr both.2)]
      exact Or.inl ⟨rfl, by omega⟩
    · have top := height_le member
      rw [if_neg both]
      right
      by_cases higher : (rank candidate).height < (rank member).height
      · rw [if_pos higher]
        refine ⟨?_, member, rfl, .concat_self eligible fun other there able =>
          Nat.lt_of_le_of_lt (first.highest other there able) higher⟩
        -- a contender outranks all members before it, so none of these is a contender
        have zero := count_eq_zero fun other there able =>
          Nat.lt_of_lt_of_le
            (Nat.lt_of_le_of_lt (first.highest other there able) higher) top
        split <;> omega
      · rw [if_neg higher]
        have idle : ¬ isContender member = true := fun contender => by
          have height := contends.mp contender
          exact both ⟨by have := height_le candidate; omega, height⟩
        rw [if_neg idle]
        exact ⟨one, candidate, rfl, first.concat_le fun _ => Nat.le_of_not_lt higher⟩

end Concat

/-- **What an election ends with.** It is called off if there are two contenders; otherwise it elects
nobody if nobody is eligible, and else the first eligible member of the highest rank. -/
theorem elect?_cases (members : List Attribute) :
    elect? members = none ∧ 2 ≤ members.countP isContender ∨
      members.countP isContender ≤ 1 ∧
        (elect? members = some none ∧ (∀ member ∈ members, isEligible member = false) ∨
          ∃ elected, elect? members = some (some elected) ∧ Elected members elected) := by
  -- The members come in at the end, one by one, as the election meets them.
  induction members using List.reverseRecOn with
  | nil => exact Or.inr ⟨Nat.zero_le 1, Or.inl ⟨rfl, fun _ member => absurd member List.not_mem_nil⟩⟩
  | append_singleton front member ih =>
    rw [elect?_concat, count_concat]
    rcases ih with ⟨off, two⟩ | ⟨one, ⟨nobody, none⟩ | ⟨candidate, found, first⟩⟩
    · rw [off]
      exact Or.inl ⟨rfl, by omega⟩
    · have unable : ∀ other ∈ front, ¬ isEligible other = true := fun other there able => by
        rw [none other there] at able
        cases able
      have zero := count_eq_zero fun other there able => absurd able (unable other there)
      rw [nobody, Option.bind_some, contend?, zero]
      refine Or.inr ⟨by split <;> omega, ?_⟩
      cases eligible : isEligible member with
      | false =>
        refine Or.inl ⟨rfl, fun other there => ?_⟩
        rcases List.mem_append.mp there with early | last
        · exact none other early
        · rw [List.mem_singleton.mp last]
          exact eligible
      | true =>
        exact Or.inr ⟨member, rfl, .concat_self eligible fun other there able =>
          absurd able (unable other there)⟩
    · rw [found, Option.bind_some]
      rcases contend?_cases member first one with off | ⟨few, elected⟩
      · exact Or.inl off
      · exact Or.inr ⟨few, Or.inr elected⟩

theorem elect?_eq_none_iff {members : List Attribute} :
    elect? members = none ↔ 2 ≤ members.countP isContender := by
  rcases elect?_cases members with ⟨off, two⟩ | ⟨one, ⟨nobody, _⟩ | ⟨elected, found, _⟩⟩
  · exact iff_of_true off two
  · exact iff_of_false (by rw [nobody]; exact nofun) (by omega)
  · exact iff_of_false (by rw [found]; exact nofun) (by omega)

theorem elect?_eq_some_iff {members : List Attribute} {elected : Attribute} :
    elect? members = some (some elected) ↔
      members.countP isContender ≤ 1 ∧ Elected members elected := by
  rcases elect?_cases members with ⟨off, two⟩ | ⟨one, ⟨nobody, none⟩ | ⟨other, found, first⟩⟩
  · exact iff_of_false (by rw [off]; exact nofun) (by omega)
  · refine iff_of_false (by rw [nobody]; exact nofun) fun ⟨_, first⟩ => ?_
    have eligible := first.eligible
    rw [none elected first.mem] at eligible
    cases eligible
  · rw [found, Option.some.injEq, Option.some.injEq]
    constructor
    · rintro rfl
      exact ⟨one, first⟩
    · exact fun ⟨_, second⟩ => first.unique second

/-! ### Resolving a group -/

/-- A group cannot be resolved exactly if it has no members, has two contenders, or elects a member that
has nothing to assign. -/
theorem resolve_refused_iff {name : String} {members : List Attribute} :
    (∃ error, resolve name members = .error error) ↔
      members = [] ∨ 2 ≤ members.countP isContender ∨
        ∃ elected, Elected members elected ∧ elected.default.isUsable = false := by
  by_cases empty : members = []
  · rw [empty]
    exact iff_of_true ⟨_, rfl⟩ (Or.inl rfl)
  · have filled : ¬ members.isEmpty = true := mt List.isEmpty_iff.mp empty
    rw [or_iff_right empty, resolve, if_neg filled]
    rcases elect?_cases members with ⟨off, two⟩ | ⟨one, ⟨nobody, unable⟩ | ⟨elected, found, first⟩⟩
    · rw [off]
      exact iff_of_true ⟨_, rfl⟩ (Or.inl two)
    · rw [nobody]
      refine iff_of_false (not_refused _) ?_
      rintro (two | ⟨elected, first, _⟩)
      · omega
      · have eligible := first.eligible
        rw [unable elected first.mem] at eligible
        cases eligible
    · have only : (∃ other, Elected members other ∧ other.default.isUsable = false) ↔
          elected.default.isUsable = false :=
        ⟨fun ⟨_, second, blank⟩ => first.unique second ▸ blank, fun blank => ⟨elected, first, blank⟩⟩
      rw [found, only, or_iff_right (by omega)]
      dsimp only
      cases elected.default.isUsable with
      | false => exact iff_of_true ⟨_, rfl⟩ rfl
      | true => exact iff_of_false (not_refused _) nofun

/-- The members of a resolved group have at most one contender among them. -/
theorem count_of_resolve {name : String} {members : List Attribute} {group : Group}
    (resolved : resolve name members = .ok group) : members.countP isContender ≤ 1 := by
  have accepted : ¬ ∃ error, resolve name members = .error error := by
    rw [resolved]
    exact not_refused group
  rw [resolve_refused_iff, not_or, not_or] at accepted
  omega

/-! ### What an election looks at -/

/-- The attribute with nothing but what an election looks at: its key, whether it is nullable or
required, and its default. -/
def candidacy (attr : Attribute) : Attribute :=
  { attr with hashPolicy := .full, group? := none, packagePrivate := false, package := "", origin? := none }

theorem contend?_candidacy (candidate? : Option Attribute) (member : Attribute) :
    contend? (candidate?.map candidacy) (candidacy member) =
      (contend? candidate? member).map (Option.map candidacy) := by
  have eligible : isEligible (candidacy member) = isEligible member := rfl
  unfold contend?
  rw [eligible]
  cases candidate? with
  | none => cases isEligible member <;> rfl
  | some candidate =>
    have rank_member : rank (candidacy member) = rank member := rfl
    have rank_candidate : rank (candidacy candidate) = rank candidate := rfl
    simp only [Option.map_some, rank_member, rank_candidate]
    split
    · rfl
    · split
      · rfl
      · split <;> rfl

theorem elect?_candidacy (members : List Attribute) :
    elect? (members.map candidacy) = (elect? members).map (Option.map candidacy) := by
  induction members using List.reverseRecOn with
  | nil => rfl
  | append_singleton front member ih =>
    rw [List.map_append, List.map_singleton, elect?_concat, elect?_concat, ih]
    cases elect? front with
    | none => rfl
    | some candidate? => exact contend?_candidacy candidate? member

theorem resolve_candidacy (name : String) (members : List Attribute) :
    resolve name (members.map candidacy) = resolve name members := by
  have keys : (members.map candidacy).map (·.key) = members.map (·.key) := List.map_map
  have texts : (members.map candidacy).map (·.key.text) = members.map (·.key.text) := List.map_map
  unfold resolve
  rw [elect?_candidacy, keys, texts, List.isEmpty_map]
  rcases elect? members with _ | _ | elected <;> rfl

/-- Members of the same candidacies resolve to the same group. -/
theorem resolve_congr (name : String) {first second : List Attribute}
    (same : first.map candidacy = second.map candidacy) : resolve name first = resolve name second := by
  rw [← resolve_candidacy name first, same, resolve_candidacy]

end ModelPlanner.Group
