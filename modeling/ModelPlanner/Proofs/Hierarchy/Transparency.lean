/-
**When a cache changes no answer.**

A cache is asked for the chainable methods of declarations, one after the other, and cleared in between
(`MethodCache.Request`, `run`). What it keeps for a declaration above the one that was asked for, a walk
has found with the levels that were left.

* `Transparent`: whatever was asked before, the answer is the one without help;
* `Settled`: the levels that are left where a walk comes to a declaration first suffice to find there
  all that its own walk finds;
* `transparent_iff_settled`: the first holds exactly if the second does;
* `settled_of_chains`: it does if all chains are within the limit;
* `tower_cuts_off`: it does not for a tower of classes that is higher than the limit.
-/

import ModelPlanner.Proofs.Hierarchy.Collection

namespace ModelPlanner.MethodCache

/-! ### Histories of a cache -/

/-- A use of a cache. -/
inductive Request where
  | ask (declaration : Declaration)
  | clear

/-- A request asks for a declaration of the catalog. -/
def Request.Of (catalog : Catalog) : Request → Prop
  | .ask declaration => catalog.get? declaration.qualifiedName = some declaration
  | .clear => True

section Histories

variable (catalog : Catalog) (config : Config)

/-- The cache after a request. -/
def serve (cache : MethodCache) : Request → MethodCache
  | .ask declaration => (cache.chainableMethods catalog config declaration).2
  | .clear => .empty

/-- The cache after requests. -/
def run (cache : MethodCache) (requests : List Request) : MethodCache :=
  requests.foldl (serve catalog config) cache

/-- After any requests the cache answers as a new one does. -/
def Transparent : Prop :=
  ∀ requests : List Request, (∀ request ∈ requests, request.Of catalog) →
    ∀ declaration, catalog.get? declaration.qualifiedName = some declaration →
      ((run catalog config .empty requests).chainableMethods catalog config declaration).1 =
        ModelPlanner.chainableMethods catalog config declaration

/-- Where a walk comes to a declaration first, the levels that are left suffice to find all that the
declaration's own walk finds. -/
def Settled : Prop :=
  ∀ declaration, catalog.get? declaration.qualifiedName = some declaration →
    ∀ climbed ≤ hierarchyLimit, ∀ other, catalog.ComesTo declaration climbed other →
      foundWithin catalog config (hierarchyLimit - climbed) other =
        foundWithin catalog config hierarchyLimit other

/-- Every entry holds what the walk of its declaration finds without help. -/
def Complete (cache : MethodCache) : Prop :=
  ∀ entry ∈ cache.entries, ∃ declaration,
    catalog.get? declaration.qualifiedName = some declaration ∧
      entry = ⟨declaration.qualifiedName, foundWithin catalog config hierarchyLimit declaration⟩

end Histories

variable {catalog : Catalog} {config : Config}

theorem complete_empty : Complete catalog config .empty := by
  intro entry member
  cases member

/-! ### Settled catalogs -/

section Settled

variable (settled : Settled catalog config) {cache : MethodCache}
variable (complete : Complete catalog config cache) {declaration : Declaration}
variable (named : catalog.get? declaration.qualifiedName = some declaration)
include settled complete named

/-- The first entry that a walk meets holds the methods within the levels that are left there. -/
theorem methods_of_hit {levels climbed : Nat} (budget : climbed + levels = hierarchyLimit)
    {other : Declaration} (there : catalog.ancestor? climbed declaration = some other)
    (unknown : ∀ fewer < climbed, ∀ passed, catalog.ancestor? fewer declaration = some passed →
      cache.get? passed.qualifiedName = none)
    {entry : CacheEntry} (looked : cache.get? other.qualifiedName = some entry) :
    entry.methods = foundWithin catalog config levels other := by
  have comes : catalog.ComesTo declaration climbed other := by
    refine ⟨there, fun fewer within again => ?_⟩
    rw [unknown fewer within other again] at looked
    cases looked
  obtain ⟨known, knownNamed, holds⟩ := complete entry (Keyed.mem_of_get? looked)
  have same : entry.declaration = other.qualifiedName := Keyed.key_of_get? looked
  have left : hierarchyLimit - climbed = levels := by omega
  rw [holds] at same ⊢
  rw [show known.qualifiedName = other.qualifiedName from same,
    Catalog.get?_ancestor named there] at knownNamed
  cases knownNamed
  rw [← settled declaration named climbed (by omega) other comes, left]

/-- A complete cache serves the rest of a walk that has passed only declarations it does not know. -/
theorem serves_rest {levels climbed : Nat} (budget : climbed + levels = hierarchyLimit)
    {other : Declaration} (there : catalog.ancestor? climbed declaration = some other)
    (unknown : ∀ fewer < climbed, ∀ passed, catalog.ancestor? fewer declaration = some passed →
      cache.get? passed.qualifiedName = none) :
    Serves catalog config cache levels other := by
  induction levels generalizing climbed other with
  | zero =>
    cases looked : cache.get? other.qualifiedName with
    | some entry =>
      exact .hit looked (methods_of_hit settled complete named budget there unknown looked)
    | none => exact .cut looked
  | succ levels ih =>
    cases looked : cache.get? other.qualifiedName with
    | some entry =>
      exact .hit looked (methods_of_hit settled complete named budget there unknown looked)
    | none =>
      cases next : catalog.superDeclaration other with
      | none => exact .root looked next
      | some parent =>
        refine .step looked next (ih (show climbed + 1 + levels = hierarchyLimit by omega)
          (Catalog.ancestor?_next there next) fun fewer within passed met => ?_)
        rcases Nat.lt_succ_iff_lt_or_eq.mp within with earlier | rfl
        · exact unknown fewer earlier passed met
        · rw [there] at met
          cases met
          exact looked

/-- A complete cache serves every walk from the catalog. -/
theorem serves_of_complete : Serves catalog config cache hierarchyLimit declaration :=
  serves_rest settled complete named (Nat.zero_add _) rfl
    fun _ fewer => absurd fewer (Nat.not_lt_zero _)

/-- A walk from the catalog leaves a complete cache. -/
theorem complete_walk :
    Complete catalog config (cache.chainableMethods catalog config declaration).2 := by
  intro entry kept
  rcases mem_walk (serves_of_complete settled complete named) kept with
    old | ⟨climbed, within, other, comes, rfl⟩
  · exact complete entry old
  · refine ⟨other, Catalog.get?_ancestor named comes.there, ?_⟩
    rw [settled declaration named climbed within other comes]

end Settled

/-- In a settled catalog a cache stays complete. -/
theorem complete_run (settled : Settled catalog config) {cache : MethodCache}
    (complete : Complete catalog config cache) {requests : List Request}
    (asked : ∀ request ∈ requests, request.Of catalog) :
    Complete catalog config (run catalog config cache requests) := by
  induction requests generalizing cache with
  | nil => exact complete
  | cons request requests ih =>
    obtain ⟨first, rest⟩ := List.forall_mem_cons.mp asked
    refine ih ?_ rest
    cases request with
    | ask declaration => exact complete_walk settled complete first
    | clear => exact complete_empty

/-- After a request for a declaration, a new cache answers for those on the way of the walk with the
methods within the levels that were left. -/
theorem answer_after {declaration other : Declaration} {climbed : Nat}
    (named : catalog.get? declaration.qualifiedName = some declaration)
    (comes : catalog.ComesTo declaration climbed other) (within : climbed ≤ hierarchyLimit) :
    ((run catalog config .empty [.ask declaration]).chainableMethods catalog config other).1 =
      foundWithin catalog config (hierarchyLimit - climbed) other :=
  congrArg Prod.fst (walk_hit (get?_walk named comes within))

/-- **A cache changes no answer exactly in a settled catalog**: after any requests, cleared or not, it
answers for every declaration of the catalog as a new cache does, if and only if the levels that are
left where a walk comes to a declaration first suffice to find there what its own walk finds. -/
theorem transparent_iff_settled : Transparent catalog config ↔ Settled catalog config := by
  constructor
  · intro transparent declaration named climbed within other comes
    rw [← answer_after named comes within, ← chainableMethods_eq]
    exact transparent [.ask declaration] (List.forall_mem_singleton.mpr named) other
      (Catalog.get?_ancestor named comes.there)
  · intro settled requests asked declaration named
    have complete := complete_run settled complete_empty asked
    rw [chainableMethods_eq]
    exact walk_of_serves (serves_of_complete settled complete named)

/-- If all chains are within the limit, no walk is cut off. -/
theorem settled_of_chains
    (short : ∀ declaration, catalog.get? declaration.qualifiedName = some declaration →
      ∃ above, catalog.Chain declaration above ∧ above.length ≤ hierarchyLimit) :
    Settled catalog config := by
  intro declaration named climbed within other comes
  obtain ⟨above, chain, length⟩ := short declaration named
  obtain ⟨rest, restChain, total⟩ := chain.of_ancestor comes.there
  rw [foundWithin_of_chain restChain (by omega), foundWithin_of_chain restChain (by omega)]

/-! ### A tower of classes -/

/-- The name of a floor of the tower: one letter more than the floor below. -/
def floorName (height : Nat) : String :=
  String.ofList ("app.".toList ++ List.replicate (height + 1) 'L')

theorem floorName_injective {first second : Nat} (same : floorName first = floorName second) :
    first = second := by
  have lengths := congrArg List.length (List.append_cancel_left (String.ofList_injective same))
  rw [List.length_replicate, List.length_replicate] at lengths
  exact Nat.succ.inj lengths

/-- A class of the tower: the lower ones extend the next one, the one beyond the limit has a method. -/
def floor (height : Nat) : Declaration :=
  if height ≤ hierarchyLimit then .extending (floorName height) (floorName (height + 1)) []
  else
    .extending (floorName height) "java.lang.Object"
      [.fluent "title" (floorName height) [.publicAccess] "value"]

@[simp]
theorem qualifiedName_floor (height : Nat) : (floor height).qualifiedName = floorName height := by
  unfold floor
  split <;> rfl

/-- A tower with two floors more than a walk climbs. -/
def tower : Catalog where
  entries := (List.range (hierarchyLimit + 2)).map floor
  distinct := by
    rw [List.map_map]
    refine List.Pairwise.map _ (fun first second differ same => differ ?_) List.nodup_range
    rw [Function.comp_apply, Function.comp_apply, qualifiedName_floor, qualifiedName_floor] at same
    exact floorName_injective same

theorem get?_floor {height : Nat} (within : height < hierarchyLimit + 2) :
    tower.get? (floor height).qualifiedName = some (floor height) :=
  Keyed.get?_of_mem (List.mem_map_of_mem (List.mem_range.mpr within))

theorem superDeclaration_floor {height : Nat} (low : height ≤ hierarchyLimit) :
    tower.superDeclaration (floor height) = some (floor (height + 1)) := by
  rw [← get?_floor (Nat.succ_lt_succ (Nat.lt_succ_of_le low)), qualifiedName_floor, floor, if_pos low]
  rfl

/-- The lower floors find what the floor at the end of the climb contributes. -/
theorem foundWithin_floor {levels height : Nat} (within : height + levels ≤ hierarchyLimit + 1) :
    foundWithin tower {} levels (floor height) =
      hierarchyMethods tower {} [floor (height + levels)] := by
  induction levels generalizing height with
  | zero => rfl
  | succ levels ih =>
    have low : height ≤ hierarchyLimit := by omega
    have nothing : contributed tower {} (floor height) = [] := by
      unfold contributed floor
      rw [if_pos low]
      rfl
    rw [foundWithin_step (superDeclaration_floor low), nothing, List.nil_append, ih (by omega),
      Nat.add_right_comm, Nat.add_assoc]
    exact keepFirst_of_nodup (keepFirst_map_nodup _ _)

/-- **A walk that is cut off changes later answers.** A new cache finds the method of the highest floor
for the second one; after a request for the lowest floor, whose walk ends below the highest one, the
cache finds nothing. -/
theorem tower_cuts_off :
    (((run tower {} .empty [.ask (floor 0)]).chainableMethods tower {} (floor 1)).1.map (·.name) =
        []) ∧
      (ModelPlanner.chainableMethods tower {} (floor 1)).map (·.name) = ["title"] := by
  have comes : tower.ComesTo (floor 0) 1 (floor 1) := by
    refine (Catalog.comesTo_step (superDeclaration_floor (by decide))).mpr ⟨.here, fun same => ?_⟩
    exact absurd (congrArg Declaration.qualifiedName same) (by decide)
  constructor
  · rw [answer_after (get?_floor (by decide)) comes (by decide), foundWithin_floor (by decide)]
    rfl
  · rw [chainableMethods_eq, foundWithin_floor (by decide), hierarchyMethods, List.flatMap_singleton,
      floor, if_neg (by decide), contributed_fluent]
    rfl

end ModelPlanner.MethodCache
