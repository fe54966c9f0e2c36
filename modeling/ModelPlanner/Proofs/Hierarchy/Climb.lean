/-
**Climbs.**

A walk follows a limited number of levels, so of a deep or cyclic hierarchy it sees the beginning only:
the declarations that `Catalog.climb` lists. What it finds there are the methods `foundWithin` so many
levels.

* `climb_of_chain`: the climb from a declaration with a chain is the beginning of its chain;
* `walk_of_serves`: a walk finds the methods within its levels, if the cache has for the first
  declaration that it knows what the walk would find there (`MethodCache.Serves`);
* `mem_walk`: what it adds to the cache are the methods within the levels that are left at the first
  visit of a declaration;
* `chainableMethods_eq`: hence without help, the chainable methods are those within the limit.
-/

import ModelPlanner.Proofs.Hierarchy.Methods

namespace ModelPlanner

namespace Catalog

variable {catalog : Catalog} {declaration parent other : Declaration} {levels : Nat}

/-- The declaration some levels above a declaration. -/
def ancestor? (catalog : Catalog) : Nat → Declaration → Option Declaration
  | 0, declaration => some declaration
  | levels + 1, declaration =>
    (catalog.superDeclaration declaration).bind (catalog.ancestor? levels)

/-- A declaration and those up to some levels above it, the nearest first. -/
def climb (catalog : Catalog) : Nat → Declaration → List Declaration
  | 0, declaration => [declaration]
  | levels + 1, declaration =>
    declaration ::
      match catalog.superDeclaration declaration with
      | none => []
      | some parent => catalog.climb levels parent

/-! ### Climbs -/

theorem climb_root (ended : catalog.superDeclaration declaration = none) :
    catalog.climb levels declaration = [declaration] := by
  cases levels with
  | zero => rfl
  | succ levels => rw [climb, ended]

theorem climb_step (next : catalog.superDeclaration declaration = some parent) :
    catalog.climb (levels + 1) declaration = declaration :: catalog.climb levels parent := by
  rw [climb, next]

/-- The climb from a declaration with a chain is the beginning of the chain. -/
theorem climb_of_chain {above : List Declaration} (chain : catalog.Chain declaration above)
    (levels : Nat) : catalog.climb levels declaration = (declaration :: above).take (levels + 1) := by
  induction chain generalizing levels with
  | root ended => rw [climb_root ended, List.take_succ_cons, List.take_nil]
  | step next _ ih =>
    cases levels with
    | zero => rfl
    | succ levels => rw [climb_step next, ih, ← List.take_succ_cons]

/-! ### Ancestors -/

theorem ancestor?_step (next : catalog.superDeclaration declaration = some parent) :
    catalog.ancestor? (levels + 1) declaration = catalog.ancestor? levels parent := by
  rw [ancestor?, next, Option.bind_some]

theorem ancestor?_next (there : catalog.ancestor? levels declaration = some other)
    (next : catalog.superDeclaration other = some parent) :
    catalog.ancestor? (levels + 1) declaration = some parent := by
  induction levels generalizing declaration with
  | zero =>
    cases there
    exact ancestor?_step next
  | succ levels ih =>
    obtain ⟨second, first, there⟩ := Option.bind_eq_some_iff.mp there
    exact (ancestor?_step first).trans (ih there)

/-- The ancestors of a declaration that is found under its own name are found so too. -/
theorem get?_ancestor (named : catalog.get? declaration.qualifiedName = some declaration)
    (there : catalog.ancestor? levels declaration = some other) :
    catalog.get? other.qualifiedName = some other := by
  induction levels generalizing declaration with
  | zero =>
    cases there
    exact named
  | succ levels ih =>
    obtain ⟨parent, next, there⟩ := Option.bind_eq_some_iff.mp there
    exact ih (get?_superDeclaration next) there

/-- The chain of an ancestor is what is left of the chain. -/
theorem Chain.of_ancestor {above : List Declaration} (chain : catalog.Chain declaration above)
    (there : catalog.ancestor? levels declaration = some other) :
    ∃ rest, catalog.Chain other rest ∧ levels + rest.length = above.length := by
  induction levels generalizing declaration above with
  | zero =>
    cases there
    exact ⟨above, chain, Nat.zero_add _⟩
  | succ levels ih =>
    obtain ⟨parent, next, there⟩ := Option.bind_eq_some_iff.mp there
    cases chain with
    | root ended => simp [ended] at next
    | step first chain =>
      rw [first] at next
      cases next
      obtain ⟨rest, restChain, total⟩ := ih chain there
      exact ⟨rest, restChain, by rw [List.length_cons, ← total]; omega⟩

/-- The first time that a climb comes to a declaration is after so many levels. -/
structure ComesTo (catalog : Catalog) (declaration : Declaration) (levels : Nat)
    (other : Declaration) : Prop where
  there : catalog.ancestor? levels declaration = some other
  first : ∀ fewer < levels, catalog.ancestor? fewer declaration ≠ some other

theorem ComesTo.here : catalog.ComesTo declaration 0 declaration :=
  ⟨rfl, fun _ fewer => absurd fewer (Nat.not_lt_zero _)⟩

/-- A climb comes to another declaration first one level before the climb from below does. -/
theorem comesTo_step (next : catalog.superDeclaration declaration = some parent) :
    catalog.ComesTo declaration (levels + 1) other ↔
      catalog.ComesTo parent levels other ∧ other ≠ declaration := by
  constructor
  · rintro ⟨there, first⟩
    refine ⟨⟨ancestor?_step next ▸ there, fun fewer within => ?_⟩, fun same => ?_⟩
    · rw [← ancestor?_step next]
      exact first (fewer + 1) (Nat.succ_lt_succ within)
    · exact first 0 (Nat.succ_pos levels) (congrArg some same.symm)
  · rintro ⟨⟨there, first⟩, new⟩
    refine ⟨(ancestor?_step next).trans there, fun fewer within => ?_⟩
    cases fewer with
    | zero => exact fun same => new (Option.some.inj same).symm
    | succ fewer =>
      rw [ancestor?_step next]
      exact first fewer (Nat.lt_of_succ_lt_succ within)

end Catalog

variable {catalog : Catalog} {config : Config} {declaration parent : Declaration} {levels : Nat}

/-! ### Methods within some levels -/

/-- The chainable methods that a declaration and those up to some levels above it contribute. -/
def foundWithin (catalog : Catalog) (config : Config) (levels : Nat) (declaration : Declaration) :
    List Method :=
  hierarchyMethods catalog config (catalog.climb levels declaration)

theorem foundWithin_root (levels : Nat) (ended : catalog.superDeclaration declaration = none) :
    foundWithin catalog config levels declaration = hierarchyMethods catalog config [declaration] := by
  rw [foundWithin, Catalog.climb_root ended]

theorem foundWithin_step (next : catalog.superDeclaration declaration = some parent) :
    foundWithin catalog config (levels + 1) declaration =
      keepFirst Method.identity
        (contributed catalog config declaration ++ foundWithin catalog config levels parent) := by
  rw [foundWithin, Catalog.climb_step next, hierarchyMethods_cons]
  rfl

/-- Beyond the end of a chain there is nothing more to find. -/
theorem foundWithin_of_chain {above : List Declaration} (chain : catalog.Chain declaration above)
    (within : above.length ≤ levels) :
    foundWithin catalog config levels declaration =
      hierarchyMethods catalog config (declaration :: above) := by
  rw [foundWithin, Catalog.climb_of_chain chain, List.take_of_length_le (Nat.succ_le_succ within)]

namespace MethodCache

variable {cache : MethodCache}

/-! ### What a walk finds -/

/-- A cache serves a walk of some levels if it has, for the first declaration on the way that it knows,
what the walk would find there without it. -/
inductive Serves (catalog : Catalog) (config : Config) (cache : MethodCache) :
    Nat → Declaration → Prop
  | hit {levels : Nat} {declaration : Declaration} {entry : CacheEntry} :
      cache.get? declaration.qualifiedName = some entry →
        entry.methods = foundWithin catalog config levels declaration →
          Serves catalog config cache levels declaration
  | root {levels : Nat} {declaration : Declaration} :
      cache.get? declaration.qualifiedName = none → catalog.superDeclaration declaration = none →
        Serves catalog config cache levels declaration
  | cut {declaration : Declaration} :
      cache.get? declaration.qualifiedName = none → Serves catalog config cache 0 declaration
  | step {levels : Nat} {declaration parent : Declaration} :
      cache.get? declaration.qualifiedName = none →
        catalog.superDeclaration declaration = some parent →
          Serves catalog config cache levels parent →
            Serves catalog config cache (levels + 1) declaration

/-- The empty cache serves every walk. -/
theorem serves_empty (levels : Nat) (declaration : Declaration) :
    Serves catalog config .empty levels declaration := by
  induction levels generalizing declaration with
  | zero => exact .cut rfl
  | succ levels ih =>
    cases next : catalog.superDeclaration declaration with
    | none => exact .root rfl next
    | some parent => exact .step rfl next (ih parent)

/-- A walk that must not climb stays at its declaration. -/
theorem walk_cut (miss : cache.get? declaration.qualifiedName = none) :
    walk catalog config 0 declaration cache =
      (hierarchyMethods catalog config [declaration],
        Keyed.put cache ⟨declaration.qualifiedName, hierarchyMethods catalog config [declaration]⟩) := by
  unfold walk hierarchyMethods contributed
  cases superType : declaration.superType? <;> simp [miss, superType]

/-- **A walk finds the methods within its levels**, if the cache serves it. -/
theorem walk_of_serves (serves : Serves catalog config cache levels declaration) :
    (walk catalog config levels declaration cache).1 =
      foundWithin catalog config levels declaration := by
  induction serves with
  | hit looked holds => rw [walk_hit looked, holds]
  | root miss ended => rw [walk_root miss ended, foundWithin_root _ ended]
  | cut miss =>
    rw [walk_cut miss]
    rfl
  | step miss next _ ih =>
    rw [walk_step miss next, foundWithin_step next, ← ih]

/-- Without help the chainable methods are those within the limit. -/
theorem chainableMethods_eq (declaration : Declaration) :
    ModelPlanner.chainableMethods catalog config declaration =
      foundWithin catalog config hierarchyLimit declaration :=
  walk_of_serves (serves_empty hierarchyLimit declaration)

/-! ### What a walk keeps -/

/-- A walk that climbs adds its own methods to what the walk of the super declaration keeps. -/
theorem walk_climbs (miss : cache.get? declaration.qualifiedName = none)
    (next : catalog.superDeclaration declaration = some parent)
    (serves : Serves catalog config cache levels parent) :
    (walk catalog config (levels + 1) declaration cache).2 =
      Keyed.put (walk catalog config levels parent cache).2
        ⟨declaration.qualifiedName, foundWithin catalog config (levels + 1) declaration⟩ := by
  rw [walk_step miss next, foundWithin_step next, ← walk_of_serves serves]

/-- **What a walk keeps**: the entries that were there, and for declarations on its way the methods
within the levels that are left at their first visit. -/
theorem mem_walk (serves : Serves catalog config cache levels declaration) {entry : CacheEntry}
    (kept : entry ∈ (walk catalog config levels declaration cache).2.entries) :
    entry ∈ cache.entries ∨ ∃ climbed ≤ levels, ∃ other,
      catalog.ComesTo declaration climbed other ∧
        entry = ⟨other.qualifiedName, foundWithin catalog config (levels - climbed) other⟩ := by
  induction serves with
  | hit looked =>
    rw [walk_hit looked] at kept
    exact Or.inl kept
  | @root levels declaration miss ended =>
    rw [walk_root miss ended, ← foundWithin_root levels ended] at kept
    rcases Keyed.mem_put.mp kept with rfl | ⟨old, _⟩
    · exact Or.inr ⟨0, Nat.zero_le _, declaration, .here, rfl⟩
    · exact Or.inl old
  | @cut declaration miss =>
    rw [walk_cut miss] at kept
    rcases Keyed.mem_put.mp kept with rfl | ⟨old, _⟩
    · exact Or.inr ⟨0, Nat.zero_le _, declaration, .here, rfl⟩
    · exact Or.inl old
  | @step levels declaration parent miss next serves ih =>
    rw [walk_climbs miss next serves] at kept
    rcases Keyed.mem_put.mp kept with rfl | ⟨earlier, differ⟩
    · exact Or.inr ⟨0, Nat.zero_le _, declaration, .here, rfl⟩
    · rcases ih earlier with old | ⟨climbed, within, other, comes, rfl⟩
      · exact Or.inl old
      · have new : other ≠ declaration := fun same => differ (same ▸ rfl)
        refine Or.inr ⟨climbed + 1, Nat.succ_le_succ within, other,
          (Catalog.comesTo_step next).mpr ⟨comes, new⟩, ?_⟩
        rw [Nat.succ_sub_succ]

/-- A walk with the empty cache keeps, for every declaration that it comes to, the methods within the
levels that are left at the first visit. -/
theorem get?_walk {climbed : Nat} {other : Declaration}
    (named : catalog.get? declaration.qualifiedName = some declaration)
    (comes : catalog.ComesTo declaration climbed other) (within : climbed ≤ levels) :
    (walk catalog config levels declaration .empty).2.get? other.qualifiedName =
      some ⟨other.qualifiedName, foundWithin catalog config (levels - climbed) other⟩ := by
  induction climbed generalizing levels declaration with
  | zero =>
    have same : declaration = other := Option.some.inj comes.there
    subst same
    cases @serves_empty catalog config levels declaration with
    | hit looked => cases looked
    | root miss ended =>
      simp [walk_root miss ended, foundWithin_root _ ended]
    | cut miss =>
      simp [walk_cut miss, foundWithin, Catalog.climb]
    | step miss next serves =>
      simp [walk_climbs miss next serves]
  | succ climbed ih =>
    obtain ⟨levels, rfl⟩ := Nat.exists_eq_add_one_of_ne_zero (Nat.ne_zero_of_lt within)
    obtain ⟨parent, next, _⟩ := Option.bind_eq_some_iff.mp comes.there
    obtain ⟨further, new⟩ := (Catalog.comesTo_step next).mp comes
    have differ : other.qualifiedName ≠ declaration.qualifiedName := fun same => by
      have found := Catalog.get?_ancestor named comes.there
      rw [same, named] at found
      exact new (Option.some.inj found).symm
    have earlier := ih (Catalog.get?_superDeclaration next) further (Nat.le_of_succ_le_succ within)
    simpa [walk_climbs rfl next (serves_empty levels parent), differ] using earlier

end MethodCache

end ModelPlanner
