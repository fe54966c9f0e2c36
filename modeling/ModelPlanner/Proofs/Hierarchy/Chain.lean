/-
**Chains of super declarations.**

The chain of a declaration lists the declarations above it, the nearest first: `Catalog.Chain`. A
declaration has a chain exactly if its hierarchy ends, and then only one (`Chain.unique`), which does
not lead back to it (`Chain.not_mem`). A target is short if nothing of its hierarchy is beyond
`hierarchyLimit`: `Catalog.Short`.
-/

import ModelPlanner.Catalog

namespace ModelPlanner.Catalog

/-- The declarations above a declaration, the nearest first. -/
inductive Chain (catalog : Catalog) : Declaration → List Declaration → Prop
  | root {declaration : Declaration} :
      catalog.superDeclaration declaration = none → Chain catalog declaration []
  | step {declaration parent : Declaration} {above : List Declaration} :
      catalog.superDeclaration declaration = some parent → Chain catalog parent above →
        Chain catalog declaration (parent :: above)

/-- A target is short if its declaration, if there is one, has a chain of at most `hierarchyLimit`
declarations. -/
def Short (catalog : Catalog) (target : TypeName) : Prop :=
  ∀ declaration, catalog.resolve target = some declaration →
    ∃ above, catalog.Chain declaration above ∧ above.length ≤ hierarchyLimit

variable {catalog : Catalog}

/-- What a type resolves to is found under the name of the type, which is its own. -/
theorem resolve_eq_some {type : TypeName} {declaration : Declaration}
    (resolved : catalog.resolve type = some declaration) :
    declaration.qualifiedName = type.name ∧
      catalog.get? declaration.qualifiedName = some declaration := by
  unfold resolve at resolved
  split at resolved
  · cases resolved
  · have same : declaration.qualifiedName = type.name := Keyed.key_of_get? resolved
    exact ⟨same, same ▸ resolved⟩

/-- A super declaration is found under its own name. -/
theorem get?_superDeclaration {declaration parent : Declaration}
    (next : catalog.superDeclaration declaration = some parent) :
    catalog.get? parent.qualifiedName = some parent := by
  obtain ⟨type, _, resolved⟩ := Option.bind_eq_some_iff.mp next
  exact (resolve_eq_some resolved).2

/-! ### The chain of a declaration -/

/-- A declaration has at most one chain. -/
theorem Chain.unique {declaration : Declaration} {first second : List Declaration}
    (one : catalog.Chain declaration first) (other : catalog.Chain declaration second) :
    first = second := by
  induction one generalizing second with
  | root ended =>
    cases other with
    | root => rfl
    | step next => simp [ended] at next
  | step next _ ih =>
    cases other with
    | root ended => simp [ended] at next
    | step otherNext rest =>
      rw [next] at otherNext
      cases otherNext
      rw [ih rest]

/-- The chain of a declaration on a chain is shorter. -/
theorem Chain.of_mem {declaration : Declaration} {above : List Declaration}
    (chain : catalog.Chain declaration above) {other : Declaration} (member : other ∈ above) :
    ∃ rest, catalog.Chain other rest ∧ rest.length < above.length := by
  induction chain with
  | root => cases member
  | @step _ parent above _ chain ih =>
    rcases List.mem_cons.mp member with rfl | later
    · exact ⟨above, chain, Nat.lt_succ_self _⟩
    · obtain ⟨rest, restChain, shorter⟩ := ih later
      exact ⟨rest, restChain, Nat.lt_succ_of_lt shorter⟩

/-- A chain does not lead back to its declaration. -/
theorem Chain.not_mem {declaration : Declaration} {above : List Declaration}
    (chain : catalog.Chain declaration above) : declaration ∉ above := by
  intro member
  obtain ⟨rest, restChain, shorter⟩ := chain.of_mem member
  rw [chain.unique restChain] at shorter
  exact Nat.lt_irrefl _ shorter

/-- The declarations of a chain are found under their own names. -/
theorem Chain.get?_of_mem {declaration : Declaration} {above : List Declaration}
    (chain : catalog.Chain declaration above) {other : Declaration} (member : other ∈ above) :
    catalog.get? other.qualifiedName = some other := by
  induction chain with
  | root => cases member
  | step next _ ih =>
    rcases List.mem_cons.mp member with rfl | later
    · exact get?_superDeclaration next
    · exact ih later

/-- No declaration above another one has its name. -/
theorem Chain.qualifiedName_ne {declaration : Declaration} {above : List Declaration}
    (named : catalog.get? declaration.qualifiedName = some declaration)
    (chain : catalog.Chain declaration above) {other : Declaration} (member : other ∈ above) :
    other.qualifiedName ≠ declaration.qualifiedName := by
  intro same
  have found := chain.get?_of_mem member
  rw [same, named] at found
  cases found
  exact chain.not_mem member

end ModelPlanner.Catalog
