/-
**Searches in a hierarchy.**

A type extends the erased types that its declaration names as its super type and its interfaces
(`Catalog.Extends`), and reaches what it comes to in such steps, or in none (`Catalog.Reaches`).

A search hits a type or not, but which types it expands does not depend on what it looks for:
`Catalog.explored`.

* `search_iff`: it looks at the pending types and at those that an explored type extends;
* `examined_of_explored`, `nodup_explored`, `length_explored`: it explores different types that can be
  reached, and no more than the limit;
* `explored_closed`: below the limit it explores all of them;
* `examined_of_reaches`: so if no more than the limit are above a type, it looks at all of them;
* `searchWithin_eq`: it ends after as many rounds as types were pending, and one more.

Hence `isSubtype_iff_reaches`: whether a type is below another one is decided by what it reaches.
-/

import Mathlib.Data.List.Basic
import Mathlib.Data.List.Perm.Subperm
import Mathlib.Logic.Relation
import ModelPlanner.Catalog

namespace ModelPlanner.Catalog

/-! ### Hierarchies -/

/-- A type extends another one: its declaration names that one, erased, as its super type or as one of
its interfaces. Arrays and types without a declaration extend nothing. -/
inductive Extends (catalog : Catalog) : TypeName → TypeName → Prop
  | superType {type upper : TypeName} {declaration : Declaration} :
      catalog.resolve type = some declaration → declaration.superType? = some upper →
        Extends catalog type upper.erasure
  | interface {type upper : TypeName} {declaration : Declaration} :
      catalog.resolve type = some declaration → upper ∈ declaration.interfaces →
        Extends catalog type upper.erasure

/-- A type reaches another one in steps to what it extends, or is it. -/
abbrev Reaches (catalog : Catalog) : TypeName → TypeName → Prop :=
  Relation.ReflTransGen catalog.Extends

/-- A type reaches at most so many types other than itself. -/
def Within (catalog : Catalog) (limit : Nat) (type : TypeName) : Prop :=
  ∃ types : List TypeName, types.length ≤ limit ∧
    ∀ upper, catalog.Reaches type upper → upper = type ∨ upper ∈ types

/-- The types that the search expands one after the other, if it hits none. -/
def explored (catalog : Catalog) (limit : Nat) (visited pending : List TypeName) : List TypeName :=
  match pending with
  | [] => []
  | current :: rest =>
    if visited.length < limit ∧ current ∉ visited then
      current :: explored catalog limit (current :: visited) ((catalog.above current).reverse ++ rest)
    else explored catalog limit visited rest
termination_by (limit - visited.length, pending.length)
decreasing_by
  · exact Prod.Lex.left _ _ (by simp only [List.length_cons]; omega)
  · exact Prod.Lex.right _ (by simp)

variable {catalog : Catalog} {limit : Nat} {visited pending : List TypeName}

/-- What stands above a type is what it extends. -/
@[simp]
theorem mem_above_iff {type upper : TypeName} :
    upper ∈ catalog.above type ↔ catalog.Extends type upper := by
  unfold above
  constructor
  · intro member
    cases resolved : catalog.resolve type with
    | none =>
      rw [resolved] at member
      cases member
    | some declaration =>
      rw [resolved] at member
      obtain ⟨named, listed, rfl⟩ := List.mem_map.mp member
      rcases List.mem_append.mp listed with first | later
      · exact .superType resolved (Option.mem_toList.mp first)
      · exact .interface resolved later
  · intro step
    cases step with
    | superType resolved named =>
      rw [resolved]
      exact List.mem_map_of_mem (List.mem_append_left _ (Option.mem_toList.mpr named))
    | interface resolved named =>
      rw [resolved]
      exact List.mem_map_of_mem (List.mem_append_right _ named)

theorem mem_reverse_above_iff {type upper : TypeName} :
    upper ∈ (catalog.above type).reverse ↔ catalog.Extends type upper :=
  List.mem_reverse.trans mem_above_iff

/-! ### What a search looks at -/

/-- The search looks at a type: it is pending, or an explored type extends it. -/
def Examined (catalog : Catalog) (limit : Nat) (visited pending : List TypeName) (type : TypeName) : Prop :=
  type ∈ pending ∨ ∃ lower ∈ catalog.explored limit visited pending, catalog.Extends lower type

@[simp]
theorem explored_nil : catalog.explored limit visited [] = [] := by
  rw [explored]

/-- A new type is expanded below the limit. -/
theorem explored_new {current : TypeName} {rest : List TypeName}
    (new : visited.length < limit ∧ current ∉ visited) :
    catalog.explored limit visited (current :: rest) = current ::
      catalog.explored limit (current :: visited) ((catalog.above current).reverse ++ rest) := by
  rw [explored, if_pos new]

/-- A known type, and any type at the limit, is passed over. -/
theorem explored_passed {current : TypeName} {rest : List TypeName}
    (passed : ¬ (visited.length < limit ∧ current ∉ visited)) :
    catalog.explored limit visited (current :: rest) = catalog.explored limit visited rest := by
  rw [explored, if_neg passed]

/-- **A search hits exactly if it looks at a type that is hit.** -/
theorem search_iff {hit : TypeName → Bool} :
    catalog.search hit limit visited pending = true ↔
      ∃ type, catalog.Examined limit visited pending type ∧ hit type = true := by
  fun_induction search catalog hit limit visited pending with
  | case1 visited =>
    refine iff_of_false nofun ?_
    rintro ⟨type, pending | ⟨lower, expanded, _⟩, _⟩
    · cases pending
    · rw [explored_nil] at expanded
      cases expanded
  | case2 visited current rest hits =>
    exact iff_of_true rfl ⟨current, Or.inl List.mem_cons_self, hits⟩
  | case3 visited current rest misses new ih =>
    rw [ih]
    refine exists_congr fun type => and_congr_left fun hits => ?_
    have other : type ≠ current := fun same => misses (same ▸ hits)
    unfold Examined
    simp only [explored_new new, List.mem_append, mem_reverse_above_iff, List.mem_cons, other,
      false_or, exists_eq_or_imp]
    tauto
  | case4 visited current rest misses passed ih =>
    rw [ih]
    refine exists_congr fun type => and_congr_left fun hits => ?_
    have other : type ≠ current := fun same => misses (same ▸ hits)
    unfold Examined
    simp only [explored_passed passed, List.mem_cons, other, false_or]

/-! ### What a search explores -/

/-- A search explores types that it looks at. -/
theorem examined_of_explored {type : TypeName}
    (expanded : type ∈ catalog.explored limit visited pending) :
    catalog.Examined limit visited pending type := by
  fun_induction explored catalog limit visited pending with
  | case1 => cases expanded
  | case2 visited current rest new ih =>
    unfold Examined
    rw [explored_new new]
    rcases List.mem_cons.mp expanded with rfl | later
    · exact Or.inl List.mem_cons_self
    · rcases ih later with pending | ⟨lower, earlier, step⟩
      · rcases List.mem_append.mp pending with above | there
        · have step := mem_reverse_above_iff.mp above
          exact Or.inr ⟨current, List.mem_cons_self, step⟩
        · exact Or.inl (List.mem_cons_of_mem _ there)
      · exact Or.inr ⟨lower, List.mem_cons_of_mem _ earlier, step⟩
  | case3 visited current rest passed ih =>
    unfold Examined
    rw [explored_passed passed]
    exact (ih expanded).imp_left (List.mem_cons_of_mem _)

/-- A search explores different types that were not visited before. -/
theorem nodup_explored : (catalog.explored limit visited pending).Nodup ∧
    ∀ type ∈ catalog.explored limit visited pending, type ∉ visited := by
  fun_induction explored catalog limit visited pending with
  | case1 => exact ⟨List.nodup_nil, nofun⟩
  | case2 visited current rest new ih =>
    obtain ⟨distinct, fresh⟩ := ih
    refine ⟨List.nodup_cons.mpr ⟨fun again => fresh current again List.mem_cons_self, distinct⟩, ?_⟩
    rintro type member
    rcases List.mem_cons.mp member with rfl | later
    · exact new.2
    · exact fun known => fresh type later (List.mem_cons_of_mem _ known)
  | case3 visited current rest passed ih => exact ih

/-- A search explores no more types than the limit leaves. -/
theorem length_explored : (catalog.explored limit visited pending).length ≤ limit - visited.length := by
  fun_induction explored catalog limit visited pending with
  | case1 => exact Nat.zero_le _
  | case2 visited current rest new ih =>
    rw [List.length_cons] at ih ⊢
    omega
  | case3 visited current rest passed ih => exact ih

/-- A search that does not come to the limit explores every type that it looks at, unless it was visited
before. -/
theorem explored_closed
    (below : visited.length + (catalog.explored limit visited pending).length < limit)
    {type : TypeName} (examined : catalog.Examined limit visited pending type) :
    type ∈ visited ∨ type ∈ catalog.explored limit visited pending := by
  fun_induction explored catalog limit visited pending with
  | case1 =>
    rcases examined with pending | ⟨lower, expanded, _⟩
    · cases pending
    · rw [explored_nil] at expanded
      cases expanded
  | case2 visited current rest new ih =>
    rw [List.length_cons] at below
    unfold Examined at examined ih
    rw [explored_new new] at examined
    simp only [List.mem_cons, List.mem_append, mem_reverse_above_iff] at examined ih ⊢
    have later := ih (by simp only [List.length_cons]; omega)
    rw [or_left_comm, ← or_assoc]
    rcases examined with (rfl | there) | ⟨lower, rfl | earlier, step⟩
    · exact Or.inl (Or.inl rfl)
    · exact later (Or.inl (Or.inr there))
    · exact later (Or.inl (Or.inl step))
    · exact later (Or.inr ⟨lower, earlier, step⟩)
  | case3 visited current rest passed ih =>
    unfold Examined at examined ih
    rw [explored_passed passed] at examined
    rcases examined with pending | above
    · rcases List.mem_cons.mp pending with rfl | there
      · -- there is room for it, so it is passed over for being known
        have room : visited.length < limit := by omega
        exact Or.inl (by_contra fun unknown => passed ⟨room, unknown⟩)
      · exact ih below (Or.inl there)
    · exact ih below (Or.inr above)

/-- What a search explores is reached from what was pending. -/
theorem reaches_of_explored {type : TypeName}
    (expanded : type ∈ catalog.explored limit visited pending) :
    ∃ start ∈ pending, catalog.Reaches start type := by
  fun_induction explored catalog limit visited pending with
  | case1 => cases expanded
  | case2 visited current rest new ih =>
    rcases List.mem_cons.mp expanded with rfl | later
    · exact ⟨type, List.mem_cons_self, .refl⟩
    · obtain ⟨start, there, path⟩ := ih later
      rcases List.mem_append.mp there with above | there
      · have step := mem_reverse_above_iff.mp above
        exact ⟨current, List.mem_cons_self, .head step path⟩
      · exact ⟨start, List.mem_cons_of_mem _ there, path⟩
  | case3 visited current rest passed ih =>
    obtain ⟨start, there, path⟩ := ih expanded
    exact ⟨start, List.mem_cons_of_mem _ there, path⟩

/-- What a search from a type looks at is reached from the type. -/
theorem Examined.reaches {start type : TypeName} (examined : catalog.Examined limit visited [start] type) :
    catalog.Reaches start type := by
  rcases examined with pending | ⟨lower, expanded, step⟩
  · rw [List.mem_singleton.mp pending]
  · obtain ⟨first, there, path⟩ := reaches_of_explored expanded
    rw [List.mem_singleton.mp there] at path
    exact path.tail step

/-! ### Searches within the limit -/

/-- A path out of what a search has explored goes through a type that it looks at. -/
theorem exists_exit {lower type : TypeName} (path : catalog.Reaches lower type)
    (inside : lower ∈ catalog.explored limit visited pending)
    (outside : type ∉ catalog.explored limit visited pending) :
    ∃ exit, exit ∉ catalog.explored limit visited pending ∧
      catalog.Examined limit visited pending exit ∧ catalog.Reaches exit type := by
  induction path using Relation.ReflTransGen.head_induction_on with
  | refl => exact absurd inside outside
  | @head lower next step path ih =>
    by_cases expanded : next ∈ catalog.explored limit visited pending
    · exact ih expanded
    · exact ⟨next, expanded, Or.inr ⟨lower, inside, step⟩, path⟩

/-- **A search from a type with no more than the limit above it looks at all that it reaches**: what it
does not explore is a single type at most. -/
theorem examined_of_reaches {start type : TypeName} (positive : 0 < limit)
    (within : catalog.Within limit start) (path : catalog.Reaches start type) :
    catalog.Examined limit [] [start] type := by
  obtain ⟨types, few, listed⟩ := within
  by_contra unseen
  have first : start ∈ catalog.explored limit [] [start] := by
    rw [explored_new ⟨positive, List.not_mem_nil⟩]
    exact List.mem_cons_self
  have outside : type ∉ catalog.explored limit [] [start] := fun expanded =>
    unseen (examined_of_explored expanded)
  obtain ⟨exit, left, examined, further⟩ := exists_exit path first outside
  have full : limit ≤ (catalog.explored limit [] [start]).length := by
    by_contra below
    rcases explored_closed (by simpa using below) examined with known | expanded
    · cases known
    · exact left expanded
  have different : exit ≠ type := fun same => unseen (same ▸ examined)
  -- the explored types and these two are too many
  have distinct : (type :: exit :: catalog.explored limit [] [start]).Nodup :=
    List.nodup_cons.mpr ⟨by simp [outside, Ne.symm different], List.nodup_cons.mpr ⟨left, nodup_explored.1⟩⟩
  have reached : ∀ upper ∈ type :: exit :: catalog.explored limit [] [start], upper ∈ start :: types := by
    intro upper member
    refine List.mem_cons.mpr (listed upper ?_)
    rcases List.mem_cons.mp member with rfl | member
    · exact path
    · rcases List.mem_cons.mp member with rfl | expanded
      · exact examined.reaches
      · exact (examined_of_explored expanded).reaches
  have fits := (List.subperm_of_subset distinct reached).length_le
  simp only [List.length_cons] at fits
  omega

/-! ### The rounds of a search -/

/-- The answer of a search after so many rounds of its loop, if it has one by then. -/
def searchWithin (catalog : Catalog) (hit : TypeName → Bool) (limit : Nat) :
    Nat → List TypeName → List TypeName → Option Bool
  | 0, _, _ => none
  | _ + 1, _, [] => some false
  | rounds + 1, visited, current :: rest =>
    if hit current then some true
    else if visited.length < limit ∧ current ∉ visited then
      searchWithin catalog hit limit rounds (current :: visited) ((catalog.above current).reverse ++ rest)
    else searchWithin catalog hit limit rounds visited rest

/-- The number of types that become pending in a search. -/
def pendingCount (catalog : Catalog) (limit : Nat) (visited pending : List TypeName) : Nat :=
  pending.length + ((catalog.explored limit visited pending).flatMap catalog.above).length

/-- **A search ends after a round for every type that becomes pending and one more, at the latest.** -/
theorem searchWithin_eq {hit : TypeName → Bool} {rounds : Nat}
    (enough : catalog.pendingCount limit visited pending < rounds) :
    catalog.searchWithin hit limit rounds visited pending =
      some (catalog.search hit limit visited pending) := by
  unfold pendingCount at enough
  fun_induction search catalog hit limit visited pending generalizing rounds with
  | case1 =>
    cases rounds with
    | zero => cases enough
    | succ rounds => rfl
  | case2 visited current rest hits =>
    cases rounds with
    | zero => cases enough
    | succ rounds => rw [searchWithin, if_pos hits]
  | case3 visited current rest misses new ih =>
    cases rounds with
    | zero => cases enough
    | succ rounds =>
      rw [searchWithin, if_neg misses, if_pos new]
      refine ih ?_
      rw [explored_new new, List.flatMap_cons, List.length_append, List.length_cons] at enough
      rw [List.length_append, List.length_reverse]
      omega
  | case4 visited current rest misses passed ih =>
    cases rounds with
    | zero => cases enough
    | succ rounds =>
      rw [searchWithin, if_neg misses, if_neg passed]
      refine ih ?_
      rw [explored_passed passed, List.length_cons] at enough
      omega

/-! ### Subtypes -/

/-- **Whether a type is below another one is decided by what it reaches.** In every catalog, cyclic or
not, a type that counts as a subtype reaches the other type, both erased; the converse holds as well if it
reaches no more types than the limit, whether or not it is counted itself; and the search comes to its
answer after finitely many rounds. -/
theorem isSubtype_iff_reaches (catalog : Catalog) (sub sup : TypeName) :
    (catalog.isSubtype sub sup = true → catalog.Reaches sub.erasure sup.erasure) ∧
      (catalog.Within hierarchyLimit sub.erasure →
        (catalog.isSubtype sub sup = true ↔ catalog.Reaches sub.erasure sup.erasure)) ∧
      ∃ rounds, catalog.searchWithin (· == sup.erasure) hierarchyLimit rounds [] [sub.erasure] =
        some (catalog.isSubtype sub sup) := by
  have examined_iff : catalog.isSubtype sub sup = true ↔
      catalog.Examined hierarchyLimit [] [sub.erasure] sup.erasure := by
    rw [isSubtype, search_iff]
    simp only [beq_iff_eq, exists_eq_right]
  refine ⟨fun below => (examined_iff.mp below).reaches, fun within => ?_, ?_⟩
  · refine ⟨fun below => (examined_iff.mp below).reaches, fun path => examined_iff.mpr ?_⟩
    exact examined_of_reaches (by decide) within path
  · exact ⟨_, searchWithin_eq (Nat.lt_succ_self _)⟩

/-- Types that extend each other only reach each other only. -/
theorem mem_of_reaches {types : List TypeName}
    (closed : ∀ type ∈ types, ∀ upper ∈ catalog.above type, upper ∈ types) {lower upper : TypeName}
    (member : lower ∈ types) (path : catalog.Reaches lower upper) : upper ∈ types := by
  induction path with
  | refl => exact member
  | tail _ step ih => exact closed _ ih _ (mem_above_iff.mpr step)

/-- Two classes that extend each other and have an interface in common; one of them names an array type
and a type without declaration as well. -/
def loopedCards : Catalog where
  entries :=
    [{ Declaration.bare .classKind "app.Card" with
        superType? := some (.applied "app.Base" [.exact (.raw "View")])
        interfaces := [.raw "app.Clickable", (TypeName.raw "app.Other").arrayOf] },
     { Declaration.bare .classKind "app.Base" with
        superType? := some (.raw "app.Card")
        interfaces := [.raw "lib.Missing", .applied "app.Clickable" [.wildcard]] },
     Declaration.bare .interfaceKind "app.Clickable",
     { Declaration.bare .classKind "app.Other" with superType? := some (.raw "app.Base") }]
  distinct := by decide

/-- A card of the loop is clickable through the base class, whose argument does not matter; it is not below
the class whose array type it names. -/
theorem isSubtype_iff_reaches_looped :
    loopedCards.Within hierarchyLimit (.raw "app.Card") ∧
      loopedCards.isSubtype (.raw "app.Card") (.applied "lib.Missing" [.wildcard]) = true ∧
      loopedCards.isSubtype (.raw "app.Card") (.raw "app.Other") = false := by
  have closed : ∀ upper, loopedCards.Reaches (.raw "app.Card") upper → upper ∈ [TypeName.raw "app.Card",
      .raw "app.Base", .raw "app.Clickable", (TypeName.raw "app.Other").arrayOf, .raw "lib.Missing"] :=
    fun upper => mem_of_reaches (by decide) List.mem_cons_self
  have within : loopedCards.Within hierarchyLimit (.raw "app.Card") :=
    ⟨_, by decide, fun upper path => List.mem_cons.mp (closed upper path)⟩
  have toBase : loopedCards.Extends (.raw "app.Card") (.raw "app.Base") := mem_above_iff.mp (by decide)
  have toMissing : loopedCards.Extends (.raw "app.Base") (.raw "lib.Missing") :=
    mem_above_iff.mp (by decide)
  refine ⟨within, ?_, ?_⟩
  · have decided := (isSubtype_iff_reaches loopedCards (.raw "app.Card")
      (.applied "lib.Missing" [.wildcard])).2.1 within
    exact decided.mpr (.head toBase (.single toMissing))
  · have decided := (isSubtype_iff_reaches loopedCards (.raw "app.Card") (.raw "app.Other")).2.1 within
    rw [← Bool.not_eq_true, decided]
    exact fun path => absurd (closed _ path) (by decide)

end ModelPlanner.Catalog
