/-
**Names in a hierarchy.**

A type inherits a name if it answers to it, or a type that it reaches does: `Catalog.Inherits`. The
search for a name is stopped by the number of types that it has expanded, however few levels the
hierarchy has, so in a hierarchy that ends it may stop before it has looked at all types.

* `Catalog.lineage` lists a type and all above it, each before those that it extends and with all above
  its later interfaces before the earlier ones;
* `Catalog.ReachedFirst`: what a visited type reaches is visited, or comes before the type comes again;
* `explored_eq`: so a search expands the lineage of the pending types, without repetitions, up to the
  limit;
* `implements_iff_seen`: and a type implements exactly the names that the types seen this way answer to.

Hence `implements_exact_iff`: the answers for a type whose hierarchy ends are right exactly if every type
above it that is not seen has a name that a seen one answers to. They are not for a class with many
interfaces (`capability_missed`).
-/

import Mathlib.Data.List.Nodup
import ModelPlanner.Distinct
import ModelPlanner.Proofs.Hierarchy.Search

namespace ModelPlanner.Catalog

/-! ### Hierarchies that end -/

/-- The hierarchy above a type ends: a path upwards takes at most so many steps. -/
def EndsWithin (catalog : Catalog) (levels : Nat) (type : TypeName) : Prop :=
  ∀ path : List TypeName, List.IsChain catalog.Extends (type :: path) → path.length ≤ levels

/-- A type answers to a name, or a type that it reaches does. -/
def Inherits (catalog : Catalog) (type : TypeName) (capability : String) : Prop :=
  ∃ upper, catalog.Reaches type.erasure upper ∧ upper.isNamed capability = true

variable {catalog : Catalog} {limit levels : Nat} {visited pending : List TypeName} {type upper : TypeName}

/-- A hierarchy without a level is a type that extends nothing. -/
theorem endsWithin_zero_iff : catalog.EndsWithin 0 type ↔ ∀ upper, ¬ catalog.Extends type upper := by
  constructor
  · intro ends upper step
    have few := ends [upper] (.cons_cons step (.singleton upper))
    exact absurd few (by simp)
  · rintro top (_ | ⟨upper, path⟩) chain
    · exact Nat.le_refl 0
    · exact absurd (List.isChain_cons_cons.mp chain).1 (top upper)

/-- A hierarchy has one more level than those above what the type extends. -/
theorem endsWithin_succ_iff :
    catalog.EndsWithin (levels + 1) type ↔
      ∀ upper, catalog.Extends type upper → catalog.EndsWithin levels upper := by
  constructor
  · intro ends upper step path chain
    have few := ends (upper :: path) (.cons_cons step chain)
    exact Nat.le_of_succ_le_succ few
  · rintro above (_ | ⟨upper, path⟩) chain
    · exact Nat.zero_le _
    · obtain ⟨step, rest⟩ := List.isChain_cons_cons.mp chain
      exact Nat.succ_le_succ (above upper step path rest)

instance decidableEndsWithin (catalog : Catalog) :
    (levels : Nat) → (type : TypeName) → Decidable (catalog.EndsWithin levels type)
  | 0, type =>
    decidable_of_iff (∀ upper ∈ catalog.above type, False) <| by
      simp only [endsWithin_zero_iff, mem_above_iff, Not]
  | levels + 1, type =>
    have := decidableEndsWithin catalog levels
    decidable_of_iff (∀ upper ∈ catalog.above type, catalog.EndsWithin levels upper) <| by
      simp only [endsWithin_succ_iff, mem_above_iff]

/-- What a type extends ends no later than the type. -/
theorem EndsWithin.above (ends : catalog.EndsWithin levels type) (step : catalog.Extends type upper) :
    catalog.EndsWithin levels upper := by
  intro path chain
  have few := ends (upper :: path) (.cons_cons step chain)
  exact Nat.le_of_succ_le few

theorem EndsWithin.mono {more : Nat} (ends : catalog.EndsWithin levels type) (fewer : levels ≤ more) :
    catalog.EndsWithin more type :=
  fun path chain => Nat.le_trans (ends path chain) fewer

/-- **A hierarchy that ends does not lead back.** -/
theorem EndsWithin.not_reaches (ends : catalog.EndsWithin levels type) (step : catalog.Extends type upper) :
    ¬ catalog.Reaches upper type := by
  induction levels generalizing type upper with
  | zero => exact absurd step (endsWithin_zero_iff.mp ends upper)
  | succ levels ih =>
    intro back
    have fewer := endsWithin_succ_iff.mp ends upper step
    rcases back.cases_head with rfl | ⟨next, first, rest⟩
    · exact ih fewer step .refl
    · exact ih fewer first (rest.tail step)

/-! ### The lineage of a type -/

/-- A type and those above it, up to so many levels, in the order of a search that expands a type as often
as it comes up. -/
def lineage (catalog : Catalog) : Nat → TypeName → List TypeName
  | 0, type => [type]
  | levels + 1, type => type :: (catalog.above type).reverse.flatMap (catalog.lineage levels)

/-- The lineage of a type whose hierarchy ends is the type followed by those of what it extends. -/
theorem lineage_eq (ends : catalog.EndsWithin levels type) :
    catalog.lineage levels type =
      type :: (catalog.above type).reverse.flatMap (catalog.lineage levels) := by
  induction levels generalizing type with
  | zero =>
    have nothing : catalog.above type = [] :=
      List.eq_nil_iff_forall_not_mem.mpr fun upper member =>
        endsWithin_zero_iff.mp ends upper (mem_above_iff.mp member)
    rw [nothing]
    rfl
  | succ levels ih =>
    refine congrArg (type :: ·) (List.flatMap_congr fun upper member => ?_)
    exact ih (endsWithin_succ_iff.mp ends upper (mem_reverse_above_iff.mp member))

/-- The lineage of a type lists what it reaches. -/
theorem mem_lineage_iff (ends : catalog.EndsWithin levels type) :
    upper ∈ catalog.lineage levels type ↔ catalog.Reaches type upper := by
  induction levels generalizing type with
  | zero =>
    rw [lineage, List.mem_singleton]
    constructor
    · rintro rfl
      exact .refl
    · intro path
      rcases path.cases_head with same | ⟨next, step, _⟩
      · exact same.symm
      · exact absurd step (endsWithin_zero_iff.mp ends next)
  | succ levels ih =>
    rw [lineage, List.mem_cons, List.mem_flatMap]
    constructor
    · rintro (rfl | ⟨next, member, later⟩)
      · exact .refl
      · have step := mem_reverse_above_iff.mp member
        exact .head step ((ih (endsWithin_succ_iff.mp ends next step)).mp later)
    · intro path
      rcases path.cases_head with same | ⟨next, step, rest⟩
      · exact Or.inl same.symm
      · have fewer := endsWithin_succ_iff.mp ends next step
        exact Or.inr ⟨next, mem_reverse_above_iff.mpr step, (ih fewer).mpr rest⟩

/-! ### The order of a search -/

/-- What a visited type reaches is visited, or comes up before the visited type comes up again. -/
def ReachedFirst (catalog : Catalog) (levels : Nat) (visited pending : List TypeName) : Prop :=
  ∀ type ∈ visited, ∀ upper, catalog.Reaches type upper →
    upper ∈ visited ∨ upper ∈ (pending.flatMap (catalog.lineage levels)).takeWhile (· ≠ type)

theorem reachedFirst_nil : catalog.ReachedFirst levels [] pending := nofun

/-- Expanding a type keeps this order: the type does not come up again before all that it reaches,
since the hierarchy does not lead back to it. -/
theorem ReachedFirst.expand {rest : List TypeName}
    (ordered : catalog.ReachedFirst levels visited (type :: rest)) (ends : catalog.EndsWithin levels type) :
    catalog.ReachedFirst levels (type :: visited) ((catalog.above type).reverse ++ rest) := by
  intro known member upper path
  by_cases same : known = type
  · subst same
    have reached : upper ∈ catalog.lineage levels known := (mem_lineage_iff ends).mpr path
    rw [lineage_eq ends] at reached
    rcases List.mem_cons.mp reached with rfl | above
    · exact Or.inl List.mem_cons_self
    · refine Or.inr ?_
      rw [List.flatMap_append, List.takeWhile_append_of_pos]
      · exact List.mem_append_left _ above
      · intro other later
        obtain ⟨next, first, later⟩ := List.mem_flatMap.mp later
        have step := mem_reverse_above_iff.mp first
        have onward := (mem_lineage_iff (ends.above step)).mp later
        exact decide_eq_true fun same => ends.not_reaches step (same ▸ onward)
  · have before := ordered known ((List.mem_cons.mp member).resolve_left same) upper path
    rw [List.flatMap_cons, lineage_eq ends, List.cons_append,
      List.takeWhile_cons_of_pos (by simpa using Ne.symm same), List.mem_cons] at before
    rw [List.flatMap_append, List.mem_cons]
    tauto

/-- The lineage of a known type is visited. -/
theorem ReachedFirst.known {rest : List TypeName}
    (ordered : catalog.ReachedFirst levels visited (type :: rest))
    (ends : catalog.EndsWithin levels type) (known : type ∈ visited) :
    ∀ upper ∈ catalog.lineage levels type, upper ∈ visited := by
  intro upper member
  have before := ordered type known upper ((mem_lineage_iff ends).mp member)
  rw [List.flatMap_cons, lineage_eq ends, List.cons_append,
    List.takeWhile_cons_of_neg (by simp)] at before
  exact before.resolve_right List.not_mem_nil

/-- Passing over a known type keeps this order. -/
theorem ReachedFirst.pass {rest : List TypeName}
    (ordered : catalog.ReachedFirst levels visited (type :: rest))
    (ends : catalog.EndsWithin levels type) (known : type ∈ visited) :
    catalog.ReachedFirst levels visited rest := by
  intro other member upper path
  -- what comes up in the part that is passed over is visited already
  by_cases above : other ∈ catalog.lineage levels type
  · have reached := ((mem_lineage_iff ends).mp above).trans path
    exact Or.inl (ordered.known ends known upper ((mem_lineage_iff ends).mpr reached))
  · have before := ordered other member upper path
    have front : ∀ first ∈ catalog.lineage levels type, decide (first ≠ other) = true :=
      fun first listed => decide_eq_true fun same => above (same ▸ listed)
    rw [List.flatMap_cons, List.takeWhile_append_of_pos front, List.mem_append] at before
    rcases before with visited | first | later
    · exact Or.inl visited
    · exact Or.inl (ordered.known ends known upper first)
    · exact Or.inr later

/-- A type that was not visited is the first of the different ones that were not. -/
theorem eraseDups_removeAll_cons {rest : List TypeName} (new : type ∉ visited) :
    ((type :: rest).removeAll visited).eraseDups =
      type :: (rest.removeAll (type :: visited)).eraseDups := by
  rw [List.cons_removeAll, if_pos (by simpa using new), List.eraseDups_cons, List.removeAll_cons,
    List.removeAll, List.removeAll, List.filter_comm]

/-- Visited types are left out. -/
theorem removeAll_append {front back : List TypeName} (known : ∀ type ∈ front, type ∈ visited) :
    (front ++ back).removeAll visited = back.removeAll visited := by
  have nothing : front.removeAll visited = [] :=
    List.filter_eq_nil_iff.mpr fun type member => by simpa using known type member
  rw [List.removeAll, List.filter_append]
  exact congrArg (· ++ _) nothing

/-- **A search expands the lineages of the pending types one after the other**, every type only once and
without those visited before, up to the limit. -/
theorem explored_eq (ends : ∀ type ∈ pending, catalog.EndsWithin levels type)
    (ordered : catalog.ReachedFirst levels visited pending) :
    catalog.explored limit visited pending =
      (((pending.flatMap (catalog.lineage levels)).removeAll visited).eraseDups).take
        (limit - visited.length) := by
  fun_induction explored catalog limit visited pending with
  | case1 visited => rw [List.flatMap_nil, List.nil_removeAll, List.eraseDups_nil, List.take_nil]
  | case2 visited current rest new ih =>
    have here := ends current List.mem_cons_self
    have later : ∀ type ∈ (catalog.above current).reverse ++ rest, catalog.EndsWithin levels type := by
      intro type member
      rcases List.mem_append.mp member with above | there
      · exact here.above (mem_reverse_above_iff.mp above)
      · exact ends type (List.mem_cons_of_mem _ there)
    have room : limit - visited.length = limit - (visited.length + 1) + 1 := by omega
    rw [ih later (ordered.expand here), List.flatMap_cons, lineage_eq here, List.cons_append,
      ← List.flatMap_append, eraseDups_removeAll_cons new.2, room, List.take_succ_cons, List.length_cons]
  | case3 visited current rest passed ih =>
    by_cases room : visited.length < limit
    · have here := ends current List.mem_cons_self
      have known : current ∈ visited := by_contra fun unknown => passed ⟨room, unknown⟩
      rw [ih (fun type member => ends type (List.mem_cons_of_mem _ member)) (ordered.pass here known),
        List.flatMap_cons, removeAll_append (ordered.known here known)]
    · -- at the limit there is nothing left to take, whatever is pending
      have full : limit - visited.length = 0 := by omega
      have few : (catalog.explored limit visited rest).length ≤ limit - visited.length := length_explored
      rw [full] at few ⊢
      exact List.eq_nil_of_length_eq_zero (Nat.le_zero.mp few)

/-! ### What a search for a name sees -/

/-- A search from a type sees it and what the first different types of its lineage extend, as many of them
as the limit allows. -/
def Seen (catalog : Catalog) (levels : Nat) (start type : TypeName) : Prop :=
  type = start ∨
    ∃ lower ∈ (catalog.lineage levels start).eraseDups.take hierarchyLimit, catalog.Extends lower type

theorem examined_iff_seen (ends : catalog.EndsWithin levels type) :
    catalog.Examined hierarchyLimit [] [type] upper ↔ catalog.Seen levels type upper := by
  have alone : ∀ other ∈ [type], catalog.EndsWithin levels other := fun other member =>
    List.mem_singleton.mp member ▸ ends
  rw [Examined, explored_eq alone reachedFirst_nil, List.mem_singleton, List.flatMap_singleton,
    List.removeAll_nil, List.length_nil, Nat.sub_zero]
  rfl

/-- **A type implements the names that the types seen from it answer to.** -/
theorem implements_iff_seen {capability : String} (ends : catalog.EndsWithin levels type.erasure) :
    catalog.implements type capability = true ↔
      ∃ upper, catalog.Seen levels type.erasure upper ∧ upper.isNamed capability = true := by
  rw [implements, search_iff]
  exact exists_congr fun upper => and_congr_left fun _ => examined_iff_seen ends

/-- In every catalog, cyclic or not, a type inherits the names that it implements. -/
theorem inherits_of_implements {capability : String}
    (implemented : catalog.implements type capability = true) : catalog.Inherits type capability := by
  obtain ⟨upper, examined, named⟩ := search_iff.mp implemented
  exact ⟨upper, examined.reaches, named⟩

/-- A type that reaches no more types than the limit implements the names that it inherits. -/
theorem implements_of_within {capability : String} (within : catalog.Within hierarchyLimit type.erasure)
    (inherits : catalog.Inherits type capability) : catalog.implements type capability = true := by
  obtain ⟨upper, path, named⟩ := inherits
  exact search_iff.mpr ⟨upper, examined_of_reaches (by decide) within path, named⟩

/-- Every type that is no array answers to its own name. -/
theorem isNamed_name (flat : type.isArray = false) : type.isNamed type.name = true := by
  rw [TypeName.isNamed, flat, QualifiedName.answersTo, beq_self_eq_true]
  rfl

/-- What answers to the name of a type answers to all that the type answers to. -/
theorem isNamed_trans {seen : TypeName} {capability : String} (answers : seen.isNamed upper.name = true)
    (named : upper.isNamed capability = true) : seen.isNamed capability = true := by
  obtain ⟨flat, answers⟩ := Bool.and_eq_true_iff.mp answers
  obtain ⟨_, named⟩ := Bool.and_eq_true_iff.mp named
  exact Bool.and_eq_true_iff.mpr ⟨flat, QualifiedName.answersTo_trans answers named⟩

/-- **When the answers for a type are right.** If the hierarchy above a type ends, the type implements
exactly the names that the types seen from it answer to. It inherits all of them. It implements all names
that it inherits if and only if every type above it that is no array has a name that a seen one answers
to; no more types above it than the limit are enough for that, few levels are not. -/
theorem implements_exact_iff (ends : catalog.EndsWithin levels type.erasure) :
    (∀ capability, catalog.implements type capability = true ↔
        ∃ upper, catalog.Seen levels type.erasure upper ∧ upper.isNamed capability = true) ∧
      (∀ capability, catalog.implements type capability = true → catalog.Inherits type capability) ∧
      ((∀ capability, catalog.implements type capability = true ↔ catalog.Inherits type capability) ↔
        ∀ upper, catalog.Reaches type.erasure upper → upper.isArray = false →
          ∃ seen, catalog.Seen levels type.erasure seen ∧ seen.isNamed upper.name = true) ∧
      (catalog.Within hierarchyLimit type.erasure →
        ∀ capability, catalog.implements type capability = true ↔ catalog.Inherits type capability) := by
  refine ⟨fun capability => implements_iff_seen ends, fun capability => inherits_of_implements, ?_, ?_⟩
  · constructor
    · intro right upper path flat
      have inherits : catalog.Inherits type upper.name := ⟨upper, path, isNamed_name flat⟩
      exact (implements_iff_seen ends).mp ((right upper.name).mpr inherits)
    · intro covered capability
      refine ⟨inherits_of_implements, fun ⟨upper, path, named⟩ => ?_⟩
      have flat : upper.isArray = false := by
        simpa using (Bool.and_eq_true_iff.mp named).1
      obtain ⟨seen, there, answers⟩ := covered upper path flat
      exact (implements_iff_seen ends).mpr ⟨seen, there, isNamed_trans answers named⟩
  · exact fun within capability => ⟨inherits_of_implements, implements_of_within within⟩

/-- A class that comes to an interface directly and through its base class. -/
def layeredCards : Catalog where
  entries :=
    [{ Declaration.bare .classKind "app.Card" with
        superType? := some (.raw "app.Base")
        interfaces := [.applied "app.Clickable" [.exact (.raw "View")]] },
     { Declaration.bare .classKind "app.Base" with interfaces := [.raw "app.Clickable"] },
     { Declaration.bare .interfaceKind "app.Clickable" with
        interfaces := [.applied "lib.GeneratedModel" [.wildcard]] }]
  distinct := by decide

/-- The class implements the simple name of what stands above the interface, and only inherited names. -/
theorem implements_exact_iff_layered :
    layeredCards.EndsWithin 3 (.raw "app.Card") ∧
      layeredCards.implements (.raw "app.Card") "GeneratedModel" = true ∧
      layeredCards.implements (.raw "app.Card") "app.GeneratedModel" = false := by
  have ends : layeredCards.EndsWithin 3 (TypeName.raw "app.Card").erasure := by decide
  obtain ⟨seen_iff, sound, _⟩ := implements_exact_iff ends
  have reached : ∀ upper, layeredCards.Reaches (.raw "app.Card") upper → upper ∈
      layeredCards.lineage 3 (.raw "app.Card") := fun upper => (mem_lineage_iff ends).mpr
  have expanded : TypeName.raw "app.Clickable" ∈
      (layeredCards.lineage 3 (.raw "app.Card")).eraseDups.take hierarchyLimit := by decide
  have toModel : layeredCards.Extends (.raw "app.Clickable") (.raw "lib.GeneratedModel") :=
    mem_above_iff.mp (by decide)
  refine ⟨ends, (seen_iff _).mpr ⟨_, Or.inr ⟨_, expanded, toModel⟩, by decide⟩, ?_⟩
  rw [← Bool.not_eq_true]
  intro implemented
  obtain ⟨upper, path, named⟩ := sound _ implemented
  have other : ∀ upper ∈ layeredCards.lineage 3 (.raw "app.Card"),
      upper.isNamed "app.GeneratedModel" = false := by decide
  rw [other upper (reached upper path)] at named
  cases named

/-! ### Many interfaces -/

/-- The name of an interface: one letter more than its number says. -/
def viewName (number : Nat) : String :=
  String.ofList ("app.".toList ++ List.replicate (number + 1) 'V')

theorem toList_viewName (number : Nat) :
    (viewName number).toList = "app.".toList ++ List.replicate (number + 1) 'V' :=
  String.toList_ofList

/-- The type of an interface. -/
def viewType (number : Nat) : TypeName := .raw (viewName number)

theorem viewType_injective : Function.Injective viewType := by
  intro first second same
  have names : viewName first = viewName second := congrArg TypeName.name same
  have letters := congrArg String.toList names
  rw [toList_viewName, toList_viewName] at letters
  have lengths := congrArg List.length (List.append_cancel_left letters)
  rw [List.length_replicate, List.length_replicate] at lengths
  exact Nat.succ.inj lengths

/-- A class with as many interfaces as the limit allows types; the first one extends another interface. -/
def wideCards : Catalog where
  entries :=
    [{ Declaration.bare .classKind "app.Card" with
        interfaces := (List.range hierarchyLimit).map viewType },
     { Declaration.bare .interfaceKind "app.V" with interfaces := [.raw "lib.GeneratedModel"] }]
  distinct := by decide

/-- The hierarchy of the class has two levels. -/
theorem endsWithin_wideCards : wideCards.EndsWithin 2 (.raw "app.Card") := by
  decide +kernel

/-- The types that a search from the class expands: the class and all its interfaces but the first. -/
def expandedCards : List TypeName :=
  .raw "app.Card" :: (List.range 63).reverse.map fun number => viewType (number + 1)

theorem nodup_expandedCards : expandedCards.Nodup := by
  refine List.nodup_cons.mpr ⟨by decide +kernel, ?_⟩
  refine (List.nodup_reverse.mpr List.nodup_range).map fun first second same => ?_
  exact Nat.succ.inj (viewType_injective same)

theorem take_lineage_wideCards :
    (wideCards.lineage 2 (.raw "app.Card")).eraseDups.take hierarchyLimit = expandedCards := by
  have ordered : wideCards.lineage 2 (.raw "app.Card") =
      expandedCards ++ [viewType 0, .raw "lib.GeneratedModel"] := by
    decide +kernel
  have different : expandedCards.eraseDups = expandedCards := by
    have kept := keepFirst_eq_eraseDupsBy id expandedCards
    rw [keepFirst_of_nodup (by rw [List.map_id]; exact nodup_expandedCards)] at kept
    exact kept.symm
  rw [ordered, List.eraseDups_append, different]
  exact List.take_left' rfl

theorem above_expandedCards :
    expandedCards.flatMap wideCards.above = (List.range hierarchyLimit).map viewType := by
  decide +kernel

theorem isNamed_viewType (number : Nat) : (viewType number).isNamed "lib.GeneratedModel" = false := by
  have differ : viewName number ≠ "lib.GeneratedModel" := by
    intro same
    have heads : (viewName number).toList.head? = "lib.GeneratedModel".toList.head? := by rw [same]
    rw [toList_viewName] at heads
    have first : 'a' = 'l' := Option.some.inj heads
    exact absurd first (by decide)
  rw [← Bool.not_eq_true, TypeName.isNamed, Bool.and_eq_true, QualifiedName.answersTo_iff]
  rintro ⟨_, same | ⟨plain, _⟩⟩
  · exact differ same
  · exact plain (by decide)

/-- **A flat hierarchy may be cut off.** The class reaches `lib.GeneratedModel` in two steps, far below the
limit of levels, and does not implement it. -/
theorem capability_missed :
    wideCards.EndsWithin hierarchyLimit (.raw "app.Card") ∧
      wideCards.Inherits (.raw "app.Card") "lib.GeneratedModel" ∧
      wideCards.implements (.raw "app.Card") "lib.GeneratedModel" = false := by
  have toView : wideCards.Extends (.raw "app.Card") (viewType 0) := mem_above_iff.mp (by decide +kernel)
  have toModel : wideCards.Extends (viewType 0) (.raw "lib.GeneratedModel") :=
    mem_above_iff.mp (by decide +kernel)
  refine ⟨endsWithin_wideCards.mono (by decide), ⟨_, .head toView (.single toModel), by decide⟩, ?_⟩
  rw [← Bool.not_eq_true]
  intro implemented
  have ends : wideCards.EndsWithin 2 (TypeName.raw "app.Card").erasure := endsWithin_wideCards
  obtain ⟨upper, rfl | ⟨lower, expanded, step⟩, named⟩ := (implements_iff_seen ends).mp implemented
  · exact absurd named (by decide)
  · rw [TypeName.erasure] at expanded
    have listed : upper ∈ (List.range hierarchyLimit).map viewType := by
      rw [← above_expandedCards, ← take_lineage_wideCards]
      exact List.mem_flatMap.mpr ⟨lower, expanded, mem_above_iff.mpr step⟩
    obtain ⟨number, _, rfl⟩ := List.mem_map.mp listed
    rw [isNamed_viewType] at named
    cases named

end ModelPlanner.Catalog
