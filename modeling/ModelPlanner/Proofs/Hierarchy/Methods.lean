/-
**The methods of a hierarchy, with and without a cache.**

The methods of a hierarchy are those that its levels contribute, nearest level first and equal methods
once: `hierarchyMethods`. A cache is sound if each of its entries holds the methods of the hierarchy
of its declaration: `MethodCache.Sound`.

* `walk_of_sound`: with a sound cache a walk finds the methods of the hierarchy, whatever the cache
  holds already, and leaves a sound cache;
* `chainableMethods_of_sound`: the same for a declaration whose chain is within the limit.
-/

import ModelPlanner.MethodCache
import ModelPlanner.Proofs.Hierarchy.Chain

namespace ModelPlanner

/-- The chainable methods that a level of a hierarchy contributes: none without a super type. -/
def contributed (catalog : Catalog) (config : Config) (declaration : Declaration) : List Method :=
  if declaration.superType?.isSome then levelMethods catalog config declaration else []

/-- The chainable methods of the levels of a hierarchy, nearest level first, equal methods once. -/
def hierarchyMethods (catalog : Catalog) (config : Config) (levels : List Declaration) :
    List Method :=
  keepFirst Method.identity (levels.flatMap (contributed catalog config))

variable {catalog : Catalog} {config : Config}

/-- A level goes before the methods of the levels above it. -/
theorem hierarchyMethods_cons (level : Declaration) (above : List Declaration) :
    hierarchyMethods catalog config (level :: above) =
      keepFirst Method.identity
        (contributed catalog config level ++ hierarchyMethods catalog config above) := by
  unfold hierarchyMethods
  rw [List.flatMap_cons, keepFirst_append_keepFirst]

/-! ### Members -/

/-- A level contributes what its chainable members declare, if it has a super type. -/
theorem mem_contributed {level : Declaration} {method : Method} :
    method ∈ contributed catalog config level ↔
      level.superType?.isSome = true ∧ ∃ member ∈ level.members,
        isChainable catalog config level.asType member = true ∧
          method = .ofMember member level.qualifiedName
            (member.annotationNamed? config.attributeAnnotationName).isSome := by
  unfold contributed levelMethods
  by_cases below : level.superType?.isSome = true
  · rw [if_pos below]
    simp only [List.mem_map, List.mem_filter, below, true_and, and_assoc, eq_comm]
  · rw [if_neg below]
    simp only [List.not_mem_nil, below, Bool.false_eq_true, false_and]

/-- Every method of a hierarchy comes from a level. -/
theorem exists_level {levels : List Declaration} {method : Method}
    (collected : method ∈ hierarchyMethods catalog config levels) :
    ∃ level ∈ levels, method ∈ contributed catalog config level :=
  List.mem_flatMap.mp (mem_keepFirst collected)

/-- What a level contributes, or something equal to it, is a method of the hierarchy. -/
theorem exists_twin {levels : List Declaration} {level : Declaration} (member : level ∈ levels)
    {method : Method} (contributes : method ∈ contributed catalog config level) :
    ∃ twin ∈ hierarchyMethods catalog config levels, twin.identity = method.identity :=
  List.mem_map.mp (view_mem_keepFirst (List.mem_flatMap.mpr ⟨level, member, contributes⟩))

namespace MethodCache

/-! ### Sound caches -/

variable (catalog config) in
/-- Every entry holds the methods of the hierarchy of its declaration. -/
def Sound (cache : MethodCache) : Prop :=
  ∀ entry ∈ cache.entries, ∃ declaration above,
    catalog.get? entry.declaration = some declaration ∧ catalog.Chain declaration above ∧
      entry.methods = hierarchyMethods catalog config (declaration :: above)

theorem sound_empty : Sound catalog config .empty := by
  intro entry member
  cases member

variable {cache : MethodCache} {declaration : Declaration} {above : List Declaration}

/-- A sound cache answers with the methods of the hierarchy. -/
theorem Sound.methods_eq (sound : Sound catalog config cache)
    (named : catalog.get? declaration.qualifiedName = some declaration)
    (chain : catalog.Chain declaration above) {entry : CacheEntry}
    (hit : cache.get? declaration.qualifiedName = some entry) :
    entry.methods = hierarchyMethods catalog config (declaration :: above) := by
  obtain ⟨cached, cachedAbove, cachedNamed, cachedChain, holds⟩ := sound entry (Keyed.mem_of_get? hit)
  rw [show entry.declaration = declaration.qualifiedName from Keyed.key_of_get? hit, named]
    at cachedNamed
  cases cachedNamed
  rw [holds, chain.unique cachedChain]

/-- Keeping the methods of a hierarchy leaves a sound cache. -/
theorem Sound.put (sound : Sound catalog config cache)
    (named : catalog.get? declaration.qualifiedName = some declaration)
    (chain : catalog.Chain declaration above) :
    Sound catalog config
      (Keyed.put cache
        ⟨declaration.qualifiedName, hierarchyMethods catalog config (declaration :: above)⟩) := by
  intro entry member
  rcases Keyed.mem_put.mp member with rfl | ⟨old, _⟩
  · exact ⟨declaration, above, named, chain, rfl⟩
  · exact sound entry old

/-! ### Walks -/

theorem walk_hit {levels : Nat} {entry : CacheEntry}
    (hit : cache.get? declaration.qualifiedName = some entry) :
    walk catalog config levels declaration cache = (entry.methods, cache) := by
  unfold walk
  simp only [hit]

/-- A walk ends with a declaration that has no super declaration. -/
theorem walk_root {levels : Nat} (miss : cache.get? declaration.qualifiedName = none)
    (ended : catalog.superDeclaration declaration = none) :
    walk catalog config levels declaration cache =
      (hierarchyMethods catalog config [declaration],
        Keyed.put cache ⟨declaration.qualifiedName, hierarchyMethods catalog config [declaration]⟩) := by
  unfold walk hierarchyMethods contributed
  unfold Catalog.superDeclaration at ended
  cases superType : declaration.superType? with
  | none => simp [miss, superType]
  | some type =>
    rw [superType, Option.bind_some] at ended
    cases levels <;> simp [miss, superType, ended]

/-- A walk continues with the super declaration. -/
theorem walk_step {levels : Nat} {parent : Declaration}
    (miss : cache.get? declaration.qualifiedName = none)
    (next : catalog.superDeclaration declaration = some parent) :
    walk catalog config (levels + 1) declaration cache =
      let (inherited, after) := walk catalog config levels parent cache
      let methods := keepFirst Method.identity (contributed catalog config declaration ++ inherited)
      (methods, after.put ⟨declaration.qualifiedName, methods⟩) := by
  obtain ⟨type, superType, resolved⟩ := Option.bind_eq_some_iff.mp next
  unfold contributed
  rw [walk.eq_def]
  simp [miss, superType, resolved]

/-- **With a sound cache a walk finds the methods of the hierarchy**, and it leaves a sound cache. -/
theorem walk_of_sound (sound : Sound catalog config cache)
    (named : catalog.get? declaration.qualifiedName = some declaration)
    (chain : catalog.Chain declaration above) {levels : Nat} (within : above.length ≤ levels) :
    (walk catalog config levels declaration cache).1 =
        hierarchyMethods catalog config (declaration :: above) ∧
      Sound catalog config (walk catalog config levels declaration cache).2 := by
  induction chain generalizing levels cache with
  | @root declaration ended =>
    cases looked : cache.get? declaration.qualifiedName with
    | some entry =>
      rw [walk_hit looked]
      exact ⟨sound.methods_eq named (.root ended) looked, sound⟩
    | none =>
      rw [walk_root looked ended]
      exact ⟨rfl, sound.put named (.root ended)⟩
  | @step declaration parent above next chain ih =>
    cases looked : cache.get? declaration.qualifiedName with
    | some entry =>
      rw [walk_hit looked]
      exact ⟨sound.methods_eq named (.step next chain) looked, sound⟩
    | none =>
      obtain ⟨levels, rfl⟩ := Nat.exists_eq_add_one_of_ne_zero (Nat.ne_zero_of_lt within)
      obtain ⟨inherited, kept⟩ :=
        ih sound (Catalog.get?_superDeclaration next) (Nat.le_of_succ_le_succ within)
      rw [walk_step looked next]
      dsimp only
      rw [inherited, ← hierarchyMethods_cons]
      exact ⟨rfl, kept.put named (.step next chain)⟩

/-- With a sound cache the chainable methods of a declaration are those of its hierarchy. -/
theorem chainableMethods_of_sound (sound : Sound catalog config cache)
    (named : catalog.get? declaration.qualifiedName = some declaration)
    (chain : catalog.Chain declaration above) (within : above.length ≤ hierarchyLimit) :
    (cache.chainableMethods catalog config declaration).1 =
        hierarchyMethods catalog config (declaration :: above) ∧
      Sound catalog config (cache.chainableMethods catalog config declaration).2 :=
  walk_of_sound sound named chain within

end MethodCache

end ModelPlanner
