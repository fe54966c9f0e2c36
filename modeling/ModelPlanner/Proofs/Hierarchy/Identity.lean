/-
**Classes that compare by identity.**

The instances of a class compare by value if the levels of its hierarchy below the root class declare an
equality and a hash between them (`ComparesByValue`); the type of a class that inherits the identity instead
is reported. The search for the two methods passes upwards with what it has found so far, and ends at the
root class, at a class without super declaration, or at its limit.

* `completesHash_eq`: within its levels it succeeds exactly if what is found and what the levels declare
  make up both;
* `implementsHash_eq_false_iff`: so a type is reported exactly if it is that of a class whose levels within
  the limit do not compare by value, whatever the hierarchy is like;
* `reported_iff_inherits`: if the hierarchy ends within the limit, these are the classes that inherit the
  identity (`InheritsIdentity`); a class whose hierarchy ends before the root, at a super type without
  declaration, is reported like one that is known to inherit it (`loose_class_reported`).
-/

import ModelPlanner.HashSupport
import ModelPlanner.Proofs.Hierarchy.Climb

namespace ModelPlanner.Catalog

variable {catalog : Catalog} {declaration : Declaration} {above : List Declaration} {type : TypeName}

/-! ### Levels that compare by value -/

/-- The levels of a hierarchy that stand below the root class. -/
def belowRoot (levels : List Declaration) : List Declaration :=
  levels.takeWhile (·.qualifiedName ≠ rootClass)

/-- The levels below the root class declare an equality and a hash, at one level or at two. -/
structure ComparesByValue (levels : List Declaration) : Prop where
  equality : ∃ level ∈ belowRoot levels, level.declares "equals" 1 = true
  hash : ∃ level ∈ belowRoot levels, level.declares "hashCode" 0 = true

/-- The super types that the levels below the root class state are all declared, so the hierarchy is known
up to the root class or a class without super type. -/
def Rooted (catalog : Catalog) (levels : List Declaration) : Prop :=
  ∀ level ∈ belowRoot levels, ∀ superType, level.superType? = some superType →
    (catalog.resolve superType).isSome = true

theorem belowRoot_root (root : declaration.qualifiedName = rootClass) :
    belowRoot (declaration :: above) = [] := by
  simp [belowRoot, root]

theorem belowRoot_cons (below : declaration.qualifiedName ≠ rootClass) :
    belowRoot (declaration :: above) = declaration :: belowRoot above := by
  simp [belowRoot, below]

/-- Levels compare by value exactly if both searches of their declarations succeed. -/
theorem comparesByValue_iff {levels : List Declaration} :
    ComparesByValue levels ↔ ((belowRoot levels).any (·.declares "equals" 1) &&
      (belowRoot levels).any (·.declares "hashCode" 0)) = true := by
  rw [Bool.and_eq_true, List.any_eq_true, List.any_eq_true]
  exact ⟨fun both => ⟨both.equality, both.hash⟩, fun both => ⟨both.1, both.2⟩⟩

instance (levels : List Declaration) : Decidable (ComparesByValue levels) :=
  decidable_of_iff _ comparesByValue_iff.symm

/-! ### The search -/

/-- **What the search finds** is what it has found so far and what the levels on its way declare. It has
not found both before, or it would have ended. -/
theorem completesHash_eq (levels : Nat) (declaration : Declaration) {hasEquals hasHash : Bool}
    (missing : (hasEquals && hasHash) = false) :
    catalog.completesHash (levels + 1) declaration hasEquals hasHash =
      ((hasEquals || (belowRoot (catalog.climb levels declaration)).any (·.declares "equals" 1)) &&
        (hasHash || (belowRoot (catalog.climb levels declaration)).any (·.declares "hashCode" 0))) := by
  induction levels generalizing declaration hasEquals hasHash with
  | zero =>
    rw [completesHash, climb]
    by_cases root : declaration.qualifiedName = rootClass
    · simp [root, belowRoot_root root, missing]
    · cases catalog.superDeclaration declaration <;> simp [root, belowRoot, completesHash]
  | succ levels ih =>
    rw [completesHash, climb]
    by_cases root : declaration.qualifiedName = rootClass
    · simp [root, belowRoot_root root, missing]
    · rw [if_neg root, belowRoot_cons root]
      simp only [List.any_cons, ← Bool.or_assoc]
      -- what is found at this level is what the search passes on to the next one
      generalize (hasEquals || declaration.declares "equals" 1) = nowEquals
      generalize (hasHash || declaration.declares "hashCode" 0) = nowHash
      by_cases found : (nowEquals && nowHash) = true
      · obtain ⟨rfl, rfl⟩ := Bool.and_eq_true_iff.mp found
        simp
      · rw [if_neg found]
        cases catalog.superDeclaration declaration with
        | none => simpa [belowRoot] using found
        | some parent => exact ih parent (Bool.eq_false_iff.mpr found)

/-- A type is reported exactly if it is that of a class whose levels within the limit do not compare by
value. -/
theorem implementsHash_eq_false_iff :
    catalog.implementsHash type = false ↔ type.isPrimitive = false ∧ type.isArray = false ∧
      ∃ declaration, catalog.resolve type = some declaration ∧ declaration.kind = .classKind ∧
        ¬ ComparesByValue (catalog.climb (hierarchyLimit - 1) declaration) := by
  have searched (declaration : Declaration) :
      catalog.completesHash hierarchyLimit declaration false false = true ↔
        ComparesByValue (catalog.climb (hierarchyLimit - 1) declaration) := by
    rw [comparesByValue_iff, ← Nat.sub_add_cancel (by decide : 1 ≤ hierarchyLimit)]
    rw [completesHash_eq _ declaration rfl, Nat.add_sub_cancel, Bool.false_or, Bool.false_or]
  unfold implementsHash
  by_cases valued : (type.isPrimitive || type.isArray) = true
  · rw [if_pos valued]
    cases primitive : type.isPrimitive <;> simp_all
  · have plain : type.isPrimitive = false ∧ type.isArray = false := by simpa using valued
    rw [if_neg valued]
    cases catalog.resolve type with
    | none => simp
    | some declaration => cases kind : declaration.kind <;> simp [plain, kind, ← searched]

/-! ### Classes that inherit the identity -/

/-- The type is that of a class with these declarations above it, and none of them below the root class
gives it an equality and a hash. -/
structure InheritsIdentity (catalog : Catalog) (type : TypeName) (declaration : Declaration)
    (above : List Declaration) : Prop where
  noPrimitive : type.isPrimitive = false
  noArray : type.isArray = false
  resolved : catalog.resolve type = some declaration
  isClass : declaration.kind = .classKind
  chain : catalog.Chain declaration above
  byIdentity : ¬ ComparesByValue (declaration :: above)

/-- A type has one declaration, and this one chain. -/
theorem InheritsIdentity.unique {other : Declaration} {otherAbove : List Declaration}
    (first : catalog.InheritsIdentity type declaration above)
    (second : catalog.InheritsIdentity type other otherAbove) :
    declaration = other ∧ above = otherAbove := by
  have same : some declaration = some other := by rw [← first.resolved, ← second.resolved]
  cases same
  exact ⟨rfl, first.chain.unique second.chain⟩

section Ends

variable (ends : ∀ declaration, catalog.resolve type = some declaration →
  ∃ above, catalog.Chain declaration above ∧ above.length < hierarchyLimit)
include ends

/-- The limit cuts nothing off a hierarchy that ends within it. -/
theorem climb_of_ends (resolved : catalog.resolve type = some declaration)
    (chain : catalog.Chain declaration above) :
    catalog.climb (hierarchyLimit - 1) declaration = declaration :: above := by
  obtain ⟨other, otherChain, short⟩ := ends declaration resolved
  rw [climb_of_chain chain, chain.unique otherChain]
  exact List.take_of_length_le short

/-- The reported types are those of the classes that inherit the identity. -/
theorem exists_inherits_iff : catalog.implementsHash type = false ↔
    ∃ declaration above, catalog.InheritsIdentity type declaration above := by
  rw [implementsHash_eq_false_iff]
  constructor
  · rintro ⟨noPrimitive, noArray, declaration, resolved, isClass, byIdentity⟩
    obtain ⟨above, chain, _⟩ := ends declaration resolved
    rw [climb_of_ends ends resolved chain] at byIdentity
    exact ⟨declaration, above, noPrimitive, noArray, resolved, isClass, chain, byIdentity⟩
  · rintro ⟨declaration, above, inherits⟩
    refine ⟨inherits.noPrimitive, inherits.noArray, declaration, inherits.resolved, inherits.isClass, ?_⟩
    rw [climb_of_ends ends inherits.resolved inherits.chain]
    exact inherits.byIdentity

/-- **Whatever stands above it, a class without an equality of its own is reported.** If the hierarchy of a
type ends within the limit, the type is reported exactly if it is that of a class which inherits the
identity. So those reported are the ones that are known to inherit it, as the hierarchy is declared up to
its root, exactly if the type is not that of a class which inherits the identity below a super type without
declaration. -/
theorem reported_iff_inherits :
    (catalog.implementsHash type = false ↔
        ∃ declaration above, catalog.InheritsIdentity type declaration above) ∧
      ((catalog.implementsHash type = false ↔
          ∃ declaration above, catalog.InheritsIdentity type declaration above ∧
            catalog.Rooted (declaration :: above)) ↔
        ∀ declaration above, catalog.InheritsIdentity type declaration above →
          catalog.Rooted (declaration :: above)) := by
  refine ⟨exists_inherits_iff ends, ?_⟩
  rw [exists_inherits_iff ends]
  constructor
  · intro known declaration above inherits
    obtain ⟨other, otherAbove, otherInherits, rooted⟩ := known.mp ⟨declaration, above, inherits⟩
    obtain ⟨rfl, rfl⟩ := inherits.unique otherInherits
    exact rooted
  · intro rooted
    constructor
    · rintro ⟨declaration, above, inherits⟩
      exact ⟨declaration, above, inherits, rooted declaration above inherits⟩
    · rintro ⟨declaration, above, inherits, _⟩
      exact ⟨declaration, above, inherits⟩

end Ends

/-! ### Classes at the end of a hierarchy -/

/-- A class with methods of the given names and parameters. -/
def comparedClass (name : String) (superType? : Option TypeName) (methods : List (String × List Param)) :
    Declaration :=
  { Declaration.bare .classKind name with
    superType?
    members := methods.map fun (method, params) =>
      ⟨method, .method (.raw "int"), .empty, [], params, false⟩ }

/-- The method `equals` with its parameter. -/
def equalsMethod : String × List Param := ("equals", [⟨.raw rootClass, "other", []⟩])

/-- The method `hashCode`. -/
def hashMethod : String × List Param := ("hashCode", [])

/-- The root class, which has both methods. -/
def comparedRoot : Declaration := comparedClass rootClass none [equalsMethod, hashMethod]

/-- A class with the first of the methods. -/
def valueClass : Declaration := comparedClass "app.Value" (some (.raw rootClass)) [equalsMethod]

/-- The root class, a point that declares both methods together with the class above it, a plain class, and
a loose one, whose super type has no declaration. -/
def comparedCards : Catalog where
  entries :=
    [comparedRoot,
     valueClass,
     comparedClass "app.Point" (some (.raw "app.Value")) [hashMethod],
     comparedClass "app.Plain" (some (.raw rootClass)) [],
     comparedClass "app.Loose" (some (.raw "lib.Base")) []]
  distinct := by decide

/-- All hierarchies of the cards end. -/
theorem ends_comparedCards {type : TypeName} {declaration : Declaration}
    (resolved : comparedCards.resolve type = some declaration) :
    ∃ above, comparedCards.Chain declaration above ∧ above.length < hierarchyLimit := by
  have root : comparedCards.Chain comparedRoot [] := .root rfl
  have value : comparedCards.Chain valueClass [comparedRoot] := .step rfl root
  have member : declaration ∈ comparedCards.entries := Keyed.mem_of_get? (resolve_eq_some resolved).2
  simp only [comparedCards, List.mem_cons, List.not_mem_nil, or_false] at member
  rcases member with rfl | rfl | rfl | rfl | rfl
  · exact ⟨_, root, by decide⟩
  · exact ⟨_, value, by decide⟩
  · exact ⟨_, .step rfl value, by decide⟩
  · exact ⟨_, .step rfl root, by decide⟩
  · exact ⟨_, .root rfl, by decide⟩

/-- The point has its two methods at two levels and is not reported. The plain class is. -/
theorem reported_iff_inherits_compared :
    (∀ declaration, comparedCards.resolve (.raw "app.Point") = some declaration →
      ∃ above, comparedCards.Chain declaration above ∧ above.length < hierarchyLimit) ∧
    comparedCards.implementsHash (.raw "app.Point") = true ∧
    comparedCards.implementsHash (.raw "app.Plain") = false := by
  refine ⟨fun _ => ends_comparedCards, ?_, ?_⟩
  · rw [← Bool.not_eq_false, (reported_iff_inherits fun _ => ends_comparedCards).1]
    rintro ⟨declaration, above, inherits⟩
    have same := inherits.resolved
    cases same
    rw [inherits.chain.unique (.step rfl (.step rfl (.root rfl)))] at inherits
    exact inherits.byIdentity (by decide)
  · rw [(reported_iff_inherits fun _ => ends_comparedCards).1]
    exact ⟨_, _, rfl, rfl, rfl, rfl, .step rfl (.root rfl), by decide⟩

/-- **A class below a super type without declaration is reported**, although it is not known whether it
inherits an equality from there. -/
theorem loose_class_reported :
    (∀ declaration, comparedCards.resolve (.raw "app.Loose") = some declaration →
      ∃ above, comparedCards.Chain declaration above ∧ above.length < hierarchyLimit) ∧
    comparedCards.implementsHash (.raw "app.Loose") = false ∧
    ¬ ∃ declaration above, comparedCards.InheritsIdentity (.raw "app.Loose") declaration above ∧
      comparedCards.Rooted (declaration :: above) := by
  refine ⟨fun _ => ends_comparedCards, by decide, ?_⟩
  rintro ⟨declaration, above, inherits, rooted⟩
  have same := inherits.resolved
  cases same
  have declared := rooted _ List.mem_cons_self (.raw "lib.Base") rfl
  cases declared

end ModelPlanner.Catalog
