/-
**What the bound type names.**

A generated class has no type parameters, so it cannot name the type variables of the declarations
above it. The bound type comes down from the level that states it, and at every level that it passes it
is given up if it is one of its type variables, but not if it has one inside.

* `TypeName.Mentions`, `TypeName.Nests`: a bare name occurs in a type, or inside of it;
* `findBound?_comesDown`: where a bound type comes from and what it passes on its way;
* `closedOver_bound_iff`: hence when the bound type mentions no type variable;
* `nested_variable_bound`: a type variable inside the bound type.
-/

import ModelPlanner.Proofs.Hierarchy.Climb
import ModelPlanner.Surface

namespace ModelPlanner

/-! ### Names in types -/

/-- The type that an argument is about. -/
def TypeArg.inner? : TypeArg → Option TypeName
  | .exact type | .upper type | .lower type => some type
  | .wildcard => none

namespace TypeName

/-- A bare name occurs in a type: as the type, as the element type of an array type, or in what an
argument is about. -/
inductive Mentions (name : String) : TypeName → Prop
  | here {dims : Fin 256} : Mentions name (.mk name [] dims)
  | inArgument {applied : String} {args : List TypeArg} {dims : Fin 256} {arg : TypeArg}
      {inner : TypeName} :
      arg ∈ args → arg.inner? = some inner → Mentions name inner →
        Mentions name (.mk applied args dims)

/-- A bare name occurs inside of a type: as the element type of an array type or in an argument. -/
def Nests (type : TypeName) (name : String) : Prop := type.Mentions name ∧ type ≠ .raw name

variable {name other : String} {type bound : TypeName}

@[simp]
theorem mentions_raw : (raw name).Mentions other ↔ name = other := by
  constructor
  · intro mentions
    cases mentions with
    | here => rfl
    | inArgument member => cases member
  · rintro rfl
    exact .here

/-- A name occurs in the application to one type exactly if it occurs in this type. -/
@[simp]
theorem mentions_applied_exact :
    (applied name [.exact type]).Mentions other ↔ type.Mentions other := by
  constructor
  · intro mentions
    cases mentions with
    | inArgument member about mentions =>
      cases List.mem_singleton.mp member
      cases about
      exact mentions
  · exact .inArgument (List.mem_singleton_self _) rfl

end TypeName

/-! ### What a level states -/

/-- What the argument of a wildcard's upper bound or of a type stands for is what it is about. -/
theorem TypeArg.inner?_of_boundType? {arg : TypeArg} {type : TypeName}
    (stands : arg.boundType? = some type) : arg.inner? = some type := by
  cases arg with
  | exact inner => exact stands
  | upper inner => exact stands
  | wildcard => cases stands
  | lower inner => cases stands

variable {catalog : Catalog} {config : Config} {declaration parent : Declaration}
variable {above : List Declaration} {levels : Nat} {bound : TypeName} {name : String}

/-- A stated bound is what an argument of the super type stands for. -/
theorem argument_of_statedBound? {superType : TypeName}
    (stated : statedBound? catalog config superType = some bound) :
    ∃ arg ∈ superType.args, arg.boundType? = some bound := by
  unfold statedBound? at stated
  dsimp only at stated
  split at stated
  · exact List.mem_filterMap.mp (List.mem_of_mem_head? stated)
  · exact List.mem_filterMap.mp (List.mem_of_find?_eq_some stated)

/-- A super type mentions what the bound mentions that it states. -/
theorem mentions_superType {superType : TypeName}
    (stated : statedBound? catalog config superType = some bound) (mentions : bound.Mentions name) :
    superType.Mentions name := by
  obtain ⟨arg, member, stands⟩ := argument_of_statedBound? stated
  cases superType
  exact .inArgument member (TypeArg.inner?_of_boundType? stands) mentions

/-! ### How a bound comes down -/

/-- Without a level to climb to, the bound type is the one that is stated. -/
theorem findBound?_root (ended : catalog.superDeclaration declaration = none) :
    findBound? catalog config levels declaration = declaration.statedBound? catalog config := by
  cases levels with
  | zero => rfl
  | succ levels => rw [findBound?, ended, Option.bind_none, Option.none_or]

/-- A bound type of the super declaration goes before the one that is stated, unless it is a type
variable there. -/
theorem findBound?_step (next : catalog.superDeclaration declaration = some parent) :
    findBound? catalog config (levels + 1) declaration =
      ((findBound? catalog config levels parent).filter (!parent.isTypeVariable ·)).or
        (declaration.statedBound? catalog config) := by
  rw [findBound?, next, Option.bind_some]

/-- A bound comes down from a level if the level states it and is within the limit, and if it is a type
variable neither of the level nor of those below, which it passes. -/
structure ComesDown (catalog : Catalog) (config : Config) (limit : Nat) (below : List Declaration)
    (level : Declaration) (bound : TypeName) : Prop where
  within : below.length ≤ limit
  stated : level.statedBound? catalog config = some bound
  kept : ∀ passed ∈ below ++ [level], passed.isTypeVariable bound = false

variable {limit : Nat} {first level : Declaration} {below beyond : List Declaration}

theorem ComesDown.here (stated : level.statedBound? catalog config = some bound)
    (keeps : level.isTypeVariable bound = false) : ComesDown catalog config limit [] level bound :=
  ⟨Nat.zero_le _, stated, List.forall_mem_singleton.mpr keeps⟩

theorem ComesDown.step (comes : ComesDown catalog config limit below level bound)
    (keeps : first.isTypeVariable bound = false) :
    ComesDown catalog config (limit + 1) (first :: below) level bound :=
  ⟨Nat.succ_le_succ comes.within, comes.stated, List.forall_mem_cons.mpr ⟨keeps, comes.kept⟩⟩

/-- **Every bound type comes down from a level**, unless it is a type variable of the declaration. -/
theorem findBound?_comesDown (chain : catalog.Chain declaration above)
    (found : findBound? catalog config levels declaration = some bound)
    (keeps : declaration.isTypeVariable bound = false) :
    ∃ below level beyond, declaration :: above = below ++ level :: beyond ∧
      ComesDown catalog config levels below level bound := by
  induction chain generalizing levels with
  | root ended =>
    rw [findBound?_root ended] at found
    exact ⟨[], _, [], rfl, .here found keeps⟩
  | @step declaration parent above next chain ih =>
    cases levels with
    | zero => exact ⟨[], declaration, parent :: above, rfl, .here found keeps⟩
    | succ levels =>
      rw [findBound?_step next, Option.or_eq_some_iff] at found
      rcases found with inherited | ⟨_, stated⟩
      -- the super declaration has kept the bound, which is what the induction asks of it
      · obtain ⟨found, kept⟩ := Option.filter_eq_some_iff.mp inherited
        obtain ⟨below, level, beyond, split, comes⟩ := ih found ((Bool.not_eq_true' _).mp kept)
        exact ⟨declaration :: below, level, beyond, by rw [split, List.cons_append], comes.step keeps⟩
      · exact ⟨[], declaration, parent :: above, rfl, .here stated keeps⟩

/-! ### Type variables -/

/-- A name is a type variable of some levels if one of them lists it among its type parameters and no
declaration has it. -/
def IsVariable (catalog : Catalog) (levels : List Declaration) (name : String) : Prop :=
  (∃ level ∈ levels, name ∈ level.typeParams) ∧ catalog.get? name = none

/-- A type is closed over some levels if it mentions none of their type variables. -/
def ClosedOver (catalog : Catalog) (levels : List Declaration) (type : TypeName) : Prop :=
  ∀ name, IsVariable catalog levels name → ¬ type.Mentions name

/-- A declaration is scoped among some levels if its super type mentions none of their type variables
but its own. -/
def Declaration.Scoped (catalog : Catalog) (levels : List Declaration) (declaration : Declaration) :
    Prop :=
  ∀ superType, declaration.superType? = some superType → ∀ name, IsVariable catalog levels name →
    superType.Mentions name → name ∈ declaration.typeParams

/-- The type variables of a declaration are its bare type parameters. -/
theorem isTypeVariable_iff {type : TypeName} :
    declaration.isTypeVariable type = true ↔ ∃ name ∈ declaration.typeParams, type = .raw name := by
  unfold Declaration.isTypeVariable
  rw [Bool.and_eq_true, Bool.and_eq_true, List.isEmpty_iff, List.contains_iff_mem]
  constructor
  · obtain ⟨name, args, dims⟩ := type
    rintro ⟨⟨rfl, noArray⟩, listed⟩
    have noDims : dims = 0 := by simpa [TypeName.isArray, TypeName.dims] using noArray
    exact ⟨name, listed, congrArg (TypeName.mk name []) noDims⟩
  · rintro ⟨name, listed, rfl⟩
    exact ⟨⟨rfl, rfl⟩, listed⟩

/-- A declaration without type parameters has no type variables. -/
theorem isTypeVariable_of_plain (plain : declaration.typeParams = []) (type : TypeName) :
    declaration.isTypeVariable type = false := by
  refine Bool.eq_false_iff.mpr fun isVariable => ?_
  obtain ⟨name, listed, _⟩ := isTypeVariable_iff.mp isVariable
  rw [plain] at listed
  cases listed

namespace ComesDown

/-- A bound that comes down is no type parameter of the levels that it passes. -/
theorem ne_raw (comes : ComesDown catalog config limit below level bound) {passed : Declaration}
    (member : passed ∈ below ++ [level]) (listed : name ∈ passed.typeParams) : bound ≠ .raw name := by
  intro same
  have isVariable : passed.isTypeVariable bound = true := isTypeVariable_iff.mpr ⟨name, listed, same⟩
  rw [comes.kept passed member] at isVariable
  cases isVariable

/-- A bound that comes down is closed exactly if it nests no type variable and is none of the levels
beyond. -/
theorem closedOver_iff (comes : ComesDown catalog config limit below level bound) :
    ClosedOver catalog (below ++ level :: beyond) bound ↔
      (∀ name, IsVariable catalog (below ++ level :: beyond) name → ¬ bound.Nests name) ∧
        ∀ name, IsVariable catalog beyond name → bound ≠ .raw name := by
  constructor
  · refine fun closed => ⟨fun name ofLevels nests => closed name ofLevels nests.1, ?_⟩
    rintro name ⟨⟨other, member, listed⟩, undeclared⟩ rfl
    have inLevels : other ∈ below ++ level :: beyond := by simp [member]
    exact closed name ⟨⟨other, inLevels, listed⟩, undeclared⟩ .here
  · rintro ⟨noneNested, noneBeyond⟩ name ofLevels mentions
    by_cases same : bound = .raw name
    -- a type variable that is the bound is none of a level that the bound passes
    · obtain ⟨⟨other, member, listed⟩, undeclared⟩ := ofLevels
      rw [List.append_cons, List.mem_append] at member
      rcases member with passed | member
      · exact comes.ne_raw passed listed same
      · exact noneBeyond name ⟨⟨other, member, listed⟩, undeclared⟩ same
    · exact noneNested name ofLevels ⟨mentions, same⟩

/-- In a scoped level only the type variables of the level are nested in the bound that it states. -/
theorem closedOver_iff_of_scoped (comes : ComesDown catalog config limit below level bound)
    (inScope : level.Scoped catalog (below ++ level :: beyond)) :
    ClosedOver catalog (below ++ level :: beyond) bound ↔
      ∀ name ∈ level.typeParams, catalog.get? name = none → ¬ bound.Nests name := by
  constructor
  · intro closed name listed undeclared nests
    have inLevels : level ∈ below ++ level :: beyond := by simp
    exact closed name ⟨⟨level, inLevels, listed⟩, undeclared⟩ nests.1
  · intro noneNested name ofLevels mentions
    obtain ⟨superType, has, stated⟩ := Option.bind_eq_some_iff.mp comes.stated
    have listed : name ∈ level.typeParams :=
      inScope superType has name ofLevels (mentions_superType stated mentions)
    have differs : bound ≠ .raw name := comes.ne_raw (by simp) listed
    exact noneNested name listed ofLevels.2 ⟨mentions, differs⟩

end ComesDown

/-- A declaration without type parameters adds no type variable to those of other levels. -/
theorem isVariable_cons_of_plain (plain : declaration.typeParams = []) :
    IsVariable catalog (declaration :: above) name ↔ IsVariable catalog above name := by
  unfold IsVariable
  simp [plain]

theorem closedOver_cons_of_plain (plain : declaration.typeParams = []) {type : TypeName} :
    ClosedOver catalog (declaration :: above) type ↔ ClosedOver catalog above type := by
  unfold ClosedOver
  simp only [isVariable_cons_of_plain plain]

/-- The capability of a generated class mentions what its bound type mentions. -/
@[simp]
theorem mentions_capability (model : Model) (config : Config) :
    (Surface.plan model config).capability.Mentions name ↔ model.header.boundType.Mentions name :=
  TypeName.mentions_applied_exact

/-- **The bound type is closed unless a type variable is nested in it.** If a declaration without type
parameters has a bound type, a level within the limit states it, and it is itself no type parameter of
this level or of one below. So it mentions no type variable of the declarations above exactly if it nests
none and is not named like one from beyond the level that states it; if every super type mentions the
type variables of its own declaration only, exactly if it nests none of the level that states it. The
generated class has to name what the bound type mentions. -/
theorem closedOver_bound_iff (chain : catalog.Chain declaration above)
    (plain : declaration.typeParams = []) (found : boundType? catalog config declaration = some bound) :
    (∃ below level beyond, declaration :: above = below ++ level :: beyond ∧
      below.length ≤ hierarchyLimit ∧ level.statedBound? catalog config = some bound ∧
      (∀ passed ∈ below ++ [level], ∀ name ∈ passed.typeParams, bound ≠ .raw name) ∧
      (ClosedOver catalog above bound ↔
        (∀ name, IsVariable catalog above name → ¬ bound.Nests name) ∧
          ∀ name, IsVariable catalog beyond name → bound ≠ .raw name) ∧
      ((∀ each ∈ declaration :: above, each.Scoped catalog above) →
        (ClosedOver catalog above bound ↔
          ∀ name ∈ level.typeParams, catalog.get? name = none → ¬ bound.Nests name))) ∧
    ∀ model : Model, model.header = .ofDeclaration catalog config declaration → ∀ name,
      (Surface.plan model config).capability.Mentions name ↔ bound.Mentions name := by
  constructor
  · obtain ⟨below, level, beyond, split, comes⟩ :=
      findBound?_comesDown chain found (isTypeVariable_of_plain plain bound)
    have ofSplit (name : String) :
        IsVariable catalog (below ++ level :: beyond) name ↔ IsVariable catalog above name := by
      rw [← split, isVariable_cons_of_plain plain]
    have closed : ClosedOver catalog (below ++ level :: beyond) bound ↔ ClosedOver catalog above bound := by
      rw [← split, closedOver_cons_of_plain plain]
    refine ⟨below, level, beyond, split, comes.within, comes.stated,
      fun passed member name listed => comes.ne_raw member listed, ?_, fun inScope => ?_⟩
    · simp only [← closed, comes.closedOver_iff, ofSplit]
    · rw [← closed]
      refine comes.closedOver_iff_of_scoped fun superType has name ofLevels => ?_
      exact inScope level (by simp [split]) superType has name ((ofSplit name).mp ofLevels)
  · intro model header name
    rw [mentions_capability, header, ModelHeader.ofDeclaration, found, Option.getD_some]

/-! ### A class between a card and its root -/

/-- A class with type parameters. -/
def genericClass (name : String) (typeParams : List String) (superType? : Option TypeName) :
    Declaration :=
  { Declaration.bare .classKind name with typeParams, superType? }

/-- A card that passes a view to a class with a type parameter. -/
def viewCard : Declaration :=
  genericClass "app.Card" [] (some (.applied "app.Base" [.exact (.raw "android.view.View")]))

/-- The class between, which passes a type to the root. -/
def passingBase (passed : TypeName) : Declaration :=
  genericClass "app.Base" ["T"] (some (.applied "app.Root" [.exact passed]))

def genericRoot : Declaration := genericClass "app.Root" ["R"] none

def passingCards (passed : TypeName) : Catalog where
  entries := [viewCard, passingBase passed, genericRoot]
  distinct := (by decide : ["app.Card", "app.Base", "app.Root"].Nodup)

theorem passingCards_chain (passed : TypeName) :
    (passingCards passed).Chain viewCard [passingBase passed, genericRoot] :=
  .step rfl (.step rfl (.root rfl))

/-- The card is bound to what the class between passes, if this is not its type variable alone. -/
theorem boundType?_passingCards {passed : TypeName} (differs : passed ≠ .raw "T") :
    boundType? (passingCards passed) config viewCard = some passed := by
  have kept : (passingBase passed).isTypeVariable passed = false := by
    refine Bool.eq_false_iff.mpr fun isVariable => ?_
    obtain ⟨name, listed, same⟩ := isTypeVariable_iff.mp isVariable
    rw [List.mem_singleton.mp listed] at same
    exact differs same
  have limit : hierarchyLimit = 62 + 1 + 1 := rfl
  have toBase : (passingCards passed).superDeclaration viewCard = some (passingBase passed) := rfl
  have toRoot : (passingCards passed).superDeclaration (passingBase passed) = some genericRoot := rfl
  have ended : (passingCards passed).superDeclaration genericRoot = none := rfl
  have states : (passingBase passed).statedBound? (passingCards passed) config = some passed := rfl
  rw [boundType?, limit, findBound?_step toBase, findBound?_step toRoot, findBound?_root ended]
  have nothing : genericRoot.statedBound? (passingCards passed) config = none := rfl
  rw [nothing, Option.filter_none, Option.none_or, states, Option.filter_some, kept]
  rfl

/-- The type variables above the card. -/
theorem isVariable_passingCards {passed : TypeName} :
    IsVariable (passingCards passed) [passingBase passed, genericRoot] name ↔
      name = "T" ∨ name = "R" := by
  constructor
  · rintro ⟨⟨level, member, listed⟩, _⟩
    rw [List.mem_cons, List.mem_singleton] at member
    rcases member with rfl | rfl
    · exact Or.inl (List.mem_singleton.mp listed)
    · exact Or.inr (List.mem_singleton.mp listed)
  · rintro (rfl | rfl)
    · exact ⟨⟨_, List.mem_cons_self, List.mem_singleton_self _⟩, rfl⟩
    · exact ⟨⟨_, List.mem_cons_of_mem _ (List.mem_singleton_self _), List.mem_singleton_self _⟩, rfl⟩

/-- A list of a type. -/
def listOf (type : TypeName) : TypeName := .applied "java.util.List" [.exact type]

/-- A card is bound to a list of views, which mentions no type variable. -/
theorem closedOver_bound_views :
    boundType? (passingCards (listOf (.raw "android.view.View"))) {} viewCard =
        some (listOf (.raw "android.view.View")) ∧
      ClosedOver (passingCards (listOf (.raw "android.view.View")))
        [passingBase (listOf (.raw "android.view.View")), genericRoot]
        (listOf (.raw "android.view.View")) := by
  have found : boundType? (passingCards (listOf (.raw "android.view.View"))) {} viewCard =
      some (listOf (.raw "android.view.View")) := boundType?_passingCards (by decide)
  obtain ⟨⟨_, _, _, _, _, _, _, closed, _⟩, _⟩ :=
    closedOver_bound_iff (passingCards_chain _) rfl found
  refine ⟨found, closed.mpr ⟨fun name isVariable nests => ?_, fun name _ same => ?_⟩⟩
  · have isView : "android.view.View" = name :=
      TypeName.mentions_raw.mp (TypeName.mentions_applied_exact.mp nests.1)
    rw [isVariable_passingCards, ← isView] at isVariable
    revert isVariable
    decide
  · exact absurd (congrArg TypeName.args same) (List.cons_ne_nil _ _)

/-- A card is bound to a type that nests the type variable of the class between. -/
theorem bound_passingCards {passed : TypeName} (nests : passed.Nests "T") :
    boundType? (passingCards passed) config viewCard = some passed ∧
      ¬ ClosedOver (passingCards passed) [passingBase passed, genericRoot] passed :=
  ⟨boundType?_passingCards nests.2,
    fun closed => closed "T" (isVariable_passingCards.mpr (Or.inl rfl)) nests.1⟩

/-- **A type variable inside of the bound type stays**: if the class between passes a list or an array of
its type variable, the card is bound to it, and the class generated for the card has to name the
variable. -/
theorem nested_variable_bound :
    ((passingCards (listOf (.raw "T"))).Chain viewCard
        [passingBase (listOf (.raw "T")), genericRoot] ∧
      boundType? (passingCards (listOf (.raw "T"))) {} viewCard = some (listOf (.raw "T")) ∧
      ¬ ClosedOver (passingCards (listOf (.raw "T"))) [passingBase (listOf (.raw "T")), genericRoot]
        (listOf (.raw "T")) ∧
      (Surface.plan (.bare (.ofDeclaration (passingCards (listOf (.raw "T"))) {} viewCard) [])
        {}).capability.Mentions "T") ∧
    ((passingCards (.arrayOf (.raw "T"))).Chain viewCard
        [passingBase (.arrayOf (.raw "T")), genericRoot] ∧
      boundType? (passingCards (.arrayOf (.raw "T"))) {} viewCard = some (.arrayOf (.raw "T")) ∧
      ¬ ClosedOver (passingCards (.arrayOf (.raw "T"))) [passingBase (.arrayOf (.raw "T")), genericRoot]
        (.arrayOf (.raw "T"))) := by
  have inList : (listOf (.raw "T")).Mentions "T" := TypeName.mentions_applied_exact.mpr .here
  have list := @bound_passingCards {} _ ⟨inList, by decide⟩
  have array : (TypeName.arrayOf (.raw "T")).Nests "T" := ⟨.here, by decide⟩
  refine ⟨⟨passingCards_chain _, list.1, list.2, ?_⟩, passingCards_chain _, bound_passingCards array⟩
  rw [mentions_capability, Model.bare, ModelHeader.ofDeclaration, list.1, Option.getD_some]
  exact inList

end ModelPlanner
