/-
**Which collected methods may be overridden.**

A call of a signature runs the method of the nearest class that declares it: `nearest?`. The generated
class may override the signature if that class declares it neither final nor static: `Overridable`. The
modifiers are looked at level by level, so a class can close a method that a class above it contributes.

* `open_of_contributed`: every collected method is open where it is declared;
* `collected_overridable_iff`: all of them may be overridden exactly if no signature is closed by its
  nearest class and contributed by another one;
* `final_title_collected`: a class that closes the title of its super class collects it nevertheless.
-/

import ModelPlanner.Proofs.Hierarchy.Collection

namespace ModelPlanner

/-- The name of a member with the types of its parameters. -/
def Member.signature (member : Member) : String × List TypeName :=
  (member.name, member.params.map (·.type))

/-- Whether a member is a method of a signature. -/
def Member.hasSignature (member : Member) (signature : String × List TypeName) : Bool :=
  member.returnType?.isSome && member.signature == signature

namespace Declaration

/-- Whether a declaration has a method of a signature. -/
def hasMethod (declaration : Declaration) (signature : String × List TypeName) : Bool :=
  declaration.members.any (·.hasSignature signature)

/-- Whether a declaration has a final or static method of a signature. -/
def closes (declaration : Declaration) (signature : String × List TypeName) : Bool :=
  declaration.members.any fun member =>
    member.hasSignature signature && (member.modifiers.has .final || member.modifiers.has .static)

end Declaration

/-- The nearest class that declares a signature. -/
def nearest? (levels : List Declaration) (signature : String × List TypeName) : Option Declaration :=
  levels.find? (·.hasMethod signature)

/-- The nearest class that declares a signature, and there is one, does not close it. -/
def Overridable (levels : List Declaration) (signature : String × List TypeName) : Prop :=
  ∃ level, nearest? levels signature = some level ∧ level.closes signature = false

variable {catalog : Catalog} {config : Config} {declaration : Declaration} {above : List Declaration}

/-- A level declares what it contributes, by a method that is not private, final or static. -/
theorem open_of_contributed {level : Declaration} {method : Method}
    (contributes : method ∈ contributed catalog config level) :
    method.origin = level.qualifiedName ∧ ∃ member ∈ level.members,
      member.hasSignature method.signature = true ∧ member.modifiers.has .privateAccess = false ∧
        member.modifiers.has .final = false ∧ member.modifiers.has .static = false := by
  obtain ⟨_, member, listed, chainable, rfl⟩ := mem_contributed.mp contributes
  refine ⟨rfl, member, listed, ?_⟩
  unfold isChainable at chainable
  split at chainable
  · cases chainable
  · next returns =>
    simp only [Bool.and_eq_true, Bool.not_eq_true', and_assoc] at chainable
    obtain ⟨notPrivate, notFinal, notStatic, _⟩ := chainable
    refine ⟨?_, notPrivate, notFinal, notStatic⟩
    rw [Member.hasSignature, returns]
    exact beq_self_eq_true _

/-- A signature that a level contributes has a nearest class. -/
theorem exists_nearest {levels : List Declaration} {level : Declaration} (listed : level ∈ levels)
    {method : Method} (contributes : method ∈ contributed catalog config level) :
    ∃ nearest, nearest? levels method.signature = some nearest := by
  obtain ⟨_, member, declared, matching, _⟩ := open_of_contributed contributes
  refine Option.isSome_iff_exists.mp (List.find?_isSome.mpr ⟨level, listed, ?_⟩)
  exact List.any_eq_true.mpr ⟨member, declared, matching⟩

/-- Methods that are identified alike have one signature. -/
theorem Method.signature_congr {first second : Method} (same : first.identity = second.identity) :
    first.signature = second.signature :=
  congrArg (fun identity : MethodIdentity => (identity.name, identity.params.map (·.type))) same

/-- The collected methods of a declaration with a chain are those of the beginning of the chain. -/
theorem chainableMethods_of_chain (chain : catalog.Chain declaration above) :
    chainableMethods catalog config declaration =
      hierarchyMethods catalog config ((declaration :: above).take (hierarchyLimit + 1)) := by
  rw [MethodCache.chainableMethods_eq, foundWithin, Catalog.climb_of_chain chain]

/-- **Collected methods may be overridden unless a class closes what another one contributes.** Every
collected method comes from a class of the chain that leaves it open. The nearest class that declares
its signature leaves it open, for all collected methods, if and only if no signature is closed by its
nearest class and contributed by a class that the walk climbs to. -/
theorem collected_overridable_iff (chain : catalog.Chain declaration above) :
    (∀ method ∈ chainableMethods catalog config declaration, ∃ level ∈ declaration :: above,
      method.origin = level.qualifiedName ∧ ∃ member ∈ level.members,
        member.hasSignature method.signature = true ∧ member.modifiers.has .privateAccess = false ∧
          member.modifiers.has .final = false ∧ member.modifiers.has .static = false) ∧
    ((∀ method ∈ chainableMethods catalog config declaration,
        Overridable (declaration :: above) method.signature) ↔
      ∀ signature nearest, nearest? (declaration :: above) signature = some nearest →
        nearest.closes signature = true →
          ∀ level ∈ (declaration :: above).take (hierarchyLimit + 1),
            ∀ method ∈ contributed catalog config level, method.signature ≠ signature) := by
  rw [chainableMethods_of_chain chain]
  refine ⟨fun method collected => ?_, fun overridable signature nearest found closes level climbed
    method contributes same => ?_, fun nothingClosed method collected => ?_⟩
  · obtain ⟨level, climbed, contributes⟩ := exists_level collected
    exact ⟨level, List.mem_of_mem_take climbed, open_of_contributed contributes⟩
  · obtain ⟨twin, collected, identical⟩ := exists_twin climbed contributes
    obtain ⟨other, otherFound, leavesOpen⟩ := overridable twin collected
    rw [Method.signature_congr identical, same] at otherFound leavesOpen
    rw [found] at otherFound
    cases otherFound
    exact Bool.eq_false_iff.mp leavesOpen closes
  · obtain ⟨level, climbed, contributes⟩ := exists_level collected
    obtain ⟨nearest, found⟩ := exists_nearest (List.mem_of_mem_take climbed) contributes
    refine ⟨nearest, found, Bool.eq_false_iff.mpr fun closes => ?_⟩
    exact nothingClosed _ nearest found closes level climbed method contributes rfl

/-! ### Classes that close methods -/

/-- A class with a title. -/
def openBase : Declaration :=
  .extending "app.Base" "java.lang.Object" [.fluent "title" "app.Base" [.publicAccess] "value"]

/-- A class below it that closes a method of its own. -/
def closedCard (method : String) : Declaration :=
  .extending "app.Card" "app.Base" [.fluent method "app.Card" [.publicAccess, .final] "value"]

def closedCards (method : String) : Catalog where
  entries := [closedCard method, openBase]
  distinct := by simp [closedCard, openBase]

theorem closedCards_chain (method : String) :
    (closedCards method).Chain (closedCard method) [openBase] :=
  .step rfl (.root rfl)

/-- Both classes together contribute the title of the super class. -/
theorem chainableMethods_closedCards (method : String) :
    chainableMethods (closedCards method) {} (closedCard method) =
      [.ofMember (.fluent "title" "app.Base" [.publicAccess] "value") "app.Base" false] := by
  have short : [closedCard method, openBase].length ≤ hierarchyLimit + 1 := Nat.le_add_left 2 63
  rw [chainableMethods_of_chain (closedCards_chain method), List.take_of_length_le short,
    hierarchyMethods, List.flatMap_cons, List.flatMap_singleton, openBase, contributed_fluent]
  rfl

/-- A card that closes its subtitle may override the title that it collects. -/
theorem collected_overridable_subtitle :
    (chainableMethods (closedCards "subtitle") {} (closedCard "subtitle")).map Method.signature =
      [("title", [.raw "String"])] ∧
    ∀ method ∈ chainableMethods (closedCards "subtitle") {} (closedCard "subtitle"),
      Overridable [closedCard "subtitle", openBase] method.signature := by
  refine ⟨by rw [chainableMethods_closedCards]; rfl, ?_⟩
  refine (collected_overridable_iff (closedCards_chain "subtitle")).2.mpr fun signature nearest found
    closes level climbed method contributes same => ?_
  subst same
  rw [List.take_of_length_le (by decide), List.mem_cons, List.mem_singleton] at climbed
  rcases climbed with rfl | rfl
  · cases contributes
  · rw [openBase, contributed_fluent, List.mem_singleton] at contributes
    subst contributes
    cases found
    cases closes

/-- **A final method does not hide the method that it overrides**: a card collects the title of its
super class, although its own final title forbids to override it. -/
theorem final_title_collected :
    (chainableMethods (closedCards "title") {} (closedCard "title")).map
        (fun method => (method.signature, method.origin)) =
      [(("title", [.raw "String"]), "app.Base")] ∧
      ¬ Overridable [closedCard "title", openBase] ("title", [.raw "String"]) := by
  constructor
  · rw [chainableMethods_closedCards]
    rfl
  · rintro ⟨nearest, found, leavesOpen⟩
    cases found
    cases leavesOpen

end ModelPlanner
