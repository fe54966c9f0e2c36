/-
**Groups of attributes.**

The members of a group exclude each other, and at most one of them is the default of the group. A
member is eligible when it is not required and has a default. Explicit defaults rank above absence,
absence above other implicit defaults; the first eligible member of the highest rank is elected.

* A group has at least one member, and no two eligible members with explicit defaults.
* The elected member must have something to assign.
-/

import ModelPlanner.Attribute

namespace ModelPlanner

/-- A group of attributes with its default. -/
structure Group where
  name : String
  members : List AttributeKey
  default? : Option AttributeKey
deriving DecidableEq

namespace Group

/-- Whether one of the members must be set. -/
def isRequired (group : Group) : Bool := group.default?.isNone

/-- Whether a key is a member. -/
def contains (group : Group) (key : AttributeKey) : Bool := group.members.contains key

/-- The members other than a key. -/
def siblings (group : Group) (key : AttributeKey) : List AttributeKey :=
  group.members.filter (· ≠ key)

/-! ### Electing the default -/

/-- How strong a default is. -/
inductive Rank where
  | implicit
  | absence
  | explicit
deriving Repr, DecidableEq

/-- The place of a rank. -/
def Rank.height : Rank → Nat
  | .implicit => 0
  | .absence => 1
  | .explicit => 2

/-- The rank of an attribute's default. -/
def rank (attr : Attribute) : Rank :=
  if attr.default.isExplicit then .explicit
  else if attr.defaultsToAbsence then .absence
  else .implicit

/-- Whether an attribute can be elected. -/
def isEligible (attr : Attribute) : Bool := !attr.required && attr.hasDefault

/-- The candidate after one more member; absent when both have explicit defaults. -/
def contend? (candidate? : Option Attribute) (member : Attribute) : Option (Option Attribute) :=
  if !isEligible member then some candidate?
  else
    match candidate? with
    | none => some (some member)
    | some candidate =>
      if rank candidate = .explicit ∧ rank member = .explicit then none
      else if (rank candidate).height < (rank member).height then some (some member)
      else some (some candidate)

/-- The elected member of a list, if there is one; absent altogether when two explicit defaults
contend. -/
def elect? (members : List Attribute) : Option (Option Attribute) := members.foldlM contend? none

/-- The group of the given members. -/
def resolve (name : String) (members : List Attribute) : Except ModelError Group :=
  if members.isEmpty then .error (.emptyGroup name)
  else
    match elect? members with
    | none => .error (.conflictingGroupDefaults name (members.map (·.key.text)))
    | some none => .ok ⟨name, members.map (·.key), none⟩
    | some (some elected) =>
      if elected.default.isUsable then .ok ⟨name, members.map (·.key), some elected.key⟩
      else .error (.defaultWithoutCode name elected.name)

end Group

end ModelPlanner
