/-
**Sets of modifiers.**

A set of modifiers is the predicate that tells its members. It is listed and written in one order,
visibility first, so sets with the same members are equal and have the same text.
-/

namespace ModelPlanner

/-- A modifier of a declaration or a member. -/
inductive Modifier where
  | publicAccess
  | protectedAccess
  | privateAccess
  | abstract
  | defaultBody
  | static
  | final
  | synchronized
deriving Repr, DecidableEq

namespace Modifier

/-- All modifiers, in the order in which a set lists them. -/
def all : List Modifier :=
  [.publicAccess, .protectedAccess, .privateAccess, .abstract, .defaultBody, .static, .final,
   .synchronized]

/-- Every modifier is in the list of all of them. -/
@[simp]
theorem mem_all (modifier : Modifier) : modifier ∈ all := by cases modifier <;> decide

/-- The keyword of a modifier. -/
def keyword : Modifier → String
  | .publicAccess => "public"
  | .protectedAccess => "protected"
  | .privateAccess => "private"
  | .abstract => "abstract"
  | .defaultBody => "default"
  | .static => "static"
  | .final => "final"
  | .synchronized => "synchronized"

end Modifier

/-- A set of modifiers. -/
structure Modifiers where
  has : Modifier → Bool

namespace Modifiers

/-- The members, in the order of `Modifier.all`. -/
def toList (set : Modifiers) : List Modifier := Modifier.all.filter set.has

/-- Sets with the same members are equal. -/
theorem ext_toList {first second : Modifiers} (same : first.toList = second.toList) :
    first = second := by
  cases first with | mk firstHas =>
  cases second with | mk secondHas =>
  congr
  funext modifier
  have members : modifier ∈ (mk firstHas).toList ↔ modifier ∈ (mk secondHas).toList := by rw [same]
  simp only [toList, List.mem_filter, Modifier.mem_all, true_and] at members
  exact Bool.eq_iff_iff.mpr members

instance : DecidableEq Modifiers := fun first second =>
  if same : first.toList = second.toList then isTrue (ext_toList same)
  else isFalse fun equal => same (by rw [equal])

/-- No modifiers. -/
def empty : Modifiers := ⟨fun _ => false⟩

instance : Inhabited Modifiers := ⟨empty⟩

/-- The set with one more member. -/
def insert (set : Modifiers) (modifier : Modifier) : Modifiers :=
  ⟨fun other => other == modifier || set.has other⟩

/-- The set with one member less. -/
def erase (set : Modifiers) (modifier : Modifier) : Modifiers :=
  ⟨fun other => other != modifier && set.has other⟩

/-- The set of the members of a list. -/
def ofList (modifiers : List Modifier) : Modifiers := ⟨modifiers.contains⟩

/-- Whether the set has no members. -/
def isEmpty (set : Modifiers) : Bool := set.toList.isEmpty

/-- Whether no visibility is stated. -/
def isPackagePrivate (set : Modifiers) : Bool :=
  !set.has .publicAccess && !set.has .protectedAccess && !set.has .privateAccess

/-- The keywords of the members, with spaces between them. -/
def text (set : Modifiers) : String := " ".intercalate (set.toList.map Modifier.keyword)

end Modifiers

end ModelPlanner
