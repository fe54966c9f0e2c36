/-
**Dotted names.**

A qualified name is a text with dots. Its simple name is what stands after the last dot, its package
what stands before it; a name without a dot is its own simple name and has the empty package. A
declaration answers to its qualified name and, when asked without a package, to its simple name.
-/

namespace ModelPlanner.QualifiedName

/-- The part of a list after its last dot. -/
def simpleList (name : List Char) : List Char := (name.reverse.takeWhile (· != '.')).reverse

/-- The part of a list before its last dot, empty when there is no dot. -/
def packageList (name : List Char) : List Char :=
  ((name.reverse.dropWhile (· != '.')).drop 1).reverse

/-- The part of a name after its last dot. -/
def simple (name : String) : String := String.ofList (simpleList name.toList)

/-- The part of a name before its last dot, empty when there is no dot. -/
def package (name : String) : String := String.ofList (packageList name.toList)

/-- Whether a qualified name is the wanted one: the same text, or the same simple name when the
wanted name has no dot. -/
def answersTo (qualified wanted : String) : Bool :=
  qualified == wanted || (!wanted.toList.contains '.' && simple qualified == wanted)

/-- A name without a dot is its own simple name. -/
theorem simple_of_no_dot {name : String} (plain : '.' ∉ name.toList) : simple name = name := by
  have whole : name.toList.reverse.takeWhile (· != '.') = name.toList.reverse := by
    rw [← List.append_nil name.toList.reverse, List.takeWhile_append_of_pos, List.takeWhile_nil]
    intro char member
    exact bne_iff_ne.mpr fun same => plain (same ▸ List.mem_reverse.mp member)
  rw [simple, simpleList, whole, List.reverse_reverse, String.ofList_toList]

theorem answersTo_iff {qualified wanted : String} :
    answersTo qualified wanted = true ↔
      qualified = wanted ∨ '.' ∉ wanted.toList ∧ simple qualified = wanted := by
  simp [answersTo]

/-- What answers to a name answers to all that the name answers to. -/
theorem answersTo_trans {first second third : String} (one : answersTo first second = true)
    (other : answersTo second third = true) : answersTo first third = true := by
  rw [answersTo_iff] at one other ⊢
  rcases one with rfl | ⟨plain, simple_eq⟩
  · exact other
  · -- a name without a dot answers to itself only
    rw [simple_of_no_dot plain] at other
    have same : second = third := other.elim id And.right
    exact Or.inr ⟨same ▸ plain, same ▸ simple_eq⟩

end ModelPlanner.QualifiedName
