/-
**Type references.**

A type reference is a qualified name, type arguments and a number of array dimensions between 0 and
255. An argument is a type, a wildcard, or a wildcard bounded from above or below by a type.

* `text` writes a reference the way a programmer would: `a.b.Map<K, ? extends V>[]`;
* `erasure` forgets the arguments and keeps the dimensions, `component?` removes one dimension;
* `compare` orders references by name, then arguments, then dimensions.
-/

import ModelPlanner.QualifiedName

namespace ModelPlanner

mutual

/-- A reference to a type: its name, its arguments and its array dimensions. -/
inductive TypeName where
  | mk (name : String) (args : List TypeArg) (dims : Fin 256)

/-- A type argument: a type, `?`, `? extends` a type or `? super` a type. -/
inductive TypeArg where
  | exact (type : TypeName)
  | wildcard
  | upper (bound : TypeName)
  | lower (bound : TypeName)

end

namespace TypeName

/-- The qualified name without arguments and dimensions. -/
def name : TypeName → String
  | .mk name _ _ => name

/-- The type arguments. -/
def args : TypeName → List TypeArg
  | .mk _ args _ => args

/-- The number of array dimensions. -/
def dims : TypeName → Fin 256
  | .mk _ _ dims => dims

/-- The type of a name applied to arguments, without dimensions. -/
def applied (name : String) (args : List TypeArg) : TypeName := .mk name args 0

/-- The type of a name, without arguments and dimensions. -/
def raw (name : String) : TypeName := applied name []

instance : Inhabited TypeName := ⟨raw ""⟩

/-- A number of dimensions, cut off at 255. -/
def clipDims (count : Nat) : Fin 256 := ⟨min count 255, by omega⟩

/-- The type of arrays of a type; the dimensions stop at 255. -/
def arrayOf (type : TypeName) : TypeName := .mk type.name type.args (clipDims (type.dims + 1))

/-- The part of the name after the last dot. -/
def simpleName (type : TypeName) : String := QualifiedName.simple type.name

/-- The part of the name before the last dot. -/
def package (type : TypeName) : String := QualifiedName.package type.name

/-- Whether the type is an array type. -/
def isArray (type : TypeName) : Bool := type.dims.val != 0

/-- The element type of an array type. -/
def component? (type : TypeName) : Option TypeName :=
  if type.isArray then some (.mk type.name type.args (clipDims (type.dims - 1))) else none

/-- The type without its arguments. -/
def erasure (type : TypeName) : TypeName := .mk type.name [] type.dims

/-- The names of the types that hold no reference. -/
def primitiveNames : List String :=
  ["boolean", "byte", "short", "int", "long", "char", "float", "double"]

/-- Whether the type is a primitive one. -/
def isPrimitive (type : TypeName) : Bool :=
  !type.isArray && type.args.isEmpty && primitiveNames.contains type.name

/-- Whether the type is that of methods without result. -/
def isVoid (type : TypeName) : Bool := !type.isArray && type.name == "void"

/-- Whether the type is no array and its name is the wanted one. -/
def isNamed (type : TypeName) (wanted : String) : Bool :=
  !type.isArray && QualifiedName.answersTo type.name wanted

/-- The literal of the value that a field of the type holds before any assignment. -/
def zeroLiteral (type : TypeName) : String :=
  if !type.isPrimitive then "null"
  else if type.name == "boolean" then "false"
  else if type.name == "float" || type.name == "double" then "0.0"
  else "0"

end TypeName

/-! ### Text -/

mutual

/-- The characters of a type reference: name, arguments, one pair of brackets per dimension. -/
def TypeName.chars : TypeName → List Char
  | .mk name args dims =>
    name.toList ++ TypeArg.listChars args ++ (List.replicate dims.val ['[', ']']).flatten

/-- The characters of a type argument. -/
def TypeArg.chars : TypeArg → List Char
  | .exact type => type.chars
  | .wildcard => ['?']
  | .upper bound => "? extends ".toList ++ bound.chars
  | .lower bound => "? super ".toList ++ bound.chars

/-- The characters of an argument list; an empty one is not written. -/
def TypeArg.listChars : List TypeArg → List Char
  | [] => []
  | arg :: rest => '<' :: arg.chars ++ TypeArg.tailChars rest

/-- The characters of the further arguments up to the closing bracket. -/
def TypeArg.tailChars : List TypeArg → List Char
  | [] => ['>']
  | arg :: rest => ',' :: ' ' :: arg.chars ++ TypeArg.tailChars rest

end

/-- The text of a type reference. -/
def TypeName.text (type : TypeName) : String := String.ofList type.chars

instance : ToString TypeName := ⟨TypeName.text⟩

/-! ### Equality -/

mutual

/-- Equality of type references is decidable. -/
def TypeName.decEq : (first second : TypeName) → Decidable (first = second)
  | .mk name args dims, .mk name' args' dims' =>
    match TypeArg.decEqList args args' with
    | isTrue sameArgs =>
      if same : name = name' ∧ dims = dims' then isTrue (by rw [same.1, same.2, sameArgs])
      else isFalse fun equal => by cases equal; exact same ⟨rfl, rfl⟩
    | isFalse differ => isFalse fun equal => by cases equal; exact differ rfl

/-- Equality of type arguments is decidable. -/
def TypeArg.decEq : (first second : TypeArg) → Decidable (first = second)
  | .exact type, .exact type' =>
    match TypeName.decEq type type' with
    | isTrue same => isTrue (by rw [same])
    | isFalse differ => isFalse fun equal => by cases equal; exact differ rfl
  | .wildcard, .wildcard => isTrue rfl
  | .upper bound, .upper bound' =>
    match TypeName.decEq bound bound' with
    | isTrue same => isTrue (by rw [same])
    | isFalse differ => isFalse fun equal => by cases equal; exact differ rfl
  | .lower bound, .lower bound' =>
    match TypeName.decEq bound bound' with
    | isTrue same => isTrue (by rw [same])
    | isFalse differ => isFalse fun equal => by cases equal; exact differ rfl
  | .exact _, .wildcard | .exact _, .upper _ | .exact _, .lower _ => isFalse nofun
  | .wildcard, .exact _ | .wildcard, .upper _ | .wildcard, .lower _ => isFalse nofun
  | .upper _, .exact _ | .upper _, .wildcard | .upper _, .lower _ => isFalse nofun
  | .lower _, .exact _ | .lower _, .wildcard | .lower _, .upper _ => isFalse nofun

/-- Equality of argument lists is decidable. -/
def TypeArg.decEqList : (first second : List TypeArg) → Decidable (first = second)
  | [], [] => isTrue rfl
  | [], _ :: _ => isFalse nofun
  | _ :: _, [] => isFalse nofun
  | arg :: rest, arg' :: rest' =>
    match TypeArg.decEq arg arg', TypeArg.decEqList rest rest' with
    | isTrue same, isTrue sameRest => isTrue (by rw [same, sameRest])
    | isFalse differ, _ => isFalse fun equal => by cases equal; exact differ rfl
    | _, isFalse differ => isFalse fun equal => by cases equal; exact differ rfl

end

instance : DecidableEq TypeName := TypeName.decEq

instance : DecidableEq TypeArg := TypeArg.decEq

/-! ### Order -/

/-- The place of an argument's kind in the order of arguments. -/
def TypeArg.kindRank : TypeArg → Nat
  | .exact _ => 0
  | .wildcard => 1
  | .upper _ => 2
  | .lower _ => 3

mutual

/-- The order of type references: by name, then arguments, then dimensions. -/
def TypeName.compare : TypeName → TypeName → Ordering
  | .mk name args dims, .mk name' args' dims' =>
    (Ord.compare name name').then
      ((TypeArg.compareList args args').then (Ord.compare dims.val dims'.val))

/-- The order of arguments: types, wildcards, upper bounds, lower bounds, each by its type. -/
def TypeArg.compare : TypeArg → TypeArg → Ordering
  | .exact type, .exact type' => type.compare type'
  | .upper bound, .upper bound' => bound.compare bound'
  | .lower bound, .lower bound' => bound.compare bound'
  | first, second => Ord.compare first.kindRank second.kindRank

/-- The lexicographic order of argument lists. -/
def TypeArg.compareList : List TypeArg → List TypeArg → Ordering
  | [], [] => .eq
  | [], _ :: _ => .lt
  | _ :: _, [] => .gt
  | arg :: rest, arg' :: rest' => (arg.compare arg').then (TypeArg.compareList rest rest')

end

instance : Ord TypeName := ⟨TypeName.compare⟩

end ModelPlanner
