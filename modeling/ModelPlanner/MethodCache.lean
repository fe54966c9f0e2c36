/-
**Collecting chainable methods.**

A declaration with a super type is a level of its hierarchy. A level contributes its methods that are
open to overriding (not private, final or static), return the level's type or one above it, and are
not the reset operation without parameters. `collect` lists the methods of all levels, nearest level
first, equal methods once.

A cache keeps the list of every declaration that a walk has visited, and later walks take it from
there. A walk climbs at most `hierarchyLimit` levels; what it found on the way is kept as it is, also
when the limit cut it off.
-/

import ModelPlanner.Catalog
import ModelPlanner.Config
import ModelPlanner.Distinct
import ModelPlanner.Method

namespace ModelPlanner

/-! ### One level -/

/-- Whether a member of a level is a chainable method. -/
def isChainable (catalog : Catalog) (config : Config) (level : TypeName) (member : Member) : Bool :=
  match member.returnType? with
  | none => false
  | some returnType =>
    !member.modifiers.has .privateAccess && !member.modifiers.has .final &&
      !member.modifiers.has .static &&
      !(member.params.isEmpty && member.name == config.resetMethod) &&
      catalog.isSubtype level returnType

/-- The chainable methods that a declaration itself contributes. -/
def levelMethods (catalog : Catalog) (config : Config) (declaration : Declaration) : List Method :=
  (declaration.members.filter (isChainable catalog config declaration.asType)).map fun member =>
    .ofMember member declaration.qualifiedName
      (member.annotationNamed? config.attributeAnnotationName).isSome

/-! ### The cache -/

/-- What a walk found for a declaration. -/
structure CacheEntry where
  declaration : String
  methods : List Method
deriving DecidableEq

/-- The lists of the declarations that walks have visited. -/
abbrev MethodCache := Keyed CacheEntry.declaration

namespace MethodCache

/-- The chainable methods of a declaration and the cache after finding them, climbing at most
`levels` levels. -/
def walk (catalog : Catalog) (config : Config) (levels : Nat) (declaration : Declaration)
    (cache : MethodCache) : List Method × MethodCache :=
  match cache.get? declaration.qualifiedName with
  | some entry => (entry.methods, cache)
  | none =>
    let (found, after) : List Method × MethodCache :=
      match declaration.superType?, levels with
      | none, _ => ([], cache)
      | some _, 0 => (levelMethods catalog config declaration, cache)
      | some superType, levels + 1 =>
        let own := levelMethods catalog config declaration
        match catalog.resolve superType with
        | none => (own, cache)
        | some parent =>
          let (inherited, after) := walk catalog config levels parent cache
          (own ++ inherited, after)
    let methods := keepFirst Method.identity found
    (methods, after.put ⟨declaration.qualifiedName, methods⟩)

/-- The chainable methods of a declaration, looked up in a cache and kept in it. -/
def chainableMethods (catalog : Catalog) (config : Config) (declaration : Declaration)
    (cache : MethodCache) : List Method × MethodCache :=
  walk catalog config hierarchyLimit declaration cache

end MethodCache

/-- The chainable methods of a declaration, found without help. -/
def chainableMethods (catalog : Catalog) (config : Config) (declaration : Declaration) :
    List Method :=
  (MethodCache.chainableMethods catalog config declaration Keyed.empty).1

end ModelPlanner
