/-
**The attributes and methods of a model.**

A registry holds attributes under their keys, in the order of their first registration, and the
chainable methods that no attribute shadows.

* `add` and `addAll` validate all attributes before they insert any; an attribute of a known key takes
  the place of the old one and keeps its group.
* `addIfAbsent` inserts an attribute of a new key only, and looks at no other.

An operation gives its outcome and the registry after it.
-/

import ModelPlanner.Distinct
import ModelPlanner.Keyed
import ModelPlanner.Method

namespace ModelPlanner

/-- Attributes under their keys, and methods that none of them shadows. -/
structure Registry where
  attributes : Keyed Attribute.key
  methods : List Method
deriving DecidableEq

namespace Registry

/-- The registry of the given methods, equal ones taken once, without attributes. -/
def ofMethods (methods : List Method) : Registry := ⟨.empty, keepFirst Method.identity methods⟩

/-- The attribute of a key. -/
def get? (registry : Registry) (key : AttributeKey) : Option Attribute :=
  registry.attributes.get? key

/-- An attribute in the group of the registered attribute of its key, if there is one. -/
def keepGroup (registry : Registry) (attr : Attribute) : Attribute :=
  match registry.get? attr.key with
  | some known => { attr with group? := known.group? }
  | none => attr

/-- The registry with an attribute that is valid. -/
def insert (registry : Registry) (attr : Attribute) : Registry :=
  { attributes := registry.attributes.put (registry.keepGroup attr)
    methods := registry.methods.filter fun method => !method.isShadowedBy attr }

/-- Registers attributes, all or none. -/
def addAll (registry : Registry) (attributes : List Attribute) :
    Except ModelError Unit × Registry :=
  match attributes.forM Attribute.validate with
  | .error error => (.error error, registry)
  | .ok () => (.ok (), attributes.foldl insert registry)

/-- Registers one attribute. -/
def add (registry : Registry) (attr : Attribute) : Except ModelError Unit × Registry :=
  registry.addAll [attr]

/-- Registers an attribute of a new key and tells whether it did. -/
def addIfAbsent (registry : Registry) (attr : Attribute) :
    Except ModelError Bool × Registry :=
  if registry.attributes.contains attr.key then (.ok false, registry)
  else
    match attr.validate with
    | .error error => (.error error, registry)
    | .ok () => (.ok true, registry.insert attr)

/-- The registry with the attributes of the given keys moved to a group, or to none. -/
def regroup (registry : Registry) (keys : List AttributeKey) (group? : Option String) : Registry :=
  { registry with
    attributes := registry.attributes.adjust
      (fun attr => if attr.key ∈ keys then { attr with group? } else attr)
      (fun attr => by split <;> rfl) }

/-! ### What insertions and moves leave -/

section Parts

variable (registry : Registry) (attr : Attribute) (keys : List AttributeKey) (group? : Option String)

@[simp, grind =]
theorem key_keepGroup : (registry.keepGroup attr).key = attr.key := by
  unfold keepGroup
  split <;> rfl

@[simp, grind =]
theorem get?_eq_none_iff {key : AttributeKey} :
    registry.get? key = none ↔ key ∉ registry.attributes.keys :=
  Keyed.get?_eq_none_iff

/-- Inserting an attribute adds its key at the end, unless it is there. -/
@[grind =]
theorem keys_insert : (registry.insert attr).attributes.keys =
    if attr.key ∈ registry.attributes.keys then registry.attributes.keys
    else registry.attributes.keys ++ [attr.key] := by
  simp [insert, Keyed.keys_put]

@[simp, grind =]
theorem mem_keys_insert {key : AttributeKey} : key ∈ (registry.insert attr).attributes.keys ↔
    key = attr.key ∨ key ∈ registry.attributes.keys := by
  simp [insert]

/-- Inserting an attribute changes what is found under its key only. -/
@[simp, grind =]
theorem get?_insert (key : AttributeKey) : (registry.insert attr).get? key =
    if key = attr.key then some (registry.keepGroup attr) else registry.get? key := by
  simp [insert, get?, Keyed.get?_put]

@[simp, grind =]
theorem keys_regroup : (registry.regroup keys group?).attributes.keys = registry.attributes.keys := by
  simp [regroup]

/-- Moving attributes to a group, or to none, changes the group of these attributes only. -/
@[simp, grind =]
theorem get?_regroup (key : AttributeKey) : (registry.regroup keys group?).get? key =
    (registry.get? key).map fun attr => if key ∈ keys then { attr with group? } else attr := by
  simp only [regroup, get?, Keyed.get?_adjust]
  refine Option.map_congr fun attr found => ?_
  rw [Keyed.key_of_get? found]

@[simp]
theorem methods_regroup : (registry.regroup keys group?).methods = registry.methods := rfl

end Parts

end Registry

end ModelPlanner
