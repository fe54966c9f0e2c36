/-
**Setters take the place of methods.**

Every insertion of an attribute drops the methods that its setter would hide, and nothing brings a
dropped method back. Hence the methods of a registry are, at any time, the given ones that no
registered attribute hides:

* `shadows_insert`: inserting an attribute adds the methods it hides to those that are hidden;
* `Pruned`, `pruned_run`: the methods are the initial ones less the hidden ones, after every history;
* `methods_run`: the initial methods are the first of equal ones of the given list.
-/

import ModelPlanner.Proofs.Registry.Edits

namespace ModelPlanner

namespace Method

/-- A method hides behind the setter of the attribute of a key: it has the name of the attribute and
one parameter, of the attribute's type. -/
def Hides (method : Method) (key : AttributeKey) : Prop :=
  method.name = key.name ∧ ∃ param, method.params = [param] ∧ param.type = key.type

/-- A method is shadowed by an attribute exactly when it hides behind the attribute's setter. -/
theorem isShadowedBy_iff {method : Method} {attr : Attribute} :
    method.isShadowedBy attr = true ↔ method.Hides attr.key := by
  unfold isShadowedBy Hides signature
  rw [decide_eq_true_eq, Prod.mk.injEq]
  constructor
  · rintro ⟨sameName, types⟩
    obtain ⟨param, params, sameType⟩ := List.map_eq_singleton_iff.mp types
    exact ⟨sameName, param, params, sameType⟩
  · rintro ⟨sameName, param, params, sameType⟩
    exact ⟨sameName, by rw [params, List.map_singleton, sameType]; rfl⟩

end Method

namespace Registry

/-- A method hides behind the setter of a registered attribute. -/
def Shadows (registry : Registry) (method : Method) : Prop :=
  ∃ attr ∈ registry.attributes.entries, method.Hides attr.key

instance (registry : Registry) : DecidablePred registry.Shadows := fun method =>
  decidable_of_iff (registry.attributes.entries.any method.isShadowedBy = true) (by
    simp only [Shadows, List.any_eq_true, Method.isShadowedBy_iff])

/-- A method is shadowed exactly when it hides behind the setter of a registered key. -/
theorem shadows_iff_keys {registry : Registry} {method : Method} :
    registry.Shadows method ↔ ∃ key ∈ registry.attributes.keys, method.Hides key := by
  constructor
  · rintro ⟨attr, member, hides⟩
    exact ⟨attr.key, List.mem_map_of_mem member, hides⟩
  · rintro ⟨key, registered, hides⟩
    obtain ⟨attr, member, rfl⟩ := List.mem_map.mp registered
    exact ⟨attr, member, hides⟩

/-- Inserting an attribute shadows what it hides itself and what was shadowed before. -/
theorem shadows_insert {registry : Registry} {attr : Attribute} {method : Method} :
    (registry.insert attr).Shadows method ↔
      method.Hides attr.key ∨ registry.Shadows method := by
  simp [shadows_iff_keys, or_and_right, exists_or]

/-- The methods are the initial ones that are not shadowed. -/
def Pruned (initial : List Method) (registry : Registry) : Prop :=
  registry.methods = initial.filter fun method => ¬ registry.Shadows method

/-- A registry without attributes is pruned: nothing is shadowed. -/
theorem pruned_ofMethods (methods : List Method) :
    Pruned (keepFirst Method.identity methods) (ofMethods methods) := by
  refine (List.filter_eq_self.mpr fun method _ => ?_).symm
  apply decide_eq_true
  rintro ⟨attr, member, _⟩
  cases member

/-- Inserting an attribute keeps a registry pruned. -/
theorem pruned_insert {initial : List Method} {registry : Registry} (pruned : Pruned initial registry)
    (attr : Attribute) : Pruned initial (registry.insert attr) := by
  show registry.methods.filter (fun method => !method.isShadowedBy attr) = _
  rw [pruned, List.filter_filter]
  refine List.filter_congr fun method _ => ?_
  rw [Bool.eq_iff_iff, Bool.and_eq_true, Bool.not_eq_true', decide_eq_true_eq, decide_eq_true_eq,
    shadows_insert, not_or, ← Method.isShadowedBy_iff, Bool.not_eq_true]

/-- Every history keeps a registry pruned. -/
theorem pruned_run (methods : List Method) (edits : List Edit) :
    Pruned (keepFirst Method.identity methods) ((ofMethods methods).run edits) :=
  run_induction edits (pruned_ofMethods methods) fun _ attr pruned => pruned_insert pruned attr

/-- **A setter and an override never coexist, and nothing else is dropped**: after every history the
methods are the given ones, equal ones taken once, that hide behind no setter of a registered
attribute; a refused edit registers nothing. -/
theorem methods_run (methods : List Method) (edits : List Edit) :
    ((ofMethods methods).run edits).methods =
        (methods.eraseDupsBy fun first second => first.identity == second.identity).filter
          (fun method => ¬ ((ofMethods methods).run edits).Shadows method) ∧
      ∀ edit error, (((ofMethods methods).run edits).edit edit).1 = .error error →
        (((ofMethods methods).run edits).edit edit).2 = (ofMethods methods).run edits := by
  constructor
  · rw [← keepFirst_eq_eraseDupsBy]
    exact pruned_run methods edits
  · exact fun edit error refused => edit_refused refused

/-- A public method of one parameter. -/
def oneParam (name type : String) : Method :=
  { name
    modifiers := .ofList [.publicAccess]
    params := [⟨.raw type, "value", []⟩]
    varargs := false
    isAttribute := false
    origin := "" }

/-- Of two overloads the one with the attribute's type is dropped, and a batch that is refused for its
second attribute does not drop the other one. -/
theorem methods_run_overloads :
    let registry := (ofMethods [oneParam "title" "String", oneParam "title" "int"]).run
      [.add (.ofKey ⟨"title", .raw "String"⟩)]
    let batch : Edit := .addAll [.ofKey ⟨"title", .raw "int"⟩, .ofKey ⟨"bad", .raw "void"⟩]
    registry.methods = [oneParam "title" "int"] ∧
      (registry.edit batch).1 = .error (.unsupportedAttribute "bad" .voidType) ∧
      (registry.edit batch).2 = registry := by
  intro registry batch
  have refused : (registry.edit batch).1 = .error (.unsupportedAttribute "bad" .voidType) := rfl
  refine ⟨?_, refused, (methods_run _ _).2 batch _ refused⟩
  exact (methods_run _ _).1.trans (by decide)

end Registry

end ModelPlanner
