/-
**Inherited attributes, nearest first.**

`Model.Collected` says what a model without groups has registered: its own attributes and those from
above, merged nearest first. Each step of a plan goes on with it, up to the groups, which change no more
than the group that an attribute names (`merged_addGroups`); what linking one group keeps, making groups
keeps (`addGroups_induction`).

* `Plan.attributes_eq`: the attributes of a plan are the style, the own attributes and the inherited
  ones, merged nearest first;
* `inheritedFields_of_chain`: within the limit the inherited attributes are those of the whole chain
  that the class sees;
* `attributes_nearest_first`: hence so are the attributes of every model of a batch.
-/

import ModelPlanner.Proofs.Model.Links
import ModelPlanner.Proofs.Planner.Plans
import ModelPlanner.Proofs.Registry.Merge

namespace ModelPlanner

/-! ### What a model has collected -/

namespace Model

/-- The model has no groups yet, and it has registered its own attributes and those from above, merged
nearest first. -/
structure Collected (model : Model) (header : ModelHeader) (mine above : List Attribute) : Prop where
  header_eq : model.header = header
  groups_eq : model.groups = .empty
  linked : Linked model.registry model.groups
  merged : model.registry.Merged mine above

theorem collected_bare (header : ModelHeader) (methods : List Method) :
    Collected (.bare header methods) header [] [] :=
  ⟨rfl, rfl, linked_bare methods, Registry.merged_ofMethods methods⟩

/-- Registering attributes without a group leaves the links consistent. -/
theorem linked_edit (edit : Registry.Edit) (ungrouped : ∀ attr ∈ edit.incoming, attr.group? = none)
    {registry : Registry} {groups : Keyed Group.name} (linked : Linked registry groups) :
    Linked (registry.edit edit).2 groups :=
  Registry.edit_induction (motive := fun registry => Linked registry groups) linked
    fun _ attr member holds => linked_insert holds (Attribute.built_iff.mpr (ungrouped attr member))

end Model

namespace Planner

open Model (Collected)

theorem committed_eq_ok {α : Type} {result : Except ModelError α × Model} {after : Model}
    (done : committed result = .ok after) : ∃ value, result = (.ok value, after) := by
  obtain ⟨_ | value, model⟩ := result
  · cases done
  · cases done
    exact ⟨value, rfl⟩

section Collected

variable {model after : Model} {header : ModelHeader} {mine above : List Attribute}

/-- Registering own attributes goes on with the collection. -/
theorem collected_addAttributes {attrs : List Attribute} (collected : model.Collected header mine [])
    (ungrouped : ∀ attr ∈ attrs, attr.group? = none)
    (done : committed (model.addAttributes attrs) = .ok after) :
    after.Collected header (mine ++ attrs) [] := by
  obtain ⟨value, result⟩ := committed_eq_ok done
  unfold Model.addAttributes Model.withRegistry at result
  have linked := Model.linked_edit (.addAll attrs) ungrouped collected.linked
  rcases Registry.addAll_cases model.registry attrs with ⟨error, refused⟩ | accepted
  · rw [refused] at result
    cases result
  · have edited : (model.registry.edit (.addAll attrs)).2 = attrs.foldl Registry.insert model.registry :=
      congrArg Prod.snd accepted
    rw [edited] at linked
    rw [accepted] at result
    cases result
    exact ⟨collected.header_eq, collected.groups_eq, linked,
      Registry.merged_foldl collected.merged ungrouped⟩

/-- Registering an attribute from above goes on with the collection. -/
theorem collected_addIfAbsent {attr : Attribute} (collected : model.Collected header mine above)
    (ungrouped : attr.group? = none) (done : committed (model.addIfAbsent attr) = .ok after) :
    after.Collected header mine (above ++ [attr]) := by
  obtain ⟨value, result⟩ := committed_eq_ok done
  unfold Model.addIfAbsent Model.withRegistry at result
  have linked := Model.linked_edit (.addIfAbsent attr)
    (List.forall_mem_singleton.mpr ungrouped) collected.linked
  cases added : model.registry.addIfAbsent attr with
  | mk outcome registry =>
    have edited : (model.registry.edit (.addIfAbsent attr)).2 = registry := congrArg Prod.snd added
    rw [edited] at linked
    rw [added] at result
    cases result
    exact ⟨collected.header_eq, collected.groups_eq, linked,
      Registry.merged_addIfAbsent collected.merged ungrouped added⟩

theorem collected_addInherited {fields : List FieldAttribute}
    (collected : model.Collected header mine []) (ungrouped : ∀ field ∈ fields, field.attr.group? = none)
    (done : addInherited model fields = .ok after) :
    after.Collected header mine (fields.map (·.attr)) := by
  refine foldlM_induction (motive := fun front model => model.Collected header mine (front.map (·.attr)))
    collected (fun front field member before after holds step => ?_) done
  rw [List.map_append]
  exact collected_addIfAbsent holds (ungrouped field member) step

end Collected

/-! ### The steps of a plan -/

section Steps

variable {catalog : Catalog} {config : Config} {declaration : Declaration}

/-- A field declares an attribute without a group; the group that it names comes later. -/
theorem ofField_ungrouped {field : Member} {type : TypeName} {mark : Annotation}
    {declared : FieldAttribute}
    (done : FieldAttribute.ofField catalog config declaration field type mark = .ok declared) :
    declared.attr.group? = none := by
  unfold FieldAttribute.ofField at done
  split at done
  · cases done
  · obtain ⟨policy, _, rfl⟩ := map_eq_ok_iff.mp done
    show (FieldAttribute.drafted config field type mark).group? = none
    unfold FieldAttribute.drafted
    dsimp only
    cases mark.arg? "defaultValue" <;> cases mark.flag "languageDefault" <;> split <;> rfl

theorem ofDeclaration_ungrouped {fields : List FieldAttribute}
    (done : FieldAttribute.ofDeclaration catalog config declaration = .ok fields) :
    ∀ field ∈ fields, field.attr.group? = none := by
  intro field member
  obtain ⟨_, _, declared⟩ := exists_of_mem_mapM done field member
  exact ofField_ungrouped declared

theorem inheritedFields_ungrouped {known : String → Option (List FieldAttribute)}
    (ungrouped : ∀ name fields, known name = some fields → ∀ field ∈ fields, field.attr.group? = none)
    (package : String) (visited : List String) :
    ∀ fields, inheritedFields catalog config known package visited declaration = .ok fields →
      ∀ field ∈ fields, field.attr.group? = none := by
  have level : ∀ own above : List FieldAttribute, (∀ field ∈ own, field.attr.group? = none) →
      (∀ field ∈ above, field.attr.group? = none) →
        ∀ field ∈ own.filter (isVisibleFrom package) ++ above, field.attr.group? = none := by
    intro own above near far field member
    rcases List.mem_append.mp member with here | there
    · exact near field (List.mem_filter.mp here).1
    · exact far field there
  fun_induction inheritedFields catalog config known package visited declaration with
  | case1 visited declaration ended =>
    intro fields done
    cases done
    exact fun _ member => absurd member List.not_mem_nil
  | case2 visited declaration parent next within rest own taken ih =>
    intro fields done
    obtain ⟨_, ⟨⟩, done⟩ := bind_eq_ok_iff.mp done
    obtain ⟨above, climbed, done⟩ := bind_eq_ok_iff.mp done
    rw [← Except.ok.inj done]
    have far := ih above climbed
    have near := ungrouped _ own taken
    exact level own above near far
  | case3 visited declaration parent next within rest unknown ih =>
    intro fields done
    obtain ⟨own, read, done⟩ := bind_eq_ok_iff.mp done
    obtain ⟨above, climbed, done⟩ := bind_eq_ok_iff.mp done
    rw [← Except.ok.inj done]
    have far := ih above climbed
    have near := ofDeclaration_ungrouped read
    exact level own above near far
  | case4 visited declaration parent next beyond =>
    intro fields done
    cases done
    exact fun _ member => absurd member List.not_mem_nil

end Steps

/-! ### The style -/

/-- The text of the style that the annotation of a declaration asks for. -/
def styleText? (config : Config) (declaration : Declaration) : Option String :=
  (declaration.annotationNamed? config.modelAnnotationName).bind (·.arg? "style")

/-- The attributes for the style of a declaration: none if its annotation asks for no style, or else
the one of the type that the text of the style refers to. -/
def DeclaresStyle (config : Config) (declaration : Declaration) (model : Model)
    (styles : List Attribute) : Prop :=
  match styleText? config declaration with
  | none => styles = []
  | some text => ∃ style, TypeName.parse (Text.trim text) = .ok style ∧
      styles = [model.styleAttribute style]

/-- The style attribute depends on the header of a model only. -/
theorem styleAttribute_congr {model other : Model} (same : model.header = other.header)
    (style : TypeName) : model.styleAttribute style = other.styleAttribute style := by
  unfold Model.styleAttribute
  rw [same]

theorem declaresStyle_congr {config : Config} {declaration : Declaration} {model other : Model}
    (same : model.header = other.header) {styles : List Attribute}
    (declares : DeclaresStyle config declaration model styles) :
    DeclaresStyle config declaration other styles := by
  unfold DeclaresStyle at *
  simp only [← styleAttribute_congr same]
  exact declares

section Style

variable {config : Config} {declaration : Declaration} {model : Model} {header : ModelHeader}

theorem collected_applyLayout {mine above : List Attribute}
    (collected : model.Collected header mine above) (mark : Annotation) :
    (applyLayout model mark).1.Collected header mine above := by
  unfold applyLayout
  split
  · exact collected
  · split <;> exact ⟨collected.header_eq, collected.groups_eq, collected.linked, collected.merged⟩

/-- Setting the style registers the style attribute. -/
theorem collected_setStyle {after : Model} (collected : model.Collected header [] [])
    {style : TypeName} (done : committed (model.setStyle style) = .ok after) :
    after.Collected header [model.styleAttribute style] [] := by
  obtain ⟨value, result⟩ := committed_eq_ok done
  unfold Model.setStyle at result
  split at result
  · cases result
  · next registered added =>
    cases result
    have single : committed (model.addAttributes [model.styleAttribute style]) = .ok registered := by
      rw [show model.addAttributes [model.styleAttribute style] = (.ok (), registered) from added]
      rfl
    have ungrouped : ∀ attr ∈ [model.styleAttribute style], attr.group? = none := by
      intro attr member
      rw [List.mem_singleton.mp member]
      rfl
    have holds := collected_addAttributes collected ungrouped single
    exact ⟨holds.header_eq, holds.groups_eq, holds.linked, holds.merged⟩

/-- The arguments of the model annotation register the style attribute, if there is one. -/
theorem collected_applyArguments {styled : Model} {warnings : List Diagnostic}
    (collected : model.Collected header [] [])
    (done : applyArguments config declaration model = .ok (styled, warnings)) :
    ∃ styles, DeclaresStyle config declaration styled styles ∧ styled.Collected header styles [] := by
  unfold applyArguments at done
  unfold DeclaresStyle styleText?
  split at done
  · next unmarked =>
    cases done
    rw [unmarked]
    exact ⟨[], rfl, collected⟩
  · next mark marked =>
    obtain ⟨after, applied, same⟩ := map_eq_ok_iff.mp done
    cases same
    rw [marked, Option.bind_some]
    have laidOut := collected_applyLayout collected mark
    unfold applyStyle at applied
    cases asked : mark.arg? "style" with
    | none =>
      rw [asked] at applied
      cases applied
      exact ⟨[], rfl, laidOut⟩
    | some text =>
      rw [asked] at applied
      cases read : TypeName.parse (Text.trim text) with
      | error cause =>
        simp only [read] at applied
        cases applied
      | ok style =>
        simp only [read] at applied
        have holds := collected_setStyle laidOut applied
        have same := laidOut.header_eq.trans holds.header_eq.symm
        rw [styleAttribute_congr same] at holds
        exact ⟨_, ⟨style, read, rfl⟩, holds⟩

end Style

/-! ### Groups -/

section Groups

variable {model after : Model} {mine above : List Attribute}

theorem addGroup_eq_ok {name : String} {keys : List AttributeKey}
    (done : committed (model.addGroup name keys) = .ok after) :
    ∃ group, model.resolveGroup name keys = .ok group ∧ after = model.linkGroup group := by
  obtain ⟨value, result⟩ := committed_eq_ok done
  unfold Model.addGroup at result
  split at result
  · cases result
  · next group resolved =>
    cases result
    exact ⟨group, resolved, rfl⟩

/-- What linking a resolved group keeps, for the groups so far, making groups keeps. -/
theorem addGroups_induction {motive : List (String × List AttributeKey) → Model → Prop}
    {groups : List (String × List AttributeKey)} (start : motive [] model)
    (step : ∀ front before group, motive front before →
      before.resolveGroup group.name group.members = .ok group →
        motive (front ++ [(group.name, group.members)]) (before.linkGroup group))
    (done : addGroups model groups = .ok after) : motive groups after := by
  refine foldlM_induction start (fun front (name, keys) _ before next holds made => ?_) done
  obtain ⟨group, resolved, rfl⟩ := addGroup_eq_ok made
  obtain ⟨rfl, rfl, _⟩ := Model.resolveGroup_parts resolved
  exact step front before group holds resolved

/-- Groups change neither the header nor the merged attributes. -/
theorem merged_addGroups {groups : List (String × List AttributeKey)}
    (merged : model.registry.Merged mine above) (done : addGroups model groups = .ok after) :
    after.header = model.header ∧ after.registry.Merged mine above := by
  refine addGroups_induction
    (motive := fun _ other => other.header = model.header ∧ other.registry.Merged mine above)
    ⟨rfl, merged⟩ (fun _ before group kept _ => ?_) done
  obtain ⟨sameHeader, holds⟩ := kept
  exact ⟨sameHeader, Registry.merged_regroup (Registry.merged_regroup holds _ _) _ _⟩

end Groups

/-! ### The attributes of a plan -/

namespace Plan

variable {catalog : Catalog} {config : Config} {declaration : Declaration}
  (plan : Plan catalog config declaration)

theorem own_ungrouped : ∀ attr ∈ plan.own.map (·.attr), attr.group? = none := by
  intro attr member
  obtain ⟨field, declared, rfl⟩ := List.mem_map.mp member
  exact ofDeclaration_ungrouped plan.own_eq field declared

theorem inherited_ungrouped : ∀ field ∈ plan.inherited, field.attr.group? = none := by
  refine inheritedFields_ungrouped (fun _ _ taken => ?_) _ _ _ plan.inherited_eq
  cases taken

/-- What the model of a plan has collected before the groups are made. -/
theorem collected : ∃ styles, DeclaresStyle config declaration plan.merged styles ∧
    plan.merged.Collected (.ofDeclaration catalog config declaration)
      (styles ++ plan.own.map (·.attr)) (plan.inherited.map (·.attr)) := by
  obtain ⟨styles, declares, styled⟩ :=
    collected_applyArguments (Model.collected_bare _ plan.methods) plan.styled_eq
  have registered := collected_addAttributes styled plan.own_ungrouped plan.registered_eq
  have merged := collected_addInherited registered plan.inherited_ungrouped plan.merged_eq
  have same := styled.header_eq.trans merged.header_eq.symm
  exact ⟨styles, declaresStyle_congr same declares, merged⟩

/-- The groups of a plan change neither the header nor the merged attributes. -/
theorem model_merged {mine above : List Attribute} (merged : plan.merged.registry.Merged mine above) :
    plan.model.header = plan.merged.header ∧ plan.model.registry.Merged mine above := by
  obtain ⟨sameHeader, grouped⟩ := merged_addGroups merged plan.grouped_eq
  obtain ⟨header, overloaded⟩ := merged_addGroups grouped plan.overloaded_eq
  exact ⟨header.trans sameHeader, overloaded⟩

theorem header_eq : plan.model.header = .ofDeclaration catalog config declaration := by
  obtain ⟨_, _, collected⟩ := plan.collected
  exact (plan.model_merged collected.merged).1.trans collected.header_eq

/-- **The attributes of a plan** are the style, the own attributes and the inherited ones, merged
nearest first. -/
theorem attributes_eq : ∃ styles, DeclaresStyle config declaration plan.model styles ∧
    plan.model.attributes.map Attribute.ungrouped =
      nearestFirst (styles ++ plan.own.map (·.attr)) (plan.inherited.map (·.attr)) := by
  obtain ⟨styles, declares, collected⟩ := plan.collected
  obtain ⟨header, merged⟩ := plan.model_merged collected.merged
  exact ⟨styles, declaresStyle_congr header.symm declares, merged.entries_eq⟩

end Plan

/-! ### The chain -/

section Chain

variable {catalog : Catalog} {config : Config}

/-- **Within the limit the inherited attributes are those of the whole chain** that a class in the
package sees, nearest class first. -/
theorem inheritedFields_of_chain {package : String} {declaration : Declaration}
    {above : List Declaration} (chain : catalog.Chain declaration above) {visited : List String}
    (within : visited.length + above.length ≤ hierarchyLimit)
    (fresh : ∀ parent ∈ above, parent.qualifiedName ∉ visited) :
    inheritedFields catalog config (fun _ => none) package visited declaration =
      (above.mapM (FieldAttribute.ofDeclaration catalog config)).map fun levels =>
        levels.flatMap (·.filter (isVisibleFrom package)) := by
  induction chain generalizing visited with
  | root ended =>
    rw [inheritedFields, ended]
    rfl
  | @step declaration parent above next chain ih =>
    obtain ⟨new, later⟩ := List.forall_mem_cons.mp fresh
    rw [List.length_cons] at within
    -- A chain comes to no class twice, so the visited classes do not cut it off.
    have others : ∀ other ∈ above, other.qualifiedName ∉ parent.qualifiedName :: visited := by
      intro other member seen
      rcases List.mem_cons.mp seen with same | old
      · exact chain.qualifiedName_ne (Catalog.get?_superDeclaration next) member same
      · exact later other member old
    rw [inheritedFields, next]
    dsimp only
    rw [if_pos ⟨by omega, new⟩, ih (by rw [List.length_cons]; omega) others, List.mapM_cons]
    cases FieldAttribute.ofDeclaration catalog config parent with
    | error error => rfl
    | ok own =>
      cases above.mapM (FieldAttribute.ofDeclaration catalog config) with
      | error error => rfl
      | ok levels => rfl

end Chain

/-! ### Batches -/

section Batch

variable {planner : Planner} {targets : List TypeName} {target : TypeName} {declaration : Declaration}
  {model : Model}

/-- The model that a batch has for a target has a plan from the declaration of the target. -/
theorem exists_plan_of_origin (resolved : planner.catalog.resolve target = some declaration)
    (planned : model ∈ (planner.process targets).1.models) (origin : model.header.origin = target.name) :
    ∃ plan : Plan planner.catalog planner.config declaration, plan.model = model := by
  obtain ⟨_, _, other, otherResolved, plan, rfl⟩ := exists_plan planned
  have there := (Catalog.resolve_eq_some otherResolved).2
  obtain ⟨named, found⟩ := Catalog.resolve_eq_some resolved
  have same : other.qualifiedName = declaration.qualifiedName := by
    rw [plan.header_eq] at origin
    exact origin.trans named.symm
  rw [same, found] at there
  cases there
  exact ⟨plan, rfl⟩

/-- **Attributes are inherited nearest first.** If a batch has a model for a target whose chain is within
the limit, its attributes, their groups aside, are the style that the annotation of the target asks for,
the attributes of the target's own fields and those of the classes of its chain that it sees, merged
nearest first; whatever the other targets are, and whatever the planner has processed before. -/
theorem attributes_nearest_first (resolved : planner.catalog.resolve target = some declaration)
    {above : List Declaration} (chain : planner.catalog.Chain declaration above)
    (within : above.length ≤ hierarchyLimit) (planned : model ∈ (planner.process targets).1.models)
    (origin : model.header.origin = target.name) :
    ∃ styles own levels, DeclaresStyle planner.config declaration model styles ∧
      FieldAttribute.ofDeclaration planner.catalog planner.config declaration = .ok own ∧
      above.mapM (FieldAttribute.ofDeclaration planner.catalog planner.config) = .ok levels ∧
      model.attributes.map Attribute.ungrouped =
        nearestFirst (styles ++ own.map (·.attr))
          ((levels.flatMap (·.filter (isVisibleFrom declaration.package))).map (·.attr)) := by
  obtain ⟨plan, rfl⟩ := exists_plan_of_origin resolved planned origin
  obtain ⟨styles, declares, merged⟩ := plan.attributes_eq
  have climbed := plan.inherited_eq
  rw [inheritedFields_of_chain chain (by simpa using within) (fun _ _ => List.not_mem_nil)] at climbed
  obtain ⟨levels, read, inherited⟩ := map_eq_ok_iff.mp climbed
  rw [← inherited] at merged
  exact ⟨styles, plan.own, levels, declares, plan.own_eq, read, merged⟩

end Batch

/-- A field of a type whose attribute annotation has some arguments. -/
def attributeField (name type : String) (modifiers : List Modifier) (args : List (String × String)) :
    Member :=
  { name
    kind := .field (.raw type)
    modifiers := .ofList modifiers
    annotations := [⟨"ModelAttribute", args⟩]
    params := []
    varargs := false }

/-- A card with a style and a title, below a class of another package. -/
def styledCard : Declaration :=
  { Declaration.bare .classKind "app.Card" with
    superType? := some (.raw "lib.Base")
    annotations := [⟨"ModelClass", [("style", "app.Style")]⟩]
    members := [attributeField "title" "String" [] [("required", "true")]] }

/-- A class with a field for its package only, a title and a subtitle. -/
def titledBase : Declaration :=
  { Declaration.bare .classKind "lib.Base" with
    members := [attributeField "hidden" "String" [] [],
      attributeField "title" "String" [.publicAccess] [],
      attributeField "subtitle" "String" [.publicAccess] []] }

def layered : Catalog where
  entries := [styledCard, titledBase]
  distinct := by decide

/-- The card has its style, its own title, which is required, and the subtitle from above. -/
theorem attributes_nearest_first_card :
    ∃ model ∈ ((start layered {}).process [.raw "app.Card", .raw "lib.Base"]).1.models,
      (model.attributes.map fun attr => (attr.name, attr.required)) =
        [("style", false), ("title", true), ("subtitle", false)] ∧
      ∃ styles own levels,
        FieldAttribute.ofDeclaration layered {} styledCard = .ok own ∧
        FieldAttribute.ofDeclaration layered {} titledBase = .ok levels ∧
        styles.map (·.name) = ["style"] ∧
        model.attributes.map Attribute.ungrouped =
          nearestFirst (styles ++ own.map (·.attr))
            ((levels.filter (isVisibleFrom "app")).map (·.attr)) := by
  have built : ∃ model ∈ ((start layered {}).process [.raw "app.Card", .raw "lib.Base"]).1.models,
      model.header.origin = (TypeName.raw "app.Card").name ∧
      (model.attributes.map fun attr => (attr.name, attr.required)) =
        [("style", false), ("title", true), ("subtitle", false)] := by decide +kernel
  obtain ⟨model, planned, origin, listed⟩ := built
  have resolved : layered.resolve (.raw "app.Card") = some styledCard := rfl
  have chain : layered.Chain styledCard [titledBase] := .step rfl (.root rfl)
  obtain ⟨styles, own, levels, ⟨style, _, rfl⟩, ownRead, levelsRead, merged⟩ :=
    attributes_nearest_first resolved chain (by decide) planned origin
  rw [List.mapM_cons] at levelsRead
  obtain ⟨level, levelRead, rest⟩ := bind_eq_ok_iff.mp levelsRead
  cases rest
  refine ⟨model, planned, listed, [model.styleAttribute style], own, level, ownRead, levelRead, rfl, ?_⟩
  have single : [level].flatMap (·.filter (isVisibleFrom "app")) = level.filter (isVisibleFrom "app") :=
    List.flatMap_singleton _ _
  rw [← single]
  exact merged

end Planner

end ModelPlanner
