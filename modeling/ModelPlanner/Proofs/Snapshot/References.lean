/-
**References in snapshots.**

In a snapshot the keys of attributes are texts, by which groups refer to their members and to their default.
A key is legible if its name is an identifier and its type was read from a text.

* `Legible.eq_of_text_eq`: legible keys of one text are the same, since no identifier has a colon in it and
  types that were read have different texts;
* `legible_run`: a history that brings types read from texts registers legible keys only, since a name that
  is no identifier is refused;
* `default_mem`: in every reachable model the default of a group is one of its members;
* `references_unambiguous`: hence a reference in a snapshot is the text of one attribute, and of one in the
  group that has the reference.
-/

import Mathlib.Data.List.Nodup
import ModelPlanner.Proofs.Model.Refusals
import ModelPlanner.Proofs.Model.Resolution
import ModelPlanner.Proofs.TypeName.RoundTrip
import ModelPlanner.Snapshot

namespace ModelPlanner

/-! ### Texts of keys -/

/-- The type was read from some text. -/
def TypeName.Parsed (type : TypeName) : Prop := ∃ input, TypeName.parse input = .ok type

/-- Exactly the well-formed types can be read. -/
theorem TypeName.parsed_iff {type : TypeName} : type.Parsed ↔ type.WellFormed :=
  ⟨fun ⟨_, accepted⟩ => wellFormed_of_parse accepted,
    fun formed => ⟨type.text, parse_text_of_wellFormed formed⟩⟩

/-- Types that were read have one text only if they are the same. -/
theorem TypeName.Parsed.eq_of_text_eq {first second : TypeName} (one : first.Parsed)
    (other : second.Parsed) (same : first.text = second.text) : first = second := by
  have again := parse_text_of_wellFormed (parsed_iff.mp one)
  rw [same, parse_text_of_wellFormed (parsed_iff.mp other)] at again
  cases again
  rfl

/-- No identifier has a colon in it. -/
theorem Text.colon_notMem_of_isIdentifier {name : String} (identifier : Text.isIdentifier name = true) :
    ':' ∉ name.toList := by
  have noStart : (isIdentifierStart ':' || ':' == '_' || ':' == '$') = false := by decide +kernel
  have noPart : (isIdentifierPart ':' || ':' == '$') = false := by decide +kernel
  unfold isIdentifier at identifier
  intro colon
  cases letters : name.toList with
  | nil => simp [letters] at colon
  | cons first rest =>
    rw [letters, isIdentifierList, Bool.and_eq_true, List.all_eq_true] at identifier
    rw [letters] at colon
    rcases List.mem_cons.mp colon with rfl | later
    · exact Bool.false_ne_true (noStart.symm.trans identifier.1)
    · exact Bool.false_ne_true (noPart.symm.trans (identifier.2 ':' later))

namespace AttributeKey

/-- The name of the key is an identifier, and its type was read from some text. -/
structure Legible (key : AttributeKey) : Prop where
  identifier : Text.isIdentifier key.name = true
  parsed : key.type.Parsed

theorem toList_text (key : AttributeKey) :
    key.text.toList = key.name.toList ++ ':' :: ' ' :: key.type.text.toList := by
  simp [text]

/-- **Legible keys have one text only if they are the same.** -/
theorem Legible.eq_of_text_eq {first second : AttributeKey} (one : first.Legible) (other : second.Legible)
    (same : first.text = second.text) : first = second := by
  have name_eq {key : AttributeKey} (legible : key.Legible) :
      key.text.toList.takeWhile (· ≠ ':') = key.name.toList := by
    have plain : ∀ c ∈ key.name.toList, decide (c ≠ ':') = true := by
      intro c member
      refine decide_eq_true fun colon => ?_
      exact Text.colon_notMem_of_isIdentifier legible.identifier (colon ▸ member)
    rw [toList_text, List.takeWhile_append_of_pos plain]
    simp
  have names : first.name.toList = second.name.toList := by rw [← name_eq one, same, name_eq other]
  have letters := congrArg String.toList same
  rw [toList_text, toList_text, names, List.append_cancel_left_eq] at letters
  have types : first.type.text.toList = second.type.text.toList := by simpa using letters
  have sameName : first.name = second.name := String.toList_inj.mp names
  have sameType : first.type = second.type :=
    one.parsed.eq_of_text_eq other.parsed (String.toList_inj.mp types)
  cases first
  cases second
  cases sameName
  cases sameType
  rfl

end AttributeKey

/-! ### Registered keys -/

namespace Registry

variable {registry : Registry} {key : AttributeKey}

/-- All registered keys are legible. -/
def AllLegible (registry : Registry) : Prop := ∀ key ∈ registry.attributes.keys, key.Legible

@[simp]
theorem mem_keys_foldl_insert {attrs : List Attribute} :
    key ∈ (attrs.foldl insert registry).attributes.keys ↔
      key ∈ registry.attributes.keys ∨ ∃ attr ∈ attrs, attr.key = key := by
  induction attrs generalizing registry with
  | nil => simp
  | cons attr attrs ih =>
    simp [ih, eq_comm (a := key), or_assoc, or_left_comm]

/-- An edit adds keys of supported attributes only. -/
theorem mem_keys_edit {edit : Edit} (there : key ∈ (registry.edit edit).2.attributes.keys) :
    key ∈ registry.attributes.keys ∨ ∃ attr ∈ edit.incoming, attr.Supported ∧ attr.key = key := by
  by_cases known : key ∈ registry.attributes.keys
  · exact Or.inl known
  · rcases edit_cases registry edit with same | ⟨accepted, inserted⟩
    · exact absurd (same ▸ there) known
    · rw [inserted, mem_keys_foldl_insert] at there
      obtain ⟨attr, brought, same⟩ := there.resolve_left known
      refine Or.inr ⟨attr, brought, ?_, same⟩
      -- an attribute that is not supported would have been refused, as its key is new
      by_contra unsupported
      have refused : ∃ error, (registry.edit edit).1 = .error error := by
        cases edit with
        | add other => exact addAll_refused_iff.mpr ⟨attr, brought, unsupported⟩
        | addAll others => exact addAll_refused_iff.mpr ⟨attr, brought, unsupported⟩
        | addIfAbsent other =>
          cases List.mem_singleton.mp brought
          have fresh : registry.get? attr.key = none := by simpa [same] using known
          exact map_refused_iff.mpr (addIfAbsent_refused_iff.mpr ⟨fresh, unsupported⟩)
      rw [accepted] at refused
      exact not_refused () refused

/-- An edit that brings types read from texts keeps all keys legible. -/
theorem legible_edit {edit : Edit} (legible : registry.AllLegible)
    (parsed : ∀ attr ∈ edit.incoming, attr.type.Parsed) : (registry.edit edit).2.AllLegible := by
  intro key there
  rcases mem_keys_edit there with known | ⟨attr, brought, supported, rfl⟩
  · exact legible key known
  · exact ⟨supported.1, parsed attr brought⟩

end Registry

/-! ### Histories -/

/-- The default of a resolved group is one of its members. -/
theorem Group.default_mem {name : String} {members : List Attribute} {group : Group}
    (resolved : resolve name members = .ok group) :
    ∀ key, group.default? = some key → key ∈ group.members := by
  cases resolve_eq_iff.mp resolved with
  | elected _ first _ =>
    rintro key ⟨⟩
    exact List.mem_map_of_mem first.mem
  | required => exact fun key elected => nomatch elected

namespace Model

/-- The edit brings attributes of types that were read from texts. -/
def Edit.BringsParsed : Edit → Prop
  | .addAttribute attr => attr.type.Parsed
  | .addAttributes attrs => ∀ attr ∈ attrs, attr.type.Parsed
  | .addIfAbsent attr => attr.type.Parsed
  | .addGroup _ _ => True
  | .setStyle style => style.Parsed
  | .setAutoLayout _ => True

/-- An edit that brings types read from texts keeps all keys legible. -/
theorem legible_edit {model : Model} {edit : Edit} (legible : model.registry.AllLegible)
    (parsed : edit.BringsParsed) : (model.edit edit).2.registry.AllLegible := by
  have one {attr : Attribute} (parsed : attr.type.Parsed) : ∀ other ∈ [attr], other.type.Parsed :=
    fun other member => List.mem_singleton.mp member ▸ parsed
  cases edit with
  | addAttribute attr =>
    show (model.registry.edit (.add attr)).2.AllLegible
    exact Registry.legible_edit legible (one parsed)
  | addAttributes attrs =>
    show (model.registry.edit (.addAll attrs)).2.AllLegible
    exact Registry.legible_edit legible parsed
  | addIfAbsent attr =>
    show (model.registry.edit (.addIfAbsent attr)).2.AllLegible
    exact Registry.legible_edit legible (one parsed)
  | addGroup name keys =>
    show (model.addGroup name keys).2.registry.AllLegible
    unfold addGroup
    cases model.resolveGroup name keys with
    | error error => exact legible
    | ok group =>
      intro key there
      exact legible key (by simpa using there)
  | setStyle style =>
    show (model.setStyle style).2.registry.AllLegible
    rw [(setStyle_parts model style).1]
    exact Registry.legible_edit legible (one parsed)
  | setAutoLayout => exact legible

/-- **A history that brings types read from texts registers legible keys only.** -/
theorem legible_run {model : Model} {edits : List Edit} (legible : model.registry.AllLegible)
    (parsed : ∀ edit ∈ edits, edit.BringsParsed) : (model.run edits).registry.AllLegible := by
  induction edits generalizing model with
  | nil => exact legible
  | cons edit edits ih =>
    obtain ⟨first, rest⟩ := List.forall_mem_cons.mp parsed
    exact ih (legible_edit legible first) rest

/-- **The default of a group is one of its members, in every reachable model.** -/
theorem Reachable.default_mem {model : Model} (reachable : model.Reachable) :
    ∀ group ∈ model.groups.entries, ∀ key, group.default? = some key → key ∈ group.members := by
  refine reachable.induction
    (motive := fun _ groups => ∀ group ∈ groups.entries, ∀ key, group.default? = some key →
      key ∈ group.members)
    (fun _ _ member => nomatch member) (fun _ _ _ _ kept => kept) ?_
  intro model name keys made resolved kept group grouped
  rcases Keyed.mem_put.mp grouped with rfl | ⟨old, _⟩
  · rw [resolveGroup_eq] at resolved
    obtain ⟨members, _, resolved⟩ := bind_eq_ok_iff.mp resolved
    exact Group.default_mem resolved
  · exact kept group old

end Model

/-! ### Snapshots -/

/-- Of entries with different texts exactly one has the text of a given one. -/
theorem filter_text_eq {α : Type} {text : α → String} {entries : List α} {entry : α}
    (distinct : (entries.map text).Nodup) (member : entry ∈ entries) :
    entries.filter (text · = text entry) = [entry] := by
  induction entries with
  | nil => cases member
  | cons first rest ih =>
    obtain ⟨alone, distinct⟩ := List.nodup_cons.mp distinct
    have differ : ∀ other ∈ rest, text other ≠ text first := by
      intro other later same
      exact alone (same ▸ List.mem_map_of_mem later)
    rcases List.mem_cons.mp member with rfl | later
    · have others : rest.filter (text · = text entry) = [] := by
        simpa [List.filter_eq_nil_iff] using differ
      simp [others]
    · have skipped : ¬ text first = text entry := fun same => differ entry later same.symm
      simp [skipped, ih distinct later]

/-- How groups refer to the attribute. -/
def AttributeSnapshot.reference (entry : AttributeSnapshot) : String := entry.name ++ ": " ++ entry.type

/-- Groups refer to an attribute by the text of its key. -/
@[simp]
theorem AttributeSnapshot.reference_ofAttribute (attr : Attribute) :
    (ofAttribute attr).reference = attr.key.text := rfl

namespace ModelSnapshot

/-- Exactly one attribute has the reference, and it is in the group of the name. -/
def RefersInto (snapshot : ModelSnapshot) (name reference : String) : Prop :=
  ∃ entry, snapshot.attributes.filter (·.reference = reference) = [entry] ∧ entry.group? = some name

/-- Exactly one group has the name, and it lists the reference. -/
def ListedIn (snapshot : ModelSnapshot) (name reference : String) : Prop :=
  ∃ group, snapshot.groups.filter (·.name = name) = [group] ∧ reference ∈ group.members

variable {model : Model}

/-- Different attributes have different references, if all keys are legible. -/
theorem nodup_references (legible : model.registry.AllLegible) :
    ((ofModel model).attributes.map (·.reference)).Nodup := by
  have references : (ofModel model).attributes.map (·.reference) =
      model.registry.attributes.keys.map AttributeKey.text := by
    unfold Keyed.keys
    show (model.attributes.map AttributeSnapshot.ofAttribute).map (·.reference) = _
    rw [List.map_map, List.map_map]
    rfl
  rw [references]
  refine List.Nodup.map_on (fun first there second also same => ?_) model.registry.attributes.distinct
  exact (legible first there).eq_of_text_eq (legible second also) same

/-- Different groups have different names. -/
theorem nodup_names : ((ofModel model).groups.map (·.name)).Nodup := by
  have names : (ofModel model).groups.map (·.name) = model.groups.keys := by
    unfold Keyed.keys
    show (model.groups.entries.map GroupSnapshot.ofGroup).map (·.name) = _
    rw [List.map_map]
    rfl
  rw [names]
  exact model.groups.distinct

section Linked

variable (linked : Model.Linked model.registry model.groups)
include linked

/-- A member of a group is the reference of one attribute, and of one in the group. -/
theorem refersInto_of_mem (legible : model.registry.AllLegible) {group : Group}
    (grouped : group ∈ model.groups.entries) {key : AttributeKey} (member : key ∈ group.members) :
    (ofModel model).RefersInto group.name key.text := by
  obtain ⟨attr, there, rfl⟩ := Model.exists_of_mem_group linked grouped member
  have entry : AttributeSnapshot.ofAttribute attr ∈ (ofModel model).attributes :=
    List.mem_map_of_mem there
  rw [← AttributeSnapshot.reference_ofAttribute]
  refine ⟨_, filter_text_eq (nodup_references legible) entry, ?_⟩
  exact (Model.group?_iff linked there group.name).mpr ⟨group, grouped, rfl, member⟩

/-- An attribute in a group is listed in the one of its name. -/
theorem listedIn_of_group? {entry : AttributeSnapshot} (there : entry ∈ (ofModel model).attributes)
    {name : String} (named : entry.group? = some name) :
    (ofModel model).ListedIn name entry.reference := by
  obtain ⟨attr, registered, rfl⟩ := List.mem_map.mp there
  obtain ⟨group, grouped, rfl, member⟩ := (Model.group?_iff linked registered name).mp named
  have listed : GroupSnapshot.ofGroup group ∈ (ofModel model).groups := List.mem_map_of_mem grouped
  exact ⟨_, filter_text_eq nodup_names listed, List.mem_map_of_mem member⟩

end Linked

/-- **References in snapshots are unambiguous.** Let a history bring built attributes of types that were
read from texts. In the snapshot of its model every member of a group is the reference of exactly one
attribute, which names this group; the default of a group is one of its members; and an attribute that
names a group is listed in it, which is the only group of that name. -/
theorem references_unambiguous (header : ModelHeader) (methods : List Method) {edits : List Model.Edit}
    (built : ∀ edit ∈ edits, edit.BringsBuilt) (parsed : ∀ edit ∈ edits, edit.BringsParsed) :
    let snapshot := ofModel ((Model.bare header methods).run edits)
    (∀ group ∈ snapshot.groups, ∀ reference ∈ group.members,
        snapshot.RefersInto group.name reference) ∧
      (∀ group ∈ snapshot.groups, ∀ reference, group.defaultAttribute? = some reference →
        reference ∈ group.members ∧ snapshot.RefersInto group.name reference) ∧
      ∀ entry ∈ snapshot.attributes, ∀ name, entry.group? = some name →
        snapshot.ListedIn name entry.reference := by
  have reachable := Model.Reachable.run (.bare header methods) edits built
  have empty : (Model.bare header methods).registry.AllLegible := fun _ there => nomatch there
  have legible := Model.legible_run empty parsed
  refine ⟨?_, ?_, fun entry there name => listedIn_of_group? reachable.linked there⟩
  · intro written listed reference inside
    obtain ⟨group, grouped, rfl⟩ := List.mem_map.mp listed
    obtain ⟨key, member, rfl⟩ := List.mem_map.mp inside
    exact refersInto_of_mem reachable.linked legible grouped member
  · intro written listed reference stated
    obtain ⟨group, grouped, rfl⟩ := List.mem_map.mp listed
    obtain ⟨key, elected, rfl⟩ := Option.map_eq_some_iff.mp stated
    have member := reachable.default_mem group grouped key elected
    exact ⟨List.mem_map_of_mem member, refersInto_of_mem reachable.linked legible grouped member⟩

/-- The group of the card is written with two references, the first of which is its default, too. -/
theorem references_unambiguous_click :
    let snapshot := ofModel ((Model.bare Model.cardHeader []).run Model.clickEdits)
    let click : GroupSnapshot :=
      ⟨"click", ["onClick: Listener", "clickable: boolean"], some "onClick: Listener", false⟩
    snapshot.groups = [click] ∧ ∀ reference ∈ click.members,
      snapshot.RefersInto "click" reference ∧ snapshot.ListedIn "click" reference := by
  intro snapshot click
  have listener : (TypeName.raw "Listener").Parsed :=
    TypeName.parsed_iff.mpr ⟨⟨"Listener".toList, [], by decide, rfl⟩, trivial⟩
  have boolean : (TypeName.raw "boolean").Parsed :=
    TypeName.parsed_iff.mpr ⟨⟨"boolean".toList, [], by decide, rfl⟩, trivial⟩
  have parsed : ∀ edit ∈ Model.clickEdits, edit.BringsParsed := by
    simp only [Model.clickEdits, Model.Edit.BringsParsed, List.forall_mem_cons, List.not_mem_nil,
      false_implies, implies_true, and_true, true_and]
    exact ⟨⟨listener, boolean⟩, boolean, listener⟩
  obtain ⟨members, _, entries⟩ :=
    references_unambiguous Model.cardHeader [] (by decide) parsed
  have groups : snapshot.groups = [click] := by decide +kernel
  have grouped : click ∈ snapshot.groups := groups ▸ List.mem_singleton_self click
  have listed : ∀ reference ∈ click.members, ∃ entry ∈ snapshot.attributes,
      entry.group? = some "click" ∧ entry.reference = reference := by decide +kernel
  refine ⟨groups, fun reference member => ⟨members click grouped reference member, ?_⟩⟩
  obtain ⟨entry, there, named, rfl⟩ := listed reference member
  exact entries entry there "click" named

end ModelSnapshot

end ModelPlanner
