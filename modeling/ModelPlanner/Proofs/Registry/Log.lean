/-
**The log of a registry.**

The log of a history lists the attributes that were registered, in the order of their registration, and
marks those that replace what their key had before. A registry is what its log says:

* its keys are the keys of the log, in the order in which they come first;
* under a key it has the last replacement after the first registration of the key, or else the first
  registration: `latest?`.

`logged_insert` is the step of one attribute, `logged_edit` that of an edit, `run_logged` that of a history;
`run_as_logged` adds which edits register what they bring, and when a batch is its attributes one by one.
-/

import ModelPlanner.Proofs.Model.Edits
import ModelPlanner.Proofs.Outcome
import ModelPlanner.Proofs.Registry.Merge

namespace ModelPlanner.Registry

/-- An attribute that was registered; `replaces` tells whether it takes the place of the attribute that
its key had before, or has come in for want of one. -/
structure Registration where
  attr : Attribute
  replaces : Bool
deriving DecidableEq

/-! ### What a log says -/

/-- The attribute that a log leaves under a key: the last replacement after the first registration of the
key, or the first registration if there is none. -/
def latest? (log : List Registration) (key : AttributeKey) : Option Attribute :=
  match log.filter (·.attr.key = key) with
  | [] => none
  | first :: later => some ((later.filter (·.replaces)).getLast?.getD first).attr

section Latest

variable {log : List Registration} {entry : Registration} {key : AttributeKey}

/-- A further registration of another key changes nothing. -/
theorem latest?_concat_of_ne (other : key ≠ entry.attr.key) :
    latest? (log ++ [entry]) key = latest? log key := by
  unfold latest?
  rw [List.filter_append, List.filter_cons_of_neg (by simpa using Ne.symm other), List.filter_nil,
    List.append_nil]

/-- A further registration gives its key its attribute, if it replaces or is the first of the key. -/
theorem latest?_concat_self (allowed : entry.replaces = true ∨ latest? log entry.attr.key = none) :
    latest? (log ++ [entry]) entry.attr.key = some entry.attr := by
  unfold latest? at allowed ⊢
  rw [List.filter_append, List.filter_cons_of_pos (by simp), List.filter_nil]
  cases listed : log.filter (·.attr.key = entry.attr.key) with
  | nil => rfl
  | cons first later =>
    rw [listed] at allowed
    have replaces : entry.replaces = true := allowed.resolve_right (Option.some_ne_none _)
    show some (((later ++ [entry]).filter (·.replaces)).getLast?.getD first).attr = some entry.attr
    rw [List.filter_append, List.filter_cons_of_pos replaces, List.filter_nil, List.getLast?_concat,
      Option.getD_some]

end Latest

/-! ### The registry as its log -/

/-- The registry is what a log says, and has no attribute in a group. -/
structure Logged (registry : Registry) (log : List Registration) : Prop where
  keys_eq : registry.attributes.keys = (log.map (·.attr.key)).eraseDups
  data_eq : ∀ key, registry.get? key = latest? log key
  ungrouped : ∀ key attr, registry.get? key = some attr → attr.group? = none

theorem logged_ofMethods (methods : List Method) : Logged (ofMethods methods) [] :=
  ⟨rfl, fun _ => rfl, fun _ _ found => nomatch found⟩

/-! ### The log of a history -/

/-- What an edit registers: all it brings if it is accepted, except that `addIfAbsent` may find the key
there. -/
def registrations (registry : Registry) : Edit → List Registration
  | .add attr =>
    match (registry.add attr).1 with
    | .ok () => [⟨attr, true⟩]
    | .error _ => []
  | .addAll attrs =>
    match (registry.addAll attrs).1 with
    | .ok () => attrs.map (⟨·, true⟩)
    | .error _ => []
  | .addIfAbsent attr =>
    match (registry.addIfAbsent attr).1 with
    | .ok true => [⟨attr, false⟩]
    | .ok false | .error _ => []

/-- The log of a history. -/
def log (registry : Registry) : List Edit → List Registration
  | [] => []
  | edit :: edits => registry.registrations edit ++ (registry.edit edit).2.log edits

/-! ### One attribute, one edit, a history -/

section Steps

variable {registry : Registry} {log : List Registration} (logged : Logged registry log)
include logged

/-- An attribute comes in that replaces, or whose key is new. -/
theorem logged_insert (entry : Registration) (plain : entry.attr.group? = none)
    (allowed : entry.replaces = true ∨ registry.get? entry.attr.key = none) :
    Logged (registry.insert entry.attr) (log ++ [entry]) := by
  have same : registry.keepGroup entry.attr = entry.attr := by
    unfold keepGroup
    split
    · next known found => rw [logged.ungrouped _ known found, ← plain]
    · rfl
  have found : ∀ key, (registry.insert entry.attr).get? key =
      if key = entry.attr.key then some entry.attr else registry.get? key := by
    simp [same]
  refine ⟨?_, fun key => ?_, fun key attr there => ?_⟩
  · simp [keys_insert, eraseDups_concat, logged.keys_eq]
  · rw [found]
    split
    · next here => rw [here, latest?_concat_self (logged.data_eq _ ▸ allowed)]
    · next other => rw [latest?_concat_of_ne other, logged.data_eq]
  · rw [found] at there
    split at there
    · cases there
      exact plain
    · exact logged.ungrouped key attr there

/-- Attributes come in that replace. -/
theorem logged_foldl {attrs : List Attribute} (plain : ∀ attr ∈ attrs, attr.group? = none) :
    Logged (attrs.foldl insert registry) (log ++ attrs.map (⟨·, true⟩)) := by
  induction attrs generalizing registry log with
  | nil =>
    rw [List.map_nil, List.append_nil]
    exact logged
  | cons attr attrs ih =>
    obtain ⟨first, others⟩ := List.forall_mem_cons.mp plain
    rw [List.foldl_cons, List.map_cons, List.append_cons]
    exact ih (logged_insert logged ⟨attr, true⟩ first (Or.inl rfl)) others

/-- An edit registers what the log says. -/
theorem logged_edit {edit : Edit} (plain : ∀ attr ∈ edit.incoming, attr.group? = none) :
    Logged (registry.edit edit).2 (log ++ registry.registrations edit) := by
  have batch : ∀ attrs : List Attribute, (∀ attr ∈ attrs, attr.group? = none) →
      Logged (registry.addAll attrs).2 (log ++
        match (registry.addAll attrs).1 with
        | .ok () => attrs.map (⟨·, true⟩)
        | .error _ => []) := by
    intro attrs plain
    rcases addAll_cases registry attrs with ⟨error, refused⟩ | accepted
    · rw [refused]
      simpa using logged
    · rw [accepted]
      exact logged_foldl logged plain
  cases edit with
  | add attr => exact batch [attr] plain
  | addAll attrs => exact batch attrs plain
  | addIfAbsent attr =>
    simp only [Registry.edit, registrations]
    rcases addIfAbsent_cases registry attr with known | ⟨error, refused⟩ | ⟨fresh, accepted⟩
    · rw [known]
      simpa using logged
    · rw [refused]
      simpa using logged
    · rw [accepted]
      exact logged_insert logged ⟨attr, false⟩ (plain attr List.mem_cons_self) (Or.inr fresh)

/-- A history registers what its log says. -/
theorem run_logged {edits : List Edit}
    (plain : ∀ edit ∈ edits, ∀ attr ∈ edit.incoming, attr.group? = none) :
    Logged (registry.run edits) (log ++ registry.log edits) := by
  induction edits generalizing registry log with
  | nil =>
    show Logged registry (log ++ [])
    rw [List.append_nil]
    exact logged
  | cons edit edits ih =>
    obtain ⟨first, others⟩ := List.forall_mem_cons.mp plain
    show Logged ((registry.edit edit).2.run edits)
      (log ++ (registry.registrations edit ++ (registry.edit edit).2.log edits))
    rw [← List.append_assoc]
    exact ih (logged_edit logged first) others

end Steps

/-! ### Which edits register -/

/-- A batch with an invalid attribute is refused and changes nothing. -/
theorem addAll_of_invalid (registry : Registry) {attrs : List Attribute}
    (invalid : ∃ attr ∈ attrs, ∃ error, attr.validate = .error error) :
    ∃ error, registry.addAll attrs = (.error error, registry) := by
  obtain ⟨error, refused⟩ := forM_refused_iff.mpr invalid
  rcases addAll_cases registry attrs with stopped | accepted
  · exact stopped
  · have outcome := addAll_outcome registry attrs
    rw [refused, accepted] at outcome
    cases outcome

/-- A batch of valid attributes is accepted. -/
theorem addAll_of_valid (registry : Registry) {attrs : List Attribute}
    (valid : ∀ attr ∈ attrs, attr.validate = .ok ()) :
    registry.addAll attrs = (.ok (), attrs.foldl insert registry) := by
  rcases addAll_cases registry attrs with ⟨error, refused⟩ | accepted
  · have outcome := addAll_outcome registry attrs
    rw [refused] at outcome
    obtain ⟨attr, member, error, invalid⟩ := forM_refused_iff.mp ⟨error, outcome.symm⟩
    rw [valid attr member] at invalid
    cases invalid
  · exact accepted

/-- Valid attributes are all inserted one by one. -/
theorem run_adds (registry : Registry) {attrs : List Attribute}
    (valid : ∀ attr ∈ attrs, attr.validate = .ok ()) :
    registry.run (attrs.map .add) = attrs.foldl insert registry := by
  induction attrs generalizing registry with
  | nil => rfl
  | cons attr attrs ih =>
    obtain ⟨first, others⟩ := List.forall_mem_cons.mp valid
    show (registry.addAll [attr]).2.run (attrs.map .add) = _
    rw [addAll_of_valid registry (List.forall_mem_singleton.mpr first)]
    exact ih (registry.insert attr) others

/-- `addIfAbsent` tells whether it added the key. -/
theorem addIfAbsent_added_iff (registry : Registry) (attr : Attribute) :
    (registry.addIfAbsent attr).1 = .ok true ↔ attr.key ∉ registry.attributes.keys ∧
      attr.key ∈ (registry.addIfAbsent attr).2.attributes.keys := by
  rcases addIfAbsent_cases registry attr with known | ⟨error, refused⟩ | ⟨fresh, accepted⟩
  · simp [known]
  · simp [refused]
  · simpa [accepted] using fresh

/-- `addIfAbsent` of a key that is there does nothing, whatever the attribute. -/
theorem addIfAbsent_of_known {registry : Registry} {attr : Attribute}
    (known : attr.key ∈ registry.attributes.keys) :
    registry.addIfAbsent attr = (.ok false, registry) :=
  if_pos (Keyed.contains_iff.mpr known)

/-- **A registry is an insertion-ordered map with replacement in place.** After every history of built
attributes, its keys are different and in the order of their first registration; every attribute is under
its own key, and under a key is what the log says: the last accepted replacement after the first
registration of the key, or else the first registration. `addIfAbsent` tells whether it added the key, and
does nothing if the key is there, valid attribute or not. A batch with an invalid attribute changes
nothing, and one of valid attributes does what they do one by one. -/
theorem run_as_logged (methods : List Method) (edits : List Edit)
    (built : ∀ edit ∈ edits, ∀ attr ∈ edit.incoming, attr.Built) :
    let registry := (ofMethods methods).run edits
    let log := (ofMethods methods).log edits
    (registry.attributes.keys.Nodup ∧ registry.attributes.keys = (log.map (·.attr.key)).eraseDups) ∧
      (∀ attr ∈ registry.attributes.entries, registry.get? attr.key = some attr) ∧
      (∀ key, registry.get? key = latest? log key) ∧
      (∀ attr, ((registry.addIfAbsent attr).1 = .ok true ↔ attr.key ∉ registry.attributes.keys ∧
          attr.key ∈ (registry.addIfAbsent attr).2.attributes.keys) ∧
        (attr.key ∈ registry.attributes.keys → registry.addIfAbsent attr = (.ok false, registry))) ∧
      (∀ attrs, (∃ attr ∈ attrs, ∃ error, attr.validate = .error error) →
        ∃ error, registry.addAll attrs = (.error error, registry)) ∧
      ∀ attrs, (∀ attr ∈ attrs, attr.validate = .ok ()) →
        registry.addAll attrs = (.ok (), registry.run (attrs.map .add)) := by
  intro registry log
  have plain : ∀ edit ∈ edits, ∀ attr ∈ edit.incoming, attr.group? = none :=
    fun edit listed attr member => (built edit listed attr member).group?_eq_none
  have logged : Logged registry log := run_logged (logged_ofMethods methods) plain
  refine ⟨⟨registry.attributes.distinct, logged.keys_eq⟩, fun attr member => Keyed.get?_of_mem member,
    logged.data_eq, fun attr => ⟨addIfAbsent_added_iff registry attr, addIfAbsent_of_known⟩,
    fun attrs => addAll_of_invalid registry, fun attrs valid => ?_⟩
  rw [addAll_of_valid registry valid, run_adds registry valid]

/-- A title comes twice in one batch, is offered again in vain, and is replaced; a batch with a field of
type `void` is refused, so that the link in it comes in later, for want of one. -/
theorem run_as_logged_title :
    let title := Attribute.ofKey ⟨"title", .raw "String"⟩
    let count := Attribute.ofKey ⟨"count", .raw "int"⟩
    let link := Attribute.ofKey ⟨"link", .raw "String"⟩
    let greeting := { title with default := .explicit "\"hello\"" }
    let edits : List Edit := [.addAll [title, count, title.allowNull],
      .addIfAbsent { title with required := true }, .addAll [link, .ofKey ⟨"bad", .raw "void"⟩],
      .add greeting, .addIfAbsent link.allowNull]
    let registry := (ofMethods []).run edits
    registry.attributes.keys = [title.key, count.key, link.key] ∧
      registry.get? title.key = some greeting ∧ registry.get? link.key = some link.allowNull := by
  intro title count link greeting edits registry
  have log : (ofMethods []).log edits = [⟨title, true⟩, ⟨count, true⟩, ⟨title.allowNull, true⟩,
      ⟨greeting, true⟩, ⟨link.allowNull, false⟩] := by decide +kernel
  have ⟨⟨_, keys⟩, _, data, _⟩ := run_as_logged [] edits (by decide)
  rw [log] at keys data
  exact ⟨keys, data title.key, data link.key⟩

end ModelPlanner.Registry
