/-
**Nearest-first merging.**

A registry takes the attributes of a class as they come, a later one in the place of an earlier one of
its key, and then those of the classes above, each unless its key is there. What it holds in the end is
`nearestFirst`: every key once, where it came first, with the last attribute of the class itself or else
the first one from above.

* `merged_insert`, `merged_addIfAbsent`: each registration goes on with the merging (`Merged`);
* `merged_regroup`: moving attributes to a group does not touch it;
* `Merged.entries_eq`: the attributes are merged nearest first, their groups aside.
-/

import Mathlib.Data.List.Basic
import ModelPlanner.Proofs.Registry.Edits

namespace ModelPlanner

/-- The attribute in no group. -/
def Attribute.ungrouped (attr : Attribute) : Attribute := { attr with group? := none }

/-- The attributes of a class and those from above it: every key once, in the order in which they come
first, with the last attribute of the class itself, or else the first one from above. -/
def nearestFirst (mine above : List Attribute) : List Attribute :=
  ((mine ++ above).map (·.key)).eraseDups.filterMap fun key =>
    (mine.reverse ++ above).find? (·.key == key)

/-- One more element comes last, if it is new. -/
theorem eraseDups_concat {κ : Type} [DecidableEq κ] (keys : List κ) (key : κ) :
    (keys ++ [key]).eraseDups =
      if key ∈ keys then keys.eraseDups else keys.eraseDups ++ [key] := by
  rw [List.eraseDups_append]
  by_cases there : key ∈ keys
  · simp [List.removeAll, there]
  · simp [List.removeAll, there, List.eraseDups_cons]

/-- The keys of a list have the entries of the list. -/
@[simp]
theorem Keyed.filterMap_get?_keys {α κ : Type} [DecidableEq κ] {key : α → κ} (list : Keyed key) :
    list.keys.filterMap list.get? = list.entries := by
  rw [Keyed.keys, List.filterMap_map, List.filterMap_congr (g := some) (by simp +contextual),
    List.filterMap_some]

namespace Registry

/-- The registry holds the attributes of a class and those from above it, merged nearest first and
whatever their groups are. -/
structure Merged (registry : Registry) (mine above : List Attribute) : Prop where
  keys_eq : registry.attributes.keys = ((mine ++ above).map (·.key)).eraseDups
  data_eq : ∀ key, (registry.get? key).map Attribute.ungrouped =
    (mine.reverse ++ above).find? (·.key == key)

theorem merged_ofMethods (methods : List Method) : Merged (ofMethods methods) [] [] :=
  ⟨rfl, fun _ => rfl⟩

/-- Keeping the group of the registered attribute changes nothing but the group. -/
@[simp]
theorem ungrouped_keepGroup (registry : Registry) {attr : Attribute} (plain : attr.group? = none) :
    (registry.keepGroup attr).ungrouped = attr := by
  unfold keepGroup Attribute.ungrouped
  rw [← plain]
  split <;> rfl

/-- Inserting an ungrouped attribute gives its key the attribute, the group aside. -/
theorem ungrouped_get?_insert (registry : Registry) {attr : Attribute} (plain : attr.group? = none)
    (key : AttributeKey) : ((registry.insert attr).get? key).map Attribute.ungrouped =
      if key = attr.key then some attr else (registry.get? key).map Attribute.ungrouped := by
  rw [get?_insert]
  split <;> simp [plain]

/-- Moving attributes to a group or to none touches nothing but their groups. -/
theorem ungrouped_get?_regroup (registry : Registry) (keys : List AttributeKey)
    (group? : Option String) (key : AttributeKey) :
    ((registry.regroup keys group?).get? key).map Attribute.ungrouped =
      (registry.get? key).map Attribute.ungrouped := by
  rw [get?_regroup, Option.map_map]
  refine Option.map_congr fun attr _ => ?_
  rw [Function.comp_apply]
  split <;> rfl

section Merged

variable {registry : Registry} {mine above : List Attribute} {attr : Attribute}

/-- A later attribute of the class comes in. -/
theorem merged_insert (merged : Merged registry mine []) (ungrouped : attr.group? = none) :
    Merged (registry.insert attr) (mine ++ [attr]) [] where
  keys_eq := by simp [keys_insert, eraseDups_concat, merged.keys_eq]
  data_eq key := by
    rw [ungrouped_get?_insert registry ungrouped, merged.data_eq]
    by_cases same : key = attr.key
    · simp [same]
    · simp [same, Ne.symm same]

/-- All attributes of the class come in. -/
theorem merged_foldl {attrs : List Attribute} (merged : Merged registry mine [])
    (ungrouped : ∀ attr ∈ attrs, attr.group? = none) :
    Merged (attrs.foldl insert registry) (mine ++ attrs) [] := by
  induction attrs generalizing registry mine with
  | nil =>
    rw [List.append_nil]
    exact merged
  | cons attr attrs ih =>
    obtain ⟨first, others⟩ := List.forall_mem_cons.mp ungrouped
    rw [List.foldl_cons, List.append_cons]
    exact ih (merged_insert merged first) others

/-- An attribute from above comes in, or stays out since its key is there. -/
theorem merged_addIfAbsent {added : Bool} {after : Registry} (merged : Merged registry mine above)
    (ungrouped : attr.group? = none) (done : registry.addIfAbsent attr = (.ok added, after)) :
    Merged after mine (above ++ [attr]) := by
  have keys : ((mine ++ (above ++ [attr])).map (·.key)).eraseDups =
      if attr.key ∈ registry.attributes.keys then registry.attributes.keys
      else registry.attributes.keys ++ [attr.key] := by
    rw [← List.append_assoc, List.map_append, List.map_singleton, eraseDups_concat]
    simp [merged.keys_eq]
  have data : ∀ key, (mine.reverse ++ (above ++ [attr])).find? (·.key == key) =
      ((registry.get? key).map Attribute.ungrouped).or (if key = attr.key then some attr else none) := by
    intro key
    rw [← List.append_assoc, List.find?_append, merged.data_eq, List.find?_singleton]
    simp only [beq_iff_eq, eq_comm (a := key)]
  unfold addIfAbsent at done
  split at done
  · next known =>
    cases done
    refine ⟨?_, fun key => ?_⟩
    · rw [keys, if_pos (Keyed.contains_iff.mp known)]
    · rw [data]
      split
      · next same =>
        obtain ⟨there, found⟩ := Option.isSome_iff_exists.mp known
        rw [same, show registry.get? attr.key = some there from found]
        rfl
      · rw [Option.or_none]
  · next unknown =>
    split at done
    · cases done
    · cases done
      refine ⟨?_, fun key => ?_⟩
      · rw [keys, keys_insert]
      · rw [data, ungrouped_get?_insert registry ungrouped]
        split
        · next same =>
          have fresh : registry.get? attr.key = none := by simpa using unknown
          rw [same, fresh]
          rfl
        · rw [Option.or_none]

theorem merged_regroup (merged : Merged registry mine above) (keys : List AttributeKey)
    (group? : Option String) : Merged (registry.regroup keys group?) mine above where
  keys_eq := by simp [merged.keys_eq]
  data_eq key := by rw [ungrouped_get?_regroup, merged.data_eq]

/-- **The attributes of a merged registry are merged nearest first**, their groups aside. -/
theorem Merged.entries_eq (merged : Merged registry mine above) :
    registry.attributes.entries.map Attribute.ungrouped = nearestFirst mine above := by
  rw [nearestFirst, ← merged.keys_eq, ← Keyed.filterMap_get?_keys, List.map_filterMap]
  exact List.filterMap_congr fun key _ => merged.data_eq key

end Merged

-- The key of the class itself that comes twice keeps its first place and has its last data.
example :
    let title := Attribute.ofKey ⟨"title", .raw "String"⟩
    let count := Attribute.ofKey ⟨"count", .raw "int"⟩
    let link := Attribute.ofKey ⟨"link", .raw "String"⟩
    nearestFirst [title, count, title.allowNull] [link, count.allowNull] =
      [title.allowNull, count, link] := by
  decide

end Registry

end ModelPlanner
