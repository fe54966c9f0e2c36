/-
**Lists in which every entry has a key of its own.**

`Keyed key` is a list of entries with pairwise different keys, in the order of their first insertion.

* `put` replaces the entry of the same key in its place, or adds the entry at the end: `keys_put`;
* `get?` finds the entry of a key, which is the only one: `get?_eq_some_iff`, `get?_put`;
* `adjust` changes entries and may not change their keys: `keys_adjust`, `get?_adjust`.
-/

namespace ModelPlanner

/-- A list of entries with pairwise different keys. -/
structure Keyed {α κ : Type} (key : α → κ) where
  entries : List α
  distinct : (entries.map key).Nodup

namespace Keyed

variable {α κ : Type} {key : α → κ}

instance [DecidableEq α] : DecidableEq (Keyed key) := fun first second =>
  if same : first.entries = second.entries then
    isTrue (by cases first; cases second; cases same; rfl)
  else isFalse fun equal => same (by rw [equal])

/-- No entries. -/
def empty : Keyed key := ⟨[], List.nodup_nil⟩

instance : Inhabited (Keyed key) := ⟨empty⟩

/-- The keys, in the order of the entries. -/
def keys (list : Keyed key) : List κ := list.entries.map key

/-- The number of entries. -/
def size (list : Keyed key) : Nat := list.entries.length

/-- Two lists with the same entries are equal. -/
@[ext]
theorem ext {first second : Keyed key} (same : first.entries = second.entries) : first = second := by
  cases first; cases second; cases same; rfl

/-! ### Lookup and insertion -/

section Lookup

variable [DecidableEq κ]

/-- The entry of a key. -/
def get? (list : Keyed key) (wanted : κ) : Option α :=
  list.entries.find? fun entry => key entry == wanted

/-- Whether there is an entry of a key. -/
def contains (list : Keyed key) (wanted : κ) : Bool := (list.get? wanted).isSome

/-- A list with an entry in the place of the entry of its key, or at the end. -/
def placed (key : α → κ) (entry : α) : List α → List α
  | [] => [entry]
  | first :: rest =>
    if key first = key entry then entry :: rest else first :: placed key entry rest

/-- Placing an entry adds its key at the end, unless it is there. -/
theorem map_placed (entry : α) (entries : List α) :
    (placed key entry entries).map key =
      if key entry ∈ entries.map key then entries.map key else entries.map key ++ [key entry] := by
  induction entries with
  | nil => simp [placed]
  | cons first rest ih =>
    by_cases same : key first = key entry
    · simp [placed, same]
    · have differ : key entry ≠ key first := fun equal => same equal.symm
      simp only [placed, if_neg same, List.map_cons, ih, List.mem_cons, differ, false_or]
      split <;> simp

/-- Placing an entry keeps the keys different. -/
theorem nodup_placed {entry : α} {entries : List α} (distinct : (entries.map key).Nodup) :
    ((placed key entry entries).map key).Nodup := by
  rw [map_placed]
  split
  · exact distinct
  · next absent =>
    rw [List.nodup_append]
    refine ⟨distinct, by simp, fun first member second last => ?_⟩
    rw [List.mem_singleton] at last
    exact fun equal => absent (last ▸ equal ▸ member)

/-- Puts an entry in the place of the entry of its key, or at the end. -/
def put (list : Keyed key) (entry : α) : Keyed key :=
  ⟨placed key entry list.entries, nodup_placed list.distinct⟩

/-- The list of the given entries, put in one after the other. -/
def ofList (entries : List α) : Keyed key := entries.foldl put empty

/-- Putting an entry adds its key at the end, unless it is there. -/
@[grind =]
theorem keys_put (list : Keyed key) (entry : α) :
    (list.put entry).keys =
      if key entry ∈ list.keys then list.keys else list.keys ++ [key entry] :=
  map_placed entry list.entries

/-- The keys after putting an entry are its key and those that were there. -/
@[simp, grind =]
theorem mem_keys_put {list : Keyed key} {entry : α} {wanted : κ} :
    wanted ∈ (list.put entry).keys ↔ wanted = key entry ∨ wanted ∈ list.keys := by
  rw [keys_put]
  split
  · next there =>
    constructor
    · exact Or.inr
    · rintro (rfl | member)
      · exact there
      · exact member
  · rw [List.mem_append, List.mem_singleton, or_comm]

/-- An entry that was put is found. -/
@[simp]
theorem get?_put_self (list : Keyed key) (entry : α) :
    (list.put entry).get? (key entry) = some entry := by
  suffices ∀ entries, (placed key entry entries).find? (key · == key entry) = some entry from
    this list.entries
  intro entries
  induction entries with
  | nil => simp [placed]
  | cons first rest ih => by_cases same : key first = key entry <;> simp [placed, same, ih]

/-- Putting an entry changes no other lookup. -/
@[simp]
theorem get?_put_of_ne (list : Keyed key) {entry : α} {wanted : κ} (other : wanted ≠ key entry) :
    (list.put entry).get? wanted = list.get? wanted := by
  suffices ∀ entries : List α,
      (placed key entry entries).find? (key · == wanted) = entries.find? (key · == wanted) from
    this list.entries
  intro entries
  induction entries with
  | nil => simp [placed, Ne.symm other]
  | cons first rest ih =>
    by_cases same : key first = key entry
    · simp [placed, same, Ne.symm other]
    · by_cases here : key first = wanted
      · subst here
        simp [placed, same]
      · simp [placed, same, here, ih]

/-! ### Lookup as membership -/

/-- The entry that is found has the key that was looked up. -/
@[grind →]
theorem key_of_get? {list : Keyed key} {wanted : κ} {entry : α}
    (found : list.get? wanted = some entry) : key entry = wanted := by
  simpa using List.find?_some found

/-- The entry that is found is one of the entries. -/
@[grind →]
theorem mem_of_get? {list : Keyed key} {wanted : κ} {entry : α}
    (found : list.get? wanted = some entry) : entry ∈ list.entries :=
  List.mem_of_find?_eq_some found

/-- An entry is found under its key, since no other entry has it. -/
@[simp, grind →]
theorem get?_of_mem {list : Keyed key} {entry : α} (member : entry ∈ list.entries) :
    list.get? (key entry) = some entry := by
  suffices ∀ entries : List α, (entries.map key).Nodup → entry ∈ entries →
      entries.find? (key · == key entry) = some entry from this list.entries list.distinct member
  intro entries distinct member
  induction entries with
  | nil => cases member
  | cons first rest ih =>
    obtain ⟨alone, distinct⟩ := List.nodup_cons.mp distinct
    rcases List.mem_cons.mp member with rfl | later
    · simp
    · have differ : key first ≠ key entry := fun same =>
        alone (same ▸ List.mem_map.mpr ⟨entry, later, rfl⟩)
      rw [List.find?_cons_of_neg (by simpa using differ)]
      exact ih distinct later

/-- Entries of one key are the same entry. -/
theorem eq_of_key_eq {list : Keyed key} {first second : α} (one : first ∈ list.entries)
    (two : second ∈ list.entries) (same : key first = key second) : first = second := by
  have found := get?_of_mem one
  rw [same, get?_of_mem two] at found
  exact (Option.some.inj found).symm

/-- What is found under a key is the entry of that key. -/
theorem get?_eq_some_iff {list : Keyed key} {wanted : κ} {entry : α} :
    list.get? wanted = some entry ↔ entry ∈ list.entries ∧ key entry = wanted := by
  constructor
  · exact fun found => ⟨mem_of_get? found, key_of_get? found⟩
  · rintro ⟨member, rfl⟩
    exact get?_of_mem member

/-- There is an entry of a key exactly if it is one of the keys. -/
@[simp, grind =]
theorem contains_iff {list : Keyed key} {wanted : κ} :
    list.contains wanted = true ↔ wanted ∈ list.keys := by
  simp [contains, get?, keys]

/-- Nothing is found exactly under what is no key. -/
@[simp, grind =]
theorem get?_eq_none_iff {list : Keyed key} {wanted : κ} :
    list.get? wanted = none ↔ wanted ∉ list.keys := by
  rw [← contains_iff, contains, Option.not_isSome_iff_eq_none]

/-- The lookups after putting an entry. -/
@[grind =]
theorem get?_put (list : Keyed key) (entry : α) (wanted : κ) :
    (list.put entry).get? wanted = if wanted = key entry then some entry else list.get? wanted := by
  by_cases same : wanted = key entry
  · rw [if_pos same, same, get?_put_self]
  · rw [if_neg same, get?_put_of_ne list same]

/-- The entries after putting one: it, and those of other keys. -/
@[simp, grind =]
theorem mem_put {list : Keyed key} {entry other : α} :
    other ∈ (list.put entry).entries ↔
      other = entry ∨ other ∈ list.entries ∧ key other ≠ key entry := by
  have looked : other ∈ (list.put entry).entries ↔
      (list.put entry).get? (key other) = some other := by simp [get?_eq_some_iff]
  rw [looked]
  grind

end Lookup

/-! ### Changing entries -/

/-- Changes every entry by a function that keeps keys. -/
def adjust (list : Keyed key) (change : α → α) (keeps : ∀ entry, key (change entry) = key entry) :
    Keyed key :=
  ⟨list.entries.map change, by
    have same : (list.entries.map change).map key = list.entries.map key := by
      simp [Function.comp_def, keeps]
    exact same ▸ list.distinct⟩

/-- Changing entries keeps the keys. -/
@[simp, grind =]
theorem keys_adjust (list : Keyed key) (change : α → α)
    (keeps : ∀ entry, key (change entry) = key entry) : (list.adjust change keeps).keys = list.keys := by
  simp [keys, adjust, Function.comp_def, keeps]

/-- Changing entries changes what is found under a key. -/
@[simp, grind =]
theorem get?_adjust [DecidableEq κ] (list : Keyed key) (change : α → α)
    (keeps : ∀ entry, key (change entry) = key entry) (wanted : κ) :
    (list.adjust change keeps).get? wanted = (list.get? wanted).map change := by
  have same : (fun entry => key entry == wanted) ∘ change = fun entry => key entry == wanted := by
    funext entry
    exact congrArg (· == wanted) (keeps entry)
  unfold get? adjust
  rw [List.find?_map, same]

end Keyed

end ModelPlanner
