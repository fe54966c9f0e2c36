/-
**Keeping the first of equals.**

`keepFirst view entries` removes every entry whose view an earlier entry has, and keeps the order of
the others.

* `mem_keepFirst`: no new entries; `keepFirst_map_nodup`: the views of the result are different;
* `mem_keepFirst_iff_find?`: what is kept is the first entry of its view;
* `view_mem_keepFirst`: every view that was there is still there;
* `keepFirst_eq_eraseDupsBy`: it is the library's removal of duplicates, with equal views as duplicates;
* `keepFirst_append_keepFirst`: removing duplicates from the end of a list first changes nothing;
* `keepFirst_of_known`: nor does removing an entry whose view an earlier entry has.
-/

namespace ModelPlanner

variable {α κ : Type} [DecidableEq κ]

/-- The entries whose view no earlier entry has. -/
def keepFirst (view : α → κ) : List α → List α
  | [] => []
  | first :: rest => first :: (keepFirst view rest).filter fun entry => view entry ≠ view first

/-- Keeping the first of equals adds no entries. -/
@[grind →]
theorem mem_keepFirst {view : α → κ} {entries : List α} {entry : α}
    (kept : entry ∈ keepFirst view entries) : entry ∈ entries := by
  induction entries with
  | nil => exact kept
  | cons first rest ih =>
    rcases List.mem_cons.mp kept with rfl | later
    · exact List.mem_cons_self
    · exact List.mem_cons_of_mem _ (ih (List.mem_filter.mp later).1)

/-- The views of the kept entries are different. -/
@[simp]
theorem keepFirst_map_nodup (view : α → κ) (entries : List α) :
    ((keepFirst view entries).map view).Nodup := by
  induction entries with
  | nil => exact List.nodup_nil
  | cons first rest ih =>
    rw [keepFirst, List.map_cons, List.nodup_cons]
    constructor
    · intro again
      obtain ⟨entry, later, same⟩ := List.mem_map.mp again
      have differ := (List.mem_filter.mp later).2
      exact (of_decide_eq_true differ) same
    · exact ih.sublist (List.filter_sublist.map view)

/-- A view that an entry has is the view of a kept entry. -/
theorem view_mem_keepFirst {view : α → κ} {entries : List α} {entry : α} (there : entry ∈ entries) :
    view entry ∈ (keepFirst view entries).map view := by
  induction entries with
  | nil => cases there
  | cons first rest ih =>
    by_cases same : view entry = view first
    · exact same ▸ List.mem_cons_self
    · have later : entry ∈ rest := by
        rcases List.mem_cons.mp there with rfl | later
        · exact absurd rfl same
        · exact later
      obtain ⟨twin, kept, equal⟩ := List.mem_map.mp (ih later)
      refine List.mem_cons_of_mem _ (List.mem_map.mpr ⟨twin, List.mem_filter.mpr ⟨kept, ?_⟩, equal⟩)
      exact decide_eq_true (equal ▸ same)

/-- What is kept is the first entry of its view. -/
theorem mem_keepFirst_iff_find? {view : α → κ} {entries : List α} {entry : α} :
    entry ∈ keepFirst view entries ↔
      entries.find? (fun other => view other == view entry) = some entry := by
  induction entries with
  | nil => exact iff_of_false List.not_mem_nil nofun
  | cons first rest ih =>
    rw [keepFirst, List.mem_cons, List.mem_filter, ih, List.find?_cons]
    by_cases same : view first = view entry
    · rw [beq_iff_eq.mpr same, Option.some.injEq]
      constructor
      · rintro (rfl | ⟨_, differ⟩)
        · rfl
        · exact absurd same.symm (of_decide_eq_true differ)
      · exact fun here => Or.inl here.symm
    · rw [beq_false_of_ne same]
      constructor
      · rintro (rfl | ⟨found, _⟩)
        · exact absurd rfl same
        · exact found
      · exact fun found => Or.inr ⟨found, decide_eq_true (Ne.symm same)⟩

/-- Removing by the view commutes with keeping the first of equals. -/
theorem filter_keepFirst (view : α → κ) (wanted : κ → Bool) (entries : List α) :
    (keepFirst view entries).filter (wanted ∘ view) =
      keepFirst view (entries.filter (wanted ∘ view)) := by
  induction entries with
  | nil => rfl
  | cons first rest ih =>
    by_cases here : (wanted ∘ view) first
    · rw [keepFirst, List.filter_cons_of_pos here, List.filter_cons_of_pos here, keepFirst, ← ih,
        List.filter_filter, List.filter_filter]
      simp only [Bool.and_comm]
    · rw [keepFirst, List.filter_cons_of_neg here, List.filter_cons_of_neg here, ← ih,
        List.filter_filter]
      refine List.filter_congr fun entry _ => ?_
      by_cases same : view entry = view first
      · have unwanted : (wanted ∘ view) entry = false := by
          simpa [same] using here
        rw [unwanted, Bool.false_and]
      · rw [decide_eq_true same, Bool.and_true]

/-- Keeping the first of equals is the removal of duplicates of the library. -/
theorem keepFirst_eq_eraseDupsBy (view : α → κ) (entries : List α) :
    keepFirst view entries = entries.eraseDupsBy fun first second => view first == view second := by
  match entries with
  | [] => rfl
  | first :: rest =>
    have others : (fun entry => decide (view entry ≠ view first)) =
        (fun other => decide (other ≠ view first)) ∘ view := rfl
    rw [keepFirst, others, filter_keepFirst, List.eraseDupsBy_cons, keepFirst_eq_eraseDupsBy]
    simp [Function.comp_def]
termination_by entries.length
decreasing_by exact Nat.lt_succ_of_le (List.length_filter_le _ _)

/-- Entries with different views are all kept. -/
theorem keepFirst_of_nodup {view : α → κ} {entries : List α} (distinct : (entries.map view).Nodup) :
    keepFirst view entries = entries := by
  induction entries with
  | nil => rfl
  | cons first rest ih =>
    obtain ⟨alone, distinct⟩ := List.nodup_cons.mp distinct
    rw [keepFirst, ih distinct, List.filter_eq_self.mpr]
    intro entry member
    exact decide_eq_true fun same => alone (same ▸ List.mem_map.mpr ⟨entry, member, rfl⟩)

/-- Keeping the first of equals of the end of a list beforehand changes nothing. -/
@[simp]
theorem keepFirst_append_keepFirst (view : α → κ) (front back : List α) :
    keepFirst view (front ++ keepFirst view back) = keepFirst view (front ++ back) := by
  induction front with
  | nil => exact keepFirst_of_nodup (keepFirst_map_nodup view back)
  | cons first rest ih => rw [List.cons_append, List.cons_append, keepFirst, keepFirst, ih]

/-- An entry whose view was there before is not kept. -/
theorem keepFirst_of_known {view : α → κ} {front back : List α} {entry : α}
    (known : view entry ∈ front.map view) :
    keepFirst view (front ++ entry :: back) = keepFirst view (front ++ back) := by
  induction front with
  | nil => cases known
  | cons first rest ih =>
    rw [List.cons_append, List.cons_append, keepFirst, keepFirst]
    rcases List.mem_cons.mp known with same | later
    · have others : (fun other => decide (view other ≠ view first)) =
          (fun wanted => decide (wanted ≠ view first)) ∘ view := rfl
      rw [others, filter_keepFirst, filter_keepFirst, List.filter_append, List.filter_append,
        List.filter_cons_of_neg (by simpa using same)]
    · rw [ih later]

end ModelPlanner
