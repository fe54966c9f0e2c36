/-
**Computations that can fail.**

A computation in steps succeeds exactly if each of its steps does: `bind_eq_ok_iff`, `map_eq_ok_iff`. So
what a list of results consists of, each step has given (`exists_of_mem_mapM`), and what each step of a
successful fold goes on with, the fold ends with (`foldlM_induction`). It is refused exactly if one of the
steps is: `bind_refused_iff`, `mapM_refused_iff`, `forM_refused_iff`, `foldlM_refused_iff`.

`RefusedFor cause` says that whatever a computation may be refused for satisfies `cause`; what holds of the
steps in this respect holds of the computation.
-/

namespace ModelPlanner

variable {ε α β : Type}

/-- Two steps succeed if the first one does and the second one does after it. -/
@[simp]
theorem bind_eq_ok_iff {first : Except ε α} {next : α → Except ε β} {result : β} :
    first.bind next = .ok result ↔ ∃ value, first = .ok value ∧ next value = .ok result := by
  cases first with
  | error error =>
    constructor
    · exact nofun
    · rintro ⟨_, same, _⟩
      cases same
  | ok value =>
    constructor
    · exact fun done => ⟨value, rfl, done⟩
    · rintro ⟨_, same, done⟩
      cases same
      exact done

/-- A changed result is the change of a result. -/
@[simp]
theorem map_eq_ok_iff {first : Except ε α} {change : α → β} {result : β} :
    first.map change = .ok result ↔ ∃ value, first = .ok value ∧ change value = result := by
  cases first with
  | error error =>
    constructor
    · exact nofun
    · rintro ⟨_, same, _⟩
      cases same
  | ok value =>
    constructor
    · intro done
      exact ⟨value, rfl, Except.ok.inj done⟩
    · rintro ⟨_, same, rfl⟩
      cases same
      rfl

/-- A result is no refusal. -/
@[simp]
theorem not_refused (value : α) : ¬ ∃ error, (.ok value : Except ε α) = .error error := by
  rintro ⟨_, refused⟩
  cases refused

/-- Two steps are refused if the first one is, or the second one after it. -/
@[simp]
theorem bind_refused_iff {first : Except ε α} {next : α → Except ε β} :
    (∃ error, first.bind next = .error error) ↔ (∃ error, first = .error error) ∨
      ∃ value, first = .ok value ∧ ∃ error, next value = .error error := by
  cases first with
  | error error => exact iff_of_true ⟨error, rfl⟩ (Or.inl ⟨error, rfl⟩)
  | ok value =>
    constructor
    · exact fun refused => Or.inr ⟨value, rfl, refused⟩
    · rintro (⟨_, same⟩ | ⟨_, same, refused⟩)
      · cases same
      · cases same
        exact refused

/-- A changed result is refused if the result is. -/
@[simp]
theorem map_refused_iff {first : Except ε α} {change : α → β} :
    (∃ error, first.map change = .error error) ↔ ∃ error, first = .error error := by
  cases first with
  | error error => exact iff_of_true ⟨error, rfl⟩ ⟨error, rfl⟩
  | ok value => exact iff_of_false (not_refused _) (not_refused _)

@[simp]
theorem mapM_refused_iff {f : α → Except ε β} {entries : List α} :
    (∃ error, entries.mapM f = .error error) ↔ ∃ entry ∈ entries, ∃ error, f entry = .error error := by
  induction entries with
  | nil => exact iff_of_false (not_refused _) fun ⟨_, member, _⟩ => nomatch member
  | cons entry entries ih =>
    rw [List.mapM_cons]
    refine bind_refused_iff.trans ⟨?_, ?_⟩
    · rintro (refused | ⟨value, _, refused⟩)
      · exact ⟨entry, List.mem_cons_self, refused⟩
      · rcases bind_refused_iff.mp refused with refused | ⟨_, _, _, impossible⟩
        · obtain ⟨other, member, refused⟩ := ih.mp refused
          exact ⟨other, List.mem_cons_of_mem entry member, refused⟩
        · cases impossible
    · rintro ⟨other, member, refused⟩
      rcases List.mem_cons.mp member with rfl | later
      · exact Or.inl refused
      · cases f entry with
        | error error => exact Or.inl ⟨error, rfl⟩
        | ok value =>
          have rest := ih.mpr ⟨other, later, refused⟩
          exact Or.inr ⟨value, rfl, bind_refused_iff.mpr (Or.inl rest)⟩

@[simp]
theorem forM_refused_iff {f : α → Except ε Unit} {entries : List α} :
    (∃ error, forM entries f = .error error) ↔ ∃ entry ∈ entries, ∃ error, f entry = .error error := by
  induction entries with
  | nil => exact iff_of_false (not_refused _) fun ⟨_, member, _⟩ => nomatch member
  | cons entry entries ih =>
    rw [List.forM_cons]
    refine bind_refused_iff.trans ⟨?_, ?_⟩
    · rintro (refused | ⟨_, _, refused⟩)
      · exact ⟨entry, List.mem_cons_self, refused⟩
      · obtain ⟨other, member, refused⟩ := ih.mp refused
        exact ⟨other, List.mem_cons_of_mem entry member, refused⟩
    · rintro ⟨other, member, refused⟩
      rcases List.mem_cons.mp member with rfl | later
      · exact Or.inl refused
      · cases f entry with
        | error error => exact Or.inl ⟨error, rfl⟩
        | ok value => exact Or.inr ⟨value, rfl, ih.mpr ⟨other, later, refused⟩⟩

theorem exists_of_mem_mapM {f : α → Except ε β} {entries : List α} {results : List β}
    (done : entries.mapM f = .ok results) :
    ∀ result ∈ results, ∃ entry ∈ entries, f entry = .ok result := by
  induction entries generalizing results with
  | nil =>
    cases done
    exact nofun
  | cons entry entries ih =>
    rw [List.mapM_cons] at done
    obtain ⟨first, one, done⟩ := bind_eq_ok_iff.mp done
    obtain ⟨others, rest, done⟩ := bind_eq_ok_iff.mp done
    cases done
    rintro result (_ | ⟨_, later⟩)
    · exact ⟨entry, List.mem_cons_self, one⟩
    · obtain ⟨other, member, same⟩ := ih rest result later
      exact ⟨other, List.mem_cons_of_mem entry member, same⟩

/-- A fold whose steps are refused for the entry alone is refused exactly if an entry is. -/
theorem foldlM_refused_iff {step : β → α → Except ε β} {refused : α → Prop} {entries : List α} {first : β}
    (each : ∀ entry ∈ entries, ∀ before, (∃ error, step before entry = .error error) ↔ refused entry) :
    (∃ error, entries.foldlM step first = .error error) ↔ ∃ entry ∈ entries, refused entry := by
  induction entries generalizing first with
  | nil => exact iff_of_false (not_refused _) fun ⟨_, member, _⟩ => nomatch member
  | cons entry entries ih =>
    obtain ⟨one, others⟩ := List.forall_mem_cons.mp each
    rw [List.foldlM_cons]
    refine bind_refused_iff.trans ⟨?_, ?_⟩
    · rintro (stopped | ⟨after, _, stopped⟩)
      · exact ⟨entry, List.mem_cons_self, (one first).mp stopped⟩
      · obtain ⟨other, member, holds⟩ := (ih others).mp stopped
        exact ⟨other, List.mem_cons_of_mem entry member, holds⟩
    · rintro ⟨other, member, holds⟩
      rcases List.mem_cons.mp member with rfl | later
      · exact Or.inl ((one first).mpr holds)
      · cases step first entry with
        | error error => exact Or.inl ⟨error, rfl⟩
        | ok after => exact Or.inr ⟨after, rfl, (ih others).mpr ⟨other, later, holds⟩⟩

/-- What each step of a successful fold goes on with, for the entries so far, the fold ends with. -/
theorem foldlM_induction {step : β → α → Except ε β} {motive : List α → β → Prop}
    {entries : List α} {first last : β} (start : motive [] first)
    (next : ∀ front, ∀ entry ∈ entries, ∀ before after, motive front before →
      step before entry = .ok after → motive (front ++ [entry]) after)
    (done : entries.foldlM step first = .ok last) : motive entries last := by
  suffices ∀ (front back : List α) (before : β), (∀ entry ∈ back, entry ∈ entries) →
      motive front before → back.foldlM step before = .ok last → motive (front ++ back) last from
    this [] entries first (fun _ member => member) start done
  intro front back
  induction back generalizing front with
  | nil =>
    intro before _ holds folded
    cases folded
    rw [List.append_nil]
    exact holds
  | cons entry back ih =>
    intro before within holds folded
    obtain ⟨listed, others⟩ := List.forall_mem_cons.mp within
    rw [List.foldlM_cons] at folded
    obtain ⟨after, one, folded⟩ := bind_eq_ok_iff.mp folded
    rw [List.append_cons]
    exact ih (front ++ [entry]) after others (next front entry listed before after holds one) folded

/-! ### Causes of refusals -/

/-- Whatever the computation is refused for satisfies the cause. -/
def RefusedFor (cause : ε → Prop) (result : Except ε α) : Prop :=
  ∀ error, result = .error error → cause error

namespace RefusedFor

variable {cause : ε → Prop}

theorem ok (value : α) : RefusedFor cause (.ok value) := by
  intro error refused
  cases refused

theorem error {error : ε} (holds : cause error) : RefusedFor cause (.error error : Except ε α) := by
  intro other refused
  cases refused
  exact holds

/-- The second step is refused for the cause if it is so after what the first one gives. -/
theorem bind {first : Except ε α} {next : α → Except ε β} (one : RefusedFor cause first)
    (two : ∀ value, first = .ok value → RefusedFor cause (next value)) :
    RefusedFor cause (first.bind next) := by
  cases first with
  | error error => exact .error (one error rfl)
  | ok value => exact two value rfl

theorem map {result : Except ε α} (holds : RefusedFor cause result) (change : α → β) :
    RefusedFor cause (result.map change) := by
  cases result with
  | error error => exact .error (holds error rfl)
  | ok value => exact .ok (change value)

theorem mapM {f : α → Except ε β} {entries : List α}
    (each : ∀ entry ∈ entries, RefusedFor cause (f entry)) : RefusedFor cause (entries.mapM f) := by
  induction entries with
  | nil => exact .ok []
  | cons entry entries ih =>
    obtain ⟨one, others⟩ := List.forall_mem_cons.mp each
    rw [List.mapM_cons]
    exact .bind one fun _ _ => .bind (ih others) fun values _ => .ok _

theorem forM {f : α → Except ε Unit} {entries : List α}
    (each : ∀ entry ∈ entries, RefusedFor cause (f entry)) : RefusedFor cause (entries.forM f) := by
  induction entries with
  | nil => exact .ok ()
  | cons entry entries ih =>
    obtain ⟨one, others⟩ := List.forall_mem_cons.mp each
    exact .bind one fun _ _ => ih others

/-- The steps of a fold may rely on what the ones before them keep. -/
theorem foldlM {step : β → α → Except ε β} {motive : β → Prop} {entries : List α} {first : β}
    (start : motive first)
    (each : ∀ entry ∈ entries, ∀ before, motive before → RefusedFor cause (step before entry))
    (next : ∀ entry ∈ entries, ∀ before after, motive before → step before entry = .ok after →
      motive after) : RefusedFor cause (entries.foldlM step first) := by
  induction entries generalizing first with
  | nil => exact .ok first
  | cons entry entries ih =>
    obtain ⟨one, others⟩ := List.forall_mem_cons.mp each
    obtain ⟨kept, later⟩ := List.forall_mem_cons.mp next
    rw [List.foldlM_cons]
    exact .bind (one first start) fun after done => ih (kept first after start done) others later

end RefusedFor

end ModelPlanner
