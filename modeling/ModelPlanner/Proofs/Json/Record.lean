/-
**Records are read back.**

* `record?_ofFields`: of an object with the fields of a record, the reader of records gives the values
  in their order, and nothing for those that are absent;
* `record?_replace`: replacing the value of one field replaces only what is read for it;
* `list?_map`, `optional?_text`: lists and absent texts are read back;
* `integral_ofFields`: a record is integral if its fields are.
-/

import ModelPlanner.Json.Record
import ModelPlanner.Proofs.Json.RoundTrip

namespace ModelPlanner.Json

/-- Where every item has a value, the values of a list are those of its items. -/
theorem mapM_map_eq_some {α β γ : Type} {read? : β → Option γ} {write : α → β} {value : α → γ}
    {all : List α} (each : ∀ one ∈ all, read? (write one) = some (value one)) :
    (all.map write).mapM read? = some (all.map value) := by
  induction all with
  | nil => rfl
  | cons one all ih =>
    rw [List.map_cons, List.mapM_cons, each one List.mem_cons_self,
      ih fun other member => each other (List.mem_cons_of_mem _ member)]
    rfl

variable {fields : List (String × Option Json)} {key : String}

/-! ### Records -/

/-- The fields of a record that are there. -/
def present (fields : List (String × Option Json)) : List (String × Json) :=
  fields.filterMap fun (key, value?) => value?.map (key, ·)

/-- An object with the fields of a record holds those that are there. -/
theorem textFields?_ofFields :
    textFields? (fields.filterMap fun (key, value?) => value?.map (some key, ·)) =
      some (present fields) := by
  have same : (fields.filterMap fun (key, value?) => value?.map (some key, ·)) =
      (present fields).map fun field => (some field.1, field.2) := by
    simp [present, List.map_filterMap, Function.comp_def]
  have each : ((present fields).map fun field => (some field.1, field.2)).mapM
      (fun field => field.1.map (·, field.2)) = some ((present fields).map id) :=
    mapM_map_eq_some fun _ _ => rfl
  rw [List.map_id] at each
  rw [textFields?, same]
  exact each

theorem present_cons (value? : Option Json) :
    present ((key, value?) :: fields) = (value?.map (key, ·)).toList ++ present fields := by
  cases value? <;> rfl

/-- Under a key that no field has there is nothing. -/
theorem filter_present_of_notMem (absent : key ∉ fields.map Prod.fst) :
    (present fields).filter (·.1 == key) = [] := by
  refine List.filter_eq_nil_iff.mpr fun found member same => absent ?_
  obtain ⟨⟨name, value?⟩, listed, is⟩ := List.mem_filterMap.mp member
  obtain ⟨value, _, rfl⟩ := Option.map_eq_some_iff.mp is
  exact List.mem_map.mpr ⟨(name, value?), listed, eq_of_beq same⟩

/-- Under the key of a field there is its value, if it has one. -/
theorem filter_present (distinct : (fields.map Prod.fst).Nodup) {field : String × Option Json}
    (member : field ∈ fields) :
    (present fields).filter (·.1 == field.1) = (field.2.map (field.1, ·)).toList := by
  induction fields with
  | nil => cases member
  | cons first fields ih =>
    obtain ⟨name, value?⟩ := first
    obtain ⟨new, distinct⟩ := List.nodup_cons.mp distinct
    rw [present_cons, List.filter_append]
    rcases List.mem_cons.mp member with rfl | later
    · rw [filter_present_of_notMem new, List.append_nil]
      cases value? <;> simp
    · have differs : name ≠ field.1 := fun same =>
        new (List.mem_map.mpr ⟨field, later, same.symm⟩)
      rw [ih distinct later]
      cases value? <;> simp [differs]

/-- The only value of the key of a field is the value of the field. -/
theorem only?_present (distinct : (fields.map Prod.fst).Nodup) {field : String × Option Json}
    (member : field ∈ fields) : only? (present fields) field.1 = some field.2 := by
  rw [only?, filter_present distinct member]
  cases field.2 <;> rfl

/-- **The fields of a record are read back** in their order. -/
theorem record?_ofFields (distinct : (fields.map Prod.fst).Nodup) :
    (ofFields fields).record? (fields.map Prod.fst) = some (fields.map Prod.snd) := by
  rw [ofFields, record?, textFields?_ofFields, Option.bind_some]
  exact mapM_map_eq_some fun field member => only?_present distinct member

/-! ### One field of an object -/

section Insert

variable {front back : List (Option String × Json)} {before behind : List (String × Json)}
variable {key other : String} {value : Json}

/-- The text keys of an object with a field are those around the field and the key of the field. -/
theorem textFields?_insert :
    textFields? (front ++ (some key, value) :: back) =
      (textFields? front).bind fun before =>
        (textFields? back).map fun behind => before ++ (key, value) :: behind := by
  unfold textFields?
  rw [List.mapM_append, List.mapM_cons]
  generalize front.mapM (m := Option) _ = before?
  generalize back.mapM (m := Option) _ = behind?
  cases before? <;> cases behind? <;> rfl

/-- The value of a field is the only one of its key, unless a field around it has the key too. -/
theorem only?_insert_self :
    only? (before ++ (key, value) :: behind) key =
      if ((before ++ behind).filter (·.1 == key)).isEmpty then some (some value) else none := by
  have found : (before ++ (key, value) :: behind).filter (·.1 == key) =
      before.filter (·.1 == key) ++ (key, value) :: behind.filter (·.1 == key) := by
    simp
  rw [only?, found, List.filter_append]
  cases before.filter (·.1 == key) with
  | nil => cases behind.filter (·.1 == key) <;> rfl
  | cons first more => cases more <;> rfl

/-- A field counts for its own key only. -/
theorem only?_insert_of_ne (differs : key ≠ other) :
    only? (before ++ (key, value) :: behind) other = only? (before ++ behind) other := by
  have skipped : (before ++ (key, value) :: behind).filter (·.1 == other) =
      (before ++ behind).filter (·.1 == other) := by
    simp [differs]
  rw [only?, only?, skipped]

/-- Of a record with two fields, the one can be replaced while the other stays. -/
theorem record?_replace {values : List (Option Json)} (differs : key ≠ other)
    (record : (Json.object (front ++ (some key, value) :: back)).record? [key, other] = some values) :
    ∃ rest, values = [some value, rest] ∧ ∀ new,
      (Json.object (front ++ (some key, new) :: back)).record? [key, other] = some [some new, rest] := by
  obtain ⟨fields, texts, record⟩ := Option.bind_eq_some_iff.mp record
  rw [textFields?_insert] at texts
  obtain ⟨before, inFront, texts⟩ := Option.bind_eq_some_iff.mp texts
  obtain ⟨behind, inBack, rfl⟩ := Option.map_eq_some_iff.mp texts
  have both (value : Json) : [key, other].mapM (only? (before ++ (key, value) :: behind)) =
      (if ((before ++ behind).filter (·.1 == key)).isEmpty then some (some value) else none).bind
        fun value? => (only? (before ++ behind) other).map fun rest => [value?, rest] := by
    rw [List.mapM_cons, List.mapM_cons, List.mapM_nil, only?_insert_self, only?_insert_of_ne differs]
    cases only? (before ++ behind) other <;> rfl
  rw [both] at record
  split at record
  · next alone =>
    obtain ⟨rest, found, rfl⟩ := Option.map_eq_some_iff.mp record
    refine ⟨rest, rfl, fun new => ?_⟩
    rw [record?, textFields?_insert, inFront, inBack, Option.bind_some, Option.map_some,
      Option.bind_some, both, if_pos alone, found]
    rfl
  · cases record

end Insert

/-! ### Fields -/

/-- A list is read back if its items are. -/
@[simp]
theorem list?_map {α : Type} {read? : Json → Option α} {write : α → Json}
    (inverse : ∀ one, read? (write one) = some one) (all : List α) :
    list? read? (.array (all.map write)) = some all := by
  have each : (all.map write).mapM read? = some (all.map id) :=
    mapM_map_eq_some fun one _ => inverse one
  rw [list?, each, List.map_id]

/-- Texts are read back. -/
@[simp]
theorem list?_texts (texts : List String) : list? text? (.array (texts.map text)) = some texts := by
  have inverse (content : String) : text? (text content) = some content := rfl
  exact list?_map inverse texts

/-- A text that may be absent is read back. -/
@[simp]
theorem optional?_text (content? : Option String) :
    optional? text? (content?.map .text) = some content? := by
  cases content? <;> rfl

/-- A natural number is read back if it lies between the bounds. -/
theorem intBetween?_ofNat (low high : Int) (n : Nat) :
    intBetween? low high (ofNat n) = if low ≤ n ∧ n ≤ high then some (n : Int) else none := by
  have spelled : int? (ofNat n) = some (n : Int) := rfl
  rw [intBetween?, spelled, Option.filter_some]
  simp only [decide_eq_true_eq]

/-! ### Integral records -/

@[simp]
theorem integral_text (content : String) : (text content).Integral := .string

@[simp]
theorem integral_ofNat (n : Nat) : (ofNat n).Integral := .number

@[simp]
theorem integral_map {α : Type} {write : α → Json} (each : ∀ one, (write one).Integral)
    (all : List α) : (Json.array (all.map write)).Integral :=
  .array (List.forall_mem_map.mpr fun one _ => each one)

theorem integral_ofFields (each : ∀ field ∈ fields, ∀ value ∈ field.2, Integral value) :
    (ofFields fields).Integral := by
  refine .object fun field member => ?_
  obtain ⟨⟨name, value?⟩, listed, is⟩ := List.mem_filterMap.mp member
  obtain ⟨value, there, rfl⟩ := Option.map_eq_some_iff.mp is
  exact each _ listed value there

end ModelPlanner.Json
