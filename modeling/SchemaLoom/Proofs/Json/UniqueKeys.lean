import SchemaLoom.Json.Reader
import SchemaLoom.Proofs.Fields.Lookup

/-!
# Documents without repeated keys

A document is a tree of lists of entries, and a list could hold a key twice. No
document does: the reader sets one entry after another, so every object it gives
has each key once, at every depth. `UniqueKeys` says so of a value, and is what
operations on documents may rely on.

What holds of everything that is read is shown by induction on the depth of the
reader, from the values nested inside a value to the value itself. The bound on
nesting is shown the same way elsewhere.
-/

namespace SchemaLoom.Json

/-- No object in the value repeats a key, at any depth. -/
inductive UniqueKeys : Json → Prop where
  | null : UniqueKeys .null
  | bool (b : Bool) : UniqueKeys (.bool b)
  | number (n : Number) : UniqueKeys (.number n)
  | string (s : String) : UniqueKeys (.string s)
  | array {items : List Json} (each : ∀ item ∈ items, UniqueKeys item) :
      UniqueKeys (.array items)
  | object {fields : Fields Json} (distinct : fields.Distinct)
      (each : ∀ entry ∈ fields, UniqueKeys entry.2) : UniqueKeys (.object fields)

@[simp] theorem uniqueKeys_null : UniqueKeys .null := .null

@[simp] theorem uniqueKeys_bool (b : Bool) : UniqueKeys (.bool b) := .bool b

@[simp] theorem uniqueKeys_number (n : Number) : UniqueKeys (.number n) := .number n

@[simp] theorem uniqueKeys_string (s : String) : UniqueKeys (.string s) := .string s

@[simp] theorem uniqueKeys_array {items : List Json} :
    UniqueKeys (.array items) ↔ ∀ item ∈ items, UniqueKeys item :=
  ⟨fun h => by cases h; assumption, .array⟩

@[simp] theorem uniqueKeys_object {fields : Fields Json} :
    UniqueKeys (.object fields) ↔
      fields.Distinct ∧ ∀ entry ∈ fields, UniqueKeys entry.2 := by
  constructor
  · intro h
    cases h with
    | object distinct each => exact ⟨distinct, each⟩
  · rintro ⟨distinct, each⟩
    exact .object distinct each

theorem UniqueKeys.distinct {fields : Fields Json} (h : UniqueKeys (.object fields)) :
    fields.Distinct :=
  (uniqueKeys_object.mp h).1

/-- What a key of an object leads to repeats no key either. -/
theorem UniqueKeys.get? {fields : Fields Json} (h : UniqueKeys (.object fields)) {key : String}
    {value : Json} (hv : fields.get? key = some value) : UniqueKeys value :=
  (uniqueKeys_object.mp h).2 (key, value) (Fields.mem_of_get? hv)

/-- An object repeats no key if it lists none twice and nothing that can be
looked up does. -/
theorem uniqueKeys_object_of_get? {fields : Fields Json} (hd : fields.Distinct)
    (h : ∀ key value, fields.get? key = some value → UniqueKeys value) :
    UniqueKeys (.object fields) :=
  .object hd fun entry hentry => h entry.1 entry.2 ((Fields.get?_eq_some_iff hd).mpr hentry)

/-- An object made by setting entries one after another repeats no key. -/
theorem uniqueKeys_setAll {fields entries : Fields Json} (h : UniqueKeys (.object fields))
    (he : ∀ entry ∈ entries, UniqueKeys entry.2) :
    UniqueKeys (.object (fields.setAll entries)) := by
  rw [uniqueKeys_object] at h ⊢
  exact ⟨h.1.setAll entries, Fields.forall_mem_setAll h.2 he⟩

section Reading

variable {α : Type} {P : α → Prop} {item : Reader α}

/-- The items that are read have a property that everything read as one has. -/
theorem forall_mem_items (hitem : ∀ s p, item s = .ok p → P p.value) {index : Nat}
    {s : List Char} {p : Parsed (List α) s} (h : items item index s = .ok p) :
    ∀ value ∈ p.value, P value := by
  fun_induction items item index s with
  | case1 => simp at h
  | case2 =>
      obtain rfl := Except.ok.inj h
      simp
  | case3 => simp at h
  | case4 => simp at h
  | case5 index s _ rest _ _ q hq _ r hr ih =>
      obtain rfl := Except.ok.inj h
      exact List.forall_mem_cons.mpr ⟨hitem _ _ hq, ih hr⟩

/-- The entries that are read have a property that everything read as a value has. -/
theorem forall_mem_entries (hitem : ∀ s p, item s = .ok p → P p.value) {first : Bool}
    {s : List Char} {p : Parsed (Fields α) s} (h : entries item first s = .ok p) :
    ∀ entry ∈ p.value, P entry.2 := by
  fun_induction entries item first s with
  | case1 => simp at h
  | case2 =>
      obtain rfl := Except.ok.inj h
      simp
  | case3 => simp at h
  | case4 => simp at h
  | case5 => simp at h
  | case6 first s key rest _ _ _ _ _ q hq _ r hr ih =>
      obtain rfl := Except.ok.inj h
      exact List.forall_mem_cons.mpr ⟨hitem _ _ hq, ih hr⟩

end Reading

theorem value_of_word {letters : String} {v : Json} {s rest : List Char}
    {hr : rest.length < s.length} {p : Parsed Json s}
    (h : value.word letters v s rest hr = .ok p) : p.value = v := by
  unfold value.word at h
  split at h
  · simp at h
  · obtain rfl := Except.ok.inj h
    rfl

/-- A property of values, by the depth they are read with, holds of what is read
if the values nested inside it bring it along. -/
theorem of_value_of_nested {P : Nat → Json → Prop} {depth : Nat} {s : List Char} {p : Parsed Json s}
    (plain : ∀ depth v, v.array? = none → v.object? = none → P depth v)
    (array : ∀ less items, (∀ item ∈ items, P less item) → P (less + 1) (.array items))
    (object : ∀ less entries, (∀ entry ∈ entries, P less entry.2) →
      P (less + 1) (.object (Fields.setAll [] entries)))
    (nested : ∀ less, depth = less + 1 → ∀ t q, value less t = .ok q → P less q.value)
    (h : value depth s = .ok p) : P depth p.value := by
  unfold value at h
  split at h
  · simp at h
  · next c rest hc =>
    -- Words, numbers and strings hold nothing; arrays and objects hold what is nested in them.
    split_ifs at h with hnull htrue hfalse hnumber hstring harray hobject
    · exact plain _ _ (by rw [value_of_word h]; rfl) (by rw [value_of_word h]; rfl)
    · exact plain _ _ (by rw [value_of_word h]; rfl) (by rw [value_of_word h]; rfl)
    · exact plain _ _ (by rw [value_of_word h]; rfl) (by rw [value_of_word h]; rfl)
    · dsimp only at h
      split at h
      · simp at h
      · split at h
        · simp at h
        · obtain rfl := Except.ok.inj h
          exact plain _ _ rfl rfl
    · dsimp only at h
      split at h
      · simp at h
      · obtain rfl := Except.ok.inj h
        exact plain _ _ rfl rfl
    · dsimp only at h
      split at h
      · simp at h
      · next less =>
        split at h
        · simp at h
        · next hitems =>
          obtain rfl := Except.ok.inj h
          exact array _ _ (forall_mem_items (nested less rfl) hitems)
    · dsimp only at h
      split at h
      · simp at h
      · next less =>
        split at h
        · simp at h
        · next hentries =>
          obtain rfl := Except.ok.inj h
          exact object _ _ (forall_mem_entries (nested less rfl) hentries)

/-- Induction on the depth of what is read: a property that a value has if the
values nested in it have it. -/
theorem of_value {P : Nat → Json → Prop}
    (plain : ∀ depth v, v.array? = none → v.object? = none → P depth v)
    (array : ∀ less items, (∀ item ∈ items, P less item) → P (less + 1) (.array items))
    (object : ∀ less entries, (∀ entry ∈ entries, P less entry.2) →
      P (less + 1) (.object (Fields.setAll [] entries)))
    {depth : Nat} {s : List Char} {p : Parsed Json s} (h : value depth s = .ok p) :
    P depth p.value := by
  induction depth generalizing s with
  | zero =>
      refine of_value_of_nested plain array object (fun _ e => ?_) h
      exact absurd e (Nat.succ_ne_zero _).symm
  | succ depth ih =>
      refine of_value_of_nested plain array object (fun less e t q hq => ?_) h
      obtain rfl := Nat.succ.inj e
      exact ih hq

/-- What a text is parsed to is read at its front with the full depth. -/
theorem exists_value_of_parse {text : String} {v : Json} (h : parse text = .ok v) :
    ∃ p : Parsed Json text.toList, value maxDepth text.toList = .ok p ∧ p.value = v := by
  unfold parse ofChars at h
  cases hv : value maxDepth text.toList with
  | error fault => simp [hv, Except.map, Except.mapError] at h
  | ok p => exact ⟨p, rfl, by simpa [hv, Except.map, Except.mapError] using h⟩

theorem uniqueKeys_of_value {depth : Nat} {s : List Char} {p : Parsed Json s}
    (h : value depth s = .ok p) : p.value.UniqueKeys := by
  refine of_value (P := fun _ v => v.UniqueKeys) (fun _ v harray hobject => ?_)
    (fun _ _ hitems => .array hitems) (fun _ _ hentries => ?_) h
  · cases v with
    | array items => cases harray
    | object fields => cases hobject
    | _ => simp
  · exact uniqueKeys_setAll (by simp [Fields.distinct_nil]) hentries

/-- Every document that can be read repeats no key. -/
theorem uniqueKeys_of_parse {text : String} {v : Json} (h : parse text = .ok v) :
    v.UniqueKeys := by
  obtain ⟨p, hread, rfl⟩ := exists_value_of_parse h
  exact uniqueKeys_of_value hread

end SchemaLoom.Json
