import Mathlib.Data.List.Nodup
import SchemaLoom.Json.Basic

/-!
# Looking entries up

Every operation on named entries is told by what it does to looking a key up and
to the list of keys. Where no key is repeated, an entry is found exactly if it
is in the list, so rearranging the entries changes no answer.

Leaving entries out, changing values, setting a key and setting many keys in
turn have one lemma on look-up and one on keys each. Nothing outside of this
module and the one on sequences goes by the recursion of these operations.
-/

namespace SchemaLoom.Fields

variable {α : Type}

/-- No key is repeated, so a key and its value settle the entry. Nothing is said
of what the values are. -/
def Distinct (fields : Fields α) : Prop := fields.keys.Nodup

@[simp] theorem keys_nil : keys ([] : Fields α) = [] := rfl

@[simp] theorem keys_cons (key : String) (value : α) (rest : Fields α) :
    keys ((key, value) :: rest) = key :: rest.keys := rfl

@[simp] theorem keys_append (a b : Fields α) : keys (a ++ b) = a.keys ++ b.keys :=
  List.map_append

theorem distinct_nil : Distinct ([] : Fields α) := List.nodup_nil

theorem distinct_cons {key : String} {value : α} {rest : Fields α} :
    Distinct ((key, value) :: rest) ↔ key ∉ rest.keys ∧ rest.Distinct :=
  List.nodup_cons

theorem Distinct.sublist {a b : Fields α} (h : b.Distinct) (hab : a.Sublist b) : a.Distinct :=
  List.Nodup.sublist (hab.map _) h

theorem mem_keys_of_mem {key : String} {value : α} {fields : Fields α}
    (h : (key, value) ∈ fields) : key ∈ fields.keys :=
  List.mem_map_of_mem h

theorem get?_eq_none_iff {key : String} {fields : Fields α} :
    fields.get? key = none ↔ key ∉ fields.keys := by
  induction fields with
  | nil => simp
  | cons entry rest ih =>
      obtain ⟨k, v⟩ := entry
      by_cases h : k = key
      · simp [h]
      · simp [h, Ne.symm h, ih]

theorem mem_of_get? {key : String} {value : α} {fields : Fields α}
    (h : fields.get? key = some value) : (key, value) ∈ fields := by
  induction fields with
  | nil => simp at h
  | cons entry rest ih =>
      obtain ⟨k, v⟩ := entry
      rw [get?_cons] at h
      split at h
      · next hk =>
        subst hk
        obtain rfl := Option.some.inj h
        exact List.mem_cons_self
      · exact List.mem_cons_of_mem _ (ih h)

/-- Where no key is repeated, the entries in the list are exactly what is found. -/
theorem get?_eq_some_iff {key : String} {value : α} {fields : Fields α} (hd : fields.Distinct) :
    fields.get? key = some value ↔ (key, value) ∈ fields := by
  refine ⟨mem_of_get?, fun h => ?_⟩
  induction fields with
  | nil => simp at h
  | cons entry rest ih =>
      obtain ⟨k, v⟩ := entry
      obtain ⟨hk, hrest⟩ := distinct_cons.mp hd
      rcases List.mem_cons.mp h with heq | hmem
      · simp only [Prod.mk.injEq] at heq
        simp [heq.1, heq.2]
      · have hne : k ≠ key := fun e => hk (e ▸ mem_keys_of_mem hmem)
        simpa [hne] using ih hrest hmem

theorem Distinct.perm {a b : Fields α} (hd : b.Distinct) (h : a.Perm b) : a.Distinct :=
  (List.Perm.nodup_iff (List.Perm.map Prod.fst h)).mpr hd

/-- Rearranging entries changes nothing that can be looked up, if no key is
repeated. -/
theorem get?_of_perm {a b : Fields α} (h : a.Perm b) (hd : b.Distinct) (key : String) :
    a.get? key = b.get? key := by
  refine Option.ext fun value => ?_
  rw [get?_eq_some_iff (hd.perm h), get?_eq_some_iff hd, h.mem_iff]

/-- Entries left out by their keys cannot be found, and the others stay. -/
theorem get?_filter (keep : String → Bool) (fields : Fields α) (key : String) :
    Fields.get? key (fields.filter fun entry => keep entry.1) =
      if keep key then fields.get? key else none := by
  induction fields with
  | nil => simp
  | cons entry rest ih =>
      obtain ⟨k, v⟩ := entry
      by_cases hk : k = key
      · subst hk
        by_cases hkeep : keep k <;> simp [hkeep, ih]
      · by_cases hkeep : keep k <;> simp [hkeep, hk, ih]

/-- Values changed one by one are found changed, under the keys that they had. -/
theorem get?_mapValues {β : Type} (f : String → α → β) (fields : Fields α) (key : String) :
    Fields.get? key (fields.map fun entry => (entry.1, f entry.1 entry.2)) =
      (fields.get? key).map (f key) := by
  induction fields with
  | nil => rfl
  | cons entry rest ih =>
      obtain ⟨k, v⟩ := entry
      by_cases hk : k = key
      · simp [hk]
      · simp [hk, ih]

@[simp] theorem keys_mapValues {β : Type} (f : String → α → β) (fields : Fields α) :
    Fields.keys (fields.map fun entry => (entry.1, f entry.1 entry.2)) = fields.keys := by
  simp [keys]

theorem keys_filterMap_sublist {β : Type} (f : String × α → Option β) (fields : Fields α) :
    (Fields.keys (fields.filterMap fun entry => (f entry).map (entry.1, ·))).Sublist
      fields.keys := by
  induction fields with
  | nil => exact List.Sublist.slnil
  | cons entry rest ih =>
      rw [List.filterMap_cons]
      cases f entry with
      | none => exact ih.cons entry.1
      | some value => exact ih.cons_cons entry.1

/-- Entries left out by their values cannot be found. Without repetition, no
later entry of the same key comes to light. -/
theorem get?_filterMap {β : Type} (f : α → Option β) {fields : Fields α} (hd : fields.Distinct)
    (key : String) :
    Fields.get? key (fields.filterMap fun entry => (f entry.2).map (entry.1, ·)) =
      (fields.get? key).bind f := by
  induction fields with
  | nil => rfl
  | cons entry rest ih =>
      obtain ⟨k, v⟩ := entry
      obtain ⟨hk, hrest⟩ := distinct_cons.mp hd
      rw [List.filterMap_cons, get?_cons]
      cases hv : f v with
      | none =>
          rw [Option.map_none, ih hrest]
          split_ifs with he
          · rw [← he, get?_eq_none_iff.mpr hk, Option.bind_some, hv]
            rfl
          · rfl
      | some b =>
          rw [Option.map_some, get?_cons, ih hrest]
          split_ifs
          · rw [Option.bind_some, hv]
          · rfl

theorem get?_set (key : String) (value : α) (fields : Fields α) (other : String) :
    (fields.set key value).get? other = if key = other then some value else fields.get? other := by
  split
  · next h => rw [← h, get?_set_self]
  · next h => exact get?_set_of_ne (Ne.symm h) value fields

/-- Setting a key to the value that it has changes nothing, not even the order. -/
theorem set_of_get? {key : String} {value : α} {fields : Fields α}
    (h : fields.get? key = some value) : fields.set key value = fields := by
  induction fields with
  | nil => simp at h
  | cons entry rest ih =>
      obtain ⟨k, v⟩ := entry
      rw [get?_cons] at h
      rw [Fields.set]
      split_ifs at h ⊢ with hk
      · rw [Option.some.inj h]
      · rw [ih h]

theorem set_of_not_mem {key : String} {fields : Fields α} (h : key ∉ fields.keys) (value : α) :
    fields.set key value = fields ++ [(key, value)] := by
  induction fields with
  | nil => rfl
  | cons entry rest ih =>
      obtain ⟨k, v⟩ := entry
      rw [keys_cons, List.mem_cons, not_or] at h
      rw [Fields.set, if_neg (Ne.symm h.1), ih h.2, List.cons_append]

theorem Distinct.set {fields : Fields α} (h : fields.Distinct) (key : String) (value : α) :
    (fields.set key value).Distinct := by
  rw [Distinct, keys_set]
  split
  · exact h
  · next hk =>
    refine List.nodup_append.mpr ⟨h, List.nodup_singleton key, ?_⟩
    intro a ha b hb e
    rw [List.mem_singleton] at hb
    exact hk (hb ▸ e ▸ ha)

theorem forall_mem_set {P : α → Prop} {fields : Fields α} {key : String} {value : α}
    (h : ∀ entry ∈ fields, P entry.2) (hv : P value) :
    ∀ entry ∈ fields.set key value, P entry.2 := by
  induction fields with
  | nil => simpa [Fields.set] using hv
  | cons entry rest ih =>
      obtain ⟨k, v⟩ := entry
      rw [List.forall_mem_cons] at h
      rw [Fields.set]
      split
      · exact List.forall_mem_cons.mpr ⟨hv, h.2⟩
      · exact List.forall_mem_cons.mpr ⟨h.1, ih h.2⟩

@[simp] theorem setAll_nil (fields : Fields α) : fields.setAll [] = fields := rfl

@[simp] theorem setAll_cons (fields : Fields α) (key : String) (value : α) (rest : Fields α) :
    fields.setAll ((key, value) :: rest) = (fields.set key value).setAll rest := rfl

/-- Entries that repeat no key, neither among themselves nor one that is there
already, come last as they are. -/
theorem setAll_of_distinct {fields entries : Fields α} (h : Distinct (fields ++ entries)) :
    fields.setAll entries = fields ++ entries := by
  induction entries generalizing fields with
  | nil => simp
  | cons entry rest ih =>
      obtain ⟨k, v⟩ := entry
      have hk : k ∉ fields.keys := by
        rw [Distinct, keys_append, List.nodup_append] at h
        exact fun hmem => h.2.2 k hmem k List.mem_cons_self rfl
      have hassoc : fields ++ (k, v) :: rest = (fields ++ [(k, v)]) ++ rest := by simp
      rw [setAll_cons, set_of_not_mem hk, ih (hassoc ▸ h), hassoc]

/-- Setting keys to the values that they have changes nothing. -/
theorem setAll_of_get? {fields entries : Fields α}
    (h : ∀ entry ∈ entries, fields.get? entry.1 = some entry.2) :
    fields.setAll entries = fields := by
  induction entries with
  | nil => rfl
  | cons entry rest ih =>
      obtain ⟨hentry, hrest⟩ := List.forall_mem_cons.mp h
      rw [setAll_cons, set_of_get? hentry, ih hrest]

theorem setAll_empty {entries : Fields α} (h : entries.Distinct) :
    Fields.setAll [] entries = entries :=
  setAll_of_distinct (show Distinct ([] ++ entries) from h)

theorem Distinct.setAll {fields : Fields α} (h : fields.Distinct) (entries : Fields α) :
    (fields.setAll entries).Distinct := by
  induction entries generalizing fields with
  | nil => exact h
  | cons entry rest ih => exact ih (h.set entry.1 entry.2)

/-- Of entries without repetition, each wins over what was there. -/
theorem get?_setAll {entries : Fields α} (hd : entries.Distinct) (fields : Fields α)
    (key : String) :
    (fields.setAll entries).get? key = (entries.get? key).or (fields.get? key) := by
  induction entries generalizing fields with
  | nil => simp
  | cons entry rest ih =>
      obtain ⟨k, v⟩ := entry
      obtain ⟨hk, hrest⟩ := distinct_cons.mp hd
      rw [setAll_cons, ih hrest, get?_set, get?_cons]
      split
      · next h =>
        rw [get?_eq_none_iff.mpr (h ▸ hk)]
        rfl
      · rfl

/-- Of entries that all have their values from one source, it does not matter
which comes last. -/
theorem get?_setAll_of_source {source entries : Fields α}
    (h : ∀ entry ∈ entries, source.get? entry.1 = some entry.2) (fields : Fields α)
    (key : String) :
    (fields.setAll entries).get? key =
      if key ∈ entries.keys then source.get? key else fields.get? key := by
  induction entries generalizing fields with
  | nil => simp
  | cons entry rest ih =>
      obtain ⟨k, v⟩ := entry
      obtain ⟨hentry, hrest⟩ := List.forall_mem_cons.mp h
      rw [setAll_cons, ih hrest, get?_set, keys_cons]
      by_cases hk : k = key
      · subst hk
        simp [hentry]
      · simp [hk, Ne.symm hk]

theorem forall_mem_setAll {P : α → Prop} {fields entries : Fields α}
    (h : ∀ entry ∈ fields, P entry.2) (he : ∀ entry ∈ entries, P entry.2) :
    ∀ entry ∈ fields.setAll entries, P entry.2 := by
  induction entries generalizing fields with
  | nil => exact h
  | cons entry rest ih =>
      rw [List.forall_mem_cons] at he
      exact ih (forall_mem_set h he.1) he.2

end SchemaLoom.Fields
