import Mathlib.Data.List.Nodup
import SchemaLoom.Proofs.Fields.Lookup
import SchemaLoom.Proofs.Fields.Once

/-!
# The sequence of keys

Setting a key keeps its place or puts it last, so after many the keys of the
first side stand as they were, and behind them those that only the second has,
in its order. Which of two keys comes first is told by either of the lists that
hold both.

With the answers to look-ups, the sequence of keys settles a list of entries:
two such lists with the same keys in order and the same answers are equal.
-/

namespace SchemaLoom.Fields

variable {α : Type}

/-- The keys of two sides: those of the first, and then those that only the
second has. -/
def inTurn (first second : List String) : List String :=
  first ++ second.filter fun key => !first.contains key

@[simp] theorem inTurn_nil (first : List String) : inTurn first [] = first := by simp [inTurn]

theorem inTurn_cons {key : String} {rest : List String} (h : key ∉ rest) (first : List String) :
    inTurn first (key :: rest) = inTurn (if key ∈ first then first else first ++ [key]) rest := by
  unfold inTurn
  split
  · next hmem => rw [List.filter_cons_of_neg (by simpa using hmem)]
  · next hmem =>
    have hrest : rest.filter (fun k => !(first ++ [key]).contains k) =
        rest.filter fun k => !first.contains k := by
      refine List.filter_congr fun k hk => ?_
      have hne : k ≠ key := fun e => h (e ▸ hk)
      simp [hne]
    rw [List.filter_cons_of_pos (by simpa using hmem), hrest, List.append_assoc,
      List.singleton_append]

/-- The keys after setting entries that repeat none: those of both sides in turn. -/
theorem keys_setAll {entries : Fields α} (h : entries.Distinct) (fields : Fields α) :
    (fields.setAll entries).keys = inTurn fields.keys entries.keys := by
  induction entries generalizing fields with
  | nil => simp
  | cons entry rest ih =>
      obtain ⟨key, value⟩ := entry
      obtain ⟨hkey, hrest⟩ := distinct_cons.mp h
      rw [setAll_cons, ih hrest, keys_set, keys_cons, inTurn_cons hkey]

/-- The keys after setting any entries: each stands where it came first. -/
theorem keys_setAll_eq_eraseDups {fields : Fields α} (h : fields.Distinct) (entries : Fields α) :
    (fields.setAll entries).keys = (fields.keys ++ entries.keys).eraseDups := by
  induction entries generalizing fields with
  | nil => rw [setAll_nil, keys_nil, List.append_nil, Once.eraseDups_of_nodup h]
  | cons entry rest ih =>
      obtain ⟨key, value⟩ := entry
      have hassoc : fields.keys ++ key :: keys rest = (fields.keys ++ [key]) ++ keys rest := by simp
      rw [setAll_cons, ih (h.set key value), keys_set, keys_cons, hassoc]
      split
      · next hmem =>
        have hsame : (fields.keys ++ [key]).eraseDups = fields.keys.eraseDups :=
          Once.eraseDups_append_of_subset (by simpa using hmem)
        rw [← Once.eraseDups_append_left (fields.keys ++ [key]), hsame, Once.eraseDups_append_left]
      · rfl

/-- Entries with the same keys in the same order that are found alike are the same. -/
theorem ext_get? {a b : Fields α} (ha : a.Distinct) (hkeys : a.keys = b.keys)
    (h : ∀ key, a.get? key = b.get? key) : a = b := by
  induction a generalizing b with
  | nil => exact (List.map_eq_nil_iff.mp hkeys.symm).symm
  | cons entry rest ih =>
      cases b with
      | nil => cases hkeys
      | cons other more =>
          obtain ⟨key, value⟩ := entry
          obtain ⟨key', value'⟩ := other
          obtain ⟨rfl, hrest : keys rest = keys more⟩ := List.cons.inj hkeys
          obtain ⟨hkey, hdistinct⟩ := distinct_cons.mp ha
          have hvalue : value = value' := by simpa using h key
          have htail : rest = more := by
            refine ih hdistinct hrest fun k => ?_
            by_cases hk : key = k
            · subst hk
              have hkey' : key ∉ keys more := hrest ▸ hkey
              rw [get?_eq_none_iff.mpr hkey, get?_eq_none_iff.mpr hkey']
            · simpa [hk] using h k
          rw [hvalue, htail]

/-- What was set already can be set again without any change. -/
theorem setAll_setAll {fields : Fields α} (h : fields.Distinct) (entries : Fields α) :
    fields.setAll (fields.setAll entries) = fields.setAll entries := by
  have hd := h.setAll entries
  have hsubset : fields.keys ⊆ (fields.setAll entries).keys := by
    rw [keys_setAll_eq_eraseDups h]
    exact fun key hkey => List.mem_eraseDups.mpr (List.mem_append_left _ hkey)
  refine ext_get? (h.setAll _) ?_ fun key => ?_
  · have hsame : (fields.keys ++ fields.keys).eraseDups = fields.keys.eraseDups :=
      Once.eraseDups_append_of_subset (List.Subset.refl _)
    rw [keys_setAll_eq_eraseDups h, keys_setAll_eq_eraseDups h, Once.eraseDups_append_right,
      ← List.append_assoc, ← Once.eraseDups_append_left (fields.keys ++ fields.keys), hsame,
      Once.eraseDups_append_left]
  · rw [get?_setAll hd]
    cases hkey : (fields.setAll entries).get? key with
    | some value => rfl
    | none => exact get?_eq_none_iff.mpr fun hmem => get?_eq_none_iff.mp hkey (hsubset hmem)

theorem has_iff {fields : Fields α} {key : String} : fields.has key = true ↔ key ∈ fields.keys := by
  rw [Fields.has, Option.isSome_iff_ne_none, ne_eq, get?_eq_none_iff, not_not]

theorem mem_keys_of_get? {fields : Fields α} {key : String} {value : α}
    (h : fields.get? key = some value) : key ∈ fields.keys :=
  mem_keys_of_mem (mem_of_get? h)

theorem contains_keys (fields : Fields α) (key : String) :
    fields.keys.contains key = fields.has key := by
  rw [Bool.eq_iff_iff, List.contains_iff_mem, has_iff]

/-- Of two keys in a list, the first comes before the second, with any others in
between. -/
def Precedes (keys : List String) (p q : String) : Prop := [p, q].Sublist keys

/-- Of two different keys in a list, one comes before the other. -/
theorem precedes_or {keys : List String} {p q : String} (hp : p ∈ keys) (hq : q ∈ keys)
    (hne : p ≠ q) : Precedes keys p q ∨ Precedes keys q p := by
  induction keys with
  | nil => cases hp
  | cons key rest ih =>
      rcases List.mem_cons.mp hp with rfl | hp'
      · have hq' : q ∈ rest := (List.mem_cons.mp hq).resolve_left hne.symm
        exact .inl ((List.singleton_sublist.mpr hq').cons_cons p)
      · rcases List.mem_cons.mp hq with rfl | hq'
        · exact .inr ((List.singleton_sublist.mpr hp').cons_cons q)
        · exact (ih hp' hq').imp (List.Sublist.cons key) (List.Sublist.cons key)

theorem Precedes.asymm {keys : List String} (h : keys.Nodup) {p q : String}
    (hpq : Precedes keys p q) : ¬Precedes keys q p := by
  induction keys with
  | nil => cases hpq
  | cons key rest ih =>
      obtain ⟨hkey, hrest⟩ := List.nodup_cons.mp h
      have hmem : ∀ {a b : String}, [a, b].Sublist rest → a ∈ rest ∧ b ∈ rest := by
        intro a b hab
        exact ⟨hab.subset List.mem_cons_self,
          hab.subset (List.mem_cons_of_mem a List.mem_cons_self)⟩
      intro hqp
      cases hpq with
      | cons _ hpq =>
          cases hqp with
          | cons _ hqp => exact ih hrest hpq hqp
          | cons_cons _ _ => exact hkey (hmem hpq).2
      | cons_cons _ hq =>
          cases hqp with
          | cons _ hqp => exact hkey (hmem hqp).2
          | cons_cons _ _ => exact hkey (List.singleton_sublist.mp hq)

theorem Precedes.ne {keys : List String} (h : keys.Nodup) {p q : String} (hpq : Precedes keys p q) :
    p ≠ q := by
  rintro rfl
  exact hpq.asymm h hpq

/-- Keys come in the order of their entries, if no key is repeated. -/
theorem precedes_iff {fields : Fields α} (h : fields.Distinct) {p q : String} {x y : α}
    (hp : fields.get? p = some x) (hq : fields.get? q = some y) :
    Precedes fields.keys p q ↔ [(p, x), (q, y)].Sublist fields := by
  constructor
  · intro hpq
    obtain ⟨entries, hentries, hkeys⟩ := List.sublist_map_iff.mp hpq
    obtain ⟨a, b, rfl⟩ : ∃ a b, entries = [a, b] := by
      match entries, hkeys with
      | [a, b], _ => exact ⟨a, b, rfl⟩
    obtain ⟨rfl, rfl⟩ : p = a.1 ∧ q = b.1 := by simpa using hkeys
    have ha : fields.get? a.1 = some a.2 :=
      (get?_eq_some_iff h).mpr (hentries.subset List.mem_cons_self)
    have hb : fields.get? b.1 = some b.2 :=
      (get?_eq_some_iff h).mpr (hentries.subset (List.mem_cons_of_mem _ List.mem_cons_self))
    obtain rfl := Option.some.inj (hp.symm.trans ha)
    obtain rfl := Option.some.inj (hq.symm.trans hb)
    exact hentries
  · exact fun hentries => hentries.map Prod.fst

end SchemaLoom.Fields
