import Mathlib.Data.List.Basic
import SchemaLoom.Proofs.Schema.Kept
import SchemaLoom.Proofs.Schema.KeyOrder
import SchemaLoom.Proofs.Schema.Reapplied

/-!
# Sorting by position

Properties are sorted by the positions that they carry, and those without one
come last. Sorting is stable and changes nothing else: a list of the same
entries in which any two stand in the order that their positions give, or else
in the one they had before, is the sorted list.

At the root of a schema the properties are sorted this way if they are an
object, and nothing else is touched. What is expected names the number that a
property has under the key `position` and no sort, and is shown to leave one
list only.
-/

namespace SchemaLoom.Schema

open Json Fields

/-- One node has a position and the other has none, or both have one and that of
the first is smaller. -/
theorem standsBefore_iff {a b : Json} :
    StandsBefore a b ↔ ((∃ x, HasPosition a x) ∧ ∀ y, ¬HasPosition b y) ∨
      ∃ x y, HasPosition a x ∧ HasPosition b y ∧ x.toInt < y.toInt := by
  simp only [StandsBefore, ← position?_eq_some_iff]
  cases hb : position? b with
  | none => simp
  | some y => simp

/-- Keys without repetition are the same list if any two of them come in the
same order in both. -/
theorem eq_of_precedes {keys others : List String} (hkeys : keys.Nodup) (hperm : keys.Perm others)
    (h : ∀ p ∈ keys, ∀ q ∈ keys, Precedes keys p q ↔ Precedes others p q) : keys = others := by
  have hpairs : ∀ list : List String, list.Pairwise (Precedes list) := fun list =>
    List.pairwise_iff_forall_sublist.mpr id
  have hothers : others.Pairwise (Precedes keys) := by
    refine (hpairs others).imp_of_mem fun hp hq hpq => ?_
    exact (h _ (hperm.mem_iff.mpr hp) _ (hperm.mem_iff.mpr hq)).mpr hpq
  refine List.Perm.eq_of_pairwise (fun p q _ _ hpq hqp => ?_) (hpairs keys) hothers hperm
  exact absurd hqp (hpq.asymm hkeys)

/-- Properties in the order of their positions, with nothing else changed: the
entries are the same and none is there twice. A property comes before another if
it has a position and the other has none, or if both have one and its own is
smaller. Where neither holds either way, the two come as they came before. -/
structure SortedByPosition (properties sorted : Fields Json) : Prop where
  entries : sorted.Perm properties
  distinct : sorted.Distinct
  precedes : ∀ p q x y, properties.get? p = some x → properties.get? q = some y →
    (Precedes sorted.keys p q ↔
      ((∃ a, HasPosition x a) ∧ ∀ b, ¬HasPosition y b) ∨
        (∃ a b, HasPosition x a ∧ HasPosition y b ∧ a.toInt < b.toInt) ∨
          (¬StandsBefore x y ∧ ¬StandsBefore y x ∧ Precedes properties.keys p q))

theorem SortedByPosition.unique {properties a b : Fields Json} (ha : SortedByPosition properties a)
    (hb : SortedByPosition properties b) : a = b := by
  have hperm : a.Perm b := ha.entries.trans hb.entries.symm
  have hproperties : properties.Distinct := ha.distinct.perm ha.entries.symm
  refine ext_get? ha.distinct (eq_of_precedes ha.distinct (hperm.map Prod.fst) ?_) fun key =>
    get?_of_perm hperm hb.distinct key
  intro p hp q hq
  have hvalue : ∀ key ∈ a.keys, ∃ value, properties.get? key = some value := by
    intro key hkey
    obtain ⟨entry, hentry, rfl⟩ := List.mem_map.mp hkey
    exact ⟨entry.2, (get?_eq_some_iff hproperties).mpr (ha.entries.subset hentry)⟩
  obtain ⟨x, hx⟩ := hvalue p hp
  obtain ⟨y, hy⟩ := hvalue q hq
  rw [ha.precedes p q x y hx hy, hb.precedes p q x y hx hy]

theorem sortedByPosition {properties : Fields Json} (h : properties.Distinct) :
    SortedByPosition properties (ordered properties) where
  entries := ordered_perm properties
  distinct := distinct_ordered h
  precedes p q x y hx hy := by
    rw [precedes_ordered_iff h hx hy, standsBefore_iff, or_assoc, ← standsBefore_iff]

/-- A schema whose root properties are sorted if they are an object: every other
key keeps its value, and all keys keep their places. A schema without an object
there is as it was. -/
inductive RootSorted : Json → Json → Prop where
  | sorted {fields after properties : Fields Json}
      (found : fields.get? "properties" = some (.object properties))
      (keys : after.keys = fields.keys)
      (value : after.get? "properties" = some (.object (ordered properties)))
      (others : ∀ key, key ≠ "properties" → after.get? key = fields.get? key) :
      RootSorted (.object fields) (.object after)
  | same {schema : Json}
      (missing : ∀ properties, schema.get? "properties" ≠ some (.object properties)) :
      RootSorted schema schema

theorem rootSorted_orderRoot (schema : Json) : RootSorted schema (orderRoot schema) := by
  unfold orderRoot
  split
  · next fields =>
    split
    · next properties hfound =>
      refine .sorted hfound ?_ (get?_set_self _ _ _) fun key hkey => get?_set_of_ne hkey _ _
      rw [keys_set, if_pos (mem_keys_of_get? hfound)]
    · next hmissing => exact .same hmissing
  · next hother =>
    refine .same fun properties hfound => ?_
    cases schema with
    | object fields => exact hother fields rfl
    | _ => cases hfound

/-- Ordering is the stable sort by position and does nothing else: which of two
properties comes first is settled by their positions, or else by the order they
came in, and this settles the whole list. So ordering twice is ordering once,
and properties without positions stay as they are. At the root of a schema
nothing but the order of the properties changes. -/
theorem ordered_isStableSort {properties : Fields Json} (h : properties.Distinct) :
    SortedByPosition properties (ordered properties) ∧
      (∀ other, SortedByPosition properties other → other = ordered properties) ∧
      ordered (ordered properties) = ordered properties ∧
      ((∀ entry ∈ properties, ∀ x, ¬HasPosition entry.2 x) → ordered properties = properties) ∧
      ∀ schema, RootSorted schema (orderRoot schema) :=
  ⟨sortedByPosition h, fun _ hother => hother.unique (sortedByPosition h),
    ordered_ordered properties,
    fun hnone => ordered_of_unpositioned fun entry hentry =>
      position?_eq_none_iff.mpr (hnone entry hentry),
    rootSorted_orderRoot⟩

/-- Two integers that are too long to be told apart tie, and so do the zeros of
either sign. A position that is a text counts as none. -/
theorem ordered_isStableSort_ties :
    let node (position : Json) := Json.object [("type", .string "string"), ("position", position)]
    let properties : Fields Json :=
      [("text", node (.string "1")), ("long", node (.number (.integer 9007199254740993))),
        ("longer", node (.number (.integer 9007199254740992))),
        ("zero", node (.number (.integer 0))), ("minus", node (.number (.binary ⟨true, 0⟩)))]
    properties.Distinct ∧ SortedByPosition properties (ordered properties) ∧
      Precedes (ordered properties).keys "long" "longer" ∧
      Precedes (ordered properties).keys "zero" "minus" ∧
      Precedes (ordered properties).keys "minus" "long" ∧
      Precedes (ordered properties).keys "longer" "text" := by
  intro node properties
  have h : properties.Distinct := by simp [properties, Fields.Distinct]
  have hsorted := (ordered_isStableSort h).1
  -- Neither node of a tie stands before the other.
  have hlong : mayPrecede (node (.number (.integer 9007199254740992)))
        (node (.number (.integer 9007199254740993))) = true ∧
      mayPrecede (node (.number (.integer 9007199254740993)))
        (node (.number (.integer 9007199254740992))) = true := by decide +kernel
  have hzero : mayPrecede (node (.number (.binary ⟨true, 0⟩)))
        (node (.number (.integer 0))) = true ∧
      mayPrecede (node (.number (.integer 0)))
        (node (.number (.binary ⟨true, 0⟩))) = true := by decide +kernel
  have hcame : ["long", "longer"].Sublist properties.keys ∧
      ["zero", "minus"].Sublist properties.keys := by decide
  refine ⟨h, hsorted, ?_, ?_, ?_, ?_⟩
  · exact (hsorted.precedes "long" "longer" _ _ rfl rfl).mpr
      (.inr (.inr ⟨mayPrecede_iff.mp hlong.1, mayPrecede_iff.mp hlong.2, hcame.1⟩))
  · exact (hsorted.precedes "zero" "minus" _ _ rfl rfl).mpr
      (.inr (.inr ⟨mayPrecede_iff.mp hzero.1, mayPrecede_iff.mp hzero.2, hcame.2⟩))
  · refine (hsorted.precedes "minus" "long" _ _ rfl rfl).mpr (.inr (.inl
      ⟨_, _, ⟨_, rfl, rfl⟩, ⟨_, rfl, rfl⟩, ?_⟩))
    decide +kernel
  · exact (hsorted.precedes "longer" "text" _ _ rfl rfl).mpr (.inl
      ⟨⟨_, _, rfl, rfl⟩, position?_eq_none_iff.mp rfl⟩)

end SchemaLoom.Schema
