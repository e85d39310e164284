import Mathlib.Data.List.Sort
import SchemaLoom.Proofs.Fields.Sequence
import SchemaLoom.Proofs.Schema.Paths

/-!
# The order of keys in a merged schema

A merged node has the keys of the base in their places and then those that only
the overlay has, and what is put together from both sides comes behind them if
the base has no place for it. Properties are brought into the same sequence and
then sorted by the positions that they end up with. Both rules hold at every
node that is merged.

A position is the number that a node has under a key, and what is expected of
the order names that number and no function that sorts. That the merge sorts by
it is shown for a list first, then for the properties of a merged node, and for
whole schemas at last.
-/

namespace SchemaLoom.Schema

open Json Fields

/-- The number under the key `position`, as it reads in binary64, is `x`. A node
has at most one position: any other value under the key, and any node that is no
object, gives none. -/
def HasPosition (node : Json) (x : Binary64) : Prop :=
  ∃ n, node.get? "position" = some (.number n) ∧ n.toBinary64 = x

theorem position?_eq_some_iff {node : Json} {x : Binary64} :
    position? node = some x ↔ HasPosition node x := by
  rw [position?, HasPosition]
  constructor
  · intro h
    obtain ⟨value, hvalue, hx⟩ := Option.bind_eq_some_iff.mp h
    cases value with
    | number n => exact ⟨n, hvalue, Option.some.inj hx⟩
    | null | bool _ | string _ | array _ | object _ => cases hx
  · rintro ⟨n, hn, rfl⟩
    rw [hn]
    rfl

theorem position?_eq_none_iff {node : Json} :
    position? node = none ↔ ∀ x, ¬HasPosition node x := by
  simp only [Option.eq_none_iff_forall_ne_some, ne_eq, position?_eq_some_iff]

/-- Whether a node stands before another by position: it has a number for one,
and the other has a larger one or none. Two nodes neither of which stands before
the other tie. -/
def StandsBefore (a b : Json) : Prop :=
  ∃ x, HasPosition a x ∧ ∀ y, HasPosition b y → x.toInt < y.toInt

theorem mayPrecede_iff {a b : Json} : mayPrecede b a = true ↔ ¬StandsBefore a b := by
  simp only [mayPrecede, StandsBefore, ← position?_eq_some_iff]
  cases ha : position? a with
  | none => cases position? b <;> simp
  | some x =>
      cases hb : position? b with
      | none => simp
      | some y => simp [Binary64.le_iff]

theorem StandsBefore.asymm {a b : Json} (h : StandsBefore a b) : ¬StandsBefore b a := by
  obtain ⟨x, hx, hbelow⟩ := h
  rintro ⟨y, hy, habove⟩
  have := hbelow y hy
  have := habove x hx
  omega

/-- Entries of the list that may stand in their order do so once it is sorted. -/
theorem sublist_ordered {properties : Fields Json} {a b : String × Json}
    (hle : mayPrecede a.2 b.2 = true) (h : [a, b].Sublist properties) :
    [a, b].Sublist (ordered properties) :=
  List.pair_sublist_mergeSort (fun a b c => mayPrecede_trans a.2 b.2 c.2)
    (fun a b => mayPrecede_total a.2 b.2) hle h

/-- Entries that come in some order once the list is sorted may stand in it. -/
theorem mayPrecede_of_sublist_ordered {properties : Fields Json} {a b : String × Json}
    (h : [a, b].Sublist (ordered properties)) : mayPrecede a.2 b.2 = true :=
  (List.pairwise_cons.mp ((pairwise_ordered properties).sublist h)).1 b List.mem_cons_self

/-- Sorting puts a property in front of the first of the others that it may
stand before. So the sort is told without halving the list, by a recursion that
follows it. -/
theorem ordered_cons (entry : String × Json) (properties : Fields Json) :
    ordered (entry :: properties) =
      (ordered properties).orderedInsert (fun a b => mayPrecede a.2 b.2 = true) entry := by
  obtain ⟨before, after, hsorted, hrest, hbefore⟩ :=
    List.mergeSort_cons (fun a b c => mayPrecede_trans a.2 b.2 c.2)
      (fun a b => mayPrecede_total a.2 b.2) entry properties
  have hpairwise := pairwise_ordered (entry :: properties)
  rw [ordered, hsorted] at hpairwise
  rw [ordered, hsorted, ordered, hrest]
  clear hsorted hrest
  -- The entry passes all that stand in front of it and none that stand behind.
  induction before with
  | nil =>
      cases after with
      | nil => rfl
      | cons first after =>
          have hfirst : mayPrecede entry.2 first.2 = true :=
            (List.pairwise_cons.mp hpairwise).1 first List.mem_cons_self
          rw [List.nil_append, List.nil_append, List.orderedInsert_cons, if_pos hfirst]
  | cons first before ih =>
      have hfirst : ¬mayPrecede entry.2 first.2 = true := by
        simpa using hbefore first List.mem_cons_self
      rw [List.cons_append, List.cons_append, List.orderedInsert_cons, if_neg hfirst,
        ih (fun b hb => hbefore b (List.mem_cons_of_mem _ hb)) hpairwise.of_cons]

theorem ordered_eq_insertionSort (properties : Fields Json) :
    ordered properties = properties.insertionSort fun a b => mayPrecede a.2 b.2 = true := by
  induction properties with
  | nil => exact List.mergeSort_nil
  | cons entry properties ih => rw [ordered_cons, ih, List.insertionSort_cons]

section Ordered

variable {properties : Fields Json} {p q : String} {x y : Json}

theorem mayPrecede_of_precedes_ordered (h : properties.Distinct) (hp : properties.get? p = some x)
    (hq : properties.get? q = some y) (hpq : Precedes (ordered properties).keys p q) :
    mayPrecede x y = true := by
  rw [← get?_ordered h] at hp hq
  exact mayPrecede_of_sublist_ordered ((precedes_iff (distinct_ordered h) hp hq).mp hpq)

theorem precedes_ordered_of_precedes (h : properties.Distinct) (hp : properties.get? p = some x)
    (hq : properties.get? q = some y) (hle : mayPrecede x y = true)
    (hpq : Precedes properties.keys p q) : Precedes (ordered properties).keys p q := by
  have hentries := sublist_ordered hle ((precedes_iff h hp hq).mp hpq)
  rw [← get?_ordered h] at hp hq
  exact (precedes_iff (distinct_ordered h) hp hq).mpr hentries

/-- Which of two properties comes first is settled by their positions, and by
the order they come in where positions do not tell. -/
theorem precedes_ordered_iff (h : properties.Distinct) (hp : properties.get? p = some x)
    (hq : properties.get? q = some y) :
    Precedes (ordered properties).keys p q ↔
      StandsBefore x y ∨
        ¬StandsBefore x y ∧ ¬StandsBefore y x ∧ Precedes properties.keys p q := by
  have hd : (ordered properties).Distinct := distinct_ordered h
  constructor
  · intro hpq
    by_cases hbefore : StandsBefore x y
    · exact .inl hbefore
    refine .inr ⟨hbefore, mayPrecede_iff.mp (mayPrecede_of_precedes_ordered h hp hq hpq), ?_⟩
    -- If they came the other way round, they would have stayed so.
    refine (precedes_or (mem_keys_of_get? hp) (mem_keys_of_get? hq) (hpq.ne hd)).resolve_right ?_
    intro hqp
    exact hpq.asymm hd (precedes_ordered_of_precedes h hq hp (mayPrecede_iff.mpr hbefore) hqp)
  · rintro (hbefore | ⟨_, hnot, hpq⟩)
    · have hne : p ≠ q := by
        rintro rfl
        obtain rfl := Option.some.inj (hp.symm.trans hq)
        exact hbefore.asymm hbefore
      have hmem : p ∈ (ordered properties).keys ∧ q ∈ (ordered properties).keys :=
        ⟨mem_keys_of_get? ((get?_ordered h p).trans hp),
          mem_keys_of_get? ((get?_ordered h q).trans hq)⟩
      refine (precedes_or hmem.1 hmem.2 hne).resolve_right fun hqp => ?_
      exact mayPrecede_iff.mp (mayPrecede_of_precedes_ordered h hq hp hqp) hbefore
    · exact precedes_ordered_of_precedes h hp hq (mayPrecede_iff.mpr hnot) hpq

end Ordered

/-- The properties of both sides come together in turn: those of the base, and
then those that only the overlay has. -/
theorem keys_combine {overlay : Fields Json} (h : overlay.Distinct) (policy : Policy)
    (base : Fields Json) : (combine policy base overlay).keys = inTurn base.keys overlay.keys := by
  induction overlay generalizing base with
  | nil => simp [combine]
  | cons entry rest ih =>
      obtain ⟨key, value⟩ := entry
      obtain ⟨hkey, hrest⟩ := distinct_cons.mp h
      rw [combine.eq_def]
      dsimp only
      rw [ih hrest, keys_set, keys_cons, inTurn_cons hkey]

def ownKeys (base overlay : Fields Json) (apart : List String) : List String :=
  base.keys ++ overlay.keys.filter fun key => !base.has key && !apart.contains key

def late (key : String) (base overlay : Fields Json) : List String :=
  if !base.has key && overlay.has key then [key] else []

theorem keys_filter (keep : String → Bool) (fields : Fields Json) :
    Fields.keys (fields.filter fun entry => keep entry.1) = fields.keys.filter keep := by
  rw [Fields.keys, Fields.keys, List.filter_map]
  rfl

theorem keys_overlaid {overlay : Fields Json} (h : overlay.Distinct) (base : Fields Json)
    (apart : List String) : (overlaid base overlay apart).keys = ownKeys base overlay apart := by
  rw [overlaid, keys_setAll (h.sublist List.filter_sublist), inTurn,
    keys_filter fun key => !apart.contains key, List.filter_filter, ownKeys]
  simp only [contains_keys]

/-- A key that is set last keeps the place that the base has for it, and comes
behind all others if the base has none. -/
theorem keys_set_late {base overlay out : Fields Json} {key : String} {rest : List String}
    (hout : out.keys = base.keys ++ rest) (hrest : key ∉ rest) (value : Json)
    (hhas : (base.has key || overlay.has key) = true) :
    (out.set key value).keys = out.keys ++ late key base overlay := by
  rw [keys_set, late, hout]
  cases hb : base.has key with
  | true => simp [has_iff.mp hb]
  | false =>
      have hnot : key ∉ base.keys := fun hmem => by
        rw [has_iff.mpr hmem] at hb
        cases hb
      rw [hb, Bool.false_or] at hhas
      simp [hhas, hnot, hrest]

theorem late_of_none {key : String} {base overlay : Fields Json}
    (h : ¬(base.has key || overlay.has key) = true) : late key base overlay = [] := by
  simp only [Bool.or_eq_true, not_or, Bool.not_eq_true] at h
  simp [late, h.2]

theorem not_mem_late {key other : String} (h : key ≠ other) (base overlay : Fields Json) :
    key ∉ late other base overlay := by
  unfold late
  split <;> simp [h]

theorem keys_objectNode {overlay : Fields Json} (h : overlay.Distinct)
    (base properties : Fields Json) :
    (objectNode base overlay properties).keys =
      ownKeys base overlay ["properties", "required"] ++ late "properties" base overlay ++
        late "required" base overlay := by
  have hown := keys_overlaid h base ["properties", "required"]
  -- First `properties` are put where they belong, and `required` behind them.
  have hproperties : Fields.keys
      (if base.has "properties" || overlay.has "properties" then
        (overlaid base overlay ["properties", "required"]).set "properties"
          (.object (ordered properties))
      else overlaid base overlay ["properties", "required"]) =
      ownKeys base overlay ["properties", "required"] ++ late "properties" base overlay := by
    split
    · next hhas => rw [keys_set_late hown (by simp) _ hhas, hown]
    · next hhas => rw [late_of_none hhas, List.append_nil, hown]
  unfold objectNode
  dsimp only
  split
  · next hhas =>
    rw [ownKeys, List.append_assoc] at hproperties
    rw [keys_set_late hproperties (by simp [not_mem_late]) _ hhas, hproperties]
    simp only [ownKeys, List.append_assoc]
  · next hhas => rw [late_of_none hhas, List.append_nil, hproperties]

theorem keys_mergeNode {overlay : Fields Json} (h : overlay.Distinct) (policy : Policy)
    (base : Fields Json) :
    (mergeNode policy base overlay).keys =
      ownKeys base overlay ["properties", "required"] ++ late "properties" base overlay ++
        late "required" base overlay :=
  keys_objectNode h base _

/-- The keys of a merged root. If neither side has `properties` they are the
last key. -/
theorem keys_merge {overlay : Fields Json} (h : overlay.Distinct) (policy : Policy)
    (base : Fields Json) :
    (merge policy base overlay).keys =
      (mergeNode policy base overlay).keys ++
        if base.has "properties" || overlay.has "properties" then [] else ["properties"] := by
  have hhas : (mergeNode policy base overlay).has "properties" =
      (base.has "properties" || overlay.has "properties") := by
    rw [Fields.has, get?_mergeNode_properties h]
    split_ifs with hp
    · exact hp.symm
    · exact (Bool.eq_false_iff.mpr hp).symm
  unfold merge
  dsimp only
  rw [← hhas]
  split
  · rw [List.append_nil]
  · next hnot =>
    rw [keys_set, if_neg fun hmem => hnot (has_iff.mpr hmem)]

theorem keys_mergeArray {overlay : Fields Json} (h : overlay.Distinct) (policy : Policy)
    (base : Fields Json) :
    (mergeArray policy base overlay).keys =
      ownKeys base overlay ["items"] ++ late "items" base overlay := by
  have hown := keys_overlaid h base ["items"]
  unfold mergeArray arrayNode
  dsimp only
  rw [itemsIn_eq_laid]
  split
  · next items hitems =>
    have hhas : (base.has "items" || overlay.has "items") = true := by
      rw [Fields.has, Fields.has]
      cases hb : base.get? "items" <;> cases ho : overlay.get? "items" <;> simp_all
    rw [keys_set_late hown (by simp) _ hhas, hown]
  · next hitems =>
    have hhas : ¬(base.has "items" || overlay.has "items") = true := by
      rw [Fields.has, Fields.has]
      cases hb : base.get? "items" <;> cases ho : overlay.get? "items" <;> simp_all
    rw [late_of_none hhas, List.append_nil, hown]

/-- The order of the keys where two nodes of the kind `object`, or two roots,
are merged. First come the keys of the base, then those that only the overlay
has, then what is put together and was not in the base; a root gets `properties`
in any case, and last if neither side has them. The properties are ordered by
the positions that they end up with, and where positions do not tell by the
sequence of the base's properties and then those that only the overlay has. -/
structure ObjectInOrder (atRoot : Bool) (base overlay merged : Fields Json) : Prop where
  keys : merged.keys =
    ownKeys base overlay ["properties", "required"] ++ late "properties" base overlay ++
      late "required" base overlay ++
      if atRoot && !base.has "properties" && !overlay.has "properties" then ["properties"] else []
  properties : ∀ p q x y, (propertiesOf merged).get? p = some x →
    (propertiesOf merged).get? q = some y →
      (Precedes (propertiesOf merged).keys p q ↔
        StandsBefore x y ∨
          ¬StandsBefore x y ∧ ¬StandsBefore y x ∧
            Precedes (inTurn (propertiesOf base).keys (propertiesOf overlay).keys) p q)

/-- The order of the keys where two nodes of the kind `array` are merged: those
of the base, then those that only the overlay has, then `items` that were not in
the base. -/
structure ArrayInOrder (base overlay merged : Fields Json) : Prop where
  keys : merged.keys = ownKeys base overlay ["items"] ++ late "items" base overlay

/-- A merged schema whose keys are in order at the root and, if it was merged
deeply, wherever two nodes of the kind `object` or two of the kind `array` meet. -/
structure InOrder (policy : Policy) (base overlay merged : Fields Json) : Prop where
  root : ObjectInOrder true base overlay merged
  objects : policy = .deep → ∀ path b o, path ≠ [] → nodeAt base path = some (.object b) →
    nodeAt overlay path = some (.object o) → kindOf (.object b) = .ok .object →
      kindOf (.object o) = .ok .object →
        ∃ m, nodeAt merged path = some (.object m) ∧ ObjectInOrder false b o m
  arrays : policy = .deep → ∀ path b o, path ≠ [] → nodeAt base path = some (.object b) →
    nodeAt overlay path = some (.object o) → kindOf (.object b) = .ok .array →
      kindOf (.object o) = .ok .array →
        ∃ m, nodeAt merged path = some (.object m) ∧ ArrayInOrder b o m

/-- Which of two merged properties comes first: the positions that they end up
with decide, and otherwise the sequence of the two sides. -/
theorem precedes_mergeProperties_iff {base overlay : Fields Json} (hb : base.Distinct)
    (ho : overlay.Distinct) (policy : Policy) {p q : String} {x y : Json}
    (hp : (mergeProperties policy base overlay).get? p = some x)
    (hq : (mergeProperties policy base overlay).get? q = some y) :
    Precedes (mergeProperties policy base overlay).keys p q ↔
      StandsBefore x y ∨
        ¬StandsBefore x y ∧ ¬StandsBefore y x ∧ Precedes (inTurn base.keys overlay.keys) p q := by
  have hcombined := distinct_combine hb policy overlay
  rw [mergeProperties, get?_ordered hcombined] at hp hq
  rw [mergeProperties, precedes_ordered_iff hcombined hp hq, keys_combine ho]

theorem objectInOrder_mergeNode {base overlay : Fields Json} (hb : UniqueKeys (.object base))
    (ho : UniqueKeys (.object overlay)) (policy : Policy) :
    ObjectInOrder false base overlay (mergeNode policy base overlay) where
  keys := by simp [keys_mergeNode ho.distinct]
  properties p q x y := by
    rw [propertiesOf_mergeNode ho.distinct]
    exact precedes_mergeProperties_iff (uniqueKeys_propertiesOf hb).distinct
      (uniqueKeys_propertiesOf ho).distinct policy

theorem objectInOrder_merge {base overlay : Fields Json} (hb : UniqueKeys (.object base))
    (ho : UniqueKeys (.object overlay)) (policy : Policy) :
    ObjectInOrder true base overlay (merge policy base overlay) where
  keys := by
    rw [keys_merge ho.distinct, keys_mergeNode ho.distinct]
    cases base.has "properties" <;> cases overlay.has "properties" <;> rfl
  properties p q x y := by
    rw [propertiesOf_merge ho.distinct]
    exact precedes_mergeProperties_iff (uniqueKeys_propertiesOf hb).distinct
      (uniqueKeys_propertiesOf ho).distinct policy

/-- The order of the keys in a merged schema is settled by the two sides, at the
root and at every node that is merged. -/
theorem inOrder_merge {base overlay : Fields Json} (hb : UniqueKeys (.object base))
    (ho : UniqueKeys (.object overlay)) (policy : Policy) :
    InOrder policy base overlay (merge policy base overlay) where
  root := objectInOrder_merge hb ho policy
  objects := by
    rintro rfl path b o hpath hwb hwo hkb hko
    refine ⟨mergeNode .deep b o, ?_, objectInOrder_mergeNode (uniqueKeys_nodeAt hb path _ hwb)
      (uniqueKeys_nodeAt ho path _ hwo) .deep⟩
    rw [nodeAt_merge_of_both hb ho hpath hwb hwo, mergeValue_objects hkb hko]
  arrays := by
    rintro rfl path b o hpath hwb hwo hkb hko
    refine ⟨mergeArray .deep b o, ?_, ⟨keys_mergeArray (distinct_nodeAt ho hwo) .deep b⟩⟩
    rw [nodeAt_merge_of_both hb ho hpath hwb hwo, mergeValue_arrays hkb hko]

/-- An overlay that gives positions and takes them away, and brings keywords
that the base has no place for. Under the deep policy `inner` keeps the position
that the base gives it; inside it `y` and `z` have integers that are one number
in binary64, so they stay in their sequence. -/
theorem inOrder_merge_positions :
    let node (kind : String) (rest : Fields Json) := Json.object (("type", .string kind) :: rest)
    let position (n : Int) : String × Json := ("position", .number (.integer n))
    let base : Fields Json :=
      [("title", .string "t"),
        ("properties", .object
          [("none", node "string" []), ("text", node "string" [position 1]),
            ("two", node "string" [position 2]),
            ("inner", node "object" [position 5, ("properties", .object
              [("x", node "string" []), ("y", node "string" [position 9007199254740993])])]),
            ("list", node "array" [])])]
    let overlay : Fields Json :=
      [("required", .array [.string "two"]),
        ("properties", .object
          [("one", node "string" [("position", .number (.binary (.ofInt 1)))]),
            ("text", node "string" [("position", .string "1")]),
            ("list", node "array" [("items", node "string" []), ("nullable", .bool true)]),
            ("inner", node "object" [("required", .array []), ("properties", .object
              [("z", node "string" [position 9007199254740992]),
                ("x", node "string" [position 9007199254740994])]), ("nullable", .bool true)])]),
        ("description", .string "d")]
    UniqueKeys (.object base) ∧ UniqueKeys (.object overlay) ∧
      (∀ policy, InOrder policy base overlay (merge policy base overlay) ∧
        (merge policy base overlay).keys = ["title", "properties", "description", "required"]) ∧
      (propertiesOf (merge .shallow base overlay)).keys =
        ["one", "two", "none", "text", "inner", "list"] ∧
      (propertiesOf (merge .deep base overlay)).keys =
        ["one", "two", "inner", "none", "text", "list"] ∧
      (∃ inner : Fields Json,
        nodeAt (merge .deep base overlay) [.property "inner"] = some (.object inner) ∧
          inner.keys = ["type", "position", "properties", "nullable", "required"] ∧
          (propertiesOf inner).keys = ["y", "z", "x"]) ∧
      ∃ list : Fields Json,
        nodeAt (merge .deep base overlay) [.property "list"] = some (.object list) ∧
          list.keys = ["type", "nullable", "items"] := by
  intro node position base overlay
  have hb : UniqueKeys (.object base) := by simp [base, node, position, Fields.Distinct]
  have ho : UniqueKeys (.object overlay) := by simp [overlay, node, position, Fields.Distinct]
  refine ⟨hb, ho, fun policy => ⟨inOrder_merge hb ho policy, ?_⟩, ?_, ?_, ?_, ?_⟩
  · rw [keys_merge ho.distinct, keys_mergeNode ho.distinct]
    decide
  · rw [propertiesOf_merge ho.distinct, mergeProperties, ordered_eq_insertionSort]
    decide +kernel
  · rw [propertiesOf_merge ho.distinct, mergeProperties, ordered_eq_insertionSort]
    decide +kernel
  · refine ⟨_, (nodeAt_merge_of_both hb ho (List.cons_ne_nil _ _) rfl rfl).trans
      (congrArg some (mergeValue_objects rfl rfl)), ?_, ?_⟩
    · rw [keys_mergeNode (by simp [position, Fields.Distinct])]
      decide
    · rw [propertiesOf_mergeNode (by simp [position, Fields.Distinct]), mergeProperties,
        ordered_eq_insertionSort]
      decide +kernel
  · refine ⟨_, (nodeAt_merge_of_both hb ho (List.cons_ne_nil _ _) rfl rfl).trans
      (congrArg some (mergeValue_arrays rfl rfl)), ?_⟩
    rw [keys_mergeArray (by simp [Fields.Distinct])]
    decide

end SchemaLoom.Schema
