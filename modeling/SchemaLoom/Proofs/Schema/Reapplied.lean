import SchemaLoom.Proofs.Fields.Once
import SchemaLoom.Proofs.Schema.MergedNode

/-!
# Laying an overlay again

A node that an overlay was laid over has the overlay's keywords already, its
required keys and its properties in their order. So laying the overlay again
changes nothing at this node, and what can change is below it: where a node of
the overlay was put as it is, the second time it meets itself and is brought
into the form of a merged node.

Meeting itself once more leaves it in that form, and with the third time nothing
is left to change. This is shown for one node, then for values by the induction
along a deep merge, and for whole schemas at last; `Settled` says which overlays
are in that form from the start.
-/

namespace SchemaLoom.Schema

open Json

theorem ordered_ordered (properties : Fields Json) :
    ordered (ordered properties) = ordered properties :=
  List.mergeSort_of_pairwise (pairwise_ordered properties)

/-- Keywords that a node has from the overlay are not changed by laying it over
the node again. -/
theorem overlaid_eq_self {node overlay : Fields Json} (ho : overlay.Distinct) {apart : List String}
    (h : ∀ key value, key ∉ apart → overlay.get? key = some value → node.get? key = some value) :
    overlaid node overlay apart = node := by
  refine Fields.setAll_of_get? fun entry hentry => ?_
  obtain ⟨hmem, hkeep⟩ := List.mem_filter.mp hentry
  have hapart : entry.1 ∉ apart := by simpa using hkeep
  exact h entry.1 entry.2 hapart ((Fields.get?_eq_some_iff ho).mpr hmem)

/-- Properties that do not change where the overlay has them do not change at all. -/
theorem combine_eq_self {policy : Policy} {base overlay : Fields Json}
    (h : ∀ entry ∈ overlay, ∃ present, base.get? entry.1 = some present ∧
      mergeValue policy present entry.2 = present) : combine policy base overlay = base := by
  induction overlay with
  | nil => rfl
  | cons entry rest ih =>
      obtain ⟨⟨present, hpresent, hmerge⟩, hrest⟩ := List.forall_mem_cons.mp h
      rw [combine.eq_def]
      simp only [hpresent, hmerge]
      rw [Fields.set_of_get? hpresent, ih hrest]

/-- What an overlay's value makes where it meets the base, or where it comes
alone, does not change when the value is laid over it. -/
def Absorbs (policy : Policy) (base : Option Json) (value : Json) : Prop :=
  ∀ present, laid policy base (some value) = some present →
    mergeValue policy present value = present

theorem mergeProperties_again {policy : Policy} {base overlay : Fields Json} (hb : base.Distinct)
    (ho : overlay.Distinct) (h : ∀ entry ∈ overlay, Absorbs policy (base.get? entry.1) entry.2) :
    mergeProperties policy (mergeProperties policy base overlay) overlay =
      mergeProperties policy base overlay := by
  have hcombine : combine policy (mergeProperties policy base overlay) overlay =
      mergeProperties policy base overlay := by
    refine combine_eq_self fun entry hentry => ?_
    have hlaid : (mergeProperties policy base overlay).get? entry.1 =
        laid policy (base.get? entry.1) (some entry.2) := by
      rw [get?_mergeProperties hb ho, (Fields.get?_eq_some_iff ho).mpr hentry]
    obtain ⟨present, hpresent⟩ : ∃ present, laid policy (base.get? entry.1) (some entry.2) =
        some present := by
      cases base.get? entry.1 with
      | none => exact ⟨_, rfl⟩
      | some b => exact ⟨_, rfl⟩
    exact ⟨present, hlaid.trans hpresent, h entry hentry present hpresent⟩
  rw [mergeProperties, hcombine, mergeProperties, ordered_ordered]

/-- Laying the overlay over a node that holds it changes nothing, if it changes
none of the properties. -/
theorem ObjectsMerged.mergeNode_eq_self {policy : Policy} {atRoot : Bool}
    {base overlay merged : Fields Json} (h : ObjectsMerged policy atRoot base overlay merged)
    (hb : UniqueKeys (.object base)) (ho : UniqueKeys (.object overlay))
    (habsorbs : ∀ entry ∈ propertiesOf overlay,
      Absorbs policy ((propertiesOf base).get? entry.1) entry.2) :
    mergeNode policy merged overlay = merged := by
  have hbp := (uniqueKeys_propertiesOf hb).distinct
  have hop := (uniqueKeys_propertiesOf ho).distinct
  have hplain : overlaid merged overlay ["properties", "required"] = merged := by
    refine overlaid_eq_self ho.distinct fun key value hkey hvalue => ?_
    simp only [List.mem_cons, List.not_mem_nil, or_false, not_or] at hkey
    rw [h.keyword key hkey.1 hkey.2, hvalue, Option.some_or]
  have hproperties : (if merged.has "properties" || overlay.has "properties" then
      merged.set "properties" (.object (ordered (combineIn policy merged overlay))) else merged) =
        merged := by
    have hagain : ordered (combineIn policy merged overlay) =
        mergeProperties policy (propertiesOf base) (propertiesOf overlay) := by
      rw [combineIn_eq, h.properties]
      exact mergeProperties_again hbp hop habsorbs
    split_ifs with hhas
    · have hmerged : merged.has "properties" = true := by
        rw [h.hasProperties] at hhas ⊢
        simpa [Bool.or_assoc] using hhas
      rw [hagain, Fields.set_of_get? (h.get?_properties hmerged)]
    · rfl
  have hrequired : (if merged.has "required" || overlay.has "required" then
      merged.set "required" (.array ((unionRequired merged overlay).map .string)) else merged) =
        merged := by
    -- What the overlay requires is required already.
    have hagain : unionRequired merged overlay = unionRequired base overlay := by
      rw [unionRequired, h.requiredOf_eq, unionRequired, Once.eraseDups_append_left]
      exact Once.eraseDups_append_of_subset (List.subset_append_right _ _)
    split_ifs with hhas
    · have hsides : (base.has "required" || overlay.has "required") = true := by
        rw [h.has_required] at hhas
        simpa [Bool.or_assoc] using hhas
      rw [hagain]
      exact Fields.set_of_get? (h.required.trans (if_pos hsides))
    · rfl
  rw [mergeNode, objectNode]
  simp only [hplain, hproperties, hrequired]

/-- The same of two nodes of the kind `array` and their `items`. -/
theorem mergeArray_again {policy : Policy} {base overlay : Fields Json} (ho : overlay.Distinct)
    (habsorbs : ∀ value, overlay.get? "items" = some value →
      Absorbs policy (base.get? "items") value) :
    mergeArray policy (mergeArray policy base overlay) overlay =
      mergeArray policy base overlay := by
  have hget := get?_mergeArray ho policy base
  have hplain : overlaid (mergeArray policy base overlay) overlay ["items"] =
      mergeArray policy base overlay := by
    refine overlaid_eq_self ho fun key value hkey hvalue => ?_
    have hne : key ≠ "items" := by simpa using hkey
    rw [hget, if_neg hne, hvalue, Option.some_or]
  have hitems : itemsIn policy ((mergeArray policy base overlay).get? "items") overlay =
      (mergeArray policy base overlay).get? "items" := by
    rw [itemsIn_eq_laid, hget, if_pos rfl]
    cases hvalue : overlay.get? "items" with
    | none => rw [laid_none_right]
    | some value =>
        cases hlaid : laid policy (base.get? "items") (some value) with
        | none => cases hbase : base.get? "items" <;> simp [hbase] at hlaid
        | some present => rw [laid_some, habsorbs value hvalue present hlaid]
  generalize mergeArray policy base overlay = node at hplain hitems ⊢
  unfold mergeArray arrayNode
  dsimp only
  rw [hplain, hitems]
  split
  · next items hi => exact Fields.set_of_get? hi
  · rfl

/-- A value of the overlay that is merged with a value of its kind is absorbed
if the values below it are. -/
theorem mergeValue_objects_again {base overlay : Fields Json} (hb : UniqueKeys (.object base))
    (ho : UniqueKeys (.object overlay)) (hkb : kindOf (.object base) = .ok .object)
    (hko : kindOf (.object overlay) = .ok .object)
    (h : ∀ entry ∈ propertiesOf overlay,
      Absorbs .deep ((propertiesOf base).get? entry.1) entry.2) :
    mergeValue .deep (mergeValue .deep (.object base) (.object overlay)) (.object overlay) =
      mergeValue .deep (.object base) (.object overlay) := by
  have hbd := hb.distinct
  have hod := ho.distinct
  have hkind := kindOf_mergeNode hod .deep base hko
  rw [mergeValue_objects hkb hko, mergeValue_objects hkind hko,
    (objectsMerged_mergeNode hbd hod .deep).mergeNode_eq_self hb ho h]

theorem mergeValue_arrays_again {base overlay : Fields Json} (ho : UniqueKeys (.object overlay))
    (hkb : kindOf (.object base) = .ok .array) (hko : kindOf (.object overlay) = .ok .array)
    (h : ∀ value, overlay.get? "items" = some value →
      Absorbs .deep (base.get? "items") value) :
    mergeValue .deep (mergeValue .deep (.object base) (.object overlay)) (.object overlay) =
      mergeValue .deep (.object base) (.object overlay) := by
  have hod := ho.distinct
  have hkind := kindOf_mergeArray hod .deep base hko
  rw [mergeValue_arrays hkb hko, mergeValue_arrays hkind hko, mergeArray_again hod h]

theorem absorbs_none {policy : Policy} {value : Json} (h : mergeValue policy value value = value) :
    Absorbs policy none value := by
  intro present hpresent
  obtain rfl := Option.some.inj hpresent
  exact h

theorem absorbs_some {policy : Policy} {base value : Json}
    (h : mergeValue policy (mergeValue policy base value) value = mergeValue policy base value) :
    Absorbs policy (some base) value := by
  intro present hpresent
  obtain rfl := Option.some.inj hpresent
  exact h

/-- A value is absorbed if it is by itself and by the base's value, whichever of
the two it comes to. -/
theorem absorbs_of_both {policy : Policy} {base : Option Json} {value : Json}
    (hself : mergeValue policy value value = value)
    (hbase : ∀ x, base = some x →
      mergeValue policy (mergeValue policy x value) value = mergeValue policy x value) :
    Absorbs policy base value := by
  cases base with
  | none => exact absorbs_none hself
  | some x => exact absorbs_some (hbase x rfl)

/-- The same where the value was laid over the base once before. -/
theorem absorbs_laid_of_both {policy : Policy} {base : Option Json} {value : Json}
    (hself : mergeValue policy (mergeValue policy value value) value =
      mergeValue policy value value)
    (hbase : ∀ x, base = some x →
      mergeValue policy (mergeValue policy (mergeValue policy x value) value) value =
        mergeValue policy (mergeValue policy x value) value) :
    Absorbs policy (laid policy base (some value)) value := by
  cases base with
  | none => exact absorbs_some hself
  | some x => exact absorbs_some (hbase x rfl)

/-- A value that was laid over itself is in the form of a merged value, so doing
it once more changes nothing. -/
theorem mergeValue_self_again {value : Json} (hu : value.UniqueKeys) :
    mergeValue .deep (mergeValue .deep value value) value = mergeValue .deep value value := by
  induction value using induction_below with
  | step value ihproperties ihitems =>
      by_cases halike : Alike value value
      · rcases halike with ⟨hkind, -⟩ | ⟨hkind, -⟩
        · obtain ⟨fields, rfl⟩ := exists_fields_of_kindOf hkind
          have hp := uniqueKeys_object.mp (uniqueKeys_propertiesOf hu)
          refine mergeValue_objects_again hu hu hkind hkind fun entry hentry => ?_
          rw [(Fields.get?_eq_some_iff hp.1).mpr hentry]
          exact absorbs_some (ihproperties _ (get?_properties_of_mem hentry) entry hentry
            (hp.2 entry hentry))
        · obtain ⟨fields, rfl⟩ := exists_fields_of_kindOf hkind
          refine mergeValue_arrays_again hu hkind hkind fun items hitems => ?_
          rw [hitems]
          exact absorbs_some (ihitems items hitems (hu.get? hitems))
      · rw [mergeValue_of_not_alike halike, mergeValue_of_not_alike halike]

/-- The second time, a value of the overlay meets the base's value merged with
it, or itself. Both absorb it from then on. -/
theorem mergeValue_twice_again {base overlay : Json} (hb : base.UniqueKeys)
    (ho : overlay.UniqueKeys) :
    mergeValue .deep (mergeValue .deep (mergeValue .deep base overlay) overlay) overlay =
      mergeValue .deep (mergeValue .deep base overlay) overlay := by
  induction base, overlay using merge_induction with
  | replaced b o halike =>
      rw [mergeValue_of_not_alike halike]
      exact mergeValue_self_again ho
  | objects b o hkb hko ih =>
      have hod := ho.distinct
      have hbp := uniqueKeys_object.mp (uniqueKeys_propertiesOf hb)
      have hop := uniqueKeys_object.mp (uniqueKeys_propertiesOf ho)
      have hunique : UniqueKeys (.object (mergeNode .deep b o)) :=
        mergeValue_objects hkb hko ▸ uniqueKeys_mergeValue .deep hb ho
      rw [mergeValue_objects hkb hko]
      refine mergeValue_objects_again hunique ho (kindOf_mergeNode hod .deep b hko) hko ?_
      intro entry hentry
      rw [propertiesOf_mergeNode hod, get?_mergeProperties hbp.1 hop.1,
        (Fields.get?_eq_some_iff hop.1).mpr hentry]
      refine absorbs_laid_of_both (mergeValue_self_again (hop.2 entry hentry)) fun x hx => ?_
      have hmem := Fields.mem_of_get? hx
      exact ih _ hmem entry hentry (hbp.2 _ hmem) (hop.2 entry hentry)
  | arrays b o hkb hko ih =>
      have hod := ho.distinct
      rw [mergeValue_arrays hkb hko]
      refine mergeValue_arrays_again ho (kindOf_mergeArray hod .deep b hko) hko ?_
      intro items hitems
      rw [get?_mergeArray hod, if_pos rfl, hitems]
      exact absorbs_laid_of_both (mergeValue_self_again (ho.get? hitems)) fun x hx =>
        ih x items hx hitems (hb.get? hx) (ho.get? hitems)

/-- A value that does not change when it is laid over itself: all nodes in it
that would be merged are in the form of merged nodes. -/
def Settled (value : Json) : Prop := mergeValue .deep value value = value

theorem Settled.property {fields : Fields Json} (h : Settled (.object fields))
    (hu : UniqueKeys (.object fields)) (hkind : kindOf (.object fields) = .ok .object) :
    ∀ entry ∈ propertiesOf fields, Settled entry.2 := by
  intro entry hentry
  have hp := (uniqueKeys_propertiesOf hu).distinct
  have hself : mergeNode .deep fields fields = fields := by
    rw [Settled, mergeValue_objects hkind hkind] at h
    exact Json.object.inj h
  have hget := (Fields.get?_eq_some_iff hp).mpr hentry
  have hlaid := get?_mergeProperties hp hp .deep entry.1
  rw [← propertiesOf_mergeNode hu.distinct, hself, hget, laid_some] at hlaid
  exact (Option.some.inj hlaid).symm

theorem Settled.items {fields : Fields Json} (h : Settled (.object fields))
    (hu : UniqueKeys (.object fields)) (hkind : kindOf (.object fields) = .ok .array) {items : Json}
    (hitems : fields.get? "items" = some items) : Settled items := by
  have hself : mergeArray .deep fields fields = fields := by
    rw [Settled, mergeValue_arrays hkind hkind] at h
    exact Json.object.inj h
  have hlaid := get?_mergeArray hu.distinct .deep fields "items"
  rw [hself, if_pos rfl, hitems, laid_some] at hlaid
  exact (Option.some.inj hlaid).symm

theorem Settled.mergeValue_again {base overlay : Json} (h : Settled overlay) (hb : base.UniqueKeys)
    (ho : overlay.UniqueKeys) :
    mergeValue .deep (mergeValue .deep base overlay) overlay = mergeValue .deep base overlay := by
  induction base, overlay using merge_induction with
  | replaced b o halike =>
      rw [mergeValue_of_not_alike halike]
      exact h
  | objects b o hkb hko ih =>
      have hbp := uniqueKeys_object.mp (uniqueKeys_propertiesOf hb)
      have hop := uniqueKeys_object.mp (uniqueKeys_propertiesOf ho)
      refine mergeValue_objects_again hb ho hkb hko fun entry hentry => ?_
      have hsettled := h.property ho hko entry hentry
      refine absorbs_of_both hsettled fun x hx => ?_
      have hmem := Fields.mem_of_get? hx
      exact ih _ hmem entry hentry hsettled (hbp.2 _ hmem) (hop.2 entry hentry)
  | arrays b o hkb hko ih =>
      refine mergeValue_arrays_again ho hkb hko fun items hitems => ?_
      have hsettled := h.items ho hko hitems
      exact absorbs_of_both hsettled fun x hx =>
        ih x items hx hitems hsettled (hb.get? hx) (ho.get? hitems)

/-- An overlay changes nothing about a merged schema that holds it, if it
changes none of the properties. -/
theorem merge_again {policy : Policy} {base overlay : Fields Json} (hb : UniqueKeys (.object base))
    (ho : UniqueKeys (.object overlay))
    (habsorbs : ∀ entry ∈ propertiesOf overlay,
      Absorbs policy ((propertiesOf base).get? entry.1) entry.2) :
    merge policy (merge policy base overlay) overlay = merge policy base overlay := by
  have h := objectsMerged_merge hb.distinct ho.distinct policy
  rw [merge, h.mergeNode_eq_self hb ho habsorbs]
  simp [h.hasProperties]

/-- Laying an overlay again changes nothing, the order of keys included: with
the shallow policy at once, with the deep one from the third time on. The second
time changes something only if a property of the overlay is not settled, since
that is what a node put as it is can be brought into. -/
theorem merge_stabilises {base overlay : Fields Json} (hb : UniqueKeys (.object base))
    (ho : UniqueKeys (.object overlay)) :
    merge .shallow (merge .shallow base overlay) overlay = merge .shallow base overlay ∧
      merge .deep (merge .deep (merge .deep base overlay) overlay) overlay =
        merge .deep (merge .deep base overlay) overlay ∧
      ((∀ entry ∈ propertiesOf overlay, Settled entry.2) →
        merge .deep (merge .deep base overlay) overlay = merge .deep base overlay) := by
  have hod := ho.distinct
  have hbp := uniqueKeys_object.mp (uniqueKeys_propertiesOf hb)
  have hop := uniqueKeys_object.mp (uniqueKeys_propertiesOf ho)
  refine ⟨?_, ?_, fun hsettled => ?_⟩
  · refine merge_again hb ho fun entry _ => absorbs_of_both (mergeValue_shallow _ _) fun x _ => ?_
    rw [mergeValue_shallow, mergeValue_shallow]
  · refine merge_again (uniqueKeys_merge .deep hb ho) ho fun entry hentry => ?_
    rw [propertiesOf_merge hod, get?_mergeProperties hbp.1 hop.1,
      (Fields.get?_eq_some_iff hop.1).mpr hentry]
    exact absorbs_laid_of_both (mergeValue_self_again (hop.2 entry hentry)) fun x hx =>
      mergeValue_twice_again (hbp.2 _ (Fields.mem_of_get? hx)) (hop.2 entry hentry)
  · refine merge_again hb ho fun entry hentry => ?_
    exact absorbs_of_both (hsettled entry hentry) fun x hx =>
      (hsettled entry hentry).mergeValue_again (hbp.2 _ (Fields.mem_of_get? hx))
        (hop.2 entry hentry)

/-- A node that requires a key twice is put into an empty base as it is, and
requires it once after meeting itself. -/
theorem merge_stabilises_repeated :
    let node : Fields Json := [("type", .string "object"),
      ("required", .array [.string "a", .string "a"])]
    let overlay : Fields Json := [("properties", .object [("n", .object node)])]
    UniqueKeys (.object []) ∧ UniqueKeys (.object overlay) ∧
      merge .deep (merge .deep [] overlay) overlay ≠ merge .deep [] overlay ∧
      merge .deep (merge .deep (merge .deep [] overlay) overlay) overlay =
        merge .deep (merge .deep [] overlay) overlay ∧
      merge .shallow (merge .shallow [] overlay) overlay = merge .shallow [] overlay := by
  intro node overlay
  have hb : UniqueKeys (.object []) := by simp [Fields.Distinct]
  have ho : UniqueKeys (.object overlay) := by simp [overlay, node, Fields.Distinct]
  have hstable := merge_stabilises hb ho
  have hkind : kindOf (.object node) = .ok .object := rfl
  have hself : mergeValue .deep (.object node) (.object node) =
      .object [("type", .string "object"), ("required", .array [.string "a"])] := by
    rw [mergeValue_objects hkind hkind]
    simp [mergeNode, objectNode, overlaid, node, Fields.has, Fields.set, Fields.setAll,
      unionRequired, requiredOf, strings, array?, string?, List.eraseDups_cons]
  have hfirst : merge .deep [] overlay = overlay := by
    simp [merge, mergeNode, objectNode, combineIn, combine, overlaid, ordered, propertiesOf,
      overlay, Fields.has, Fields.set, Fields.setAll]
  have hsecond : merge .deep overlay overlay = [("properties", .object [("n", .object
      [("type", .string "object"), ("required", .array [.string "a"])])])] := by
    simp [merge, mergeNode, objectNode, combineIn, combine, overlaid, ordered, propertiesOf,
      overlay, object?, Fields.has, Fields.set, Fields.setAll, hself]
  refine ⟨hb, ho, ?_, hstable.2.1, hstable.1⟩
  rw [hfirst, hsecond]
  simp [overlay, node]

end SchemaLoom.Schema
