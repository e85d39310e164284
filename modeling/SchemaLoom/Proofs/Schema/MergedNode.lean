import SchemaLoom.Proofs.Schema.Paths

/-!
# Merged nodes as wholes

Two nodes of the kind `object` and two roots are merged by the same rules, and
these rules decide everything about the result but the order of its keys.
`ObjectsMerged` states them, so that what follows from the rules is shown for
both at once.

The properties are named here as a whole, while `ObjectsLaid` only says that
there are some: a path through a merged schema needs no more, and laying an
overlay again needs the list itself.
-/

namespace SchemaLoom.Schema

open Json

/-- Merged values are of the overlay's kind, since two nodes are only mixed if
they are of one kind. -/
theorem kindOf_mergeValue (policy : Policy) (base : Json) {overlay : Json}
    (ho : overlay.UniqueKeys) :
    kindOf (mergeValue policy base overlay) = kindOf overlay := by
  cases policy with
  | shallow => rw [mergeValue_shallow]
  | deep =>
      by_cases halike : Alike base overlay
      · obtain ⟨b, o, rfl, rfl⟩ := halike.exists_fields
        have hod := ho.distinct
        rcases halike with ⟨hkb, hko⟩ | ⟨hkb, hko⟩
        · rw [mergeValue_objects hkb hko, kindOf_mergeNode hod .deep b hko, hko]
        · rw [mergeValue_arrays hkb hko, kindOf_mergeArray hod .deep b hko, hko]
      · rw [mergeValue_of_not_alike halike]

theorem strings_map_string (keys : List String) : strings (.array (keys.map .string)) = keys := by
  induction keys with
  | nil => rfl
  | cons key rest ih =>
      simp only [strings, array?, Option.getD_some, List.map_cons, List.filterMap_cons,
        string?] at ih ⊢
      rw [ih]

/-- What two nodes of the kind `object` make of each other: their keywords and
required keys are merged as `ObjectsLaid` has it, and the properties are those
of both, merged. -/
structure ObjectsMerged (policy : Policy) (atRoot : Bool) (base overlay merged : Fields Json) : Prop
    extends ObjectsLaid atRoot base overlay merged where
  properties : propertiesOf merged =
    mergeProperties policy (propertiesOf base) (propertiesOf overlay)

theorem objectsMerged_mergeNode {base overlay : Fields Json} (hb : base.Distinct)
    (ho : overlay.Distinct) (policy : Policy) :
    ObjectsMerged policy false base overlay (mergeNode policy base overlay) :=
  { objectsLaid_mergeNode hb ho policy with properties := propertiesOf_mergeNode ho policy base }

theorem objectsMerged_merge {base overlay : Fields Json} (hb : base.Distinct)
    (ho : overlay.Distinct) (policy : Policy) :
    ObjectsMerged policy true base overlay (merge policy base overlay) :=
  { objectsLaid_merge hb ho policy with properties := propertiesOf_merge ho policy base }

section Merged

variable {policy : Policy} {atRoot : Bool} {base overlay merged : Fields Json}

theorem ObjectsMerged.get?_properties (h : ObjectsMerged policy atRoot base overlay merged)
    (hhas : merged.has "properties" = true) :
    merged.get? "properties" =
      some (.object (mergeProperties policy (propertiesOf base) (propertiesOf overlay))) := by
  obtain ⟨value, hvalue⟩ := Option.isSome_iff_exists.mp hhas
  have hobject := h.isObject value hvalue
  rw [← h.properties, propertiesOf, hvalue]
  cases value with
  | object fields => rfl
  | _ => cases hobject

/-- The keys required of a merged node are those that either side requires, each
once. -/
theorem ObjectsMerged.requiredOf_eq (h : ObjectsMerged policy atRoot base overlay merged) :
    requiredOf merged = unionRequired base overlay := by
  rw [requiredOf, h.required]
  split_ifs with hr
  · exact strings_map_string _
  · simp only [Bool.or_eq_true, not_or, Bool.not_eq_true, Fields.has, Option.isSome_eq_false_iff,
      Option.isNone_iff_eq_none] at hr
    simp [unionRequired, requiredOf, hr.1, hr.2]

theorem ObjectsMerged.has_required (h : ObjectsMerged policy atRoot base overlay merged) :
    merged.has "required" = (base.has "required" || overlay.has "required") := by
  rw [Fields.has, h.required]
  split_ifs with hr
  · exact hr.symm
  · rw [Bool.not_eq_true] at hr
    exact hr.symm

end Merged

end SchemaLoom.Schema
