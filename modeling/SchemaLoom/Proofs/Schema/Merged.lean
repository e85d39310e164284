import SchemaLoom.Proofs.Schema.Nodes
import SchemaLoom.Schema.Merge

/-!
# What a merged node holds

Merging is defined entry by entry over the overlay. Told by what can be looked
up afterwards it is simpler: a plain keyword is the overlay's if the overlay has
it and the base's otherwise, and a property or `items` that both sides have is
merged in turn. The second rule is `laid`; every later fact about merging is
told with it.

Nodes of the kind `object`, nodes of the kind `array` and whole schemas each get
the same few lemmas: which keys there are, what is found under a key, and of
which kind the result is. What holds of all values in a merged node is shown by
`laid_induction`, and along all depths by `merge_induction`.
-/

namespace SchemaLoom.Schema

open Json

theorem distinct_ordered {properties : Fields Json} (h : properties.Distinct) :
    (ordered properties).Distinct :=
  h.perm (ordered_perm properties)

@[simp] theorem get?_ordered {properties : Fields Json} (h : properties.Distinct)
    (key : String) : (ordered properties).get? key = properties.get? key :=
  Fields.get?_of_perm (ordered_perm properties) h key

theorem mem_ordered {properties : Fields Json} {entry : String × Json} :
    entry ∈ ordered properties ↔ entry ∈ properties :=
  (ordered_perm properties).mem_iff

theorem distinct_overlaid {base : Fields Json} (h : base.Distinct) (overlay : Fields Json)
    (apart : List String) : (overlaid base overlay apart).Distinct :=
  h.setAll _

/-- A keyword that is not kept apart is the overlay's, if the overlay has it,
and the base's otherwise. -/
theorem get?_overlaid {overlay : Fields Json} (h : overlay.Distinct) (base : Fields Json)
    (apart : List String) (key : String) :
    (overlaid base overlay apart).get? key =
      if key ∈ apart then base.get? key else (overlay.get? key).or (base.get? key) := by
  rw [overlaid, Fields.get?_setAll (h.sublist List.filter_sublist)]
  rw [Fields.get?_filter fun k => !apart.contains k]
  by_cases hk : key ∈ apart <;> simp [hk]

/-- Two nodes of one kind, and of a kind whose nodes are merged when they meet:
two of the kind `object` or two of the kind `array`. -/
def Alike (a b : Json) : Prop :=
  kindOf a = .ok .object ∧ kindOf b = .ok .object ∨ kindOf a = .ok .array ∧ kindOf b = .ok .array

theorem Alike.exists_fields {a b : Json} (h : Alike a b) :
    ∃ x y : Fields Json, a = .object x ∧ b = .object y := by
  rcases h with ⟨ha, hb⟩ | ⟨ha, hb⟩
  all_goals
    obtain ⟨x, rfl⟩ := exists_fields_of_kindOf ha
    obtain ⟨y, rfl⟩ := exists_fields_of_kindOf hb
    exact ⟨x, y, rfl, rfl⟩

/-- What stands where the base, the overlay or both have a value: the one that
there is, or both merged. -/
def laid (policy : Policy) : Option Json → Option Json → Option Json
  | some base, some overlay => some (mergeValue policy base overlay)
  | none, overlay => overlay
  | base, none => base

@[simp] theorem laid_some (policy : Policy) (base overlay : Json) :
    laid policy (some base) (some overlay) = some (mergeValue policy base overlay) := rfl

@[simp] theorem laid_none_left (policy : Policy) (overlay : Option Json) :
    laid policy none overlay = overlay := rfl

@[simp] theorem laid_none_right (policy : Policy) (base : Option Json) :
    laid policy base none = base := by
  cases base <;> rfl

theorem mergeValue_shallow (base overlay : Json) : mergeValue .shallow base overlay = overlay := by
  cases overlay <;> rfl

theorem mergeValue_objects {base overlay : Fields Json} (hb : kindOf (.object base) = .ok .object)
    (ho : kindOf (.object overlay) = .ok .object) :
    mergeValue .deep (.object base) (.object overlay) = .object (mergeNode .deep base overlay) := by
  rw [mergeValue.eq_def]
  simp [hb, ho, mergeNode]

theorem mergeValue_arrays {base overlay : Fields Json} (hb : kindOf (.object base) = .ok .array)
    (ho : kindOf (.object overlay) = .ok .array) :
    mergeValue .deep (.object base) (.object overlay) =
      .object (mergeArray .deep base overlay) := by
  rw [mergeValue.eq_def]
  simp [hb, ho, mergeArray]

/-- Nodes that are not of one kind to merge are not mixed: the overlay's stays
as it is. -/
theorem mergeValue_of_not_alike {base overlay : Json} (h : ¬Alike base overlay) (policy : Policy) :
    mergeValue policy base overlay = overlay := by
  cases overlay with
  | object fields =>
      rw [mergeValue.eq_def]
      dsimp only
      split
      · next ho hb => exact absurd (.inl ⟨hb, ho⟩) h
      · next ho hb => exact absurd (.inr ⟨hb, ho⟩) h
      · rfl
  | _ => rfl

theorem distinct_combine {base : Fields Json} (h : base.Distinct) (policy : Policy)
    (overlay : Fields Json) : (combine policy base overlay).Distinct := by
  induction overlay generalizing base with
  | nil => exact h
  | cons entry rest ih =>
      rw [combine.eq_def]
      exact ih (h.set _ _)

/-- A property of the combination is the one that either side has, or both merged. -/
theorem get?_combine {overlay : Fields Json} (h : overlay.Distinct) (policy : Policy)
    (base : Fields Json) (key : String) :
    (combine policy base overlay).get? key = laid policy (base.get? key) (overlay.get? key) := by
  induction overlay generalizing base with
  | nil => simp [combine]
  | cons entry rest ih =>
      obtain ⟨k, v⟩ := entry
      obtain ⟨hk, hrest⟩ := Fields.distinct_cons.mp h
      rw [combine.eq_def]
      dsimp only
      rw [ih hrest, Fields.get?_set, Fields.get?_cons]
      split
      · next e =>
        subst e
        rw [Fields.get?_eq_none_iff.mpr hk]
        cases Fields.get? k base <;> simp
      · rfl

theorem distinct_mergeProperties {base : Fields Json} (h : base.Distinct) (policy : Policy)
    (overlay : Fields Json) : (mergeProperties policy base overlay).Distinct :=
  distinct_ordered (distinct_combine h policy overlay)

theorem get?_mergeProperties {base overlay : Fields Json} (hb : base.Distinct)
    (ho : overlay.Distinct) (policy : Policy) (key : String) :
    (mergeProperties policy base overlay).get? key =
      laid policy (base.get? key) (overlay.get? key) := by
  rw [mergeProperties, get?_ordered (distinct_combine hb policy overlay), get?_combine ho]

@[simp] theorem mergeProperties_nil (policy : Policy) : mergeProperties policy [] [] = [] := by
  simp [mergeProperties, combine, ordered]

theorem distinct_objectNode {base : Fields Json} (h : base.Distinct)
    (overlay properties : Fields Json) : (objectNode base overlay properties).Distinct := by
  have hlaid := distinct_overlaid h overlay ["properties", "required"]
  unfold objectNode
  dsimp only
  split <;> split
  · exact (hlaid.set _ _).set _ _
  · exact hlaid.set _ _
  · exact hlaid.set _ _
  · exact hlaid

theorem get?_objectNode_of_ne {overlay : Fields Json} (h : overlay.Distinct)
    (base properties : Fields Json) {key : String} (hp : key ≠ "properties")
    (hr : key ≠ "required") :
    (objectNode base overlay properties).get? key = (overlay.get? key).or (base.get? key) := by
  unfold objectNode
  dsimp only
  split_ifs <;> simp [Fields.get?_set, get?_overlaid h, hp, hr, Ne.symm hp, Ne.symm hr]

theorem get?_objectNode_properties {overlay : Fields Json} (h : overlay.Distinct)
    (base properties : Fields Json) :
    (objectNode base overlay properties).get? "properties" =
      if base.has "properties" || overlay.has "properties" then
        some (.object (ordered properties))
      else none := by
  unfold objectNode
  dsimp only
  split_ifs with hr hp hp
  · simp [Fields.get?_set]
  · simp_all [Fields.get?_set, get?_overlaid h, Fields.has]
  · simp
  · simp_all [get?_overlaid h, Fields.has]

theorem get?_objectNode_required {overlay : Fields Json} (h : overlay.Distinct)
    (base properties : Fields Json) :
    (objectNode base overlay properties).get? "required" =
      if base.has "required" || overlay.has "required" then
        some (.array ((unionRequired base overlay).map .string))
      else none := by
  unfold objectNode
  dsimp only
  split_ifs with hr hp hp
  · simp
  · simp
  · simp_all [Fields.get?_set, get?_overlaid h, Fields.has]
  · simp_all [get?_overlaid h, Fields.has]

theorem distinct_mergeNode {base : Fields Json} (h : base.Distinct) (policy : Policy)
    (overlay : Fields Json) : (mergeNode policy base overlay).Distinct :=
  distinct_objectNode h overlay _

theorem get?_mergeNode_of_ne {overlay : Fields Json} (h : overlay.Distinct) (policy : Policy)
    (base : Fields Json) {key : String} (hp : key ≠ "properties") (hr : key ≠ "required") :
    (mergeNode policy base overlay).get? key = (overlay.get? key).or (base.get? key) :=
  get?_objectNode_of_ne h base _ hp hr

theorem get?_mergeNode_properties {overlay : Fields Json} (h : overlay.Distinct)
    (policy : Policy) (base : Fields Json) :
    (mergeNode policy base overlay).get? "properties" =
      if base.has "properties" || overlay.has "properties" then
        some (.object (mergeProperties policy (propertiesOf base) (propertiesOf overlay)))
      else none := by
  rw [mergeNode, get?_objectNode_properties h, combineIn_eq, mergeProperties]

theorem get?_mergeNode_required {overlay : Fields Json} (h : overlay.Distinct)
    (policy : Policy) (base : Fields Json) :
    (mergeNode policy base overlay).get? "required" =
      if base.has "required" || overlay.has "required" then
        some (.array ((unionRequired base overlay).map .string))
      else none :=
  get?_objectNode_required h base _

theorem kindOf_mergeNode {overlay : Fields Json} (h : overlay.Distinct) (policy : Policy)
    (base : Fields Json) {kind : Kind} (hk : kindOf (.object overlay) = .ok kind) :
    kindOf (.object (mergeNode policy base overlay)) = .ok kind := by
  rw [kindOf_eq_ok_iff, get?_object] at hk ⊢
  rw [get?_mergeNode_of_ne h policy base (by decide) (by decide), hk]
  rfl

/-- The properties of a merged node are those of both sides merged, also where
one of the sides has none. -/
theorem propertiesOf_mergeNode {overlay : Fields Json} (h : overlay.Distinct) (policy : Policy)
    (base : Fields Json) :
    propertiesOf (mergeNode policy base overlay) =
      mergeProperties policy (propertiesOf base) (propertiesOf overlay) := by
  rw [propertiesOf, get?_mergeNode_properties h]
  split_ifs with hp
  · rfl
  · simp only [Bool.or_eq_true, not_or, Bool.not_eq_true] at hp
    rw [propertiesOf_of_not_has hp.1, propertiesOf_of_not_has hp.2, mergeProperties_nil]
    rfl

theorem itemsIn_eq_laid (policy : Policy) (base : Option Json) (overlay : Fields Json) :
    itemsIn policy base overlay = laid policy base (overlay.get? "items") := by
  rw [itemsIn_eq]
  cases base <;> cases overlay.get? "items" <;> rfl

theorem distinct_mergeArray {base : Fields Json} (h : base.Distinct) (policy : Policy)
    (overlay : Fields Json) : (mergeArray policy base overlay).Distinct := by
  have hlaid := distinct_overlaid h overlay ["items"]
  unfold mergeArray arrayNode
  dsimp only
  split
  · exact hlaid.set _ _
  · exact hlaid

theorem get?_mergeArray {overlay : Fields Json} (h : overlay.Distinct) (policy : Policy)
    (base : Fields Json) (key : String) :
    (mergeArray policy base overlay).get? key =
      if key = "items" then laid policy (base.get? "items") (overlay.get? "items")
      else (overlay.get? key).or (base.get? key) := by
  unfold mergeArray arrayNode
  dsimp only
  rw [itemsIn_eq_laid]
  split
  · next items hi =>
    by_cases hk : key = "items"
    · simp [hk, hi]
    · simp [Fields.get?_set, get?_overlaid h, hk, Ne.symm hk]
  · next hi =>
    by_cases hk : key = "items"
    · have hb : base.get? "items" = none := by
        cases hb : base.get? "items" <;> cases ho : overlay.get? "items" <;> simp_all
      rw [hb, laid_none_left] at hi
      simp [get?_overlaid h, hk, hi, hb]
    · simp [get?_overlaid h, hk]

theorem kindOf_mergeArray {overlay : Fields Json} (h : overlay.Distinct) (policy : Policy)
    (base : Fields Json) {kind : Kind} (hk : kindOf (.object overlay) = .ok kind) :
    kindOf (.object (mergeArray policy base overlay)) = .ok kind := by
  rw [kindOf_eq_ok_iff, get?_object] at hk ⊢
  rw [get?_mergeArray h, if_neg (by decide), hk]
  rfl

theorem distinct_merge {base : Fields Json} (h : base.Distinct) (policy : Policy)
    (overlay : Fields Json) : (merge policy base overlay).Distinct := by
  unfold merge
  dsimp only
  split
  · exact distinct_mergeNode h policy overlay
  · exact (distinct_mergeNode h policy overlay).set _ _

/-- A root is merged as a node of the kind `object`, apart from its `properties`. -/
theorem get?_merge_of_ne (policy : Policy) (base overlay : Fields Json) {key : String}
    (h : key ≠ "properties") :
    (merge policy base overlay).get? key = (mergeNode policy base overlay).get? key := by
  unfold merge
  dsimp only
  split
  · rfl
  · exact Fields.get?_set_of_ne h _ _

/-- A merged root always has `properties`, which are those of both sides, merged. -/
theorem get?_merge_properties {overlay : Fields Json} (h : overlay.Distinct) (policy : Policy)
    (base : Fields Json) :
    (merge policy base overlay).get? "properties" =
      some (.object (mergeProperties policy (propertiesOf base) (propertiesOf overlay))) := by
  have hnode := get?_mergeNode_properties h policy base
  unfold merge
  dsimp only
  split_ifs at hnode with hp
  · simp [Fields.has, hnode]
  · simp only [Bool.or_eq_true, not_or, Bool.not_eq_true] at hp
    rw [propertiesOf_of_not_has hp.1, propertiesOf_of_not_has hp.2, mergeProperties_nil]
    simp [Fields.has, hnode]

theorem propertiesOf_merge {overlay : Fields Json} (h : overlay.Distinct) (policy : Policy)
    (base : Fields Json) :
    propertiesOf (merge policy base overlay) =
      mergeProperties policy (propertiesOf base) (propertiesOf overlay) := by
  rw [propertiesOf, get?_merge_properties h]
  rfl

/-- A property that both sides have, and that merging two of their values keeps,
is had by what stands where they meet. -/
theorem laid_induction {P : Json → Prop} {policy : Policy} {base overlay : Option Json}
    (hb : ∀ b, base = some b → P b) (ho : ∀ o, overlay = some o → P o)
    (hm : ∀ b o, base = some b → overlay = some o → P (mergeValue policy b o)) {value : Json}
    (h : laid policy base overlay = some value) : P value := by
  cases base with
  | none => exact ho value h
  | some b =>
      cases overlay with
      | none => exact hb value h
      | some o =>
          obtain rfl := Option.some.inj h
          exact hm b o rfl rfl

theorem forall_mem_mergeProperties {P : Json → Prop} {policy : Policy} {base overlay : Fields Json}
    (hbd : base.Distinct) (hod : overlay.Distinct) (hb : ∀ entry ∈ base, P entry.2)
    (ho : ∀ entry ∈ overlay, P entry.2)
    (hm : ∀ b ∈ base, ∀ o ∈ overlay, P (mergeValue policy b.2 o.2)) :
    ∀ entry ∈ mergeProperties policy base overlay, P entry.2 := by
  intro entry hentry
  have hget := (Fields.get?_eq_some_iff (distinct_mergeProperties hbd policy overlay)).mpr hentry
  rw [get?_mergeProperties hbd hod] at hget
  refine laid_induction (fun b hb' => ?_) (fun o ho' => ?_) (fun b o hb' ho' => ?_) hget
  · exact hb _ (Fields.mem_of_get? hb')
  · exact ho _ (Fields.mem_of_get? ho')
  · exact hm _ (Fields.mem_of_get? hb') _ (Fields.mem_of_get? ho')

theorem uniqueKeys_mergeNode {policy : Policy} {base overlay : Fields Json}
    (hb : UniqueKeys (.object base)) (ho : UniqueKeys (.object overlay))
    (hm : ∀ b ∈ propertiesOf base, ∀ o ∈ propertiesOf overlay,
      UniqueKeys (mergeValue policy b.2 o.2)) :
    UniqueKeys (.object (mergeNode policy base overlay)) := by
  have hbd := (uniqueKeys_object.mp hb).1
  have hod := (uniqueKeys_object.mp ho).1
  have hbp := uniqueKeys_object.mp (uniqueKeys_propertiesOf hb)
  have hop := uniqueKeys_object.mp (uniqueKeys_propertiesOf ho)
  refine uniqueKeys_object_of_get? (distinct_mergeNode hbd policy overlay) ?_
  intro key value hvalue
  by_cases hp : key = "properties"
  · rw [hp, get?_mergeNode_properties hod] at hvalue
    split_ifs at hvalue
    obtain rfl := Option.some.inj hvalue
    exact .object (distinct_mergeProperties hbp.1 policy _)
      (forall_mem_mergeProperties hbp.1 hop.1 hbp.2 hop.2 hm)
  · by_cases hr : key = "required"
    · rw [hr, get?_mergeNode_required hod] at hvalue
      split_ifs at hvalue
      obtain rfl := Option.some.inj hvalue
      simp
    · rw [get?_mergeNode_of_ne hod policy base hp hr, Option.or_eq_some_iff] at hvalue
      rcases hvalue with h | ⟨_, h⟩
      · exact ho.get? h
      · exact hb.get? h

theorem uniqueKeys_mergeArray {policy : Policy} {base overlay : Fields Json}
    (hb : UniqueKeys (.object base)) (ho : UniqueKeys (.object overlay))
    (hm : ∀ b o, base.get? "items" = some b → overlay.get? "items" = some o →
      UniqueKeys (mergeValue policy b o)) :
    UniqueKeys (.object (mergeArray policy base overlay)) := by
  have hod := (uniqueKeys_object.mp ho).1
  refine uniqueKeys_object_of_get?
    (distinct_mergeArray (uniqueKeys_object.mp hb).1 policy overlay) ?_
  intro key value hvalue
  rw [get?_mergeArray hod] at hvalue
  split_ifs at hvalue
  · exact laid_induction (fun _ h => hb.get? h) (fun _ h => ho.get? h) hm hvalue
  · rcases Option.or_eq_some_iff.mp hvalue with h | ⟨_, h⟩
    · exact ho.get? h
    · exact hb.get? h

/-- Induction along a deep merge: two nodes of one kind are reached from the
pairs of nodes that meet below them, and any other two are not mixed. -/
@[elab_as_elim]
theorem merge_induction {motive : Json → Json → Prop}
    (replaced : ∀ b o, ¬Alike b o → motive b o)
    (objects : ∀ b o, kindOf (.object b) = .ok .object → kindOf (.object o) = .ok .object →
      (∀ x ∈ propertiesOf b, ∀ y ∈ propertiesOf o, motive x.2 y.2) →
      motive (.object b) (.object o))
    (arrays : ∀ b o, kindOf (.object b) = .ok .array → kindOf (.object o) = .ok .array →
      (∀ x y, Fields.get? "items" b = some x → Fields.get? "items" o = some y → motive x y) →
      motive (.object b) (.object o))
    (base overlay : Json) : motive base overlay := by
  induction overlay using induction_below generalizing base with
  | step overlay ihprops ihitems =>
      by_cases halike : Alike base overlay
      · rcases halike with ⟨hkb, hko⟩ | ⟨hkb, hko⟩
        · obtain ⟨b, rfl⟩ := exists_fields_of_kindOf hkb
          obtain ⟨o, rfl⟩ := exists_fields_of_kindOf hko
          exact objects b o hkb hko fun x _ y hy => ihprops _ (get?_properties_of_mem hy) y hy x.2
        · obtain ⟨b, rfl⟩ := exists_fields_of_kindOf hkb
          obtain ⟨o, rfl⟩ := exists_fields_of_kindOf hko
          exact arrays b o hkb hko fun x y _ hy => ihitems y hy x
      · exact replaced base overlay halike

theorem uniqueKeys_mergeValue (policy : Policy) {base overlay : Json} (hb : base.UniqueKeys)
    (ho : overlay.UniqueKeys) : (mergeValue policy base overlay).UniqueKeys := by
  cases policy with
  | shallow => rwa [mergeValue_shallow]
  | deep =>
      induction base, overlay using merge_induction with
      | replaced b o halike => rwa [mergeValue_of_not_alike halike]
      | objects b o hkb hko ih =>
          rw [mergeValue_objects hkb hko]
          refine uniqueKeys_mergeNode hb ho fun x hx y hy => ih x hx y hy ?_ ?_
          · exact (uniqueKeys_object.mp (uniqueKeys_propertiesOf hb)).2 x hx
          · exact (uniqueKeys_object.mp (uniqueKeys_propertiesOf ho)).2 y hy
      | arrays b o hkb hko ih =>
          rw [mergeValue_arrays hkb hko]
          exact uniqueKeys_mergeArray hb ho fun x y hx hy => ih x y hx hy (hb.get? hx) (ho.get? hy)

theorem uniqueKeys_merge (policy : Policy) {base overlay : Fields Json}
    (hb : UniqueKeys (.object base)) (ho : UniqueKeys (.object overlay)) :
    UniqueKeys (.object (merge policy base overlay)) := by
  have hnode : UniqueKeys (.object (mergeNode policy base overlay)) := by
    refine uniqueKeys_mergeNode hb ho fun x hx y hy => uniqueKeys_mergeValue policy ?_ ?_
    · exact (uniqueKeys_object.mp (uniqueKeys_propertiesOf hb)).2 x hx
    · exact (uniqueKeys_object.mp (uniqueKeys_propertiesOf ho)).2 y hy
  unfold merge
  dsimp only
  split
  · exact hnode
  · rw [uniqueKeys_object] at hnode ⊢
    exact ⟨hnode.1.set _ _, Fields.forall_mem_set hnode.2 (by simp [Fields.distinct_nil])⟩

end SchemaLoom.Schema
