import SchemaLoom.Proofs.Schema.Merged

/-!
# Typed paths through a merged schema

A typed path goes from the root down along properties and items, and takes each
step only from a node of the kind that has it. Merging deeply keeps both sides
apart until they meet at a node: from there on it goes down both of them at once
as long as they are of one kind, and where they are not, the overlay's side
alone goes on.

So every path of the result is told by the paths of the two sides. One step down
is told for each way in which the sides can meet, and whole paths follow by
induction; `DeeplyLaid` collects what this says about a merged schema, with what
becomes of the keywords at each node.
-/

namespace SchemaLoom.Schema

open Json

/-- One step down from a node: to the property of a key, or to the items of an
array. -/
inductive Step where
  | property (key : String)
  | items
  deriving DecidableEq, Repr

/-- The steps that lead down from the root, the outermost first. -/
abbrev Path := List Step

def Step.kind : Step → Kind
  | .property _ => .object
  | .items => .array

def Step.take (fields : Fields Json) : Step → Option Json
  | .property key => (propertiesOf fields).get? key
  | .items => fields.get? "items"

/-- The node one step below a node. Properties are below nodes of the kind
`object` only, and items below nodes of the kind `array` only. -/
def child (node : Json) (step : Step) : Option Json :=
  match node, kindOf node with
  | .object fields, .ok kind => if kind = step.kind then step.take fields else none
  | _, _ => none

/-- The node at the end of a path, if there is a node to start from and every
step of the path can be taken. -/
def walk : Option Json → Path → Option Json
  | start, [] => start
  | start, step :: path => walk (start.bind (child · step)) path

/-- The node of a schema at the end of a path. The first step goes to a
property, whatever the root declares. -/
def nodeAt (root : Fields Json) : Path → Option Json
  | [] => some (.object root)
  | .property key :: path => walk ((propertiesOf root).get? key) path
  | .items :: _ => none

@[simp] theorem walk_nil (start : Option Json) : walk start [] = start := rfl

@[simp] theorem walk_cons (start : Option Json) (step : Step) (path : Path) :
    walk start (step :: path) = walk (start.bind (child · step)) path := rfl

@[simp] theorem walk_none (path : Path) : walk none path = none := by
  induction path with
  | nil => rfl
  | cons step path ih => exact ih

theorem exists_start_of_walk {start : Option Json} {path : Path} {node : Json}
    (h : walk start path = some node) : ∃ first, start = some first := by
  cases start with
  | none => simp at h
  | some first => exact ⟨first, rfl⟩

theorem child_object {fields : Fields Json} {kind : Kind} (h : kindOf (.object fields) = .ok kind)
    (step : Step) :
    child (.object fields) step = if kind = step.kind then step.take fields else none := by
  simp [child, h]

/-- A step is taken from an object of the kind that has it, and leads to what is
looked up there. -/
theorem child_eq_some_iff {node x : Json} {step : Step} :
    child node step = some x ↔
      ∃ fields, node = .object fields ∧ kindOf node = .ok step.kind ∧
        step.take fields = some x := by
  constructor
  · intro h
    unfold child at h
    split at h
    · next fields kind hkind =>
      split_ifs at h with he
      exact ⟨fields, rfl, he ▸ hkind, h⟩
    · simp at h
  · rintro ⟨fields, rfl, hkind, hx⟩
    rw [child_object hkind, if_pos rfl, hx]

/-- Two nodes from which the same step can be taken are of one kind, and of one
that is merged. -/
theorem alike_of_child {a b x y : Json} {step : Step} (ha : child a step = some x)
    (hb : child b step = some y) : Alike a b := by
  obtain ⟨_, _, hka, _⟩ := child_eq_some_iff.mp ha
  obtain ⟨_, _, hkb, _⟩ := child_eq_some_iff.mp hb
  cases step with
  | property key => exact .inl ⟨hka, hkb⟩
  | items => exact .inr ⟨hka, hkb⟩

theorem uniqueKeys_take {fields : Fields Json} {x : Json} (h : UniqueKeys (.object fields))
    {step : Step} (hx : step.take fields = some x) : x.UniqueKeys := by
  cases step with
  | property key => exact (uniqueKeys_propertiesOf h).get? hx
  | items => exact h.get? hx

theorem uniqueKeys_child {node x : Json} (h : node.UniqueKeys) {step : Step}
    (hx : child node step = some x) : x.UniqueKeys := by
  obtain ⟨fields, rfl, _, htake⟩ := child_eq_some_iff.mp hx
  exact uniqueKeys_take h htake

/-- The steps down from two merged nodes of one kind are the steps down from
both, merged. -/
theorem child_mergeValue {base overlay : Json} (hb : base.UniqueKeys) (ho : overlay.UniqueKeys)
    (h : Alike base overlay) (step : Step) :
    child (mergeValue .deep base overlay) step =
      laid .deep (child base step) (child overlay step) := by
  rcases h with ⟨hkb, hko⟩ | ⟨hkb, hko⟩
  · obtain ⟨b, rfl⟩ := exists_fields_of_kindOf hkb
    obtain ⟨o, rfl⟩ := exists_fields_of_kindOf hko
    have hod := (uniqueKeys_object.mp ho).1
    rw [mergeValue_objects hkb hko, child_object (kindOf_mergeNode hod .deep b hko),
      child_object hkb, child_object hko]
    cases step with
    | property key =>
        simp only [Step.kind, if_true, Step.take]
        rw [propertiesOf_mergeNode hod,
          get?_mergeProperties (uniqueKeys_object.mp (uniqueKeys_propertiesOf hb)).1
            (uniqueKeys_object.mp (uniqueKeys_propertiesOf ho)).1]
    | items => simp [Step.kind]
  · obtain ⟨b, rfl⟩ := exists_fields_of_kindOf hkb
    obtain ⟨o, rfl⟩ := exists_fields_of_kindOf hko
    have hod := (uniqueKeys_object.mp ho).1
    rw [mergeValue_arrays hkb hko, child_object (kindOf_mergeArray hod .deep b hko),
      child_object hkb, child_object hko]
    cases step with
    | property key => simp [Step.kind]
    | items => simp [Step.kind, Step.take, get?_mergeArray hod]

def Unique (start : Option Json) : Prop := ∀ node, start = some node → node.UniqueKeys

theorem Unique.bind_child {start : Option Json} (h : Unique start) (step : Step) :
    Unique (start.bind (child · step)) := by
  intro node hnode
  obtain ⟨first, hfirst, hstep⟩ := Option.bind_eq_some_iff.mp hnode
  exact uniqueKeys_child (h first hfirst) hstep

theorem alike_or_apart (base overlay : Option Json) :
    (∀ b o, base = some b → overlay = some o → Alike b o) ∨
      ∃ b o, base = some b ∧ overlay = some o ∧ ¬Alike b o := by
  by_cases h : ∃ b o, base = some b ∧ overlay = some o ∧ ¬Alike b o
  · exact .inr h
  · refine .inl fun b o hb ho => ?_
    by_contra hne
    exact h ⟨b, o, hb, ho, hne⟩

/-- Both sides go down together unless both have a node and the two are not of
one kind. -/
theorem bind_child_laid {base overlay : Option Json} (hb : Unique base) (ho : Unique overlay)
    (h : ∀ b o, base = some b → overlay = some o → Alike b o) (step : Step) :
    (laid .deep base overlay).bind (child · step) =
      laid .deep (base.bind (child · step)) (overlay.bind (child · step)) := by
  cases base with
  | none => rfl
  | some b =>
      cases overlay with
      | none => simp
      | some o => exact child_mergeValue (hb b rfl) (ho o rfl) (h b o rfl rfl) step

/-- Where the two sides have nodes that are not of one kind, the overlay's goes
on alone. -/
theorem bind_child_laid_of_not_alike {b o : Json} (h : ¬Alike b o) (step : Step) :
    (laid .deep (some b) (some o)).bind (child · step) = (some o).bind (child · step) := by
  rw [laid_some, mergeValue_of_not_alike h]

/-- Where both sides have a node at the end of a path, the result has the two
merged. -/
theorem walk_laid_of_both {base overlay : Option Json} (hb : Unique base) (ho : Unique overlay)
    {path : Path} {b o : Json} (hwb : walk base path = some b) (hwo : walk overlay path = some o) :
    walk (laid .deep base overlay) path = some (mergeValue .deep b o) := by
  induction path generalizing base overlay with
  | nil =>
      rw [walk_nil] at hwb hwo ⊢
      rw [hwb, hwo, laid_some]
  | cons step path ih =>
      rw [walk_cons] at hwb hwo ⊢
      -- Both sides take the step, so the nodes it is taken from are of one kind.
      obtain ⟨x, hx⟩ := exists_start_of_walk hwb
      obtain ⟨y, hy⟩ := exists_start_of_walk hwo
      obtain ⟨b', hb', hxb⟩ := Option.bind_eq_some_iff.mp hx
      obtain ⟨o', ho', hyo⟩ := Option.bind_eq_some_iff.mp hy
      rw [bind_child_laid hb ho]
      · exact ih (hb.bind_child step) (ho.bind_child step) hwb hwo
      · intro b'' o'' hb'' ho''
        rw [hb'] at hb''
        rw [ho'] at ho''
        obtain rfl := Option.some.inj hb''
        obtain rfl := Option.some.inj ho''
        exact alike_of_child hxb hyo

/-- Where the base has no node, the result has the overlay's, if that has one. -/
theorem walk_laid_of_base_none {base overlay : Option Json} (hb : Unique base)
    (ho : Unique overlay) {path : Path} (h : walk base path = none) :
    walk (laid .deep base overlay) path = walk overlay path := by
  induction path generalizing base overlay with
  | nil =>
      rw [walk_nil] at h
      rw [h, laid_none_left]
  | cons step path ih =>
      rw [walk_cons] at h ⊢
      rcases alike_or_apart base overlay with halike | ⟨b, o, rfl, rfl, hne⟩
      · rw [bind_child_laid hb ho halike]
        exact ih (hb.bind_child step) (ho.bind_child step) h
      · rw [bind_child_laid_of_not_alike hne, walk_cons]

/-- Where the overlay has no node, the result has the base's, or none at all if
the overlay replaced a node on the way. -/
theorem walk_laid_of_overlay_none {base overlay : Option Json} (hb : Unique base)
    (ho : Unique overlay) {path : Path} {m : Json} (h : walk overlay path = none)
    (hm : walk (laid .deep base overlay) path = some m) : walk base path = some m := by
  induction path generalizing base overlay with
  | nil =>
      rw [walk_nil] at h hm ⊢
      rwa [h, laid_none_right] at hm
  | cons step path ih =>
      rw [walk_cons] at h hm ⊢
      rcases alike_or_apart base overlay with halike | ⟨b, o, rfl, rfl, hne⟩
      · rw [bind_child_laid hb ho halike] at hm
        exact ih (hb.bind_child step) (ho.bind_child step) h hm
      · rw [bind_child_laid_of_not_alike hne, h] at hm
        simp at hm

/-- The nodes that both sides have on the way along a path, its end apart, are
of one kind, so none on the way replaces another. -/
def AlikeAlong (base overlay : Option Json) (path : Path) : Prop :=
  ∀ front, front <+: path → front ≠ path → ∀ b o,
    walk base front = some b → walk overlay front = some o → Alike b o

theorem alikeAlong_nil (base overlay : Option Json) : AlikeAlong base overlay [] :=
  fun _ hfront hne => absurd (List.prefix_nil.mp hfront) hne

theorem alikeAlong_cons {base overlay : Option Json} {step : Step} {path : Path} :
    AlikeAlong base overlay (step :: path) ↔
      (∀ b o, base = some b → overlay = some o → Alike b o) ∧
        AlikeAlong (base.bind (child · step)) (overlay.bind (child · step)) path := by
  constructor
  · intro h
    refine ⟨fun b o hb ho => h [] List.nil_prefix (List.cons_ne_nil _ _).symm b o hb ho, ?_⟩
    intro front hfront hne b o hb ho
    refine h (step :: front) (List.cons_prefix_cons.mpr ⟨rfl, hfront⟩) ?_ b o hb ho
    exact fun e => hne (List.cons.inj e).2
  · rintro ⟨hstart, hrest⟩ front hfront hne b o hb ho
    cases front with
    | nil => exact hstart b o hb ho
    | cons first front =>
        obtain ⟨rfl, hrestfront⟩ := List.cons_prefix_cons.mp hfront
        exact hrest front hrestfront (fun e => hne (e ▸ rfl)) b o hb ho

/-- The result has the paths of the overlay, and those of the base on which the
overlay has no node of another kind. -/
theorem isSome_walk_laid {base overlay : Option Json} (hb : Unique base) (ho : Unique overlay)
    (path : Path) :
    (walk (laid .deep base overlay) path).isSome ↔
      (walk overlay path).isSome ∨ (walk base path).isSome ∧ AlikeAlong base overlay path := by
  induction path generalizing base overlay with
  | nil => cases base <;> cases overlay <;> simp [alikeAlong_nil]
  | cons step path ih =>
      simp only [walk_cons]
      rw [alikeAlong_cons]
      rcases alike_or_apart base overlay with halike | ⟨b, o, rfl, rfl, hne⟩
      · rw [bind_child_laid hb ho halike, ih (hb.bind_child step) (ho.bind_child step),
          and_iff_right halike]
      · have hstop : ¬∀ x y, some b = some x → some o = some y → Alike x y :=
          fun h => hne (h b o rfl rfl)
        rw [bind_child_laid_of_not_alike hne]
        simp only [hstop, false_and, and_false, or_false]

/-- What two nodes of the kind `object` make of their keywords. No keyword is
repeated. One without a rule of its own is the overlay's, if the overlay has it;
required are the strings of the base and then those of the overlay, each once;
and there are `properties` if one of the sides has any. They are an object,
whatever they were, and at the root they are there in any case. -/
structure ObjectsLaid (atRoot : Bool) (base overlay merged : Fields Json) : Prop where
  distinct : merged.Distinct
  keyword : ∀ key, key ≠ "properties" → key ≠ "required" →
    merged.get? key = (overlay.get? key).or (base.get? key)
  required : merged.get? "required" =
    if base.has "required" || overlay.has "required" then
      some (.array ((requiredOf base ++ requiredOf overlay).eraseDups.map .string))
    else none
  hasProperties : merged.has "properties" =
    (atRoot || base.has "properties" || overlay.has "properties")
  isObject : ∀ value, merged.get? "properties" = some value → value.isObject = true

/-- What two nodes of the kind `array` make of their keywords. No keyword is
repeated, each but `items` is the overlay's if the overlay has it, and there are
`items` if one of the sides has any. -/
structure ArraysLaid (base overlay merged : Fields Json) : Prop where
  distinct : merged.Distinct
  keyword : ∀ key, key ≠ "items" → merged.get? key = (overlay.get? key).or (base.get? key)
  hasItems : merged.has "items" = (base.has "items" || overlay.has "items")

/-- A schema that is made of two by laying one over the other at every depth: it
has no paths but theirs, loses none of the overlay's, and loses one of the
base's only below a node of the overlay that is of another kind. A node that
only one of the sides has is the node of that side. Of two nodes that are not of
one kind to merge the overlay's stays, and the roots and any two nodes of one
such kind are merged keyword by keyword. -/
structure DeeplyLaid (base overlay merged : Fields Json) : Prop where
  isSome_nodeAt : ∀ path, path ≠ [] →
    ((nodeAt merged path).isSome ↔
      (nodeAt overlay path).isSome ∨
        (nodeAt base path).isSome ∧ ∀ front, front ≠ [] → front <+: path → front ≠ path →
          ∀ b o, nodeAt base front = some b → nodeAt overlay front = some o → Alike b o)
  overlayOnly : ∀ path, path ≠ [] → nodeAt base path = none →
    nodeAt merged path = nodeAt overlay path
  baseOnly : ∀ path m, path ≠ [] → nodeAt overlay path = none → nodeAt merged path = some m →
    nodeAt base path = some m
  replaced : ∀ path b o, path ≠ [] → nodeAt base path = some b → nodeAt overlay path = some o →
    ¬Alike b o → nodeAt merged path = some o
  objects : ∀ path b o, nodeAt base path = some (.object b) →
    nodeAt overlay path = some (.object o) →
    path = [] ∨ kindOf (.object b) = .ok .object ∧ kindOf (.object o) = .ok .object →
    ∃ m, nodeAt merged path = some (.object m) ∧ ObjectsLaid path.isEmpty b o m
  arrays : ∀ path b o, path ≠ [] → nodeAt base path = some (.object b) →
    nodeAt overlay path = some (.object o) → kindOf (.object b) = .ok .array →
    kindOf (.object o) = .ok .array →
    ∃ m, nodeAt merged path = some (.object m) ∧ ArraysLaid b o m

theorem objectsLaid_mergeNode {base overlay : Fields Json} (hb : base.Distinct)
    (ho : overlay.Distinct) (policy : Policy) :
    ObjectsLaid false base overlay (mergeNode policy base overlay) where
  distinct := distinct_mergeNode hb policy overlay
  keyword _ hp hr := get?_mergeNode_of_ne ho policy base hp hr
  required := get?_mergeNode_required ho policy base
  hasProperties := by
    rw [Fields.has, get?_mergeNode_properties ho, Bool.false_or]
    split <;> simp_all
  isObject value hv := by
    rw [get?_mergeNode_properties ho] at hv
    split at hv
    · obtain rfl := Option.some.inj hv
      rfl
    · simp at hv

theorem objectsLaid_merge {base overlay : Fields Json} (hb : base.Distinct)
    (ho : overlay.Distinct) (policy : Policy) :
    ObjectsLaid true base overlay (merge policy base overlay) where
  distinct := distinct_merge hb policy overlay
  keyword _ hp hr := by
    rw [get?_merge_of_ne policy base overlay hp, get?_mergeNode_of_ne ho policy base hp hr]
  required := by
    rw [get?_merge_of_ne policy base overlay (by decide)]
    exact get?_mergeNode_required ho policy base
  hasProperties := by simp [Fields.has, get?_merge_properties ho]
  isObject value hv := by
    rw [get?_merge_properties ho] at hv
    obtain rfl := Option.some.inj hv
    rfl

theorem arraysLaid_mergeArray {base overlay : Fields Json} (hb : base.Distinct)
    (ho : overlay.Distinct) (policy : Policy) :
    ArraysLaid base overlay (mergeArray policy base overlay) where
  distinct := distinct_mergeArray hb policy overlay
  keyword key hk := by rw [get?_mergeArray ho, if_neg hk]
  hasItems := by
    rw [Fields.has, get?_mergeArray ho, if_pos rfl, Fields.has, Fields.has]
    cases base.get? "items" <;> cases overlay.get? "items" <;> rfl

/-- Below the root, the result of a merge is what both sides have there, merged
as any two values are. -/
theorem nodeAt_merge_property {base overlay : Fields Json} (hb : UniqueKeys (.object base))
    (ho : UniqueKeys (.object overlay)) (policy : Policy) (key : String) (path : Path) :
    nodeAt (merge policy base overlay) (.property key :: path) =
      walk (laid policy ((propertiesOf base).get? key) ((propertiesOf overlay).get? key)) path := by
  rw [nodeAt, propertiesOf_merge (uniqueKeys_object.mp ho).1,
    get?_mergeProperties (uniqueKeys_object.mp (uniqueKeys_propertiesOf hb)).1
      (uniqueKeys_object.mp (uniqueKeys_propertiesOf ho)).1]

theorem uniqueKeys_walk {start : Option Json} (h : Unique start) (path : Path) :
    Unique (walk start path) := by
  induction path generalizing start with
  | nil => exact h
  | cons step path ih => exact ih (h.bind_child step)

theorem unique_property {root : Fields Json} (h : UniqueKeys (.object root)) (key : String) :
    Unique ((propertiesOf root).get? key) :=
  fun _ hnode => (uniqueKeys_propertiesOf h).get? hnode

theorem uniqueKeys_nodeAt {root : Fields Json} (h : UniqueKeys (.object root)) (path : Path) :
    Unique (nodeAt root path) := by
  match path with
  | [] =>
      intro node hnode
      obtain rfl := Option.some.inj hnode
      exact h
  | .property key :: path => exact uniqueKeys_walk (unique_property h key) path
  | .items :: path =>
      intro node hnode
      simp [nodeAt] at hnode

theorem distinct_nodeAt {root fields : Fields Json} (h : UniqueKeys (.object root)) {path : Path}
    (hnode : nodeAt root path = some (.object fields)) : fields.Distinct :=
  (uniqueKeys_object.mp (uniqueKeys_nodeAt h path _ hnode)).1

/-- Where both sides have a node below the root, the result has the two merged. -/
theorem nodeAt_merge_of_both {base overlay : Fields Json} (hb : UniqueKeys (.object base))
    (ho : UniqueKeys (.object overlay)) {path : Path} (hpath : path ≠ []) {b o : Json}
    (hwb : nodeAt base path = some b) (hwo : nodeAt overlay path = some o) :
    nodeAt (merge .deep base overlay) path = some (mergeValue .deep b o) := by
  match path, hpath with
  | .items :: path, _ => simp [nodeAt] at hwb
  | .property key :: path, _ =>
      rw [nodeAt_merge_property hb ho]
      exact walk_laid_of_both (unique_property hb key) (unique_property ho key) hwb hwo

theorem forall_front_iff_alikeAlong {base overlay : Fields Json} {key : String} {path : Path} :
    (∀ front, front ≠ [] → front <+: .property key :: path → front ≠ .property key :: path →
        ∀ b o, nodeAt base front = some b → nodeAt overlay front = some o → Alike b o) ↔
      AlikeAlong ((propertiesOf base).get? key) ((propertiesOf overlay).get? key) path := by
  constructor
  · intro h front hfront hne b o hb ho
    refine h (.property key :: front) (List.cons_ne_nil _ _)
      (List.cons_prefix_cons.mpr ⟨rfl, hfront⟩) ?_ b o hb ho
    exact fun e => hne (List.cons.inj e).2
  · intro h front hnil hfront hne b o hb ho
    cases front with
    | nil => exact absurd rfl hnil
    | cons first front =>
        obtain ⟨rfl, hrest⟩ := List.cons_prefix_cons.mp hfront
        exact h front hrest (fun e => hne (e ▸ rfl)) b o hb ho

/-- Merging deeply lays the overlay over the base at every depth: paths, nodes
of one side, replaced nodes and keywords are as `DeeplyLaid` has them. -/
theorem deeplyLaid_merge {base overlay : Fields Json} (hb : UniqueKeys (.object base))
    (ho : UniqueKeys (.object overlay)) : DeeplyLaid base overlay (merge .deep base overlay) where
  isSome_nodeAt path hpath := by
    match path, hpath with
    | .items :: path, _ => simp [nodeAt]
    | .property key :: path, _ =>
        rw [nodeAt_merge_property hb ho, forall_front_iff_alikeAlong]
        exact isSome_walk_laid (unique_property hb key) (unique_property ho key) path
  overlayOnly path hpath hnone := by
    match path, hpath with
    | .items :: path, _ => rfl
    | .property key :: path, _ =>
        rw [nodeAt_merge_property hb ho]
        exact walk_laid_of_base_none (unique_property hb key) (unique_property ho key) hnone
  baseOnly path m hpath hnone hm := by
    match path, hpath with
    | .items :: path, _ => simp [nodeAt] at hm
    | .property key :: path, _ =>
        rw [nodeAt_merge_property hb ho] at hm
        exact walk_laid_of_overlay_none (unique_property hb key) (unique_property ho key) hnone hm
  replaced path b o hpath hwb hwo hne := by
    rw [nodeAt_merge_of_both hb ho hpath hwb hwo, mergeValue_of_not_alike hne]
  objects path b o hwb hwo hkinds := by
    cases path with
    | nil =>
        simp only [nodeAt, Option.some.injEq, Json.object.injEq] at hwb hwo
        subst hwb hwo
        exact ⟨_, rfl, objectsLaid_merge (uniqueKeys_object.mp hb).1 (uniqueKeys_object.mp ho).1 _⟩
    | cons step path =>
        obtain ⟨hkb, hko⟩ := hkinds.resolve_left (List.cons_ne_nil _ _)
        refine ⟨mergeNode .deep b o, ?_,
          objectsLaid_mergeNode (distinct_nodeAt hb hwb) (distinct_nodeAt ho hwo) .deep⟩
        rw [nodeAt_merge_of_both hb ho (List.cons_ne_nil _ _) hwb hwo, mergeValue_objects hkb hko]
  arrays path b o hpath hwb hwo hkb hko := by
    refine ⟨mergeArray .deep b o, ?_,
      arraysLaid_mergeArray (distinct_nodeAt hb hwb) (distinct_nodeAt ho hwo) .deep⟩
    rw [nodeAt_merge_of_both hb ho hpath hwb hwo, mergeValue_arrays hkb hko]

/-- A node of the base alone stays if the two sides are of one kind on the way
to it. -/
theorem DeeplyLaid.nodeAt_of_base {base overlay merged : Fields Json}
    (h : DeeplyLaid base overlay merged) {path : Path} (hpath : path ≠ []) {b : Json}
    (hb : nodeAt base path = some b) (ho : nodeAt overlay path = none)
    (halike : ∀ front, front ≠ [] → front <+: path → front ≠ path →
      ∀ b o, nodeAt base front = some b → nodeAt overlay front = some o → Alike b o) :
    nodeAt merged path = some b := by
  have hsome : (nodeAt merged path).isSome :=
    (h.isSome_nodeAt path hpath).mpr (.inr ⟨Option.isSome_of_eq_some hb, halike⟩)
  obtain ⟨m, hm⟩ := Option.isSome_iff_exists.mp hsome
  rw [hm, ← hb, h.baseOnly path m hpath ho hm]

/-- A base and an overlay that meet in an object, in an array and in nodes of
different kinds: one path is the base's, one the overlay's, one goes on through
merged items, and one is lost. -/
theorem deeplyLaid_merge_mixed :
    let node (kind : String) (rest : Fields Json) := Json.object (("type", .string kind) :: rest)
    let base : Fields Json :=
      [("properties", .object
        [("list", node "array" [("items", node "object" [("properties",
            .object [("a", node "string" [])]), ("required", .array [.string "a"])])]),
          ("kept", node "string" []),
          ("lost", node "object" [("properties", .object [("x", node "string" [])])])]),
        ("required", .array [.string "kept", .string "list"])]
    let overlay : Fields Json :=
      [("required", .array [.string "list", .string "lost"]),
        ("properties", .object
          [("list", node "array" [("items", node "object"
              [("properties", .object [("b", node "number" [])]),
                ("required", .array [.string "b", .string "a"])])]),
            ("lost", node "array" [])])]
    let merged := merge .deep base overlay
    UniqueKeys (.object base) ∧ UniqueKeys (.object overlay) ∧ DeeplyLaid base overlay merged ∧
      nodeAt merged [.property "kept"] = some (node "string" []) ∧
      nodeAt merged [.property "lost"] = some (node "array" []) ∧
      nodeAt merged [.property "lost", .property "x"] = none ∧
      nodeAt merged [.property "list", .items, .property "a"] = some (node "string" []) ∧
      nodeAt merged [.property "list", .items, .property "b"] = some (node "number" []) ∧
      merged.get? "required" =
        some (.array [.string "kept", .string "list", .string "lost"]) ∧
      ∃ items : Fields Json, nodeAt merged [.property "list", .items] = some (.object items) ∧
        items.get? "required" = some (.array [.string "a", .string "b"]) := by
  intro node base overlay merged
  have hb : UniqueKeys (.object base) := by simp [base, node, Fields.Distinct]
  have ho : UniqueKeys (.object overlay) := by simp [overlay, node, Fields.Distinct]
  have hlaid : DeeplyLaid base overlay merged := deeplyLaid_merge hb ho
  -- The required strings are told by the roots and by the two nodes that are merged.
  obtain ⟨root, hroot, hrootLaid⟩ := hlaid.objects [] base overlay rfl rfl (.inl rfl)
  obtain rfl := Json.object.inj (Option.some.inj hroot)
  obtain ⟨items, hitems, hitemsLaid⟩ :=
    hlaid.objects [.property "list", .items] _ _ rfl rfl (.inr ⟨rfl, rfl⟩)
  have hkinds : ¬Alike (node "object" [("properties", .object [("x", node "string" [])])])
      (node "array" []) := by
    rintro (⟨-, h⟩ | ⟨h, -⟩) <;> exact absurd (Except.ok.inj h) (by decide)
  refine ⟨hb, ho, hlaid, ?_, ?_, ?_, ?_, ?_, ?_, items, hitems, ?_⟩
  · refine hlaid.nodeAt_of_base (by simp) rfl rfl fun front hnil hfront hne => ?_
    obtain ⟨rest, rfl, hrest⟩ := (List.prefix_cons_iff.mp hfront).resolve_left hnil
    exact absurd (by rw [List.prefix_nil.mp hrest]) hne
  · exact hlaid.replaced _ _ _ (by simp) rfl rfl hkinds
  · rw [← Option.not_isSome_iff_eq_none, hlaid.isSome_nodeAt _ (by simp)]
    rintro (h | ⟨-, halike⟩)
    · cases h
    · exact hkinds (halike [.property "lost"] (by simp) (by simp) (by simp) _ _ rfl rfl)
  · refine hlaid.nodeAt_of_base (by simp) rfl rfl fun front hnil hfront hne b o hwb hwo => ?_
    -- The fronts are the two nodes that are merged on the way, arrays first and then objects.
    obtain ⟨rest, rfl, hrest⟩ := (List.prefix_cons_iff.mp hfront).resolve_left hnil
    rcases List.prefix_cons_iff.mp hrest with rfl | ⟨last, rfl, hlast⟩
    · obtain rfl := Option.some.inj hwb
      obtain rfl := Option.some.inj hwo
      exact .inr ⟨rfl, rfl⟩
    rcases List.prefix_cons_iff.mp hlast with rfl | ⟨none, rfl, hnone⟩
    · obtain rfl := Option.some.inj hwb
      obtain rfl := Option.some.inj hwo
      exact .inl ⟨rfl, rfl⟩
    · exact absurd (by rw [List.prefix_nil.mp hnone]) hne
  · exact hlaid.overlayOnly _ (by simp) rfl
  · exact hrootLaid.required
  · exact hitemsLaid.required

end SchemaLoom.Schema
