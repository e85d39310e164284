import SchemaLoom.Chain.Source
import SchemaLoom.Compiler
import SchemaLoom.Proofs.Schema.Stored
import SchemaLoom.Proofs.TypeExpr.Structure

/-!
# The life of a schema

A schema that passed the check is merged with others, put in order, stored and
compiled. Each of these looks at nodes of its own choice: the check goes through
`properties` and `items` of nodes of every kind, a merge puts nodes of one side
below nodes of the other, storing looks at root properties only and compiling at
what the kinds promise.

Whatever the order of the steps, a schema stays a schema, so nothing after the
check can find fault with its shape. One lemma for each step shows that the step
keeps `Sound`, and any run of steps follows by induction. Loading from files is
such a run after the check.
-/

namespace SchemaLoom.Schema

open Json

theorem TypedBelow.propertiesOf {fields : Fields Json} (h : TypedBelow (.object fields)) :
    ∀ entry ∈ propertiesOf fields, Typed entry.2 :=
  fun entry hentry => h.properties _ (get?_properties_of_mem hentry) entry hentry

theorem typedBelow_mergeNode {policy : Policy} {base overlay : Fields Json}
    (hub : UniqueKeys (.object base)) (huo : UniqueKeys (.object overlay))
    (hb : TypedBelow (.object base)) (ho : TypedBelow (.object overlay))
    (hm : ∀ b ∈ propertiesOf base, ∀ o ∈ propertiesOf overlay, Typed (mergeValue policy b.2 o.2)) :
    TypedBelow (.object (mergeNode policy base overlay)) := by
  have hod := (uniqueKeys_object.mp huo).1
  refine ⟨?_, ?_⟩
  · intro children hchildren
    rw [get?_object, get?_mergeNode_properties hod] at hchildren
    split_ifs at hchildren
    obtain rfl := Json.object.inj (Option.some.inj hchildren)
    exact forall_mem_mergeProperties (uniqueKeys_object.mp (uniqueKeys_propertiesOf hub)).1
      (uniqueKeys_object.mp (uniqueKeys_propertiesOf huo)).1 hb.propertiesOf ho.propertiesOf hm
  · intro fields hfields
    rw [get?_object, get?_mergeNode_of_ne hod policy base (by decide) (by decide),
      Option.or_eq_some_iff] at hfields
    rcases hfields with h | ⟨_, h⟩
    · exact ho.items fields h
    · exact hb.items fields h

theorem typedBelow_mergeArray {policy : Policy} {base overlay : Fields Json}
    (huo : UniqueKeys (.object overlay)) (hb : TypedBelow (.object base))
    (ho : TypedBelow (.object overlay))
    (hm : ∀ b o, base.get? "items" = some (.object b) → overlay.get? "items" = some (.object o) →
      Typed (mergeValue policy (.object b) (.object o))) :
    TypedBelow (.object (mergeArray policy base overlay)) := by
  have hod := (uniqueKeys_object.mp huo).1
  refine ⟨?_, ?_⟩
  · intro children hchildren
    rw [get?_object, get?_mergeArray hod, if_neg (by decide), Option.or_eq_some_iff] at hchildren
    rcases hchildren with h | ⟨_, h⟩
    · exact ho.properties children h
    · exact hb.properties children h
  · intro fields hfields
    rw [get?_object, get?_mergeArray hod, if_pos rfl] at hfields
    refine laid_induction (P := fun value => value = .object fields → Typed value)
      (fun b hget e => ?_) (fun o hget e => ?_) (fun b o hgetb hgeto e => ?_) hfields rfl
    · exact e ▸ hb.items fields (e ▸ hget)
    · exact e ▸ ho.items fields (e ▸ hget)
    · by_cases halike : Alike b o
      · obtain ⟨x, y, rfl, rfl⟩ := halike.exists_fields
        exact hm x y hgetb hgeto
      · rw [mergeValue_of_not_alike halike] at e ⊢
        exact e ▸ ho.items fields (e ▸ hgeto)

/-- Merging two nodes below which everything declares a kind leaves such a node,
whether the two are mixed or one replaces the other. -/
theorem typed_mergeValue (policy : Policy) {base overlay : Json} (hub : base.UniqueKeys)
    (huo : overlay.UniqueKeys) (hb : Typed base) (ho : Typed overlay) :
    Typed (mergeValue policy base overlay) := by
  cases policy with
  | shallow => rwa [mergeValue_shallow]
  | deep =>
      induction base, overlay using merge_induction with
      | replaced b o halike => rwa [mergeValue_of_not_alike halike]
      | objects b o hkb hko ih =>
          have hod := (uniqueKeys_object.mp huo).1
          rw [mergeValue_objects hkb hko]
          refine typed_iff.mpr ⟨⟨_, kindOf_mergeNode hod .deep b hko⟩, ?_⟩
          refine typedBelow_mergeNode hub huo hb.typedBelow ho.typedBelow fun x hx y hy => ?_
          exact ih x hx y hy ((uniqueKeys_object.mp (uniqueKeys_propertiesOf hub)).2 x hx)
            ((uniqueKeys_object.mp (uniqueKeys_propertiesOf huo)).2 y hy)
            (hb.typedBelow.propertiesOf x hx) (ho.typedBelow.propertiesOf y hy)
      | arrays b o hkb hko ih =>
          have hod := (uniqueKeys_object.mp huo).1
          rw [mergeValue_arrays hkb hko]
          refine typed_iff.mpr ⟨⟨_, kindOf_mergeArray hod .deep b hko⟩, ?_⟩
          refine typedBelow_mergeArray huo hb.typedBelow ho.typedBelow fun x y hx hy => ?_
          exact ih _ _ hx hy (hub.get? hx) (huo.get? hy) (hb.typedBelow.items x hx)
            (ho.typedBelow.items y hy)

/-- A schema as every step of its life finds it: a document that repeats no key
and has the shape of a schema. -/
structure Sound (document : Json) : Prop where
  uniqueKeys : document.UniqueKeys
  isSchema : IsSchema document

theorem Sound.exists_fields {document : Json} (h : Sound document) :
    ∃ fields, document = .object fields :=
  exists_fields_of_kindOf h.isSchema.isObject

/-- A schema laid over one, or over an empty root, is a schema. -/
theorem sound_merge (policy : Policy) {base overlay : Fields Json}
    (hub : UniqueKeys (.object base)) (hb : TypedBelow (.object base))
    (ho : Sound (.object overlay)) : Sound (.object (merge policy base overlay)) := by
  have huo := ho.uniqueKeys
  have hod := (uniqueKeys_object.mp huo).1
  have hnode : TypedBelow (.object (mergeNode policy base overlay)) := by
    refine typedBelow_mergeNode hub huo hb ho.isSchema.typed.typedBelow fun x hx y hy => ?_
    exact typed_mergeValue policy ((uniqueKeys_object.mp (uniqueKeys_propertiesOf hub)).2 x hx)
      ((uniqueKeys_object.mp (uniqueKeys_propertiesOf huo)).2 y hy) (hb.propertiesOf x hx)
      (ho.isSchema.typed.typedBelow.propertiesOf y hy)
  have hkind : kindOf (.object (merge policy base overlay)) = .ok .object := by
    rw [kindOf_eq_ok_iff, get?_object, get?_merge_of_ne policy base overlay (by decide),
      ← get?_object, ← kindOf_eq_ok_iff]
    exact kindOf_mergeNode hod policy base ho.isSchema.isObject
  refine ⟨uniqueKeys_merge policy hub huo, hkind, .node hkind ?_ ?_⟩
  · intro children hchildren
    rw [get?_object, get?_merge_properties hod] at hchildren
    obtain rfl := Json.object.inj (Option.some.inj hchildren)
    rw [← propertiesOf_mergeNode hod]
    exact hnode.propertiesOf
  · intro fields hfields
    rw [get?_object, get?_merge_of_ne policy base overlay (by decide)] at hfields
    exact hnode.items fields hfields

theorem sound_orderRoot {document : Json} (h : Sound document) : Sound (orderRoot document) :=
  ⟨uniqueKeys_orderRoot h.uniqueKeys, h.isSchema.orderRoot⟩

theorem exists_keepAllowed {document : Json} (h : Sound document) :
    ∃ stored, keepAllowed document = .ok stored ∧ Sound stored := by
  obtain ⟨fields, rfl⟩ := h.exists_fields
  exact ⟨_, keepAllowed_of_isSchema h.uniqueKeys h.isSchema,
    uniqueKeys_kept h.uniqueKeys, isSchema_kept h.isSchema⟩

/-- A schema can be compiled under every name: all nodes that its structure
needs declare their kinds. -/
theorem exists_compiled {document : Json} (h : Sound document) (name : String) :
    ∃ compiled, Compiled.ofSchema document name = .ok compiled := by
  obtain ⟨type, htype⟩ := TypeExpr.exists_ofNode h.isSchema.typed
  unfold Compiled.ofSchema TypeExpr.ofSchema
  rw [htype]
  exact ⟨_, rfl⟩

/-- A step in the life of a schema: another one is laid over it, its root
properties are put in order, or it is reduced to what a stored schema may carry. -/
inductive Operation where
  | merge (policy : Policy) (overlay : Json)
  | orderRoot
  | keepAllowed

/-- What a step makes of a document, or why it refuses it. Only storing can
refuse one. -/
def Operation.apply (document : Json) : Operation → Except ShapeFault Json
  | .merge policy overlay =>
    .ok (.object (Schema.merge policy (document.object?.getD []) (overlay.object?.getD [])))
  | .orderRoot => .ok (Schema.orderRoot document)
  | .keepAllowed => Schema.keepAllowed document

def applyAll (document : Json) : List Operation → Except ShapeFault Json
  | [] => .ok document
  | operation :: rest =>
    match operation.apply document with
    | .error fault => .error fault
    | .ok next => applyAll next rest

/-- Overlays repeat no key and pass the check themselves; the other steps ask
for nothing. -/
def Operation.Admissible : Operation → Prop
  | .merge _ overlay => overlay.UniqueKeys ∧ validate overlay = .ok ()
  | .orderRoot | .keepAllowed => True

theorem Sound.apply {document : Json} (h : Sound document) {operation : Operation}
    (ho : operation.Admissible) : ∃ next, operation.apply document = .ok next ∧ Sound next := by
  cases operation with
  | merge policy overlay =>
      obtain ⟨base, rfl⟩ := h.exists_fields
      have hoverlay : Sound overlay := ⟨ho.1, validate_eq_ok_iff.mp ho.2⟩
      obtain ⟨fields, rfl⟩ := hoverlay.exists_fields
      exact ⟨_, rfl, sound_merge policy h.uniqueKeys h.isSchema.typed.typedBelow hoverlay⟩
  | orderRoot => exact ⟨_, rfl, sound_orderRoot h⟩
  | keepAllowed => exact exists_keepAllowed h

theorem Sound.applyAll {document : Json} (h : Sound document) {operations : List Operation}
    (ho : ∀ operation ∈ operations, operation.Admissible) :
    ∃ result, applyAll document operations = .ok result ∧ Sound result := by
  induction operations generalizing document with
  | nil => exact ⟨document, rfl, h⟩
  | cons operation rest ih =>
      rw [List.forall_mem_cons] at ho
      obtain ⟨next, happly, hnext⟩ := h.apply ho.1
      obtain ⟨result, hall, hresult⟩ := ih hnext ho.2
      exact ⟨result, by rw [Schema.applyAll, happly]; exact hall, hresult⟩

theorem uniqueKeys_readJson {tree : FileTree} {path : String} {document : Json}
    (h : tree.readJson path = .ok document) : document.UniqueKeys := by
  unfold FileTree.readJson at h
  split at h
  · cases h
  · next text _ => exact uniqueKeys_of_parse (mapError_eq_ok_iff.mp h)

theorem uniqueKeys_readSource {tree : FileTree} {path : String} {document : Json}
    (h : tree.readSource path = .ok document) : document.UniqueKeys := by
  unfold FileTree.readSource at h
  split at h
  · exact uniqueKeys_readJson h
  · cases h

theorem uniqueKeys_readOverlay {tree : FileTree} {path : Option String} {document : Json}
    (h : tree.readOverlay path = .ok (some document)) : document.UniqueKeys := by
  unfold FileTree.readOverlay at h
  split at h
  · cases h
  · next path =>
    split at h
    · cases hread : tree.readJson path with
      | error failure => simp [hread, Except.map] at h
      | ok value =>
          simp only [hread, Except.map, Except.ok.injEq, Option.some.injEq] at h
          exact h ▸ uniqueKeys_readJson hread
    · cases h

theorem checked_eq_ok_iff {document : Json} {fields : Fields Json} :
    checked document = .ok fields ↔ IsSchema document ∧ document = .object fields := by
  unfold checked
  cases h : validate document with
  | error fault =>
      have : ¬IsSchema document := fun hs => by rw [validate_eq_ok_iff.mpr hs] at h; cases h
      simp [this]
  | ok u =>
      have hs := validate_eq_ok_iff.mp h
      obtain ⟨x, rfl⟩ := exists_fields_of_kindOf hs.isObject
      simp [hs, Json.object?]

theorem typedBelow_nil : TypedBelow (.object []) :=
  ⟨fun _ h => by simp at h, fun _ h => by simp at h⟩

/-- What a schema and its overlay are loaded as is a schema. The base alone may
be empty, and then the overlay was checked. -/
theorem sound_overlay {policy : Policy} {path : String} {base document : Json}
    {other : Option Json} (hub : base.UniqueKeys) (huo : ∀ o, other = some o → o.UniqueKeys)
    (h : overlay policy path base other = .ok document) : Sound document := by
  unfold overlay at h
  split_ifs at h with hempty hbase
  · -- An empty base needs an overlay.
    cases other with
    | none => simp [hbase] at hempty
    | some o =>
        dsimp only at h
        cases hc : checked o with
        | error failure => simp [hc, Except.map] at h
        | ok fields =>
            obtain ⟨hs, rfl⟩ := checked_eq_ok_iff.mp hc
            simp only [hc, Except.map, Except.ok.injEq] at h
            subst h
            exact sound_merge policy (by simp [Fields.distinct_nil]) typedBelow_nil
              ⟨huo _ rfl, hs⟩
  · cases hc : checked base with
    | error failure => simp [hc] at h
    | ok fields =>
        obtain ⟨hs, rfl⟩ := checked_eq_ok_iff.mp hc
        cases other with
        | none =>
            simp only [hc, Except.ok.injEq] at h
            exact h ▸ ⟨hub, hs⟩
        | some o =>
            cases hco : checked o with
            | error failure => simp [hc, hco, Except.map] at h
            | ok incoming =>
                obtain ⟨hso, rfl⟩ := checked_eq_ok_iff.mp hco
                simp only [hc, hco, Except.map, Except.ok.injEq] at h
                subst h
                exact sound_merge policy hub hs.typed.typedBelow ⟨huo _ rfl, hso⟩

theorem sound_load {tree : FileTree} {policy : Policy} {path : String}
    {overlayPath : Option String} {document : Json}
    (h : load tree policy path overlayPath = .ok document) : Sound document := by
  unfold load at h
  cases hbase : tree.readSource path with
  | error failure => simp [hbase] at h
  | ok base =>
      cases hother : tree.readOverlay overlayPath with
      | error failure => simp [hbase, hother] at h
      | ok other =>
          simp only [hbase, hother] at h
          refine sound_overlay (uniqueKeys_readSource hbase) (fun o ho => ?_) h
          exact uniqueKeys_readOverlay (ho ▸ hother)

def labelled (node : Fields Json) : Json :=
  .object [("type", .string "object"), ("properties", .object [("tags", .object node)])]

/-- A schema stays one. Whatever steps are taken from a document that passes the
check, none fails, the outcome passes it again and can be compiled under every
name; and whatever is loaded from files passes the check and can be stored and
compiled, as it is and as it is stored. -/
theorem schema_stays_schema :
    (∀ (document : Json) (operations : List Operation),
      document.UniqueKeys → validate document = .ok () →
      (∀ operation ∈ operations, operation.Admissible) →
      ∃ result, applyAll document operations = .ok result ∧ validate result = .ok () ∧
        ∀ name, ∃ compiled, Compiled.ofSchema result name = .ok compiled) ∧
    (∀ (tree : FileTree) (policy : Policy) (path : String) (overlayPath : Option String)
      (document : Json), load tree policy path overlayPath = .ok document →
      validate document = .ok () ∧
      (∀ name, ∃ compiled, Compiled.ofSchema document name = .ok compiled) ∧
      ∃ stored, keepAllowed (orderRoot document) = .ok stored ∧
        ∀ name, ∃ compiled, Compiled.ofSchema stored name = .ok compiled) := by
  constructor
  · intro document operations hu hv ho
    have hsound : Sound document := ⟨hu, validate_eq_ok_iff.mp hv⟩
    obtain ⟨result, hall, hresult⟩ := hsound.applyAll ho
    exact ⟨result, hall, validate_eq_ok_iff.mpr hresult.isSchema, exists_compiled hresult⟩
  · intro tree policy path overlayPath document h
    have hsound := sound_load h
    obtain ⟨stored, hstored, hs⟩ := exists_keepAllowed (sound_orderRoot hsound)
    exact ⟨validate_eq_ok_iff.mpr hsound.isSchema, exists_compiled hsound, stored, hstored,
      exists_compiled hs⟩

/-- A list of strings under an object, merged, put in order and stored; and both
from files. -/
theorem schema_stays_schema_labelled :
    (∃ result, applyAll
        (labelled [("type", .string "array"), ("items", .object [("type", .string "string")])])
        [.merge .deep (labelled [("type", .string "object"), ("title", .null)]), .orderRoot,
          .keepAllowed] = .ok result ∧ validate result = .ok () ∧
      ∀ name, ∃ compiled, Compiled.ofSchema result name = .ok compiled) ∧
    ∃ document, load ⟨[], [(["base"], .text (compact (labelled [("type", .string "array")]))),
        (["more"], .text (compact (labelled [("type", .string "object")])))]⟩
        .deep "base" (some "more") = .ok document ∧ validate document = .ok () := by
  constructor
  · refine schema_stays_schema.1 _ _ ?_ rfl ?_
    · simp [labelled, Fields.Distinct]
    · rintro operation (_ | ⟨_, _ | ⟨_, _ | ⟨_, ⟨⟩⟩⟩⟩)
      · exact ⟨by simp [labelled, Fields.Distinct], rfl⟩
      · trivial
      · trivial
  · have hok : (load ⟨[], [(["base"], .text (compact (labelled [("type", .string "array")]))),
        (["more"], .text (compact (labelled [("type", .string "object")])))]⟩
        .deep "base" (some "more")).isOk := by decide +kernel
    cases h : load _ _ _ _ with
    | error failure => simp [h, Except.isOk, Except.toBool] at hok
    | ok document => exact ⟨document, rfl, (schema_stays_schema.2 _ _ _ _ _ h).1⟩

end SchemaLoom.Schema
