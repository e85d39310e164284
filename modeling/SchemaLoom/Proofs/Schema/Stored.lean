import SchemaLoom.Proofs.Schema.Merged
import SchemaLoom.Proofs.Schema.Typed
import SchemaLoom.Schema.Allowlist
import SchemaLoom.Schema.Defaults

/-!
# Ordered and stored schemas

Two operations change a schema without a second one: putting the root properties
in order, and leaving out the keys that a stored schema may not carry. Both are
told by what can be looked up afterwards.

The second can fail, and does not where every root property declares its kind;
then it maps the entries that it keeps. What it maps them to is `kept`, a
function without faults, so that later modules reason about that and not about
the one that can fail.
-/

namespace SchemaLoom.Schema

open Json

/-- The properties of a root in order; anything but an object stays. -/
def orderedValue : Json → Json
  | .object properties => .object (ordered properties)
  | other => other

theorem orderRoot_of_get? {fields : Fields Json} {value : Json}
    (h : fields.get? "properties" = some value) :
    orderRoot (.object fields) = .object (fields.set "properties" (orderedValue value)) := by
  cases value with
  | object properties => simp [orderRoot, h, orderedValue]
  | _ => simp [orderRoot, h, orderedValue, Fields.set_of_get? h]

theorem orderRoot_of_get?_none {fields : Fields Json} (h : fields.get? "properties" = none) :
    orderRoot (.object fields) = .object fields := by
  simp [orderRoot, h]

theorem get?_orderRoot (schema : Json) (key : String) :
    (orderRoot schema).get? key =
      if key = "properties" then (schema.get? key).map orderedValue else schema.get? key := by
  cases schema with
  | object fields =>
      cases h : Fields.get? "properties" fields with
      | none =>
          rw [orderRoot_of_get?_none h]
          split_ifs with hk
          · simp [hk, h]
          · rfl
      | some value =>
          rw [orderRoot_of_get? h, get?_object, Fields.get?_set, get?_object]
          by_cases hk : key = "properties"
          · simp [hk, h]
          · simp [hk, Ne.symm hk]
  | _ => simp [orderRoot, Json.get?, Json.object?]

theorem exists_orderRoot (fields : Fields Json) :
    ∃ ordering, orderRoot (.object fields) = .object ordering ∧
      propertiesOf ordering = ordered (propertiesOf fields) ∧
      requiredOf ordering = requiredOf fields := by
  have hordered : ordered [] = [] := by simp [ordered]
  obtain ⟨ordering, h⟩ : ∃ ordering, orderRoot (.object fields) = .object ordering := by
    rw [orderRoot]
    split <;> exact ⟨_, rfl⟩
  have hget : ∀ key, Fields.get? key ordering =
      if key = "properties" then (fields.get? key).map orderedValue else fields.get? key := by
    intro key
    have := get?_orderRoot (.object fields) key
    rwa [h] at this
  refine ⟨ordering, h, ?_, ?_⟩
  · rw [propertiesOf, propertiesOf, hget, if_pos rfl]
    cases fields.get? "properties" with
    | none => exact hordered.symm
    | some value =>
        cases value with
        | object properties => rfl
        | _ => exact hordered.symm
  · rw [requiredOf, requiredOf, hget, if_neg (by decide)]

theorem uniqueKeys_orderedValue {value : Json} (h : value.UniqueKeys) :
    (orderedValue value).UniqueKeys := by
  cases value with
  | object properties =>
      rw [uniqueKeys_object] at h
      exact uniqueKeys_object.mpr
        ⟨distinct_ordered h.1, fun entry hentry => h.2 entry (mem_ordered.mp hentry)⟩
  | _ => exact h

theorem uniqueKeys_orderRoot {schema : Json} (h : schema.UniqueKeys) :
    (orderRoot schema).UniqueKeys := by
  cases schema with
  | object fields =>
      cases hp : Fields.get? "properties" fields with
      | none => rwa [orderRoot_of_get?_none hp]
      | some value =>
          rw [orderRoot_of_get? hp, uniqueKeys_object]
          rw [uniqueKeys_object] at h
          refine ⟨h.1.set _ _, Fields.forall_mem_set h.2 (uniqueKeys_orderedValue ?_)⟩
          exact h.2 _ (Fields.mem_of_get? hp)
  | _ => exact h

theorem IsSchema.orderRoot {schema : Json} (h : IsSchema schema) :
    IsSchema (orderRoot schema) := by
  have hkind : kindOf (Schema.orderRoot schema) = .ok .object := by
    rw [kindOf_eq_ok_iff, get?_orderRoot, if_neg (by decide)]
    exact kindOf_eq_ok_iff.mp h.isObject
  refine ⟨hkind, .node hkind ?_ ?_⟩
  · intro children hchildren entry hentry
    rw [get?_orderRoot, if_pos rfl, Option.map_eq_some_iff] at hchildren
    obtain ⟨value, hvalue, hordered⟩ := hchildren
    cases value with
    | object properties =>
        obtain rfl := Json.object.inj hordered
        exact h.typed.typedBelow.properties properties hvalue entry (mem_ordered.mp hentry)
    | _ => simp [orderedValue] at hordered
  · intro fields hfields
    rw [get?_orderRoot, if_neg (by decide)] at hfields
    exact h.typed.typedBelow.items fields hfields

/-- A property with those of its keys that one of its kind keeps, in the order
that they have. -/
def keptNode (node : Json) : Json :=
  match kindOf node with
  | .ok kind => keepProperty kind node
  | .error _ => node

def keptValue (key : String) : Json → Json
  | .object children =>
    if key = "properties" then .object (children.map fun entry => (entry.1, keptNode entry.2))
    else .object children
  | other => other

theorem keepProperties_eq {properties : Fields Json}
    (h : ∀ entry ∈ properties, ∃ kind, kindOf entry.2 = .ok kind) :
    keepProperties properties = .ok (properties.map fun entry => (entry.1, keptNode entry.2)) := by
  induction properties with
  | nil => rfl
  | cons entry rest ih =>
      obtain ⟨key, node⟩ := entry
      rw [List.forall_mem_cons] at h
      obtain ⟨⟨kind, hkind⟩, hrest⟩ := h
      rw [keepProperties, topKind_eq_ok_iff.mpr hkind, ih hrest]
      simp [keptNode, hkind, Except.map]

theorem keepRoot_eq {fields : Fields Json}
    (h : ∀ children, ("properties", Json.object children) ∈ fields →
      ∀ entry ∈ children, ∃ kind, kindOf entry.2 = .ok kind) :
    keepRoot fields =
      .ok ((fields.filter fun entry => rootKeys.contains entry.1).map
        fun entry => (entry.1, keptValue entry.1 entry.2)) := by
  induction fields with
  | nil => rfl
  | cons entry rest ih =>
      obtain ⟨key, value⟩ := entry
      have hrest := ih fun children hmem => h children (List.mem_cons_of_mem _ hmem)
      rw [keepRoot.eq_def]
      dsimp only
      split_ifs with hkey
      · split
        · next children =>
          rw [keepProperties_eq (h children List.mem_cons_self), hrest]
          simp only [List.filter_cons, hkey, if_true, List.map_cons, keptValue, Except.map]
        · next hother =>
          have hkept : keptValue key value = value := by
            cases value with
            | object children =>
                have hne : key ≠ "properties" := fun e => hother children e rfl
                simp [keptValue, hne]
            | _ => rfl
          rw [hrest]
          simp only [List.filter_cons, hkey, if_true, List.map_cons, hkept, Except.map]
      · rw [hrest, List.filter_cons, if_neg (by simpa using hkey)]

theorem get?_keptNode {node : Json} {kind : Kind} (h : kindOf node = .ok kind) (key : String) :
    (keptNode node).get? key =
      if keepsKey kind (node.object?.getD []) key then node.get? key else none := by
  obtain ⟨fields, rfl⟩ := exists_fields_of_kindOf h
  rw [keptNode, h]
  exact Fields.get?_filter (keepsKey kind fields) fields key

theorem get?_default_keptNode (node : Json) :
    (keptNode node).get? "default" = node.get? "default" := by
  cases hk : kindOf node with
  | error flaw => simp [keptNode, hk]
  | ok kind =>
      have hkeep : keepsKey kind (node.object?.getD []) "default" = true := by
        simp [keepsKey, commonKeys]
      rw [get?_keptNode hk, if_pos hkeep]

theorem defaultsIn_keptNode (properties : Fields Json) :
    defaultsIn (properties.map fun entry => (entry.1, keptNode entry.2)) =
      defaultsIn properties := by
  rw [defaultsIn, List.filterMap_map]
  exact List.filterMap_congr fun entry _ => by
    simp only [Function.comp_apply, get?_default_keptNode]

theorem kindOf_keptNode {node : Json} {kind : Kind} (h : kindOf node = .ok kind) :
    kindOf (keptNode node) = .ok kind := by
  have hkeep : keepsKey kind (node.object?.getD []) "type" = true := by
    simp [keepsKey, commonKeys]
  rw [kindOf_eq_ok_iff, get?_keptNode h, if_pos hkeep]
  exact kindOf_eq_ok_iff.mp h

theorem get?_of_get?_keptNode {node value : Json} {key : String}
    (h : (keptNode node).get? key = some value) : node.get? key = some value := by
  cases hk : kindOf node with
  | error flaw => simpa [keptNode, hk] using h
  | ok kind =>
      rw [get?_keptNode hk] at h
      split_ifs at h
      exact h

theorem uniqueKeys_keptNode {node : Json} (h : node.UniqueKeys) : (keptNode node).UniqueKeys := by
  cases hk : kindOf node with
  | error flaw => simpa [keptNode, hk] using h
  | ok kind =>
      obtain ⟨fields, rfl⟩ := exists_fields_of_kindOf hk
      rw [uniqueKeys_object] at h
      simp only [keptNode, hk, keepProperty]
      exact uniqueKeys_object.mpr ⟨h.1.sublist List.filter_sublist,
        fun entry hentry => h.2 entry (List.mem_of_mem_filter hentry)⟩

theorem typed_keptNode {node : Json} (h : Typed node) : Typed (keptNode node) := by
  obtain ⟨kind, hk⟩ := h.exists_kind
  refine .node (kindOf_keptNode hk) ?_ ?_
  · intro children hchildren
    exact h.typedBelow.properties children (get?_of_get?_keptNode hchildren)
  · intro fields hfields
    exact h.typedBelow.items fields (get?_of_get?_keptNode hfields)

theorem uniqueKeys_keptValue {value : Json} (h : value.UniqueKeys) (key : String) :
    (keptValue key value).UniqueKeys := by
  cases value with
  | object children =>
      rw [keptValue]
      split_ifs
      · rw [uniqueKeys_object] at h ⊢
        refine ⟨?_, ?_⟩
        · rw [Fields.Distinct, Fields.keys_mapValues fun _ => keptNode]
          exact h.1
        · intro entry hentry
          obtain ⟨child, hchild, rfl⟩ := List.mem_map.mp hentry
          exact uniqueKeys_keptNode (h.2 child hchild)
      · exact h
  | _ => exact h

/-- The schema that is stored for one whose root properties declare their kinds. -/
def kept (fields : Fields Json) : Fields Json :=
  (fields.filter fun entry => rootKeys.contains entry.1).map
    fun entry => (entry.1, keptValue entry.1 entry.2)

theorem get?_kept (fields : Fields Json) (key : String) :
    (kept fields).get? key =
      if key ∈ rootKeys then (fields.get? key).map (keptValue key) else none := by
  rw [kept, Fields.get?_mapValues keptValue, Fields.get?_filter fun k => rootKeys.contains k]
  by_cases hk : key ∈ rootKeys <;> simp [hk]

theorem propertiesOf_kept (fields : Fields Json) :
    propertiesOf (kept fields) =
      (propertiesOf fields).map fun entry => (entry.1, keptNode entry.2) := by
  rw [propertiesOf, propertiesOf, get?_kept, if_pos (by decide)]
  cases fields.get? "properties" with
  | none => rfl
  | some value => cases value <;> rfl

theorem requiredOf_kept (fields : Fields Json) : requiredOf (kept fields) = requiredOf fields := by
  have hvalue : ∀ value, (keptValue "required" value).strings = value.strings := by
    intro value
    cases value with
    | object children => simp [keptValue]
    | _ => rfl
  rw [requiredOf, requiredOf, get?_kept, if_pos (by decide), Option.map_map]
  exact congrArg (Option.getD · []) (Option.map_congr fun value _ => hvalue value)

/-- A schema can be stored: every root property declares its kind, so none of
them is at fault. -/
theorem keepAllowed_of_isSchema {fields : Fields Json} (hu : UniqueKeys (.object fields))
    (h : IsSchema (.object fields)) :
    keepAllowed (.object fields) = .ok (.object (kept fields)) := by
  rw [keepAllowed, keepRoot_eq, kept]
  · rfl
  · intro children hmem entry hentry
    have hget := (Fields.get?_eq_some_iff (uniqueKeys_object.mp hu).1).mpr hmem
    exact (h.typed.typedBelow.properties children hget entry hentry).exists_kind

theorem uniqueKeys_kept {fields : Fields Json} (h : UniqueKeys (.object fields)) :
    UniqueKeys (.object (kept fields)) := by
  rw [uniqueKeys_object] at h ⊢
  refine ⟨?_, ?_⟩
  · rw [kept, Fields.Distinct, Fields.keys_mapValues keptValue]
    exact h.1.sublist List.filter_sublist
  · intro entry hentry
    obtain ⟨old, hold, rfl⟩ := List.mem_map.mp hentry
    exact uniqueKeys_keptValue (h.2 old (List.mem_of_mem_filter hold)) old.1

/-- What is stored for a schema is a schema again, since no key that the check
looks at is left out. -/
theorem isSchema_kept {fields : Fields Json} (h : IsSchema (.object fields)) :
    IsSchema (.object (kept fields)) := by
  have hkind : kindOf (.object (kept fields)) = .ok .object := by
    have htype := kindOf_eq_ok_iff.mp h.isObject
    rw [get?_object] at htype
    rw [kindOf_eq_ok_iff, get?_object, get?_kept, if_pos (by decide), htype]
    rfl
  refine ⟨hkind, .node hkind ?_ ?_⟩
  · intro children hchildren entry hentry
    rw [get?_object, get?_kept, if_pos (by decide), Option.map_eq_some_iff] at hchildren
    obtain ⟨value, hvalue, hkept⟩ := hchildren
    cases value with
    | object properties =>
        simp only [keptValue, if_true, Json.object.injEq] at hkept
        subst hkept
        obtain ⟨old, hold, rfl⟩ := List.mem_map.mp hentry
        exact typed_keptNode (h.typed.typedBelow.properties properties hvalue old hold)
    | _ => simp [keptValue] at hkept
  · intro items hitems
    rw [get?_object, get?_kept, if_neg (by decide)] at hitems
    cases hitems

end SchemaLoom.Schema
