import SchemaLoom.Proofs.Json.UniqueKeys
import SchemaLoom.Schema.Kind
import SchemaLoom.Schema.Node

/-!
# The nodes below a node

The nodes below a node of a schema are the entries of its `properties` and its
`items`. Every operation on schemas goes down along these two steps, so what is
shown for a node from the nodes below it holds for all.

The induction is on the size of the document, since an entry of `properties`
stands two levels below its node and no recursion on the tree itself meets it.
-/

namespace SchemaLoom.Schema

open Json

/-- A node that declares its kind is an object, so it has fields. -/
theorem exists_fields_of_kindOf {node : Json} {kind : Kind} (h : kindOf node = .ok kind) :
    ∃ fields, node = .object fields := by
  cases node with
  | object fields => exact ⟨fields, rfl⟩
  | _ => simp [kindOf, Json.get?, Json.object?] at h

theorem sizeOf_lt_of_mem {fields : Fields Json} {entry : String × Json} (h : entry ∈ fields) :
    sizeOf entry.2 < sizeOf (Json.object fields) := by
  have hlist := List.sizeOf_lt_of_mem h
  obtain ⟨key, value⟩ := entry
  simp only [Prod.mk.sizeOf_spec, Json.object.sizeOf_spec] at hlist ⊢
  omega

theorem sizeOf_lt_of_get? {node value : Json} {key : String} (h : node.get? key = some value) :
    sizeOf value < sizeOf node := by
  cases node with
  | object fields => exact sizeOf_lt_of_mem (Fields.mem_of_get? h)
  | _ => simp [Json.get?, Json.object?] at h

/-- Induction along `properties` and `items`: what holds of a node if it holds
of all entries of its `properties` and of its `items` holds of every value. -/
@[elab_as_elim]
theorem induction_below {P : Json → Prop}
    (step : ∀ node,
      (∀ children, node.get? "properties" = some (.object children) →
        ∀ entry ∈ children, P entry.2) →
      (∀ items, node.get? "items" = some items → P items) → P node)
    (node : Json) : P node := by
  induction hsize : sizeOf node using Nat.strongRecOn generalizing node with
  | ind size ih =>
      refine step node (fun children hchildren entry hentry => ?_) (fun items hitems => ?_)
      · have hlt := Nat.lt_trans (sizeOf_lt_of_mem hentry) (sizeOf_lt_of_get? hchildren)
        exact ih _ (hsize ▸ hlt) entry.2 rfl
      · exact ih _ (hsize ▸ sizeOf_lt_of_get? hitems) items rfl

theorem propertiesOf_of_not_has {fields : Fields Json} (h : fields.has "properties" = false) :
    propertiesOf fields = [] := by
  rw [Fields.has, Option.isSome_eq_false_iff, Option.isNone_iff_eq_none] at h
  simp [propertiesOf, h]

theorem get?_properties_of_mem {fields : Fields Json} {entry : String × Json}
    (h : entry ∈ propertiesOf fields) :
    fields.get? "properties" = some (.object (propertiesOf fields)) := by
  unfold propertiesOf at h ⊢
  cases hp : fields.get? "properties" with
  | none => simp [hp] at h
  | some value =>
      cases value with
      | object children => rfl
      | _ => simp [hp, Json.object?] at h

theorem uniqueKeys_propertiesOf {fields : Fields Json} (h : UniqueKeys (.object fields)) :
    UniqueKeys (.object (propertiesOf fields)) := by
  unfold propertiesOf
  cases hp : fields.get? "properties" with
  | none => simp [Fields.distinct_nil]
  | some value =>
      cases value with
      | object children => exact h.get? hp
      | _ => simp [Json.object?, Fields.distinct_nil]

end SchemaLoom.Schema
