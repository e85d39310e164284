import SchemaLoom.Proofs.Schema.Nodes
import SchemaLoom.Schema.Shape

/-!
# Schemas of valid shape

`Typed` says of a node that it and all nodes below it declare a kind; which
nodes are below does not depend on the kinds. A schema has a valid shape exactly
if its root declares the kind `object` and is `Typed`, which is what checking
decides.

The predicate is told apart from the check, since merging, storing and compiling
keep it for reasons of their own. Only the last part ties the two, by one iff
for what is below a node and one for the whole document.
-/

namespace SchemaLoom.Schema

open Json

/-- A node and all nodes below it declare a kind: its properties and its items
do so, whatever its own kind is. -/
inductive Typed : Json → Prop where
  | node {node : Json} {kind : Kind} (declared : kindOf node = .ok kind)
      (properties : ∀ children, node.get? "properties" = some (.object children) →
        ∀ entry ∈ children, Typed entry.2)
      (items : ∀ fields, node.get? "items" = some (.object fields) → Typed (.object fields)) :
      Typed node

/-- All nodes below a node declare a kind: the properties do, and the items do
if they are a node. -/
structure TypedBelow (node : Json) : Prop where
  properties : ∀ children, node.get? "properties" = some (.object children) →
    ∀ entry ∈ children, Typed entry.2
  items : ∀ fields, node.get? "items" = some (.object fields) → Typed (.object fields)

/-- A document that has the shape of a schema: the root describes objects, and
everything declares a kind. -/
structure IsSchema (document : Json) : Prop where
  isObject : kindOf document = .ok .object
  typed : Typed document

theorem typed_iff {node : Json} :
    Typed node ↔ (∃ kind, kindOf node = .ok kind) ∧ TypedBelow node := by
  constructor
  · intro h
    cases h with
    | node declared properties items => exact ⟨⟨_, declared⟩, ⟨properties, items⟩⟩
  · rintro ⟨⟨kind, declared⟩, below⟩
    exact .node declared below.properties below.items

theorem Typed.typedBelow {node : Json} (h : Typed node) : TypedBelow node := (typed_iff.mp h).2

theorem Typed.exists_kind {node : Json} (h : Typed node) : ∃ kind, kindOf node = .ok kind :=
  (typed_iff.mp h).1

theorem topKind_eq_ok_iff {node : Json} {kind : Kind} :
    topKind node = .ok kind ↔ kindOf node = .ok kind := by
  unfold topKind
  cases kindOf node <;> simp [Except.mapError]

theorem exists_kind_iff {node : Json} :
    (∃ kind, kindOf node = .ok kind) ↔ ∃ kind, topKind node = .ok kind := by
  simp only [topKind_eq_ok_iff]

theorem mapError_eq_ok_iff {α ε δ : Type} {f : ε → δ} {e : Except ε α} {a : α} :
    e.mapError f = .ok a ↔ e = .ok a := by
  cases e <;> simp [Except.mapError]

theorem checkEach_eq_ok_iff {children : Fields Json} :
    checkEach children = .ok () ↔
      ∀ entry ∈ children, (∃ kind, kindOf entry.2 = .ok kind) ∧ checkBelow entry.2 = .ok () := by
  induction children with
  | nil => simp [checkEach]
  | cons entry rest ih =>
      obtain ⟨key, node⟩ := entry
      rw [checkEach.eq_def, List.forall_mem_cons]
      dsimp only
      cases hk : topKind node with
      | error fault => simp [exists_kind_iff, hk]
      | ok kind =>
          cases hb : checkBelow node with
          | error fault => simp
          | ok u => simp [exists_kind_iff, hk, ih]

/-- Checking finds no fault below a node exactly if all nodes there declare a kind. -/
theorem checkBelow_eq_ok_iff {node : Json} : checkBelow node = .ok () ↔ TypedBelow node := by
  induction node using induction_below with
  | step node ihprops ihitems =>
      cases node with
      | object fields =>
          have hprops : checkProperties fields = .ok () ↔
              ∀ children, Fields.get? "properties" fields = some (.object children) →
                ∀ entry ∈ children, Typed entry.2 := by
            rw [checkProperties_eq]
            split
            · next children hc =>
              rw [checkEach_eq_ok_iff]
              simp only [hc, Option.some.injEq, Json.object.injEq, forall_eq']
              refine forall₂_congr fun entry hentry => ?_
              rw [typed_iff, ihprops children hc entry hentry]
            · next hc => simpa using fun children h => absurd h (hc children)
          have hitems : checkItems fields = .ok () ↔
              ∀ item, Fields.get? "items" fields = some (.object item) → Typed (.object item) := by
            rw [checkItems_eq]
            split
            · next item hi =>
              simp only [hi, Option.some.injEq, Json.object.injEq, forall_eq']
              rw [typed_iff, ← ihitems _ hi]
              cases hk : topKind (.object item) with
              | error fault => simp [exists_kind_iff, hk]
              | ok kind => simp [exists_kind_iff, hk, mapError_eq_ok_iff]
            · next hi => simpa using fun item h => absurd h (hi item)
          have hbelow : checkBelow (.object fields) = .ok () ↔
              checkProperties fields = .ok () ∧ checkItems fields = .ok () := by
            rw [checkBelow.eq_def]
            dsimp only
            cases checkProperties fields <;> simp
          rw [hbelow, hprops, hitems]
          exact ⟨fun h => ⟨h.1, h.2⟩, fun h => ⟨h.properties, h.items⟩⟩
      | _ =>
          refine ⟨fun _ => ⟨?_, ?_⟩, fun _ => rfl⟩ <;>
            simp [Json.get?, Json.object?]

theorem checkRoot_eq_ok_iff {schema : Json} :
    checkRoot schema = .ok () ↔ kindOf schema = .ok .object := by
  rw [kindOf_eq_ok_iff]
  unfold checkRoot
  cases schema with
  | object fields =>
      cases ht : Fields.get? "type" fields with
      | none => simp [ht, Json.isObject, Json.object?]
      | some value =>
          cases value with
          | string word =>
              by_cases hw : word = Kind.object.name <;>
                simp [ht, Json.isObject, Json.object?, Json.string?, hw]
          | _ => simp [ht, Json.isObject, Json.object?, Json.string?]
  | _ => simp [Json.isObject, Json.object?, Json.get?]

/-- The documents that pass the check are the schemas. -/
theorem validate_eq_ok_iff {document : Json} : validate document = .ok () ↔ IsSchema document := by
  have hsplit : validate document = .ok () ↔
      checkRoot document = .ok () ∧ checkBelow document = .ok () := by
    unfold validate
    cases checkRoot document <;> simp
  rw [hsplit, checkRoot_eq_ok_iff, checkBelow_eq_ok_iff]
  exact ⟨fun h => ⟨h.1, typed_iff.mpr ⟨⟨_, h.1⟩, h.2⟩⟩, fun h => ⟨h.isObject, h.typed.typedBelow⟩⟩

end SchemaLoom.Schema
