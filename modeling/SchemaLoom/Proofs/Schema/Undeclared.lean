import SchemaLoom.Proofs.Schema.Typed
import SchemaLoom.Schema.Allowlist

/-!
# Nodes that declare no kind

The nodes of a schema are listed in the order in which they are visited: a node
before those below it, its properties before its items. Checking a schema and
storing it go through such a list and stop at the first node that declares no
kind, so a fault tells where that node stands and what is wrong with it.

The list is a definition of its own, by recursion on the document. That checking
finds the first fault of the list is then one induction along the nodes below a
node, and storing looks at the entries of one list only.
-/

namespace SchemaLoom.Schema

open Json

/-- A node declares its kind: what it has under `type` is one of the six names. -/
def Declares (node : Json) : Prop := ∃ kind : Kind, node.get? "type" = some (.string kind.name)

theorem declares_iff {node : Json} : Declares node ↔ ∃ kind, kindOf node = .ok kind := by
  simp only [Declares, kindOf_eq_ok_iff]

theorem not_declares_iff {node : Json} : ¬Declares node ↔ ∃ flaw, kindOf node = .error flaw := by
  rw [declares_iff]
  cases kindOf node <;> simp

/-- A fault is that of the first node in a list that declares no kind; all nodes
in front of it declare theirs. -/
def FirstFault (nodes : List (Pointer × Json)) (fault : ShapeFault) : Prop :=
  ∃ before node after, nodes = before ++ (fault.pointer, node) :: after ∧
    (∀ entry ∈ before, Declares entry.2) ∧ kindOf node = .error fault.flaw

def faultAt (entry : Pointer × Json) : Option ShapeFault :=
  match kindOf entry.2 with
  | .error flaw => some ⟨entry.1, flaw⟩
  | .ok _ => none

theorem faultAt_eq_none_iff {entry : Pointer × Json} : faultAt entry = none ↔ Declares entry.2 := by
  rw [declares_iff, faultAt]
  cases kindOf entry.2 <;> simp

theorem faultAt_eq_some_iff {entry : Pointer × Json} {fault : ShapeFault} :
    faultAt entry = some fault ↔ entry.1 = fault.pointer ∧ kindOf entry.2 = .error fault.flaw := by
  obtain ⟨pointer, flaw⟩ := fault
  rw [faultAt]
  cases kindOf entry.2 <;> simp

theorem firstFault_iff {nodes : List (Pointer × Json)} {fault : ShapeFault} :
    FirstFault nodes fault ↔ nodes.findSome? faultAt = some fault := by
  rw [List.findSome?_eq_some_iff]
  simp only [faultAt_eq_some_iff, faultAt_eq_none_iff]
  constructor
  · rintro ⟨before, node, after, hsplit, hbefore, hnode⟩
    exact ⟨before, (fault.pointer, node), after, hsplit, ⟨rfl, hnode⟩, hbefore⟩
  · rintro ⟨before, ⟨place, node⟩, after, hsplit, ⟨rfl, hnode⟩, hbefore⟩
    exact ⟨before, node, after, hsplit, hbefore, hnode⟩

/-- One of some nodes is at fault exactly if one of them declares no kind. -/
theorem exists_firstFault_iff {nodes : List (Pointer × Json)} :
    (∃ fault, FirstFault nodes fault) ↔ ∃ entry ∈ nodes, ¬Declares entry.2 := by
  simp only [firstFault_iff, ← Option.isSome_iff_exists, List.isSome_findSome?, List.any_eq_true,
    ← faultAt_eq_none_iff, Option.isSome_iff_ne_none, ne_eq]

/-- The same node in a document that holds this one at a place. -/
def moved (place : Pointer) (entry : Pointer × Json) : Pointer × Json := (place ++ entry.1, entry.2)

theorem faultAt_moved (place : Pointer) (entry : Pointer × Json) :
    faultAt (moved place entry) = (faultAt entry).map (·.under place) := by
  rw [faultAt, faultAt, moved]
  cases kindOf entry.2 <;> rfl

theorem findSome?_moved (place : Pointer) (nodes : List (Pointer × Json)) :
    (nodes.map (moved place)).findSome? faultAt =
      (nodes.findSome? faultAt).map (·.under place) := by
  rw [List.findSome?_map, List.map_findSome?]
  exact congrArg (List.findSome? · nodes) (funext fun entry => faultAt_moved place entry)

/-- The entries of `properties` with the places that they have below their node. -/
def placed (properties : Fields Json) : List (Pointer × Json) :=
  properties.map fun entry => (["properties", entry.1], entry.2)

def propertyNodes : Option Json → List (Pointer × Json)
  | some (.object properties) => placed properties
  | _ => []

def itemNodes : Option Json → List (Pointer × Json)
  | some (.object item) => [(["items"], .object item)]
  | _ => []

/-- The nodes right below a node: first its properties and then its items. -/
def children (node : Json) : List (Pointer × Json) :=
  propertyNodes (node.get? "properties") ++ itemNodes (node.get? "items")

theorem exists_of_mem_propertyNodes {value : Option Json} {child : Pointer × Json}
    (h : child ∈ propertyNodes value) :
    ∃ properties, value = some (.object properties) ∧
      ∃ entry ∈ properties, child = (["properties", entry.1], entry.2) := by
  match value with
  | some (.object properties) =>
      obtain ⟨entry, hentry, rfl⟩ := List.mem_map.mp h
      exact ⟨properties, rfl, entry, hentry, rfl⟩
  | none | some .null | some (.bool _) | some (.number _) | some (.string _) | some (.array _) =>
      cases h

theorem exists_of_mem_itemNodes {value : Option Json} {child : Pointer × Json}
    (h : child ∈ itemNodes value) :
    ∃ item, value = some (.object item) ∧ child = (["items"], .object item) := by
  match value with
  | some (.object item) => exact ⟨item, rfl, List.mem_singleton.mp h⟩
  | none | some .null | some (.bool _) | some (.number _) | some (.string _) | some (.array _) =>
      cases h

theorem sizeOf_lt_of_mem_children {node : Json} {child : Pointer × Json}
    (h : child ∈ children node) : sizeOf child.2 < sizeOf node := by
  rcases List.mem_append.mp h with h | h
  · obtain ⟨properties, hproperties, entry, hentry, rfl⟩ := exists_of_mem_propertyNodes h
    exact Nat.lt_trans (sizeOf_lt_of_mem hentry) (sizeOf_lt_of_get? hproperties)
  · obtain ⟨item, hitem, rfl⟩ := exists_of_mem_itemNodes h
    exact sizeOf_lt_of_get? hitem

/-- A node and all nodes below it, each with its place. What is below a node
comes right behind it. -/
def nodesFrom (node : Json) : List (Pointer × Json) :=
  ([], node) :: (children node).attach.flatMap fun ⟨child, _⟩ =>
    (nodesFrom child.2).map (moved child.1)
termination_by sizeOf node
decreasing_by exact sizeOf_lt_of_mem_children ‹_›

def nodesAt (entry : Pointer × Json) : List (Pointer × Json) :=
  (nodesFrom entry.2).map (moved entry.1)

/-- The nodes below a node with their places, in the order in which they are
visited. -/
def nodesBelow (node : Json) : List (Pointer × Json) := (children node).flatMap nodesAt

theorem nodesFrom_eq (node : Json) : nodesFrom node = ([], node) :: nodesBelow node := by
  rw [nodesFrom, nodesBelow]
  simp only [List.flatMap_subtype, List.unattach_attach]
  rfl

/-- The outcome of a check that finds a fault or none. -/
def report : Option ShapeFault → Except ShapeFault Unit
  | none => .ok ()
  | some fault => .error fault

theorem report_or (first second : Option ShapeFault) :
    report (first.or second) =
      match report first with
      | .error fault => .error fault
      | .ok () => report second := by
  cases first <;> rfl

/-- Checking a node at a place and what is below it goes through their list,
each with its place. -/
theorem report_nodesAt {entry : Pointer × Json}
    (h : checkBelow entry.2 = report ((nodesBelow entry.2).findSome? faultAt)) :
    report ((nodesAt entry).findSome? faultAt) =
      match topKind entry.2 with
      | .error fault => .error (fault.under entry.1)
      | .ok _ => (checkBelow entry.2).mapError (·.under entry.1) := by
  rw [nodesAt, findSome?_moved, nodesFrom_eq, List.findSome?_cons, topKind, faultAt]
  cases kindOf entry.2 with
  | error flaw => rfl
  | ok kind =>
      rw [h]
      cases (nodesBelow entry.2).findSome? faultAt <;> rfl

theorem checkEach_eq {properties : Fields Json}
    (h : ∀ entry ∈ placed properties,
      checkBelow entry.2 = report ((nodesBelow entry.2).findSome? faultAt)) :
    checkEach properties = report (((placed properties).flatMap nodesAt).findSome? faultAt) := by
  induction properties with
  | nil => rfl
  | cons entry rest ih =>
      obtain ⟨key, node⟩ := entry
      rw [placed, List.map_cons, List.forall_mem_cons] at h
      rw [placed, List.map_cons, List.flatMap_cons, List.findSome?_append, report_or,
        report_nodesAt h.1, ← placed, ← ih h.2, checkEach.eq_def]
      dsimp only
      cases topKind node with
      | error fault => rfl
      | ok kind => cases checkBelow node <;> rfl

theorem checkProperties_eq_report {fields : Fields Json}
    (h : ∀ entry ∈ propertyNodes (fields.get? "properties"),
      checkBelow entry.2 = report ((nodesBelow entry.2).findSome? faultAt)) :
    checkProperties fields =
      report (((propertyNodes (fields.get? "properties")).flatMap nodesAt).findSome? faultAt) := by
  rw [checkProperties_eq]
  match fields.get? "properties", h with
  | some (.object properties), h => exact checkEach_eq h
  | none, _ | some .null, _ | some (.bool _), _ | some (.number _), _ | some (.string _), _
  | some (.array _), _ => rfl

theorem checkItems_eq_report {fields : Fields Json}
    (h : ∀ entry ∈ itemNodes (fields.get? "items"),
      checkBelow entry.2 = report ((nodesBelow entry.2).findSome? faultAt)) :
    checkItems fields =
      report (((itemNodes (fields.get? "items")).flatMap nodesAt).findSome? faultAt) := by
  rw [checkItems_eq]
  match fields.get? "items", h with
  | some (.object item), h =>
      rw [itemNodes, List.flatMap_singleton]
      exact (report_nodesAt (h _ (List.mem_singleton.mpr rfl))).symm
  | none, _ | some .null, _ | some (.bool _), _ | some (.number _), _ | some (.string _), _
  | some (.array _), _ => rfl

/-- Checking what is below a node finds the first node there that declares no kind. -/
theorem checkBelow_eq (node : Json) :
    checkBelow node = report ((nodesBelow node).findSome? faultAt) := by
  induction node using nodesFrom.induct with
  | case1 node ih =>
      rw [children, List.forall_mem_append] at ih
      cases node with
      | object fields =>
          have hbelow : checkBelow (.object fields) =
              match checkProperties fields with
              | .error fault => .error fault
              | .ok () => checkItems fields := rfl
          rw [hbelow, nodesBelow, children, List.flatMap_append, List.findSome?_append, report_or,
            get?_object, get?_object, ← checkProperties_eq_report ih.1, ← checkItems_eq_report ih.2]
      | null | bool _ | number _ | string _ | array _ => rfl

theorem checkBelow_eq_error_iff {node : Json} {fault : ShapeFault} :
    checkBelow node = .error fault ↔ FirstFault (nodesBelow node) fault := by
  rw [checkBelow_eq, firstFault_iff]
  cases (nodesBelow node).findSome? faultAt <;> simp [report]

theorem checkBelow_eq_ok_iff_forall {node : Json} :
    checkBelow node = .ok () ↔ ∀ entry ∈ nodesBelow node, Declares entry.2 := by
  have hnone : checkBelow node = .ok () ↔ (nodesBelow node).findSome? faultAt = none := by
    rw [checkBelow_eq]
    cases (nodesBelow node).findSome? faultAt <;> simp [report]
  simp only [hnone, List.findSome?_eq_none_iff, faultAt_eq_none_iff]

theorem mapError_eq_error_iff {α ε δ : Type} {f : ε → δ} {e : Except ε α} {d : δ} :
    e.mapError f = .error d ↔ ∃ inner, e = .error inner ∧ f inner = d := by
  cases e <;> simp [Except.mapError]

theorem map_eq_error_iff {α β ε : Type} {f : α → β} {e : Except ε α} {fault : ε} :
    e.map f = .error fault ↔ e = .error fault := by
  cases e <;> simp [Except.map]

theorem keepProperties_eq_error_iff {properties : Fields Json} {fault : ShapeFault} :
    keepProperties properties = .error fault ↔ FirstFault (placed properties) fault := by
  rw [firstFault_iff]
  induction properties with
  | nil => simp [keepProperties, placed]
  | cons entry rest ih =>
      obtain ⟨key, node⟩ := entry
      have hplaced : placed ((key, node) :: rest) =
          (["properties", key], node) :: placed rest := rfl
      rw [hplaced, List.findSome?_cons, keepProperties, topKind, faultAt]
      cases kindOf node with
      | error flaw => simp [Except.mapError, ShapeFault.under]
      | ok kind =>
          dsimp only [Except.mapError]
          rw [← ih]
          cases keepProperties rest <;> simp [Except.map]

/-- An entry that holds no properties is kept or left out, and is no fault. -/
theorem keepRoot_cons_eq_error_iff {key : String} {value : Json} {rest : Fields Json}
    (h : ∀ properties, ¬(key = "properties" ∧ value = .object properties)) {fault : ShapeFault} :
    keepRoot ((key, value) :: rest) = .error fault ↔ keepRoot rest = .error fault := by
  rw [keepRoot.eq_def]
  dsimp only
  split_ifs
  · split
    · exact absurd ⟨rfl, rfl⟩ (h _)
    · exact map_eq_error_iff
  · exact Iff.rfl

theorem keepRoot_eq_error_iff {fields : Fields Json} (hd : fields.Distinct) {fault : ShapeFault} :
    keepRoot fields = .error fault ↔
      ∃ properties, fields.get? "properties" = some (.object properties) ∧
        keepProperties properties = .error fault := by
  induction fields with
  | nil => simp [keepRoot]
  | cons entry rest ih =>
      obtain ⟨key, value⟩ := entry
      obtain ⟨hkey, hrest⟩ := Fields.distinct_cons.mp hd
      by_cases hproperties : key = "properties"
      · subst hproperties
        -- No second entry of this key can be at fault.
        have hnot : keepRoot rest ≠ .error fault := by
          rw [ne_eq, ih hrest, Fields.get?_eq_none_iff.mpr hkey]
          simp
        cases value with
        | object properties =>
            rw [keepRoot.eq_def]
            dsimp only
            rw [if_pos (by decide)]
            cases hkeep : keepProperties properties with
            | error inner => simp [hkeep]
            | ok kept => simp [map_eq_error_iff, hnot, hkeep]
        | null | bool _ | number _ | string _ | array _ =>
            rw [keepRoot_cons_eq_error_iff (by simp)]
            simp [hnot]
      · rw [keepRoot_cons_eq_error_iff fun properties h => hproperties h.1, ih hrest,
          Fields.get?_cons, if_neg hproperties]

/-- Storing a document is refused if it is no object, or at the first of its
root properties that declares no kind. -/
theorem keepAllowed_eq_error_iff {document : Json} (hu : document.UniqueKeys) {fault : ShapeFault} :
    keepAllowed document = .error fault ↔
      document.isObject = false ∧ fault = ⟨[], .rootNotObject⟩ ∨
        ∃ properties, document.get? "properties" = some (.object properties) ∧
          FirstFault (placed properties) fault := by
  cases document with
  | object fields =>
      rw [keepAllowed, map_eq_error_iff, keepRoot_eq_error_iff hu.distinct]
      simp [keepProperties_eq_error_iff, isObject, object?]
  | null | bool _ | number _ | string _ | array _ =>
      simp [keepAllowed, isObject, object?, Json.get?, eq_comm]

end SchemaLoom.Schema
