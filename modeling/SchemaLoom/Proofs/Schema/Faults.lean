import SchemaLoom.Proofs.Schema.Pointers
import SchemaLoom.Proofs.Schema.Undeclared
import SchemaLoom.Proofs.TypeExpr.Structure

/-!
# Where faults are

Checking a schema visits every node, storing it the root properties only, and
taking its structure the nodes that matter to a type. Whichever of them refuses
a document, its fault is at one of the nodes of the document, and the text of
the pointer leads there from the root, whatever characters the keys on the way
have.

What the check finds is the first node of all that declares no kind. That a
pointer leads somewhere is shown for the places of all nodes first, so each of
the three refusals only has to name its node.
-/

namespace SchemaLoom.Schema

open Json TypeExpr

theorem mem_nodesFrom_of_child {node : Json} {child entry : Pointer × Json}
    (hchild : child ∈ children node) (h : entry ∈ nodesFrom child.2) :
    moved child.1 entry ∈ nodesFrom node := by
  rw [nodesFrom_eq]
  exact List.mem_cons_of_mem _ (List.mem_flatMap.mpr ⟨child, hchild, List.mem_map_of_mem h⟩)

theorem follow?_append (front rest : Pointer) (document : Json) :
    (front ++ rest).follow? document = (front.follow? document).bind rest.follow? := by
  rw [Pointer.follow?, List.foldlM_append]
  rfl

theorem step?_eq_of_get? {node value : Json} {key : String} (h : node.get? key = some value) :
    Pointer.step? node key = some value := by
  cases node with
  | object fields => exact h
  | null | bool _ | number _ | string _ | array _ => cases h

theorem uniqueKeys_of_get? {node value : Json} (hu : node.UniqueKeys) {key : String}
    (h : node.get? key = some value) : value.UniqueKeys := by
  cases node with
  | object fields => exact hu.get? h
  | null | bool _ | number _ | string _ | array _ => cases h

theorem follow?_of_mem_children {node : Json} (hu : node.UniqueKeys) {child : Pointer × Json}
    (h : child ∈ children node) : child.1.follow? node = some child.2 ∧ child.2.UniqueKeys := by
  rcases List.mem_append.mp h with h | h
  · obtain ⟨properties, hproperties, entry, hentry, rfl⟩ := exists_of_mem_propertyNodes h
    have hunique := uniqueKeys_of_get? hu hproperties
    have hget : (Json.object properties).get? entry.1 = some entry.2 :=
      (Fields.get?_eq_some_iff hunique.distinct).mpr hentry
    refine ⟨?_, uniqueKeys_of_get? hunique hget⟩
    rw [Pointer.follow?, List.foldlM_cons, step?_eq_of_get? hproperties]
    exact (bind_pure _).trans (step?_eq_of_get? hget)
  · obtain ⟨item, hitem, rfl⟩ := exists_of_mem_itemNodes h
    refine ⟨?_, uniqueKeys_of_get? hu hitem⟩
    exact (bind_pure _).trans (step?_eq_of_get? hitem)

/-- The place of every node leads there from the root: the keys on the way are
unique, so each step finds the node that was gone through. -/
theorem follow?_of_mem_nodesFrom {document : Json} (hu : document.UniqueKeys) :
    ∀ entry ∈ nodesFrom document, entry.1.follow? document = some entry.2 := by
  induction document using nodesFrom.induct with
  | case1 node ih =>
      rw [nodesFrom_eq, List.forall_mem_cons, nodesBelow, List.forall_mem_flatMap]
      refine ⟨rfl, fun child hchild => ?_⟩
      obtain ⟨hfollow, hunique⟩ := follow?_of_mem_children hu hchild
      rw [nodesAt, List.forall_mem_map]
      intro entry hentry
      rw [moved, follow?_append, hfollow, Option.bind_some, ih child hchild hunique entry hentry]

theorem exists_of_fieldsOf_error {required : List String} {children : Fields Json}
    {fault : ShapeFault} (h : fieldsOf required children = .error fault) :
    ∃ entry ∈ children, ∃ inner, ofNode entry.2 = .error inner ∧
      fault = inner.under ["properties", entry.1] := by
  induction children with
  | nil => simp [fieldsOf] at h
  | cons entry rest ih =>
      obtain ⟨key, node⟩ := entry
      rw [fieldsOf.eq_def] at h
      dsimp only at h
      cases hnode : ofNode node with
      | error inner =>
          rw [hnode] at h
          exact ⟨(key, node), List.mem_cons_self, inner, hnode, (Except.error.inj h).symm⟩
      | ok type =>
          rw [hnode] at h
          cases hrest : fieldsOf required rest with
          | ok fields => simp [hrest, Except.map] at h
          | error inner =>
              simp only [hrest, Except.map, Except.error.injEq] at h
              obtain ⟨entry, hentry, inner, hinner, hfault⟩ := ih (h ▸ hrest)
              exact ⟨entry, List.mem_cons_of_mem _ hentry, inner, hinner, hfault⟩

/-- Taking the structure of a node fails only at a node that declares no kind,
and the fault names the place of that node. -/
theorem exists_of_ofNode_error {node : Json} {fault : ShapeFault} (h : ofNode node = .error fault) :
    ∃ found, (fault.pointer, found) ∈ nodesFrom node ∧ kindOf found = .error fault.flaw := by
  induction node using nodesFrom.induct generalizing fault with
  | case1 node ih =>
      -- A fault of a node right below is one of the node itself, seen from one step further out.
      have hbelow : ∀ child ∈ children node, ∀ inner, ofNode child.2 = .error inner →
          fault = inner.under child.1 →
          ∃ found, (fault.pointer, found) ∈ nodesFrom node ∧ kindOf found = .error fault.flaw := by
        rintro child hchild inner hinner rfl
        obtain ⟨found, hfound, hflaw⟩ := ih child hchild hinner
        exact ⟨found, mem_nodesFrom_of_child hchild hfound, hflaw⟩
      have hself : ∀ flaw, kindOf node = .error flaw → fault = ⟨[], flaw⟩ →
          ∃ found, (fault.pointer, found) ∈ nodesFrom node ∧ kindOf found = .error fault.flaw := by
        rintro flaw hflaw rfl
        exact ⟨node, by rw [nodesFrom_eq]; exact List.mem_cons_self, hflaw⟩
      cases node with
      | object fields =>
          rw [ofNode.eq_def] at h
          dsimp only at h
          cases hkind : kindOf (.object fields) with
          | error flaw =>
              rw [topKind, hkind] at h
              exact hself flaw hkind (Except.error.inj h).symm
          | ok kind =>
              rw [topKind, hkind] at h
              cases kind with
              | array =>
                  rw [Except.mapError, map_eq_error_iff, itemIn_eq] at h
                  split at h
                  · next item hitem =>
                    obtain ⟨inner, hinner, rfl⟩ := mapError_eq_error_iff.mp h
                    refine hbelow (["items"], .object item) (List.mem_append_right _ ?_)
                      inner hinner rfl
                    rw [get?_object, hitem]
                    exact List.mem_singleton.mpr rfl
                  · cases h
              | object =>
                  rw [Except.mapError, map_eq_error_iff, objectIn_eq] at h
                  split_ifs at h
                  obtain ⟨entry, hentry, inner, hinner, rfl⟩ :=
                    exists_of_fieldsOf_error (map_eq_error_iff.mp h)
                  refine hbelow (["properties", entry.1], entry.2) (List.mem_append_left _ ?_) inner
                    hinner rfl
                  rw [get?_object, get?_properties_of_mem hentry]
                  exact List.mem_map_of_mem hentry
              | string | boolean | integer | number => cases h
      | null | bool _ | number _ | string _ | array _ =>
          exact hself .untyped rfl (Except.error.inj h).symm

theorem checkRoot_eq_ok_iff_type {document : Json} :
    checkRoot document = .ok () ↔ document.get? "type" = some (.string "object") := by
  rw [checkRoot_eq_ok_iff, kindOf_eq_ok_iff]
  rfl

theorem validate_of_type {document : Json} (h : document.get? "type" = some (.string "object")) :
    validate document = checkBelow document := by
  rw [validate, checkRoot_eq_ok_iff_type.mpr h]

/-- A fault of the root itself is that it declares no object, or that it is none. -/
theorem checkRoot_eq_error {document : Json} {fault : ShapeFault}
    (h : checkRoot document = .error fault) :
    fault.pointer = ["type"] ∨ fault.pointer = [] ∧ document.isObject = false := by
  unfold checkRoot at h
  split_ifs at h with hobject
  · left
    split at h
    · split_ifs at h
      exact congrArg ShapeFault.pointer (Except.error.inj h).symm
    · exact congrArg ShapeFault.pointer (Except.error.inj h).symm
  · exact .inr ⟨congrArg ShapeFault.pointer (Except.error.inj h).symm, by simpa using hobject⟩

theorem not_declares_of_not_isObject {node : Json} (h : node.isObject = false) :
    ¬Declares node := by
  rintro ⟨kind, hkind⟩
  cases node with
  | object fields => cases h
  | null | bool _ | number _ | string _ | array _ => cases hkind

/-- The node at fault is found in the document, at the root or below it, and the
pointer of the fault is its place. -/
def Located (document : Json) (fault : ShapeFault) : Prop :=
  ∃ node, (fault.pointer, node) ∈ nodesFrom document ∧ ¬Declares node

theorem located_root {document : Json} {fault : ShapeFault} (hpointer : fault.pointer = [])
    (h : document.isObject = false) : Located document fault := by
  refine ⟨document, ?_, not_declares_of_not_isObject h⟩
  rw [hpointer, nodesFrom_eq]
  exact List.mem_cons_self

theorem FirstFault.located {document : Json} {nodes : List (Pointer × Json)} {fault : ShapeFault}
    (h : FirstFault nodes fault) (hsub : nodes ⊆ nodesBelow document) : Located document fault := by
  obtain ⟨before, node, after, rfl, _, hnode⟩ := h
  refine ⟨node, ?_, not_declares_iff.mpr ⟨_, hnode⟩⟩
  rw [nodesFrom_eq]
  exact List.mem_cons_of_mem _ (hsub (List.mem_append_right _ List.mem_cons_self))

theorem located_of_validate {document : Json} {fault : ShapeFault}
    (h : validate document = .error fault) (hpointer : fault.pointer.text ≠ "/type") :
    Located document fault := by
  unfold validate at h
  cases hroot : checkRoot document with
  | error inner =>
      rw [hroot] at h
      obtain rfl := Except.error.inj h
      rcases checkRoot_eq_error hroot with htype | ⟨hnil, hobject⟩
      · exact absurd (congrArg Pointer.text htype) hpointer
      · exact located_root hnil hobject
  | ok u =>
      rw [hroot] at h
      exact (checkBelow_eq_error_iff.mp h).located fun _ => id

theorem located_of_keepAllowed {document : Json} (hu : document.UniqueKeys) {fault : ShapeFault}
    (h : keepAllowed document = .error fault) : Located document fault := by
  rcases (keepAllowed_eq_error_iff hu).mp h with ⟨hobject, rfl⟩ | ⟨properties, hproperties, hfirst⟩
  · exact located_root rfl hobject
  · refine hfirst.located fun entry hentry => ?_
    have hchild : entry ∈ children document := by
      rw [children, hproperties]
      exact List.mem_append_left _ hentry
    refine List.mem_flatMap.mpr ⟨entry, hchild, ?_⟩
    rw [nodesAt, nodesFrom_eq, List.map_cons, moved, List.append_nil]
    exact List.mem_cons_self

theorem located_of_ofSchema {document : Json} {name : String} {fault : ShapeFault}
    (h : ofSchema name document = .error fault) : Located document fault := by
  obtain ⟨node, hnode, hflaw⟩ := exists_of_ofNode_error (map_eq_error_iff.mp h)
  exact ⟨node, hnode, not_declares_iff.mpr ⟨_, hflaw⟩⟩

theorem Located.resolve? {document : Json} {fault : ShapeFault} (h : Located document fault)
    (hu : document.UniqueKeys) :
    ∃ node, Pointer.resolve? fault.pointer.text document = some node ∧ ¬Declares node := by
  obtain ⟨node, hnode, hnot⟩ := h
  exact ⟨node, by rw [Pointer.resolve?_text]; exact follow?_of_mem_nodesFrom hu _ hnode, hnot⟩

/-- The check passes exactly if the root declares an object and every node below
it one of the six kinds, and otherwise finds the first that does not, from the
root down and properties before items. Whenever a document is refused in the
check, in storing or in taking its structure, the text of the pointer leads
through the document to a node that declares no kind. Only what the root
declares of itself is blamed on its `type`. -/
theorem faults_located (document : Json) (hu : document.UniqueKeys) :
    (validate document = .ok () ↔ document.get? "type" = some (.string "object") ∧
      ∀ entry ∈ nodesBelow document, Declares entry.2) ∧
    (∀ fault, document.get? "type" = some (.string "object") →
      (validate document = .error fault ↔ FirstFault (nodesBelow document) fault)) ∧
    ∀ fault name,
      (validate document = .error fault ∧ fault.pointer.text ≠ "/type") ∨
        keepAllowed document = .error fault ∨ ofSchema name document = .error fault →
      ∃ node, Pointer.resolve? fault.pointer.text document = some node ∧ ¬Declares node := by
  refine ⟨?_, fun fault htype => ?_, fun fault name h => ?_⟩
  · rw [← checkRoot_eq_ok_iff_type, ← checkBelow_eq_ok_iff_forall, validate]
    cases checkRoot document <;> simp
  · rw [validate_of_type htype, checkBelow_eq_error_iff]
  · rcases h with ⟨h, hpointer⟩ | h | h
    · exact (located_of_validate h hpointer).resolve? hu
    · exact (located_of_keepAllowed hu h).resolve? hu
    · exact (located_of_ofSchema h).resolve? hu

/-- A node without a kind under a key with a slash and a tilde, below the items
of a property without a name. -/
theorem faults_located_escaped :
    let document : Json := .object [("type", .string "object"),
      ("properties", .object [("", .object [("type", .string "array"),
        ("items", .object [("type", .string "object"),
          ("properties", .object [("a/~1b", .object [("title", .null)])])])])])]
    let fault : ShapeFault := ⟨["properties", "", "items", "properties", "a/~1b"], .untyped⟩
    document.UniqueKeys ∧ validate document = .error fault ∧
      fault.pointer.text = "/properties//items/properties/a~1~01b" ∧
      FirstFault (nodesBelow document) fault ∧
      ∃ node, Pointer.resolve? fault.pointer.text document = some node ∧ ¬Declares node := by
  intro document fault
  have hu : document.UniqueKeys := by simp [document, Fields.Distinct]
  have hfault : validate document = .error fault := rfl
  have htext : fault.pointer.text = "/properties//items/properties/a~1~01b" := by decide +kernel
  have hlocated := faults_located document hu
  refine ⟨hu, hfault, htext, (hlocated.2.1 fault rfl).mp hfault,
    hlocated.2.2 fault "Input" (.inl ⟨hfault, ?_⟩)⟩
  rw [htext]
  decide

end SchemaLoom.Schema
