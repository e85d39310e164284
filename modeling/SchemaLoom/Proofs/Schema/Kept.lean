import SchemaLoom.Proofs.Schema.Stored
import SchemaLoom.Proofs.Schema.Undeclared

/-!
# What a stored schema keeps

Storing a schema leaves keys out, at the root and in each root property, and
changes nothing else. What decides on a key of a property is the kind of the
property and its editor, and both of these stay. So a stored schema is stored as
it is.

What is expected is told first, as relations between a document and what is
stored for it that list no entries of either. No stored property has a position,
so a stored schema is in order too, and all defaults are where they were.
-/

namespace SchemaLoom.Schema

open Json

def MayCarry (kind : Kind) (node : Fields Json) (key : String) : Prop :=
  key ∈ commonKeys ∨ key ∈ kind.keys ∨
    kind = .array ∧ key = "items" ∧ node.get? "editor" = some (.string "select")

/-- A root property and what is stored for it: under the same name, of its
entries those that one of its kind may carry, in their order. -/
inductive PropertyStored : String × Json → String × Json → Prop
  | carried {name : String} {kind : Kind} {fields left : Fields Json}
      (declared : fields.get? "type" = some (.string kind.name)) (inOrder : left.Sublist fields)
      (carries : ∀ entry, entry ∈ left ↔ entry ∈ fields ∧ MayCarry kind fields entry.1) :
      PropertyStored (name, .object fields) (name, .object left)

/-- An entry of the root and what is stored for it. The properties are stored
one by one, and everything else is stored as it is. -/
inductive EntryStored : String × Json → String × Json → Prop
  | properties {properties stored : Fields Json}
      (each : List.Forall₂ PropertyStored properties stored) :
      EntryStored ("properties", .object properties) ("properties", .object stored)
  | verbatim {key : String} {value : Json} (h : ¬(key = "properties" ∧ value.isObject = true)) :
      EntryStored (key, value) (key, value)

/-- A document and what is stored for it: of the entries of the root those with
the keys that are kept there, in their order. -/
inductive DocumentStored : Json → Json → Prop
  | root {fields stored : Fields Json}
      (each : List.Forall₂ EntryStored
        (fields.filter fun entry => rootKeys.contains entry.1) stored) :
      DocumentStored (.object fields) (.object stored)

theorem keepsKey_iff {kind : Kind} {node : Fields Json} {key : String} :
    keepsKey kind node key = true ↔ MayCarry kind node key := by
  have hselect : isSelect node = true ↔ node.get? "editor" = some (.string "select") := by
    rw [isSelect, decide_eq_true_iff, Option.bind_eq_some_iff]
    constructor
    · rintro ⟨value, hvalue, hword⟩
      cases value with
      | string word => rw [hvalue, Option.some.inj hword]
      | null | bool _ | number _ | array _ | object _ => cases hword
    · exact fun h => ⟨_, h, rfl⟩
  rw [keepsKey, MayCarry, ← hselect]
  simp [and_assoc, or_assoc]

theorem propertyStored_keptNode {name : String} {node : Json} (h : Declares node) :
    PropertyStored (name, node) (name, keptNode node) := by
  obtain ⟨kind, hkind⟩ := h
  obtain ⟨fields, rfl⟩ := exists_fields_of_kindOf (kindOf_eq_ok_iff.mpr hkind)
  rw [keptNode, kindOf_eq_ok_iff.mpr hkind]
  refine .carried hkind List.filter_sublist fun entry => ?_
  rw [List.mem_filter, keepsKey_iff]

def PropertiesDeclare (fields : Fields Json) : Prop :=
  ∀ properties, ("properties", Json.object properties) ∈ fields →
    ∀ entry ∈ properties, Declares entry.2

theorem PropertiesDeclare.declares {fields : Fields Json} (h : PropertiesDeclare fields)
    {entry : String × Json} (hentry : entry ∈ propertiesOf fields) : Declares entry.2 := by
  rw [propertiesOf] at hentry
  cases hget : fields.get? "properties" with
  | none => simp [hget] at hentry
  | some value =>
      rw [hget] at hentry
      cases value with
      | object properties => exact h properties (Fields.mem_of_get? hget) entry hentry
      | null | bool _ | number _ | string _ | array _ => cases hentry

theorem entryStored_keptValue {key : String} {value : Json}
    (h : key = "properties" → ∀ properties, value = .object properties →
      ∀ entry ∈ properties, Declares entry.2) :
    EntryStored (key, value) (key, keptValue key value) := by
  by_cases hproperties : key = "properties" ∧ value.isObject = true
  · obtain ⟨rfl, hobject⟩ := hproperties
    cases value with
    | object properties =>
        rw [keptValue, if_pos rfl]
        refine .properties (List.forall₂_map_right_iff.mpr (List.forall₂_same.mpr ?_))
        exact fun entry hentry => propertyStored_keptNode (h rfl properties rfl entry hentry)
    | null | bool _ | number _ | string _ | array _ => cases hobject
  · have hsame : keptValue key value = value := by
      cases value with
      | object properties => exact if_neg fun hkey => hproperties ⟨hkey, rfl⟩
      | null | bool _ | number _ | string _ | array _ => rfl
    rw [hsame]
    exact .verbatim hproperties

theorem documentStored_kept {fields : Fields Json} (h : PropertiesDeclare fields) :
    DocumentStored (.object fields) (.object (kept fields)) := by
  refine .root (List.forall₂_map_right_iff.mpr (List.forall₂_same.mpr ?_))
  rintro ⟨key, value⟩ hentry
  refine entryStored_keptValue ?_
  rintro rfl properties rfl
  exact h properties (List.mem_of_mem_filter hentry)

/-- Leaving keys out does not change which may be carried, since the editor is
never left out. -/
theorem keepsKey_filter (kind : Kind) (node : Fields Json) (key : String) :
    keepsKey kind (node.filter fun entry => keepsKey kind node entry.1) key =
      keepsKey kind node key := by
  have heditor : keepsKey kind node "editor" = true := keepsKey_iff.mpr (.inl (by decide))
  rw [keepsKey, keepsKey, isSelect, isSelect, Fields.get?_filter (keepsKey kind node),
    if_pos heditor]

theorem keptNode_keptNode (node : Json) : keptNode (keptNode node) = keptNode node := by
  cases hkind : kindOf node with
  | error flaw => simp only [keptNode, hkind]
  | ok kind =>
      have hagain := kindOf_keptNode hkind
      obtain ⟨fields, rfl⟩ := exists_fields_of_kindOf hkind
      rw [keptNode, hagain, keptNode, hkind]
      simp only [keepProperty, keepsKey_filter, List.filter_filter, Bool.and_self]

theorem keptValue_keptValue (key : String) (value : Json) :
    keptValue key (keptValue key value) = keptValue key value := by
  cases value with
  | object properties =>
      by_cases hkey : key = "properties"
      · simp [keptValue, hkey, keptNode_keptNode]
      · simp [keptValue, hkey]
  | null | bool _ | number _ | string _ | array _ => rfl

theorem kept_kept (fields : Fields Json) : kept (kept fields) = kept fields := by
  have hroot : (kept fields).filter (fun entry => rootKeys.contains entry.1) = kept fields := by
    rw [List.filter_eq_self]
    intro entry hentry
    obtain ⟨old, hold, rfl⟩ := List.mem_map.mp hentry
    exact (List.mem_filter.mp hold).2
  rw [kept, hroot, kept, List.map_map]
  exact List.map_congr_left fun entry _ => Prod.ext rfl (keptValue_keptValue entry.1 entry.2)

theorem propertiesDeclare_kept {fields : Fields Json} (h : PropertiesDeclare fields) :
    PropertiesDeclare (kept fields) := by
  intro properties hmem entry hentry
  obtain ⟨⟨key, value⟩, hold, heq⟩ := List.mem_map.mp hmem
  obtain ⟨rfl, hvalue⟩ := Prod.mk.inj heq
  cases value with
  | object old =>
      rw [keptValue, if_pos rfl] at hvalue
      obtain rfl := Json.object.inj hvalue
      obtain ⟨child, hchild, rfl⟩ := List.mem_map.mp hentry
      obtain ⟨kind, hkind⟩ := declares_iff.mp (h old (List.mem_of_mem_filter hold) child hchild)
      exact declares_iff.mpr ⟨kind, kindOf_keptNode hkind⟩
  | null | bool _ | number _ | string _ | array _ => cases hvalue

/-- Properties none of which has a position stay in the order that they have. -/
theorem ordered_of_unpositioned {properties : Fields Json}
    (h : ∀ entry ∈ properties, position? entry.2 = none) : ordered properties = properties := by
  refine List.mergeSort_of_pairwise (List.pairwise_of_forall_mem_list fun a ha b hb => ?_)
  rw [mayPrecede, h a ha, h b hb]

theorem ordered_of_no_position {properties : Fields Json}
    (h : ∀ entry ∈ properties, entry.2.get? "position" = none) :
    ordered properties = properties := by
  refine ordered_of_unpositioned fun entry hentry => ?_
  rw [position?, h entry hentry, Option.bind_none]

theorem get?_position_keptNode {node : Json} (h : Declares node) :
    (keptNode node).get? "position" = none := by
  obtain ⟨kind, hkind⟩ := declares_iff.mp h
  have hleft : keepsKey kind (node.object?.getD []) "position" = false := by
    cases kind <;> simp [keepsKey, commonKeys, Kind.keys]
  rw [get?_keptNode hkind, hleft]
  rfl

theorem get?_position_of_mem_kept {fields properties : Fields Json} (h : PropertiesDeclare fields)
    (hget : (kept fields).get? "properties" = some (.object properties)) :
    ∀ entry ∈ properties, entry.2.get? "position" = none := by
  intro entry hentry
  have hmem : entry ∈ propertiesOf (kept fields) := by
    rw [propertiesOf, hget]
    exact hentry
  rw [propertiesOf_kept] at hmem
  obtain ⟨old, hold, rfl⟩ := List.mem_map.mp hmem
  exact get?_position_keptNode (h.declares hold)

theorem orderRoot_kept {fields : Fields Json} (h : PropertiesDeclare fields) :
    orderRoot (.object (kept fields)) = .object (kept fields) := by
  cases hget : (kept fields).get? "properties" with
  | none => exact orderRoot_of_get?_none hget
  | some value =>
      have hordered : orderedValue value = value := by
        cases value with
        | object properties =>
            exact congrArg Json.object (ordered_of_no_position (get?_position_of_mem_kept h hget))
        | null | bool _ | number _ | string _ | array _ => rfl
      rw [orderRoot_of_get? hget, hordered, Fields.set_of_get? hget]

theorem defaultsOf_kept (fields : Fields Json) :
    defaultsOf (.object (kept fields)) = defaultsOf (.object fields) := by
  rw [defaultsOf, defaultsOf, object?, object?, Option.getD_some, Option.getD_some,
    propertiesOf_kept, defaultsIn_keptNode]

theorem keepAllowed_of_propertiesDeclare {fields : Fields Json} (h : PropertiesDeclare fields) :
    keepAllowed (.object fields) = .ok (.object (kept fields)) := by
  rw [keepAllowed, keepRoot_eq, kept]
  · rfl
  · exact fun properties hmem entry hentry => declares_iff.mp (h properties hmem entry hentry)

theorem exists_firstFault_placed_iff {properties : Fields Json} :
    (∃ fault, FirstFault (placed properties) fault) ↔ ∃ entry ∈ properties, ¬Declares entry.2 := by
  simp only [exists_firstFault_iff, placed, List.mem_map, exists_exists_and_eq_and]

/-- What is stored without a fault is stored with all of its properties
declared, since a property without a kind is refused. -/
theorem propertiesDeclare_of_keepAllowed {fields : Fields Json} {stored : Json}
    (hu : UniqueKeys (.object fields)) (h : keepAllowed (.object fields) = .ok stored) :
    PropertiesDeclare fields := by
  intro properties hmem entry hentry
  by_contra hnot
  have hget : fields.get? "properties" = some (.object properties) :=
    (Fields.get?_eq_some_iff hu.distinct).mpr hmem
  obtain ⟨fault, hfault⟩ := exists_firstFault_placed_iff.mpr ⟨entry, hentry, hnot⟩
  have herror := (keepAllowed_eq_error_iff hu).mpr (.inr ⟨properties, hget, hfault⟩)
  rw [h] at herror
  cases herror

/-- A document is stored unless it is no object or a root property declares no
kind, and then the first such property is the fault. What is stored holds the
keys that are kept, in their order and with their values. To store it again or
to put it in order changes nothing, and its defaults are those of the document. -/
theorem keepAllowed_exactly (document : Json) (hu : document.UniqueKeys) :
    ((∃ fault, keepAllowed document = .error fault) ↔
      document.isObject = false ∨
        ∃ properties, document.get? "properties" = some (.object properties) ∧
          ∃ entry ∈ properties, ¬Declares entry.2) ∧
    (∀ fault, keepAllowed document = .error fault ↔
      document.isObject = false ∧ fault = ⟨[], .rootNotObject⟩ ∨
        ∃ properties, document.get? "properties" = some (.object properties) ∧
          FirstFault (placed properties) fault) ∧
    ∀ stored, keepAllowed document = .ok stored →
      DocumentStored document stored ∧ keepAllowed stored = .ok stored ∧
        orderRoot stored = stored ∧
        (∀ properties, stored.get? "properties" = some (.object properties) →
          ∀ entry ∈ properties, entry.2.get? "position" = none) ∧
        defaultsOf stored = defaultsOf document := by
  refine ⟨?_, fun fault => keepAllowed_eq_error_iff hu, fun stored hstored => ?_⟩
  · constructor
    · rintro ⟨fault, hfault⟩
      rcases (keepAllowed_eq_error_iff hu).mp hfault with ⟨hobject, -⟩ | ⟨properties, hget, hfirst⟩
      · exact .inl hobject
      · exact .inr ⟨properties, hget, exists_firstFault_placed_iff.mp ⟨fault, hfirst⟩⟩
    · rintro (hobject | ⟨properties, hget, hentry⟩)
      · exact ⟨_, (keepAllowed_eq_error_iff hu).mpr (.inl ⟨hobject, rfl⟩)⟩
      · obtain ⟨fault, hfirst⟩ := exists_firstFault_placed_iff.mpr hentry
        exact ⟨fault, (keepAllowed_eq_error_iff hu).mpr (.inr ⟨properties, hget, hfirst⟩)⟩
  · cases document with
    | object fields =>
        have hdeclare := propertiesDeclare_of_keepAllowed hu hstored
        rw [keepAllowed_of_propertiesDeclare hdeclare] at hstored
        obtain rfl := Except.ok.inj hstored
        refine ⟨documentStored_kept hdeclare, ?_, orderRoot_kept hdeclare,
          fun properties hget => get?_position_of_mem_kept hdeclare hget, defaultsOf_kept fields⟩
        rw [keepAllowed_of_propertiesDeclare (propertiesDeclare_kept hdeclare), kept_kept]
    | null | bool _ | number _ | string _ | array _ => cases hstored

/-- A property of every kind that carries the keys of all of them keeps its own.
Items stay where one chooses from a list, and a position and an unknown key of
the root do not. -/
theorem keepAllowed_exactly_select :
    let node (kind : String) (keys : List String) : Json :=
      .object (("type", .string kind) :: ("default", .null) :: keys.map fun key => (key, .null))
    let items : Json := .object [("type", .string "string"), ("position", .null)]
    let common := ["title", "description", "prefill", "example", "nullable", "sectionCaption",
      "sectionDescription"]
    let select (keys : List String) : Json :=
      .object (("type", .string "array") :: ("editor", .string "select") :: ("items", items) ::
        keys.map fun key => (key, .null))
    let every := ["position", "pattern", "minLength", "maxLength", "enum", "enumTitles", "isSecret",
      "groupCaption", "groupDescription", "minimum", "maximum", "unit", "patternKey",
      "patternValue", "minProperties", "maxProperties", "properties", "required",
      "additionalProperties", "placeholderKey", "placeholderValue", "minItems", "maxItems",
      "uniqueItems", "items"]
    let document : Json := .object [("$id", .null), ("title", .null), ("type", .string "object"),
      ("description", .null), ("definitions", .null), ("properties", .object
        [("s", node "string" every), ("b", node "boolean" every), ("i", node "integer" every),
          ("n", node "number" every), ("o", node "object" every), ("a", node "array" every),
          ("tags", select ("position" :: common))]),
      ("required", .null), ("schemaVersion", .null)]
    let stored : Json := .object [("title", .null), ("type", .string "object"),
      ("description", .null), ("properties", .object
        [("s", node "string"
            ["pattern", "minLength", "maxLength", "enum", "enumTitles", "isSecret"]),
          ("b", node "boolean" ["groupCaption", "groupDescription"]),
          ("i", node "integer" ["minimum", "maximum", "unit"]),
          ("n", node "number" ["minimum", "maximum", "unit"]),
          ("o", node "object" ["isSecret", "patternKey", "patternValue", "minProperties",
            "maxProperties", "properties", "required", "additionalProperties"]),
          ("a", node "array" ["patternKey", "patternValue", "placeholderKey", "placeholderValue",
            "minItems", "maxItems", "uniqueItems"]),
          ("tags", select common)]),
      ("required", .null), ("schemaVersion", .null)]
    document.UniqueKeys ∧ keepAllowed document = .ok stored ∧ DocumentStored document stored ∧
      keepAllowed stored = .ok stored ∧ orderRoot stored = stored ∧
      defaultsOf stored = ["s", "b", "i", "n", "o", "a"].map fun key => (key, .null) := by
  intro node items common select every document stored
  have hu : document.UniqueKeys := by
    simp [document, node, select, items, common, every, Fields.Distinct]
  have hstored : keepAllowed document = .ok stored := rfl
  obtain ⟨hkept, hagain, hordered, -, hdefaults⟩ :=
    (keepAllowed_exactly document hu).2.2 stored hstored
  exact ⟨hu, hstored, hkept, hagain, hordered, hdefaults⟩

end SchemaLoom.Schema
