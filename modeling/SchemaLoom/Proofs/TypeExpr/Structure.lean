import SchemaLoom.Proofs.Schema.Typed
import SchemaLoom.TypeExpr.OfSchema
import SchemaLoom.TypeExpr.Text

/-!
# The structure of a schema

Taking the structure of a node looks at fewer nodes than the check of its shape:
items are looked at below arrays only, properties below objects only. So every
node of valid shape has a structure, and an object has its properties as fields,
in their order.

What a field carries besides its type is what the property says of itself,
whatever the names of objects are. So it can be told before names are given out.
-/

namespace SchemaLoom.TypeExpr

open Json Schema

theorem itemIn_eq (fields : Fields Json) :
    itemIn fields =
      match fields.get? "items" with
      | some (.object item) => (ofNode (.object item)).mapError (·.under ["items"])
      | _ => .ok .unknown := by
  induction fields with
  | nil => rfl
  | cons entry rest ih =>
      obtain ⟨key, value⟩ := entry
      by_cases h : key = "items"
      · subst h
        cases value <;> rfl
      · rw [itemIn.eq_def]
        simp [h, ih]

/-- The type of an object, told by the properties that are listed. -/
theorem objectIn_eq (required : List String) (fields : Fields Json) :
    objectIn required fields =
      if propertiesOf fields = [] then .ok .map
      else (fieldsOf required (propertiesOf fields)).map (.object "") := by
  induction fields with
  | nil => rfl
  | cons entry rest ih =>
      obtain ⟨key, value⟩ := entry
      by_cases h : key = "properties"
      · subst h
        cases value with
        | object children => cases children <;> rfl
        | _ => rfl
      · have hrest : propertiesOf ((key, value) :: rest) = propertiesOf rest := by
          simp [propertiesOf, h]
        rw [objectIn.eq_def, hrest, ← ih]
        simp [h]

/-- Fields have a structure if every node among them has one, and then carry
what each property says of itself, in order. -/
theorem exists_fieldsOf (required : List String) {children : Fields Json}
    (h : ∀ entry ∈ children, ∃ type, ofNode entry.2 = .ok type) :
    ∃ fields, fieldsOf required children = .ok fields ∧
      fields.map (·.1) = children.map fun entry => propertyOf required entry.1 entry.2 := by
  induction children with
  | nil => exact ⟨[], rfl, rfl⟩
  | cons entry rest ih =>
      obtain ⟨key, node⟩ := entry
      rw [List.forall_mem_cons] at h
      obtain ⟨⟨type, htype⟩, hrest⟩ := h
      obtain ⟨fields, hfields, hproperties⟩ := ih hrest
      refine ⟨(propertyOf required key node, type) :: fields, ?_, ?_⟩
      · rw [fieldsOf.eq_def]
        simp [htype, hfields, Except.map]
      · simp [hproperties]

/-- A node of valid shape has a structure: no node that it depends on is at fault. -/
theorem exists_ofNode {node : Json} (h : Typed node) : ∃ type, ofNode node = .ok type := by
  induction h with
  | @node node kind declared properties items ihprops ihitems =>
      obtain ⟨fields, rfl⟩ := exists_fields_of_kindOf declared
      rw [ofNode.eq_def]
      dsimp only
      rw [topKind_eq_ok_iff.mpr declared]
      cases kind with
      | array =>
          dsimp only
          rw [itemIn_eq]
          split
          · next item hitem =>
            obtain ⟨type, htype⟩ := ihitems item hitem
            exact ⟨orNull fields (.array type), by simp [htype, Except.mapError, Except.map]⟩
          · exact ⟨_, rfl⟩
      | object =>
          dsimp only
          rw [objectIn_eq]
          split
          · exact ⟨_, rfl⟩
          · obtain ⟨types, htypes, _⟩ := exists_fieldsOf (requiredOf fields)
              fun entry hentry => ihprops _ (get?_properties_of_mem hentry) entry hentry
            exact ⟨orNull fields (.object "" types), by simp [htypes, Except.map]⟩
      | _ => exact ⟨_, rfl⟩

/-- The properties of the object that a type is about, if it is about one, with
or without null. -/
def fields : TypeExpr → List (Property × TypeExpr)
  | .object _ fields => fields
  | .nullable inner => inner.fields
  | _ => []

theorem members_eq (type : TypeExpr) : type.members = type.fields.map memberOf := by
  induction type using members.induct with
  | case1 name fields => rfl
  | case2 inner ih => exact ih
  | case3 type hobject hnullable =>
      cases type with
      | object name fields => exact absurd rfl (hobject name fields)
      | nullable inner => exact absurd rfl (hnullable inner)
      | _ => rfl

theorem map_fst_assignFields (owner : String) (taken : List String)
    (fields : List (Property × TypeExpr)) :
    (assignFields owner taken fields).1.map (·.1) = fields.map (·.1) := by
  induction fields generalizing taken with
  | nil => rfl
  | cons field rest ih =>
      obtain ⟨property, type⟩ := field
      simp [assignFields, ih]

/-- Giving out names changes nothing about the properties of the root but their
types. -/
theorem map_fst_fields_assign : ∀ (type : TypeExpr) (wanted : String) (taken : List String),
    (assign true wanted taken type).1.fields.map (·.1) = type.fields.map (·.1)
  | .nullable inner, wanted, taken => map_fst_fields_assign inner wanted taken
  | .object _ fields, wanted, taken => map_fst_assignFields wanted (wanted :: taken) fields
  | .array _, _, _ | .unknown, _, _ | .boolean, _, _ | .integer, _, _ | .number, _, _
  | .string _, _, _ | .map, _, _ => rfl

theorem fields_orNull (node : Fields Json) (type : TypeExpr) :
    (orNull node type).fields = type.fields := by
  unfold orNull
  split <;> rfl

/-- The fields of the root of a schema are its properties, in their order. -/
theorem exists_ofSchema {fields : Fields Json} (h : Typed (.object fields))
    (hkind : kindOf (.object fields) = .ok .object) (name : String) :
    ∃ type, ofSchema name (.object fields) = .ok type ∧
      type.fields.map (·.1) =
        (propertiesOf fields).map fun entry => propertyOf (requiredOf fields) entry.1 entry.2 := by
  obtain ⟨types, htypes, hproperties⟩ := exists_fieldsOf (requiredOf fields) fun entry hentry =>
    exists_ofNode (h.typedBelow.properties _ (get?_properties_of_mem hentry) entry hentry)
  have hobject : ∃ type, ofNode (.object fields) = .ok type ∧ type.fields.map (·.1) =
      (propertiesOf fields).map fun entry => propertyOf (requiredOf fields) entry.1 entry.2 := by
    rw [ofNode.eq_def]
    dsimp only
    rw [topKind_eq_ok_iff.mpr hkind]
    dsimp only
    rw [objectIn_eq]
    split
    · next hempty => exact ⟨_, rfl, by rw [fields_orNull, hempty]; rfl⟩
    · rw [htypes]
      exact ⟨_, rfl, by rw [fields_orNull]; exact hproperties⟩
  obtain ⟨type, htype, hfields⟩ := hobject
  refine ⟨named name type, by rw [ofSchema, htype]; rfl, ?_⟩
  rw [named, map_fst_fields_assign, hfields]

end SchemaLoom.TypeExpr
