import SchemaLoom.Schema.Kind

/-!
# The shape of a schema

The root of a schema is an object that declares the kind `object`. Every node
below declares one of the six kinds; the nodes below a node are the entries of
its `properties`, if that is an object, and its `items`, if that is one. Nodes
are visited in order, `properties` before `items`, a node before those below it,
and the first that declares no kind is the fault.

A fault has the place of the node at fault from the root. That the root
describes objects is asked for first and blamed on its `type`.
-/

namespace SchemaLoom.Schema

mutual

def checkBelow : Json → Except ShapeFault Unit
  | .object fields =>
    match checkProperties fields with
    | .error fault => .error fault
    | .ok () => checkItems fields
  | _ => .ok ()
termination_by structural node => node

def checkProperties : List (String × Json) → Except ShapeFault Unit
  | [] => .ok ()
  | (key, value) :: rest =>
    if key = "properties" then
      match value with
      | .object children => checkEach children
      | _ => .ok ()
    else checkProperties rest
termination_by structural fields => fields

def checkItems : List (String × Json) → Except ShapeFault Unit
  | [] => .ok ()
  | (key, value) :: rest =>
    if key = "items" then
      if value.isObject then
        match topKind value with
        | .error fault => .error (fault.under ["items"])
        | .ok _ => (checkBelow value).mapError (·.under ["items"])
      else .ok ()
    else checkItems rest
termination_by structural fields => fields

/-- Checks one entry of `properties` after the other, each before what is below
it. The first fault in this order is the one that is reported. -/
def checkEach : List (String × Json) → Except ShapeFault Unit
  | [] => .ok ()
  | (key, node) :: rest =>
    match topKind node with
    | .error fault => .error (fault.under ["properties", key])
    | .ok _ =>
      match checkBelow node with
      | .error fault => .error (fault.under ["properties", key])
      | .ok () => checkEach rest
termination_by structural children => children

end

/-- Checks what the root itself declares: it must be an object of the type
`object`. Its own flaws differ from those of other nodes. -/
def checkRoot (schema : Json) : Except ShapeFault Unit :=
  if schema.isObject then
    match (schema.get? "type").bind Json.string? with
    | some word =>
      if word = Kind.object.name then .ok () else .error ⟨["type"], .rootOfOtherType word⟩
    | none => .error ⟨["type"], .rootUntyped⟩
  else .error ⟨[], .rootNotObject⟩

/-- Checks the shape of a schema: first the root and then every node below it
that can be reached through properties of objects and items of arrays. -/
def validate (schema : Json) : Except ShapeFault Unit :=
  match checkRoot schema with
  | .error fault => .error fault
  | .ok () => checkBelow schema

/-- The search for `properties` that structural recursion needs is a look-up. -/
theorem checkProperties_eq (fields : Fields Json) :
    checkProperties fields =
      match fields.get? "properties" with
      | some (.object children) => checkEach children
      | _ => .ok () := by
  induction fields with
  | nil => rfl
  | cons entry rest ih =>
    obtain ⟨key, value⟩ := entry
    by_cases h : key = "properties"
    · subst h
      cases value <;> rfl
    · rw [checkProperties.eq_def]
      simp [h, ih]

/-- So is the search for `items`. -/
theorem checkItems_eq (fields : Fields Json) :
    checkItems fields =
      match fields.get? "items" with
      | some (.object children) =>
        match topKind (.object children) with
        | .error fault => .error (fault.under ["items"])
        | .ok _ => (checkBelow (.object children)).mapError (·.under ["items"])
      | _ => .ok () := by
  induction fields with
  | nil => rfl
  | cons entry rest ih =>
    obtain ⟨key, value⟩ := entry
    by_cases h : key = "items"
    · subst h
      cases value <;> rfl
    · rw [checkItems.eq_def]
      simp [h, ih]

end SchemaLoom.Schema
