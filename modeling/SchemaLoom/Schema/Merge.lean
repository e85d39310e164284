import SchemaLoom.Schema.Kind
import SchemaLoom.Schema.Node
import SchemaLoom.Schema.Order

/-!
# Laying one schema over another

Keys of the overlay win over those of the base and keep the base's places.
`properties` are combined entry by entry and put in order, and `required` is the
union without repetition. Where both sides have a property, the deep policy
merges two nodes of the kind `object`, or two of the kind `array`, in the same
way; every other shared value is the overlay's.

The two policies are one recursion that differs in what becomes of a shared
value. Nodes of different kinds are never mixed, whatever the policy.
-/

namespace SchemaLoom.Schema

/-- What becomes of a property that both schemas have. Shallowly the overlay's
node replaces the base's; deeply two objects or two arrays are merged, and other
nodes are replaced. -/
inductive Policy where
  | shallow
  | deep
  deriving DecidableEq, Repr

def Policy.ofDeep (deep : Bool) : Policy := if deep then .deep else .shallow

/-- The strings of both `required`, the base's first, each once. What is no
string in either list is lost. -/
def unionRequired (base overlay : Fields Json) : List String :=
  (requiredOf base ++ requiredOf overlay).eraseDups

def overlaid (base overlay : Fields Json) (apart : List String) : Fields Json :=
  base.setAll (overlay.filter fun entry => !apart.contains entry.1)

/-- Two nodes of the kind `object`, given their combined properties. Either
keyword is written only if one side has it, and what the base has keeps its
place. -/
def objectNode (base overlay properties : Fields Json) : Fields Json :=
  let out := overlaid base overlay ["properties", "required"]
  let out :=
    if base.has "properties" || overlay.has "properties" then
      out.set "properties" (.object (ordered properties))
    else out
  if base.has "required" || overlay.has "required" then
    out.set "required" (.array ((unionRequired base overlay).map .string))
  else out

def arrayNode (base overlay : Fields Json) (items : Option Json) : Fields Json :=
  let out := overlaid base overlay ["items"]
  match items with
  | some items => out.set "items" items
  | none => out

mutual

/-- The value of a property that both sides have. The recursion follows the
overlay, since every call goes further into it and the base may be anything. -/
def mergeValue (policy : Policy) (base : Json) : Json → Json
  | .object overlay =>
    match policy, base, kindOf base, kindOf (.object overlay) with
    | .deep, .object base, .ok .object, .ok .object =>
      .object (objectNode base overlay (combineIn policy base overlay))
    | .deep, .object base, .ok .array, .ok .array =>
      .object (arrayNode base overlay (itemsIn policy (Fields.get? "items" base) overlay))
    | _, _, _, _ => .object overlay
  | overlay => overlay
termination_by structural overlay => overlay

def combineIn (policy : Policy) (base : List (String × Json)) : List (String × Json) → Fields Json
  | [] => propertiesOf base
  | (key, value) :: rest =>
    if key = "properties" then
      match value with
      | .object children => combine policy (propertiesOf base) children
      | _ => propertiesOf base
    else combineIn policy base rest
termination_by structural overlay => overlay

/-- Lays one entry of the overlay after another over the properties of the base:
a key that is there keeps its place, and a new one goes to the end. -/
def combine (policy : Policy) (base : List (String × Json)) : List (String × Json) → Fields Json
  | [] => base
  | (key, value) :: rest =>
    let merged :=
      match Fields.get? key base with
      | some present => mergeValue policy present value
      | none => value
    combine policy (Fields.set key merged base) rest
termination_by structural overlay => overlay

/-- The `items` of both sides, found by going through the overlay. They are
merged like the values of a shared property. -/
def itemsIn (policy : Policy) (base : Option Json) : List (String × Json) → Option Json
  | [] => base
  | (key, value) :: rest =>
    if key = "items" then
      match base with
      | some present => some (mergeValue policy present value)
      | none => some value
    else itemsIn policy base rest
termination_by structural overlay => overlay

end

/-- The properties of both sides, combined and in order. Sorting comes last, so
it goes by the positions that the combined nodes have. -/
def mergeProperties (policy : Policy) (base overlay : Fields Json) : Fields Json :=
  ordered (combine policy base overlay)

def mergeNode (policy : Policy) (base overlay : Fields Json) : Fields Json :=
  objectNode base overlay (combineIn policy base overlay)

def mergeArray (policy : Policy) (base overlay : Fields Json) : Fields Json :=
  arrayNode base overlay (itemsIn policy (base.get? "items") overlay)

/-- Two schemas: their roots are merged as nodes, whatever they declare, and the
result has `properties` even if neither side had any. -/
def merge (policy : Policy) (base overlay : Fields Json) : Fields Json :=
  let out := mergeNode policy base overlay
  if out.has "properties" then out else out.set "properties" (.object [])

/-- The search for `properties` that structural recursion needs is a look-up. -/
theorem combineIn_eq (policy : Policy) (base overlay : Fields Json) :
    combineIn policy base overlay = combine policy (propertiesOf base) (propertiesOf overlay) := by
  induction overlay with
  | nil => rfl
  | cons entry rest ih =>
    obtain ⟨key, value⟩ := entry
    by_cases h : key = "properties"
    · subst h
      cases value <;> rfl
    · have h' : propertiesOf ((key, value) :: rest) = propertiesOf rest := by
        simp [propertiesOf, h]
      rw [h', ← ih, combineIn.eq_def]
      simp [h]

/-- So is the search for `items`. -/
theorem itemsIn_eq (policy : Policy) (base : Option Json) (overlay : Fields Json) :
    itemsIn policy base overlay =
      match base, overlay.get? "items" with
      | some present, some incoming => some (mergeValue policy present incoming)
      | none, incoming => incoming
      | present, none => present := by
  induction overlay with
  | nil => cases base <;> rfl
  | cons entry rest ih =>
    obtain ⟨key, value⟩ := entry
    by_cases h : key = "items"
    · subst h
      cases base <;> rfl
    · rw [itemsIn.eq_def]
      simp [h, ih]

end SchemaLoom.Schema
