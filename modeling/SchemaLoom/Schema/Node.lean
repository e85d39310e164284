import SchemaLoom.Json.Basic

/-!
# What a node lists

A node lists its properties under `properties` and the keys that must be given
under `required`. Where one of them is missing or of another form, the list is
empty.
-/

namespace SchemaLoom.Schema

/-- The entries of `properties`; none if that is missing or no object. So a node
that declares another kind can still have properties here. -/
def propertiesOf (node : Fields Json) : Fields Json :=
  ((node.get? "properties").bind Json.object?).getD []

/-- The strings of `required`; none if that is missing or no array. Other items
are passed over. -/
def requiredOf (node : Fields Json) : List String :=
  ((node.get? "required").map Json.strings).getD []

@[simp] theorem propertiesOf_nil : propertiesOf [] = [] := rfl

@[simp] theorem requiredOf_nil : requiredOf [] = [] := rfl

end SchemaLoom.Schema
