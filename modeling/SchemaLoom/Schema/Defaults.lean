import SchemaLoom.Schema.Node

/-!
# Declared defaults

A root property declares a default under the key of that name; `null` is a
default like any other.
-/

namespace SchemaLoom.Schema

def defaultsIn (properties : Fields Json) : Fields Json :=
  properties.filterMap fun entry => (entry.2.get? "default").map (entry.1, ·)

/-- The defaults of the root properties, in their order. A default of `null`
counts as one; a property without the key has none. -/
def defaultsOf (schema : Json) : Fields Json :=
  defaultsIn (propertiesOf (schema.object?.getD []))

end SchemaLoom.Schema
