import SchemaLoom.Json.Reader
import SchemaLoom.Settings.Value

/-!
# Settings in JSON

A JSON document gives settings if it is an object. A whole number beyond 63 bits
is a number like those with a point.
-/

namespace SchemaLoom

namespace SettingValue

/-- A JSON number as the value of a setting. An integer of 2^63 or more becomes
a number like those with a point. -/
def ofNumber : Number → SettingValue
  | .integer n => if n < Int.pow 2 63 then .integer n else .number (.finite (.ofInt n))
  | .binary x => .number (.finite x)

mutual

def ofJson : Json → SettingValue
  | .null => .nothing
  | .bool b => .bool b
  | .number n => .ofNumber n
  | .string s => .text s
  | .array items => .list (ofJsonItems items)
  | .object fields => .table (ofJsonFields fields)
termination_by structural value => value

def ofJsonItems : List Json → List SettingValue
  | [] => []
  | item :: rest => ofJson item :: ofJsonItems rest
termination_by structural items => items

def ofJsonFields : List (String × Json) → List (String × SettingValue)
  | [] => []
  | (key, value) :: rest => (key, ofJson value) :: ofJsonFields rest
termination_by structural fields => fields

end

end SettingValue

namespace Settings

def isJsonBlank (c : Char) : Bool := c = ' ' || c = '\t' || c = '\n' || c = '\r'

/-- The settings in a JSON document, behind which there is nothing. -/
def ofJson? (text : String) : Option (Fields SettingValue) :=
  match Json.value Json.maxDepth text.toList with
  | .ok parsed =>
    if parsed.rest.all isJsonBlank then parsed.value.object?.map SettingValue.ofJsonFields else none
  | .error _ => none

end Settings
end SchemaLoom
