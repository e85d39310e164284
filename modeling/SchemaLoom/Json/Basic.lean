import SchemaLoom.Number.Shortest

/-!
# JSON values

A document is a tree whose objects remember the order in which their keys were
first set. Setting a key that is there keeps its place and changes its value; a
new key goes to the end. Numbers are integers of at most 64 bits or finite
binary64 numbers, and the two never mix: `1` and `1.0` are different values.

Entries are a list under a name of its own, so that what holds of any value
holds of the entries of schemas, settings and members alike. Two documents are
equal if they list the same keys in the same order.
-/

namespace SchemaLoom

/-- Named entries in order of first setting. Nothing keeps a key from coming
twice, but setting entries never lets it. -/
abbrev Fields (α : Type) := List (String × α)

namespace Fields

variable {α : Type}

def get? (key : String) : Fields α → Option α
  | [] => none
  | (k, v) :: rest => if k = key then some v else get? key rest

def has (key : String) (fields : Fields α) : Bool := (fields.get? key).isSome

def keys (fields : Fields α) : List String := fields.map (·.1)

/-- Changes the value of a key in its place, or adds it at the end. -/
def set (key : String) (value : α) : Fields α → Fields α
  | [] => [(key, value)]
  | (k, v) :: rest => if k = key then (k, value) :: rest else (k, v) :: set key value rest

/-- Sets one entry after another, so that of repeated keys the last value stays,
at the place of the first. -/
def setAll (fields : Fields α) (entries : Fields α) : Fields α :=
  entries.foldl (fun acc entry => acc.set entry.1 entry.2) fields

@[simp] theorem get?_nil (key : String) : get? key ([] : Fields α) = none := rfl

@[simp] theorem get?_cons (key k : String) (v : α) (rest : Fields α) :
    get? key ((k, v) :: rest) = if k = key then some v else get? key rest := rfl

@[simp] theorem get?_set_self (key : String) (value : α) (fields : Fields α) :
    (fields.set key value).get? key = some value := by
  induction fields with
  | nil => simp [set]
  | cons entry rest ih =>
    obtain ⟨k, v⟩ := entry
    by_cases h : k = key
    · simp [set, h]
    · simp [set, h, ih]

theorem get?_set_of_ne {key other : String} (h : other ≠ key) (value : α) (fields : Fields α) :
    (fields.set key value).get? other = fields.get? other := by
  induction fields with
  | nil => simp [set, Ne.symm h]
  | cons entry rest ih =>
    obtain ⟨k, v⟩ := entry
    by_cases hk : k = key
    · subst hk
      simp [set, Ne.symm h]
    · simp [set, hk, ih]

/-- The keys after setting one: it keeps its place or comes last. -/
theorem keys_set (key : String) (value : α) (fields : Fields α) :
    (fields.set key value).keys =
      if key ∈ fields.keys then fields.keys else fields.keys ++ [key] := by
  induction fields with
  | nil => simp [set, keys]
  | cons entry rest ih =>
    rw [set]
    split
    · next h => simp [keys, h]
    · next h =>
      simp only [keys, List.map_cons, List.mem_cons] at ih ⊢
      rw [ih]
      by_cases hk : key ∈ rest.map (·.1) <;> simp [hk, Ne.symm h]

end Fields

/-- A JSON number: an integer between -2^63 and 2^64 - 1, or the nearest
binary64 to any other number. -/
inductive Number where
  | integer (n : Int)
  | binary (x : Binary64)
  deriving DecidableEq, Repr

def Number.toBinary64 : Number → Binary64
  | .integer n => Binary64.ofInt n
  | .binary x => x

/-- A JSON value. An object is the list of its entries in order, so two objects
that differ only in order are different values. -/
inductive Json where
  | null
  | bool (value : Bool)
  | number (value : Number)
  | string (value : String)
  | array (items : List Json)
  | object (fields : List (String × Json))
  deriving Repr, Inhabited

namespace Json

/-- The fields of an object. Every other value has none, which is not the same
as an object without keys. -/
def object? : Json → Option (Fields Json)
  | .object fields => some fields
  | _ => none

def array? : Json → Option (List Json)
  | .array items => some items
  | _ => none

def string? : Json → Option String
  | .string s => some s
  | _ => none

def bool? : Json → Option Bool
  | .bool b => some b
  | _ => none

def binary64? : Json → Option Binary64
  | .number n => some n.toBinary64
  | _ => none

/-- The value of a key; only objects have keys. -/
def get? (key : String) (value : Json) : Option Json :=
  value.object?.bind (Fields.get? key)

def isObject (value : Json) : Bool := value.object?.isSome

/-- The strings among the items of an array; nothing for a value that is no array. -/
def strings (value : Json) : List String :=
  (value.array?.getD []).filterMap string?

@[simp] theorem get?_object (key : String) (fields : Fields Json) :
    (Json.object fields).get? key = fields.get? key := rfl

end Json
end SchemaLoom
