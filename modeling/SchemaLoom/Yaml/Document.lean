import SchemaLoom.Yaml.Token

/-!
# YAML documents

Lists and maps in blocks of lines or between brackets, whose scalars are texts,
numbers, truth values or nothing. A name given to a value stands for it later
on. No map has a key twice, and a text holds one document at most.

Documents are those of YAML 1.2. Only settings are read from them, and no
theorem is about the format: what a settings file says enters a run as settings.
-/

namespace SchemaLoom.Yaml

/-- A value that was read, with the text that it was written as if it is a scalar. -/
structure Node where
  value : SettingValue
  text : String := ""

def Node.none : Node := ⟨.nothing, "~"⟩

/-- What is known while a document is read: the tokens that are left, the values
that have a name, and what short names for the start of tags stand for. A name
can be given again, so names lead to the number of the latest value. -/
structure Reading where
  tokens : List Token
  names : Fields Nat := []
  named : Array Node := #[]
  handles : Fields String := []

abbrev Read := StateT Reading Option

namespace Read

def peek : Read (Option Token) := return (← get).tokens.head?

def skip : Read Unit := modify fun s => { s with tokens := s.tokens.drop 1 }

def skipIf (token : Token) : Read Bool := do
  if (← peek) = some token then
    skip
    return true
  else return false

def isAt (tokens : List Token) : Read Bool := return (← peek).any tokens.contains

/-- What the handle and the rest of a tag mean together. -/
def wholeTag (handle suffix : String) : Read String := do
  match Fields.get? handle (← get).handles with
  | some start => return start ++ suffix
  | none =>
    match handle with
    | "!!" => return "tag:yaml.org,2002:" ++ suffix
    | "" => return suffix
    | "!" => return "!" ++ suffix
    | _ => failure

/-- The name and the tag of a value that comes: the number of the name, and the
whole tag. -/
def properties : Read (Option Nat × Option String) := do
  match ← peek with
  | some (.anchor name) =>
    let number ← register name
    match ← peek with
    | some (.tag handle suffix) =>
      skip
      return (number, ← wholeTag handle suffix)
    | _ => return (number, none)
  | some (.tag handle suffix) =>
    skip
    let tag ← wholeTag handle suffix
    match ← peek with
    | some (.anchor name) => return (← register name, tag)
    | _ => return (none, tag)
  | _ => return (none, none)
where
  register (name : String) : Read Nat := do
    skip
    let number := (← get).named.size
    modify fun s =>
      { s with names := Fields.set name number s.names, named := s.named.push Node.none }
    return number

def scalar (tag : Option String) (scalar : Scalar) : Read Node := do
  let text := scalar.text
  if !scalar.isPlain then return ⟨.text text, text⟩
  else
    match tag with
    | none => return ⟨← meaning? text, text⟩
    | some tag =>
      let start := "tag:yaml.org,2002:".toList
      let kind := if start.isPrefixOf tag.toList then tag.toList.drop start.length else []
      return ⟨← meaningAs? (String.ofList kind) text, text⟩

def isSameKey (a b : Node) : Bool :=
  match a.value, b.value with
  | .text s, .text t => s = t
  | .text _, _ => false
  | _, .text _ => false
  | v, w => keyOf? a.text v = keyOf? b.text w

/-- A table of keys with values, none of them twice. -/
def table (entries : List (Node × Node)) : Read Node := do
  let isNew (before : List Node) (key : Node) : Bool := !before.any (isSameKey key)
  let keys := entries.map (·.1)
  if (List.range keys.length).all fun i => keys[i]?.all (isNew (keys.take i)) then
    let fields ← entries.mapM fun (key, node) =>
      ((keyOf? key.text key.value).map (·, node.value) : Option (String × SettingValue))
    return ⟨.table (fields.foldl (fun table (key, value) => Fields.set key value table) []), ""⟩
  else failure

mutual

/-- The value that comes. `inBlock` says whether it may be a block, and `atKey`
whether items may stand in the column of the key. The first argument bounds how
much is read. -/
def node (inBlock atKey : Bool) : Nat → Read Node
  | 0 => failure
  | n + 1 => do
    match ← peek with
    | some (.alias name) =>
      skip
      let number ← Fields.get? name (← get).names
      (← get).named[number]?
    | _ =>
      let (number, tag) ← properties
      let result ← content inBlock atKey (number.isSome || tag.isSome) tag n
      match number with
      | some number => modify fun s => { s with named := s.named.setIfInBounds number result }
      | none => pure ()
      return result

/-- The value behind its name and its tag; it may be left out if it has any. -/
def content (inBlock atKey hasProperties : Bool) (tag : Option String) : Nat → Read Node
  | 0 => failure
  | n + 1 => do
    match ← peek with
    | some .item => if atKey then list (← itemsAtKey n) else missing
    | some (.scalar text) =>
      skip
      scalar tag text
    | some .flowListStart =>
      skip
      list (← flowItems n)
    | some .flowMapStart =>
      skip
      table (← flowEntries n)
    | some .listStart =>
      if inBlock then
        skip
        list (← items n)
      else missing
    | some .mapStart =>
      if inBlock then
        skip
        table (← entries n)
      else missing
    | _ => missing
where
  list (nodes : List Node) : Read Node := return ⟨.list (nodes.map Node.value), ""⟩
  missing : Read Node := if hasProperties then scalar tag ⟨"", true⟩ else failure

/-- The value that comes, or none in front of some tokens. -/
def nodeUnless (ends : List Token) (inBlock atKey : Bool) : Nat → Read Node
  | 0 => failure
  | n + 1 => do if ← isAt ends then return Node.none else node inBlock atKey n

def items : Nat → Read (List Node)
  | 0 => failure
  | n + 1 => do
    if ← skipIf .blockEnd then return []
    else if ← skipIf .item then
      let first ← nodeUnless [.item, .blockEnd] true false n
      return first :: (← items n)
    else failure

def itemsAtKey : Nat → Read (List Node)
  | 0 => failure
  | n + 1 => do
    if ← skipIf .item then
      let first ← nodeUnless [.item, .key, .value, .blockEnd] true false n
      return first :: (← itemsAtKey n)
    else return []

def entries : Nat → Read (List (Node × Node))
  | 0 => failure
  | n + 1 => do
    if ← skipIf .blockEnd then return []
    else
      let ends := [.key, .value, .blockEnd]
      let key ← if ← skipIf .key then nodeUnless ends true true n else
        if ← isAt [.value] then pure Node.none else failure
      let value ← if ← skipIf .value then nodeUnless ends true true n else pure Node.none
      return (key, value) :: (← entries n)

def flowItems : Nat → Read (List Node)
  | 0 => failure
  | n + 1 => do
    if ← skipIf .flowListEnd then return []
    else
      let ends := [.comma, .flowListEnd]
      let first ←
        if ← isAt [.key, .value] then do
          let key ←
            if ← skipIf .key then nodeUnless (.value :: ends) false false n else pure Node.none
          let value ← if ← skipIf .value then nodeUnless ends false false n else pure Node.none
          table [(key, value)]
        else node false false n
      if ← skipIf .comma then return first :: (← flowItems n)
      else if ← skipIf .flowListEnd then return [first]
      else failure

def flowEntries : Nat → Read (List (Node × Node))
  | 0 => failure
  | n + 1 => do
    if ← skipIf .flowMapEnd then return []
    else
      let ends := [.comma, .flowMapEnd]
      let hasKey ← skipIf .key
      let key ←
        if hasKey then nodeUnless (.value :: ends) false false n
        else if ← isAt [.value] then pure Node.none
        else node false false n
      let value ← if ← skipIf .value then nodeUnless ends false false n else pure Node.none
      if ← skipIf .comma then return (key, value) :: (← flowEntries n)
      else if ← skipIf .flowMapEnd then return [(key, value)]
      else failure

end

/-- What is said in front of a document. One version may be given, and a short
name once. -/
def directives (hasVersion : Bool) : Nat → Read Unit
  | 0 => failure
  | n + 1 => do
    match ← peek with
    | some .version =>
      skip
      if hasVersion then failure else directives true n
    | some (.tagDirective handle start) =>
      skip
      if (Fields.get? handle (← get).handles).isSome then failure
      else
        modify fun s => { s with handles := Fields.set handle start s.handles }
        directives hasVersion n
    | _ => return

/-- The documents in all that is left. `mayStart` says whether a document may
begin without its mark. -/
def documents (mayStart : Bool) : Nat → Read (List Node)
  | 0 => failure
  | n + 1 => do
    match ← peek with
    | none => return []
    | some .documentEnd =>
      skip
      documents mayStart n
    | some token =>
      directives false n
      let isMarked ← skipIf .documentStart
      let isDirective :=
        match token with
        | .version | .tagDirective .. => true
        | _ => false
      if !isMarked && (isDirective || !mayStart) then failure
      else
        let next ← peek
        let isEmpty :=
          match next with
          | none | some .version | some (.tagDirective ..)
          | some .documentStart | some .documentEnd =>
            true
          | _ => false
        let first ← if isEmpty then pure Node.none else node true false n
        modify fun s => { s with handles := [] }
        let isEnded ← skipIf .documentEnd
        match ← peek with
        | some .version | some (.tagDirective ..) => if isEnded then pure () else failure
        | _ => pure ()
        return first :: (← documents isEnded n)

end Read

/-- Every line end as a line feed, up to the first character that ends a text. -/
def cleared : List Char → List Char
  | [] => []
  | '\x00' :: _ => []
  | '\r' :: '\n' :: rest => '\n' :: cleared rest
  | '\r' :: rest => '\n' :: cleared rest
  | c :: rest => c :: cleared rest

/-- The settings in a document; none if it is no YAML or no map. -/
def parse? (text : String) : Option (Fields SettingValue) := do
  let tokens ← tokens? (cleared text.toList)
  let (nodes, _) ← (Read.documents true (4 * tokens.length + 8)).run { tokens }
  match nodes with
  | [] => some []
  | [⟨.table entries, _⟩] => some entries
  | _ => none

end SchemaLoom.Yaml
