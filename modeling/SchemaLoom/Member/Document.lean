import SchemaLoom.Json.Skip
import SchemaLoom.Member.Basic

/-!
# Reading a list of members from JSON

A member is written as an object with the fields `key`, `declaredType` and
`optional`, in any order and among fields that nobody asks for, or as an array
of the three values in that order. A fault of the member as a whole stands
behind its closing bracket.

Fields that nobody asks for are skipped and not read, so a number of any size
may stand in them. A field that comes twice is a fault, unlike a key of a
document.
-/

namespace SchemaLoom.Member

open Json

/-- What stands where something else is expected. The fault names both, unless
what stands there is itself at fault. -/
def mismatch (expected : String) (c : Char) (rest : List Char) : Fault :=
  let word (letters : String) (found : Found) : Fault :=
    match literal letters.toList rest with
    | .error fault => fault
    | .ok after => .here (.invalidType found expected) after
  if c = 'n' then word "ull" .null
  else if c = 't' then word "rue" (.bool true)
  else if c = 'f' then word "alse" (.bool false)
  else if c = '-' || c.isDigit then
    match numberText .endInValue (c :: rest) with
    | .error fault => fault
    | .ok (text, after) =>
      match text.value after with
      | .error fault => fault
      | .ok n => .here (.invalidType (.number n) expected) after
  else if c = '\x22' then
    match stringBody rest with
    | .error fault => fault
    | .ok (t, after) => .here (.invalidType (.string (String.ofList t)) expected) after
  else if c = '[' then .here (.invalidType .array expected) (c :: rest)
  else if c = '\x7b' then .here (.invalidType .object expected) (c :: rest)
  else .ahead .expectedValue (c :: rest)

def readString : Reader String := fun s =>
  match hc : skipSpace s with
  | [] => .error (.ahead .endInValue [])
  | c :: rest =>
    if c = '\x22' then
      match hb : stringBody rest with
      | .error fault => .error fault
      | .ok (t, after) =>
        have hr := length_lt_of_skipSpace hc
        have ha := length_stringBody_lt hb
        .ok ⟨String.ofList t, after, Nat.lt_trans ha hr⟩
    else .error (mismatch "a string" c rest)

def readBool : Reader Bool := fun s =>
  match hc : skipSpace s with
  | [] => .error (.ahead .endInValue [])
  | c :: rest =>
    have hr := length_lt_of_skipSpace hc
    if c = 't' then word "rue" true s rest hr
    else if c = 'f' then word "alse" false s rest hr
    else .error (mismatch "a boolean" c rest)
where
  word (letters : String) (b : Bool) (s rest : List Char) (hr : rest.length < s.length) :
      Except Fault (Parsed Bool s) :=
    match hl : literal letters.toList rest with
    | .error fault => .error fault
    | .ok after => .ok ⟨b, after, length_word_lt hl hr⟩

/-- What an object has given of a member so far. Each field can come once, and
in any order. -/
structure Draft where
  key : Option String := none
  declaredType : Option String := none
  optional : Option Bool := none

def Draft.has (draft : Draft) (name : String) : Bool :=
  (name == "key" && draft.key.isSome) || (name == "declaredType" && draft.declaredType.isSome) ||
    (name == "optional" && draft.optional.isSome)

/-- The member, or the first field that is missing: of several, the one that a
member has first. -/
def Draft.finish (draft : Draft) : Except Reason Member :=
  match draft.key, draft.declaredType, draft.optional with
  | some key, some declaredType, some optional => .ok ⟨key, declaredType, optional⟩
  | none, _, _ => .error (.missingField "key")
  | _, none, _ => .error (.missingField "declaredType")
  | _, _, none => .error (.missingField "optional")

/-- Reads the value of a field into the draft. Fields of other names are
skipped, whatever stands in them. -/
def Draft.read (draft : Draft) (name : String) : Reader Draft := fun s =>
  if name = "key" then
    (readString s).map fun p => ⟨{ draft with key := some p.value }, p.rest, p.shorter⟩
  else if name = "declaredType" then
    (readString s).map fun p => ⟨{ draft with declaredType := some p.value }, p.rest, p.shorter⟩
  else if name = "optional" then
    (readBool s).map fun p => ⟨{ draft with optional := some p.value }, p.rest, p.shorter⟩
  else (skipValue s).map fun p => ⟨draft, p.rest, p.shorter⟩

def afterBracket (bracket : Char) (s : List Char) : List Char :=
  match skipSpace s with
  | [] => []
  | c :: rest => if c = bracket then rest else c :: rest

/-- Reads the fields of an object, first or later ones, and the closing brace. A
field that comes twice is at fault. -/
def readFields (draft : Draft) (first : Bool) (s : List Char) :
    Except Fault (Parsed Member s) :=
  match hn : nextKey first s with
  | .error fault => .error fault
  | .ok (.close rest) =>
    match draft.finish with
    | .ok member => .ok ⟨member, rest, length_of_nextKey_close hn⟩
    | .error reason => .error (.here reason rest)
  | .ok (.more name rest) =>
    have hm := length_of_nextKey_more hn
    if draft.has name then .error (.here (.duplicateField name) (afterBracket '\x7d' rest))
    else
      match hc : colon rest with
      | .error fault => .error fault
      | .ok rest' =>
        have hr := length_colon_lt hc
        match draft.read name rest' with
        | .error fault => .error (fault.under (.key name))
        | .ok p =>
          have hp := p.shorter
          match readFields p.value false p.rest with
          | .error fault => .error fault
          | .ok q => .ok ⟨q.value, q.rest, by have := q.shorter; omega⟩
termination_by s.length

def arrayName : String := "struct ParsedParam with 3 elements"

def readItem {α : Type} (item : Reader α) (index : Nat) : Reader α := fun s =>
  match hn : nextItem (index = 0) s with
  | .error fault => .error fault
  | .ok (.close rest) => .error (.here (.invalidLength index arrayName) rest)
  | .ok (.more _ rest) =>
    match item rest with
    | .error fault => .error (fault.under (.index index))
    | .ok p => .ok ⟨p.value, p.rest, Nat.lt_of_lt_of_le p.shorter (length_of_nextItem_more hn)⟩

def readClosing (s : List Char) : Except Fault { r : List Char // r.length < s.length } :=
  match hc : skipSpace s with
  | [] => .error (.ahead .endInList [])
  | c :: rest =>
    if c = ']' then .ok ⟨rest, length_lt_of_skipSpace hc⟩
    else if c = ',' then
      if (skipSpace rest).head? = some ']' then .error (.ahead .trailingComma (skipSpace rest))
      else .error (.ahead .trailingCharacters (skipSpace rest))
    else .error (.ahead .trailingCharacters (c :: rest))

/-- Reads the three items of an array and the closing bracket. A member can be
given in this way too, its fields in their order. -/
def readItems : Reader Member := fun s =>
  match readItem readString 0 s with
  | .error fault => .error fault
  | .ok key =>
    match readItem readString 1 key.rest with
    | .error fault => .error fault
    | .ok declaredType =>
      match readItem readBool 2 declaredType.rest with
      | .error fault => .error fault
      | .ok optional =>
        match readClosing optional.rest with
        | .error fault => .error fault
        | .ok rest => .ok ⟨⟨key.value, declaredType.value, optional.value⟩, rest.1, by
            have := key.shorter
            have := declaredType.shorter
            have := optional.shorter
            have := rest.2
            omega⟩

def readMember : Reader Member := fun s =>
  match hc : skipSpace s with
  | [] => .error (.ahead .endInValue [])
  | c :: rest =>
    have hr := length_lt_of_skipSpace hc
    if c = '[' then
      (readItems rest).map fun p => ⟨p.value, p.rest, Nat.lt_trans p.shorter hr⟩
    else if c = '\x7b' then
      (readFields {} true rest).map fun p => ⟨p.value, p.rest, Nat.lt_trans p.shorter hr⟩
    else .error (mismatch "struct ParsedParam" c rest)

def listOfChars (s : List Char) : Except Fault (List Member) :=
  match skipSpace s with
  | [] => .error (.ahead .endInValue [])
  | c :: rest =>
    if c = '[' then (items readMember 0 rest).map (·.value)
    else .error (mismatch "a sequence" c rest)

/-- The list of members at the front of a text, or what is wrong with the text,
in words. -/
def parseList (text : String) : Except String (List Member) :=
  (listOfChars text.toList).mapError (Fault.message text.toList)

end SchemaLoom.Member
