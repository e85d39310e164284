import SchemaLoom.Json.Punctuation

/-!
# Reading a JSON value

A value is read from the front of a text; whatever follows it is left alone.
Arrays and objects may be nested 127 deep. Of repeated keys the last value
stays, in the place of the first.

Arrays and objects are read by functions that take the reader of one value as an
argument. They end because each step leaves less of the text, and the proofs of
that are carried along with the rest.
-/

namespace SchemaLoom.Json

/-- Something read from the front of `s`, and a rest that is strictly shorter,
so that a reader can be called again on it. -/
structure Parsed (α : Type) (s : List Char) where
  value : α
  rest : List Char
  shorter : rest.length < s.length

/-- Reads from the front of a text, or says what is wrong there. -/
abbrev Reader (α : Type) := (s : List Char) → Except Fault (Parsed α s)

def Reader.run {α : Type} (reader : Reader α) (s : List Char) : Reading α :=
  (reader s).map fun p => (p.value, p.rest)

/-- The items of an array from the one with the index on, and the closing
bracket. The index is part of the faults inside an item. -/
def items {α : Type} (item : Reader α) (index : Nat) (s : List Char) :
    Except Fault (Parsed (List α) s) :=
  match hn : nextItem (index = 0) s with
  | .error fault => .error fault
  | .ok (.close rest) => .ok ⟨[], rest, length_of_nextItem_close hn⟩
  | .ok (.more _ rest) =>
    have hm := length_of_nextItem_more hn
    match item rest with
    | .error fault => .error (fault.under (.index index))
    | .ok p =>
      have hp := p.shorter
      match items item (index + 1) p.rest with
      | .error fault => .error fault
      | .ok q => .ok ⟨p.value :: q.value, q.rest, by have := q.shorter; omega⟩
termination_by s.length

def entries {α : Type} (item : Reader α) (first : Bool) (s : List Char) :
    Except Fault (Parsed (Fields α) s) :=
  match hn : nextKey first s with
  | .error fault => .error fault
  | .ok (.close rest) => .ok ⟨[], rest, length_of_nextKey_close hn⟩
  | .ok (.more key rest) =>
    have hm := length_of_nextKey_more hn
    match hc : colon rest with
    | .error fault => .error fault
    | .ok rest' =>
      have hr := length_colon_lt hc
      match item rest' with
      | .error fault => .error (fault.under (.key key))
      | .ok p =>
        have hp := p.shorter
        match entries item false p.rest with
        | .error fault => .error fault
        | .ok q => .ok ⟨(key, p.value) :: q.value, q.rest, by have := q.shorter; omega⟩
termination_by s.length

/-- A value after the blanks in front of it, with at most so many more arrays
and objects around what is read. -/
def value : Nat → Reader Json
  | depth, s =>
    have hs := length_skipSpace_le s
    match hc : skipSpace s with
    | [] => .error (.ahead .endInValue [])
    | c :: rest =>
      have hr : rest.length < s.length := by
        rw [hc, List.length_cons] at hs
        omega
      if c = 'n' then word "ull" .null s rest hr
      else if c = 't' then word "rue" (.bool true) s rest hr
      else if c = 'f' then word "alse" (.bool false) s rest hr
      else if c = '-' || c.isDigit then
        match hn : numberText .endInValue (c :: rest) with
        | .error fault => .error fault
        | .ok (text, rest') =>
          match text.value rest' with
          | .error fault => .error fault
          | .ok n => .ok ⟨.number n, rest', by
              have := length_numberText_lt hn
              rw [hc] at hs
              omega⟩
      else if c = '\x22' then
        match hb : stringBody rest with
        | .error fault => .error fault
        | .ok (t, rest') => .ok ⟨.string (String.ofList t), rest', by
            have := length_stringBody_lt hb
            omega⟩
      else if c = '[' then
        match depth with
        | 0 => .error (.ahead .tooDeep (c :: rest))
        | depth + 1 =>
          match items (value depth) 0 rest with
          | .error fault => .error fault
          | .ok p => .ok ⟨.array p.value, p.rest, by have := p.shorter; omega⟩
      else if c = '\x7b' then
        match depth with
        | 0 => .error (.ahead .tooDeep (c :: rest))
        | depth + 1 =>
          match entries (value depth) true rest with
          | .error fault => .error fault
          | .ok p =>
            .ok ⟨.object (Fields.setAll [] p.value), p.rest, by have := p.shorter; omega⟩
      else .error (.ahead .expectedValue (c :: rest))
where
  word (letters : String) (v : Json) (s rest : List Char) (hr : rest.length < s.length) :
      Except Fault (Parsed Json s) :=
    match hl : literal letters.toList rest with
    | .error fault => .error fault
    | .ok rest' => .ok ⟨v, rest', length_word_lt hl hr⟩

/-- How deep arrays and objects may be nested. A text with one more level is at
fault, however well it is formed. -/
def maxDepth : Nat := 127

def ofChars (s : List Char) : Except Fault Json := (value maxDepth s).map (·.value)

/-- The value at the front of a text, or what is wrong with the text, in words.
What follows the value is not looked at. -/
def parse (text : String) : Except String Json :=
  (ofChars text.toList).mapError (Fault.message text.toList)

end SchemaLoom.Json
