import SchemaLoom.Json.Lexeme
import SchemaLoom.Proofs.Text.Pieces
import SchemaLoom.Schema.Kind

/-!
# Following pointers

The text of a pointer is cut at its slashes, and in every piece `~1` stands for
a slash and then `~0` for a tilde. So each key comes back as it was, whatever
characters it has, and following the text through a document goes the way that
the keys tell.

How a text is followed is told by itself, without the function that writes
pointers: an entry of an object is found by its key and an item of an array by
its index. Reading a text back inverts the two replacements one after the other,
each character by character.
-/

namespace SchemaLoom.Schema.Pointer

/-- A piece of a text as the key that it stands for: `~1` is replaced before
`~0`, so that `~01` is read as a tilde and a one. -/
def decode (piece : List Char) : List Char :=
  Text.replaceFrom "~0".toList ['~'] 0 (Text.replaceFrom "~1".toList ['/'] 0 piece)

/-- The keys that a text lists: none for the empty text, else one behind each
slash. -/
def keys? (text : String) : Option Pointer :=
  match Text.splitBy (· = '/') text.toList with
  | [] :: pieces => some (pieces.map fun piece => String.ofList (decode piece))
  | _ => none

def index? (key : String) : Option Nat :=
  if key.toList ≠ [] ∧ key.toList.all Char.isDigit ∧ (key.toList.head? = some '0' → key = "0") then
    some (Json.digitsValue key.toList)
  else none

def step? (value : Json) (key : String) : Option Json :=
  match value with
  | .object fields => Fields.get? key fields
  | .array items => (index? key).bind (items[·]?)
  | _ => none

/-- The value that keys lead to one after another. In an object a key leads to
its entry, and in an array to the item with that index. -/
def follow? (pointer : Pointer) (document : Json) : Option Json := pointer.foldlM step? document

/-- The value of a document that a text points to. The empty text points to the
document itself. -/
def resolve? (text : String) (document : Json) : Option Json :=
  (keys? text).bind (·.follow? document)

/-- One character of a key when only slashes have been read back and tildes are
still written as they were. -/
def escapeTilde (c : Char) : List Char := if c = '~' then ['~', '0'] else [c]

theorem replaceFrom_escapeChar (key : List Char) :
    Text.replaceFrom "~1".toList ['/'] 0 (key.flatMap escapeChar) = key.flatMap escapeTilde := by
  induction key with
  | nil => rfl
  | cons c rest ih =>
      rw [List.flatMap_cons, List.flatMap_cons, ← ih]
      by_cases htilde : c = '~'
      · subst htilde
        rfl
      · by_cases hslash : c = '/'
        · subst hslash
          rfl
        · have hescaped : escapeChar c = [c] := by rw [escapeChar, if_neg htilde, if_neg hslash]
          have hnone : Text.afterPattern "~1".toList (c :: rest.flatMap escapeChar) = none :=
            if_neg (Ne.symm htilde)
          rw [hescaped, escapeTilde, if_neg htilde, List.singleton_append, Text.replaceFrom, hnone]
          rfl

theorem replaceFrom_escapeTilde (key : List Char) :
    Text.replaceFrom "~0".toList ['~'] 0 (key.flatMap escapeTilde) = key := by
  induction key with
  | nil => rfl
  | cons c rest ih =>
      rw [List.flatMap_cons]
      by_cases htilde : c = '~'
      · subst htilde
        exact congrArg ('~' :: ·) ih
      · have hnone : Text.afterPattern "~0".toList (c :: rest.flatMap escapeTilde) = none :=
          if_neg (Ne.symm htilde)
        rw [escapeTilde, if_neg htilde, List.singleton_append, Text.replaceFrom, hnone]
        exact congrArg (c :: ·) ih

theorem decode_escaped (key : List Char) : decode (key.flatMap escapeChar) = key := by
  rw [decode, replaceFrom_escapeChar, replaceFrom_escapeTilde]

theorem slash_not_mem_escaped (key : List Char) : '/' ∉ key.flatMap escapeChar := by
  rw [List.mem_flatMap]
  rintro ⟨c, _, hslash⟩
  unfold escapeChar at hslash
  split_ifs at hslash with htilde hc
  · exact absurd hslash (by decide)
  · exact absurd hslash (by decide)
  · exact hc (List.mem_singleton.mp hslash).symm

def chars (pointer : Pointer) : List Char :=
  pointer.flatMap fun key => '/' :: key.toList.flatMap escapeChar

theorem toList_text (pointer : Pointer) : pointer.text.toList = chars pointer := by
  have hkey : ∀ key, ("/" ++ escape key).toList = '/' :: key.toList.flatMap escapeChar := by
    intro key
    simp [escape]
  rw [text, String.toList_join, List.flatMap_map, chars]
  simp only [hkey]

/-- A text is cut into what stands in front of its first slash and the keys as
they are written. -/
theorem splitBy_chars {front : List Char} (h : '/' ∉ front) (pointer : Pointer) :
    Text.splitBy (· = '/') (front ++ chars pointer) =
      front :: pointer.map fun key => key.toList.flatMap escapeChar := by
  induction pointer generalizing front with
  | nil => rw [chars, List.flatMap_nil, List.append_nil, Text.splitBy_of_not_mem h, List.map_nil]
  | cons key rest ih =>
      have hchars : chars (key :: rest) =
          '/' :: (key.toList.flatMap escapeChar ++ chars rest) := rfl
      rw [hchars, Text.splitBy_append_cons _ _ (by decide), Text.splitBy_of_not_mem h,
        ih (slash_not_mem_escaped key.toList)]
      rfl

/-- The keys are read back from the text, whatever characters they have. -/
theorem keys?_text (pointer : Pointer) : keys? pointer.text = some pointer := by
  have hpieces := splitBy_chars (List.not_mem_nil (a := '/')) pointer
  rw [List.nil_append, ← toList_text] at hpieces
  have hdecoded : ∀ key : String, String.ofList (decode (key.toList.flatMap escapeChar)) = key := by
    intro key
    rw [decode_escaped, String.ofList_toList]
  simp only [keys?, hpieces, List.map_map]
  exact congrArg some ((List.map_congr_left fun key _ => hdecoded key).trans (List.map_id pointer))

theorem resolve?_text (pointer : Pointer) (document : Json) :
    resolve? pointer.text document = pointer.follow? document := by
  rw [resolve?, keys?_text]
  rfl

end SchemaLoom.Schema.Pointer
