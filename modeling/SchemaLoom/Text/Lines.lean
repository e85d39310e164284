/-!
# Lines, fields and replacement

A line ends at a line feed or at a carriage return followed by one. A carriage
return that no line feed follows belongs to its line, and an end of line at the
very end opens no further line.

Cutting and replacing are recursions on the characters of a text, with what was
read so far only where a piece has to be given as a whole.
-/

namespace SchemaLoom.Text

/-- The lines of a text without their ends. An end at the very end of the text
opens no further line, so a text and the same text with a line feed behind it
have the same lines. -/
def lines : List Char → List (List Char)
  | [] => []
  | '\n' :: rest => [] :: lines rest
  | '\r' :: '\n' :: rest => [] :: lines rest
  | c :: rest =>
    match lines rest with
    | [] => [[c]]
    | line :: more => (c :: line) :: more

/-- The pieces between separators: always one more than there are separators,
and empty where two of them meet. -/
def splitBy {α : Type} (isSeparator : α → Bool) : List α → List (List α)
  | [] => [[]]
  | c :: rest =>
    if isSeparator c then [] :: splitBy isSeparator rest
    else
      match splitBy isSeparator rest with
      | [] => [[c]]
      | piece :: more => (c :: piece) :: more

/-- The pieces between separators that hold anything, so that runs of separators
count as one and those at both ends as none. -/
def fields (isSeparator : Char → Bool) (s : List Char) : List (List Char) :=
  (splitBy isSeparator s).filter (· ≠ [])

def afterPattern : List Char → List Char → Option (List Char)
  | [], s => some s
  | _ :: _, [] => none
  | p :: pattern, c :: s => if p = c then afterPattern pattern s else none

/-- Replaces from left to right every occurrence of a pattern that does not
overlap an earlier one. While `skip` is positive the characters belong to an
occurrence that was replaced. -/
def replaceFrom (pattern replacement : List Char) : Nat → List Char → List Char
  | _, [] => []
  | skip + 1, _ :: rest => replaceFrom pattern replacement skip rest
  | 0, c :: rest =>
    match afterPattern pattern (c :: rest) with
    | some _ => replacement ++ replaceFrom pattern replacement (pattern.length - 1) rest
    | none => c :: replaceFrom pattern replacement 0 rest

def replace (pattern replacement text : String) : String :=
  String.ofList (replaceFrom pattern.toList replacement.toList 0 text.toList)

def join (separator : String) : List String → String
  | [] => ""
  | [s] => s
  | s :: t :: rest => s ++ separator ++ join separator (t :: rest)

theorem splitBy_ne_nil (isSeparator : Char → Bool) (s : List Char) :
    splitBy isSeparator s ≠ [] := by
  cases s with
  | nil => simp [splitBy]
  | cons c rest =>
    rw [splitBy]
    split
    · simp
    · split <;> simp

end SchemaLoom.Text
