/-!
# Patterns

A pattern matches whole texts. A star stands for any text, a question mark for
any character, and brackets for one of several characters; everything that is
quoted stands for itself. Texts may be joined by zero characters, which no
pattern sees.

The notation is the pattern matching notation of POSIX, with its character
classes as they are in the locale of C. Characters are bytes.
-/

namespace SchemaLoom.Shell

/-- A set of characters between brackets: a range, of which a single character
is one, or the class with a name. -/
inductive CharSet where
  | range (low high : Char)
  | named (name : String)
  deriving DecidableEq, Repr

/-- A part of a pattern: a character itself, any character, any text, or a
character that is in one of the sets, or in none of them. -/
inductive Piece where
  | exactly (c : Char)
  | one
  | any
  | oneOf (negated : Bool) (sets : List CharSet)
  deriving DecidableEq, Repr

abbrev Pattern := List Piece

/-- Whether a character belongs to the class with the name. -/
def inClass (name : String) (c : Char) : Bool :=
  match name with
  | "alpha" => c.isAlpha
  | "digit" => c.isDigit
  | "alnum" => c.isAlphanum
  | "upper" => c.isUpper
  | "lower" => c.isLower
  | "space" => c = ' ' || (9 ≤ c.toNat && c.toNat ≤ 13)
  | "blank" => c = ' ' || c = '\t'
  | "cntrl" => c.toNat < 0x20 || c.toNat = 0x7F
  | "print" => 0x20 ≤ c.toNat && c.toNat < 0x7F
  | "graph" => 0x20 < c.toNat && c.toNat < 0x7F
  | "punct" => 0x20 < c.toNat && c.toNat < 0x7F && !c.isAlphanum
  | "xdigit" => c.isDigit || ('a' ≤ c && c ≤ 'f') || ('A' ≤ c && c ≤ 'F')
  | _ => false

def classNames : List String :=
  ["alnum", "cntrl", "lower", "space", "alpha", "digit", "print", "upper", "blank", "graph",
    "punct", "xdigit"]

/-- The value of a byte by which ranges go: it has eight bits of which the first
is a sign. -/
def rank (c : Char) : Int := if c.toNat < 128 then c.toNat else (c.toNat : Int) - 256

def CharSet.holds (set : CharSet) (c : Char) : Bool :=
  match set with
  | .range low high => rank low ≤ rank c && rank c ≤ rank high
  | .named name => inClass name c

/-- Whether a part of a pattern that stands for one character stands for the
given one. -/
def Piece.accepts (piece : Piece) (c : Char) : Bool :=
  match piece with
  | .exactly d => c = d
  | .one => true
  | .any => false
  | .oneOf negated sets => (sets.any fun set => set.holds c) != negated

namespace Pattern

def accepts : Pattern → List Char → Bool
  | [], s => s.isEmpty
  | .any :: rest, s =>
    accepts rest s ||
      match s with
      | [] => false
      | _ :: s => accepts (.any :: rest) s
  | _ :: _, [] => false
  | piece :: rest, c :: s => piece.accepts c && accepts rest s
termination_by pattern s => pattern.length + s.length

/-- The class that a text behind a bracket names, and what follows the name. -/
def className? (s : List (Char × Bool)) : Option (String × List (Char × Bool)) :=
  classNames.findSome? fun name =>
    let whole := (":" ++ name ++ ":]").toList.map fun c => (c, false)
    if whole.isPrefixOf s then some (name, s.drop whole.length) else none

/-- The sets between brackets up to the one that closes them, and what follows
it; so many at most. The first character closes nothing. -/
def sets : Nat → Bool → List (Char × Bool) → Option (List CharSet × List (Char × Bool))
  | 0, _, _ | _, _, [] => none
  | n + 1, first, (c, quoted) :: rest =>
    if c = ']' && !quoted && !first then some ([], rest)
    else
      let add (set : CharSet) (rest : List (Char × Bool)) :
          Option (List CharSet × List (Char × Bool)) :=
        (sets n false rest).map fun (more, rest) => (set :: more, rest)
      match if c = '[' && !quoted then className? rest else none with
      | some (name, rest) => add (.named name) rest
      | none =>
        -- a backslash gives way to the character behind it
        let (low, rest) :=
          match rest with
          | (d, _) :: more => if c = '\\' && !quoted then (d, more) else (c, rest)
          | [] => (c, rest)
        match rest with
        | ('-', false) :: (high, highQuoted) :: rest =>
          if high = ']' && !highQuoted then
            add (.range low low) (('-', false) :: (high, false) :: rest)
          else
            match rest with
            | (d, _) :: more =>
              if high = '\\' && !highQuoted then add (.range low d) more
              else add (.range low high) rest
            | [] => add (.range low high) []
        | rest => add (.range low low) rest

/-- The pattern that characters make up, each with whether it is quoted. So many
characters at most. -/
def ofCharsUpTo : Nat → List (Char × Bool) → Pattern
  | 0, _ => []
  | _, [] => []
  | n + 1, (c, quoted) :: rest =>
    if quoted then .exactly c :: ofCharsUpTo n rest
    else
      match c with
      | '*' => .any :: ofCharsUpTo n rest
      | '?' => .one :: ofCharsUpTo n rest
      | '[' =>
        let (negated, inner) :=
          match rest with
          | ('!', false) :: inner => (true, inner)
          | inner => (false, inner)
        match sets (inner.length + 1) true inner with
        | some (sets, rest) => .oneOf negated sets :: ofCharsUpTo n rest
        | none => .exactly c :: ofCharsUpTo n rest
      | '\\' =>
        match rest with
        | (d, _) :: rest => .exactly d :: ofCharsUpTo n rest
        | [] => [.exactly c]
      | c => .exactly c :: ofCharsUpTo n rest

/-- The pattern that characters make up, each with whether it is quoted. -/
def ofChars (s : List (Char × Bool)) : Pattern := ofCharsUpTo s.length s

/-- Whether a pattern matches what comes before the first zero character, behind
which it sees nothing. -/
def acceptsStart (pattern : Pattern) (s : List Char) : Bool :=
  pattern.accepts (s.takeWhile (· ≠ '\x00'))

/-- Where a text can be cut if it is gone through from its start: up to the
first zero character. -/
def placesFromStart (s : List Char) : List Nat :=
  List.range ((s.takeWhile (· ≠ '\x00')).length + 1)

/-- Where a text can be cut if it is gone through from its end. -/
def placesFromEnd (s : List Char) : List Nat := (List.range (s.length + 1)).reverse

/-- A text without the shortest or the longest start that the pattern matches. -/
def cutStart (pattern : Pattern) (longest : Bool) (s : List Char) : List Char :=
  let places := if longest then placesFromEnd s else placesFromStart s
  match places.find? fun i => pattern.acceptsStart (s.take i) with
  | some i => s.drop i
  | none => s

/-- A text without the shortest or the longest end that the pattern matches. -/
def cutEnd (pattern : Pattern) (longest : Bool) (s : List Char) : List Char :=
  let places := if longest then placesFromStart s else placesFromEnd s
  match places.find? fun i => pattern.acceptsStart (s.drop i) with
  | some i => s.take i
  | none => s

end Pattern
end SchemaLoom.Shell
