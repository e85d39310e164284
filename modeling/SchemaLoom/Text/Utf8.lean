/-!
# UTF-8

Bytes are read one character at a time, by the ranges of well-formed UTF-8.
Where a byte cannot continue the character begun, the fault covers the bytes of
that character read so far; where the bytes end inside a character, the sequence
is incomplete. `decode` stops at the first fault and `decodeLossy` puts one
replacement character in its place.

Reading never looks further ahead than one character, and every byte belongs to
one character or to one fault.
-/

namespace SchemaLoom.Text.Utf8

inductive Front where
  | char (c : Char) (width : Nat)
  | invalid (width : Nat)
  | incomplete
  deriving Repr

def tail? (low high : Nat) (b : UInt8) : Option Nat :=
  if low ≤ b.toNat && b.toNat ≤ high then some (b.toNat % 64) else none

/-- The range of the second byte, given the first. It rules out overlong forms,
surrogates and numbers above the last character. -/
def secondRange (first : Nat) : Nat × Nat :=
  if first = 0xE0 then (0xA0, 0xBF)
  else if first = 0xED then (0x80, 0x9F)
  else if first = 0xF0 then (0x90, 0xBF)
  else if first = 0xF4 then (0x80, 0x8F)
  else (0x80, 0xBF)

def continuation (owed : Nat) (range : Nat × Nat) (value width : Nat) : List UInt8 → Front
  | [] => .incomplete
  | b :: rest =>
    match tail? range.1 range.2 b with
    | none => .invalid width
    | some bits =>
      match owed with
      | 0 | 1 => .char (Char.ofNat (value * 64 + bits)) (width + 1)
      | owed + 2 => continuation (owed + 1) (0x80, 0xBF) (value * 64 + bits) (width + 1) rest

/-- What the front of a sequence that starts with the byte `b` holds: a
character with its width, so many bytes that begin none, or the beginning of one
that the end of the bytes cuts off. -/
def front (b : UInt8) (rest : List UInt8) : Front :=
  let n := b.toNat
  if n < 0x80 then .char (Char.ofNat n) 1
  else if 0xC2 ≤ n && n ≤ 0xDF then continuation 1 (secondRange n) (n % 32) 1 rest
  else if 0xE0 ≤ n && n ≤ 0xEF then continuation 2 (secondRange n) (n % 16) 1 rest
  else if 0xF0 ≤ n && n ≤ 0xF4 then continuation 3 (secondRange n) (n % 8) 1 rest
  else .invalid 1

/-- The first place where bytes are not UTF-8. It has the number of bytes before
it, which are well formed, and the number of those at fault, or none if the
bytes end inside a character. -/
structure Fault where
  offset : Nat
  width : Option Nat
  deriving Repr, DecidableEq

def Fault.message (fault : Fault) : String :=
  match fault.width with
  | some width => s!"invalid utf-8 sequence of {width} bytes from index {fault.offset}"
  | none => s!"incomplete utf-8 byte sequence from index {fault.offset}"

/-- Reads characters to the end or to the first fault. The first `skip` bytes
belong to a character that is already read. -/
def decodeFrom (offset : Nat) : Nat → List UInt8 → Except Fault (List Char)
  | _, [] => .ok []
  | skip + 1, _ :: rest => decodeFrom (offset + 1) skip rest
  | 0, b :: rest =>
    match front b rest with
    | .char c width => (decodeFrom (offset + 1) (width - 1) rest).map (c :: ·)
    | .invalid width => .error ⟨offset, some width⟩
    | .incomplete => .error ⟨offset, none⟩

/-- The text that the bytes hold. One fault is enough for there to be none. -/
def decode (bytes : List UInt8) : Except Fault String :=
  (decodeFrom 0 0 bytes).map String.ofList

/-- Reads characters to the end with a replacement character for each fault,
however many bytes the fault covers. -/
def decodeLossyFrom : Nat → List UInt8 → List Char
  | _, [] => []
  | skip + 1, _ :: rest => decodeLossyFrom skip rest
  | 0, b :: rest =>
    match front b rest with
    | .char c width => c :: decodeLossyFrom (width - 1) rest
    | .invalid width => '\uFFFD' :: decodeLossyFrom (width - 1) rest
    | .incomplete => ['\uFFFD']

/-- The text that the bytes hold, with a replacement character for each fault. -/
def decodeLossy (bytes : List UInt8) : String := String.ofList (decodeLossyFrom 0 bytes)

def encode (text : String) : List UInt8 := text.toUTF8.toList

def byteCount (s : List Char) : Nat := s.foldr (fun c n => c.utf8Size + n) 0

@[simp] theorem byteCount_nil : byteCount [] = 0 := rfl

@[simp] theorem byteCount_cons (c : Char) (s : List Char) :
    byteCount (c :: s) = c.utf8Size + byteCount s := rfl

@[simp] theorem byteCount_append (s t : List Char) :
    byteCount (s ++ t) = byteCount s + byteCount t := by
  induction s with
  | nil => simp
  | cons c s ih => simp [ih, Nat.add_assoc]

end SchemaLoom.Text.Utf8
