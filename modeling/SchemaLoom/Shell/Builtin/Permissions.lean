import SchemaLoom.Shell.Builtin.Arguments

/-!
# Permissions

The command that says which permissions new files do not get: reading, writing
and running, for the owner, the group and all others. They are written as octal
digits or by letters.

It is `umask` of POSIX, with the symbolic form of `chmod` for its argument.
Files here have no permissions, so the mask is kept and written and has no other
effect.
-/

namespace SchemaLoom.Shell.Builtin

open SchemaLoom.Shell.Action

abbrev Bits := BitVec 9

/-- One bit for every kind of user that a letter names: the lowest of each. -/
def users? (c : Char) : Option Bits :=
  match c with
  | 'a' => some 0o111
  | 'u' => some 0o100
  | 'g' => some 0o010
  | 'o' => some 0o001
  | _ => none

/-- The permissions that a letter names, for one kind of user. A user stands for
its own. -/
def rights? (present : Bits) (c : Char) : Option Bits :=
  match c with
  | 'r' => some 4
  | 'w' => some 2
  | 'x' => some 1
  | 'u' => some (present >>> 6)
  | 'g' => some (present >>> 3)
  | 'o' => some present
  | 'X' => some (if present &&& 0o111 = 0 then 0 else 1)
  | 's' => some 0
  | _ => none

/-- All that the letters in front name together, and what follows them. -/
def allOf (meaning? : Char → Option Bits) : Bits → List Char → Bits × List Char
  | bits, [] => (bits, [])
  | bits, c :: rest =>
    match meaning? c with
    | some more => allOf meaning? (bits ||| more) rest
    | none => (bits, c :: rest)

/-- Changes permissions by clauses of users, a sign and rights, so many at most;
none if they are no such clauses. The users of the clause before stay unless a
comma is in between. -/
def changed? (present : Bits) : Nat → Bits → Bits → List Char → Option Bits
  | 0, _, _, _ => none
  | _, _, bits, [] => some bits
  | n + 1, users, bits, s =>
    let (users, s) := allOf users? users s
    let users := if users = 0 then 0o111 else users
    match s with
    | [] => some bits
    | sign :: s =>
      let (rights, s) := allOf (rights? present) 0 s
      -- the rights of one kind of user, for each that is meant
      let whole : Bits := (rights &&& 7) * users
      let bits? : Option Bits :=
        match sign with
        | '-' => some (bits &&& ~~~whole)
        | '+' => some (bits ||| whole)
        | '=' => some (whole ||| (bits &&& ~~~(users * 7)))
        | _ => none
      bits?.bind fun bits =>
        match s with
        | [] => some bits
        | ',' :: s => changed? present n 0 bits s
        | c :: s =>
          if ['=', '+', '-'].contains c then changed? present n users bits (c :: s) else none

def permissionText (bits : Bits) : List Char :=
  let of (user : Char) (shift : Nat) : List Char :=
    let own := bits >>> shift
    [user, '='] ++ (if own &&& 4 = 0 then [] else ['r']) ++ (if own &&& 2 = 0 then [] else ['w']) ++
      (if own &&& 1 = 0 then [] else ['x'])
  [','].intercalate [of 'u' 6, of 'g' 3, of 'o' 0]

/-- Sets which permissions new files do not get, or writes it. -/
def umask (args : List (List Char)) : Action Unit := do
  let (letters, args) ← takeOptions ['S'] args
  let mask : Bits := BitVec.ofNat 9 (← get).mask
  match args with
  | [] =>
    if letters = [] then
      let digits := Nat.toDigits 8 mask.toNat
      print (List.replicate (4 - digits.length) '0' ++ digits ++ ['\n'])
    else print (permissionText (~~~mask) ++ ['\n'])
  | arg :: _ =>
    let set (bits : Bits) : Action Unit := modify fun shell => { shell with mask := bits.toNat }
    if (arg.head?.any Char.isDigit) then
      let (n, rest) := Arithmetic.digits 8 arg
      if rest ≠ [] then fail ("Illegal number: ".toList ++ arg)
      set (BitVec.ofNat 9 n)
    else
      match changed? (~~~mask) (arg.length + 1) 0 (~~~mask) arg with
      | some bits => set (~~~bits)
      | none => fail ("Illegal mode: ".toList ++ arg)

end SchemaLoom.Shell.Builtin
