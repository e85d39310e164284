import SchemaLoom.Shell.Format
import SchemaLoom.Shell.State

/-!
# Writing arguments

The program that writes its arguments with blanks between them. Unlike the
builtin command of that name it takes backslashes for what they are, unless an
option tells otherwise.

POSIX leaves both the options of `echo` and its backslashes to the
implementation. Here `-n` leaves the line end out, and `-e` and `-E` say whether
backslashes are escapes.
-/

namespace SchemaLoom.Shell.Echo

/-- How arguments are written: whether a line end follows, and whether escapes
are replaced. -/
structure Style where
  endsLine : Bool := true
  escapes : Bool := false

def Style.with? (style : Style) (letter : Char) : Option Style :=
  match letter with
  | 'n' => some { style with endsLine := false }
  | 'e' => some { style with escapes := true }
  | 'E' => some { style with escapes := false }
  | _ => none

/-- The style that options in front ask for, and the other arguments. An
argument with a letter that no option has is none. -/
def readOptions (style : Style) : List (List Char) → Style × List (List Char)
  | [] => (style, [])
  | arg :: rest =>
    match arg with
    | '-' :: c :: letters =>
      match (c :: letters).foldlM Style.with? style with
      | some style => readOptions style rest
      | none => (style, arg :: rest)
    | _ => (style, arg :: rest)

/-- The number that up to two digits of base sixteen write, and what follows them. -/
def twoDigits? (s : List Char) : Option (Nat × List Char) :=
  match (s.take 2).takeWhile fun c => (Arithmetic.digit? 16 c).isSome with
  | [] => none
  | digits => some ((Arithmetic.digits 16 digits).1, s.drop digits.length)

/-- A text with its escapes replaced, so many characters at most, and whether it
goes on. -/
def unescape : Nat → List Char → List Char × Bool
  | 0, _ => ([], true)
  | _, [] => ([], true)
  | _ + 1, '\\' :: 'c' :: _ => ([], false)
  | n + 1, '\\' :: rest =>
    let (s, after) : List Char × List Char :=
      match rest with
      | '0' :: rest =>
        let (value, after) := octalNumber 3 0 rest
        ([byteChar value], after)
      | 'x' :: rest =>
        match twoDigits? rest with
        | some (value, after) => ([byteChar value], after)
        | none => (['\\', 'x'], rest)
      | rest =>
        let (c, after) := escape rest
        ([c], after)
    let (more, goesOn) := unescape n after
    (s ++ more, goesOn)
  | n + 1, c :: rest =>
    let (more, goesOn) := unescape n rest
    (c :: more, goesOn)

def text (args : List (List Char)) : List Char :=
  let (style, args) := readOptions {} args
  let joined := [' '].intercalate args
  let (written, goesOn) := if style.escapes then unescape joined.length joined else (joined, true)
  written ++ if goesOn && style.endsLine then ['\n'] else []

def run (program : List Char) (args : List (List Char)) : Action Unit := do
  let text := text args
  match (← get).writeFault? 1 text with
  | none =>
    Action.write 1 text
    Action.setStatus 0
  | some fault =>
    Action.write 2 (program ++ ": write error: ".toList ++ fault.message.toList ++ ['\n'])
    Action.setStatus 1

end SchemaLoom.Shell.Echo
