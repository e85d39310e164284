import SchemaLoom.FileTree.Basic
import SchemaLoom.Shell.Arithmetic
import SchemaLoom.Shell.Reader
import SchemaLoom.Shell.Way

/-!
# The state of a shell

Commands work on files and on streams, which all of them share, and on a shell
of their own: variables, functions, parameters, and descriptors that lead to
streams. A command may leave what is around it, and what it changed until then
stays changed.

The parts of the state are those of the shell execution environment of POSIX.
Time, other users and other processes are not among them.
-/

namespace SchemaLoom.Shell

/-- What may be done with a file that was opened: whether it may be read and
written, and whether what is written goes to its end. -/
structure Access where
  reads : Bool
  writes : Bool
  atEnd : Bool
  deriving DecidableEq, Repr

def Access.ofOpening : Opening → Access
  | .read => ⟨true, false, false⟩
  | .write | .overwrite => ⟨false, true, false⟩
  | .append => ⟨false, true, true⟩
  | .readWrite => ⟨true, true, false⟩

/-- What a descriptor leads to: bytes to read, bytes that were written, a file
with the position where reading and writing go on, or a device, which gives
nothing and drops what is written, if it has room. -/
inductive Stream where
  | source (left : List Char)
  | sink (written : List Char)
  | file (place : Place) (position : Nat) (access : Access)
  | directory
  | device (hasRoom : Bool) (access : Access)
  deriving Repr

def Stream.reads : Stream → Bool
  | source _ | directory => true
  | sink _ => false
  | file _ _ access | device _ access => access.reads

inductive WriteFault where
  | notOpen
  | noRoom
  deriving DecidableEq, Repr

def WriteFault.message : WriteFault → String
  | notOpen => "Bad file descriptor"
  | noRoom => "No space left on device"

/-- Why nothing can be written to a stream, if that is so. -/
def Stream.writeFault? : Stream → Option WriteFault
  | source _ | directory => some .notOpen
  | sink _ => none
  | file _ _ access => if access.writes then none else some .notOpen
  | device hasRoom access =>
    if !access.writes then some .notOpen else if hasRoom then none else some .noRoom

/-- What all commands share: the files, the streams that were opened so far, the
number that the last process got, and the signals that have not come yet. -/
structure World where
  tree : FileTree
  streams : List Stream
  lastProcess : Nat := 1
  sent : List (Nat × Nat) := []

namespace World

/-- What the file at a place holds; nothing if there is no file. -/
def contentAt (world : World) (place : Place) : List Char :=
  match world.tree.file? place with
  | some (.text s) => ofText s
  | some (.binary bytes) => bytes.map fun b => Char.ofNat b.toNat
  | none => []

def setStream (world : World) (stream : Nat) (changed : Stream) : World :=
  { world with streams := world.streams.set stream changed }

/-- Adds a stream: its number, and the world with it. -/
def openStream (world : World) (stream : Stream) : Nat × World :=
  (world.streams.length, { world with streams := world.streams ++ [stream] })

def left (world : World) (stream : Nat) : List Char :=
  match world.streams[stream]? with
  | some (.source left) => left
  | some (.file place position access) =>
    if access.reads then (world.contentAt place).drop position else []
  | _ => []

def advance (world : World) (stream count : Nat) : World :=
  match world.streams[stream]? with
  | some (.source left) => world.setStream stream (.source (left.drop count))
  | some (.file place position access) =>
    world.setStream stream (.file place (position + count) access)
  | _ => world

/-- Writes to a stream that can be written. What is written over in a file is
lost; a gap is filled with zero bytes. -/
def write (world : World) (stream : Nat) (s : List Char) : World :=
  match world.streams[stream]? with
  | some (.sink written) => world.setStream stream (.sink (written ++ s))
  | some (.file place position access) =>
    if s = [] || !access.writes then world
    else
      let content := world.contentAt place
      let position := if access.atEnd then content.length else position
      let gap := List.replicate (position - content.length) '\x00'
      let after := content.take position ++ gap ++ s ++ content.drop (position + s.length)
      { world with tree := world.tree.put place (.ofBytes (toBytes after)) }.setStream stream
        (.file place (position + s.length) access)
  | _ => world

def written (world : World) (stream : Nat) : List Char :=
  match world.streams[stream]? with
  | some (.sink written) => written
  | _ => []

end World

/-- A variable: its value, if it has one, whether programs see it, and whether
it keeps its value for good. -/
structure Variable where
  value : Option (List Char) := none
  exported : Bool := false
  readonly : Bool := false

/-- Why commands around one that was left do not go on: so many loops end, a
function or a script ends, the shell ends, something went wrong that ends it, or
a signal ends the shell and all that runs it. -/
inductive Leave where
  | loops (count : Nat) (again : Bool)
  | function
  | shell
  | fault
  | killed (signal : Nat)
  deriving DecidableEq, Repr

/-- A command that was put into the background. It has ended already, but the
shell may not have noticed that, or waited for it. -/
structure Job where
  number : Nat
  process : Nat
  size : Nat
  status : Nat
  ended : Option Nat
  isNoticed : Bool := false
  isAwaited : Bool := false

/-- What was there before a function made it its own. -/
structure Frame where
  bindings : List (List Char × Option Variable) := []
  ways : Option (List Way) := none

/-- A shell that runs. It keeps what scripts can see of it: parameters,
variables, functions, aliases, the working directory, the ways to run that are
switched on, and the statuses of commands. Beside these stand the traps with the
signals whose traps have not run yet, the jobs, and how far a script is read.
What it shares with other shells is the world. -/
structure Session where
  world : World
  process : Nat := 2
  parents : List Nat := [1]
  isApart : Bool := false
  name : List Char
  args : List (List Char)
  descriptors : List (Nat × Nat)
  bindings : List (List Char × Variable) := []
  functions : List (List Char × Command) := []
  aliases : List (List Char × List Char) := []
  documents : List (Word Command) := []
  directory : Place := []
  ways : List Way := []
  status : Nat := 0
  substituted : Nat := 0
  line : Nat := 1
  lineRead : Nat := 1
  builtin : Option (List Char) := none
  printed : List Char := []
  loops : Nat := 0
  frames : List Frame := []
  traps : List (Nat × List Char) := []
  pending : List Nat := []
  trapped : Option Nat := none
  jobs : List Job := []
  lastProcess : Option Nat := none
  mask : Nat := 0o22
  remembered : List (List Char) := []
  isPrompting : Bool := false
  hasEnded : Bool := false
  optionPlace : Nat × Option Nat := (1, none)

abbrev Action (α : Type) := ExceptT Leave (StateM Session) α

def decimal (n : Int) : List Char := (toString n).toList

namespace Session

def has (shell : Session) (way : Way) : Bool := shell.ways.contains way

def switch (shell : Session) (way : Way) (on : Bool) : Session :=
  let others := shell.ways.filter (· ≠ way)
  { shell with ways := if on then way :: others else others }

def stream? (shell : Session) (descriptor : Nat) : Option Nat := shell.descriptors.lookup descriptor

/-- Why something cannot be written to a descriptor, if that is so. -/
def writeFault? (shell : Session) (descriptor : Nat) (s : List Char) : Option WriteFault :=
  if s = [] then none
  else
    match (shell.stream? descriptor).bind (shell.world.streams[·]?) with
    | some stream => stream.writeFault?
    | none => some .notOpen

def reads (shell : Session) (descriptor : Nat) : Bool :=
  ((shell.stream? descriptor).bind (shell.world.streams[·]?)).any Stream.reads

def connect (shell : Session) (descriptor : Nat) (stream : Option Nat) : Session :=
  let others := shell.descriptors.filter (·.1 ≠ descriptor)
  { shell with
    descriptors :=
      match stream with
      | some stream => (descriptor, stream) :: others
      | none => others }

def named (shell : Session) (name : List Char) : Variable :=
  (shell.bindings.lookup name).getD {}

def value? (shell : Session) (name : List Char) : Option (List Char) := (shell.named name).value

def putVariable (shell : Session) (name : List Char) (changed : Option Variable) : Session :=
  let others := shell.bindings.filter (·.1 ≠ name)
  { shell with
    bindings :=
      match changed with
      | some changed => (name, changed) :: others
      | none => others }

def separators (shell : Session) : List Char := (shell.value? "IFS".toList).getD [' ', '\t', '\n']

end Session

namespace Action

def attempt {α : Type} (action : Action α) : Action (Except Leave α) :=
  ExceptT.mk do return .ok (← action.run)

/-- Runs an action and changes the shell afterwards by what it was before,
however the action ends. -/
def restoring {α : Type} (restore : Session → Session → Session) (action : Action α) :
    Action α := do
  let before ← get
  let result ← attempt action
  modify (restore before)
  match result with
  | .ok value => return value
  | .error leave => throw leave

def setStatus (status : Nat) : Action Unit := modify fun shell => { shell with status }

/-- Writes to a descriptor. Nothing is written where that cannot be. -/
def write (descriptor : Nat) (s : List Char) : Action Unit :=
  modify fun shell =>
    match shell.stream? descriptor with
    | some stream => { shell with world := shell.world.write stream s }
    | none => shell

def readAll (descriptor : Nat) : Action (List Char) := do
  let shell ← get
  match shell.stream? descriptor with
  | some stream =>
    let s := shell.world.left stream
    set { shell with world := shell.world.advance stream s.length }
    return s
  | none => return []

/-- Says on descriptor two what is wrong, under the name of the shell, the line
and the builtin command that runs. -/
def complain (message : List Char) : Action Unit := do
  let shell ← get
  let command := (shell.builtin.map (· ++ ": ".toList)).getD []
  write 2 (shell.name ++ ": ".toList ++ decimal shell.line ++ ": ".toList ++ command ++ message ++
    ['\n'])

def fail {α : Type} (message : List Char) : Action α := do
  complain message
  setStatus 2
  throw .fault

/-- Fails where the script itself is wrong, at the line up to which it is read.
Nothing around the command goes on. -/
def failInScript {α : Type} (message : List Char) : Action α := do
  modify fun shell => { shell with line := shell.lineRead }
  fail message

/-- The number that a text is, which is not negative and fits in 32 bits with a
sign. -/
def number (s : List Char) : Action Nat := do
  match decimal? s with
  | some n =>
    if 0 ≤ n && n < Int.pow 2 31 then return n.toNat else fail ("Illegal number: ".toList ++ s)
  | none => fail ("Illegal number: ".toList ++ s)

/-- Starts to take options from a parameter on; zero is as good as one. -/
def restartOptions (first : List Char) : Action Unit := do
  let first ← number first
  modify fun shell => { shell with optionPlace := (max first 1, none) }

def assign (name value : List Char) : Action Unit := do
  let present := (← get).named name
  if present.readonly then fail (name ++ ": is read only".toList)
  if name = "OPTIND".toList then restartOptions value
  if name = "PATH".toList && present.value ≠ some value then
    modify fun shell => { shell with remembered := [] }
  let shell ← get
  set (shell.putVariable name (some
    { present with value := some value, exported := present.exported || shell.has .allexport }))

end Action
end SchemaLoom.Shell
