import SchemaLoom.Shell.Location

/-!
# Files of a shell

Commands open files by paths from their working directory. A few paths stand for
no file but for what a descriptor leads to, or for a device.

How a file is opened for each redirection is what the POSIX shell command
language says of redirections, with files in a tree in place of a file system.
The devices are those that machines commonly have under `/dev`.
-/

namespace SchemaLoom.Shell

/-- The fault in words, of which those for a missing file depend on what was
wanted. -/
def OpenFault.message (fault : OpenFault) (missing : String) : String :=
  match fault with
  | .missing | .throughFile => missing
  | .isDirectory => "Is a directory"
  | .nameTooLong => "File name too long"
  | .exists => "File exists"
  | .noDevice => "No such device or address"

/-- The files that give nothing and keep nothing, and whether they have room for
what is written. -/
def devices : List (String × Bool) :=
  [("/dev/null", true), ("/dev/zero", true), ("/dev/random", true), ("/dev/urandom", true),
    ("/dev/full", false)]

def terminalPath : String := "/dev/tty"

def descriptorOf? (path : String) : Option Nat :=
  match path with
  | "/dev/stdin" => some 0
  | "/dev/stdout" => some 1
  | "/dev/stderr" => some 2
  | path =>
    match (Text.afterPattern "/dev/fd/".toList path.toList).map String.ofList with
    | some digits => digits.toNat?
    | none => none

namespace Action

def openStream (stream : Stream) : Action Nat :=
  modifyGet fun shell =>
    let (number, world) := shell.world.openStream stream
    (number, { shell with world })

def openPlace (opening : Opening) (place : Place) : Action (Except OpenFault Nat) := do
  let shell ← get
  let tree := shell.world.tree
  let present := (tree.file? place).isSome
  if tree.isDirectory place then
    if opening = .read then return .ok (← openStream .directory) else return .error .isDirectory
  else if opening = .read && !present then return .error .missing
  else if opening = .write && present && shell.has .noclobber then return .error .exists
  else
    if opening = .write || opening = .overwrite || !present then
      set { shell with world := { shell.world with tree := tree.put place (.text "") } }
    return .ok (← openStream (.file place 0 (.ofOpening opening)))

/-- Opens a file. A path that stands for what a descriptor leads to opens a file
there anew. -/
def openFile (opening : Opening) (path : List Char) : Action (Except OpenFault Nat) := do
  let shell ← get
  let text := toText path
  let access := Access.ofOpening opening
  if text = terminalPath then return .error .noDevice
  if let some hasRoom := devices.lookup text then
    return .ok (← openStream (.device hasRoom access))
  match descriptorOf? text with
  | some descriptor =>
    match (shell.stream? descriptor).bind (shell.world.streams[·]?) with
    | some (.file place _ _) => openPlace opening place
    | some (.device hasRoom _) => return .ok (← openStream (.device hasRoom access))
    | some stream =>
      if (if access.writes then stream.writeFault?.isNone else stream.reads) then
        return .ok ((shell.stream? descriptor).getD 0)
      else return .ok (← openStream (.device true access))
    | none => return .error .missing
  | none =>
    match shell.locate path with
    | .ok place => openPlace opening place
    | .error fault => return .error fault

/-- Runs an action and leads the descriptors back to where they led before. -/
def keepingDescriptors {α : Type} : Action α → Action α :=
  restoring fun before shell => { shell with descriptors := before.descriptors }

def redirectToFile (descriptor : Nat) (opening : Opening) (path : List Char) : Action Unit := do
  match ← openFile opening path with
  | .ok stream => modify fun shell => shell.connect descriptor (some stream)
  | .error fault =>
    if opening = .read then
      fail ("cannot open ".toList ++ path ++ ": ".toList ++ (fault.message "No such file").toList)
    else
      fail ("cannot create ".toList ++ path ++ ": ".toList ++
        (fault.message "Directory nonexistent").toList)

/-- Makes a descriptor lead to where another one leads; a hyphen closes it. -/
def redirectToCopy (descriptor : Nat) (other : List Char) : Action Unit := do
  match other with
  | [c] =>
    if c = '-' then modify fun shell => shell.connect descriptor none
    else
      match (← get).stream? (c.toNat - '0'.toNat) with
      | some stream => modify fun shell => shell.connect descriptor (some stream)
      | none => fail ([c] ++ ": Bad file descriptor".toList)
  | _ => return

/-- Whether a text names a descriptor to lead to, or a hyphen. -/
def isDescriptor (other : List Char) : Bool :=
  match other with
  | [c] => c.isDigit || c = '-'
  | _ => false

def redirectToText (descriptor : Nat) (text : List Char) : Action Unit := do
  let stream ← openStream (.source text)
  modify fun shell => shell.connect descriptor (some stream)

end Action
end SchemaLoom.Shell
