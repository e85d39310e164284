import SchemaLoom.Shell.Arithmetic
import SchemaLoom.Shell.Descriptor

/-!
# Conditions

The arguments of `test` are an expression about texts, numbers and files. What
an argument means depends on its neighbours: a word that is an operator between
two others is that operator, whatever it is elsewhere.

The operators are those of the `test` utility of POSIX, with the ones for two
files that shells commonly add. With up to four arguments POSIX fixes how they
are taken, and with more they are read by the precedence of the operators.
-/

namespace SchemaLoom.Shell.Condition

/-- What an argument can be: none at all, an operator on the next argument or
between its neighbours, a parenthesis, a negation, or an operand. -/
inductive Kind where
  | operand
  | nothing
  | either
  | both
  | not
  | openParen
  | closeParen
  | unary (name : String)
  | binary (name : String)
  deriving DecidableEq, Repr

def unaryOperators : List String :=
  ["-r", "-w", "-x", "-e", "-f", "-d", "-c", "-b", "-p", "-u", "-g", "-k", "-s", "-t", "-z", "-n",
    "-h", "-O", "-G", "-L", "-S"]

def binaryOperators : List String :=
  ["=", "!=", "<", ">", "-eq", "-ne", "-ge", "-gt", "-le", "-lt", "-nt", "-ot", "-ef"]

def operator? (s : List Char) : Option Kind :=
  match String.ofList s with
  | "-o" => some .either
  | "-a" => some .both
  | "!" => some .not
  | "(" => some .openParen
  | ")" => some .closeParen
  | name =>
    if unaryOperators.contains name then some (.unary name)
    else if binaryOperators.contains name then some (.binary name)
    else none

/-- What the first of some arguments is, by what follows it. -/
def kindOf : List (List Char) → Kind
  | [] => .nothing
  | s :: rest =>
    match operator? s, rest with
    | some (.unary _), [] => .operand
    | some (.unary name), next :: _ :: _ =>
      match operator? next with
      | some (.binary _) => .operand
      | _ => .unary name
    | some .openParen, [] => .operand
    | some kind, _ => kind
    | none, _ => .operand

def number (s : List Char) : Action Int := do
  match decimal? s with
  | some n => return n
  | none => Action.fail ("Illegal number: ".toList ++ s)

/-- What a path can lead to, as far as a condition asks for it: a directory, a
file, and whether it holds anything, one of the programs, a pipe, or a device,
which keeps nothing. -/
inductive Node where
  | directory
  | file (isFull : Bool)
  | program
  | pipe
  | device
  deriving DecidableEq, Repr

def nodeAt? (world : World) (place : Place) : Option Node :=
  if world.tree.isDirectory place then some .directory
  else if (world.tree.file? place).isSome then some (.file (world.contentAt place ≠ []))
  else if isProgramAt (absolutePath place) then some .program
  else if world.hasAt place then some (.file true)
  else none

def nodeOf? (shell : Session) (path : List Char) : Option Node :=
  let text := toText path
  if (devices.lookup text).isSome || text = terminalPath then some .device
  else
    match descriptorOf? text with
    | some descriptor =>
      (shell.stream? descriptor).bind fun stream =>
        match shell.world.streams[stream]? with
        | some (.file place _ _) => nodeAt? shell.world place
        | some .directory => some .directory
        | some (.device ..) => some .device
        | some _ => some .pipe
        | none => none
    | none =>
      match shell.locate path with
      | .ok place => nodeAt? shell.world place
      | .error _ => none

/-- Whether an operator holds of a path. Who runs the shell may read and write
everything. -/
def holdsOfPath (name : String) (path : List Char) : Action Bool := do
  match nodeOf? (← get) path with
  | none => return false
  | some node =>
    match name with
    | "-f" => return (node matches .file _ | .program)
    | "-d" => return node = .directory
    | "-x" => return (node matches .directory | .program)
    | "-s" => return (node matches .directory | .file true | .program)
    | "-c" => return node = .device
    | "-p" => return node = .pipe
    | "-e" | "-r" | "-w" | "-O" | "-G" => return true
    | _ => return false

def holdsBetween (name : String) (left right : List Char) : Action Bool := do
  let compare (holds : Int → Int → Bool) : Action Bool := do
    let a ← number left
    return holds a (← number right)
  match name with
  | "=" => return left = right
  | "!=" => return left ≠ right
  | "<" => return decide (left < right)
  | ">" => return decide (right < left)
  | "-eq" => compare fun a b => a = b
  | "-ne" => compare fun a b => a ≠ b
  | "-ge" => compare fun a b => a ≥ b
  | "-gt" => compare fun a b => a > b
  | "-le" => compare fun a b => a ≤ b
  | "-lt" => compare fun a b => a < b
  | "-ef" => do
    match (← get).locate left, (← get).locate right with
    | .ok a, .ok b => return a = b && (← get).world.hasAt a
    | _, _ => return false
  | _ => return false

/-- Whether the start of an expression holds, and the arguments from the last
one of it on. -/
abbrev Outcome := Bool × List (List Char)

mutual

def alternatives : Nat → Kind → List (List Char) → Action Outcome
  | 0, _, args => return (false, args)
  | n + 1, kind, args => do
    let (first, at_) ← conjunction n kind args
    match kindOf at_.tail with
    | .either =>
      let (second, at_) ← alternatives n (kindOf (at_.drop 2)) (at_.drop 2)
      return (first || second, at_)
    | _ => return (first, at_)
termination_by structural n => n

def conjunction : Nat → Kind → List (List Char) → Action Outcome
  | 0, _, args => return (false, args)
  | n + 1, kind, args => do
    let (first, at_) ← negation n kind args
    match kindOf at_.tail with
    | .both =>
      let (second, at_) ← conjunction n (kindOf (at_.drop 2)) (at_.drop 2)
      return (first && second, at_)
    | _ => return (first, at_)
termination_by structural n => n

def negation : Nat → Kind → List (List Char) → Action Outcome
  | 0, _, args => return (false, args)
  | n + 1, kind, args => do
    match kind with
    | .not =>
      let next := kindOf args.tail
      let (holds, at_) ← negation n next (if next = .nothing then args else args.tail)
      return (!holds, at_)
    | kind => primary n kind args
termination_by structural n => n

/-- An expression of one operator, of one argument, or in parentheses. -/
def primary : Nat → Kind → List (List Char) → Action Outcome
  | 0, _, args => return (false, args)
  | n + 1, kind, args => do
    match kind with
    | .nothing => return (false, args)
    | .openParen =>
      let inner := args.tail
      if kindOf inner = .closeParen then return (false, inner)
      let (holds, at_) ← alternatives n (kindOf inner) inner
      if kindOf at_.tail = .closeParen then return (holds, at_.tail)
      else Action.fail "closing paren expected".toList
    | .unary name =>
      match args.tail with
      | [] => Action.fail (name ++ ": argument expected").toList
      | arg :: rest =>
        match name with
        | "-z" => return (arg.isEmpty, arg :: rest)
        | "-n" => return (!arg.isEmpty, arg :: rest)
        | "-t" =>
          let _ ← number arg
          return (false, arg :: rest)
        | name => return (← holdsOfPath name arg, arg :: rest)
    | _ =>
      match args, kindOf args.tail with
      | left :: _ :: right :: rest, .binary name =>
        return (← holdsBetween name left right, right :: rest)
      | _ :: _ :: [], .binary name => Action.fail (name ++ ": argument expected").toList
      | arg :: rest, _ => return (!arg.isEmpty, arg :: rest)
      | [], _ => return (false, [])
termination_by structural n => n

end

/-- Whether the arguments of `test` hold. Three or four arguments are read by
their number: a negation in front of them is taken off, and taking off another
one changes nothing. -/
def holds : Nat → Bool → List (List Char) → Action Bool
  | 0, _, _ => return false
  | n + 1, isNegated, args => do
    let whole (kind : Kind) (args : List (List Char)) : Action Bool := do
      let (holds, at_) ← alternatives (8 * (args.length + 1)) kind args
      match at_.tail with
      | [] => return isNegated != holds
      | _ =>
        let operand := at_.headD []
        Action.fail
          ((if operand = [] then [] else operand ++ ": ".toList) ++ "unexpected operator".toList)
    let shorter : Action Bool :=
      if args.head? = some ['('] && args.getLast? = some [')'] then
        let inner := args.tail.dropLast
        whole (kindOf inner) inner
      else if args.head? = some ['!'] then holds n true args.tail
      else whole (kindOf args) args
    match args with
    | [] => return false
    | [_, operator, _] =>
      match operator? operator with
      | some (.binary _) => whole .operand args
      | _ => shorter
    | [_, _, _, _] => shorter
    | args => whole (kindOf args) args

def test (args : List (List Char)) : Action Bool := holds (args.length + 1) false args

end SchemaLoom.Shell.Condition
