import SchemaLoom.Shell.Descriptor
import SchemaLoom.Shell.Fields
import SchemaLoom.Shell.Home
import SchemaLoom.Shell.PathPattern

/-!
# Expanding words

A word becomes fields in three steps. Parameters, substitutions and expressions
give way to their values; what they gave outside of quotes is cut into fields;
and a field with a pattern in it gives way to the paths that match, if there are
any.

The steps and their order are those of word expansions in the POSIX shell
command language, with the expansion of tildes in front and the removal of
quotes at the end. Running the script of a substitution is left to a function
that is given.
-/

namespace SchemaLoom.Shell

/-- What is made of a word, and where it stands: whether fields are made,
whether it is the word of a parameter, which may be cut as if it were a value,
and whether it is what an assignment gives, where paths follow colons. -/
structure Mode where
  makesFields : Bool := false
  inParameter : Bool := false
  isAssigned : Bool := false
  deriving DecidableEq, Repr

/-- The number that decimal digits write, if a text is nothing else. -/
def digits? (s : List Char) : Option Nat :=
  if s ≠ [] && s.all Char.isDigit then (String.ofList s).toNat? else none

namespace Session

/-- The parameters joined. Where fields are made they are cut there again,
unless `*` between quotes makes one text of them; that and other texts have the
first separator in between. -/
def joinedParameters (shell : Session) (mode : Mode) (name : List Char) (quoted : Bool) :
    List Char :=
  let zero := ['\x00']
  let separator :=
    match shell.value? "IFS".toList with
    | some separators =>
      if mode.makesFields && (!quoted || name = ['@']) then zero else separators.take 1
    | none => if mode.makesFields && quoted && name = ['@'] then zero else [' ']
  separator.intercalate shell.args

/-- The value of a parameter. All of them together have one. -/
def parameter? (shell : Session) (mode : Mode) (name : List Char) (quoted : Bool) :
    Option (List Char) :=
  match name with
  | ['@'] | ['*'] => some (shell.joinedParameters mode name quoted)
  | ['#'] => some (decimal shell.args.length)
  | ['?'] => some (decimal shell.status)
  | ['-'] => some (Way.letters shell.ways)
  | ['$'] => some (decimal shell.process)
  | ['!'] => shell.lastProcess.map fun process => decimal process
  | name =>
    match digits? name with
    | some 0 => some shell.name
    | some n => shell.args[n - 1]?
    | none => shell.value? name

/-- A value as it is cut. Between quotes only `@` is, and only if there are
parameters. -/
def valueStretch (shell : Session) (name : List Char) (quoted : Bool) (value : List Char) :
    Stretch :=
  let cutting : Cutting :=
    if !quoted then .separators
    else if name = ['@'] && shell.args ≠ [] then .zeros
    else .never
  ⟨cutting, value.map (.char · quoted), false⟩

end Session

namespace Action

/-- What a text starts with before the line ends at its end, zero bytes left out. -/
def withoutLineEnds (s : List Char) : List Char :=
  ((s.filter (· ≠ '\x00')).reverse.dropWhile (· = '\n')).reverse

/-- The value of the variable with a name as a number. -/
def numberOf (name : List Char) : Action Int := do
  let shell ← get
  match shell.value? name with
  | none => return 0
  | some text =>
    match wholeNumber? text with
    | some n => return n
    | none => fail ("Illegal number: ".toList ++ text)

/-- The value of an expression, which was written as the text. What is passed
over has no value and changes nothing, but a fault in it counts. -/
def evaluate (text : List Char) (passesOver : Bool) : Arithmetic.Expr → Action Int
  | .number n => return n
  | .valueOf name => if passesOver then return 0 else numberOf name
  | .negative e => return Arithmetic.wrap (-(← evaluate text passesOver e))
  | .not e => return Arithmetic.ofBool ((← evaluate text passesOver e) = 0)
  | .complement e => return -(← evaluate text passesOver e) - 1
  | .binary op left right => do
    let a ← evaluate text passesOver left
    let b ← evaluate text passesOver right
    if passesOver then return b else applied op a b
  | .both left right => do
    let a ← evaluate text passesOver left
    let b ← evaluate text (passesOver || a = 0) right
    return Arithmetic.ofBool (a ≠ 0 && b ≠ 0)
  | .either left right => do
    let a ← evaluate text passesOver left
    let b ← evaluate text (passesOver || a ≠ 0) right
    return Arithmetic.ofBool (a ≠ 0 || b ≠ 0)
  | .conditional test yes no => do
    let a ← evaluate text passesOver test
    let b ← evaluate text (passesOver || a = 0) yes
    let c ← evaluate text (passesOver || a ≠ 0) no
    return if a ≠ 0 then b else c
  | .assign name op value => do
    let b ← evaluate text passesOver value
    if passesOver then return b
    let n ←
      match op with
      | none => pure b
      | some op => do applied op (← numberOf name) b
    assign name (decimal n)
    return n
  | .fault message => refused message
  | .faulty e message => do
    let _ ← evaluate text passesOver e
    refused message
where
  refused (message : String) : Action Int :=
    fail ("arithmetic expression: ".toList ++ message.toList ++ ": \"".toList ++ text ++ ['\x22'])
  applied (op : Arithmetic.Operator) (a b : Int) : Action Int := do
    if op.overflows a b then throw (.killed 8)
    match op.apply a b with
    | some n => return n
    | none => refused "division by zero"

def calculate (text : List Char) : Action Int := evaluate text false (Arithmetic.parse text)

/-- The value of a parameter, or the fault that it has none where every
parameter must have one. -/
def valueOf (mode : Mode) (name : List Char) (quoted : Bool) : Action (Option (List Char)) := do
  let shell ← get
  let value := shell.parameter? mode name quoted
  if value.isNone && shell.has .nounset then fail (name ++ ": parameter not set".toList)
  return value

/-- Where the parts of a word stand that are still to be expanded: whether a
tilde here stands for a home, what the part before was, and how many parts have
been expanded already. -/
structure Spot where
  atPath : Bool
  afterChar : Bool := false
  inQuotation : Bool := false
  dropsQuotation : Bool := false
  passed : Nat := 0

/-- Whether what follows the start of a quotation is all parameters and its end.
Such a quotation makes no field of its own. -/
def startsWithAll : List (Part Command) → Bool
  | .parameter ['@'] .value [] _ :: .quotation :: _ => true
  | _ => false

mutual

def partStretches (substitute : Command → Action (List Char)) (mode : Mode) :
    Part Command → Action (List Stretch)
  | .char c quoted => return [⟨.never, [.char c quoted], false⟩]
  | .quotation => return [⟨.never, [.quotation], false⟩]
  | .substitution script quoted => do
    let written := withoutLineEnds (← substitute script)
    return [(← get).valueStretch [] quoted written]
  | .arithmetic expression quoted => do
    let text := Stretch.text (← wordStretches substitute {} { atPath := false } expression)
    let value ← calculate text
    return [(← get).valueStretch [] quoted (decimal value)]
  | .parameter name use word quoted => do
    let present := (← get).parameter? mode name quoted
    let has (emptyIsNone : Bool) : Bool :=
      match present with
      | some value => !(emptyIsNone && value.isEmpty)
      | none => false
    let whole : Action (List Stretch) := do
      match ← valueOf mode name quoted with
      | some value => return [(← get).valueStretch name quoted value]
      | none => return []
    let inParameter := { mode with inParameter := true }
    match use with
    | .value => whole
    | .length => do
      let value := (← valueOf {} name quoted).getD []
      return [(← get).valueStretch [] quoted (decimal value.length)]
    | .orElse emptyIsNone =>
      if has emptyIsNone then whole
      else wordStretches substitute inParameter { atPath := true } word
    | .instead emptyIsNone =>
      if has emptyIsNone then wordStretches substitute inParameter { atPath := true } word
      else return []
    | .orAssign emptyIsNone => do
      if !has emptyIsNone then
        let value := Stretch.text (← wordStretches substitute {} { atPath := true } word)
        if !isName name then fail (name ++ ": bad variable name".toList)
        assign name value
      whole
    | .orFail emptyIsNone =>
      if has emptyIsNone then whole
      else do
        let message := Stretch.text (← wordStretches substitute {} { atPath := true } word)
        let usual := if emptyIsNone then "parameter not set or null" else "parameter not set"
        fail (name ++ ": ".toList ++ if word.isEmpty then usual.toList else message)
    | .cutStart longest => do
      match ← valueOf mode name quoted with
      | none => return []
      | some value =>
        let word ← wordStretches substitute {} { atPath := true } word
        let pattern := Pattern.ofChars (Stretch.chars word)
        return [(← get).valueStretch name quoted (pattern.cutStart longest value)]
    | .cutEnd longest => do
      match ← valueOf mode name quoted with
      | none => return []
      | some value =>
        let word ← wordStretches substitute {} { atPath := true } word
        let pattern := Pattern.ofChars (Stretch.chars word)
        return [(← get).valueStretch name quoted (pattern.cutEnd longest value)]
    | .unknown => fail "Bad substitution".toList
termination_by structural part => part

def wordStretches (substitute : Command → Action (List Char)) (mode : Mode) (spot : Spot) :
    List (Part Command) → Action (List Stretch)
  | [] => return []
  | part :: rest => do
    if 0 < spot.passed then
      return (← wordStretches substitute mode { spot with passed := spot.passed - 1 } rest)
    let shell ← get
    let home? : Option (List Char × Nat) :=
      match part with
      | .char '~' false =>
        if spot.atPath then
          (nameBehindTilde mode.isAssigned rest).bind fun name =>
            (shell.home? name).map fun home => (home, name.length)
        else none
      | _ => none
    let onward := { spot with atPath := false, afterChar := false }
    match home?, part with
    | some (home, passed), _ =>
      let stretch : Stretch := ⟨.never, home.map (.char · true), false⟩
      return stretch :: (← wordStretches substitute mode { onward with passed } rest)
    | none, .char c false =>
      let cutting : Cutting := if mode.inParameter then .separators else .never
      let stretch : Stretch := ⟨cutting, [.char c false], spot.afterChar⟩
      let spot := { spot with atPath := mode.isAssigned && c = ':', afterChar := true }
      return stretch :: (← wordStretches substitute mode spot rest)
    | none, .quotation =>
      if spot.dropsQuotation then
        wordStretches substitute mode { onward with dropsQuotation := false } rest
      else if !spot.inQuotation && startsWithAll rest then
        wordStretches substitute mode { onward with dropsQuotation := true } rest
      else
        let onward := { onward with inQuotation := !spot.inQuotation }
        return ⟨.never, [.quotation], false⟩ :: (← wordStretches substitute mode onward rest)
    | none, part =>
      let stretches ← partStretches substitute mode part
      return stretches ++ (← wordStretches substitute mode onward rest)
termination_by structural parts => parts

end

def expandAll (substitute : Command → Action (List Char)) :
    List (List (Part Command)) → Action (List (List Char))
  | [] => return []
  | word :: rest => do
    let stretches ← wordStretches substitute { makesFields := true } { atPath := true } word
    let shell ← get
    let texts := (Fields.ofStretches shell.separators none stretches).flatMap shell.textsOf
    return texts ++ (← expandAll substitute rest)

/-- The text that a word stands for, not cut into fields. -/
def expandText (substitute : Command → Action (List Char)) (word : List (Part Command)) :
    Action (List Char) := do
  return Stretch.text (← wordStretches substitute {} { atPath := true } word)

def expandAssigned (substitute : Command → Action (List Char)) (word : List (Part Command)) :
    Action (List Char) := do
  return Stretch.text (← wordStretches substitute { isAssigned := true } { atPath := true } word)

/-- The text of a word that is an assignment as it stands: its value comes
behind the first equals sign. -/
def expandDeclared (substitute : Command → Action (List Char)) (word : List (Part Command)) :
    Action (List Char) := do
  match Reading.assignment? word with
  | some (name, value) => return name ++ '=' :: (← expandAssigned substitute value)
  | none => expandText substitute word

def expandDocument (substitute : Command → Action (List Char)) (word : List (Part Command)) :
    Action (List Char) := do
  return Stretch.text (← wordStretches substitute {} { atPath := false } word)

def expandPattern (substitute : Command → Action (List Char)) (word : List (Part Command)) :
    Action Pattern := do
  return Pattern.ofChars (Stretch.chars (← wordStretches substitute {} { atPath := true } word))

end Action
end SchemaLoom.Shell
