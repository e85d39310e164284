import SchemaLoom.Shell.Command
import SchemaLoom.Shell.Fraction

/-!
# Formatted output

A backslash and the characters behind it stand for one byte. A format writes its
arguments by directives and is used again as long as arguments are left; a
number that cannot be read is written as far as it can, and noted.

The directives are those of the `printf` utility of POSIX, which takes them from
the file formats of C, with those for fractions besides. Numbers have 64 bits.
-/

namespace SchemaLoom.Shell

def octal? (c : Char) : Option Nat :=
  if '0' ≤ c && c ≤ '7' then some (c.toNat - '0'.toNat) else none

def escapeChar? (c : Char) : Option Char :=
  match c with
  | 'a' => some '\x07'
  | 'b' => some '\x08'
  | 'e' => some '\x1b'
  | 'f' => some '\x0c'
  | 'n' => some '\n'
  | 'r' => some '\x0d'
  | 't' => some '\t'
  | 'v' => some '\x0b'
  | '\\' => some '\\'
  | _ => none

/-- The byte with a number, of which eight bits count. -/
def byteChar (n : Nat) : Char := Char.ofNat (n % 256)

/-- The number that up to so many octal digits write, and what follows them. -/
def octalNumber : Nat → Nat → List Char → Nat × List Char
  | 0, n, s => (n, s)
  | k + 1, n, c :: rest =>
    match octal? c with
    | some d => octalNumber k (8 * n + d) rest
    | none => (n, c :: rest)
  | _ + 1, n, [] => (n, [])

/-- The characters that what follows a backslash stands for, and what follows
that. A backslash before anything else stands for itself. -/
def escape (s : List Char) : Char × List Char :=
  match s with
  | [] => ('\\', [])
  | c :: rest =>
    match escapeChar? c, octal? c with
    | some d, _ => (d, rest)
    | none, some _ =>
      let (n, after) := octalNumber 3 0 (c :: rest)
      (byteChar n, after)
    | none, none => ('\\', c :: rest)

/-- A text with its escapes replaced, so many characters at most, and whether it
goes on: `\c` ends all output. Behind a zero an escape may have three octal
digits. -/
def unescape : Nat → List Char → List Char × Bool
  | 0, _ => ([], true)
  | _, [] => ([], true)
  | n + 1, '\\' :: rest =>
    match rest with
    | 'c' :: _ => ([], false)
    | '0' :: rest =>
      let (value, after) := octalNumber 3 0 rest
      let (more, goesOn) := unescape n after
      (byteChar value :: more, goesOn)
    | rest =>
      let (c, after) := escape rest
      let (more, goesOn) := unescape n after
      (c :: more, goesOn)
  | n + 1, c :: rest =>
    let (more, goesOn) := unescape n rest
    (c :: more, goesOn)

/-- Writes arguments with blanks between them and a line end, which `-n` in
front leaves out. -/
def echo (args : List (List Char)) : List Char :=
  let (args, lineEnd) :=
    match args with
    | ['-', 'n'] :: args => (args, [])
    | args => (args, ['\n'])
  let text := [' '].intercalate args
  let (written, goesOn) := unescape text.length text
  if goesOn then written ++ lineEnd else written

/-- How a directive writes its argument, by the flags `-`, `+`, blank, `#` and
`0`, by how wide the field is at least, and by how many characters or digits
there are. -/
structure Layout where
  left : Bool := false
  sign : Bool := false
  blank : Bool := false
  base : Bool := false
  zeros : Bool := false
  width : Nat := 0
  precision : Option Nat := none
  deriving Repr

/-- A part of a format: a character, the next argument, whose width and
precision may come from arguments before it, or what is wrong with the rest. -/
inductive Directive where
  | char (c : Char)
  | argument (conversion : Char) (layout : Layout) (takesWidth takesPrecision : Bool)
  | wrong (message : List Char)
  deriving Repr

def flags (layout : Layout) : List Char → Layout × List Char
  | [] => (layout, [])
  | c :: rest =>
    match c with
    | '-' => flags { layout with left := true } rest
    | '+' => flags { layout with sign := true } rest
    | ' ' => flags { layout with blank := true } rest
    | '#' => flags { layout with base := true } rest
    | '0' => flags { layout with zeros := true } rest
    | _ => (layout, c :: rest)

def leadingNumber (s : List Char) : Nat × List Char :=
  Arithmetic.digits 10 s

/-- The directive behind a per cent sign, and what follows it. -/
def directive (s : List Char) : Directive × List Char :=
  let (layout, afterFlags) := flags {} s
  let (takesWidth, width, afterWidth) :=
    match afterFlags with
    | '*' :: rest => (true, 0, rest)
    | rest => (false, leadingNumber rest)
  let (takesPrecision, precision, afterPrecision) :=
    match afterWidth with
    | '.' :: '*' :: rest => (true, none, rest)
    | '.' :: rest => (false, some (leadingNumber rest).1, (leadingNumber rest).2)
    | rest => (false, none, rest)
  match afterPrecision with
  | [] => (.wrong "missing format character".toList, [])
  | c :: rest =>
    if "bcsdiouxXaAeEfFgG".toList.contains c then
      (.argument c { layout with width, precision } takesWidth takesPrecision, rest)
    else
      let length := s.length - rest.length
      (.wrong ('%' :: s.take length ++ ": invalid directive".toList), [])

/-- The directives of a format, of so many characters at most. -/
def directives : Nat → List Char → List Directive
  | 0, _ => []
  | _, [] => []
  | n + 1, '\\' :: rest =>
    let (c, after) := escape rest
    .char c :: directives n after
  | n + 1, '%' :: '%' :: rest => .char '%' :: directives n rest
  | n + 1, '%' :: rest =>
    let (first, after) := directive rest
    first :: directives n after
  | n + 1, c :: rest => .char c :: directives n rest

def Layout.place (layout : Layout) (s : List Char) : List Char :=
  let fill := List.replicate (layout.width - s.length) ' '
  if layout.left then s ++ fill else fill ++ s

/-- A number in its field, by its sign and its digits. -/
def Layout.placeNumber (layout : Layout) (sign digits : List Char) : List Char :=
  let atLeast := layout.precision.getD 1
  let digits := if atLeast = 0 && digits = ['0'] then [] else digits
  let digits := List.replicate (atLeast - digits.length) '0' ++ digits
  if layout.zeros && !layout.left && layout.precision.isNone then
    sign ++ List.replicate (layout.width - sign.length - digits.length) '0' ++ digits
  else layout.place (sign ++ digits)

def Layout.signOf (layout : Layout) (negative : Bool) : List Char :=
  if negative then ['-'] else if layout.sign then ['+'] else if layout.blank then [' '] else []

def Layout.number (layout : Layout) (conversion : Char) (n : Int) : List Char :=
  let bits := Arithmetic.bits n
  match conversion with
  | 'o' =>
    let digits := Nat.toDigits 8 bits
    -- with its base shown a zero is never left out
    let layout :=
      if layout.base && bits = 0 then { layout with precision := layout.precision.map (max 1) }
      else layout
    layout.placeNumber [] (if layout.base && digits ≠ ['0'] then '0' :: digits else digits)
  | 'u' => layout.placeNumber [] (Nat.toDigits 10 bits)
  | 'x' =>
    layout.placeNumber (if layout.base && bits ≠ 0 then ['0', 'x'] else []) (Nat.toDigits 16 bits)
  | 'X' =>
    layout.placeNumber (if layout.base && bits ≠ 0 then ['0', 'X'] else [])
      ((Nat.toDigits 16 bits).map Char.toUpper)
  | _ =>
    layout.placeNumber (layout.signOf (n < 0)) (Nat.toDigits 10 n.natAbs)

/-- The digits of a number with a point, and the exponent behind a letter if one
is given with the least number of its digits. -/
def Layout.digits (layout : Layout) (digits : Digits) (exponent : Option (Char × Nat)) :
    List Char :=
  let point := if layout.base || digits.fraction ≠ [] then ['.'] else []
  let power : List Char :=
    match exponent with
    | some (letter, least) =>
      let text := Nat.toDigits 10 digits.exponent.natAbs
      [letter, if digits.exponent < 0 then '-' else '+'] ++
        List.replicate (least - text.length) '0' ++ text
    | none => []
  digits.whole ++ point ++ digits.fraction ++ power

/-- What stands in front of the digits of a number that has a point, and the
digits. -/
def Layout.magnitude (layout : Layout) (conversion : Char) (x : Binary64) : List Char × List Char :=
  let places := layout.precision.getD 6
  match conversion with
  | 'a' => (['0', 'x'], layout.digits (x.hexadecimal layout.precision) (some ('p', 1)))
  | 'e' => ([], layout.digits (x.scientific places) (some ('e', 2)))
  | 'g' =>
    let (digits, hasExponent) := x.significant (max places 1)
    let digits := if layout.base then digits else digits.trimmed
    ([], layout.digits digits (if hasExponent then some ('e', 2) else none))
  | _ => ([], layout.digits (x.fixed places) none)

/-- A number with a point in its field. Zeros do not fill that of one that is
not finite. -/
def Layout.fraction (layout : Layout) (conversion : Char) (n : Fraction) : List Char :=
  let sign := layout.signOf n.negative
  let text : List Char :=
    match n.size with
    | .finite x =>
      let (start, digits) := layout.magnitude conversion.toLower x
      let start := sign ++ start
      if layout.zeros && !layout.left then
        start ++ List.replicate (layout.width - start.length - digits.length) '0' ++ digits
      else layout.place (start ++ digits)
    | .infinite _ => layout.place (sign ++ "inf".toList)
    | .notANumber => layout.place (sign ++ "nan".toList)
  if conversion.isUpper then text.map Char.toUpper else text

/-- What has been written, what could not be read, the arguments left, and what
ended the output, if it has ended. -/
structure Printed where
  output : List Char := []
  complaints : List (List Char) := []
  args : List (List Char) := []
  goesOn : Bool := true
  fault : Option (List Char) := none

/-- Takes the next argument. Where there is none it is empty. -/
def Printed.next (printed : Printed) : List Char × Printed :=
  (printed.args.headD [], { printed with args := printed.args.tail })

def Printed.complain (printed : Printed) (arg : List Char) (message : String) : Printed :=
  { printed with complaints := printed.complaints ++ [arg ++ ": ".toList ++ message.toList] }

/-- The number of the byte behind a quote, if an argument starts with one. -/
def quotedByte? (arg : List Char) : Option Nat :=
  match arg with
  | '\x27' :: rest | '\x22' :: rest => some (rest.headD '\x00').toNat
  | _ => none

/-- What is wrong with an argument that does not start with a number. -/
def notNumeric : String := "expected numeric value"

/-- What is wrong with an argument that goes on behind a number. -/
def notConverted : String := "not completely converted"

/-- What is wrong with a number that is none of those that are asked for. -/
def outOfRange : String := "Numerical result out of range"

/-- Takes the next argument as a number of 64 bits, with a sign of its own or
without. A quote in front makes it the number of the byte behind. -/
def Printed.nextNumber (printed : Printed) (signed : Bool) : Int × Printed :=
  let (arg, printed) := printed.next
  match arg, quotedByte? arg with
  | [], _ => (0, printed)
  | _, some n => (n, printed)
  | arg, none =>
    let s := arg.dropWhile fun c => c = ' ' || (9 ≤ c.toNat && c.toNat ≤ 13)
    let (negative, s) := Wide.cutSign s
    if !(s.head?.any Char.isDigit) then (0, printed.complain arg notNumeric)
    else
      let (n, rest) := Arithmetic.magnitude s
      let value : Int := if negative then -n else n
      let (least, most) :=
        if signed then (-Int.pow 2 63, Int.pow 2 63 - 1)
        else (-(Int.pow 2 64 - 1), Int.pow 2 64 - 1)
      let isWithin := least ≤ value && value ≤ most
      let kept := if isWithin then value else if value < least && signed then least else most
      if rest ≠ [] then (kept, printed.complain arg notConverted)
      else if isWithin then (kept, printed)
      else (kept, printed.complain arg outOfRange)

/-- Takes the next argument as a number with a point. A quote in front makes it
the number of the byte behind. -/
def Printed.nextFraction (printed : Printed) : Fraction × Printed :=
  let (arg, printed) := printed.next
  match arg, quotedByte? arg, Fraction.read? arg with
  | [], _, _ => (.ofNat 0, printed)
  | _, some n, _ => (.ofNat n, printed)
  | arg, none, none => (.ofNat 0, printed.complain arg notNumeric)
  | arg, none, some read =>
    if read.rest ≠ [] then (read.value, printed.complain arg notConverted)
    else if read.isOutOfRange then (read.value, printed.complain arg outOfRange)
    else (read.value, printed)

def Printed.add (printed : Printed) (directive : Directive) : Printed :=
  if !printed.goesOn || printed.fault.isSome then printed
  else
    match directive with
    | .char c => { printed with output := printed.output ++ [c] }
    | .wrong message => { printed with fault := some message }
    | .argument conversion layout takesWidth takesPrecision =>
      let (layout, printed) :=
        if takesWidth then
          let (n, printed) := printed.nextNumber true
          ({ layout with width := n.natAbs, left := layout.left || n < 0 }, printed)
        else (layout, printed)
      let (layout, printed) :=
        if takesPrecision then
          let (n, printed) := printed.nextNumber true
          ({ layout with precision := if n < 0 then none else some n.natAbs }, printed)
        else (layout, printed)
      let cut (s : List Char) : List Char := (layout.precision.map s.take).getD s
      match conversion with
      | 's' =>
        let (arg, printed) := printed.next
        { printed with output := printed.output ++ layout.place (cut arg) }
      | 'c' =>
        let (arg, printed) := printed.next
        { printed with output := printed.output ++ layout.place [arg.headD '\x00'] }
      | 'b' =>
        let (arg, printed) := printed.next
        let (text, goesOn) := unescape arg.length arg
        { printed with output := printed.output ++ layout.place (cut text), goesOn }
      | conversion =>
        if "aAeEfFgG".toList.contains conversion then
          let (n, printed) := printed.nextFraction
          { printed with output := printed.output ++ layout.fraction conversion n }
        else
          let (n, printed) := printed.nextNumber (conversion = 'd' || conversion = 'i')
          { printed with output := printed.output ++ layout.number conversion n }

/-- Writes by the directives until no argument is left, so many times at most. -/
def Printed.addAll (directives : List Directive) : Nat → Printed → Printed
  | 0, printed => printed
  | n + 1, printed =>
    let after := directives.foldl Printed.add printed
    if !after.goesOn || after.fault.isSome || after.args = [] ||
        after.args.length = printed.args.length then after
    else Printed.addAll directives n after

def printf (format : List Char) (args : List (List Char)) : Printed :=
  Printed.addAll (directives format.length format) (args.length + 1) { args }

end SchemaLoom.Shell
