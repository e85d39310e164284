/-!
# Arithmetic of a shell

An expression has whole numbers of 64 bits with their sign, which wrap around,
variables, and the operators of C, those that count a variable up or down left
out. Where a text stops being an expression a fault takes the place of what is
missing: all that comes before it is evaluated first.

These are the expressions of arithmetic expansion in the POSIX shell command
language, which asks for the operators of C on signed whole numbers and leaves
counting up and down to the shell. The messages of faults are those of a shell
that has none of its additions.
-/

namespace SchemaLoom.Shell

namespace Arithmetic

inductive Operator where
  | times | over | modulo | plus | minus | shiftLeft | shiftRight
  | less | lessEqual | greater | greaterEqual | equal | unequal
  | bitAnd | bitXor | bitOr
  deriving DecidableEq, Repr

/-- An expression, down to names and numbers. Where something is missing, or
missing behind an expression that is whole, the message of the fault stands in
its place, so that what comes first is evaluated before the fault is met. -/
inductive Expr where
  | number (n : Int)
  | valueOf (name : List Char)
  | negative (e : Expr)
  | not (e : Expr)
  | complement (e : Expr)
  | binary (op : Operator) (left right : Expr)
  | both (left right : Expr)
  | either (left right : Expr)
  | conditional (test yes no : Expr)
  | assign (name : List Char) (op : Option Operator) (value : Expr)
  | fault (message : String)
  | faulty (e : Expr) (message : String)
  deriving Repr

inductive Token where
  | number (n : Int)
  | name (s : List Char)
  | symbol (s : String)
  deriving DecidableEq, Repr

/-- The symbols of expressions, those that others start with last. -/
def symbols : List String :=
  ["<<=", ">>=", "&&", "||", "==", "!=", "<=", ">=", "<<", ">>", "+=", "-=", "*=", "/=", "%=", "&=",
    "|=", "^=", "+", "-", "*", "/", "%", "<", ">", "=", "!", "~", "&", "|", "^", "?", ":", "(", ")"]

def wrap (n : Int) : Int := n.bmod (Nat.pow 2 64)

def greatest : Int := Int.pow 2 63 - 1

def digit? (base : Nat) (c : Char) : Option Nat :=
  let value? : Option Nat :=
    if c.isDigit then some (c.toNat - '0'.toNat)
    else if 'a' ≤ c && c ≤ 'f' then some (c.toNat - 'a'.toNat + 10)
    else if 'A' ≤ c && c ≤ 'F' then some (c.toNat - 'A'.toNat + 10)
    else none
  value?.filter (· < base)

/-- The number that digits of a base write, and the rest. -/
def digits (base : Nat) (s : List Char) : Nat × List Char :=
  let taken := s.takeWhile fun c => (digit? base c).isSome
  (taken.foldl (fun n c => base * n + (digit? base c).getD 0) 0, s.drop taken.length)

/-- A number without a sign, in base sixteen behind `0x` and in base eight
behind another zero, and the rest. -/
def magnitude (s : List Char) : Nat × List Char :=
  match s with
  | '0' :: 'x' :: c :: rest =>
    if (digit? 16 c).isSome then digits 16 (c :: rest) else (0, 'x' :: c :: rest)
  | '0' :: 'X' :: c :: rest =>
    if (digit? 16 c).isSome then digits 16 (c :: rest) else (0, 'X' :: c :: rest)
  | '0' :: rest => digits 8 ('0' :: rest)
  | s => digits 10 s

/-- The same number, where one that is too great is the greatest. -/
def number (s : List Char) : Int × List Char :=
  let (n, rest) := magnitude s
  (min n greatest, rest)

/-- The symbol that a text starts with, and the rest. -/
def symbol? (s : List Char) : Option (String × List Char) :=
  (symbols.find? fun symbol => symbol.toList.isPrefixOf s).map fun symbol =>
    (symbol, s.drop symbol.length)

/-- The tokens of a text, up to a character that belongs to none; so many
characters at most. -/
def tokens : Nat → List Char → List Token
  | 0, _ => []
  | _, [] => []
  | n + 1, c :: rest =>
    if c = ' ' || c = '\t' || c = '\n' then tokens n rest
    else if c.isDigit then
      let (value, after) := number (c :: rest)
      .number value :: tokens n after
    else if c.isAlpha || c = '_' then
      let isNameChar (c : Char) : Bool := c.isAlphanum || c = '_'
      .name ((c :: rest).takeWhile isNameChar) :: tokens n ((c :: rest).dropWhile isNameChar)
    else
      match symbol? (c :: rest) with
      | some (symbol, after) => .symbol symbol :: tokens n after
      | none => [.symbol (String.singleton c)]

/-- The operators between two values by how tightly they bind, the loosest first. -/
def levels : List (List (String × Operator)) :=
  [[("|", .bitOr)], [("^", .bitXor)], [("&", .bitAnd)], [("==", .equal), ("!=", .unequal)],
    [("<", .less), ("<=", .lessEqual), (">", .greater), (">=", .greaterEqual)],
    [("<<", .shiftLeft), (">>", .shiftRight)], [("+", .plus), ("-", .minus)],
    [("*", .times), ("/", .over), ("%", .modulo)]]

/-- The operator of an assignment; the plain one has none. -/
def assignment? (symbol : String) : Option (Option Operator) :=
  match symbol with
  | "=" => some none
  | "+=" => some (some .plus)
  | "-=" => some (some .minus)
  | "*=" => some (some .times)
  | "/=" => some (some .over)
  | "%=" => some (some .modulo)
  | "<<=" => some (some .shiftLeft)
  | ">>=" => some (some .shiftRight)
  | "&=" => some (some .bitAnd)
  | "^=" => some (some .bitXor)
  | "|=" => some (some .bitOr)
  | _ => none

def noPrimary : String := "expecting primary"

mutual

/-- A name, a number, an expression in parentheses, or one of them behind signs;
and what follows it. -/
def primary : Nat → List Token → Expr × List Token
  | 0, _ => (.fault noPrimary, [])
  | n + 1, tokens =>
    match tokens with
    | .number value :: rest => (.number value, rest)
    | .name name :: rest => (.valueOf name, rest)
    | .symbol "(" :: rest =>
      match expression n rest with
      | (e, .symbol ")" :: rest) => (e, rest)
      | (e, _) => (.faulty e "expecting ')'", [])
    | .symbol "-" :: rest =>
      let (e, rest) := primary n rest
      (.negative e, rest)
    | .symbol "+" :: rest => primary n rest
    | .symbol "!" :: rest =>
      let (e, rest) := primary n rest
      (.not e, rest)
    | .symbol "~" :: rest =>
      let (e, rest) := primary n rest
      (.complement e, rest)
    | _ => (.fault noPrimary, [])
termination_by structural n => n

/-- An expression of operators that bind at least as tightly as those of the
levels. -/
def level : Nat → List (List (String × Operator)) → List Token → Expr × List Token
  | 0, _, _ => (.fault noPrimary, [])
  | n + 1, [], tokens => primary n tokens
  | n + 1, operators :: tighter, tokens =>
    let (first, rest) := level n tighter tokens
    levelRest n operators tighter first rest
termination_by structural n => n

/-- The operators of one level behind an expression, and what they join to it. -/
def levelRest : Nat → List (String × Operator) → List (List (String × Operator)) → Expr →
    List Token → Expr × List Token
  | 0, _, _, first, _ => (.faulty first noPrimary, [])
  | n + 1, operators, tighter, first, tokens =>
    match tokens with
    | .symbol symbol :: rest =>
      match operators.lookup symbol with
      | some op =>
        let (second, rest) := level n tighter rest
        levelRest n operators tighter (.binary op first second) rest
      | none => (first, tokens)
    | _ => (first, tokens)
termination_by structural n => n

def conjunction : Nat → List Token → Expr × List Token
  | 0, _ => (.fault noPrimary, [])
  | n + 1, tokens =>
    let (first, rest) := level n levels tokens
    match rest with
    | .symbol "&&" :: rest =>
      let (second, rest) := conjunction n rest
      (.both first second, rest)
    | rest => (first, rest)
termination_by structural n => n

def disjunction : Nat → List Token → Expr × List Token
  | 0, _ => (.fault noPrimary, [])
  | n + 1, tokens =>
    let (first, rest) := conjunction n tokens
    match rest with
    | .symbol "||" :: rest =>
      let (second, rest) := disjunction n rest
      (.either first second, rest)
    | rest => (first, rest)
termination_by structural n => n

def choice : Nat → List Token → Expr × List Token
  | 0, _ => (.fault noPrimary, [])
  | n + 1, tokens =>
    let (test, rest) := disjunction n tokens
    match rest with
    | .symbol "?" :: rest =>
      match expression n rest with
      | (yes, .symbol ":" :: rest) =>
        let (no, rest) := choice n rest
        (.conditional test yes no, rest)
      | (yes, _) => (.conditional test yes (.fault "expecting ':'"), [])
    | rest => (test, rest)
termination_by structural n => n

def expression : Nat → List Token → Expr × List Token
  | 0, _ => (.fault noPrimary, [])
  | n + 1, tokens =>
    match tokens with
    | .name name :: .symbol symbol :: rest =>
      match assignment? symbol with
      | some op =>
        let (value, rest) := expression n rest
        (.assign name op value, rest)
      | none => choice n tokens
    | tokens => choice n tokens
termination_by structural n => n

end

/-- The expression that a text is, with faults where it is none. -/
def parse (text : List Char) : Expr :=
  let tokens := tokens text.length text
  match expression (16 * (tokens.length + 2)) tokens with
  | (e, []) => e
  | (e, _) => .faulty e "expecting EOF"

def ofBool (b : Bool) : Int := if b then 1 else 0

def bits (n : Int) : Nat := (n % Int.pow 2 64).toNat

/-- Whether an operator divides a number by another one in a way that the
machine refuses: the quotient is beyond the greatest number. -/
def Operator.overflows (op : Operator) (a b : Int) : Bool :=
  (op = .over || op = .modulo) && a = -greatest - 1 && b = -1

/-- The value of an operator between two numbers; none if it divides by zero. -/
def Operator.apply (op : Operator) (a b : Int) : Option Int :=
  match op with
  | .times => some (wrap (a * b))
  | .over => if b = 0 then none else some (wrap (Int.tdiv a b))
  | .modulo => if b = 0 then none else some (wrap (Int.tmod a b))
  | .plus => some (wrap (a + b))
  | .minus => some (wrap (a - b))
  | .shiftLeft => some (wrap (a * Int.pow 2 (b % 64).toNat))
  | .shiftRight => some (Int.fdiv a (Int.pow 2 (b % 64).toNat))
  | .less => some (ofBool (a < b))
  | .lessEqual => some (ofBool (a ≤ b))
  | .greater => some (ofBool (a > b))
  | .greaterEqual => some (ofBool (a ≥ b))
  | .equal => some (ofBool (a = b))
  | .unequal => some (ofBool (a ≠ b))
  | .bitAnd => some (wrap (bits a &&& bits b : Nat))
  | .bitXor => some (wrap (bits a ^^^ bits b : Nat))
  | .bitOr => some (wrap (bits a ||| bits b : Nat))

end Arithmetic

/-- The whole number of 64 bits that a text is in base ten, with blanks around it. -/
def decimal? (text : List Char) : Option Int :=
  let isBlank (c : Char) : Bool := c = ' ' || (9 ≤ c.toNat && c.toNat ≤ 13)
  let trimmed := ((text.dropWhile isBlank).reverse.dropWhile isBlank).reverse
  let (negative, digits) :=
    match trimmed with
    | '-' :: digits => (true, digits)
    | '+' :: digits => (false, digits)
    | digits => (false, digits)
  if digits ≠ [] && digits.all Char.isDigit then
    let n := (Arithmetic.digits 10 digits).1
    let value : Int := if negative then -n else n
    if Arithmetic.wrap value = value then some value else none
  else none

/-- The whole number that a text is, in any base that an expression knows; none
if it is none. Blanks may be around it, and a text of blanks is zero. -/
def wholeNumber? (text : List Char) : Option Int :=
  let isBlank (c : Char) : Bool := c = ' ' || (9 ≤ c.toNat && c.toNat ≤ 13)
  let trimmed := ((text.dropWhile isBlank).reverse.dropWhile isBlank).reverse
  let (negative, s) :=
    match trimmed with
    | '-' :: s => (true, s)
    | '+' :: s => (false, s)
    | s => (false, s)
  match s with
  | [] => if trimmed = [] then some 0 else none
  | c :: _ =>
    if c.isDigit then
      match Arithmetic.magnitude s with
      | (n, []) =>
        let value : Int := if negative then -n else n
        if Arithmetic.wrap value = value then some value else none
      | _ => none
    else none

end SchemaLoom.Shell
