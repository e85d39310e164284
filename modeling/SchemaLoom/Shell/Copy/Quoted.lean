import SchemaLoom.Shell.Command
import SchemaLoom.Text.Printable

/-!
# Names in complaints

A complaint writes the name of a file so that a shell reads it back: between
quotes where it needs them, and with escapes for bytes that cannot be printed.
The bytes of one character are taken together.

POSIX leaves the text of complaints to the utility. The quotes are those of the
shell command language, with an escape for a byte written behind a dollar sign
and a quote.
-/

namespace SchemaLoom.Shell.Copy

/-- The bytes of a character, or of what is none, and whether they are those of
a character that can be printed. -/
structure Letter where
  bytes : List Char
  isPrintable : Bool

/-- The characters that bytes make up, each with its bytes. The first `skip`
bytes belong to one that was taken already. -/
def letters : Nat → List Char → List Letter
  | _, [] => []
  | skip + 1, _ :: rest => letters skip rest
  | 0, c :: rest =>
    match Text.Utf8.front (UInt8.ofNat c.toNat) (toBytes rest) with
    | .char d width => ⟨(c :: rest).take width, Text.isPrintable d⟩ :: letters (width - 1) rest
    | .invalid _ => ⟨[c], false⟩ :: letters 0 rest
    | .incomplete => [⟨c :: rest, false⟩]

/-- What a byte that cannot be printed is written as behind a backslash. -/
def escaped (c : Char) : List Char :=
  match c with
  | '\x07' => ['\\', 'a']
  | '\x08' => ['\\', 'b']
  | '\t' => ['\\', 't']
  | '\n' => ['\\', 'n']
  | '\x0b' => ['\\', 'v']
  | '\x0c' => ['\\', 'f']
  | '\x0d' => ['\\', 'r']
  | c =>
    let n := c.toNat
    ['\\'] ++ [n / 64, n / 8 % 8, n % 8].map fun d => Char.ofNat ('0'.toNat + d)

/-- Whether a name with the character in it needs quotes. -/
def Letter.needsQuotes (letter : Letter) : Bool :=
  !letter.isPrintable || letter.bytes.any " !\"$&'()*:;<=>?[\\^\x60|".toList.contains

/-- Whether a name that starts with the character needs quotes, although it may
stand elsewhere. -/
def Letter.needsQuotesFirst (letter : Letter) : Bool := letter.bytes = ['#'] || letter.bytes = ['~']

/-- Whether a character may stand between double quotes as it is. -/
def Letter.isPlain (letter : Letter) : Bool :=
  match letter.bytes with
  | [c] => letter.isPrintable && (c.isAlphanum || " %'+,-./:@]_".toList.contains c)
  | _ => letter.isPrintable

/-- A name between single quotes, which end where a byte cannot be printed or is
a single quote. `escaping` tells whether what was written last is such a byte. -/
def quoteFrom : Bool → List Letter → List Char × Bool
  | escaping, [] => ([], escaping)
  | escaping, letter :: rest =>
    let (start, next) : List Char × Bool :=
      if !letter.isPrintable then
        ((if escaping then [] else "'$'".toList) ++ letter.bytes.flatMap escaped, true)
      else if letter.bytes = ['\x27'] then ("'\\''".toList, false)
      else ((if escaping then "''".toList else []) ++ letter.bytes, false)
    let (more, last) := quoteFrom next rest
    (start ++ more, last)

def quoted (name : List Char) : List Char :=
  let letters := letters 0 name
  let between (escaping : Bool) : List Char :=
    ['\x27'] ++ (quoteFrom escaping letters).1 ++ ['\x27']
  match letters with
  | [] => "''".toList
  | first :: rest =>
    if !(letters.any Letter.needsQuotes || name = ['\x7b'] || name = ['\x7d'] ||
        first.needsQuotesFirst) then name
    else if name.contains '\x27' then
      if (first.isPlain || first.needsQuotesFirst) && rest.all Letter.isPlain then
        ['\x22'] ++ name ++ ['\x22']
      -- a name with a quote in it is gone through twice
      else between (quoteFrom false letters).2
    else between false

end SchemaLoom.Shell.Copy
