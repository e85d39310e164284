/-!
# Blank characters and trimming

The blank characters are those with the Unicode property White_Space. Trimming
removes runs of them at the ends of a text and never touches what stands between
two other characters.
-/

namespace SchemaLoom.Text

/-- Exactly the characters with the Unicode property White_Space. The core
library knows the four of them in ASCII that are not a vertical tab or a form
feed. -/
def isBlank (c : Char) : Bool :=
  let n := c.toNat
  (9 ≤ n && n ≤ 13) || n == 0x20 || n == 0x85 || n == 0xA0 || n == 0x1680 ||
    (0x2000 ≤ n && n ≤ 0x200A) || n == 0x2028 || n == 0x2029 || n == 0x202F ||
    n == 0x205F || n == 0x3000

def trimStart (s : List Char) : List Char := s.dropWhile isBlank

def trimEnd (s : List Char) : List Char := (s.reverse.dropWhile isBlank).reverse

def trim (s : List Char) : List Char := trimEnd (trimStart s)

def trimString (s : String) : String := String.ofList (trim s.toList)

/-- Each way to cut at least one leading blank off. A single run of blanks may
be cut anywhere, which is how a pattern with a blank on either side of a gap can
be matched. -/
def afterBlanks : List Char → List (List Char)
  | [] => []
  | c :: rest => if isBlank c then rest :: afterBlanks rest else []

@[simp] theorem trimStart_nil : trimStart [] = [] := rfl

@[simp] theorem trimEnd_nil : trimEnd [] = [] := rfl

theorem trimStart_cons_blank {c : Char} {s : List Char} (h : isBlank c = true) :
    trimStart (c :: s) = trimStart s := by
  simp [trimStart, h]

theorem trimStart_cons_ink {c : Char} {s : List Char} (h : isBlank c = false) :
    trimStart (c :: s) = c :: s := by
  simp [trimStart, h]

end SchemaLoom.Text
