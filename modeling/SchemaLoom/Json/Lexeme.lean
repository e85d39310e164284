import SchemaLoom.Json.Fault

/-!
# The lexemes of JSON

Each function reads a lexeme from the front of a text and gives what it read
together with the rest. Below every function stands how the length of the rest
compares with the text, since that is what brings reading to an end. Blanks are
the space, the tab, the line feed and the carriage return only.

Numbers are read as their parts first and turned into values afterwards, so that
a number that is too large is told from one that is written wrong.
-/

namespace SchemaLoom.Json

abbrev Reading (α : Type) := Except Fault (α × List Char)

/-- Space, tab, line feed and carriage return; no other character is blank in JSON. -/
def isSpace (c : Char) : Bool := c = ' ' || c = '\n' || c = '\t' || c = '\r'

def skipSpace (s : List Char) : List Char := s.dropWhile isSpace

theorem length_skipSpace_le (s : List Char) : (skipSpace s).length ≤ s.length :=
  (List.dropWhile_sublist isSpace).length_le

theorem length_lt_of_skipSpace {s rest : List Char} {c : Char} (h : skipSpace s = c :: rest) :
    rest.length < s.length := by
  have hs := length_skipSpace_le s
  rw [h, List.length_cons] at hs
  omega

/-- The rest after a word that must stand at the front. A wrong byte counts as
read. -/
def literal : List Char → List Char → Except Fault (List Char)
  | [], s => .ok s
  | _ :: _, [] => .error (.here .endInValue [])
  | w :: word, c :: rest =>
    if w = c then literal word rest else .error (.ahead .expectedIdent (c :: rest))

theorem length_literal_le {word s rest : List Char} (h : literal word s = .ok rest) :
    rest.length ≤ s.length := by
  fun_induction literal word s with
  | case1 => simp_all
  | case2 => simp at h
  | case3 w c more ih => exact Nat.le_succ_of_le (ih h)
  | case4 => simp at h

theorem length_word_lt {letters : String} {s rest after : List Char}
    (h : literal letters.toList rest = .ok after) (hr : rest.length < s.length) :
    after.length < s.length :=
  Nat.lt_of_le_of_lt (length_literal_le h) hr

/-- The text of a number, taken apart: whether a minus stands in front, the
digits before and after the point, and the exponent with its sign. A point or an
exponent without digits is at fault, so what is there has digits. -/
structure NumberText where
  negative : Bool
  whole : List Char
  fraction : Option (List Char)
  exponent : Option (Bool × List Char)
  deriving Repr

def digits (s : List Char) : List Char := s.takeWhile Char.isDigit

def afterDigits (s : List Char) : List Char := s.dropWhile Char.isDigit

theorem length_afterDigits_le (s : List Char) : (afterDigits s).length ≤ s.length :=
  (List.dropWhile_sublist Char.isDigit).length_le

/-- The digits after a point, if a point comes next. `atEnd` is the fault of a
text that ends where a digit must stand. -/
def fractionText (atEnd : Reason) : List Char → Reading (Option (List Char))
  | '.' :: rest =>
    match rest with
    | [] => .error (.ahead atEnd [])
    | c :: more =>
      if c.isDigit then .ok (some (digits (c :: more)), afterDigits (c :: more))
      else .error (.ahead .invalidNumber (c :: more))
  | s => .ok (none, s)

theorem length_fractionText_le {atEnd : Reason} {s rest : List Char} {f : Option (List Char)}
    (h : fractionText atEnd s = .ok (f, rest)) : rest.length ≤ s.length := by
  fun_cases fractionText atEnd s with
  | case1 => simp [fractionText] at h
  | case2 c more hc =>
    simp only [fractionText, hc, if_true, Except.ok.injEq, Prod.mk.injEq] at h
    have := length_afterDigits_le (c :: more)
    simp only [← h.2, List.length_cons] at this ⊢
    omega
  | case3 c more hc => simp [fractionText, hc] at h
  | case4 s hs =>
    have h' : fractionText atEnd s = .ok (none, s) := by
      unfold fractionText
      split
      · exact absurd rfl (hs _)
      · rfl
    rw [h'] at h
    simp_all

def sign : List Char → Bool × List Char
  | '-' :: rest => (true, rest)
  | '+' :: rest => (false, rest)
  | s => (false, s)

theorem length_sign_le (s : List Char) : (sign s).2.length ≤ s.length := by
  unfold sign
  split <;> simp

/-- The exponent, if a letter opens one. Its sign may be left out. -/
def exponentText (atEnd : Reason) : List Char → Reading (Option (Bool × List Char))
  | [] => .ok (none, [])
  | e :: rest =>
    if e = 'e' || e = 'E' then
      match (sign rest).2 with
      | [] => .error (.here atEnd [])
      | c :: more =>
        if c.isDigit then
          .ok (some ((sign rest).1, digits (c :: more)), afterDigits (c :: more))
        else .error (.ahead .invalidNumber (c :: more))
    else .ok (none, e :: rest)

theorem length_exponentText_le {atEnd : Reason} {s rest : List Char}
    {e : Option (Bool × List Char)} (h : exponentText atEnd s = .ok (e, rest)) :
    rest.length ≤ s.length := by
  cases s with
  | nil => simp_all [exponentText]
  | cons c more =>
    have hs := length_sign_le more
    simp only [exponentText] at h
    split at h
    · split at h
      · simp at h
      · next d after hd =>
        split at h
        · have := length_afterDigits_le (d :: after)
          simp only [Except.ok.injEq, Prod.mk.injEq] at h
          rw [hd] at hs
          simp only [← h.2, List.length_cons] at this hs ⊢
          omega
        · simp at h
    · simp_all

/-- A number with an optional minus. One zero may not open more digits. -/
def numberText (atEnd : Reason) (s : List Char) : Reading NumberText :=
  let negative := s.head? = some '-'
  match if negative then s.tail else s with
  | [] => .error (.here atEnd [])
  | c :: rest =>
    if !c.isDigit then .error (.ahead .invalidNumber (c :: rest))
    else if c = '0' && digits rest ≠ [] then .error (.ahead .invalidNumber rest)
    else
      match fractionText atEnd (afterDigits rest) with
      | .error fault => .error fault
      | .ok (fraction, rest') =>
        match exponentText atEnd rest' with
        | .error fault => .error fault
        | .ok (exponent, rest'') =>
          .ok (⟨negative, c :: digits rest, fraction, exponent⟩, rest'')

theorem length_numberText_lt {atEnd : Reason} {s rest : List Char} {n : NumberText}
    (h : numberText atEnd s = .ok (n, rest)) : rest.length < s.length := by
  simp only [numberText] at h
  split at h
  · simp at h
  · next c more hc =>
    have hs : (c :: more).length ≤ s.length := by
      rw [← hc]
      split
      · simp
      · exact Nat.le_refl _
    split at h
    · simp at h
    · split at h
      · simp at h
      · split at h
        · simp at h
        · next hf =>
          split at h
          · simp at h
          · next he =>
            have h1 := length_fractionText_le hf
            have h2 := length_exponentText_le he
            have h3 := length_afterDigits_le more
            simp only [Except.ok.injEq, Prod.mk.injEq] at h
            simp only [← h.2, List.length_cons] at hs ⊢
            omega

def digitsValue (ds : List Char) : Nat :=
  ds.foldl (fun n c => 10 * n + (c.toNat - '0'.toNat)) 0

/-- Appends digits to a significand as long as it stays below 2^64; the number
of digits from the first one that does not fit comes with it. -/
def absorb (significand : Nat) : List Char → Nat × Nat
  | [] => (significand, 0)
  | c :: rest =>
    let next := 10 * significand + (c.toNat - '0'.toNat)
    if next < Nat.pow 2 64 then absorb next rest else (significand, rest.length + 1)

/-- How many digits it takes for an exponent to leave 31 bits, if it does. -/
def exponentOverflow (value count : Nat) : List Char → Option Nat
  | [] => none
  | c :: rest =>
    let value := 10 * value + (c.toNat - '0'.toNat)
    if Nat.pow 2 31 ≤ value then some (count + 1) else exponentOverflow value (count + 1) rest

namespace NumberText

/-- The significand of at most 64 bits and the power of ten that come of the
digits before the exponent. Digits that do not fit scale the number if they
stand before the point, and are dropped after it. -/
def mantissa (n : NumberText) : Nat × Int :=
  let (whole, extra) := absorb 0 n.whole
  let fraction := n.fraction.getD []
  let (significand, dropped) := absorb whole fraction
  (significand, (extra : Int) - ((fraction.length : Int) - dropped))

/-- The nearest binary64 with the sign of the text. An exponent of more than 31
bits gives zero if it is negative or the significand is zero. -/
def binary? (n : NumberText) : Option Binary64 :=
  let (significand, power) := n.mantissa
  match n.exponent with
  | none => Binary64.scaled? n.negative significand power
  | some (negative, ds) =>
    if (exponentOverflow 0 0 ds).isSome then
      if significand ≠ 0 && !negative then none else some (Binary64.zero n.negative)
    else
      let written : Int := digitsValue ds
      Binary64.scaled? n.negative significand
        (if negative then power - written else power + written)

/-- An integer if it is written as one and fits into 64 bits, else a binary64.
Zero with a minus is no integer. -/
def value? (n : NumberText) : Option Number :=
  let magnitude := digitsValue n.whole
  let fits :=
    if n.negative then 0 < magnitude && magnitude ≤ Nat.pow 2 63 else magnitude < Nat.pow 2 64
  if n.fraction.isNone && n.exponent.isNone && fits then
    some (.integer (if n.negative then -magnitude else magnitude))
  else n.binary?.map .binary

/-- The number, or the fault at its end; an exponent that leaves 31 bits is at
fault itself. -/
def value (n : NumberText) (rest : List Char) : Except Fault Number :=
  match n.value? with
  | some value => .ok value
  | none =>
    let unread := match n.exponent with
      | some (_, ds) => ((exponentOverflow 0 0 ds).map (ds.length - ·)).getD 0
      | none => 0
    .error ⟨.numberOutOfRange, unread + Text.Utf8.byteCount rest, []⟩

end NumberText

def hexValue? (c : Char) : Option Nat :=
  if '0' ≤ c ∧ c ≤ '9' then some (c.toNat - '0'.toNat)
  else if 'a' ≤ c ∧ c ≤ 'f' then some (c.toNat - 'a'.toNat + 10)
  else if 'A' ≤ c ∧ c ≤ 'F' then some (c.toNat - 'A'.toNat + 10)
  else none

/-- Four hexadecimal digits. Four bytes are read before they are looked at. -/
def hexEscape (s : List Char) : Reading Nat :=
  let fault : Fault :=
    if Text.Utf8.byteCount s < 4 then .here .endInString []
    else ⟨.invalidEscape, Text.Utf8.byteCount s - 4, []⟩
  match s with
  | a :: b :: c :: d :: rest =>
    match hexValue? a, hexValue? b, hexValue? c, hexValue? d with
    | some a, some b, some c, some d => .ok (((a * 16 + b) * 16 + c) * 16 + d, rest)
    | _, _, _, _ => .error fault
  | _ => .error fault

theorem length_hexEscape_lt {s rest : List Char} {n : Nat} (h : hexEscape s = .ok (n, rest)) :
    rest.length < s.length := by
  simp only [hexEscape] at h
  split at h
  · split at h
    · simp only [Except.ok.injEq, Prod.mk.injEq] at h
      simp only [← h.2, List.length_cons]
      omega
    · simp at h
  · simp at h

/-- The second half of a surrogate pair, which must follow the first at once. -/
def lowSurrogate (s : List Char) : Reading Nat :=
  match s with
  | '\\' :: 'u' :: rest =>
    match hexEscape rest with
    | .error fault => .error fault
    | .ok (low, rest') =>
      if 0xDC00 ≤ low ∧ low ≤ 0xDFFF then .ok (low, rest') else .error (.here .loneSurrogate rest')
  | '\\' :: rest =>
    if rest = [] then .error (.here .endInString []) else .error (.ahead .endOfHexEscape rest)
  | [] => .error (.here .endInString [])
  | s => .error (.ahead .endOfHexEscape s)

theorem length_lowSurrogate_lt {s rest : List Char} {n : Nat}
    (h : lowSurrogate s = .ok (n, rest)) : rest.length < s.length := by
  simp only [lowSurrogate] at h
  split at h
  · split at h
    · simp at h
    · next hx =>
      split at h
      · have := length_hexEscape_lt hx
        simp only [Except.ok.injEq, Prod.mk.injEq] at h
        simp only [← h.2, List.length_cons]
        omega
      · simp at h
  · split at h <;> simp at h
  · simp at h
  · simp at h

/-- The character after `\u`: one escape, or two that make up a surrogate pair. -/
def unicodeEscape (s : List Char) : Reading Char :=
  match hexEscape s with
  | .error fault => .error fault
  | .ok (n, rest) =>
    if 0xDC00 ≤ n ∧ n ≤ 0xDFFF then .error (.here .loneSurrogate rest)
    else if 0xD800 ≤ n ∧ n ≤ 0xDBFF then
      match lowSurrogate rest with
      | .error fault => .error fault
      | .ok (low, rest') =>
        .ok (Char.ofNat (0x10000 + (n - 0xD800) * 0x400 + (low - 0xDC00)), rest')
    else .ok (Char.ofNat n, rest)

theorem length_unicodeEscape_lt {s rest : List Char} {c : Char}
    (h : unicodeEscape s = .ok (c, rest)) : rest.length < s.length := by
  simp only [unicodeEscape] at h
  split at h
  · simp at h
  · next hx =>
    have hlt := length_hexEscape_lt hx
    split at h
    · simp at h
    · split at h
      · split at h
        · simp at h
        · next hl =>
          have := length_lowSurrogate_lt hl
          simp only [Except.ok.injEq, Prod.mk.injEq] at h
          simp only [← h.2]
          omega
      · simp only [Except.ok.injEq, Prod.mk.injEq] at h
        simpa only [← h.2] using hlt

def simpleEscape? (c : Char) : Option Char :=
  if c = '\x22' then some '\x22'
  else if c = '\\' then some '\\'
  else if c = '/' then some '/'
  else if c = 'b' then some '\x08'
  else if c = 'f' then some '\x0c'
  else if c = 'n' then some '\n'
  else if c = 'r' then some '\r'
  else if c = 't' then some '\t'
  else none

def escape : List Char → Reading Char
  | [] => .error (.here .endInString [])
  | c :: rest =>
    if c = 'u' then unicodeEscape rest
    else
      match simpleEscape? c with
      | some d => .ok (d, rest)
      | none => .error (.ahead .invalidEscape (c :: rest))

theorem length_escape_lt {s rest : List Char} {c : Char} (h : escape s = .ok (c, rest)) :
    rest.length < s.length := by
  cases s with
  | nil => simp [escape] at h
  | cons d more =>
    simp only [escape] at h
    split at h
    · exact Nat.lt_succ_of_lt (length_unicodeEscape_lt h)
    · split at h
      · simp_all
      · simp at h

/-- The characters of a string up to its closing quote, which is read too. The
rest is strictly shorter, and this is what the readers of arrays and objects
recurse on. -/
def stringBody (s : List Char) : Reading (List Char) :=
  match s with
  | [] => .error (.here .endInString [])
  | c :: rest =>
    if c = '\x22' then .ok ([], rest)
    else if c = '\\' then
      match h : escape rest with
      | .error fault => .error fault
      | .ok (d, rest') =>
        have := length_escape_lt h
        (stringBody rest').map fun p => (d :: p.1, p.2)
    else if c.toNat < 0x20 then .error (.ahead .controlInString (c :: rest))
    else (stringBody rest).map fun p => (c :: p.1, p.2)
termination_by s.length

theorem exists_of_map_cons {c : Char} {r : Reading (List Char)} {t rest : List Char}
    (h : r.map (fun p => (c :: p.1, p.2)) = .ok (t, rest)) : ∃ u, r = .ok (u, rest) := by
  cases r with
  | error fault => simp [Except.map] at h
  | ok p =>
    simp only [Except.map, Except.ok.injEq, Prod.mk.injEq] at h
    exact ⟨p.1, by rw [← h.2]⟩

theorem length_stringBody_lt {s rest t : List Char} (h : stringBody s = .ok (t, rest)) :
    rest.length < s.length := by
  fun_induction stringBody s generalizing t with
  | case1 => simp at h
  | case2 => simp_all
  | case3 => simp at h
  | case4 more d after he hlt hq ih =>
    obtain ⟨u, hu⟩ := exists_of_map_cons h
    have := ih hu
    simp only [List.length_cons]
    omega
  | case5 => simp at h
  | case6 c more hq hb hc ih =>
    obtain ⟨u, hu⟩ := exists_of_map_cons h
    exact Nat.lt_succ_of_lt (ih hu)

end SchemaLoom.Json
