import SchemaLoom.Json.Lexeme
import SchemaLoom.Json.Writer

/-!
# Reading written strings

A string may be written in many ways: a character stands as it is, with a letter
behind a backslash, by its number or by those of a surrogate pair. However it is
written, the reader of JSON gives back the string, and the writer uses one of
these ways.

No line feed and no brace comes with the escapes of the writer, so lines and
brackets around a written string are found as if the string were not there, up
to the marks that it holds itself.
-/

namespace SchemaLoom.Json

theorem hexValue?_hexDigit {n : Nat} (h : n < 16) : hexValue? (hexDigit n) = some n := by
  have : ∀ n : Fin 16, hexValue? (hexDigit n) = some n.val := by decide
  exact this ⟨n, h⟩

theorem isAlphanum_hexDigit {n : Nat} (h : n < 16) : (hexDigit n).isAlphanum = true := by
  have : ∀ n : Fin 16, (hexDigit n).isAlphanum = true := by decide
  exact this ⟨n, h⟩

def escapeLetters : List Char := ['\x22', '\\', 'n', 'r', 't', 'b', 'f']

/-- A character of a string is written as it is, with a letter behind a
backslash or as the number of a control. -/
theorem stringChar_cases (c : Char) :
    (stringChar c = [c] ∧ c ≠ '\x22' ∧ c ≠ '\\' ∧ ¬c.toNat < 0x20) ∨
      (∃ letter ∈ escapeLetters, stringChar c = ['\\', letter] ∧ simpleEscape? letter = some c) ∨
      (stringChar c =
        '\\' :: 'u' :: ['0', '0', hexDigit (c.toNat / 16), hexDigit (c.toNat % 16)] ∧
          c.toNat < 0x20) := by
  have hletter : ∀ letter d, c = d → letter ∈ escapeLetters →
      stringChar d = ['\\', letter] → simpleEscape? letter = some d →
      ∃ letter ∈ escapeLetters, stringChar c = ['\\', letter] ∧ simpleEscape? letter = some c :=
    fun letter d hc hmem hchar hescape => ⟨letter, hmem, hc ▸ hchar, hc ▸ hescape⟩
  by_cases hquote : c = '\x22'
  · exact .inr (.inl (hletter _ _ hquote (by decide) rfl rfl))
  by_cases hback : c = '\\'
  · exact .inr (.inl (hletter _ _ hback (by decide) rfl rfl))
  by_cases hn : c = '\n'
  · exact .inr (.inl (hletter _ _ hn (by decide) rfl rfl))
  by_cases hr : c = '\r'
  · exact .inr (.inl (hletter _ _ hr (by decide) rfl rfl))
  by_cases ht : c = '\t'
  · exact .inr (.inl (hletter _ _ ht (by decide) rfl rfl))
  by_cases hb : c = '\x08'
  · exact .inr (.inl (hletter _ _ hb (by decide) rfl rfl))
  by_cases hf : c = '\x0c'
  · exact .inr (.inl (hletter _ _ hf (by decide) rfl rfl))
  by_cases hcontrol : c.toNat < 0x20
  · refine .inr (.inr ⟨?_, hcontrol⟩)
    rw [stringChar, if_neg hquote, if_neg hback, if_neg hn, if_neg hr, if_neg ht, if_neg hb,
      if_neg hf, if_pos hcontrol]
  · refine .inl ⟨?_, hquote, hback, hcontrol⟩
    rw [stringChar, if_neg hquote, if_neg hback, if_neg hn, if_neg hr, if_neg ht, if_neg hb,
      if_neg hf, if_neg hcontrol]

inductive IsCode : List Char → Nat → Prop where
  | digits {a b c d : Char} {w x y z : Nat} (ha : hexValue? a = some w) (hb : hexValue? b = some x)
      (hc : hexValue? c = some y) (hd : hexValue? d = some z) :
      IsCode [a, b, c, d] (((w * 16 + x) * 16 + y) * 16 + z)

/-- What may stand for a character between the quotes of a string: the character
itself, unless it is a quote, a backslash or a control; a letter behind a
backslash; the number of the character; or the two numbers of a surrogate pair. -/
inductive Stands : List Char → Char → Prop where
  | plain {c : Char} (hquote : c ≠ '\x22') (hback : c ≠ '\\') (hcontrol : ¬c.toNat < 0x20) :
      Stands [c] c
  | letter {letter c : Char} (h : simpleEscape? letter = some c) : Stands ['\\', letter] c
  | code {digits : List Char} {n : Nat} (h : IsCode digits n) (hn : n < 0xD800 ∨ 0xDFFF < n) :
      Stands ('\\' :: 'u' :: digits) (Char.ofNat n)
  | pair {first second : List Char} {high low : Nat} (hfirst : IsCode first high)
      (hhigh : 0xD800 ≤ high ∧ high ≤ 0xDBFF) (hsecond : IsCode second low)
      (hlow : 0xDC00 ≤ low ∧ low ≤ 0xDFFF) :
      Stands ('\\' :: 'u' :: (first ++ '\\' :: 'u' :: second))
        (Char.ofNat (0x10000 + (high - 0xD800) * 0x400 + (low - 0xDC00)))

/-- What may stand between quotes for a text: one way to write each of its
characters, in order. -/
inductive Spells : List Char → List Char → Prop where
  | nil : Spells [] []
  | cons {piece : List Char} {c : Char} {body text : List Char} (hpiece : Stands piece c)
      (hbody : Spells body text) : Spells (piece ++ body) (c :: text)

theorem stands_stringChar (c : Char) : Stands (stringChar c) c := by
  obtain ⟨hc, hquote, hback, hcontrol⟩ | ⟨letter, _, hc, hescape⟩ | ⟨hc, hcontrol⟩ :=
    stringChar_cases c
  · rw [hc]
    exact .plain hquote hback hcontrol
  · rw [hc]
    exact .letter hescape
  · have hzero : hexValue? '0' = some 0 := by decide
    have hcode := IsCode.digits hzero hzero (hexValue?_hexDigit (show c.toNat / 16 < 16 by omega))
      (hexValue?_hexDigit (Nat.mod_lt c.toNat (show 0 < 16 by decide)))
    have hvalue : ((0 * 16 + 0) * 16 + c.toNat / 16) * 16 + c.toNat % 16 = c.toNat := by omega
    rw [hvalue] at hcode
    have hstands := Stands.code hcode (.inl (by omega))
    rw [Char.ofNat_toNat] at hstands
    rw [hc]
    exact hstands

/-- Strings are written in one of the ways to write them. -/
theorem spells_written (s : List Char) : Spells (s.flatMap stringChar) s := by
  induction s with
  | nil => exact .nil
  | cons c s ih => exact .cons (stands_stringChar c) ih

theorem hexEscape_code {digits : List Char} {n : Nat} (h : IsCode digits n) (s : List Char) :
    hexEscape (digits ++ s) = .ok (n, s) := by
  cases h with
  | digits ha hb hc hd =>
      simp only [hexEscape, List.cons_append, List.nil_append, ha, hb, hc, hd]

theorem stringBody_escape {letters s rest : List Char} {c : Char}
    (h : escape (letters ++ s) = .ok (c, rest)) :
    stringBody ('\\' :: letters ++ s) = (stringBody rest).map fun p => (c :: p.1, p.2) := by
  rw [List.cons_append, stringBody, if_neg (by decide), if_pos rfl]
  split
  · next fault hfault => rw [hfault] at h; cases h
  · next d rest' hd =>
    obtain ⟨rfl, rfl⟩ := Prod.mk.inj (Except.ok.inj (h.symm.trans hd))
    rfl

/-- What stands for a character is read as the character, whatever follows it. -/
theorem stringBody_stands {piece : List Char} {c : Char} (h : Stands piece c) (s : List Char) :
    stringBody (piece ++ s) = (stringBody s).map fun p => (c :: p.1, p.2) := by
  cases h with
  | plain hquote hback hcontrol =>
      rw [List.singleton_append, stringBody, if_neg hquote, if_neg hback, if_neg hcontrol]
  | @letter letter c h =>
      have hu : letter ≠ 'u' := by
        rintro rfl
        have hnone : simpleEscape? 'u' = none := by decide
        rw [hnone] at h
        cases h
      refine stringBody_escape ?_
      simp [escape, hu, h]
  | @code digits n h hn =>
      refine stringBody_escape ?_
      have hlow : ¬(0xDC00 ≤ n ∧ n ≤ 0xDFFF) := by omega
      have hhigh : ¬(0xD800 ≤ n ∧ n ≤ 0xDBFF) := by omega
      simp only [escape, List.cons_append, if_true, unicodeEscape, hexEscape_code h, if_neg hlow,
        if_neg hhigh]
  | @pair first second high low hfirst hhigh hsecond hlow =>
      refine stringBody_escape ?_
      have hnot : ¬(0xDC00 ≤ high ∧ high ≤ 0xDFFF) := by omega
      simp only [escape, List.cons_append, List.append_assoc, if_true, unicodeEscape,
        hexEscape_code hfirst, if_neg hnot, if_pos hhigh, lowSurrogate, hexEscape_code hsecond,
        if_pos hlow]

/-- A string is read whole, however it is written and whatever follows it. -/
theorem stringBody_spells {body text : List Char} (h : Spells body text) (rest : List Char) :
    stringBody (body ++ '\x22' :: rest) = .ok (text, rest) := by
  induction h with
  | nil => rw [List.nil_append, stringBody, if_pos rfl]
  | cons hpiece _ ih =>
      rw [List.append_assoc, stringBody_stands hpiece, ih]
      rfl

theorem stringBody_written (s : String) (rest : List Char) :
    stringBody (s.toList.flatMap stringChar ++ '\x22' :: rest) = .ok (s.toList, rest) :=
  stringBody_spells (spells_written s.toList) rest

theorem stringChars_append (s : String) (rest : List Char) :
    stringChars s ++ rest = '\x22' :: (s.toList.flatMap stringChar ++ '\x22' :: rest) := by
  simp [stringChars]

/-- Besides the character itself, unless it is a control, only letters, digits,
backslashes and quotes are written. -/
theorem mem_stringChar {c d : Char} (h : d ∈ stringChar c) :
    (d = c ∧ ¬c.toNat < 0x20) ∨ d = '\\' ∨ d = '\x22' ∨ d.isAlphanum = true := by
  have hletters : ∀ e ∈ escapeLetters, (e == '\\' || (e == '\x22' || e.isAlphanum)) = true :=
    List.all_eq_true.mp (by decide)
  simp only [Bool.or_eq_true, beq_iff_eq] at hletters
  obtain ⟨hc, _, _, hcontrol⟩ | ⟨letter, hmem, hc, _⟩ | ⟨hc, hcontrol⟩ := stringChar_cases c
  · rw [hc, List.mem_singleton] at h
    exact .inl ⟨h, hcontrol⟩
  · rw [hc, List.mem_cons, List.mem_singleton] at h
    rcases h with rfl | rfl
    · exact .inr (.inl rfl)
    · exact .inr (hletters d hmem)
  · have h1 := isAlphanum_hexDigit (show c.toNat / 16 < 16 by omega)
    have h2 := isAlphanum_hexDigit (Nat.mod_lt c.toNat (show 0 < 16 by decide))
    rw [hc] at h
    simp only [List.mem_cons, List.not_mem_nil, or_false] at h
    rcases h with rfl | rfl | rfl | rfl | rfl | rfl
    · exact .inr (.inl rfl)
    · exact .inr (.inr (.inr (by decide)))
    · exact .inr (.inr (.inr (by decide)))
    · exact .inr (.inr (.inr (by decide)))
    · exact .inr (.inr (.inr h1))
    · exact .inr (.inr (.inr h2))

/-- Whether a character is in no escape, so that in a string it stands for
itself only. -/
def standsForItself (d : Char) : Bool :=
  d != '\\' && (d != 'u' && ((simpleEscape? d).isNone && (hexValue? d).isNone))

theorem IsCode.not_mem {digits : List Char} {n : Nat} (h : IsCode digits n) {d : Char}
    (hd : hexValue? d = none) : d ∉ digits := by
  intro hmem
  cases h with
  | digits ha hb hc he =>
      simp only [List.mem_cons, List.not_mem_nil, or_false] at hmem
      rcases hmem with rfl | rfl | rfl | rfl
      · rw [hd] at ha; cases ha
      · rw [hd] at hb; cases hb
      · rw [hd] at hc; cases hc
      · rw [hd] at he; cases he

theorem Stands.eq_of_mem {piece : List Char} {c d : Char} (h : Stands piece c)
    (hd : standsForItself d = true) (hmem : d ∈ piece) : d = c ∧ ¬d.toNat < 0x20 := by
  simp only [standsForItself, Bool.and_eq_true, bne_iff_ne, Option.isNone_iff_eq_none] at hd
  obtain ⟨hback, hu, hletter, hhex⟩ := hd
  cases h with
  | plain _ _ hcontrol =>
      obtain rfl := List.mem_singleton.mp hmem
      exact ⟨rfl, hcontrol⟩
  | letter hescape =>
      simp only [List.mem_cons, List.not_mem_nil, or_false] at hmem
      rcases hmem with rfl | rfl
      · exact absurd rfl hback
      · rw [hletter] at hescape; cases hescape
  | code hcode =>
      simp [hback, hu, hcode.not_mem hhex] at hmem
  | pair hfirst _ hsecond =>
      simp [hback, hu, hfirst.not_mem hhex, hsecond.not_mem hhex] at hmem

/-- What stands for itself only is in what is written only if it is in the string. -/
theorem Spells.mem_of_mem {body text : List Char} (h : Spells body text) {d : Char}
    (hd : standsForItself d = true) (hmem : d ∈ body) : d ∈ text ∧ ¬d.toNat < 0x20 := by
  induction h with
  | nil => cases hmem
  | cons hpiece _ ih =>
      rcases List.mem_append.mp hmem with hmem | hmem
      · obtain ⟨rfl, hcontrol⟩ := hpiece.eq_of_mem hd hmem
        exact ⟨List.mem_cons_self, hcontrol⟩
      · exact (ih hmem).imp_left (List.mem_cons_of_mem _)

theorem Spells.newline_not_mem {body text : List Char} (h : Spells body text) : '\n' ∉ body :=
  fun hmem => (h.mem_of_mem (by decide) hmem).2 (by decide)

theorem newline_not_mem_stringChars (s : String) : '\n' ∉ stringChars s := by
  have hbody := (spells_written s.toList).newline_not_mem
  simpa [stringChars] using hbody

/-- A mark that needs no escape is written as often as it occurs. -/
theorem count_stringChar {d : Char} (hd : stringChar d = [d]) (ha : d.isAlphanum = false)
    (c : Char) : (stringChar c).count d = [c].count d := by
  by_cases hc : c = d
  · rw [hc, hd]
  · have hmem : d ∉ stringChar c := by
      intro h
      rcases mem_stringChar h with ⟨rfl, _⟩ | rfl | rfl | h
      · exact hc rfl
      · exact absurd hd (by decide)
      · exact absurd hd (by decide)
      · rw [ha] at h; cases h
    rw [List.count_eq_zero_of_not_mem hmem, List.count_eq_zero_of_not_mem]
    exact fun h => hc (List.mem_singleton.mp h).symm

end SchemaLoom.Json
