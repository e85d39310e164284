import SchemaLoom.Text.Blank
import SchemaLoom.Text.Word

/-!
# Ink at the ends of a text

Trimming stops at the first character that is not blank. A text that begins or
ends with such a character keeps that end, whatever stands behind or in front of
it. No blank is a word character, so a word never reaches into the blanks around
it.

The blanks are those of Unicode, listed by their numbers, which is what a
comparison with the word characters needs.
-/

namespace SchemaLoom.Text

theorem trimEnd_append_ink (s : List Char) {c : Char} (h : isBlank c = false) :
    trimEnd (s ++ [c]) = s ++ [c] := by
  simp [trimEnd, h]

theorem trimEnd_cons_ink {c : Char} (h : isBlank c = false) (s : List Char) :
    trimEnd (c :: s) = c :: trimEnd s := by
  have hc : [c].dropWhile isBlank = [c] := by simp [h]
  rw [trimEnd, trimEnd, List.reverse_cons, List.dropWhile_append, hc]
  split
  · next he => simp [List.isEmpty_iff.mp he]
  · simp

/-- A text that begins and ends with ink stays as it is. -/
theorem trim_of_ink {s front rest : List Char} {first last : Char} (hs : s = first :: rest)
    (hfirst : isBlank first = false) (hs' : s = front ++ [last]) (hlast : isBlank last = false) :
    trim s = s := by
  rw [trim, hs, trimStart_cons_ink hfirst, ← hs, hs', trimEnd_append_ink front hlast]

def blankNumbers : List Nat :=
  [9, 10, 11, 12, 13, 0x20, 0x85, 0xA0, 0x1680, 0x2000, 0x2001, 0x2002, 0x2003, 0x2004, 0x2005,
    0x2006, 0x2007, 0x2008, 0x2009, 0x200A, 0x2028, 0x2029, 0x202F, 0x205F, 0x3000]

theorem toNat_mem_blankNumbers {c : Char} (h : isBlank c = true) : c.toNat ∈ blankNumbers := by
  simp only [isBlank, Bool.or_eq_true, Bool.and_eq_true, decide_eq_true_eq, beq_iff_eq] at h
  simp only [blankNumbers, List.mem_cons, List.not_mem_nil, or_false]
  omega

/-- No blank is a word character. -/
theorem isWord_of_isBlank {c : Char} (h : isBlank c = true) : isWord c = false := by
  have hall : ∀ n ∈ blankNumbers, isWord (Char.ofNat n) = false := by decide +kernel
  rw [← Char.ofNat_toNat c]
  exact hall _ (toNat_mem_blankNumbers h)

theorem isBlank_of_isWord {c : Char} (h : isWord c = true) : isBlank c = false := by
  cases hb : isBlank c with
  | false => rfl
  | true => rw [isWord_of_isBlank hb] at h; cases h

theorem isWord_of_isAsciiWord {c : Char} (h : isAsciiWord c = true) : isWord c = true := by
  simp [isWord, h]

end SchemaLoom.Text
