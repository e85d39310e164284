import Mathlib.Algebra.Group.Int.Defs
import SchemaLoom.Json.Lexeme
import SchemaLoom.Json.Writer

/-!
# Reading written integers

An integer is written with the fewest digits, so no zero opens it except the one
of zero itself. Whatever follows, unless it goes on with the number, the reader
takes these digits apart from the rest and gets the integer back, as long as it
has at most 64 bits.

Larger integers are read as numbers of binary64 and come back rounded, so
`InRange` is the exact condition under which nothing is lost.
-/

namespace SchemaLoom.Json

/-- What follows a number does not go on with it: no digit, no point and no
exponent comes next. -/
def EndsNumber (rest : List Char) : Prop :=
  ∀ c ∈ rest.head?, c.isDigit = false ∧ c ≠ '.' ∧ c ≠ 'e' ∧ c ≠ 'E'

theorem endsNumber_nil : EndsNumber [] := by simp [EndsNumber]

theorem endsNumber_cons {c : Char} (h : c.isDigit = false ∧ c ≠ '.' ∧ c ≠ 'e' ∧ c ≠ 'E')
    (rest : List Char) : EndsNumber (c :: rest) := by
  simpa [EndsNumber] using h

theorem isDigit_toDigits {n : Nat} {c : Char} (h : c ∈ Nat.toDigits 10 n) : c.isDigit = true :=
  Nat.isDigit_of_mem_toDigits (by decide) (by decide) h

theorem digitsValue_toDigits (n : Nat) : digitsValue (Nat.toDigits 10 n) = n :=
  Nat.ofDigitChars_toDigits (by decide) (by decide)

/-- Only zero is written with a zero in front. -/
theorem eq_zero_of_head?_toDigits {n : Nat} (h : (Nat.toDigits 10 n).head? = some '0') : n = 0 := by
  induction n using Nat.strongRecOn with
  | ind n ih =>
      rcases Nat.lt_or_ge n 10 with hlt | hge
      · have hdigit : ∀ d : Fin 10, Nat.digitChar d.val = '0' → d.val = 0 := by decide
        rw [Nat.toDigits_of_lt_base hlt] at h
        exact hdigit ⟨n, hlt⟩ (Option.some.inj h)
      · obtain ⟨c, more, hfront⟩ :=
          List.exists_cons_of_ne_nil (Nat.toDigits_ne_nil (n := n / 10) (b := 10))
        rw [Nat.toDigits_of_base_le (by decide) hge, hfront] at h
        have hzero := ih (n / 10) (by omega) (hfront ▸ h)
        omega

theorem digits_append {ds rest : List Char} (hds : ∀ c ∈ ds, c.isDigit = true)
    (hrest : EndsNumber rest) : digits (ds ++ rest) = ds ∧ afterDigits (ds ++ rest) = rest := by
  have hnone : rest.takeWhile Char.isDigit = [] ∧ rest.dropWhile Char.isDigit = rest := by
    cases rest with
    | nil => exact ⟨rfl, rfl⟩
    | cons c rest =>
        have hc := (hrest c rfl).1
        simp [hc]
  rw [digits, afterDigits, List.takeWhile_append_of_pos hds, List.dropWhile_append_of_pos hds,
    hnone.1, hnone.2, List.append_nil]
  exact ⟨rfl, rfl⟩

theorem fractionText_of_endsNumber {rest : List Char} (h : EndsNumber rest) (atEnd : Reason) :
    fractionText atEnd rest = .ok (none, rest) := by
  rw [fractionText.eq_def]
  split
  · next more => exact absurd rfl (h '.' rfl).2.1
  · rfl

theorem exponentText_of_endsNumber {rest : List Char} (h : EndsNumber rest) (atEnd : Reason) :
    exponentText atEnd rest = .ok (none, rest) := by
  cases rest with
  | nil => rfl
  | cons c rest =>
      obtain ⟨-, -, he, hE⟩ := h c rfl
      simp [exponentText, he, hE]

/-- Digits that open with no idle zero are taken apart from what follows them. -/
theorem numberText_digits {c : Char} {ds rest : List Char} (hc : c.isDigit = true)
    (hds : ∀ d ∈ ds, d.isDigit = true) (hzero : c = '0' → ds = []) (hrest : EndsNumber rest)
    (negative : Bool) (atEnd : Reason) :
    numberText atEnd ((if negative then ['-'] else []) ++ c :: ds ++ rest) =
      .ok (⟨negative, c :: ds, none, none⟩, rest) := by
  have hminus : c ≠ '-' := by
    rintro rfl
    cases hc
  have hidle : ¬(c = '0' ∧ ¬ds = []) := fun h => h.2 (hzero h.1)
  obtain ⟨hdigits, hafter⟩ := digits_append hds hrest
  cases negative with
  | false =>
      simp [numberText, hminus, hc, hdigits, hafter, hidle, fractionText_of_endsNumber hrest,
        exponentText_of_endsNumber hrest]
  | true =>
      simp [numberText, hc, hdigits, hafter, hidle, fractionText_of_endsNumber hrest,
        exponentText_of_endsNumber hrest]

/-- The integers of at most 64 bits, with or without a sign: those that the
reader keeps as they are. -/
def InRange (n : Int) : Prop := -2 ^ 63 ≤ n ∧ n < 2 ^ 64

theorem numberText_numberChars (n : Int) {rest : List Char} (hrest : EndsNumber rest)
    (atEnd : Reason) :
    numberText atEnd (numberChars (.integer n) ++ rest) =
      .ok (⟨decide (n < 0), Nat.toDigits 10 n.natAbs, none, none⟩, rest) := by
  obtain ⟨c, ds, hds⟩ := List.exists_cons_of_ne_nil (Nat.toDigits_ne_nil (n := n.natAbs) (b := 10))
  have hdigit : ∀ d ∈ c :: ds, d.isDigit = true := fun d hd => isDigit_toDigits (hds ▸ hd)
  obtain ⟨hc, hmore⟩ := List.forall_mem_cons.mp hdigit
  have hzero : c = '0' → ds = [] := by
    rintro rfl
    have hn : n.natAbs = 0 := eq_zero_of_head?_toDigits (hds ▸ rfl)
    rw [hn] at hds
    exact (List.cons.inj hds).2.symm
  have hread := numberText_digits hc hmore hzero hrest (decide (n < 0)) atEnd
  rw [numberChars, hds, ← hread]
  simp

/-- An integer in range is read as it was written. -/
theorem value_numberText_integer {n : Int} (h : InRange n) (rest : List Char) :
    NumberText.value ⟨decide (n < 0), Nat.toDigits 10 n.natAbs, none, none⟩ rest =
      .ok (.integer n) := by
  obtain ⟨hlow, hhigh⟩ := h
  have hvalue : NumberText.value? ⟨decide (n < 0), Nat.toDigits 10 n.natAbs, none, none⟩ =
      some (.integer n) := by
    rw [NumberText.value?]
    simp only [digitsValue_toDigits, Option.isNone_none, Bool.true_and]
    by_cases hn : n < 0
    · have hfits : 0 < n.natAbs ∧ n.natAbs ≤ Nat.pow 2 63 := by
        have hpow : (Nat.pow 2 63 : Int) = 2 ^ 63 := by decide
        omega
      have hback : -(n.natAbs : Int) = n := by omega
      simp only [hn, hfits.1, hfits.2, decide_true, if_true, Bool.and_self, hback]
    · have hfits : n.natAbs < Nat.pow 2 64 := by
        have hpow : (Nat.pow 2 64 : Int) = 2 ^ 64 := by decide
        omega
      have hback : (n.natAbs : Int) = n := by omega
      simp only [hn, hfits, decide_true, decide_false, Bool.false_eq_true, if_false, if_true, hback]
  rw [NumberText.value, hvalue]

end SchemaLoom.Json
