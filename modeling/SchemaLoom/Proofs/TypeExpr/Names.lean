import SchemaLoom.Proofs.TypeExpr.Structure

/-!
# Names that are given out

Every name of an interface is made from the name of the root by putting ASCII
letters and digits behind it: those of the keys on the way, `Item` for arrays,
and a number where the name is taken.

What is put behind holds no character that could end a word or a text, so a name
is as good as that of the root wherever it is written.
-/

namespace SchemaLoom.TypeExpr

/-- A name that goes on from another one with ASCII letters and digits. -/
def GoesOn (root name : String) : Prop :=
  ∃ suffix : String, name = root ++ suffix ∧ ∀ c ∈ suffix.toList, c.isAlphanum = true

theorem GoesOn.refl (root : String) : GoesOn root root := ⟨"", by simp, by simp⟩

theorem GoesOn.append {root name suffix : String} (h : GoesOn root name)
    (hs : ∀ c ∈ suffix.toList, c.isAlphanum = true) : GoesOn root (name ++ suffix) := by
  obtain ⟨front, rfl, hfront⟩ := h
  refine ⟨front ++ suffix, String.append_assoc, fun c hc => ?_⟩
  rw [String.toList_append, List.mem_append] at hc
  exact hc.elim (hfront c) (hs c)

theorem GoesOn.trans {a b c : String} (hab : GoesOn a b) (hbc : GoesOn b c) : GoesOn a c := by
  obtain ⟨suffix, rfl, hsuffix⟩ := hbc
  exact hab.append hsuffix

theorem isAlphanum_toUpper {c : Char} (h : c.isAlphanum = true) : c.toUpper.isAlphanum = true := by
  have hall : ∀ n : Fin 128, (Char.ofNat n).isAlphanum = true →
      (Char.ofNat n).toUpper.isAlphanum = true := by decide
  have hlt : c.toNat < 128 := by
    have hranges : (decide (c.val ≥ 65 ∧ c.val ≤ 90) || (c.val ≥ 97 && c.val ≤ 122) ||
        (c.val ≥ 48 && c.val ≤ 57)) = true := h
    simp only [Bool.or_eq_true, Bool.and_eq_true, decide_eq_true_eq, ge_iff_le,
      UInt32.le_iff_toNat_le, UInt32.reduceToNat] at hranges
    change c.val.toNat < 128
    omega
  have := hall ⟨c.toNat, hlt⟩
  simp only [Char.ofNat_toNat] at this
  exact this h

theorem isAlphanum_pascalChars {atStart : Bool} {s : List Char} :
    ∀ c ∈ pascalChars atStart s, c.isAlphanum = true := by
  fun_induction pascalChars atStart s with
  | case1 => simp
  | case2 atStart d rest hd ih =>
      rw [List.forall_mem_cons]
      refine ⟨?_, ih⟩
      split
      · exact isAlphanum_toUpper hd
      · exact hd
  | case3 atStart d rest hd ih => exact ih

/-- The name of the interface that the text of a type refers to. -/
def interfaceName? : TypeExpr → Option String
  | .object name _ => some name
  | .array item => item.interfaceName?
  | .nullable inner => inner.interfaceName?
  | _ => none

end SchemaLoom.TypeExpr
