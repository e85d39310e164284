/-!
# Each once

Of equal entries of a list, the first stays and the others go. What stays keeps
its order, so doing it again, or doing it to a part beforehand, comes to the
same.

Erasing repetitions is not a recursion on the list, since each step takes
entries out of what is left. `induction_first` is the induction that follows it,
and the laws of a front or a rest that was cleared beforehand are what a union
of several lists needs.
-/

namespace SchemaLoom.Once

variable {α : Type} [BEq α]

/-- Induction the way repetitions are erased: the first entry takes its equals
with it, and what is left has none of them. -/
@[elab_as_elim]
theorem induction_first {motive : List α → Prop} (nil : motive [])
    (cons : ∀ a rest, motive (rest.filter (!· == a)) → motive (a :: rest)) :
    ∀ xs, motive xs
  | [] => nil
  | a :: rest => cons a rest (induction_first nil cons (rest.filter (!· == a)))
termination_by xs => xs.length
decreasing_by exact Nat.lt_succ_of_le (List.length_filter_le _ rest)

variable [LawfulBEq α]

/-- Leaving entries out before or after repetitions are erased is the same. -/
theorem eraseDups_filter (keep : α → Bool) (xs : List α) :
    (xs.filter keep).eraseDups = xs.eraseDups.filter keep := by
  induction xs using induction_first with
  | nil => rfl
  | cons a rest ih =>
      rw [List.eraseDups_cons]
      by_cases ha : keep a = true
      · rw [List.filter_cons_of_pos ha, List.filter_cons_of_pos ha, List.eraseDups_cons, ← ih,
          List.filter_filter, List.filter_filter]
        simp only [Bool.and_comm]
      · have hsame : (rest.filter (!· == a)).filter keep = rest.filter keep := by
          rw [List.filter_filter]
          refine List.filter_congr fun b _ => ?_
          by_cases hb : b = a
          · simp [hb, ha]
          · simp [hb]
        rw [List.filter_cons_of_neg ha, List.filter_cons_of_neg ha, ← ih, hsame]

theorem nodup_eraseDups (xs : List α) : xs.eraseDups.Nodup := by
  induction xs using induction_first with
  | nil => exact List.nodup_nil
  | cons a rest ih =>
      rw [List.eraseDups_cons, List.nodup_cons, List.mem_eraseDups]
      exact ⟨by simp, ih⟩

/-- Where nothing comes twice, everything stays. -/
theorem eraseDups_of_nodup {xs : List α} (h : xs.Nodup) : xs.eraseDups = xs := by
  induction xs with
  | nil => rfl
  | cons a rest ih =>
      obtain ⟨ha, hrest⟩ := List.nodup_cons.mp h
      have hkeep : rest.filter (!· == a) = rest := by
        rw [List.filter_eq_self]
        intro b hb
        have hne : b ≠ a := fun e => ha (e ▸ hb)
        simpa using hne
      rw [List.eraseDups_cons, hkeep, ih hrest]

/-- Entries that are all in the list in front of them bring nothing. -/
theorem eraseDups_append_of_subset {xs ys : List α} (h : ys ⊆ xs) :
    (xs ++ ys).eraseDups = xs.eraseDups := by
  have hnone : ys.removeAll xs = [] := by
    rw [List.removeAll, List.filter_eq_nil_iff]
    intro y hy
    simpa using h hy
  rw [List.eraseDups_append, hnone, List.eraseDups_nil, List.append_nil]

/-- The front of a list may be cleared of repetitions beforehand. -/
theorem eraseDups_append_left (xs ys : List α) :
    (xs.eraseDups ++ ys).eraseDups = (xs ++ ys).eraseDups := by
  have hremove : ys.removeAll xs.eraseDups = ys.removeAll xs := by
    refine List.filter_congr fun y _ => ?_
    rw [Bool.eq_iff_iff]
    simp
  rw [List.eraseDups_append, List.eraseDups_append, hremove,
    eraseDups_of_nodup (nodup_eraseDups xs)]

theorem eraseDups_append_right (xs ys : List α) :
    (xs ++ ys.eraseDups).eraseDups = (xs ++ ys).eraseDups := by
  rw [List.eraseDups_append, List.eraseDups_append, List.removeAll, List.removeAll,
    eraseDups_filter, eraseDups_filter, eraseDups_of_nodup (nodup_eraseDups ys)]

end SchemaLoom.Once
