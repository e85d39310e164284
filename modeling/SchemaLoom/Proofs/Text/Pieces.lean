import Mathlib.Data.List.DropRight
import Mathlib.Data.List.TakeWhile
import SchemaLoom.Proofs.Text.Blank
import SchemaLoom.Proofs.Text.Lines

/-!
# Pieces of a text

The pieces between separators follow the text: of two texts with a separator
between them they are those of the first and then those of the second, and what
is put in front of a text or behind it goes to the first piece or to the last.

Ink in a piece outlasts trimming, as often as it occurs, and blanks are only cut
off at the ends. So a separator with blanks around it, and a text with blanks
around it, are read as if the blanks were not there.
-/

namespace SchemaLoom.Text

variable {α : Type} {isSeparator : α → Bool}

theorem splitBy_eq_splitOnP (isSeparator : α → Bool) (s : List α) :
    splitBy isSeparator s = s.splitOnP isSeparator := by
  induction s with
  | nil => rfl
  | cons c rest ih =>
    rw [splitBy, List.splitOnP_cons_eq_if_modifyHead, ih]
    cases h : rest.splitOnP isSeparator with
    | nil => exact absurd h (List.splitOnP_ne_nil _ _)
    | cons piece more => rfl

/-- The first piece takes what stands in front of it. -/
theorem splitBy_cons {c : α} (hc : isSeparator c = false) (s : List α) :
    ∃ piece more, splitBy isSeparator s = piece :: more ∧
      splitBy isSeparator (c :: s) = (c :: piece) :: more := by
  simp only [splitBy_eq_splitOnP, List.splitOnP_cons_eq_if_modifyHead, hc, Bool.false_eq_true,
    if_false]
  obtain ⟨piece, more, hpieces⟩ := List.exists_cons_of_ne_nil (List.splitOnP_ne_nil isSeparator s)
  exact ⟨piece, more, hpieces, by rw [hpieces, List.modifyHead_cons]⟩

theorem splitBy_append_cons (s t : List α) {c : α} (hc : isSeparator c = true) :
    splitBy isSeparator (s ++ c :: t) = splitBy isSeparator s ++ splitBy isSeparator t := by
  simp only [splitBy_eq_splitOnP, List.splitOnP_append_cons s t hc]

theorem splitBy_eq_singleton {s : List α} (h : ∀ c ∈ s, isSeparator c = false) :
    splitBy isSeparator s = [s] := by
  rw [splitBy_eq_splitOnP, List.splitOnP_eq_singleton h]

theorem splitBy_of_not_mem [DecidableEq α] {separator : α} {s : List α} (h : separator ∉ s) :
    splitBy (· = separator) s = [s] :=
  splitBy_eq_singleton fun _ hc => decide_eq_false fun he => h (he ▸ hc)

/-- Lines that are written with a line feed behind each are cut off one by one. -/
theorem splitBy_written {written : List (List Char)} (h : ∀ line ∈ written, '\n' ∉ line)
    (rest : List Char) : splitBy (· = '\n') (written.flatMap (· ++ ['\n']) ++ rest) =
      written ++ splitBy (· = '\n') rest := by
  induction written with
  | nil => rfl
  | cons line more ih =>
    rw [List.forall_mem_cons] at h
    rw [List.flatMap_cons, List.append_assoc, List.append_assoc, List.singleton_append,
      splitBy_append_cons _ _ (by decide), splitBy_of_not_mem h.1, ih h.2]
    rfl

/-- What is in none of some texts and not between them is not in all of it. -/
theorem not_mem_intercalate {c : α} {separator : List α} (hc : c ∉ separator)
    {pieces : List (List α)} (h : ∀ piece ∈ pieces, c ∉ piece) :
    c ∉ separator.intercalate pieces := by
  induction pieces with
  | nil => simp
  | cons piece rest ih =>
    rw [List.forall_mem_cons] at h
    cases rest with
    | nil => simpa using h.1
    | cons next more =>
      rw [List.intercalate_cons_cons, List.mem_append, List.mem_append, not_or, not_or]
      exact ⟨⟨h.1, hc⟩, ih h.2⟩

/-- A text has no separator, or is cut at the last one. -/
theorem exists_last_piece (isSeparator : α → Bool) (s : List α) :
    (∀ c ∈ s, isSeparator c = false) ∨
      ∃ front c last, s = front ++ c :: last ∧ isSeparator c = true ∧
        ∀ d ∈ last, isSeparator d = false := by
  induction s with
  | nil => exact .inl fun _ h => by cases h
  | cons c rest ih =>
    rcases ih with hrest | ⟨front, d, last, rfl, hd, hlast⟩
    · cases hc : isSeparator c with
      | false => exact .inl (List.forall_mem_cons.mpr ⟨hc, hrest⟩)
      | true => exact .inr ⟨[], c, rest, rfl, hc, hrest⟩
    · exact .inr ⟨c :: front, d, last, rfl, hd, hlast⟩

theorem forall_mem_literal {P : Char → Prop} {s : List Char} (h : ∀ c ∈ s, P c) :
    ∀ c ∈ (String.ofList s).toList, P c := by
  rwa [String.toList_ofList]

theorem not_mem_literal {c : Char} {s : List Char} (h : c ∉ s) : c ∉ (String.ofList s).toList := by
  rwa [String.toList_ofList]

theorem prefix_literal_iff {front s : List Char} :
    front <+: (String.ofList s).toList ↔ front <+: s := by
  rw [String.toList_ofList]

theorem prefix_literal_append {front s : List Char} (h : front <+: s) (rest : List Char) :
    front <+: (String.ofList s).toList ++ rest := by
  rw [String.toList_ofList]
  exact h.trans (List.prefix_append s rest)

/-- A front that differs from a literal is not that of a text that the literal
opens. -/
theorem not_prefix_literal_append {front s : List Char} (h : ¬front <+: s) (h' : ¬s <+: front)
    (rest : List Char) : ¬front <+: (String.ofList s).toList ++ rest := by
  rw [String.toList_ofList]
  intro hfront
  rcases List.prefix_or_prefix_of_prefix hfront (List.prefix_append s rest) with hs | hs
  · exact h hs
  · exact h' hs

theorem trimStart_append_ink (s : List Char) {c : Char} (hc : isBlank c = false)
    (rest : List Char) : trimStart (s ++ c :: rest) = trimStart s ++ c :: rest := by
  induction s with
  | nil => exact trimStart_cons_ink hc
  | cons d s ih =>
    cases hd : isBlank d with
    | true => rw [List.cons_append, trimStart_cons_blank hd, trimStart_cons_blank hd, ih]
    | false => rw [List.cons_append, trimStart_cons_ink hd, trimStart_cons_ink hd, List.cons_append]

/-- Trimming a text that ends with ink cuts at its front only. -/
theorem trim_append_ink (s : List Char) {c : Char} (hc : isBlank c = false) :
    trim (s ++ [c]) = trimStart s ++ [c] := by
  rw [trim, trimStart_append_ink s hc, trimEnd_append_ink _ hc]

theorem trim_cons_blank {c : Char} (hc : isBlank c = true) (s : List Char) :
    trim (c :: s) = trim s := by
  rw [trim, trimStart_cons_blank hc, trim]

theorem trim_append_blank (s : List Char) {c : Char} (hc : isBlank c = true) :
    trim (s ++ [c]) = trim s := by
  have hend : ∀ t : List Char, trimEnd (t ++ [c]) = trimEnd t := by
    intro t
    simp [trimEnd, hc]
  simp only [trim, trimStart, List.dropWhile_append]
  split
  · next hnone => simp [List.isEmpty_iff.mp hnone, hc]
  · exact hend _

theorem trimEnd_sublist (s : List Char) : (trimEnd s).Sublist s :=
  (List.rdropWhile_prefix isBlank s).sublist

theorem trim_sublist (s : List Char) : (trim s).Sublist s :=
  (trimEnd_sublist _).trans (List.dropWhile_sublist _)

theorem count_dropWhile {p : Char → Bool} {c : Char} (hc : p c = false) (s : List Char) :
    (s.dropWhile p).count c = s.count c := by
  induction s with
  | nil => rfl
  | cons d rest ih =>
      rw [List.dropWhile_cons]
      split
      · next hd =>
        have hne : d ≠ c := by
          rintro rfl
          rw [hc] at hd
          cases hd
        rw [ih, List.count_cons_of_ne hne]
      · rfl

theorem count_trim {c : Char} (hc : isBlank c = false) (s : List Char) :
    (trim s).count c = s.count c := by
  rw [trim, trimEnd, List.count_reverse, count_dropWhile hc, List.count_reverse, trimStart,
    count_dropWhile hc]

theorem mem_trim {c : Char} (hc : isBlank c = false) {s : List Char} (h : c ∈ s) : c ∈ trim s := by
  rw [← List.count_pos_iff, count_trim hc]
  exact List.count_pos_iff.mpr h

theorem exists_blanks_trimEnd (s : List Char) :
    ∃ blanks, (∀ c ∈ blanks, isBlank c = true) ∧ s = trimEnd s ++ blanks := by
  refine ⟨(s.reverse.takeWhile isBlank).reverse, fun c hc => ?_, ?_⟩
  · exact List.mem_takeWhile_imp (List.mem_reverse.mp hc)
  · rw [trimEnd, ← List.reverse_append, List.takeWhile_append_dropWhile, List.reverse_reverse]

theorem exists_blanks_trimStart (s : List Char) :
    ∃ blanks, (∀ c ∈ blanks, isBlank c = true) ∧ trimStart s = trim s ++ blanks :=
  exists_blanks_trimEnd (trimStart s)

theorem trim_append_blanks (s : List Char) {blanks : List Char}
    (h : ∀ c ∈ blanks, isBlank c = true) : trim (s ++ blanks) = trim s := by
  induction blanks generalizing s with
  | nil => rw [List.append_nil]
  | cons c rest ih =>
      rw [List.forall_mem_cons] at h
      rw [← List.singleton_append, ← List.append_assoc, ih _ h.2, trim_append_blank s h.1]

theorem trim_trimEnd (s : List Char) : trim (trimEnd s) = trim s := by
  obtain ⟨blanks, hblanks, hs⟩ := exists_blanks_trimEnd s
  rw [← trim_append_blanks (trimEnd s) hblanks, ← hs]

theorem trim_trim (s : List Char) : trim (trim s) = trim s := by
  have hstart : trimStart (trimStart s) = trimStart s := List.dropWhile_idempotent isBlank s
  have hagain : trim (trimStart s) = trim s := by rw [trim, hstart, trim]
  have hend := trim_trimEnd (trimStart s)
  rwa [hagain] at hend

/-- A text with ink in it begins with ink when it is trimmed. -/
theorem exists_first_trim {s : List Char} (h : ∃ c ∈ s, isBlank c = false) :
    ∃ c rest, trim s = c :: rest ∧ isBlank c = false := by
  cases hstart : trimStart s with
  | nil =>
      obtain ⟨c, hc, hink⟩ := h
      rw [List.dropWhile_eq_nil_iff.mp hstart c hc] at hink
      cases hink
  | cons c rest =>
      have hc : isBlank c = false := by
        have := List.head?_dropWhile_not isBlank s
        rw [← trimStart, hstart] at this
        simpa using this
      exact ⟨c, trimEnd rest, by rw [trim, hstart, trimEnd_cons_ink hc], hc⟩

/-- A carriage return at the end makes no difference to trimming. -/
@[simp] theorem trim_chomp (s : List Char) : trim (chomp s) = trim s := by
  rcases chomp_eq_or s with h | h
  · rw [h]
  · rw [← trim_append_blank (chomp s) (show isBlank '\r' = true by decide), ← h]

theorem trimEnd_append {t : List Char} (h : ∃ c ∈ t, isBlank c = false) (s : List Char) :
    trimEnd (s ++ t) = s ++ trimEnd t := by
  obtain ⟨c, hc, hink⟩ := h
  have hne : t.reverse.dropWhile isBlank ≠ [] := by
    rw [ne_eq, List.dropWhile_eq_nil_iff]
    intro hall
    rw [hall c (List.mem_reverse.mpr hc)] at hink
    cases hink
  rw [trimEnd, List.reverse_append, List.dropWhile_append, if_neg (by simpa using hne),
    List.reverse_append, List.reverse_reverse, trimEnd]

/-- Of two texts with ink at the front of the first and in the second, only the
blanks behind both are cut off. -/
theorem trim_append {s t : List Char} (hs : ∃ c rest, s = c :: rest ∧ isBlank c = false)
    (ht : ∃ c ∈ t, isBlank c = false) : trim (s ++ t) = s ++ trimEnd t := by
  obtain ⟨c, rest, rfl, hc⟩ := hs
  rw [trim, List.cons_append, trimStart_cons_ink hc, ← List.cons_append, trimEnd_append ht]

end SchemaLoom.Text
