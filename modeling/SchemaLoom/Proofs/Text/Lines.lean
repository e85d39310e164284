import SchemaLoom.Text.Lines

/-!
# Reading written lines

Lines that are written with a line feed behind each are read back one by one.
Only a carriage return at the very end of a line is lost, since it is taken for
a part of the line end.

So the lines of a text in front of a line feed do not depend on what stands
behind it, and the lines of generated text are found again as long as none of
them holds a line feed.
-/

namespace SchemaLoom.Text

/-- A line as it is read back: without a carriage return at its end. -/
def chomp : List Char → List Char
  | [] => []
  | ['\r'] => []
  | c :: rest => c :: chomp rest

theorem chomp_cons_of_ne {c : Char} (h : c ≠ '\r') (s : List Char) :
    chomp (c :: s) = c :: chomp s :=
  chomp.eq_3 c s fun hc _ => h hc

theorem chomp_cons_cons (c d : Char) (s : List Char) :
    chomp (c :: d :: s) = c :: chomp (d :: s) :=
  chomp.eq_3 c (d :: s) fun _ hs => by cases hs

theorem chomp_append_singleton (s : List Char) {c : Char} (h : c ≠ '\r') :
    chomp (s ++ [c]) = s ++ [c] := by
  induction s with
  | nil => exact chomp_cons_of_ne h []
  | cons d rest ih =>
      cases rest with
      | nil => rw [List.cons_append, List.nil_append, chomp_cons_cons, chomp_cons_of_ne h]; rfl
      | cons e more => rw [List.cons_append, List.cons_append, chomp_cons_cons, ← List.cons_append,
          ih]

/-- What is lost of a line is a carriage return at its end, if anything. -/
theorem chomp_eq_or (s : List Char) : chomp s = s ∨ s = chomp s ++ ['\r'] := by
  fun_induction chomp s with
  | case1 => exact .inl rfl
  | case2 => exact .inr rfl
  | case3 c rest _ ih =>
      rw [List.cons_append, List.cons.injEq, List.cons.injEq]
      exact ih.imp (⟨rfl, ·⟩) (⟨rfl, ·⟩)

theorem lines_append {line : List Char} (h : '\n' ∉ line) (rest : List Char) :
    lines (line ++ '\n' :: rest) = chomp line :: lines rest := by
  induction line with
  | nil => rfl
  | cons c more ih =>
      have hc : c ≠ '\n' := fun e => h (e ▸ List.mem_cons_self)
      have hm : '\n' ∉ more := fun hm => h (List.mem_cons_of_mem c hm)
      by_cases hcr : c = '\r' ∧ more = []
      · obtain ⟨rfl, rfl⟩ := hcr
        rfl
      · have hlines : lines (c :: (more ++ '\n' :: rest)) = (c :: chomp more) :: lines rest := by
          rw [lines.eq_4 c _ hc, ih hm]
          intro rest' hcr' he
          -- A line feed right behind the carriage return would be one of the line itself.
          cases more with
          | nil => exact hcr ⟨hcr', rfl⟩
          | cons d _ => exact hm ((List.cons.inj he).1 ▸ List.mem_cons_self)
        rw [List.cons_append, hlines, chomp.eq_3 c more fun h1 h2 => hcr ⟨h1, h2⟩]

/-- Written lines are read back as they are, up to a carriage return at the end. -/
theorem lines_flatMap {written : List (List Char)} (h : ∀ line ∈ written, '\n' ∉ line)
    (rest : List Char) :
    lines (written.flatMap (· ++ ['\n']) ++ rest) = written.map chomp ++ lines rest := by
  induction written with
  | nil => rfl
  | cons line more ih =>
      rw [List.forall_mem_cons] at h
      rw [List.flatMap_cons, List.append_assoc, List.append_assoc, List.singleton_append,
        lines_append h.1, ih h.2, List.map_cons, List.cons_append]

/-- A text is written as lines and what stands behind the last line feed. -/
theorem exists_written (s : List Char) :
    ∃ (written : List (List Char)) (last : List Char), (∀ line ∈ written, '\n' ∉ line) ∧
      '\n' ∉ last ∧ s = written.flatMap (· ++ ['\n']) ++ last := by
  induction s with
  | nil => exact ⟨[], [], by simp, by simp, rfl⟩
  | cons c s ih =>
      obtain ⟨written, last, hwritten, hlast, rfl⟩ := ih
      by_cases hc : c = '\n'
      · refine ⟨[] :: written, last, ?_, hlast, by rw [hc]; rfl⟩
        rw [List.forall_mem_cons]
        exact ⟨by simp, hwritten⟩
      · cases written with
        | nil => exact ⟨[], c :: last, by simp, by simp [Ne.symm hc, hlast], rfl⟩
        | cons line more =>
            refine ⟨(c :: line) :: more, last, ?_, hlast, rfl⟩
            rw [List.forall_mem_cons] at hwritten ⊢
            exact ⟨by simp [Ne.symm hc, hwritten.1], hwritten.2⟩

/-- Behind a line feed lines are read as in a text of their own. -/
theorem lines_append_of_end {front : List Char} (h : front = [] ∨ front.getLast? = some '\n')
    (back : List Char) : lines (front ++ back) = lines front ++ lines back := by
  obtain ⟨written, last, hwritten, hlast, hfront⟩ := exists_written front
  have hnil : last = [] := by
    refine Decidable.byContradiction fun hne => ?_
    have hmem := List.getLast_mem hne
    rcases h with h | h
    · rw [h] at hfront
      exact hne (List.append_eq_nil_iff.mp hfront.symm).2
    · rw [hfront, List.getLast?_append, List.getLast?_eq_some_getLast hne, Option.some_or,
        Option.some.injEq] at h
      exact hlast (h ▸ hmem)
  have hfront' := lines_flatMap hwritten []
  rw [hnil] at hfront
  rw [← hfront, lines, List.append_nil] at hfront'
  rw [hfront', hfront, List.append_nil, lines_flatMap hwritten back]

/-- A text without a line feed is one line, unless it is empty. -/
theorem lines_eq_singleton {line : List Char} (h : '\n' ∉ line) (hne : line ≠ []) :
    lines line = [line] := by
  induction line with
  | nil => exact absurd rfl hne
  | cons c rest ih =>
      rw [List.mem_cons, not_or] at h
      cases rest with
      | nil => rw [lines.eq_4 c [] (Ne.symm h.1) (fun _ _ he => by cases he)]; rfl
      | cons d more =>
          rw [lines.eq_4 c (d :: more) (Ne.symm h.1), ih h.2 (List.cons_ne_nil d more)]
          intro rest _ he
          exact h.2 ((List.cons.inj he).1 ▸ List.mem_cons_self)

theorem newline_not_mem_of_mem_lines {s line : List Char} (h : line ∈ lines s) : '\n' ∉ line := by
  fun_induction lines s generalizing line with
  | case1 => simp at h
  | case2 rest ih =>
      rcases List.mem_cons.mp h with rfl | h
      · simp
      · exact ih h
  | case3 rest ih =>
      rcases List.mem_cons.mp h with rfl | h
      · simp
      · exact ih h
  | case4 c rest hc hcr hl ih =>
      obtain rfl := List.mem_singleton.mp h
      simpa using fun e => hc e.symm
  | case5 c rest hc hcr first more hl ih =>
      rcases List.mem_cons.mp h with rfl | h
      · rw [List.mem_cons, not_or]
        exact ⟨fun e => hc e.symm, ih (hl ▸ List.mem_cons_self)⟩
      · exact ih (hl ▸ List.mem_cons_of_mem first h)

/-- Replacing brings in no character that is not in the replacement. -/
theorem mem_of_mem_replaceFrom {pattern replacement s : List Char} {skip : Nat} {c : Char}
    (h : c ∈ replaceFrom pattern replacement skip s) : c ∈ replacement ∨ c ∈ s := by
  fun_induction replaceFrom pattern replacement skip s with
  | case1 => simp at h
  | case2 skip d rest ih => exact (ih h).imp_right (List.mem_cons_of_mem d)
  | case3 d rest _ _ ih =>
      rcases List.mem_append.mp h with h | h
      · exact .inl h
      · exact (ih h).imp_right (List.mem_cons_of_mem d)
  | case4 d rest _ ih =>
      rcases List.mem_cons.mp h with rfl | h
      · exact .inr List.mem_cons_self
      · exact (ih h).imp_right (List.mem_cons_of_mem d)

/-- A text has the pattern at its front if something is found behind it. -/
theorem eq_append_of_afterPattern {pattern s rest : List Char}
    (h : afterPattern pattern s = some rest) : s = pattern ++ rest := by
  fun_induction afterPattern pattern s with
  | case1 s => exact Option.some.inj h
  | case2 => cases h
  | case3 p pattern s ih => rw [ih h, List.cons_append]
  | case4 => cases h

@[simp] theorem afterPattern_append (pattern rest : List Char) :
    afterPattern pattern (pattern ++ rest) = some rest := by
  induction pattern with
  | nil => rfl
  | cons p pattern ih => simp [afterPattern, ih]

end SchemaLoom.Text
