import SchemaLoom.Proofs.Member.Comments

/-!
# Indentation

Wherever a line is looked at as it stands, blanks in front of it are passed over
first, and everywhere else it is looked at without the blanks around it. So two
runs over lines that differ in their indentation stay in step: each line
completes the same member in both and leaves reading where the other leaves it.

A line of nothing but blanks changes nothing at the end of a file, where taking
its blanks away makes it disappear. Texts are compared at last, since replacing
indentation in a text is what makes two such runs.
-/

namespace SchemaLoom.Member

namespace Standing

section Line

variable {line other : List Char} (h : Text.trimStart line = Text.trimStart other)

include h

theorem trim_of_trimStart : Text.trim line = Text.trim other := by rw [Text.trim, h, Text.trim]

theorem readEntry_congr : readEntry line = readEntry other := by simp only [readEntry, h]

/-- Lines that differ in their indentation complete the same member, wherever
reading stands. -/
theorem gives_congr (s : Standing) : s.gives line = s.gives other := by
  have htrim := trim_of_trimStart h
  have hbraces := braces_of_trim_eq htrim
  simp only [gives, goOn, htrim, hbraces, readEntry_congr h]

/-- Behind lines that differ in their indentation reading stands at the same place. -/
theorem next_congr (s : Standing) : s.next line = s.next other := by
  have htrim := trim_of_trimStart h
  have hbraces := braces_of_trim_eq htrim
  simp only [next, goOn, htrim, hbraces, readEntry_congr h]

end Line

/-- From the same place, lines that differ in their indentation give the same
members. -/
theorem members_congr (s : Standing) {lines others : List (List Char)}
    (h : lines.map Text.trimStart = others.map Text.trimStart) :
    s.members lines = s.members others := by
  induction lines generalizing s others with
  | nil => rw [List.map_eq_nil_iff.mp h.symm]
  | cons line lines ih =>
      cases others with
      | nil => cases h
      | cons other others =>
          obtain ⟨hline, hlines⟩ := List.cons.inj h
          rw [members_cons, members_cons, gives_congr hline, next_congr hline, ih _ hlines]

/-- A blank line completes no member. An entry that is open stays open, since
the line brings no brace to close it. -/
theorem members_blank {s : Standing} (h : s.Sound) {line : List Char}
    (hline : Text.trim line = []) : s.members [line] = [] := by
  have hbraces : braces line = 0 := braces_of_trim_eq (t := []) hline
  have hgives : s.gives line = none := by
    rw [gives]
    split
    · rfl
    · split
      · next entry hpending => rw [hbraces, Int.add_zero, if_neg (h (by rw [hpending]; rfl))]
      · rw [hline, readEntry_of_blank hline, ite_self]
        rfl
  rw [members_cons, hgives]
  rfl

end Standing

section Opening

variable {line other : List Char} (h : Text.trimStart line = Text.trimStart other)

include h

theorem opensBlock_congr (name : List Char) : opensBlock name line = opensBlock name other := by
  simp only [opensBlock, h]

theorem inlineMembers_congr : inlineMembers line = inlineMembers other := by
  have hfront : ∀ s : List Char,
      s.dropWhile (· ≠ '\x7b') = (Text.trimStart s).dropWhile (· ≠ '\x7b') := by
    intro s
    induction s with
    | nil => rfl
    | cons c rest ih =>
        cases hc : Text.isBlank c with
        | false => rw [Text.trimStart_cons_ink hc]
        | true =>
            have hne : c ≠ '\x7b' := by
              rintro rfl
              cases hc
            rw [Text.trimStart_cons_blank hc, ← ih, List.dropWhile_cons_of_pos (by simpa using hne)]
  rw [inlineMembers, hfront, h, ← hfront, inlineMembers]

end Opening

theorem ofLines_cons (name line : List Char) (lines : List (List Char)) :
    ofLines name (line :: lines) =
      if opensBlock name line then ofBlock (line :: lines) else ofLines name lines := by
  rw [ofLines, List.dropWhile_cons]
  cases opensBlock name line <;> rfl

/-- Lines that differ in their indentation hold the same members of a block. -/
theorem ofLines_congr (name : List Char) {lines others : List (List Char)}
    (h : lines.map Text.trimStart = others.map Text.trimStart) :
    ofLines name lines = ofLines name others := by
  induction lines generalizing others with
  | nil => rw [List.map_eq_nil_iff.mp h.symm]
  | cons line lines ih =>
      cases others with
      | nil => cases h
      | cons other others =>
          obtain ⟨hline, hlines⟩ := List.cons.inj h
          have hbraces := braces_of_trim_eq (Standing.trim_of_trimStart hline)
          rw [ofLines_cons, ofLines_cons, opensBlock_congr hline, ih hlines, ofBlock_cons,
            ofBlock_cons, hbraces, inlineMembers_congr hline, Standing.members_congr _ hlines]

/-- A blank line at the end of a file holds no member and completes none. -/
theorem ofLines_append_blank (name : List Char) (lines : List (List Char)) {line : List Char}
    (h : Text.trim line = []) : ofLines name (lines ++ [line]) = ofLines name lines := by
  cases hblock : lines.dropWhile fun line => !opensBlock name line with
  | nil =>
      have hnot : opensBlock name line = false := by
        refine Bool.eq_false_iff.mpr fun hopens => ?_
        have hbrace := Text.mem_trim (by decide) (brace_mem_of_opensBlock hopens)
        rw [h] at hbrace
        cases hbrace
      rw [ofLines_append_of_unopened _ hblock, ofLines_cons, hnot, ofLines, ofLines, hblock]
      rfl
  | cons opening body =>
      have hsound : (Standing.after ⟨braces opening, none⟩ body).Sound :=
        Standing.Sound.after (fun hsome => Bool.noConfusion hsome) body
      rw [ofLines_append_of_opened _ hblock, Standing.members_blank hsound h, List.append_nil,
        ofLines, hblock, ofBlock_cons]

/-- Spaces and tabs, as many as there are, in any order. -/
def IsIndentation (run : List Char) : Prop := ∀ c ∈ run, c = ' ' ∨ c = '\t'

instance (run : List Char) : Decidable (IsIndentation run) :=
  decidable_of_iff (run.all fun c => c = ' ' || c = '\t') (by simp [IsIndentation])

/-- A text in which the indentation of some lines was replaced, one after the
other. Each of them stands at the start of the text or behind a line feed, and
what replaces the spaces and tabs in front of it are spaces and tabs again, if
any. -/
inductive Reindented (text : List Char) : List Char → Prop where
  | refl : Reindented text text
  | replace {front run back : List Char} (before : Reindented text (front ++ (run ++ back)))
      (start : front = [] ∨ front.getLast? = some '\n') (run_is : IsIndentation run)
      {other : List Char} (other_is : IsIndentation other) :
      Reindented text (front ++ (other ++ back))

/-- A space or a tab in front of a line goes to this line, or makes one where
there is none. -/
theorem lines_cons_of_ne {c : Char} (hn : c ≠ '\n') (hr : c ≠ '\r') (s : List Char) :
    Text.lines (c :: s) =
      match Text.lines s with
      | [] => [[c]]
      | line :: more => (c :: line) :: more :=
  Text.lines.eq_4 c s hn fun _ h _ => hr h

/-- The indentation of a line makes no difference to the members of a file. -/
theorem ofLines_indentation (name : List Char) (front : List (List Char)) {run : List Char}
    (h : IsIndentation run) (back : List Char) :
    ofLines name (front ++ Text.lines (run ++ back)) = ofLines name (front ++ Text.lines back) := by
  induction run with
  | nil => rfl
  | cons c run ih =>
      obtain ⟨hc, hrun⟩ := List.forall_mem_cons.mp h
      have hblank : Text.isBlank c = true := by rcases hc with rfl | rfl <;> decide
      have hends : c ≠ '\n' ∧ c ≠ '\r' := by rcases hc with rfl | rfl <;> decide
      rw [← ih hrun, List.cons_append, lines_cons_of_ne hends.1 hends.2]
      cases Text.lines (run ++ back) with
      | nil =>
          have htrim : Text.trim [c] = [] := Text.trim_cons_blank hblank []
          rw [ofLines_append_blank name front htrim, List.append_nil]
      | cons line more =>
          refine ofLines_congr name ?_
          simp only [List.map_append, List.map_cons, Text.trimStart_cons_blank hblank]

/-- Replacing the spaces and tabs in front of lines leaves the members as they
are, whatever the text and the name. -/
theorem ofDeclarations_reindented (name : String) {text other : List Char}
    (h : Reindented text other) :
    ofDeclarations (String.ofList other) name = ofDeclarations (String.ofList text) name := by
  induction h with
  | refl => rfl
  | replace _ start run_is other_is ih =>
      rw [← ih, ofDeclarations_eq_ofLines, ofDeclarations_eq_ofLines,
        Text.lines_append_of_end start, Text.lines_append_of_end start,
        ofLines_indentation _ _ other_is, ofLines_indentation _ _ run_is]

/-- Another indentation inside a type that goes on, and blanks behind the last
line feed that go away and take their line with them. -/
theorem ofDeclarations_reindented_last :
    let front := "interface Input \x7b\n  a: \x7b\n".toList
    let back := "x: string;\n  \x7d;\n".toList
    let text := front ++ ("    ".toList ++ (back ++ " \t".toList))
    let other := front ++ ("\t".toList ++ back)
    Reindented text other ∧
      ofDeclarations (String.ofList other) "Input" = ofDeclarations (String.ofList text) "Input" ∧
      ofDeclarations (String.ofList other) "Input" = [⟨"a", "\x7b x: string; \x7d", false⟩] := by
  intro front back text other
  have hfirst : Reindented text (front ++ ("\t".toList ++ (back ++ " \t".toList))) :=
    .replace .refl (.inr (by decide)) (by decide) (by decide)
  have hmiddle : front ++ ("\t".toList ++ (back ++ " \t".toList)) =
      front ++ ("\t".toList ++ back) ++ (" \t".toList ++ []) := by simp
  have hother : other = front ++ ("\t".toList ++ back) ++ ([] ++ []) := by simp [other]
  have h : Reindented text other := by
    rw [hother]
    exact .replace (hmiddle ▸ hfirst) (.inr (by decide)) (by decide) (by decide)
  exact ⟨h, ofDeclarations_reindented "Input" h, by decide +kernel⟩

end SchemaLoom.Member
