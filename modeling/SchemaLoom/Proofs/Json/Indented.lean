import SchemaLoom.Proofs.Json.Written

/-!
# Reading indented values

The indented form differs from the compact one in blanks only, so it is read
back the same way, also with a line end behind it. Nothing that is read is
nested deeper than the reader goes, so a document that was read can be written
and read again as often as one likes.

Both forms are the text of a value with a certain `Spacing`, and reading back
was shown for every spacing. What is left is that the function that writes the
indented form writes that text.
-/

namespace SchemaLoom.Json

theorem isSpace_newline {level : Nat} {c : Char} (h : c ∈ newline level) : isSpace c = true := by
  rcases List.mem_cons.mp h with rfl | h
  · decide
  · obtain rfl := List.eq_of_mem_replicate h
    decide

/-- The indented form has each item, each entry and each closing bracket on a
line of its own. -/
def Spacing.indented : Spacing where
  gap := newline
  pad := [' ']
  isSpace_gap _ _ h := isSpace_newline h
  isSpace_pad := List.forall_mem_singleton.mpr rfl

theorem prettyItems_eq {items : List Json} (level : Nat)
    (h : ∀ item ∈ items, ∀ level, prettyChars level item = Spacing.indented.chars level item) :
    prettyItems level items = Spacing.indented.itemsChars level items := by
  induction items with
  | nil => rfl
  | cons item rest ih =>
      obtain ⟨hitem, hrest⟩ := List.forall_mem_cons.mp h
      rw [prettyItems, Spacing.itemsChars, ih hrest, hitem (level + 1)]
      rfl

theorem prettyFields_eq {fields : Fields Json} (level : Nat)
    (h : ∀ entry ∈ fields, ∀ level,
      prettyChars level entry.2 = Spacing.indented.chars level entry.2) :
    prettyFields level fields = Spacing.indented.fieldsChars level fields := by
  induction fields with
  | nil => rfl
  | cons entry rest ih =>
      obtain ⟨key, value⟩ := entry
      obtain ⟨hentry, hrest⟩ := List.forall_mem_cons.mp h
      rw [prettyFields, Spacing.fieldsChars, ih hrest, hentry (level + 1)]
      simp [Spacing.indented]

/-- The indented form is the text of the value with line ends and indentation as
its blanks. -/
theorem prettyChars_eq (value : Json) (level : Nat) :
    prettyChars level value = Spacing.indented.chars level value := by
  induction value using induction_nested generalizing level with
  | null => rfl
  | bool b => cases b <;> rfl
  | number n => rfl
  | string s => rfl
  | array items ih =>
      cases items with
      | nil => rfl
      | cons item rest =>
          obtain ⟨hitem, hrest⟩ := List.forall_mem_cons.mp ih
          rw [prettyChars, Spacing.chars, hitem (level + 1), prettyItems_eq level hrest]
          rfl
  | object fields ih =>
      cases fields with
      | nil => rfl
      | cons entry rest =>
          obtain ⟨key, value⟩ := entry
          obtain ⟨hentry, hrest⟩ := List.forall_mem_cons.mp ih
          rw [prettyChars, Spacing.chars, hentry (level + 1), prettyFields_eq level hrest]
          simp [Spacing.indented]

theorem ofChars_of_run {s rest : List Char} {v : Json}
    (h : Reader.run (value maxDepth) s = .ok (v, rest)) : ofChars s = .ok v := by
  have hfirst : ofChars s = (Reader.run (value maxDepth) s).map Prod.fst := by
    rw [ofChars, Reader.run]
    cases value maxDepth s <;> rfl
  rw [hfirst, h]
  rfl

/-- An indented value with a line end behind it is read back. -/
theorem parse_pretty_newline {v : Json} (hu : v.UniqueKeys) (hw : v.WholeNumbers)
    (hd : v.nesting ≤ maxDepth) : parse (v.pretty ++ "\n") = .ok v := by
  have htext : (v.pretty ++ "\n").toList = prettyChars 0 v ++ ['\n'] := by
    rw [String.toList_append, pretty, String.toList_ofList]
    rfl
  have hopens := Spacing.indented.opens_chars 0 hw
  have hread : Reader.run (value maxDepth) (prettyChars 0 v ++ ['\n']) = .ok (v, ['\n']) := by
    refine Spacing.readsBack .indented hu hw hd 0 _ _ (endsNumber_cons (by decide) []) ?_
    rw [prettyChars_eq v 0, (hopens.append _).skipSpace]
  rw [parse, htext, ofChars_of_run hread]
  rfl

theorem nesting_le_of_value {depth : Nat} {s : List Char} {p : Parsed Json s}
    (h : value depth s = .ok p) : p.value.nesting ≤ depth := by
  refine of_value (P := fun depth v => v.nesting ≤ depth) (fun _ v harray hobject => ?_)
    (fun _ _ hitems => ?_) (fun less entries hentries => ?_) h
  · cases v with
    | array items => cases harray
    | object fields => cases hobject
    | _ => exact Nat.zero_le _
  · exact Nat.succ_le_succ (nestingItems_le_iff.mpr hitems)
  · have hset : ∀ entry ∈ Fields.setAll [] entries, entry.2.nesting ≤ less :=
      Fields.forall_mem_setAll (P := fun v : Json => v.nesting ≤ less)
        (List.forall_mem_nil _) hentries
    exact Nat.succ_le_succ (nestingFields_le_iff.mpr hset)

/-- No document that can be read is nested deeper than the reader goes. -/
theorem nesting_le_of_parse {text : String} {v : Json} (h : parse text = .ok v) :
    v.nesting ≤ maxDepth := by
  obtain ⟨p, hread, rfl⟩ := exists_value_of_parse h
  exact nesting_le_of_value hread

end SchemaLoom.Json
