import Mathlib.Tactic.SplitIfs
import SchemaLoom.Declarations
import SchemaLoom.Proofs.Member.Entries
import SchemaLoom.Proofs.TypeExpr.Written

/-!
# Reading written members back

Whatever its key and its description hold, the line of a member is read as the
entry of just this member, and the lines of its description are passed over.
What comes of the entry depends on the braces of its type alone.

If more are opened than closed, the lines that follow are taken for a part of
the type until the braces are in balance, so the type that is read is another
one. If they are in balance or more are closed, the member is complete with its
line, and reading goes on behind it as in front.
-/

namespace SchemaLoom.Member

open Declarations TypeExpr

def entryOf (field : Property × TypeExpr) : Entry :=
  ⟨field.1.key.toList, !field.1.required, field.2.chars ++ [';']⟩

theorem trim_of_legible {type : List Char} (h : Legible type) : Text.trim type = type := by
  obtain ⟨c, rest, hc, hink⟩ := h.first
  obtain ⟨front, d, hd, hink', _⟩ := h.last
  exact Text.trim_of_ink hc hink hd hink'

/-- The entry of a member says just this member: its key, its mark and its type. -/
theorem member_entryOf {field : Property × TypeExpr} (h : Legible field.2.chars) :
    (entryOf field).member = memberOf field := by
  rw [Entry.member, entryOf, bareType_append_semicolon h.first h.last, String.ofList_toList]
  rfl

theorem memberLine_eq (field : Property × TypeExpr) :
    memberLine field.1 field.2 = ' ' :: ' ' ::
      (memberFront false (keyChars field.1.key) (!field.1.required) ++
        (field.2.chars ++ [';'])) := by
  have hline : memberLine field.1 field.2 =
      "  ".toList ++ keyChars field.1.key ++ (if field.1.required then [] else ['?']) ++
        ": ".toList ++ field.2.chars ++ [';'] := rfl
  have hindent : "  ".toList = [' ', ' '] := rfl
  rw [hline, hindent, memberFront]
  cases field.1.required <;> simp

theorem trim_memberLine (field : Property × TypeExpr) :
    Text.trim (memberLine field.1 field.2) =
      Text.trim (memberFront false (keyChars field.1.key) (!field.1.required) ++
        (field.2.chars ++ [';'])) := by
  rw [memberLine_eq, Text.trim_cons_blank (by decide), Text.trim_cons_blank (by decide)]

/-- The line of a member is read as the entry of this member. -/
theorem readEntry_memberLine {field : Property × TypeExpr} (h : Legible field.2.chars) :
    readEntry (memberLine field.1 field.2) = some (entryOf field) := by
  rw [readEntry_of_trim (keyText_keyChars _) ⟨';', by simp, by decide⟩ (trim_memberLine field),
    trim_append_semicolon h.last, trim_of_legible h]
  rfl

theorem isComment_memberLine (field : Property × TypeExpr) :
    isComment (Text.trim (memberLine field.1 field.2)) = false :=
  isComment_of_trim (keyText_keyChars _) ⟨';', by simp, by decide⟩ (trim_memberLine field)

theorem chomp_memberLine (field : Property × TypeExpr) :
    Text.chomp (memberLine field.1 field.2) = memberLine field.1 field.2 :=
  Text.chomp_append_singleton _ (by decide)

theorem newline_not_mem_memberLine {field : Property × TypeExpr} (h : Legible field.2.chars) :
    '\n' ∉ memberLine field.1 field.2 := by
  have hkey := (keyText_keyChars field.1.key).newline_not_mem
  have htype := h.newline
  rw [memberLine_eq, memberFront]
  cases field.1.required <;> simp [hkey, htype]

theorem newline_not_mem_describedLine {line : List Char} (h : '\n' ∉ line) :
    '\n' ∉ describedLine line := by
  intro hmem
  rcases List.mem_append.mp hmem with hmem | hmem
  · exact absurd hmem (by decide)
  · rcases Text.mem_of_mem_replaceFrom hmem with hmem | hmem
    · exact absurd hmem (by decide)
    · exact h hmem

theorem isComment_describedLine (line : List Char) :
    isComment (Text.trim (Text.chomp (describedLine line))) = true := by
  have hline : describedLine line =
      ' ' :: ' ' :: ' ' :: '*' :: ' ' :: Text.replaceFrom "*/".toList "*\\/".toList 0 line := rfl
  rw [Text.trim_chomp, hline, Text.trim_cons_blank (by decide), Text.trim_cons_blank (by decide),
    Text.trim_cons_blank (by decide), Text.trim, Text.trimStart_cons_ink (by decide),
    Text.trimEnd_cons_ink (by decide)]
  simp [isComment, List.isPrefixOf]

/-- Every line of a description is a line of a comment. -/
theorem isComment_descriptionLines {description : Option String} :
    ∀ line ∈ descriptionLines description,
      '\n' ∉ line ∧ isComment (Text.trim (Text.chomp line)) = true := by
  cases description with
  | none => simp [descriptionLines]
  | some description =>
      intro line hline
      rw [descriptionLines, List.cons_append, List.mem_cons, List.mem_append, List.mem_map,
        List.mem_singleton] at hline
      rcases hline with rfl | ⟨inner, hinner, rfl⟩ | rfl
      · exact ⟨by decide, by decide⟩
      · exact ⟨newline_not_mem_describedLine (Text.newline_not_mem_of_mem_lines hinner),
          isComment_describedLine inner⟩
      · exact ⟨by decide, by decide⟩

theorem newline_not_mem_memberLines {field : Property × TypeExpr} (h : Legible field.2.chars) :
    ∀ line ∈ memberLines field, '\n' ∉ line := by
  intro line hline
  rcases List.mem_append.mp hline with hline | hline
  · exact (isComment_descriptionLines line hline).1
  · rw [List.mem_singleton.mp hline]
    exact newline_not_mem_memberLine h

theorem scanLines_comments {comments : List (List Char)}
    (h : ∀ line ∈ comments, isComment (Text.trim line) = true) (rest : List (List Char)) :
    scanLines 1 none (comments ++ rest) = scanLines 1 none rest := by
  induction comments with
  | nil => rfl
  | cons line more ih =>
      rw [List.forall_mem_cons] at h
      rw [List.cons_append, scanLines_comment h.1, ih h.2]

theorem braces_entryOf (field : Property × TypeExpr) :
    braces (entryOf field).type = braces field.2.chars := by
  have hsemicolon : braces [';'] = 0 := rfl
  rw [entryOf, braces_append, hsemicolon, Int.add_zero]

/-- What a block is read as from the line of a member on: the member if its
braces are not left open, and else an open entry. -/
theorem scanLines_memberLine {field : Property × TypeExpr} (h : Legible field.2.chars)
    (rest : List (List Char)) :
    scanLines 1 none (memberLine field.1 field.2 :: rest) =
      if 0 < braces field.2.chars then
        scanLines (1 + braces field.2.chars) (some (entryOf field)) rest
      else memberOf field :: scanLines 1 none rest := by
  rw [scanLines_entry (isComment_memberLine field) (readEntry_memberLine h), braces_entryOf,
    member_entryOf h]

theorem scanLines_memberLines {field : Property × TypeExpr} (h : Legible field.2.chars)
    (rest : List (List Char)) :
    scanLines 1 none ((memberLines field).map Text.chomp ++ rest) =
      if 0 < braces field.2.chars then
        scanLines (1 + braces field.2.chars) (some (entryOf field)) rest
      else memberOf field :: scanLines 1 none rest := by
  have hcomments : ∀ line ∈ (descriptionLines field.1.description).map Text.chomp,
      isComment (Text.trim line) = true := by
    rw [List.forall_mem_map]
    exact fun line hline => (isComment_descriptionLines line hline).2
  rw [memberLines, List.map_append, List.append_assoc, scanLines_comments hcomments,
    List.map_singleton, chomp_memberLine]
  exact scanLines_memberLine h rest

/-- An open entry is given up or closed where its braces are in balance. -/
theorem braces_of_scanLines_pending {lines : List (List Char)} {depth : Int} {entry : Entry}
    (hdepth : depth = 1 + braces entry.type) {member : Member} {members : List Member}
    (h : scanLines depth (some entry) lines = member :: members) :
    braces member.declaredType.toList = 0 := by
  induction lines generalizing depth entry with
  | nil => cases h
  | cons line rest ih =>
      have hblank : braces [' '] = 0 := rfl
      have htype : braces (entry.type ++ ' ' :: Text.trim line) =
          braces entry.type + braces (Text.trim line) := by
        rw [braces_append, braces_cons, hblank, Int.zero_add]
      rw [scanLines] at h
      split_ifs at h with hclosed hbalance
      · rw [← (List.cons.inj h).1, Entry.member, String.toList_ofList, braces_bareType, htype]
        omega
      · exact ih (by rw [htype]; omega) h

/-- A block is read back as its members exactly if no type opens more braces
than it closes. -/
theorem scanLines_fields_eq_iff {fields : List (Property × TypeExpr)}
    (h : ∀ field ∈ fields, Legible field.2.chars) (rest : List (List Char)) :
    scanLines 1 none ((fields.flatMap memberLines).map Text.chomp ++ ['\x7d'] :: rest) =
      fields.map memberOf ↔ ∀ field ∈ fields, braces field.2.chars ≤ 0 := by
  induction fields with
  | nil => simpa using scanLines_close (.inl rfl) rest
  | cons field more ih =>
      rw [List.forall_mem_cons] at h
      rw [List.flatMap_cons, List.map_append, List.append_assoc, scanLines_memberLines h.1,
        List.map_cons, List.forall_mem_cons]
      split
      · next hopen =>
        -- An open entry comes back balanced, if it does, so not as this member.
        refine iff_of_false (fun he => ?_) fun hall => by omega
        have hbalance := braces_of_scanLines_pending (by rw [braces_entryOf]) he
        rw [memberOf, TypeExpr.text, String.toList_ofList] at hbalance
        omega
      · next hopen =>
        rw [List.cons.injEq, ih h.2]
        exact ⟨fun hall => ⟨by omega, hall.2⟩, fun hall => ⟨rfl, hall.2⟩⟩

end SchemaLoom.Member
