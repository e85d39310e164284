import SchemaLoom.Proofs.Member.Braces
import SchemaLoom.Proofs.Member.Keys
import SchemaLoom.Proofs.Text.Pieces

/-!
# Reading the lines of a block

What a line of a block does depends on the text between the blanks around it. A
line of a comment is passed over, and so is one that is no entry and whose
braces are in balance. An entry whose type opens more braces than it closes
takes in the lines that follow until the braces are in balance, and what is read
of its type is the text of all these lines without the blanks around each.

Of the type itself the semicolons at its end are taken off. Every later module
on blocks goes by the lemmas on one step that stand here, one for each kind of
line, and none opens the function that reads lines.
-/

namespace SchemaLoom.Member

/-- What stands in front of the type of a member: perhaps the word `readonly`,
then the key, perhaps a question mark, and a colon. -/
def memberFront (readonly : Bool) (key : List Char) (optional : Bool) : List Char :=
  (if readonly then "readonly ".toList else []) ++
    (key ++ ((if optional then ['?'] else []) ++ ": ".toList))

theorem readAfterKey_mark (key : List Char) (optional : Bool) (type : List Char) :
    readAfterKey key ((if optional then ['?'] else []) ++ ": ".toList ++ type) =
      some ⟨key, optional, Text.trim type⟩ := by
  have hcolon : Text.trimStart (':' :: ' ' :: type) = ':' :: ' ' :: type :=
    Text.trimStart_cons_ink (by decide)
  have htrim : Text.trim (' ' :: type) = Text.trim type := Text.trim_cons_blank (by decide) type
  have hstring : ": ".toList ++ type = ':' :: ' ' :: type := rfl
  rw [List.append_assoc, hstring]
  cases optional with
  | true => simp [readAfterKey, hcolon, htrim]
  | false => simp [readAfterKey, hcolon, htrim]

/-- What follows a key begins with a character that is no part of a word and no
blank: a question mark or a colon. -/
theorem exists_mark (optional : Bool) (s : List Char) :
    ∃ c rest, (if optional then ['?'] else []) ++ ": ".toList ++ s = c :: rest ∧
      continuesIdentifier c = false ∧ Text.isBlank c = false := by
  cases optional with
  | true => exact ⟨'?', _, rfl, by decide, by decide⟩
  | false => exact ⟨':', _, rfl, by decide, by decide⟩

section Front

variable {text : List Char} {key : String}

theorem KeyText.exists_first_front (h : KeyText text key) (readonly optional : Bool) :
    ∃ c rest, memberFront readonly text optional = c :: rest ∧ StartsKey c := by
  obtain ⟨c, rest, hfirst, hc⟩ := h.exists_first
  cases readonly with
  | true => exact ⟨'r', _, rfl, .inl (by decide)⟩
  | false => exact ⟨c, _, by rw [memberFront, hfirst]; rfl, hc⟩

/-- What is read of a key and a type behind it, with the word `readonly` in
front or without. -/
theorem readEntry_of_trimStart (h : KeyText text key) {readonly optional : Bool}
    {line type : List Char}
    (hline : Text.trimStart line = memberFront readonly text optional ++ type) :
    readEntry line = some ⟨key.toList, optional, Text.trim type⟩ := by
  obtain ⟨c, rest, hmark, hc, hink⟩ := exists_mark optional type
  have hread : readKeyed (text ++ c :: rest) = some ⟨key.toList, optional, Text.trim type⟩ := by
    rw [readKeyed, readKey_keyText h hc, Option.bind_some, ← hmark]
    exact readAfterKey_mark key.toList optional type
  rw [readEntry, hline, memberFront, List.append_assoc, List.append_assoc, hmark]
  cases readonly with
  | false => simp only [Bool.false_eq_true, if_false, List.nil_append, skipWord_keyText h hc hink,
      hread, Option.some_or]
  | true =>
      obtain ⟨d, more, hfirst, hd⟩ := h.exists_first
      have hskip : skipWord "readonly" ("readonly ".toList ++ (text ++ c :: rest)) =
          text ++ c :: rest := by
        have hword : "readonly ".toList ++ (text ++ c :: rest) =
            "readonly".toList ++ ' ' :: (text ++ c :: rest) := rfl
        have hblank : Text.isBlank ' ' = true := by decide
        rw [hword, skipWord, Text.afterPattern_append]
        simp only [hblank, if_true]
        rw [hfirst, List.cons_append, Text.trimStart_cons_ink hd.isBlank]
      simp only [if_true, hskip, hread, Option.some_or]

/-- Only the text between the blanks around a line matters to what is read of it. -/
theorem readEntry_of_trim (h : KeyText text key) {readonly optional : Bool}
    {line type : List Char} (htype : ∃ c ∈ type, Text.isBlank c = false)
    (hline : Text.trim line = Text.trim (memberFront readonly text optional ++ type)) :
    readEntry line = some ⟨key.toList, optional, Text.trim type⟩ := by
  obtain ⟨c, rest, hfirst, hc⟩ := h.exists_first_front readonly optional
  obtain ⟨blanks, hblanks, hstart⟩ := Text.exists_blanks_trimStart line
  rw [hline, Text.trim_append ⟨c, rest, hfirst, hc.isBlank⟩ htype, List.append_assoc] at hstart
  rw [readEntry_of_trimStart h hstart, Text.trim_append_blanks _ hblanks, Text.trim_trimEnd]

theorem isComment_of_trim (h : KeyText text key) {readonly optional : Bool}
    {line type : List Char} (htype : ∃ c ∈ type, Text.isBlank c = false)
    (hline : Text.trim line = Text.trim (memberFront readonly text optional ++ type)) :
    isComment (Text.trim line) = false := by
  obtain ⟨c, rest, hfirst, hc⟩ := h.exists_first_front readonly optional
  have hslash : c ≠ '/' := by
    rintro rfl
    exact absurd hc (by simp [StartsKey, startsIdentifier])
  have hstar : c ≠ '*' := by
    rintro rfl
    exact absurd hc (by simp [StartsKey, startsIdentifier])
  rw [hline, Text.trim_append ⟨c, rest, hfirst, hc.isBlank⟩ htype, hfirst]
  simp [isComment, List.isPrefixOf, hslash.symm, hstar.symm]

end Front

theorem readEntry_of_blank {line : List Char} (h : Text.trim line = []) :
    readEntry line = none := by
  have hall : ∀ c ∈ line, Text.isBlank c = true := by
    intro c hc
    by_contra hink
    have hmem := Text.mem_trim (Bool.eq_false_iff.mpr hink) hc
    rw [h] at hmem
    cases hmem
  have hnil : Text.trimStart line = [] := List.dropWhile_eq_nil_iff.mpr hall
  rw [readEntry, hnil]
  rfl

/-- No entry begins with a character that begins no key, so braces and stars
begin none. -/
theorem readEntry_of_first {line : List Char} {c : Char} {rest : List Char}
    (hline : Text.trim line = c :: rest) (hstart : startsIdentifier c = false)
    (hdouble : c ≠ '\x22') (hsingle : c ≠ '\x27') : readEntry line = none := by
  obtain ⟨blanks, _, hs⟩ := Text.exists_blanks_trimStart line
  rw [hline, List.cons_append] at hs
  have hr : c ≠ 'r' := by
    rintro rfl
    exact absurd hstart (by decide)
  have hskip : skipWord "readonly" (c :: (rest ++ blanks)) = c :: (rest ++ blanks) := by
    simp [skipWord, Text.afterPattern, hr.symm]
  have hread : readKeyed (c :: (rest ++ blanks)) = none := by
    simp [readKeyed, readKey, hstart, hdouble, hsingle]
  rw [readEntry, hs]
  simp only [hskip, hread, Option.or_none]

/-- Of a text only a word and the blanks behind it are passed over. -/
theorem exists_skipWord (word : String) (s : List Char) :
    ∃ before, s = before ++ skipWord word s ∧
      ∀ c ∈ before, c ∈ word.toList ∨ Text.isBlank c = true := by
  unfold skipWord
  split
  · next c rest hafter =>
    split
    · next hc =>
      refine ⟨word.toList ++ c :: rest.takeWhile Text.isBlank, ?_, fun d hd => ?_⟩
      · rw [List.append_assoc, List.cons_append, Text.trimStart, List.takeWhile_append_dropWhile]
        exact Text.eq_append_of_afterPattern hafter
      · rw [List.mem_append, List.mem_cons] at hd
        rcases hd with hd | rfl | hd
        · exact .inl hd
        · exact .inr hc
        · exact .inr (List.mem_takeWhile_imp hd)
    · exact ⟨[], rfl, by simp⟩
  · exact ⟨[], rfl, by simp⟩

theorem exists_keyed {line : List Char} {entry : Entry} (h : readEntry line = some entry) :
    ∃ before keyed, line = before ++ keyed ∧ readKeyed keyed = some entry ∧
      ∀ c ∈ before, c ∈ "readonly".toList ∨ Text.isBlank c = true := by
  have hblanks : ∀ c ∈ line.takeWhile Text.isBlank, Text.isBlank c = true :=
    fun c hc => List.mem_takeWhile_imp hc
  have hline : line = line.takeWhile Text.isBlank ++ Text.trimStart line :=
    List.takeWhile_append_dropWhile.symm
  rw [readEntry, Option.or_eq_some_iff] at h
  rcases h with h | ⟨_, h⟩
  · obtain ⟨before, hbefore, hmem⟩ := exists_skipWord "readonly" (Text.trimStart line)
    refine ⟨_, _, ?_, h, List.forall_mem_append.mpr ⟨fun c hc => .inr (hblanks c hc), hmem⟩⟩
    rw [List.append_assoc, ← hbefore]
    exact hline
  · exact ⟨_, _, hline, h, fun c hc => .inr (hblanks c hc)⟩

theorem readAfterKey_eq_some {key s : List Char} {entry : Entry}
    (h : readAfterKey key s = some entry) :
    entry.key = key ∧ ∃ type, type <:+ s ∧ entry.type = Text.trim type := by
  unfold readAfterKey at h
  split at h
  next optional after hpair =>
  have hafter : after <:+ s := by
    split at hpair
    · obtain ⟨-, rfl⟩ := Prod.mk.inj hpair
      exact List.suffix_cons _ _
    · obtain ⟨-, rfl⟩ := Prod.mk.inj hpair
      exact List.suffix_rfl
  split at h
  · next c rest hs =>
    have hsuffix : c :: rest <:+ after :=
      (List.suffix_cons ':' _).trans (hs ▸ List.dropWhile_suffix Text.isBlank)
    rw [← Option.some.inj h]
    exact ⟨rfl, c :: rest, hsuffix.trans hafter, rfl⟩
  · cases h

/-- An entry has its key and then its type from its line, and its key holds only
characters of the line unless it stands between double quotes. -/
theorem readEntry_eq_some {line : List Char} {entry : Entry} (h : readEntry line = some entry) :
    ∃ before keyed rest type, line = before ++ keyed ∧ rest <:+ keyed ∧ type <:+ rest ∧
      entry.type = Text.trim type ∧
      (∀ c ∈ before, c ∈ "readonly".toList ∨ Text.isBlank c = true) ∧
      ((∀ c ∈ entry.key, c ∈ keyed) ∨ ∃ body, keyed = '\x22' :: (body ++ '\x22' :: rest)) := by
  obtain ⟨before, keyed, hline, hkeyed, hbefore⟩ := exists_keyed h
  obtain ⟨⟨key, rest⟩, hread, hafter⟩ := Option.bind_eq_some_iff.mp hkeyed
  obtain ⟨hrest, hkey⟩ := readKey_eq_some hread
  obtain ⟨rfl, type, hsuffix, htype⟩ := readAfterKey_eq_some hafter
  exact ⟨before, keyed, rest, type, hline, hrest, hsuffix, htype, hbefore, hkey⟩

theorem scanLines_comment {line : List Char} (h : isComment (Text.trim line) = true)
    (rest : List (List Char)) : scanLines 1 none (line :: rest) = scanLines 1 none rest := by
  simp [scanLines, h]

/-- A line that is neither a comment nor an entry counts for its braces only. -/
theorem scanLines_other {line : List Char} (hcomment : isComment (Text.trim line) = false)
    (hentry : readEntry line = none) (rest : List (List Char)) :
    scanLines 1 none (line :: rest) = scanLines (1 + braces (Text.trim line)) none rest := by
  rw [scanLines]
  simp only [hcomment, hentry, if_true]
  rw [if_neg (by decide), if_neg Bool.false_ne_true]

/-- An entry on one line is a member unless its type leaves braces open. -/
theorem scanLines_entry {line : List Char} {entry : Entry}
    (hcomment : isComment (Text.trim line) = false) (hentry : readEntry line = some entry)
    (rest : List (List Char)) :
    scanLines 1 none (line :: rest) =
      if 0 < braces entry.type then scanLines (1 + braces entry.type) (some entry) rest
      else entry.member :: scanLines 1 none rest := by
  rw [scanLines]
  simp only [hcomment, hentry, if_true]
  rw [if_neg (by decide), if_neg Bool.false_ne_true]

/-- An open entry takes a line in, with a blank between what it has and the line. -/
theorem scanLines_open {depth : Int} (hdepth : 0 < depth) (entry : Entry) (line : List Char)
    (rest : List (List Char)) :
    scanLines depth (some entry) (line :: rest) =
      if depth + braces line = 1 then
        Entry.member { entry with type := entry.type ++ ' ' :: Text.trim line } ::
          scanLines 1 none rest
      else
        scanLines (depth + braces line)
          (some { entry with type := entry.type ++ ' ' :: Text.trim line }) rest := by
  rw [scanLines]
  simp only [braces_trim]
  rw [if_neg (by omega)]

/-- The block ends where its brace is closed, with a semicolon behind the brace
or without. -/
theorem scanLines_close {line : List Char}
    (h : Text.trim line = ['\x7d'] ∨ Text.trim line = ['\x7d', ';']) (rest : List (List Char)) :
    scanLines 1 none (line :: rest) = [] := by
  obtain ⟨more, hline, hmore⟩ : ∃ more, Text.trim line = '\x7d' :: more ∧
      1 + braces ('\x7d' :: more) = 0 := by
    rcases h with h | h
    · exact ⟨_, h, by decide⟩
    · exact ⟨_, h, by decide⟩
  have hcomment : isComment (Text.trim line) = false := by
    rw [hline]
    simp [isComment, List.isPrefixOf]
  rw [scanLines_other hcomment (readEntry_of_first hline (by decide) (by decide) (by decide)),
    hline, hmore]
  cases rest <;> simp [scanLines]

/-- A text that ends with ink other than a semicolon, so that a semicolon behind
it can be told from it. -/
def EndsType (type : List Char) : Prop :=
  ∃ front c, type = front ++ [c] ∧ Text.isBlank c = false ∧ c ≠ ';'

theorem EndsType.append {type : List Char} (h : EndsType type) (s : List Char) :
    EndsType (s ++ type) := by
  obtain ⟨front, c, rfl, hc⟩ := h
  exact ⟨s ++ front, c, by rw [List.append_assoc], hc⟩

theorem EndsType.trim {type : List Char} (h : EndsType type) : EndsType (Text.trim type) := by
  obtain ⟨front, c, rfl, hc, hc'⟩ := h
  exact ⟨Text.trimStart front, c, Text.trim_append_ink front hc, hc, hc'⟩

theorem trim_append_semicolon {type : List Char} (h : EndsType type) :
    Text.trim (type ++ [';']) = Text.trim type ++ [';'] := by
  obtain ⟨front, c, rfl, hc, _⟩ := h
  rw [Text.trim_append_ink _ (by decide), Text.trim_append_ink front hc,
    Text.trimStart_append_ink front hc]

theorem bareType_trim (type : List Char) : bareType (Text.trim type) = bareType type := by
  rw [bareType, Text.trim_trim, bareType]

/-- The semicolon behind a type that begins with ink is taken off, and nothing
else. -/
theorem bareType_append_semicolon {type : List Char}
    (hfirst : ∃ c rest, type = c :: rest ∧ Text.isBlank c = false) (hlast : EndsType type) :
    bareType (type ++ [';']) = type := by
  obtain ⟨c, rest, hc, hink⟩ := hfirst
  obtain ⟨front, d, hd, hdink, hdne⟩ := hlast
  have htrim : Text.trim type = type := Text.trim_of_ink hc hink hd hdink
  rw [bareType, trim_append_semicolon ⟨front, d, hd, hdink, hdne⟩, htrim, hd]
  simp [hdne, Text.trimEnd_append_ink front hdink]

theorem bareType_sublist (type : List Char) : (bareType type).Sublist type :=
  ((Text.trimEnd_sublist _).trans (List.rdropWhile_prefix _ _).sublist).trans (Text.trim_sublist _)

/-- A type that holds no semicolon has only the blanks around it taken off. -/
theorem bareType_of_not_mem {type : List Char} (h : ';' ∉ type) :
    bareType type = Text.trim type := by
  have hnone : ∀ c ∈ (Text.trim type).reverse, ¬decide (c = ';') = true := by
    intro c hc he
    exact h ((Text.trim_sublist type).mem (of_decide_eq_true he ▸ List.mem_reverse.mp hc))
  have hself : (Text.trim type).reverse.dropWhile (· = ';') = (Text.trim type).reverse :=
    List.dropWhile_eq_self_iff.mpr fun hlength => hnone _ (List.getElem_mem hlength)
  have htwice : Text.trimEnd (Text.trim type) = Text.trim type := by
    rw [Text.trim, Text.trimEnd, Text.trimEnd, List.reverse_reverse, List.dropWhile_idempotent]
  rw [bareType, hself, List.reverse_reverse, htwice]

/-- Of a type and a semicolon behind it all semicolons at the end are taken off,
and then the blanks around the rest. -/
theorem bareType_append (type : List Char) :
    ∃ rest n, type = rest ++ List.replicate n ';' ∧ bareType (type ++ [';']) = Text.trim rest := by
  obtain ⟨rest, marks, htype, hmarks, hrest⟩ : ∃ rest marks, type = rest ++ marks ∧
      (∀ c ∈ marks, c = ';') ∧ rest.getLast? ≠ some ';' := by
    refine ⟨(type.reverse.dropWhile (· = ';')).reverse, (type.reverse.takeWhile (· = ';')).reverse,
      ?_, fun c hc => ?_, fun hlast => ?_⟩
    · rw [← List.reverse_append, List.takeWhile_append_dropWhile, List.reverse_reverse]
    · have hmark := List.mem_takeWhile_imp (List.mem_reverse.mp hc)
      exact of_decide_eq_true hmark
    · have hnot := List.head?_dropWhile_not (· = ';') type.reverse
      rw [List.getLast?_reverse] at hlast
      rw [hlast] at hnot
      cases hnot
  obtain ⟨n, rfl⟩ : ∃ n, marks = List.replicate n ';' :=
    ⟨marks.length, List.eq_replicate_iff.mpr ⟨rfl, hmarks⟩⟩
  have hstart : Text.trimStart type = Text.trimStart rest ++ List.replicate n ';' := by
    rw [htype, Text.trimStart, List.dropWhile_append]
    split
    · next hnone =>
      have hink : Text.isBlank ';' = false := by decide
      rw [Text.trimStart, List.isEmpty_iff.mp hnone, List.nil_append]
      cases n <;> simp [hink]
    · rfl
  have hlast : (Text.trimStart rest).reverse.dropWhile (· = ';') =
      (Text.trimStart rest).reverse := by
    obtain ⟨blanks, hblanks⟩ : Text.trimStart rest <:+ rest := List.dropWhile_suffix Text.isBlank
    cases hreverse : (Text.trimStart rest).reverse with
    | nil => rfl
    | cons c more =>
        rw [List.reverse_eq_cons_iff] at hreverse
        refine List.dropWhile_cons_of_neg fun hc => hrest ?_
        rw [← hblanks, hreverse, ← List.append_assoc, List.getLast?_concat, of_decide_eq_true hc]
  refine ⟨rest, n, htype, ?_⟩
  rw [bareType, Text.trim_append_ink _ (by decide), hstart, List.append_assoc,
    ← List.replicate_succ', List.reverse_append, List.reverse_replicate,
    List.dropWhile_append_of_pos (by simp), hlast, List.reverse_reverse, Text.trim]

/-- The lines of a type without the blanks around each, with a space between them. -/
def joined (types : List (List Char)) : List Char := [' '].intercalate (types.map Text.trim)

theorem joined_cons (type : List Char) (types : List (List Char)) :
    joined (type :: types) = Text.trim type ++ types.flatMap (' ' :: Text.trim ·) := by
  rw [joined, List.map_cons]
  induction types generalizing type with
  | nil => simp [List.intercalate]
  | cons next types ih =>
      have hcons : [' '].intercalate (Text.trim type :: Text.trim next :: types.map Text.trim) =
          Text.trim type ++
            ([' '] ++ [' '].intercalate (Text.trim next :: types.map Text.trim)) := by
        simp [List.intercalate]
      rw [List.map_cons, hcons, ih, List.flatMap_cons]
      rfl

/-- An open entry takes in one line after the other as long as its braces are
out of balance, and is a member with the line that brings them into balance. -/
theorem scanLines_pending {types : List (List Char)} {last : List Char}
    {lines : List (List Char)} (hlines : lines.map Text.trim = (types ++ [last]).map Text.trim)
    {entry : Entry}
    (hopen : ∀ front, front <+: types → 0 < braces entry.type + braces front.flatten)
    (hclosed : braces entry.type + braces (types ++ [last]).flatten = 0)
    (rest : List (List Char)) :
    scanLines (1 + braces entry.type) (some entry) (lines ++ rest) =
      Entry.member
          { entry with type := entry.type ++ (types ++ [last]).flatMap (' ' :: Text.trim ·) } ::
        scanLines 1 none rest := by
  have hdepth : 0 < braces entry.type := by simpa [braces] using hopen [] List.nil_prefix
  induction types generalizing entry lines with
  | nil =>
      obtain ⟨line, rfl, hline⟩ : ∃ line, lines = [line] ∧ Text.trim line = Text.trim last := by
        simpa [List.map_eq_cons_iff] using hlines
      have hbraces : braces line = braces last := braces_of_trim_eq hline
      simp only [List.nil_append, List.flatten_cons, List.flatten_nil, List.append_nil] at hclosed
      rw [List.singleton_append, scanLines_open (by omega), if_pos (by omega), hline]
      simp
  | cons type types ih =>
      obtain ⟨line, more, rfl, hline, hmore⟩ : ∃ line more, lines = line :: more ∧
          Text.trim line = Text.trim type ∧
          more.map Text.trim = (types ++ [last]).map Text.trim := by
        rw [List.cons_append, List.map_cons, List.map_eq_cons_iff] at hlines
        obtain ⟨line, more, rfl, hline, hmore⟩ := hlines
        exact ⟨line, more, rfl, hline, hmore⟩
      have hbraces : braces line = braces type := braces_of_trim_eq hline
      have hfirst : 0 < braces entry.type + braces type := by
        simpa using hopen [type] (List.cons_prefix_cons.mpr ⟨rfl, List.nil_prefix⟩)
      obtain ⟨longer, hlonger⟩ : ∃ longer : Entry,
          longer = { entry with type := entry.type ++ ' ' :: Text.trim line } := ⟨_, rfl⟩
      have htype : braces longer.type = braces entry.type + braces type := by
        have hblank : braces [' '] = 0 := rfl
        rw [hlonger, braces_append, braces_cons, hblank, Int.zero_add, braces_trim, hbraces]
      rw [List.cons_append, scanLines_open (by omega), if_neg (by omega), hbraces, Int.add_assoc,
        ← htype, ← hlonger, ih hmore]
      · simp [hlonger, hline]
      · intro front hfront
        have := hopen (type :: front) (List.cons_prefix_cons.mpr ⟨rfl, hfront⟩)
        rw [List.flatten_cons, braces_append] at this
        rw [htype]
        omega
      · rw [List.cons_append, List.flatten_cons, braces_append] at hclosed
        rw [htype]
        omega
      · rw [htype]
        exact hfirst

end SchemaLoom.Member
