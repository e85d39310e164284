import Mathlib.Algebra.GroupWithZero.Nat
import Mathlib.Algebra.Order.BigOperators.Group.List
import Mathlib.Algebra.Order.Group.Nat
import SchemaLoom.Proofs.Member.Selected

/-!
# Blocks on one line

A block that is closed in the line that opens it is cut at its semicolons, and
what is between them is read as members, while in a block with a line for each
member the line is read as a whole. Both read the same if no key and no type
holds a semicolon of its own and the keys open no braces; and only then.

That there is no other case is shown by a weight. A key that holds a semicolon
is cut, and the pieces cannot make up for it: what is read from them has less
weight than the member had, and no member gains any.
-/

namespace SchemaLoom.Member

open TypeExpr

/-- The members that stand in a text with semicolons between them; a piece that
is no entry gives none. -/
def separated (s : List Char) : List Member :=
  (Text.splitBy (· = ';') s).filterMap fun piece => (readEntry piece).map Entry.member

theorem separated_append (s t : List Char) :
    separated (s ++ ';' :: t) = separated s ++ separated t := by
  rw [separated, Text.splitBy_append_cons s t (by decide), List.filterMap_append]
  rfl

theorem separated_of_not_mem {s : List Char} (h : ';' ∉ s) :
    separated s = ((readEntry s).map Entry.member).toList := by
  rw [separated, Text.splitBy_of_not_mem h, List.filterMap_cons, List.filterMap_nil]
  cases readEntry s <;> rfl

theorem separated_append_replicate (s : List Char) (n : Nat) :
    separated (s ++ List.replicate n ';') = separated s := by
  induction n with
  | zero => rw [List.replicate_zero, List.append_nil]
  | succ n ih =>
      have hnil : separated [] = [] := rfl
      rw [List.replicate_succ', ← List.append_assoc, separated_append, ih, hnil, List.append_nil]

theorem forall_mem_separated {p : Member → Prop} {q : List Char → Prop}
    (hcut : ∀ s t, q (s ++ ';' :: t) → q s ∧ q t)
    (hpiece : ∀ s, q s → ';' ∉ s → ∀ entry, readEntry s = some entry → p entry.member)
    {s : List Char} (h : q s) : ∀ member ∈ separated s, p member := by
  have hlast : ∀ {s : List Char}, q s → ';' ∉ s → ∀ member ∈ separated s, p member := by
    intro s h hnone member hmember
    rw [separated_of_not_mem hnone, Option.mem_toList, Option.map_eq_some_iff] at hmember
    obtain ⟨entry, hentry, rfl⟩ := hmember
    exact hpiece s h hnone entry hentry
  induction hlength : s.length using Nat.strong_induction_on generalizing s with
  | _ n ih =>
      rcases Text.exists_last_piece (· = ';') s with hnone | ⟨front, c, last, rfl, hc, hrest⟩
      · exact hlast h fun hmem => absurd (hnone _ hmem) (by decide)
      · obtain rfl := of_decide_eq_true hc
        obtain ⟨hfront, hback⟩ := hcut front last h
        rw [separated_append, List.forall_mem_append]
        refine ⟨ih front.length (by simp [← hlength]) hfront rfl, ?_⟩
        exact hlast hback fun hmem => absurd (hrest _ hmem) (by decide)

/-- The members of a block on one line are those between its first brace and its
last. -/
theorem inlineMembers_eq {name : String} (hname : '\x7b' ∉ name.toList) (body : List Char) :
    inlineMembers (openingLine name ++ (body ++ ['\x7d'])) = separated body := by
  have hfront : ∀ c ∈ "export interface ".toList ++ name.toList ++ [' '],
      decide (c ≠ '\x7b') = true := by
    intro c hc
    refine decide_eq_true ?_
    rintro rfl
    simp [hname] at hc
  have hopen : (openingLine name ++ (body ++ ['\x7d'])).dropWhile (· ≠ '\x7b') =
      '\x7b' :: (body ++ ['\x7d']) := by
    have hline : openingLine name ++ (body ++ ['\x7d']) =
        ("export interface ".toList ++ name.toList ++ [' ']) ++ '\x7b' :: (body ++ ['\x7d']) := by
      rw [openingLine_eq, ← List.append_assoc _ body, List.append_assoc _ [' ']]
      simp
    rw [hline, List.dropWhile_append_of_pos hfront]
    rfl
  rw [inlineMembers, hopen]
  simp [separated]

/-- A member as it may be written on one line: a key, bare or quoted, perhaps a
mark, and a type whose braces are in balance. Its key is known with and without
quotes. -/
structure Written where
  keyText : List Char
  key : String
  optional : Bool
  type : List Char
  isKey : KeyText keyText key
  unbroken : '\n' ∉ type
  balanced : braces type = 0

namespace Written

/-- The member as it is read where it has a line of its own: its type without
semicolons and blanks at the end. -/
def member (written : Written) : Member :=
  ⟨written.key, String.ofList (bareType (written.type ++ [';'])), written.optional⟩

def chars (written : Written) : List Char :=
  memberFront false written.keyText written.optional ++ written.type

/-- The line of the member in a block with a line for each. -/
def line (written : Written) : List Char :=
  lineOf written.keyText written.optional written.type

theorem newline_not_mem_chars (written : Written) : '\n' ∉ written.chars := by
  have hkey := written.isKey.newline_not_mem
  have htype := written.unbroken
  rw [chars, memberFront]
  cases written.optional <;> simp [hkey, htype]

theorem newline_not_mem_line (written : Written) : '\n' ∉ written.line := by
  have hchars := written.newline_not_mem_chars
  rw [chars, List.mem_append, not_or] at hchars
  simp [line, lineOf, hchars]

theorem braces_chars (written : Written) : braces written.chars = braces written.keyText := by
  rw [chars, braces_append, written.balanced, memberFront]
  cases written.optional <;> simp [braces]

/-- The type is its own text up to semicolons at the end if the member's type
holds none. -/
theorem exists_type {written : Written} (h : ';' ∉ written.member.declaredType.toList) :
    ∃ type n, written.type = type ++ List.replicate n ';' ∧ ';' ∉ type ∧
      written.member.declaredType = String.ofList (Text.trim type) := by
  obtain ⟨type, n, htype, hbare⟩ := bareType_append written.type
  have hdeclared : written.member.declaredType = String.ofList (Text.trim type) := by
    rw [member, hbare]
  rw [hdeclared, String.toList_ofList] at h
  exact ⟨type, n, htype, fun hmem => h (Text.mem_trim (by decide) hmem), hdeclared⟩

/-- Without semicolons of its own a member is read from its text alone. -/
theorem separated_chars {written : Written} (hkey : ';' ∉ written.keyText)
    (htype : ';' ∉ written.member.declaredType.toList) :
    separated (' ' :: written.chars) = [written.member] := by
  obtain ⟨type, n, hwritten, hnone, hdeclared⟩ := exists_type htype
  have hchars : ' ' :: written.chars =
      ' ' :: (memberFront false written.keyText written.optional ++ type) ++
        List.replicate n ';' := by
    rw [chars, hwritten, List.cons_append, List.append_assoc]
  have hline : ';' ∉ ' ' :: (memberFront false written.keyText written.optional ++ type) := by
    rw [memberFront]
    cases written.optional <;> simp [hkey, hnone]
  obtain ⟨c, rest, hfirst, hc⟩ :=
    written.isKey.exists_first_front false written.optional
  have hstart :
      Text.trimStart (' ' :: (memberFront false written.keyText written.optional ++ type)) =
        memberFront false written.keyText written.optional ++ type := by
    rw [Text.trimStart_cons_blank (by decide), hfirst, List.cons_append,
      Text.trimStart_cons_ink hc.isBlank]
  rw [hchars, separated_append_replicate, separated_of_not_mem hline,
    readEntry_of_trimStart written.isKey hstart, Option.map_some, Option.toList_some,
    Entry.member, bareType_trim, bareType_of_not_mem hnone, ← hdeclared, String.ofList_toList]
  rfl

end Written

/-- Every double quote in the text stands behind a backslash. -/
def Escaped (s : List Char) : Prop :=
  ∀ before more, s = before ++ '\x22' :: more → before.getLast? = some '\\'

theorem escaped_of_not_mem {s : List Char} (h : '\x22' ∉ s) : Escaped s := by
  rintro before more rfl
  exact absurd (by simp) h

theorem Escaped.append {s t : List Char} (hs : Escaped s) (ht : Escaped t) : Escaped (s ++ t) := by
  intro before more h
  rcases List.append_eq_append_iff.mp h with ⟨front, rfl, hfront⟩ | ⟨rest, rfl, hrest⟩
  · rw [List.getLast?_append, ht front more hfront]
    rfl
  · cases rest with
    | nil =>
        have hempty := ht [] more (by simpa using hrest.symm)
        cases hempty
    | cons c rest =>
        rw [List.cons_append, List.cons.injEq] at hrest
        exact hs before rest (by rw [hrest.1])

theorem Escaped.left {s t : List Char} (h : Escaped (s ++ t)) : Escaped s :=
  fun before more hs => h before (more ++ t) (by rw [hs]; simp)

theorem Escaped.right {s t : List Char} {c : Char} (hc : c ≠ '\\')
    (h : Escaped (s ++ c :: t)) : Escaped t := by
  intro before more ht
  have hlast := h (s ++ c :: before) more (by rw [ht]; simp)
  rw [List.getLast?_append, List.getLast?_cons] at hlast
  cases hbefore : before.getLast? with
  | none =>
      rw [hbefore] at hlast
      exact absurd (Option.some.inj hlast) hc
  | some d =>
      rw [hbefore] at hlast
      exact hlast

/-- Behind a text with all its quotes escaped, the first quote that is not is
found in one way. -/
theorem Escaped.rest_eq {s before rest rest' : List Char} (hs : Escaped s)
    (h : s ++ '\x22' :: rest = before ++ '\x22' :: rest') (hquote : '\x22' ∉ before)
    (hback : '\\' ∉ before) : rest = rest' := by
  rcases List.append_eq_append_iff.mp h with ⟨more, rfl, hmore⟩ | ⟨more, rfl, hmore⟩
  · cases more with
    | nil => exact (List.cons.inj hmore).2
    | cons c more =>
        obtain rfl := (List.cons.inj hmore).1
        exact absurd (by simp) hquote
  · cases more with
    | nil => exact (List.cons.inj hmore).2.symm
    | cons c more =>
        have hescaped := hs before more (by rw [(List.cons.inj hmore).1])
        exact absurd (List.mem_of_getLast? hescaped) hback

/-- In the text of a string all quotes are escaped. -/
theorem escaped_of_spells {body text : List Char} (h : Json.Spells body text) : Escaped body := by
  have hquote : Json.hexValue? '\x22' = none := by decide
  induction h with
  | nil => exact escaped_of_not_mem (by simp)
  | cons hpiece _ ih =>
      refine Escaped.append ?_ ih
      cases hpiece with
      | plain hne => exact escaped_of_not_mem (by simpa using hne.symm)
      | @letter letter _ =>
          intro before more h
          match before with
          | [] => cases h
          | [c] => rw [(List.cons.inj h).1, List.getLast?_singleton]
          | _ :: _ :: _ => simp at h
      | code hcode => exact escaped_of_not_mem (by simp [hcode.not_mem hquote])
      | pair hfirst _ hsecond =>
          exact escaped_of_not_mem (by simp [hfirst.not_mem hquote, hsecond.not_mem hquote])

/-- Of an entry whose key holds a character that is not in the line, the key
stands between double quotes, with only the word `readonly` and blanks in front,
and the type behind it. -/
theorem exists_quotes {line : List Char} {entry : Entry} (h : readEntry line = some entry)
    {c : Char} (hkey : c ∈ entry.key) (hline : c ∉ line) :
    ∃ before body type, line = before ++ '\x22' :: (body ++ '\x22' :: type) ∧
      '\x22' ∉ before ∧ '\\' ∉ before ∧ entry.type.count '\x22' ≤ type.count '\x22' := by
  obtain ⟨before, keyed, rest, type, rfl, -, hsuffix, htype, hbefore, hmem | ⟨body, rfl⟩⟩ :=
    readEntry_eq_some h
  · exact absurd (List.mem_append_right before (hmem c hkey)) hline
  · refine ⟨before, body, rest, rfl, fun hquote => ?_, fun hback => ?_, ?_⟩
    · exact absurd (hbefore _ hquote) (by decide)
    · exact absurd (hbefore _ hback) (by decide)
    · rw [htype, Text.count_trim (by decide)]
      exact hsuffix.sublist.count_le _

/-- Where all quotes are escaped no key holds a character that is not in the line. -/
theorem Escaped.mem_of_mem_key {line : List Char} {entry : Entry} (hline : Escaped line)
    (h : readEntry line = some entry) {c : Char} (hc : c ∈ entry.key) : c ∈ line := by
  by_contra hnot
  obtain ⟨before, body, type, rfl, -, hback, -⟩ := exists_quotes h hc hnot
  exact hback (List.mem_of_getLast? (hline before _ rfl))

/-- What is left of a quoted key that is cut short is no entry. -/
theorem readEntry_of_cut {s t text : List Char} (h : Json.Spells (s ++ t) text) :
    readEntry (' ' :: '\x22' :: s) = none := by
  have hopen : quotedBody '\x22' s = none := by
    cases hs : quotedBody '\x22' s with
    | none => rfl
    | some p =>
        -- The key would end within `s`, but it ends behind the whole text only.
        obtain ⟨body, rest⟩ := p
        obtain ⟨hshort, hmore⟩ := quotedBody_eq_some hs
        have hwhole := quotedBody_spells h []
        rw [List.append_assoc, hmore] at hwhole
        have hbody := congrArg List.length (Prod.mk.inj (Option.some.inj hwhole)).1
        have hlength := congrArg List.length hshort
        simp only [List.length_append, List.length_cons] at hbody hlength
        omega
  have hstart : Text.trimStart (' ' :: '\x22' :: s) = '\x22' :: s := rfl
  have hskip : skipWord "readonly" ('\x22' :: s) = '\x22' :: s := rfl
  have hread : readKeyed ('\x22' :: s) = none := by
    rw [readKeyed, readKey, if_neg (by decide), if_pos (by decide), hopen]
    rfl
  rw [readEntry, hstart]
  simp only [hskip, hread, Option.or_none]

/-- The weight of a member whose key holds a semicolon; no other member has any.
A member that is read from the rest of such a key has the less, since the quotes
of a key of its own come out of the type. -/
def weight (member : Member) : Nat :=
  if ';' ∈ member.key.toList then member.declaredType.toList.count '\x22' + 1 else 0

def weights (members : List Member) : Nat := (members.map weight).sum

theorem weights_append (members more : List Member) :
    weights (members ++ more) = weights members + weights more := by
  rw [weights, List.map_append, List.sum_append, weights, weights]

theorem weights_eq_zero {members : List Member} (h : ∀ member ∈ members, ';' ∉ member.key.toList) :
    weights members = 0 := by
  refine List.sum_eq_zero fun n hn => ?_
  obtain ⟨member, hmember, rfl⟩ := List.mem_map.mp hn
  exact if_neg (h member hmember)

/-- A quoted key that is cut short leaves no member with weight. -/
theorem weights_of_cut {s t text : List Char} (h : Json.Spells (s ++ t) text) :
    weights (separated (' ' :: '\x22' :: s)) = 0 := by
  refine weights_eq_zero (forall_mem_separated (q := fun s => Escaped s ∨
    ∃ front more text, s = ' ' :: '\x22' :: front ∧ Json.Spells (front ++ more) text) ?_ ?_
      (.inr ⟨s, t, text, rfl, h⟩))
  · rintro s t (hescaped | ⟨front, more, text, hs, hspells⟩)
    · exact ⟨.inl hescaped.left, .inl (hescaped.right (by decide))⟩
    · match s with
      | [] => exact absurd (List.cons.inj hs).1 (by decide)
      | [_] => exact absurd (List.cons.inj (List.cons.inj hs).2).1 (by decide)
      | c :: d :: s =>
          obtain ⟨rfl, rfl, hfront⟩ : c = ' ' ∧ d = '\x22' ∧ s ++ ';' :: t = front := by
            simpa using hs
          rw [← hfront, List.append_assoc] at hspells
          have hescaped := (escaped_of_spells hspells).right (by decide)
          exact ⟨.inr ⟨s, _, text, rfl, hspells⟩, .inl hescaped.left⟩
  · rintro s (hescaped | ⟨front, more, text, rfl, hspells⟩) hnone entry hentry hmem
    · rw [Entry.member, String.toList_ofList] at hmem
      exact hnone (hescaped.mem_of_mem_key hentry hmem)
    · rw [readEntry_of_cut hspells] at hentry
      cases hentry

/-- Behind a quote a member with weight begins only at the next quotes. -/
theorem weights_of_closed {last mark type : List Char} (hlast : Escaped last)
    (hmark : '\x22' ∉ mark) (hnone : ';' ∉ last ++ '\x22' :: (mark ++ type)) :
    weights (separated (last ++ '\x22' :: (mark ++ type))) ≤ type.count '\x22' := by
  rw [separated_of_not_mem hnone]
  cases hentry : readEntry (last ++ '\x22' :: (mark ++ type)) with
  | none => exact Nat.zero_le _
  | some entry =>
      have hone : weights ((some entry).map Entry.member).toList = weight entry.member := by
        simp [weights]
      rw [hone, weight, Entry.member, String.toList_ofList, String.toList_ofList]
      split
      · next hkey =>
        obtain ⟨before, body, rest, hline, hquote, hback, hcount⟩ :=
          exists_quotes hentry hkey hnone
        have hafter := hlast.rest_eq hline hquote hback
        have hsum := congrArg (List.count '\x22') hafter
        rw [List.count_append, List.count_append, List.count_eq_zero_of_not_mem hmark,
          List.count_cons_self] at hsum
        rw [count_bareType (by decide) (by decide)]
        omega
      · exact Nat.zero_le _

theorem KeyText.exists_body {text : List Char} {key : String} (h : KeyText text key)
    (hmem : ';' ∈ text) :
    ∃ front last, text = '\x22' :: (front ++ ';' :: (last ++ ['\x22'])) ∧ ';' ∉ last ∧
      Json.Spells (front ++ ';' :: last) key.toList := by
  cases h with
  | bare h =>
      obtain ⟨_, _, _, _, hall⟩ := isIdentifier_iff.mp h
      exact absurd (hall _ hmem) (by decide)
  | @quoted body _ h =>
      have hbody : ';' ∈ body := by simpa using hmem
      rcases Text.exists_last_piece (· = ';') body with hnone | ⟨front, c, last, rfl, hc, hlast⟩
      · exact absurd (hnone _ hbody) (by decide)
      · obtain rfl := of_decide_eq_true hc
        exact ⟨front, last, by simp, fun hmem => absurd (hlast _ hmem) (by decide), h⟩

/-- From a key that holds a semicolon less weight is read than the member has. -/
theorem Written.weights_lt {written : Written} (hkey : ';' ∈ written.keyText)
    (htype : ';' ∉ written.member.declaredType.toList) :
    weights (separated (' ' :: written.chars)) < weight written.member := by
  obtain ⟨type, n, hwritten, hnone, hdeclared⟩ := Written.exists_type htype
  obtain ⟨front, last, htext, hlast, hspells⟩ := written.isKey.exists_body hkey
  have hmem : ';' ∈ written.member.key.toList :=
    (hspells.mem_of_mem (d := ';') (by decide) (by simp)).1
  obtain ⟨mark, hmark⟩ : ∃ mark, mark = (if written.optional then ['?'] else []) ++ ": ".toList :=
    ⟨_, rfl⟩
  have hfree : '\x22' ∉ mark ∧ ';' ∉ mark := by
    rw [hmark]
    cases written.optional <;> decide
  have hchars : ' ' :: written.chars = (' ' :: '\x22' :: front) ++
      ';' :: (last ++ '\x22' :: (mark ++ type) ++ List.replicate n ';') := by
    rw [Written.chars, memberFront, ← hmark, htext, hwritten]
    simp
  have hpiece : ';' ∉ last ++ '\x22' :: (mark ++ type) := by
    simp [hlast, hfree.2, hnone]
  have hescaped : Escaped last := (escaped_of_spells hspells).right (by decide)
  have hread := weights_of_closed hescaped hfree.1 hpiece
  have hweight : weight written.member = type.count '\x22' + 1 := by
    rw [weight, if_pos hmem, hdeclared, String.toList_ofList, Text.count_trim (by decide)]
  rw [hchars, separated_append, weights_append, weights_of_cut hspells, separated_append_replicate,
    hweight]
  omega

/-- The text of a block with a line for each member, as an exported interface. -/
def manyLines (name : String) (members : List Written) : String :=
  interfaceText name (members.map Written.line)

def bodyChars (members : List Written) : List Char :=
  (members.flatMap fun written => ' ' :: (written.chars ++ [';'])) ++ [' ']

def oneLineChars (name : String) (members : List Written) : List Char :=
  openingLine name ++ (bodyChars members ++ ['\x7d'])

/-- The text of the same block on one line, with a semicolon behind each member. -/
def oneLine (name : String) (members : List Written) : String :=
  String.ofList (oneLineChars name members ++ ['\n'])

theorem ofDeclarations_manyLines {name : String} (hname : IsName name) (members : List Written) :
    ofDeclarations (manyLines name members) name = members.map Written.member := by
  have hbody : ∀ line ∈ members.map Written.line, '\n' ∉ line ∧ Text.chomp line = line := by
    rw [List.forall_mem_map]
    exact fun written _ => ⟨written.newline_not_mem_line, chomp_lineOf _ _ _⟩
  have hlines := lines_interfaceText hname.legible.newline hbody
  have hopening := opening_openingLine name
  exact ofDeclarations_of_map hlines (opensBlock_of_opening hname hopening)
    (braces_of_opening hname hopening) fun written _ =>
      scanLines_lineOf written.isKey written.optional written.balanced

theorem lines_oneLine {name : String} (hname : IsName name) (members : List Written) :
    Text.lines (oneLine name members).toList = [oneLineChars name members] := by
  have hnewline : '\n' ∉ oneLineChars name members := by
    have hopening := newline_not_mem_openingLine hname.legible.newline
    simp [oneLineChars, bodyChars, hopening, Written.newline_not_mem_chars]
  have hchomp : Text.chomp (oneLineChars name members) = oneLineChars name members := by
    rw [oneLineChars, ← List.append_assoc, Text.chomp_append_singleton _ (by decide)]
  rw [oneLine, String.toList_ofList, Text.lines_append hnewline, hchomp]
  rfl

theorem opensBlock_oneLineChars {name : String} (hname : IsName name) (members : List Written) :
    opensBlock name.toList (oneLineChars name members) = true := by
  have hskip : skipWord "declare" (skipWord "export" (Text.trimStart (oneLineChars name members))) =
      "interface".toList ++ ' ' :: (name.toList ++ ' ' :: '\x7b' ::
        (bodyChars members ++ ['\x7d'])) := by
    rw [oneLineChars, openingLine_eq, List.append_assoc, List.append_assoc]
    rfl
  exact opensBlock_interface hname hskip

/-- Only the keys can bring the braces of the line out of balance. -/
theorem braces_oneLineChars {name : String} (hname : IsName name) (members : List Written) :
    braces (oneLineChars name members) = braces (members.flatMap Written.keyText) := by
  have hblank : braces [' '] = 0 := rfl
  have hbody : braces (bodyChars members) = braces (members.flatMap Written.keyText) := by
    rw [bodyChars, braces_append, hblank, Int.add_zero]
    induction members with
    | nil => rfl
    | cons written more ih =>
        have hmark : braces [';'] = 0 := rfl
        rw [List.flatMap_cons, List.flatMap_cons, braces_append, braces_append, ih, braces_cons,
          braces_append, written.braces_chars, hblank, hmark, Int.zero_add, Int.add_zero]
  have hclose : braces ['\x7d'] = -1 := rfl
  rw [oneLineChars, braces_append, braces_of_opening hname (opening_openingLine name),
    braces_append, hbody, hclose]
  omega

/-- The members of a block on one line are read each from its own text. -/
theorem separated_bodyChars (members : List Written) :
    separated (bodyChars members) =
      members.flatMap fun written => separated (' ' :: written.chars) := by
  induction members with
  | nil => rfl
  | cons written more ih =>
      have hbody : bodyChars (written :: more) = ' ' :: written.chars ++ ';' :: bodyChars more := by
        simp [bodyChars]
      rw [hbody, separated_append, ih, List.flatMap_cons]

/-- What is read of a block on one line. If the keys leave a brace open, the
line does not close the block, and nothing follows. -/
theorem ofDeclarations_oneLine_eq {name : String} (hname : IsName name) (members : List Written) :
    ofDeclarations (oneLine name members) name =
      if braces (members.flatMap Written.keyText) ≤ 0 then
        members.flatMap fun written => separated (' ' :: written.chars)
      else [] := by
  have hopens := opensBlock_oneLineChars hname members
  rw [ofDeclarations, lines_oneLine hname, List.dropWhile_cons_of_neg (by rw [hopens]; decide),
    ofBlock, braces_oneLineChars hname]
  split
  · have hbrace : '\x7b' ∉ name.toList := fun hmem => absurd (hname.word _ hmem) (by decide)
    rw [oneLineChars, inlineMembers_eq hbrace, separated_bodyChars]
  · rfl

theorem weights_flatMap (members : List Written) (f : Written → List Member) :
    weights (members.flatMap f) = (members.map fun written => weights (f written)).sum := by
  induction members with
  | nil => rfl
  | cons written more ih =>
      rw [List.flatMap_cons, weights_append, ih, List.map_cons, List.sum_cons]

theorem semicolon_not_mem_declaredType (s : List Char) :
    ∀ member ∈ separated s, ';' ∉ member.declaredType.toList := by
  refine forall_mem_separated (q := fun _ => True) (fun _ _ _ => ⟨trivial, trivial⟩) ?_ trivial
  intro s _ hnone entry hentry hmem
  obtain ⟨before, keyed, rest, type, rfl, hrest, htype, htrim, -⟩ := readEntry_eq_some hentry
  rw [Entry.member, String.toList_ofList] at hmem
  have htext := (bareType_sublist _).mem hmem
  rw [htrim] at htext
  have hkeyed := hrest.subset (htype.subset ((Text.trim_sublist type).mem htext))
  exact hnone (List.mem_append_right before hkeyed)

/-- If the members are read each from its own text, no semicolon stands in their
keys and types. -/
theorem Written.semicolon_not_mem_of_eq {members : List Written}
    (h : (members.flatMap fun written => separated (' ' :: written.chars)) =
      members.map Written.member) :
    ∀ written ∈ members, ';' ∉ written.keyText ∧ ';' ∉ written.member.declaredType.toList := by
  have htypes : ∀ written ∈ members, ';' ∉ written.member.declaredType.toList := by
    intro written hwritten
    have hmem := List.mem_map_of_mem (f := Written.member) hwritten
    rw [← h, List.mem_flatMap] at hmem
    obtain ⟨source, -, hread⟩ := hmem
    exact semicolon_not_mem_declaredType _ _ hread
  -- Weight is lost with every semicolon in a key, and is nowhere gained.
  have hle : ∀ written ∈ members,
      weights (separated (' ' :: written.chars)) ≤ weight written.member := by
    intro written hwritten
    by_cases hkey : ';' ∈ written.keyText
    · exact (weights_lt hkey (htypes written hwritten)).le
    · rw [separated_chars hkey (htypes written hwritten)]
      simp [weights]
  refine fun written hwritten => ⟨fun hkey => ?_, htypes written hwritten⟩
  have hlt := List.sum_lt_sum _ _ hle ⟨written, hwritten, weights_lt hkey (htypes written hwritten)⟩
  rw [← weights_flatMap, h, weights, List.map_map] at hlt
  exact absurd hlt (lt_irrefl _)

/-- A block is read the same on one line and on several exactly if no key and no
type holds a semicolon and the keys open no braces. On several lines all its
members are read, and nothing else. -/
theorem ofDeclarations_oneLine {name : String} (hname : IsName name) (members : List Written) :
    ofDeclarations (manyLines name members) name = members.map Written.member ∧
      (ofDeclarations (oneLine name members) name = ofDeclarations (manyLines name members) name ↔
        braces (members.flatMap Written.keyText) ≤ 0 ∧
          ∀ written ∈ members, ';' ∉ written.keyText ∧
            ';' ∉ written.member.declaredType.toList) := by
  refine ⟨ofDeclarations_manyLines hname members, ?_⟩
  rw [ofDeclarations_manyLines hname, ofDeclarations_oneLine_eq hname]
  split
  · next hclosed =>
    refine ⟨fun h => ⟨hclosed, Written.semicolon_not_mem_of_eq h⟩, fun ⟨_, h⟩ => ?_⟩
    rw [List.map_eq_flatMap]
    exact List.flatMap_congr fun written hwritten =>
      Written.separated_chars (h written hwritten).1 (h written hwritten).2
  · next hopen =>
    refine iff_of_false (fun h => ?_) fun h => hopen h.1
    have hnil : members = [] := List.map_eq_nil_iff.mp h.symm
    rw [hnil] at hopen
    exact hopen (by decide)

/-- A member called `readonly` with a literal type, and a key whose semicolon is
spelled by its number. -/
theorem ofDeclarations_oneLine_escaped :
    IsName "Input_2" ∧ ∃ members : List Written,
      oneLine "Input_2" members =
        "export interface Input_2 \x7b readonly?: \x7b x: 1, y: \x7b\x7d \x7d; " ++
          "\x22a\\u003b\x7b\x7d\x22: 'b: c'; \x7d\n" ∧
      ofDeclarations (oneLine "Input_2" members) "Input_2" =
        [⟨"readonly", "\x7b x: 1, y: \x7b\x7d \x7d", true⟩,
          ⟨"a;\x7b\x7d", "'b: c'", false⟩] := by
  have hname : IsName "Input_2" := ⟨by decide, List.all_eq_true.mp (by decide)⟩
  have hcode : Json.IsCode ['0', '0', '3', 'b'] 0x3B :=
    .digits (w := 0) (x := 0) (y := 3) (z := 11) rfl rfl rfl rfl
  have hspells : Json.Spells "a\\u003b\x7b\x7d".toList "a;\x7b\x7d".toList :=
    .cons (.plain (by decide) (by decide) (by decide)) (.cons (.code hcode (by decide))
      (.cons (.plain (by decide) (by decide) (by decide))
        (.cons (.plain (by decide) (by decide) (by decide)) .nil)))
  let members : List Written :=
    [{ keyText := "readonly".toList
       key := "readonly"
       optional := true
       type := "\x7b x: 1, y: \x7b\x7d \x7d".toList
       isKey := .bare (by decide)
       unbroken := by decide
       balanced := by decide },
      { keyText := _
        key := "a;\x7b\x7d"
        optional := false
        type := "'b: c'".toList
        isKey := .quoted hspells
        unbroken := by decide
        balanced := by decide }]
  obtain ⟨hmany, hone⟩ := ofDeclarations_oneLine hname members
  have hfree : ∀ written ∈ members, ';' ∉ written.keyText ∧
      ';' ∉ written.member.declaredType.toList := by
    simp only [members, List.forall_mem_cons, Written.member, String.toList_ofList]
    exact ⟨⟨by decide, by decide⟩, ⟨by decide, by decide⟩, by simp⟩
  have hbraces : braces (members.flatMap Written.keyText) ≤ 0 :=
    show braces ("readonly".toList ++ "\x22a\\u003b\x7b\x7d\x22".toList) ≤ 0 by decide
  refine ⟨hname, members, rfl, ?_⟩
  rw [hone.mpr ⟨hbraces, hfree⟩, hmany]
  rfl

/-- A semicolon in the type of a member ends the member on one line, and what
follows is another one. -/
theorem ofDeclarations_oneLine_nested :
    let inside := "a: \x7b x: string; y: number \x7d;"
    ofDeclarations ("export interface Input \x7b " ++ inside ++ " b: string; \x7d\n") "Input" =
        [⟨"a", "\x7b x: string", false⟩, ⟨"y", "number \x7d", false⟩, ⟨"b", "string", false⟩] ∧
      ofDeclarations ("export interface Input \x7b\n  " ++ inside ++ "\n  b: string;\n\x7d\n")
          "Input" =
        [⟨"a", "\x7b x: string; y: number \x7d", false⟩, ⟨"b", "string", false⟩] := by
  decide +kernel

end SchemaLoom.Member
