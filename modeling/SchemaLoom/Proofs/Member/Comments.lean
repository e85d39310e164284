import SchemaLoom.Proofs.Member.Selected

/-!
# Lines of comment

A line of a comment says nothing, so it makes no difference where it stands: in
front of a block, between members, in the body of an index signature or behind
the block. What a line does depends on where reading stands in front of it, and
the one place that looks at no comment is the type of a member that is still
open.

There the comment becomes a part of the type. If its braces are in balance this
is all that happens; if not, the type ends at another line or never. Reading is
told as a run: what a line completes, where it leaves reading, and how several
lines add up, and a comment is one more step of such a run.
-/

namespace SchemaLoom.Member

/-- Where reading stands between two lines of a block: how many more braces were
opened than closed, and the entry whose type goes on, if one does. -/
structure Standing where
  depth : Int
  pending : Option Entry

namespace Standing

/-- The entry that takes in the next line, whatever this line is; none behind
the end of the block. -/
def openEntry (s : Standing) : Option Entry := if s.depth ≤ 0 then none else s.pending

def goOn (entry : Entry) (line : List Char) : Entry :=
  { entry with type := entry.type ++ ' ' :: Text.trim line }

/-- The members that are read from the lines if reading stands here in front of
them. -/
def members (s : Standing) (lines : List (List Char)) : List Member :=
  scanLines s.depth s.pending lines

/-- The member that a line completes: an entry of its own, or one that went on
up to this line. -/
def gives (s : Standing) (line : List Char) : Option Member :=
  if s.depth ≤ 0 then none
  else
    match s.pending with
    | some entry => if s.depth + braces line = 1 then some (goOn entry line).member else none
    | none =>
      if isComment (Text.trim line) then none
      else (if s.depth = 1 then readEntry line else none).bind fun entry =>
        if 0 < braces entry.type then none else some entry.member

/-- Where reading stands behind a line. A line of a comment changes it only in
the type of an entry. -/
def next (s : Standing) (line : List Char) : Standing :=
  if s.depth ≤ 0 then s
  else
    match s.pending with
    | some entry =>
      if s.depth + braces line = 1 then ⟨1, none⟩
      else ⟨s.depth + braces line, some (goOn entry line)⟩
    | none =>
      if isComment (Text.trim line) then s
      else
        match if s.depth = 1 then readEntry line else none with
        | some entry => if 0 < braces entry.type then ⟨1 + braces entry.type, some entry⟩ else s
        | none => ⟨s.depth + braces line, none⟩

def after (s : Standing) (lines : List (List Char)) : Standing := lines.foldl next s

theorem members_closed {s : Standing} (h : s.depth ≤ 0) (lines : List (List Char)) :
    s.members lines = [] := by
  cases lines with
  | nil => rfl
  | cons line rest =>
      rw [members, scanLines.eq_def]
      exact if_pos h

/-- A line completes at most one member, and reading goes on behind it. -/
theorem members_cons (s : Standing) (line : List Char) (rest : List (List Char)) :
    s.members (line :: rest) = (s.gives line).toList ++ (s.next line).members rest := by
  obtain ⟨depth, pending⟩ := s
  by_cases hdepth : depth ≤ 0
  · rw [members_closed hdepth, gives, next, if_pos hdepth, if_pos hdepth, members_closed hdepth]
    rfl
  cases pending with
  | some entry =>
      rw [members, scanLines_open (Int.not_le.mp hdepth), gives, next, if_neg hdepth, if_neg hdepth]
      dsimp only
      split
      · rfl
      · rfl
  | none =>
      rw [members, scanLines, gives, next, if_neg hdepth, if_neg hdepth, if_neg hdepth]
      dsimp only
      rw [braces_trim]
      split
      · rfl
      · cases (if depth = 1 then readEntry line else none) with
        | none => rfl
        | some entry =>
            dsimp only [Option.bind_some]
            split
            · rfl
            · rfl

/-- Several lines complete what they complete by themselves, and reading goes on
behind them from where they leave it. -/
theorem members_append (s : Standing) (front back : List (List Char)) :
    s.members (front ++ back) = s.members front ++ (s.after front).members back := by
  induction front generalizing s with
  | nil => rfl
  | cons line front ih =>
      rw [List.cons_append, members_cons, ih, members_cons, List.append_assoc]
      rfl

/-- Where no entry is open, a comment completes no member and leaves reading
where it stands. -/
theorem members_comment {s : Standing} (hopen : s.openEntry = none) {line : List Char}
    (hcomment : isComment (Text.trim line) = true) (rest : List (List Char)) :
    s.members (line :: rest) = s.members rest := by
  by_cases hdepth : s.depth ≤ 0
  · rw [members_closed hdepth, members_closed hdepth]
  · have hpending : s.pending = none := by rwa [openEntry, if_neg hdepth] at hopen
    have hgives : s.gives line = none := by
      rw [gives, if_neg hdepth, hpending]
      exact if_pos hcomment
    have hnext : s.next line = s := by
      rw [next, if_neg hdepth, hpending]
      exact if_pos hcomment
    rw [members_cons, hgives, hnext]
    rfl

/-- An entry stays open only where other than one brace is open, since it is
completed as soon as its type is in balance. -/
def Sound (s : Standing) : Prop := s.pending.isSome = true → s.depth ≠ 1

theorem Sound.next {s : Standing} (h : s.Sound) (line : List Char) : (s.next line).Sound := by
  obtain ⟨depth, pending⟩ := s
  by_cases hdepth : depth ≤ 0
  · rw [Standing.next, if_pos hdepth]
    exact h
  rw [Standing.next, if_neg hdepth]
  cases pending with
  | some entry =>
      dsimp only
      split
      · exact fun hsome => Bool.noConfusion hsome
      · next hclosed => exact fun _ => hclosed
  | none =>
      dsimp only
      split
      · exact h
      · cases (if depth = 1 then readEntry line else none) with
        | none => exact fun hsome => Bool.noConfusion hsome
        | some entry =>
            dsimp only
            split
            · next hopen => exact fun _ hone => absurd hopen (by dsimp only at hone; omega)
            · exact h

theorem Sound.after {s : Standing} (h : s.Sound) (lines : List (List Char)) :
    (s.after lines).Sound := by
  induction lines generalizing s with
  | nil => exact h
  | cons line lines ih => exact ih (h.next line)

/-- What is read behind an open entry depends on its type only in the member
that the entry becomes, if it becomes one. -/
theorem members_pending (depth : Int) (key : List Char) (optional : Bool)
    (lines : List (List Char)) :
    (∀ type, members ⟨depth, some ⟨key, optional, type⟩⟩ lines = []) ∨
      ∃ more rest, ∀ type, members ⟨depth, some ⟨key, optional, type⟩⟩ lines =
        Entry.member ⟨key, optional, type ++ more⟩ :: rest := by
  induction lines generalizing depth with
  | nil => exact .inl fun type => rfl
  | cons line lines ih =>
      by_cases hdepth : depth ≤ 0
      · exact .inl fun type => members_closed hdepth _
      have hstep : ∀ type, members ⟨depth, some ⟨key, optional, type⟩⟩ (line :: lines) =
          if depth + braces line = 1 then
            Entry.member ⟨key, optional, type ++ ' ' :: Text.trim line⟩ :: members ⟨1, none⟩ lines
          else
            members ⟨depth + braces line, some ⟨key, optional, type ++ ' ' :: Text.trim line⟩⟩
              lines :=
        fun type => scanLines_open (Int.not_le.mp hdepth) ⟨key, optional, type⟩ line lines
      by_cases hclosed : depth + braces line = 1
      · refine .inr ⟨' ' :: Text.trim line, members ⟨1, none⟩ lines, fun type => ?_⟩
        rw [hstep, if_pos hclosed]
      · rcases ih (depth + braces line) with hnone | ⟨more, rest, hmore⟩
        · refine .inl fun type => ?_
          rw [hstep, if_neg hclosed, hnone]
        · refine .inr ⟨' ' :: Text.trim line ++ more, rest, fun type => ?_⟩
          rw [hstep, if_neg hclosed, hmore, List.append_assoc]

/-- How a line in the type of an entry shows: in the type of the member that the
entry becomes, if it becomes one, and nowhere else. -/
def ShowsIn (entry : Entry) (line : List Char) (plain commented : List Member) : Prop :=
  commented = plain ∨ ∃ before more after,
    plain = before ++ Entry.member { entry with type := entry.type ++ more } :: after ∧
      commented = before ++
        Entry.member { entry with type := (goOn entry line).type ++ more } :: after

theorem ShowsIn.append_left {entry : Entry} {line : List Char} {plain commented : List Member}
    (h : ShowsIn entry line plain commented) (front : List Member) :
    ShowsIn entry line (front ++ plain) (front ++ commented) := by
  rcases h with rfl | ⟨before, more, after, rfl, rfl⟩
  · exact .inl rfl
  · exact .inr ⟨front ++ before, more, after, by rw [List.append_assoc], by rw [List.append_assoc]⟩

/-- An entry takes in a line whose braces are in balance and goes on as it would
without. -/
theorem showsIn_members {s : Standing} (h : s.Sound) {entry : Entry}
    (hopen : s.openEntry = some entry) {line : List Char} (hbraces : braces line = 0)
    (rest : List (List Char)) : ShowsIn entry line (s.members rest) (s.members (line :: rest)) := by
  obtain ⟨depth, pending⟩ := s
  obtain ⟨key, optional, type⟩ := entry
  have hdepth : ¬depth ≤ 0 := fun hclosed => by rw [openEntry, if_pos hclosed] at hopen; cases hopen
  have hpending : pending = some ⟨key, optional, type⟩ := by rwa [openEntry, if_neg hdepth] at hopen
  subst hpending
  have hstep : members ⟨depth, some ⟨key, optional, type⟩⟩ (line :: rest) =
      members ⟨depth, some ⟨key, optional, type ++ ' ' :: Text.trim line⟩⟩ rest := by
    have hone : depth ≠ 1 := h rfl
    rw [members, scanLines_open (Int.not_le.mp hdepth), hbraces, Int.add_zero, if_neg hone]
    rfl
  rw [hstep]
  rcases members_pending depth key optional rest with hnone | ⟨more, after, hmore⟩
  · exact .inl (by rw [hnone, hnone])
  · refine .inr ⟨[], more, after, hmore type, ?_⟩
    rw [hmore, goOn]
    rfl

end Standing

open Standing

/-- The entry whose type goes on behind the lines of a declaration file, when
the members of one block are read. -/
def openEntry (name : List Char) (lines : List (List Char)) : Option Entry :=
  match lines.dropWhile fun line => !opensBlock name line with
  | [] => none
  | opening :: body => (Standing.after ⟨braces opening, none⟩ body).openEntry

theorem ofBlock_cons (opening : List Char) (body : List (List Char)) :
    ofBlock (opening :: body) =
      if braces opening ≤ 0 then inlineMembers opening
      else Standing.members ⟨braces opening, none⟩ body := rfl

def ofLines (name : List Char) (lines : List (List Char)) : List Member :=
  ofBlock (lines.dropWhile fun line => !opensBlock name line)

section Append

variable {name : List Char} {front : List (List Char)} (back : List (List Char))

theorem ofLines_append_of_unopened
    (h : (front.dropWhile fun line => !opensBlock name line) = []) :
    ofLines name (front ++ back) = ofLines name back := by
  rw [ofLines, List.dropWhile_append, h]
  rfl

theorem ofLines_append_of_opened {opening : List Char} {body : List (List Char)}
    (h : (front.dropWhile fun line => !opensBlock name line) = opening :: body) :
    ofLines name (front ++ back) =
      if braces opening ≤ 0 then inlineMembers opening
      else Standing.members ⟨braces opening, none⟩ body ++
        (Standing.after ⟨braces opening, none⟩ body).members back := by
  rw [ofLines, List.dropWhile_append, h, List.isEmpty_cons, if_neg Bool.false_ne_true,
    List.cons_append, ofBlock_cons, members_append]

end Append

/-- What follows takes back no member that the lines in front of it complete. -/
theorem ofLines_prefix (name : List Char) (front back : List (List Char)) :
    ofLines name front <+: ofLines name (front ++ back) := by
  cases hblock : front.dropWhile fun line => !opensBlock name line with
  | nil =>
      have hnone : ofLines name front = [] := by rw [ofLines, hblock]; rfl
      rw [hnone]
      exact List.nil_prefix
  | cons opening body =>
      rw [ofLines_append_of_opened back hblock, ofLines, hblock, ofBlock_cons]
      split
      · exact List.prefix_rfl
      · exact List.prefix_append _ _

section Comment

variable {name : List Char} {line : List Char} (front back : List (List Char))

/-- A comment changes nothing about the members that are read where no entry is
open. -/
theorem ofLines_comment (hcomment : isComment (Text.trim line) = true)
    (hopens : opensBlock name line = false) (hopen : openEntry name front = none) :
    ofLines name (front ++ line :: back) = ofLines name (front ++ back) := by
  rw [openEntry] at hopen
  cases hblock : front.dropWhile fun line => !opensBlock name line with
  | nil =>
      rw [ofLines_append_of_unopened _ hblock, ofLines_append_of_unopened _ hblock,
        ofLines, ofLines, List.dropWhile_cons_of_pos (by rw [hopens]; rfl)]
  | cons opening body =>
      rw [hblock] at hopen
      rw [ofLines_append_of_opened _ hblock, ofLines_append_of_opened _ hblock,
        members_comment hopen hcomment]

/-- Where an entry is open, a comment with its braces in balance shows in the
type of the entry. -/
theorem showsIn_ofLines {entry : Entry} (hopen : openEntry name front = some entry)
    (hbraces : braces line = 0) :
    ShowsIn entry line (ofLines name (front ++ back)) (ofLines name (front ++ line :: back)) := by
  rw [openEntry] at hopen
  cases hblock : front.dropWhile fun line => !opensBlock name line with
  | nil => rw [hblock] at hopen; cases hopen
  | cons opening body =>
      rw [hblock] at hopen
      rw [ofLines_append_of_opened _ hblock, ofLines_append_of_opened _ hblock]
      split
      · exact .inl rfl
      · have hsound : (Standing.after ⟨braces opening, none⟩ body).Sound :=
          Sound.after (fun hsome => Bool.noConfusion hsome) body
        exact (showsIn_members hsound hopen hbraces back).append_left _

end Comment

theorem ofDeclarations_eq_ofLines (text : List Char) (name : String) :
    ofDeclarations (String.ofList text) name = ofLines name.toList (Text.lines text) := by
  rw [ofDeclarations, String.toList_ofList, ofLines]

theorem opensBlock_of_mark (name : List Char) {line : List Char}
    (h : ∃ mark ∈ ["//", "/*", "*"], mark.toList <+: Text.trim line) :
    opensBlock name line = false := by
  obtain ⟨mark, hmark, rest, hrest⟩ := h
  obtain ⟨blanks, _, hstart⟩ := Text.exists_blanks_trimStart line
  rw [← hrest] at hstart
  simp only [List.mem_cons, List.not_mem_nil, or_false] at hmark
  rcases hmark with rfl | rfl | rfl
  · exact opensBlock_of_first name hstart (by decide)
  · exact opensBlock_of_first name hstart (by decide)
  · exact opensBlock_of_first name hstart (by decide)

/-- A line of a comment may be put between any two lines of a file without
changing the members that are read, unless the type of a member goes on there.
If it does and the braces of the comment are in balance, the comment shows in
this type and nowhere else. Whatever its braces, the members completed in front
of it are read as before. -/
theorem ofDeclarations_comment (name : String) {front back line : List Char}
    (hfront : front = [] ∨ front.getLast? = some '\n') (hline : '\n' ∉ line)
    (hcomment : ∃ mark ∈ ["//", "/*", "*"], mark.toList <+: Text.trim line) :
    let before := ofDeclarations (String.ofList front) name
    let plain := ofDeclarations (String.ofList (front ++ back)) name
    let commented := ofDeclarations (String.ofList (front ++ (line ++ '\n' :: back))) name
    (openEntry name.toList (Text.lines front) = none → commented = plain) ∧
      (∀ entry, openEntry name.toList (Text.lines front) = some entry → braces line = 0 →
        ShowsIn entry line plain commented) ∧
      before <+: plain ∧ before <+: commented := by
  intro before plain commented
  have hbefore : before = ofLines name.toList (Text.lines front) :=
    ofDeclarations_eq_ofLines front name
  have hplain : plain = ofLines name.toList (Text.lines front ++ Text.lines back) := by
    rw [← Text.lines_append_of_end hfront]
    exact ofDeclarations_eq_ofLines _ name
  have hcommented : commented =
      ofLines name.toList (Text.lines front ++ Text.chomp line :: Text.lines back) := by
    rw [← Text.lines_append hline, ← Text.lines_append_of_end hfront]
    exact ofDeclarations_eq_ofLines _ name
  have hmark := hcomment
  rw [← Text.trim_chomp line] at hmark
  rw [hbefore, hplain, hcommented]
  refine ⟨fun hopen => ?_, fun entry hopen hbraces => ?_, ofLines_prefix _ _ _,
    ofLines_prefix _ _ _⟩
  · exact ofLines_comment _ _ (isComment_of_mark hmark) (opensBlock_of_mark _ hmark) hopen
  · have hchomp : braces (Text.chomp line) = 0 := by
      rw [braces_of_trim_eq (Text.trim_chomp line), hbraces]
    have hshows := showsIn_ofLines (Text.lines front) (Text.lines back) hopen hchomp
    rw [ShowsIn, goOn, Text.trim_chomp] at hshows
    exact hshows

/-- A comment that closes a brace in the body of an index signature, and one
with its braces in balance in the type of a member. -/
theorem ofDeclarations_comment_signature :
    let front := "export interface Input \x7b\r\n  [k: string]: \x7b\n".toList
    let line := "\t* \x7d".toList
    let back := "    x: string;\n  \x7d;\n  a: string;\n\x7d\n".toList
    let opened := "interface Input \x7b\n  a: \x7b\n".toList
    let balanced := "    // \x7b\x7d".toList
    let entry : Entry := ⟨['a'], false, ['\x7b']⟩
    ((front = [] ∨ front.getLast? = some '\n') ∧ '\n' ∉ line ∧
        (∃ mark ∈ ["//", "/*", "*"], mark.toList <+: Text.trim line) ∧
        openEntry "Input".toList (Text.lines front) = none ∧
        ofDeclarations (String.ofList (front ++ (line ++ '\n' :: back))) "Input" =
          ofDeclarations (String.ofList (front ++ back)) "Input") ∧
      (opened = [] ∨ opened.getLast? = some '\n') ∧ '\n' ∉ balanced ∧
        (∃ mark ∈ ["//", "/*", "*"], mark.toList <+: Text.trim balanced) ∧
        openEntry "Input".toList (Text.lines opened) = some entry ∧ braces balanced = 0 ∧
        ShowsIn entry balanced (ofDeclarations (String.ofList (opened ++ back)) "Input")
          (ofDeclarations (String.ofList (opened ++ (balanced ++ '\n' :: back))) "Input") := by
  intro front line back opened balanced entry
  have hfront : front = [] ∨ front.getLast? = some '\n' := .inr (by decide)
  have hline : '\n' ∉ line := by decide
  have hcomment : ∃ mark ∈ ["//", "/*", "*"], mark.toList <+: Text.trim line :=
    ⟨"*", by decide, by decide⟩
  have hopen : openEntry "Input".toList (Text.lines front) = none := by decide +kernel
  have hfront' : opened = [] ∨ opened.getLast? = some '\n' := .inr (by decide)
  have hline' : '\n' ∉ balanced := by decide
  have hcomment' : ∃ mark ∈ ["//", "/*", "*"], mark.toList <+: Text.trim balanced :=
    ⟨"//", by decide, by decide⟩
  have hopen' : openEntry "Input".toList (Text.lines opened) = some entry := by decide +kernel
  have hbraces : braces balanced = 0 := by decide
  refine ⟨⟨hfront, hline, hcomment, hopen, ?_⟩, hfront', hline', hcomment', hopen', hbraces, ?_⟩
  · exact (ofDeclarations_comment "Input" hfront hline hcomment).1 hopen
  · exact (ofDeclarations_comment "Input" hfront' hline' hcomment').2.1 entry hopen' hbraces

/-- A comment in the type of a member becomes a part of the type, and a brace in
it keeps the type open. -/
theorem ofDeclarations_comment_in_type :
    ofDeclarations "interface Input \x7b\n  a: \x7b\n    x: string;\n  \x7d;\n  b: string;\n\x7d\n"
        "Input" = [⟨"a", "\x7b x: string; \x7d", false⟩, ⟨"b", "string", false⟩] ∧
      ofDeclarations
       "interface Input \x7b\n  a: \x7b\n    // \x7b\n    x: string;\n  \x7d;\n  b: string;\n\x7d\n"
       "Input" = [⟨"a", "\x7b // \x7b x: string; \x7d; b: string; \x7d", false⟩] := by
  decide +kernel

end SchemaLoom.Member
