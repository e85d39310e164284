import SchemaLoom.Proofs.Member.Blocks
import SchemaLoom.Proofs.TypeExpr.Named

/-!
# The block of a name

The block that is read is the first that opens with the name that is asked for
and ends the word there. Where a word ends is told by word characters, and a
dollar sign is none although a name may have it.

So the name that is asked for is also taken for the front of a longer name, if
just one of the two characters at the cut is a dollar sign, and a name that ends
with a dollar sign does not find its own block. Without dollar signs a block is
found by its own name and by no other.
-/

namespace SchemaLoom.Member

open TypeExpr

/-- The text of an exported interface with the lines of its body, which is
closed on a line of its own. -/
def interfaceText (name : String) (body : List (List Char)) : String :=
  String.ofList ((openingLine name :: (body ++ [['\x7d']])).flatMap (· ++ ['\n']))

theorem lines_interfaceText {name : String} (hname : '\n' ∉ name.toList) {body : List (List Char)}
    (hbody : ∀ line ∈ body, '\n' ∉ line ∧ Text.chomp line = line) :
    Text.lines (interfaceText name body).toList = openingLine name :: (body ++ [['\x7d']]) := by
  have hlines : ∀ line ∈ openingLine name :: (body ++ [['\x7d']]), '\n' ∉ line := by
    rw [List.forall_mem_cons, List.forall_mem_append]
    exact ⟨newline_not_mem_openingLine hname, fun line hline => (hbody line hline).1, by decide⟩
  have hchomp : body.map Text.chomp = body :=
    (List.map_congr_left fun line hline => (hbody line hline).2).trans (List.map_id' body)
  have hflat := Text.lines_flatMap hlines []
  have hclose : [['\x7d']].map Text.chomp ++ Text.lines [] = [['\x7d']] := rfl
  rw [List.append_nil, List.map_cons, chomp_openingLine, List.map_append, List.cons_append,
    List.append_assoc, hclose, hchomp] at hflat
  rw [interfaceText, String.toList_ofList, hflat]

def lineOf (text : List Char) (optional : Bool) (type : List Char) : List Char :=
  ' ' :: ' ' :: (memberFront false text optional ++ (type ++ [';']))

section Line

variable {text type : List Char} {key : String}

theorem trim_lineOf (text : List Char) (optional : Bool) (type : List Char) :
    Text.trim (lineOf text optional type) =
      Text.trim (memberFront false text optional ++ (type ++ [';'])) := by
  rw [lineOf, Text.trim_cons_blank (by decide), Text.trim_cons_blank (by decide)]

theorem chomp_lineOf (text : List Char) (optional : Bool) (type : List Char) :
    Text.chomp (lineOf text optional type) = lineOf text optional type := by
  rw [lineOf, ← List.append_assoc, ← List.cons_append, ← List.cons_append,
    Text.chomp_append_singleton _ (by decide)]

/-- The line of a member is read as the member if the braces of its type are in
balance. -/
theorem scanLines_lineOf (hkey : KeyText text key) (optional : Bool) (hbraces : braces type = 0)
    (rest : List (List Char)) :
    scanLines 1 none (lineOf text optional type :: rest) =
      ⟨key, String.ofList (bareType (type ++ [';'])), optional⟩ :: scanLines 1 none rest := by
  have hink : ∃ c ∈ type ++ [';'], Text.isBlank c = false := ⟨';', by simp, by decide⟩
  have hmark : braces [';'] = 0 := rfl
  have hbalance : braces (Text.trim (type ++ [';'])) = 0 := by
    rw [braces_trim, braces_append, hbraces, hmark, Int.add_zero]
  rw [scanLines_entry (isComment_of_trim hkey hink (trim_lineOf text optional type))
    (readEntry_of_trim hkey hink (trim_lineOf text optional type)), if_neg (by simp [hbalance]),
    Entry.member, bareType_trim, String.ofList_toList]

end Line

/-- If each line between is read as a member, the block is read as all of them. -/
theorem ofDeclarations_of_map {α : Type} {line : α → List Char} {member : α → Member}
    {written : List α} {text name : String} {opening : List Char}
    (hlines : Text.lines text.toList = opening :: (written.map line ++ [['\x7d']]))
    (hopens : opensBlock name.toList opening = true) (hbraces : braces opening = 1)
    (h : ∀ x ∈ written, ∀ rest,
      scanLines 1 none (line x :: rest) = member x :: scanLines 1 none rest) :
    ofDeclarations text name = written.map member := by
  have hclose : Text.trim ['\x7d'] = ['\x7d'] := rfl
  have hfirst : Text.lines text.toList = [] ++ opening :: (written.map line ++ [['\x7d']]) := hlines
  rw [ofDeclarations_of_lines hfirst (by simp) hopens hbraces]
  clear hlines hfirst
  induction written with
  | nil => exact scanLines_close (.inl hclose) []
  | cons x written ih =>
      rw [List.forall_mem_cons] at h
      rw [List.map_cons, List.cons_append, h.1, ih h.2, List.map_cons]

/-- A text without lines that open the block has no members of it. -/
theorem ofDeclarations_of_unopened {text name : String}
    (h : ∀ line ∈ Text.lines text.toList, opensBlock name.toList line = false) :
    ofDeclarations text name = [] := by
  have hall : ∀ line ∈ Text.lines text.toList, (!opensBlock name.toList line) = true :=
    fun line hline => by rw [h line hline]; rfl
  rw [ofDeclarations, List.dropWhile_eq_nil_iff.mpr hall]
  rfl

theorem mem_of_mem_trimStart {c : Char} {s : List Char} (h : c ∈ Text.trimStart s) : c ∈ s :=
  (List.dropWhile_sublist Text.isBlank).mem h

theorem mem_of_mem_afterPattern {pattern s rest : List Char}
    (h : Text.afterPattern pattern s = some rest) {c : Char} (hc : c ∈ rest) : c ∈ s := by
  rw [Text.eq_append_of_afterPattern h]
  exact List.mem_append_right pattern hc

theorem mem_of_mem_skipWord {word : String} {c : Char} {s : List Char} (h : c ∈ skipWord word s) :
    c ∈ s := by
  obtain ⟨before, hs, -⟩ := exists_skipWord word s
  rw [hs]
  exact List.mem_append_right before h

theorem mem_of_mem_afterBlanks {c : Char} {s rest : List Char} (h : rest ∈ Text.afterBlanks s)
    (hc : c ∈ rest) : c ∈ s := by
  induction s with
  | nil => cases h
  | cons d s ih =>
      rw [Text.afterBlanks] at h
      split at h
      · rcases List.mem_cons.mp h with rfl | h
        · exact List.mem_cons_of_mem d hc
        · exact List.mem_cons_of_mem d (ih h)
      · cases h

theorem brace_mem_of_startsInterface {name s : List Char} (h : startsInterface name s = true) :
    '\x7b' ∈ s := by
  unfold startsInterface at h
  split at h
  · next rest hafter =>
    rw [Bool.and_eq_true, List.contains_iff_mem] at h
    exact mem_of_mem_afterPattern hafter h.2
  · cases h

theorem brace_mem_of_startsType {name s : List Char} (h : startsType name s = true) :
    '\x7b' ∈ s := by
  unfold startsType at h
  split at h
  · next rest hafter =>
    split at h
    · next rest' hrest =>
      have hhead := List.mem_of_head? (of_decide_eq_true h)
      have hmem : '\x7b' ∈ Text.trimStart rest := by
        rw [hrest]
        exact List.mem_cons_of_mem '=' (mem_of_mem_trimStart hhead)
      exact mem_of_mem_afterPattern hafter (mem_of_mem_trimStart hmem)
    · cases h
  · cases h

theorem brace_mem_of_opensBlock {name line : List Char} (h : opensBlock name line = true) :
    '\x7b' ∈ line := by
  have hafter : ∀ {word : String} {s : List Char} {p : List Char → Bool},
      ((((Text.afterPattern word.toList s).map Text.afterBlanks).getD []).any p) = true →
      (∀ rest, p rest = true → '\x7b' ∈ rest) → '\x7b' ∈ s := by
    intro word s p hany hp
    cases hpattern : Text.afterPattern word.toList s with
    | none => rw [hpattern] at hany; cases hany
    | some more =>
        rw [hpattern, Option.map_some, Option.getD_some, List.any_eq_true] at hany
        obtain ⟨rest, hrest, hbrace⟩ := hany
        exact mem_of_mem_afterPattern hpattern (mem_of_mem_afterBlanks hrest (hp rest hbrace))
  have hmem : '\x7b' ∈ skipWord "declare" (skipWord "export" (Text.trimStart line)) := by
    rw [opensBlock, Bool.or_eq_true] at h
    rcases h with h | h
    · exact hafter h fun rest => brace_mem_of_startsInterface
    · exact hafter h fun rest => brace_mem_of_startsType
  exact mem_of_mem_trimStart (mem_of_mem_skipWord (mem_of_mem_skipWord hmem))

/-- A line that opens a block begins with one of four words. -/
theorem opensBlock_of_first (name : List Char) {line : List Char} {c : Char} {rest : List Char}
    (hline : Text.trimStart line = c :: rest) (hc : c ∉ ['e', 'd', 'i', 't']) :
    opensBlock name line = false := by
  have hnone : ∀ {d : Char} {word : List Char}, d ∈ ['e', 'd', 'i', 't'] →
      Text.afterPattern (d :: word) (c :: rest) = none := by
    intro d word hd
    refine if_neg ?_
    rintro rfl
    exact hc hd
  have hexport : skipWord "export" (c :: rest) = c :: rest := by
    have : Text.afterPattern "export".toList (c :: rest) = none := hnone (by decide)
    rw [skipWord, this]
  have hdeclare : skipWord "declare" (c :: rest) = c :: rest := by
    have : Text.afterPattern "declare".toList (c :: rest) = none := hnone (by decide)
    rw [skipWord, this]
  have hinterface : Text.afterPattern "interface".toList (c :: rest) = none := hnone (by decide)
  have htype : Text.afterPattern "type".toList (c :: rest) = none := hnone (by decide)
  rw [opensBlock]
  simp only [hline, hexport, hdeclare, hinterface, htype, Option.map_none, Option.getD_none,
    List.any_nil, Bool.or_false]

/-- Whether the block of the name that is declared is taken for the one that is
asked for: the name begins with it, and of what stands at the cut just one is a
dollar sign, or the names are the same and end without one. -/
def TakenFor (declared asked : String) : Prop :=
  ∃ rest, declared.toList = asked.toList ++ rest ∧
    (asked.toList.getLast? = some '$' ↔ ∃ c more, rest = c :: more ∧ c ≠ '$')

/-- Of the characters of a name only the dollar sign is no word character. -/
theorem isWord_of_identifier {c : Char} (h : Text.isAsciiWord c = true ∨ c = '$') :
    Text.isWord c = (c != '$') := by
  rcases h with hword | rfl
  · have hc : c ≠ '$' := by
      rintro rfl
      exact absurd hword (by decide)
    rw [Text.isWord_of_isAsciiWord hword, bne_iff_ne.mpr hc]
  · decide

/-- In an opening line a word ends behind the name that is asked for if just one
of the characters at the cut is a dollar sign, or if the name that is declared
ends there without one. -/
theorem isWordEdge_iff {asked rest : List Char} (hne : asked ≠ [])
    (hasked : ∀ c ∈ asked, Text.isAsciiWord c = true ∨ c = '$')
    (hrest : ∀ c ∈ rest, Text.isAsciiWord c = true ∨ c = '$') :
    isWordEdge asked.getLast? (rest ++ [' ', '\x7b']).head? = true ↔
      (asked.getLast? = some '$' ↔ ∃ c more, rest = c :: more ∧ c ≠ '$') := by
  have hlast := isWord_of_identifier (hasked _ (List.getLast_mem hne))
  rw [List.getLast?_eq_some_getLast hne, isWordEdge, Option.any_some, hlast, Option.some.injEq]
  cases rest with
  | nil =>
      have hblank : Text.isWord ' ' = false := by decide
      simp [hblank]
  | cons c more =>
      have hc := isWord_of_identifier (hrest c List.mem_cons_self)
      have hnext : (∃ d rest, c :: more = d :: rest ∧ d ≠ '$') ↔ c ≠ '$' := by simp
      rw [List.cons_append, List.head?_cons, Option.any_some, hc, hnext, bne_iff_ne, ne_eq,
        Bool.eq_iff_iff, bne_iff_ne, bne_iff_ne]
      by_cases hlast : asked.getLast hne = '$'
      · simp [hlast]
      · simp [hlast]

theorem opensBlock_openingLine (asked : List Char) {name : String} (h : IsAsciiIdentifier name) :
    opensBlock asked (openingLine name) = startsInterface asked (name.toList ++ [' ', '\x7b']) := by
  obtain ⟨c, more, hfirst, hc⟩ := h.first
  have hskip : skipWord "declare" (skipWord "export" (Text.trimStart (openingLine name))) =
      "interface".toList ++ ' ' :: (name.toList ++ [' ', '\x7b']) := by
    rw [openingLine_eq, List.append_assoc]
    rfl
  have htype : Text.afterPattern "type".toList
      ("interface".toList ++ ' ' :: (name.toList ++ [' ', '\x7b'])) = none := rfl
  have hblanks : Text.afterBlanks (' ' :: (name.toList ++ [' ', '\x7b'])) =
      [name.toList ++ [' ', '\x7b']] := by
    have hblank : Text.isBlank ' ' = true := by decide
    have hink : Text.isBlank c = false :=
      isBlank_of_continuesIdentifier (continuesIdentifier_of_startsIdentifier hc)
    rw [Text.afterBlanks, if_pos hblank, hfirst, List.cons_append, Text.afterBlanks,
      if_neg (by rw [hink]; decide)]
  rw [opensBlock]
  simp only [hskip, htype, hblanks, Text.afterPattern_append, Option.map_some, Option.map_none,
    Option.getD_some, Option.getD_none, List.any_cons, List.any_nil, Bool.or_false]

/-- The line that opens the block of one name is taken to open that of another
one exactly if the first name is taken for the second. -/
theorem opensBlock_openingLine_iff {declared asked : String}
    (hdeclared : IsAsciiIdentifier declared) (hasked : IsAsciiIdentifier asked) :
    opensBlock asked.toList (openingLine declared) = true ↔ TakenFor declared asked := by
  have hne : asked.toList ≠ [] := by
    obtain ⟨c, more, hfirst, _⟩ := hasked.first
    rw [hfirst]
    exact List.cons_ne_nil c more
  have hedge : ∀ {rest}, declared.toList = asked.toList ++ rest →
      (isWordEdge asked.toList.getLast? (rest ++ [' ', '\x7b']).head? = true ↔
        (asked.toList.getLast? = some '$' ↔ ∃ c more, rest = c :: more ∧ c ≠ '$')) :=
    fun hrest => isWordEdge_iff hne hasked.all fun c hc =>
      hdeclared.all c (hrest ▸ List.mem_append_right _ hc)
  rw [opensBlock_openingLine asked.toList hdeclared]
  constructor
  · intro h
    unfold startsInterface at h
    split at h
    · next after hafter =>
      rw [Bool.and_eq_true] at h
      obtain ⟨rest, hrest, rfl⟩ : ∃ rest, declared.toList = asked.toList ++ rest ∧
          after = rest ++ [' ', '\x7b'] := by
        rcases List.append_eq_append_iff.mp (Text.eq_append_of_afterPattern hafter) with
          ⟨more, hmore, hend⟩ | ⟨rest, hrest, hend⟩
        · cases more with
          | nil => exact ⟨[], by simpa using hmore.symm, by simpa using hend.symm⟩
          | cons c more =>
              -- The name that is asked for would hold the blank behind the other one.
              have hblank : c = ' ' := (List.cons.inj hend).1.symm
              have hmem : ' ' ∈ asked.toList := by rw [hmore, hblank]; simp
              exact absurd (hasked.all _ hmem) (by decide)
        · exact ⟨rest, hrest, hend⟩
      exact ⟨rest, hrest, (hedge hrest).mp h.1⟩
    · cases h
  · rintro ⟨rest, hrest, hcut⟩
    rw [hrest, List.append_assoc]
    exact startsInterface_append ((hedge hrest).mpr hcut) (by simp)

/-- Without dollar signs a block is found by its own name only. -/
theorem takenFor_iff_eq {declared asked : String} (hdeclared : '$' ∉ declared.toList)
    (hasked : '$' ∉ asked.toList) : TakenFor declared asked ↔ asked = declared := by
  have hlast : asked.toList.getLast? ≠ some '$' := fun h => hasked (List.mem_of_getLast? h)
  constructor
  · rintro ⟨rest, hrest, hcut⟩
    cases rest with
    | nil => exact String.toList_inj.mp (by rw [hrest, List.append_nil])
    | cons c more =>
        have hc : c ≠ '$' := by
          rintro rfl
          exact hdeclared (by rw [hrest]; simp)
        exact absurd (hcut.mpr ⟨c, more, rfl, hc⟩) hlast
  · rintro rfl
    exact ⟨[], by rw [List.append_nil], iff_of_false hlast (by simp)⟩

/-- A member with a bare key and a type on one line without braces, which begins
with ink and ends with ink other than a semicolon. -/
structure IsPlain (member : Member) : Prop where
  bare : isIdentifier member.key.toList = true
  legible : Legible member.declaredType.toList
  notOpened : '\x7b' ∉ member.declaredType.toList
  notClosed : '\x7d' ∉ member.declaredType.toList

def plainLine (member : Member) : List Char :=
  lineOf member.key.toList member.optional member.declaredType.toList

theorem IsPlain.not_mem_plainLine {member : Member} (h : IsPlain member) {c : Char}
    (hc : c ∉ member.declaredType.toList)
    (hmark : (continuesIdentifier c || [' ', '?', ':', ';'].contains c) = false) :
    c ∉ plainLine member := by
  obtain ⟨_, _, _, _, hall⟩ := isIdentifier_iff.mp h.bare
  have hkey : c ∉ member.key.toList := fun hmem => by
    rw [hall c hmem, Bool.true_or] at hmark
    cases hmark
  simp only [Bool.or_eq_false_iff, List.contains_eq_mem, List.mem_cons, List.not_mem_nil,
    decide_eq_false_iff_not, not_or, or_false] at hmark
  obtain ⟨-, hblank, hquestion, hcolon, hsemicolon⟩ := hmark
  rw [plainLine, lineOf, memberFront]
  cases member.optional <;> simp [hkey, hc, hblank, hquestion, hcolon, hsemicolon]

theorem IsPlain.scanLines_eq {member : Member} (h : IsPlain member) (rest : List (List Char)) :
    scanLines 1 none (plainLine member :: rest) = member :: scanLines 1 none rest := by
  have hbraces := braces_eq_zero h.notOpened h.notClosed
  rw [plainLine, scanLines_lineOf (.bare h.bare) member.optional hbraces,
    bareType_append_semicolon h.legible.first h.legible.last, String.ofList_toList]

/-- The text of the block of a name that has plain members, a line for each. -/
def plainText (name : String) (members : List Member) : String :=
  interfaceText name (members.map plainLine)

/-- Of a text with the block of one name, the members of another name are those
of the block if the one name is taken for the other, and else there are none.
Without dollar signs the name is taken for itself only. -/
theorem ofDeclarations_plainText {declared asked : String} (hdeclared : IsAsciiIdentifier declared)
    (hasked : IsAsciiIdentifier asked) {members : List Member}
    (hmembers : ∀ member ∈ members, IsPlain member) :
    (TakenFor declared asked → ofDeclarations (plainText declared members) asked = members) ∧
      (¬TakenFor declared asked → ofDeclarations (plainText declared members) asked = []) ∧
      ('$' ∉ declared.toList → '$' ∉ asked.toList →
        (TakenFor declared asked ↔ asked = declared)) := by
  have hname : ∀ {c : Char}, Text.isAsciiWord c = false → c ≠ '$' → c ∉ declared.toList := by
    intro c hword hdollar hmem
    rcases hdeclared.all c hmem with h | h
    · rw [hword] at h; cases h
    · exact hdollar h
  have hbody : ∀ line ∈ members.map plainLine, '\n' ∉ line ∧ Text.chomp line = line := by
    rw [List.forall_mem_map]
    exact fun member hmember => ⟨(hmembers member hmember).not_mem_plainLine
      (hmembers member hmember).legible.newline (by decide), chomp_lineOf _ _ _⟩
  have hlines := lines_interfaceText (hname (by decide) (by decide)) hbody
  refine ⟨fun htaken => ?_, fun htaken => ?_, takenFor_iff_eq⟩
  · have hopens := (opensBlock_openingLine_iff hdeclared hasked).mpr htaken
    have hbraces : braces (openingLine declared) = 1 := by
      rw [braces_openingLine, braces_eq_zero (hname (by decide) (by decide))
        (hname (by decide) (by decide)), Int.zero_add]
    have hread := ofDeclarations_of_map hlines hopens hbraces fun member hmember =>
      (hmembers member hmember).scanLines_eq
    rw [plainText, hread, List.map_id']
  · refine ofDeclarations_of_unopened fun line hline => ?_
    rw [plainText, hlines, List.mem_cons, List.mem_append, List.mem_map,
      List.mem_singleton] at hline
    rw [Bool.eq_false_iff]
    rcases hline with rfl | ⟨member, hmember, rfl⟩ | rfl
    · exact fun hopens => htaken ((opensBlock_openingLine_iff hdeclared hasked).mp hopens)
    · exact fun hopens => (hmembers member hmember).not_mem_plainLine
        (hmembers member hmember).notOpened (by decide) (brace_mem_of_opensBlock hopens)
    · exact fun hopens => absurd (brace_mem_of_opensBlock hopens) (by decide)

/-- A name that goes on behind the one that is asked for, and members whose keys
are words of the language of declarations. -/
theorem ofDeclarations_plainText_longer :
    let members : List Member :=
      [⟨"interface", "Array<string>", false⟩, ⟨"readonly", "'export' | null", true⟩]
    IsAsciiIdentifier "Input_2" ∧ IsAsciiIdentifier "Input" ∧ (∀ member ∈ members, IsPlain member) ∧
      ofDeclarations (plainText "Input_2" members) "Input" = [] ∧
      ofDeclarations (plainText "Input_2" members) "Input_2" = members := by
  intro members
  have hlong : IsAsciiIdentifier "Input_2" := .of_all rfl (by decide) (by decide)
  have hshort : IsAsciiIdentifier "Input" := .of_all rfl (by decide) (by decide)
  have hmembers : ∀ member ∈ members, IsPlain member := by
    simp only [members, List.forall_mem_cons]
    refine ⟨⟨by decide, ?_, by decide, by decide⟩, ⟨by decide, ?_, by decide, by decide⟩, by simp⟩
    · exact legible_of_hasInkEnds (by decide) (by decide)
    · exact legible_of_hasInkEnds (by decide) (by decide)
  obtain ⟨-, hother, hapart⟩ := ofDeclarations_plainText hlong hshort hmembers
  obtain ⟨hown, -, hsame⟩ := ofDeclarations_plainText hlong hlong hmembers
  have hnot : ¬TakenFor "Input_2" "Input" := fun htaken =>
    absurd ((hapart (by decide) (by decide)).mp htaken) (by decide)
  exact ⟨hlong, hshort, hmembers, hother hnot, hown ((hsame (by decide) (by decide)).mpr rfl)⟩

/-- A name is taken for the front of another one that goes on with a dollar
sign, and is not found if it ends with one. -/
theorem ofDeclarations_dollar :
    ofDeclarations "export interface Input$Extra \x7b\n  a: string;\n\x7d\n" "Input" =
        [⟨"a", "string", false⟩] ∧
      ofDeclarations "export interface Input$ \x7b\n  a: string;\n\x7d\n" "Input$" = [] := by
  decide +kernel

end SchemaLoom.Member
