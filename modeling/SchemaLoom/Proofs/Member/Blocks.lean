import Mathlib.Data.List.Infix
import SchemaLoom.Proofs.Member.Entries
import SchemaLoom.Proofs.TypeExpr.Written

/-!
# Reading well-formed blocks

A well-formed block is opened and closed on lines of their own, and between them
stand comments, blank lines, index signatures and members, whose types may go on
over several lines. Such a block is read back as its members in their order,
whoever wrote it: blanks around the lines play no part, nor does what comments
say, what stands in front of the block as long as it opens no block of the same
name, or what follows it.

A block is a structure that carries what makes it well-formed, so that any block
that can be written down can be read. One lemma for each kind of line tells what
the reader does with it, and the block follows by induction on its lines.
-/

namespace SchemaLoom.Member

open TypeExpr

/-- The lines of a type, the last one apart. Braces stay open up to the last
line, and with it they are in balance; the last line ends as a type does that
can be told from a semicolon behind it. -/
structure TypeLines (types : List (List Char)) (last : List Char) : Prop where
  opened : ∀ front, front ≠ [] → front <+: types → 0 < braces front.flatten
  balanced : braces (types ++ [last]).flatten = 0
  ends : EndsType last

/-- The lines of a member: its type with something in front of the first line
and a semicolon behind the last. -/
def memberText (front : List Char) : List (List Char) → List Char → List (List Char)
  | [], last => [front ++ (last ++ [';'])]
  | first :: types, last => (front ++ first) :: (types ++ [last ++ [';']])

/-- The lines that may stand in a block together, and the member that they give,
if any: a comment, whatever it says, a blank line, an index signature with its
braces in balance, or a member. Only the text between the blanks around each
line counts. -/
inductive Item : List (List Char) → Option Member → Prop where
  | comment {line : List Char}
      (h : ∃ mark ∈ ["//", "/*", "*"], mark.toList <+: Text.trim line) : Item [line] none
  | blank {line : List Char} (h : Text.trim line = []) : Item [line] none
  | index {line rest : List Char} (h : Text.trim line = '[' :: rest) (hbraces : braces line = 0) :
      Item [line] none
  | member {lines types : List (List Char)} {last text : List Char} {key : String}
      {readonly optional : Bool} (hkey : KeyText text key) (htype : TypeLines types last)
      (hlines : lines.map Text.trim =
        (memberText (memberFront readonly text optional) types last).map Text.trim) :
      Item lines (some ⟨key, String.ofList (joined (types ++ [last])), optional⟩)

theorem Item.chomp {lines : List (List Char)} {member : Option Member} (h : Item lines member) :
    Item (lines.map Text.chomp) member := by
  cases h with
  | comment h => exact .comment (by simpa using h)
  | blank h => exact .blank (by simpa using h)
  | index h hbraces =>
      refine .index (by simpa using h) ?_
      rw [braces_of_trim_eq (Text.trim_chomp _), hbraces]
  | @member _ types last text _ readonly optional hkey htype hlines =>
      have hchomp : (lines.map Text.chomp).map Text.trim =
          (memberText (memberFront readonly text optional) types last).map Text.trim := by
        rw [← hlines, List.map_map]
        exact List.map_congr_left fun line _ => Text.trim_chomp line
      exact .member hkey htype hchomp

theorem isComment_of_mark {line : List Char}
    (h : ∃ mark ∈ ["//", "/*", "*"], mark.toList <+: line) : isComment line = true := by
  obtain ⟨mark, hmark, hline⟩ := h
  rw [← List.isPrefixOf_iff_prefix] at hline
  simp only [List.mem_cons, List.not_mem_nil, or_false] at hmark
  rcases hmark with rfl | rfl | rfl
  · exact Bool.or_eq_true_iff.mpr (.inr hline)
  · exact Bool.or_eq_true_iff.mpr (.inl (Bool.or_eq_true_iff.mpr (.inl hline)))
  · exact Bool.or_eq_true_iff.mpr (.inl (Bool.or_eq_true_iff.mpr (.inr hline)))

/-- A line whose braces are in balance and that is neither a comment nor an
entry is passed over. -/
theorem scanLines_other_balanced {line : List Char} (hcomment : isComment (Text.trim line) = false)
    (hentry : readEntry line = none) (hbraces : braces line = 0) (rest : List (List Char)) :
    scanLines 1 none (line :: rest) = scanLines 1 none rest := by
  rw [scanLines_other hcomment hentry, braces_trim, hbraces, Int.add_zero]

theorem exists_ink_of_endsType {type : List Char} (h : EndsType type) :
    ∃ c ∈ type, Text.isBlank c = false := by
  obtain ⟨front, c, rfl, hc, _⟩ := h
  exact ⟨c, by simp, hc⟩

theorem exists_ink_of_braces {s : List Char} (h : braces s ≠ 0) :
    ∃ c ∈ s, Text.isBlank c = false := by
  by_contra hnone
  push Not at hnone
  refine h (braces_eq_zero (fun hmem => ?_) fun hmem => ?_)
  · exact hnone _ hmem (by decide)
  · exact hnone _ hmem (by decide)

theorem endsType_joined {last : List Char} (h : EndsType last) (types : List (List Char)) :
    EndsType (joined (types ++ [last])) := by
  cases types with
  | nil => simpa [joined, List.intercalate] using h.trim
  | cons first types =>
      rw [List.cons_append, joined_cons, List.flatMap_append, List.flatMap_singleton,
        ← List.singleton_append, ← List.append_assoc, ← List.append_assoc]
      exact h.trim.append _

/-- The entry of a type that was read whole says the type without its semicolon. -/
theorem member_joined (types : List (List Char)) {last : List Char} (hends : EndsType last)
    (hfirst : ∃ c ∈ (types ++ [last]).headD [], Text.isBlank c = false) (key : String)
    (optional : Bool) :
    Entry.member ⟨key.toList, optional, joined (types ++ [last]) ++ [';']⟩ =
      ⟨key, String.ofList (joined (types ++ [last])), optional⟩ := by
  obtain ⟨first, rest, hlines⟩ := List.exists_cons_of_ne_nil
    (List.append_ne_nil_of_right_ne_nil types (List.cons_ne_nil last []))
  rw [hlines, List.headD_cons] at hfirst
  obtain ⟨c, more, hc, hink⟩ := Text.exists_first_trim hfirst
  have hjoined : ∃ c more, joined (types ++ [last]) = c :: more ∧ Text.isBlank c = false :=
    ⟨c, more ++ rest.flatMap (' ' :: Text.trim ·), by rw [hlines, joined_cons, hc]; rfl, hink⟩
  rw [Entry.member, bareType_append_semicolon hjoined (endsType_joined hends types),
    String.ofList_toList]

section Member

variable {lines types : List (List Char)} {first last text : List Char} {key : String}
variable {readonly optional : Bool}

theorem scanLines_member_one (hkey : KeyText text key) (htype : TypeLines [] last)
    (hlines : lines.map Text.trim =
      (memberText (memberFront readonly text optional) [] last).map Text.trim)
    (rest : List (List Char)) :
    scanLines 1 none (lines ++ rest) =
      ⟨key, String.ofList (joined ([] ++ [last])), optional⟩ :: scanLines 1 none rest := by
  obtain ⟨line, rfl, hline⟩ : ∃ line, lines = [line] ∧ Text.trim line =
      Text.trim (memberFront readonly text optional ++ (last ++ [';'])) := by
    simpa [memberText, List.map_eq_cons_iff] using hlines
  have hink : ∃ c ∈ last ++ [';'], Text.isBlank c = false := ⟨';', by simp, by decide⟩
  have hbraces : braces (Text.trim (last ++ [';'])) = 0 := by
    have hmark : braces [';'] = 0 := rfl
    have := htype.balanced
    rw [braces_trim, braces_append, hmark]
    simpa using this
  have hjoined : joined ([] ++ [last]) ++ [';'] = Text.trim (last ++ [';']) := by
    rw [trim_append_semicolon htype.ends]
    simp [joined, List.intercalate]
  rw [List.singleton_append, scanLines_entry (isComment_of_trim hkey hink hline)
    (readEntry_of_trim hkey hink hline), if_neg (by simp [hbraces]), ← hjoined,
    member_joined [] htype.ends (exists_ink_of_endsType htype.ends)]

theorem scanLines_member_several (hkey : KeyText text key) (htype : TypeLines (first :: types) last)
    (hlines : lines.map Text.trim =
      (memberText (memberFront readonly text optional) (first :: types) last).map Text.trim)
    (rest : List (List Char)) :
    scanLines 1 none (lines ++ rest) =
      ⟨key, String.ofList (joined (first :: types ++ [last])), optional⟩ ::
        scanLines 1 none rest := by
  obtain ⟨line, more, rfl, hline, hmore⟩ : ∃ line more, lines = line :: more ∧
      Text.trim line = Text.trim (memberFront readonly text optional ++ first) ∧
      more.map Text.trim = (types ++ [last ++ [';']]).map Text.trim := by
    rw [memberText, List.map_cons, List.map_eq_cons_iff] at hlines
    obtain ⟨line, more, rfl, hline, hmore⟩ := hlines
    exact ⟨line, more, rfl, hline, hmore⟩
  have hopen : 0 < braces first := by
    simpa using htype.opened [first] (List.cons_ne_nil first [])
      (List.cons_prefix_cons.mpr ⟨rfl, List.nil_prefix⟩)
  have hink := exists_ink_of_braces (Int.ne_of_gt hopen)
  have hjoined : Text.trim first ++ (types ++ [last ++ [';']]).flatMap (' ' :: Text.trim ·) =
      joined (first :: types ++ [last]) ++ [';'] := by
    rw [List.cons_append, joined_cons, List.flatMap_append, List.flatMap_append]
    simp [trim_append_semicolon htype.ends]
  rw [List.cons_append, scanLines_entry (isComment_of_trim hkey hink hline)
    (readEntry_of_trim hkey hink hline), if_pos (by rwa [braces_trim]),
    scanLines_pending hmore, hjoined, member_joined (first :: types) htype.ends hink]
  · intro front hfront
    have := htype.opened (first :: front) (List.cons_ne_nil first front)
      (List.cons_prefix_cons.mpr ⟨rfl, hfront⟩)
    rw [List.flatten_cons, braces_append] at this
    rwa [braces_trim]
  · have hmark : braces [';'] = 0 := rfl
    have := htype.balanced
    simp only [List.cons_append, List.flatten_cons, List.flatten_append, List.flatten_nil,
      braces_append, hmark] at this ⊢
    rw [braces_trim]
    omega

/-- A member is read, on however many lines it stands. -/
theorem scanLines_member (hkey : KeyText text key) (htype : TypeLines types last)
    (hlines : lines.map Text.trim =
      (memberText (memberFront readonly text optional) types last).map Text.trim)
    (rest : List (List Char)) :
    scanLines 1 none (lines ++ rest) =
      ⟨key, String.ofList (joined (types ++ [last])), optional⟩ :: scanLines 1 none rest := by
  cases types with
  | nil => exact scanLines_member_one hkey htype hlines rest
  | cons first types => exact scanLines_member_several hkey htype hlines rest

end Member

/-- What stands in a block is read as the member that it gives, and reading goes
on behind it. -/
theorem scanLines_item {lines : List (List Char)} {member : Option Member} (h : Item lines member)
    (rest : List (List Char)) :
    scanLines 1 none (lines ++ rest) = member.toList ++ scanLines 1 none rest := by
  cases h with
  | comment h => exact scanLines_comment (isComment_of_mark h) rest
  | @blank line h =>
      have hcomment : isComment (Text.trim line) = false := by rw [h]; decide
      have hbraces : braces line = 0 := by rw [← braces_trim, h]; rfl
      exact scanLines_other_balanced hcomment (readEntry_of_blank h) hbraces rest
  | @index line more h hbraces =>
      have hcomment : isComment (Text.trim line) = false := by
        rw [h]
        simp [isComment, List.isPrefixOf]
      have hentry := readEntry_of_first h (by decide) (by decide) (by decide)
      exact scanLines_other_balanced hcomment hentry hbraces rest
  | member hkey htype hlines => exact scanLines_member hkey htype hlines rest

theorem scanLines_items {items : List (List (List Char) × Option Member)}
    (h : ∀ item ∈ items, Item item.1 item.2) (rest : List (List Char)) :
    scanLines 1 none ((items.flatMap Prod.fst).map Text.chomp ++ rest) =
      items.filterMap Prod.snd ++ scanLines 1 none rest := by
  induction items with
  | nil => rfl
  | cons item items ih =>
      rw [List.forall_mem_cons] at h
      rw [List.flatMap_cons, List.map_append, List.append_assoc, scanLines_item h.1.chomp, ih h.2,
        List.filterMap_cons]
      cases item.2 <;> rfl

/-- The lines that open the block of a type: those of an interface, exported or
not, and that of an exported type alias. -/
inductive Opening (name : List Char) : List Char → Prop where
  | exportedInterface : Opening name ("export interface ".toList ++ name ++ " \x7b".toList)
  | plainInterface : Opening name ("interface ".toList ++ name ++ " \x7b".toList)
  | exportedType : Opening name ("export type ".toList ++ name ++ " = \x7b".toList)

theorem startsInterface_append {name rest : List Char}
    (hedge : isWordEdge name.getLast? rest.head? = true) (hbrace : rest.contains '\x7b' = true) :
    startsInterface name (name ++ rest) = true := by
  rw [startsInterface, Text.afterPattern_append]
  simp only [hedge, hbrace, Bool.and_self]

theorem opensBlock_interface {name : String} (h : IsName name) {line rest : List Char}
    (hskip : skipWord "declare" (skipWord "export" (Text.trimStart line)) =
      "interface".toList ++ ' ' :: (name.toList ++ ' ' :: '\x7b' :: rest)) :
    opensBlock name.toList line = true := by
  have hblank : Text.isBlank ' ' = true := by decide
  have hedge : isWordEdge name.toList.getLast? (some ' ') = true := by
    have hword := Text.isWord_of_isAsciiWord (h.word _ (List.getLast_mem h.nonempty))
    have hnone : Text.isWord ' ' = false := by decide
    rw [List.getLast?_eq_some_getLast h.nonempty, isWordEdge, Option.any_some,
      Option.any_some, hword, hnone]
    rfl
  have hstarts : startsInterface name.toList (name.toList ++ ' ' :: '\x7b' :: rest) = true :=
    startsInterface_append hedge (by simp)
  rw [opensBlock]
  simp only [hskip, Text.afterPattern_append, Option.map_some, Option.getD_some, Text.afterBlanks,
    hblank, if_true, List.any_cons, hstarts, Bool.true_or]

theorem opensBlock_type {name line rest : List Char}
    (hskip : skipWord "declare" (skipWord "export" (Text.trimStart line)) =
      "type".toList ++ ' ' :: (name ++ ' ' :: '=' :: ' ' :: '\x7b' :: rest)) :
    opensBlock name line = true := by
  have hblank : Text.isBlank ' ' = true := by decide
  have hstarts : startsType name (name ++ ' ' :: '=' :: ' ' :: '\x7b' :: rest) = true := by
    rw [startsType, Text.afterPattern_append]
    rfl
  rw [opensBlock]
  simp only [hskip, Text.afterPattern_append, Option.map_some, Option.getD_some, Text.afterBlanks,
    hblank, if_true, List.any_cons, hstarts, Bool.true_or, Bool.or_true]

/-- A line with an opening between its blanks opens the block. -/
theorem opensBlock_of_opening {name : String} (hname : IsName name) {line : List Char}
    (h : Opening name.toList (Text.trim line)) : opensBlock name.toList line = true := by
  obtain ⟨blanks, _, hstart⟩ := Text.exists_blanks_trimStart line
  generalize Text.trim line = opening at h hstart
  have hinterface : skipWord "declare" (skipWord "export" (Text.trimStart line)) =
      "interface".toList ++ ' ' :: (name.toList ++ ' ' :: '\x7b' :: blanks) →
      opensBlock name.toList line = true := opensBlock_interface hname
  cases h with
  | exportedInterface =>
      rw [hstart, List.append_assoc, List.append_assoc] at hinterface
      exact hinterface rfl
  | plainInterface =>
      rw [hstart, List.append_assoc, List.append_assoc] at hinterface
      exact hinterface rfl
  | exportedType =>
      have hskip : skipWord "declare" (skipWord "export" (Text.trimStart line)) =
          "type".toList ++ ' ' :: (name.toList ++ ' ' :: '=' :: ' ' :: '\x7b' :: blanks) := by
        rw [hstart, List.append_assoc, List.append_assoc]
        rfl
      exact opensBlock_type hskip

theorem braces_of_opening {name : String} (hname : IsName name) {line : List Char}
    (h : Opening name.toList (Text.trim line)) : braces line = 1 := by
  rw [← braces_trim]
  generalize Text.trim line = opening at h
  cases h with
  | exportedInterface =>
      rw [braces_append, braces_append, hname.braces]
      rfl
  | plainInterface =>
      rw [braces_append, braces_append, hname.braces]
      rfl
  | exportedType =>
      rw [braces_append, braces_append, hname.braces]
      rfl

def openingLine (name : String) : List Char :=
  "export interface ".toList ++ name.toList ++ " \x7b".toList

theorem openingLine_eq (name : String) :
    openingLine name = "export interface ".toList ++ name.toList ++ " \x7b".toList := rfl

theorem opening_openingLine (name : String) :
    Opening name.toList (Text.trim (openingLine name)) := by
  have hfirst : openingLine name =
      'e' :: ("xport interface ".toList ++ name.toList ++ " \x7b".toList) := rfl
  have hlast : openingLine name =
      "export interface ".toList ++ name.toList ++ [' '] ++ ['\x7b'] := by
    rw [openingLine_eq, List.append_assoc _ [' ']]
    rfl
  rw [Text.trim_of_ink hfirst (by decide) hlast (by decide)]
  exact .exportedInterface

theorem newline_not_mem_openingLine {name : String} (h : '\n' ∉ name.toList) :
    '\n' ∉ openingLine name := by
  have hfront : '\n' ∉ "export interface ".toList := by decide
  have hopen : '\n' ∉ " \x7b".toList := by decide
  rw [openingLine_eq, List.mem_append, List.mem_append, not_or, not_or]
  exact ⟨⟨hfront, h⟩, hopen⟩

theorem chomp_openingLine (name : String) : Text.chomp (openingLine name) = openingLine name := by
  have hbrace : " \x7b".toList = [' '] ++ ['\x7b'] := rfl
  rw [openingLine_eq, hbrace, ← List.append_assoc, Text.chomp_append_singleton _ (by decide)]

theorem braces_openingLine (name : String) :
    braces (openingLine name) = braces name.toList + 1 := by
  have hfront : braces "export interface ".toList = 0 := rfl
  have hopen : braces " \x7b".toList = 1 := rfl
  rw [openingLine_eq, braces_append, braces_append, hfront, hopen, Int.zero_add]

/-- A block as it may be written for a type: the line that opens it, what stands
in it, each item with its lines and the member that it gives, and the line that
closes it. None of the lines is broken. -/
structure Block (name : String) where
  opening : List Char
  items : List (List (List Char) × Option Member)
  closing : List Char
  opens : Opening name.toList (Text.trim opening)
  written : ∀ item ∈ items, Item item.1 item.2
  closes : Text.trim closing = ['\x7d'] ∨ Text.trim closing = ['\x7d', ';']
  unbroken : ∀ line ∈ opening :: (items.flatMap Prod.fst ++ [closing]), '\n' ∉ line

namespace Block

variable {name : String}

/-- The members that a block declares: those that its items give, in their order. -/
def members (block : Block name) : List Member := block.items.filterMap Prod.snd

/-- The lines of a block but the one that closes it. -/
def openLines (block : Block name) : List (List Char) :=
  block.opening :: block.items.flatMap Prod.fst

/-- The text of a block, with a line feed behind each line but the last. -/
def text (block : Block name) : List Char :=
  block.openLines.flatMap (· ++ ['\n']) ++ block.closing

theorem scanLines_eq (block : Block name) {closing : List Char}
    (hclosing : Text.trim closing = Text.trim block.closing) (rest : List (List Char)) :
    scanLines 1 none ((block.items.flatMap Prod.fst).map Text.chomp ++ closing :: rest) =
      block.members := by
  have hcloses := block.closes
  rw [← hclosing] at hcloses
  rw [scanLines_items block.written, scanLines_close hcloses, List.append_nil]
  rfl

end Block

/-- The members of a file are those of the first block that opens in it. -/
theorem ofDeclarations_of_lines {text name : String} {before after : List (List Char)}
    {opening : List Char} (hlines : Text.lines text.toList = before ++ opening :: after)
    (hbefore : ∀ line ∈ before, opensBlock name.toList line = false)
    (hopens : opensBlock name.toList opening = true) (hbraces : braces opening = 1) :
    ofDeclarations text name = scanLines 1 none after := by
  have hskipped : ∀ line ∈ before, (!opensBlock name.toList line) = true := fun line hline => by
    rw [hbefore line hline]
    rfl
  rw [ofDeclarations, hlines, List.dropWhile_append_of_pos hskipped,
    List.dropWhile_cons_of_neg (by rw [hopens]; decide), ofBlock, hbraces]
  rfl

/-- The members of a well-formed block are read back, whatever lines stand in
front of it that open no block of the same name, and whatever follows the line
that closes it. -/
theorem ofDeclarations_block {name : String} (hname : IsName name) (block : Block name)
    {preceding : List (List Char)}
    (hpreceding : ∀ line ∈ preceding,
      '\n' ∉ line ∧ opensBlock name.toList (Text.chomp line) = false)
    {following : List Char} (hfollowing : following = [] ∨ ∃ rest, following = '\n' :: rest) :
    ofDeclarations (String.ofList
        (preceding.flatMap (· ++ ['\n']) ++ block.text ++ following)) name = block.members := by
  have hunbroken := block.unbroken
  rw [← List.cons_append, List.forall_mem_append, List.forall_mem_singleton] at hunbroken
  obtain ⟨hlines, hclosing⟩ := hunbroken
  -- What is read of the closing line and what follows it.
  obtain ⟨closing, rest, hrest, htrim⟩ : ∃ closing rest,
      Text.lines (block.closing ++ following) = closing :: rest ∧
        Text.trim closing = Text.trim block.closing := by
    rcases hfollowing with rfl | ⟨rest, rfl⟩
    · have hne : block.closing ≠ [] := by
        intro hnil
        have hcloses := block.closes
        rw [hnil] at hcloses
        exact absurd hcloses (by decide)
      exact ⟨block.closing, [], by rw [List.append_nil, Text.lines_eq_singleton hclosing hne], rfl⟩
    · exact ⟨Text.chomp block.closing, Text.lines rest, Text.lines_append hclosing rest,
        Text.trim_chomp _⟩
  have htext : Text.lines (preceding.flatMap (· ++ ['\n']) ++ block.text ++ following) =
      preceding.map Text.chomp ++ Text.chomp block.opening ::
        ((block.items.flatMap Prod.fst).map Text.chomp ++ closing :: rest) := by
    rw [Block.text, Block.openLines, List.append_assoc, List.append_assoc,
      Text.lines_flatMap fun line hline => (hpreceding line hline).1, Text.lines_flatMap hlines,
      hrest]
    rfl
  have hbefore : ∀ line ∈ preceding.map Text.chomp, opensBlock name.toList line = false := by
    rw [List.forall_mem_map]
    exact fun line hline => (hpreceding line hline).2
  have hopening : Opening name.toList (Text.trim (Text.chomp block.opening)) := by
    rw [Text.trim_chomp]
    exact block.opens
  rw [ofDeclarations_of_lines (by rw [String.toList_ofList, htext]) hbefore
    (opensBlock_of_opening hname hopening) (braces_of_opening hname hopening)]
  exact block.scanLines_eq htrim rest

/-- A block behind one of a longer name, with a brace in a comment, a member
that is called `readonly` and whose type goes on over four lines, an escaped
key, and a carriage return at the end. -/
theorem ofDeclarations_block_mixed :
    let preceding := ["export interface InputExtra \x7b", "  a: string;", "\x7d"]
    let lines := ["\texport type Input = \x7b", "  /* \x7b", "", "  readonly readonly?: \x7b",
      "    [k: string]: unknown;", "    deep: \x7b a: string \x7d;", "  \x7d[] | null;",
      "  \x22a\\u00e9\\ud83d\\ude00\\\x22\x22: string;", "  [k: string]: \x7b x: 1 \x7d;"]
    let file := (preceding.map String.toList).flatMap (· ++ ['\n']) ++
      ((lines.map String.toList).flatMap (· ++ ['\n']) ++ "\x7d;\r".toList) ++
        "\nlast: string;\n\x7d\n".toList
    IsName "Input" ∧ ofDeclarations (String.ofList file) "Input" =
      [⟨"readonly", "\x7b [k: string]: unknown; deep: \x7b a: string \x7d; \x7d[] | null", true⟩,
        ⟨"aé😀\x22", "string", false⟩] := by
  intro preceding lines file
  have hname : IsName "Input" := ⟨by decide, List.all_eq_true.mp (by decide)⟩
  have hreadonly : Item
      ["  readonly readonly?: \x7b".toList, "    [k: string]: unknown;".toList,
        "    deep: \x7b a: string \x7d;".toList, "  \x7d[] | null;".toList]
      (some ⟨"readonly",
        "\x7b [k: string]: unknown; deep: \x7b a: string \x7d; \x7d[] | null", true⟩) := by
    have hkey : KeyText "readonly".toList "readonly" := .bare (by decide)
    have htype : TypeLines ["\x7b".toList, "    [k: string]: unknown;".toList,
        "    deep: \x7b a: string \x7d;".toList] "  \x7d[] | null".toList := by
      refine ⟨fun front hne hfront => ?_, by decide, ⟨"  \x7d[] | nul".toList, 'l', rfl, by decide⟩⟩
      have hall : ∀ front ∈ List.inits ["\x7b".toList, "    [k: string]: unknown;".toList,
          "    deep: \x7b a: string \x7d;".toList], front = [] ∨ 0 < braces front.flatten := by
        decide
      exact (hall front ((List.mem_inits _ _).mpr hfront)).resolve_left hne
    exact .member hkey htype (show _ = (memberText (memberFront true _ true) _ _).map _ by decide)
  have hescaped : Item ["  \x22a\\u00e9\\ud83d\\ude00\\\x22\x22: string;".toList]
      (some ⟨"aé😀\x22", "string", false⟩) := by
    have he : Json.IsCode ['0', '0', 'e', '9'] 0xE9 :=
      .digits (w := 0) (x := 0) (y := 14) (z := 9) rfl rfl rfl rfl
    have hhigh : Json.IsCode ['d', '8', '3', 'd'] 0xD83D :=
      .digits (w := 13) (x := 8) (y := 3) (z := 13) rfl rfl rfl rfl
    have hlow : Json.IsCode ['d', 'e', '0', '0'] 0xDE00 :=
      .digits (w := 13) (x := 14) (y := 0) (z := 0) rfl rfl rfl rfl
    have hspells : Json.Spells "a\\u00e9\\ud83d\\ude00\\\x22".toList "aé😀\x22".toList :=
      .cons (.plain (by decide) (by decide) (by decide)) (.cons (.code he (by decide))
        (.cons (.pair hhigh (by decide) hlow (by decide)) (.cons (.letter (by decide)) .nil)))
    have htype : TypeLines [] "string".toList :=
      ⟨fun front hne hfront => absurd (List.prefix_nil.mp hfront) hne, by decide,
        ⟨"strin".toList, 'g', rfl, by decide⟩⟩
    exact .member (.quoted hspells) htype
      (show _ = (memberText (memberFront false _ false) _ _).map _ by decide)
  let block : Block "Input" :=
    { opening := "\texport type Input = \x7b".toList
      items := [(["  /* \x7b".toList], none), ([[]], none), (_, some _), (_, some _),
        (["  [k: string]: \x7b x: 1 \x7d;".toList], none)]
      closing := "\x7d;\r".toList
      opens := .exportedType
      written := by
        simp only [List.forall_mem_cons]
        exact ⟨.comment ⟨"/*", by decide, by decide⟩, .blank rfl, hreadonly, hescaped,
          .index rfl (by decide), by simp⟩
      closes := .inr (by decide)
      unbroken := by decide }
  have hpreceding : ∀ line ∈ preceding.map String.toList,
      '\n' ∉ line ∧ opensBlock "Input".toList (Text.chomp line) = false := by decide
  exact ⟨hname, ofDeclarations_block hname block hpreceding (.inr ⟨_, rfl⟩)⟩

end SchemaLoom.Member
