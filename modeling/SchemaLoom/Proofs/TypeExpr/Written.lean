import SchemaLoom.Proofs.Member.Braces
import SchemaLoom.Proofs.Text.Blank
import SchemaLoom.Proofs.TypeExpr.Names

/-!
# What a written type looks like

The text of a type stands on one line, begins and ends with ink and does not end
in a semicolon, so it can be cut out of the line of a member. Its braces are in
balance but for those that stand in string literals.

All of this rests on the names of interfaces being words, which the names that
are given out are. Where a name stands in a text is told, too: at its head,
behind the parentheses of arrays, and nowhere else.
-/

namespace SchemaLoom.TypeExpr

open Member

/-- A name of an interface: a word of ASCII letters, digits and underscores that
is not empty. -/
structure IsName (name : String) : Prop where
  nonempty : name.toList ≠ []
  word : ∀ c ∈ name.toList, Text.isAsciiWord c = true

theorem isAsciiWord_of_isAlphanum {c : Char} (h : c.isAlphanum = true) :
    Text.isAsciiWord c = true := by
  simp [Text.isAsciiWord, h]

theorem IsName.append {name suffix : String} (h : IsName name)
    (hs : ∀ c ∈ suffix.toList, c.isAlphanum = true) : IsName (name ++ suffix) := by
  refine ⟨?_, ?_⟩
  · rw [String.toList_append]
    exact List.append_ne_nil_of_left_ne_nil h.nonempty _
  · intro c hc
    rw [String.toList_append, List.mem_append] at hc
    rcases hc with hc | hc
    · exact h.word c hc
    · exact isAsciiWord_of_isAlphanum (hs c hc)

/-- Whatever a property refers to has a word for its name. -/
def WellNamed (type : TypeExpr) : Prop := ∀ name, type.interfaceName? = some name → IsName name

theorem chars_choices (choice : String) (choices : List String) :
    (TypeExpr.string (choice :: choices)).chars =
      " | ".toList.intercalate ((choice :: choices).map Json.stringChars) := rfl

theorem chars_array (item : TypeExpr) :
    (TypeExpr.array item).chars =
      (if item.isUnion then '(' :: item.chars ++ [')'] else item.chars) ++ "[]".toList := rfl

theorem chars_nullable (inner : TypeExpr) :
    (TypeExpr.nullable inner).chars = inner.chars ++ " | null".toList := rfl

/-- The strings that stand in the text of a type as literals: those of the
string that the type is made of, if it is. -/
def choices : TypeExpr → List String
  | .string choices => choices
  | .array item => item.choices
  | .nullable inner => inner.choices
  | _ => []

/-- How many more braces the literals in the text of a type open than they close. -/
def literalBraces (type : TypeExpr) : Int := braces (type.choices.flatMap String.toList)

/-- A text that can be told from the blanks and the semicolon around it: it
takes one line, and it begins with ink and ends with ink other than a semicolon. -/
structure Legible (s : List Char) : Prop where
  newline : '\n' ∉ s
  first : ∃ c rest, s = c :: rest ∧ Text.isBlank c = false
  last : ∃ front c, s = front ++ [c] ∧ Text.isBlank c = false ∧ c ≠ ';'

/-- Whether a text begins and ends as a legible one does, which can be decided
where the text is known. -/
def hasInkEnds (s : List Char) : Bool :=
  s.head?.any (!Text.isBlank ·) && s.getLast?.any fun c => !Text.isBlank c && c != ';'

theorem legible_of_hasInkEnds {s : List Char} (hn : '\n' ∉ s) (h : hasInkEnds s = true) :
    Legible s := by
  simp only [hasInkEnds, Bool.and_eq_true, Option.any_eq_true, Bool.not_eq_true', bne_iff_ne] at h
  obtain ⟨⟨c, hc, hink⟩, d, hd, hink', hd'⟩ := h
  obtain ⟨rest, hrest⟩ := List.head?_eq_some_iff.mp hc
  obtain ⟨front, hfront⟩ := List.getLast?_eq_some_iff.mp hd
  exact ⟨hn, ⟨c, rest, hrest, hink⟩, ⟨front, d, hfront, hink', hd'⟩⟩

/-- What stands between two legible texts need only take no line of its own. -/
theorem Legible.between {a b : List Char} (ha : Legible a) (hb : Legible b) {middle : List Char}
    (hm : '\n' ∉ middle) : Legible (a ++ (middle ++ b)) := by
  obtain ⟨c, rest, rfl, hc⟩ := ha.first
  obtain ⟨front, d, rfl, hd, hd'⟩ := hb.last
  refine ⟨?_, ⟨c, _, rfl, hc⟩, ⟨c :: rest ++ (middle ++ front), d, by simp, hd, hd'⟩⟩
  rw [List.mem_append, List.mem_append, not_or, not_or]
  exact ⟨ha.newline, hm, hb.newline⟩

theorem Legible.append {a b : List Char} (ha : Legible a) (hb : Legible b) : Legible (a ++ b) := by
  simpa using ha.between hb (List.not_mem_nil)

theorem legible_stringChars (s : String) : Legible (Json.stringChars s) :=
  ⟨Json.newline_not_mem_stringChars s, ⟨'\x22', _, rfl, by decide⟩,
    ⟨_, '\x22', rfl, by decide, by decide⟩⟩

theorem IsName.legible {name : String} (h : IsName name) : Legible name.toList := by
  have hink : ∀ c ∈ name.toList, Text.isBlank c = false := fun c hc =>
    Text.isBlank_of_isWord (Text.isWord_of_isAsciiWord (h.word c hc))
  refine ⟨fun hmem => ?_, ?_, ?_⟩
  · exact absurd (h.word _ hmem) (by decide)
  · obtain ⟨c, rest, hs⟩ := List.exists_cons_of_ne_nil h.nonempty
    exact ⟨c, rest, hs, hink c (hs ▸ List.mem_cons_self)⟩
  · have hlast := List.getLast_mem h.nonempty
    refine ⟨_, _, (List.dropLast_concat_getLast h.nonempty).symm, hink _ hlast, fun hc => ?_⟩
    exact absurd (h.word _ (hc ▸ hlast)) (by decide)

theorem intercalate_cons_cons {α : Type} (separator a b : List α) (rest : List (List α)) :
    separator.intercalate (a :: b :: rest) =
      a ++ (separator ++ separator.intercalate (b :: rest)) := by
  simp [List.intercalate]

theorem exists_quote_end (choice : String) (choices : List String) :
    ∃ front, (TypeExpr.string (choice :: choices)).chars = front ++ ['\x22'] := by
  rw [chars_choices]
  induction choices generalizing choice with
  | nil =>
    exact ⟨'\x22' :: choice.toList.flatMap Json.stringChar, by
      simp [List.intercalate, Json.stringChars]⟩
  | cons next rest ih =>
    obtain ⟨front, hfront⟩ := ih next
    rw [List.map_cons, List.map_cons, intercalate_cons_cons, ← List.map_cons, hfront,
      ← List.append_assoc, ← List.append_assoc]
    exact ⟨_, rfl⟩

theorem legible_intercalate {separator : List Char} (hs : '\n' ∉ separator) {a : List Char}
    {rest : List (List Char)} (h : ∀ s ∈ a :: rest, Legible s) :
    Legible (separator.intercalate (a :: rest)) := by
  induction rest generalizing a with
  | nil => simpa [List.intercalate] using h
  | cons b rest ih =>
      rw [List.forall_mem_cons] at h
      rw [intercalate_cons_cons]
      exact h.1.between (ih h.2) hs

/-- The text of a type is legible if the name in it is. -/
theorem legible_chars {type : TypeExpr}
    (h : ∀ name, type.interfaceName? = some name → Legible name.toList) : Legible type.chars := by
  induction type using chars.induct with
  | case1 => exact legible_of_hasInkEnds (by decide) (by decide)
  | case2 => exact legible_of_hasInkEnds (by decide) (by decide)
  | case3 => exact legible_of_hasInkEnds (by decide) (by decide)
  | case4 => exact legible_of_hasInkEnds (by decide) (by decide)
  | case5 => exact legible_of_hasInkEnds (by decide) (by decide)
  | case6 choice choices =>
      rw [chars_choices, List.map_cons]
      refine legible_intercalate (by decide) fun s hs => ?_
      rw [← List.map_cons] at hs
      obtain ⟨literal, _, rfl⟩ := List.mem_map.mp hs
      exact legible_stringChars literal
  | case7 item ih =>
      have hbrackets : Legible "[]".toList := legible_of_hasInkEnds (by decide) (by decide)
      have hopen : Legible ['('] := legible_of_hasInkEnds (by decide) (by decide)
      have hclose : Legible [')'] := legible_of_hasInkEnds (by decide) (by decide)
      rw [chars_array]
      split
      · exact ((hopen.append (ih h)).append hclose).append hbrackets
      · exact (ih h).append hbrackets
  | case8 => exact legible_of_hasInkEnds (by decide) (by decide)
  | case9 name fields => exact h name rfl
  | case10 inner ih =>
      have hnull : Legible "null".toList := legible_of_hasInkEnds (by decide) (by decide)
      exact (ih h).between hnull (show '\n' ∉ " | ".toList by decide)

/-- The words that are types themselves. -/
def typeWords : List String := ["unknown", "boolean", "number", "string", "null"]

/-- The word at the head of a text, behind its parentheses: the only place for a
name in the text of a type. A text that begins with a literal or with braces has
no word there. -/
def headWord (text : List Char) : String :=
  String.ofList ((text.dropWhile (· = '(')).takeWhile continuesIdentifier)

theorem headWord_parenthesis (text : List Char) : headWord ('(' :: text) = headWord text := by
  rw [headWord, headWord, List.dropWhile_cons_of_pos (by decide)]

/-- Where no word goes on, what stands behind a text does not change its head. -/
theorem headWord_append (text : List Char) {c : Char} (hopen : c ≠ '(')
    (hc : continuesIdentifier c = false) (rest : List Char) :
    headWord (text ++ c :: rest) = headWord text := by
  have hend : (c :: rest).takeWhile continuesIdentifier = [] :=
    List.takeWhile_cons_of_neg (by simp [hc])
  rw [headWord, headWord, List.dropWhile_append]
  split
  · next hnone =>
    rw [List.isEmpty_iff.mp hnone, List.dropWhile_cons_of_neg (by simpa using hopen), hend]
    rfl
  · rw [List.takeWhile_append, hend, List.append_nil]
    split
    · next hall => rw [(List.takeWhile_prefix _).eq_of_length hall]
    · rfl

theorem headWord_name {name : String} (h : ∀ c ∈ name.toList, continuesIdentifier c = true) :
    headWord name.toList = name := by
  have hopen : name.toList.dropWhile (· = '(') = name.toList := by
    cases hlist : name.toList with
    | nil => rfl
    | cons c rest =>
        refine List.dropWhile_cons_of_neg fun hc => ?_
        have := h c (hlist ▸ List.mem_cons_self)
        rw [of_decide_eq_true hc] at this
        cases this
  rw [headWord, hopen, List.takeWhile_eq_self_iff.mpr h, String.ofList_toList]

/-- The name that a type refers to stands at the head of its text. A text that
refers to no name begins with one of the words that are types, or with no word
at all. -/
theorem headWord_chars {type : TypeExpr}
    (h : ∀ name, type.interfaceName? = some name →
      ∀ c ∈ name.toList, continuesIdentifier c = true) :
    (∀ name, type.interfaceName? = some name → headWord type.chars = name) ∧
      (type.interfaceName? = none → headWord type.chars ∈ "" :: typeWords) := by
  have hword : ∀ text, headWord text ∈ "" :: typeWords →
      (∀ name, (none : Option String) = some name → headWord text = name) ∧
        ((none : Option String) = none → headWord text ∈ "" :: typeWords) :=
    fun text hmem => ⟨fun name hname => (nomatch hname), fun _ => hmem⟩
  induction type using chars.induct with
  | case1 => exact hword _ (by decide)
  | case2 => exact hword _ (by decide)
  | case3 => exact hword _ (by decide)
  | case4 => exact hword _ (by decide)
  | case5 => exact hword _ (by decide)
  | case6 choice choices =>
      have hquote : headWord (TypeExpr.string (choice :: choices)).chars = "" := by
        cases choices <;> rfl
      exact hword _ (hquote ▸ List.mem_cons_self)
  | case7 item ih =>
      have hitem : headWord (TypeExpr.array item).chars = headWord item.chars := by
        rw [chars_array]
        split
        · rw [List.cons_append, List.cons_append, List.append_assoc, headWord_parenthesis]
          exact headWord_append _ (by decide) (by decide) _
        · exact headWord_append _ (by decide) (by decide) _
      rw [hitem]
      exact ih h
  | case8 => exact hword _ (by decide)
  | case9 name fields =>
      refine ⟨fun used hused => ?_, fun hnone => (nomatch hnone)⟩
      obtain rfl := Option.some.inj hused
      exact headWord_name (h name rfl)
  | case10 inner ih =>
      have hinner : headWord (TypeExpr.nullable inner).chars = headWord inner.chars :=
        headWord_append _ (by decide) (by decide) _
      rw [hinner]
      exact ih h

theorem braces_literals {separator : List Char} (hs : braces separator = 0)
    (literals : List String) :
    braces (separator.intercalate (literals.map Json.stringChars)) =
      braces (literals.flatMap String.toList) := by
  induction literals with
  | nil => rfl
  | cons a rest ih =>
      cases rest with
      | nil => simp [List.intercalate, braces_stringChars]
      | cons b rest =>
          rw [List.map_cons, List.map_cons, intercalate_cons_cons, braces_append, braces_append, hs,
            ← List.map_cons, ih, braces_stringChars, Int.zero_add, ← braces_append,
            ← List.flatMap_cons]

theorem IsName.braces {name : String} (h : IsName name) : Member.braces name.toList = 0 :=
  braces_eq_zero (fun hmem => absurd (h.word _ hmem) (by decide))
    fun hmem => absurd (h.word _ hmem) (by decide)

/-- Only braces in string literals are out of balance, so the text of a type is
as far out of balance as its literals are. -/
theorem braces_chars {type : TypeExpr} (h : type.WellNamed) :
    braces type.chars = type.literalBraces := by
  unfold literalBraces
  induction type using chars.induct with
  | case1 => rfl
  | case2 => rfl
  | case3 => rfl
  | case4 => rfl
  | case5 => rfl
  | case6 choice choices =>
      rw [chars_choices, braces_literals (by decide)]
      rfl
  | case7 item ih =>
      have hbrackets : braces "[]".toList = 0 := rfl
      have hopen : braces ['('] = 0 := rfl
      have hclose : braces [')'] = 0 := rfl
      rw [chars_array, braces_append, hbrackets, Int.add_zero, choices, ← ih h]
      split
      · rw [List.cons_append, braces_cons, braces_append, hopen, hclose, Int.zero_add, Int.add_zero]
      · rfl
  | case8 => rfl
  | case9 name fields => exact (h name rfl).braces
  | case10 inner ih =>
      have hnull : braces " | null".toList = 0 := rfl
      rw [chars_nullable, braces_append, hnull, Int.add_zero, choices, ih h]

end SchemaLoom.TypeExpr
