import SchemaLoom.Proofs.TypeExpr.Named
import SchemaLoom.Proofs.TypeExpr.Written

/-!
# Telling types by their texts

Types with the same text are the same type, but that integers are numbers and
that of an object only its name is written. The end of a text tells how the type
is made: brackets stand behind arrays only, a quote behind literals only, and
`null` behind a blank only if the type may be null.

Taking this end off leaves the text of a smaller type, in parentheses or not,
and these are there exactly if the type is a union, so nothing about the order
of arrays and null is lost. Literals are told apart since a quoted string says
itself where it ends, whatever it holds.
-/

namespace SchemaLoom

namespace Json

/-- A quoted string says where it ends: what follows it is not needed to read it. -/
theorem stringChars_append_inj {a b : String} {s t : List Char}
    (h : stringChars a ++ s = stringChars b ++ t) : a = b ∧ s = t := by
  rw [stringChars_append, stringChars_append] at h
  have hbody := congrArg stringBody (List.cons.inj h).2
  have hpair := (stringBody_written a s).symm.trans (hbody.trans (stringBody_written b t))
  obtain ⟨htext, hrest⟩ := Prod.mk.inj (Except.ok.inj hpair)
  exact ⟨String.toList_inj.mp htext, hrest⟩

end Json

namespace TypeExpr

/-- A type as far as its text tells it: an integer counts as a number, and an
object has no fields but only its name. -/
def told : TypeExpr → TypeExpr
  | .integer => .number
  | .array item => .array item.told
  | .object name _ => .object name []
  | .nullable inner => .nullable inner.told
  | type => type

/-- A name that can be told from the words that are types themselves, and that
has characters of identifiers only. -/
structure IsOwnName (name : String) : Prop where
  identifier : IsAsciiIdentifier name
  notWord : name ∉ typeWords

/-- If a type refers to an interface, the name can be told from the words that
are types. -/
def OwnNamed (type : TypeExpr) : Prop := ∀ name, type.interfaceName? = some name → IsOwnName name

/-- The characters that the text of a type may have and a name may not. -/
theorem IsOwnName.not_mem {name : String} (h : IsOwnName name) {c : Char}
    (hc : Member.continuesIdentifier c = false) : c ∉ name.toList := by
  intro hmem
  rw [h.identifier.continues c hmem] at hc
  cases hc

/-- What the text of a type is made of: one word, string literals, an item and
brackets, braces with an index signature, or a type and `null`. -/
inductive Make where
  | word
  | literals
  | brackets
  | braces
  | orNull
  deriving DecidableEq

def make : TypeExpr → Make
  | .string (_ :: _) => .literals
  | .array _ => .brackets
  | .map => .braces
  | .nullable _ => .orNull
  | _ => .word

theorem exists_of_make_literals {type : TypeExpr} (h : type.make = .literals) :
    ∃ choice choices, type = .string (choice :: choices) := by
  cases type with
  | string choices =>
      cases choices with
      | nil => cases h
      | cons choice choices => exact ⟨choice, choices, rfl⟩
  | _ => cases h

theorem exists_of_make_brackets {type : TypeExpr} (h : type.make = .brackets) :
    ∃ item, type = .array item := by
  cases type with
  | array item => exact ⟨item, rfl⟩
  | string choices => cases choices <;> cases h
  | _ => cases h

theorem eq_map_of_make_braces {type : TypeExpr} (h : type.make = .braces) : type = .map := by
  cases type with
  | map => rfl
  | string choices => cases choices <;> cases h
  | _ => cases h

theorem exists_of_make_orNull {type : TypeExpr} (h : type.make = .orNull) :
    ∃ inner, type = .nullable inner := by
  cases type with
  | nullable inner => exact ⟨inner, rfl⟩
  | string choices => cases choices <;> cases h
  | _ => cases h

/-- The same, read off the end of the text. -/
def makeOf (s : List Char) : Make :=
  match s.getLast? with
  | some ']' => .brackets
  | some '\x22' => .literals
  | some '\x7d' => .braces
  | _ => if ' ' ∈ s then .orNull else .word

theorem makeOf_name {name : String} (h : IsOwnName name) : makeOf name.toList = .word := by
  have hlast : ∀ c, Member.continuesIdentifier c = false → name.toList.getLast? ≠ some c :=
    fun c hc hget => h.not_mem hc (List.mem_of_getLast? hget)
  have hblank : ' ' ∉ name.toList := h.not_mem (by decide)
  unfold makeOf
  split
  · next hget => exact absurd hget (hlast ']' (by decide))
  · next hget => exact absurd hget (hlast '\x22' (by decide))
  · next hget => exact absurd hget (hlast '\x7d' (by decide))
  · exact if_neg hblank

/-- What a text is made of can be read off it. -/
theorem makeOf_chars {type : TypeExpr} (h : type.OwnNamed) : makeOf type.chars = type.make := by
  cases type with
  | string choices =>
      cases choices with
      | nil => decide
      | cons choice choices =>
          obtain ⟨front, hfront⟩ := exists_quote_end choice choices
          rw [hfront, makeOf, List.getLast?_concat]
          rfl
  | array item =>
      have hbrackets : "[]".toList = ['['] ++ [']'] := rfl
      rw [chars_array, hbrackets, ← List.append_assoc, makeOf, List.getLast?_concat]
      rfl
  | object name fields => exact makeOf_name (h name rfl)
  | nullable inner =>
      have hnull : " | null".toList = " | nul".toList ++ ['l'] := rfl
      rw [chars_nullable, hnull, ← List.append_assoc, makeOf, List.getLast?_concat]
      exact if_pos (by simp)
  | unknown => decide
  | boolean => decide
  | integer => decide
  | number => decide
  | map => decide

theorem blank_mem_of_isUnion {type : TypeExpr} (h : type.isUnion = true) : ' ' ∈ type.chars := by
  cases type with
  | string choices =>
      obtain _ | ⟨choice, _ | ⟨next, rest⟩⟩ := choices
      · cases h
      · cases h
      · rw [chars_choices, List.map_cons, List.map_cons, intercalate_cons_cons]
        simp
  | nullable inner =>
      rw [chars_nullable]
      simp
  | _ => cases h

/-- The type that a word stands for: one of the words that are types themselves,
or the name of an interface. -/
def ofWord (word : String) : TypeExpr :=
  if word = "unknown" then .unknown
  else if word = "boolean" then .boolean
  else if word = "number" then .number
  else if word = "string" then .string []
  else .object word []

theorem ofWord_of_isOwnName {name : String} (h : IsOwnName name) :
    ofWord name = .object name [] := by
  have hnot := h.notWord
  simp only [typeWords, List.mem_cons, not_or] at hnot
  rw [ofWord, if_neg hnot.1, if_neg hnot.2.1, if_neg hnot.2.2.1, if_neg hnot.2.2.2.1]

theorem told_of_word {type : TypeExpr} (hnamed : type.OwnNamed) (h : type.make = .word) :
    type.told = ofWord type.text := by
  cases type with
  | object name fields =>
      have htext : (TypeExpr.object name fields).text = name := String.ofList_toList
      rw [htext, ofWord_of_isOwnName (hnamed name rfl), told]
  | string choices =>
      cases choices with
      | nil => rfl
      | cons choice choices => cases h
  | array item => cases h
  | nullable inner => cases h
  | map => cases h
  | unknown => rfl
  | boolean => rfl
  | integer => rfl
  | number => rfl

theorem told_eq_of_word {a b : TypeExpr} (ha : a.OwnNamed) (hb : b.OwnNamed)
    (hword : a.make = .word) (hmake : a.make = b.make) (h : a.chars = b.chars) :
    a.told = b.told := by
  rw [told_of_word ha hword, told_of_word hb (hmake ▸ hword), text, text, h]

theorem chars_literals (choice : String) (choices : List String) :
    (TypeExpr.string (choice :: choices)).chars =
      Json.stringChars choice ++ choices.flatMap (" | ".toList ++ Json.stringChars ·) := by
  rw [chars_choices]
  induction choices generalizing choice with
  | nil => simp [List.intercalate]
  | cons next rest ih =>
      rw [List.map_cons, List.map_cons, intercalate_cons_cons, ← List.map_cons, ih next,
        List.flatMap_cons, List.append_assoc]

theorem literals_inj {a b : List String}
    (h : a.flatMap (" | ".toList ++ Json.stringChars ·) =
      b.flatMap (" | ".toList ++ Json.stringChars ·)) : a = b := by
  induction a generalizing b with
  | nil =>
      cases b with
      | nil => rfl
      | cons choice b => cases h
  | cons choice a ih =>
      cases b with
      | nil => cases h
      | cons choice' b =>
          rw [List.flatMap_cons, List.flatMap_cons, List.append_assoc, List.append_assoc] at h
          obtain ⟨rfl, hrest⟩ := Json.stringChars_append_inj (List.append_cancel_left h)
          rw [ih hrest]

/-- Items with the same text in front of the brackets have the same text, since
only unions have parentheses around them. -/
theorem chars_eq_of_array {item item' : TypeExpr} (hnamed : item.OwnNamed)
    (hnamed' : item'.OwnNamed) (h : (TypeExpr.array item).chars = (TypeExpr.array item').chars) :
    item.chars = item'.chars := by
  -- In parentheses a union looks like a type that may be null, and no other item does.
  have hapart : ∀ {union other : TypeExpr}, union.isUnion = true → other.isUnion = false →
      other.OwnNamed → '(' :: union.chars ++ [')'] ≠ other.chars := by
    intro union other hunion hother hnamed he
    have hparentheses : makeOf ('(' :: union.chars ++ [')']) = .orNull := by
      rw [makeOf, List.getLast?_concat]
      exact if_pos (by simp [blank_mem_of_isUnion hunion])
    rw [he, makeOf_chars hnamed] at hparentheses
    cases other with
    | nullable inner => cases hother
    | string choices => cases choices <;> cases hparentheses
    | _ => cases hparentheses
  rw [chars_array, chars_array] at h
  have hitems := List.append_cancel_right h
  cases hunion : item.isUnion with
  | true =>
      cases hunion' : item'.isUnion with
      | true => simpa [hunion, hunion'] using hitems
      | false =>
          exact absurd (by simpa [hunion, hunion'] using hitems) (hapart hunion hunion' hnamed')
  | false =>
      cases hunion' : item'.isUnion with
      | true =>
          exact absurd (by simpa [hunion, hunion'] using hitems.symm) (hapart hunion' hunion hnamed)
      | false => simpa [hunion, hunion'] using hitems

/-- Types with the same text are the same as far as a text tells. -/
theorem told_eq_of_chars_eq {a b : TypeExpr} (ha : a.OwnNamed) (hb : b.OwnNamed)
    (h : a.chars = b.chars) : a.told = b.told := by
  have hmake : a.make = b.make := by rw [← makeOf_chars ha, h, makeOf_chars hb]
  induction a using chars.induct generalizing b with
  | case1 => exact told_eq_of_word ha hb rfl hmake h
  | case2 => exact told_eq_of_word ha hb rfl hmake h
  | case3 => exact told_eq_of_word ha hb rfl hmake h
  | case4 => exact told_eq_of_word ha hb rfl hmake h
  | case5 => exact told_eq_of_word ha hb rfl hmake h
  | case6 choice choices =>
      obtain ⟨choice', choices', rfl⟩ := exists_of_make_literals hmake.symm
      rw [chars_literals, chars_literals] at h
      obtain ⟨rfl, hrest⟩ := Json.stringChars_append_inj h
      rw [literals_inj hrest]
  | case7 item ih =>
      obtain ⟨item', rfl⟩ := exists_of_make_brackets hmake.symm
      have ha' : item.OwnNamed := ha
      have hb' : item'.OwnNamed := hb
      have hitem := chars_eq_of_array ha' hb' h
      rw [told, told, ih ha' hb' hitem (by rw [← makeOf_chars ha', hitem, makeOf_chars hb'])]
  | case8 =>
      obtain rfl := eq_map_of_make_braces hmake.symm
      rfl
  | case9 name fields => exact told_eq_of_word ha hb rfl hmake h
  | case10 inner ih =>
      obtain ⟨inner', rfl⟩ := exists_of_make_orNull hmake.symm
      have ha' : inner.OwnNamed := ha
      have hb' : inner'.OwnNamed := hb
      have hinner : inner.chars = inner'.chars := List.append_cancel_right h
      rw [told, told, ih ha' hb' hinner (by rw [← makeOf_chars ha', hinner, makeOf_chars hb'])]

theorem isUnion_told (type : TypeExpr) : type.told.isUnion = type.isUnion := by
  cases type <;> rfl

theorem chars_told (type : TypeExpr) : type.told.chars = type.chars := by
  induction type using chars.induct with
  | case7 item ih => rw [told, chars_array, chars_array, isUnion_told, ih]
  | case10 inner ih => rw [told, chars_nullable, chars_nullable, ih]
  | _ => rfl

/-- Two types have the same text exactly if they are the same but for the
difference between integers and numbers and for the fields of objects: the
nesting of arrays, the place of null and the list of literals can be read off
the text. -/
theorem text_eq_iff_told_eq {a b : TypeExpr} (ha : a.OwnNamed) (hb : b.OwnNamed) :
    a.text = b.text ↔ a.told = b.told := by
  rw [text, text, String.ofList_inj]
  constructor
  · exact told_eq_of_chars_eq ha hb
  · intro h
    rw [← chars_told a, h, chars_told]

/-- Rows that may be null in an array do not have the text of an array of rows
that may be null itself, and integers have that of numbers. -/
theorem text_eq_iff_told_eq_rows :
    let row (id : TypeExpr) := TypeExpr.object "$Row1" [(⟨"id", true, none⟩, id)]
    let rows := TypeExpr.array (.nullable (row .integer))
    OwnNamed rows ∧ OwnNamed (.nullable (.array (row .integer))) ∧
      OwnNamed (.array (.nullable (row .number))) ∧
      rows.text ≠ (TypeExpr.nullable (.array (row .integer))).text ∧
      rows.text = (TypeExpr.array (.nullable (row .number))).text := by
  intro row rows
  have hname : IsOwnName "$Row1" := ⟨.of_all rfl (by decide) (by decide), by decide⟩
  have hrows : OwnNamed rows := fun name h => Option.some.inj h ▸ hname
  have hopen : OwnNamed (.nullable (.array (row .integer))) := fun name h =>
    Option.some.inj h ▸ hname
  have hnumbers : OwnNamed (.array (.nullable (row .number))) :=
    fun name h => Option.some.inj h ▸ hname
  refine ⟨hrows, hopen, hnumbers, fun h => ?_, (text_eq_iff_told_eq hrows hnumbers).mpr rfl⟩
  exact nomatch (text_eq_iff_told_eq hrows hopen).mp h

end TypeExpr
end SchemaLoom
