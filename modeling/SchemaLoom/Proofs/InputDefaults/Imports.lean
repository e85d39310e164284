import SchemaLoom.Proofs.Fields.Once
import SchemaLoom.Proofs.InputDefaults.Arms
import SchemaLoom.Proofs.TypeExpr.Named
import SchemaLoom.Proofs.TypeExpr.Written
import SchemaLoom.Schema.Defaults

/-!
# Imported interfaces

The interfaces that the filled members refer to are read off the texts of their
types. A bar between the arms of a union and a bar in a string literal look the
same there, and a parenthesis looks like a part of a name. So a literal gives
the names that stand between two of its bars, and an interface that may be null
is lost when it is put in parentheses to be the item of an array.

Where neither happens the imports are the interfaces referred to, each once, in
order. What the text of a type is read as is one induction on the type; a schema
then contributes the types of the properties that are filled in.
-/

namespace SchemaLoom

namespace TypeExpr

/-- Whether the text of a type has the name of its interface in parentheses: the
items of some array in it are of a union. -/
def hidesName : TypeExpr → Bool
  | .array item => item.isUnion || item.hidesName
  | .nullable inner => inner.hidesName
  | _ => false

/-- The name of the interface as it is read off the text of a type, if
parentheses do not hide it. -/
def readName? (type : TypeExpr) : Option String :=
  if type.hidesName then none else type.interfaceName?

end TypeExpr

namespace InputDefaults

open Schema TypeExpr

/-- The names that stand between two bars of a string when it is quoted. -/
def namesBetweenBars (literal : String) : List String :=
  let pieces := Text.splitBy (· = '|') (literal.toList.flatMap Json.stringChar)
  (pieces.tail.dropLast.map armName?).reduceOption

/-- Off a quoted string the names between its bars are read; the first arm and
the last have a quote and name nothing. -/
theorem readAs_stringChars (literal : String) :
    ReadAs (Json.stringChars literal) none (namesBetweenBars literal) := by
  rw [Json.stringChars, ReadAs, List.cons_append, armNames_cons_of_spoils (by decide)]
  refine ⟨_, rfl, ?_⟩
  rw [namesBetweenBars]
  generalize literal.toList.flatMap Json.stringChar = body
  have hquote : ∀ last : List Char, '|' ∉ last → armNames (last ++ ['\x22']) = [none] := by
    intro last hbar
    rw [armNames_eq_singleton (by simpa using hbar), armName?_of_spoils (c := '\x22') (by decide)
      (by simp)]
  obtain hbar | ⟨front, last, rfl, hbar⟩ := exists_last_arm body
  · rw [hquote body hbar, Text.splitBy_of_not_mem hbar]
    rfl
  · have hfront := Text.splitBy_ne_nil (· = '|') front
    rw [List.append_assoc, List.cons_append, armNames_append_bar, hquote last hbar,
      Text.splitBy_append_cons front last (by decide), Text.splitBy_of_not_mem hbar,
      List.tail_append_of_ne_nil (armNames_ne_nil front), List.tail_append_of_ne_nil hfront,
      List.dropLast_concat, List.reduceOption_append, armNames, List.map_tail]
    exact List.append_nil _

theorem readAs_choices (choice : String) (choices : List String) :
    ReadAs (TypeExpr.string (choice :: choices)).chars none
      ((choice :: choices).flatMap namesBetweenBars) := by
  rw [chars_choices]
  induction choices generalizing choice with
  | nil => simpa [List.intercalate] using readAs_stringChars choice
  | cons next rest ih =>
    have hbar := (readAs_stringChars choice).append_blank.append_bar (ih next).cons_blank
    rw [List.map_cons, List.map_cons, intercalate_cons_cons, ← List.map_cons]
    simpa using hbar

/-- The text of a union has a bar, and its last arm names nothing. -/
theorem getLast?_armNames_of_isUnion {type : TypeExpr} (h : type.isUnion = true) :
    '|' ∈ type.chars ∧ (armNames type.chars).getLast? = some none := by
  cases type with
  | string choices =>
    obtain _ | ⟨choice, _ | ⟨next, rest⟩⟩ := choices
    · cases h
    · cases h
    · obtain ⟨front, hfront⟩ := exists_quote_end choice (next :: rest)
      refine ⟨?_, ?_⟩
      · rw [chars_choices, List.map_cons, List.map_cons, intercalate_cons_cons]
        simp
      · rw [hfront]
        exact getLast?_armNames_of_spoils (by decide) front
  | nullable inner =>
    have hnull : inner.chars ++ " | null".toList =
        (inner.chars ++ [' ']) ++ '|' :: " null".toList := by
      simp
    rw [chars_nullable, hnull, armNames_append_bar, List.getLast?_append_of_ne_nil _
      (armNames_ne_nil _)]
    exact ⟨by simp, rfl⟩
  | _ => cases h

theorem exists_ink_end {type : TypeExpr} (h : type.isUnion = false)
    (hname : ∀ name, type.interfaceName? = some name → isTypeName name.toList = true) :
    ∃ front c, type.chars = front ++ [c] ∧ Text.isBlank c = false := by
  cases type with
  | string choices =>
    cases choices with
    | nil => exact ⟨"strin".toList, 'g', rfl, by decide⟩
    | cons choice choices =>
      obtain ⟨front, hfront⟩ := exists_quote_end choice choices
      exact ⟨front, '\x22', hfront, by decide⟩
  | array item =>
    refine ⟨(if item.isUnion then '(' :: item.chars ++ [')'] else item.chars) ++ ['['], ']', ?_,
      by decide⟩
    rw [chars_array, List.append_assoc]
    rfl
  | object name fields =>
    obtain ⟨front, c, hchars, hc⟩ := exists_last_of_isTypeName (hname name rfl)
    exact ⟨front, c, hchars, isBlank_of_isNameChar hc⟩
  | nullable inner => cases h
  | unknown => exact ⟨"unknow".toList, 'n', rfl, by decide⟩
  | boolean => exact ⟨"boolea".toList, 'n', rfl, by decide⟩
  | integer => exact ⟨"numbe".toList, 'r', rfl, by decide⟩
  | number => exact ⟨"numbe".toList, 'r', rfl, by decide⟩
  | map => exact ⟨"\x7b [k: string]: unknown ".toList, '\x7d', rfl, by decide⟩

/-- Off the text of a type its interface is read, unless parentheses hide it,
and then the names between the bars of its literals. -/
theorem readAs_chars {type : TypeExpr}
    (hname : ∀ name, type.interfaceName? = some name → isTypeName name.toList = true) :
    ReadAs type.chars type.readName? (type.choices.flatMap namesBetweenBars) := by
  induction type using chars.induct with
  | case1 => exact ReadAs.single (by decide)
  | case2 => exact ReadAs.single (by decide)
  | case3 => exact ReadAs.single (by decide)
  | case4 => exact ReadAs.single (by decide)
  | case5 => exact ReadAs.single (by decide)
  | case6 choice choices => exact readAs_choices choice choices
  | case7 item ih =>
    rw [chars_array]
    cases hunion : item.isUnion with
    | true =>
      obtain ⟨hbar, hlast⟩ := getLast?_armNames_of_isUnion hunion
      have hhidden : (TypeExpr.array item).readName? = none := by
        simp [readName?, hidesName, hunion]
      rw [hhidden, if_pos rfl]
      exact (ih hname).parentheses hbar hlast
    | false =>
      have hread : (TypeExpr.array item).readName? = item.readName? := by
        simp [readName?, hidesName, hunion, interfaceName?]
      rw [hread, if_neg (by decide)]
      exact (ih hname).append_brackets (exists_ink_end hunion hname)
  | case8 => exact ReadAs.single (by decide)
  | case9 name fields =>
    have hread := ReadAs.single (bar_not_mem_of_isTypeName (hname name rfl))
    rw [armName?_of_isTypeName (hname name rfl)] at hread
    exact hread
  | case10 inner ih =>
    have hnull : ReadAs " null".toList none [] := ReadAs.single (by decide)
    have hread := (ih hname).append_blank.append_bar hnull
    change ReadAs _ inner.readName? (inner.choices.flatMap namesBetweenBars)
    rw [chars_nullable]
    simpa using hread

/-- A name that an interface can be imported by: an ASCII identifier, of
letters, digits, underscores and dollars, with a capital in front. -/
structure IsTypeName (name : String) : Prop where
  capital : ∃ c ∈ name.toList.head?, c.isUpper = true
  plain : ∀ c ∈ name.toList, c.isAlphanum = true ∨ c = '_' ∨ c = '$'

theorem isTypeName_eq_true_iff {name : String} :
    isTypeName name.toList = true ↔ IsTypeName name := by
  rw [isTypeName, Bool.and_eq_true, Option.any_eq_true, List.all_eq_true]
  constructor
  · rintro ⟨⟨c, hc, hupper⟩, hplain⟩
    exact ⟨⟨c, hc, hupper⟩, fun d hd => by simpa [or_assoc] using hplain d hd⟩
  · rintro ⟨⟨c, hc, hupper⟩, hplain⟩
    exact ⟨⟨c, hc, hupper⟩, fun d hd => by simpa [or_assoc] using hplain d hd⟩

theorem IsTypeName.goesOn {root name : String} (h : IsTypeName root) (hname : GoesOn root name) :
    IsTypeName name := by
  obtain ⟨suffix, rfl, hsuffix⟩ := hname
  obtain ⟨c, hc, hupper⟩ := h.capital
  refine ⟨⟨c, ?_, hupper⟩, fun d hd => ?_⟩
  · rw [String.toList_append, List.head?_append, Option.mem_def.mp hc]
    rfl
  · rw [String.toList_append, List.mem_append] at hd
    exact hd.elim (h.plain d) fun hd => .inl (hsuffix d hd)

/-- The types of the properties that are filled in: they need not be given and
have a default. -/
def filledTypes (fields : List (Property × TypeExpr)) (defaults : Fields Json) : List TypeExpr :=
  (fields.filter fun field => !field.1.required && defaults.has field.1.key).map (·.2)

theorem imports_ofMembers (type : TypeExpr) (defaults : Fields Json) :
    (ofMembers type.members defaults).imports =
      ((filledTypes type.fields defaults).flatMap
        fun filled => namedTypes filled.text).eraseDups := by
  have hfilled : ∀ fields : List (Property × TypeExpr),
      ((filled (fields.map memberOf) defaults).flatMap fun p => namedTypes p.1.declaredType) =
        (filledTypes fields defaults).flatMap fun filled => namedTypes filled.text := by
    intro fields
    induction fields with
    | nil => rfl
    | cons field rest ih =>
      obtain ⟨⟨key, required, description⟩, fieldType⟩ := field
      cases required with
      | true => simpa [filled, filledTypes, memberOf] using ih
      | false =>
        cases hdefault : defaults.get? key with
        | none => simpa [filled, filledTypes, memberOf, hdefault, Fields.has] using ih
        | some value => simpa [filled, filledTypes, memberOf, hdefault, Fields.has] using ih
  rw [members_eq, ofMembers, hfilled]

/-- What is imported for a schema: for each type filled in the interface that is
read off its text, and the names between the bars of its literals, each name
once. Where every interface is read and no literal gives a name, these are the
interfaces that the types refer to. -/
theorem imports_of_schema {name : String} {schema : Json} {type : TypeExpr}
    (hname : IsTypeName name) (htype : ofSchema name schema = .ok type) :
    let types := filledTypes type.fields (defaultsOf schema)
    let imports := (ofMembers type.members (defaultsOf schema)).imports
    imports = (types.flatMap fun filled =>
        filled.readName?.toList ++ filled.choices.flatMap namesBetweenBars).eraseDups ∧
      imports.Nodup ∧
      ((∀ filled ∈ types, filled.readName? = filled.interfaceName? ∧
          ∀ choice ∈ filled.choices, namesBetweenBars choice = []) →
        imports = (types.flatMap fun filled => filled.interfaceName?.toList).eraseDups) := by
  intro types imports
  have hread : ∀ filled ∈ types, namedTypes filled.text =
      filled.readName?.toList ++ filled.choices.flatMap namesBetweenBars := by
    intro filled hfilled
    obtain ⟨field, hfield, rfl⟩ := List.mem_map.mp hfilled
    refine (readAs_chars fun interface hinterface => ?_).namedTypes_eq
    have hgoesOn := goesOn_of_ofSchema htype (List.mem_of_mem_filter hfield) hinterface
    exact isTypeName_eq_true_iff.mpr (hname.goesOn hgoesOn)
  have himports : imports = (types.flatMap fun filled =>
      filled.readName?.toList ++ filled.choices.flatMap namesBetweenBars).eraseDups := by
    rw [← List.flatMap_congr hread]
    exact imports_ofMembers type _
  refine ⟨himports, himports ▸ Once.nodup_eraseDups _, fun hplain => ?_⟩
  rw [himports]
  congr 1
  refine List.flatMap_congr fun filled hfilled => ?_
  obtain ⟨hinterface, hchoices⟩ := hplain filled hfilled
  rw [hinterface, List.flatMap_eq_nil_iff.mpr hchoices, List.append_nil]

/-- Brackets, `null` and quotes do no harm: two interfaces are imported, and no
literal. -/
theorem imports_of_schema_plain :
    let schema : Json := .object [("type", .string "object"), ("properties", .object [
      ("mode", .object [("type", .string "string"), ("enum", .array [.string "fast|Slow"]),
        ("default", .string "fast|Slow")]),
      ("rows", .object [("type", .string "array"), ("items", .object [("type", .string "object"),
        ("properties", .object [("x", .object [("type", .string "string")])])]),
        ("default", .array [])]),
      ("proxy", .object [("type", .string "object"), ("nullable", .bool true),
        ("properties", .object [("url", .object [("type", .string "string")])]),
        ("default", .null)])])]
    IsTypeName "Input" ∧ ∃ type, ofSchema "Input" schema = .ok type ∧
      (ofMembers type.members (defaultsOf schema)).imports = ["InputRowsItem", "InputProxy"] := by
  intro schema
  have hname : IsTypeName "Input" := isTypeName_eq_true_iff.mp (by decide)
  refine ⟨hname, _, rfl, ?_⟩
  exact ((imports_of_schema hname rfl).2.2 (by decide +kernel)).trans (by decide +kernel)

/-- Two properties of which neither is read as it is meant: a literal gives a
name, and an interface in parentheses is lost. -/
theorem imports_bars_and_parentheses :
    let schema : Json := .object [("type", .string "object"), ("properties", .object [
      ("mode", .object [("type", .string "string"), ("enum", .array [.string "a|Foo|b"]),
        ("default", .string "a|Foo|b")]),
      ("rows", .object [("type", .string "array"), ("items", .object [("type", .string "object"),
        ("nullable", .bool true), ("properties", .object [
          ("x", .object [("type", .string "string")])])]), ("default", .array [])])])]
    ∃ type, ofSchema "Input" schema = .ok type ∧
      (ofMembers type.members (defaultsOf schema)).imports = ["Foo"] ∧
      (filledTypes type.fields (defaultsOf schema)).flatMap (fun filled =>
        filled.interfaceName?.toList) = ["InputRowsItem"] :=
  ⟨_, rfl, by decide +kernel, by decide +kernel⟩

end InputDefaults
end SchemaLoom
