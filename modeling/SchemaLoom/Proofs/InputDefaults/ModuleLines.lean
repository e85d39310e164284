import SchemaLoom.InputDefaults.Module
import SchemaLoom.Proofs.InputDefaults.Arms
import SchemaLoom.Proofs.InputDefaults.Filled
import SchemaLoom.Proofs.Json.Written

/-!
# Reading the defaults module

The values to fill in and the keys that must be supplied stand in two blocks of
lines. No line in front of a block is the one that opens it, and since the lines
inside are indented, none of them is the one that closes it, whatever keys and
values hold. So the blocks can be found again.

Every line in them is read as what it was written for, and the module tells what
it was made of. The reader of the blocks is a definition of its own: it finds
the lines between an opening and a closing line and reads each with the reader
of JSON.
-/

namespace SchemaLoom.InputDefaults

open Json

/-- The lines strictly between the first line that opens a block and the next
line that closes it. -/
def linesBetween? (opening closing : List Char) (lines : List (List Char)) :
    Option (List (List Char)) :=
  match lines.dropWhile (· ≠ opening) with
  | [] => none
  | _ :: after => if closing ∈ after then some (after.takeWhile (· ≠ closing)) else none

/-- A line without its indentation and without the comma at its end, which it
must have. -/
def content? (line : List Char) : Option (List Char) :=
  if line.getLast? = some ',' then some (line.dropLast.dropWhile (· = ' ')) else none

/-- The JSON string at the front of a text, and what follows it. -/
def frontString? : List Char → Option (String × List Char)
  | '\x22' :: body =>
    match stringBody body with
    | .ok (s, rest) => some (String.ofList s, rest)
    | .error _ => none
  | _ => none

/-- The key on a line that holds nothing else between its indentation and the
comma at its end. -/
def keyOn? (line : List Char) : Option String :=
  match (content? line).bind frontString? with
  | some (key, []) => some key
  | _ => none

/-- The key on a line and the value behind it, which may be nested as deep as
the number says. -/
def entryOn? (limit : Nat) (line : List Char) : Option (String × Json) :=
  match (content? line).bind frontString? with
  | some (key, ':' :: ' ' :: text) =>
    match Reader.run (value limit) text with
    | .ok (v, []) => some (key, v)
    | _ => none
  | _ => none

/-- The line that opens the block of values. The block ends at the next line
that is `valuesClosing`. -/
def valuesOpening : List Char := "export const DEFAULT_INPUT_VALUES = ".toList ++ opened

def valuesClosing : List Char := closed ++ " as const;".toList

def requiredOpening : List Char := "export const REQUIRED_INPUT_FIELDS_WITHOUT_DEFAULT = [".toList

def requiredClosing : List Char := "] as const;".toList

theorem linesBetween?_block {opening closing : List Char} {front inner : List (List Char)}
    (hfront : opening ∉ front) (hinner : closing ∉ inner) (rest : List (List Char)) :
    linesBetween? opening closing (front ++ opening :: (inner ++ closing :: rest)) =
      some inner := by
  have hskipped : ∀ line ∈ front, decide (line ≠ opening) = true :=
    fun line hline => decide_eq_true fun e => hfront (e ▸ hline)
  have htaken : ∀ line ∈ inner, decide (line ≠ closing) = true :=
    fun line hline => decide_eq_true fun e => hinner (e ▸ hline)
  rw [linesBetween?, List.dropWhile_append_of_pos hskipped, List.dropWhile_cons_of_neg (by simp)]
  dsimp only
  rw [if_pos (by simp), List.takeWhile_append_of_pos htaken, List.takeWhile_cons_of_neg (by simp),
    List.append_nil]

theorem valueLine_eq (entry : String × Json) :
    valueLine entry = "    ".toList ++ stringChars entry.1 ++ ": ".toList ++ compactChars entry.2 ++
      [','] := rfl

theorem requiredLine_eq (key : String) :
    requiredLine key = "    ".toList ++ stringChars key ++ [','] := rfl

theorem content?_stringChars (key : String) (tail : List Char) :
    content? ("    ".toList ++ (stringChars key ++ tail) ++ [',']) =
      some (stringChars key ++ tail) := by
  have hblanks : ∀ c ∈ "    ".toList, decide (c = ' ') = true :=
    Text.forall_mem_literal (by simp)
  rw [content?, if_pos List.getLast?_concat, List.dropLast_concat,
    List.dropWhile_append_of_pos hblanks]
  rfl

theorem frontString?_stringChars (s : String) (rest : List Char) :
    frontString? (stringChars s ++ rest) = some (s, rest) := by
  rw [stringChars_append, frontString?, stringBody_written]
  dsimp only
  rw [String.ofList_toList]

theorem keyOn?_requiredLine (key : String) : keyOn? (requiredLine key) = some key := by
  have hcontent := content?_stringChars key []
  have hstring := frontString?_stringChars key []
  rw [List.append_nil] at hcontent hstring
  rw [keyOn?, requiredLine_eq, hcontent, Option.bind_some, hstring]

/-- The line of a value is read as the entry that it was written for, by a
reader that goes deep enough. -/
theorem entryOn?_valueLine {entry : String × Json} (hu : entry.2.UniqueKeys)
    (hw : entry.2.WholeNumbers) {limit : Nat} (hlimit : entry.2.nesting ≤ limit) :
    entryOn? limit (valueLine entry) = some entry := by
  have hcontent := content?_stringChars entry.1 (": ".toList ++ compactChars entry.2)
  rw [← List.append_assoc, ← List.append_assoc, ← valueLine_eq] at hcontent
  have hcolon : ": ".toList ++ compactChars entry.2 = ':' :: ' ' :: compactChars entry.2 := rfl
  rw [entryOn?, hcontent, Option.bind_some, frontString?_stringChars, hcolon]
  simp only [run_compactChars hu hw hlimit]

theorem newline_not_mem_valueLine {entry : String × Json} (hw : entry.2.WholeNumbers) :
    '\n' ∉ valueLine entry := by
  simp only [valueLine_eq, List.mem_append, not_or]
  exact ⟨⟨⟨⟨by decide, newline_not_mem_stringChars entry.1⟩, by decide⟩,
    newline_not_mem_compactChars hw⟩, by decide⟩

theorem newline_not_mem_requiredLine (key : String) : '\n' ∉ requiredLine key := by
  simp only [requiredLine_eq, List.mem_append, not_or]
  exact ⟨⟨by decide, newline_not_mem_stringChars key⟩, by decide⟩

theorem isTypeName_of_mem_imports {members : List Member} {defaults : Fields Json} {name : String}
    (h : name ∈ (ofMembers members defaults).imports) : isTypeName name.toList = true := by
  obtain ⟨p, -, hname⟩ := List.mem_flatMap.mp (List.mem_eraseDups.mp h)
  obtain ⟨arm, harm, rfl⟩ := List.mem_map.mp hname
  rw [String.toList_ofList]
  exact (List.mem_filter.mp harm).2

theorem newline_not_mem_importLines {members : List Member} {defaults : Fields Json}
    {options : ModuleOptions} (h : '\n' ∉ options.typeName.toList) :
    ∀ line ∈ importLines (ofMembers members defaults) options, '\n' ∉ line := by
  have hnames : ∀ name ∈ options.typeName ::
      (ofMembers members defaults).imports.filter (· ≠ options.typeName), '\n' ∉ name.toList := by
    intro name hname
    rcases List.mem_cons.mp hname with rfl | hname
    · exact h
    · intro hmem
      have htype := isTypeName_of_mem_imports (List.mem_of_mem_filter hname)
      have hchar := isNameChar_of_mem htype hmem
      exact absurd hchar (by decide)
  have hlist := Text.not_mem_intercalate (show '\n' ∉ ", ".toList by decide)
    (List.forall_mem_map.mpr hnames)
  rw [importLines]
  simp only [List.forall_mem_cons, List.mem_append, not_or]
  exact ⟨Text.not_mem_literal (by decide), Text.not_mem_literal (by decide),
    ⟨⟨⟨⟨⟨⟨⟨⟨Text.not_mem_literal (by decide), by decide⟩, by decide⟩, hlist⟩, by decide⟩,
      by decide⟩, by decide⟩, newline_not_mem_stringChars _⟩, by decide⟩, by decide,
      List.forall_mem_nil _⟩

theorem newline_not_mem_errorLines : ∀ line ∈ errorLines, '\n' ∉ line := by
  simp only [errorLines, List.forall_mem_cons, List.mem_append, not_or]
  exact ⟨⟨Text.not_mem_literal (by decide), by decide⟩, Text.not_mem_literal (by decide), by decide,
    ⟨Text.not_mem_literal (by decide), by decide⟩,
    ⟨⟨⟨⟨Text.not_mem_literal (by decide), by decide⟩, Text.not_mem_literal (by decide)⟩, by decide⟩,
      by decide⟩,
    Text.not_mem_literal (by decide), Text.not_mem_literal (by decide), ⟨by decide, by decide⟩,
    by decide, by decide, List.forall_mem_nil _⟩

theorem constantLines_eq (spec : InputDefaults) :
    constantLines spec = valuesOpening :: (spec.values.map valueLine ++ valuesClosing :: [] ::
      requiredOpening :: (spec.required.map requiredLine ++ [requiredClosing, []])) := by
  have hunfold : constantLines spec =
      (valuesOpening :: spec.values.map valueLine ++ [valuesClosing, [], requiredOpening]) ++
        spec.required.map requiredLine ++ [requiredClosing, []] := rfl
  simp only [hunfold, List.cons_append, List.append_assoc, List.nil_append]

theorem newline_not_mem_constantLines {spec : InputDefaults}
    (hw : ∀ entry ∈ spec.values, entry.2.WholeNumbers) :
    ∀ line ∈ constantLines spec, '\n' ∉ line := by
  rw [constantLines_eq]
  simp only [List.forall_mem_cons, List.forall_mem_append, List.forall_mem_map]
  exact ⟨List.not_mem_append (Text.not_mem_literal (by decide)) (by decide),
    fun entry hentry => newline_not_mem_valueLine (hw entry hentry),
    List.not_mem_append (by decide) (Text.not_mem_literal (by decide)), by decide,
    Text.not_mem_literal (by decide), fun key _ => newline_not_mem_requiredLine key,
    Text.not_mem_literal (by decide), by decide, List.forall_mem_nil _⟩

def constantWords : List Char := ['e', 'x', 'p', 'o', 'r', 't', ' ', 'c', 'o', 'n', 's', 't', ' ']

theorem constantWords_valuesOpening : constantWords <+: valuesOpening :=
  Text.prefix_literal_append (by decide) _

theorem constantWords_requiredOpening : constantWords <+: requiredOpening :=
  Text.prefix_literal_iff.mpr (by decide)

theorem valuesOpening_ne_requiredOpening : valuesOpening ≠ requiredOpening := by
  intro h
  have hvalues : ¬constantWords ++ ['R'] <+: valuesOpening :=
    Text.not_prefix_literal_append (by decide) (by decide) _
  have hrequired : constantWords ++ ['R'] <+: requiredOpening :=
    Text.prefix_literal_iff.mpr (by decide)
  exact hvalues (h ▸ hrequired)

theorem not_constantWords_of_mem (spec : InputDefaults) (options : ModuleOptions) :
    ∀ line ∈ importLines spec options ++ errorLines, ¬constantWords <+: line := by
  have hliteral : ∀ {s : List Char},
      ¬constantWords <+: s → ¬constantWords <+: (String.ofList s).toList :=
    mt Text.prefix_literal_iff.mp
  simp only [importLines, errorLines, List.forall_mem_append, List.forall_mem_cons,
    List.append_assoc]
  exact ⟨⟨hliteral (by decide), hliteral (by decide),
      Text.not_prefix_literal_append (by decide) (by decide) _, by decide, List.forall_mem_nil _⟩,
    Text.not_prefix_literal_append (by decide) (by decide) _, hliteral (by decide), by decide,
    Text.not_prefix_literal_append (by decide) (by decide) _,
    Text.not_prefix_literal_append (by decide) (by decide) _, hliteral (by decide),
    hliteral (by decide), Text.not_prefix_literal_append (by decide) (by decide) _, by decide,
    by decide, List.forall_mem_nil _⟩

theorem blank_valueLine (entry : String × Json) : [' '] <+: valueLine entry := by
  simp only [valueLine_eq, List.append_assoc]
  exact Text.prefix_literal_append (by decide) _

theorem blank_requiredLine (key : String) : [' '] <+: requiredLine key := by
  simp only [requiredLine_eq, List.append_assoc]
  exact Text.prefix_literal_append (by decide) _

/-- A line that is not indented is no line of a value, so the line that closes
the block is none. -/
theorem not_mem_map_valueLine {line : List Char} (h : ¬[' '] <+: line) (values : Fields Json) :
    line ∉ values.map valueLine := by
  intro hmem
  obtain ⟨entry, -, rfl⟩ := List.mem_map.mp hmem
  exact h (blank_valueLine entry)

theorem not_mem_map_requiredLine {line : List Char} (h : ¬[' '] <+: line) (keys : List String) :
    line ∉ keys.map requiredLine := by
  intro hmem
  obtain ⟨key, -, rfl⟩ := List.mem_map.mp hmem
  exact h (blank_requiredLine key)

/-- The block of required keys is opened only once the block of values is closed. -/
theorem not_mem_before_requiredOpening (spec : InputDefaults) (options : ModuleOptions) :
    requiredOpening ∉ importLines spec options ++ errorLines ++
      (valuesOpening :: (spec.values.map valueLine ++ [valuesClosing, []])) := by
  have hindented : ¬[' '] <+: requiredOpening := mt Text.prefix_literal_iff.mp (by decide)
  have hend : ∀ line ∈ [valuesClosing, []], ¬constantWords <+: line := by decide
  intro h
  rcases List.mem_append.mp h with h | h
  · exact not_constantWords_of_mem spec options _ h constantWords_requiredOpening
  rcases List.mem_cons.mp h with h | h
  · exact valuesOpening_ne_requiredOpening h.symm
  rcases List.mem_append.mp h with h | h
  · exact not_mem_map_valueLine hindented spec.values h
  · exact hend _ h constantWords_requiredOpening

/-- The lines of the module up to the end of the blocks. -/
theorem splitBy_moduleText {spec : InputDefaults} {options : ModuleOptions}
    (himports : ∀ line ∈ importLines spec options, '\n' ∉ line)
    (hw : ∀ entry ∈ spec.values, entry.2.WholeNumbers) :
    ∃ rest, Text.splitBy (· = '\n') (moduleText spec options).toList =
      importLines spec options ++ errorLines ++ (valuesOpening :: (spec.values.map valueLine ++
        valuesClosing :: [] :: requiredOpening :: (spec.required.map requiredLine ++
          requiredClosing :: rest))) := by
  have hline : ∀ line ∈ importLines spec options ++ errorLines ++ constantLines spec,
      '\n' ∉ line := by
    simp only [List.forall_mem_append]
    exact ⟨⟨himports, newline_not_mem_errorLines⟩, newline_not_mem_constantLines hw⟩
  refine ⟨[] :: Text.splitBy (· = '\n')
    ((filledTypeLines spec options ++ functionLines options).flatMap (· ++ ['\n'])), ?_⟩
  rw [moduleText, String.toList_ofList, moduleLines, List.append_assoc, List.flatMap_append,
    Text.splitBy_written hline, constantLines_eq]
  simp only [List.append_assoc, List.cons_append, List.nil_append]

/-- The two blocks are in the lines, and each line in them is read as an entry
or a key. There is one line for every value to fill in and one for every key
that must be supplied, in their order, and a reader that goes as deep as the
values are nested reads them. -/
structure Tells (lines : List (List Char)) (spec : InputDefaults) : Prop where
  values : ∃ inner, linesBetween? valuesOpening valuesClosing lines = some inner ∧
    List.Forall₂ (fun entry line => ∀ limit, entry.2.nesting ≤ limit →
      entryOn? limit line = some entry) spec.values inner
  required : ∃ inner, linesBetween? requiredOpening requiredClosing lines = some inner ∧
    List.Forall₂ (fun key line => keyOn? line = some key) spec.required inner

/-- The same lines tell the same values and the same required keys. -/
theorem Tells.unique {lines : List (List Char)} {a b : InputDefaults} (ha : Tells lines a)
    (hb : Tells lines b) : a.values = b.values ∧ a.required = b.required := by
  obtain ⟨values, hvalues, heach⟩ := ha.values
  obtain ⟨values', hvalues', heach'⟩ := hb.values
  obtain ⟨required, hrequired, hkeys⟩ := ha.required
  obtain ⟨required', hrequired', hkeys'⟩ := hb.required
  obtain rfl := Option.some.inj (hvalues.symm.trans hvalues')
  obtain rfl := Option.some.inj (hrequired.symm.trans hrequired')
  constructor
  · refine List.left_unique_forall₂' (fun x y line hx hy => ?_) heach heach'
    have hread := hx (max x.2.nesting y.2.nesting) (Nat.le_max_left _ _)
    exact Option.some.inj (hread.symm.trans (hy _ (Nat.le_max_right _ _)))
  · exact List.left_unique_forall₂' (fun x y line hx hy => Option.some.inj (hx.symm.trans hy))
      hkeys hkeys'

/-- The module tells its data if it can be cut into lines and its values are
written without loss. -/
theorem tells_moduleText {spec : InputDefaults} {options : ModuleOptions}
    (himports : ∀ line ∈ importLines spec options, '\n' ∉ line)
    (hvalues : ∀ entry ∈ spec.values, entry.2.UniqueKeys ∧ entry.2.WholeNumbers) :
    Tells (Text.splitBy (· = '\n') (moduleText spec options).toList) spec := by
  obtain ⟨rest, hlines⟩ := splitBy_moduleText himports fun entry hentry => (hvalues entry hentry).2
  have hfront := not_constantWords_of_mem spec options
  have hclosing : ¬[' '] <+: valuesClosing := by decide
  have hclosing' : ¬[' '] <+: requiredClosing := mt Text.prefix_literal_iff.mp (by decide)
  rw [hlines]
  constructor
  · refine ⟨spec.values.map valueLine, linesBetween?_block (fun h => ?_)
      (not_mem_map_valueLine hclosing _) _, ?_⟩
    · exact hfront valuesOpening h constantWords_valuesOpening
    · refine List.forall₂_map_right_iff.mpr (List.forall₂_same.mpr fun entry hentry limit => ?_)
      exact entryOn?_valueLine (hvalues entry hentry).1 (hvalues entry hentry).2
  · have hblock := linesBetween?_block (not_mem_before_requiredOpening spec options)
      (not_mem_map_requiredLine hclosing' spec.required) rest
    refine ⟨spec.required.map requiredLine, ?_, ?_⟩
    · simpa using hblock
    · exact List.forall₂_map_right_iff.mpr
        (List.forall₂_same.mpr fun key _ => keyOn?_requiredLine key)

/-- A module made of members and declared defaults tells its values and its
required keys, whatever characters they hold, if all numbers are integers and
the name of the type takes one line. So two modules under the same options have
the same text only if they are made of the same data. -/
theorem moduleText_tells (members : List Member) (defaults : Fields Json) (options : ModuleOptions)
    (hdefaults : ∀ entry ∈ defaults, entry.2.UniqueKeys ∧ entry.2.WholeNumbers)
    (hname : '\n' ∉ options.typeName.toList) :
    let spec := ofMembers members defaults
    Tells (Text.splitBy (· = '\n') (moduleText spec options).toList) spec ∧
      ∀ (others : List Member) (declared : Fields Json),
        (∀ entry ∈ declared, entry.2.UniqueKeys ∧ entry.2.WholeNumbers) →
        moduleText (ofMembers others declared) options = moduleText spec options →
          (ofMembers others declared).values = spec.values ∧
            (ofMembers others declared).required = spec.required := by
  have htells : ∀ (members : List Member) (defaults : Fields Json),
      (∀ entry ∈ defaults, entry.2.UniqueKeys ∧ entry.2.WholeNumbers) →
      Tells (Text.splitBy (· = '\n') (moduleText (ofMembers members defaults) options).toList)
        (ofMembers members defaults) := fun members defaults h =>
    tells_moduleText (newline_not_mem_importLines hname)
      (forall_mem_values (P := fun v => v.UniqueKeys ∧ v.WholeNumbers) h members)
  intro spec
  refine ⟨htells members defaults hdefaults, fun others declared hdeclared htext => ?_⟩
  have hother := htells others declared hdeclared
  rw [htext] at hother
  exact hother.unique (htells members defaults hdefaults)

/-- A key and a value that look like the end of the block are read back by the
ordinary reader. -/
theorem moduleText_tells_closing :
    let key := "a\n\x7d as const;"
    let v : Json :=
      .object [("\x22", .array [.string "\n\x7d as const;\n", .number (.integer (-1)), .null])]
    let members : List Member := [⟨key, "Site", true⟩, ⟨"],\\", "string", false⟩]
    let spec := ofMembers members [(key, v)]
    let lines := Text.splitBy (· = '\n') (moduleText spec {}).toList
    (∃ line, linesBetween? valuesOpening valuesClosing lines = some [line] ∧
      entryOn? maxDepth line = some (key, v)) ∧
    ∃ line, linesBetween? requiredOpening requiredClosing lines = some [line] ∧
      keyOn? line = some "],\\" := by
  intro key v members spec lines
  have hdefaults : ∀ entry ∈ [(key, v)], entry.2.UniqueKeys ∧ entry.2.WholeNumbers := by
    simp [v, Fields.Distinct, InRange]
  have hvalues : spec.values = [(key, v)] := rfl
  have hrequired : spec.required = ["],\\"] := rfl
  have htells : Tells lines spec :=
    (moduleText_tells members [(key, v)] {} hdefaults (by decide)).1
  obtain ⟨inner, hinner, heach⟩ := htells.values
  obtain ⟨keys, hkeys, hread⟩ := htells.required
  rw [hvalues] at heach
  rw [hrequired] at hread
  constructor
  · obtain ⟨line, rest, hline, hrest, rfl⟩ := List.forall₂_cons_left_iff.mp heach
    obtain rfl := List.forall₂_nil_left_iff.mp hrest
    exact ⟨line, hinner, hline maxDepth (by decide)⟩
  · obtain ⟨line, rest, hline, hrest, rfl⟩ := List.forall₂_cons_left_iff.mp hread
    obtain rfl := List.forall₂_nil_left_iff.mp hrest
    exact ⟨line, hkeys, hline⟩

end SchemaLoom.InputDefaults
