import SchemaLoom.Compiler
import SchemaLoom.Proofs.Member.Blocks
import SchemaLoom.Proofs.Member.Reread
import SchemaLoom.Proofs.TypeExpr.Named

/-!
# Reading declaration files back

A compiled schema comes with its declaration file and with the members of its
root. The root is declared first, so its block is the first that opens in the
file, and what is declared after it is never looked at.

Reading the block gives the same members unless a string literal in the type of
one leaves braces open. Then the lines behind this member go into its type, as
far as the braces are not closed again.
-/

namespace SchemaLoom

open Declarations TypeExpr

namespace Declarations

mutual

theorem prefix_declareIn (file : Declarations) :
    (type : TypeExpr) → file.lines <+: (declareIn file type).lines
  | .object name fields => by
      rw [declareIn]
      split
      · exact List.prefix_rfl
      · exact (List.prefix_append _ _).trans (prefix_declareFields (file.add name fields) fields)
  | .array item => prefix_declareIn file item
  | .nullable inner => prefix_declareIn file inner
  | .unknown | .boolean | .integer | .number | .string _ | .map => List.prefix_rfl

theorem prefix_declareFields (file : Declarations) :
    (fields : List (Property × TypeExpr)) → file.lines <+: (declareFields file fields).lines
  | [] => List.prefix_rfl
  | (_, type) :: rest =>
      (prefix_declareIn file type).trans (prefix_declareFields (declareIn file type) rest)

end

def openLine : List Char := "  [k: string]: unknown;".toList

/-- A file begins with the interface of the root, whatever else it declares. -/
theorem prefix_declare (name : String) (type : TypeExpr) :
    header ++ interfaceLines name (type.fields.flatMap memberLines) <+:
        (empty.declare name type).lines ∨
      type.fields = [] ∧ header ++ interfaceLines name [openLine] <+:
        (empty.declare name type).lines := by
  induction type using TypeExpr.fields.induct with
  | case1 _ fields => exact .inl (prefix_declareFields (empty.add name fields) fields)
  | case2 inner ih => exact ih
  | case3 type hobject hnullable =>
      cases type with
      | object name fields => exact absurd rfl (hobject name fields)
      | nullable inner => exact absurd rfl (hnullable inner)
      | _ => exact .inr ⟨rfl, List.prefix_rfl⟩

end Declarations

namespace Member

theorem opensBlock_header (name : List Char) :
    ∀ line ∈ header ++ [[]], opensBlock name (Text.chomp line) = false := by
  intro line hline
  simp only [header, List.cons_append, List.nil_append, List.mem_cons, List.not_mem_nil,
    or_false] at hline
  rcases hline with rfl | rfl | rfl
  · rfl
  · rfl
  · rfl

theorem interfaceLines_eq (name : String) (body : List (List Char)) :
    interfaceLines name body = [] :: openingLine name :: (body ++ [['\x7d']]) := rfl

/-- The members of the root are those on the lines of its interface. -/
theorem ofDeclarations_of_prefix {file : Declarations} {name : String} (hname : IsName name)
    {body : List (List Char)} (hbody : ∀ line ∈ body, '\n' ∉ line)
    (h : header ++ interfaceLines name body <+: file.lines) :
    ∃ rest, ofDeclarations file.text name =
      scanLines 1 none (body.map Text.chomp ++ ['\x7d'] :: rest) := by
  obtain ⟨more, hmore⟩ := h
  refine ⟨Text.lines (more.flatMap (· ++ ['\n'])), ?_⟩
  have hnone : ∀ line ∈ header ++ interfaceLines name body, '\n' ∉ line := by
    have hheader : ∀ line ∈ header, '\n' ∉ line := by decide
    rw [interfaceLines_eq]
    simp only [List.forall_mem_append, List.forall_mem_cons]
    exact ⟨hheader, by decide, newline_not_mem_openingLine hname.legible.newline, hbody, by decide⟩
  have hlines : Text.lines file.text.toList =
      (header ++ [[]]).map Text.chomp ++ openingLine name ::
        (body.map Text.chomp ++ ['\x7d'] :: Text.lines (more.flatMap (· ++ ['\n']))) := by
    rw [Declarations.text, String.toList_ofList, ← hmore, List.flatMap_append,
      Text.lines_flatMap hnone, interfaceLines_eq]
    simp [chomp_openingLine, Text.chomp]
  have hbefore : ∀ line ∈ (header ++ [[]]).map Text.chomp, opensBlock name.toList line = false := by
    rw [List.forall_mem_map]
    exact opensBlock_header name.toList
  exact ofDeclarations_of_lines hlines hbefore
    (opensBlock_of_opening hname (opening_openingLine name))
    (braces_of_opening hname (opening_openingLine name))

/-- An interface that is open to any key has no members. -/
theorem scanLines_openLine (rest : List (List Char)) :
    scanLines 1 none ([openLine].map Text.chomp ++ ['\x7d'] :: rest) = [] := by
  have hitem : Item [openLine] none := .index rfl (by decide)
  have hclose : Text.trim ['\x7d'] = ['\x7d'] := rfl
  rw [scanLines_item hitem.chomp, scanLines_close (.inl hclose)]
  rfl

end Member

theorem Compiled.ofSchema_eq_ok_iff {schema : Json} {name : String} {compiled : Compiled} :
    Compiled.ofSchema schema name = .ok compiled ↔
      ∃ type, TypeExpr.ofSchema name schema = .ok type ∧
        compiled = ⟨(empty.declare name type).text, some type.members⟩ := by
  rw [Compiled.ofSchema]
  cases h : TypeExpr.ofSchema name schema with
  | error fault => simp
  | ok type => simp [eq_comm]

theorem WellNamed.of_ofSchema {schema : Json} {name : String} (hname : IsName name)
    {type : TypeExpr} (h : TypeExpr.ofSchema name schema = .ok type) :
    ∀ field ∈ type.fields, WellNamed field.2 := by
  intro field hfield interface hinterface
  obtain ⟨suffix, rfl, hsuffix⟩ := goesOn_of_ofSchema h hfield hinterface
  exact hname.append hsuffix

/-- The members of a compiled schema are read back from its declaration file
exactly if in the type of no property of the root the string literals open more
braces than they close. Keys, descriptions and closing braces do no harm. -/
theorem Compiled.reread_eq_members_iff {schema : Json} {name : String} {compiled : Compiled}
    (hname : IsName name) (h : Compiled.ofSchema schema name = .ok compiled) :
    ∃ type, TypeExpr.ofSchema name schema = .ok type ∧ compiled.members = some type.members ∧
      (Member.ofDeclarations compiled.text name = type.members ↔
        ∀ field ∈ type.fields, field.2.literalBraces ≤ 0) := by
  obtain ⟨type, htype, rfl⟩ := Compiled.ofSchema_eq_ok_iff.mp h
  have hnamed := WellNamed.of_ofSchema hname htype
  have hlegible : ∀ field ∈ type.fields, Legible field.2.chars := fun field hfield =>
    legible_chars fun interface hinterface => (hnamed field hfield interface hinterface).legible
  refine ⟨type, htype, rfl, ?_⟩
  rw [members_eq]
  rcases prefix_declare name type with hprefix | ⟨hnil, hprefix⟩
  · have hbody : ∀ line ∈ type.fields.flatMap memberLines, '\n' ∉ line := by
      rw [List.forall_mem_flatMap]
      exact fun field hfield => Member.newline_not_mem_memberLines (hlegible field hfield)
    obtain ⟨rest, hrest⟩ := Member.ofDeclarations_of_prefix hname hbody hprefix
    rw [hrest, Member.scanLines_fields_eq_iff hlegible]
    exact forall₂_congr fun field hfield => by rw [braces_chars (hnamed field hfield)]
  · have hopen : '\n' ∉ openLine := by decide
    obtain ⟨rest, hrest⟩ := Member.ofDeclarations_of_prefix hname (by simpa using hopen) hprefix
    rw [hrest, hnil, Member.scanLines_openLine]
    exact iff_of_true rfl fun field hfield => absurd hfield (List.not_mem_nil)

/-- Two properties, the second with a description, a key between quotes and a
literal that closes a brace. -/
theorem Compiled.reread_eq_members_modes :
    ∃ compiled members, Compiled.ofSchema (.object [("type", .string "object"), ("properties",
        .object [("readonly", .object [("type", .string "boolean")]),
          ("open \x7b", .object [("type", .string "string"), ("description", .string "*/\r\n\x7d"),
            ("enum", .array [.string "\x7d", .string "a;"])])])]) "Input" = .ok compiled ∧
      compiled.members = some members ∧
      Member.ofDeclarations compiled.text "Input" = members := by
  obtain ⟨compiled, h⟩ : ∃ compiled, Compiled.ofSchema (.object [("type", .string "object"),
      ("properties", .object [("readonly", .object [("type", .string "boolean")]),
        ("open \x7b", .object [("type", .string "string"), ("description", .string "*/\r\n\x7d"),
          ("enum", .array [.string "\x7d", .string "a;"])])])]) "Input" = .ok compiled := ⟨_, rfl⟩
  obtain ⟨type, htype, hmembers, hiff⟩ :=
    Compiled.reread_eq_members_iff ⟨by decide, List.all_eq_true.mp (by decide)⟩ h
  refine ⟨compiled, type.members, h, hmembers, hiff.mpr ?_⟩
  obtain rfl := Except.ok.inj htype
  decide

/-- A literal that opens a brace takes the rest of the interface into its type. -/
theorem Compiled.reread_open_brace :
    (Compiled.ofSchema (.object [("type", .string "object"), ("properties",
        .object [("a", .object [("type", .string "string"), ("enum", .array [.string "\x7b"])]),
          ("b", .object [("type", .string "string")])])]) "Input").toOption.map
        (fun compiled => (compiled.members, Member.ofDeclarations compiled.text "Input")) =
      some (some [⟨"a", "\x22\x7b\x22", true⟩, ⟨"b", "string", true⟩],
        [⟨"a", "\x22\x7b\x22; b?: string; \x7d", true⟩]) := by
  decide +kernel

end SchemaLoom
