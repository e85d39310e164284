import Mathlib.Data.List.Chain
import SchemaLoom.Compiler
import SchemaLoom.Proofs.Member.Reread
import SchemaLoom.Proofs.Text.Pieces
import SchemaLoom.Proofs.TypeExpr.Named

/-!
# The layout of declaration files

A declaration file declares every object of the type once, and each interface
and each member has lines of its own. What a schema says in keys, descriptions
and literals stays within these lines: no line is cut in two by it, and no
comment ends before its last line.

So the lines of a file are told by the sites of the type alone. What a file must
look like comes first and names no function that writes lines. Then the lines of
comments, of interfaces and of whole files are shown to be so.
-/

namespace SchemaLoom

open TypeExpr

namespace Declarations

/-- The line of a comment for one line of a description: what is said stands
behind a star, with every end of a comment broken up, so that the line does not
end the comment. -/
structure IsCommentLine (said line : List Char) : Prop where
  text : line = "   * ".toList ++ Text.replaceFrom "*/".toList "*\\/".toList 0 said
  stays : ¬"*/".toList <:+: line

/-- The comment for a description: none, or a line for each line of it between
two others. -/
inductive IsComment : Option String → List (List Char) → Prop
  | none : IsComment none []
  | some {description : String} {inner : List (List Char)}
      (lines : List.Forall₂ IsCommentLine (Text.lines description.toList) inner) :
      IsComment (some description) ("  /**".toList :: inner ++ ["   */".toList])

/-- The lines of a member: those of its comment, which come first, and just one
more. -/
structure IsMember (field : Property × TypeExpr) (lines : List (List Char)) : Prop where
  exists_comment : ∃ comment, IsComment field.1.description comment ∧
    lines = comment ++ ["  ".toList ++ Member.keyChars field.1.key ++
      (if field.1.required then [] else ['?']) ++ ": ".toList ++ field.2.chars ++ [';']]

/-- The lines of an interface: an empty line, one that opens it, its members in
the order of the properties, and one that closes it. Every property has a
member. -/
structure IsInterface (site : Site) (lines : List (List Char)) : Prop where
  exists_members : ∃ members, List.Forall₂ IsMember site.fields members ∧
    lines = [] :: ("export interface ".toList ++ site.name.toList ++ " \x7b".toList) ::
      members.flatten ++ ["\x7d".toList]

/-- Broken up, the end of a comment does not occur any more, whatever stood
around it. -/
theorem isChain_replaceFrom (skip : Nat) (s : List Char) :
    List.IsChain (fun a b => ¬(a = '*' ∧ b = '/'))
      (Text.replaceFrom "*/".toList "*\\/".toList skip s) := by
  fun_induction Text.replaceFrom "*/".toList "*\\/".toList skip s with
  | case1 => exact .nil
  | case2 skip c rest ih => exact ih
  | case3 c rest after hafter ih =>
      have hslash : ∀ d t, List.IsChain (fun a b => ¬(a = '*' ∧ b = '/')) t →
          d ≠ '*' → List.IsChain (fun a b => ¬(a = '*' ∧ b = '/')) (d :: t) := by
        intro d t ht hd
        exact List.isChain_cons.mpr ⟨fun e _ h => hd h.1, ht⟩
      exact List.isChain_cons_cons.mpr
        ⟨by decide, hslash _ _ (hslash _ _ ih (by decide)) (by decide)⟩
  | case4 c rest hafter ih =>
      refine List.isChain_cons.mpr ⟨fun d hd h => ?_, ih⟩
      -- A star stays in front of a slash only if the slash comes from the text behind it.
      obtain ⟨rfl, rfl⟩ := h
      cases rest with
      | nil => cases hd
      | cons e more =>
          rw [Text.replaceFrom] at hd
          split at hd
          · cases hd
          · obtain rfl := Option.some.inj hd
            have hsome : Text.afterPattern "*/".toList ('*' :: '/' :: more) = some more := rfl
            rw [hsome] at hafter
            cases hafter

theorem isCommentLine_describedLine (said : List Char) :
    IsCommentLine said (describedLine said) where
  text := rfl
  stays := by
    rintro ⟨front, rest, h⟩
    have hchain : List.IsChain (fun a b => ¬(a = '*' ∧ b = '/')) (describedLine said) := by
      have hfront : describedLine said = ' ' :: ' ' :: ' ' :: '*' :: ' ' ::
          Text.replaceFrom "*/".toList "*\\/".toList 0 said := rfl
      rw [hfront]
      simp only [List.isChain_cons_cons]
      refine ⟨by decide, by decide, by decide, by decide, ?_⟩
      exact List.isChain_cons.mpr ⟨fun d _ hd => absurd hd.1 (by decide),
        isChain_replaceFrom 0 said⟩
    rw [List.isChain_iff_forall_rel_of_append_cons_cons] at hchain
    refine @hchain '*' '/' front rest ?_ ⟨rfl, rfl⟩
    rw [← h, List.append_assoc]
    rfl

theorem isComment_descriptionLines (description : Option String) :
    IsComment description (descriptionLines description) := by
  cases description with
  | none => exact .none
  | some description =>
      refine .some ?_
      rw [List.forall₂_map_right_iff, List.forall₂_same]
      exact fun said _ => isCommentLine_describedLine said

theorem isMember_memberLines (field : Property × TypeExpr) : IsMember field (memberLines field) :=
  ⟨descriptionLines field.1.description, isComment_descriptionLines _, rfl⟩

def siteLines (site : Site) : List (List Char) :=
  interfaceLines site.name (site.fields.flatMap memberLines)

theorem isInterface_siteLines (site : Site) : IsInterface site (siteLines site) := by
  refine ⟨site.fields.map memberLines, ?_, ?_⟩
  · rw [List.forall₂_map_right_iff, List.forall₂_same]
    exact fun field _ => isMember_memberLines field
  · rw [siteLines, List.flatMap_def]
    rfl

theorem newline_not_mem_siteLines {site : Site} (hname : '\n' ∉ site.name.toList)
    (h : ∀ field ∈ site.fields, Legible field.2.chars) : ∀ line ∈ siteLines site, '\n' ∉ line := by
  have hfront : '\n' ∉ "export interface ".toList := by decide
  have hopen : '\n' ∉ " \x7b".toList := by decide
  have hclose : ∀ line ∈ [['\x7d']], '\n' ∉ line := by decide
  have hmembers : ∀ line ∈ site.fields.flatMap memberLines, '\n' ∉ line := by
    rw [List.forall_mem_flatMap]
    exact fun field hfield => Member.newline_not_mem_memberLines (h field hfield)
  rw [siteLines, interfaceLines, List.cons_append, List.cons_append, List.forall_mem_cons,
    List.forall_mem_cons, List.forall_mem_append, List.mem_append, List.mem_append, not_or, not_or]
  exact ⟨List.not_mem_nil, ⟨⟨hfront, hname⟩, hopen⟩, hmembers, hclose⟩

mutual

/-- As long as no name comes twice, every object is declared at its place. -/
theorem declareIn_eq (owner : String) (key : Option String) : ∀ (type : TypeExpr) (arrays : Nat)
    (file : Declarations), (file.names ++ siteNames (sitesFrom owner key arrays type)).Nodup →
    declareIn file type = ⟨file.lines ++ (sitesFrom owner key arrays type).flatMap siteLines,
      file.names ++ siteNames (sitesFrom owner key arrays type)⟩
  | .object name fields, arrays, file, h => by
      rw [sitesFrom, siteNames_cons] at h ⊢
      have hnew : ¬file.names.contains name = true := by
        rw [List.contains_iff_mem]
        exact fun hmem => (List.nodup_append.mp h).2.2 name hmem name List.mem_cons_self rfl
      have hadd : (file.add name fields).names ++ siteNames (sitesIn name fields) =
          file.names ++ name :: siteNames (sitesIn name fields) := by
        simp [add]
      rw [declareIn, if_neg hnew, declareFields_eq name fields _ (hadd ▸ h), hadd]
      simp [add, siteLines]
  | .array item, arrays, file, h => declareIn_eq owner key item (arrays + 1) file h
  | .nullable inner, arrays, file, h => declareIn_eq owner key inner arrays file h
  | .unknown, _, _, _ | .boolean, _, _, _ | .integer, _, _, _ | .number, _, _, _
  | .string _, _, _, _ | .map, _, _, _ => by simp [declareIn, sitesFrom]

theorem declareFields_eq (owner : String) : ∀ (fields : List (Property × TypeExpr))
    (file : Declarations), (file.names ++ siteNames (sitesIn owner fields)).Nodup →
    declareFields file fields = ⟨file.lines ++ (sitesIn owner fields).flatMap siteLines,
      file.names ++ siteNames (sitesIn owner fields)⟩
  | [], file, _ => by simp [declareFields, sitesIn]
  | (property, type) :: rest, file, h => by
      rw [sitesIn, siteNames_append, ← List.append_assoc] at h
      have hfront := (List.nodup_append.mp h).1
      rw [declareFields, declareIn_eq owner (some property.key) type 0 file hfront,
        declareFields_eq owner rest _ h, sitesIn]
      simp

end

/-- A root that is an object is declared like any other object. -/
theorem declare_eq_declareIn {name : String} (file : Declarations) : ∀ type : TypeExpr,
    type.objectName? = some name → file.declare name type = declareIn file type
  | .object _ fields, h => by
      obtain rfl := Option.some.inj h
      rfl
  | .nullable inner, h => declare_eq_declareIn file inner h
  | .array _, h | .unknown, h | .boolean, h | .integer, h | .number, h | .string _, h
  | .map, h => by cases h

/-- Lines without line ends in them are the pieces of the text between line
ends, and there is nothing behind the last. -/
theorem splitBy_text {file : Declarations} (h : ∀ line ∈ file.lines, '\n' ∉ line) :
    Text.splitBy (· = '\n') file.text.toList = file.lines ++ [[]] := by
  have hpieces := Text.splitBy_written h []
  rwa [List.append_nil, ← String.toList_ofList (l := file.lines.flatMap _)] at hpieces

end Declarations

namespace TypeExpr

theorem IsAsciiIdentifier.legible {name : String} (h : IsAsciiIdentifier name) :
    Legible name.toList := by
  have hink : ∀ c ∈ name.toList, Text.isBlank c = false ∧ c ≠ '\n' ∧ c ≠ ';' := by
    intro c hc
    rcases h.all c hc with hword | rfl
    · refine ⟨Text.isBlank_of_isWord (Text.isWord_of_isAsciiWord hword), ?_, ?_⟩
      · rintro rfl
        exact absurd hword (by decide)
      · rintro rfl
        exact absurd hword (by decide)
    · decide
  obtain ⟨first, rest, hfirst, _⟩ := h.first
  have hnil : name.toList ≠ [] := by
    rw [hfirst]
    exact List.cons_ne_nil first rest
  have hlast := hink _ (List.getLast_mem hnil)
  refine ⟨fun hmem => (hink _ hmem).2.1 rfl, ⟨first, rest, hfirst, ?_⟩,
    ⟨_, _, (List.dropLast_concat_getLast hnil).symm, hlast.1, hlast.2.2⟩⟩
  exact (hink first (hfirst ▸ List.mem_cons_self)).1

end TypeExpr

open Declarations

/-- The file that declares a type under the name of its root. Between line ends
stand two lines of comment and then the lines of one interface for each object
of the type, in order, and nothing stands behind the last line end. No two
interfaces have the same name. The file is closed: a name that a member refers
to stands at the head of the text of its type and has an interface, and every
other member has a word there that is a type itself, or none. -/
structure Declarations.LaidOut (root : String) (type : TypeExpr) (text : String) : Prop where
  pieces : ∃ interfaces, List.Forall₂ IsInterface (type.sites root) interfaces ∧
    Text.splitBy (· = '\n') text.toList =
      "/* eslint-disable */".toList ::
        "// Generated by schema-synth. Do not edit by hand.".toList :: interfaces.flatten ++ [[]]
  nodup : (siteNames (type.sites root)).Nodup
  closed : ∀ site ∈ type.sites root, ∀ field ∈ site.fields, ∀ used,
    field.2.interfaceName? = some used →
      headWord field.2.chars = used ∧ used ∈ siteNames (type.sites root)
  words : ∀ site ∈ type.sites root, ∀ field ∈ site.fields,
    field.2.interfaceName? = none → headWord field.2.chars ∈ "" :: typeWords

/-- Whatever its keys, descriptions and literals say, a schema whose root has
properties is compiled to a file with lines for its interfaces and members and
no others. -/
theorem Compiled.laidOut_ofSchema {schema : Json} {name : String} {type : TypeExpr}
    (hname : IsAsciiIdentifier name) (htype : TypeExpr.ofSchema name schema = .ok type)
    (hobject : type.objectName?.isSome = true) :
    ∃ compiled, Compiled.ofSchema schema name = .ok compiled ∧ LaidOut name type compiled.text := by
  have hlabelled := labelled_of_ofSchema htype
  obtain ⟨root, hroot⟩ := Option.isSome_iff_exists.mp hobject
  obtain rfl := hlabelled.rootName root hroot
  have hclosed : ∀ site ∈ type.sites root, ∀ field ∈ site.fields, ∀ used,
      field.2.interfaceName? = some used → used ∈ siteNames (type.sites root) :=
    fun site hsite field hfield used hused => mem_siteNames_of_mem_sitesFrom hfield hused type hsite
  have hidentifier : ∀ used ∈ siteNames (type.sites root), IsAsciiIdentifier used := by
    intro used hused
    obtain ⟨site, hsite, rfl⟩ := List.mem_map.mp hused
    exact hlabelled.identifier hname site hsite
  have hhead : ∀ site ∈ type.sites root, ∀ field ∈ site.fields,
      (∀ used, field.2.interfaceName? = some used → headWord field.2.chars = used) ∧
        (field.2.interfaceName? = none → headWord field.2.chars ∈ "" :: typeWords) :=
    fun site hsite field hfield => headWord_chars fun used hused =>
      (hidentifier used (hclosed site hsite field hfield used hused)).continues
  have hfile : empty.declare root type =
      ⟨header ++ (type.sites root).flatMap siteLines, siteNames (type.sites root)⟩ := by
    rw [declare_eq_declareIn empty type hroot, declareIn_eq root none type 0 empty hlabelled.nodup]
    rfl
  have hlines : ∀ line ∈ (empty.declare root type).lines, '\n' ∉ line := by
    have hheader : ∀ line ∈ header, '\n' ∉ line := by decide
    rw [hfile, List.forall_mem_append, List.forall_mem_flatMap]
    refine ⟨hheader, fun site hsite => newline_not_mem_siteLines ?_ fun field hfield => ?_⟩
    · exact (hidentifier site.name (List.mem_map_of_mem hsite)).legible.newline
    · exact legible_chars fun used hused =>
        (hidentifier used (hclosed site hsite field hfield used hused)).legible
  refine ⟨⟨(empty.declare root type).text, some type.members⟩, ?_, ?_, hlabelled.nodup,
    fun site hsite field hfield used hused => ⟨(hhead site hsite field hfield).1 used hused,
      hclosed site hsite field hfield used hused⟩,
    fun site hsite field hfield => (hhead site hsite field hfield).2⟩
  · rw [Compiled.ofSchema, htype]
  · refine ⟨(type.sites root).map siteLines, ?_, ?_⟩
    · rw [List.forall₂_map_right_iff, List.forall₂_same]
      exact fun site _ => isInterface_siteLines site
    · rw [splitBy_text hlines, hfile, List.flatMap_def]
      rfl

/-- A description that tries to end its comment and to open an interface, a key
and a literal that hold line ends, and objects below an array and below a
nullable property. -/
theorem Compiled.laidOut_ofSchema_hostile :
    let object (rest children : Fields Json) := Json.object (("type", .string "object") ::
      ("properties", .object (("v", .object [("type", .string "string")]) :: children)) :: rest)
    let schema := object [] [
      ("a\n\x7d\nb", .object [("type", .string "string"),
        ("enum", .array [.string "\n\x7d;", .string "*/"]),
        ("description", .string "*/\r\n\nexport interface X \x7b")]),
      ("rows", .object [("type", .string "array"),
        ("items", object [("nullable", .bool true)] [])]),
      ("proxy", object [("nullable", .bool true)] [("proxy", object [] [])])]
    let lines := ["/* eslint-disable */", "// Generated by schema-synth. Do not edit by hand.",
      "", "export interface $Doc \x7b", "  v?: string;",
      "  /**", "   * *\\/", "   * ", "   * export interface X \x7b", "   */",
      "  \"a\\n\x7d\\nb\"?: \"\\n\x7d;\" | \"*/\";",
      "  rows?: ($DocRowsItem | null)[];", "  proxy?: $DocProxy | null;", "\x7d",
      "", "export interface $DocRowsItem \x7b", "  v?: string;", "\x7d",
      "", "export interface $DocProxy \x7b", "  v?: string;", "  proxy?: $DocProxyProxy;", "\x7d",
      "", "export interface $DocProxyProxy \x7b", "  v?: string;", "\x7d"]
    ∃ type compiled, IsAsciiIdentifier "$Doc" ∧ TypeExpr.ofSchema "$Doc" schema = .ok type ∧
      type.objectName?.isSome = true ∧ Compiled.ofSchema schema "$Doc" = .ok compiled ∧
      LaidOut "$Doc" type compiled.text ∧
      Text.splitBy (· = '\n') compiled.text.toList = lines.map String.toList ++ [[]] := by
  intro object schema lines
  have hname : IsAsciiIdentifier "$Doc" := .of_all rfl (by decide) (by decide)
  obtain ⟨type, htype⟩ : ∃ type, TypeExpr.ofSchema "$Doc" schema = .ok type := ⟨_, rfl⟩
  have hobject : type.objectName?.isSome = true := by
    obtain rfl := Except.ok.inj htype
    rfl
  obtain ⟨compiled, hcompiled, hlaid⟩ := Compiled.laidOut_ofSchema hname htype hobject
  refine ⟨type, compiled, hname, htype, hobject, hcompiled, hlaid, ?_⟩
  have hsome : ((TypeExpr.ofSchema "$Doc" schema).toOption.map fun type =>
      (empty.declare "$Doc" type).lines) = some (lines.map String.toList) := by
    decide +kernel
  rw [htype] at hsome
  have hlines : (empty.declare "$Doc" type).lines = lines.map String.toList := Option.some.inj hsome
  have hnewline : ∀ line ∈ lines.map String.toList, '\n' ∉ line := by decide +kernel
  rw [Compiled.ofSchema, htype] at hcompiled
  obtain rfl := Except.ok.inj hcompiled
  rw [splitBy_text (hlines ▸ hnewline), hlines]

end SchemaLoom
