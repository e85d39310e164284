import SchemaLoom.Member.Key
import SchemaLoom.Proofs.TypeExpr.Sites

/-!
# The names in the type of a schema

The root of a schema keeps the name that it is given, and every other object has
the first free one for the name that its site asks for. No two objects share a
name, and all names are identifiers if that of the root is one.

Which name the root is given makes no difference to anything but names: with the
names of objects taken out, the types are the same. `Labelled` says all this of
one type and is derived from the way names are given out along sites.
-/

namespace SchemaLoom.TypeExpr

/-- The name of the object that a type is, or that it is apart from being nullable. -/
def objectName? : TypeExpr → Option String
  | .object name _ => some name
  | .nullable inner => inner.objectName?
  | _ => none

/-- The root keeps its name, and from there on names are given out along the sites. -/
theorem givenOut_named (root : String) : ∀ type : TypeExpr,
    (∃ fields, (named root type).objectName? = some root ∧
      (named root type).sites root = ⟨root, none, 0, root, fields⟩ :: sitesIn root fields ∧
      GivenOut [root, root] (sitesIn root fields)) ∨
    (named root type).objectName? = none ∧ GivenOut [root] ((named root type).sites root)
  | .object _ fields =>
      .inl ⟨(assignFields root [root, root] fields).1, rfl, rfl,
        (givenOut_assignFields root [root, root] fields).1⟩
  | .nullable inner => givenOut_named root inner
  | .array item => by
      refine .inr ⟨rfl, ?_⟩
      have hwanted : ∀ name fields, (Site.mk root none 1 name fields).wanted = root ++ "Item" := by
        intro name fields
        simp [Site.wanted]
      exact (givenOut_assign root none 1 [root] item (root ++ "Item") hwanted).1
  | .unknown | .boolean | .integer | .number | .string _ | .map => .inr ⟨rfl, trivial⟩

/-- An identifier of ASCII: a letter, an underscore or a dollar sign, and behind
it any number of these and of digits. -/
structure IsAsciiIdentifier (name : String) : Prop where
  first : ∃ c rest, name.toList = c :: rest ∧ Member.startsIdentifier c = true
  all : ∀ c ∈ name.toList, Text.isAsciiWord c = true ∨ c = '$'

/-- Whether a name is an identifier can be decided character by character. -/
theorem IsAsciiIdentifier.of_all {name : String} {first : Char} {rest : List Char}
    (hname : name.toList = first :: rest) (hfirst : Member.startsIdentifier first = true)
    (hall : name.toList.all (fun c => Text.isAsciiWord c || c == '$') = true) :
    IsAsciiIdentifier name := by
  refine ⟨⟨first, rest, hname, hfirst⟩, fun c hc => ?_⟩
  simpa using List.all_eq_true.mp hall c hc

theorem IsAsciiIdentifier.continues {name : String} (h : IsAsciiIdentifier name) :
    ∀ c ∈ name.toList, Member.continuesIdentifier c = true := by
  intro c hc
  rcases h.all c hc with hword | rfl
  · simp [Member.continuesIdentifier, Text.isWord, hword]
  · rfl

theorem IsAsciiIdentifier.goesOn {root name : String} (hroot : IsAsciiIdentifier root)
    (h : GoesOn root name) : IsAsciiIdentifier name := by
  obtain ⟨suffix, rfl, hsuffix⟩ := h
  obtain ⟨c, rest, hlist, hc⟩ := hroot.first
  constructor
  · exact ⟨c, rest ++ suffix.toList, by rw [String.toList_append, hlist, List.cons_append], hc⟩
  · intro d hd
    rw [String.toList_append, List.mem_append] at hd
    rcases hd with hd | hd
    · exact hroot.all d hd
    · left
      simp [Text.isAsciiWord, hsuffix d hd]

theorem FirstFree.goesOn {taken : List String} {wanted name : String}
    (h : FirstFree taken wanted name) : GoesOn wanted name := by
  by_cases hwanted : wanted ∈ taken
  · obtain ⟨n, _, rfl, _, _⟩ := h.numbered hwanted
    refine (GoesOn.refl wanted).append fun c hc => ?_
    rw [Nat.toString_eq_ofList_toDigits, String.toList_ofList] at hc
    rw [Char.isAlphanum, Nat.isDigit_of_mem_toDigits (by decide) (by decide) hc, Bool.or_true]
  · rw [h.free hwanted]
    exact .refl wanted

theorem Site.goesOn_wanted (site : Site) : GoesOn site.owner site.wanted := by
  have hitem : ∀ arrays, ∀ c ∈ (String.join (List.replicate arrays "Item")).toList,
      c.isAlphanum = true := by
    intro arrays
    induction arrays with
    | zero => simp
    | succ arrays ih =>
        rw [replicate_succ_item, String.toList_append, List.forall_mem_append]
        exact ⟨ih, List.all_eq_true.mp (by decide)⟩
  refine GoesOn.append ?_ (hitem site.arrays)
  refine (GoesOn.refl site.owner).append ?_
  cases site.key with
  | none => simp
  | some key =>
      rw [Option.map_some, Option.getD_some, pascalCase, String.toList_ofList]
      exact isAlphanum_pascalChars

theorem GivenOut.goesOn {taken : List String} {sites : List Site} (h : GivenOut taken sites) :
    ∀ site ∈ sites, GoesOn site.wanted site.name := by
  induction sites generalizing taken with
  | nil => simp
  | cons site rest ih => exact List.forall_mem_cons.mpr ⟨h.1.goesOn, ih h.2⟩

mutual

/-- If every name goes on from the one that its object asks for, all of them go
on from that of the object around the whole. -/
theorem goesOn_sitesFrom {root owner : String} (howner : GoesOn root owner) {key : Option String}
    {arrays : Nat} : ∀ (type : TypeExpr),
    (∀ site ∈ sitesFrom owner key arrays type, GoesOn site.wanted site.name) →
      ∀ site ∈ sitesFrom owner key arrays type, GoesOn root site.name
  | .object name fields, h => by
      rw [sitesFrom, List.forall_mem_cons] at h ⊢
      have hname : GoesOn root name :=
        (howner.trans (Site.goesOn_wanted ⟨owner, key, arrays, name, fields⟩)).trans h.1
      exact ⟨hname, goesOn_sitesIn hname fields h.2⟩
  | .array item, h => goesOn_sitesFrom howner item h
  | .nullable inner, h => goesOn_sitesFrom howner inner h
  | .unknown, h | .boolean, h | .integer, h | .number, h | .string _, h | .map, h => by
      simp [sitesFrom]

theorem goesOn_sitesIn {root owner : String} (howner : GoesOn root owner) :
    ∀ fields : List (Property × TypeExpr),
    (∀ site ∈ sitesIn owner fields, GoesOn site.wanted site.name) →
      ∀ site ∈ sitesIn owner fields, GoesOn root site.name
  | [], _ => by simp [sitesIn]
  | (property, type) :: rest, h => by
      rw [sitesIn, List.forall_mem_append] at h ⊢
      exact ⟨goesOn_sitesFrom howner type h.1, goesOn_sitesIn howner rest h.2⟩

end

mutual

/-- A type without the names of its objects, at any depth. -/
def unnamed : TypeExpr → TypeExpr
  | .object _ fields => .object "" (unnamedFields fields)
  | .array item => .array (unnamed item)
  | .nullable inner => .nullable (unnamed inner)
  | other => other
termination_by structural type => type

def unnamedFields : List (Property × TypeExpr) → List (Property × TypeExpr)
  | [] => []
  | (property, type) :: rest => (property, unnamed type) :: unnamedFields rest
termination_by structural fields => fields

end

mutual

theorem unnamed_assign (isRoot : Bool) (taken : List String) :
    ∀ (type : TypeExpr) (wanted : String),
      unnamed (assign isRoot wanted taken type).1 = unnamed type
  | .object _ fields, wanted => by
      rw [assign, unnamed, unnamed, unnamedFields_assignFields]
  | .array item, wanted => by
      rw [assign, unnamed, unnamed, unnamed_assign false taken item]
  | .nullable inner, wanted => by
      rw [assign, unnamed, unnamed, unnamed_assign isRoot taken inner]
  | .unknown, _ | .boolean, _ | .integer, _ | .number, _ | .string _, _ | .map, _ => rfl

theorem unnamedFields_assignFields (owner : String) (taken : List String) :
    ∀ fields, unnamedFields (assignFields owner taken fields).1 = unnamedFields fields
  | [] => rfl
  | (property, type) :: rest => by
      rw [assignFields, unnamedFields, unnamedFields, unnamed_assign false taken type,
        unnamedFields_assignFields owner _ rest]

end

/-- How the objects of a type are named whose root was given a name. No two have
the same name, and the root has the given one. Every other object has the first
free name for the one that its site asks for, where the name of the root and
those of the objects before it are taken. Each name is that of the root with
ASCII letters and digits behind it. So if the root has an identifier for its
name, all objects have. -/
structure Labelled (root : String) (type : TypeExpr) : Prop where
  nodup : (siteNames (type.sites root)).Nodup
  rootName : ∀ name, type.objectName? = some name → name = root
  firstFree : ∀ before site after, type.sites root = before ++ site :: after →
    before ≠ [] ∨ type.objectName? = none →
      FirstFree (root :: siteNames before) site.wanted site.name
  goesOn : ∀ site ∈ type.sites root, GoesOn root site.name
  identifier : IsAsciiIdentifier root → ∀ site ∈ type.sites root, IsAsciiIdentifier site.name

theorem nodup_named (root : String) (type : TypeExpr) :
    (siteNames ((named root type).sites root)).Nodup := by
  obtain ⟨fields, _, hsites, hgiven⟩ | ⟨_, hgiven⟩ := givenOut_named root type
  · obtain ⟨hnodup, hapart⟩ := hgiven.nodup
    rw [hsites, siteNames_cons, List.nodup_cons]
    exact ⟨fun hmem => hapart root hmem List.mem_cons_self, hnodup⟩
  · exact hgiven.nodup.1

theorem objectName?_named {root name : String} {type : TypeExpr}
    (h : (named root type).objectName? = some name) : name = root := by
  obtain ⟨_, hroot, _, _⟩ | ⟨hnone, _⟩ := givenOut_named root type
  · rw [hroot] at h
    exact (Option.some.inj h).symm
  · rw [hnone] at h
    cases h

theorem firstFree_named {root : String} {type : TypeExpr} {before after : List Site} {site : Site}
    (hsplit : (named root type).sites root = before ++ site :: after)
    (hother : before ≠ [] ∨ (named root type).objectName? = none) :
    FirstFree (root :: siteNames before) site.wanted site.name := by
  obtain ⟨fields, hroot, hsites, hgiven⟩ | ⟨_, hgiven⟩ := givenOut_named root type
  · -- The root is the first object, so the others are those of the rest.
    obtain ⟨first, before, rfl⟩ : ∃ first rest, before = first :: rest := by
      refine List.exists_cons_of_ne_nil (hother.resolve_right fun hnone => ?_)
      rw [hroot] at hnone
      cases hnone
    rw [hsites, List.cons_append] at hsplit
    obtain ⟨rfl, hrest⟩ := List.cons.inj hsplit
    rw [hrest] at hgiven
    refine hgiven.firstFree.congr fun name => ?_
    simp [or_comm]
  · rw [hsplit] at hgiven
    refine hgiven.firstFree.congr fun name => ?_
    simp [or_comm]

theorem goesOn_named (root : String) (type : TypeExpr) :
    ∀ site ∈ (named root type).sites root, GoesOn root site.name := by
  refine goesOn_sitesFrom (.refl root) (named root type) ?_
  obtain ⟨fields, _, hsites, hgiven⟩ | ⟨_, hgiven⟩ := givenOut_named root type
  · change ∀ site ∈ (named root type).sites root, _
    rw [hsites, List.forall_mem_cons]
    exact ⟨by simpa [Site.wanted] using GoesOn.refl root, hgiven.goesOn⟩
  · exact hgiven.goesOn

theorem labelled_named (root : String) (type : TypeExpr) : Labelled root (named root type) where
  nodup := nodup_named root type
  rootName _ := objectName?_named
  firstFree _ _ _ := firstFree_named
  goesOn := goesOn_named root type
  identifier hroot site hsite := hroot.goesOn (goesOn_named root type site hsite)

/-- The type of a schema is its structure with all objects named. -/
theorem labelled_of_ofSchema {root : String} {schema : Json} {type : TypeExpr}
    (h : ofSchema root schema = .ok type) : Labelled root type := by
  unfold ofSchema at h
  cases hnode : ofNode schema with
  | error fault => simp [hnode, Except.map] at h
  | ok node =>
      rw [hnode] at h
      obtain rfl := Except.ok.inj h
      exact labelled_named root node

/-- What a root property of a schema refers to has a name that goes on from that
of the root. -/
theorem goesOn_of_ofSchema {root : String} {schema : Json} {type : TypeExpr}
    (h : ofSchema root schema = .ok type) {field : Property × TypeExpr} {name : String}
    (hfield : field ∈ type.fields) (hname : field.2.interfaceName? = some name) :
    GoesOn root name := by
  have hmem : name ∈ siteNames (type.sites root) := mem_siteNames_of_mem_fields type hfield hname
  obtain ⟨site, hsite, rfl⟩ := List.mem_map.mp hmem
  exact (labelled_of_ofSchema h).goesOn site hsite

/-- Names in the types of a schema never collide, and which name the root is
given changes nothing about them but names. -/
theorem labelled_of_schema (schema : Json) :
    (∀ root type, ofSchema root schema = .ok type → Labelled root type) ∧
      ∀ root root', (∃ fault, ofSchema root schema = .error fault ∧
          ofSchema root' schema = .error fault) ∨
        ∃ type type', ofSchema root schema = .ok type ∧ ofSchema root' schema = .ok type' ∧
          type.unnamed = type'.unnamed := by
  refine ⟨fun root type htype => labelled_of_ofSchema htype, fun root root' => ?_⟩
  simp only [ofSchema]
  cases ofNode schema with
  | error fault => exact .inl ⟨fault, rfl, rfl⟩
  | ok node =>
      refine .inr ⟨_, _, rfl, rfl, ?_⟩
      rw [named, named, unnamed_assign, unnamed_assign]

/-- Keys that ask for the name of the root, for one that a number was put behind
and, through an array, for one that an object has. -/
theorem labelled_of_schema_collisions :
    let object (children : Fields Json) := Json.object [("type", .string "object"),
      ("properties", .object (("v", .object [("type", .string "string")]) :: children))]
    let list (item : Json) := Json.object [("type", .string "array"), ("items", item)]
    let schema := object [("", object []), ("a-b", object []), ("aB", object [("c", object [])]),
      ("aB2", object []), ("a", list (object [])), ("a_item", object [])]
    ∃ type, ofSchema "Input" schema = .ok type ∧ Labelled "Input" type ∧
      siteNames (type.sites "Input") = ["Input", "Input2", "InputAB", "InputAB2", "InputAB2C",
        "InputAB22", "InputAItem", "InputAItem2"] := by
  intro object list schema
  obtain ⟨type, htype⟩ : ∃ type, ofSchema "Input" schema = .ok type := ⟨_, rfl⟩
  refine ⟨type, htype, (labelled_of_schema schema).1 "Input" type htype, ?_⟩
  obtain rfl := Except.ok.inj htype
  decide +kernel

end SchemaLoom.TypeExpr
