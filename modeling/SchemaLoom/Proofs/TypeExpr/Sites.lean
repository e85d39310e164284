import Mathlib.Data.List.Nodup
import Mathlib.Data.List.Perm.Subperm
import SchemaLoom.Proofs.TypeExpr.Names

/-!
# The objects of a type and their names

Every object in a type stands at a site: below a property of the object around
it, or below no object at all, and behind a number of arrays. The site says
which name the object asks for.

Names are given out along the sites from the front, and each object gets the
first free name for the one that it asks for, so no two objects get the same.
What is asked for depends on names alone, and nothing else of a type does. The
list of sites is a recursion of its own, so that the names of a type can be told
without the function that gives them out.
-/

namespace SchemaLoom.TypeExpr

/-- An object in a type, and where it stands: the nearest object around it, or
the root if there is none, the key of the property that it stands below, if any,
and the number of arrays between the two. With it go its own name and its
properties. -/
structure Site where
  owner : String
  key : Option String
  arrays : Nat
  name : String
  fields : List (Property × TypeExpr)

/-- The name that an object asks for at its site: that of its owner, then the
words of the key, and `Item` for each array. -/
def Site.wanted (site : Site) : String :=
  site.owner ++ (site.key.map pascalCase).getD "" ++ String.join (List.replicate site.arrays "Item")

mutual

/-- The objects of a type that stands below a property and behind so many
arrays. An object comes before those inside it, and these in the order of its
properties. -/
def sitesFrom (owner : String) (key : Option String) (arrays : Nat) : TypeExpr → List Site
  | .object name fields => ⟨owner, key, arrays, name, fields⟩ :: sitesIn name fields
  | .array item => sitesFrom owner key (arrays + 1) item
  | .nullable inner => sitesFrom owner key arrays inner
  | _ => []
termination_by structural type => type

def sitesIn (owner : String) : List (Property × TypeExpr) → List Site
  | [] => []
  | (property, type) :: rest => sitesFrom owner (some property.key) 0 type ++ sitesIn owner rest
termination_by structural fields => fields

end

/-- The objects of a whole type in order, where the type stands below no object.
The root is the first of them if it is an object. -/
def sites (root : String) (type : TypeExpr) : List Site := sitesFrom root none 0 type

def siteNames (sites : List Site) : List String := sites.map Site.name

@[simp] theorem siteNames_nil : siteNames [] = [] := rfl

@[simp] theorem siteNames_cons (site : Site) (rest : List Site) :
    siteNames (site :: rest) = site.name :: siteNames rest := rfl

@[simp] theorem siteNames_append (front rest : List Site) :
    siteNames (front ++ rest) = siteNames front ++ siteNames rest :=
  List.map_append

/-- The object that the text of a type refers to is one of the objects of the type. -/
theorem mem_siteNames_of_interfaceName? {owner : String} {key : Option String} {name : String} :
    ∀ (type : TypeExpr) {arrays : Nat}, type.interfaceName? = some name →
      name ∈ siteNames (sitesFrom owner key arrays type)
  | .object _ fields, _, h => by
      obtain rfl := Option.some.inj h
      exact List.mem_cons_self
  | .array item, _, h => mem_siteNames_of_interfaceName? item h
  | .nullable inner, _, h => mem_siteNames_of_interfaceName? inner h
  | .unknown, _, h | .boolean, _, h | .integer, _, h | .number, _, h | .string _, _, h
  | .map, _, h => by cases h

theorem mem_siteNames_sitesIn {owner : String} {fields : List (Property × TypeExpr)}
    {field : Property × TypeExpr} (hfield : field ∈ fields) {name : String}
    (h : field.2.interfaceName? = some name) : name ∈ siteNames (sitesIn owner fields) := by
  induction fields with
  | nil => cases hfield
  | cons first rest ih =>
      obtain ⟨property, type⟩ := first
      rw [sitesIn, siteNames_append, List.mem_append]
      obtain rfl | hfield := List.mem_cons.mp hfield
      · exact .inl (mem_siteNames_of_interfaceName? type h)
      · exact .inr (ih hfield)

theorem mem_siteNames_of_mem_fields {owner : String} {key : Option String}
    {field : Property × TypeExpr} {name : String} : ∀ (type : TypeExpr) {arrays : Nat},
    field ∈ type.fields → field.2.interfaceName? = some name →
      name ∈ siteNames (sitesFrom owner key arrays type)
  | .object _ fields, _, hfield, h => by
      change field ∈ fields at hfield
      exact List.mem_cons_of_mem _ (mem_siteNames_sitesIn hfield h)
  | .nullable inner, _, hfield, h => mem_siteNames_of_mem_fields inner hfield h
  | .array _, _, hfield, _ | .unknown, _, hfield, _ | .boolean, _, hfield, _
  | .integer, _, hfield, _ | .number, _, hfield, _ | .string _, _, hfield, _
  | .map, _, hfield, _ => by cases hfield

mutual

theorem mem_siteNames_of_mem_sitesFrom {owner : String} {key : Option String} {site : Site}
    {field : Property × TypeExpr} (hfield : field ∈ site.fields) {name : String}
    (h : field.2.interfaceName? = some name) : ∀ (type : TypeExpr) {arrays : Nat},
    site ∈ sitesFrom owner key arrays type → name ∈ siteNames (sitesFrom owner key arrays type)
  | .object _ fields, _, hsite => by
      rw [sitesFrom, siteNames_cons]
      apply List.mem_cons_of_mem
      obtain rfl | hsite := List.mem_cons.mp hsite
      · exact mem_siteNames_sitesIn hfield h
      · exact mem_siteNames_of_mem_sitesIn hfield h fields hsite
  | .array item, _, hsite => mem_siteNames_of_mem_sitesFrom hfield h item hsite
  | .nullable inner, _, hsite => mem_siteNames_of_mem_sitesFrom hfield h inner hsite
  | .unknown, _, hsite | .boolean, _, hsite | .integer, _, hsite | .number, _, hsite
  | .string _, _, hsite | .map, _, hsite => by cases hsite

theorem mem_siteNames_of_mem_sitesIn {owner : String} {site : Site}
    {field : Property × TypeExpr} (hfield : field ∈ site.fields) {name : String}
    (h : field.2.interfaceName? = some name) : ∀ fields : List (Property × TypeExpr),
    site ∈ sitesIn owner fields → name ∈ siteNames (sitesIn owner fields)
  | [], hsite => by cases hsite
  | (property, type) :: rest, hsite => by
      rw [sitesIn, List.mem_append] at hsite
      rw [sitesIn, siteNames_append, List.mem_append]
      exact hsite.imp (mem_siteNames_of_mem_sitesFrom hfield h type)
        (mem_siteNames_of_mem_sitesIn hfield h rest)

end

/-- The name for a wanted one where some are taken: the wanted one itself if it
is free, or else the first free one of those numbered from two on. -/
structure FirstFree (taken : List String) (wanted name : String) : Prop where
  free : wanted ∉ taken → name = wanted
  numbered : wanted ∈ taken → ∃ n, 2 ≤ n ∧ name = wanted ++ toString n ∧ name ∉ taken ∧
    ∀ m, 2 ≤ m → m < n → wanted ++ toString m ∈ taken

theorem FirstFree.not_mem {taken : List String} {wanted name : String}
    (h : FirstFree taken wanted name) : name ∉ taken := by
  by_cases hwanted : wanted ∈ taken
  · obtain ⟨_, _, _, hfree, _⟩ := h.numbered hwanted
    exact hfree
  · rw [h.free hwanted]
    exact hwanted

/-- What is free depends on which names are taken, not on their order. -/
theorem FirstFree.congr {taken taken' : List String} (h : ∀ name, name ∈ taken ↔ name ∈ taken')
    {wanted name : String} (hfree : FirstFree taken wanted name) :
    FirstFree taken' wanted name where
  free hwanted := hfree.free fun hmem => hwanted ((h wanted).mp hmem)
  numbered hwanted := by
    obtain ⟨n, hn, hname, hnot, hbelow⟩ := hfree.numbered ((h wanted).mpr hwanted)
    refine ⟨n, hn, hname, fun hmem => hnot ((h name).mpr hmem), fun m hm hlt => ?_⟩
    exact (h _).mp (hbelow m hm hlt)

theorem numbered_injective (wanted : String) :
    Function.Injective fun n : Nat => wanted ++ toString (n + 2) := by
  intro a b hab
  have hnumber : toString (a + 2) = toString (b + 2) := (String.append_right_inj wanted).mp hab
  rw [Nat.toString_eq_ofList_toDigits, Nat.toString_eq_ofList_toDigits,
    String.ofList_inj] at hnumber
  have hread := congrArg (Nat.ofDigitChars 10 · 0) hnumber
  simp only [Nat.ofDigitChars_ten_toDigits] at hread
  omega

/-- Of as many numbered names as there are names taken and one more, one is free. -/
theorem exists_free (taken : List String) (wanted : String) :
    ∃ n ∈ List.range (taken.length + 1), wanted ++ toString (n + 2) ∉ taken := by
  by_contra hnone
  push Not at hnone
  have hsubset : (List.range (taken.length + 1)).map (fun n => wanted ++ toString (n + 2)) ⊆
      taken := by
    intro name hname
    obtain ⟨n, hn, rfl⟩ := List.mem_map.mp hname
    exact hnone n hn
  have hnodup := (List.nodup_range (n := taken.length + 1)).map (numbered_injective wanted)
  have hlength := (hnodup.subperm hsubset).length_le
  rw [List.length_map, List.length_range] at hlength
  omega

theorem firstFree_claim (taken : List String) (wanted : String) :
    FirstFree taken wanted (claim taken wanted) := by
  rw [claim]
  constructor
  · intro hwanted
    rw [if_neg (by simpa using hwanted)]
  · intro hwanted
    rw [if_pos (by simpa using hwanted), List.find?_map]
    obtain ⟨n, hn, hfree⟩ := exists_free taken wanted
    cases hfind : (List.range (taken.length + 1)).find? _ with
    | none =>
        have hmem := List.find?_eq_none.mp hfind n hn
        simp only [Function.comp_apply, Bool.not_eq_true, Bool.not_eq_false', List.contains_iff_mem]
          at hmem
        exact absurd hmem hfree
    | some k =>
        obtain ⟨hk, _, hbelow⟩ := List.find?_range_eq_some.mp hfind
        refine ⟨k + 2, by omega, rfl, by simpa using hk, fun m hm hlt => ?_⟩
        have := hbelow (m - 2) (by omega)
        simpa [show m - 2 + 2 = m by omega] using this

/-- Names given out along sites, from the front on, where some are taken: each
object has the first free one for the one that it asks for. -/
def GivenOut (taken : List String) : List Site → Prop
  | [] => True
  | site :: rest => FirstFree taken site.wanted site.name ∧ GivenOut (site.name :: taken) rest

theorem GivenOut.append {taken : List String} {front rest : List Site}
    (hfront : GivenOut taken front) (hrest : GivenOut ((siteNames front).reverse ++ taken) rest) :
    GivenOut taken (front ++ rest) := by
  induction front generalizing taken with
  | nil => exact hrest
  | cons site front ih =>
      refine ⟨hfront.1, ih hfront.2 ?_⟩
      rw [siteNames_cons, List.reverse_cons, List.append_assoc, List.singleton_append] at hrest
      exact hrest

/-- No name is given out twice, and none that was taken before. -/
theorem GivenOut.nodup {taken : List String} {sites : List Site} (h : GivenOut taken sites) :
    (siteNames sites).Nodup ∧ ∀ name ∈ siteNames sites, name ∉ taken := by
  induction sites generalizing taken with
  | nil => simp
  | cons site rest ih =>
      obtain ⟨hnodup, hapart⟩ := ih h.2
      rw [siteNames_cons, List.nodup_cons, List.forall_mem_cons]
      refine ⟨⟨fun hmem => ?_, hnodup⟩, h.1.not_mem, fun name hname hmem => ?_⟩
      · exact hapart _ hmem List.mem_cons_self
      · exact hapart name hname (List.mem_cons_of_mem _ hmem)

/-- Every object has the first free name after those of the objects before it. -/
theorem GivenOut.firstFree {taken : List String} {before after : List Site} {site : Site}
    (h : GivenOut taken (before ++ site :: after)) :
    FirstFree ((siteNames before).reverse ++ taken) site.wanted site.name := by
  induction before generalizing taken with
  | nil => exact h.1
  | cons first before ih =>
      rw [siteNames_cons, List.reverse_cons, List.append_assoc, List.singleton_append]
      exact ih h.2

theorem replicate_succ_item (arrays : Nat) :
    String.join (List.replicate (arrays + 1) "Item") =
      String.join (List.replicate arrays "Item") ++ "Item" := by
  rw [List.replicate_succ', String.join_append]
  rfl

theorem wanted_succ (owner : String) (key : Option String) (arrays : Nat) (name name' : String)
    (fields fields' : List (Property × TypeExpr)) :
    (Site.mk owner key (arrays + 1) name fields).wanted =
      (Site.mk owner key arrays name' fields').wanted ++ "Item" := by
  simp only [Site.wanted, replicate_succ_item, String.append_assoc]

mutual

/-- Below the root names are given out along the sites. -/
theorem givenOut_assign (owner : String) (key : Option String) (arrays : Nat)
    (taken : List String) : ∀ (type : TypeExpr) (wanted : String),
    (∀ name fields, (Site.mk owner key arrays name fields).wanted = wanted) →
      GivenOut taken (sitesFrom owner key arrays (assign false wanted taken type).1) ∧
        (assign false wanted taken type).2 =
          (siteNames (sitesFrom owner key arrays (assign false wanted taken type).1)).reverse ++
          taken
  | .object _ fields, wanted, hwanted => by
      obtain ⟨hgiven, htaken⟩ :=
        givenOut_assignFields (claim taken wanted) (claim taken wanted :: taken) fields
      refine ⟨⟨?_, hgiven⟩, ?_⟩
      · rw [hwanted]
        exact firstFree_claim taken wanted
      · rw [assign, if_neg Bool.false_ne_true, htaken]
        simp [sitesFrom]
  | .array item, wanted, hwanted =>
      givenOut_assign owner key (arrays + 1) taken item (wanted ++ "Item") fun name fields => by
        rw [wanted_succ owner key arrays name name fields fields, hwanted]
  | .nullable inner, wanted, hwanted => givenOut_assign owner key arrays taken inner wanted hwanted
  | .unknown, _, _ | .boolean, _, _ | .integer, _, _ | .number, _, _ | .string _, _, _
  | .map, _, _ => ⟨trivial, rfl⟩

theorem givenOut_assignFields (owner : String) (taken : List String) :
    ∀ fields : List (Property × TypeExpr),
      GivenOut taken (sitesIn owner (assignFields owner taken fields).1) ∧
        (assignFields owner taken fields).2 =
          (siteNames (sitesIn owner (assignFields owner taken fields).1)).reverse ++ taken
  | [] => ⟨trivial, rfl⟩
  | (property, type) :: rest => by
      obtain ⟨hfirst, htaken⟩ := givenOut_assign owner (some property.key) 0 taken type
        (owner ++ pascalCase property.key) fun name fields => by simp [Site.wanted]
      obtain ⟨hrest, htaken'⟩ := givenOut_assignFields owner
        (assign false (owner ++ pascalCase property.key) taken type).2 rest
      refine ⟨hfirst.append ?_, ?_⟩
      · rw [← htaken]
        exact hrest
      · rw [assignFields, sitesIn, siteNames_append, List.reverse_append, List.append_assoc,
          ← htaken]
        exact htaken'

end

end SchemaLoom.TypeExpr
