import SchemaLoom.Compiler
import SchemaLoom.Proofs.InputDefaults.Filled
import SchemaLoom.Proofs.Schema.KeyOrder
import SchemaLoom.Proofs.Schema.Stored
import SchemaLoom.Proofs.TypeExpr.Structure

/-!
# Input defaults of a schema

Between a schema and the defaults of its input stand its order, its stored form,
the members it is compiled to and the defaults read off it once more. Each of
these works through the root properties by itself.

In the end just the properties that need not be given contribute their defaults,
and just those that must be given and have none are asked for, both in the order
of the properties. What is expected is told of the properties first, and each
step between is shown to keep what matters: keys, marks and defaults.
-/

namespace SchemaLoom.InputDefaults

open Json Schema TypeExpr

/-- The defaults of the properties that need not be given, each under its key. -/
def optionalDefaults (required : List String) (properties : Fields Json) : Fields Json :=
  properties.filterMap fun entry =>
    (if required.contains entry.1 then none else entry.2.get? "default").map (entry.1, ·)

/-- The properties that must be given and have no default, in the order of the
properties. -/
def undefaulted (required : List String) (properties : Fields Json) : List String :=
  (properties.filter fun entry =>
    required.contains entry.1 && (entry.2.get? "default").isNone).map (·.1)

theorem distinct_optionalDefaults (required : List String) {properties : Fields Json}
    (h : properties.Distinct) : (optionalDefaults required properties).Distinct :=
  List.Nodup.sublist (Fields.keys_filterMap_sublist _ properties) h

theorem undefaulted_ne_nil_iff {required : List String} {properties : Fields Json} :
    undefaulted required properties ≠ [] ↔
      ∃ entry ∈ properties, entry.1 ∈ required ∧ entry.2.get? "default" = none := by
  simp [undefaulted, List.filter_eq_nil_iff]

def keyAndMark (member : Member) : String × Bool := (member.key, member.optional)

theorem map_filled (members : List Member) (defaults : Fields Json) :
    ((filled members defaults).map fun p => (p.1.key, p.2)) =
      (members.map keyAndMark).filterMap fun p =>
        (if p.2 then defaults.get? p.1 else none).map (p.1, ·) := by
  rw [filled, List.map_filterMap, List.filterMap_map]
  refine List.filterMap_congr fun member _ => ?_
  obtain ⟨key, declaredType, optional⟩ := member
  cases optional with
  | true => exact Option.map_map _ _ _
  | false => rfl

theorem required_ofMembers (members : List Member) (defaults : Fields Json) :
    (ofMembers members defaults).required =
      ((members.map keyAndMark).filter fun p => !p.2 && !defaults.has p.1).map (·.1) := by
  rw [List.filter_map, List.map_map]
  rfl

/-- Members and defaults that come of the same properties amount to what is
expected of these. -/
theorem ofMembers_defaultsIn {members : List Member} {required : List String}
    {properties : Fields Json} (hd : properties.Distinct)
    (h : members.map keyAndMark = properties.map fun entry =>
      (entry.1, !required.contains entry.1)) :
    (ofMembers members (defaultsIn properties)).values = optionalDefaults required properties ∧
      (ofMembers members (defaultsIn properties)).required = undefaulted required properties := by
  have hdefault : ∀ entry ∈ properties,
      (defaultsIn properties).get? entry.1 = entry.2.get? "default" := by
    intro entry hentry
    rw [defaultsIn, Fields.get?_filterMap (Json.get? "default") hd,
      (Fields.get?_eq_some_iff hd).mpr hentry, Option.bind_some]
  constructor
  · have hvalues : ((filled members (defaultsIn properties)).map fun p => (p.1.key, p.2)) =
        optionalDefaults required properties := by
      rw [map_filled, h, List.filterMap_map]
      refine List.filterMap_congr fun entry hentry => ?_
      simp only [Function.comp_apply, hdefault entry hentry]
      cases required.contains entry.1 <;> rfl
    rw [ofMembers, hvalues, Fields.setAll_empty (distinct_optionalDefaults required hd)]
  · rw [required_ofMembers, h, List.filter_map, List.map_map, undefaulted]
    have hfilter : ∀ entry ∈ properties,
        ((fun p : String × Bool => !p.2 && !(defaultsIn properties).has p.1) ∘
          fun entry => (entry.1, !required.contains entry.1)) entry =
        (required.contains entry.1 && (entry.2.get? "default").isNone) := by
      intro entry hentry
      simp [Fields.has, hdefault entry hentry]
    rw [List.filter_congr hfilter]
    rfl

/-- Without an input, filling fails exactly if a property that must be given has
no default. -/
theorem fill_missing {defaults : InputDefaults} {required : List String} {properties : Fields Json}
    (hasked : defaults.required = undefaulted required properties) {input : Option Json}
    (hinput : input = none ∨ input = some .null) :
    ((∃ failure, defaults.fill .plain input = .error failure) ↔
        ∃ entry ∈ properties, entry.1 ∈ required ∧ entry.2.get? "default" = none) ∧
      ((¬∃ entry ∈ properties, entry.1 ∈ required ∧ entry.2.get? "default" = none) →
        defaults.fill .plain input = .ok (.object defaults.values)) := by
  rw [← undefaulted_ne_nil_iff, ← hasked, fill_plain_of_null defaults hinput, not_not]
  refine ⟨?_, fun h => if_pos h⟩
  split
  · next h => simp [h]
  · next h => simp [h]

theorem map_keyAndMark_members (type : TypeExpr) :
    type.members.map keyAndMark =
      (type.fields.map (·.1)).map fun property => (property.key, !property.required) := by
  rw [members_eq, List.map_map, List.map_map]
  rfl

/-- The defaults of a schema that is put in order, stored and compiled are those
of its root properties: the values are the defaults of the properties that need
not be given, the keys asked for are the properties that must be given and have
no default, both in order. So a missing input can be filled in exactly if every
property that must be given has a default. -/
theorem ofMembers_of_schema (document : Json) (name : String) (hu : document.UniqueKeys)
    (hv : validate document = .ok ()) :
    ∃ fields stored compiled members, document = .object fields ∧
      keepAllowed (orderRoot document) = .ok stored ∧
      Compiled.ofSchema stored name = .ok compiled ∧ compiled.members = some members ∧
      (ofMembers members (defaultsOf stored)).values =
        optionalDefaults (requiredOf fields) (ordered (propertiesOf fields)) ∧
      (ofMembers members (defaultsOf stored)).required =
        undefaulted (requiredOf fields) (ordered (propertiesOf fields)) ∧
      ∀ input, input = none ∨ input = some .null →
        ((∃ failure, (ofMembers members (defaultsOf stored)).fill .plain input = .error failure) ↔
          ∃ entry ∈ propertiesOf fields, entry.1 ∈ requiredOf fields ∧
            entry.2.get? "default" = none) ∧
        ((¬∃ entry ∈ propertiesOf fields, entry.1 ∈ requiredOf fields ∧
            entry.2.get? "default" = none) →
          (ofMembers members (defaultsOf stored)).fill .plain input = .ok (.object
            (optionalDefaults (requiredOf fields) (ordered (propertiesOf fields))))) := by
  have hs := validate_eq_ok_iff.mp hv
  obtain ⟨fields, rfl⟩ := exists_fields_of_kindOf hs.isObject
  obtain ⟨ordering, hordering, hproperties, hrequired⟩ := exists_orderRoot fields
  have hou : UniqueKeys (.object ordering) := hordering ▸ uniqueKeys_orderRoot hu
  have hos : IsSchema (.object ordering) := hordering ▸ hs.orderRoot
  have hks := isSchema_kept hos
  obtain ⟨type, htype, hfields⟩ := exists_ofSchema hks.typed hks.isObject name
  -- Everything below speaks of the ordered properties of the schema itself.
  have hkept : propertiesOf (kept ordering) =
      (ordered (propertiesOf fields)).map fun entry => (entry.1, keptNode entry.2) := by
    rw [propertiesOf_kept, hproperties]
  have hdefaults : defaultsOf (.object (kept ordering)) =
      defaultsIn (ordered (propertiesOf fields)) := by
    rw [defaultsOf, Json.object?, Option.getD_some, hkept, defaultsIn_keptNode]
  have hmembers : type.members.map keyAndMark =
      (ordered (propertiesOf fields)).map fun entry =>
        (entry.1, !(requiredOf fields).contains entry.1) := by
    rw [map_keyAndMark_members, hfields, hkept, requiredOf_kept, hrequired, List.map_map,
      List.map_map]
    rfl
  have hdistinct : (ordered (propertiesOf fields)).Distinct :=
    distinct_ordered (uniqueKeys_object.mp (uniqueKeys_propertiesOf hu)).1
  obtain ⟨hvalues, hasked⟩ := ofMembers_defaultsIn hdistinct hmembers
  refine ⟨fields, .object (kept ordering), ⟨(Declarations.empty.declare name type).text,
    some type.members⟩, type.members, rfl, ?_, ?_, rfl, ?_⟩
  · rw [hordering, keepAllowed_of_isSchema hou hos]
  · rw [Compiled.ofSchema, htype]
  · rw [hdefaults]
    refine ⟨hvalues, hasked, fun input hinput => ?_⟩
    have hfill := fill_missing hasked hinput
    rw [hvalues] at hfill
    simpa only [mem_ordered] using hfill

/-- A required property without a default comes first by its position, so
nothing can be filled in without an input. -/
theorem ofMembers_of_schema_positions :
    ∃ stored compiled members, keepAllowed (orderRoot (.object [("type", .string "object"),
        ("properties", .object [
          ("depth", .object [("type", .string "integer"), ("default", .null)]),
          ("start", .object [("type", .string "string"), ("position", .number (.integer 1))])]),
        ("required", .array [.string "start"])])) = .ok stored ∧
      Compiled.ofSchema stored "Input" = .ok compiled ∧ compiled.members = some members ∧
      (ofMembers members (defaultsOf stored)).values = [("depth", .null)] ∧
      (ofMembers members (defaultsOf stored)).required = ["start"] ∧
      ∃ failure, (ofMembers members (defaultsOf stored)).fill .plain none = .error failure := by
  obtain ⟨fields, stored, compiled, members, hfields, hstored, hcompiled, hmembers, hvalues, hasked,
    hfill⟩ := ofMembers_of_schema (.object [("type", .string "object"),
      ("properties", .object [
        ("depth", .object [("type", .string "integer"), ("default", .null)]),
        ("start", .object [("type", .string "string"), ("position", .number (.integer 1))])]),
      ("required", .array [.string "start"])]) "Input" (by simp [Fields.Distinct]) rfl
  obtain rfl := Json.object.inj hfields
  have hmissing := (hfill none (.inl rfl)).1.mpr
  refine ⟨stored, compiled, members, hstored, hcompiled, hmembers, hvalues.trans ?_,
    hasked.trans ?_, hmissing ⟨("start", _), List.mem_cons_of_mem _ List.mem_cons_self, ?_, rfl⟩⟩
  · rw [ordered_eq_insertionSort]
    rfl
  · rw [ordered_eq_insertionSort]
    decide
  · decide

end SchemaLoom.InputDefaults
