import SchemaLoom.InputDefaults.Basic
import SchemaLoom.Proofs.Fields.Sequence

/-!
# Filling an input

Members may come with the same key, some optional and some not, and a default
may be `null`. Still no key is both filled in and asked for, since the one needs
a default and the other needs that there is none.

An input keeps its own values and gets the others in front of it in the order in
which the members offer them, so a filled input has nothing left to be filled.
The keys offered and the keys asked for are told by the members and the declared
defaults alone, apart from how the defaults are put together.
-/

namespace SchemaLoom.InputDefaults

open Json

/-- The keys of the optional members that have a default, each where it comes
first. -/
def offeredKeys (members : List Member) (defaults : Fields Json) : List String :=
  (((members.filter (·.optional)).map Member.key).filter defaults.has).eraseDups

/-- The keys of the required members that have no default, one for each such
member. -/
def askedKeys (members : List Member) (defaults : Fields Json) : List String :=
  ((members.filter fun member => !member.optional).map Member.key).filter fun key =>
    !defaults.has key

theorem mem_offeredKeys {members : List Member} {defaults : Fields Json} {key : String} :
    key ∈ offeredKeys members defaults ↔
      (∃ member ∈ members, member.optional = true ∧ member.key = key) ∧ key ∈ defaults.keys := by
  simp [offeredKeys, List.mem_eraseDups, Fields.has_iff, and_assoc]

theorem mem_askedKeys {members : List Member} {defaults : Fields Json} {key : String} :
    key ∈ askedKeys members defaults ↔
      (∃ member ∈ members, member.optional = false ∧ member.key = key) ∧ key ∉ defaults.keys := by
  simp [askedKeys, ← Fields.has_iff, and_assoc]

theorem askedKeys_ne_nil_iff {members : List Member} {defaults : Fields Json} :
    askedKeys members defaults ≠ [] ↔
      ∃ member ∈ members, member.optional = false ∧ member.key ∉ defaults.keys := by
  simp [askedKeys, List.filter_eq_nil_iff, ← Fields.has_iff]

theorem map_key_filled (members : List Member) (defaults : Fields Json) :
    (filled members defaults).map (fun p => p.1.key) =
      ((members.filter (·.optional)).map Member.key).filter defaults.has := by
  induction members with
  | nil => rfl
  | cons member rest ih =>
      rw [filled] at ih ⊢
      rw [List.filterMap_cons, List.filter_cons]
      cases member.optional with
      | false => exact ih
      | true =>
          rw [if_pos rfl, if_pos rfl, List.map_cons, List.filter_cons, Fields.has]
          cases defaults.get? member.key with
          | none => exact ih
          | some value => exact congrArg (member.key :: ·) ih

theorem get?_of_mem_filled {members : List Member} {defaults : Fields Json} {p : Member × Json}
    (h : p ∈ filled members defaults) : defaults.get? p.1.key = some p.2 := by
  obtain ⟨member, -, hp⟩ := List.mem_filterMap.mp h
  split_ifs at hp with hoptional
  obtain ⟨value, hvalue, rfl⟩ := Option.map_eq_some_iff.mp hp
  exact hvalue

theorem keys_values (members : List Member) (defaults : Fields Json) :
    (ofMembers members defaults).values.keys = offeredKeys members defaults := by
  rw [ofMembers, Fields.keys_setAll_eq_eraseDups Fields.distinct_nil, Fields.keys_nil,
    List.nil_append, Fields.keys, List.map_map, offeredKeys, ← map_key_filled]
  rfl

theorem keys_types (members : List Member) (defaults : Fields Json) :
    (ofMembers members defaults).types.keys = offeredKeys members defaults := by
  rw [ofMembers, Fields.keys_setAll_eq_eraseDups Fields.distinct_nil, Fields.keys_nil,
    List.nil_append, Fields.keys, List.map_map, offeredKeys, ← map_key_filled]
  rfl

theorem get?_values (members : List Member) (defaults : Fields Json) (key : String) :
    (ofMembers members defaults).values.get? key =
      if key ∈ offeredKeys members defaults then defaults.get? key else none := by
  have hsource : ∀ entry ∈ (filled members defaults).map fun p => (p.1.key, p.2),
      defaults.get? entry.1 = some entry.2 := by
    intro entry hentry
    obtain ⟨p, hp, rfl⟩ := List.mem_map.mp hentry
    exact get?_of_mem_filled hp
  have hkeys : key ∈ Fields.keys ((filled members defaults).map fun p => (p.1.key, p.2)) ↔
      key ∈ offeredKeys members defaults := by
    rw [offeredKeys, List.mem_eraseDups, ← map_key_filled, Fields.keys, List.map_map]
    rfl
  rw [ofMembers, Fields.get?_setAll_of_source hsource, Fields.get?_nil]
  simp only [hkeys]

theorem forall_mem_values {P : Json → Prop} {defaults : Fields Json}
    (h : ∀ entry ∈ defaults, P entry.2) (members : List Member) :
    ∀ entry ∈ (ofMembers members defaults).values, P entry.2 := by
  refine Fields.forall_mem_setAll (List.forall_mem_nil _) fun entry hentry => ?_
  obtain ⟨p, hp, rfl⟩ := List.mem_map.mp hentry
  exact h _ (Fields.mem_of_get? (get?_of_mem_filled hp))

theorem required_eq_askedKeys (members : List Member) (defaults : Fields Json) :
    (ofMembers members defaults).required = askedKeys members defaults := by
  rw [askedKeys, List.filter_map, List.filter_filter, ofMembers]
  simp only [Function.comp_apply, Bool.and_comm]

theorem distinct_values (members : List Member) (defaults : Fields Json) :
    (ofMembers members defaults).values.Distinct :=
  Fields.distinct_nil.setAll _

/-- Without an input, or with `null`, filling depends on whether something is
asked for. -/
theorem fill_plain_of_null (defaults : InputDefaults) {input : Option Json}
    (h : input = none ∨ input = some .null) :
    defaults.fill .plain input =
      if defaults.required = [] then .ok (.object defaults.values)
      else .error (.missingInput defaults.required) := by
  have hnull : input.getD .null = .null := by
    rcases h with rfl | rfl <;> rfl
  simp [fill, hnull]

theorem fill_plain_object (defaults : InputDefaults) (supplied : Fields Json) :
    defaults.fill .plain (some (.object supplied)) =
      .ok (.object (defaults.values.setAll supplied)) :=
  rfl

theorem fill_plain_of_not_object (defaults : InputDefaults) {value : Json} (hnull : value ≠ .null)
    (hobject : value.isObject = false) : defaults.fill .plain (some value) = .ok value := by
  cases value with
  | null => exact absurd rfl hnull
  | object fields => cases hobject
  | bool _ | number _ | string _ | array _ => rfl

theorem fill_eq_error_iff {defaults : InputDefaults} {host : Host} {input : Option Json}
    {failure : Failure} :
    defaults.fill host input = .error failure ↔
      host = .plain ∧ (input = none ∨ input = some .null) ∧ defaults.required ≠ [] ∧
        failure = .missingInput defaults.required := by
  cases host with
  | fillsDefaults => simp [fill]
  | plain =>
      by_cases hinput : input = none ∨ input = some .null
      · rw [fill_plain_of_null defaults hinput]
        split_ifs with hrequired
        · simp [hrequired]
        · simp [hinput, hrequired, eq_comm]
      · rw [not_or] at hinput
        obtain ⟨value, rfl⟩ := Option.ne_none_iff_exists'.mp hinput.1
        cases value with
        | null => exact absurd rfl hinput.2
        | object supplied => simp [fill_plain_object]
        | bool _ | number _ | string _ | array _ => simp [fill]

/-- What was filled can be filled again, and does not change. -/
theorem fill_fill {defaults : InputDefaults} (hd : defaults.values.Distinct) {host : Host}
    {input : Option Json} {value : Json} (h : defaults.fill host input = .ok value) :
    defaults.fill host (some value) = .ok value := by
  cases host with
  | fillsDefaults => rfl
  | plain =>
      by_cases hinput : input = none ∨ input = some .null
      · rw [fill_plain_of_null defaults hinput] at h
        split_ifs at h
        obtain rfl := Except.ok.inj h
        rw [fill_plain_object]
        have hagain : defaults.values.setAll defaults.values = defaults.values :=
          Fields.setAll_setAll hd []
        rw [hagain]
      · rw [not_or] at hinput
        obtain ⟨supplied, rfl⟩ := Option.ne_none_iff_exists'.mp hinput.1
        by_cases hobject : supplied.isObject = true
        · cases supplied with
          | object entries =>
              obtain rfl := Except.ok.inj h
              rw [fill_plain_object, Fields.setAll_setAll hd]
          | null | bool _ | number _ | string _ | array _ => cases hobject
        · have hsame := fill_plain_of_not_object defaults (fun e => hinput.2 (congrArg some e))
            (eq_false_of_ne_true hobject)
          obtain rfl := Except.ok.inj (hsame.symm.trans h)
          exact hsame

/-- Filling, told by the members and the declared defaults. What is filled in
has a type, and nothing of it is asked for. The keys of a filled object are
those offered, and then its own others, each with its own value or else with the
declared one. Only a missing input on a host that leaves defaults out can be
refused, and then for exactly the keys that are asked for. All other inputs stay
as they are, and so does what was filled before. -/
theorem fill_ofMembers (members : List Member) (defaults : Fields Json) :
    let spec := ofMembers members defaults
    spec.values.keys = spec.types.keys ∧ (∀ key ∈ spec.required, key ∉ spec.values.keys) ∧
    (∀ supplied : Fields Json, supplied.Distinct →
      ∃ full : Fields Json, spec.fill .plain (some (.object supplied)) = .ok (.object full) ∧
        full.keys = offeredKeys members defaults ++
          supplied.keys.filter (fun key => !(offeredKeys members defaults).contains key) ∧
        ∀ key ∈ full.keys, full.get? key = (supplied.get? key).or (defaults.get? key)) ∧
    (∀ host input, (∃ failure, spec.fill host input = .error failure) ↔
      host = .plain ∧ (input = none ∨ input = some .null) ∧
        ∃ member ∈ members, member.optional = false ∧ member.key ∉ defaults.keys) ∧
    (∀ host input failure, spec.fill host input = .error failure →
      failure = .missingInput (askedKeys members defaults)) ∧
    (∀ input, input = none ∨ input = some .null → askedKeys members defaults = [] →
      spec.fill .plain input = spec.fill .plain (some (.object []))) ∧
    (∀ value, value ≠ .null → value.isObject = false → spec.fill .plain (some value) = .ok value) ∧
    (∀ input, spec.fill .fillsDefaults input = .ok (input.getD .null)) ∧
    ∀ host input value, spec.fill host input = .ok value →
      spec.fill host (some value) = .ok value := by
  intro spec
  have hkeys : spec.values.keys = offeredKeys members defaults := keys_values members defaults
  have hasked : spec.required = askedKeys members defaults := required_eq_askedKeys members defaults
  refine ⟨hkeys.trans (keys_types members defaults).symm, fun key hkey => ?_,
    fun supplied hd => ⟨spec.values.setAll supplied, rfl, ?_, fun key hkey => ?_⟩,
    fun host input => ?_, fun host input failure h => ?_, fun input hinput hnone => ?_,
    fun value hnull hobject => fill_plain_of_not_object spec hnull hobject, fun input => rfl,
    fun host input value h => fill_fill (distinct_values members defaults) h⟩
  · rw [hasked, mem_askedKeys] at hkey
    rw [hkeys, mem_offeredKeys]
    exact fun h => hkey.2 h.2
  · rw [Fields.keys_setAll hd, hkeys, Fields.inTurn]
  · rw [Fields.keys_setAll hd, hkeys, Fields.inTurn, List.mem_append] at hkey
    rw [Fields.get?_setAll hd, get?_values]
    cases hvalue : supplied.get? key with
    | some value => rfl
    | none =>
        have hoffered : key ∈ offeredKeys members defaults :=
          hkey.resolve_right fun h => Fields.get?_eq_none_iff.mp hvalue (List.mem_of_mem_filter h)
        rw [if_pos hoffered]
  · rw [← askedKeys_ne_nil_iff, ← hasked]
    simp only [fill_eq_error_iff, exists_and_left, exists_eq, and_true]
  · rw [(fill_eq_error_iff.mp h).2.2.2, hasked]
  · rw [fill_plain_of_null spec hinput, if_pos (hasked.trans hnone)]
    rfl

/-- A key that is optional once and required once is filled in and not asked
for; `null` is a default as well as a value of its own. -/
theorem fill_ofMembers_repeated :
    let members : List Member := [⟨"b", "number", true⟩, ⟨"a", "string", false⟩,
      ⟨"c", "string", false⟩, ⟨"a", "boolean", true⟩, ⟨"b", "string", true⟩, ⟨"c", "string", true⟩]
    let defaults : Fields Json := [("a", .bool true), ("b", .null)]
    let supplied : Fields Json := [("d", .string ""), ("a", .null)]
    let spec := ofMembers members defaults
    supplied.Distinct ∧
      (∃ full : Fields Json, spec.fill .plain (some (.object supplied)) = .ok (.object full) ∧
        full.keys = ["b", "a", "d"] ∧ full.get? "a" = some .null ∧ full.get? "b" = some .null) ∧
      ∃ failure, spec.fill .plain none = .error failure ∧ failure = .missingInput ["c"] := by
  intro members defaults supplied spec
  have hd : supplied.Distinct := by simp [supplied, Fields.Distinct]
  obtain ⟨-, -, hobject, herror, hmissing, -⟩ := fill_ofMembers members defaults
  obtain ⟨full, hfull, hkeys, hget⟩ := hobject supplied hd
  have hsequence : full.keys = ["b", "a", "d"] := hkeys.trans (by decide)
  obtain ⟨failure, hfailure⟩ := (herror .plain none).mpr
    ⟨rfl, .inl rfl, ⟨"c", "string", false⟩, by decide, rfl, by decide⟩
  refine ⟨hd, ⟨full, hfull, hsequence, ?_, ?_⟩, failure, hfailure, ?_⟩
  · exact hget "a" (by rw [hsequence]; decide)
  · exact hget "b" (by rw [hsequence]; decide)
  · exact (hmissing .plain none failure hfailure).trans (by decide)

end SchemaLoom.InputDefaults
