import SchemaLoom.Proofs.Fields.Lookup

/-!
# Equal up to the order of keys

Two documents say the same if they differ in nothing but the order in which
their objects list the keys. The items of arrays stand in order, and numbers and
strings are what they are.

Objects are compared by what can be looked up in them, so no pairing of entries
has to be given. Two objects say the same if under every key they hold values
that do, or neither holds any.
-/

namespace SchemaLoom.Json

/-- Induction on a value from the items of an array and the entries of an
object, which the recursor of the nested type gives apart. -/
@[elab_as_elim]
theorem induction_nested {P : Json → Prop} (null : P .null) (bool : ∀ b, P (.bool b))
    (number : ∀ n, P (.number n)) (string : ∀ s, P (.string s))
    (array : ∀ items, (∀ item ∈ items, P item) → P (.array items))
    (object : ∀ fields : Fields Json, (∀ entry ∈ fields, P entry.2) → P (.object fields))
    (value : Json) : P value :=
  @Json.rec P (fun items => ∀ item ∈ items, P item) (fun fields => ∀ entry ∈ fields, P entry.2)
    (fun entry => P entry.2) null bool number string array object (List.forall_mem_nil _)
    (fun _ _ hitem hitems => List.forall_mem_cons.mpr ⟨hitem, hitems⟩) (List.forall_mem_nil _)
    (fun _ _ hentry hentries => List.forall_mem_cons.mpr ⟨hentry, hentries⟩) (fun _ _ h => h) value

/-- Two values that differ in nothing but the order of keys, at any depth. -/
inductive SameData : Json → Json → Prop where
  | null : SameData .null .null
  | bool (b : Bool) : SameData (.bool b) (.bool b)
  | number (n : Number) : SameData (.number n) (.number n)
  | string (s : String) : SameData (.string s) (.string s)
  | array {a b : List Json} (length : a.length = b.length)
      (each : ∀ (i : Nat) x y, a[i]? = some x → b[i]? = some y → SameData x y) :
      SameData (.array a) (.array b)
  | object {a b : Fields Json} (keys : a.keys.Perm b.keys)
      (each : ∀ key x y, a.get? key = some x → b.get? key = some y → SameData x y) :
      SameData (.object a) (.object b)

theorem SameData.refl (value : Json) : SameData value value := by
  induction value using induction_nested with
  | null => exact .null
  | bool b => exact .bool b
  | number n => exact .number n
  | string s => exact .string s
  | array items ih =>
      refine .array rfl fun i x y hx hy => ?_
      obtain rfl := Option.some.inj (hx.symm.trans hy)
      exact ih x (List.mem_of_getElem? hx)
  | object fields ih =>
      refine .object (List.Perm.refl _) fun key x y hx hy => ?_
      obtain rfl := Option.some.inj (hx.symm.trans hy)
      exact ih (key, x) (Fields.mem_of_get? hx)

/-- What two objects hold under a key says the same, or neither holds anything. -/
abbrev SameEntry (a b : Option Json) : Prop := Option.Rel SameData a b

theorem SameEntry.of_eq {a b : Option Json} (h : a = b) : SameEntry a b := by
  subst h
  cases a with
  | none => exact .none
  | some value => exact .some (.refl value)

theorem SameEntry.isSome_eq {a b : Option Json} (h : SameEntry a b) : a.isSome = b.isSome := by
  cases h with
  | none => rfl
  | some _ => rfl

/-- Objects that hold the same data under every key say the same. -/
theorem sameData_object {a b : Fields Json} (ha : a.Distinct) (hb : b.Distinct)
    (h : ∀ key, SameEntry (a.get? key) (b.get? key)) : SameData (.object a) (.object b) := by
  refine .object ((List.perm_ext_iff_of_nodup ha hb).mpr fun key => ?_) fun key x y hx hy => ?_
  · have hnone : a.get? key = none ↔ b.get? key = none := by
      rw [← Option.isNone_iff_eq_none, ← Option.isNone_iff_eq_none, ← Option.not_isSome,
        ← Option.not_isSome, (h key).isSome_eq]
    rw [Fields.get?_eq_none_iff, Fields.get?_eq_none_iff] at hnone
    exact not_iff_not.mp hnone
  · have hkey := h key
    rw [hx, hy] at hkey
    cases hkey with
    | some hxy => exact hxy

end SchemaLoom.Json
