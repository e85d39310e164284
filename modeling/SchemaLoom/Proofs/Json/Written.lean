import SchemaLoom.Proofs.Json.Numerals
import SchemaLoom.Proofs.Json.Quoted
import SchemaLoom.Proofs.Json.SameData
import SchemaLoom.Proofs.Json.Steps
import SchemaLoom.Proofs.Json.UniqueKeys

/-!
# Reading written values

The writer sets blanks between the parts of a value, or none at all, and the
reader skips them. So what is written is read back, whatever stands behind it,
as long as the value is one that a document can hold: no key is repeated, no
number is rounded, and it is not nested deeper than the reader goes.

The text of a value is told once for any `Spacing`, of which the compact form is
one. `ReadsBack` is shown for each kind of value from the values inside it, so
the induction on the value only puts these cases together.
-/

namespace SchemaLoom.Json

/-- All numbers in the value are integers of at most 64 bits, so that none of
them is rounded. -/
inductive WholeNumbers : Json → Prop where
  | null : WholeNumbers .null
  | bool (b : Bool) : WholeNumbers (.bool b)
  | number {n : Int} (range : InRange n) : WholeNumbers (.number (.integer n))
  | string (s : String) : WholeNumbers (.string s)
  | array {items : List Json} (each : ∀ item ∈ items, WholeNumbers item) :
      WholeNumbers (.array items)
  | object {fields : Fields Json} (each : ∀ entry ∈ fields, WholeNumbers entry.2) :
      WholeNumbers (.object fields)

@[simp] theorem wholeNumbers_null : WholeNumbers .null := .null

@[simp] theorem wholeNumbers_bool (b : Bool) : WholeNumbers (.bool b) := .bool b

@[simp] theorem wholeNumbers_string (s : String) : WholeNumbers (.string s) := .string s

@[simp] theorem wholeNumbers_integer {n : Int} :
    WholeNumbers (.number (.integer n)) ↔ InRange n :=
  ⟨fun h => by cases h; assumption, .number⟩

@[simp] theorem wholeNumbers_array {items : List Json} :
    WholeNumbers (.array items) ↔ ∀ item ∈ items, WholeNumbers item :=
  ⟨fun h => by cases h; assumption, .array⟩

@[simp] theorem wholeNumbers_object {fields : Fields Json} :
    WholeNumbers (.object fields) ↔ ∀ entry ∈ fields, WholeNumbers entry.2 :=
  ⟨fun h => by cases h; assumption, .object⟩

mutual

/-- Whether all numbers are whole can be told by looking at each, item by item
and entry by entry. -/
def decideWholeNumbers : (value : Json) → Decidable value.WholeNumbers
  | .null => .isTrue .null
  | .bool b => .isTrue (.bool b)
  | .number (.integer n) => decidable_of_iff (-2 ^ 63 ≤ n ∧ n < 2 ^ 64) wholeNumbers_integer.symm
  | .number (.binary _) => .isFalse nofun
  | .string s => .isTrue (.string s)
  | .array items => @decidable_of_iff _ _ wholeNumbers_array.symm (decideWholeItems items)
  | .object fields => @decidable_of_iff _ _ wholeNumbers_object.symm (decideWholeFields fields)

def decideWholeItems : (items : List Json) → Decidable (∀ item ∈ items, WholeNumbers item)
  | [] => .isTrue (List.forall_mem_nil _)
  | item :: items =>
    @decidable_of_iff _ _ List.forall_mem_cons.symm
      (@instDecidableAnd _ _ (decideWholeNumbers item) (decideWholeItems items))

def decideWholeFields : (fields : List (String × Json)) →
    Decidable (∀ entry ∈ fields, WholeNumbers entry.2)
  | [] => .isTrue (List.forall_mem_nil _)
  | (_, value) :: fields =>
    @decidable_of_iff _ _ List.forall_mem_cons.symm
      (@instDecidableAnd _ _ (decideWholeNumbers value) (decideWholeFields fields))

end

instance : DecidablePred WholeNumbers := decideWholeNumbers

mutual

/-- How deep arrays and objects are nested in the value. An array or an object
is a level of its own, also without anything in it. -/
def nesting : Json → Nat
  | .array items => nestingItems items + 1
  | .object fields => nestingFields fields + 1
  | _ => 0

def nestingItems : List Json → Nat
  | [] => 0
  | item :: items => max (nesting item) (nestingItems items)

def nestingFields : List (String × Json) → Nat
  | [] => 0
  | (_, value) :: fields => max (nesting value) (nestingFields fields)

end

theorem nestingItems_le_iff {items : List Json} {depth : Nat} :
    nestingItems items ≤ depth ↔ ∀ item ∈ items, item.nesting ≤ depth := by
  induction items with
  | nil => simp [nestingItems]
  | cons item rest ih => rw [nestingItems, Nat.max_le, ih, List.forall_mem_cons]

theorem nestingFields_le_iff {fields : Fields Json} {depth : Nat} :
    nestingFields fields ≤ depth ↔ ∀ entry ∈ fields, entry.2.nesting ≤ depth := by
  induction fields with
  | nil => simp [nestingFields]
  | cons entry rest ih =>
      obtain ⟨key, value⟩ := entry
      rw [nestingFields, Nat.max_le, ih, List.forall_mem_cons]

/-- The blanks that a writer sets: those in front of an item, an entry or a
closing bracket, by level, and those between a colon and a value. Nothing but
blanks stands in either place. -/
structure Spacing where
  gap : Nat → List Char
  pad : List Char
  isSpace_gap : ∀ level, ∀ c ∈ gap level, isSpace c = true
  isSpace_pad : ∀ c ∈ pad, isSpace c = true

def Spacing.compact : Spacing where
  gap _ := []
  pad := []
  isSpace_gap _ := by simp
  isSpace_pad := by simp

namespace Spacing

@[simp] theorem compact_gap (level : Nat) : compact.gap level = [] := rfl

@[simp] theorem compact_pad : compact.pad = [] := rfl

mutual

/-- The text of a value that stands at a level, with the blanks of a spacing. -/
def chars (spacing : Spacing) (level : Nat) : Json → List Char
  | .null => "null".toList
  | .bool true => "true".toList
  | .bool false => "false".toList
  | .number n => numberChars n
  | .string s => stringChars s
  | .array [] => "[]".toList
  | .array (item :: items) =>
    '[' :: spacing.gap (level + 1) ++ spacing.chars (level + 1) item ++
      spacing.itemsChars level items
  | .object [] => ['\x7b', '\x7d']
  | .object ((key, value) :: fields) =>
    '\x7b' :: spacing.gap (level + 1) ++ stringChars key ++ ':' :: spacing.pad ++
      spacing.chars (level + 1) value ++ spacing.fieldsChars level fields

/-- The text of the items after the first, with the closing bracket. -/
def itemsChars (spacing : Spacing) (level : Nat) : List Json → List Char
  | [] => spacing.gap level ++ [']']
  | item :: items =>
    ',' :: spacing.gap (level + 1) ++ spacing.chars (level + 1) item ++
      spacing.itemsChars level items

/-- The text of the entries after the first, with the closing brace. -/
def fieldsChars (spacing : Spacing) (level : Nat) : List (String × Json) → List Char
  | [] => spacing.gap level ++ ['\x7d']
  | (key, value) :: fields =>
    ',' :: spacing.gap (level + 1) ++ stringChars key ++ ':' :: spacing.pad ++
      spacing.chars (level + 1) value ++ spacing.fieldsChars level fields

end

end Spacing

theorem compactItems_eq {items : List Json} (level : Nat)
    (h : ∀ item ∈ items, ∀ level, compactChars item = Spacing.compact.chars level item) :
    compactItems items = Spacing.compact.itemsChars level items := by
  induction items with
  | nil => rfl
  | cons item rest ih =>
      obtain ⟨hitem, hrest⟩ := List.forall_mem_cons.mp h
      rw [compactItems, Spacing.itemsChars, ih hrest, hitem (level + 1)]
      rfl

theorem compactFields_eq {fields : Fields Json} (level : Nat)
    (h : ∀ entry ∈ fields, ∀ level, compactChars entry.2 = Spacing.compact.chars level entry.2) :
    compactFields fields = Spacing.compact.fieldsChars level fields := by
  induction fields with
  | nil => rfl
  | cons entry rest ih =>
      obtain ⟨key, value⟩ := entry
      obtain ⟨hentry, hrest⟩ := List.forall_mem_cons.mp h
      rw [compactFields, Spacing.fieldsChars, ih hrest, hentry (level + 1)]
      simp

/-- The compact form is the text without blanks. -/
theorem compactChars_eq (value : Json) (level : Nat) :
    compactChars value = Spacing.compact.chars level value := by
  induction value using induction_nested generalizing level with
  | null => rfl
  | bool b => cases b <;> rfl
  | number n => rfl
  | string s => rfl
  | array items ih =>
      cases items with
      | nil => rfl
      | cons item rest =>
          obtain ⟨hitem, hrest⟩ := List.forall_mem_cons.mp ih
          rw [compactChars, Spacing.chars, hitem (level + 1), compactItems_eq level hrest]
          rfl
  | object fields ih =>
      cases fields with
      | nil => rfl
      | cons entry rest =>
          obtain ⟨key, value⟩ := entry
          obtain ⟨hentry, hrest⟩ := List.forall_mem_cons.mp ih
          rw [compactChars, Spacing.chars, hentry (level + 1), compactFields_eq level hrest]
          simp

theorem not_goesOn_of_isSpace {c : Char} (h : isSpace c = true) :
    c.isDigit = false ∧ c ≠ '.' ∧ c ≠ 'e' ∧ c ≠ 'E' := by
  simp only [isSpace, Bool.or_eq_true, decide_eq_true_iff] at h
  rcases h with ((rfl | rfl) | rfl) | rfl <;> decide

theorem exists_numberChars_eq_cons (n : Int) :
    ∃ c tail, numberChars (.integer n) = c :: tail ∧ (decide (c = '-') || c.isDigit) = true := by
  by_cases hn : n < 0
  · exact ⟨'-', Nat.toDigits 10 n.natAbs, by rw [numberChars, if_pos hn]; rfl, by decide⟩
  · obtain ⟨c, ds, hds⟩ :=
      List.exists_cons_of_ne_nil (Nat.toDigits_ne_nil (n := n.natAbs) (b := 10))
    have hc : c.isDigit = true := isDigit_toDigits (hds ▸ List.mem_cons_self)
    exact ⟨c, ds, by rw [numberChars, if_neg hn, hds]; rfl, by rw [hc, Bool.or_true]⟩

theorem opens_numberChars (n : Int) : Opens (numberChars (.integer n)) := by
  obtain ⟨c, tail, htext, hc⟩ := exists_numberChars_eq_cons n
  refine ⟨c, tail, htext, Bool.eq_false_iff.mpr fun hspace => ?_, ?_⟩
  · simp only [isSpace, Bool.or_eq_true, decide_eq_true_iff] at hspace
    rcases hspace with ((rfl | rfl) | rfl) | rfl <;> cases hc
  · rintro rfl
    cases hc

namespace Spacing

theorem opens_chars (spacing : Spacing) (level : Nat) {value : Json} (h : value.WholeNumbers) :
    Opens (spacing.chars level value) := by
  cases h with
  | null => exact ⟨'n', _, rfl, by decide, by decide⟩
  | bool b =>
      cases b with
      | true => exact ⟨'t', _, rfl, by decide, by decide⟩
      | false => exact ⟨'f', _, rfl, by decide, by decide⟩
  | number range => exact opens_numberChars _
  | string s => exact ⟨'\x22', _, rfl, by decide, by decide⟩
  | @array items _ =>
      cases items with
      | nil => exact ⟨'[', _, rfl, by decide, by decide⟩
      | cons item rest => exact ⟨'[', _, rfl, by decide, by decide⟩
  | @object fields _ =>
      cases fields with
      | nil => exact ⟨'\x7b', _, rfl, by decide, by decide⟩
      | cons entry rest => exact ⟨'\x7b', _, rfl, by decide, by decide⟩

/-- Behind an item or an entry stands nothing that could go on with a number. -/
theorem endsNumber_gap (spacing : Spacing) (level : Nat) {c : Char}
    (h : c.isDigit = false ∧ c ≠ '.' ∧ c ≠ 'e' ∧ c ≠ 'E') (rest : List Char) :
    EndsNumber (spacing.gap level ++ c :: rest) := by
  cases hgap : spacing.gap level with
  | nil => exact endsNumber_cons h rest
  | cons d more =>
      have hd : isSpace d = true := spacing.isSpace_gap level d (hgap ▸ List.mem_cons_self)
      exact endsNumber_cons (not_goesOn_of_isSpace hd) _

theorem endsNumber_itemsChars (spacing : Spacing) (level : Nat) (items : List Json)
    (rest : List Char) : EndsNumber (spacing.itemsChars level items ++ rest) := by
  cases items with
  | nil =>
      rw [itemsChars, List.append_assoc]
      exact spacing.endsNumber_gap level (by decide) rest
  | cons item items => exact endsNumber_cons (by decide) _

theorem endsNumber_fieldsChars (spacing : Spacing) (level : Nat) (fields : Fields Json)
    (rest : List Char) : EndsNumber (spacing.fieldsChars level fields ++ rest) := by
  cases fields with
  | nil =>
      rw [fieldsChars, List.append_assoc]
      exact spacing.endsNumber_gap level (by decide) rest
  | cons entry fields =>
      obtain ⟨key, value⟩ := entry
      exact endsNumber_cons (by decide) _

/-- The text of a value is read as the value, whatever stands behind it and with
any depth that is enough. -/
def ReadsBack (spacing : Spacing) (depth : Nat) (v : Json) : Prop :=
  ∀ level s rest, EndsNumber rest → skipSpace s = spacing.chars level v ++ rest →
    Reader.run (value depth) s = .ok (v, rest)

variable {spacing : Spacing} {depth : Nat}

theorem skipSpace_gap (level : Nat) (s : List Char) :
    skipSpace (spacing.gap level ++ s) = skipSpace s :=
  skipSpace_append_of_blank (spacing.isSpace_gap level) s

theorem skipSpace_gap_stringChars (level : Nat) (key : String) (s : List Char) :
    skipSpace (spacing.gap level ++ (stringChars key ++ s)) =
      '\x22' :: (key.toList.flatMap stringChar ++ '\x22' :: s) := by
  rw [skipSpace_gap, stringChars_append]
  exact skipSpace_cons (by decide) _

/-- An item is read in front of the others, if it is read by itself. -/
theorem run_items_cons {item : Json} {items : List Json} {index level : Nat} {s rest : List Char}
    (hitem : ReadsBack spacing depth item) (hopens : Opens (spacing.chars (level + 1) item))
    (hnext : nextItem (index = 0) s =
      .ok (.more () (spacing.chars (level + 1) item ++ (spacing.itemsChars level items ++ rest))))
    (hitems : Reader.run (Json.items (value depth) (index + 1))
      (spacing.itemsChars level items ++ rest) = .ok (items, rest)) :
    Reader.run (Json.items (value depth) index) s = .ok (item :: items, rest) := by
  have hread := hitem (level + 1) _ _ (spacing.endsNumber_itemsChars level items rest)
    (hopens.append _).skipSpace
  rw [run_items, hnext]
  simp only [hread, hitems, Except.map]

theorem run_itemsChars {items : List Json} (hread : ∀ item ∈ items, ReadsBack spacing depth item)
    (hwhole : ∀ item ∈ items, item.WholeNumbers) (level index : Nat) (rest : List Char) :
    Reader.run (Json.items (value depth) (index + 1)) (spacing.itemsChars level items ++ rest) =
      .ok (items, rest) := by
  induction items generalizing index with
  | nil =>
      have hclose : skipSpace (spacing.itemsChars level [] ++ rest) = ']' :: rest := by
        rw [itemsChars, List.append_assoc, skipSpace_gap]
        exact skipSpace_cons (by decide) rest
      rw [run_items, nextItem_close hclose]
  | cons item items ih =>
      obtain ⟨hitem, hitems⟩ := List.forall_mem_cons.mp hread
      obtain ⟨hw, hws⟩ := List.forall_mem_cons.mp hwhole
      have hopens := spacing.opens_chars (level + 1) hw
      refine run_items_cons hitem hopens ?_ (ih hitems hws (index + 1))
      have htext : spacing.itemsChars level (item :: items) ++ rest =
          ',' :: (spacing.gap (level + 1) ++
            (spacing.chars (level + 1) item ++ (spacing.itemsChars level items ++ rest))) := by
        simp [itemsChars]
      rw [htext]
      exact nextItem_comma (skipSpace_cons (by decide) _)
        ((skipSpace_gap _ _).trans (hopens.append _).skipSpace) (hopens.append _)

/-- An entry is read in front of the others, if its value is read by itself. -/
theorem run_entries_cons {key : String} {v : Json} {fields : Fields Json} {first : Bool}
    {level : Nat} {s rest : List Char} (hv : ReadsBack spacing depth v)
    (hopens : Opens (spacing.chars (level + 1) v))
    (hnext : nextKey first s = .ok (.more key (':' :: (spacing.pad ++
      (spacing.chars (level + 1) v ++ (spacing.fieldsChars level fields ++ rest))))))
    (hfields : Reader.run (Json.entries (value depth) false)
      (spacing.fieldsChars level fields ++ rest) = .ok (fields, rest)) :
    Reader.run (Json.entries (value depth) first) s = .ok ((key, v) :: fields, rest) := by
  have hpad : skipSpace (spacing.pad ++
      (spacing.chars (level + 1) v ++ (spacing.fieldsChars level fields ++ rest))) =
      spacing.chars (level + 1) v ++ (spacing.fieldsChars level fields ++ rest) :=
    (skipSpace_append_of_blank spacing.isSpace_pad _).trans (hopens.append _).skipSpace
  have hread := hv (level + 1) _ _ (spacing.endsNumber_fieldsChars level fields rest) hpad
  have hcolon : ∀ t, colon (':' :: t) = .ok t := fun t => by
    rw [colon, skipSpace_cons (by decide)]
    rfl
  rw [run_entries, hnext]
  simp only [hcolon, hread, hfields, Except.map]

theorem run_fieldsChars {fields : Fields Json}
    (hread : ∀ entry ∈ fields, ReadsBack spacing depth entry.2)
    (hwhole : ∀ entry ∈ fields, entry.2.WholeNumbers) (level : Nat) (rest : List Char) :
    Reader.run (Json.entries (value depth) false) (spacing.fieldsChars level fields ++ rest) =
      .ok (fields, rest) := by
  induction fields with
  | nil =>
      have hclose : skipSpace (spacing.fieldsChars level [] ++ rest) = '\x7d' :: rest := by
        rw [fieldsChars, List.append_assoc, skipSpace_gap]
        exact skipSpace_cons (by decide) rest
      rw [run_entries, nextKey_close hclose]
  | cons entry fields ih =>
      obtain ⟨key, v⟩ := entry
      obtain ⟨hv, hfields⟩ := List.forall_mem_cons.mp hread
      obtain ⟨hw, hws⟩ := List.forall_mem_cons.mp hwhole
      refine run_entries_cons hv (spacing.opens_chars (level + 1) hw) ?_ (ih hfields hws)
      have htext : spacing.fieldsChars level ((key, v) :: fields) ++ rest =
          ',' :: (spacing.gap (level + 1) ++ (stringChars key ++ ':' :: (spacing.pad ++
            (spacing.chars (level + 1) v ++ (spacing.fieldsChars level fields ++ rest))))) := by
        simp [fieldsChars]
      rw [htext, nextKey_comma (skipSpace_cons (by decide) _) (skipSpace_gap_stringChars _ key _)
        (stringBody_written key _), String.ofList_toList]

theorem readsBack_number {n : Int} (range : InRange n) :
    ReadsBack spacing depth (.number (.integer n)) := by
  intro level s rest hrest hs
  obtain ⟨c, tail, htext, hc⟩ := exists_numberChars_eq_cons n
  have hne : ∀ d, (decide (d = '-') || d.isDigit) = false → c ≠ d := by
    rintro d hd rfl
    rw [hc] at hd
    cases hd
  have hopen : skipSpace s = c :: (tail ++ rest) := by rw [hs, chars, htext, List.cons_append]
  have hread := numberText_numberChars n hrest .endInValue
  rw [htext, List.cons_append] at hread
  rw [run_value hopen, if_neg (hne 'n' (by decide)), if_neg (hne 't' (by decide)),
    if_neg (hne 'f' (by decide)), if_pos hc, hread]
  simp only [value_numberText_integer range, Except.map]

theorem readsBack_string (t : String) : ReadsBack spacing depth (.string t) := by
  intro level s rest hrest hs
  rw [chars, stringChars_append] at hs
  rw [run_value hs]
  simp [stringBody_written, Except.map]

theorem readsBack_array {items : List Json} (hread : ∀ item ∈ items, ReadsBack spacing depth item)
    (hwhole : ∀ item ∈ items, item.WholeNumbers) :
    ReadsBack spacing (depth + 1) (.array items) := by
  intro level s rest hrest hs
  have hbracket : ∀ t, skipSpace s = '[' :: t →
      Reader.run (Json.items (value depth) 0) t = .ok (items, rest) →
      Reader.run (value (depth + 1)) s = .ok (.array items, rest) := by
    intro t ht hitems
    rw [run_value ht]
    simp [hitems, Except.map]
  cases items with
  | nil =>
      refine hbracket _ hs ?_
      rw [run_items]
      rfl
  | cons item items =>
      obtain ⟨hitem, hitems⟩ := List.forall_mem_cons.mp hread
      obtain ⟨hw, hws⟩ := List.forall_mem_cons.mp hwhole
      have hopens := spacing.opens_chars (level + 1) hw
      have htext : spacing.chars level (.array (item :: items)) ++ rest =
          '[' :: (spacing.gap (level + 1) ++
            (spacing.chars (level + 1) item ++ (spacing.itemsChars level items ++ rest))) := by
        simp [chars]
      refine hbracket _ (hs.trans htext) (run_items_cons hitem hopens ?_
        (run_itemsChars hitems hws level 0 rest))
      exact nextItem_first ((skipSpace_gap _ _).trans (hopens.append _).skipSpace) (hopens.append _)

theorem readsBack_object {fields : Fields Json} (hd : fields.Distinct)
    (hread : ∀ entry ∈ fields, ReadsBack spacing depth entry.2)
    (hwhole : ∀ entry ∈ fields, entry.2.WholeNumbers) :
    ReadsBack spacing (depth + 1) (.object fields) := by
  intro level s rest hrest hs
  have hbrace : ∀ t, skipSpace s = '\x7b' :: t →
      Reader.run (Json.entries (value depth) true) t = .ok (fields, rest) →
      Reader.run (value (depth + 1)) s = .ok (.object fields, rest) := by
    intro t ht hfields
    rw [run_value ht]
    simp [hfields, Except.map, Fields.setAll_empty hd]
  cases fields with
  | nil =>
      refine hbrace _ hs ?_
      rw [run_entries]
      rfl
  | cons entry fields =>
      obtain ⟨key, v⟩ := entry
      obtain ⟨hv, hfields⟩ := List.forall_mem_cons.mp hread
      obtain ⟨hw, hws⟩ := List.forall_mem_cons.mp hwhole
      have htext : spacing.chars level (.object ((key, v) :: fields)) ++ rest =
          '\x7b' :: (spacing.gap (level + 1) ++ (stringChars key ++ ':' :: (spacing.pad ++
            (spacing.chars (level + 1) v ++ (spacing.fieldsChars level fields ++ rest))))) := by
        simp [chars]
      refine hbrace _ (hs.trans htext) (run_entries_cons hv (spacing.opens_chars (level + 1) hw) ?_
        (run_fieldsChars hfields hws level rest))
      rw [nextKey_first (skipSpace_gap_stringChars _ key _) (stringBody_written key _),
        String.ofList_toList]

/-- A value that is written without loss is read back if the reader goes deep
enough. -/
theorem readsBack (spacing : Spacing) {v : Json} (hu : v.UniqueKeys) (hw : v.WholeNumbers)
    (hd : v.nesting ≤ depth) : ReadsBack spacing depth v := by
  induction v using induction_nested generalizing depth with
  | null => exact fun level s rest _ hs => (run_value hs).trans rfl
  | bool b =>
      cases b with
      | true => exact fun level s rest _ hs => (run_value hs).trans rfl
      | false => exact fun level s rest _ hs => (run_value hs).trans rfl
  | number n =>
      cases hw with
      | number range => exact readsBack_number range
  | string s => exact readsBack_string s
  | array items ih =>
      cases hw with
      | array hwhole =>
          cases depth with
          | zero => exact absurd hd (Nat.not_succ_le_zero _)
          | succ depth =>
              refine readsBack_array (fun item hitem => ?_) hwhole
              refine ih item hitem (uniqueKeys_array.mp hu item hitem) (hwhole item hitem) ?_
              exact nestingItems_le_iff.mp (Nat.le_of_succ_le_succ hd) item hitem
  | object fields ih =>
      obtain ⟨hdistinct, hunique⟩ := uniqueKeys_object.mp hu
      cases hw with
      | object hwhole =>
          cases depth with
          | zero => exact absurd hd (Nat.not_succ_le_zero _)
          | succ depth =>
              refine readsBack_object hdistinct (fun entry hentry => ?_) hwhole
              refine ih entry hentry (hunique entry hentry) (hwhole entry hentry) ?_
              exact nestingFields_le_iff.mp (Nat.le_of_succ_le_succ hd) entry hentry

end Spacing

/-- The compact form of a value is read back whole. -/
theorem run_compactChars {v : Json} (hu : v.UniqueKeys) (hw : v.WholeNumbers) {depth : Nat}
    (hd : v.nesting ≤ depth) : Reader.run (value depth) (compactChars v) = .ok (v, []) := by
  have hopens := Spacing.compact.opens_chars 0 hw
  refine Spacing.readsBack .compact hu hw hd 0 _ [] endsNumber_nil ?_
  rw [compactChars_eq v 0, hopens.skipSpace, List.append_nil]

theorem newline_not_mem_numberChars (n : Int) : '\n' ∉ numberChars (.integer n) := by
  rw [numberChars, List.mem_append, not_or]
  refine ⟨?_, fun h => ?_⟩
  · split_ifs <;> decide
  · have hdigit : Char.isDigit '\n' = true := isDigit_toDigits h
    cases hdigit

theorem newline_not_mem_compactItems {items : List Json}
    (h : ∀ item ∈ items, '\n' ∉ compactChars item) : '\n' ∉ compactItems items := by
  induction items with
  | nil => decide
  | cons item rest ih =>
      obtain ⟨hitem, hrest⟩ := List.forall_mem_cons.mp h
      simp [compactItems, hitem, ih hrest]

theorem newline_not_mem_compactFields {fields : Fields Json}
    (h : ∀ entry ∈ fields, '\n' ∉ compactChars entry.2) : '\n' ∉ compactFields fields := by
  induction fields with
  | nil => decide
  | cons entry rest ih =>
      obtain ⟨key, v⟩ := entry
      obtain ⟨hv, hrest⟩ := List.forall_mem_cons.mp h
      simp [compactFields, hv, ih hrest, newline_not_mem_stringChars]

/-- The compact form of a value stands on one line. -/
theorem newline_not_mem_compactChars {v : Json} (hw : v.WholeNumbers) : '\n' ∉ compactChars v := by
  induction v using induction_nested with
  | null => decide
  | bool b => cases b <;> decide
  | number n =>
      cases hw with
      | @number n range => exact newline_not_mem_numberChars n
  | string s => exact newline_not_mem_stringChars s
  | array items ih =>
      cases hw with
      | array hwhole =>
          have hitems : ∀ item ∈ items, '\n' ∉ compactChars item :=
            fun item hitem => ih item hitem (hwhole item hitem)
          cases items with
          | nil => decide
          | cons item rest =>
              obtain ⟨hitem, hrest⟩ := List.forall_mem_cons.mp hitems
              simp [compactChars, hitem, newline_not_mem_compactItems hrest]
  | object fields ih =>
      cases hw with
      | object hwhole =>
          have hfields : ∀ entry ∈ fields, '\n' ∉ compactChars entry.2 :=
            fun entry hentry => ih entry hentry (hwhole entry hentry)
          cases fields with
          | nil => decide
          | cons entry rest =>
              obtain ⟨key, v⟩ := entry
              obtain ⟨hv, hrest⟩ := List.forall_mem_cons.mp hfields
              simp [compactChars, hv, newline_not_mem_compactFields hrest,
                newline_not_mem_stringChars]

end SchemaLoom.Json
