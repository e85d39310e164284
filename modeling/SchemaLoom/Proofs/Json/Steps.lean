import Mathlib.Tactic.SplitIfs
import SchemaLoom.Json.Reader

/-!
# Steps of the reader

The reader carries proofs that the rest of the text gets shorter, which bring it
to an end. What it gives does not depend on them.

Here each of its three functions is told by one equation on what was read and
what is left, which is all that a proof about a text needs. Blanks, commas and
closing brackets have equations of their own, one for what comes first and one
for what comes later.
-/

namespace SchemaLoom.Json

theorem skipSpace_append_of_blank {blanks : List Char} (h : ∀ c ∈ blanks, isSpace c = true)
    (s : List Char) : skipSpace (blanks ++ s) = skipSpace s :=
  List.dropWhile_append_of_pos h

theorem skipSpace_cons {c : Char} (h : isSpace c = false) (s : List Char) :
    skipSpace (c :: s) = c :: s := by
  rw [skipSpace, List.dropWhile_cons_of_neg (by simp [h])]

/-- A text opens with a character that is no blank and closes no array, so that
an item can be read there. -/
def Opens (s : List Char) : Prop := ∃ c tail, s = c :: tail ∧ isSpace c = false ∧ c ≠ ']'

theorem Opens.append {s : List Char} (h : Opens s) (rest : List Char) : Opens (s ++ rest) := by
  obtain ⟨c, tail, rfl, hc⟩ := h
  exact ⟨c, tail ++ rest, rfl, hc⟩

theorem Opens.skipSpace {s : List Char} (h : Opens s) : Json.skipSpace s = s := by
  obtain ⟨c, tail, rfl, hc, -⟩ := h
  exact skipSpace_cons hc tail

theorem nextItem_close {s rest : List Char} (h : skipSpace s = ']' :: rest) (first : Bool) :
    nextItem first s = .ok (.close rest) := by
  simp [nextItem, h]

theorem nextItem_first {s item : List Char} (h : skipSpace s = item) (hitem : Opens item) :
    nextItem true s = .ok (.more () item) := by
  obtain ⟨c, tail, rfl, -, hc⟩ := hitem
  simp [nextItem, h, hc]

theorem nextItem_comma {s rest item : List Char} (h : skipSpace s = ',' :: rest)
    (hrest : skipSpace rest = item) (hitem : Opens item) :
    nextItem false s = .ok (.more () item) := by
  obtain ⟨c, tail, rfl, -, hc⟩ := hitem
  simp [nextItem, h, hrest, hc]

theorem nextKey_close {s rest : List Char} (h : skipSpace s = '\x7d' :: rest) (first : Bool) :
    nextKey first s = .ok (.close rest) := by
  simp [nextKey, openKey, h]

theorem nextKey_first {s body rest key : List Char} (h : skipSpace s = '\x22' :: body)
    (hkey : stringBody body = .ok (key, rest)) :
    nextKey true s = .ok (.more (String.ofList key) rest) := by
  simp [nextKey, openKey, h, hkey]

theorem nextKey_comma {s more body rest key : List Char} (h : skipSpace s = ',' :: more)
    (hmore : skipSpace more = '\x22' :: body) (hkey : stringBody body = .ok (key, rest)) :
    nextKey false s = .ok (.more (String.ofList key) rest) := by
  simp [nextKey, openKey, h, hmore, hkey]

theorem run_word {letters : String} {v : Json} {s rest : List Char}
    (hr : rest.length < s.length) :
    (value.word letters v s rest hr).map (fun p => (p.value, p.rest)) =
      (literal letters.toList rest).map fun after => (v, after) := by
  unfold value.word
  split
  · next h => simp only [h, Except.map]
  · next h => simp only [h, Except.map]

/-- A value is read by the first character that is no blank. -/
theorem run_value {depth : Nat} {s rest : List Char} {c : Char} (h : skipSpace s = c :: rest) :
    (value depth).run s =
      if c = 'n' then (literal "ull".toList rest).map fun after => (.null, after)
      else if c = 't' then (literal "rue".toList rest).map fun after => (.bool true, after)
      else if c = 'f' then (literal "alse".toList rest).map fun after => (.bool false, after)
      else if c = '-' || c.isDigit then
        match numberText .endInValue (c :: rest) with
        | .error fault => .error fault
        | .ok (text, after) => (text.value after).map fun n => (.number n, after)
      else if c = '\x22' then (stringBody rest).map fun p => (.string (String.ofList p.1), p.2)
      else if c = '[' then
        match depth with
        | 0 => .error (.ahead .tooDeep (c :: rest))
        | depth + 1 => (Reader.run (items (value depth) 0) rest).map fun p => (.array p.1, p.2)
      else if c = '\x7b' then
        match depth with
        | 0 => .error (.ahead .tooDeep (c :: rest))
        | depth + 1 =>
          (Reader.run (entries (value depth) true) rest).map fun p =>
            (.object (Fields.setAll [] p.1), p.2)
      else .error (.ahead .expectedValue (c :: rest)) := by
  unfold Reader.run
  rw [value.eq_def]
  dsimp only
  split
  · next hnil => rw [hnil] at h; cases h
  · next d more hc =>
    obtain ⟨rfl, rfl⟩ := List.cons.inj (hc.symm.trans h)
    split_ifs
    · exact run_word _
    · exact run_word _
    · exact run_word _
    · split
      · next hn => simp only [hn, Except.map]
      · next text after hn =>
        simp only [hn]
        cases text.value after <;> rfl
    · split
      · next hb => simp only [hb, Except.map]
      · next hb => simp only [hb, Except.map]
    · cases depth with
      | zero => rfl
      | succ depth =>
          dsimp only
          cases items (value depth) 0 more <;> rfl
    · cases depth with
      | zero => rfl
      | succ depth =>
          dsimp only
          cases entries (value depth) true more <;> rfl
    · rfl

variable {α : Type} {item : Reader α}

/-- The items of an array are read by what comes next: its end, or an item
behind a comma if it is not the first. -/
theorem run_items (index : Nat) (s : List Char) :
    Reader.run (items item index) s =
      match nextItem (index = 0) s with
      | .error fault => .error fault
      | .ok (.close rest) => .ok ([], rest)
      | .ok (.more _ rest) =>
        match item.run rest with
        | .error fault => .error (fault.under (.index index))
        | .ok (x, after) =>
          (Reader.run (items item (index + 1)) after).map fun p => (x :: p.1, p.2) := by
  unfold Reader.run
  rw [items.eq_def]
  split
  · next h => simp only [h, Except.map]
  · next h => simp only [h, Except.map]
  · next rest h =>
    simp only [h]
    cases item rest with
    | error fault => rfl
    | ok p =>
        simp only [Except.map]
        cases items item (index + 1) p.rest <;> rfl

/-- The entries of an object are read by what comes next: its end, or a key and
its value. -/
theorem run_entries (first : Bool) (s : List Char) :
    Reader.run (entries item first) s =
      match nextKey first s with
      | .error fault => .error fault
      | .ok (.close rest) => .ok ([], rest)
      | .ok (.more key rest) =>
        match colon rest with
        | .error fault => .error fault
        | .ok rest' =>
          match item.run rest' with
          | .error fault => .error (fault.under (.key key))
          | .ok (x, after) =>
            (Reader.run (entries item false) after).map fun p => ((key, x) :: p.1, p.2) := by
  unfold Reader.run
  rw [entries.eq_def]
  split
  · next h => simp only [h, Except.map]
  · next h => simp only [h, Except.map]
  · next key rest h =>
    simp only [h]
    split
    · next hc => simp only [hc, Except.map]
    · next rest' hc =>
      simp only [hc]
      cases item rest' with
      | error fault => rfl
      | ok p =>
          simp only [Except.map]
          cases entries item false p.rest <;> rfl

end SchemaLoom.Json
