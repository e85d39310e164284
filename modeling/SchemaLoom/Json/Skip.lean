import SchemaLoom.Json.Reader

/-!
# Skipping a value that nobody asks for

A skipped value is checked more loosely than one that is read: it may be nested
without limit, its numbers may be of any size, and the halves of surrogate pairs
need not match. The brackets that are open are kept as a list, innermost first.

Skipping gives what is left behind the value or the first fault, and no part of
the value is kept.
-/

namespace SchemaLoom.Json

inductive Bracket where
  | list
  | braces
  deriving DecidableEq, Repr

def Bracket.closing : Bracket → Char
  | .list => ']'
  | .braces => '\x7d'

def Bracket.atEnd : Bracket → Reason
  | .list => .endInList
  | .braces => .endInObject

def Bracket.noComma : Bracket → Reason
  | .list => .expectedListComma
  | .braces => .expectedObjectComma

/-- The rest after a string whose opening quote was read. A control character is
at fault itself and does not count as read. -/
def skipString (s : List Char) : Except Fault (List Char) :=
  match s with
  | [] => .error (.here .endInString [])
  | c :: rest =>
    if c = '\x22' then .ok rest
    else if c = '\\' then
      match rest with
      | [] => .error (.here .endInString [])
      | d :: more =>
        if d = 'u' then
          match hx : hexEscape more with
          | .error fault => .error fault
          | .ok (_, after) =>
            have := length_hexEscape_lt hx
            skipString after
        else if (simpleEscape? d).isSome then skipString more
        else .error (.ahead .invalidEscape (d :: more))
    else if c.toNat < 0x20 then .error (.here .controlInString (c :: rest))
    else skipString rest
termination_by s.length

theorem length_skipString_lt {s rest : List Char} (h : skipString s = .ok rest) :
    rest.length < s.length := by
  fun_induction skipString s with
  | case1 => simp at h
  | case2 => simp_all
  | case3 => simp at h
  | case4 => simp at h
  | case5 more d after hx hlt hq ih =>
    have := ih h
    simp only [List.length_cons]
    omega
  | case6 d more hu he hq ih =>
    have := ih h
    simp only [List.length_cons]
    omega
  | case7 => simp at h
  | case8 => simp at h
  | case9 c more hq hb hc ih => exact Nat.lt_succ_of_lt (ih h)

def Bracket.enter (bracket : Bracket) (s : List Char) : Except Fault (List Char) :=
  match bracket with
  | .list => .ok s
  | .braces =>
    match skipSpace s with
    | [] => .error (.ahead .endInObject [])
    | c :: rest =>
      if c = '\x22' then
        match skipString rest with
        | .error fault => .error fault
        | .ok rest' => colon rest'
      else .error (.ahead .keyNotString (c :: rest))

theorem length_enter_le {bracket : Bracket} {s rest : List Char}
    (h : bracket.enter s = .ok rest) : rest.length ≤ s.length := by
  have hs := length_skipSpace_le s
  cases bracket with
  | list =>
    simp only [Bracket.enter, Except.ok.injEq] at h
    exact h ▸ Nat.le_refl _
  | braces =>
    simp only [Bracket.enter] at h
    split at h
    · simp at h
    · next c more hc =>
      rw [hc, List.length_cons] at hs
      split at h
      · split at h
        · simp at h
        · next hk =>
          have := length_skipString_lt hk
          have := length_colon_lt h
          omega
      · simp at h

/-- The rest after a value that is no array and no object; nothing for one that is. -/
def skipScalar (c : Char) (rest : List Char) : Except Fault (Option (List Char)) :=
  if c = 'n' then (literal "ull".toList rest).map some
  else if c = 't' then (literal "rue".toList rest).map some
  else if c = 'f' then (literal "alse".toList rest).map some
  else if c = '-' || c.isDigit then
    (numberText .invalidNumber (c :: rest)).map fun p => some p.2
  else if c = '\x22' then (skipString rest).map some
  else if c = '[' || c = '\x7b' then .ok none
  else .error (.ahead .expectedValue (c :: rest))

theorem length_skipScalar_le {c : Char} {rest after : List Char}
    (h : skipScalar c rest = .ok (some after)) : after.length ≤ rest.length := by
  have map_some {r : Except Fault (List Char)} (h : r.map some = .ok (some after)) :
      r = .ok after := by
    cases r with
    | error fault => simp [Except.map] at h
    | ok a => simp_all [Except.map]
  unfold skipScalar at h
  split at h
  · exact length_literal_le (map_some h)
  · split at h
    · exact length_literal_le (map_some h)
    · split at h
      · exact length_literal_le (map_some h)
      · split at h
        · cases hn : numberText .invalidNumber (c :: rest) with
          | error fault => simp [hn, Except.map] at h
          | ok p =>
            simp only [hn, Except.map, Except.ok.injEq, Option.some.injEq] at h
            have := length_numberText_lt hn
            subst h
            simp only [List.length_cons] at this
            omega
        · split at h
          · exact Nat.le_of_lt (length_skipString_lt (map_some h))
          · split at h <;> simp at h

mutual

/-- The rest after a value and after all the brackets open around it. They are
kept in a list and not on a stack of calls, so nesting has no limit here. -/
def skipFrom (brackets : List Bracket) (s : List Char) :
    Except Fault { r : List Char // r.length < s.length } :=
  match hc : skipSpace s with
  | [] => .error (.ahead .endInValue [])
  | c :: rest =>
    have hr := length_lt_of_skipSpace hc
    match hv : skipScalar c rest with
    | .error fault => .error fault
    | .ok (some after) =>
      have ha := length_skipScalar_le hv
      (skipAfter brackets true after).map
        fun r => ⟨r.1, Nat.lt_of_le_of_lt (Nat.le_trans r.2 ha) hr⟩
    | .ok none =>
      (skipAfter ((if c = '[' then .list else .braces) :: brackets) false rest).map
        fun r => ⟨r.1, Nat.lt_of_le_of_lt r.2 hr⟩
termination_by 2 * s.length

/-- The rest after all open brackets; a comma is fine only after a value. -/
def skipAfter (brackets : List Bracket) (comma : Bool) (s : List Char) :
    Except Fault { r : List Char // r.length ≤ s.length } :=
  match brackets with
  | [] => .ok ⟨s, Nat.le_refl _⟩
  | bracket :: outer =>
    match hc : skipSpace s with
    | [] => .error (.ahead bracket.atEnd [])
    | c :: rest =>
      have hr := length_lt_of_skipSpace hc
      if comma && c = ',' then
        match he : bracket.enter rest with
        | .error fault => .error fault
        | .ok after =>
          have ha := length_enter_le he
          (skipFrom (bracket :: outer) after).map
            fun r => ⟨r.1, Nat.le_of_lt (Nat.lt_trans (Nat.lt_of_lt_of_le r.2 ha) hr)⟩
      else if c = bracket.closing then
        (skipAfter outer true rest).map fun r => ⟨r.1, Nat.le_of_lt (Nat.lt_of_le_of_lt r.2 hr)⟩
      else if comma then .error (.ahead bracket.noComma (c :: rest))
      else
        match he : bracket.enter (c :: rest) with
        | .error fault => .error fault
        | .ok after =>
          have ha : after.length ≤ rest.length + 1 := length_enter_le he
          (skipFrom (bracket :: outer) after).map
            fun r => ⟨r.1, Nat.le_of_lt (Nat.lt_of_lt_of_le r.2 (Nat.le_trans ha hr))⟩
termination_by 2 * s.length + 1

end

def skipValue : Reader Unit := fun s =>
  (skipFrom [] s).map fun r => ⟨(), r.1, r.2⟩

end SchemaLoom.Json
