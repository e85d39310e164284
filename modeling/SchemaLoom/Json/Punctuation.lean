import SchemaLoom.Json.Lexeme

/-!
# Brackets, commas and colons

What stands between the items of an array and between the entries of an object.
A fault of the punctuation belongs to the array or object itself, one in a key
to an entry whose key is not known.

The two functions say what comes next in an array or an object: its end, or an
item or a key with what follows it. Readers of values and of members share them.
-/

namespace SchemaLoom.Json

/-- What comes next in an array or object that is open: it was closed and the
rest follows the bracket, or an item or entry begins. -/
inductive Next (α : Type) where
  | close (rest : List Char)
  | more (value : α) (rest : List Char)

/-- What comes next in an open array. Only the first item needs no comma. -/
def nextItem (first : Bool) (s : List Char) : Except Fault (Next Unit) :=
  match skipSpace s with
  | [] => .error (.ahead .endInList [])
  | c :: rest =>
    if c = ']' then .ok (.close rest)
    else if first then .ok (.more () (c :: rest))
    else if c = ',' then
      match skipSpace rest with
      | [] => .error (.ahead .endInValue [])
      | d :: more =>
        if d = ']' then .error (.ahead .trailingComma (d :: more)) else .ok (.more () (d :: more))
    else .error (.ahead .expectedListComma (c :: rest))

theorem length_of_nextItem_close {first : Bool} {s rest : List Char}
    (h : nextItem first s = .ok (.close rest)) : rest.length < s.length := by
  have hs := length_skipSpace_le s
  simp only [nextItem] at h
  split at h
  · simp at h
  · next c more hc =>
    rw [hc, List.length_cons] at hs
    split at h
    · simp only [Except.ok.injEq, Next.close.injEq] at h
      subst h
      omega
    · split at h
      · simp at h
      · split at h
        · split at h
          · simp at h
          · split at h <;> simp at h
        · simp at h

theorem length_of_nextItem_more {first : Bool} {s rest : List Char} {u : Unit}
    (h : nextItem first s = .ok (.more u rest)) : rest.length ≤ s.length := by
  have hs := length_skipSpace_le s
  simp only [nextItem] at h
  split at h
  · simp at h
  · next c more hc =>
    rw [hc, List.length_cons] at hs
    split at h
    · simp at h
    · split at h
      · simp only [Except.ok.injEq, Next.more.injEq, true_and] at h
        simp only [← h, List.length_cons]
        omega
      · split at h
        · have hm := length_skipSpace_le more
          split at h
          · simp at h
          · next d after hd =>
            rw [hd, List.length_cons] at hm
            split at h
            · simp at h
            · simp only [Except.ok.injEq, Next.more.injEq, true_and] at h
              rw [← h, List.length_cons]
              omega
        · simp at h

def openKey (first : Bool) (s : List Char) : Except Fault (Next Unit) :=
  match skipSpace s with
  | [] => .error (.ahead .endInObject [])
  | c :: rest =>
    if c = '\x7d' then .ok (.close rest)
    else if first then
      if c = '\x22' then .ok (.more () rest) else .error (.ahead .keyNotString (c :: rest))
    else if c = ',' then
      match skipSpace rest with
      | [] => .error (.ahead .endInValue [])
      | d :: more =>
        if d = '\x22' then .ok (.more () more)
        else if d = '\x7d' then .error (.ahead .trailingComma (d :: more))
        else .error (.ahead .keyNotString (d :: more))
    else .error (.ahead .expectedObjectComma (c :: rest))

theorem length_of_openKey_close {first : Bool} {s rest : List Char}
    (h : openKey first s = .ok (.close rest)) : rest.length < s.length := by
  have hs := length_skipSpace_le s
  simp only [openKey] at h
  split at h
  · simp at h
  · next c more hc =>
    rw [hc, List.length_cons] at hs
    split at h
    · simp only [Except.ok.injEq, Next.close.injEq] at h
      subst h
      omega
    · split at h
      · split at h <;> simp at h
      · split at h
        · split at h
          · simp at h
          · split at h
            · simp at h
            · split at h <;> simp at h
        · simp at h

theorem length_of_openKey_more {first : Bool} {s rest : List Char} {u : Unit}
    (h : openKey first s = .ok (.more u rest)) : rest.length < s.length := by
  have hs := length_skipSpace_le s
  simp only [openKey] at h
  split at h
  · simp at h
  · next c more hc =>
    rw [hc, List.length_cons] at hs
    split at h
    · simp at h
    · split at h
      · split at h
        · simp only [Except.ok.injEq, Next.more.injEq, true_and] at h
          subst h
          omega
        · simp at h
      · split at h
        · have hm := length_skipSpace_le more
          split at h
          · simp at h
          · next d after hd =>
            rw [hd, List.length_cons] at hm
            split at h
            · simp only [Except.ok.injEq, Next.more.injEq, true_and] at h
              subst h
              omega
            · split at h <;> simp at h
        · simp at h

/-- What comes next in an open object, with the key of the entry. Only the first
entry needs no comma. -/
def nextKey (first : Bool) (s : List Char) : Except Fault (Next String) :=
  match openKey first s with
  | .error fault => .error (fault.under .unknownKey)
  | .ok (.close rest) => .ok (.close rest)
  | .ok (.more _ rest) =>
    match stringBody rest with
    | .error fault => .error (fault.under .unknownKey)
    | .ok (key, rest') => .ok (.more (String.ofList key) rest')

theorem length_of_nextKey_close {first : Bool} {s rest : List Char}
    (h : nextKey first s = .ok (.close rest)) : rest.length < s.length := by
  simp only [nextKey] at h
  split at h
  · simp at h
  · next hk =>
    simp only [Except.ok.injEq, Next.close.injEq] at h
    exact h ▸ length_of_openKey_close hk
  · split at h <;> simp at h

theorem length_of_nextKey_more {first : Bool} {s rest : List Char} {key : String}
    (h : nextKey first s = .ok (.more key rest)) : rest.length < s.length := by
  simp only [nextKey] at h
  split at h
  · simp at h
  · simp at h
  · next hk =>
    split at h
    · simp at h
    · next hb =>
      have := length_of_openKey_more hk
      have := length_stringBody_lt hb
      simp only [Except.ok.injEq, Next.more.injEq] at h
      rw [← h.2]
      omega

/-- The rest after the colon between a key and its value. -/
def colon (s : List Char) : Except Fault (List Char) :=
  match skipSpace s with
  | [] => .error (.ahead .endInObject [])
  | c :: rest => if c = ':' then .ok rest else .error (.ahead .expectedColon (c :: rest))

theorem length_colon_lt {s rest : List Char} (h : colon s = .ok rest) :
    rest.length < s.length := by
  have hs := length_skipSpace_le s
  simp only [colon] at h
  split at h
  · simp at h
  · next c more hc =>
    rw [hc, List.length_cons] at hs
    split at h
    · simp only [Except.ok.injEq] at h
      subst h
      omega
    · simp at h

end SchemaLoom.Json
