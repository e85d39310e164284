import SchemaLoom.Member.Scan
import SchemaLoom.Proofs.Json.Quoted
import SchemaLoom.Proofs.Text.Pieces

/-!
# Counting braces

How many more braces a text opens than it closes adds up over its parts.
Quoting, trimming and taking semicolons off leave the count as it is.

So the balance of a line can be told from the texts that it was put together
from, and where nothing but string literals holds braces, from these alone.
-/

namespace SchemaLoom.Member

theorem braces_append (s t : List Char) : braces (s ++ t) = braces s + braces t := by
  simp only [braces, List.count_append]
  omega

theorem braces_cons (c : Char) (s : List Char) : braces (c :: s) = braces [c] + braces s :=
  braces_append [c] s

theorem braces_eq_zero {s : List Char} (hopen : '\x7b' ∉ s) (hclose : '\x7d' ∉ s) :
    braces s = 0 := by
  rw [braces, List.count_eq_zero_of_not_mem hopen, List.count_eq_zero_of_not_mem hclose]
  rfl

theorem braces_stringChar (c : Char) : braces (Json.stringChar c) = braces [c] := by
  rw [braces, braces, Json.count_stringChar (by decide) (by decide),
    Json.count_stringChar (by decide) (by decide)]

/-- Quoting a string changes nothing about its braces, since neither of them is
in an escape. -/
theorem braces_stringChars (s : String) : braces (Json.stringChars s) = braces s.toList := by
  have hbody : ∀ t : List Char, braces (t.flatMap Json.stringChar) = braces t := by
    intro t
    induction t with
    | nil => rfl
    | cons c t ih => rw [List.flatMap_cons, braces_append, braces_stringChar, ih, ← braces_cons]
  have hquote : braces ['\x22'] = 0 := rfl
  rw [Json.stringChars, List.cons_append, braces_cons, braces_append, hbody, hquote]
  omega

theorem braces_reverse (s : List Char) : braces s.reverse = braces s := by
  rw [braces, List.count_reverse, List.count_reverse, braces]

theorem braces_dropWhile {p : Char → Bool} (hopen : p '\x7b' = false) (hclose : p '\x7d' = false)
    (s : List Char) : braces (s.dropWhile p) = braces s := by
  rw [braces, Text.count_dropWhile hopen, Text.count_dropWhile hclose, braces]

theorem braces_trimEnd (s : List Char) : braces (Text.trimEnd s) = braces s := by
  rw [Text.trimEnd, braces_reverse, braces_dropWhile (by decide) (by decide), braces_reverse]

theorem braces_trim (s : List Char) : braces (Text.trim s) = braces s := by
  rw [Text.trim, braces_trimEnd, Text.trimStart, braces_dropWhile (by decide) (by decide)]

/-- Texts that only blanks around them tell apart have the same balance of braces. -/
theorem braces_of_trim_eq {s t : List Char} (h : Text.trim s = Text.trim t) :
    braces s = braces t := by
  rw [← braces_trim, h, braces_trim]

/-- Taking blanks and semicolons off takes nothing else away. -/
theorem count_bareType {c : Char} (hc : Text.isBlank c = false) (hne : c ≠ ';') (type : List Char) :
    (bareType type).count c = type.count c := by
  rw [bareType, Text.trimEnd, List.count_reverse, Text.count_dropWhile hc, List.count_reverse,
    List.count_reverse, Text.count_dropWhile (decide_eq_false hne), List.count_reverse,
    Text.count_trim hc]

theorem braces_bareType (type : List Char) : braces (bareType type) = braces type := by
  rw [braces, count_bareType (by decide) (by decide), count_bareType (by decide) (by decide),
    braces]

end SchemaLoom.Member
