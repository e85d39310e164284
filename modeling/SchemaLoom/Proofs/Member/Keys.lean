import Mathlib.Data.List.DropRight
import SchemaLoom.Member.Scan
import SchemaLoom.Proofs.Json.Quoted
import SchemaLoom.Proofs.Text.Blank
import SchemaLoom.Proofs.Text.Lines

/-!
# Reading keys

A key stands in a declaration bare, if it is an identifier, or as a JSON string
in any of the ways to write one. It is read back from either form whatever
follows it. The word `readonly` in front of a key is told from a key that is
this word by the blank behind it.

Whatever is read as a key holds only characters of its text, unless it stands
between double quotes, where escapes are read. This is the converse that a block
on one line needs, where keys may be cut in two.
-/

namespace SchemaLoom.Member

theorem continuesIdentifier_of_isBlank {c : Char} (h : Text.isBlank c = true) :
    continuesIdentifier c = false := by
  have hdollar : c ≠ '$' := by
    rintro rfl
    exact absurd h (by decide)
  simp [continuesIdentifier, Text.isWord_of_isBlank h, hdollar]

theorem continuesIdentifier_of_startsIdentifier {c : Char} (h : startsIdentifier c = true) :
    continuesIdentifier c = true := by
  simp only [startsIdentifier, Bool.or_eq_true, decide_eq_true_eq] at h
  rcases h with (h | rfl) | rfl
  · have : c.isAlphanum = true := by simp [Char.isAlphanum, h]
    simp [continuesIdentifier, Text.isWord_of_isAlphanum this]
  · decide
  · decide

theorem isBlank_of_continuesIdentifier {c : Char} (h : continuesIdentifier c = true) :
    Text.isBlank c = false := by
  cases hb : Text.isBlank c with
  | false => rfl
  | true => rw [continuesIdentifier_of_isBlank hb] at h; cases h

theorem isIdentifier_iff {s : List Char} :
    isIdentifier s = true ↔ ∃ c rest, s = c :: rest ∧ startsIdentifier c = true ∧
      ∀ d ∈ s, continuesIdentifier d = true := by
  cases s with
  | nil => simp [isIdentifier]
  | cons c rest =>
      rw [isIdentifier, Bool.and_eq_true, List.all_eq_true]
      constructor
      · intro h
        refine ⟨c, rest, rfl, h.1, List.forall_mem_cons.mpr ⟨?_, h.2⟩⟩
        exact continuesIdentifier_of_startsIdentifier h.1
      · rintro ⟨_, _, ⟨⟩, hc, hall⟩
        exact ⟨hc, (List.forall_mem_cons.mp hall).2⟩

/-- A key as it may stand in a declaration: bare if it is an identifier, or as a
JSON string. -/
inductive KeyText : List Char → String → Prop where
  | bare {key : String} (h : isIdentifier key.toList = true) : KeyText key.toList key
  | quoted {body : List Char} {key : String} (h : Json.Spells body key.toList) :
      KeyText ('\x22' :: (body ++ ['\x22'])) key

/-- Keys are written in one of their forms: bare where they are identifiers, and
quoted elsewhere. -/
theorem keyText_keyChars (key : String) : KeyText (keyChars key) key := by
  unfold keyChars
  split
  · next h => exact .bare h
  · exact .quoted (Json.spells_written key.toList)

/-- Whether a key or a word in front of it may begin with the character: a
double quote, or what begins an identifier. -/
def StartsKey (c : Char) : Prop := startsIdentifier c = true ∨ c = '\x22'

theorem StartsKey.isBlank {c : Char} (h : StartsKey c) : Text.isBlank c = false := by
  rcases h with h | rfl
  · exact isBlank_of_continuesIdentifier (continuesIdentifier_of_startsIdentifier h)
  · decide

theorem KeyText.exists_first {text : List Char} {key : String} (h : KeyText text key) :
    ∃ c rest, text = c :: rest ∧ StartsKey c := by
  cases h with
  | bare h =>
      obtain ⟨c, rest, hs, hc, _⟩ := isIdentifier_iff.mp h
      exact ⟨c, rest, hs, .inl hc⟩
  | quoted => exact ⟨'\x22', _, rfl, .inr rfl⟩

theorem KeyText.newline_not_mem {text : List Char} {key : String} (h : KeyText text key) :
    '\n' ∉ text := by
  cases h with
  | bare h =>
      obtain ⟨_, _, _, _, hall⟩ := isIdentifier_iff.mp h
      exact fun hmem => absurd (hall _ hmem) (by decide)
  | quoted h =>
      have hbody := h.newline_not_mem
      simpa using hbody

theorem quotedBody_cons {quote c : Char} (hc : c ≠ '\\') (s : List Char) :
    quotedBody quote (c :: s) =
      if c = quote then some ([], s) else (quotedBody quote s).map fun p => (c :: p.1, p.2) :=
  quotedBody.eq_4 _ _ _ (by simp [hc]) (by simp [hc])

theorem quotedBody_append {quote : Char} {plain : List Char}
    (h : ∀ c ∈ plain, c ≠ quote ∧ c ≠ '\\') (s : List Char) :
    quotedBody quote (plain ++ s) = (quotedBody quote s).map fun p => (plain ++ p.1, p.2) := by
  induction plain with
  | nil => simp
  | cons c plain ih =>
      rw [List.forall_mem_cons] at h
      rw [List.cons_append, quotedBody_cons h.1.2, if_neg h.1.1, ih h.2, Option.map_map]
      rfl

theorem quotedBody_escape (quote letter : Char) (s : List Char) :
    quotedBody quote ('\\' :: letter :: s) =
      (quotedBody quote s).map fun p => ('\\' :: letter :: p.1, p.2) := rfl

theorem quotedBody_code {digits : List Char} {n : Nat} (h : Json.IsCode digits n) (s : List Char) :
    quotedBody '\x22' ('\\' :: 'u' :: (digits ++ s)) =
      (quotedBody '\x22' s).map fun p => ('\\' :: 'u' :: (digits ++ p.1), p.2) := by
  have hplain : ∀ c ∈ digits, c ≠ '\x22' ∧ c ≠ '\\' := by
    refine fun c hc => ⟨?_, ?_⟩
    · rintro rfl
      exact h.not_mem (by decide) hc
    · rintro rfl
      exact h.not_mem (by decide) hc
  rw [quotedBody_escape, quotedBody_append hplain, Option.map_map]
  rfl

/-- What stands for a character holds no quote that ends the key. -/
theorem quotedBody_stands {piece : List Char} {c : Char} (h : Json.Stands piece c) (s : List Char) :
    quotedBody '\x22' (piece ++ s) = (quotedBody '\x22' s).map fun p => (piece ++ p.1, p.2) := by
  cases h with
  | plain hquote hback _ =>
      refine quotedBody_append (fun d hd => ?_) s
      rw [List.mem_singleton.mp hd]
      exact ⟨hquote, hback⟩
  | letter => exact quotedBody_escape _ _ s
  | code h => exact quotedBody_code h s
  | pair hfirst _ hsecond =>
      simp only [List.cons_append, List.append_assoc]
      rw [quotedBody_code hfirst, quotedBody_code hsecond, Option.map_map]
      rfl

theorem quotedBody_spells {body text : List Char} (h : Json.Spells body text) (rest : List Char) :
    quotedBody '\x22' (body ++ '\x22' :: rest) = some (body, rest) := by
  induction h with
  | nil => rfl
  | cons hpiece _ ih =>
      rw [List.append_assoc, quotedBody_stands hpiece, ih]
      rfl

theorem unquote_spells {body text : List Char} (h : Json.Spells body text) :
    unquote '\x22' body = text := by
  rw [unquote, if_pos rfl, Json.stringBody_spells h]

theorem quotedBody_eq_some {quote : Char} {s body rest : List Char}
    (h : quotedBody quote s = some (body, rest)) :
    s = body ++ quote :: rest ∧ ∀ t, quotedBody quote (s ++ t) = some (body, rest ++ t) := by
  have hback : ∀ {c : Char} {more : List Char}, (c = '\\' → more = [] → False) →
      (∀ d rest, c = '\\' → more = d :: rest → False) → c ≠ '\\' := by
    rintro _ (_ | ⟨d, more⟩) hend hmore rfl
    · exact hend rfl rfl
    · exact hmore d more rfl rfl
  fun_induction quotedBody quote s generalizing body with
  | case1 => cases h
  | case2 => cases h
  | case3 c more ih =>
      obtain ⟨⟨inner, after⟩, hinner, heq⟩ := Option.map_eq_some_iff.mp h
      obtain ⟨rfl, rfl⟩ := Prod.mk.inj heq
      obtain ⟨hs, hmore⟩ := ih hinner
      refine ⟨by rw [hs]; rfl, fun t => ?_⟩
      rw [List.cons_append, List.cons_append, quotedBody_escape, hmore]
      rfl
  | case4 more hend hmore =>
      obtain ⟨rfl, rfl⟩ := Prod.mk.inj (Option.some.inj h)
      exact ⟨rfl, fun t => by rw [List.cons_append, quotedBody_cons (hback hend hmore), if_pos rfl]⟩
  | case5 c more hend hmore hc ih =>
      obtain ⟨⟨inner, after⟩, hinner, heq⟩ := Option.map_eq_some_iff.mp h
      obtain ⟨rfl, rfl⟩ := Prod.mk.inj heq
      obtain ⟨hs, hinner'⟩ := ih hinner
      refine ⟨by rw [hs]; rfl, fun t => ?_⟩
      rw [List.cons_append, quotedBody_cons (hback hend hmore), if_neg hc, hinner']
      rfl

theorem stripQuotes_sublist (quote : Char) (s : List Char) : (stripQuotes quote s).Sublist s :=
  (List.rdropWhile_prefix _ _).sublist.trans (List.dropWhile_sublist _)

/-- A key holds only characters of the text, unless it stands between double
quotes. -/
theorem readKey_eq_some {s key rest : List Char} (h : readKey s = some (key, rest)) :
    rest <:+ s ∧ ((∀ c ∈ key, c ∈ s) ∨ ∃ body, s = '\x22' :: (body ++ '\x22' :: rest)) := by
  cases s with
  | nil => cases h
  | cons c more =>
      rw [readKey] at h
      split at h
      · obtain ⟨rfl, rfl⟩ := Prod.mk.inj (Option.some.inj h)
        refine ⟨(List.dropWhile_suffix _).trans (List.suffix_cons c more), .inl ?_⟩
        rw [List.forall_mem_cons]
        refine ⟨List.mem_cons_self, fun d hd => List.mem_cons_of_mem c ?_⟩
        exact (List.takeWhile_sublist _).mem hd
      · split at h
        · next hquote =>
          obtain ⟨⟨body, after⟩, hbody, heq⟩ := Option.map_eq_some_iff.mp h
          obtain ⟨rfl, rfl⟩ := Prod.mk.inj heq
          obtain ⟨hs, -⟩ := quotedBody_eq_some hbody
          have hsuffix : after <:+ c :: more := by
            rw [hs]
            exact ⟨c :: (body ++ [c]), by simp⟩
          refine ⟨hsuffix, ?_⟩
          simp only [Bool.or_eq_true, decide_eq_true_eq] at hquote
          rcases hquote with rfl | rfl
          · exact .inr ⟨body, by rw [hs]⟩
          · refine .inl fun d hd => ?_
            have hmem := (stripQuotes_sublist _ _).mem hd
            rw [hs]
            simp only [List.mem_append, List.mem_cons, List.cons_append, List.not_mem_nil,
              or_false] at hmem ⊢
            grind
        · cases h

/-- A key is read from either form, whatever follows that is no part of a word. -/
theorem readKey_keyText {text : List Char} {key : String} (h : KeyText text key) {c : Char}
    (hc : continuesIdentifier c = false) (rest : List Char) :
    readKey (text ++ c :: rest) = some (key.toList, c :: rest) := by
  cases h with
  | bare h =>
      obtain ⟨d, more, hs, hd, hall⟩ := isIdentifier_iff.mp h
      have hmore : ∀ e ∈ more, continuesIdentifier e = true := fun e he =>
        hall e (hs ▸ List.mem_cons_of_mem d he)
      rw [hs, List.cons_append, readKey, if_pos hd, List.takeWhile_append_of_pos hmore,
        List.dropWhile_append_of_pos hmore]
      simp [hc]
  | quoted h =>
      rw [List.cons_append, List.append_assoc, readKey, if_neg (by decide),
        if_pos (by decide), List.singleton_append, quotedBody_spells h, Option.map_some,
        unquote_spells h]

/-- In front of a key no word `readonly` is seen, even if the key is this word. -/
theorem skipWord_keyText {text : List Char} {key : String} (h : KeyText text key) {c : Char}
    (hc : continuesIdentifier c = false) (hink : Text.isBlank c = false) (rest : List Char) :
    skipWord "readonly" (text ++ c :: rest) = text ++ c :: rest := by
  unfold skipWord
  split
  · next d more hafter =>
    have hs := Text.eq_append_of_afterPattern hafter
    split
    · next hd =>
      exfalso
      cases h with
      | bare h =>
          -- The first character beyond the identifier would be both `c` and the blank `d`.
          obtain ⟨_, _, _, _, hall⟩ := isIdentifier_iff.mp h
          have hword : ∀ e ∈ "readonly".toList, continuesIdentifier e = true :=
            List.all_eq_true.mp (by decide)
          have hdrop := congrArg (List.dropWhile continuesIdentifier) hs
          rw [List.dropWhile_append_of_pos hall, List.dropWhile_append_of_pos hword,
            List.dropWhile_cons_of_neg (by simp [hc]),
            List.dropWhile_cons_of_neg (by simp [continuesIdentifier_of_isBlank hd])] at hdrop
          rw [(List.cons.inj hdrop).1, hd] at hink
          cases hink
      | quoted => exact absurd (List.cons.inj hs).1 (by decide)
    · rfl
  · rfl

end SchemaLoom.Member
