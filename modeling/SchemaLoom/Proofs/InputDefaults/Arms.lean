import Mathlib.Data.List.ReduceOption
import SchemaLoom.InputDefaults.Basic
import SchemaLoom.Proofs.Text.Pieces

/-!
# Arms of a declared type

A declared type is cut at every bar, and each arm names an interface or nothing.
An arm that holds a character that no name has, and that is neither blank nor a
bracket, names nothing: this is what quotes and parentheses do to an arm. Blanks
around an arm and brackets behind it change nothing.

`ReadAs` says what the first arm of a text names and what the arms behind it
name. It is kept by putting texts together, so what is read off the text of a
type follows the way the text is written.
-/

namespace SchemaLoom.InputDefaults

/-- The interface that an arm names, once blanks around it and the brackets of
arrays behind it are gone. -/
def armName? (arm : List Char) : Option String :=
  if isTypeName (bareArm arm) then some (String.ofList (bareArm arm)) else none

def armNames (declaredType : List Char) : List (Option String) :=
  (Text.splitBy (· = '|') declaredType).map armName?

theorem namedTypes_eq (declaredType : String) :
    namedTypes declaredType = (armNames declaredType.toList).reduceOption := by
  rw [namedTypes, armNames, List.reduceOption, List.filterMap_map]
  generalize Text.splitBy (· = '|') declaredType.toList = arms
  induction arms with
  | nil => rfl
  | cons arm rest ih =>
    cases h : isTypeName (bareArm arm) with
    | true => simpa [h, armName?] using ih
    | false => simpa [h, armName?] using ih

theorem dropBrackets_of_ne {c : Char} (hc : c ≠ ']') (s : List Char) :
    dropBrackets (c :: s) = c :: s :=
  dropBrackets.eq_2 (c :: s) fun _ h => hc (List.cons.inj h).1

theorem mem_dropBrackets {c : Char} (hopen : c ≠ '[') (hclose : c ≠ ']') {s : List Char}
    (h : c ∈ s) : c ∈ dropBrackets s := by
  fun_induction dropBrackets s with
  | case1 rest ih =>
    rw [List.mem_cons, List.mem_cons] at h
    exact ih ((h.resolve_left hclose).resolve_left hopen)
  | case2 => exact h

/-- A character that is neither blank nor a bracket stays in a bare arm. -/
theorem mem_bareArm {c : Char} (hink : Text.isBlank c = false) (hopen : c ≠ '[') (hclose : c ≠ ']')
    {arm : List Char} (h : c ∈ arm) : c ∈ bareArm arm := by
  rw [bareArm]
  refine Text.mem_trim hink (List.mem_reverse.mpr ?_)
  exact mem_dropBrackets hopen hclose (List.mem_reverse.mpr (Text.mem_trim hink h))

theorem bareArm_cons_blank {c : Char} (hc : Text.isBlank c = true) (arm : List Char) :
    bareArm (c :: arm) = bareArm arm := by
  rw [bareArm, Text.trim_cons_blank hc, bareArm]

theorem bareArm_append_blank {c : Char} (hc : Text.isBlank c = true) (arm : List Char) :
    bareArm (arm ++ [c]) = bareArm arm := by
  rw [bareArm, Text.trim_append_blank arm hc, bareArm]

/-- Brackets right behind ink belong to the array, not to the name. -/
theorem bareArm_append_brackets {c : Char} (hc : Text.isBlank c = false) (arm : List Char) :
    bareArm (arm ++ [c] ++ "[]".toList) = bareArm (arm ++ [c]) := by
  have hbrackets : Text.trim (arm ++ [c] ++ "[]".toList) =
      Text.trimStart arm ++ [c] ++ "[]".toList := by
    have hclose := Text.trim_append_ink (arm ++ [c] ++ ['[']) (c := ']') (by decide)
    simpa [Text.trimStart_append_ink arm hc] using hclose
  have hreverse : (Text.trimStart arm ++ [c] ++ "[]".toList).reverse =
      ']' :: '[' :: (Text.trimStart arm ++ [c]).reverse := by simp
  rw [bareArm, bareArm, hbrackets, Text.trim_append_ink arm hc, hreverse, dropBrackets]

def isNameChar (c : Char) : Bool := c.isAlphanum || c = '_' || c = '$'

theorem isNameChar_of_mem {s : List Char} (h : isTypeName s = true) {c : Char} (hc : c ∈ s) :
    isNameChar c = true := by
  rw [isTypeName, Bool.and_eq_true, List.all_eq_true] at h
  exact h.2 c hc

theorem isBlank_of_isNameChar {c : Char} (h : isNameChar c = true) : Text.isBlank c = false := by
  simp only [isNameChar, Bool.or_eq_true, decide_eq_true_eq] at h
  obtain (halnum | rfl) | rfl := h
  · have hword : Text.isAsciiWord c = true := by simp [Text.isAsciiWord, halnum]
    exact Text.isBlank_of_isWord (Text.isWord_of_isAsciiWord hword)
  · decide
  · decide

/-- Whether a character keeps the arm that it stands in from naming anything: no
name has it, and it is neither blank nor a bracket. -/
def spoils (c : Char) : Bool :=
  !(Text.isBlank c || c = '[' || c = ']' || isNameChar c || c = '|')

theorem armName?_of_spoils {c : Char} (hc : spoils c = true) {arm : List Char} (h : c ∈ arm) :
    armName? arm = none := by
  simp only [spoils, Bool.not_eq_true', Bool.or_eq_false_iff, decide_eq_false_iff_not] at hc
  obtain ⟨⟨⟨⟨hink, hopen⟩, hclose⟩, hname⟩, -⟩ := hc
  refine if_neg fun harm => ?_
  rw [isNameChar_of_mem harm (mem_bareArm hink hopen hclose h)] at hname
  cases hname

theorem exists_last_of_isTypeName {s : List Char} (h : isTypeName s = true) :
    ∃ front c, s = front ++ [c] ∧ isNameChar c = true := by
  cases hs : s.getLast? with
  | none =>
    rw [List.getLast?_eq_none_iff.mp hs] at h
    cases h
  | some c =>
    obtain ⟨front, rfl⟩ := List.getLast?_eq_some_iff.mp hs
    exact ⟨front, c, rfl, isNameChar_of_mem h (by simp)⟩

theorem bar_not_mem_of_isTypeName {s : List Char} (h : isTypeName s = true) : '|' ∉ s :=
  fun hbar => absurd (isNameChar_of_mem h hbar) (by decide)

/-- A name of an interface is an arm that names this interface. -/
theorem armName?_of_isTypeName {name : String} (h : isTypeName name.toList = true) :
    armName? name.toList = some name := by
  obtain ⟨front, last, hs, hlast⟩ := exists_last_of_isTypeName h
  have hclose : last ≠ ']' := fun e => absurd hlast (e ▸ by decide)
  have htrim : Text.trim name.toList = name.toList := by
    cases hname : name.toList with
    | nil => rfl
    | cons first rest =>
      have hfirst := isNameChar_of_mem h (hname ▸ List.mem_cons_self)
      rw [← hname]
      exact Text.trim_of_ink hname (isBlank_of_isNameChar hfirst) hs (isBlank_of_isNameChar hlast)
  have hbare : bareArm name.toList = name.toList := by
    have hreverse : name.toList.reverse = last :: front.reverse := by rw [hs]; simp
    rw [bareArm, htrim, hreverse, dropBrackets_of_ne hclose, ← hreverse, List.reverse_reverse,
      htrim]
  rw [armName?, hbare, if_pos h, String.ofList_toList]

theorem armNames_ne_nil (s : List Char) : armNames s ≠ [] := by
  simpa [armNames] using Text.splitBy_ne_nil _ s

theorem armNames_append_bar (s t : List Char) :
    armNames (s ++ '|' :: t) = armNames s ++ armNames t := by
  rw [armNames, Text.splitBy_append_cons s t (by decide), List.map_append, armNames, armNames]

theorem armNames_eq_singleton {s : List Char} (h : '|' ∉ s) : armNames s = [armName? s] := by
  rw [armNames, Text.splitBy_of_not_mem h, List.map_singleton]

/-- A text is one arm, or it is cut at the bar in front of its last arm. -/
theorem exists_last_arm (s : List Char) :
    '|' ∉ s ∨ ∃ front last, s = front ++ '|' :: last ∧ '|' ∉ last := by
  obtain hnone | ⟨front, c, last, rfl, hc, hlast⟩ := Text.exists_last_piece (· = '|') s
  · exact .inl fun h => absurd (hnone _ h) (by decide)
  · obtain rfl := of_decide_eq_true hc
    exact .inr ⟨front, last, rfl, fun h => absurd (hlast _ h) (by decide)⟩

/-- In front of a text, a character that spoils an arm spoils the first one. -/
theorem armNames_cons_of_spoils {c : Char} (hc : spoils c = true) (s : List Char) :
    armNames (c :: s) = none :: (armNames s).tail := by
  have hbar : decide (c = '|') = false := by
    simp only [spoils, Bool.not_eq_true', Bool.or_eq_false_iff] at hc
    exact hc.2
  obtain ⟨piece, more, hpieces, hcons⟩ :=
    @Text.splitBy_cons Char (fun d => decide (d = '|')) c hbar s
  rw [armNames, armNames, hcons, hpieces, List.map_cons, List.map_cons, List.tail_cons,
    armName?_of_spoils hc List.mem_cons_self]

/-- Behind a text, a character that spoils an arm spoils the last one. -/
theorem getLast?_armNames_of_spoils {c : Char} (hc : spoils c = true) (s : List Char) :
    (armNames (s ++ [c])).getLast? = some none := by
  have hlast : ∀ last : List Char, '|' ∉ last → armNames (last ++ [c]) = [none] := by
    intro last hbar
    rw [armNames_eq_singleton, armName?_of_spoils hc (by simp)]
    rw [List.mem_append, List.mem_singleton, not_or]
    exact ⟨hbar, fun h => absurd hc (h ▸ by decide)⟩
  obtain hbar | ⟨front, last, rfl, hbar⟩ := exists_last_arm s
  · rw [hlast s hbar]
    rfl
  · rw [List.append_assoc, List.cons_append, armNames_append_bar, hlast last hbar]
    simp

/-- A text behind which the last arm names what it named before. -/
theorem armNames_append {s suffix : List Char} (hbar : '|' ∉ suffix)
    (h : ∀ arm, arm <:+ s → armName? (arm ++ suffix) = armName? arm) :
    armNames (s ++ suffix) = armNames s := by
  have hlast : ∀ last, last <:+ s → '|' ∉ last → armNames (last ++ suffix) = armNames last := by
    intro last hlast hbar'
    rw [armNames_eq_singleton hbar', ← h last hlast, armNames_eq_singleton]
    rw [List.mem_append, not_or]
    exact ⟨hbar', hbar⟩
  obtain hbar' | ⟨front, last, rfl, hbar'⟩ := exists_last_arm s
  · exact hlast s List.suffix_rfl hbar'
  · have hsuffix : last <:+ front ++ '|' :: last := ⟨front ++ ['|'], by simp⟩
    rw [List.append_assoc, List.cons_append, armNames_append_bar, armNames_append_bar,
      hlast last hsuffix hbar']

/-- The first arm of a text names something or nothing, and the arms behind it
name the others. -/
def ReadAs (s : List Char) (first : Option String) (others : List String) : Prop :=
  ∃ rest, armNames s = first :: rest ∧ rest.reduceOption = others

namespace ReadAs

variable {s t : List Char} {first first' : Option String} {others others' : List String}

theorem of_armNames_eq (h : ReadAs s first others) (hnames : armNames t = armNames s) :
    ReadAs t first others := by
  rwa [ReadAs, hnames]

theorem single (h : '|' ∉ s) : ReadAs s (armName? s) [] :=
  ⟨[], armNames_eq_singleton h, rfl⟩

theorem namedTypes_eq (h : ReadAs s first others) :
    namedTypes (String.ofList s) = first.toList ++ others := by
  obtain ⟨rest, hnames, rfl⟩ := h
  rw [InputDefaults.namedTypes_eq, String.toList_ofList, hnames]
  cases first with
  | none => rw [List.reduceOption_cons_of_none]; rfl
  | some name => rw [List.reduceOption_cons_of_some]; rfl

theorem append_bar (h : ReadAs s first others) (h' : ReadAs t first' others') :
    ReadAs (s ++ '|' :: t) first (others ++ (first'.toList ++ others')) := by
  obtain ⟨rest, hs, rfl⟩ := h
  obtain ⟨rest', ht, rfl⟩ := h'
  refine ⟨rest ++ first' :: rest', ?_, ?_⟩
  · rw [armNames_append_bar, hs, ht, List.cons_append]
  · cases first' with
    | none => rw [List.reduceOption_append, List.reduceOption_cons_of_none]; rfl
    | some name => rw [List.reduceOption_append, List.reduceOption_cons_of_some]; rfl

theorem cons_blank (h : ReadAs s first others) : ReadAs (' ' :: s) first others := by
  obtain ⟨piece, more, hpieces, hcons⟩ :=
    @Text.splitBy_cons Char (fun d => decide (d = '|')) ' ' (by decide) s
  have hpiece : armName? (' ' :: piece) = armName? piece := by
    rw [armName?, bareArm_cons_blank (by decide), armName?]
  have hnames : armNames (' ' :: s) = armNames s := by
    rw [armNames, armNames, hcons, hpieces, List.map_cons, List.map_cons, hpiece]
  exact h.of_armNames_eq hnames

theorem append_blank (h : ReadAs s first others) : ReadAs (s ++ [' ']) first others := by
  have hnames : armNames (s ++ [' ']) = armNames s := by
    refine armNames_append (by decide) fun arm _ => ?_
    rw [armName?, bareArm_append_blank (by decide), armName?]
  exact h.of_armNames_eq hnames

theorem append_brackets (h : ReadAs s first others)
    (hink : ∃ front c, s = front ++ [c] ∧ Text.isBlank c = false) :
    ReadAs (s ++ "[]".toList) first others := by
  have hnames : armNames (s ++ "[]".toList) = armNames s := by
    refine armNames_append (by decide) fun arm harm => ?_
    obtain ⟨front, c, rfl, hc⟩ := hink
    obtain rfl | ⟨arm, rfl, -⟩ := List.suffix_concat_iff.mp harm
    · rfl
    · rw [armName?, bareArm_append_brackets hc, armName?]
  exact h.of_armNames_eq hnames

/-- Parentheses around a union take the name away from its first arm; those
behind it end with the one that names nothing. -/
theorem parentheses (h : ReadAs s first others) (hbar : '|' ∈ s)
    (hlast : (armNames s).getLast? = some none) :
    ReadAs ('(' :: s ++ [')'] ++ "[]".toList) none others := by
  obtain ⟨rest, hnames, rfl⟩ := h
  obtain hnone | ⟨front, last, rfl, hnone⟩ := exists_last_arm s
  · exact absurd hbar hnone
  rw [armNames_append_bar, armNames_eq_singleton hnone] at hnames hlast
  obtain ⟨front', more, hfront⟩ := List.exists_cons_of_ne_nil (armNames_ne_nil front)
  have hclosed : '|' ∉ last ++ ")[]".toList := by
    rw [List.mem_append, not_or]
    exact ⟨hnone, by decide⟩
  have htext : '(' :: (front ++ '|' :: last) ++ [')'] ++ "[]".toList =
      ('(' :: front) ++ '|' :: (last ++ ")[]".toList) := by simp
  rw [hfront, List.cons_append, List.cons.injEq] at hnames
  refine ⟨more ++ [none], ?_, ?_⟩
  · rw [htext, armNames_append_bar, armNames_cons_of_spoils (by decide), hfront, List.tail_cons,
      armNames_eq_singleton hclosed, armName?_of_spoils (c := ')') (by decide) (by simp),
      List.cons_append]
  · rw [List.getLast?_append_of_ne_nil _ (by simp)] at hlast
    simp only [List.getLast?_singleton, Option.some.injEq] at hlast
    rw [← hnames.2, hlast]

end ReadAs
end SchemaLoom.InputDefaults
