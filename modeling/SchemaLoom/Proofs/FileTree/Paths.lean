import Mathlib.Tactic.SplitIfs
import SchemaLoom.FileTree.Basic
import SchemaLoom.Proofs.Text.Pieces

/-!
# Where paths lead

Where a path leads, it leads whatever files there are: they only say whether it
can be followed. An extension behind a path belongs to its last step, so two
paths that differ in it alone lead to files of one directory.

A name with an extension is never a step that stays or goes up, since an
extension has a point and at least two letters behind it. So the place of a file
can be told from its path without looking at the tree.
-/

namespace SchemaLoom

namespace Place

/-- The place that steps lead to from a place, whatever is there: a name goes
down, two points go up, and the other steps stay. -/
def along (here : Place) : List String → Place
  | [] => here
  | step :: rest =>
    if Path.stays step then along here rest
    else if step = ".." then along here.up rest
    else along (here ++ [step]) rest

/-- The place that a path leads to from a directory, or from the root if it is
absolute. -/
def ofPath (here : Place) (path : String) : Place := along (here.startOf path) (Path.steps path)

theorem along_append (here : Place) (front back : List String) :
    along here (front ++ back) = along (along here front) back := by
  induction front generalizing here with
  | nil => rfl
  | cons step front ih =>
      rw [List.cons_append, along, along]
      split_ifs <;> exact ih _

theorem along_name (here : Place) {name : String} (hstays : Path.stays name = false)
    (hup : name ≠ "..") : along here [name] = here ++ [name] := by
  rw [along, hstays, if_neg Bool.false_ne_true, if_neg hup, along]

theorem along_concat (here : Place) (front : List String) {name : String}
    (hstays : Path.stays name = false) (hup : name ≠ "..") :
    along here (front ++ [name]) = along here front ++ [name] := by
  rw [along_append, along_name _ hstays hup]

end Place

/-- A path that can be followed among files leads to the place that its steps tell. -/
theorem FileTree.eq_along_of_follow {tree : FileTree} {here place : Place} {steps : List String}
    (h : tree.follow here steps = some place) : place = here.along steps := by
  induction steps generalizing here with
  | nil => exact (Option.some.inj h).symm
  | cons step rest ih =>
      rw [follow] at h
      rw [Place.along]
      split_ifs at h ⊢ <;> exact ih h

theorem FileTree.eq_ofPath_of_find? {tree : FileTree} {path : String} {place : Place}
    (h : tree.find? path = some place) : place = Place.ofPath [] path := by
  rw [find?, findFrom?] at h
  split_ifs at h
  exact eq_along_of_follow h

namespace Path

/-- A text that may be put behind any path as the extension of its last name: a
point and letters, at least two of them, so that no step is made that stays or
goes up. The point is the only one, and there is no slash. -/
structure IsExtension (extension : String) : Prop where
  pointed : ∃ letters, extension.toList = '.' :: letters ∧ '.' ∉ letters
  within : '/' ∉ extension.toList
  long : 2 < extension.toList.length

theorem isExtension_ts : IsExtension ".ts" :=
  ⟨⟨['t', 's'], by decide +kernel⟩, by decide, by decide⟩

theorem isExtension_js : IsExtension ".js" :=
  ⟨⟨['j', 's'], by decide +kernel⟩, by decide, by decide⟩

variable {extension : String}

theorem steps_append {name : String} (hname : '/' ∉ name.toList)
    (hextension : '/' ∉ extension.toList) : steps (name ++ extension) = [name ++ extension] := by
  have h : '/' ∉ (name ++ extension).toList := by
    rw [String.toList_append, List.mem_append]
    exact not_or.mpr ⟨hname, hextension⟩
  rw [steps, Text.splitBy_of_not_mem h, List.map_singleton, String.ofList_toList]

theorem steps_of_slash {path front rest : String}
    (h : path.toList = front.toList ++ '/' :: rest.toList) :
    steps path = steps front ++ steps rest := by
  rw [steps, h, Text.splitBy_append_cons _ _ (by decide), List.map_append, steps, steps]

theorem exists_steps_append (base : String) :
    ∃ before last, '/' ∉ last.toList ∧ ∀ extension : String, '/' ∉ extension.toList →
      steps (base ++ extension) = before ++ [last ++ extension] := by
  rcases Text.exists_last_piece (· = '/') base.toList with
    hnone | ⟨front, c, last, hbase, hc, hlast⟩
  · have hbase : '/' ∉ base.toList := fun hmem => by simpa using hnone _ hmem
    exact ⟨[], base, hbase, fun extension h => steps_append hbase h⟩
  · obtain rfl : c = '/' := of_decide_eq_true hc
    have hlast : '/' ∉ (String.ofList last).toList := by
      rw [String.toList_ofList]
      exact fun hmem => by simpa using hlast _ hmem
    refine ⟨steps (String.ofList front), String.ofList last, hlast, fun extension h => ?_⟩
    rw [← steps_append hlast h]
    exact steps_of_slash (by simp [hbase])

/-- A name with an extension does not stay and does not go up. -/
theorem IsExtension.name (h : IsExtension extension) (last : String) :
    stays (last ++ extension) = false ∧ last ++ extension ≠ ".." := by
  have hlength : 2 < (last ++ extension).toList.length := by
    rw [String.toList_append, List.length_append]
    exact Nat.lt_add_left _ h.long
  have hne {short : String} (hshort : short.toList.length ≤ 2) : last ++ extension ≠ short := by
    rintro rfl
    omega
  refine ⟨?_, hne (by decide)⟩
  rw [stays, decide_eq_false (hne (by decide)), decide_eq_false (hne (by decide)), Bool.or_false]

theorem IsExtension.isAbsolute_append (h : IsExtension extension) (base : String) :
    isAbsolute (base ++ extension) = isAbsolute base := by
  rw [isAbsolute, isAbsolute, String.toList_append]
  cases base.toList with
  | nil =>
      obtain ⟨letters, hletters, -⟩ := h.pointed
      rw [hletters]
      rfl
  | cons c rest => rfl

theorem cutAtPoint_append (front : List Char) {letters : List Char} (h : '.' ∉ letters) :
    cutAtPoint (front ++ '.' :: letters) = some (front, letters) := by
  have hletters : ∀ c ∈ letters.reverse, decide (c ≠ '.') = true := by
    intro c hc
    refine decide_eq_true fun he => h ?_
    exact he ▸ List.mem_reverse.mp hc
  rw [cutAtPoint, List.reverse_append, List.reverse_cons, List.append_assoc,
    List.dropWhile_append_of_pos hletters, List.takeWhile_append_of_pos hletters]
  simp

/-- The stem of a name with an extension is what stands before it, unless
nothing does. -/
theorem IsExtension.stemOf_append (h : IsExtension extension) (last : String) :
    stemOf (last ++ extension) = if last = "" then extension else last := by
  obtain ⟨letters, hletters, hpoint⟩ := h.pointed
  rw [stemOf, String.toList_append, hletters, cutAtPoint_append _ hpoint]
  cases hlast : last.toList with
  | nil =>
      obtain rfl := String.toList_eq_nil_iff.mp hlast
      simp
  | cons c rest =>
      have hne : last ≠ "" := by
        rintro rfl
        cases hlast
      rw [if_neg hne]
      exact (congrArg String.ofList hlast.symm).trans String.ofList_toList

/-- Where a path with an extension leads: it names the last step, and no other
extension changes the directory. -/
theorem exists_ofPath_append (base : String) :
    ∃ (directory : Place) (last : String), '/' ∉ last.toList ∧
      ∀ extension, IsExtension extension →
        Place.ofPath [] (base ++ extension) = directory ++ [last ++ extension] ∧
        fileName? (base ++ extension) = some (last ++ extension) := by
  obtain ⟨before, last, hlast, hsteps⟩ := exists_steps_append base
  refine ⟨Place.along (Place.startOf [] base) before, last, hlast, fun extension h => ?_⟩
  obtain ⟨hstays, hup⟩ := h.name last
  constructor
  · rw [Place.ofPath, hsteps _ h.within, Place.along_concat _ _ hstays hup, Place.startOf,
      h.isAbsolute_append, Place.startOf]
  · rw [fileName?, names, hsteps _ h.within, List.filter_append]
    simp [hstays, hup]

end Path

end SchemaLoom
