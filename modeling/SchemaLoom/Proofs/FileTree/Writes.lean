import Mathlib.Tactic.SplitIfs
import SchemaLoom.FileTree.Basic

/-!
# Writing to a file tree

Writing a file may make directories on the way to it, and it changes no other
file. So a path that leads to a place still leads there after any number of
writes, and a place that no written path leads to holds what it held before.

A write that is refused may leave directories behind; it changes no file at all.
What was written is read, and writing it once more changes nothing. `Wrote`
collects any number of writes, and what it keeps is shown by induction on them.
-/

namespace SchemaLoom.FileTree

variable {before after : FileTree}

theorem isDirectory_mono (h : before.directories ⊆ after.directories) {place : Place}
    (hplace : before.isDirectory place = true) : after.isDirectory place = true := by
  simp only [isDirectory, Bool.or_eq_true, List.contains_iff_mem] at hplace ⊢
  exact hplace.imp_right (@h place)

/-- With more directories, steps that led to a place still lead there. -/
theorem follow_mono (h : before.directories ⊆ after.directories) {here : Place}
    {steps : List String} {place : Place} (hfound : before.follow here steps = some place) :
    after.follow here steps = some place := by
  induction steps generalizing here with
  | nil => exact hfound
  | cons step rest ih =>
    simp only [follow] at hfound ⊢
    cases hhere : before.isDirectory here with
    | false => simp [hhere] at hfound
    | true =>
      rw [if_pos hhere] at hfound
      rw [if_pos (isDirectory_mono h hhere)]
      split_ifs at hfound ⊢ <;> exact ih hfound

theorem find?_mono (h : before.directories ⊆ after.directories) {path : String} {place : Place}
    (hfound : before.find? path = some place) : after.find? path = some place := by
  simp only [find?, findFrom?] at hfound ⊢
  split_ifs at hfound ⊢
  exact follow_mono h hfound

@[simp] theorem directories_put (tree : FileTree) (place : Place) (content : Content) :
    (tree.put place content).directories = tree.directories := rfl

@[simp] theorem isDirectory_put (tree : FileTree) (place other : Place) (content : Content) :
    (tree.put place content).isDirectory other = tree.isDirectory other := rfl

theorem find?_put {tree : FileTree} {path : String} {place : Place} (other : Place)
    (content : Content) (hfound : tree.find? path = some place) :
    (tree.put other content).find? path = some place := by
  have h : tree.directories ⊆ (tree.put other content).directories := List.Subset.refl _
  exact find?_mono h hfound

theorem directories_makeDirectories (tree : FileTree) (here : Place) (names : List String) :
    tree.directories ⊆ (tree.makeDirectories here names).1.directories := by
  induction names generalizing tree here with
  | nil => exact List.Subset.refl _
  | cons name rest ih =>
    simp only [makeDirectories]
    generalize (if name = ".." then here.up else here ++ [name]) = next
    split_ifs
    · exact ih tree next
    · exact List.Subset.refl _
    · exact fun place hplace => ih (tree.addDirectory next) next (List.mem_cons_of_mem _ hplace)

theorem directories_makeParents (tree : FileTree) (path : String) :
    tree.directories ⊆ (tree.makeParents path).1.directories := by
  simp only [makeParents]
  split
  · exact directories_makeDirectories _ _ _
  · exact List.Subset.refl _

/-- A write makes the directories on the way, and then it puts the file where
the path leads, or it is refused. -/
theorem write_cases (tree : FileTree) (path : String) (content : Content) :
    (∃ place, (tree.makeParents path).1.find? path = some place ∧
      tree.write path content = ((tree.makeParents path).1.put place content, .ok ())) ∨
    tree.write path content = ((tree.makeParents path).1, .error .fileAccess) := by
  simp only [write]
  split
  · cases hfound : (tree.makeParents path).1.find? path with
    | none => exact .inr rfl
    | some place =>
      dsimp only
      split
      · exact .inr rfl
      · exact .inl ⟨place, rfl, rfl⟩
  · exact .inr rfl

/-- Whether a write is refused depends on its path, not on what is written. -/
theorem snd_write_eq (tree : FileTree) (path : String) (content other : Content) :
    (tree.write path content).2 = (tree.write path other).2 := by
  simp only [write]
  split
  · split
    · split <;> rfl
    · rfl
  · rfl

theorem directories_write (tree : FileTree) (path : String) (content : Content) :
    tree.directories ⊆ (tree.write path content).1.directories := by
  obtain ⟨place, -, hwrite⟩ | hwrite := tree.write_cases path content
  · simpa only [hwrite, directories_put] using directories_makeParents tree path
  · simpa only [hwrite] using directories_makeParents tree path

/-- After a write that was not refused, the path leads to the file that was
written. -/
theorem find?_write {tree : FileTree} {path : String} {content : Content}
    (h : (tree.write path content).2 = .ok ()) :
    ∃ place, (tree.write path content).1.find? path = some place ∧
      (tree.write path content).1.file? place = some content := by
  obtain ⟨place, hfound, hwrite⟩ | hwrite := tree.write_cases path content
  · rw [hwrite]
    exact ⟨place, find?_put place content hfound, file?_put_self _ _ _⟩
  · rw [hwrite] at h
    cases h

/-- A write leaves the files alone that its path does not lead to afterwards. -/
theorem file?_write_of_ne {tree : FileTree} {path : String} {content : Content} {place : Place}
    (h : (tree.write path content).1.find? path ≠ some place) :
    (tree.write path content).1.file? place = tree.file? place := by
  obtain ⟨found, hfound, hwrite⟩ | hwrite := tree.write_cases path content
  · rw [hwrite] at h ⊢
    have hne : place ≠ found := by
      rintro rfl
      exact h (find?_put place content hfound)
    rw [file?_put_of_ne _ _ hne, file?_makeParents]
  · rw [hwrite, file?_makeParents]

/-- A write that is refused leaves every file alone, whatever directories it made. -/
theorem file?_write_refused {tree : FileTree} {path : String} {content : Content}
    {failure : Failure} (h : (tree.write path content).2 = .error failure) (place : Place) :
    (tree.write path content).1.file? place = tree.file? place := by
  obtain ⟨found, hfound, hwrite⟩ | hwrite := tree.write_cases path content
  · rw [hwrite] at h
    cases h
  · rw [hwrite, file?_makeParents]

section Text

variable {tree : FileTree} {path text : String}

theorem read_eq_ok_iff : tree.read path = .ok text ↔
    ∃ place, tree.find? path = some place ∧ tree.file? place = some (.text text) := by
  rw [read]
  cases hfound : tree.find? path with
  | none => simp
  | some place =>
      rw [Option.bind_some]
      cases hfile : tree.file? place with
      | none => simp [hfile]
      | some content => cases content <;> simp [hfile]

theorem read_eq_error (h : ∀ text, tree.read path ≠ .ok text) :
    tree.read path = .error .fileAccess := by
  rw [read] at h ⊢
  split
  · next text hfile =>
    rw [hfile] at h
    exact absurd rfl (h text)
  · rfl

/-- What was written is read. -/
theorem read_write (h : (tree.write path (.text text)).2 = .ok ()) :
    (tree.write path (.text text)).1.read path = .ok text :=
  read_eq_ok_iff.mpr (find?_write h)

/-- Writing a file that is there changes no other one. -/
theorem file?_write_of_read (h : tree.read path = .ok text) (content : Content) {place : Place}
    (hplace : tree.find? path ≠ some place) :
    (tree.write path content).1.file? place = tree.file? place := by
  obtain ⟨found, hfound, -⟩ := read_eq_ok_iff.mp h
  have hthere := find?_mono (directories_write tree path content) hfound
  refine file?_write_of_ne ?_
  rwa [hthere, ← hfound]

end Text

/-- Directories that were made on the way are not made again. -/
theorem makeDirectories_again {tree : FileTree} {here : Place} {names : List String}
    (h : (tree.makeDirectories here names).2 = true)
    (hafter : (tree.makeDirectories here names).1.directories ⊆ after.directories) :
    after.makeDirectories here names = (after, true) := by
  induction names generalizing tree here with
  | nil => rfl
  | cons name rest ih =>
    simp only [makeDirectories] at h hafter ⊢
    generalize (if name = ".." then here.up else here ++ [name]) = next at h hafter ⊢
    by_cases hthere : tree.isDirectory next = true
    · rw [if_pos hthere] at h hafter
      have hkept := directories_makeDirectories tree next rest
      rw [if_pos (isDirectory_mono (List.Subset.trans hkept hafter) hthere)]
      exact ih h hafter
    · rw [if_neg hthere] at h hafter
      split_ifs at h hafter
      have hkept := directories_makeDirectories (tree.addDirectory next) next rest
      have hadded : (tree.addDirectory next).isDirectory next = true := by
        simp [isDirectory, addDirectory]
      rw [if_pos (isDirectory_mono (List.Subset.trans hkept hafter) hadded)]
      exact ih h hafter

theorem makeParents_again {tree : FileTree} {path : String} (h : (tree.makeParents path).2 = true)
    (hafter : (tree.makeParents path).1.directories ⊆ after.directories) :
    after.makeParents path = (after, true) := by
  simp only [makeParents] at h hafter ⊢
  split_ifs at h hafter ⊢
  exact makeDirectories_again h hafter

theorem put_put (tree : FileTree) (place : Place) (content : Content) :
    (tree.put place content).put place content = tree.put place content := by
  simp [put]

/-- A write that is not refused found the way made, a name that a file can have
and no directory in the place of the file. -/
theorem of_write_ok {tree : FileTree} {path : String} {content : Content}
    (h : (tree.write path content).2 = .ok ()) :
    (tree.makeParents path).2 = true ∧ (Path.names path).getLast?.all isPossibleName = true ∧
      ∃ place, (tree.makeParents path).1.find? path = some place ∧
        (tree.makeParents path).1.isDirectory place = false ∧
        (tree.write path content).1 = (tree.makeParents path).1.put place content := by
  simp only [write] at h ⊢
  cases hmade : (tree.makeParents path).2 with
  | false =>
    rw [hmade] at h
    cases h
  | true =>
    cases hfound : (tree.makeParents path).1.find? path with
    | none =>
      simp only [hmade, hfound] at h
      cases h
    | some place =>
      simp only [hmade, hfound, if_true] at h ⊢
      split_ifs at h ⊢ with hrefused
      rw [Bool.or_eq_true, not_or, Bool.not_eq_true, Bool.not_eq_true'] at hrefused
      exact ⟨trivial, by simpa using hrefused.2, place, rfl, hrefused.1, rfl⟩

/-- Writing the same once more changes nothing, neither files nor directories. -/
theorem write_again {tree : FileTree} {path : String} {content : Content}
    (h : (tree.write path content).2 = .ok ()) :
    (tree.write path content).1.write path content = ((tree.write path content).1, .ok ()) := by
  obtain ⟨hmade, hname, place, hfound, hplace, hwrite⟩ := of_write_ok h
  rw [hwrite]
  have hfound' := find?_put place content hfound
  have hagain : ((tree.makeParents path).1.put place content).makeParents path =
      ((tree.makeParents path).1.put place content, true) :=
    makeParents_again hmade (by simp only [directories_put, List.Subset.refl])
  rw [write, hagain]
  simp only [if_true, hfound', isDirectory_put, hplace, hname, Bool.not_true, Bool.or_self,
    Bool.false_eq_true, if_false, put_put]

/-- A tree becomes another one by writing texts to the paths, in this order.
Writes that are refused in between do not count. -/
inductive Wrote (before : FileTree) : List String → FileTree → Prop
  | start : Wrote before [] before
  | wrote {paths : List String} {after : FileTree} (path text : String)
      (before_it : Wrote before paths after) (done : (after.write path (.text text)).2 = .ok ()) :
      Wrote before (paths ++ [path]) (after.write path (.text text)).1
  | refused {paths : List String} {after : FileTree} (path text : String) {failure : Failure}
      (before_it : Wrote before paths after)
      (failed : (after.write path (.text text)).2 = .error failure) :
      Wrote before paths (after.write path (.text text)).1

namespace Wrote

variable {paths : List String}

theorem trans {last : FileTree} {more : List String} (first : Wrote before paths after)
    (second : Wrote after more last) : Wrote before (paths ++ more) last := by
  induction second with
  | start => simpa using first
  | wrote path text _ done ih =>
    rw [← List.append_assoc]
    exact ih.wrote path text done
  | refused path text _ failed ih => exact ih.refused path text failed

/-- After the writes, a place that no written path leads to holds the file that
it held before. -/
theorem file?_eq (h : Wrote before paths after) {place : Place}
    (hplace : ∀ path ∈ paths, after.find? path ≠ some place) :
    after.file? place = before.file? place := by
  induction h with
  | start => rfl
  | @wrote paths middle path text _ done ih =>
    have hearlier : ∀ other ∈ paths, middle.find? other ≠ some place := fun other hother hfound =>
      hplace other (by simp [hother]) (find?_mono (directories_write middle path _) hfound)
    rw [file?_write_of_ne (hplace path (by simp)), ih hearlier]
  | @refused paths middle path text failure _ failed ih =>
    have hearlier : ∀ other ∈ paths, middle.find? other ≠ some place := fun other hother hfound =>
      hplace other hother (find?_mono (directories_write middle path _) hfound)
    rw [file?_write_refused failed, ih hearlier]

/-- After the writes, every written path leads to a file with text. -/
theorem exists_file? (h : Wrote before paths after) {path : String} (hpath : path ∈ paths) :
    ∃ place text, after.find? path = some place ∧ after.file? place = some (.text text) := by
  induction h with
  | start => cases hpath
  | @wrote paths middle last text _ done ih =>
    obtain ⟨place, hfound, hfile⟩ := find?_write done
    obtain hpath | rfl := List.mem_append.mp hpath |>.imp_right List.mem_singleton.mp
    · obtain ⟨other, text', hother, htext⟩ := ih hpath
      have hother := find?_mono (directories_write middle last (.text text)) hother
      by_cases hsame : other = place
      · exact ⟨place, text, hsame ▸ hother, hfile⟩
      · have hkept : (middle.write last (.text text)).1.find? last ≠ some other := by
          rw [hfound]
          exact fun heq => hsame (Option.some.inj heq).symm
        exact ⟨other, text', hother, (file?_write_of_ne hkept).trans htext⟩
    · exact ⟨place, text, hfound, hfile⟩
  | @refused paths middle last text failure _ failed ih =>
    obtain ⟨place, text', hfound, htext⟩ := ih hpath
    exact ⟨place, text', find?_mono (directories_write middle last _) hfound,
      (file?_write_refused failed place).trans htext⟩

end Wrote
end SchemaLoom.FileTree
