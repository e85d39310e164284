import Mathlib.Data.List.ReduceOption
import SchemaLoom.Chain.Run
import SchemaLoom.Proofs.FileTree.Writes

/-!
# Steps of a run

A step ends with a result and with the progress made, also where it failed. It
writes at certain paths, in a certain order: at all of them if it ends well, and
at the first of them only if it fails.

Of two steps one after the other, the second writes at its paths only if the
first has written at all of its own. So the paths of a chain are those of its
steps, and `Writes` of the whole chain is put together by the lemmas on `bind`.
-/

namespace SchemaLoom.Chain

/-- What a step gives when it starts from some progress, and the progress behind
it. -/
def outcome {α : Type} (step : Run α) (start : Progress) : Except Failure α × Progress :=
  step.run.run start

variable {α β : Type} {start middle last : Progress}

@[simp] theorem outcome_pure (value : α) : outcome (pure value) start = (.ok value, start) := rfl

@[simp] theorem outcome_throw (failure : Failure) :
    outcome (throw failure : Run α) start = (.error failure, start) := rfl

@[simp] theorem outcome_get : outcome (get : Run Progress) start = (.ok start, start) := rfl

@[simp] theorem outcome_set (next : Progress) :
    outcome (set next : Run PUnit) start = (.ok ⟨⟩, next) := rfl

@[simp] theorem outcome_modify (change : Progress → Progress) :
    outcome (modify change : Run PUnit) start = (.ok ⟨⟩, change start) := rfl

/-- A step behind another one starts from the progress of that one, unless it
failed. -/
theorem outcome_bind (first : Run α) (next : α → Run β) :
    outcome (first >>= next) start =
      match outcome first start with
      | (.ok value, middle) => outcome (next value) middle
      | (.error failure, middle) => (.error failure, middle) := by
  change (ExceptT.bindCont next (outcome first start).1) (outcome first start).2 = _
  obtain ⟨result, middle⟩ := outcome first start
  cases result <;> rfl

/-- If two steps end well, both do, one after the other. -/
theorem outcome_bind_ok {first : Run α} {next : α → Run β} {value : β}
    (h : outcome (first >>= next) start = (.ok value, last)) :
    ∃ result middle, outcome first start = (.ok result, middle) ∧
      outcome (next result) middle = (.ok value, last) := by
  rw [outcome_bind] at h
  cases hfirst : outcome first start with
  | mk result middle =>
      rw [hfirst] at h
      cases result with
      | error failure => cases h
      | ok result => exact ⟨result, middle, rfl, h⟩

@[simp] theorem outcome_reading (read : FileTree → Except Failure α) :
    outcome (reading read) start = (read start.tree, start) := by
  simp only [reading, outcome_bind, outcome_get]
  cases read start.tree <;> rfl

@[simp] theorem outcome_giving (result : Except Failure α) :
    outcome (giving result) start = (result, start) :=
  outcome_reading fun _ => result

@[simp] theorem outcome_compiling (compile : Json → String → Except Failure Compiled)
    (schema : Json) (name : String) :
    outcome (compiling (.ofFunction compile) schema name) start = (compile schema name, start) := by
  simp only [compiling, Compiler.ofFunction, outcome_bind, outcome_get, outcome_set]
  cases compile schema name <;> rfl

theorem outcome_writeText_ok {path text : String}
    (h : (start.tree.write path (.text text)).2 = .ok ()) :
    outcome (writeText path text) start =
      (.ok (), ⟨(start.tree.write path (.text text)).1, start.written ++ [path]⟩) := by
  simp only [writeText, outcome_bind, outcome_get, outcome_set, h, outcome_modify]

theorem outcome_writeText_error {path text : String} {failure : Failure}
    (h : (start.tree.write path (.text text)).2 = .error failure) :
    outcome (writeText path text) start =
      (.error failure, ⟨(start.tree.write path (.text text)).1, start.written⟩) := by
  simp only [writeText, outcome_bind, outcome_get, outcome_set, h, outcome_throw]

theorem write_of_outcome_writeText {path text : String}
    (h : outcome (writeText path text) start = (.ok (), last)) :
    (start.tree.write path (.text text)).2 = .ok () ∧
      last.tree = (start.tree.write path (.text text)).1 := by
  cases hwrite : (start.tree.write path (.text text)).2 with
  | ok =>
      rw [outcome_writeText_ok hwrite] at h
      generalize (start.tree.write path (.text text)).1 = tree at h ⊢
      obtain ⟨-, rfl⟩ := Prod.mk.inj h
      exact ⟨rfl, rfl⟩
  | error failure =>
      rw [outcome_writeText_error hwrite] at h
      cases h

/-- A step writes at the paths: at all of them, in this order, if it ends well,
and at the first of them if it fails. -/
def Writes (paths : List String) (step : Run α) : Prop :=
  ∀ start, ∃ written, start.tree.Wrote written (outcome step start).2.tree ∧
    (outcome step start).2.written = start.written ++ written ∧ written <+: paths ∧
    ∀ value, (outcome step start).1 = .ok value → written = paths

/-- A step that leaves the progress as it is writes nothing. -/
theorem writes_of_unchanged {step : Run α} (h : ∀ start, (outcome step start).2 = start) :
    Writes [] step := by
  intro start
  refine ⟨[], ?_, ?_, List.prefix_rfl, fun _ _ => rfl⟩
  · rw [h start]
    exact .start
  · rw [h start, List.append_nil]

theorem writes_writeText (path text : String) : Writes [path] (writeText path text) := by
  intro start
  cases h : (start.tree.write path (.text text)).2 with
  | ok =>
    have hwrote := FileTree.Wrote.start.wrote path text h
    simp only [outcome_writeText_ok h]
    exact ⟨[path], hwrote, rfl, List.prefix_rfl, fun _ _ => rfl⟩
  | error failure =>
    have hrefused := FileTree.Wrote.start.refused path text h
    simp only [outcome_writeText_error h]
    refine ⟨[], hrefused, (List.append_nil _).symm, List.nil_prefix, fun _ hvalue => ?_⟩
    cases hvalue

theorem writes_writeJson (path : String) (value : Json) : Writes [path] (writeJson path value) :=
  writes_writeText path _

namespace Writes

variable {paths more : List String}

/-- What a step reports that starts with nothing written. -/
theorem reported {step : Run α} (h : Writes paths step) {tree : FileTree}
    {result : Except Failure α} (hstep : outcome step ⟨tree, []⟩ = (result, middle)) :
    tree.Wrote middle.written middle.tree ∧ middle.written <+: paths ∧
      ∀ value, result = .ok value → middle.written = paths := by
  obtain ⟨written, hwrote, hwritten, hprefix, hall⟩ := h ⟨tree, []⟩
  simp only [hstep, List.nil_append] at hwrote hwritten hall
  subst hwritten
  exact ⟨hwrote, hprefix, hall⟩

/-- Two steps one after the other write at the paths of the first and then at
those of the second. -/
theorem bind {step : Run α} {next : α → Run β} (first : Writes paths step)
    (second : ∀ value, Writes more (next value)) : Writes (paths ++ more) (step >>= next) := by
  intro start
  obtain ⟨written, hwrote, hwritten, hprefix, hall⟩ := first start
  rw [outcome_bind]
  cases hstep : outcome step start with
  | mk result middle =>
    rw [hstep] at hwrote hwritten hall
    cases result with
    | error failure =>
      refine ⟨written, hwrote, hwritten, hprefix.trans (List.prefix_append _ _), ?_⟩
      intro value hvalue
      cases hvalue
    | ok value =>
      obtain rfl := hall value rfl
      obtain ⟨rest, hwrote', hwritten', hprefix', hall'⟩ := second value middle
      refine ⟨written ++ rest, hwrote.trans hwrote', ?_, ?_, ?_⟩
      · rw [hwritten', hwritten, List.append_assoc]
      · exact (List.prefix_append_right_inj written).mpr hprefix'
      · intro last hlast
        rw [hall' last hlast]

theorem behind {step : Run α} {next : α → Run β} (h : ∀ start, (outcome step start).2 = start)
    (second : ∀ value, Writes paths (next value)) : Writes paths (step >>= next) := by
  simpa using (writes_of_unchanged h).bind second

/-- A file that is written if a path is set for it may stand in front. -/
theorem behind_optional {path? : Option String} {rest : List (Option String)}
    {write : String → Run Unit} {next : Unit → Run α} (first : ∀ path, Writes [path] (write path))
    (second : Writes rest.reduceOption (next ())) :
    Writes (path? :: rest).reduceOption
      (match path? with
        | some path => write path >>= next
        | _ => next ()) := by
  cases path? with
  | none => simpa [List.reduceOption_cons_of_none] using second
  | some path =>
    rw [List.reduceOption_cons_of_some]
    exact (first path).bind fun _ => second

end Writes
end SchemaLoom.Chain
