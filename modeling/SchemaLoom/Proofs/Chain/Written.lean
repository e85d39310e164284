import SchemaLoom.Proofs.Chain.Steps

/-!
# What a run has written

The paths that are set come in a fixed order: those of the input chain, then
those of the dataset chain. A run that ends well has written at all of them, and
a run that fails at the first of them; how far it came follows from what failed.

Outputs may have the same path, and a later step may read what an earlier one
wrote: nothing here asks that the paths differ. What a step would do is told
from the tree in front of it, so the dataset chain is told from the tree that
the input chain leaves.
-/

namespace SchemaLoom

def InputSettings.outputs (input : InputSettings) : List String :=
  if input.schema.isSome then [input.output, input.typesOut, input.defaultsOut].reduceOption else []

def DatasetSettings.outputs (dataset : DatasetSettings) : List String :=
  if dataset.schema.isSome then [dataset.envelope, dataset.typesOut].reduceOption else []

/-- The paths that a run writes at, those of the input chain first. -/
def Settings.outputs (settings : Settings) : List String :=
  settings.input.outputs ++ settings.dataset.outputs

namespace Chain

variable {settings : Settings} {compile : Json → String → Except Failure Compiled}
variable {source : String} {start middle : Progress} {schema : Json} {failure : Failure}

/-- The schema that the input chain stores, if it can be loaded from the files
of a tree. -/
def inputSchema (settings : Settings) (tree : FileTree) (source : String) : Except Failure Json :=
  (Schema.load tree (.ofDeep settings.merge.deep) source settings.input.overlay).bind stored

theorem writes_input (settings : Settings) (compile : Json → String → Except Failure Compiled)
    (source : String) :
    Writes [settings.input.output, settings.input.typesOut, settings.input.defaultsOut].reduceOption
      (input settings (.ofFunction compile) source) := by
  refine Writes.behind (by simp) fun merged => ?_
  refine Writes.behind (by simp) fun schema => ?_
  refine Writes.behind_optional (fun path => writes_writeJson path schema) ?_
  cases hset : settings.input.typesOut.isSome || settings.input.defaultsOut.isSome with
  | false =>
    simp only [Bool.or_eq_false_iff, Option.isSome_eq_false_iff, Option.isNone_iff_eq_none] at hset
    rw [hset.1, hset.2]
    exact writes_of_unchanged fun _ => rfl
  | true =>
    refine Writes.behind (by simp) fun compiled => ?_
    refine Writes.behind_optional (fun path => writes_writeText path _) ?_
    cases settings.input.defaultsOut with
    | none => exact writes_of_unchanged fun _ => rfl
    | some path => exact writes_writeText path _

/-- Where its schema cannot be loaded, the input chain writes nothing and ends
at once. -/
theorem outcome_input_unloaded {compiler : Compiler}
    (h : inputSchema settings start.tree source = .error failure) :
    outcome (input settings compiler source) start = (.error failure, start) := by
  simp only [input, outcome_bind, outcome_reading, outcome_giving]
  cases hload : Schema.load start.tree (.ofDeep settings.merge.deep) source
      settings.input.overlay with
  | error other =>
    have hother : other = failure := by simpa [inputSchema, hload, Except.bind] using h
    rw [hother]
  | ok merged =>
    have hstored : stored merged = .error failure := by
      simpa [inputSchema, hload, Except.bind] using h
    simp only [hstored]

theorem exists_of_inputSchema {tree : FileTree}
    (h : inputSchema settings tree source = .ok schema) :
    ∃ merged, Schema.load tree (.ofDeep settings.merge.deep) source settings.input.overlay =
      .ok merged ∧ stored merged = .ok schema := by
  cases hload : Schema.load tree (.ofDeep settings.merge.deep) source settings.input.overlay with
  | error other => simp [inputSchema, hload, Except.bind] at h
  | ok merged => exact ⟨merged, rfl, by simpa [inputSchema, hload, Except.bind] using h⟩

/-- Where the compiler gives up on its schema, the input chain has written that
schema at most. -/
theorem outcome_input_uncompiled
    (hschema : inputSchema settings start.tree source = .ok schema)
    (hset : (settings.input.typesOut.isSome || settings.input.defaultsOut.isSome) = true)
    (hcompile : compile schema settings.codegen.inputTypeName = .error failure)
    (hwrite : ∀ path ∈ settings.input.output,
      (start.tree.write path (.text (schema.pretty ++ "\n"))).2 = .ok ()) :
    ∃ tree, outcome (input settings (.ofFunction compile) source) start =
      (.error failure, ⟨tree, start.written ++ settings.input.output.toList⟩) := by
  obtain ⟨merged, hload, hstored⟩ := exists_of_inputSchema hschema
  simp only [input, outcome_bind, outcome_reading, outcome_giving, hload, hstored, hset, if_true]
  cases hout : settings.input.output with
  | none =>
    refine ⟨start.tree, ?_⟩
    simp [outcome_bind, hcompile]
  | some path =>
    have hwritten := outcome_writeText_ok (hwrite path hout)
    refine ⟨(start.tree.write path (.text (schema.pretty ++ "\n"))).1, ?_⟩
    simp [outcome_bind, writeJson, hwritten, hcompile]

theorem writes_updateEnvelope (path : String) (fields : Json) :
    Writes [path] (updateEnvelope path fields) :=
  Writes.behind (by simp) fun document => writes_writeJson path document

theorem writes_dataset (settings : Settings) (compile : Json → String → Except Failure Compiled)
    (source : String) :
    Writes [settings.dataset.envelope, settings.dataset.typesOut].reduceOption
      (dataset settings (.ofFunction compile) source) := by
  refine Writes.behind (by simp) fun merged => ?_
  refine Writes.behind_optional (fun path => writes_updateEnvelope path merged) ?_
  cases settings.dataset.typesOut with
  | none => exact writes_of_unchanged fun _ => rfl
  | some path => exact Writes.behind (by simp) fun compiled => writes_writeText path _

/-- The schema of the dataset, if it can be loaded from the files of a tree. -/
def datasetSchema (settings : Settings) (tree : FileTree) (source : String) : Except Failure Json :=
  Schema.load tree (.ofDeep settings.merge.deep) source settings.dataset.overlay

theorem outcome_dataset_unloaded {compiler : Compiler}
    (h : datasetSchema settings start.tree source = .error failure) :
    outcome (dataset settings compiler source) start = (.error failure, start) := by
  simp only [datasetSchema] at h
  simp only [dataset, outcome_bind, outcome_reading, h]

theorem outcome_dataset_unenveloped {compiler : Compiler} {path : String}
    (hschema : datasetSchema settings start.tree source = .ok schema)
    (hpath : settings.dataset.envelope = some path)
    (h : enveloped start.tree path schema = .error failure) :
    outcome (dataset settings compiler source) start = (.error failure, start) := by
  simp only [datasetSchema] at hschema
  simp only [dataset, outcome_bind, outcome_reading, hschema, hpath, updateEnvelope, h]

/-- Where the compiler gives up on its schema, the dataset chain has written the
envelope at most. -/
theorem outcome_dataset_uncompiled
    (hschema : datasetSchema settings start.tree source = .ok schema)
    (hset : settings.dataset.typesOut.isSome)
    (hcompile : compile schema settings.codegen.datasetTypeName = .error failure)
    (hwrite : ∀ path ∈ settings.dataset.envelope, ∃ document,
      enveloped start.tree path schema = .ok document ∧
      (start.tree.write path (.text (document.pretty ++ "\n"))).2 = .ok ()) :
    ∃ tree, outcome (dataset settings (.ofFunction compile) source) start =
      (.error failure, ⟨tree, start.written ++ settings.dataset.envelope.toList⟩) := by
  obtain ⟨types, htypes⟩ := Option.isSome_iff_exists.mp hset
  simp only [datasetSchema] at hschema
  simp only [dataset, outcome_bind, outcome_reading, hschema, htypes]
  cases hpath : settings.dataset.envelope with
  | none =>
    refine ⟨start.tree, ?_⟩
    simp [outcome_bind, hcompile]
  | some path =>
    obtain ⟨document, hdocument, hdone⟩ := hwrite path hpath
    have hwritten := outcome_writeText_ok hdone
    refine ⟨(start.tree.write path (.text (document.pretty ++ "\n"))).1, ?_⟩
    simp [outcome_bind, updateEnvelope, writeJson, hdocument, hwritten, hcompile]

def inputChain (settings : Settings) (compiler : Compiler) : Run Unit :=
  match settings.input.schema with
  | some source => input settings compiler source
  | none => return ()

def datasetChain (settings : Settings) (compiler : Compiler) : Run Unit :=
  match settings.dataset.schema with
  | some source => dataset settings compiler source
  | none => return ()

theorem both_eq (settings : Settings) (compiler : Compiler) :
    both settings compiler =
      if settings.input.schema.isNone && settings.dataset.schema.isNone then throw .noSource
      else inputChain settings compiler >>= fun _ => datasetChain settings compiler := by
  simp only [both, inputChain, datasetChain]
  cases settings.input.schema <;> cases settings.dataset.schema <;> rfl

theorem writes_inputChain (settings : Settings)
    (compile : Json → String → Except Failure Compiled) :
    Writes settings.input.outputs (inputChain settings (.ofFunction compile)) := by
  simp only [inputChain, InputSettings.outputs]
  cases settings.input.schema with
  | none => exact writes_of_unchanged fun _ => rfl
  | some source => exact writes_input settings compile source

theorem writes_datasetChain (settings : Settings)
    (compile : Json → String → Except Failure Compiled) :
    Writes settings.dataset.outputs (datasetChain settings (.ofFunction compile)) := by
  simp only [datasetChain, DatasetSettings.outputs]
  cases settings.dataset.schema with
  | none => exact writes_of_unchanged fun _ => rfl
  | some source => exact writes_dataset settings compile source

theorem writes_both (settings : Settings) (compile : Json → String → Except Failure Compiled) :
    Writes settings.outputs (both settings (.ofFunction compile)) := by
  rw [both_eq]
  split
  · rename_i hnone
    simp only [Bool.and_eq_true, Option.isNone_iff_eq_none] at hnone
    simp only [Settings.outputs, InputSettings.outputs, DatasetSettings.outputs, hnone]
    exact writes_of_unchanged fun _ => rfl
  · exact (writes_inputChain settings compile).bind fun _ => writes_datasetChain settings compile

end Chain

namespace Settings

variable {settings : Settings} {compile : Json → String → Except Failure Compiled}
variable {tree : FileTree} {source : String} {middle : Progress} {failure : Failure}

/-- How the input chain ends when a run starts from a tree. -/
def afterInput (settings : Settings) (compile : Json → String → Except Failure Compiled)
    (tree : FileTree) : Except Failure Unit × Progress :=
  Chain.outcome (Chain.inputChain settings (.ofFunction compile)) ⟨tree, []⟩

/-- What a run did to a tree, and how far it came for each reason to fail. The
tree became what it is by writing at the paths that are reported, in their
order. They are the first of the paths that are set, and all of them if nothing
failed; each leads to a file with text, and a place that none leads to holds
what it held before. Without a schema to start from, or without that of the
input chain, nothing is written, and without its declarations its schema only,
if a path is set. Without the schema or the envelope of the dataset all files of
the input chain are written, and without the declarations of the dataset its
envelope, too. -/
structure Ended (settings : Settings) (compile : Json → String → Except Failure Compiled)
    (tree : FileTree) (result : Except Failure Unit) (progress : Progress) : Prop where
  wrote : tree.Wrote progress.written progress.tree
  first : progress.written <+: settings.outputs
  all : result = .ok () → progress.written = settings.outputs
  present : ∀ path ∈ progress.written, ∃ place text,
    progress.tree.find? path = some place ∧ progress.tree.file? place = some (.text text)
  kept : ∀ place, (∀ path ∈ progress.written, progress.tree.find? path ≠ some place) →
    progress.tree.file? place = tree.file? place
  noSource : settings.input.schema = none → settings.dataset.schema = none →
    result = .error .noSource ∧ progress = ⟨tree, []⟩
  inputUnloaded : ∀ source ∈ settings.input.schema, ∀ failure,
    Chain.inputSchema settings tree source = .error failure →
    result = .error failure ∧ progress = ⟨tree, []⟩
  inputUncompiled : ∀ source ∈ settings.input.schema, ∀ schema failure,
    Chain.inputSchema settings tree source = .ok schema →
    settings.input.typesOut.isSome ∨ settings.input.defaultsOut.isSome →
    compile schema settings.codegen.inputTypeName = .error failure →
    (∀ path ∈ settings.input.output,
      (tree.write path (.text (schema.pretty ++ "\n"))).2 = .ok ()) →
    result = .error failure ∧ progress.written = settings.input.output.toList
  datasetUnloaded : ∀ source ∈ settings.dataset.schema, ∀ middle failure,
    settings.afterInput compile tree = (.ok (), middle) →
    Chain.datasetSchema settings middle.tree source = .error failure →
    result = .error failure ∧ progress = middle ∧ progress.written = settings.input.outputs
  datasetUnenveloped : ∀ source ∈ settings.dataset.schema, ∀ middle schema failure,
    settings.afterInput compile tree = (.ok (), middle) →
    Chain.datasetSchema settings middle.tree source = .ok schema →
    ∀ path ∈ settings.dataset.envelope,
    Chain.enveloped middle.tree path schema = .error failure →
    result = .error failure ∧ progress = middle ∧ progress.written = settings.input.outputs
  datasetUncompiled : ∀ source ∈ settings.dataset.schema, ∀ middle schema failure,
    settings.afterInput compile tree = (.ok (), middle) →
    Chain.datasetSchema settings middle.tree source = .ok schema →
    settings.dataset.typesOut.isSome →
    compile schema settings.codegen.datasetTypeName = .error failure →
    (∀ path ∈ settings.dataset.envelope, ∃ document,
      Chain.enveloped middle.tree path schema = .ok document ∧
      (middle.tree.write path (.text (document.pretty ++ "\n"))).2 = .ok ()) →
    result = .error failure ∧
      progress.written = settings.input.outputs ++ settings.dataset.envelope.toList

theorem run_eq_outcome (settings : Settings) (compiler : Compiler) (tree : FileTree) :
    settings.run compiler tree = Chain.outcome (Chain.both settings compiler) ⟨tree, []⟩ := rfl

/-- A run ends where the input chain fails. -/
theorem run_of_input_error (hsource : settings.input.schema = some source)
    (h : Chain.outcome (Chain.input settings (.ofFunction compile) source) ⟨tree, []⟩ =
      (.error failure, middle)) :
    settings.run (.ofFunction compile) tree = (.error failure, middle) := by
  rw [run_eq_outcome, Chain.both_eq, hsource]
  simp only [Option.isNone_some, Bool.false_and, Bool.false_eq_true, if_false,
    Chain.outcome_bind, Chain.inputChain, hsource, h]

/-- A run goes on with the dataset chain where the input chain ends. -/
theorem run_of_input_ok (hsource : settings.dataset.schema = some source)
    (h : settings.afterInput compile tree = (.ok (), middle)) :
    settings.run (.ofFunction compile) tree =
      Chain.outcome (Chain.dataset settings (.ofFunction compile) source) middle := by
  rw [afterInput] at h
  rw [run_eq_outcome, Chain.both_eq, hsource]
  simp only [Option.isNone_some, Bool.and_false, Bool.false_eq_true, if_false,
    Chain.outcome_bind, h, Chain.datasetChain, hsource]

theorem written_of_afterInput (h : settings.afterInput compile tree = (.ok (), middle)) :
    middle.written = settings.input.outputs :=
  ((Chain.writes_inputChain settings compile).reported h).2.2 () rfl

/-- A run writes at the first of the paths that are set, in their order; which
of them follows from the step that fails. All other files stay as they were. -/
theorem ended_run (settings : Settings) (compile : Json → String → Except Failure Compiled)
    (tree : FileTree) :
    settings.Ended compile tree (settings.run (.ofFunction compile) tree).1
      (settings.run (.ofFunction compile) tree).2 := by
  generalize hrun : settings.run (.ofFunction compile) tree = ends
  obtain ⟨result, progress⟩ := ends
  have hreported := (Chain.writes_both settings compile).reported hrun
  exact {
    wrote := hreported.1
    first := hreported.2.1
    all := hreported.2.2 ()
    present := fun path hpath => hreported.1.exists_file? hpath
    kept := fun place hplace => hreported.1.file?_eq hplace
    noSource := by
      intro hinput hdataset
      rw [run_eq_outcome, Chain.both_eq, hinput, hdataset] at hrun
      cases hrun
      exact ⟨rfl, rfl⟩
    inputUnloaded := by
      intro source hsource failure hschema
      cases hrun.symm.trans (run_of_input_error hsource (Chain.outcome_input_unloaded hschema))
      exact ⟨rfl, rfl⟩
    inputUncompiled := by
      intro source hsource schema failure hschema hset hcompile hwrite
      obtain ⟨after, hafter⟩ : ∃ after,
          Chain.outcome (Chain.input settings (.ofFunction compile) source) ⟨tree, []⟩ =
            (.error failure, ⟨after, [] ++ settings.input.output.toList⟩) :=
        Chain.outcome_input_uncompiled hschema (by simpa using hset) hcompile hwrite
      cases hrun.symm.trans (run_of_input_error hsource hafter)
      exact ⟨rfl, List.nil_append _⟩
    datasetUnloaded := by
      intro source hsource middle failure hinput hschema
      have hends :=
        (run_of_input_ok hsource hinput).trans (Chain.outcome_dataset_unloaded hschema)
      cases hrun.symm.trans hends
      exact ⟨rfl, rfl, written_of_afterInput hinput⟩
    datasetUnenveloped := by
      intro source hsource middle schema failure hinput hschema path hpath henvelope
      have hends := (run_of_input_ok hsource hinput).trans
        (Chain.outcome_dataset_unenveloped hschema hpath henvelope)
      cases hrun.symm.trans hends
      exact ⟨rfl, rfl, written_of_afterInput hinput⟩
    datasetUncompiled := by
      intro source hsource middle schema failure hinput hschema hset hcompile hwrite
      obtain ⟨after, hafter⟩ := Chain.outcome_dataset_uncompiled hschema hset hcompile hwrite
      have hends := (run_of_input_ok hsource hinput).trans hafter
      cases hrun.symm.trans hends
      exact ⟨rfl, congrArg (· ++ _) (written_of_afterInput hinput)⟩ }

/-- A compiler that gives up leaves behind the schema that is stored, and no
declarations. -/
theorem ended_run_uncompiled :
    let settings : Settings := {
      input := {
        schema := some "in.json", output := some "out/in.json", typesOut := some "out/in.ts" } }
    let tree : FileTree := ⟨[], [(["in.json"],
      .text "\x7b\"type\": \"object\", \"properties\": \x7b\x7d\x7d")]⟩
    let compile : Json → String → Except Failure Compiled := fun _ _ => .error (.compiler "no")
    (settings.run (.ofFunction compile) tree).1 = .error (.compiler "no") ∧
      (settings.run (.ofFunction compile) tree).2.written = ["out/in.json"] := by
  intro settings tree compile
  have hloaded : (Chain.inputSchema settings tree "in.json").isOk = true := by decide +kernel
  have hwrite : ∀ path ∈ settings.input.output, ∀ text : String,
      (tree.write path (.text text)).2 = .ok () := by
    intro path hpath text
    obtain rfl := Option.some.inj hpath
    rw [tree.snd_write_eq _ _ (.text "")]
    decide +kernel
  generalize hschema : Chain.inputSchema settings tree "in.json" = loaded at hloaded
  cases loaded with
  | error failure => cases hloaded
  | ok schema =>
    have hends := (ended_run settings compile tree).inputUncompiled "in.json" rfl schema _ hschema
      (.inl rfl) rfl fun path hpath => hwrite path hpath _
    refine ⟨hends.1, ?_⟩
    rw [hends.2]
    rfl

end Settings
end SchemaLoom
