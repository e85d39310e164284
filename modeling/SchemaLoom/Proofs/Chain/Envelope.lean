import SchemaLoom.Proofs.Chain.Steps
import SchemaLoom.Proofs.Json.Indented

/-!
# Updating an envelope

The envelope of a dataset is read, its `fields` are replaced, and it is written
again. Where it cannot be read as an object, nothing is written. Otherwise it is
the same object afterwards, with the new `fields` in the place of the old ones
or behind all else.

Since it is now written as the writer writes it, replacing its `fields` once
more leaves it as it is, byte for byte. What the update does is told by what the
path of the envelope leads to, one case for each way in which reading can end.
-/

namespace SchemaLoom

theorem FileTree.readSource_of_read {tree : FileTree} {path text : String}
    (h : tree.read path = .ok text) :
    tree.readSource path = (Json.parse text).mapError (.unreadable path) := by
  obtain ⟨place, hfound, hfile⟩ := read_eq_ok_iff.mp h
  have hthere : tree.pathExists path = true := by
    rw [pathExists, hfound, Option.any_some, occupied, hfile, Option.isSome_some, Bool.or_true]
  rw [readSource, if_pos hthere, readJson, h]

namespace Json

variable {document : Fields Json} {fields : Json}

theorem uniqueKeys_set (hdocument : UniqueKeys (.object document)) (hfields : fields.UniqueKeys)
    (key : String) : UniqueKeys (.object (document.set key fields)) := by
  rw [uniqueKeys_object] at hdocument ⊢
  exact ⟨hdocument.1.set key fields, Fields.forall_mem_set hdocument.2 hfields⟩

theorem wholeNumbers_set (hdocument : WholeNumbers (.object document))
    (hfields : fields.WholeNumbers) (key : String) :
    WholeNumbers (.object (document.set key fields)) := by
  rw [wholeNumbers_object] at hdocument ⊢
  exact Fields.forall_mem_set hdocument hfields

theorem nesting_set_le {depth : Nat} (hdocument : nesting (.object document) ≤ depth + 1)
    (hfields : fields.nesting ≤ depth) (key : String) :
    nesting (.object (document.set key fields)) ≤ depth + 1 := by
  rw [nesting, Nat.add_le_add_iff_right, nestingFields_le_iff] at hdocument ⊢
  exact Fields.forall_mem_set (P := fun v : Json => v.nesting ≤ depth) hdocument hfields

end Json

namespace Chain

variable {path text : String} {fields value : Json} {document : Fields Json}
variable {start ended : Progress} {failure : Failure}

theorem enveloped_of_read (fields : Json) (h : start.tree.read path = .ok text)
    (hparse : Json.parse text = .ok (.object document)) :
    enveloped start.tree path fields = .ok (.object (Fields.set "fields" fields document)) := by
  rw [enveloped, FileTree.readSource_of_read h, hparse]
  rfl

theorem outcome_updateEnvelope_error (h : enveloped start.tree path fields = .error failure) :
    outcome (updateEnvelope path fields) start = (.error failure, start) := by
  simp only [updateEnvelope, outcome_bind, outcome_reading, h]

theorem outcome_updateEnvelope_ok (h : enveloped start.tree path fields = .ok value)
    (hwrite : (start.tree.write path (.text (value.pretty ++ "\n"))).2 = .ok ()) :
    outcome (updateEnvelope path fields) start =
      (.ok (), ⟨(start.tree.write path (.text (value.pretty ++ "\n"))).1,
        start.written ++ [path]⟩) := by
  simp only [updateEnvelope, outcome_bind, outcome_reading, h, writeJson,
    outcome_writeText_ok hwrite]

/-- How an envelope ends that was read as an object. It was written, and is read
as the same object but for the value of `fields`: the keys are in the same
order, with `fields` behind them if it is new. Every other file is as it was,
and the same update once more ends well and changes no byte of any file. -/
structure Updated (path : String) (fields : Json) (document : Fields Json)
    (start ended : Progress) : Prop where
  written : ended.written = start.written ++ [path]
  reread : ∃ after, ended.tree.readSource path = .ok (.object after) ∧
    Fields.keys after = (if "fields" ∈ Fields.keys document then Fields.keys document
      else Fields.keys document ++ ["fields"]) ∧
    Fields.get? "fields" after = some fields ∧
    ∀ key, key ≠ "fields" → Fields.get? key after = Fields.get? key document
  kept : ∀ place, start.tree.find? path ≠ some place →
    ended.tree.file? place = start.tree.file? place
  again : outcome (updateEnvelope path fields) ended =
    (.ok (), ⟨ended.tree, ended.written ++ [path]⟩)

/-- How the update of an envelope ends, by what its path leads to: nothing,
something that holds no text, a text but not of a document, a document but no
object, or an object, whatever stands behind it in the file. -/
structure UpdateEnds (path : String) (fields : Json) (start : Progress) : Prop where
  missing : start.tree.pathExists path = false →
    outcome (updateEnvelope path fields) start = (.error (.sourceNotFound path), start)
  noText : start.tree.pathExists path = true → (∀ text, start.tree.read path ≠ .ok text) →
    outcome (updateEnvelope path fields) start = (.error .fileAccess, start)
  noDocument : ∀ text reason, start.tree.read path = .ok text → Json.parse text = .error reason →
    outcome (updateEnvelope path fields) start = (.error (.unreadable path reason), start)
  noObject : ∀ text value, start.tree.read path = .ok text → Json.parse text = .ok value →
    value.isObject = false →
    outcome (updateEnvelope path fields) start = (.error (.envelopeNotObject path), start)
  updated : ∀ text document, start.tree.read path = .ok text →
    Json.parse text = .ok (.object document) → Json.WholeNumbers (.object document) →
    (∀ content, (start.tree.write path content).2 = .ok ()) →
    ∃ ended, outcome (updateEnvelope path fields) start = (.ok (), ended) ∧
      Updated path fields document start ended

/-- An envelope that holds what the writer makes of its object is settled if the
object has the `fields` already: the update writes the same once more. -/
theorem outcome_updateEnvelope_settled
    (hread : start.tree.read path = .ok ((Json.object document).pretty ++ "\n"))
    (hparse : Json.parse ((Json.object document).pretty ++ "\n") = .ok (.object document))
    (hfields : Fields.get? "fields" document = some fields)
    (hwrite : start.tree.write path (.text ((Json.object document).pretty ++ "\n")) =
      (start.tree, .ok ())) :
    outcome (updateEnvelope path fields) start =
      (.ok (), ⟨start.tree, start.written ++ [path]⟩) := by
  have henveloped := enveloped_of_read fields hread hparse
  rw [Fields.set_of_get? hfields] at henveloped
  rw [outcome_updateEnvelope_ok henveloped (by rw [hwrite]), hwrite]

/-- An object in an envelope is updated, and the update is settled. -/
theorem updated_of_object (hu : fields.UniqueKeys) (hw : fields.WholeNumbers)
    (hn : fields.nesting + 1 ≤ Json.maxDepth) (hread : start.tree.read path = .ok text)
    (hparse : Json.parse text = .ok (.object document))
    (hdocument : Json.WholeNumbers (.object document))
    (hwrite : ∀ content, (start.tree.write path content).2 = .ok ()) :
    ∃ ended, outcome (updateEnvelope path fields) start = (.ok (), ended) ∧
      Updated path fields document start ended := by
  have henveloped := enveloped_of_read fields hread hparse
  have hback := Json.parse_pretty_newline
    (Json.uniqueKeys_set (Json.uniqueKeys_of_parse hparse) hu "fields")
    (Json.wholeNumbers_set hdocument hw "fields")
    (Json.nesting_set_le (Json.nesting_le_of_parse hparse) (Nat.le_of_succ_le_succ hn) "fields")
  have hnew := Fields.get?_set_self "fields" fields document
  have hkeys := Fields.keys_set "fields" fields document
  have hothers := fun key (hkey : key ≠ "fields") => Fields.get?_set_of_ne hkey fields document
  generalize Fields.set "fields" fields document = after at henveloped hback hnew hkeys hothers
  -- From here on the tree behind the write is known by what the write does, not by how.
  have hdone := hwrite (.text ((Json.object after).pretty ++ "\n"))
  have hends := outcome_updateEnvelope_ok henveloped hdone
  have hlast := FileTree.read_write hdone
  have hagain := FileTree.write_again hdone
  have hkept := fun place (hplace : start.tree.find? path ≠ some place) =>
    FileTree.file?_write_of_read hread (.text ((Json.object after).pretty ++ "\n")) hplace
  generalize (start.tree.write path (.text ((Json.object after).pretty ++ "\n"))).1 = tree
    at hends hlast hagain hkept
  refine ⟨_, hends, ?_⟩
  exact {
    written := rfl
    reread := ⟨after, by rw [FileTree.readSource_of_read hlast, hback]; rfl, hkeys, hnew, hothers⟩
    kept := hkept
    again := outcome_updateEnvelope_settled hlast hback hnew hagain }

/-- An update is refused before anything is written, or it replaces the `fields`
of the envelope and nothing else, for good. -/
theorem updateEnvelope_ends (path : String) {fields : Json} (hu : fields.UniqueKeys)
    (hw : fields.WholeNumbers) (hn : fields.nesting ≤ 126) (start : Progress) :
    UpdateEnds path fields start where
  missing h := by
    refine outcome_updateEnvelope_error ?_
    rw [enveloped, FileTree.readSource, h]
    rfl
  noText hthere hread := by
    refine outcome_updateEnvelope_error ?_
    rw [enveloped, FileTree.readSource, if_pos hthere, FileTree.readJson,
      FileTree.read_eq_error hread]
  noDocument text reason hread hparse := by
    refine outcome_updateEnvelope_error ?_
    rw [enveloped, FileTree.readSource_of_read hread, hparse]
    rfl
  noObject text value hread hparse hobject := by
    refine outcome_updateEnvelope_error ?_
    rw [enveloped, FileTree.readSource_of_read hread, hparse]
    cases value with
    | object document => cases hobject
    | _ => rfl
  updated text document hread hparse hdocument hwrite :=
    updated_of_object hu hw (Nat.succ_le_succ hn) hread hparse hdocument hwrite

/-- Keys that the file repeats are there once afterwards, and `fields` keeps its
place among them. -/
theorem updateEnvelope_ends_repeated :
    let tree : FileTree := ⟨[["out"]], [(["out", "set.json"],
      .text "\x7b\"a\": 1, \"fields\": 2, \"a\": [\"\\u0041\"], \"z\": null\x7d trailing")]⟩
    let fields : Json := .object [("type", .string "object")]
    ∃ after ended, outcome (updateEnvelope "out/set.json" fields) ⟨tree, []⟩ = (.ok (), ended) ∧
      ended.tree.readSource "out/set.json" = .ok (.object after) ∧
      Fields.keys after = ["a", "fields", "z"] ∧ Fields.get? "fields" after = some fields ∧
      outcome (updateEnvelope "out/set.json" fields) ended =
        (.ok (), ⟨ended.tree, ["out/set.json", "out/set.json"]⟩) := by
  intro tree fields
  generalize htext :
    "\x7b\"a\": 1, \"fields\": 2, \"a\": [\"\\u0041\"], \"z\": null\x7d trailing" = text
  have hread : tree.read "out/set.json" = .ok text := by
    subst htext
    decide +kernel
  have hobject : ((Json.parse text).toOption.bind Json.object?).any (fun document =>
      decide (Fields.keys document = ["a", "fields", "z"] ∧
        Json.WholeNumbers (.object document))) = true := by
    subst htext
    decide +kernel
  have hwrite : ∀ content, (tree.write "out/set.json" content).2 = .ok () := by
    intro content
    rw [tree.snd_write_eq _ _ (.text "")]
    decide +kernel
  have hfields : fields.UniqueKeys ∧ fields.WholeNumbers ∧ fields.nesting ≤ 126 := by
    refine ⟨by simp [fields, Fields.Distinct], by simp [fields], by decide⟩
  have hall := updateEnvelope_ends "out/set.json" hfields.1 hfields.2.1 hfields.2.2 ⟨tree, []⟩
  cases hparse : Json.parse text with
  | error reason =>
      rw [hparse] at hobject
      cases hobject
  | ok value =>
      rw [hparse] at hobject
      cases value with
      | object document =>
          obtain ⟨hkeys, hwhole⟩ := of_decide_eq_true hobject
          obtain ⟨ended, hends, hupdated⟩ := hall.updated text document hread hparse hwhole hwrite
          obtain ⟨after, hreread, hafter, hnew, -⟩ := hupdated.reread
          refine ⟨after, ended, hends, hreread, ?_, hnew, ?_⟩
          · rw [hafter, hkeys]
            decide
          · rw [hupdated.again, hupdated.written]
            rfl
      | _ => cases hobject

end Chain

end SchemaLoom
