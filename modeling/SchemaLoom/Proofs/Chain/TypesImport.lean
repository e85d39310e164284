import SchemaLoom.Proofs.Chain.Steps
import SchemaLoom.Proofs.FileTree.Paths

/-!
# Where the defaults module imports its type from

The defaults module names the file of declarations by a specifier that starts
beside the module: the name of the file with the extension of what it is
compiled to. So the specifier leads to that file exactly if the two are written
in one directory.

A name that is an extension and nothing else has no stem to put the other
extension behind. The module that is looked at is the one that an input chain
leaves behind when it ends well.
-/

namespace SchemaLoom

namespace Chain

variable {settings : Settings} {start ended : Progress}

/-- An input chain that ends well has written the declarations and the defaults
module last. -/
theorem exists_of_input_ok {compiler : Compiler} {source types defaults : String}
    (htypes : settings.input.typesOut = some types)
    (hdefaults : settings.input.defaultsOut = some defaults)
    (h : outcome (input settings compiler source) start = (.ok (), ended)) :
    ∃ (schema : Json) (compiled : Compiled) (before : Progress),
      outcome (do
        writeText types compiled.text
        writeText defaults (defaultsModule settings schema compiled)) before = (.ok (), ended) := by
  obtain ⟨merged, loaded, -, h⟩ := outcome_bind_ok h
  obtain ⟨schema, allowed, -, h⟩ := outcome_bind_ok h
  have hafter : ∃ before, outcome (do
      let compiled ← compiling compiler schema settings.codegen.inputTypeName
      writeText types compiled.text
      writeText defaults (defaultsModule settings schema compiled)) before = (.ok (), ended) := by
    simp only [htypes, hdefaults] at h
    cases hout : settings.input.output with
    | none =>
        rw [hout] at h
        exact ⟨allowed, h⟩
    | some path =>
        rw [hout] at h
        obtain ⟨-, before, -, h⟩ := outcome_bind_ok h
        exact ⟨before, h⟩
  obtain ⟨before, h⟩ := hafter
  obtain ⟨compiled, before, -, h⟩ := outcome_bind_ok h
  exact ⟨schema, compiled, before, h⟩

theorem input_wrote_module {compiler : Compiler} {source types defaults : String}
    (htypes : settings.input.typesOut = some types)
    (hdefaults : settings.input.defaultsOut = some defaults)
    (h : outcome (input settings compiler source) start = (.ok (), ended)) :
    (∃ spec : InputDefaults, ended.tree.find? defaults = some (Place.ofPath [] defaults) ∧
      ended.tree.file? (Place.ofPath [] defaults) = some (.text (spec.moduleText
        ⟨settings.codegen.inputTypeName, settings.typesModule, settings.codegen.hostVariable⟩))) ∧
    ∃ text, ended.tree.find? types = some (Place.ofPath [] types) ∧
      ended.tree.file? (Place.ofPath [] types) = some (.text text) := by
  obtain ⟨schema, compiled, before, hlast⟩ := exists_of_input_ok htypes hdefaults h
  obtain ⟨_, middle, hfirst, hsecond⟩ := outcome_bind_ok hlast
  obtain ⟨hdoneTypes, hmiddle⟩ := write_of_outcome_writeText hfirst
  obtain ⟨hdone, hended⟩ := write_of_outcome_writeText hsecond
  have hwrote : before.tree.Wrote [types, defaults] ended.tree := by
    rw [hended]
    rw [hmiddle] at hdone ⊢
    exact (FileTree.Wrote.start.wrote types _ hdoneTypes).wrote defaults _ hdone
  constructor
  · obtain ⟨place, hfound, hfile⟩ := FileTree.find?_write hdone
    obtain rfl := FileTree.eq_ofPath_of_find? hfound
    rw [hended]
    exact ⟨_, hfound, hfile⟩
  · have htypes : types ∈ [types, defaults] := List.mem_cons_self
    obtain ⟨place, text, hfound, hfile⟩ := hwrote.exists_file? htypes
    obtain rfl := FileTree.eq_ofPath_of_find? hfound
    exact ⟨text, hfound, hfile⟩

end Chain

namespace Settings

variable {settings : Settings} {base : String}

/-- The specifier stays in the directory that it is looked up from. -/
theorem ofPath_typesModule (hmodule : settings.codegen.typesModule = none)
    (htypes : settings.input.typesOut = some (base ++ ".ts")) {last : String}
    (hlast : '/' ∉ last.toList) (hname : Path.fileName? (base ++ ".ts") = some (last ++ ".ts"))
    (directory : Place) : Place.ofPath directory settings.typesModule =
      directory ++ [(if last = "" then ".ts" else last) ++ ".js"] := by
  have hstem : Path.stem? (base ++ ".ts") = some (if last = "" then ".ts" else last) := by
    rw [Path.stem?, hname, Option.map_some, Path.isExtension_ts.stemOf_append]
  generalize hstem' : (if last = "" then ".ts" else last) = stem at hstem ⊢
  have hslash : '/' ∉ stem.toList := by
    subst hstem'
    split_ifs
    · exact Path.isExtension_ts.within
    · exact hlast
  have hspecifier : settings.typesModule = "./" ++ (stem ++ ".js") := by
    rw [typesModule, hmodule, htypes, ← String.append_assoc]
    simp only [Option.bind_some, hstem]
  have hsteps : Path.steps ("./" ++ (stem ++ ".js")) = ["."] ++ [stem ++ ".js"] := by
    have hpoint : Path.steps "." = ["."] := by decide +kernel
    have htext : ("./" ++ (stem ++ ".js")).toList =
        ".".toList ++ '/' :: (stem ++ ".js").toList := by
      rw [String.toList_append]
      rfl
    rw [Path.steps_of_slash htext, hpoint, Path.steps_append hslash Path.isExtension_js.within]
  have hrelative : Path.isAbsolute ("./" ++ (stem ++ ".js")) = false := by
    rw [Path.isAbsolute, String.toList_append]
    rfl
  obtain ⟨hstays, hup⟩ := Path.isExtension_js.name stem
  rw [Place.ofPath, hspecifier, hsteps, Place.along_concat _ _ hstays hup, Place.startOf,
    hrelative]
  rfl

/-- The specifier leads from the directory of the module to the declarations, as
they are when compiled, exactly if they are written in that directory and have a
name before their extension. The module with the specifier in it is what an
input chain that ends well leaves at its path. -/
theorem typesModule_leads_iff (settings : Settings) (base : String) {defaults : String}
    (hmodule : settings.codegen.typesModule = none)
    (htypes : settings.input.typesOut = some (base ++ ".ts"))
    (hdefaults : settings.input.defaultsOut = some defaults) :
    let directory := (Place.ofPath [] defaults).dropLast
    (Place.ofPath directory settings.typesModule = Place.ofPath [] (base ++ ".js") ↔
      directory = (Place.ofPath [] (base ++ ".ts")).dropLast ∧
        Path.fileName? (base ++ ".ts") ≠ some ".ts") ∧
    ∀ (compiler : Compiler) (source : String) (start ended : Progress),
      Chain.outcome (Chain.input settings compiler source) start = (.ok (), ended) →
      (∃ spec : InputDefaults, ended.tree.find? defaults = some (Place.ofPath [] defaults) ∧
        ended.tree.file? (Place.ofPath [] defaults) = some (.text (spec.moduleText
          ⟨settings.codegen.inputTypeName, settings.typesModule,
            settings.codegen.hostVariable⟩))) ∧
      ∃ text, ended.tree.find? (base ++ ".ts") = some (Place.ofPath [] (base ++ ".ts")) ∧
        ended.tree.file? (Place.ofPath [] (base ++ ".ts")) = some (.text text) := by
  intro directory
  refine ⟨?_, fun compiler source start ended h => Chain.input_wrote_module htypes hdefaults h⟩
  obtain ⟨place, last, hlast, hleads⟩ := Path.exists_ofPath_append base
  obtain ⟨hts, hname⟩ := hleads ".ts" Path.isExtension_ts
  obtain ⟨hjs, -⟩ := hleads ".js" Path.isExtension_js
  have hstem : (if last = "" then ".ts" else last) = last ↔ last ≠ "" := by
    split_ifs with h
    · subst h
      decide
    · exact ⟨fun _ => h, fun _ => rfl⟩
  have hempty : some (last ++ ".ts") ≠ some ".ts" ↔ last ≠ "" := by
    rw [ne_eq, Option.some_inj, String.append_eq_right_iff]
  rw [ofPath_typesModule hmodule htypes hlast hname, hjs, hts, hname, List.dropLast_concat,
    List.append_singleton_inj, String.append_left_inj, hstem, hempty]

/-- The points in a name stay in the specifier, up to the last, and so they do
in the module. -/
theorem typesModule_leads_points :
    let settings : Settings := {
      input := {
        schema := some "in.json", typesOut := some "gen/input.d.ts",
        defaultsOut := some "gen/input.defaults.ts" } }
    let tree : FileTree := ⟨[], [(["in.json"],
      .text "\x7b\"type\": \"object\", \"properties\": \x7b\x7d\x7d")]⟩
    Place.ofPath ["gen"] settings.typesModule = ["gen", "input.d.js"] ∧
    ∃ (ended : Progress) (spec : InputDefaults),
      Chain.outcome (Chain.input settings .builtin "in.json") ⟨tree, []⟩ = (.ok (), ended) ∧
      ended.tree.file? ["gen", "input.defaults.ts"] =
        some (.text (spec.moduleText ⟨"Input", "./input.d.js", "APIFY_IS_AT_HOME"⟩)) := by
  intro settings tree
  have hleads := typesModule_leads_iff settings "gen/input.d" rfl rfl rfl
  refine ⟨hleads.1.mpr ⟨by decide +kernel, by decide +kernel⟩, ?_⟩
  have hruns : (Chain.outcome (Chain.input settings .builtin "in.json") ⟨tree, []⟩).1 = .ok () := by
    decide +kernel
  have hspecifier : settings.typesModule = "./input.d.js" := by decide +kernel
  have hplace : Place.ofPath [] "gen/input.defaults.ts" = ["gen", "input.defaults.ts"] := by
    decide +kernel
  cases hends : Chain.outcome (Chain.input settings .builtin "in.json") ⟨tree, []⟩ with
  | mk result ended =>
      rw [hends] at hruns
      subst hruns
      obtain ⟨⟨spec, -, hmodule⟩, -⟩ := hleads.2 .builtin "in.json" ⟨tree, []⟩ ended hends
      rw [hspecifier, hplace] at hmodule
      exact ⟨ended, spec, rfl, hmodule⟩

/-- Declarations in a directory of their own are looked for beside the module
instead. -/
theorem typesModule_leads_beside :
    let settings : Settings := {
      input := {
        schema := some "in.json", typesOut := some "gen/types/input.ts",
        defaultsOut := some "gen/input-defaults.ts" } }
    let directory := (Place.ofPath [] "gen/input-defaults.ts").dropLast
    Place.ofPath directory settings.typesModule = ["gen", "input.js"] ∧
      Place.ofPath directory settings.typesModule ≠ Place.ofPath [] "gen/types/input.js" := by
  decide +kernel

end Settings

end SchemaLoom
