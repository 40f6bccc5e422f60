import StateHolders.CommandLine.Command
import StateHolders.Proofs.Diagnostic.Summary
import StateHolders.Proofs.Generation.Failures
import StateHolders.Proofs.Input.File
import StateHolders.Proofs.Store.Directory

/-! Exit status and error output. A command that fails says why, one that succeeds prints no complaint, and
what the generating commands complain of ends in the number of complaints. -/

namespace StateHolders

open Report (EndsInSummary)
open Source (File)
open Store (writeAll)

namespace Store.Directory

theorem wouldWrite_eq_nil {d : Directory} (hd : d.checkOnly = false) {t t' : FileTree}
    {files : List File} {summary : WriteSummary}
    (h : writeAll d.write t files = (t', .ok summary)) : summary.wouldWrite = [] := by
  induction files generalizing t summary with
  | nil =>
    cases h
    rfl
  | cons f files ih =>
    obtain ⟨mid, outcome, rest, hwrite, hrest, rfl⟩ := writeAll_cons_eq_ok h
    have hnone : rest.wouldWrite = [] := ih hrest
    -- neither outcome of a write adds to the paths
    rcases write_eq_ok hd hwrite with ⟨-, -, rfl⟩ | ⟨-, rfl, -, -⟩
    · exact hnone
    · exact hnone

end Store.Directory

theorem Store.WriteError.isError_diagnostic (e : Store.WriteError) :
    e.diagnostic.isError = true := rfl

namespace Execution

theorem status_eq_zero_iff {e : Execution} : e.status = 0 ↔ e.success = true := by
  rw [status]
  split <;> simp_all

def IsTruthful (e : Execution) : Prop := e.success = true ↔ e.stderr = ""

theorem isTruthful_of_silent (stdout : String) (tree : FileTree) :
    IsTruthful ⟨true, stdout, "", tree⟩ := iff_of_true rfl rfl

theorem isTruthful_of_failed {stderr : String} (h : stderr ≠ "") (stdout : String)
    (tree : FileTree) : IsTruthful ⟨false, stdout, stderr, tree⟩ := iff_of_false nofun h

end Execution

namespace Command

variable {env : Surroundings} {args : Arguments} {ds : List Declaration}

theorem report_eq_empty_iff {reported : List Diagnostic} :
    report env args reported = "" ↔ reported = [] := Report.paint_full_eq_empty_iff

theorem outdated_eq_nil_iff {s : Store.WriteSummary} : outdated s = [] ↔ s.wouldWrite = [] := by
  unfold outdated
  split <;> simp_all

theorem length_outdated_le (s : Store.WriteSummary) : (outdated s).length ≤ 1 := by
  unfold outdated
  split <;> simp

theorem isError_outdated (s : Store.WriteSummary) : ∀ g ∈ outdated s, g.isError = true := by
  unfold outdated
  split
  · simp
  · exact List.forall_mem_singleton.mpr rfl

theorem refusal_ne_empty (e : ConfigError) : refusal e ≠ "" := by
  change "error: " ++ e.message ++ _ ≠ ""
  simp

theorem unknownCode_ne_empty (text : String) : unknownCode text ≠ "" := by
  change "Unknown error code: " ++ text ++ _ ≠ ""
  simp

structure GeneratesAll (env : Surroundings) (args : Arguments) (ds : List Declaration) : Prop where
  classes : (Run.generate args.config env.now ds).failures = []
  files : ∃ root tree summary, args.output = some root ∧
    writeAll (Store.Directory.write ⟨root, args.checkOnly⟩) env.tree
      (Run.generate args.config env.now ds).files = (tree, .ok summary) ∧
    (args.checkOnly = true → summary.wouldWrite = [])

/-! How a generation ends. -/

theorem generate_of_no_output (h : args.output = none) :
    generate env args = ⟨false, "", missingOutput, env.tree⟩ := by
  rw [generate, h]

theorem generate_of_unreadable {root : Path} {e : InputError} (hroot : args.output = some root)
    (hread : Input.read env.tree args.input = .error e) :
    generate env args = ⟨false, "", report env args [e.diagnostic], env.tree⟩ := by
  rw [generate, hroot]
  simp only [hread]

theorem generate_of_error {root : Path} {tree : FileTree} {e : Store.WriteError}
    (hroot : args.output = some root) (hread : Input.read env.tree args.input = .ok ds)
    (hpass : writeAll (Store.Directory.write ⟨root, args.checkOnly⟩) env.tree
      (Run.generate args.config env.now ds).files = (tree, .error e)) :
    generate env args = ⟨false, "", report env args
      ((Run.generate args.config env.now ds).diagnostics ++ [e.diagnostic]), tree⟩ := by
  rw [generate, hroot]
  simp only [hread, hpass]

theorem generate_of_ok {root : Path} {tree : FileTree} {s : Store.WriteSummary}
    (hroot : args.output = some root) (hread : Input.read env.tree args.input = .ok ds)
    (hpass : writeAll (Store.Directory.write ⟨root, args.checkOnly⟩) env.tree
      (Run.generate args.config env.now ds).files = (tree, .ok s)) :
    generate env args =
      ⟨(Run.generate args.config env.now ds).success && s.wouldWrite.isEmpty,
        generationSummary (Run.generate args.config env.now ds) s,
        wouldWriteLines root s.wouldWrite ++ report env args
          ((Run.generate args.config env.now ds).diagnostics ++ outdated s), tree⟩ := by
  rw [generate, hroot]
  simp only [hread, hpass]

theorem success_generate_of_ok_iff {root : Path} {tree : FileTree} {s : Store.WriteSummary}
    (hroot : args.output = some root) (hread : Input.read env.tree args.input = .ok ds)
    (hpass : writeAll (Store.Directory.write ⟨root, args.checkOnly⟩) env.tree
      (Run.generate args.config env.now ds).files = (tree, .ok s)) :
    (generate env args).success = true ↔
      (Run.generate args.config env.now ds).failures = [] ∧ s.wouldWrite = [] := by
  rw [generate_of_ok hroot hread hpass, Bool.and_eq_true, Run.success, List.isEmpty_iff,
    List.isEmpty_iff]

theorem success_generate_iff (hread : Input.read env.tree args.input = .ok ds) :
    (generate env args).success = true ↔ GeneratesAll env args ds := by
  cases hroot : args.output with
  | none =>
    rw [generate_of_no_output hroot]
    refine iff_of_false nofun fun h => ?_
    obtain ⟨root, tree, s, hsome, -⟩ := h.files
    rw [hroot] at hsome
    cases hsome
  | some root =>
    rcases hpass : writeAll (Store.Directory.write ⟨root, args.checkOnly⟩) env.tree
      (Run.generate args.config env.now ds).files with ⟨tree, e | s⟩
    · rw [generate_of_error hroot hread hpass]
      refine iff_of_false nofun fun h => ?_
      obtain ⟨root', tree', s, hroot', hok, -⟩ := h.files
      obtain rfl : root = root' := Option.some.inj (hroot.symm.trans hroot')
      rw [hpass] at hok
      cases hok
    · rw [success_generate_of_ok_iff hroot hread hpass]
      constructor
      · rintro ⟨hclasses, hnone⟩
        exact ⟨hclasses, root, tree, s, hroot, hpass, fun _ => hnone⟩
      · intro h
        obtain ⟨root', tree', s', hroot', hok, hchecked⟩ := h.files
        obtain rfl : root = root' := Option.some.inj (hroot.symm.trans hroot')
        rw [hpass] at hok
        cases hok
        refine ⟨h.classes, ?_⟩
        cases hcheck : args.checkOnly with
        | true => exact hchecked hcheck
        | false => exact Store.Directory.wouldWrite_eq_nil hcheck hpass

theorem isTruthful_generate (env : Surroundings) (args : Arguments) :
    (generate env args).IsTruthful := by
  cases hroot : args.output with
  | none =>
    rw [generate_of_no_output hroot]
    exact Execution.isTruthful_of_failed (by decide) _ _
  | some root =>
    cases hread : Input.read env.tree args.input with
    | error e =>
      rw [generate_of_unreadable hroot hread]
      exact Execution.isTruthful_of_failed (by simp [report_eq_empty_iff]) _ _
    | ok ds =>
      have hattributed := Run.failuresAttributed_generate args.config env.now ds
      rcases hpass : writeAll (Store.Directory.write ⟨root, args.checkOnly⟩) env.tree
        (Run.generate args.config env.now ds).files with ⟨tree, e | s⟩
      · rw [generate_of_error hroot hread hpass]
        exact Execution.isTruthful_of_failed (by simp [report_eq_empty_iff]) _ _
      · have hsilent : (generate env args).stderr = "" ↔
            (Run.generate args.config env.now ds).failures = [] ∧ s.wouldWrite = [] := by
          rw [generate_of_ok hroot hread hpass, String.append_eq_empty_iff, report_eq_empty_iff,
            List.append_eq_nil_iff, hattributed.diagnostics_eq_nil_iff, outdated_eq_nil_iff]
          exact ⟨And.right, fun h => ⟨by rw [h.2]; rfl, h⟩⟩
        exact (success_generate_of_ok_iff hroot hread hpass).trans hsilent.symm

theorem check_of_ok (hread : Input.read env.tree args.input = .ok ds) :
    (check env args).success = (Run.check args.config ds).success ∧
      (check env args).stderr = report env args (Run.check args.config ds).diagnostics := by
  rw [check]
  simp only [hread, and_self]

theorem success_check_iff (hread : Input.read env.tree args.input = .ok ds) :
    (check env args).success = true ↔ (Run.check args.config ds).failures = [] := by
  rw [(check_of_ok hread).1, Run.success, List.isEmpty_iff]

theorem isTruthful_check (env : Surroundings) (args : Arguments) : (check env args).IsTruthful := by
  cases hread : Input.read env.tree args.input with
  | error e =>
    rw [check]
    simp only [hread]
    exact Execution.isTruthful_of_failed (by simp [report_eq_empty_iff]) _ _
  | ok ds =>
    have hattributed := Run.failuresAttributed_check args.config ds
    rw [Execution.IsTruthful, success_check_iff hread, (check_of_ok hread).2, report_eq_empty_iff,
      hattributed.diagnostics_eq_nil_iff]

theorem isTruthful_explain (env : Surroundings) (words : List String) :
    (explain env words).IsTruthful := by
  cases words with
  | nil => exact Execution.isTruthful_of_failed (by decide) _ _
  | cons text words =>
    rw [explain]
    split
    · exact Execution.isTruthful_of_silent _ _
    · exact Execution.isTruthful_of_failed (unknownCode_ne_empty text) _ _

theorem isTruthful_withArguments {command : Surroundings → Arguments → Execution}
    (hcommand : ∀ args, (command env args).IsTruthful) (words : List String) :
    (withArguments env command words).IsTruthful := by
  rw [withArguments]
  split
  · exact hcommand _
  · exact Execution.isTruthful_of_failed (refusal_ne_empty _) _ _

theorem isTruthful_run (env : Surroundings) (words : List String) :
    (run env words).IsTruthful := by
  cases words with
  | nil => exact Execution.isTruthful_of_silent _ _
  | cons command words =>
    rw [run]
    split_ifs
    · exact isTruthful_withArguments (isTruthful_generate env) words
    · exact isTruthful_withArguments (isTruthful_check env) words
    · exact isTruthful_explain env words
    · exact Execution.isTruthful_of_silent _ _
    · exact Execution.isTruthful_of_silent _ _
    · refine Execution.isTruthful_of_failed ?_ _ _
      change "Unknown command: " ++ command ++ _ ≠ ""
      simp

/-! What is complained of. -/

structure ChecksTruly (env : Surroundings) (args : Arguments) (ds : List Declaration)
    (e : Execution) : Prop where
  status : e.status = 0 ↔ (Run.check args.config ds).failures = []
  summary : e.status ≠ 0 → EndsInSummary (args.color.usesColors env.isTerminal) e.stderr ""
    (Run.check args.config ds).diagnostics

/-- The paths that would be written stand before the diagnostics, and those of classes come first; one more
may tell why files were not stored. -/
structure GeneratesTruly (env : Surroundings) (args : Arguments) (ds : List Declaration)
    (e : Execution) : Prop where
  status : e.status = 0 ↔ GeneratesAll env args ds
  summary : ∀ root, args.output = some root → e.status ≠ 0 → ∃ paths more, more.length ≤ 1 ∧
    EndsInSummary (args.color.usesColors env.isTerminal) e.stderr (wouldWriteLines root paths)
      ((Run.generate args.config env.now ds).diagnostics ++ more)
  missing : args.output = none → e.stderr = missingOutput

theorem checksTruly (hread : Input.read env.tree args.input = .ok ds) :
    ChecksTruly env args ds (check env args) where
  status := Execution.status_eq_zero_iff.trans (success_check_iff hread)
  summary hfailed := by
    have hattributed := Run.failuresAttributed_check args.config ds
    rw [Ne, Execution.status_eq_zero_iff, success_check_iff hread,
      ← hattributed.diagnostics_eq_nil_iff] at hfailed
    rw [(check_of_ok hread).2, report, ← String.empty_append (s := Report.paint _ _)]
    exact Report.endsInSummary_full hfailed hattributed.isError _ ""

theorem generatesTruly (hread : Input.read env.tree args.input = .ok ds) :
    GeneratesTruly env args ds (generate env args) where
  status := Execution.status_eq_zero_iff.trans (success_generate_iff hread)
  summary root hroot hfailed := by
    have hattributed := Run.failuresAttributed_generate args.config env.now ds
    rw [Ne, Execution.status_eq_zero_iff] at hfailed
    rcases hpass : writeAll (Store.Directory.write ⟨root, args.checkOnly⟩) env.tree
      (Run.generate args.config env.now ds).files with ⟨tree, e | s⟩
    · have herrors : ∀ g ∈ (Run.generate args.config env.now ds).diagnostics ++ [e.diagnostic],
          g.isError = true := List.forall_mem_append.mpr
        ⟨hattributed.isError, List.forall_mem_singleton.mpr e.isError_diagnostic⟩
      refine ⟨[], [e.diagnostic], Nat.le_refl 1, ?_⟩
      have hends := Report.endsInSummary_full (by simp) herrors
        (args.color.usesColors env.isTerminal) ""
      rw [String.empty_append] at hends
      rw [generate_of_error hroot hread hpass]
      exact hends
    · have herrors : ∀ g ∈ (Run.generate args.config env.now ds).diagnostics ++ outdated s,
          g.isError = true := List.forall_mem_append.mpr
        ⟨hattributed.isError, isError_outdated s⟩
      have hne : (Run.generate args.config env.now ds).diagnostics ++ outdated s ≠ [] := by
        rw [success_generate_of_ok_iff hroot hread hpass] at hfailed
        rwa [Ne, List.append_eq_nil_iff, hattributed.diagnostics_eq_nil_iff, outdated_eq_nil_iff]
      refine ⟨s.wouldWrite, outdated s, length_outdated_le s, ?_⟩
      rw [generate_of_ok hroot hread hpass]
      exact Report.endsInSummary_full hne herrors _ _
  missing hnone := by rw [generate_of_no_output hnone]

end Command

/-- The program succeeds if and only if it prints no complaint. Over readable declarations it succeeds if
and only if all of them are well and all files are stored, or found stored; and otherwise the last line
of its complaints tells how many there are, unless it has not been told where to store files. -/
theorem status_tells_truth (env : Surroundings) :
    (∀ words, (Command.run env words).status = 0 ↔ (Command.run env words).stderr = "") ∧
    ∀ words args ds, Arguments.parse words = .ok args →
      Input.read env.tree args.input = .ok ds →
      Command.ChecksTruly env args ds (Command.run env ("check" :: words)) ∧
      Command.GeneratesTruly env args ds (Command.run env ("generate" :: words)) := by
  refine ⟨fun words => ?_, fun words args ds hparse hread => ?_⟩
  · exact Execution.status_eq_zero_iff.trans (Command.isTruthful_run env words)
  · have hcheck : Command.run env ("check" :: words) = Command.check env args := by
      simp [Command.run, Command.withArguments, hparse]
    have hgenerate : Command.run env ("generate" :: words) = Command.generate env args := by
      simp [Command.run, Command.withArguments, hparse]
    rw [hcheck, hgenerate]
    exact ⟨Command.checksTruly hread, Command.generatesTruly hread⟩

/-! A file that declares one class with two injectors and one class with nothing wrong. -/

def loginJson : Json :=
  .array
    [.array [.string "app.Login", .string "app", .array [], .array [],
      .array [.array [.string "remember"], .array [.string "injector", .string "get"],
        .array [.string "injector", .string "inject"]]],
     .array [.string "app.Note", .string "app", .array [], .array [],
      .array [.array [.string "remember"]]]]

def loginDeclarations : List Declaration :=
  [{ qualifiedName := "app.Login"
     givenPackage := some "app"
     params := []
     properties := []
     markers := [.remember, .injector "get", .injector "inject"] },
   { qualifiedName := "app.Note"
     givenPackage := some "app"
     params := []
     properties := []
     markers := [.remember] }]

def loginSurroundings : Surroundings where
  tree := ⟨[(["in.json"], .file (.text (String.ofList loginJson.compact)))], []⟩
  now := 0
  isTerminal := false

theorem read_loginSurroundings :
    Input.read loginSurroundings.tree ⟨"in.json"⟩ = .ok loginDeclarations := by
  have hread : loginSurroundings.tree.readText ⟨"in.json"⟩ =
      .ok (String.ofList loginJson.compact) := by decide +kernel
  rw [Input.read, if_neg (by decide +kernel), Input.readFile, hread]
  exact Input.parse_compact (by decide +kernel) rfl

theorem status_tells_truth_login :
    (Command.run loginSurroundings ["check", "in.json"]).status ≠ 0 ∧
    Report.readSummary? false
      (Report.lastLine (Command.run loginSurroundings ["check", "in.json"]).stderr) = some 1 ∧
    (Command.run loginSurroundings ["generate", "in.json", "-o", "out", "--check"]).status ≠ 0 ∧
    (Command.run loginSurroundings ["generate", "in.json", "-o", "out", "--check"]).stderr ≠ "" := by
  obtain ⟨hsilent, htells⟩ := status_tells_truth loginSurroundings
  obtain ⟨hcheck, -⟩ := htells ["in.json"] ⟨⟨"in.json"⟩, none, .default, false, .auto⟩
    loginDeclarations (by decide +kernel) read_loginSurroundings
  obtain ⟨-, hgenerate⟩ := htells ["in.json", "-o", "out", "--check"]
    ⟨⟨"in.json"⟩, some ⟨"out"⟩, .default, true, .auto⟩ loginDeclarations (by decide +kernel)
    read_loginSurroundings
  have hchecked : (Command.run loginSurroundings ["check", "in.json"]).status ≠ 0 := by
    rw [Ne, hcheck.status]
    decide +kernel
  have hgenerated :
      (Command.run loginSurroundings ["generate", "in.json", "-o", "out", "--check"]).status ≠ 0 := by
    rw [Ne, hgenerate.status]
    intro hall
    exact absurd hall.classes (by decide +kernel)
  obtain ⟨-, -, hcount⟩ := hcheck.summary hchecked
  have hone : (Run.check .default loginDeclarations).diagnostics.length = 1 := by decide +kernel
  refine ⟨hchecked, hcount.trans (congrArg some hone), hgenerated, ?_⟩
  rwa [Ne, ← hsilent]

end StateHolders
