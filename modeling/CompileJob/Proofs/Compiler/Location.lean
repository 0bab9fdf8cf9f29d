import CompileJob.Proofs.Compiler.Command
import CompileJob.Proofs.Compiler.Launches
import CompileJob.Proofs.Source

namespace CompileJob

open Machine Executor

theorem Source.isText_join (dir name : String) : isText (Path.join dir name) = isText name := by
  by_cases rooted : Path.Absolute name
  · rw [Path.join_of_absolute rooted]
  · obtain ⟨lead, joined, -, rfl | ⟨start, rfl⟩⟩ := Path.exists_lead rooted dir
    · rw [String.toList_inj.mp joined]
    · rw [List.append_assoc] at joined
      exact isText_below joined

theorem Source.absolute_binaryName {name : String} (h : Path.Absolute name) :
    Path.Absolute (binaryName name) := by
  cases text : isText name with
  | false =>
    rw [binaryName_of_not_isText text]
    exact h
  | true =>
    obtain ⟨stem, ending, split, lowered, named⟩ := binaryName_of_isText text
    rw [Path.Absolute, split] at h
    -- The separator at the start is not in the suffix that is taken off.
    have nonempty : stem ≠ [] := by
      rintro rfl
      exact separator_not_mem lowered (List.mem_of_head? h)
    rw [named, Path.Absolute, String.toList_append, String.toList_ofList,
      List.head?_append_of_ne_nil stem nonempty, ← h, List.head?_append_of_ne_nil stem nonempty]

variable {environ : Value} {j : JobTexts} {m : Machine} {here : String} {c : Compiler} {p : Plan}

/-! ## The paths of a job -/

namespace JobTexts

def paths (j : JobTexts) (here : String) : List String :=
  [j.dir here, j.input here, Source.binaryName (j.input here), j.output .cc here,
    j.output .wasmer here]

theorem absolute_dir (absolute : Path.Absolute here) (j : JobTexts) :
    Path.Absolute (j.dir here) := by
  unfold dir
  split
  · exact absolute
  · exact Path.absolute_join absolute _

theorem absolute_paths (absolute : Path.Absolute here) (j : JobTexts) :
    ∀ path ∈ j.paths here, Path.Absolute path := by
  have input : Path.Absolute (j.input here) := Path.absolute_join (j.absolute_dir absolute) _
  have output (t : Toolchain) : Path.Absolute (j.output t here) :=
    Path.absolute_join (Path.absolute_dirname input) _
  simp only [paths, List.forall_mem_cons]
  exact ⟨j.absolute_dir absolute, input, Source.absolute_binaryName input, output .cc,
    output .wasmer, nofun⟩

def mainInput (j : JobTexts) (t : Toolchain) (here : String) : String :=
  match t with
  | .cc => j.input here
  | .wasmer => Source.binaryName (j.input here)

end JobTexts

theorem Machine.resolve_of_absolute {path : String} (here_eq : m.here = .str here)
    (absolute : Path.Absolute path) : m.resolve (.str path) = .ok (.str path) := by
  rw [resolve, here_eq]
  exact congrArg (fun p => Except.ok (Value.str p)) (Path.join_of_absolute absolute here)

namespace Compiler

theorem Planned.names_files {asked : Filters} {given : Value}
    (planned : c.Planned m environ asked given p) :
    .str (c.mainInput p) ∈ p.args ∧ .str p.output ∈ p.args := by
  have args := planned.args
  have list (xs : List Value) : (Value.list xs).elements = .ok xs := rfl
  simp only [arguments, Backend.orderArguments, Except.bind_eq_ok, list, Except.ok.injEq] at args
  obtain ⟨own, -, groups, -, _, rfl, rest, -, args⟩ := args
  unfold mainInput
  unfold Backend.optionsForFilter at args
  cases toolchain : c.backend.toolchain with
  | cc =>
    simp only [toolchain] at args
    simp [← Except.ok.inj args]
  | wasmer =>
    simp only [toolchain] at args
    simp [← Except.ok.inj args]

/-- A process of the job: the converter, where the machine is, or the compiler, where the job is. Both
are told the files by the paths of the job. -/
inductive LaunchAt (t : Toolchain) (j : JobTexts) (here : String) (l : Launch) : Prop
  | converter (tool : Tool) (command : l.command = Backend.conversionCommand tool (j.input here))
      (cwd : l.cwd = .str here)
  | main {exe : Value} {args : List Value} (command : l.command = .list (exe :: args))
      (reads : .str (j.mainInput t here) ∈ args) (writes : .str (j.output t here) ∈ args)
      (cwd : l.cwd = .str (j.dir here))

theorem JobLaunch.launchAt {l : Launch} (located : Located environ j) (here_eq : m.here = .str here)
    (absolute : Path.Absolute here) (h : c.JobLaunch environ m l) :
    LaunchAt c.backend.toolchain j here l := by
  cases h with
  | @conversion p tool planned converts launch =>
    obtain ⟨-, input, -⟩ := plan_of_located located here_eq planned
    obtain ⟨o, options, cwd, -, -⟩ := launch.placed
    refine .converter tool ?_ ?_
    · rw [launch.command_eq, input]
    · cases options
      exact cwd.trans here_eq
  | @main p planned launch =>
    obtain ⟨dir, input, output⟩ := plan_of_located located here_eq planned
    obtain ⟨asked, given, planned⟩ := plan_ok planned
    obtain ⟨reads, writes⟩ := planned.names_files
    obtain ⟨o, options, cwd, -, -⟩ := launch.placed
    refine .main launch.command_eq ?_ ?_ ?_
    · have name : c.mainInput p = j.mainInput c.backend.toolchain here := by
        rw [mainInput, input]
        rfl
      rw [← name]
      exact reads
    · rw [← output]
      exact writes
    · have given : o.cwd = .str (j.dir here) := by
        cases options
        exact dir
      rw [cwd, given]
      exact Value.orElse_text (j.absolute_dir absolute).ne_empty _

/-- On a machine that is somewhere, all paths of a job are absolute, whatever texts say where its
source and its directory are and what its output is called. The processes of the job run in different
directories and are given these paths. -/
theorem compile_locates_files {b : Bench} (located : Located environ j)
    (here_eq : b.machine.here = .str here) (absolute : Path.Absolute here) :
    (∀ path ∈ j.paths here, Path.Absolute path ∧ ∀ cwd, Path.join cwd path = path) ∧
    (∀ r, Request.ofEnviron b.machine environ = .ok r →
      r.workingDir = .str (j.dir here) ∧ r.inputFilename b.machine = .ok (.str (j.input here)) ∧
      ∀ backend : Backend,
        backend.outputFilename (.str (Path.dirname (j.input here))) r.outputFilebase =
          .ok (j.output backend.toolchain here)) ∧
    (∀ (c : Compiler) (p : Plan), c.plan b.machine environ = .ok p →
      Table.find? (defaultExecOptions environ p.memory) "cwd" = some (.str (j.dir here))) ∧
    (∀ c : Compiler, c.OnHost → b.machine.Since (LaunchAt c.backend.toolchain j here)
      (c.compile environ b).2.machine) ∧
    (∀ path : Option String, ∃ dir,
      b.machine.resolve ((path.map Value.str).getD .null) = .ok (.str dir) ∧
      b.machine.resolve (.str dir) = .ok (.str dir)) ∧
    Source.isText (j.input here) = Source.isText j.source := by
  refine ⟨?_, ?_, ?_, ?_, ?_, Source.isText_join _ _⟩
  · intro path member
    have rooted := j.absolute_paths absolute path member
    exact ⟨rooted, Path.join_of_absolute rooted⟩
  · intro r read
    obtain ⟨dir, source, filebase⟩ := located.request here_eq read
    refine ⟨dir, JobTexts.inputFilename_eq dir source here_eq, ?_⟩
    intro backend
    rw [filebase]
    rfl
  · intro c p planned
    exact congrArg some (plan_of_located located here_eq planned).1
  · intro c onHost
    refine (onHost.since_start environ b).mono ?_
    intro l launch
    exact launch.launchAt located here_eq absolute
  · intro path
    let job : JobTexts := { j with workingDir := path }
    exact ⟨job.dir here, job.dir_resolved here_eq,
      resolve_of_absolute here_eq (job.absolute_dir absolute)⟩

def converterOnHost : Compiler where
  backend := Backend.ofToolchain .wasmer
  tools := some ⟨[(.str "wat2wasm", ⟨⟨.str "wat2wasm", .str "w2w", .null, []⟩, host⟩)]⟩
  executor := host

theorem onHost_converterOnHost : converterOnHost.OnHost := by
  refine ⟨rfl, ?_⟩
  rintro registry ⟨⟩ entry member
  rw [List.mem_singleton.mp member]

def launchDirs (events : List Event) : List String :=
  events.filterMap fun
    | .spawn l => some l.cwd.text
    | _ => none

theorem compile_locates_files_below :
    (∀ path ∈ ["/cwd/job", "/cwd/job/A.WAT", "/cwd/job/A.wasm", "/cwd/job/output.o",
      "/cwd/job/output.obj"], Path.Absolute path) ∧
    ∃ n, (converterOnHost.compile includesTwiceEnviron ⟨blank, .null, {}⟩).2.machine = n ∧
      launchDirs n.trace = ["/cwd", "/cwd/job"] ∧
      blank.Since (LaunchAt .wasmer includesTwice "/cwd") n := by
  have here_eq : (Bench.mk blank .null {}).machine.here = .str "/cwd" := rfl
  obtain ⟨absolute, -, -, launches, -⟩ := compile_locates_files describes_includesTwice.located
    here_eq (by decide)
  have paths : includesTwice.paths "/cwd" = ["/cwd/job", "/cwd/job/A.WAT", "/cwd/job/A.wasm",
      "/cwd/job/output.o", "/cwd/job/output.obj"] := by
    decide +kernel
  rw [paths] at absolute
  refine ⟨fun path member => (absolute path member).1, _, rfl, ?_, ?_⟩
  · decide +kernel
  · exact launches converterOnHost onHost_converterOnHost

end Compiler

end CompileJob
