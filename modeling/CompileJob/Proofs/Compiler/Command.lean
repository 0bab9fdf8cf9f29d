import CompileJob.Description
import CompileJob.Proofs.Compiler.Plan
import CompileJob.Proofs.Path
import CompileJob.Proofs.Value.Texts

namespace CompileJob

structure JobTexts where
  source : String
  workingDir : Option String
  filebase : Value
  compilerPath : String
  includes : List String
  libOptions : List String
  libPaths : List String
  libLinks : List String
  userOptions : List String
  staticLibs : List String

def Lacks (environ : Value) (key : String) : Prop :=
  environ.optional key = none ∨ environ.optional key = some .null

/-- A list of texts under a key, which may be left out when it is empty. -/
def Lists (environ : Value) (key : String) (xs : List String) : Prop :=
  environ.optional key = some (texts xs) ∨ xs = [] ∧ Lacks environ key

structure Describes (environ : Value) (j : JobTexts) : Prop where
  source : environ.optional "source_file" = some (.str j.source)
  workingDir : (environ.optional "working_dir").getD .null = (j.workingDir.map Value.str).getD .null
  filebase : (environ.optional "output_filebase").getD (.str "output") = j.filebase
  compilerPath : environ.optional "compiler_path" = some (.str j.compilerPath) ∨
    j.compilerPath = "" ∧ Lacks environ "compiler_path"
  includes : Lists environ "includes" j.includes
  libOptions : Lists environ "lib_options" j.libOptions
  libPaths : Lists environ "lib_paths" j.libPaths
  libLinks : Lists environ "lib_links" j.libLinks
  userOptions : Lists environ "extra_compilation_args" j.userOptions
  staticLibs : Lists environ "static_lib_links" j.staticLibs

structure Located (environ : Value) (j : JobTexts) : Prop where
  source : environ.optional "source_file" = some (.str j.source)
  workingDir : (environ.optional "working_dir").getD .null = (j.workingDir.map Value.str).getD .null
  filebase : (environ.optional "output_filebase").getD (.str "output") = j.filebase

namespace JobTexts

def dir (j : JobTexts) (here : String) : String :=
  match j.workingDir with
  | none => here
  | some d => Path.join here d

def input (j : JobTexts) (here : String) : String := Path.join (j.dir here) j.source

def output (j : JobTexts) (t : Toolchain) (here : String) : String :=
  Path.join (Path.dirname (j.input here)) (j.filebase.text ++ Backend.outputSuffix t)

def exe (j : JobTexts) (own : String) : String :=
  if j.compilerPath = "" then own else j.compilerPath

def command (j : JobTexts) (t : Toolchain) (own : String) (options : List String) (here : String) :
    List String :=
  match t with
  | .cc =>
      [j.exe own, "-c", "-o", j.output t here] ++ options ++ [j.input here] ++
        j.includes.map ("-I" ++ ·) ++ j.libOptions ++
        j.libPaths.flatMap (fun path => ["-Wl,-rpath," ++ path, "-L" ++ path]) ++
        j.libLinks.map ("-l" ++ ·) ++ j.userOptions ++ j.staticLibs
  | .wasmer =>
      [j.exe own, "create-obj", "-o", j.output t here] ++ options ++
        j.includes.map ("-I" ++ ·) ++ j.libOptions ++ j.libLinks.map ("-l" ++ ·) ++
        j.userOptions ++ j.staticLibs ++ [Source.binaryName (j.input here)]

def request (j : JobTexts) (here : String) : Request where
  sourceFile := .str j.source
  includes := texts j.includes
  libOptions := texts j.libOptions
  libPaths := texts j.libPaths
  libLinks := texts j.libLinks
  userOptions := texts j.userOptions
  staticLibLinks := texts j.staticLibs
  outputFilebase := j.filebase
  workingDir := .str (j.dir here)

end JobTexts

variable {environ : Value} {j : JobTexts} {m : Machine} {here : String}

/-! ## The request -/

theorem Value.item_of_optional {key : String} {v : Value} (h : environ.optional key = some v) :
    environ.item key = .ok v := by
  cases environ with
  | object fields => exact orFault_eq_ok.mpr h
  | _ => cases h

theorem Value.field_of_optional {key : String} {v : Value} (h : environ.optional key = some v)
    (other : String) (default : Value) :
    environ.field other default = .ok ((environ.optional other).getD default) := by
  obtain ⟨fields, rfl⟩ := exists_object_of_item (item_of_optional h)
  rfl

theorem Describes.field (h : Describes environ j) (key : String) (default : Value) :
    environ.field key default = .ok ((environ.optional key).getD default) :=
  Value.field_of_optional h.source key default

theorem Describes.group (h : Describes environ j) {key : String} {xs : List String}
    (lists : Lists environ key xs) : Request.group environ key = .ok (texts xs) := by
  unfold Request.group
  rw [h.field]
  rcases lists with given | ⟨rfl, missing | null⟩
  · rw [given]
    cases xs <;> rfl
  · rw [missing]
    rfl
  · rw [null]
    rfl

theorem Describes.located (h : Describes environ j) : Located environ j :=
  ⟨h.source, h.workingDir, h.filebase⟩

theorem JobTexts.dir_resolved (j : JobTexts) (here_eq : m.here = .str here) :
    m.resolve ((j.workingDir.map Value.str).getD .null) = .ok (.str (j.dir here)) := by
  rw [JobTexts.dir, Machine.resolve, here_eq]
  cases j.workingDir <;> rfl

theorem Describes.request (h : Describes environ j) (here_eq : m.here = .str here) :
    Request.ofEnviron m environ = .ok (j.request here) := by
  have filebase : environ.field "output_filebase" Request.defaultFilebase = .ok j.filebase := by
    rw [h.field]
    exact congrArg _ h.filebase
  unfold Request.ofEnviron
  rw [Value.item_of_optional h.source, h.group h.includes, h.group h.libOptions,
    h.group h.libPaths, h.group h.libLinks, h.group h.userOptions, h.group h.staticLibs, filebase,
    h.field]
  change (do
    let workingDir ← m.resolve ((environ.optional "working_dir").getD .null)
    return { j.request here with workingDir }) = _
  rw [h.workingDir, j.dir_resolved here_eq]
  rfl

theorem JobTexts.inputFilename_eq {r : Request} (dir_eq : r.workingDir = .str (j.dir here))
    (source : r.sourceFile = .str j.source) (here_eq : m.here = .str here) :
    r.inputFilename m = .ok (.str (j.input here)) := by
  -- An empty directory gives way to `here`, which is then empty as well.
  have dir : (Value.str (j.dir here)).orElse m.here = .str (j.dir here) := by
    by_cases empty : j.dir here = ""
    · have here_empty : here = "" := by
        unfold JobTexts.dir at empty
        split at empty
        · exact empty
        · exact Path.dir_of_join_eq_empty empty
      rw [here_eq, empty, here_empty]
      rfl
    · exact Value.orElse_text empty _
  rw [Request.inputFilename, dir_eq, source, dir]
  rfl

theorem Located.request {r : Request} (h : Located environ j) (here_eq : m.here = .str here)
    (read : Request.ofEnviron m environ = .ok r) :
    r.workingDir = .str (j.dir here) ∧ r.sourceFile = .str j.source ∧
      r.outputFilebase = j.filebase := by
  simp only [Request.ofEnviron, Except.bind_eq_ok, Value.item_of_optional h.source,
    Value.field_of_optional h.source, h.workingDir, Except.ok.injEq] at read
  obtain ⟨_, rfl, includes, -, libOptions, -, libPaths, -, libLinks, -, userOptions, -, staticLibs,
    -, _, rfl, _, rfl, dir, resolved, read⟩ := read
  rw [j.dir_resolved here_eq] at resolved
  cases resolved
  cases read
  exact ⟨rfl, rfl, h.filebase⟩

/-! ## The arguments -/

theorem Value.prepend_mapM (start : String) (xs : List String) :
    (xs.map Value.str).mapM (Value.prepend start) = .ok ((xs.map (start ++ ·)).map .str) := by
  rw [List.map_map]
  exact mapM_texts (prepend start) (fun x => .str (start ++ x)) (fun _ => rfl) xs

def Backend.rpathFlags (path : String) : List String := ["-Wl,-rpath," ++ path, "-L" ++ path]

theorem Backend.libraryPathFlags_mapM (paths : List String) :
    (paths.map Value.str).mapM libraryPathFlags =
      .ok (paths.map fun path => (rpathFlags path).map .str) :=
  mapM_texts libraryPathFlags (fun path => (rpathFlags path).map .str) (fun _ => rfl) paths

namespace JobTexts

def libPathFlags (j : JobTexts) (t : Toolchain) : List String :=
  match t with
  | .cc => j.libPaths.flatMap Backend.rpathFlags
  | .wasmer => []

def groups (j : JobTexts) (t : Toolchain) : Backend.Groups where
  includes := texts (j.includes.map ("-I" ++ ·))
  libOptions := texts j.libOptions
  libPaths := texts (j.libPathFlags t)
  libLinks := texts (j.libLinks.map ("-l" ++ ·))
  userOptions := texts j.userOptions
  staticLibs := texts j.staticLibs

theorem libraryPathArguments_eq (j : JobTexts) (b : Backend) :
    b.libraryPathArguments (texts j.libPaths) = .ok ((j.libPathFlags b.toolchain).map .str) := by
  unfold Backend.libraryPathArguments libPathFlags
  cases b.toolchain with
  | wasmer => rfl
  | cc =>
    simp only [elements_texts]
    change (do return (← (j.libPaths.map Value.str).mapM Backend.libraryPathFlags).flatten) = _
    rw [Backend.libraryPathFlags_mapM, List.map_flatMap, List.flatMap_def]
    rfl

theorem argumentGroups_eq (j : JobTexts) (b : Backend) (here : String) :
    Compiler.argumentGroups b (j.request here) = .ok (j.groups b.toolchain) := by
  unfold Compiler.argumentGroups
  simp only [request, elements_texts, libraryPathArguments_eq]
  change (do
    let includes ← (j.includes.map Value.str).mapM (Value.prepend "-I")
    let libLinks ← (j.libLinks.map Value.str).mapM (Value.prepend "-l")
    return { j.groups b.toolchain with includes := .list includes, libLinks := .list libLinks }) = _
  rw [Value.prepend_mapM, Value.prepend_mapM]
  rfl

def grouped (j : JobTexts) (t : Toolchain) : List String :=
  j.includes.map ("-I" ++ ·) ++ j.libOptions ++ j.libPathFlags t ++ j.libLinks.map ("-l" ++ ·) ++
    j.userOptions ++ j.staticLibs

theorem groups_flatten (j : JobTexts) (t : Toolchain) :
    (j.groups t).flatten = .ok ((j.grouped t).map .str) := by
  unfold Backend.Groups.flatten groups grouped
  simp only [List.mapM_cons, List.mapM_nil, elements_texts, List.map_append, List.append_assoc]
  change Except.ok (List.flatten _) = _
  simp only [List.flatten_cons, List.flatten_nil, List.append_nil]

end JobTexts

structure Backend.Drives (b : Backend) (t : Toolchain) (own : String) (options : List String) :
    Prop where
  toolchain : b.toolchain = t
  compiler : b.compiler = .str own
  options : b.options = texts options
  subcommand : t = .wasmer → b.subcommand = .str "create-obj"

def Backend.outputFlags (t : Toolchain) (output : String) : List String :=
  match t with
  | .cc => ["-c", "-o", output]
  | .wasmer => ["-o", output]

theorem Backend.optionsForFilter_fst (b : Backend) (filters : Filters) (output : String) :
    (b.optionsForFilter filters (.str output)).1 = (outputFlags b.toolchain output).map .str := by
  unfold optionsForFilter outputFlags
  cases b.toolchain <;> rfl

namespace JobTexts

variable {b : Backend} {c : Compiler} {t : Toolchain} {own : String} {options : List String}

def ordered (j : JobTexts) (t : Toolchain) (flags : List String) (input : String) : List String :=
  match t with
  | .cc => flags ++ [input] ++ j.grouped .cc
  | .wasmer => ["create-obj"] ++ flags ++ j.grouped .wasmer ++ [Source.binaryName input]

theorem orderArguments_eq (j : JobTexts) (drives : b.Drives t own options) (flags : List String)
    (input : String) : b.orderArguments (texts flags) (.str input) (j.groups t) =
      .ok ((j.ordered t flags input).map .str) := by
  unfold Backend.orderArguments
  rw [groups_flatten, drives.toolchain]
  cases t with
  | cc =>
    simp only [ordered, List.map_append]
    rfl
  | wasmer =>
    rw [drives.subcommand rfl]
    simp only [ordered, List.map_append]
    rfl

theorem arguments_eq (j : JobTexts) (drives : b.Drives t own options) (filters : Filters)
    (input output : String) :
    Compiler.arguments b (j.request here) (b.optionsForFilter filters (.str output)).1 input =
      .ok ((j.ordered t (Backend.outputFlags t output ++ options) input).map .str) := by
  unfold Compiler.arguments
  rw [Backend.optionsForFilter_fst, drives.options, argumentGroups_eq, drives.toolchain,
    ← orderArguments_eq j drives, texts_append]
  rfl

theorem command_eq (j : JobTexts) (t : Toolchain) (own : String) (options : List String)
    (here : String) : j.command t own options here = j.exe own ::
      j.ordered t (Backend.outputFlags t (j.output t here) ++ options) (j.input here) := by
  cases t with
  | cc =>
    simp only [command, ordered, grouped, libPathFlags, Backend.outputFlags, List.cons_append,
      List.nil_append, List.append_assoc]
    rfl
  | wasmer =>
    simp only [command, ordered, grouped, libPathFlags, Backend.outputFlags, List.cons_append,
      List.nil_append, List.append_assoc]

theorem orElse_exe (h : Describes environ j) (own : String) :
    ((environ.optional "compiler_path").getD .null).orElse (.str own) = .str (j.exe own) := by
  unfold exe
  rcases h.compilerPath with given | ⟨empty, missing | null⟩
  · rw [given]
    by_cases empty : j.compilerPath = "" <;> simp [Value.orElse, Value.truthy, empty]
  · rw [missing, empty]
    rfl
  · rw [null, empty]
    rfl

end JobTexts

namespace Compiler

variable {c : Compiler} {t : Toolchain} {own : String} {options : List String}

theorem plan_of_located {p : Plan} (located : Located environ j) (here_eq : m.here = .str here)
    (planned : c.plan m environ = .ok p) :
    p.request.workingDir = .str (j.dir here) ∧ p.input = j.input here ∧
      p.output = j.output c.backend.toolchain here := by
  obtain ⟨asked, given, planned⟩ := plan_ok planned
  obtain ⟨dir, source, filebase⟩ := located.request here_eq planned.request
  have input : p.input = j.input here := by
    have read := planned.input
    rw [JobTexts.inputFilename_eq dir source here_eq] at read
    exact (Value.str.inj (Except.ok.inj read)).symm
  have output := planned.output
  rw [filebase, input] at output
  exact ⟨dir, input, (Except.ok.inj output).symm⟩

theorem plan_of_describes {p : Plan} (drives : c.backend.Drives t own options)
    (describes : Describes environ j) (here_eq : m.here = .str here)
    (planned : c.plan m environ = .ok p) :
    p.command = texts (j.command t own options here) ∧ p.input = j.input here ∧
      p.output = j.output t here := by
  obtain ⟨-, input, output⟩ := plan_of_located describes.located here_eq planned
  rw [drives.toolchain] at output
  obtain ⟨asked, given, planned⟩ := plan_ok planned
  have request : p.request = j.request here :=
    Except.ok.inj (planned.request.symm.trans (describes.request here_eq))
  have args : p.args =
      (j.ordered t (Backend.outputFlags t p.output ++ options) p.input).map .str := by
    have built := planned.args
    rw [request, j.arguments_eq drives] at built
    exact (Except.ok.inj built).symm
  have exe : p.exe = .str (j.exe own) := by
    have path := planned.path
    rw [describes.field] at path
    rw [planned.exe_eq, ← Except.ok.inj path, drives.compiler, j.orElse_exe describes]
  refine ⟨?_, input, output⟩
  rw [Plan.command, exe, args, input, output, j.command_eq, texts, List.map_cons]

/-- A compile either fails before anything runs, or its main step, whenever it comes to one, calls
the executor on the command of the texts. -/
theorem compile_command {b : Bench} (drives : c.backend.Drives t own options)
    (describes : Describes environ j) (here_eq : b.machine.here = .str here) :
    (∃ e memory, c.compile environ b = (.error e, ⟨b.machine, environ, memory⟩)) ∨
    ∃ p, p.input = j.input here ∧ p.output = j.output t here ∧
      c.compile environ b = c.finish environ p (do
        log .debug .compiler ("compiling " ++ c.mainInput p ++ " with " ++ j.exe own ++ " (" ++
          c.backend.key.text ++ ")")
        c.executor (texts (j.command t own options here))
          (defaultExecOptions environ p.memory)) ⟨b.machine, environ, p.memory⟩ := by
  cases planned : c.plan b.machine environ with
  | error e => exact Or.inl ⟨e, compile_of_no_plan planned⟩
  | ok p =>
    obtain ⟨command, input, output⟩ := plan_of_describes drives describes here_eq planned
    refine Or.inr ⟨p, input, output, ?_⟩
    have exe : p.exe.text = j.exe own := by
      rw [j.command_eq] at command
      injection command with items
      injection items with exe
      rw [exe]
      rfl
    rw [compile_of_plan planned, runPlan_eq, ← command, ← exe]
    rfl

def includesTwice : JobTexts where
  source := "A.WAT"
  workingDir := some "job"
  filebase := .str "output"
  compilerPath := ""
  includes := ["inc", "inc"]
  libOptions := []
  libPaths := ["/lib"]
  libLinks := ["m"]
  userOptions := ["-g"]
  staticLibs := ["x.a"]

def includesTwiceEnviron : Value :=
  .object [("source_file", .str "A.WAT"), ("working_dir", .str "job"),
    ("includes", texts ["inc", "inc"]), ("lib_options", .null), ("lib_paths", texts ["/lib"]),
    ("lib_links", texts ["m"]), ("extra_compilation_args", texts ["-g"]),
    ("static_lib_links", texts ["x.a"]), ("filters", .object [("binary_object", .bool true)])]

theorem describes_includesTwice : Describes includesTwiceEnviron includesTwice where
  source := rfl
  workingDir := rfl
  filebase := rfl
  compilerPath := Or.inr ⟨rfl, Or.inl rfl⟩
  includes := Or.inl rfl
  libOptions := Or.inr ⟨rfl, Or.inr rfl⟩
  libPaths := Or.inl rfl
  libLinks := Or.inl rfl
  userOptions := Or.inl rfl
  staticLibs := Or.inl rfl

def alwaysDone : Compiler where
  backend := Backend.ofToolchain .wasmer
  tools := some ⟨[(.str "wat2wasm", Backend.converterAnswering (.int 0))]⟩
  executor _ _ := pure (.object [("return_code", .int 0)])

theorem drives_alwaysDone : alwaysDone.backend.Drives .wasmer "wasmer" [] :=
  ⟨rfl, rfl, rfl, fun _ => rfl⟩

theorem command_includesTwice : includesTwice.command .wasmer "wasmer" [] "/cwd" =
    ["wasmer", "create-obj", "-o", "/cwd/job/output.obj", "-Iinc", "-Iinc", "-lm", "-g", "x.a",
      "/cwd/job/A.wasm"] := by
  decide +kernel

theorem compile_command_with_includes_twice : ∃ p,
    alwaysDone.compile includesTwiceEnviron ⟨Machine.blank, .null, {}⟩ =
      alwaysDone.finish includesTwiceEnviron p (do
        log .debug .compiler ("compiling /cwd/job/A.wasm with wasmer (wasmer)")
        alwaysDone.executor (texts ["wasmer", "create-obj", "-o", "/cwd/job/output.obj", "-Iinc",
            "-Iinc", "-lm", "-g", "x.a", "/cwd/job/A.wasm"])
          (defaultExecOptions includesTwiceEnviron p.memory))
        ⟨Machine.blank, includesTwiceEnviron, p.memory⟩ := by
  have ends : (alwaysDone.compile includesTwiceEnviron ⟨Machine.blank, .null, {}⟩).1 = .ok () := by
    rfl
  have here_eq : Machine.blank.here = .str "/cwd" := rfl
  rcases compile_command (b := ⟨Machine.blank, .null, {}⟩) drives_alwaysDone describes_includesTwice
    here_eq with ⟨e, memory, failed⟩ | ⟨p, input, output, eq⟩
  · rw [failed] at ends
    cases ends
  · refine ⟨p, ?_⟩
    have name : alwaysDone.mainInput p = "/cwd/job/A.wasm" := by
      change Source.binaryName p.input = _
      rw [input]
      decide +kernel
    rw [command_includesTwice, name] at eq
    exact eq

end Compiler

end CompileJob
