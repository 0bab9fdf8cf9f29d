import CompileJob.Proofs.Compiler.Location
import CompileJob.Proofs.Compiler.Resubmission

namespace CompileJob

open Bench Executor Lowercase

/-! ## Text modules by name -/

theorem Source.isText_basename (path : String) : isText (Path.basename path) = isText path := by
  obtain ⟨lead, split, rfl | ⟨start, rfl⟩⟩ := Path.exists_leading path
  · rw [List.nil_append, String.toList_inj] at split
    rw [← split]
  · rw [List.append_assoc] at split
    exact (isText_below split).symm

theorem lower_eq_of_map {xs : List Char} {t : String} (plain : ∀ c ∈ t.toList, Plain c)
    (lowered : xs.map lowerChar = t.toList) : lower (String.ofList xs) = t := by
  have regular : ∀ c ∈ xs, Regular c := fun c member =>
    regular_of_plain (plain _ (lowered ▸ List.mem_map_of_mem member))
  rw [lower, String.toList_ofList, lowerFrom_eq_map regular, lowered, String.ofList_toList]

theorem map_of_lower_eq {xs : List Char} {t : String} (plain : ∀ c ∈ t.toList, Plain c)
    (lowered : lower (String.ofList xs) = t) : xs.map lowerChar = t.toList := by
  subst lowered
  rw [lower, String.toList_ofList, String.toList_ofList] at plain ⊢
  rw [lowerFrom_eq_map (regular_of_plain_lowerFrom plain)]

/-- The last dot of a path's last part, with more than dots before it. -/
def Path.HasStem (path : String) : Prop :=
  ∃ before after, LastDot (basename path).toList before after ∧ ∃ c ∈ before, c ≠ '.'

theorem plain_wat : ∀ c ∈ ("wat" : String).toList, Plain c := by
  simp [Plain]

theorem Source.exists_letters {name : String} (text : isText name = true) :
    ∃ letters, '.' :: letters <:+ name.toList ∧
      letters.map lowerChar = ("wat" : String).toList := by
  obtain ⟨ending, suffix, lowered⟩ := (isText_iff name).mp text
  cases ending with
  | nil => cases lowered
  | cons c letters =>
    obtain ⟨dot, rest⟩ := List.cons_eq_cons.mp lowered
    rw [eq_dot_of_lowerChar dot] at suffix
    exact ⟨letters, suffix, rest⟩

theorem Source.lastDot_of_isText {name : String} (text : isText name = true) :
    ∃ before after, Path.LastDot name.toList before after ∧
      after.map lowerChar = ("wat" : String).toList := by
  obtain ⟨letters, ⟨before, split⟩, lowered⟩ := exists_letters text
  refine ⟨before, letters, ⟨split.symm, ?_⟩, lowered⟩
  -- A dot among the letters would lower to a dot in the suffix.
  intro dot
  have member : lowerChar '.' ∈ letters.map lowerChar := List.mem_map_of_mem dot
  rw [lowered] at member
  exact absurd member (by decide +kernel)

theorem Source.lower_extension_of_isText {path : String} (text : isText path = true)
    (stem : Path.HasStem path) : lower (Path.extension path) = "wat" := by
  obtain ⟨before, after, dot, c, member, other⟩ := stem
  obtain ⟨_, letters, dot', lowered⟩ := lastDot_of_isText ((isText_basename path).trans text)
  obtain rfl : letters = after := dot'.afterLastDot_eq.symm.trans dot.afterLastDot_eq
  have more : before.any (· ≠ '.') = true := List.any_eq_true.mpr ⟨c, member, by simpa using other⟩
  rw [Path.extension_of_lastDot dot, if_pos more]
  exact lower_eq_of_map plain_wat lowered

theorem Source.lower_extension_eq_iff (path : String) :
    lower (Path.extension path) = "wat" ↔ isText path = true ∧ Path.HasStem path := by
  refine ⟨fun lowered => ?_, fun ⟨text, stem⟩ => lower_extension_of_isText text stem⟩
  have extension := Path.isExtension_extension path
  generalize Path.extension path = ext at lowered extension
  cases extension with
  | none => exact absurd lowered (by decide)
  | @dotted before after dot other =>
    refine ⟨?_, before, after, dot, other⟩
    -- The suffix is that dot and what follows it, which was lowered letter by letter.
    rw [← isText_basename, isText_iff]
    refine ⟨'.' :: after, ⟨before, dot.split.symm⟩, ?_⟩
    rw [List.map_cons, map_of_lower_eq plain_wat lowered]
    decide +kernel

theorem Path.extension_of_not_hasStem {path : String} (dots : ¬ HasStem path) :
    extension path = "" := by
  have is_extension := isExtension_extension path
  generalize extension path = ext at is_extension
  cases is_extension with
  | none => rfl
  | dotted dot other => exact absurd ⟨_, _, dot, other⟩ dots

theorem Path.dot_not_mem_extension (path : String) : '.' ∉ (extension path).toList := by
  have is_extension := isExtension_extension path
  generalize extension path = ext at is_extension
  cases is_extension with
  | none => exact List.not_mem_nil
  | dotted dot other =>
    rw [String.toList_ofList]
    exact dot.last

/-! ## The calls of the backend -/

namespace Backend

variable {b : Backend} {d : Driver} {compiler options given : Value} {input : String}
  {m : Machine} {calls : List Call} {r : Except Fault Value × Machine}

theorem Protocol.converts_first {registry : Registry}
    (h : Protocol b d compiler options input given m calls r) (toolchain : b.toolchain = .wasmer)
    (tools : d.tools = some registry) (text : Source.isText input = true) :
    (∃ tool rest, Converts d input tool ∧ calls = conversionCall tool input :: rest) ∨
      calls = [] ∧ r = (.error (.missingTool (.str "wat2wasm")), m) := by
  cases h with
  | plain cc => rw [toolchain] at cc; cases cc
  | binary _ binary => rw [text] at binary; cases binary
  | unequipped _ _ none => rw [tools] at none; cases none
  | missing => exact Or.inr ⟨rfl, rfl⟩
  | broken _ converts | codeless _ converts | failed _ converts | unlogged _ converts
  | converted _ converts => exact Or.inl ⟨_, _, converts, rfl⟩

theorem Protocol.main_alone (h : Protocol b d compiler options input given m calls r)
    (direct : b.toolchain = .cc ∨ Source.isText input = false) :
    ∃ execOptions, calls = [.main compiler options (.str input) execOptions] := by
  have contradiction (toolchain : b.toolchain = .wasmer) (text : Source.isText input = true) :
      False := by
    simp [toolchain, text] at direct
  cases h with
  | plain | binary => exact ⟨_, rfl⟩
  | unequipped toolchain text | missing toolchain text => exact (contradiction toolchain text).elim
  | broken toolchain converts | codeless toolchain converts | failed toolchain converts
  | unlogged toolchain converts | converted toolchain converts =>
    exact (contradiction toolchain converts.text).elim

end Backend

namespace Compiler

variable {c : Compiler} {environ : Value} {m : Machine} {p : Plan} {source : String}

theorem Planned.exists_dir {asked : Filters} {given : Value}
    (planned : c.Planned m environ asked given p)
    (source_eq : environ.item "source_file" = .ok (.str source)) :
    ∃ dir, p.request.workingDir.orElse m.here = .str dir ∧ p.input = Path.join dir source := by
  have request := planned.request
  simp only [Request.ofEnviron, source_eq, Except.bind_eq_ok] at request
  obtain ⟨_, item, _, -, _, -, _, -, _, -, _, -, _, -, _, -, _, -, _, -, request⟩ := request
  -- The input is joined from the name that the request has kept.
  have own : p.request.sourceFile = .str source :=
    (congrArg Request.sourceFile (Except.ok.inj request)).symm.trans (Except.ok.inj item).symm
  have input := planned.input
  rw [Request.inputFilename, own] at input
  cases dir : p.request.workingDir.orElse m.here with
  | str d =>
    rw [dir] at input
    exact ⟨d, rfl, (Value.str.inj (Except.ok.inj input)).symm⟩
  | _ =>
    rw [dir] at input
    cases input

def Makes (c : Compiler) (environ : Value) (m : Machine) (p : Plan) (calls : List Backend.Call) :
    Prop :=
  Backend.Protocol c.backend (c.driverOf environ p) p.exe (.list p.args) p.input .null m calls
    (c.runPlan environ p m)

theorem exists_makes (c : Compiler) (environ : Value) (m : Machine) (p : Plan) :
    ∃ calls, c.Makes environ m p calls := by
  obtain ⟨calls, r, protocol⟩ := Backend.exists_protocol c.backend (c.driverOf environ p) p.exe
    (.list p.args) p.input .null m
  have run : c.runPlan environ p m = r := protocol.run_eq
  refine ⟨calls, ?_⟩
  rw [Makes, run]
  exact protocol

def ConvertsFirst (c : Compiler) (environ : Value) (m : Machine) (p : Plan) : Prop :=
  ∃ calls, c.Makes environ m p calls ∧
    ((∃ tool rest, Backend.Converts (c.driverOf environ p) p.input tool ∧
        calls = Backend.conversionCall tool p.input :: rest) ∨
      calls = [] ∧ c.runPlan environ p m = (.error (.missingTool (.str "wat2wasm")), m))

def RunsDirectly (c : Compiler) (environ : Value) (m : Machine) (p : Plan) : Prop :=
  ∃ execOptions, c.Makes environ m p [.main p.exe (.list p.args) (.str p.input) execOptions]

theorem convertsFirst_of_isText (toolchain : c.backend.toolchain = .wasmer)
    (text : Source.isText p.input = true) : ConvertsFirst c environ m p := by
  obtain ⟨calls, made⟩ := c.exists_makes environ m p
  exact ⟨calls, made, made.converts_first toolchain rfl text⟩

theorem runsDirectly_of_not (direct : c.backend.toolchain = .cc ∨ Source.isText p.input = false) :
    RunsDirectly c environ m p := by
  obtain ⟨calls, made⟩ := c.exists_makes environ m p
  obtain ⟨execOptions, rfl⟩ := made.main_alone direct
  exact ⟨execOptions, made⟩

end Compiler

namespace Job

variable {tools : Option Registry} {executor : Executor} {environ : Value} {b : Bench}
  {source : String} {m : Machine}

/-! ## The name of the compiler -/

theorem defaultCompiler_eq_iff (source ext : String) :
    defaultCompiler source = "default-" ++ ext ↔ lower (Path.extension source) = ext := by
  rw [defaultCompiler, ← String.toList_inj, String.toList_append, String.toList_append,
    List.append_cancel_left_eq, String.toList_inj]

theorem defaultCompiler_eq_wat_iff (source : String) :
    defaultCompiler source = "default-wat" ↔
      Source.isText source = true ∧ Path.HasStem source :=
  (defaultCompiler_eq_iff source "wat").trans (Source.lower_extension_eq_iff source)

example : Source.isText ".WAT" = true ∧ defaultCompiler ".WAT" = "default-" := by decide +kernel

theorem isText_of_defaultCompiler (ext : String)
    (named : defaultCompiler source = "default-" ++ ext) (wat : ext ≠ "wat")
    (nonempty : ext ≠ "") : Source.isText source = false := by
  rw [defaultCompiler_eq_iff] at named
  rw [Bool.eq_false_iff]
  intro text
  -- A text module whose name is not seen as one has no extension at all.
  by_cases stem : Path.HasStem source
  · rw [Source.lower_extension_of_isText text stem] at named
    exact wat named.symm
  · rw [Path.extension_of_not_hasStem stem] at named
    exact nonempty named.symm

theorem backendKey_defaultCompiler (source : String) :
    backendKey (.str (defaultCompiler source)) = .ok (defaultCompiler source) := by
  -- The cut is at the first dot, and no letter of an extension lowers to one.
  have whole : ∀ c ∈ (defaultCompiler source).toList, decide (c ≠ '.') = true := by
    intro c member
    refine decide_eq_true ?_
    rintro rfl
    rw [defaultCompiler, String.toList_append] at member
    rcases List.mem_append.mp member with start | ext
    · exact absurd start (by decide)
    · rw [lower, String.toList_ofList] at ext
      exact Path.dot_not_mem_extension source (dot_of_mem_lowerFrom ext)
  unfold backendKey
  dsimp only
  rw [List.takeWhile_eq_self_iff.mpr whole, String.ofList_toList]

/-! ## The way to the backend -/

def named (environ : Value) (source : String) : Value :=
  environ.withField "compiler" (.str (defaultCompiler source))

theorem withCompiler_of_unnamed (unnamed : environ.hasField "compiler" = false)
    (source_eq : environ.item "source_file" = .ok (.str source)) :
    withCompiler environ = .ok (named environ source) := by
  obtain ⟨fields, rfl⟩ := Value.exists_object_of_item source_eq
  have absent : Table.has fields "compiler" = false := unnamed
  unfold withCompiler
  dsimp only
  rw [absent, source_eq]
  rfl

theorem optional_named (source_eq : environ.item "source_file" = .ok (.str source)) :
    (named environ source).optional "compiler" = some (.str (defaultCompiler source)) := by
  obtain ⟨fields, rfl⟩ := Value.exists_object_of_item source_eq
  simp [named, Table.find?_put]

theorem item_source_named (source_eq : environ.item "source_file" = .ok (.str source)) :
    (named environ source).item "source_file" = .ok (.str source) := by
  obtain ⟨fields, rfl⟩ := Value.exists_object_of_item source_eq
  refine Value.item_of_optional ?_
  rw [named, Value.optional_withField_of_ne (by decide)]
  exact orFault_eq_ok.mp source_eq

def announced (environ : Value) (source : String) (m : Machine) : Machine :=
  m.record (.log .debug .job ("running compile job " ++ defaultCompiler source ++ " " ++
    (((named environ source).optional "task_id").getD (.str "")).text))

theorem run_of_unnamed (unnamed : environ.hasField "compiler" = false)
    (source_eq : environ.item "source_file" = .ok (.str source)) (b : Bench) :
    run tools executor environ b = (do
      let backend ← Backend.lookup (announced environ source b.machine)
        (.str (defaultCompiler source))
      Compiler.compile { backend, tools, executor } (named environ source) : Step Bench Unit)
        ⟨announced environ source b.machine, named environ source, {}⟩ := by
  have compiler := optional_named source_eq
  unfold run
  rw [Step.run_bind_of_ok (Step.run_modify _ _),
    Step.run_lift_bind_of_ok (withCompiler_of_unnamed unnamed source_eq),
    Step.run_bind_of_ok (Step.run_modify _ _),
    Step.run_lift_bind_of_ok (Value.item_of_optional compiler),
    Step.run_lift_bind_of_ok (Value.field_of_optional compiler _ _),
    Step.run_bind_of_ok (run_onMachine (run_log _ _ _ _)),
    Step.run_lift_bind_of_ok (backendKey_defaultCompiler source)]
  rfl

theorem optional_run_of_unnamed (unnamed : environ.hasField "compiler" = false)
    (source_eq : environ.item "source_file" = .ok (.str source)) (b : Bench) :
    (run tools executor environ b).2.environ.optional "compiler" =
      some (.str (defaultCompiler source)) := by
  rw [run_of_unnamed unnamed source_eq, Step.run_bind, Step.run_lift, ← optional_named source_eq]
  cases Backend.lookup (announced environ source b.machine) (.str (defaultCompiler source)) with
  | error e => rfl
  | ok backend => exact Compiler.compile_keeps _ _ _ (by decide) (by decide) (by decide)

/-! ## The run of the backend -/

theorem lookup_of_standard {t : Toolchain} {key : String}
    (entries : m.entryPoints = EntryPoint.standard)
    (free : Table.find? m.registered (.str key) = none)
    (listed : Backend.firstInstalled EntryPoint.standard (.str Backend.entryGroup) (.str key) =
      .ok (.ofToolchain t)) :
    Backend.lookup m (.str key) = .ok (.ofToolchain t) := by
  have is_key : (Value.str key).isKey = true := rfl
  rw [Backend.lookup, if_pos is_key, free, entries]
  exact listed

inductive Reaches (c : Compiler) (environ : Value) (m : Machine) (Way : Plan → Prop) :
    Except Fault Unit × Bench → Prop
  | unplanned {e : Fault} {memory : Memory} (planless : c.plan m environ = .error e) :
      Reaches c environ m Way (.error e, ⟨m, environ, memory⟩)
  | planned {p : Plan} (planned : c.plan m environ = .ok p) (way : Way p) :
      Reaches c environ m Way ((do
        let result ← onMachine (c.runPlan environ p)
        Compiler.conclude result p.output : Step Bench Unit) ⟨m, environ, p.memory⟩)

theorem reaches_compile {c : Compiler} {Way : Plan → Prop} {memory : Memory}
    (way : ∀ p, c.plan m environ = .ok p → Way p) :
    Reaches c environ m Way (c.compile environ ⟨m, environ, memory⟩) := by
  cases planned : c.plan m environ with
  | error e =>
    obtain ⟨memory', failed⟩ := Compiler.compile_of_no_plan (b := ⟨m, environ, memory⟩) planned
    rw [failed]
    exact .unplanned planned
  | ok p =>
    rw [Compiler.compile_of_plan (b := ⟨m, environ, memory⟩) planned]
    exact .planned planned (way p planned)

def Joins (m : Machine) (source : String) (p : Plan) : Prop :=
  ∃ dir, p.request.workingDir.orElse m.here = .str dir ∧ p.input = Path.join dir source

theorem Joins.isText_eq {p : Plan} (h : Joins m source p) :
    Source.isText p.input = Source.isText source := by
  obtain ⟨dir, -, input⟩ := h
  rw [input, Source.isText_join]

/-- The job goes to a toolchain's own backend, which runs in this way on the joined source, if it
runs. -/
def GoesTo (t : Toolchain) (Way : Compiler → Value → Machine → Plan → Prop)
    (tools : Option Registry) (executor : Executor) (environ : Value) (source : String) (b : Bench) :
    Prop :=
  Reaches ⟨.ofToolchain t, tools, executor⟩ (named environ source)
    (announced environ source b.machine)
    (fun p => Joins b.machine source p ∧ Way ⟨.ofToolchain t, tools, executor⟩
      (named environ source) (announced environ source b.machine) p)
    (run tools executor environ b)

theorem goesTo_of_standard {t : Toolchain} {Way : Compiler → Value → Machine → Plan → Prop}
    (unnamed : environ.hasField "compiler" = false)
    (source_eq : environ.item "source_file" = .ok (.str source))
    (entries : b.machine.entryPoints = EntryPoint.standard)
    (free : Table.find? b.machine.registered (.str (defaultCompiler source)) = none)
    (listed : Backend.firstInstalled EntryPoint.standard (.str Backend.entryGroup)
      (.str (defaultCompiler source)) = .ok (.ofToolchain t))
    (way : ∀ environ m p, Source.isText p.input = Source.isText source →
      Way ⟨.ofToolchain t, tools, executor⟩ environ m p) :
    GoesTo t Way tools executor environ source b := by
  have found : Backend.lookup (announced environ source b.machine)
      (.str (defaultCompiler source)) = .ok (.ofToolchain t) :=
    lookup_of_standard (m := announced environ source b.machine) entries free listed
  rw [GoesTo, run_of_unnamed unnamed source_eq, Step.run_lift_bind_of_ok found]
  refine reaches_compile fun p planned => ?_
  obtain ⟨asked, given, planned⟩ := Compiler.plan_ok planned
  have joins : Joins b.machine source p := planned.exists_dir (item_source_named source_eq)
  exact ⟨joins, way _ _ p joins.isText_eq⟩

/-- A job that names no compiler has the default one for its source in its description from then on,
under a name that is not cut. The extension and the suffix of the source tell the same text modules,
but for names with nothing but dots before the last one. So with the entry points of the package, and
without another backend in their place, a job for text modules converts its input before anything
else, and a job for binary modules or for C never does. -/
theorem run_by_extension (unnamed : environ.hasField "compiler" = false)
    (source_eq : environ.item "source_file" = .ok (.str source)) (tools : Option Registry)
    (executor : Executor) (b : Bench) :
    (run tools executor environ b).2.environ.optional "compiler" =
      some (.str (defaultCompiler source)) ∧
    (∃ ext, Path.IsExtension source ext ∧ defaultCompiler source = "default-" ++ lower ext) ∧
    backendKey (.str (defaultCompiler source)) = .ok (defaultCompiler source) ∧
    (defaultCompiler source = "default-wat" ↔
      Source.isText source = true ∧ Path.HasStem source) ∧
    (b.machine.entryPoints = EntryPoint.standard →
      Table.find? b.machine.registered (.str (defaultCompiler source)) = none →
      (defaultCompiler source = "default-wat" →
        GoesTo .wasmer Compiler.ConvertsFirst tools executor environ source b) ∧
      (defaultCompiler source = "default-wasm" →
        GoesTo .wasmer Compiler.RunsDirectly tools executor environ source b) ∧
      (defaultCompiler source = "default-c" →
        GoesTo .cc Compiler.RunsDirectly tools executor environ source b)) := by
  refine ⟨optional_run_of_unnamed unnamed source_eq b, ⟨_, Path.isExtension_extension source, rfl⟩,
    backendKey_defaultCompiler source, defaultCompiler_eq_wat_iff source, ?_⟩
  intro entries free
  refine ⟨fun wat => ?_, fun wasm => ?_, fun plain => ?_⟩
  · have text : Source.isText source = true := ((defaultCompiler_eq_wat_iff source).mp wat).1
    refine goesTo_of_standard unnamed source_eq entries free (by rw [wat]; rfl) ?_
    exact fun _ _ _ same => Compiler.convertsFirst_of_isText rfl (same.trans text)
  · have binary : Source.isText source = false :=
      isText_of_defaultCompiler "wasm" wasm (by decide) (by decide)
    refine goesTo_of_standard unnamed source_eq entries free (by rw [wasm]; rfl) ?_
    exact fun _ _ _ same => Compiler.runsDirectly_of_not (Or.inr (same.trans binary))
  · refine goesTo_of_standard unnamed source_eq entries free (by rw [plain]; rfl) ?_
    exact fun _ _ _ _ => Compiler.runsDirectly_of_not (Or.inl rfl)

def upperCaseModule : Value := .object [("source_file", .str "v1.0/a.WAT")]

def standardBench : Bench := ⟨{ Machine.blank with entryPoints := EntryPoint.standard }, .null, {}⟩

theorem run_by_extension_of_upper_case :
    (run none host upperCaseModule standardBench).2.environ.optional "compiler" =
      some (.str "default-wat") ∧
    GoesTo .wasmer Compiler.ConvertsFirst none host upperCaseModule "v1.0/a.WAT" standardBench := by
  have compiler : defaultCompiler "v1.0/a.WAT" = "default-wat" := by decide +kernel
  have unnamed : upperCaseModule.hasField "compiler" = false := rfl
  obtain ⟨given, -, -, -, ways⟩ := run_by_extension unnamed rfl none host standardBench
  rw [compiler] at given
  exact ⟨given, (ways rfl rfl).1 compiler⟩

end Job

end CompileJob
