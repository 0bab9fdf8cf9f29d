import CompileJob.Proofs.Compiler.Launches
import CompileJob.Proofs.Tool.Trail

namespace CompileJob

open Machine Executor Bench

namespace Compiler

variable {c c' : Compiler} {environ environ' : Value} {p p' : Plan} {m : Machine} {tool tool' : Tool}

/-! ## The conversion -/

def announcement (b : Backend) (tool : Tool) (input : String) : List Event :=
  [.log .debug .wasm ("converting " ++ input ++ " to " ++ Source.binaryName input),
    .log .debug .tool ("running tool " ++ tool.descriptor.id.text ++ " for " ++ b.lang.text)]

inductive ConversionTrail (b : Backend) (tool : Tool) (input : String) (m : Machine) :
    Except Fault Value → List Event → Prop
  | unspoken {e : Fault}
      (unspoken : wordsOf (Backend.conversionCommand tool input) = .error e) :
      ConversionTrail b tool input m (.error e) (announcement b tool input)
  | run {words : List String} {message : Except Fault String} {r : Except Fault Value} {events : List Event}
      (spoken : wordsOf (Backend.conversionCommand tool input) = .ok words)
      (trail : Trail (toolLaunch (Backend.conversionCommand tool input) words m) message r events) :
      ConversionTrail b tool input m r (announcement b tool input ++ events)

theorem announced_trace (b : Backend) (tool : Tool) (input : String) (m : Machine) :
    (b.announced tool input m).trace = m.trace ++ announcement b tool input :=
  List.append_assoc _ [_] [_]

theorem OnHost.exists_conversion_trail (onHost : c.OnHost)
    (converting : c.Converting m environ p tool) :
    ∃ events, (c.backend.conversion tool p.input m).2.trace = m.trace ++ events ∧
      ConversionTrail c.backend tool p.input m (c.backend.conversion tool p.input m).1 events := by
  rw [onHost.conversion_eq converting.planned converting.converts]
  have announced := announced_trace c.backend tool p.input m
  cases spoken : wordsOf (Backend.conversionCommand tool p.input) with
  | error e =>
    rw [host_of_unspoken spoken]
    exact ⟨_, announced, .unspoken spoken⟩
  | ok words =>
    obtain ⟨message, events, trace, trail⟩ :=
      exists_host_trail spoken (c.backend.announced tool p.input m)
    rw [announced, List.append_assoc] at trace
    exact ⟨_, trace, .run spoken trail⟩

theorem OnHost.conversion_congr (onHost : c.OnHost) (onHost' : c'.OnHost)
    (backend : c'.backend = c.backend) (converting : c.Converting m environ p tool)
    (converting' : c'.Converting m environ' p' tool') (input : p'.input = p.input)
    (descriptor : tool'.descriptor = tool.descriptor) :
    c'.backend.conversion tool' p'.input m = c.backend.conversion tool p.input m := by
  rw [onHost.conversion_eq converting.planned converting.converts,
    onHost'.conversion_eq converting'.planned converting'.converts, backend, input]
  unfold Backend.conversionCommand Backend.announced
  rw [descriptor]

theorem OnHost.conversion_trace_prefix {b : Bench} (onHost : c.OnHost)
    (converting : c.Converting b.machine environ p tool) :
    (c.backend.conversion tool p.input b.machine).2.trace <+:
      (c.compile environ b).2.machine.trace := by
  have converted := onHost.since_converted converting
  have compiled : (c.runPlan environ p b.machine).2.Since
      (HostLaunch b.machine.site p.command (defaultExecOptions environ p.memory))
      (c.compile environ b).2.machine := since_runPlan converting.planned
  obtain ⟨rest, trace, -⟩ := (converted.trans compiled).launches
  exact ⟨rest, trace.symm⟩

end Compiler

def Localized (env given : Table String String) : Prop :=
  ∀ key, Table.find? given key =
    if key = "LC_ALL" ∨ key = "LANGUAGE" then some "en_US.UTF-8" else Table.find? env key

theorem localized_processEnv (env : Table String String) : Localized env (processEnv env) := by
  intro key
  simp only [processEnv, Table.find?_put, beq_iff_eq]
  by_cases language : key = "LANGUAGE"
  · simp [language]
  · by_cases all : key = "LC_ALL"
    · simp [all]
    · rw [if_neg (Ne.symm language), if_neg (Ne.symm all), if_neg (not_or.mpr ⟨all, language⟩)]

def LocalizedSince (m n : Machine) : Prop :=
  ∃ events, n.trace = m.trace ++ events ∧ ∀ l, .spawn l ∈ events → Localized m.env l.env

theorem localizedSince {m n : Machine} (h : m.Since (fun l => l.env = processEnv m.env) n) :
    LocalizedSince m n := by
  obtain ⟨events, trace, launched⟩ := h.launches
  refine ⟨events, trace, ?_⟩
  intro l member
  rw [launched l member]
  exact localized_processEnv m.env

/-- Two jobs that come to convert the same input with the same converter on the same machine do so by
the same run, with the same events at the beginning of both, whatever else their descriptions hold.
And no job has a say in the environment of a process. -/
theorem conversion_is_isolated {c c' : Compiler} (onHost : c.OnHost) (onHost' : c'.OnHost)
    (backend : c'.backend = c.backend) (environ environ' : Value) (b b' : Bench)
    (machine : b'.machine = b.machine) :
    (∀ p p' tool tool', c.Converting b.machine environ p tool →
      c'.Converting b'.machine environ' p' tool' → p'.input = p.input →
      tool'.descriptor = tool.descriptor →
      ∃ run events, c.backend.conversion tool p.input b.machine = run ∧
        c'.backend.conversion tool' p'.input b'.machine = run ∧
        run.2.trace = b.machine.trace ++ events ∧
        Compiler.ConversionTrail c.backend tool p.input b.machine run.1 events ∧
        b.machine.trace ++ events <+: (c.compile environ b).2.machine.trace ∧
        b'.machine.trace ++ events <+: (c'.compile environ' b').2.machine.trace) ∧
    LocalizedSince b.machine (c.compile environ b).2.machine ∧
    ∀ tools : Option Registry, (∀ registry, tools = some registry → registry.RunBy host) →
      LocalizedSince b.machine (Job.run tools host environ b).2.machine := by
  refine ⟨?_, localizedSince ?_, ?_⟩
  · intro p p' tool tool' converting converting' input descriptor
    rw [machine] at converting' ⊢
    obtain ⟨events, trace, trail⟩ := onHost.exists_conversion_trail converting
    have same := onHost.conversion_congr onHost' backend converting converting' input descriptor
    have begins := onHost.conversion_trace_prefix converting
    have begins' := onHost'.conversion_trace_prefix (b := b') (machine ▸ converting')
    rw [trace] at begins
    rw [machine, same, trace] at begins'
    exact ⟨_, events, rfl, same, trace, trail, begins, begins'⟩
  · exact (onHost.since_start environ b).mono fun l launch => launch.env_eq
  · intro tools runBy
    exact localizedSince (Job.launches_run runBy environ _ b rfl)

namespace Compiler

def wasmOnHost : Compiler := ⟨Backend.ofToolchain .wasmer, none, host⟩

theorem onHost_wasmOnHost : wasmOnHost.OnHost := ⟨rfl, nofun⟩

def moduleInDirectory : Value :=
  .object [("source_file", .str "a.wat"), ("working_dir", .str "/w"),
    ("tools", .object [("wat2wasm", .str "w2w")]), ("compilation_mem_limit", .int 1)]

def moduleByPath : Value :=
  .object [("source_file", .str "/w/a.wat"), ("extra_compilation_args", texts ["-g"]),
    ("tools", .object [("wat2wasm", .object [("exe", .str "w2w")])])]

def moduleConverter : Tool := ⟨⟨.str "wat2wasm", .str "w2w", .null, []⟩, host⟩

def moduleConversion : Launch where
  command := texts ["w2w", "-o", "/w/a.wasm", "/w/a.wat"]
  words := ["w2w", "-o", "/w/a.wasm", "/w/a.wat"]
  cwd := .str "/cwd"
  env := [("LC_ALL", "en_US.UTF-8"), ("LANGUAGE", "en_US.UTF-8")]
  piped := true
  merged := true

theorem conversion_is_isolated_from_directory :
    ∃ events, .spawn moduleConversion ∈ events ∧ .wait none ∈ events ∧
      events <+: (wasmOnHost.compile moduleInDirectory ⟨blank, .null, {}⟩).2.machine.trace ∧
      events <+: (wasmOnHost.compile moduleByPath ⟨blank, .null, {}⟩).2.machine.trace := by
  have converting : wasmOnHost.Converting blank moduleInDirectory _ moduleConverter :=
    ⟨rfl, rfl, by decide +kernel, _, rfl, rfl⟩
  have converting' : wasmOnHost.Converting blank moduleByPath _ moduleConverter :=
    ⟨rfl, rfl, by decide +kernel, _, rfl, rfl⟩
  obtain ⟨run, events, ran, -, -, trail, begins, begins'⟩ :=
    (conversion_is_isolated onHost_wasmOnHost onHost_wasmOnHost rfl moduleInDirectory moduleByPath
      ⟨blank, .null, {}⟩ ⟨blank, .null, {}⟩ rfl).1 _ _ _ _ converting converting' rfl rfl
  have zero : (run.1.bind (·.item "return_code")).toOption.any (!·.truthy) = true := by
    rw [← ran]
    decide +kernel
  have complete : ∃ message, events = announcement wasmOnHost.backend moduleConverter "/w/a.wat" ++
      unlimitedEvents moduleConversion message := by
    generalize run.1 = r at trail zero
    cases trail with
    | unspoken unspoken => cases unspoken
    | run spoken trail =>
      cases spoken
      cases trail with
      | notStarted => cases zero
      | broken => cases zero
      | ended => exact ⟨_, rfl⟩
  obtain ⟨message, events_eq⟩ := complete
  exact ⟨events, by simp [events_eq, unlimitedEvents], by simp [events_eq, unlimitedEvents],
    begins, begins'⟩

end Compiler

end CompileJob
