import CompileJob.Proofs.Compiler.Artifact
import CompileJob.Proofs.Tool.Configuration

namespace CompileJob

variable {key other : String}

theorem Value.field_withField_of_ne (different : key ≠ other) (v content default : Value) :
    (v.withField key content).field other default = v.field other default := by
  cases v with
  | object fields => simp [field, Table.getD, Table.find?_put, different]
  | _ => rfl

theorem Value.item_withField_of_ne (different : key ≠ other) (v content : Value) :
    (v.withField key content).item other = v.item other := by
  cases v with
  | object fields => simp [item, Table.find?_put, different]
  | _ => rfl

namespace Compiler

open Bench

variable {c : Compiler} {environ : Value} {b : Bench} {registry : Registry}

def RunsWith (c : Compiler) (environ : Value) (b : Bench) (registry : Registry) : Prop :=
  ∀ p, c.plan b.machine environ = .ok p →
    c.compile environ b = (do
      let result ← onMachine (c.backend.run { c.driverOf environ p with tools := some registry }
        p.exe (.list p.args) (.str p.input) .null)
      conclude result p.output) ⟨b.machine, environ, { p.memory with tools := some registry }⟩

theorem runsWith_of_toolsFor (tools : c.toolsFor b.machine environ = .ok registry) :
    c.RunsWith environ b registry := by
  intro p planned
  obtain ⟨asked, given, facts⟩ := plan_ok planned
  obtain rfl : registry = p.tools := Except.ok.inj (tools.symm.trans facts.tools)
  exact compile_of_plan planned

theorem request_withField_tools (m : Machine) (environ tools : Value)
    (env : Table String String) :
    Request.ofEnviron { m with env } (environ.withField "tools" tools) =
      Request.ofEnviron m environ := by
  simp only [Request.ofEnviron, Request.group, ne_eq, String.reduceEq, not_false_eq_true,
    Value.item_withField_of_ne, Value.field_withField_of_ne]
  rfl

theorem plan_of_given (given : c.tools = some registry) (m : Machine) (environ tools : Value)
    (env : Table String String) :
    c.plan { m with env } (environ.withField "tools" tools) = c.plan m environ := by
  have filters : Filters.ofEnviron (environ.withField "tools" tools) =
      Filters.ofEnviron environ := by
    rw [Filters.ofEnviron, Filters.ofEnviron, Value.field_withField_of_ne (by decide)]
  simp only [plan, toolsFor, given, filters, request_withField_tools]
  rw [Value.field_withField_of_ne (by decide)]
  rfl

theorem compile_of_faulty_tools {e : Fault} {request : Request} {filters : Filters}
    (reads : Request.ofEnviron b.machine environ = .ok request)
    (asks : Filters.ofEnviron environ = .ok filters)
    (fails : c.toolsFor b.machine environ = .error e) :
    ∃ memory, c.compile environ b = (.error e, ⟨b.machine, environ, memory⟩) := by
  apply compile_of_no_plan
  rw [plan, reads, asks, fails]
  rfl

end Compiler

open Registry ToolDescriptor

/-- A configuration in which every entry is well formed gives the registry of its capabilities, and
any other the fault of the smallest one that is not; in what order it lists them does not matter. A
compiler takes it only where it was given no registry. -/
theorem tools_of_configuration :
    (∀ executor env environ listed, Configures environ listed →
      ((∀ id entry, configured env listed id = some entry → WellFormed entry) →
        ∃ registry, ofEnviron executor env environ = .ok registry ∧
          Provides executor (configured env listed) registry) ∧
      ((¬ ∀ id entry, configured env listed id = some entry → WellFormed entry) →
        ∃ id entry, configured env listed id = some entry ∧ ¬ WellFormed entry ∧
          (∀ other < id, ∀ e, configured env listed other = some e → WellFormed e) ∧
          ofEnviron executor env environ = .error (faultOf entry)) ∧
      ∀ environ' listed', Configures environ' listed' → listed'.Perm listed →
        ofEnviron executor env environ' = ofEnviron executor env environ) ∧
    (∀ (c : Compiler) registry, c.tools = some registry → ∀ environ b,
      c.RunsWith environ b registry ∧
      ∀ env tools, c.plan { b.machine with env } (environ.withField "tools" tools) =
        c.plan b.machine environ) ∧
    (∀ (c : Compiler) environ (b : Bench), c.tools = none →
      (∀ registry, ofEnviron c.executor b.machine.env environ = .ok registry →
        c.RunsWith environ b registry) ∧
      ∀ e request filters, ofEnviron c.executor b.machine.env environ = .error e →
        Request.ofEnviron b.machine environ = .ok request →
        Filters.ofEnviron environ = .ok filters →
        ∃ memory, c.compile environ b = (.error e, ⟨b.machine, environ, memory⟩)) := by
  refine ⟨fun executor env environ listed h => ⟨h.ofEnviron_of_wellFormed, h.ofEnviron_of_fault,
    fun environ' listed' h' same => h'.ofEnviron_congr h same⟩, ?_, ?_⟩
  · intro c registry given environ b
    constructor
    · apply Compiler.runsWith_of_toolsFor
      rw [Compiler.toolsFor, given]
    · exact fun env tools => Compiler.plan_of_given given b.machine environ tools env
  · intro c environ b none
    have tools : c.toolsFor b.machine environ = ofEnviron c.executor b.machine.env environ := by
      rw [Compiler.toolsFor, none]
    constructor
    · intro registry gives
      exact Compiler.runsWith_of_toolsFor (tools.trans gives)
    · intro e request filters fails reads asks
      exact Compiler.compile_of_faulty_tools reads asks (tools.trans fails)

def listing (listed : Fields) : Value :=
  .object [("source_file", .str "a.c"), ("tools", .object listed)]

theorem configures_listing {listed : Fields} (distinct : (listed.map (·.1)).Nodup) :
    Configures (listing listed) listed := ⟨⟨_, rfl⟩, rfl, distinct⟩

def unsound : Fields :=
  [("b", .object []), ("a", .object [("exe", .str "x"), ("options", .int 1)])]

theorem tools_of_configuration_unsound :
    ofEnviron Executor.host [] (listing unsound) = .error .wrongType ∧
      ofEnviron Executor.host [] (listing unsound.reverse) = .error .wrongType ∧
      (∃ memory, Compiler.cOnHost.compile (listing unsound) ⟨Machine.blank, .null, {}⟩ =
        (.error .wrongType, ⟨Machine.blank, listing unsound, memory⟩)) ∧
      Compiler.RunsWith { Compiler.cOnHost with tools := some empty } (listing unsound)
        ⟨Machine.blank, .null, {}⟩ empty := by
  obtain ⟨ofMap, ofGiven, ofNone⟩ := tools_of_configuration
  have configures : Configures (listing unsound) unsound := configures_listing (by decide)
  have configures' : Configures (listing unsound.reverse) unsound.reverse :=
    configures_listing (by decide)
  obtain ⟨-, ofFault, ofOrder⟩ := ofMap Executor.host [] _ _ configures
  have bad_a : ¬ WellFormed (.object [("exe", .str "x"), ("options", .int 1)]) :=
    fun wellFormed => wellFormed.2 (.int 1) rfl
  obtain ⟨id, entry, given, bad, smallest, fails⟩ := ofFault fun all => bad_a (all "a" _ rfl)
  have not_after : ¬ "a" < id := fun smaller => bad_a (smallest "a" smaller _ rfl)
  have here : id = "a" := by
    by_cases second : id = "b"
    · subst second
      exact absurd (by decide) not_after
    · apply Classical.byContradiction
      intro first
      simp [configured, unsound, defaultConverter, Table.find?_cons, Ne.symm second,
        Ne.symm first] at given
  subst here
  cases given
  have fails : ofEnviron Executor.host [] (listing unsound) = .error .wrongType := fails
  refine ⟨fails, ?_, ?_, (ofGiven _ empty rfl _ _).1⟩
  · rw [ofOrder _ _ configures' (List.reverse_perm unsound), fails]
  · exact (ofNone Compiler.cOnHost _ _ rfl).2 _ _ _ fails rfl rfl

end CompileJob
