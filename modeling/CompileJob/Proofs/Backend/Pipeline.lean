import CompileJob.Compiler
import CompileJob.Proofs.Machine
import CompileJob.Proofs.Source
import CompileJob.Proofs.Step

namespace CompileJob

/-- The options that reach the main step: those given, also when there are none in them, or else the
driver's own. -/
def Driver.optionsFor (d : Driver) (given : Value) : Value :=
  if given.isNull then d.defaultOptions else given

namespace Backend

inductive Call where
  | tool (command : Value) (options : Fields)
  | main (compiler options input execOptions : Value)

structure Converts (d : Driver) (input : String) (tool : Tool) : Prop where
  text : Source.isText input = true
  found : ∃ registry, d.tools = some registry ∧
    Table.find? registry.tools (.str "wat2wasm") = some tool

def conversionCommand (tool : Tool) (input : String) : Value :=
  .list ([tool.descriptor.exe] ++ tool.descriptor.options ++
    [.str "-o", .str (Source.binaryName input), .str input])

def announced (b : Backend) (tool : Tool) (input : String) (m : Machine) : Machine :=
  let named := m.record
    (.log .debug .wasm ("converting " ++ input ++ " to " ++ Source.binaryName input))
  named.record
    (.log .debug .tool ("running tool " ++ tool.descriptor.id.text ++ " for " ++ b.lang.text))

def conversion (b : Backend) (tool : Tool) (input : String) (m : Machine) :
    Except Fault Value × Machine :=
  tool.executor (conversionCommand tool input) Tool.runOptions (announced b tool input m)

def conversionCall (tool : Tool) (input : String) : Call :=
  .tool (conversionCommand tool input) Tool.runOptions

def failureLogged (tool : Tool) (code : Value) (m : Machine) : Machine :=
  m.recordAll (lineEvents .debug .tool (tool.failureMessage code))

/-- The calls of a run in order, and its end. A backend for C makes the main step alone; so does the
other one for a binary module. -/
inductive Protocol (b : Backend) (d : Driver) (compiler options : Value) (input : String)
    (given : Value) (m : Machine) : List Call → Except Fault Value × Machine → Prop
  | plain (toolchain : b.toolchain = .cc) :
      Protocol b d compiler options input given m [.main compiler options (.str input) given]
        (d.runCompiler compiler options (.str input) given m)
  | binary (toolchain : b.toolchain = .wasmer) (binary : Source.isText input = false) :
      Protocol b d compiler options input given m
        [.main compiler options (.str input) (d.optionsFor given)]
        (d.runCompiler compiler options (.str input) (d.optionsFor given) m)
  | unequipped (toolchain : b.toolchain = .wasmer) (text : Source.isText input = true)
      (tools : d.tools = none) :
      Protocol b d compiler options input given m [] (.error .unsupported, m)
  | missing {registry : Registry} (toolchain : b.toolchain = .wasmer)
      (text : Source.isText input = true) (tools : d.tools = some registry)
      (none : Table.find? registry.tools (.str "wat2wasm") = none) :
      Protocol b d compiler options input given m []
        (.error (.missingTool (.str "wat2wasm")), m)
  | broken {tool : Tool} {e : Fault} {n : Machine} (toolchain : b.toolchain = .wasmer)
      (converts : Converts d input tool) (answer : b.conversion tool input m = (.error e, n)) :
      Protocol b d compiler options input given m [conversionCall tool input] (.error e, n)
  | codeless {tool : Tool} {result : Value} {e : Fault} {n : Machine}
      (toolchain : b.toolchain = .wasmer) (converts : Converts d input tool)
      (answer : b.conversion tool input m = (.ok result, n))
      (reports : result.item "return_code" = .error e) :
      Protocol b d compiler options input given m [conversionCall tool input] (.error e, n)
  | failed {tool : Tool} {result code : Value} {n : Machine}
      (toolchain : b.toolchain = .wasmer) (converts : Converts d input tool)
      (answer : b.conversion tool input m = (.ok result, n))
      (reports : result.item "return_code" = .ok code) (nonzero : code.truthy = true)
      (lenient : n.strictLog = true → ∃ line, tool.failureMessage code = .ok line) :
      Protocol b d compiler options input given m [conversionCall tool input]
        (.ok result, failureLogged tool code n)
  /-- Standard logging never breaks off a run. A strict log does so where the code of a failure has no
  integer to be shown. -/
  | unlogged {tool : Tool} {result code : Value} {e : Fault} {n : Machine}
      (toolchain : b.toolchain = .wasmer) (converts : Converts d input tool)
      (answer : b.conversion tool input m = (.ok result, n))
      (reports : result.item "return_code" = .ok code) (nonzero : code.truthy = true)
      (strict : n.strictLog = true) (unformatted : tool.failureMessage code = .error e) :
      Protocol b d compiler options input given m [conversionCall tool input] (.error e, n)
  | converted {tool : Tool} {result code : Value} {n : Machine}
      (toolchain : b.toolchain = .wasmer) (converts : Converts d input tool)
      (answer : b.conversion tool input m = (.ok result, n))
      (reports : result.item "return_code" = .ok code) (zero : code.truthy = false) :
      Protocol b d compiler options input given m
        [conversionCall tool input,
          .main compiler options (.str (Source.binaryName input)) (d.optionsFor given)]
        (d.runCompiler compiler options (.str (Source.binaryName input)) (d.optionsFor given) n)

variable {b : Backend} {d : Driver} {compiler options given : Value} {input : String}
  {m : Machine} {calls : List Call} {r : Except Fault Value × Machine}

theorem findConverter_of_converts {tool : Tool} (h : Converts d input tool) :
    findConverter d = .ok tool := by
  obtain ⟨registry, tools, found⟩ := h.found
  rw [findConverter, tools]
  change (do orFault (.missingTool _) (← Except.ok (Table.find? registry.tools _))) = _
  rw [show (Value.str Registry.converter) = .str "wat2wasm" from rfl, found]
  rfl

theorem callerLang_callerInfo (b : Backend) : Tool.callerLang b.callerInfo = .ok b.lang := rfl

theorem command_eq_conversionCommand (tool : Tool) (input : String) :
    Value.list (tool.command (.str input) [.str "-o", .str (Source.binaryName input)]) =
      conversionCommand tool input := by
  simp [Tool.command, conversionCommand]

theorem run_convert (b : Backend) (tool : Tool) (input : String) (m : Machine) :
    b.convert tool input m = match b.conversion tool input m with
      | (.error e, n) => (.error e, n)
      | (.ok result, n) => match result.item "return_code" with
          | .error e => (.error e, n)
          | .ok code => if code.truthy then
              match logFormatted .debug .tool (tool.failureMessage code) n with
              | (.error e, n') => (.error e, n')
              | (.ok _, n') => (.ok result, n')
            else (.ok result, n) := by
  have extra : (Value.list [.str "-o", .str (Source.binaryName input)]).elements =
      .ok [.str "-o", .str (Source.binaryName input)] := rfl
  unfold convert Tool.run
  simp only [Step.run_bind, run_log, Step.run_lift, callerLang_callerInfo, extra,
    command_eq_conversionCommand]
  rw [← announced, ← conversion]
  cases answer : b.conversion tool input m with
  | mk r n =>
    cases r with
    | error e => rfl
    | ok result =>
      dsimp only
      cases result.item "return_code" with
      | error e => rfl
      | ok code =>
        dsimp only
        split
        · rw [Step.run_bind]
          rcases logFormatted .debug .tool (tool.failureMessage code) n with ⟨_ | _, _⟩ <;> rfl
        · rfl

theorem run_of_binary (toolchain : b.toolchain = .wasmer) (binary : Source.isText input = false) :
    b.run d compiler options (.str input) given m =
      d.runCompiler compiler options (.str input) (d.optionsFor given) m := by
  unfold run
  rw [toolchain]
  simp only [runWasmer, Step.run_bind, Source.nameOf, Step.run_lift, binary,
    Source.binaryName_of_not_isText binary]
  rfl

theorem run_of_no_converter {e : Fault} (toolchain : b.toolchain = .wasmer)
    (text : Source.isText input = true) (missing : findConverter d = .error e) :
    b.run d compiler options (.str input) given m = (.error e, m) := by
  unfold run
  rw [toolchain]
  simp only [runWasmer, Step.run_bind, Source.nameOf, Step.run_lift, text, missing, if_true]

theorem run_of_converts {tool : Tool} (toolchain : b.toolchain = .wasmer)
    (converts : Converts d input tool) :
    b.run d compiler options (.str input) given m = match b.convert tool input m with
      | (.error e, n) => (.error e, n)
      | (.ok result, n) => match result.item "return_code" with
          | .error e => (.error e, n)
          | .ok code => if code.truthy then (.ok result, n)
              else d.runCompiler compiler options (.str (Source.binaryName input))
                (d.optionsFor given) n := by
  unfold run
  rw [toolchain]
  simp only [runWasmer, Step.run_bind, Source.nameOf, Step.run_lift, converts.text,
    findConverter_of_converts converts, if_true]
  cases b.convert tool input m with
  | mk r n =>
    cases r with
    | error e => rfl
    | ok result =>
      dsimp only
      cases result.item "return_code" with
      | error e => rfl
      | ok code =>
        dsimp only
        split <;> rfl

theorem Protocol.run_eq (h : Protocol b d compiler options input given m calls r) :
    b.run d compiler options (.str input) given m = r := by
  cases h with
  | plain toolchain =>
    unfold run
    rw [toolchain]
  | binary toolchain binary => exact run_of_binary toolchain binary
  | unequipped toolchain text tools =>
    apply run_of_no_converter toolchain text
    rw [findConverter, tools]
    rfl
  | missing toolchain text tools none =>
    apply run_of_no_converter toolchain text
    rw [findConverter, tools]
    change (do orFault (.missingTool _) (← Except.ok (Table.find? _ _))) = _
    rw [show (Value.str Registry.converter) = .str "wat2wasm" from rfl, none]
    rfl
  | broken toolchain converts answer => rw [run_of_converts toolchain converts, run_convert, answer]
  | codeless toolchain converts answer reports =>
    rw [run_of_converts toolchain converts, run_convert, answer]
    simp only [reports]
  | failed toolchain converts answer reports nonzero lenient =>
    rw [run_of_converts toolchain converts, run_convert, answer]
    simp only [reports, nonzero, run_logFormatted_of_lenient lenient, if_true]
    rfl
  | unlogged toolchain converts answer reports nonzero strict unformatted =>
    rw [run_of_converts toolchain converts, run_convert, answer]
    simp only [reports, nonzero, run_logFormatted_of_strict strict unformatted, if_true]
  | converted toolchain converts answer reports zero =>
    rw [run_of_converts toolchain converts, run_convert, answer]
    simp only [reports, zero, Bool.false_eq_true, if_false]

theorem exists_protocol (b : Backend) (d : Driver) (compiler options : Value) (input : String)
    (given : Value) (m : Machine) :
    ∃ calls r, Protocol b d compiler options input given m calls r := by
  cases toolchain : b.toolchain with
  | cc => exact ⟨_, _, .plain toolchain⟩
  | wasmer =>
    cases text : Source.isText input with
    | false => exact ⟨_, _, .binary toolchain text⟩
    | true =>
      cases tools : d.tools with
      | none => exact ⟨_, _, .unequipped toolchain text tools⟩
      | some registry =>
        cases found : Table.find? registry.tools (.str "wat2wasm") with
        | none => exact ⟨_, _, .missing toolchain text tools found⟩
        | some tool =>
          have converts : Converts d input tool := ⟨text, registry, tools, found⟩
          cases answer : b.conversion tool input m with
          | mk r n =>
            cases r with
            | error e => exact ⟨_, _, .broken toolchain converts answer⟩
            | ok result =>
              cases reports : result.item "return_code" with
              | error e => exact ⟨_, _, .codeless toolchain converts answer reports⟩
              | ok code =>
                cases zero : code.truthy with
                | false => exact ⟨_, _, .converted toolchain converts answer reports zero⟩
                | true =>
                  cases formatted : tool.failureMessage code with
                  | ok line =>
                    exact ⟨_, _, .failed toolchain converts answer reports zero
                      fun _ => ⟨line, formatted⟩⟩
                  | error e =>
                    cases strict : n.strictLog with
                    | true =>
                      exact ⟨_, _, .unlogged toolchain converts answer reports zero strict
                        formatted⟩
                    | false =>
                      exact ⟨_, _, .failed toolchain converts answer reports zero (by simp [strict])⟩

theorem Protocol.main_call (h : Protocol b d compiler options input given m calls r)
    (toolchain : b.toolchain = .wasmer) {compiler' options' input' execOptions : Value}
    (call : .main compiler' options' input' execOptions ∈ calls) :
    compiler' = compiler ∧ options' = options ∧ execOptions = d.optionsFor given ∧
      input' = .str (Source.binaryName input) := by
  cases h with
  | plain cc => rw [toolchain] at cc; cases cc
  | binary _ binary =>
    cases List.mem_singleton.mp call
    exact ⟨rfl, rfl, rfl, by rw [Source.binaryName_of_not_isText binary]⟩
  | converted =>
    rcases List.mem_cons.mp call with call | call
    · cases call
    · cases List.mem_singleton.mp call
      exact ⟨rfl, rfl, rfl, rfl⟩
  | unequipped | missing => cases call
  | broken | codeless | failed | unlogged => cases List.mem_singleton.mp call

theorem Converts.unique {tool tool' : Tool} (h : Converts d input tool)
    (h' : Converts d input tool') : tool = tool' :=
  Except.ok.inj ((findConverter_of_converts h).symm.trans (findConverter_of_converts h'))

theorem Protocol.failed_result {tool : Tool} {result code : Value} {n : Machine}
    (h : Protocol b d compiler options input given m calls r) (toolchain : b.toolchain = .wasmer)
    (converts : Converts d input tool) (answer : b.conversion tool input m = (.ok result, n))
    (reports : result.item "return_code" = .ok code) (nonzero : code.truthy = true)
    (standard : n.strictLog = false) :
    r = (.ok result, failureLogged tool code n) ∧ calls = [conversionCall tool input] := by
  obtain ⟨registry, tools, found⟩ := converts.found
  cases h with
  | plain cc => rw [toolchain] at cc; cases cc
  | binary _ binary => rw [converts.text] at binary; cases binary
  | unequipped _ _ none => rw [tools] at none; cases none
  | missing _ _ tools' none =>
    rw [tools] at tools'
    cases tools'
    rw [found] at none
    cases none
  | broken _ converts' answer' =>
    cases converts.unique converts'
    rw [answer] at answer'
    cases answer'
  | codeless _ converts' answer' reports' =>
    cases converts.unique converts'
    cases answer.symm.trans answer'
    rw [reports] at reports'
    cases reports'
  | failed _ converts' answer' reports' =>
    cases converts.unique converts'
    cases answer.symm.trans answer'
    cases reports.symm.trans reports'
    exact ⟨rfl, rfl⟩
  | unlogged _ converts' answer' _ _ strict =>
    cases converts.unique converts'
    cases answer.symm.trans answer'
    rw [standard] at strict
    cases strict
  | converted _ converts' answer' reports' zero =>
    cases converts.unique converts'
    cases answer.symm.trans answer'
    cases reports.symm.trans reports'
    rw [nonzero] at zero
    cases zero

/-- Two drivers are the same to a run with these calls: it asks for tools only when it has a text
module, and nothing of the main step but the calls. -/
structure Agrees (d d' : Driver) (input : String) (calls : List Call) :
    Prop where
  defaultOptions : d'.defaultOptions = d.defaultOptions
  tools : Source.isText input = true → d'.tools = d.tools
  runCompiler : ∀ compiler options input execOptions,
    .main compiler options input execOptions ∈ calls →
    d'.runCompiler compiler options input execOptions =
      d.runCompiler compiler options input execOptions

theorem Converts.of_agrees {d' : Driver} {tool : Tool} (h : Converts d input tool)
    (same : Agrees d d' input calls) : Converts d' input tool := by
  obtain ⟨registry, tools, found⟩ := h.found
  exact ⟨h.text, registry, (same.tools h.text).trans tools, found⟩

theorem optionsFor_of_agrees {d' : Driver} (same : Agrees d d' input calls) (given : Value) :
    d'.optionsFor given = d.optionsFor given := by
  rw [Driver.optionsFor, same.defaultOptions, Driver.optionsFor]

theorem Protocol.of_agrees {d' : Driver} (h : Protocol b d compiler options input given m calls r)
    (same : Agrees d d' input calls) : Protocol b d' compiler options input given m calls r := by
  have execOptions := optionsFor_of_agrees same given
  cases h with
  | plain toolchain =>
    rw [← same.runCompiler _ _ _ _ (by simp)]
    exact .plain toolchain
  | binary toolchain binary =>
    rw [← same.runCompiler _ _ _ _ (by simp), ← execOptions]
    exact .binary toolchain binary
  | unequipped toolchain text tools =>
    exact .unequipped toolchain text ((same.tools text).trans tools)
  | missing toolchain text tools none =>
    exact .missing toolchain text ((same.tools text).trans tools) none
  | broken toolchain converts answer =>
    exact .broken toolchain (converts.of_agrees same) answer
  | codeless toolchain converts answer reports =>
    exact .codeless toolchain (converts.of_agrees same) answer reports
  | failed toolchain converts answer reports nonzero lenient =>
    exact .failed toolchain (converts.of_agrees same) answer reports nonzero lenient
  | unlogged toolchain converts answer reports nonzero strict unformatted =>
    exact .unlogged toolchain (converts.of_agrees same) answer reports nonzero strict unformatted
  | converted toolchain converts answer reports zero =>
    rw [← same.runCompiler _ _ _ _ (by simp), ← execOptions]
    exact .converted toolchain (converts.of_agrees same) answer reports zero

/-! ## The run of the ahead-of-time compiler -/

/-- A run follows the protocol and has no other end, its calls are all that it depends on, and no
main step in it takes a text module. The result of a conversion that failed is that of the run,
whatever its code, where the log is then a standard one. -/
theorem run_follows_protocol (b : Backend) (toolchain : b.toolchain = .wasmer) (d : Driver)
    (compiler options : Value) (input : String) (given : Value) (m : Machine) :
    (∃ calls, Protocol b d compiler options input given m calls
      (b.run d compiler options (.str input) given m)) ∧
    ∀ calls r, Protocol b d compiler options input given m calls r →
      b.run d compiler options (.str input) given m = r ∧
      (∀ d' : Driver, Agrees d d' input calls →
        b.run d' compiler options (.str input) given m = r) ∧
      (∀ compiler' options' input' execOptions, .main compiler' options' input' execOptions ∈ calls →
        compiler' = compiler ∧ options' = options ∧ execOptions = d.optionsFor given ∧
        ∃ name, input' = .str name ∧ Source.isText name = false) ∧
      ∀ tool result code n, Converts d input tool →
        b.conversion tool input m = (.ok result, n) → result.item "return_code" = .ok code →
        code.truthy = true → n.strictLog = false →
        r = (.ok result, failureLogged tool code n) ∧ calls = [conversionCall tool input] := by
  constructor
  · obtain ⟨calls, r, h⟩ := exists_protocol b d compiler options input given m
    rw [h.run_eq]
    exact ⟨calls, h⟩
  · intro calls r h
    refine ⟨h.run_eq, fun d' same => (h.of_agrees same).run_eq, ?_, ?_⟩
    · intro compiler' options' input' execOptions call
      obtain ⟨sameCompiler, sameOptions, exec, name⟩ := h.main_call toolchain call
      exact ⟨sameCompiler, sameOptions, exec, _, name, Source.isText_binaryName input⟩
    · intro tool result code n converts answer reports nonzero standard
      exact h.failed_result toolchain converts answer reports nonzero standard

def converterAnswering (code : Value) : Tool where
  descriptor := ⟨.str "wat2wasm", .str "/opt/wat2wasm", .null, [.str "-v"]⟩
  executor _ _ := pure (.object [("return_code", code)])

def driverWith (tool : Tool) : Driver where
  defaultOptions := .object [("time_limit", .int 1234)]
  tools := some ⟨[(.str "wat2wasm", tool)]⟩
  runCompiler _ _ input _ := pure (.object [("return_code", .int 0), ("input", input)])

def nan : Value := .float (.nan false 0x8000000000000)

theorem run_follows_protocol_after_conversion :
    (ofToolchain .wasmer).toolchain = .wasmer ∧
    (∃ n, (ofToolchain .wasmer).run (driverWith (converterAnswering (.int 0))) (.str "wasmer")
        (.list []) (.str "A.WAT") (.object []) Machine.blank =
      (.ok (.object [("return_code", .int 0), ("input", .str "A.wasm")]), n)) ∧
    ∃ n, (ofToolchain .wasmer).run (driverWith (converterAnswering nan)) (.str "wasmer")
        (.list []) (.str "A.WAT") (.object []) Machine.blank =
      (.ok (.object [("return_code", nan)]), n) := by
  have converted : Protocol (ofToolchain .wasmer) (driverWith (converterAnswering (.int 0)))
      (.str "wasmer") (.list []) "A.WAT" (.object []) Machine.blank _ _ :=
    .converted rfl ⟨by decide, _, rfl, rfl⟩ rfl rfl rfl
  have failing : Converts (driverWith (converterAnswering nan)) "A.WAT" (converterAnswering nan) :=
    ⟨by decide, _, rfl, rfl⟩
  obtain ⟨⟨calls, protocol⟩, follows⟩ := run_follows_protocol (ofToolchain .wasmer) rfl
    (driverWith (converterAnswering nan)) (.str "wasmer") (.list []) "A.WAT" (.object [])
    Machine.blank
  obtain ⟨failed, -⟩ := (follows calls _ protocol).2.2.2 _ _ nan _ failing rfl rfl rfl rfl
  exact ⟨rfl, ⟨_, ((run_follows_protocol _ rfl _ _ _ _ _ _).2 _ _ converted).1⟩, _, failed⟩

end Backend

end CompileJob
