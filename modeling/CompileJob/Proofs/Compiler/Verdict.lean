import CompileJob.Description
import CompileJob.Proofs.Compiler.Plan
import CompileJob.Proofs.Table

namespace CompileJob

/-! ## Fields of a description -/

@[simp] theorem Value.optional_object (fields : Fields) (key : String) :
    (Value.object fields).optional key = Table.find? fields key := rfl

@[simp] theorem Value.withField_object (fields : Fields) (key : String) (content : Value) :
    (Value.object fields).withField key content = .object (Table.put fields key content) := rfl

theorem Value.optional_eq_of_equal {environ : Value} {key s : String}
    (h : (Value.str s).equal ((environ.optional key).getD .null) = true) :
    environ.optional key = some (.str s) := by
  cases found : environ.optional key with
  | none =>
    rw [found] at h
    simp [Value.equal, Value.number?] at h
  | some v =>
    rw [found, Option.getD_some] at h
    cases v with
    | str t => simp_all [Value.equal]
    | _ => simp [Value.equal, Value.number?] at h

namespace Compiler

open Bench

@[simp] theorem run_write (key : String) (content : Value) (b : Bench) :
    write key content b = (.ok (), { b with environ := b.environ.withField key content }) := rfl

inductive Written (stdout : Value) : String → Value → Prop
  | message : Written stdout "compiler_output" (.decoded stdout)
  | longer {message : Value} {ending : String}
      (longer : extended (.decoded stdout) ending = .ok message) :
      Written stdout "compiler_output" message
  | large : Written stdout "compiler_output" (.str "Compiled file size limit exceeded.")
  | code (code : String) : Written stdout "result_code" (.str code)
  | file (output : String) : Written stdout "out_file" (.str output)
  | info : Written stdout "exec_info" (.object [("mode", .str "object")])

theorem along_conclude {R : Bench → Bench → Prop} {result : Value} (refl : ∀ b, R b b)
    (trans : ∀ {b b' b''}, R b b' → R b' b'' → R b b'')
    (logs : ∀ message, (onMachine (log .warning .compiler message)).Along R)
    (writes : ∀ stdout key content, result.field "stdout" (.bytes []) = .ok stdout →
      Written stdout key content → (write key content).Along R) (output : String) :
    (conclude result output).Along R := by
  unfold conclude
  refine along_lift_bind refl fun stdout given => ?_
  have written {key : String} {content : Value} (h : Written stdout key content) :
      (write key content).Along R := writes stdout key content given h
  refine along_bind trans (written .message) fun _ => ?_
  refine along_lift_bind refl fun code _ => ?_
  split
  · exact written (.code "CE")
  refine along_bind trans refl fun _ => ?_
  split
  · refine along_bind trans (logs _) fun _ => along_bind trans (written (.code "CE")) fun _ => ?_
    exact along_lift_bind refl fun message longer => written (.longer longer)
  refine along_bind trans refl fun _ => along_bind trans refl fun _ => ?_
  refine along_lift_bind refl fun large _ => ?_
  split
  · exact along_bind trans (written (.code "CE")) fun _ => written .large
  · refine along_bind trans (written (.code "OK")) fun _ => ?_
    exact along_bind trans (written (.file output)) fun _ => written .info

def TooLarge (environ : Value) (output : String) (m : Machine) : Prop :=
  ∃ limit, environ.optional "compilation_result_size_limit" = some limit ∧
    limit.lt? (m.size output) = some true

@[simp] def decidedAs (code : String) (environ : Value) : Value :=
  environ.withField "result_code" (.str code)

inductive Concluded (environ : Value) (output : String) (m : Machine) (message code : Value) :
    Value → Prop
  | failed (nonzero : code.truthy = true) :
      Concluded environ output m message code
        (decidedAs "CE" (environ.withField "compiler_output" message))
  | missing {longer : Value} (zero : code.truthy = false) (missing : m.exists? output = false)
      (longer_eq : extended message (notProduced output) = .ok longer) :
      Concluded environ output m message code
        ((decidedAs "CE" (environ.withField "compiler_output" message)).withField
          "compiler_output" longer)
  | large (zero : code.truthy = false) (there : m.exists? output = true)
      (large : tooLarge m (environ.withField "compiler_output" message) output = .ok true) :
      Concluded environ output m message code
        ((decidedAs "CE" (environ.withField "compiler_output" message)).withField
          "compiler_output" (.str "Compiled file size limit exceeded."))
  | produced (zero : code.truthy = false) (there : m.exists? output = true)
      (small : tooLarge m (environ.withField "compiler_output" message) output = .ok false) :
      Concluded environ output m message code
        (((decidedAs "OK" (environ.withField "compiler_output" message)).withField
          "out_file" (.str output)).withField "exec_info" (.object [("mode", .str "object")]))

theorem conclude_ok {result : Value} {output : String} {b b' : Bench}
    (h : conclude result output b = (.ok (), b')) :
    b'.memory = b.memory ∧ b.machine.Recorded b'.machine ∧
    ∃ stdout code, result.field "stdout" (.bytes []) = .ok stdout ∧
      result.item "return_code" = .ok code ∧
      Concluded b.environ output b.machine stdout.decoded code b'.environ := by
  unfold conclude at h
  simp only [Step.run_bind_eq_ok, Step.run_lift, run_write, Prod.mk.injEq] at h
  obtain ⟨stdout, _, ⟨hs, rfl⟩, _, _, ⟨-, rfl⟩, code, _, ⟨hc, rfl⟩, h⟩ := h
  split at h
  · rename_i nonzero
    cases h
    exact ⟨rfl, .refl _, stdout, code, hs, hc, .failed nonzero⟩
  · rename_i zero
    rw [Bool.not_eq_true] at zero
    simp only [Step.run_bind, Step.run_get] at h
    split at h
    · rename_i missing
      rw [Bool.not_eq_true'] at missing
      simp only [Step.run_bind_eq_ok, Step.run_lift, run_write, Prod.mk.injEq] at h
      obtain ⟨_, _, warned, _, _, ⟨-, rfl⟩, longer, _, ⟨hl, rfl⟩, -, rfl⟩ := h
      obtain ⟨_, logged, rfl⟩ := run_onMachine_eq_ok.mp warned
      cases logged
      exact ⟨rfl, Machine.recorded_record _ _, stdout, code, hs, hc, .missing zero missing hl⟩
    · rename_i there
      rw [Bool.not_eq_true', Bool.not_eq_false] at there
      rw [Step.run_bind_of_ok (Step.run_get _), Step.run_bind_of_ok (Step.run_get _)] at h
      simp only [Step.run_bind_eq_ok, Step.run_lift, Prod.mk.injEq] at h
      obtain ⟨large, _, ⟨hl, rfl⟩, h⟩ := h
      cases large with
      | true =>
        simp only [if_true, Step.run_bind, run_write, Prod.mk.injEq] at h
        obtain ⟨-, rfl⟩ := h
        exact ⟨rfl, .refl _, stdout, code, hs, hc, .large zero there hl⟩
      | false =>
        simp only [Bool.false_eq_true, if_false, Step.run_bind, run_write, Prod.mk.injEq] at h
        obtain ⟨-, rfl⟩ := h
        exact ⟨rfl, .refl _, stdout, code, hs, hc, .produced zero there hl⟩

theorem tooLarge_ok {fields : Fields} {message : Value} {output : String} {m : Machine} {r : Bool}
    (h : tooLarge m ((Value.object fields).withField "compiler_output" message) output = .ok r) :
    TooLarge (.object fields) output m ↔ r = true := by
  have limit : Table.find? (Table.put fields "compiler_output" message) sizeLimitKey =
      Table.find? fields "compilation_result_size_limit" :=
    Table.find?_put fields "compiler_output" sizeLimitKey message
  simp only [tooLarge, Value.withField_object, limit] at h
  unfold TooLarge
  rw [Value.optional_object]
  cases found : Table.find? fields "compilation_result_size_limit" with
  | none =>
    rw [found] at h
    cases h
    simp
  | some limit =>
    rw [found] at h
    have compared := orFault_eq_ok.mp h
    constructor
    · rintro ⟨_, same, larger⟩
      cases same
      rw [compared] at larger
      exact Option.some.inj larger
    · rintro rfl
      exact ⟨limit, rfl, compared⟩

/-! ## The verdict -/

/-- The verdict on a job whose last step ended with an integer code and a text, on a machine that
it left as `m`; `final` is the description then. -/
structure Verdict (environ : Value) (output : String) (m : Machine) (code : Int) (text : String)
    (final : Value) : Prop where
  decided : final.optional "result_code" = some (.str "OK") ∨
    final.optional "result_code" = some (.str "CE")
  ok_iff : final.optional "result_code" = some (.str "OK") ↔
    code = 0 ∧ m.exists? output = true ∧ ¬ TooLarge environ output m
  message_ok : final.optional "result_code" = some (.str "OK") →
    final.optional "compiler_output" = some (.str text)
  message_failed : code ≠ 0 → final.optional "compiler_output" = some (.str text)
  message_missing : code = 0 → m.exists? output = false →
    final.optional "compiler_output" =
      some (.str (text ++ ("\nOutput file " ++ Path.basename output ++ " not produced")))
  message_large : code = 0 → m.exists? output = true → TooLarge environ output m →
    final.optional "compiler_output" = some (.str "Compiled file size limit exceeded.")
  artifact : final.optional "result_code" = some (.str "OK") →
    final.optional "out_file" = some (.str output) ∧
    final.optional "exec_info" = some (.object [("mode", .str "object")])
  kept : ∀ key, key ≠ "compiler_output" → key ≠ "result_code" →
    (final.optional "result_code" = some (.str "OK") → key ≠ "out_file" ∧ key ≠ "exec_info") →
    final.optional key = environ.optional key

theorem truthy_int (n : Int) : (Value.int n).truthy = true ↔ n ≠ 0 := by
  simp [Value.truthy]

theorem truthy_int_eq_false {n : Int} : (Value.int n).truthy = false ↔ n = 0 := by
  simp [Value.truthy]

section
variable {fields : Fields} {output text : String} {m : Machine} {code : Int}
  {message result final : Value}

theorem Concluded.decided (h : Concluded (.object fields) output m message result final) :
    final.optional "result_code" = some (.str "OK") ∨
      final.optional "result_code" = some (.str "CE") := by
  cases h with
  | produced => exact Or.inl (by simp [Table.find?_put])
  | failed | missing | large => exact Or.inr (by simp [Table.find?_put])

theorem Concluded.ok_iff
    (h : Concluded (.object fields) output m (.str text) (.int code) final) :
    final.optional "result_code" = some (.str "OK") ↔
      code = 0 ∧ m.exists? output = true ∧ ¬ TooLarge (.object fields) output m := by
  cases h with
  | failed nonzero =>
    rw [truthy_int] at nonzero
    simp [Table.find?_put, nonzero]
  | missing zero missing =>
    simp [Table.find?_put, missing]
  | large zero there large =>
    simp [Table.find?_put, (tooLarge_ok large).mpr rfl]
  | produced zero there small =>
    rw [truthy_int_eq_false] at zero
    simp [Table.find?_put, zero, there, tooLarge_ok small]

theorem Concluded.message_eq
    (h : Concluded (.object fields) output m (.str text) (.int code) final) :
    (code ≠ 0 ∨ final.optional "result_code" = some (.str "OK") →
      final.optional "compiler_output" = some (.str text)) ∧
    (code = 0 → m.exists? output = false →
      final.optional "compiler_output" = some (.str (text ++ notProduced output))) ∧
    (code = 0 → m.exists? output = true → TooLarge (.object fields) output m →
      final.optional "compiler_output" = some (.str "Compiled file size limit exceeded.")) := by
  cases h with
  | failed nonzero =>
    rw [truthy_int] at nonzero
    simp [Table.find?_put, nonzero]
  | missing zero missing longer =>
    rw [truthy_int_eq_false] at zero
    cases longer
    simp [Table.find?_put, zero, missing]
  | large zero there =>
    rw [truthy_int_eq_false] at zero
    simp [Table.find?_put, zero, there]
  | produced zero there small =>
    simp [Table.find?_put, there, tooLarge_ok small]

theorem Concluded.artifact (h : Concluded (.object fields) output m message result final)
    (ok : final.optional "result_code" = some (.str "OK")) :
    final.optional "out_file" = some (.str output) ∧
      final.optional "exec_info" = some (.object [("mode", .str "object")]) := by
  cases h with
  | produced => simp [Table.find?_put]
  | failed | missing | large => simp [Table.find?_put] at ok

theorem Concluded.kept {key : String}
    (h : Concluded (.object fields) output m message result final)
    (message_ne : key ≠ "compiler_output") (code_ne : key ≠ "result_code")
    (artifact : final.optional "result_code" = some (.str "OK") →
      key ≠ "out_file" ∧ key ≠ "exec_info") :
    final.optional key = (Value.object fields).optional key := by
  cases h with
  | produced =>
    obtain ⟨file, info⟩ := artifact (by simp [Table.find?_put])
    simp [Table.find?_put, message_ne.symm, code_ne.symm, file.symm, info.symm]
  | failed | missing | large =>
    simp [Table.find?_put, message_ne.symm, code_ne.symm]

theorem Concluded.verdict
    (h : Concluded (.object fields) output m (.str text) (.int code) final) :
    Verdict (.object fields) output m code text final where
  decided := h.decided
  ok_iff := h.ok_iff
  message_ok := fun ok => h.message_eq.1 (Or.inr ok)
  message_failed := fun nonzero => h.message_eq.1 (Or.inl nonzero)
  message_missing := h.message_eq.2.1
  message_large := h.message_eq.2.2
  artifact := h.artifact
  kept := fun _ message code_ne artifact => h.kept message code_ne artifact

end

/-- A compile that returns has decided on the result of its last step, by these rules. -/
theorem compile_verdict {c : Compiler} {environ : Value} {b b' : Bench}
    (done : c.compile environ b = (.ok (), b')) :
    ∃ p result m, c.plan b.machine environ = .ok p ∧ b'.memory.outputFilename = some p.output ∧
      LastStep c environ p b.machine result m ∧
      ∀ (code : Int) (text : String), result.item "return_code" = .ok (.int code) →
        (result.field "stdout" (.bytes [])).map Value.decoded = .ok (.str text) →
        Verdict environ p.output m code text b'.environ := by
  obtain ⟨p, result, m, planned, ran, concluded⟩ := compile_ok done
  obtain ⟨memory, -, stdout, code, hs, hc, concluded⟩ := conclude_ok concluded
  obtain ⟨fields, rfl⟩ := plan_object planned
  refine ⟨p, result, m, planned, by rw [memory]; rfl, runPlan_ok ran, ?_⟩
  intro n text reports spoken
  rw [hc] at reports
  cases reports
  rw [hs] at spoken
  rw [Except.ok.inj spoken] at concluded
  exact concluded.verdict

def leavingNothing : Compiler where
  backend := Backend.ofToolchain .cc
  tools := none
  executor _ _ := pure (.object [("return_code", .int 0), ("stdout", .bytes [104, 105])])

def sourceAlone : Value := .object [("source_file", .str "a.c")]

theorem compile_verdict_without_output :
    ∃ b, leavingNothing.compile sourceAlone ⟨Machine.blank, .null, {}⟩ = (.ok (), b) ∧
      b.environ.optional "compiler_output" =
        some (.str "hi\nOutput file output.o not produced") := by
  have done : leavingNothing.compile sourceAlone ⟨Machine.blank, .null, {}⟩ =
      (.ok (), (leavingNothing.compile sourceAlone ⟨Machine.blank, .null, {}⟩).2) := rfl
  refine ⟨_, done, ?_⟩
  obtain ⟨p, result, m, -, output, last, verdict⟩ := compile_verdict done
  have output_eq : p.output = "/cwd/output.o" := (Option.some.inj output).symm
  cases last with
  | conversion toolchain => cases toolchain
  | main ready answer =>
    cases ready with
    | converted toolchain => cases toolchain
    | direct =>
      cases answer
      rw [output_eq] at verdict
      exact (verdict 0 "hi" rfl rfl).message_missing rfl rfl

end Compiler

end CompileJob
