import CompileJob.Machine.Basic

namespace CompileJob

namespace Machine

def blank : Machine where
  cwd := "/cwd"
  threadDir := .null
  env := []
  files := []
  dirs := ["/", "/tmp"]
  clock := .float .zero
  entryPoints := []
  registered := []
  rules := []
  processes := 0
  tempDirs := 0
  scripts := []
  trace := []

def recordAll (m : Machine) (events : List Event) : Machine := { m with trace := m.trace ++ events }

def Recorded (m n : Machine) : Prop := ∃ events, n = { m with trace := m.trace ++ events }

/-- `n` is `m` after some time: the clock, the number of processes and the trace have gone on. -/
def Quiet (m n : Machine) : Prop :=
  ∃ clock processes events, n = { m with clock, processes, trace := m.trace ++ events }

structure Later (m n : Machine) : Prop where
  rules_eq : n.rules = m.rules
  trace : m.trace <+: n.trace

def Added (m n : Machine) (e : Event) : Prop :=
  ∃ events, n.trace = m.trace ++ events ∧ e ∈ events

variable {m n o : Machine} {e : Event}

/-! ## Further events -/

@[simp] theorem recordAll_nil (m : Machine) : m.recordAll [] = m := by simp [recordAll]

theorem record_eq_recordAll (m : Machine) (e : Event) : m.record e = m.recordAll [e] := rfl

@[simp] theorem recordAll_recordAll (m : Machine) (first second : List Event) :
    (m.recordAll first).recordAll second = m.recordAll (first ++ second) := by
  simp [recordAll]

@[simp] theorem recordAll_trace (m : Machine) (events : List Event) :
    (m.recordAll events).trace = m.trace ++ events := rfl

theorem Recorded.refl (m : Machine) : Recorded m m := ⟨[], by simp⟩

theorem recorded_record (m : Machine) (e : Event) : Recorded m (m.record e) := ⟨[e], rfl⟩

theorem Recorded.trans (h : Recorded m n) (h' : Recorded n o) : Recorded m o := by
  obtain ⟨first, rfl⟩ := h
  obtain ⟨second, rfl⟩ := h'
  exact ⟨first ++ second, by simp⟩

theorem Recorded.quiet (h : Recorded m n) : Quiet m n := by
  obtain ⟨events, rfl⟩ := h
  exact ⟨m.clock, m.processes, events, rfl⟩

theorem recorded_recordAll (m : Machine) (events : List Event) : Recorded m (m.recordAll events) :=
  ⟨events, rfl⟩

/-! ## Some time -/

theorem Quiet.refl (m : Machine) : Quiet m m := (Recorded.refl m).quiet

theorem Quiet.trans (h : Quiet m n) (h' : Quiet n o) : Quiet m o := by
  obtain ⟨_, _, first, rfl⟩ := h
  obtain ⟨clock, processes, second, rfl⟩ := h'
  exact ⟨clock, processes, first ++ second, by simp⟩

theorem Quiet.exists_eq (h : Quiet m n) (path : String) : n.exists? path = m.exists? path := by
  obtain ⟨clock, processes, events, rfl⟩ := h
  rfl

theorem Quiet.later (h : Quiet m n) : Later m n := by
  obtain ⟨clock, processes, events, rfl⟩ := h
  exact ⟨rfl, List.prefix_append _ _⟩

theorem Later.trans (h : Later m n) (h' : Later n o) : Later m o :=
  ⟨h'.rules_eq.trans h.rules_eq, h.trace.trans h'.trace⟩

/-! ## One event -/

theorem added_record (m : Machine) (e : Event) : Added m (m.record e) e :=
  ⟨[e], rfl, List.mem_singleton_self e⟩

theorem Added.until_later (h : Added m n e) (later : Later n o) : Added m o e := by
  obtain ⟨events, trace, member⟩ := h
  obtain ⟨further, trace'⟩ := later.trace
  refine ⟨events ++ further, ?_, List.mem_append_left _ member⟩
  rw [← trace', trace, List.append_assoc]

theorem Added.since_earlier (earlier : Later m n) (h : Added n o e) : Added m o e := by
  obtain ⟨before, trace⟩ := earlier.trace
  obtain ⟨events, trace', member⟩ := h
  refine ⟨before ++ events, ?_, List.mem_append_right _ member⟩
  rw [trace', ← trace, List.append_assoc]

end Machine

/-! ## Lines of the log -/

/-- The events of a line of the log, which are none where it cannot be formatted. -/
def lineEvents (level : Level) (channel : Channel) : Except Fault String → List Event
  | .ok line => [.log level channel line]
  | .error _ => []

theorem forall_mem_lineEvents {P : Event → Prop} {level : Level} {channel : Channel}
    (logs : ∀ line, P (.log level channel line)) (message : Except Fault String) :
    ∀ e ∈ lineEvents level channel message, P e := by
  cases message with
  | ok line => exact List.forall_mem_singleton.mpr (logs line)
  | error e => exact List.forall_mem_nil P

variable {m : Machine} {message : Except Fault String} {line : String} {e : Fault}

theorem run_logFormatted (level : Level) (channel : Channel) (message : Except Fault String)
    (m : Machine) : logFormatted level channel message m =
      (if m.strictLog then message.map fun _ => () else .ok (),
        m.recordAll (lineEvents level channel message)) := by
  cases message with
  | ok line => cases m.strictLog <;> rfl
  | error e =>
    rw [show m.recordAll (lineEvents level channel (.error e)) = m from Machine.recordAll_nil m]
    change (if m.strictLog then throw e else pure () : Step Machine Unit) m = _
    cases m.strictLog <;> rfl

theorem run_logFormatted_of_ok (formatted : message = .ok line) (level : Level)
    (channel : Channel) (m : Machine) :
    logFormatted level channel message m = (.ok (), m.record (.log level channel line)) := by
  rw [formatted]
  rfl

theorem run_logFormatted_of_lenient (lenient : m.strictLog = true → ∃ line, message = .ok line)
    (level : Level) (channel : Channel) :
    logFormatted level channel message m = (.ok (), m.recordAll (lineEvents level channel message)) := by
  rw [run_logFormatted]
  cases strict : m.strictLog with
  | false => rfl
  | true =>
    obtain ⟨line, rfl⟩ := lenient strict
    rfl

theorem run_logFormatted_of_strict (strict : m.strictLog = true) (unformatted : message = .error e)
    (level : Level) (channel : Channel) :
    logFormatted level channel message m = (.error e, m) := by
  rw [run_logFormatted, strict, unformatted]
  exact congrArg (Prod.mk _) (Machine.recordAll_nil m)

end CompileJob
