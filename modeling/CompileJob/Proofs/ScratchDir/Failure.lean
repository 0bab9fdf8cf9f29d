import CompileJob.Proofs.ScratchDir

namespace CompileJob

namespace Machine

variable {m : Machine} {path : String}

theorem makeDir_of_taken (taken : m.exists? path = true) :
    makeDir path m = (.error .alreadyExists, m.record (.makeDir path)) := by
  have taken' : (m.record (.makeDir path)).exists? path = true := taken
  unfold makeDir
  simp only [Step.run_bind, run_emit, Step.run_get, taken']
  rfl

theorem makeDir_of_orphan (free : m.exists? path = false)
    (orphan : m.isDir (Path.dirname path) = false) :
    makeDir path m = (.error .noDirectory, m.record (.makeDir path)) := by
  have free' : (m.record (.makeDir path)).exists? path = false := free
  have orphan' : (m.record (.makeDir path)).isDir (Path.dirname path) = false := orphan
  unfold makeDir
  simp only [Step.run_bind, run_emit, Step.run_get, free', orphan']
  rfl

theorem makeDir_of_free (free : m.exists? path = false)
    (parent : m.isDir (Path.dirname path) = true) :
    makeDir path m = (.ok (), { m.record (.makeDir path) with dirs := m.dirs ++ [path] }) := by
  have free' : (m.record (.makeDir path)).exists? path = false := free
  have parent' : (m.record (.makeDir path)).isDir (Path.dirname path) = true := parent
  unfold makeDir
  simp only [Step.run_bind, run_emit, Step.run_get, free', parent']
  rfl

theorem removeTree_of_gone (gone : m.isDir path = false) :
    removeTree path m = (.error .noDirectory, m.record (.removeTree path)) := by
  have gone' : (m.record (.removeTree path)).isDir path = false := gone
  unfold removeTree
  simp only [Step.run_bind, run_emit, Step.run_get, gone']
  rfl

structure MakesNew (m n : Machine) (path : String) : Prop where
  free : m.exists? path = false
  threadDir : n.threadDir = m.threadDir
  files : n.files = m.files
  isDir : ∀ q, n.isDir q = true ↔ m.isDir q = true ∨ q = path

theorem makesNew_makeTemp (free : m.exists? m.nextTemp = false) :
    ∃ n, makeTemp m = (.ok m.nextTemp, n) ∧ m.MakesNew n m.nextTemp := by
  refine ⟨_, rfl, free, rfl, rfl, ?_⟩
  intro q
  rw [isDir_iff, isDir_iff]
  exact List.mem_append.trans (or_congr_right List.mem_singleton)

end Machine

namespace ScratchDir

open Machine

def prepare (path : String) (inner : Value) : Step Machine String := do
  log .debug .scratch ("Using temporary directory " ++ path)
  let target ← if inner.truthy then Path.join path <$> (inner.string : Except Fault String)
    else pure path
  if inner.truthy then makeDir target
  return target

/-- The directory that an object asks for can be made inside `path`: it asks for none, or for one
whose place is free and in a directory. -/
inductive Room (m : Machine) (path : String) : Value → Prop
  | unasked {v : Value} (falsy : v.truthy = false) : Room m path v
  | free {name : String} (free : m.exists? (Path.join path name) = false)
      (parent : m.isDir (Path.dirname (Path.join path name)) = true) : Room m path (.str name)

inductive Prepared (m : Machine) (path : String) (inner : Value) :
    Except Fault String × Machine → Prop
  | ready {target : String} {n : Machine} (room : Room m path inner)
      (threadDir : n.threadDir = m.threadDir) : Prepared m path inner (.ok target, n)
  | refused {e : Fault} {n : Machine} (full : ¬ Room m path inner) (recorded : m.Recorded n) :
      Prepared m path inner (.error e, n)

variable {make : Step Machine String} {m n : Machine} {path : String} {inner : Value} {p p' : Place}
  {e : Fault}

/-! ## Entering -/

def logged (path : String) (m : Machine) : Machine :=
  m.record (.log .debug .scratch ("Using temporary directory " ++ path))

theorem prepare_of_falsy (falsy : inner.truthy = false) :
    prepare path inner m = (.ok path, logged path m) := by
  unfold prepare
  simp only [Step.run_bind, run_log, falsy]
  rfl

theorem prepare_of_string {s : Except Fault String} (truthy : inner.truthy = true)
    (string : inner.string = s) :
    prepare path inner m = (do
      let target ← Path.join path <$> s
      makeDir target
      return target : Step Machine String) (logged path m) := by
  subst string
  unfold prepare
  simp only [truthy, if_true]
  rfl

theorem Room.place {name : String} (room : Room m path (.str name)) (nonempty : name ≠ "") :
    m.exists? (Path.join path name) = false ∧
      m.isDir (Path.dirname (Path.join path name)) = true := by
  cases room with
  | unasked falsy => simp [Value.truthy, nonempty] at falsy
  | free free parent => exact ⟨free, parent⟩

theorem prepared_prepare_str {name : String} (nonempty : name ≠ "") :
    Prepared m path (.str name) (prepare path (.str name) m) := by
  let target := Path.join path name
  have run : prepare path (.str name) m =
      (makeDir target >>= fun _ => pure target : Step Machine String) (logged path m) :=
    prepare_of_string (by simp [Value.truthy, nonempty]) rfl
  have refused {e : Fault} (made : makeDir target (logged path m) =
      (.error e, (logged path m).record (.makeDir target))) (full : ¬ Room m path (.str name)) :
      Prepared m path (.str name) (prepare path (.str name) m) := by
    rw [run, Step.run_bind_of_error made]
    exact .refused full ((recorded_record m _).trans (recorded_record _ _))
  cases taken : m.exists? target with
  | true =>
    refine refused (makeDir_of_taken taken) fun room => ?_
    have free := (room.place nonempty).1
    rw [taken] at free
    cases free
  | false =>
    cases parent : m.isDir (Path.dirname target) with
    | false =>
      refine refused (makeDir_of_orphan taken parent) fun room => ?_
      have inside := (room.place nonempty).2
      rw [parent] at inside
      cases inside
    | true =>
      have made : makeDir target (logged path m) = _ := makeDir_of_free taken parent
      rw [run, Step.run_bind_of_ok made]
      exact .ready (.free taken parent) rfl

theorem prepared_prepare (path : String) (inner : Value) (m : Machine) :
    Prepared m path inner (prepare path inner m) := by
  cases truthy : inner.truthy with
  | false =>
    rw [prepare_of_falsy truthy]
    exact .ready (.unasked truthy) rfl
  | true =>
    -- What is not a text cannot be joined, and no directory is tried.
    have other (string : inner.string = .error .wrongType) (full : ¬ Room m path inner) :
        Prepared m path inner (prepare path inner m) := by
      rw [prepare_of_string truthy string]
      exact .refused full (recorded_record m _)
    cases inner with
    | str name => exact prepared_prepare_str (by simpa [Value.truthy] using truthy)
    | _ =>
      refine other rfl ?_
      rintro ⟨falsy⟩
      rw [truthy] at falsy
      cases falsy

theorem enter_eq (made : make p.machine = (.ok path, n)) :
    enter make p = match prepare path p.dir.inner n with
      | (.ok target, m) => (.ok (), ⟨{ m with threadDir := .str target },
          { p.dir with path := some path, before := m.threadDir }⟩)
      | (.error e, m) => (.error e, ⟨m, { p.dir with path := some path }⟩) := by
  unfold enter prepare
  simp only [onMachine, Step.run_bind, Step.focus, made, Step.run_modify, run_log, Step.run_get]
  cases p.dir.inner.truthy with
  | false => rfl
  | true =>
    simp only [if_true]
    cases p.dir.inner.string with
    | error e => rfl
    | ok name =>
      have given (σ : Type) : (liftM (Except.ok name : Except Fault String) : Step σ String) =
          pure name := rfl
      simp only [given, map_pure, Step.run_bind, Step.run_pure, Step.focus]
      -- Both sides go on alike from the inner directory, whatever comes of it.
      generalize makeDir (Path.join path name) _ = inside
      obtain ⟨_ | _, _⟩ := inside <;> rfl

inductive Entry (n : Machine) (path : String) (dir : ScratchDir) : Except Fault Unit × Place → Prop
  | entered {q : Place} (room : Room n path dir.inner) (path_eq : q.dir.path = some path)
      (before : q.dir.before = n.threadDir) : Entry n path dir (.ok (), q)
  | failed {e : Fault} {q : Place} (full : ¬ Room n path dir.inner)
      (path_eq : q.dir.path = some path) (recorded : n.Recorded q.machine) :
      Entry n path dir (.error e, q)

theorem entry_enter (made : make p.machine = (.ok path, n)) : Entry n path p.dir (enter make p) := by
  rw [enter_eq made]
  cases preparing : prepare path p.dir.inner n with
  | mk r m =>
    have prepared := prepared_prepare path p.dir.inner n
    rw [preparing] at prepared
    cases prepared with
    | ready room threadDir => exact .entered room rfl threadDir
    | refused full recorded => exact .failed full rfl recorded

/-- An entry fails just when there is no room for what is asked for inside the new directory. Then the
thread is where it was and no file has changed, but the new directory is left behind. -/
theorem failed_entry_leaves_directory (made : make p.machine = (.ok path, n))
    (new : p.machine.MakesNew n path) :
    ((enter make p).1.isOk = true ↔ Room n path p.dir.inner) ∧
    ∀ e p', enter make p = (.error e, p') →
      p'.machine.threadDir = p.machine.threadDir ∧ p'.machine.files = p.machine.files ∧
      (∀ q, p'.machine.isDir q = true ↔ p.machine.isDir q = true ∨ q = path) ∧
      p.machine.exists? path = false := by
  have entry := entry_enter made
  constructor
  · cases run : enter make p with
    | mk r p' =>
      rw [run] at entry
      cases entry with
      | entered room => exact ⟨fun _ => room, fun _ => rfl⟩
      | failed full => exact ⟨nofun, fun room => absurd room full⟩
  · intro e p' failed
    rw [failed] at entry
    cases entry with
    | failed full path_eq recorded =>
      obtain ⟨events, same⟩ := recorded
      rw [same]
      exact ⟨new.threadDir, new.files, new.isDir, new.free⟩

def freshPlace (inner : Value) : Place := ⟨blank, { inner }⟩

theorem enter_below_missing : enter makeTemp (freshPlace (.str "x/y")) =
    (.error .noDirectory, (enter makeTemp (freshPlace (.str "x/y"))).2) := Prod.ext rfl rfl

theorem failed_entry_leaves_directory_below :
    enter makeTemp (freshPlace (.str "x/y")) =
      (.error .noDirectory, (enter makeTemp (freshPlace (.str "x/y"))).2) ∧
    (enter makeTemp (freshPlace (.str "x/y"))).2.machine.threadDir = .null ∧
    (enter makeTemp (freshPlace (.str "x/y"))).2.machine.isDir "/tmp/wasmworkers_0" = true := by
  obtain ⟨n, made, new⟩ := makesNew_makeTemp (m := blank) (by decide +kernel)
  obtain ⟨-, left⟩ := failed_entry_leaves_directory (p := freshPlace (.str "x/y")) made new
  obtain ⟨thread, -, dirs, -⟩ := left _ _ enter_below_missing
  exact ⟨enter_below_missing, thread, (dirs _).mpr (Or.inr (by decide +kernel))⟩

theorem failed_entry_is_not_undone :
    ¬ ∀ (p p' : Place) (e : Fault), p.machine.exists? p.machine.nextTemp = false →
      enter makeTemp p = (.error e, p') →
      p'.machine.threadDir = p.machine.threadDir ∧ p'.machine.files = p.machine.files ∧
        p'.machine.dirs = p.machine.dirs := by
  intro claim
  obtain ⟨-, -, dirs⟩ := claim _ _ _ (by decide +kernel) enter_below_missing
  exact absurd dirs (by decide +kernel)

/-! ## Exiting -/

theorem exit_of_gone (entered : p.dir.path = some path) (gone : p.machine.isDir path = false) :
    exit p = (.error .noDirectory, ⟨p.machine.record (.removeTree path), p.dir⟩) := by
  have found : orFault .wrongType p.dir.path = .ok path := orFault_eq_ok.mpr entered
  unfold exit
  simp only [onMachine, Step.run_bind, Step.run_get, Step.run_lift, Step.focus, found,
    removeTree_of_gone gone]

/-- Whatever has become of the machine since an entry, the exit moves the thread back if the directory
is still there, and otherwise fails and leaves the thread where it is. -/
theorem exit_restores_iff (made : make p.machine = (.ok path, n))
    (still : n.threadDir = p.machine.threadDir) (entered : enter make p = (.ok (), p'))
    (m : Machine) :
    (m.isDir path = true → (exit ⟨m, p'.dir⟩).1 = .ok () ∧
      (exit ⟨m, p'.dir⟩).2.machine.threadDir = p.machine.threadDir) ∧
    (m.isDir path = false → (exit ⟨m, p'.dir⟩).1 = .error .noDirectory ∧
      (exit ⟨m, p'.dir⟩).2.machine.threadDir = m.threadDir) ∧
    ((exit ⟨m, p'.dir⟩).2.machine.threadDir = p.machine.threadDir ↔
      m.isDir path = true ∨ m.threadDir = p.machine.threadDir) := by
  have entry := entry_enter made
  rw [entered] at entry
  cases entry with
  | entered room path_eq before =>
    cases there : m.isDir path with
    | true =>
      obtain ⟨m', exited, thread, -⟩ := exists_exit (p := ⟨m, p'.dir⟩) path_eq there
      have back : m'.threadDir = p.machine.threadDir := thread.trans (before.trans still)
      rw [exited]
      exact ⟨fun _ => ⟨rfl, back⟩, nofun, fun _ => Or.inl rfl, fun _ => back⟩
    | false =>
      rw [exit_of_gone (p := ⟨m, p'.dir⟩) path_eq there]
      exact ⟨nofun, fun _ => ⟨rfl, rfl⟩, Or.inr, fun same => same.resolve_left nofun⟩

def enteredPlace : Place := (enter makeTemp (freshPlace .null)).2

theorem enter_freshPlace : enter makeTemp (freshPlace .null) = (.ok (), enteredPlace) :=
  Step.run_eq_of_isOk rfl

def lostMachine : Machine := (removeTree "/tmp/wasmworkers_0" enteredPlace.machine).2

theorem exit_restores_iff_kept :
    (exit enteredPlace).2.machine.threadDir = .null ∧
    (exit ⟨lostMachine, enteredPlace.dir⟩).2.machine.threadDir = .str "/tmp/wasmworkers_0" := by
  obtain ⟨n, made, new⟩ := makesNew_makeTemp (m := blank) (by decide +kernel)
  have restores := exit_restores_iff (p := freshPlace .null) made new.threadDir enter_freshPlace
  exact ⟨((restores enteredPlace.machine).1 (by decide +kernel)).2,
    ((restores lostMachine).2.1 (by decide +kernel)).2⟩

theorem exit_stays_in_lost_directory :
    ¬ ∀ (p p' : Place) (m : Machine), enter makeTemp p = (.ok (), p') →
      (exit ⟨m, p'.dir⟩).2.machine.threadDir = p.machine.threadDir := by
  intro claim
  have back := claim _ _ lostMachine enter_freshPlace
  have made : enteredPlace.dir.path = some "/tmp/wasmworkers_0" := rfl
  rw [exit_of_gone (p := ⟨lostMachine, enteredPlace.dir⟩) made (by decide +kernel)] at back
  cases back

end ScratchDir

end CompileJob
