import CompileJob.Session
import CompileJob.Proofs.Compiler.Launches
import CompileJob.Proofs.ScratchDir

/-!
Scratch directories of one thread that are entered and exited in a well-bracketed order. Each object
keeps where the thread was before it, so the thread comes back to where it was, step by step; and as
nothing was at or below a new directory, no exit takes another open directory with it.
-/
namespace CompileJob

open Machine ScratchDir

structure Opening where
  id : String
  path : String
  inner : Option String
  outside : Value
  /-- Whether something else moved the thread while this was the innermost one. -/
  moved : Bool

def Opening.place (o : Opening) : String := placeIn o.path o.inner

namespace Session

variable {s t : Session} {o : Opening} {stack : List Opening} {id : String}

/-- From `s` to `t` the open directories stay, and so do the objects that opened them. -/
structure Spares (stack : List Opening) (s t : Session) : Prop where
  objects : ∀ o ∈ stack, Table.find? t.scratchDirs o.id = Table.find? s.scratchDirs o.id
  dirs : ∀ o ∈ stack, t.machine.isDir o.path = true

inductive Enters (s : Session) (id path : String) (inner : Option String) (t : Session) : Prop
  | intro {make : Step Machine String} {n : Machine} {asked : Value} {dir : ScratchDir}
      (made : make s.machine = (.ok path, n)) (makes : s.machine.Makes n path)
      (inside : Inside (Table.getD s.scratchDirs id { inner := asked }).inner inner)
      (entered : enterScratchBy make id asked s = (.ok dir, t))

/-- A session with these directories open, the innermost first. Besides entering and exiting, anything
may be done that spares the open ones. -/
inductive Nested : Session → List Opening → Prop
  | start (s : Session) : Nested s []
  | enter {s t : Session} {stack : List Opening} {id path : String} {inner : Option String}
      (nested : Nested s stack) (unopened : ∀ o ∈ stack, id ≠ o.id)
      (enters : Enters s id path inner t) :
      Nested t (⟨id, path, inner, s.machine.threadDir, false⟩ :: stack)
  | exit {s : Session} {o : Opening} {stack : List Opening} (nested : Nested s (o :: stack)) :
      Nested (exitScratch o.id s).2 stack
  | other {s t : Session} {stack : List Opening} (nested : Nested s stack)
      (spares : Spares stack s t) (still : t.machine.threadDir = s.machine.threadDir) :
      Nested t stack
  | move {s t : Session} {o : Opening} {stack : List Opening} (nested : Nested s (o :: stack))
      (spares : Spares (o :: stack) s t) : Nested t ({ o with moved := true } :: stack)

/-! ## Entering and exiting -/

theorem Enters.exists_entered {path : String} {inner : Option String}
    (enters : Enters s id path inner t) :
    ∃ n p, s.machine.Makes n path ∧ Entered n p path (placeIn path inner) ∧
      t.machine = p.machine ∧ t.scratchDirs = Table.put s.scratchDirs id p.dir := by
  obtain ⟨made, makes, inside, entered⟩ := enters
  unfold enterScratchBy at entered
  rw [Step.run_bind, Step.run_get] at entered
  obtain ⟨p, run, rfl⟩ := Step.run_focus_eq_ok.mp entered
  obtain ⟨_, p', moved, rest⟩ := Step.run_bind_eq_ok.mp run
  cases rest
  exact ⟨_, p, makes, enter_ok made makes inside moved, rfl, rfl⟩

structure Held (s : Session) (o : Opening) : Prop where
  object : ∃ dir, Table.find? s.scratchDirs o.id = some dir ∧ dir.path = some o.path ∧
    dir.before = o.outside
  isDir : s.machine.isDir o.path = true
  absolute : Path.Absolute o.path

theorem Held.exists_exitScratch (held : Held s o) :
    ∃ s', exitScratch o.id s = (.ok (), s') ∧ s'.machine.threadDir = o.outside ∧
      s.machine.Removed s'.machine o.path ∧
      ∀ id, o.id ≠ id → Table.find? s'.scratchDirs id = Table.find? s.scratchDirs id := by
  obtain ⟨dir, found, path, before⟩ := held.object
  obtain ⟨n, exited, thread, removed⟩ := exists_exit (p := ⟨s.machine, dir⟩) path held.isDir
  refine ⟨{ s with machine := n, scratchDirs := Table.put s.scratchDirs o.id dir }, ?_,
    thread.trans before, removed, ?_⟩
  · unfold exitScratch
    simp only [Step.run_bind, Step.run_get, found, onScratch, Step.focus, exited]
  · intro id other
    rw [Table.find?_put, if_neg (by simpa using other)]

/-! ## Nesting -/

structure Apart (inner outer : Opening) : Prop where
  id : inner.id ≠ outer.id
  path : within inner.path outer.path = false

def Threaded : Value → List Opening → Prop
  | _, [] => True
  | dir, o :: stack => (o.moved = false → dir = .str o.place) ∧ Threaded o.outside stack

structure Orderly (s : Session) (stack : List Opening) : Prop where
  held : ∀ o ∈ stack, Held s o
  apart : stack.Pairwise Apart
  threaded : Threaded s.machine.threadDir stack

theorem Orderly.enter {path : String} {inner : Option String} (orderly : Orderly s stack)
    (unopened : ∀ o ∈ stack, id ≠ o.id) (enters : Enters s id path inner t) :
    Orderly t (⟨id, path, inner, s.machine.threadDir, false⟩ :: stack) := by
  obtain ⟨n, p, makes, entered, machine, dirs⟩ := enters.exists_entered
  have new : Held t ⟨id, path, inner, s.machine.threadDir, false⟩ := by
    refine ⟨⟨p.dir, ?_, entered.path_eq, entered.before.trans makes.threadDir⟩, ?_, makes.absolute⟩
    · rw [dirs, Table.find?_put, beq_self_eq_true, if_pos rfl]
    · rw [machine]
      exact entered.kept path makes.isDir
  have old : ∀ o ∈ stack, Held t o := by
    intro o member
    have held := orderly.held o member
    refine ⟨?_, ?_, held.absolute⟩
    · rw [dirs, Table.find?_put, if_neg (by simpa using unopened o member)]
      exact held.object
    · rw [machine]
      exact entered.kept o.path (makes.kept o.path held.isDir)
  refine ⟨List.forall_mem_cons.mpr ⟨new, old⟩, List.pairwise_cons.mpr ⟨?_, orderly.apart⟩, ?_,
    orderly.threaded⟩
  · -- The open directories were there already, so none is at or below the new path.
    intro o member
    have there : s.machine.exists? o.path = true := by
      rw [exists?, (orderly.held o member).isDir, Bool.or_true]
    exact ⟨unopened o member, makes.vacant o.path there⟩
  · intro _
    rw [machine]
    exact entered.threadDir

theorem Orderly.exit (orderly : Orderly s (o :: stack)) :
    Orderly (exitScratch o.id s).2 stack := by
  obtain ⟨top, below⟩ := List.forall_mem_cons.mp orderly.held
  obtain ⟨apart, rest⟩ := List.pairwise_cons.mp orderly.apart
  obtain ⟨s', exited, thread, removed, others⟩ := top.exists_exitScratch
  rw [exited]
  refine ⟨?_, rest, ?_⟩
  · intro p member
    have held := below p member
    refine ⟨?_, ?_, held.absolute⟩
    · rw [others p.id (apart p member).id]
      exact held.object
    · rw [removed.dirs p.path (apart p member).path]
      exact held.isDir
  · rw [thread]
    exact orderly.threaded.2

theorem Orderly.held_of_spares (orderly : Orderly s stack) (spares : Spares stack s t) :
    ∀ o ∈ stack, Held t o := by
  intro o member
  have held := orderly.held o member
  refine ⟨?_, spares.dirs o member, held.absolute⟩
  rw [spares.objects o member]
  exact held.object

theorem Nested.orderly (nested : Nested s stack) : Orderly s stack := by
  induction nested with
  | start => exact ⟨nofun, .nil, trivial⟩
  | enter _ unopened enters orderly => exact orderly.enter unopened enters
  | exit _ orderly => exact orderly.exit
  | other _ spares still orderly =>
    refine ⟨orderly.held_of_spares spares, orderly.apart, ?_⟩
    rw [still]
    exact orderly.threaded
  | @move s t o stack _ spares orderly =>
    -- Nothing but the flag of the innermost one changes, and with it what is said of the thread.
    obtain ⟨top, below⟩ := List.forall_mem_cons.mp (orderly.held_of_spares spares)
    obtain ⟨apart, rest⟩ := List.pairwise_cons.mp orderly.apart
    refine ⟨List.forall_mem_cons.mpr ⟨⟨top.object, top.isDir, top.absolute⟩, below⟩,
      List.pairwise_cons.mpr ⟨fun p member => ⟨(apart p member).id, (apart p member).path⟩, rest⟩,
      nofun, orderly.threaded.2⟩

/-! ## Steps of a session -/

theorem enters_enterScratch {asked : Value} {inner : Option String}
    (vacant : s.machine.Vacant s.machine.nextTemp)
    (inside : Inside (Table.getD s.scratchDirs id { inner := asked }).inner inner)
    (entered : (enterScratch id asked s).1.isOk = true) :
    Enters s id s.machine.nextTemp inner (enterScratch id asked s).2 := by
  obtain ⟨n, made, makes⟩ := makes_makeTemp vacant
  cases run : enterScratch id asked s with
  | mk r t =>
    cases r with
    | error e =>
      rw [run] at entered
      cases entered
    | ok dir => exact ⟨made, makes, inside, run⟩

def moveThread (dir : Value) (s : Session) : Session :=
  { s with machine := { s.machine with threadDir := dir } }

theorem Nested.moveThread (nested : Nested s (o :: stack)) (dir : Value) :
    Nested (moveThread dir s) ({ o with moved := true } :: stack) :=
  nested.move ⟨fun _ _ => rfl, fun p member => (nested.orderly.held p member).isDir⟩

structure Keeps (s t : Session) : Prop where
  site : t.machine.site = s.machine.site
  scratchDirs : t.scratchDirs = s.scratchDirs

theorem Keeps.refl (s : Session) : Keeps s s := ⟨rfl, rfl⟩

theorem Keeps.trans {s t u : Session} (h : Keeps s t) (h' : Keeps t u) : Keeps s u :=
  ⟨h'.site.trans h.site, h'.scratchDirs.trans h.scratchDirs⟩

theorem onStation_keeps {α : Type} {station : Station} {step : Step Bench α} (n : Nat)
    (stays : step.Along fun b b' => b'.machine.site = b.machine.site) :
    (onStation id station n step).Along Keeps :=
  fun s => ⟨stays ⟨s.machine, s.sheet (some n), station.memory⟩, rfl⟩

theorem compile_keeps
    (onHost : ∀ station, Table.find? s.stations id = some station → station.compiler.OnHost)
    (environ : Option Value) (changes : Fields) :
    Keeps s (compile id environ changes s).2 := by
  have submits : (submit environ changes).Along Keeps := fun s => ⟨rfl, rfl⟩
  refine along_lift_bind (r := named s.stations id) Keeps.refl (fun station found => ?_) s
  refine along_bind Keeps.trans submits fun n => onStation_keeps n ?_
  have host := onHost station (orFault_eq_ok.mp found)
  have trans {b b' b'' : Bench} (h : b'.machine.site = b.machine.site)
      (h' : b''.machine.site = b'.machine.site) : b''.machine.site = b.machine.site := h'.trans h
  refine along_bind trans (fun _ => rfl) fun start => ?_
  refine along_bind trans ?_ fun _ _ => rfl
  exact fun b => (host.since_start start.environ b).site

theorem Nested.compile (nested : Nested s stack)
    (onHost : ∀ station, Table.find? s.stations id = some station → station.compiler.OnHost)
    (environ : Option Value) (changes : Fields) :
    Nested (compile id environ changes s).2 stack := by
  have keeps := compile_keeps onHost environ changes
  refine nested.other ⟨?_, ?_⟩ (congrArg Site.threadDir keeps.site)
  · intro o _
    rw [keeps.scratchDirs]
  · intro o member
    have dirs := congrArg Site.dirs keeps.site
    exact (congrArg (·.contains o.path) dirs).trans (nested.orderly.held o member).isDir

/-- The thread is where the innermost open directory, or the directory inside it, is, unless something
else moved it. And the exit of the innermost one ends well: it moves the thread back to where it was
before the matching entry, and removes that directory with all in it, and nothing else. -/
theorem exit_undoes_enter (nested : Nested s (o :: stack)) :
    (o.moved = false → s.machine.here = .str o.place) ∧
    ∃ s', exitScratch o.id s = (.ok (), s') ∧ s'.machine.threadDir = o.outside ∧
      (∀ path, within o.path path = true → s'.machine.exists? path = false) ∧
      ∀ path, within o.path path = false →
        Table.find? s'.machine.files path = Table.find? s.machine.files path ∧
        s'.machine.isDir path = s.machine.isDir path := by
  have orderly := nested.orderly
  have held := orderly.held o List.mem_cons_self
  constructor
  · intro still
    have nonempty : o.place ≠ "" := (absolute_placeIn held.absolute o.inner).ne_empty
    rw [here, orderly.threaded.1 still, Value.orElse_text nonempty]
  · obtain ⟨s', exited, thread, removed, -⟩ := held.exists_exitScratch
    refine ⟨s', exited, thread, removed.gone, ?_⟩
    intro path outside
    exact ⟨removed.files path outside, removed.dirs path outside⟩

def shop : Session := { machine := blank, stations := [("cc", { compiler := Compiler.cOnHost })] }

def outerEntered : Session := (enterScratch "a" (.str "work") shop).2

def jobDone : Session :=
  (compile "cc" (some (.object [("source_file", .str "x.c")])) [] outerEntered).2

def innerEntered : Session := (enterScratch "b" .null jobDone).2

def movedAway : Session := moveThread (.str "/else") innerEntered

def innerExited : Session := (exitScratch "b" movedAway).2

def outer : Opening := ⟨"a", shop.machine.nextTemp, some "work", .null, false⟩

def inner : Opening := ⟨"b", jobDone.machine.nextTemp, none, jobDone.machine.threadDir, false⟩

theorem nested_innerExited : Nested innerExited [outer] := by
  have one : Nested outerEntered [outer] := by
    refine (Nested.start shop).enter nofun (enters_enterScratch ?_ ?_ (by decide +kernel))
    · exact vacant_of_apart (by decide +kernel) (by decide +kernel)
    · exact .named (by decide) (by decide)
  have still : Nested jobDone [outer] := by
    refine one.compile ?_ _ _
    rintro station ⟨⟩
    exact Compiler.onHost_cOnHost
  have two : Nested innerEntered [inner, outer] := by
    refine still.enter ?_ (enters_enterScratch ?_ ?_ (by decide +kernel))
    · simp [outer]
    · exact vacant_of_apart (by decide +kernel) (by decide +kernel)
    · exact .absent (by decide +kernel)
  exact (two.moveThread (.str "/else")).exit

theorem exit_undoes_enter_twice :
    innerExited.machine.here = .str "/tmp/wasmworkers_0/work" ∧
    innerExited.machine.exists? "/tmp/wasmworkers_0/work/output.o" = true ∧
    ∃ s', exitScratch "a" innerExited = (.ok (), s') ∧ s'.machine.threadDir = .null ∧
      s'.machine.exists? "/tmp/wasmworkers_0/work/output.o" = false ∧
      s'.machine.isDir "/tmp" = true := by
  obtain ⟨here, s', done, thread, gone, kept⟩ := exit_undoes_enter nested_innerExited
  refine ⟨?_, by decide +kernel, s', done, thread, gone _ (by decide +kernel), ?_⟩
  · rw [here rfl]
    exact congrArg Value.str (by decide +kernel)
  · rw [(kept "/tmp" (by decide +kernel)).2]
    decide +kernel

end Session

end CompileJob
