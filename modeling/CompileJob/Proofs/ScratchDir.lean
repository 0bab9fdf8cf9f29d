import CompileJob.ScratchDir
import CompileJob.Proofs.Machine
import CompileJob.Proofs.Path
import CompileJob.Proofs.Step
import CompileJob.Proofs.Table
import CompileJob.Proofs.Value.Texts

namespace CompileJob

namespace Machine

variable {m n : Machine} {path : String}

def Vacant (m : Machine) (path : String) : Prop := ∀ q, m.exists? q = true → within path q = false

structure Makes (m n : Machine) (path : String) : Prop where
  absolute : Path.Absolute path
  unclosed : path.toList.getLast? ≠ some '/'
  vacant : m.Vacant path
  threadDir : n.threadDir = m.threadDir
  isDir : n.isDir path = true
  kept : ∀ q, m.isDir q = true → n.isDir q = true

structure Removed (m n : Machine) (path : String) : Prop where
  gone : ∀ q, within path q = true → n.exists? q = false
  files : ∀ q, within path q = false → Table.find? n.files q = Table.find? m.files q
  dirs : ∀ q, within path q = false → n.isDir q = m.isDir q

theorem isDir_iff : m.isDir path = true ↔ path ∈ m.dirs := List.contains_iff_mem

theorem isDir_of_added {q : String} (added : n.dirs = m.dirs ++ [path]) (there : m.isDir q = true) :
    n.isDir q = true := by
  rw [isDir_iff, added]
  exact List.mem_append_left _ (isDir_iff.mp there)

theorem vacant_of_apart (dirs : ∀ q ∈ m.dirs, within path q = false)
    (files : ∀ f ∈ m.files, within path f.1 = false) : m.Vacant path := by
  intro q there
  rcases Bool.or_eq_true_iff.mp there with file | dir
  · obtain ⟨f, member, same⟩ := List.any_eq_true.mp file
    rw [← beq_iff_eq.mp same]
    exact files f member
  · exact dirs q (isDir_iff.mp dir)

/-! ## Making and removing -/

def nextTemp (m : Machine) : String := tempStem ++ toString m.tempDirs

theorem makes_makeTemp (vacant : m.Vacant m.nextTemp) :
    ∃ n, makeTemp m = (.ok m.nextTemp, n) ∧ m.Makes n m.nextTemp := by
  refine ⟨_, rfl, ?_, ?_, vacant, rfl, ?_, ?_⟩
  · rw [nextTemp, Path.Absolute, String.toList_append]
    rfl
  · intro closed
    have digit : '/' ∈ (toString m.tempDirs).toList := by
      rw [nextTemp, String.toList_append, List.getLast?_append_of_ne_nil] at closed
      · exact List.mem_of_getLast? closed
      · rw [Nat.toString_eq_repr, Nat.toList_repr]
        exact Nat.toDigits_ne_nil
    rw [Nat.toString_eq_repr, Nat.toList_repr] at digit
    exact absurd (Nat.isDigit_of_mem_toDigits (by decide) (by decide) digit) (by decide)
  · exact isDir_iff.mpr (List.mem_append_right _ (List.mem_singleton_self _))
  · exact fun q there => isDir_of_added rfl there

theorem makeDir_ok (h : makeDir path m = (.ok (), n)) :
    n = { m.record (.makeDir path) with dirs := m.dirs ++ [path] } := by
  unfold makeDir at h
  simp only [Step.run_bind, run_emit, Step.run_get] at h
  split at h
  · cases h
  · split at h
    · cases h
    · cases h
      rfl

def without (m : Machine) (path : String) : Machine :=
  { m with
    dirs := m.dirs.filter fun d => !within path d
    files := m.files.filter fun (f, _) => !within path f }

theorem isDir_without (m : Machine) (path q : String) :
    (m.without path).isDir q = (m.isDir q && !within path q) := by
  rw [Bool.eq_iff_iff, isDir_iff, Bool.and_eq_true, isDir_iff]
  exact List.mem_filter

theorem find?_without (m : Machine) (path q : String) :
    Table.find? (m.without path).files q =
      if !within path q then Table.find? m.files q else none :=
  Table.find?_filter m.files (fun f => !within path f) q

theorem removed_without (m : Machine) (path : String) : m.Removed (m.without path) path where
  gone q inside := by
    rw [exists?, Table.has_eq, find?_without, isDir_without, inside]
    simp
  files q outside := by rw [find?_without, outside, Bool.not_false, if_pos rfl]
  dirs q outside := by rw [isDir_without, outside, Bool.not_false, Bool.and_true]

theorem removeTree_eq (there : m.isDir path = true) :
    removeTree path m = (.ok (), (m.without path).record (.removeTree path)) := by
  have there' : (m.record (.removeTree path)).isDir path = true := there
  unfold removeTree
  simp only [Step.run_bind, run_emit, Step.run_get]
  simp only [there', Bool.not_true, Bool.false_eq_true, if_false]
  rfl

end Machine

namespace ScratchDir

/-- What an object asks for inside its directory: nothing, or a directory with a relative name. -/
inductive Inside : Value → Option String → Prop
  | absent {v : Value} (falsy : v.truthy = false) : Inside v none
  | named {name : String} (nonempty : name ≠ "") (relative : ¬ Path.Absolute name) :
      Inside (.str name) (some name)

def placeIn (path : String) : Option String → String
  | none => path
  | some name => path ++ "/" ++ name

theorem absolute_placeIn {path : String} (h : Path.Absolute path) (inner : Option String) :
    Path.Absolute (placeIn path inner) := by
  cases inner with
  | none => exact h
  | some name =>
    have start : path.toList <+: (path ++ "/" ++ name).toList := by
      simp only [String.toList_append, List.append_assoc]
      exact List.prefix_append _ _
    exact (Path.head?_eq_of_initial start (List.ne_nil_of_mem (List.mem_of_head? h))).trans h

structure Entered (n : Machine) (p' : Place) (path place : String) : Prop where
  path_eq : p'.dir.path = some path
  before : p'.dir.before = n.threadDir
  threadDir : p'.machine.threadDir = .str place
  kept : ∀ q, n.isDir q = true → p'.machine.isDir q = true

variable {make : Step Machine String} {m n : Machine} {path : String} {inner : Option String}
  {p p' : Place}

theorem enter_ok (made : make p.machine = (.ok path, n)) (makes : p.machine.Makes n path)
    (inside : Inside p.dir.inner inner) (entered : enter make p = (.ok (), p')) :
    Entered n p' path (placeIn path inner) := by
  obtain ⟨m, asked, _, _⟩ := p
  unfold enter at entered
  simp only [onMachine, Step.run_bind, Step.focus, made, Step.run_modify, run_log,
    Step.run_get] at entered
  cases inside with
  | absent falsy =>
    simp only [falsy] at entered
    cases entered
    exact ⟨rfl, rfl, rfl, fun q there => there⟩
  | @named name nonempty relative =>
    have truthy : (Value.str name).truthy = true := by simp [Value.truthy, nonempty]
    simp only [truthy, if_true] at entered
    obtain ⟨target, _, joined, entered⟩ := Step.run_bind_eq_ok.mp entered
    cases joined
    obtain ⟨_, _, focused, entered⟩ := Step.run_bind_eq_ok.mp entered
    obtain ⟨m', inside, rfl⟩ := Step.run_focus_eq_ok.mp focused
    cases Machine.makeDir_ok inside
    cases entered
    refine ⟨rfl, rfl, ?_, ?_⟩
    · exact congrArg Value.str (Path.join_of_relative relative makes.absolute.ne_empty makes.unclosed)
    · exact fun q there => Machine.isDir_of_added rfl there

theorem exists_exit (entered : p.dir.path = some path) (there : p.machine.isDir path = true) :
    ∃ n, exit p = (.ok (), ⟨n, p.dir⟩) ∧ n.threadDir = p.dir.before ∧
      p.machine.Removed n path := by
  have found : orFault .wrongType p.dir.path = .ok path := orFault_eq_ok.mpr entered
  let n : Machine := (p.machine.without path).record (.removeTree path)
  have removed := Machine.removed_without p.machine path
  refine ⟨{ n with threadDir := p.dir.before }, ?_, rfl, removed.gone, removed.files, removed.dirs⟩
  unfold exit
  simp only [onMachine, Step.run_bind, Step.run_get, Step.run_lift, Step.focus, found,
    Machine.removeTree_eq there]
  rfl

end ScratchDir

end CompileJob
