import CompileJob.Job
import CompileJob.Proofs.Value.Texts

namespace CompileJob.Backend

abbrev Registration := Value × Backend

variable {m m' : Machine} {history history' before after : List Registration} {key : String}
  {backend : Backend}

/-- The machine after all registrations, of which those under a key that cannot be one have
failed. -/
def registerAll (history : List Registration) (m : Machine) : Machine :=
  history.foldl (fun m r => (register r.1 r.2 m).2) m

def found (key : String) (earlier : Option Backend) (r : Registration) : Option Backend :=
  if r.1 == .str key then some r.2 else earlier

/-! ## One registration -/

theorem find?_register (key : String) (r : Registration) (m : Machine) :
    Table.find? (register r.1 r.2 m).2.registered (.str key) =
      found key (Table.find? m.registered (.str key)) r := by
  unfold register found
  split
  · exact Table.find?_put_text m.registered r.1 r.2 key
  · rename_i unhashable
    have other : ¬ (r.1 == .str key) = true := by
      rw [Value.beq_str_iff]
      intro same
      rw [same] at unhashable
      exact unhashable rfl
    rw [if_neg other]
    rfl

theorem register_keeps (key : Value) (backend : Backend) (m : Machine) :
    ∃ registered, (register key backend m).2 = { m with registered } := by
  unfold register
  split
  · exact ⟨_, rfl⟩
  · exact ⟨m.registered, rfl⟩

/-! ## All registrations -/

theorem find?_registerAll (history : List Registration) (m : Machine) (key : String) :
    Table.find? (registerAll history m).registered (.str key) =
      history.foldl (found key) (Table.find? m.registered (.str key)) := by
  induction history generalizing m with
  | nil => rfl
  | cons r rest ih =>
    change Table.find? (registerAll rest (register r.1 r.2 m).2).registered _ = _
    rw [ih, find?_register, List.foldl_cons]

theorem registerAll_keeps (history : List Registration) (m : Machine) :
    ∃ registered, registerAll history m = { m with registered } := by
  induction history generalizing m with
  | nil => exact ⟨m.registered, rfl⟩
  | cons r rest ih =>
    obtain ⟨between, first⟩ := register_keeps r.1 r.2 m
    obtain ⟨registered, last⟩ := ih { m with registered := between }
    refine ⟨registered, ?_⟩
    change registerAll rest (register r.1 r.2 m).2 = _
    rw [first, last]

theorem foldl_found_of_absent (earlier : Option Backend) (absent : ∀ r ∈ history, r.1 ≠ .str key) :
    history.foldl (found key) earlier = earlier := by
  induction history with
  | nil => rfl
  | cons r rest ih =>
    obtain ⟨other, others⟩ := List.forall_mem_cons.mp absent
    rw [List.foldl_cons, found, if_neg (by simpa using other), ih others]

theorem foldl_found_of_last (earlier : Option Backend) (absent : ∀ r ∈ after, r.1 ≠ .str key) :
    (before ++ (.str key, backend) :: after).foldl (found key) earlier = some backend := by
  rw [List.foldl_append, List.foldl_cons, foldl_found_of_absent _ absent]
  exact if_pos (Value.beq_str_iff.mpr rfl)

theorem found_eq_none_iff {earlier : Option Backend} {r : Registration} :
    found key earlier r = none ↔ earlier = none ∧ r.1 ≠ .str key := by
  unfold found
  split <;> simp_all

theorem foldl_found_eq_none_iff {earlier : Option Backend} :
    history.foldl (found key) earlier = none ↔ earlier = none ∧ ∀ r ∈ history, r.1 ≠ .str key := by
  induction history generalizing earlier with
  | nil => simp
  | cons r rest ih => rw [List.foldl_cons, ih, found_eq_none_iff, List.forall_mem_cons, and_assoc]

theorem foldl_found_filter (earlier : Option Backend) :
    (history.filter (·.1 == .str key)).foldl (found key) earlier =
      history.foldl (found key) earlier := by
  rw [List.foldl_filter]
  congr
  funext earlier r
  unfold found
  split <;> rfl

/-! ## Installed backends -/

def Offers (e : EntryPoint) (key : String) : Prop :=
  e.group = "wasmworkers.backends" ∧ e.name = key

variable {entries : List EntryPoint}

def offering (key : String) (e : EntryPoint) : Bool :=
  (Value.str entryGroup).equal (.str e.group) &&
    ((Value.str key).isNull || (Value.str key).equal (.str e.name))

theorem offering_iff {e : EntryPoint} : offering key e = true ↔ Offers e key := by
  change (entryGroup == e.group && (false || key == e.name)) = true ↔ _
  rw [Bool.false_or, Bool.and_eq_true, beq_iff_eq, beq_iff_eq]
  exact ⟨fun ⟨group, name⟩ => ⟨group.symm, name.symm⟩,
    fun ⟨group, name⟩ => ⟨group.symm, name.symm⟩⟩

theorem firstInstalled_eq :
    firstInstalled entries (.str entryGroup) (.str key) = match entries.find? (offering key) with
      | some e => e.target.mapError (.brokenBackend e.name (.str entryGroup))
      | none => .error (.unknownBackend (.str entryGroup) (.str key)) := rfl

theorem firstInstalled_of_first {before after : List EntryPoint} {e : EntryPoint}
    (offers : Offers e key) (first : ∀ other ∈ before, ¬ Offers other key) :
    firstInstalled (before ++ e :: after) (.str entryGroup) (.str key) =
      e.target.mapError (.brokenBackend key (.str entryGroup)) := by
  have found : (before ++ e :: after).find? (offering key) = some e := by
    refine List.find?_eq_some_iff_append.mpr
      ⟨offering_iff.mpr offers, before, after, rfl, fun other member => ?_⟩
    rw [Bool.not_eq_true', Bool.eq_false_iff, ne_eq, offering_iff]
    exact first other member
  rw [firstInstalled_eq, found]
  dsimp only
  rw [offers.2]

theorem firstInstalled_unknown_iff :
    (∃ group name, firstInstalled entries (.str entryGroup) (.str key) =
      .error (.unknownBackend group name)) ↔ ∀ e ∈ entries, ¬ Offers e key := by
  have none_iff : entries.find? (offering key) = none ↔ ∀ e ∈ entries, ¬ Offers e key := by
    simp [List.find?_eq_none, offering_iff]
  rw [← none_iff, firstInstalled_eq]
  cases entries.find? (offering key) with
  | none => simp
  | some e =>
    refine ⟨fun ⟨group, name, unknown⟩ => ?_, nofun⟩
    dsimp only at unknown
    cases load : e.target <;> rw [load] at unknown <;> cases unknown

/-! ## Lookup -/

theorem lookup_eq (m : Machine) (key : String) :
    lookup m (.str key) = match Table.find? m.registered (.str key) with
      | some backend => .ok backend
      | none => firstInstalled m.entryPoints (.str entryGroup) (.str key) := rfl

theorem lookup_registerAll (history : List Registration) (m : Machine) (key : String) :
    lookup (registerAll history m) (.str key) =
      match history.foldl (found key) (Table.find? m.registered (.str key)) with
      | some backend => .ok backend
      | none => firstInstalled m.entryPoints (.str entryGroup) (.str key) := by
  obtain ⟨registered, kept⟩ := registerAll_keeps history m
  have entries : (registerAll history m).entryPoints = m.entryPoints := by rw [kept]
  rw [lookup_eq, find?_registerAll, entries]

def Unregistered (m : Machine) (history : List Registration) (key : String) : Prop :=
  Table.find? m.registered (.str key) = none ∧ ∀ r ∈ history, r.1 ≠ .str key

theorem lookup_of_last (m : Machine) (last : ∀ r ∈ after, r.1 ≠ .str key)
    (entryPoints : List EntryPoint) :
    lookup { registerAll (before ++ (.str key, backend) :: after) m with entryPoints } (.str key) =
      .ok backend := by
  rw [lookup_eq]
  dsimp only
  rw [find?_registerAll, foldl_found_of_last _ last]

theorem lookup_congr (m : Machine)
    (same : history'.filter (·.1 == .str key) = history.filter (·.1 == .str key)) :
    lookup (registerAll history' m) (.str key) = lookup (registerAll history m) (.str key) := by
  rw [lookup_registerAll, lookup_registerAll, ← foldl_found_filter, same, foldl_found_filter]

theorem lookup_of_unregistered (unregistered : Unregistered m history key) :
    lookup (registerAll history m) (.str key) =
      firstInstalled m.entryPoints (.str entryGroup) (.str key) := by
  rw [lookup_registerAll, foldl_found_eq_none_iff.mpr unregistered]

theorem lookup_unknown_iff :
    (∃ group name, lookup (registerAll history m) (.str key) =
      .error (.unknownBackend group name)) ↔
      Unregistered m history key ∧ ∀ e ∈ m.entryPoints, ¬ Offers e key := by
  rw [← firstInstalled_unknown_iff, lookup_registerAll, Unregistered, ← foldl_found_eq_none_iff]
  cases history.foldl (found key) (Table.find? m.registered (.str key)) with
  | none => simp
  | some backend => simp

end CompileJob.Backend
