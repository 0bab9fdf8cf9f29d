import CompileJob.Value.Basic

namespace CompileJob.Table

variable {κ α : Type} [BEq κ]

@[simp] theorem find?_nil (key : κ) : find? ([] : Table κ α) key = none := rfl

theorem find?_cons (entry : κ × α) (table : Table κ α) (key : κ) :
    find? (entry :: table) key = if entry.1 == key then some entry.2 else find? table key := by
  cases h : entry.1 == key <;> simp [find?, h]

theorem has_eq (table : Table κ α) (key : κ) : has table key = (find? table key).isSome := by
  induction table with
  | nil => rfl
  | cons entry rest ih =>
    rw [find?_cons]
    cases h : entry.1 == key <;> simp_all [has]

theorem mem_put {table : Table κ α} {key : κ} {value : α} {entry : κ × α}
    (h : entry ∈ put table key value) : entry ∈ table ∨ entry.2 = value := by
  induction table with
  | nil => simp_all [put]
  | cons first rest ih =>
    obtain ⟨k, v⟩ := first
    unfold put at h
    split at h
    · rcases List.mem_cons.mp h with rfl | h
      · exact Or.inr rfl
      · exact Or.inl (List.mem_cons_of_mem _ h)
    · rcases List.mem_cons.mp h with rfl | h
      · exact Or.inl List.mem_cons_self
      · exact (ih h).imp_left (List.mem_cons_of_mem _)

theorem put_of_absent {table : Table κ α} {key : κ} (value : α)
    (absent : ∀ entry ∈ table, (entry.1 == key) = false) :
    put table key value = table ++ [(key, value)] := by
  induction table with
  | nil => rfl
  | cons first rest ih =>
    obtain ⟨other, later⟩ := List.forall_mem_cons.mp absent
    simp [put, other, ih later]

variable [LawfulBEq κ]

theorem find?_put (table : Table κ α) (key other : κ) (value : α) :
    find? (put table key value) other = if key == other then some value else find? table other := by
  induction table with
  | nil => simp [put, find?_cons]
  | cons first rest ih =>
    obtain ⟨k, v⟩ := first
    unfold put
    split
    · rename_i same
      rw [beq_iff_eq] at same
      subst same
      simp only [find?_cons]
      split <;> rfl
    · rename_i different
      rw [find?_cons, ih, find?_cons]
      split
      · rename_i here
        rw [beq_iff_eq] at here
        subst here
        rw [if_neg]
        intro same
        exact different (by rw [beq_iff_eq] at same ⊢; exact same.symm)
      · rfl

theorem find?_eq_some_iff {table : Table κ α} {key : κ} {value : α}
    (distinct : (table.map (·.1)).Nodup) : find? table key = some value ↔ (key, value) ∈ table := by
  induction table with
  | nil => simp
  | cons first rest ih =>
    obtain ⟨fresh, rest_distinct⟩ := List.nodup_cons.mp distinct
    rw [find?_cons, List.mem_cons]
    by_cases same : first.1 = key
    · subst same
      have others : (first.1, value) ∉ rest := fun member =>
        fresh (List.mem_map.mpr ⟨_, member, rfl⟩)
      simp [others, Prod.ext_iff, eq_comm]
    · have other : (first.1 == key) = false := beq_false_of_ne same
      simp [other, ih rest_distinct, Prod.ext_iff, Ne.symm same]

theorem find?_filter (table : Table κ α) (keep : κ → Bool) (key : κ) :
    find? (table.filter fun entry => keep entry.1) key =
      if keep key then find? table key else none := by
  induction table with
  | nil => simp
  | cons first rest ih =>
    by_cases same : first.1 = key
    · subst same
      cases kept : keep first.1 <;> simp [find?_cons, kept, ih]
    · have other : (first.1 == key) = false := beq_false_of_ne same
      cases kept : keep first.1 <;> simp [find?_cons, kept, other, ih]

theorem has_put (table : Table κ α) (key other : κ) (value : α) :
    has (put table key value) other = (key == other || has table other) := by
  rw [has_eq, has_eq, find?_put]
  split <;> simp_all

end CompileJob.Table
