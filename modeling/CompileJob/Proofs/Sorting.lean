import CompileJob.Sorting.Basic

namespace CompileJob.Sorting

variable {α β : Type} {lt : α → α → Bool} {items : List α}

theorem ordered_iff :
    ordered lt items = true ↔ items.Pairwise fun a b => lt a b = true ∨ lt b a = true := by
  induction items with
  | nil => simp [ordered]
  | cons a rest ih => simp [ordered, ih]

theorem insert_sorted (trans : ∀ a b c, lt a b = true → lt b c = true → lt a c = true) {a : α}
    (apart : ∀ b ∈ items, lt a b = true ∨ lt b a = true) (sorted : items.Pairwise (lt · · = true)) :
    (insert lt a items).Pairwise (lt · · = true) := by
  induction items with
  | nil => simp [insert]
  | cons b rest ih =>
    obtain ⟨below, rest_sorted⟩ := List.pairwise_cons.mp sorted
    unfold insert
    split
    · rename_i less
      apply List.pairwise_cons.mpr
      constructor
      · intro x member
        rcases List.mem_cons.mp ((insert_perm lt a rest).mem_iff.mp member) with rfl | inside
        · exact less
        · exact below x inside
      · exact ih (fun x inside => apart x (List.mem_cons_of_mem b inside)) rest_sorted
    · rename_i other
      have less := (apart b List.mem_cons_self).resolve_right other
      apply List.pairwise_cons.mpr
      constructor
      · intro x member
        rcases List.mem_cons.mp member with rfl | inside
        · exact less
        · exact trans a b x less (below x inside)
      · exact sorted

theorem insertAll_sorted (trans : ∀ a b c, lt a b = true → lt b c = true → lt a c = true)
    (apart : items.Pairwise fun a b => lt a b = true ∨ lt b a = true) :
    (insertAll lt items).Pairwise (lt · · = true) := by
  induction items with
  | nil => exact .nil
  | cons a rest ih =>
    obtain ⟨first, others⟩ := List.pairwise_cons.mp apart
    apply insert_sorted trans
    · intro b member
      exact first b ((insertAll_perm lt rest).mem_iff.mp member)
    · exact ih others

theorem insert_map (f : β → α) (b : β) (entries : List β) :
    insert lt (f b) (entries.map f) = (insert (fun x y => lt (f x) (f y)) b entries).map f := by
  induction entries with
  | nil => rfl
  | cons first rest ih =>
    simp only [List.map_cons, insert]
    split
    · rw [ih, List.map_cons]
    · rfl

theorem insertAll_map (f : β → α) (entries : List β) :
    insertAll lt (entries.map f) = (insertAll (fun x y => lt (f x) (f y)) entries).map f := by
  induction entries with
  | nil => rfl
  | cons first rest ih => rw [List.map_cons, insertAll, ih, insert_map, insertAll]

end CompileJob.Sorting
