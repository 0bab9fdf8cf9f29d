import CompileJob.Proofs.Table
import CompileJob.Value.Access

namespace CompileJob

theorem Value.orElse_text {s : String} (h : s ≠ "") (v : Value) :
    (Value.str s).orElse v = .str s := by
  simp [orElse, truthy, h]

def texts (xs : List String) : Value := .list (xs.map .str)

@[simp] theorem elements_texts (xs : List String) : (texts xs).elements = .ok (xs.map .str) := rfl

theorem texts_append (xs ys : List String) :
    texts (xs ++ ys) = .list (xs.map .str ++ ys.map .str) :=
  congrArg Value.list List.map_append

theorem mapM_texts {α : Type} (f : Value → Except Fault α) (g : String → α)
    (h : ∀ s, f (.str s) = .ok (g s)) (xs : List String) :
    (xs.map Value.str).mapM f = .ok (xs.map g) := by
  induction xs with
  | nil => rfl
  | cons x xs ih =>
    rw [List.map_cons, List.mapM_cons, h, ih]
    rfl

theorem texts_strings (xs : List String) : (xs.map Value.str).mapM Value.string = .ok xs := by
  have strings := mapM_texts Value.string id (fun _ => rfl) xs
  rwa [List.map_id] at strings

/-! ## Texts as keys -/

@[simp] theorem Value.beq_str_iff {v : Value} {s : String} : (v == .str s) = true ↔ v = .str s := by
  change v.equal (.str s) = true ↔ v = .str s
  cases v <;> simp [Value.equal, Value.number?]

theorem Value.str_beq_iff {v : Value} {s : String} :
    ((.str s : Value) == v) = true ↔ v = .str s := by
  change (Value.str s).equal v = true ↔ v = .str s
  cases v with
  | str t =>
    rw [Value.str.injEq, eq_comm (a := t)]
    exact beq_iff_eq
  | _ => simp [Value.equal, Value.number?]

namespace Table

variable {α : Type}

def keyed (table : Table String α) : Table Value α := table.map fun (name, a) => (.str name, a)

theorem find?_keyed (table : Table String α) (name : String) :
    find? (keyed table) (.str name) = find? table name := by
  induction table with
  | nil => rfl
  | cons first rest ih =>
    change find? ((.str first.1, first.2) :: keyed rest) (.str name) = _
    rw [find?_cons, find?_cons, ih]
    rfl

theorem find?_keyed_of_not_text (table : Table String α) {key : Value} (other : ∀ s, key ≠ .str s) :
    find? (keyed table) key = none := by
  induction table with
  | nil => rfl
  | cons first rest ih =>
    change find? ((.str first.1, first.2) :: keyed rest) key = _
    rw [find?_cons, ih, if_neg]
    rw [Value.str_beq_iff]
    exact other first.1

theorem put_keyed {table : Table String α} {name : String} (a : α)
    (fresh : name ∉ table.map (·.1)) :
    put (keyed table) (.str name) a = keyed (table ++ [(name, a)]) := by
  rw [put_of_absent]
  · simp [keyed]
  · intro entry member
    obtain ⟨first, inside, rfl⟩ := List.mem_map.mp member
    rw [Bool.eq_false_iff, ne_eq, Value.beq_str_iff]
    rintro ⟨same⟩
    exact fresh (List.mem_map.mpr ⟨first, inside, rfl⟩)

theorem find?_put_text (table : Table Value α) (key : Value) (a : α) (name : String) :
    find? (put table key a) (.str name) =
      if key == .str name then some a else find? table (.str name) := by
  induction table with
  | nil => simp [put, find?_cons]
  | cons first rest ih =>
    obtain ⟨k, v⟩ := first
    unfold put
    split
    · rename_i same
      rw [find?_cons, find?_cons]
      by_cases here : k = .str name
      · subst here
        have key_eq : key = .str name := Value.str_beq_iff.mp same
        simp [key_eq, Value.beq_str_iff]
      · have other : key ≠ .str name := by
          rintro rfl
          exact here (Value.beq_str_iff.mp same)
        simp [Value.beq_str_iff, here, other]
    · rename_i different
      rw [find?_cons, ih, find?_cons]
      by_cases here : k = .str name
      · subst here
        have other : key ≠ .str name := by
          rintro rfl
          exact different (Value.beq_str_iff.mpr rfl)
        simp [Value.beq_str_iff, other]
      · simp [Value.beq_str_iff, here]

end Table

end CompileJob
