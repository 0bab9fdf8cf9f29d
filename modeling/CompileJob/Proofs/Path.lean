import CompileJob.Text.Path
import Mathlib.Data.List.DropRight

namespace CompileJob.Path

def Absolute (path : String) : Prop := path.toList.head? = some '/'

instance (path : String) : Decidable (Absolute path) :=
  inferInstanceAs (Decidable (path.toList.head? = some '/'))

variable {dir part path : String}

theorem head?_eq_of_initial {α : Type} {xs ys : List α} (h : xs <+: ys) (nonempty : xs ≠ []) :
    ys.head? = xs.head? := by
  obtain ⟨rest, rfl⟩ := h
  exact List.head?_append_of_ne_nil xs nonempty

theorem Absolute.ne_empty (h : Absolute path) : path ≠ "" := by
  rintro rfl
  cases h

/-! ## Joining -/

theorem join_of_absolute (h : Absolute part) (dir : String) : join dir part = part := by
  have rooted : (part.toList.head? == some '/') = true := beq_iff_eq.mpr h
  rw [join, joinParts, if_pos rooted, String.ofList_toList]

theorem join_of_relative (relative : ¬ Absolute part) (nonempty : dir ≠ "")
    (unclosed : dir.toList.getLast? ≠ some '/') : join dir part = dir ++ "/" ++ part := by
  have relative : ¬ (part.toList.head? == some '/') = true := fun rooted =>
    relative (beq_iff_eq.mp rooted)
  have behind : ¬ (dir.toList.isEmpty || dir.toList.getLast? == some '/') = true := by
    simp [nonempty, unclosed]
  rw [join, joinParts, if_neg relative, if_neg behind, ← String.toList_inj]
  simp

theorem exists_lead (h : ¬ Absolute part) (dir : String) :
    ∃ lead, (join dir part).toList = lead ++ part.toList ∧ dir.toList <+: lead ∧
      (lead = [] ∨ ∃ start, lead = start ++ ['/']) := by
  have relative : ¬ (part.toList.head? == some '/') = true := fun rooted => h (beq_iff_eq.mp rooted)
  rw [join, joinParts, if_neg relative, String.toList_ofList]
  split
  · rename_i closed
    refine ⟨dir.toList, rfl, List.prefix_rfl, ?_⟩
    rcases Bool.or_eq_true_iff.mp closed with empty | ends
    · exact Or.inl (List.isEmpty_iff.mp empty)
    · exact Or.inr (List.getLast?_eq_some_iff.mp (beq_iff_eq.mp ends))
  · exact ⟨dir.toList ++ ['/'], by rw [List.append_assoc]; rfl, List.prefix_append _ _,
      Or.inr ⟨dir.toList, rfl⟩⟩

theorem absolute_join (h : Absolute dir) (part : String) : Absolute (join dir part) := by
  by_cases rooted : Absolute part
  · rw [join_of_absolute rooted]
    exact rooted
  · obtain ⟨lead, joined, inside, -⟩ := exists_lead rooted dir
    have nonempty : dir.toList ≠ [] := List.ne_nil_of_mem (List.mem_of_head? h)
    have longer : dir.toList <+: (join dir part).toList := by
      rw [joined]
      exact inside.trans (List.prefix_append lead _)
    exact (head?_eq_of_initial longer nonempty).trans h

theorem dir_of_join_eq_empty (h : join dir part = "") : dir = "" := by
  have joined : (join dir part).toList = [] := String.toList_eq_nil_iff.mpr h
  by_cases rooted : Absolute part
  · rw [join_of_absolute rooted] at joined
    unfold Absolute at rooted
    rw [joined] at rooted
    cases rooted
  · obtain ⟨lead, joined', inside, -⟩ := exists_lead rooted dir
    rw [joined', List.append_eq_nil_iff] at joined
    rw [joined.1, List.prefix_nil] at inside
    exact String.toList_eq_nil_iff.mp inside

theorem suffix_join (dir part : String) : part.toList <:+ (join dir part).toList := by
  by_cases rooted : Absolute part
  · exact ⟨[], congrArg String.toList (join_of_absolute rooted dir).symm⟩
  · obtain ⟨lead, joined, -, -⟩ := exists_lead rooted dir
    exact ⟨lead, joined.symm⟩

/-! ## Directories -/

theorem absolute_of_prefix {lead : List Char} (h : Absolute path) (inside : lead <+: path.toList)
    (nonempty : lead ≠ []) : Absolute (String.ofList lead) := by
  rw [Absolute, String.toList_ofList, ← head?_eq_of_initial inside nonempty]
  exact h

theorem absolute_dirname (h : Absolute path) : Absolute (dirname path) := by
  have inside : leading path.toList <+: path.toList := List.rdropWhile_prefix (· ≠ '/') path.toList
  have nonempty : leading path.toList ≠ [] := by
    intro empty
    have none := List.rdropWhile_eq_nil_iff.mp empty '/' (List.mem_of_head? h)
    exact absurd none (by decide)
  unfold dirname
  dsimp only
  split
  · exact absolute_of_prefix h inside nonempty
  · rename_i other
    refine absolute_of_prefix h ((List.rdropWhile_prefix (· = '/') _).trans inside) ?_
    intro empty
    refine other (List.all_eq_true.mpr ?_)
    exact List.rdropWhile_eq_nil_iff.mp empty

theorem leading_append (lead : List Char) {part : List Char} (plain : '/' ∉ part) :
    leading (lead ++ part) = leading lead := by
  have passed : ∀ c ∈ part.reverse, decide (c ≠ '/') = true := by
    intro c member
    exact decide_eq_true fun same => plain (same ▸ List.mem_reverse.mp member)
  rw [leading, leading, List.reverse_append, List.dropWhile_append_of_pos passed]

theorem dirname_append (stem : String) {ending other : String} (plain : '/' ∉ ending.toList)
    (plain' : '/' ∉ other.toList) : dirname (stem ++ ending) = dirname (stem ++ other) := by
  rw [dirname, dirname, String.toList_append, String.toList_append, leading_append _ plain,
    leading_append _ plain']

/-! ## Names -/

variable {name before after : List Char}

theorem rdropWhile_eq_or (separator : Char) (xs : List Char) :
    xs.rdropWhile (· ≠ separator) = [] ∨
      ∃ start, xs.rdropWhile (· ≠ separator) = start ++ [separator] := by
  by_cases empty : xs.rdropWhile (· ≠ separator) = []
  · exact Or.inl empty
  · have ends : (xs.rdropWhile (· ≠ separator)).getLast empty = separator := by
      simpa using List.rdropWhile_last_not (· ≠ separator) xs empty
    exact Or.inr ⟨_, (List.dropLast_append_getLast empty).symm.trans (by rw [ends])⟩

theorem exists_leading (path : String) : ∃ lead, path.toList = lead ++ (basename path).toList ∧
    (lead = [] ∨ ∃ start, lead = start ++ ['/']) := by
  refine ⟨leading path.toList, ?_, rdropWhile_eq_or '/' path.toList⟩
  rw [basename, String.toList_ofList]
  exact List.rdropWhile_append_rtakeWhile.symm

structure LastDot (name before after : List Char) : Prop where
  split : name = before ++ '.' :: after
  last : '.' ∉ after

theorem exists_lastDot (h : '.' ∈ name) : ∃ before after, LastDot name before after := by
  have split : name = name.rdropWhile (· ≠ '.') ++ name.rtakeWhile (· ≠ '.') :=
    List.rdropWhile_append_rtakeWhile.symm
  have last : '.' ∉ name.rtakeWhile (· ≠ '.') := fun member =>
    absurd (List.mem_rtakeWhile_imp member) (by decide)
  rcases rdropWhile_eq_or '.' name with none | ⟨before, ends⟩
  · exact absurd (List.rdropWhile_eq_nil_iff.mp none '.' h) (by decide)
  · refine ⟨before, _, ?_, last⟩
    rw [ends, List.append_assoc] at split
    exact split

section
variable (dot : LastDot name before after)
include dot

theorem LastDot.passed : ∀ c ∈ after.reverse, decide (c ≠ '.') = true := by
  intro c member
  exact decide_eq_true fun same => dot.last (same ▸ List.mem_reverse.mp member)

theorem LastDot.stem_eq : stem name = before := by
  rw [stem, dot.split, List.reverse_append, List.reverse_cons, List.append_assoc,
    List.dropWhile_append_of_pos dot.passed]
  simp

theorem LastDot.afterLastDot_eq : afterLastDot name = after := by
  rw [afterLastDot, dot.split, List.reverse_append, List.reverse_cons, List.append_assoc,
    List.takeWhile_append_of_pos dot.passed]
  simp

end

theorem stem_of_undotted (none : '.' ∉ name) : stem name = [] := by
  have passed : ∀ c ∈ name.reverse, decide (c ≠ '.') = true := by
    intro c member
    exact decide_eq_true fun dot => none (dot ▸ List.mem_reverse.mp member)
  rw [stem, List.dropWhile_eq_nil_iff.mpr passed]
  rfl

/-- What follows the last dot of a path's last part, where more than dots stand before it. -/
inductive IsExtension (path : String) : String → Prop
  | dotted {before after : List Char} (dot : LastDot (basename path).toList before after)
      (other : ∃ c ∈ before, c ≠ '.') : IsExtension path (String.ofList after)
  | none (dots : ∀ before after, LastDot (basename path).toList before after →
      ∀ c ∈ before, c = '.') : IsExtension path ""

theorem extension_of_lastDot (dot : LastDot (basename path).toList before after) :
    extension path = if before.any (· ≠ '.') then String.ofList after else "" := by
  rw [basename, String.toList_ofList] at dot
  rw [extension, dot.stem_eq, dot.afterLastDot_eq]

theorem isExtension_extension (path : String) : IsExtension path (extension path) := by
  by_cases dotted : '.' ∈ (basename path).toList
  · obtain ⟨before, after, dot⟩ := exists_lastDot dotted
    rw [extension_of_lastDot dot]
    split
    · rename_i other
      exact .dotted dot (by simpa using other)
    · rename_i same
      refine .none fun before' after' dot' => ?_
      rw [← dot'.stem_eq, dot.stem_eq]
      simpa using same
  · have empty : extension path = "" := by
      rw [basename, String.toList_ofList] at dotted
      rw [extension, stem_of_undotted dotted]
      rfl
    rw [empty]
    refine .none fun before after dot => absurd ?_ dotted
    rw [dot.split]
    exact List.mem_append_right before List.mem_cons_self

end CompileJob.Path
