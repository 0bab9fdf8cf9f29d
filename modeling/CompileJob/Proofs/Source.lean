import CompileJob.Backend

namespace CompileJob

namespace Lowercase

theorem lowerFrom_append (before xs ys : List Char) :
    ∃ zs, lowerFrom before (xs ++ ys) = zs ++ lowerFrom (xs.reverse ++ before) ys := by
  induction xs generalizing before with
  | nil => exact ⟨[], rfl⟩
  | cons c xs ih =>
    obtain ⟨zs, h⟩ := ih (c :: before)
    rw [List.cons_append, lowerFrom, h, ← List.append_assoc, List.reverse_cons,
      List.append_assoc _ [c]]
    exact ⟨_, rfl⟩

/-- Not one of the two letters that do not lower by their run alone. -/
def Regular (c : Char) : Prop := c ≠ 'İ' ∧ c ≠ capitalSigma

def Plain (c : Char) : Prop := c ≠ 'İ' ∧ c ≠ '\u0307' ∧ c ≠ 'ς' ∧ c ≠ 'σ'

theorem regular_of_plain {c : Char} (h : Plain (lowerChar c)) : Regular c := by
  constructor
  · rintro rfl
    exact h.1 (by decide +kernel)
  · rintro rfl
    exact h.2.2.2 (by decide +kernel)

theorem lowerFrom_cons_of_regular {c : Char} (h : Regular c) (before after : List Char) :
    lowerFrom before (c :: after) = lowerChar c :: lowerFrom (c :: before) after := by
  rw [lowerFrom, if_neg h.1, if_neg h.2]
  rfl

theorem lowerFrom_cons_of_irregular {c : Char} (h : ¬ Regular c) (before after : List Char) :
    ∃ start last, ¬ Plain last ∧
      lowerFrom before (c :: after) = start ++ last :: lowerFrom (c :: before) after := by
  by_cases dotted : c = 'İ'
  · subst dotted
    exact ⟨['i'], '\u0307', fun plain => plain.2.1 rfl, rfl⟩
  · obtain rfl : c = capitalSigma := Classical.byContradiction fun other => h ⟨dotted, other⟩
    refine ⟨[], lowerSigma before after, ?_, rfl⟩
    intro plain
    unfold lowerSigma at plain
    split at plain
    · exact plain.2.2.1 rfl
    · exact plain.2.2.2 rfl

theorem lowerFrom_eq_map {s : List Char} (regular : ∀ c ∈ s, Regular c) (before : List Char) :
    lowerFrom before s = s.map lowerChar := by
  induction s generalizing before with
  | nil => rfl
  | cons c after ih =>
    rw [lowerFrom_cons_of_regular (regular c List.mem_cons_self), List.map_cons,
      ih fun d member => regular d (List.mem_cons_of_mem c member)]

theorem regular_of_plain_lowerFrom {before s : List Char}
    (plain : ∀ c ∈ lowerFrom before s, Plain c) : ∀ c ∈ s, Regular c := by
  intro c member
  obtain ⟨stem, after, rfl⟩ := List.append_of_mem member
  obtain ⟨start, lowered⟩ := lowerFrom_append before stem (c :: after)
  refine Classical.byContradiction fun irregular => ?_
  obtain ⟨start', last, notPlain, ends⟩ :=
    lowerFrom_cons_of_irregular irregular (stem.reverse ++ before) after
  exact notPlain (plain last (by simp [lowered, ends]))

theorem runs_lead_to_letters : ∀ r ∈ runs, 97 ≤ r.first + r.shift := by decide +kernel

theorem toNat_ofNat (n : Nat) : (Char.ofNat n).toNat = n ∨ (Char.ofNat n).toNat = 0 := by
  by_cases valid : n.isValidChar
  · have char : Char.ofNat n = Char.ofNatAux n valid := dif_pos valid
    exact Or.inl (congrArg Char.toNat char)
  · have char : Char.ofNat n = Char.ofNat 0 := dif_neg valid
    exact Or.inr (congrArg Char.toNat char)

theorem eq_dot_of_lowerChar {c : Char} (h : lowerChar c = '.') : c = '.' := by
  unfold lowerChar at h
  split at h
  · rename_i r found
    have covers := List.find?_some found
    have letter := runs_lead_to_letters r (List.mem_of_find?_eq_some found)
    have code : (Char.ofNat (c.toNat + r.shift).toNat).toNat = 46 := by rw [h]; rfl
    simp only [Run.covers, Bool.and_eq_true, decide_eq_true_eq] at covers
    rcases toNat_ofNat (c.toNat + r.shift).toNat with same | zero <;> omega
  · exact h

theorem dot_of_mem_lowerFrom {before s : List Char} (h : '.' ∈ lowerFrom before s) : '.' ∈ s := by
  induction s generalizing before with
  | nil => cases h
  | cons c after ih =>
    rw [lowerFrom] at h
    -- Neither of the two letters lowered by rules of their own gives a dot.
    rcases List.mem_append.mp h with here | later
    · split at here
      · simp at here
      · split at here
        · unfold lowerSigma at here
          split at here <;> simp at here
        · have dot : c = '.' := eq_dot_of_lowerChar (List.mem_singleton.mp here).symm
          exact dot ▸ List.mem_cons_self
    · exact List.mem_cons_of_mem c (ih later)

end Lowercase

theorem suffix_of_suffix_append_cons {α : Type} {t start rest : List α} {a : α} (lacks : a ∉ t)
    (h : t <:+ start ++ a :: rest) : t <:+ rest := by
  rcases List.suffix_or_suffix_of_suffix h (List.suffix_append start (a :: rest)) with
    shorter | longer
  · rcases List.suffix_cons_iff.mp shorter with rfl | suffix
    · exact absurd List.mem_cons_self lacks
    · exact suffix
  · exact absurd (longer.mem List.mem_cons_self) lacks

theorem Lowercase.suffix_lowerFrom_iff {t : List Char} (plain : ∀ c ∈ t, Plain c)
    (before s : List Char) :
    t <:+ lowerFrom before s ↔ ∃ ending, ending <:+ s ∧ ending.map lowerChar = t := by
  constructor
  · intro suffix
    induction s generalizing before t with
    | nil => exact ⟨[], List.suffix_rfl, (List.suffix_nil.mp suffix).symm⟩
    | cons c after ih =>
      have later (rest : t <:+ lowerFrom (c :: before) after) :
          ∃ ending, ending <:+ c :: after ∧ ending.map lowerChar = t := by
        obtain ⟨ending, suffix, lowered⟩ := ih plain (c :: before) rest
        exact ⟨ending, suffix.trans (List.suffix_cons c after), lowered⟩
      by_cases regular : Regular c
      · rw [lowerFrom_cons_of_regular regular, List.suffix_cons_iff] at suffix
        rcases suffix with rfl | rest
        · have regular_after := regular_of_plain_lowerFrom fun d member =>
            plain d (List.mem_cons_of_mem _ member)
          exact ⟨c :: after, List.suffix_rfl, by
            rw [List.map_cons, lowerFrom_eq_map regular_after]⟩
        · exact later rest
      · -- The letter ends in a character that `t` lacks, so `t` lies behind it.
        obtain ⟨start, last, notPlain, ends⟩ := lowerFrom_cons_of_irregular regular before after
        rw [ends] at suffix
        have lacks : last ∉ t := fun member => notPlain (plain last member)
        exact later (suffix_of_suffix_append_cons lacks suffix)
  · rintro ⟨ending, ⟨stem, rfl⟩, rfl⟩
    obtain ⟨start, lowered⟩ := lowerFrom_append before stem ending
    have regular : ∀ c ∈ ending, Regular c := fun c member =>
      regular_of_plain (plain _ (List.mem_map_of_mem member))
    rw [lowered, lowerFrom_eq_map regular]
    exact List.suffix_append start _

namespace Source

open Lowercase

/-! ## Text names -/

theorem plain_textSuffix : ∀ c ∈ textSuffix.toList, Plain c := by
  simp [textSuffix, Plain]

theorem isText_iff (name : String) : isText name = true ↔
    ∃ ending, ending <:+ name.toList ∧ ending.map lowerChar = textSuffix.toList := by
  rw [isText, lower, String.toList_ofList, List.isSuffixOf_iff_suffix,
    suffix_lowerFrom_iff plain_textSuffix]

theorem separator_not_mem {ending : List Char}
    (lowered : ending.map lowerChar = textSuffix.toList) : '/' ∉ ending := by
  intro member
  have lowered_member : lowerChar '/' ∈ ending.map lowerChar := List.mem_map_of_mem member
  rw [lowered] at lowered_member
  exact absurd lowered_member (by decide +kernel)

theorem isText_below {path name : String} {lead : List Char}
    (below : path.toList = lead ++ '/' :: name.toList) : isText path = isText name := by
  rw [Bool.eq_iff_iff, isText_iff, isText_iff, below]
  constructor
  · rintro ⟨ending, suffix, lowered⟩
    exact ⟨ending, suffix_of_suffix_append_cons (separator_not_mem lowered) suffix, lowered⟩
  · rintro ⟨ending, suffix, lowered⟩
    have inner := suffix.trans (List.suffix_cons '/' name.toList)
    exact ⟨ending, inner.trans (List.suffix_append lead _), lowered⟩

/-! ## Binary names -/

theorem binaryName_of_isText {name : String} (h : isText name = true) :
    ∃ stem ending, name.toList = stem ++ ending ∧ ending.map lowerChar = textSuffix.toList ∧
      binaryName name = String.ofList stem ++ binarySuffix := by
  obtain ⟨ending, ⟨stem, split⟩, lowered⟩ := (isText_iff name).mp h
  refine ⟨stem, ending, split.symm, lowered, ?_⟩
  have length : name.length - textSuffix.length = stem.length := by
    have same := congrArg List.length lowered
    rw [List.length_map, String.length_toList] at same
    rw [← String.length_toList, ← split, List.length_append, same, Nat.add_sub_cancel]
  rw [binaryName, h, if_pos rfl, length, ← split, List.take_left]

theorem lowerFrom_binarySuffix (before : List Char) :
    Lowercase.lowerFrom before binarySuffix.toList = binarySuffix.toList := rfl

theorem isText_append_binarySuffix (s : String) : isText (s ++ binarySuffix) = false := by
  obtain ⟨zs, h⟩ := Lowercase.lowerFrom_append [] s.toList binarySuffix.toList
  have lowered : (Lowercase.lower (s ++ binarySuffix)).toList = zs ++ binarySuffix.toList := by
    rw [Lowercase.lower, String.toList_ofList, String.toList_append, h, lowerFrom_binarySuffix]
  rw [isText, lowered, Bool.eq_false_iff]
  intro suffix
  have last := (List.isSuffixOf_iff_suffix.mp suffix).getLast (by decide)
  rw [List.getLast_append_of_ne_nil _ (by decide : binarySuffix.toList ≠ [])] at last
  exact absurd last (by decide)

theorem isText_binaryName (s : String) : isText (binaryName s) = false := by
  unfold binaryName
  split
  · exact isText_append_binarySuffix _
  · rename_i h
    exact Bool.eq_false_iff.mpr h

theorem binaryName_of_not_isText {s : String} (h : isText s = false) : binaryName s = s := by
  rw [binaryName, h]
  rfl

end Source

end CompileJob
