import CompileJob.Backend
import CompileJob.Proofs.Path
import CompileJob.Proofs.Source

namespace CompileJob

open Lowercase

/-! ## Letters of the suffix -/

theorem toLower_of_not_capital {c : Char} (other : ¬ (65 ≤ c.toNat ∧ c.toNat ≤ 90)) :
    c.toLower = c := by
  unfold Char.toLower
  rw [dif_neg]
  exact fun upper => other upper

theorem Lowercase.capitals_of_ascii :
    ∀ r ∈ runs, r.first < 128 → r.first = 65 ∧ r.last = 90 := by
  decide +kernel

theorem Lowercase.lowerChar_of_ascii {c : Char} (ascii : c.toNat < 128) :
    lowerChar c = c.toLower := by
  by_cases capital : 65 ≤ c.toNat ∧ c.toNat ≤ 90
  · have table : ∀ n < 26, lowerChar (Char.ofNat (65 + n)) = (Char.ofNat (65 + n)).toLower := by
      decide +kernel
    have letter := table (c.toNat - 65) (by omega)
    rwa [Nat.add_sub_cancel' capital.1, Char.ofNat_toNat] at letter
  · have unlisted : runs.find? (·.covers c.toNat) = none := by
      refine List.find?_eq_none.mpr fun r member covers => capital ?_
      simp only [Run.covers, Bool.and_eq_true, decide_eq_true_eq] at covers
      obtain ⟨first, last⟩ := capitals_of_ascii r member (by omega)
      omega
    rw [lowerChar, unlisted, toLower_of_not_capital capital]

theorem Source.code_textSuffix {d : Char} (member : d ∈ textSuffix.toList) :
    d.toNat = 46 ∨ d.toNat = 119 ∨ d.toNat = 97 ∨ d.toNat = 116 := by
  have codes : textSuffix.toList.map Char.toNat = [46, 119, 97, 116] := by decide
  have listed : d.toNat ∈ [46, 119, 97, 116] := codes ▸ List.mem_map_of_mem member
  simpa using listed

/-- The runs of other scripts lead past the letters of the suffix, or between two of them. -/
theorem Lowercase.ascii_or_leads_elsewhere : ∀ r ∈ runs, r.last < 128 ∨
    119 < r.first + r.shift ∨ 97 < r.first + r.shift ∧ r.last + r.shift < 116 := by
  decide +kernel

theorem Lowercase.ascii_of_lowerChar {c : Char} (letter : lowerChar c ∈ Source.textSuffix.toList) :
    c.toNat < 128 := by
  have code := Source.code_textSuffix letter
  unfold lowerChar at code
  cases found : runs.find? (·.covers c.toNat) with
  | none =>
    rw [found] at code
    dsimp only at code
    omega
  | some r =>
    rw [found] at code
    dsimp only at code
    have leads := toNat_ofNat (c.toNat + r.shift).toNat
    have covers := List.find?_some found
    simp only [Run.covers, Bool.and_eq_true, decide_eq_true_eq] at covers
    have elsewhere := ascii_or_leads_elsewhere r (List.mem_of_find?_eq_some found)
    omega

theorem Lowercase.lowerChar_eq_iff {c d : Char} (letter : d ∈ Source.textSuffix.toList) :
    lowerChar c = d ↔ c.toLower = d := by
  by_cases ascii : c.toNat < 128
  · rw [lowerChar_of_ascii ascii]
  · constructor
    · rintro rfl
      exact absurd (ascii_of_lowerChar letter) ascii
    · rintro rfl
      rw [toLower_of_not_capital (by omega)] at letter
      have code := Source.code_textSuffix letter
      omega

/-! ## Names -/

namespace Source

variable {name stem ending : String}

def IsTextEnding (ending : String) : Prop := ending.toList.map Char.toLower = ['.', 'w', 'a', 't']

theorem map_lowerChar_eq_iff {letters : List Char} (listed : ∀ d ∈ letters, d ∈ textSuffix.toList)
    (xs : List Char) : xs.map lowerChar = letters ↔ xs.map Char.toLower = letters := by
  induction letters generalizing xs with
  | nil => simp
  | cons d rest ih =>
    obtain ⟨letter, others⟩ := List.forall_mem_cons.mp listed
    cases xs with
    | nil => simp
    | cons c xs => simp [lowerChar_eq_iff letter, ih others]

theorem isTextEnding_iff (ending : String) :
    IsTextEnding ending ↔ ending.toList.map lowerChar = textSuffix.toList :=
  (map_lowerChar_eq_iff (fun _ letter => letter) ending.toList).symm

theorem isText_iff_isTextEnding (name : String) :
    isText name = true ↔ ∃ stem ending, name = stem ++ ending ∧ IsTextEnding ending := by
  rw [isText_iff]
  constructor
  · rintro ⟨ending, ⟨stem, split⟩, lowered⟩
    refine ⟨String.ofList stem, String.ofList ending, ?_, ?_⟩
    · rw [← String.toList_inj, ← split, String.toList_append, String.toList_ofList,
        String.toList_ofList]
    · rwa [isTextEnding_iff, String.toList_ofList]
  · rintro ⟨stem, ending, rfl, lowered⟩
    refine ⟨ending.toList, ?_, (isTextEnding_iff ending).mp lowered⟩
    rw [String.toList_append]
    exact List.suffix_append _ _

theorem IsTextEnding.isText_append (h : IsTextEnding ending) (stem : String) :
    isText (stem ++ ending) = true :=
  (isText_iff_isTextEnding _).mpr ⟨stem, ending, rfl, h⟩

theorem IsTextEnding.length_eq (h : IsTextEnding ending) : ending.toList.length = 4 := by
  have same := congrArg List.length h
  rwa [List.length_map] at same

theorem IsTextEnding.binaryName_append (h : IsTextEnding ending) (stem : String) :
    binaryName (stem ++ ending) = stem ++ binarySuffix := by
  have length : (stem ++ ending).length - textSuffix.length = stem.toList.length := by
    rw [String.length_append, ← String.length_toList, ← String.length_toList, h.length_eq]
    exact Nat.add_sub_cancel stem.toList.length 4
  rw [binaryName, h.isText_append stem, if_pos rfl, length, String.toList_append, List.take_left,
    String.ofList_toList]

theorem binaryName_eq_self_iff (name : String) : binaryName name = name ↔ isText name = false := by
  constructor
  · intro same
    rw [← same, isText_binaryName]
  · exact binaryName_of_not_isText

theorem dirname_binaryName (name : String) : Path.dirname (binaryName name) = Path.dirname name := by
  cases text : isText name with
  | false => rw [binaryName_of_not_isText text]
  | true =>
    obtain ⟨stem, ending, rfl, lowered⟩ := (isText_iff_isTextEnding name).mp text
    rw [lowered.binaryName_append]
    exact Path.dirname_append stem (by decide)
      (separator_not_mem ((isTextEnding_iff ending).mp lowered))

/-! ## Paths of a job -/

theorem ne_of_suffix {object : String} (object_suffix : ['.', 'o', 'b', 'j'] <:+ object.toList)
    (text : isText name = true) : name ≠ object ∧ binaryName name ≠ object := by
  obtain ⟨stem, ending, rfl, lowered⟩ := (isText_iff_isTextEnding name).mp text
  rw [lowered.binaryName_append]
  constructor
  · rintro rfl
    rw [String.toList_append] at object_suffix
    have same := (List.suffix_of_suffix_length_le object_suffix (List.suffix_append _ _)
      lowered.length_eq.ge).eq_of_length lowered.length_eq.symm
    rw [IsTextEnding, ← same] at lowered
    exact absurd lowered (by decide)
  · rintro rfl
    rw [String.toList_append] at object_suffix
    have inside := List.suffix_of_suffix_length_le object_suffix (List.suffix_append _ _)
      (by decide : 4 ≤ binarySuffix.toList.length)
    exact absurd inside (by decide)

theorem exists_outputFilename {b : Backend} (toolchain : b.toolchain = .wasmer) (dir : String)
    (base : Value) : ∃ output, b.outputFilename (.str dir) base = .ok output ∧
      ['.', 'o', 'b', 'j'] <:+ output.toList := by
  refine ⟨Path.join dir (base.text ++ ".obj"), ?_, ?_⟩
  · rw [Backend.outputFilename, toolchain]
    rfl
  · refine List.IsSuffix.trans ?_ (Path.suffix_join dir _)
    rw [String.toList_append]
    exact List.suffix_append _ _

/-- A name is that of a text module just when it ends in the ASCII letters of the suffix; its binary
form then has the binary suffix instead, in the same directory, and any other name is its own binary
form. What is made of a text module is neither the module nor its binary form. -/
theorem paths_of_module (name : String) :
    (isText name = true ↔ ∃ stem ending, name = stem ++ ending ∧ IsTextEnding ending) ∧
    (∀ stem ending, name = stem ++ ending → IsTextEnding ending →
      binaryName name = stem ++ ".wasm") ∧
    (isText name = false → binaryName name = name) ∧
    isText (binaryName name) = false ∧
    binaryName (binaryName name) = binaryName name ∧
    (binaryName name ≠ name ↔ isText name = true) ∧
    Path.dirname (binaryName name) = Path.dirname name ∧
    (isText name = true → ∀ (b : Backend) (dir : String) (base : Value), b.toolchain = .wasmer →
      ∃ output, b.outputFilename (.str dir) base = .ok output ∧
        name ≠ binaryName name ∧ name ≠ output ∧ binaryName name ≠ output) := by
  refine ⟨isText_iff_isTextEnding name, ?_, binaryName_of_not_isText, isText_binaryName name,
    binaryName_of_not_isText (isText_binaryName name), ?_, dirname_binaryName name, ?_⟩
  · rintro stem ending rfl lowered
    exact lowered.binaryName_append stem
  · rw [Ne, binaryName_eq_self_iff, Bool.not_eq_false]
  · intro text b dir base toolchain
    obtain ⟨output, named, object⟩ := exists_outputFilename toolchain dir base
    obtain ⟨apart, apart'⟩ := ne_of_suffix object text
    refine ⟨output, named, ?_, apart, apart'⟩
    intro same
    rw [(binaryName_eq_self_iff name).mp same.symm] at text
    cases text

/-- Lowering this name makes it longer, and the suffix is found in it all the same. -/
example : (lower "İ.Wat").length = 6 ∧ isText "İ.Wat" = true ∧ binaryName "İ.Wat" = "İ.wasm" := by
  decide +kernel

end Source

end CompileJob
