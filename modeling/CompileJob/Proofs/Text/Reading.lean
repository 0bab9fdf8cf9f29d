import CompileJob.Text.Utf8

namespace CompileJob.Utf8

open String (utf8EncodeChar)

def Begins (bytes : List UInt8) : Prop := ∃ c, bytes <+: utf8EncodeChar c

/-- No character is encoded here, and `part` is what is replaced: as many bytes as begin the encoding
of some character, or else a single byte. -/
structure IllFormed (part rest : List UInt8) : Prop where
  no_char : ∀ c, ¬ utf8EncodeChar c <+: part ++ rest
  nonempty : part ≠ []
  begins : part.length = 1 ∨ Begins part
  maximal : ∀ longer, longer <+: part ++ rest → part.length < longer.length → ¬ Begins longer

inductive Reads : List UInt8 → List Char → Prop
  | done : Reads [] []
  | char {bytes : List UInt8} {text : List Char} (c : Char) (rest : Reads bytes text) :
      Reads (utf8EncodeChar c ++ bytes) (c :: text)
  | replaced {part bytes : List UInt8} {text : List Char} (illFormed : IllFormed part bytes)
      (rest : Reads bytes text) : Reads (part ++ bytes) (replacement :: text)

/-! ## Encodings -/

theorem encodeChar_ne_nil (c : Char) : utf8EncodeChar c ≠ [] := by
  apply List.ne_nil_of_length_pos
  simp [c.utf8Size_pos]

theorem char_eq_of_prefix {c d : Char} {bytes : List UInt8} (h : utf8EncodeChar c <+: bytes)
    (h' : utf8EncodeChar d <+: bytes) : c = d := by
  obtain ⟨after, rfl⟩ := h
  obtain ⟨after', same⟩ := h'
  have decoded := ByteArray.utf8DecodeChar?_utf8EncodeChar_append (b := after.toByteArray) (c := c)
  have decoded' :=
    ByteArray.utf8DecodeChar?_utf8EncodeChar_append (b := after'.toByteArray) (c := d)
  rw [← List.toByteArray_append] at decoded decoded'
  rw [same, decoded] at decoded'
  exact Option.some.inj decoded'

theorem isFirstByte_iff {c : Char} {before after : List UInt8} {b : UInt8}
    (split : utf8EncodeChar c = before ++ b :: after) : b.IsUTF8FirstByte ↔ before = [] := by
  have bound : before.length < (utf8EncodeChar c).length := by simp [split]
  have here : (utf8EncodeChar c)[before.length] = b := by simp [split]
  rw [← here, UInt8.isUTF8FirstByte_getElem_utf8EncodeChar, List.length_eq_zero_iff]

theorem Begins.of_prefix {shorter bytes : List UInt8} (h : Begins bytes)
    (initial : shorter <+: bytes) : Begins shorter := by
  obtain ⟨c, whole⟩ := h
  exact ⟨c, initial.trans whole⟩

theorem Begins.eq_nil_of_isFirstByte {before after : List UInt8} {b : UInt8}
    (h : Begins (before ++ b :: after)) (first : b.IsUTF8FirstByte) : before = [] := by
  obtain ⟨c, more, whole⟩ := h
  have split : utf8EncodeChar c = before ++ b :: (after ++ more) := by simp [← whole]
  exact (isFirstByte_iff split).mp first

/-! ## Reading -/

theorem not_illFormed_encodeChar {c : Char} {part rest bytes : List UInt8}
    (same : part ++ rest = utf8EncodeChar c ++ bytes) : ¬ IllFormed part rest := by
  intro illFormed
  apply illFormed.no_char c
  rw [same]
  exact List.prefix_append _ _

theorem IllFormed.length_le {part part' rest rest' : List UInt8} (h : IllFormed part rest)
    (h' : IllFormed part' rest') (same : part ++ rest = part' ++ rest') :
    part'.length ≤ part.length := by
  refine Nat.not_lt.mp fun longer => ?_
  have nonempty := List.length_pos_iff.mpr h.nonempty
  rcases h'.begins with single | begins
  · omega
  · exact h.maximal part' (same ▸ List.prefix_append _ _) longer begins

theorem Reads.unique {bytes : List UInt8} {text text' : List Char} (h : Reads bytes text)
    (h' : Reads bytes text') : text = text' := by
  induction h generalizing text' with
  | done =>
    generalize nothing : ([] : List UInt8) = bytes at h'
    cases h' with
    | done => rfl
    | char c => exact absurd (List.append_eq_nil_iff.mp nothing.symm).1 (encodeChar_ne_nil c)
    | replaced illFormed =>
      exact absurd (List.append_eq_nil_iff.mp nothing.symm).1 illFormed.nonempty
  | @char bytes text c rest ih =>
    generalize whole : utf8EncodeChar c ++ bytes = read at h'
    cases h' with
    | done => exact absurd (List.append_eq_nil_iff.mp whole).1 (encodeChar_ne_nil c)
    | char d rest' =>
      obtain rfl : c = d := char_eq_of_prefix (List.prefix_append _ _) ⟨_, whole.symm⟩
      rw [ih (List.append_cancel_left whole ▸ rest')]
    | replaced illFormed => exact absurd illFormed (not_illFormed_encodeChar whole.symm)
  | @replaced part bytes text illFormed rest ih =>
    generalize whole : part ++ bytes = read at h'
    cases h' with
    | done => exact absurd (List.append_eq_nil_iff.mp whole).1 illFormed.nonempty
    | char d => exact absurd illFormed (not_illFormed_encodeChar whole)
    | replaced illFormed' rest' =>
      have length := Nat.le_antisymm (illFormed'.length_le illFormed whole.symm)
        (illFormed.length_le illFormed' whole)
      obtain ⟨rfl, rfl⟩ := List.append_inj whole length
      rw [ih rest']

theorem IllFormed.append {part rest more : List UInt8} {b : UInt8} (first : b.IsUTF8FirstByte)
    (h : IllFormed part rest) : IllFormed part (rest ++ b :: more) := by
  -- A longer beginning would have the first byte inside it.
  have inside {bytes : List UInt8} (initial : bytes <+: part ++ (rest ++ b :: more))
      (begins : Begins bytes) : bytes <+: part ++ rest := by
    rw [← List.append_assoc] at initial
    rcases List.prefix_or_prefix_of_prefix initial (List.prefix_append (part ++ rest) (b :: more))
      with shorter | longer
    · exact shorter
    · obtain ⟨after, rfl⟩ := longer
      rw [List.prefix_append_right_inj, List.prefix_cons_iff] at initial
      rcases initial with rfl | ⟨later, rfl, -⟩
      · simp
      · have nothing := begins.eq_nil_of_isFirstByte first
        exact absurd (List.append_eq_nil_iff.mp nothing).1 h.nonempty
  refine ⟨fun c whole => ?_, h.nonempty, h.begins, fun longer initial length begins => ?_⟩
  · exact h.no_char c (inside whole ⟨c, List.prefix_rfl⟩)
  · exact h.maximal longer (inside initial begins) length begins

theorem Reads.append {bytes more : List UInt8} {text later : List Char} {b : UInt8}
    (first : b.IsUTF8FirstByte) (h : Reads bytes text) (h' : Reads (b :: more) later) :
    Reads (bytes ++ b :: more) (text ++ later) := by
  induction h with
  | done => exact h'
  | char c rest ih =>
    rw [List.append_assoc]
    exact .char c ih
  | replaced illFormed rest ih =>
    rw [List.append_assoc]
    exact .replaced (illFormed.append first) ih

end CompileJob.Utf8
