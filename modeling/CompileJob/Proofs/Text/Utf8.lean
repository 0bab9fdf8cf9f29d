import CompileJob.Proofs.Text.Reading
import CompileJob.Value.Access

/-!
What decoding gives is the one reading of the bytes: a sequence that is not finished covers just the
characters whose encodings begin with the bytes seen. So encoded text keeps its place among any other
bytes, and a cut inside it costs no more than the character that was cut.
-/
namespace CompileJob.Utf8

open String (utf8EncodeChar)

/-! ## The bytes of an encoding -/

def upperBits (code : Nat) : Nat → Nat
  | 0 => code
  | n + 1 => upperBits code n / 64

theorem exists_upperBits (bits n : Nat) : ∃ code, upperBits code n = bits := by
  induction n generalizing bits with
  | zero => exact ⟨bits, rfl⟩
  | succ n ih =>
    obtain ⟨code, upper⟩ := ih (bits * 64)
    refine ⟨code, ?_⟩
    rw [upperBits, upper]
    omega

def tailBytes : Nat → Nat → List UInt8
  | 0, _ => []
  | n + 1, code => UInt8.ofNat (upperBits code n % 64 + 0x80) :: tailBytes n code

theorem length_tailBytes (n code : Nat) : (tailBytes n code).length = n := by
  induction n with
  | zero => rfl
  | succ n ih => simp [tailBytes, ih]

theorem ofNat_eq_iff {b : UInt8} {n : Nat} (small : n < 256) : UInt8.ofNat n = b ↔ n = b.toNat := by
  rw [← UInt8.toNat_inj, UInt8.toNat_ofNat_of_lt' small]

theorem toNat_of_initial {b : UInt8} {n : Nat} {tail : List UInt8} (small : n < 256)
    (initial : [b] <+: UInt8.ofNat n :: tail) : n = b.toNat := by
  rw [List.cons_prefix_cons] at initial
  exact (ofNat_eq_iff small).mp initial.1.symm

inductive Encodes (code : Nat) : List UInt8 → Prop
  | one (high : code < 0x80) : Encodes code [UInt8.ofNat code]
  | two (low : 0x80 ≤ code) (high : code < 0x800) :
      Encodes code (UInt8.ofNat (code / 64 + 0xC0) :: tailBytes 1 code)
  | three (low : 0x800 ≤ code) (high : code < 0x10000) :
      Encodes code (UInt8.ofNat (code / 4096 + 0xE0) :: tailBytes 2 code)
  | four (low : 0x10000 ≤ code) (high : code < 0x110000) :
      Encodes code (UInt8.ofNat (code / 262144 + 0xF0) :: tailBytes 3 code)

theorem toNat_lt (c : Char) : c.toNat < 0x110000 := by
  have valid : c.toNat.isValidChar := c.valid
  unfold Nat.isValidChar at valid
  omega

theorem encodes_encodeChar (c : Char) : Encodes c.toNat (utf8EncodeChar c) := by
  have high := toNat_lt c
  unfold utf8EncodeChar
  change Encodes c.toNat (if c.toNat ≤ 0x7F then _ else if c.toNat ≤ 0x7FF then _ else
    if c.toNat ≤ 0xFFFF then _ else _)
  split
  · exact .one (by omega)
  split
  · have lead : c.toNat / 64 % 0x20 = c.toNat / 64 := by omega
    have form : Encodes c.toNat _ := .two (by omega) (by omega)
    simpa [tailBytes, upperBits, lead] using form
  split
  · have lead : c.toNat / 4096 % 0x10 = c.toNat / 4096 := by omega
    have form : Encodes c.toNat _ := .three (by omega) (by omega)
    simpa [tailBytes, upperBits, lead] using form
  · have lead : c.toNat / 262144 % 8 = c.toNat / 262144 := by omega
    have form : Encodes c.toNat _ := .four (by omega) (by omega)
    simpa [tailBytes, upperBits, lead, Nat.div_div_eq_div_mul] using form

/-! ## Unfinished sequences -/

def Pending.Covers (p : Pending) (code : Nat) : Prop :=
  p.code * 64 + (p.low - 0x80) ≤ upperBits code p.more ∧
    upperBits code p.more ≤ p.code * 64 + (p.high - 0x80)

/-- The sequence stands for the bytes seen: it covers the characters whose encodings begin with them,
and what is left of each is as long as it says. -/
structure Stands (seen : List UInt8) (p : Pending) : Prop where
  nonempty : seen ≠ []
  low : 0x80 ≤ p.low
  inhabited : p.low ≤ p.high
  high : p.high ≤ 0xBF
  covers : ∀ c : Char, seen <+: utf8EncodeChar c → p.Covers c.toNat
  encodes : ∀ code, p.Covers code →
    ∃ c : Char, c.toNat = code ∧ utf8EncodeChar c = seen ++ tailBytes (p.more + 1) code

theorem exists_toNat {code : Nat} (valid : code.isValidChar) : ∃ c : Char, c.toNat = code :=
  ⟨Char.ofNatAux code valid, rfl⟩

inductive Leads : Nat → Pending → Prop
  | two {b : Nat} (low : 0xC2 ≤ b) (high : b ≤ 0xDF) : Leads b ⟨0x80, 0xBF, 0, b - 0xC0⟩
  | threeLow : Leads 0xE0 ⟨0xA0, 0xBF, 1, 0⟩
  | threeMost {b : Nat} (low : 0xE1 ≤ b) (high : b ≤ 0xEF) (other : b ≠ 0xED) :
      Leads b ⟨0x80, 0xBF, 1, b - 0xE0⟩
  | threeSurrogates : Leads 0xED ⟨0x80, 0x9F, 1, 0xD⟩
  | fourLow : Leads 0xF0 ⟨0x90, 0xBF, 2, 0⟩
  | fourMost {b : Nat} (low : 0xF1 ≤ b) (high : b ≤ 0xF3) : Leads b ⟨0x80, 0xBF, 2, b - 0xF0⟩
  | fourHigh : Leads 0xF4 ⟨0x80, 0x8F, 2, 4⟩

theorem leads_of_lead? {b : Nat} {p : Pending} (h : lead? b = some p) : Leads b p := by
  unfold lead? at h
  split at h
  · cases h
    exact .two (by omega) (by omega)
  split at h
  · cases h
    subst b
    exact .threeLow
  split at h
  · cases h
    subst b
    exact .threeSurrogates
  split at h
  · cases h
    exact .threeMost (by omega) (by omega) (by omega)
  split at h
  · cases h
    subst b
    exact .fourLow
  split at h
  · cases h
    subst b
    exact .fourHigh
  split at h
  · cases h
    exact .fourMost (by omega) (by omega)
  · cases h

theorem Leads.tail {b : Nat} {p : Pending} (h : Leads b p) :
    0x80 ≤ p.low ∧ p.low ≤ p.high ∧ p.high ≤ 0xBF := by
  cases h <;> simp

theorem Leads.first_ge {b : Nat} {p : Pending} (h : Leads b p) : 0x80 ≤ b := by
  cases h <;> omega

theorem Leads.covers_two {b code : Nat} {p : Pending} (h : Leads b p) (low : 0x80 ≤ code)
    (high : code < 0x800) (first : code / 64 + 0xC0 = b) : p.Covers code := by
  cases h <;> simp [Pending.Covers, upperBits] <;> omega

theorem Leads.covers_three {b : Nat} {p : Pending} (c : Char) (h : Leads b p)
    (low : 0x800 ≤ c.toNat) (high : c.toNat < 0x10000) (first : c.toNat / 4096 + 0xE0 = b) :
    p.Covers c.toNat := by
  have valid : c.toNat.isValidChar := c.valid
  unfold Nat.isValidChar at valid
  cases h <;> simp [Pending.Covers, upperBits] <;> omega

theorem Leads.covers_four {b code : Nat} {p : Pending} (h : Leads b p) (low : 0x10000 ≤ code)
    (high : code < 0x110000) (first : code / 262144 + 0xF0 = b) : p.Covers code := by
  cases h <;> simp [Pending.Covers, upperBits] <;> omega

theorem Leads.valid {b code : Nat} {p : Pending} (h : Leads b p) (covered : p.Covers code) :
    code.isValidChar := by
  unfold Nat.isValidChar
  cases h <;> simp [Pending.Covers, upperBits] at covered <;> omega

theorem Leads.not_covers_of_small {b code : Nat} {p : Pending} (h : Leads b p)
    (high : code < 0x80) : ¬ p.Covers code := by
  cases h <;> simp [Pending.Covers, upperBits] <;> omega

theorem Leads.two_of_covers {b code : Nat} {p : Pending} (h : Leads b p) (high : code < 0x800)
    (covered : p.Covers code) : p.more = 0 ∧ code / 64 + 0xC0 = b := by
  cases h <;> simp [Pending.Covers, upperBits] at covered ⊢ <;> omega

theorem Leads.three_of_covers {b code : Nat} {p : Pending} (h : Leads b p) (low : 0x800 ≤ code)
    (high : code < 0x10000) (covered : p.Covers code) : p.more = 1 ∧ code / 4096 + 0xE0 = b := by
  cases h <;> simp [Pending.Covers, upperBits] at covered ⊢ <;> omega

theorem Leads.four_of_covers {b code : Nat} {p : Pending} (h : Leads b p) (low : 0x10000 ≤ code)
    (covered : p.Covers code) : p.more = 2 ∧ code / 262144 + 0xF0 = b := by
  cases h <;> simp [Pending.Covers, upperBits] at covered ⊢ <;> omega

theorem Leads.covers {b : UInt8} {p : Pending} (h : Leads b.toNat p) (c : Char)
    (initial : [b] <+: utf8EncodeChar c) : p.Covers c.toNat := by
  have form := encodes_encodeChar c
  generalize utf8EncodeChar c = bytes at form initial
  cases form with
  | one high =>
    have same := toNat_of_initial (by omega) initial
    have large := h.first_ge
    omega
  | two low high => exact h.covers_two low high (toNat_of_initial (by omega) initial)
  | three low high => exact h.covers_three c low high (toNat_of_initial (by omega) initial)
  | four low high => exact h.covers_four low high (toNat_of_initial (by omega) initial)

theorem Leads.encodes {b : UInt8} {p : Pending} {c : Char} (h : Leads b.toNat p)
    (covered : p.Covers c.toNat) :
    utf8EncodeChar c = b :: tailBytes (p.more + 1) c.toNat := by
  have form := encodes_encodeChar c
  generalize utf8EncodeChar c = bytes at form
  cases form with
  | one high => exact absurd covered (h.not_covers_of_small high)
  | two low high =>
    obtain ⟨more, first⟩ := h.two_of_covers high covered
    rw [more, (ofNat_eq_iff (by omega)).mpr first]
  | three low high =>
    obtain ⟨more, first⟩ := h.three_of_covers low high covered
    rw [more, (ofNat_eq_iff (by omega)).mpr first]
  | four low high =>
    obtain ⟨more, first⟩ := h.four_of_covers low covered
    rw [more, (ofNat_eq_iff (by omega)).mpr first]

theorem stands_lead {b : UInt8} {p : Pending} (h : lead? b.toNat = some p) : Stands [b] p := by
  have leads := leads_of_lead? h
  obtain ⟨low, inhabited, high⟩ := leads.tail
  refine ⟨List.cons_ne_nil _ _, low, inhabited, high, leads.covers, fun code covered => ?_⟩
  obtain ⟨c, rfl⟩ := exists_toNat (leads.valid covered)
  exact ⟨c, rfl, leads.encodes covered⟩

section
variable {seen rest : List UInt8} {p : Pending} {b : UInt8}

def Pending.next (p : Pending) (more : Nat) (b : UInt8) : Pending :=
  ⟨0x80, 0xBF, more, p.code * 64 + (b.toNat - 0x80)⟩

theorem Stands.exists_char (h : Stands seen p) :
    ∃ c : Char, p.Covers c.toNat ∧ utf8EncodeChar c = seen ++ tailBytes (p.more + 1) c.toNat := by
  have inhabited := h.inhabited
  obtain ⟨code, upper⟩ := exists_upperBits (p.code * 64 + (p.low - 0x80)) p.more
  have covered : p.Covers code := by
    unfold Pending.Covers
    omega
  obtain ⟨c, rfl, form⟩ := h.encodes code covered
  exact ⟨c, covered, form⟩

theorem Stands.encodes_char (h : Stands seen p) {c : Char} (covered : p.Covers c.toNat) :
    utf8EncodeChar c = seen ++ tailBytes (p.more + 1) c.toNat := by
  obtain ⟨d, code, form⟩ := h.encodes _ covered
  rw [Char.toNat_inj] at code
  rw [← code, form, code]

theorem Stands.prefix_iff (h : Stands seen p) (b : UInt8) (c : Char) :
    seen ++ [b] <+: utf8EncodeChar c ↔
      (p.low ≤ b.toNat ∧ b.toNat ≤ p.high) ∧
        upperBits c.toNat p.more = p.code * 64 + (b.toNat - 0x80) := by
  have low := h.low
  have inhabited := h.inhabited
  have high := h.high
  have byte (covered : p.Covers c.toNat) : seen ++ [b] <+: utf8EncodeChar c ↔
      upperBits c.toNat p.more % 64 + 0x80 = b.toNat := by
    rw [h.encodes_char covered, List.prefix_append_right_inj, tailBytes, List.cons_prefix_cons,
      eq_comm, ofNat_eq_iff (by omega)]
    simp
  constructor
  · intro initial
    have covered := h.covers c ((List.prefix_append seen [b]).trans initial)
    have next := (byte covered).mp initial
    obtain ⟨from_low, to_high⟩ := covered
    omega
  · rintro ⟨fits, bits⟩
    have covered : p.Covers c.toNat := by
      unfold Pending.Covers
      omega
    apply (byte covered).mpr
    omega

theorem Stands.next {more : Nat} (h : Stands seen p) (fits : p.low ≤ b.toNat ∧ b.toNat ≤ p.high)
    (longer : p.more = more + 1) : Stands (seen ++ [b]) (p.next more b) := by
  have low := h.low
  have high := h.high
  have bits (code : Nat) : (p.next more b).Covers code ↔
      upperBits code p.more = p.code * 64 + (b.toNat - 0x80) := by
    have shift : upperBits code p.more = upperBits code more / 64 := by rw [longer, upperBits]
    rw [shift]
    simp only [Pending.Covers, Pending.next]
    omega
  refine ⟨by simp, Nat.le_refl _, by simp [Pending.next], Nat.le_refl _, fun c initial => ?_,
    fun code covered => ?_⟩
  · exact (bits _).mpr ((h.prefix_iff b c).mp initial).2
  · have same := (bits code).mp covered
    have wider : p.Covers code := by
      unfold Pending.Covers
      omega
    obtain ⟨c, rfl, form⟩ := h.encodes code wider
    obtain ⟨after, split⟩ := (h.prefix_iff b c).mpr ⟨fits, same⟩
    refine ⟨c, rfl, ?_⟩
    have tail : [b] ++ after = tailBytes (p.more + 1) c.toNat := by
      rw [form, List.append_assoc] at split
      exact List.append_cancel_left split
    rw [longer, tailBytes, List.singleton_append, List.cons.injEq] at tail
    rw [← split, tail.2]
    rfl

theorem Stands.complete (h : Stands seen p) (fits : p.low ≤ b.toNat ∧ b.toNat ≤ p.high)
    (last : p.more = 0) :
    utf8EncodeChar (Char.ofNat (p.code * 64 + (b.toNat - 0x80))) = seen ++ [b] := by
  have low := h.low
  have covered : p.Covers (p.code * 64 + (b.toNat - 0x80)) := by
    simp only [Pending.Covers, last, upperBits]
    omega
  obtain ⟨c, code, form⟩ := h.encodes _ covered
  have initial := (h.prefix_iff b c).mpr ⟨fits, by simp [last, upperBits, code]⟩
  rw [← code, Char.ofNat_toNat]
  refine (initial.eq_of_length ?_).symm
  simp [form, last, length_tailBytes]

theorem Stands.begins (h : Stands seen p) : Begins seen := by
  obtain ⟨c, covered, form⟩ := h.exists_char
  exact ⟨c, form ▸ List.prefix_append _ _⟩

theorem Stands.no_char (h : Stands seen p) (c : Char) : ¬ utf8EncodeChar c <+: seen := by
  intro whole
  obtain ⟨d, covered, form⟩ := h.exists_char
  have initial : seen <+: utf8EncodeChar d := form ▸ List.prefix_append _ _
  obtain rfl : c = d := char_eq_of_prefix (whole.trans initial) List.prefix_rfl
  have shorter := whole.length_le
  rw [form, List.length_append, length_tailBytes] at shorter
  omega

theorem Stands.illFormed (h : Stands seen p)
    (ends : ∀ b after, rest = b :: after → ¬ Begins (seen ++ [b])) : IllFormed seen rest := by
  have cut {longer : List UInt8} (initial : longer <+: seen ++ rest)
      (length : seen.length < longer.length) : ¬ Begins longer := by
    intro begins
    cases rest with
    | nil =>
      have shorter := initial.length_le
      rw [List.append_nil] at shorter
      omega
    | cons b after =>
      apply ends b after rfl
      refine begins.of_prefix (List.prefix_of_prefix_length_le ?_ initial ?_)
      · exact ⟨after, by simp⟩
      · simp only [List.length_append, List.length_singleton]
        omega
  refine ⟨fun c whole => ?_, h.nonempty, Or.inr h.begins, fun longer => cut⟩
  rcases Nat.lt_or_ge seen.length (utf8EncodeChar c).length with longer | shorter
  · exact cut whole longer ⟨c, List.prefix_rfl⟩
  · exact h.no_char c (List.prefix_of_prefix_length_le whole (List.prefix_append _ _) shorter)

end

/-! ## Decoding -/

theorem encodeChar_of_ascii {b : UInt8} (ascii : b.toNat < 0x80) :
    utf8EncodeChar (Char.ofNat b.toNat) = [b] := by
  have valid : b.toNat.isValidChar := Or.inl (by omega)
  obtain ⟨c, code⟩ := exists_toNat valid
  rw [← code, Char.ofNat_toNat]
  have form := encodes_encodeChar c
  generalize utf8EncodeChar c = bytes at form
  cases form with
  | one high => rw [(ofNat_eq_iff (by omega)).mpr code]
  | two | three | four => omega

theorem lead?_of_begins {b : UInt8} (h : Begins [b]) (high : 0x80 ≤ b.toNat) :
    ∃ p, lead? b.toNat = some p := by
  obtain ⟨c, initial⟩ := h
  have form := encodes_encodeChar c
  generalize utf8EncodeChar c = bytes at form initial
  have range : 0xC2 ≤ b.toNat ∧ b.toNat ≤ 0xF4 := by
    cases form with
    | one | two | three | four =>
      have same := toNat_of_initial (by omega) initial
      omega
  unfold lead?
  repeat' split
  all_goals first | exact ⟨_, rfl⟩ | omega

theorem illFormed_of_not_begins {b : UInt8} (rest : List UInt8) (h : ¬ Begins [b]) :
    IllFormed [b] rest := by
  have none {bytes : List UInt8} (initial : bytes <+: [b] ++ rest) (nonempty : bytes ≠ []) :
      ¬ Begins bytes := by
    intro begins
    apply h
    refine begins.of_prefix (List.prefix_of_prefix_length_le (List.prefix_append _ _) initial ?_)
    exact List.length_pos_iff.mpr nonempty
  refine ⟨fun c whole => ?_, by simp, Or.inl rfl, fun longer initial length => none initial ?_⟩
  · exact none whole (encodeChar_ne_nil c) ⟨c, List.prefix_rfl⟩
  · exact List.length_pos_iff.mp (Nat.zero_lt_of_lt length)

theorem reads_decodeFrom (rest : List UInt8) :
    Reads rest (decodeFrom none rest) ∧
      ∀ seen p, Stands seen p → Reads (seen ++ rest) (decodeFrom (some p) rest) := by
  induction rest with
  | nil =>
    refine ⟨.done, fun seen p stands => ?_⟩
    exact .replaced (stands.illFormed nofun) .done
  | cons b rest ih =>
    obtain ⟨free, held⟩ := ih
    have anew : Reads (b :: rest) (decodeFrom none (b :: rest)) := by
      simp only [decodeFrom, step, start]
      split
      · rename_i ascii
        have read := Reads.char (Char.ofNat b.toNat) free
        rwa [encodeChar_of_ascii ascii] at read
      · rename_i high
        cases lead : lead? b.toNat with
        | some p => exact held [b] p (stands_lead lead)
        | none =>
          refine Reads.replaced (illFormed_of_not_begins rest fun begins => ?_) free
          obtain ⟨p, some⟩ := lead?_of_begins begins (by omega)
          rw [lead] at some
          cases some
    refine ⟨anew, fun seen p stands => ?_⟩
    by_cases fits : p.low ≤ b.toNat ∧ b.toNat ≤ p.high
    · cases longer : p.more with
      | zero =>
        have read := Reads.char (Char.ofNat (p.code * 64 + (b.toNat - 0x80))) free
        rw [stands.complete fits longer] at read
        simpa [decodeFrom, step, fits, longer] using read
      | succ more =>
        have read := held _ _ (stands.next fits longer)
        simpa [decodeFrom, step, fits, longer, Pending.next] using read
    · have illFormed : IllFormed seen (b :: rest) := by
        refine stands.illFormed fun b' after same => ?_
        cases same
        rintro ⟨c, initial⟩
        exact fits ((stands.prefix_iff b c).mp initial).1
      simpa [decodeFrom, step, fits] using Reads.replaced illFormed anew

theorem reads_iff {bytes : List UInt8} {text : List Char} :
    Reads bytes text ↔ text = decode bytes := by
  constructor
  · exact fun read => read.unique (reads_decodeFrom bytes).1
  · rintro rfl
    exact (reads_decodeFrom bytes).1

theorem reads_decode (bytes : List UInt8) : Reads bytes (decode bytes) := reads_iff.mpr rfl

theorem decode_encodeChar_append (c : Char) (bytes : List UInt8) :
    decode (utf8EncodeChar c ++ bytes) = c :: decode bytes :=
  (reads_iff.mp (.char c (reads_decode bytes))).symm

theorem encode_cons (c : Char) (s : List Char) : encode (c :: s) = utf8EncodeChar c ++ encode s :=
  List.flatMap_cons

theorem decode_encode_append (s : List Char) (bytes : List UInt8) :
    decode (encode s ++ bytes) = s ++ decode bytes := by
  induction s with
  | nil => rfl
  | cons c s ih =>
    rw [encode_cons, List.append_assoc, decode_encodeChar_append, ih, List.cons_append]

theorem decode_encode (s : List Char) : decode (encode s) = s := by
  simpa [decode, decodeFrom, flush] using decode_encode_append s []

theorem decode_append_encode (before after : List UInt8) {s : List Char} (nonempty : s ≠ []) :
    decode (before ++ encode s ++ after) = decode before ++ s ++ decode after := by
  obtain ⟨c, s, rfl⟩ := List.exists_cons_of_ne_nil nonempty
  obtain ⟨b, tail, form⟩ := List.exists_cons_of_ne_nil (encodeChar_ne_nil c)
  have split : utf8EncodeChar c = [] ++ b :: tail := form
  have first : b.IsUTF8FirstByte := (isFirstByte_iff split).mpr rfl
  have opens : encode (c :: s) ++ after = b :: (tail ++ (encode s ++ after)) := by
    simp [encode_cons, form]
  have read := (reads_decode before).append first (opens ▸ reads_decode (encode (c :: s) ++ after))
  rw [← opens, ← List.append_assoc, decode_encode_append, ← List.append_assoc] at read
  exact (reads_iff.mp read).symm

/-! ## Text that was cut -/

structure Longest (limit : Nat) (s p : List Char) : Prop where
  initial : p <+: s
  fits : (encode p).length ≤ limit
  longest : ∀ q, q <+: s → (encode q).length ≤ limit → q <+: p

theorem decode_cut {c : Char} {cut : List UInt8} (initial : cut <+: utf8EncodeChar c)
    (nonempty : cut ≠ []) (shorter : cut.length < (utf8EncodeChar c).length) :
    decode cut = [replacement] := by
  have illFormed : IllFormed cut [] := by
    refine ⟨fun d whole => ?_, nonempty, Or.inr ⟨c, initial⟩, fun longer part length _ => ?_⟩
    · rw [List.append_nil] at whole
      obtain rfl : d = c := char_eq_of_prefix (whole.trans initial) List.prefix_rfl
      exact absurd whole.length_le (Nat.not_le.mpr shorter)
    · rw [List.append_nil] at part
      exact absurd part.length_le (Nat.not_le.mpr length)
  have read := Reads.replaced illFormed .done
  rw [List.append_nil] at read
  exact (reads_iff.mp read).symm

theorem Longest.cons {limit : Nat} {s p : List Char} {c : Char} (h : Longest limit s p) :
    Longest ((utf8EncodeChar c).length + limit) (c :: s) (c :: p) := by
  refine ⟨(List.prefix_cons_inj c).mpr h.initial, ?_, fun q initial fits => ?_⟩
  · have fits := h.fits
    simp only [encode_cons, List.length_append]
    omega
  · rcases List.prefix_cons_iff.mp initial with rfl | ⟨rest, rfl, within⟩
    · exact List.nil_prefix
    · rw [encode_cons, List.length_append] at fits
      exact (List.prefix_cons_inj c).mpr (h.longest rest within (by omega))

theorem Longest.unique {limit : Nat} {s p q : List Char} (h : Longest limit s p)
    (h' : Longest limit s q) : p = q :=
  (h'.longest p h.initial h.fits).eq_of_length_le (h.longest q h'.initial h'.fits).length_le

theorem longest_nil {limit : Nat} {s : List Char} {c : Char}
    (short : limit < (utf8EncodeChar c).length) : Longest limit (c :: s) [] := by
  refine ⟨List.nil_prefix, Nat.zero_le _, fun q initial fits => ?_⟩
  rcases List.prefix_cons_iff.mp initial with rfl | ⟨rest, rfl, -⟩
  · exact List.prefix_rfl
  · rw [encode_cons, List.length_append] at fits
    omega

/-- What is left of a text of whose encoding so many bytes are kept: the characters that are still
there, and one replacement where only a part of the next one is. -/
def IsCut (limit : Nat) (s cut : List Char) : Prop :=
  ∃ p, Longest limit s p ∧
    cut = p ++ if (encode p).length < limit ∧ p ≠ s then [replacement] else []

theorem IsCut.eq_self {limit : Nat} {s cut : List Char} (h : IsCut limit s cut)
    (enough : (encode s).length ≤ limit) : cut = s := by
  obtain ⟨p, longest, rfl⟩ := h
  have whole : p = s := longest.initial.eq_of_length_le
    (longest.longest s List.prefix_rfl enough).length_le
  simp [whole]

theorem isCut_decode (limit : Nat) (s : List Char) :
    IsCut limit s (decode ((encode s).take limit)) := by
  induction s generalizing limit with
  | nil =>
    refine ⟨[], ⟨List.prefix_rfl, Nat.zero_le _, fun q initial _ => initial⟩, ?_⟩
    simp [encode, decode, decodeFrom, flush]
  | cons c s ih =>
    rcases Nat.lt_or_ge limit (utf8EncodeChar c).length with short | enough
    · refine ⟨[], longest_nil short, ?_⟩
      rw [encode_cons, List.take_append_of_le_length (Nat.le_of_lt short)]
      cases limit with
      | zero => simp [decode, decodeFrom, flush]
      | succ limit =>
        have nonempty : (utf8EncodeChar c).take (limit + 1) ≠ [] := by simp
        have shorter : ((utf8EncodeChar c).take (limit + 1)).length <
            (utf8EncodeChar c).length := by
          rw [List.length_take]
          omega
        rw [decode_cut (List.take_prefix _ _) nonempty shorter]
        simp [encode]
    · obtain ⟨limit, rfl⟩ := Nat.exists_eq_add_of_le enough
      obtain ⟨p, longest, cut⟩ := ih limit
      refine ⟨c :: p, longest.cons, ?_⟩
      rw [encode_cons, List.take_length_add_append, decode_encodeChar_append, cut]
      simp [encode_cons]

theorem IsCut.unique {limit : Nat} {s cut cut' : List Char} (h : IsCut limit s cut)
    (h' : IsCut limit s cut') : cut = cut' := by
  obtain ⟨p, longest, rfl⟩ := h
  obtain ⟨q, longest', rfl⟩ := h'
  rw [longest.unique longest']

/-! ## Bytes as text -/

def text (bytes : List UInt8) : String := String.ofList (decode bytes)

/-- Bytes are read as the one text that they stand for. Encoded text is read as itself whatever stands
around it, and what was read is encoded and read again without a change. -/
theorem decoded_keeps_text :
    (∀ bytes, (Value.bytes bytes).decoded = .str (text bytes) ∧
      ∀ chars, Reads bytes chars ↔ chars = (text bytes).toList) ∧
    (∀ before after s, s ≠ "" → (Value.bytes (before ++ encode s.toList ++ after)).decoded =
      .str (text before ++ s ++ text after)) ∧
    (∀ s, (Value.bytes (encode s.toList)).decoded = .str s) ∧
    (∀ bytes, (Value.bytes (encode (text bytes).toList)).decoded = (Value.bytes bytes).decoded) := by
  refine ⟨fun bytes => ⟨rfl, fun chars => ?_⟩, fun before after s nonempty => ?_, fun s => ?_,
    fun bytes => ?_⟩
  · rw [reads_iff, text, String.toList_ofList]
  · have kept := decode_append_encode before after (s := s.toList) (by simpa using nonempty)
    rw [Value.decoded, kept, text, text, String.ofList_append, String.ofList_append,
      String.ofList_toList]
  · simp [Value.decoded, decode_encode]
  · simp [Value.decoded, text, decode_encode]

theorem decoded_keeps_text_between :
    (Value.bytes ([0xF0, 0x9F] ++ encode "é€".toList ++ [0xED, 0xA0, 0x80])).decoded =
      .str "\uFFFDé€\uFFFD\uFFFD\uFFFD" :=
  decoded_keeps_text.2.1 [0xF0, 0x9F] [0xED, 0xA0, 0x80] "é€" (by decide)

end CompileJob.Utf8
