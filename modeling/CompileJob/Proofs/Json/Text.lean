import CompileJob.Json.Reader
import CompileJob.Json.Writer
import Mathlib.Tactic.SplitIfs

namespace CompileJob.Json

/-! ## Hexadecimal digits -/

theorem hexNumber?_concat (digits : List Char) (c : Char) :
    hexNumber? (digits ++ [c]) =
      (hexNumber? digits).bind fun n => (hexDigit? c).map (n * 16 + ·) := by
  simp [hexNumber?, List.foldlM_append]

theorem hexDigit?_digitChar {d : Nat} (small : d < 16) : hexDigit? d.digitChar = some d := by
  have all : ∀ d < 16, hexDigit? (Nat.digitChar d) = some d := by decide
  exact all d small

theorem hexNumber?_toDigits (n : Nat) : hexNumber? (Nat.toDigits 16 n) = some n := by
  induction n using Nat.base_induction 16 (by decide) with
  | single m small =>
    rw [Nat.toDigits_of_lt_base small]
    simp [hexNumber?, hexDigit?_digitChar small]
  | digit m k small positive ih =>
    rw [← Nat.toDigits_append_toDigits (by decide) positive small, Nat.toDigits_of_lt_base small,
      hexNumber?_concat, ih, Option.bind_some, hexDigit?_digitChar small, Option.map_some,
      Nat.mul_comm]

theorem hexNumber?_hexDigits (width n : Nat) : hexNumber? (Value.hexDigits width n) = some n := by
  have zeros (k : Nat) (digits : List Char) :
      hexNumber? (Decimal.zeros k ++ digits) = hexNumber? digits := by
    induction k with
    | zero => rfl
    | succ k ih => exact ih
  rw [Value.hexDigits, Decimal.padLeft, zeros, hexNumber?_toDigits]

theorem length_hexDigits {n : Nat} (fits : n < 0x10000) : (Value.hexDigits 4 n).length = 4 := by
  have short : (Nat.toDigits 16 n).length ≤ 4 :=
    (Nat.length_toDigits_le_iff (by decide) (by decide)).mpr (Nat.lt_of_lt_of_eq fits rfl)
  simp only [Value.hexDigits, Decimal.padLeft, Decimal.zeros, List.length_append,
    List.length_replicate]
  omega

/-! ## Units -/

def unitsOf (c : Char) : List Nat :=
  if c.toNat < 0x10000 then [c.toNat]
  else [0xD800 + (c.toNat - 0x10000) / 0x400, 0xDC00 + (c.toNat - 0x10000) % 0x400]

theorem toNat_valid (c : Char) : c.toNat < 0xD800 ∨ 0xDFFF < c.toNat ∧ c.toNat < 0x110000 := c.valid

theorem joinUnits_single {c : Char} (units : List Nat) :
    joinUnits (c.toNat :: units) = c :: joinUnits units := by
  have plain : (isHighSurrogate c.toNat || isLowSurrogate c.toNat) = false := by
    have valid := toNat_valid c
    simp only [isHighSurrogate, isLowSurrogate, Bool.or_eq_false_iff, Bool.and_eq_false_iff,
      decide_eq_false_iff_not]
    omega
  have alone : charOf c.toNat = c := by
    rw [charOf, plain]
    exact Char.ofNat_toNat c
  have low : isHighSurrogate c.toNat = false := (Bool.or_eq_false_iff.mp plain).1
  cases units with
  | nil => simp only [joinUnits, alone]
  | cons unit rest =>
    rw [joinUnits, low, alone]
    rfl

theorem joinUnits_unitsOf (c : Char) (units : List Nat) :
    joinUnits (unitsOf c ++ units) = c :: joinUnits units := by
  unfold unitsOf
  split
  · exact joinUnits_single units
  · rename_i large
    have valid := toNat_valid c
    have high : isHighSurrogate (0xD800 + (c.toNat - 0x10000) / 0x400) = true := by
      simp only [isHighSurrogate, Bool.and_eq_true, decide_eq_true_eq]
      omega
    have low : isLowSurrogate (0xDC00 + (c.toNat - 0x10000) % 0x400) = true := by
      simp only [isLowSurrogate, Bool.and_eq_true, decide_eq_true_eq]
      omega
    have code : 0x10000 + (0xD800 + (c.toNat - 0x10000) / 0x400 - 0xD800) * 0x400 +
        (0xDC00 + (c.toNat - 0x10000) % 0x400 - 0xDC00) = c.toNat := by
      omega
    rw [List.cons_append, List.singleton_append, joinUnits, high, low, code, Char.ofNat_toNat]
    rfl

theorem joinUnits_flatMap (text : List Char) : joinUnits (text.flatMap unitsOf) = text := by
  induction text with
  | nil => rfl
  | cons c rest ih => rw [List.flatMap_cons, joinUnits_unitsOf, ih]

/-! ## Escapes -/

/-- Reading a text that starts with these characters gives these units first. -/
def Spells (written : List Char) (units : List Nat) : Prop :=
  ∀ text, readUnits (written ++ text) =
    (readUnits text).map fun read => (units ++ read.1, read.2)

theorem Spells.append {first second : List Char} {units more : List Nat}
    (h : Spells first units) (h' : Spells second more) :
    Spells (first ++ second) (units ++ more) := by
  intro text
  rw [List.append_assoc, h, h', Option.map_map]
  simp [Function.comp_def]

theorem spells_unitText {unit : Nat} (fits : unit < 0x10000) : Spells (unitText unit) [unit] := by
  intro text
  obtain ⟨a, b, c, d, digits⟩ : ∃ a b c d, Value.hexDigits 4 unit = [a, b, c, d] := by
    have four := length_hexDigits fits
    match Value.hexDigits 4 unit, four with
    | [a, b, c, d], _ => exact ⟨a, b, c, d, rfl⟩
  have value : hexNumber? [a, b, c, d] = some unit := digits ▸ hexNumber?_hexDigits 4 unit
  rw [unitText, digits]
  simp only [List.cons_append, List.nil_append, readUnits, value]
  cases readUnits text <;> rfl

theorem spells_codeText (c : Char) : Spells (codeText c.toNat) (unitsOf c) := by
  have valid := toNat_valid c
  unfold codeText unitsOf
  split
  · exact spells_unitText (by omega)
  · exact (spells_unitText (by omega)).append (spells_unitText (by omega))

theorem spells_letter {c : Char} {code : Nat} (letter : letterEscape? c = some code) :
    Spells ['\\', c] [code] := by
  intro text
  have read : readUnits ('\\' :: c :: text) =
      (letterEscape? c).bind fun code => (readUnits text).map fun read =>
        (code :: read.1, read.2) := by
    unfold letterEscape? at letter
    split at letter
    case h_9 => cases letter
    all_goals cases read : readUnits text <;> simp [readUnits, letterEscape?, read]
  rw [List.cons_append, List.singleton_append, read, letter]
  rfl

theorem spells_self {c : Char} (graphic : Value.isGraphicAscii c = true) (quote : c ≠ '"')
    (backslash : c ≠ '\\') : Spells [c] [c.toNat] := by
  intro text
  have visible : ¬ c.toNat < 0x20 := by
    simp only [Value.isGraphicAscii, Bool.and_eq_true, decide_eq_true_eq] at graphic
    omega
  rw [List.singleton_append, readUnits]
  · cases readUnits text <;> simp [visible]
  all_goals simp [quote, backslash]

theorem spells_escapeChar (c : Char) : Spells (escapeChar c) (unitsOf c) := by
  have letter {letter same : Char} (eq : c = same) (escape : letterEscape? letter = some same.toNat)
      (small : same.toNat < 0x10000 := by decide) : Spells ['\\', letter] (unitsOf c) := by
    rw [eq, unitsOf, if_pos small]
    exact spells_letter escape
  unfold escapeChar
  split_ifs with quote backslash newline carriage tab backspace feed graphic
  · exact letter quote rfl
  · exact letter backslash rfl
  · exact letter newline rfl
  · exact letter carriage rfl
  · exact letter tab rfl
  · exact letter backspace rfl
  · exact letter feed rfl
  · have small : c.toNat < 0x10000 := by
      simp only [Value.isGraphicAscii, Bool.and_eq_true, decide_eq_true_eq] at graphic
      omega
    rw [unitsOf, if_pos small]
    exact spells_self graphic quote backslash
  · exact spells_codeText c

theorem spells_flatMap (text : List Char) :
    Spells (text.flatMap escapeChar) (text.flatMap unitsOf) := by
  induction text with
  | nil =>
    intro text
    simp
  | cons c rest ih => exact (spells_escapeChar c).append ih

theorem readString_quote (s : String) (rest : List Char) :
    readString (s.toList.flatMap escapeChar ++ '"' :: rest) = some (s, rest) := by
  rw [readString, spells_flatMap]
  simp [readUnits, joinUnits_flatMap]

/-! ## Printable ASCII -/

def Graphic (text : List Char) : Prop := ∀ c ∈ text, Value.isGraphicAscii c = true

theorem graphic_append {first second : List Char} :
    Graphic (first ++ second) ↔ Graphic first ∧ Graphic second := List.forall_mem_append

theorem graphic_of_all {text : List Char} (all : text.all Value.isGraphicAscii = true) :
    Graphic text := List.all_eq_true.mp all

theorem graphic_toDigits {base : Nat} (several : 1 < base) (known : base ≤ 16) (n : Nat) :
    Graphic (Nat.toDigits base n) := by
  have digit : ∀ d < 16, Value.isGraphicAscii (Nat.digitChar d) = true := by decide
  have single {d : Nat} (small : d < base) : Graphic (Nat.toDigits base d) := by
    rw [Nat.toDigits_of_lt_base small]
    exact List.forall_mem_singleton.mpr (digit d (Nat.lt_of_lt_of_le small known))
  induction n using Nat.base_induction base several with
  | single m small => exact single small
  | digit m k small positive ih =>
    rw [← Nat.toDigits_append_toDigits several positive small]
    exact graphic_append.mpr ⟨ih, single small⟩

theorem graphic_unitText (unit : Nat) : Graphic (unitText unit) := by
  have zeros (k : Nat) : Graphic (Decimal.zeros k) := by
    intro c member
    rw [List.eq_of_mem_replicate member]
    decide
  have digits : Graphic (Nat.toDigits 16 unit) := graphic_toDigits (by decide) (by decide) unit
  exact graphic_append.mpr ⟨graphic_of_all rfl, graphic_append.mpr ⟨zeros _, digits⟩⟩

theorem graphic_escapeChar (c : Char) : Graphic (escapeChar c) := by
  have letter {letter : Char} (graphic : Value.isGraphicAscii letter = true) :
      Graphic ['\\', letter] :=
    List.forall_mem_cons.mpr ⟨by decide, List.forall_mem_singleton.mpr graphic⟩
  unfold escapeChar
  split_ifs with _ _ _ _ _ _ _ graphic
  iterate 7
    · exact letter rfl
  · exact List.forall_mem_singleton.mpr graphic
  · unfold codeText
    split
    · exact graphic_unitText _
    · exact graphic_append.mpr ⟨graphic_unitText _, graphic_unitText _⟩

theorem graphic_quote (text : List Char) : Graphic (quote text) := by
  have escaped : Graphic (text.flatMap escapeChar) := by
    intro c member
    obtain ⟨source, -, member⟩ := List.mem_flatMap.mp member
    exact graphic_escapeChar source c member
  refine List.forall_mem_cons.mpr ⟨by decide, graphic_append.mpr ⟨escaped, ?_⟩⟩
  exact List.forall_mem_singleton.mpr (by decide)

end CompileJob.Json
