import CompileJob.Proofs.Json.Text

namespace CompileJob.Json

/-- A value that JSON has a form of its own for. -/
inductive Native : Value → Prop
  | null : Native .null
  | bool (b : Bool) : Native (.bool b)
  | int (n : Int) : Native (.int n)
  | str (s : String) : Native (.str s)
  | list {items : List Value} (each : ∀ v ∈ items, Native v) : Native (.list items)
  | object {fields : Fields} (each : ∀ field ∈ fields, Native field.2) : Native (.object fields)

/-- What follows a value: nothing, the next one, or the end of what it is in. -/
inductive Ends : List Char → Prop
  | nothing : Ends []
  | comma (rest : List Char) : Ends (',' :: rest)
  | bracket (rest : List Char) : Ends (']' :: rest)
  | brace (rest : List Char) : Ends ('}' :: rest)

/-! ## Numbers -/

theorem isDigit_of_mem_toDigits {n : Nat} {c : Char} (member : c ∈ Nat.toDigits 10 n) :
    isDigit c = true :=
  Nat.isDigit_of_mem_toDigits (by decide) (by decide) member

theorem digitsValue_toDigits (n : Nat) : digitsValue (Nat.toDigits 10 n) = n := by
  have value := Nat.ofDigitChars_ten_toDigits (n := n)
  rw [Nat.ofDigitChars_eq_foldl] at value
  simpa [digitsValue, Nat.mul_comm] using value

section
variable {rest : List Char}

theorem Ends.takeWhile_isDigit (ends : Ends rest) : rest.takeWhile isDigit = [] := by
  cases ends <;> rfl

theorem Ends.dropWhile_isDigit (ends : Ends rest) : rest.dropWhile isDigit = rest := by
  cases ends <;> rfl

theorem Ends.readFraction (ends : Ends rest) : readFraction rest = some ([], rest) := by
  cases ends <;> rfl

theorem Ends.readExponent (ends : Ends rest) : readExponent rest = some (none, rest) := by
  cases ends <;> rfl

end

theorem exists_toDigits_eq_cons (n : Nat) :
    ∃ c digits, Nat.toDigits 10 n = c :: digits ∧ isDigit c = true := by
  cases written : Nat.toDigits 10 n with
  | nil => exact absurd written Nat.toDigits_ne_nil
  | cons c digits =>
    refine ⟨c, digits, rfl, isDigit_of_mem_toDigits (n := n) ?_⟩
    rw [written]
    exact List.mem_cons_self

theorem toList_negSucc (m : Nat) :
    (toString (Int.negSucc m)).toList = '-' :: Nat.toDigits 10 (m + 1) := by
  change ("-" ++ (m + 1).repr).toList = _
  simp

theorem readNumber_int (n : Int) {rest : List Char} (ends : Ends rest) :
    readNumber ((toString n).toList ++ rest) = some (.int n, rest) := by
  have taken (m : Nat) : (Nat.toDigits 10 m ++ rest).takeWhile isDigit = Nat.toDigits 10 m := by
    rw [List.takeWhile_append_of_pos fun c => isDigit_of_mem_toDigits, ends.takeWhile_isDigit,
      List.append_nil]
  have dropped (m : Nat) : (Nat.toDigits 10 m ++ rest).dropWhile isDigit = rest := by
    rw [List.dropWhile_append_of_pos fun c => isDigit_of_mem_toDigits, ends.dropWhile_isDigit]
  have some_digit (m : Nat) : (Nat.toDigits 10 m).isEmpty = false := by
    simp [Nat.toDigits_ne_nil]
  cases n with
  | ofNat m =>
    have written : (toString (Int.ofNat m)).toList = Nat.toDigits 10 m := Nat.toList_repr
    have unsigned (text : List Char) (signed : Nat.toDigits 10 m ++ rest = '-' :: text) : False := by
      obtain ⟨c, digits, start, digit⟩ := exists_toDigits_eq_cons m
      rw [start] at signed
      cases signed
      cases digit
    rw [written, readNumber]
    · simp [taken, dropped, some_digit, ends.readFraction, ends.readExponent, digitsValue_toDigits]
    · exact unsigned
  | negSucc m =>
    rw [toList_negSucc, List.cons_append, readNumber]
    simp [taken, dropped, some_digit, ends.readFraction, ends.readExponent, digitsValue_toDigits,
      Int.negSucc_eq]

/-! ## Values -/

theorem readValue_blank (fuel : Nat) (text : List Char) :
    readValue fuel (' ' :: text) = readValue fuel text := by
  cases fuel <;> rfl

theorem readItems_blank (fuel : Nat) (text : List Char) :
    readItems fuel (' ' :: text) = readItems fuel text := by
  cases fuel with
  | zero => rfl
  | succ fuel => rw [readItems, readItems, readValue_blank]

theorem readFields_blank (fuel : Nat) (text : List Char) :
    readFields fuel (' ' :: text) = readFields fuel text := by
  cases fuel <;> rfl

def ReadsBack (v : Value) : Prop :=
  ∀ fuel rest, Ends rest → (writeChars v).length < fuel →
    readValue fuel (writeChars v ++ rest) = some (v, rest)

theorem readsBack_of_succ {v : Value} (back : ∀ fuel rest, Ends rest →
    (writeChars v).length ≤ fuel → readValue (fuel + 1) (writeChars v ++ rest) = some (v, rest)) :
    ReadsBack v := by
  intro fuel rest ends long
  obtain ⟨fuel, rfl⟩ := Nat.exists_eq_succ_of_ne_zero (Nat.ne_zero_of_lt long)
  exact back fuel rest ends (Nat.le_of_lt_succ long)

theorem writeItems_cons_cons (v w : Value) (more : List Value) :
    writeItems (v :: w :: more) = writeChars v ++ ',' :: ' ' :: writeItems (w :: more) := rfl

theorem writeFields_singleton (key : String) (v : Value) :
    writeFields [(key, v)] = quote key.toList ++ ':' :: ' ' :: writeChars v := rfl

theorem writeFields_cons_cons (key : String) (v : Value) (field : String × Value)
    (more : Fields) : writeFields ((key, v) :: field :: more) =
      quote key.toList ++ ':' :: ' ' :: (writeChars v ++ ',' :: ' ' :: writeFields (field :: more)) :=
  rfl

def IsNumeral (c : Char) : Prop := c = '-' ∨ isDigit c = true

theorem IsNumeral.isBlank {c : Char} (numeral : IsNumeral c) : isBlank c = false := by
  cases blank : Json.isBlank c with
  | false => rfl
  | true =>
    simp only [Json.isBlank, Bool.or_eq_true, decide_eq_true_eq] at blank
    rcases blank with ((rfl | rfl) | rfl) | rfl <;> rcases numeral with start | start <;> cases start

theorem exists_toString_eq_cons (n : Int) :
    ∃ c text, (toString n).toList = c :: text ∧ IsNumeral c := by
  cases n with
  | ofNat m =>
    obtain ⟨c, digits, start, digit⟩ := exists_toDigits_eq_cons m
    exact ⟨c, digits, Nat.toList_repr.trans start, Or.inr digit⟩
  | negSucc m => exact ⟨'-', (m + 1).repr.toList, String.toList_append, Or.inl rfl⟩

theorem exists_writeChars_eq_cons {v : Value} (native : Native v) :
    ∃ c text, writeChars v = c :: text ∧ isBlank c = false ∧ c ≠ ']' := by
  cases native with
  | null => exact ⟨_, _, rfl, rfl, by decide⟩
  | bool b => cases b <;> exact ⟨_, _, rfl, rfl, by decide⟩
  | int n =>
    obtain ⟨c, text, written, numeral⟩ := exists_toString_eq_cons n
    refine ⟨c, text, written, numeral.isBlank, ?_⟩
    rintro rfl
    rcases numeral with start | start <;> cases start
  | str s => exact ⟨_, _, rfl, rfl, by decide⟩
  | list each => exact ⟨_, _, rfl, rfl, by decide⟩
  | object each => exact ⟨_, _, rfl, rfl, by decide⟩

theorem exists_writeItems_eq_cons {v : Value} (native : Native v) (others : List Value) :
    ∃ c text, writeItems (v :: others) = c :: text ∧ isBlank c = false ∧ c ≠ ']' := by
  obtain ⟨c, text, written, visible, further⟩ := exists_writeChars_eq_cons native
  cases others with
  | nil => exact ⟨c, text, written, visible, further⟩
  | cons w more =>
    refine ⟨c, text ++ ',' :: ' ' :: writeItems (w :: more), ?_, visible, further⟩
    rw [writeItems_cons_cons, written]
    rfl

theorem skipBlank_of_not_blank {c : Char} (visible : isBlank c = false) (text : List Char) :
    skipBlank (c :: text) = c :: text :=
  List.dropWhile_cons_of_neg (by simp [visible])

theorem readValue_number {c : Char} (numeral : IsNumeral c) (fuel : Nat) (text : List Char) :
    readValue (fuel + 1) (c :: text) = readNumber (c :: text) := by
  rw [readValue, skipBlank_of_not_blank numeral.isBlank]
  split
  case h_7 => rfl
  all_goals
    rename_i same
    cases same
    rcases numeral with start | start <;> cases start

theorem readsBack_int (n : Int) : ReadsBack (.int n) := by
  refine readsBack_of_succ fun fuel rest ends _ => ?_
  obtain ⟨c, text, written, numeral⟩ := exists_toString_eq_cons n
  rw [writeChars, written, List.cons_append, readValue_number numeral, ← List.cons_append,
    ← written, readNumber_int n ends]

theorem readItems_write {items : List Value} (nonempty : items ≠ [])
    (each : ∀ v ∈ items, ReadsBack v) (fuel : Nat) (rest : List Char)
    (long : (writeItems items).length + 1 < fuel) :
    readItems fuel (writeItems items ++ ']' :: rest) = some (items, rest) := by
  induction items generalizing fuel with
  | nil => exact absurd rfl nonempty
  | cons v others ih =>
    obtain ⟨fuel, rfl⟩ := Nat.exists_eq_succ_of_ne_zero (Nat.ne_zero_of_lt long)
    have first := each v List.mem_cons_self
    rw [readItems]
    cases others with
    | nil =>
      rw [writeItems] at long ⊢
      rw [first fuel _ (.bracket rest) (by omega)]
      rfl
    | cons w more =>
      have tail := ih (by simp) (fun v member => each v (List.mem_cons_of_mem _ member))
      rw [writeItems_cons_cons] at long ⊢
      simp only [List.length_append, List.length_cons, List.append_assoc, List.cons_append] at long ⊢
      rw [first fuel _ (.comma _) (by omega)]
      have others : readItems fuel (' ' :: (writeItems (w :: more) ++ ']' :: rest)) =
          some (w :: more, rest) := (readItems_blank _ _).trans (tail fuel (by omega))
      simp [skipBlank, isBlank, others]

theorem quote_append (text : List Char) (rest : List Char) :
    quote text ++ rest = '"' :: (text.flatMap escapeChar ++ '"' :: rest) := by
  simp [quote]

theorem readFields_last {key : String} {v : Value} {fuel : Nat} {text rest : List Char}
    (value : readValue fuel text = some (v, '}' :: rest)) :
    readFields (fuel + 1) (quote key.toList ++ ':' :: ' ' :: text) = some ([(key, v)], rest) := by
  rw [quote_append, readFields]
  simp [skipBlank, isBlank, readString_quote, readValue_blank, value]

theorem readFields_next {key : String} {v : Value} {others : Fields} {fuel : Nat}
    {text more rest : List Char} (value : readValue fuel text = some (v, ',' :: more))
    (read : readFields fuel more = some (others, rest)) :
    readFields (fuel + 1) (quote key.toList ++ ':' :: ' ' :: text) =
      some ((key, v) :: others, rest) := by
  rw [quote_append, readFields]
  simp [skipBlank, isBlank, readString_quote, readValue_blank, value, read]

theorem readFields_write {fields : Fields} (nonempty : fields ≠ [])
    (each : ∀ field ∈ fields, ReadsBack field.2) (fuel : Nat) (rest : List Char)
    (long : (writeFields fields).length + 1 < fuel) :
    readFields fuel (writeFields fields ++ '}' :: rest) = some (fields, rest) := by
  induction fields generalizing fuel with
  | nil => exact absurd rfl nonempty
  | cons field others ih =>
    obtain ⟨fuel, rfl⟩ := Nat.exists_eq_succ_of_ne_zero (Nat.ne_zero_of_lt long)
    obtain ⟨key, v⟩ := field
    have first : ReadsBack v := each (key, v) List.mem_cons_self
    cases others with
    | nil =>
      rw [writeFields_singleton] at long ⊢
      simp only [List.length_append, List.length_cons, List.append_assoc, List.cons_append] at long ⊢
      exact readFields_last (first fuel _ (.brace rest) (by omega))
    | cons field more =>
      have tail := ih (by simp) (fun v member => each v (List.mem_cons_of_mem _ member))
      rw [writeFields_cons_cons] at long ⊢
      simp only [List.length_append, List.length_cons, List.append_assoc, List.cons_append] at long ⊢
      have others : readFields fuel (' ' :: (writeFields (field :: more) ++ '}' :: rest)) =
          some (field :: more, rest) := (readFields_blank _ _).trans (tail fuel (by omega))
      exact readFields_next (first fuel _ (.comma _) (by omega)) others

theorem readValue_bracket {c : Char} (visible : isBlank c = false) (further : c ≠ ']') (fuel : Nat)
    (text : List Char) : readValue (fuel + 1) ('[' :: c :: text) =
      (readItems fuel (c :: text)).map fun (items, rest) => (.list items, rest) := by
  rw [readValue, skipBlank_of_not_blank rfl]
  simp only [skipBlank_of_not_blank visible]
  split
  · rename_i same
    cases same
    exact absurd rfl further
  · rfl

theorem readsBack_str (s : String) : ReadsBack (.str s) := by
  refine readsBack_of_succ fun fuel rest _ _ => ?_
  rw [writeChars, quote_append, readValue, skipBlank_of_not_blank rfl]
  simp only [readString_quote]
  rfl

theorem readsBack_list {items : List Value} (each : ∀ v ∈ items, Native v)
    (back : ∀ v ∈ items, ReadsBack v) : ReadsBack (.list items) := by
  refine readsBack_of_succ fun fuel rest _ long => ?_
  cases items with
  | nil => rfl
  | cons v others =>
    have fits : (writeItems (v :: others)).length + 1 + 1 ≤ fuel := by
      simpa [writeChars] using long
    have read := readItems_write (List.cons_ne_nil v others) back fuel rest fits
    obtain ⟨c, text, start, visible, further⟩ :=
      exists_writeItems_eq_cons (each v List.mem_cons_self) others
    rw [start, List.cons_append] at read
    rw [writeChars, start]
    simp only [List.cons_append, List.append_assoc, List.nil_append]
    rw [readValue_bracket visible further, read]
    rfl

theorem readsBack_object {fields : Fields} (back : ∀ field ∈ fields, ReadsBack field.2) :
    ReadsBack (.object fields) := by
  refine readsBack_of_succ fun fuel rest _ long => ?_
  cases fields with
  | nil => rfl
  | cons field others =>
    have fits : (writeFields (field :: others)).length + 1 + 1 ≤ fuel := by
      simpa [writeChars] using long
    have read := readFields_write (List.cons_ne_nil field others) back fuel rest fits
    obtain ⟨text, start⟩ : ∃ text, writeFields (field :: others) = '"' :: text := by
      cases others <;> exact ⟨_, rfl⟩
    rw [start, List.cons_append] at read
    rw [writeChars, start]
    simp only [List.cons_append, List.append_assoc, List.nil_append]
    rw [readValue, skipBlank_of_not_blank rfl]
    simp only [skipBlank_of_not_blank (show isBlank '"' = false from rfl), read]
    rfl

theorem readsBack {v : Value} (native : Native v) : ReadsBack v := by
  induction native with
  | null => exact readsBack_of_succ fun _ _ _ _ => rfl
  | bool b => cases b <;> exact readsBack_of_succ fun _ _ _ _ => rfl
  | int n => exact readsBack_int n
  | str s => exact readsBack_str s
  | list each back => exact readsBack_list each back
  | object _ back => exact readsBack_object back

/-! ## Whole texts -/

theorem graphic_int (n : Int) : Graphic (toString n).toList := by
  have digits (m : Nat) : Graphic (Nat.toDigits 10 m) := graphic_toDigits (by decide) (by decide) m
  cases n with
  | ofNat m => exact Nat.toList_repr ▸ digits m
  | negSucc m =>
    rw [toList_negSucc]
    exact List.forall_mem_cons.mpr ⟨by decide, digits _⟩

theorem graphic_writeItems {items : List Value} (each : ∀ v ∈ items, Graphic (writeChars v)) :
    Graphic (writeItems items) := by
  induction items with
  | nil => exact List.forall_mem_nil _
  | cons v others ih =>
    obtain ⟨first, rest⟩ := List.forall_mem_cons.mp each
    cases others with
    | nil => exact first
    | cons w more =>
      refine graphic_append.mpr ⟨first, List.forall_mem_cons.mpr ⟨by decide, ?_⟩⟩
      exact List.forall_mem_cons.mpr ⟨by decide, ih rest⟩

theorem graphic_writeFields {fields : Fields}
    (each : ∀ field ∈ fields, Graphic (writeChars field.2)) : Graphic (writeFields fields) := by
  induction fields with
  | nil => exact List.forall_mem_nil _
  | cons field others ih =>
    obtain ⟨key, v⟩ := field
    obtain ⟨first, rest⟩ := List.forall_mem_cons.mp each
    have blank {text : List Char} (graphic : Graphic text) : Graphic (' ' :: text) :=
      List.forall_mem_cons.mpr ⟨by decide, graphic⟩
    have keyed {text : List Char} (graphic : Graphic text) :
        Graphic (quote key.toList ++ ':' :: ' ' :: text) :=
      graphic_append.mpr ⟨graphic_quote _, List.forall_mem_cons.mpr ⟨by decide, blank graphic⟩⟩
    cases others with
    | nil => exact keyed first
    | cons field more =>
      have comma : Graphic (',' :: ' ' :: writeFields (field :: more)) :=
        List.forall_mem_cons.mpr ⟨by decide, blank (ih rest)⟩
      have value := graphic_append.mpr ⟨first, comma⟩
      exact keyed value

theorem graphic_writeChars {v : Value} (native : Native v) : Graphic (writeChars v) := by
  have enclosed {left right : Char} {text : List Char} (graphic : Graphic text)
      (left_ok : Value.isGraphicAscii left = true) (right_ok : Value.isGraphicAscii right = true) :
      Graphic (left :: (text ++ [right])) :=
    List.forall_mem_cons.mpr
      ⟨left_ok, graphic_append.mpr ⟨graphic, List.forall_mem_singleton.mpr right_ok⟩⟩
  induction native with
  | null => exact graphic_of_all rfl
  | bool b => cases b <;> exact graphic_of_all rfl
  | int n => exact graphic_int n
  | str s => exact graphic_quote s.toList
  | list each ih => exact enclosed (graphic_writeItems ih) rfl rfl
  | object each ih => exact enclosed (graphic_writeFields ih) rfl rfl

theorem graphic_write {v : Value} (native : Native v) : Graphic (write v).toList := by
  rw [write, String.toList_ofList]
  exact graphic_writeChars native

theorem read_write {v : Value} (native : Native v) : read (write v) = some v := by
  have written : (write v).toList = writeChars v := String.toList_ofList
  have back : readValue ((write v).length + 1) (write v).toList = some (v, []) := by
    rw [← String.length_toList, written]
    have whole := readsBack native ((writeChars v).length + 1) [] .nothing (Nat.lt_succ_self _)
    rwa [List.append_nil] at whole
  rw [read, back]
  rfl

example : write (.list [.str "é\n😀", .int (-7)]) = "[\"\\u00e9\\n\\ud83d\\ude00\", -7]" := by
  decide +kernel

end CompileJob.Json
