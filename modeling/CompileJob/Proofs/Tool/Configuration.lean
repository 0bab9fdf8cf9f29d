import CompileJob.Description
import CompileJob.Proofs.Sorting
import CompileJob.Proofs.Step
import CompileJob.Proofs.Value.Texts
import CompileJob.Tool

namespace CompileJob

/-! ## Entries -/

def Value.Iterable : Value → Prop
  | .str _ | .bytes _ | .list _ | .object _ => True
  | _ => False

theorem Value.iterable_iff {v : Value} : v.Iterable ↔ ∃ items, v.elements? = some items := by
  cases v <;> simp [Iterable, elements?]

namespace ToolDescriptor

/-- An entry is the program itself, or an object that names it and may have options. -/
def WellFormed : Value → Prop
  | .object fields => (∃ exe, Table.find? fields "exe" = some exe) ∧
      ∀ options, Table.find? fields "options" = some options → options.Iterable
  | _ => True

def described (id : String) : Value → ToolDescriptor
  | .object fields => {
      id := .str id
      exe := Table.getD fields "exe" .null
      name := Table.getD fields "name" .null
      options := (Table.getD fields "options" (.list [])).elements?.getD [] }
  | exe => { id := .str id, exe, name := .null, options := [] }

def faultOf : Value → Fault
  | .object fields =>
      if (Table.find? fields "exe").isNone then .missingField (.str "exe") else .wrongType
  | _ => .wrongType

variable {id : String} {entry exe name options : Value} {items : List Value}

theorem make_of_iterable (id exe name : Value) (listed : options.elements? = some items) :
    make id exe name options = .ok ⟨id, exe, name, items⟩ := by
  rw [make, Value.elements, listed]
  rfl

theorem make_of_not_iterable (id exe name : Value) (other : ¬ options.Iterable) :
    make id exe name options = .error .wrongType := by
  have none : options.elements? = none := by
    rw [Option.eq_none_iff_forall_ne_some]
    exact fun items listed => other (Value.iterable_iff.mpr ⟨items, listed⟩)
  rw [make, Value.elements, none]
  rfl

theorem ofConfig_of_wellFormed (h : WellFormed entry) :
    ofConfig (.str id) entry = .ok (described id entry) := by
  cases entry with
  | object fields =>
    obtain ⟨⟨exe, named⟩, options⟩ := h
    have listed : (Table.getD fields "options" (.list [])).Iterable := by
      rw [Table.getD]
      cases given : Table.find? fields "options" with
      | none => trivial
      | some v => exact options v given
    obtain ⟨items, listed⟩ := Value.iterable_iff.mp listed
    simp only [ofConfig, Value.item, described, Table.getD, named] at listed ⊢
    rw [listed]
    exact make_of_iterable _ _ _ listed
  | _ => rfl

theorem ofConfig_of_not_wellFormed (h : ¬ WellFormed entry) :
    ofConfig (.str id) entry = .error (faultOf entry) := by
  cases entry with
  | object fields =>
    cases named : Table.find? fields "exe" with
    | none =>
      simp only [ofConfig, Value.item, faultOf, named]
      rfl
    | some exe =>
      have other : ¬ (Table.getD fields "options" (.list [])).Iterable := by
        intro iterable
        refine h ⟨⟨exe, named⟩, fun options given => ?_⟩
        rwa [Table.getD, given] at iterable
      simp only [ofConfig, Value.item, faultOf, named]
      exact make_of_not_iterable _ _ _ other
  | _ => exact absurd trivial h

end ToolDescriptor

namespace Registry

variable {executor : Executor} {env env' : Table String String} {listed listed' : Fields}
  {environ environ' : Value}

/-! ## The configuration as a map -/

def defaultConverter (env : Table String String) : Option String :=
  (Table.find? env "WASMWORKERS_WAT2WASM").filter (· ≠ "")

def configured (env : Table String String) (listed : Fields) (id : String) : Option Value :=
  match Table.find? listed id with
  | some entry => some entry
  | none => if id = "wat2wasm" then (defaultConverter env).map .str else none

def completed (env : Table String String) (listed : Fields) : Fields :=
  match Table.find? listed "wat2wasm", defaultConverter env with
  | none, some exe => listed ++ [("wat2wasm", .str exe)]
  | _, _ => listed

theorem not_mem_of_find?_eq_none {key : String} (absent : Table.find? listed key = none) :
    key ∉ listed.map (·.1) := by
  intro member
  obtain ⟨entry, inside, rfl⟩ := List.mem_map.mp member
  rw [Table.find?, Option.map_eq_none_iff, List.find?_eq_none] at absent
  exact absent entry inside (beq_self_eq_true entry.1)

theorem find?_append_of_absent {key : String} {entry : Value} (id : String)
    (absent : Table.find? listed key = none) :
    Table.find? (listed ++ [(key, entry)]) id =
      if key = id then some entry else Table.find? listed id := by
  rw [← Table.put_of_absent, Table.find?_put]
  · simp
  · intro other member
    apply beq_false_of_ne
    rintro rfl
    exact not_mem_of_find?_eq_none absent (List.mem_map_of_mem member)

theorem find?_completed (id : String) :
    Table.find? (completed env listed) id = configured env listed id := by
  unfold completed configured
  cases given : Table.find? listed "wat2wasm" with
  | some entry =>
    cases found : Table.find? listed id with
    | some other => rfl
    | none =>
      have other : id ≠ "wat2wasm" := by
        rintro rfl
        rw [given] at found
        cases found
      simp [other]
  | none =>
    cases defaultConverter env with
    | none => cases Table.find? listed id <;> simp
    | some exe =>
      rw [find?_append_of_absent id given]
      by_cases here : "wat2wasm" = id
      · subst here
        simp [given]
      · rw [if_neg here]
        cases Table.find? listed id <;> simp [Ne.symm here]

theorem completed_distinct (distinct : (listed.map (·.1)).Nodup) :
    ((completed env listed).map (·.1)).Nodup := by
  unfold completed
  split
  · rename_i exe given _
    rw [List.map_append, List.nodup_append]
    refine ⟨distinct, by simp, fun name member other here => ?_⟩
    obtain rfl := List.mem_singleton.mp here
    rintro rfl
    exact not_mem_of_find?_eq_none given member
  · exact distinct

theorem withDefaultConverter_keyed :
    withDefaultConverter env (Table.keyed listed) = Table.keyed (completed env listed) := by
  have here : Table.find? (Table.keyed listed) (.str converter) =
      Table.find? listed "wat2wasm" := Table.find?_keyed listed "wat2wasm"
  unfold withDefaultConverter completed defaultConverter
  rw [Table.has_eq, here, converterVariable]
  cases Table.find? env "WASMWORKERS_WAT2WASM" with
  | none => cases Table.find? listed "wat2wasm" <;> rfl
  | some exe =>
    cases given : Table.find? listed "wat2wasm" with
    | some entry => simp
    | none =>
      by_cases empty : exe = ""
      · simp [empty]
      · have named : exe.isEmpty = false := by simpa using empty
        simp only [named, empty, Option.isSome_none, Bool.or_self, Bool.false_eq_true, if_false,
          Option.filter_some, ne_eq, not_false_eq_true, decide_true, if_true]
        exact Table.put_keyed _ (not_mem_of_find?_eq_none given)

/-! ## The order of the entries -/

def precedes (a b : String × Value) : Bool := a.1 < b.1

theorem precedes_iff {a b : String × Value} : precedes a b = true ↔ a.1 < b.1 := decide_eq_true_iff

theorem ordered_of_distinct {fields : Fields} (distinct : (fields.map (·.1)).Nodup) :
    fields.Pairwise fun a b => precedes a b = true ∨ precedes b a = true := by
  refine (List.pairwise_map.mp distinct).imp fun {a b} apart => ?_
  rw [precedes_iff, precedes_iff]
  rcases Std.lt_trichotomy a.1 b.1 with before | same | after
  · exact Or.inl before
  · exact absurd same apart
  · exact Or.inr after

def arranged (env : Table String String) (listed : Fields) : Fields :=
  Sorting.insertAll precedes (completed env listed)

theorem sorted_keyed {fields : Fields} (distinct : (fields.map (·.1)).Nodup) :
    sorted (Table.keyed fields) = .ok (Table.keyed (Sorting.insertAll precedes fields)) := by
  have ordered : Sorting.ordered keyLt (Table.keyed fields) = true := by
    rw [Sorting.ordered_iff, Table.keyed, List.pairwise_map]
    exact ordered_of_distinct distinct
  have comparable : comparable (Table.keyed fields) = true := by
    cases fields with
    | nil => rfl
    | cons first rest => simp [comparable, Table.keyed, Value.lt?]
  rw [sorted, if_pos comparable, Sorting.sort, if_pos ordered, Table.keyed, Sorting.insertAll_map]
  rfl

theorem mem_arranged (distinct : (listed.map (·.1)).Nodup) {id : String} {entry : Value} :
    (id, entry) ∈ arranged env listed ↔ configured env listed id = some entry := by
  rw [arranged, (Sorting.insertAll_perm _ _).mem_iff,
    ← Table.find?_eq_some_iff (completed_distinct distinct), find?_completed]

theorem arranged_sorted (distinct : (listed.map (·.1)).Nodup) :
    (arranged env listed).Pairwise (·.1 < ·.1) := by
  have sorted : (arranged env listed).Pairwise (precedes · · = true) := by
    apply Sorting.insertAll_sorted
    · intro a b c before after
      rw [precedes_iff] at before after ⊢
      exact String.lt_trans before after
    · exact ordered_of_distinct (completed_distinct distinct)
  exact sorted.imp precedes_iff.mp

theorem arranged_congr (distinct : (listed.map (·.1)).Nodup) (distinct' : (listed'.map (·.1)).Nodup)
    (same : ∀ id, configured env listed id = configured env' listed' id) :
    arranged env listed = arranged env' listed' := by
  have sorted : (arranged env listed).Pairwise (·.1 < ·.1) := arranged_sorted distinct
  have sorted' : (arranged env' listed').Pairwise (·.1 < ·.1) := arranged_sorted distinct'
  have irrefl {a b : String × Value} (before : a.1 < b.1) : a ≠ b := by
    rintro rfl
    exact String.lt_irrefl _ before
  refine List.Perm.eq_of_pairwise ?_ sorted sorted' ?_
  · intro a b _ _ before after
    exact absurd after (String.lt_asymm before)
  · rw [List.perm_ext_iff_of_nodup (sorted.imp irrefl) (sorted'.imp irrefl)]
    rintro ⟨id, entry⟩
    rw [mem_arranged distinct, mem_arranged distinct', same]

/-! ## Tools for the entries -/

def toolOf (executor : Executor) (id : String) (entry : Value) : Tool :=
  ⟨.described id entry, executor⟩

def toolsOf (executor : Executor) (entries : Fields) : Table String Tool :=
  entries.map fun (id, entry) => (id, toolOf executor id entry)

def addEntry (executor : Executor) (registry : Registry) (entry : Value × Value) :
    Except Fault Registry := do
  registry.add ⟨← ToolDescriptor.ofConfig entry.1 entry.2, executor⟩

theorem addEntry_of_wellFormed {tools : Table String Tool} {id : String} {entry : Value}
    (wellFormed : ToolDescriptor.WellFormed entry) (fresh : id ∉ tools.map (·.1)) :
    addEntry executor ⟨Table.keyed tools⟩ (.str id, entry) =
      .ok ⟨Table.keyed (tools ++ [(id, toolOf executor id entry)])⟩ := by
  rw [addEntry, ToolDescriptor.ofConfig_of_wellFormed wellFormed]
  have id_eq : (ToolDescriptor.described id entry).id = .str id := by
    cases entry <;> rfl
  have key : (Value.str id).isKey = true := rfl
  change Registry.add _ _ = _
  rw [Registry.add, id_eq, if_pos key, Table.put_keyed _ fresh]
  rfl

theorem addEntries_of_wellFormed {tools : Table String Tool} {entries : Fields}
    (wellFormed : ∀ entry ∈ entries, ToolDescriptor.WellFormed entry.2)
    (distinct : (tools.map (·.1) ++ entries.map (·.1)).Nodup) :
    (Table.keyed entries).foldlM (addEntry executor) ⟨Table.keyed tools⟩ =
      .ok ⟨Table.keyed (tools ++ toolsOf executor entries)⟩ := by
  induction entries generalizing tools with
  | nil =>
    rw [toolsOf, List.map_nil, List.append_nil]
    rfl
  | cons first rest ih =>
    obtain ⟨id, entry⟩ := first
    obtain ⟨good, others⟩ := List.forall_mem_cons.mp wellFormed
    obtain ⟨-, -, apart⟩ := List.nodup_append.mp distinct
    have fresh : id ∉ tools.map (·.1) := fun member => apart id member id List.mem_cons_self rfl
    have added : addEntry executor _ (.str id, entry) = _ := addEntry_of_wellFormed good fresh
    change List.foldlM _ _ ((.str id, entry) :: Table.keyed rest) = _
    rw [List.foldlM_cons, added]
    refine (ih others ?_).trans ?_
    · simpa using distinct
    · simp [toolsOf]

theorem addEntries_of_fault {before after : Fields} {id : String} {entry : Value}
    (wellFormed : ∀ entry ∈ before, ToolDescriptor.WellFormed entry.2)
    (distinct : (before.map (·.1)).Nodup) (bad : ¬ ToolDescriptor.WellFormed entry) :
    (Table.keyed (before ++ (id, entry) :: after)).foldlM (addEntry executor) empty =
      .error (ToolDescriptor.faultOf entry) := by
  have first : (Table.keyed before).foldlM (addEntry executor) empty = _ :=
    @addEntries_of_wellFormed executor [] before wellFormed distinct
  have whole : Table.keyed (before ++ (id, entry) :: after) =
      Table.keyed before ++ (.str id, entry) :: Table.keyed after := List.map_append
  rw [whole, List.foldlM_append, first]
  change (addEntry executor _ (.str id, entry) >>= _) = _
  rw [addEntry, ToolDescriptor.ofConfig_of_not_wellFormed bad]
  rfl

theorem find?_toolsOf (executor : Executor) (entries : Fields) (id : String) :
    Table.find? (toolsOf executor entries) id =
      (Table.find? entries id).map (toolOf executor id) := by
  induction entries with
  | nil => rfl
  | cons first rest ih =>
    change Table.find? ((first.1, toolOf executor first.1 first.2) :: toolsOf executor rest) id = _
    rw [Table.find?_cons, Table.find?_cons, ih]
    by_cases here : first.1 = id
    · subst here
      simp
    · simp [here]

/-! ## The registry of a description -/

structure Configures (environ : Value) (listed : Fields) : Prop where
  object : ∃ fields, environ = .object fields
  tools : (environ.optional "tools").getD (.object []) = .object listed
  distinct : (listed.map (·.1)).Nodup

theorem Configures.ofEnviron_eq (h : Configures environ listed) :
    ofEnviron executor env environ =
      (Table.keyed (arranged env listed)).foldlM (addEntry executor) empty := by
  obtain ⟨⟨fields, rfl⟩, tools, distinct⟩ := h
  have given : (Value.object fields).field "tools" (.object []) = .ok (.object listed) :=
    congrArg Except.ok tools
  have sorted : sorted (Table.keyed (completed env listed)) =
      .ok (Table.keyed (arranged env listed)) :=
    sorted_keyed (completed_distinct distinct)
  unfold ofEnviron
  rw [given]
  change ofConfig executor (withDefaultConverter env (Table.keyed listed)) = _
  rw [withDefaultConverter_keyed, ofConfig, sorted]
  rfl

theorem names_toolsOf (executor : Executor) (entries : Fields) :
    (Table.keyed (toolsOf executor entries)).map (·.1) = (entries.map (·.1)).map .str := by
  simp [Table.keyed, toolsOf]

structure Provides (executor : Executor) (map : String → Option Value) (registry : Registry) :
    Prop where
  capabilities : ∀ key, key ∈ registry.tools.map (·.1) ↔ ∃ id, key = .str id ∧ (map id).isSome
  distinct : (registry.tools.map (·.1)).Nodup
  find : ∀ id, registry.find (.str id) = .ok ((map id).map (toolOf executor id))
  other : ∀ key, key.isKey = true → (∀ id, key ≠ .str id) → registry.find key = .ok none

theorem names_distinct (distinct : (listed.map (·.1)).Nodup) :
    ((arranged env listed).map (·.1)).Nodup := by
  rw [List.Nodup, List.pairwise_map]
  refine (arranged_sorted distinct).imp fun {a b} before same => ?_
  rw [same] at before
  exact String.lt_irrefl _ before

theorem find?_arranged (distinct : (listed.map (·.1)).Nodup) (id : String) :
    Table.find? (arranged env listed) id = configured env listed id := by
  apply Option.ext
  intro entry
  rw [Table.find?_eq_some_iff (names_distinct distinct), mem_arranged distinct]

theorem mem_names (distinct : (listed.map (·.1)).Nodup) {id : String} :
    id ∈ (arranged env listed).map (·.1) ↔ (configured env listed id).isSome := by
  rw [← find?_arranged distinct, ← Table.has_eq, Table.has, List.any_eq_true, List.mem_map]
  simp

theorem provides_toolsOf (distinct : (listed.map (·.1)).Nodup) :
    Provides executor (configured env listed)
      ⟨Table.keyed (toolsOf executor (arranged env listed))⟩ := by
  refine ⟨fun key => ?_, ?_, fun id => ?_, fun key hashable other => ?_⟩
  · rw [names_toolsOf, List.mem_map]
    simp only [mem_names distinct]
    exact ⟨fun ⟨id, named, same⟩ => ⟨id, same.symm, named⟩,
      fun ⟨id, same, named⟩ => ⟨id, named, same.symm⟩⟩
  · rw [names_toolsOf, List.Nodup, List.pairwise_map]
    exact (names_distinct distinct).imp fun {a b} apart same => apart (Value.str.inj same)
  · change Except.ok _ = _
    rw [Table.find?_keyed, find?_toolsOf, find?_arranged distinct]
  · rw [Registry.find, if_pos hashable, Table.find?_keyed_of_not_text _ other]

theorem Configures.ofEnviron_of_wellFormed (h : Configures environ listed)
    (wellFormed : ∀ id entry, configured env listed id = some entry →
      ToolDescriptor.WellFormed entry) :
    ∃ registry, ofEnviron executor env environ = .ok registry ∧
      Provides executor (configured env listed) registry := by
  refine ⟨_, ?_, provides_toolsOf h.distinct⟩
  rw [h.ofEnviron_eq]
  refine @addEntries_of_wellFormed executor [] _ ?_ (names_distinct h.distinct)
  rintro ⟨id, entry⟩ member
  exact wellFormed id entry ((mem_arranged h.distinct).mp member)

theorem exists_first_fault (distinct : (listed.map (·.1)).Nodup)
    (bad : ¬ ∀ id entry, configured env listed id = some entry → ToolDescriptor.WellFormed entry) :
    ∃ before id entry after, arranged env listed = before ++ (id, entry) :: after ∧
      (∀ e ∈ before, ToolDescriptor.WellFormed e.2) ∧ ¬ ToolDescriptor.WellFormed entry := by
  classical
  cases found : List.find? (fun e => ¬ ToolDescriptor.WellFormed e.2) (arranged env listed) with
  | none =>
    refine absurd (fun id entry given => ?_) bad
    have good := List.find?_eq_none.mp found (id, entry) ((mem_arranged distinct).mpr given)
    simpa using good
  | some first =>
    obtain ⟨bad, before, after, whole, good⟩ := List.find?_eq_some_iff_append.mp found
    refine ⟨before, first.1, first.2, after, whole, fun e member => ?_, of_decide_eq_true bad⟩
    simpa using good e member

theorem Configures.ofEnviron_of_fault (h : Configures environ listed)
    (bad : ¬ ∀ id entry, configured env listed id = some entry → ToolDescriptor.WellFormed entry) :
    ∃ id entry, configured env listed id = some entry ∧ ¬ ToolDescriptor.WellFormed entry ∧
      (∀ other < id, ∀ e, configured env listed other = some e → ToolDescriptor.WellFormed e) ∧
      ofEnviron executor env environ = .error (ToolDescriptor.faultOf entry) := by
  obtain ⟨before, id, entry, after, whole, good, bad⟩ := exists_first_fault h.distinct bad
  have sorted : (arranged env listed).Pairwise (·.1 < ·.1) := arranged_sorted h.distinct
  have names : ((arranged env listed).map (·.1)).Nodup := names_distinct h.distinct
  rw [whole] at sorted names
  have inside : (id, entry) ∈ arranged env listed := by simp [whole]
  refine ⟨id, entry, (mem_arranged h.distinct).mp inside, bad, fun other smaller e given => ?_, ?_⟩
  · have member := (mem_arranged h.distinct).mpr given
    rw [whole, List.mem_append, List.mem_cons] at member
    obtain ⟨-, rest, -⟩ := List.pairwise_append.mp sorted
    rcases member with first | same | later
    · exact good _ first
    · cases same
      exact absurd smaller (String.lt_irrefl _)
    · have larger := List.rel_of_pairwise_cons rest later
      exact absurd smaller (String.lt_asymm larger)
  · rw [h.ofEnviron_eq, whole]
    rw [List.map_append] at names
    exact addEntries_of_fault good (List.nodup_append.mp names).1 bad

theorem configured_congr (distinct : (listed.map (·.1)).Nodup)
    (distinct' : (listed'.map (·.1)).Nodup) (same : listed'.Perm listed) (id : String) :
    configured env listed' id = configured env listed id := by
  have found : Table.find? listed' id = Table.find? listed id := by
    apply Option.ext
    intro entry
    rw [Table.find?_eq_some_iff distinct', Table.find?_eq_some_iff distinct, same.mem_iff]
  rw [configured, found, configured]

theorem Configures.ofEnviron_congr (h : Configures environ listed)
    (h' : Configures environ' listed') (same : listed.Perm listed') :
    ofEnviron executor env environ = ofEnviron executor env environ' := by
  rw [h.ofEnviron_eq, h'.ofEnviron_eq, arranged_congr h.distinct h'.distinct]
  exact configured_congr h'.distinct h.distinct same

end Registry

end CompileJob
