import CompileJob.Number.Binary64

namespace CompileJob

abbrev Table (κ α : Type) := List (κ × α)

namespace Table

variable {κ α : Type} [BEq κ]

def find? (table : Table κ α) (key : κ) : Option α := (List.find? (·.1 == key) table).map (·.2)

def has (table : Table κ α) (key : κ) : Bool := table.any (·.1 == key)

def getD (table : Table κ α) (key : κ) (default : α) : α := (find? table key).getD default

/-- A key that is there keeps its place and form and takes the new value; another goes to the end. -/
def put (table : Table κ α) (key : κ) (value : α) : Table κ α :=
  match table with
  | [] => [(key, value)]
  | (k, v) :: rest => if k == key then (k, value) :: rest else (k, v) :: put rest key value

def putAll (table : Table κ α) (entries : Table κ α) : Table κ α :=
  entries.foldl (fun t (k, v) => put t k v) table

def erase (table : Table κ α) (key : κ) : Table κ α := table.filter fun (k, _) => !(k == key)

end Table

inductive Value where
  | null
  | bool (b : Bool)
  | int (n : Int)
  | float (x : Binary64)
  | str (s : String)
  | bytes (content : List UInt8)
  | list (items : List Value)
  | object (fields : List (String × Value))
  deriving Inhabited

abbrev Fields := Table String Value

namespace Value

def truthy : Value → Bool
  | .null => false
  | .bool b => b
  | .int n => n ≠ 0
  | .float x => !x.isZero
  | .str s => s ≠ ""
  | .bytes content => !content.isEmpty
  | .list items => !items.isEmpty
  | .object fields => !fields.isEmpty

def orElse (v : Value) (other : Value) : Value := if v.truthy then v else other

def isNull : Value → Bool
  | .null => true
  | _ => false

/-- A text lists its characters, bytes their numbers, an object its keys. -/
def elements? : Value → Option (List Value)
  | .str s => some (s.toList.map fun c => .str (String.singleton c))
  | .bytes content => some (content.map fun b => .int b.toNat)
  | .list items => some items
  | .object fields => some (fields.map fun (k, _) => .str k)
  | _ => none

inductive Number where
  | int (n : Int)
  | float (x : Binary64)

def number? : Value → Option Number
  | .bool b => some (.int b.toInt)
  | .int n => some (.int n)
  | .float x => some (.float x)
  | _ => none

namespace Number

def place : Number → Option Binary64.Place
  | .int n => some (.at (n * Binary64.unitsPerOne))
  | .float x => x.place

def lt (a b : Number) : Bool :=
  match a.place, b.place with
  | some p, some q => p.lt q
  | _, _ => false

def equal (a b : Number) : Bool :=
  match a.place, b.place with
  | some p, some q => p == q
  | _, _ => false

end Number

mutual

def equal : Value → Value → Bool
  | .null, .null => true
  | .str a, .str b => a == b
  | .bytes a, .bytes b => a == b
  | .list a, .list b => equalItems a b
  | .object a, .object b => a.length == b.length && equalFields a b
  | a, b =>
      match a.number?, b.number? with
      | some m, some n => m.equal n
      | _, _ => false

def equalItems : List Value → List Value → Bool
  | [], [] => true
  | v :: rest, w :: others => v.equal w && equalItems rest others
  | _, _ => false

def equalFields : List (String × Value) → List (String × Value) → Bool
  | [], _ => true
  | (k, v) :: rest, others =>
      (match others.lookup k with
      | some w => v.equal w
      | none => false) && equalFields rest others

end

instance : BEq Value := ⟨equal⟩

def isKey : Value → Bool
  | .list _ | .object _ => false
  | _ => true

/-- The order of texts and bytes is that of their codes; values of different kinds have none. -/
def lt? : Value → Value → Option Bool
  | .str a, .str b => some (a < b)
  | .bytes a, .bytes b => some (a.map UInt8.toNat < b.map UInt8.toNat)
  | a, b =>
      match a.number?, b.number? with
      | some m, some n => some (m.lt n)
      | _, _ => none

end Value

end CompileJob
