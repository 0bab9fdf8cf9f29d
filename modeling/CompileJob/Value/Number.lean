import CompileJob.Step
import CompileJob.Number.Decimal

namespace CompileJob.Value

namespace Number

def notFinite : Binary64.NotFinite → Fault
  | .nan => .badValue
  | .infinite => .outOfRange

def wholeNumber (r : Except Binary64.NotFinite Int) : Except Fault Int := r.mapError notFinite

def finiteOfInt (n : Int) : Except Fault Binary64 :=
  match Binary64.ofInt n with
  | .infinite _ => .error .outOfRange
  | x => .ok x

def toBinary64 : Number → Except Fault Binary64
  | .int n => finiteOfInt n
  | .float x => .ok x

def trunc : Number → Except Fault Int
  | .int n => .ok n
  | .float x => wholeNumber x.trunc

def toValue : Number → Value
  | .int n => .int n
  | .float x => .float x

def add : Number → Number → Except Fault Number
  | .int a, .int b => .ok (.int (a + b))
  | a, b => do return .float ((← a.toBinary64).add (← b.toBinary64))

def sub : Number → Number → Except Fault Number
  | .int a, .int b => .ok (.int (a - b))
  | a, b => do return .float ((← a.toBinary64).sub (← b.toBinary64))

end Number

def number (v : Value) : Except Fault Number := orFault .wrongType v.number?

def plus (a b : Value) : Except Fault Value := do
  return (← (← a.number).add (← b.number)).toValue

def minus (a b : Value) : Except Fault Value := do
  return (← (← a.number).sub (← b.number)).toValue

def integerText (v : Value) : Except Fault String := do
  return toString (← (← v.number).trunc)

def hundredths (v : Value) : Except Fault String := do
  return Decimal.hundredths (← (← v.number).toBinary64)

end CompileJob.Value
