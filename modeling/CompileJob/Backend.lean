import CompileJob.Text.Lowercase
import CompileJob.Value.Access

namespace CompileJob

/-- The toolchains: a C compiler that makes object files, and an ahead-of-time compiler of binary
WebAssembly modules. -/
inductive Toolchain where
  | cc
  | wasmer
  deriving DecidableEq

namespace Toolchain

def name : Toolchain → String
  | .cc => "cc"
  | .wasmer => "wasmer"

def ofName? (name : String) : Option Toolchain :=
  if name = "cc" then some .cc else if name = "wasmer" then some .wasmer else none

end Toolchain

structure Backend where
  toolchain : Toolchain
  key : Value
  lang : Value
  compiler : Value
  options : Value
  subcommand : Value

namespace Backend

def ofToolchain : Toolchain → Backend
  | .cc => ⟨.cc, .str "cc", .str "c", .str "cc", .list [.str "-O2"], .null⟩
  | .wasmer => ⟨.wasmer, .str "wasmer", .str "wasm", .str "wasmer", .list [], .str "create-obj"⟩

end Backend

namespace Source

def textSuffix : String := ".wat"

def binarySuffix : String := ".wasm"

def isText (name : String) : Bool :=
  textSuffix.toList.isSuffixOf (Lowercase.lower name).toList

def binaryName (name : String) : String :=
  if isText name then
    String.ofList (name.toList.take (name.length - textSuffix.length)) ++ binarySuffix
  else name

def nameOf (v : Value) : Except Fault String :=
  match v with
  | .str s => .ok s
  | .bytes _ => .error .wrongType
  | _ => .error .unsupported

end Source

structure Filters where
  binary : Value := .bool false
  binaryObject : Value := .bool false

namespace Filters

def names : List String := ["binary", "binary_object"]

def ofValue (v : Value) : Except Fault Filters :=
  match v with
  | .object fields =>
      if fields.all fun (name, _) => names.contains name then
        .ok { binary := Table.getD fields "binary" (.bool false)
              binaryObject := Table.getD fields "binary_object" (.bool false) }
      else .error .wrongType
  | _ => .error .wrongType

def ofEnviron (environ : Value) : Except Fault Filters := do
  ofValue (← environ.field "filters" (.object []))

def toFields (f : Filters) : Fields :=
  [("binary", f.binary), ("binary_object", f.binaryObject)]

end Filters

namespace Backend

structure Groups where
  includes : Value
  libOptions : Value
  libPaths : Value
  libLinks : Value
  userOptions : Value
  staticLibs : Value

def Groups.flatten (g : Groups) : Except Fault (List Value) := do
  let lists ← [g.includes, g.libOptions, g.libPaths, g.libLinks, g.userOptions,
    g.staticLibs].mapM Value.elements
  return lists.flatten

def optionsForFilter (b : Backend) (filters : Filters) (output : Value) : List Value × Filters :=
  match b.toolchain with
  | .cc => ([.str "-c", .str "-o", output], { filters with binaryObject := .bool true })
  | .wasmer => ([.str "-o", output], { filters with binary := .bool true })

def orderArguments (b : Backend) (options input : Value) (groups : Groups) :
    Except Fault (List Value) := do
  let options ← options.elements
  let rest ← groups.flatten
  match b.toolchain with
  | .cc => return options ++ [input] ++ rest
  | .wasmer =>
      return [b.subcommand] ++ options ++ rest ++
        [.str (Source.binaryName (← Source.nameOf input))]

def outputSuffix : Toolchain → String
  | .cc => ".o"
  | .wasmer => ".obj"

def outputFilename (b : Backend) (dir base : Value) : Except Fault String := do
  return Path.join (← dir.string) (base.text ++ outputSuffix b.toolchain)

def libraryPathFlags (path : Value) : Except Fault (List Value) := do
  return [← path.prepend "-Wl,-rpath,", ← path.prepend "-L"]

def libraryPathArguments (b : Backend) (paths : Value) : Except Fault (List Value) :=
  match b.toolchain with
  | .cc => do return (← (← paths.elements).mapM libraryPathFlags).flatten
  | .wasmer => .ok []

end Backend

end CompileJob
