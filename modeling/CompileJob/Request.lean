import CompileJob.Machine.Basic
import CompileJob.Value.Access

namespace CompileJob

structure Request where
  sourceFile : Value
  includes : Value
  libOptions : Value
  libPaths : Value
  libLinks : Value
  userOptions : Value
  staticLibLinks : Value
  outputFilebase : Value
  workingDir : Value

namespace Request

def defaultFilebase : Value := .str "output"

def group (environ : Value) (key : String) : Except Fault Value := do
  let v ← environ.field key .null
  return .list (← (v.orElse (.list [])).elements)

def ofEnviron (m : Machine) (environ : Value) : Except Fault Request := do
  let sourceFile ← environ.item "source_file"
  let includes ← group environ "includes"
  let libOptions ← group environ "lib_options"
  let libPaths ← group environ "lib_paths"
  let libLinks ← group environ "lib_links"
  let userOptions ← group environ "extra_compilation_args"
  let staticLibLinks ← group environ "static_lib_links"
  let outputFilebase ← environ.field "output_filebase" defaultFilebase
  let workingDir ← m.resolve (← environ.field "working_dir" .null)
  return { sourceFile, includes, libOptions, libPaths, libLinks, userOptions, staticLibLinks,
           outputFilebase, workingDir }

def names : List String :=
  ["source_file", "includes", "lib_options", "lib_paths", "lib_links", "user_options",
    "static_lib_links", "output_filebase", "working_dir"]

def ofFields (fields : Fields) : Except Fault Request :=
  match Table.find? fields "source_file" with
  | none => .error .wrongType
  | some sourceFile =>
      if fields.all fun (name, _) => names.contains name then
        let group (name : String) := Table.getD fields name (.list [])
        .ok {
          sourceFile
          includes := group "includes"
          libOptions := group "lib_options"
          libPaths := group "lib_paths"
          libLinks := group "lib_links"
          userOptions := group "user_options"
          staticLibLinks := group "static_lib_links"
          outputFilebase := Table.getD fields "output_filebase" defaultFilebase
          workingDir := Table.getD fields "working_dir" .null }
      else .error .wrongType

def toFields (r : Request) : Fields :=
  [("source_file", r.sourceFile), ("includes", r.includes), ("lib_options", r.libOptions),
    ("lib_paths", r.libPaths), ("lib_links", r.libLinks), ("user_options", r.userOptions),
    ("static_lib_links", r.staticLibLinks), ("output_filebase", r.outputFilebase),
    ("working_dir", r.workingDir)]

def inputFilename (r : Request) (m : Machine) : Except Fault Value :=
  Path.joinValues (r.workingDir.orElse m.here) r.sourceFile

end Request

end CompileJob
