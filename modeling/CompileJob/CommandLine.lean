import CompileJob.Executor.Host
import CompileJob.Job
import CompileJob.Json.Writer

namespace CompileJob.CommandLine

open Bench

def usage (program : String) : String :=
  "Usage: " ++ program ++ " source [compiler [extra_compilation_args ...]]\n\n" ++
    "   The source path is relative to the current directory. Set\n" ++
    "   WASMWORKERS_WAT2WASM to compile .wat sources."

def compilerName (name : String) : String :=
  let lowered := Lowercase.lower name
  if ["wat", "wasm", "c"].contains lowered then "default-" ++ lowered else lowered

def environOf (source : String) (rest : List String) : Value :=
  .object ([("source_file", .str source),
      ("extra_compilation_args", .list ((rest.drop 1).map .str))] ++
    (rest.take 1).map fun name => ("compiler", .str (compilerName name)))

def main (argv : List String) : Step Bench Unit := do
  match argv with
  | [] => throw .noSuchItem
  | [program] =>
      onMachine (emit (.print (usage (Path.basename program))))
      throw (.exit 1)
  | _ :: source :: rest =>
      modify fun b => { b with machine := { b.machine with threadDir := .str b.machine.cwd } }
      Job.run none Executor.host (environOf source rest)
      onMachine (emit (.print (Json.write (← get).environ)))

end CompileJob.CommandLine
