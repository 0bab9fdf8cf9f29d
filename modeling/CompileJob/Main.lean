import CompileJob.CommandLine
import CompileJob.Description
import CompileJob.Json.Tagged

open CompileJob

def showEvent (out err : IO.FS.Stream) : Event → IO Unit
  | .print line => out.putStrLn line
  | .log level channel message => err.putStrLn (level.name ++ ":" ++ channel.name ++ ":" ++ message)
  | _ => return ()

def main (args : List String) : IO UInt32 := do
  let input ← (← IO.getStdin).readToEnd
  let out ← IO.getStdout
  let err ← IO.getStderr
  let description := if input.isEmpty then some (.object []) else Json.read input
  let described := description.map fun v => Machine.ofValue (Json.untag v)
  match described with
  | some (.ok machine) =>
      let (result, bench) := CommandLine.main ("wasm-compile" :: args)
        { machine := { machine with strictLog := false }, environ := .null, memory := {} }
      bench.machine.trace.forM (showEvent out err)
      match result with
      | .ok () => return 0
      | .error (.exit code) => return code.toNat.toUInt32
      | .error fault =>
          err.putStrLn (fault.message?.getD "a value of the wrong kind")
          return 1
  | _ =>
      err.putStrLn "standard input does not describe a machine"
      return 2
