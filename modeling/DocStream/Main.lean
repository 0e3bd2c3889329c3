import DocStream.CommandLine

/-! The program: reads the files that the command line names, and the standard input where it stands
for one, before anything is done with them, and prints the outcome. -/

namespace DocStream.CommandLine

/-- The code of a file that should be a directory; it comes negated as well. -/
def notDirectoryCode : UInt32 := 20

def readFault : IO.Error → ReadFault
  | .noFileOrDirectory .. => .missing
  | .permissionDenied .. => .denied
  | .inappropriateType _ code _ =>
    if code = notDirectoryCode || code = 0 - notDirectoryCode then .notDirectory else .isDirectory
  | e => .other (toString e)

def readFile (path : String) : IO (Except ReadFault ByteArray) := do
  try return .ok (← IO.FS.readBinFile path)
  catch e => return .error (readFault e)

def readInput : IO (Except ReadFault ByteArray) := do
  try return .ok (← (← IO.getStdin).readBinToEnd)
  catch e => return .error (readFault e)

def filesOf (a : Arguments) : List String :=
  match a.config with
  | some name => [name, name ++ ".toml"]
  | none => []

def gather (a : Arguments) (path : String) : IO Sources := do
  let isInput := path = "-"
  let names := filesOf a ++ if isInput then [] else [path]
  let texts ← names.mapM fun name => do return (name, ← readFile name)
  return {
    file := fun name => (texts.lookup name).getD (.error .missing)
    input := ← if isInput then readInput else pure (.ok .empty) }

def sourcesFor (args : List String) : IO Sources :=
  match read args with
  | .ok { path := some path, listDialects := false, config, .. } => gather { config } path
  | _ => return { file := fun _ => .error .missing, input := .ok .empty }

end DocStream.CommandLine

open DocStream in
def main (args : List String) : IO UInt32 := do
  let outcome := CommandLine.run (← CommandLine.sourcesFor args) args
  (← IO.getStdout).putStr outcome.output
  (← IO.getStderr).putStr outcome.errors
  return outcome.code.toUInt32
