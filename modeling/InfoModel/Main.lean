/-
**The command.**

Runs the command on the files of the system.
-/

import InfoModel.CommandLine.Run

namespace InfoModel

/-- What the system reports on a file. -/
def FileFault.ofSystem (error : IO.Error) : FileFault :=
  match error with
  | .noFileOrDirectory .. => .notFound
  | .inappropriateType _ 20 _ => .notDirectory
  | .inappropriateType _ 21 _ => .isDirectory
  | error => .other (toString error)

/-- The files of the system. -/
def systemAccess : FileAccess IO where
  read path := do
    match ← (IO.FS.readBinFile path).toBaseIO with
    | .ok content =>
      match String.fromUTF8? content with
      | some text => return .ok text
      | none => return .error .notText
    | .error error => return .error (.ofSystem error)
  write path text := do
    match ← (IO.FS.writeFile path text).toBaseIO with
    | .ok () => return .ok ()
    | .error error => return .error (.ofSystem error)

end InfoModel

/-- Runs the command with the arguments of the system. -/
def main (arguments : List String) : IO UInt32 := do
  let outcome ← InfoModel.CommandLine.run InfoModel.systemAccess arguments
  for line in outcome.messages do
    IO.eprintln line
  IO.print outcome.output
  return outcome.exitCode
