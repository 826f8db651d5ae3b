import OpenApiGen.Cli.Run

/-!
The command line.
-/

namespace OpenApiGen.Cli

/-- The text of a file on the disk. -/
def readDisk (path : String) : IO (Except FileError String) := do
  match ← (IO.FS.readBinFile path).toBaseIO with
  | .ok bytes =>
    match String.fromUTF8? bytes with
    | some text => return .ok text
    | none => return .error .undecodable
  | .error (.noFileOrDirectory ..) => return .error .absent
  | .error (.inappropriateType ..) => return .error .directory
  | .error e => return .error (.other (toString e))

end OpenApiGen.Cli

open OpenApiGen.Cli in
/-- Answers the arguments. -/
def main (args : List String) : IO UInt32 := do
  let outcome ← Command.run readDisk args
  if let some (path, text) := outcome.written then IO.FS.writeFile path text
  IO.print outcome.stdout
  IO.eprint outcome.stderr
  return outcome.code.toUInt32
