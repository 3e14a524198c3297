import BroadcastGraphics.CommandLine

/-!
# The program `ograf-validate`

Reads the file that the arguments name and prints the report of the audit.
-/

namespace BroadcastGraphics
namespace CommandLine

/-- What stands under the path that the arguments name. -/
def readSource (path : String) : IO Source :=
  try
    return .text (<- IO.FS.readFile path)
  catch problem =>
    match problem with
    | .noFileOrDirectory _ _ _ => return .missing
    | .inappropriateType _ _ _ => return .unusable .isDirectory
    | _ => return .unusable .failed

end CommandLine
end BroadcastGraphics

open BroadcastGraphics in
/-- Audit the file that the arguments name. -/
def main (arguments : List String) : IO UInt32 := do
  let source <- match CommandLine.readArguments arguments with
    | .audit file _ => CommandLine.readSource (Path.normalized file)
    | _ => pure .missing
  match CommandLine.run arguments fun _ => source with
  | .ok ending =>
      IO.print ending.output
      if ending.status == 2 then
        IO.eprintln "usage: ograf-validate [-h] --in INPUT_FILE [--verbose]"
      return ending.status.toUInt32
  | .error fault =>
      IO.eprintln (fault.message?.getD "the input cannot be audited")
      return 1
