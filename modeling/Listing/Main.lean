import Listing.Console.Run

/-!
# The console program

Reads the arguments, the configuration file and the environment, runs, and prints. No
transport is built in, so no server is ever reached.
-/

namespace Listing

/-- The variables that settings can come from. -/
def settingVariables : List String :=
  ["CONSOLE_SERVER_URL", "APP__SERVER_URL", "APP__ARRAY_FORMAT", "APP__RESPONSE_ORDERING",
    "APP__LOG_FILTER"]

def readConfigFile (path : String) : IO ConfigFile := do
  try
    let content ← IO.FS.readBinFile path
    return .bytes content.toList
  catch
    | .noFileOrDirectory .. => return .missing
    | _ => return .unreadable

end Listing

open Listing in
def main (arguments : List String) : IO UInt32 := do
  let path := match Arguments.read arguments with
    | .ok a => a.config
    | .error _ => ""
  let file ← readConfigFile path
  let values ← settingVariables.mapM fun name => do return (name, ← IO.getEnv name)
  let surroundings : Surroundings := ⟨fun _ => file, fun name => (values.lookup name).join⟩
  let report := run arguments surroundings Network.unreachable
  IO.eprint report.errorText
  IO.print report.output
  return report.exitCode.toUInt32
