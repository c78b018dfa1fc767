import LevelForge.Preview.Report
import LevelForge.Catalog.Bundled

/-!
# The preview program

Lists the bundled levels, or builds one of them and prints its picture. The program itself only
reads the command line and prints; it has neither a clock nor access to files, so it plays no
level of the day and takes no other directory.
-/

namespace LevelForge.Preview

/-- How the program is called. -/
def usageLine : String :=
  "usage: preview [--help] [--width WIDTH] [--seed SEED] [--structures] [level]"

/-- Any day: without a clock the program never plays the level of the day. -/
def anyDay : Day := ⟨2000, 1, 1, by decide, by decide, by decide⟩

/-- The number of segments after which a listing is given up. -/
def listingLimit : Nat := 100000

/-- The bytes that are granted to a picture. -/
def memoryLimit : Nat := 4294967296

/-- Print lines of complaint and end with an exit code. -/
def complain (lines : List String) (code : UInt32) : IO UInt32 := do
  lines.forM IO.eprintln
  return code

end LevelForge.Preview

open LevelForge Preview in
/-- The program. -/
def main (words : List String) : IO UInt32 := do
  match Options.parse words with
  | .error .help =>
    IO.println usageLine
    return 0
  | .error .usage => complain [usageLine, "error: bad arguments"] 2
  | .ok options =>
    if options.levelsDirectory.isSome then
      complain ["error: only the bundled levels can be shown"] 1
    else if options.daily then
      complain ["error: the day of the level of the day is not known"] 1
    else
      match Preview.run Catalog.bundled anyDay options memoryLimit listingLimit with
      | .error _ => complain ["error: the level cannot be shown"] 1
      | .ok report =>
        report.warnings.forM fun warning => IO.eprintln s!"warning: {warning.message}"
        report.output.forM IO.println
        complain report.complaints report.exitCode.toUInt32
