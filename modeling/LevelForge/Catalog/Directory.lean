import LevelForge.Catalog
import LevelForge.LevelFile

/-!
# Level directories

The catalog of a directory: every file in it named `.ldl` or `.dat` is a level, whose id is the name
of the file without this ending. Files are visited in ascending order of their names, so of two
files with one id the later one counts. Subdirectories and what they hold are passed over.
-/

namespace LevelForge.Catalog

/-- Split a file name before its last full stop, unless that is its first or last character. -/
def splitEnding (name : String) : String × String :=
  let chars := name.toList
  let ending := (chars.reverse.takeWhile (· != '.')).reverse
  let stem := chars.take (chars.length - ending.length - 1)
  if chars.contains '.' && !ending.isEmpty && !stem.isEmpty then
    (String.ofList stem, String.ofList ('.' :: ending))
  else (name, "")

/-- The endings of level files. -/
def levelEndings : List String := [".ldl", ".dat"]

/-- What a directory holds under a path. -/
inductive Entry where
  | file (bytes : ByteArray)
  | directory

/-- The name of what a path leads to, if that lies in the directory itself. A path into a
subdirectory has several parts; empty parts and single full stops lead nowhere. -/
def entryName? (path : String) : Option String :=
  match (path.splitOn "/").filter fun part => part != "" && part != "." with
  | [name] => some name
  | _ => none

/-- The catalog of a directory, given by all that it holds by paths. -/
def ofDirectory (contents : List (String × Entry)) : Except LevelFile.BadEncoding Catalog := do
  let entries := contents.filterMap fun held => (entryName? held.1).map fun name => (name, held.2)
  let sorted := entries.mergeSort fun a b => decide (a.1 ≤ b.1)
  let texts ← sorted.foldlM (fun (texts : Table String) entry =>
    match entry.2 with
    | .directory => .ok texts
    | .file bytes =>
      let (stem, ending) := splitEnding entry.1
      if levelEndings.contains ending then do
        return texts.insert stem (← LevelFile.decode bytes)
      else .ok texts) .empty
  return .ofTexts texts

end LevelForge.Catalog
