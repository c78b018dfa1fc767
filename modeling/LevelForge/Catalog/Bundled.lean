import LevelForge.Catalog
import LevelForge.Ldl.Document

/-!
# Bundled levels

The three levels that come with the engine, as documents and as the catalog of their texts: two
levels of an arcade group and one without an end.
-/

namespace LevelForge.Catalog

open Ldl in
/-- A directive of a bundled level. -/
def entry (d : Directive) (key value : String) : Item := .directive d ⟨key, value⟩

open Ldl in
/-- The first level of the arcade group. -/
def basicOne : Document :=
  [entry .alias "1" "Inanimate",
   entry .alias "2" "RektKiller",
   entry .alias "c" "DefaultCoin",
   entry .setting "GROUP" "Basic",
   entry .setting "DO_GAPS" "1",
   .block
     [["0", "0", "0", "0", "0"],
      ["0", "0", "c", "0", "0"],
      ["1", "1", "1", "1", "1"]],
   .block
     [["0", "2", "0"],
      ["1", "1", "1"]],
   .block
     [["0", "0", "0", "0", "c", "c"],
      ["0", "0", "0", "1", "1", "1"],
      ["1", "1", "1", "1", "1", "1"]]]

open Ldl in
/-- The second level of the arcade group, with a boss. -/
def basicTwo : Document :=
  [entry .alias "1" "Inanimate",
   entry .alias "b" "InanimateBox",
   entry .alias "e" "Enemy",
   entry .setting "GROUP" "Basic",
   entry .setting "SHUFFLE" "1",
   entry .setting "DO_GAPS" "1",
   entry .setting "SEED" "4711",
   entry .boss "AT30" "RektSmasher",
   .block
     [["0", "0", "e", "0"],
      ["1", "1", "1", "1"]],
   .block
     [["0", "b", "0", "0", "b"],
      ["1", "1", "1", "1", "1"]],
   .block
     [["0", "0", "0"],
      ["0", "b", "0"],
      ["1", "1", "1"]]]

open Ldl in
/-- The level without an end. -/
def endless : Document :=
  [entry .alias "1" "Inanimate",
   entry .alias "m" "MovingBox",
   entry .alias "e" "Enemy",
   entry .setting "INFINITE" "1",
   entry .setting "SHUFFLE" "1",
   entry .setting "DO_GAPS" "1",
   entry .setting "AUTO_COIN_SPAWN" "1",
   entry .boss "EVERY60" "RektSmasher",
   .block
     [["0", "0", "0", "0", "0", "0"],
      ["0", "0", "m", "0", "0", "0"],
      ["1", "1", "1", "1", "1", "1"]],
   .block
     [["0", "e", "0", "0"],
      ["1", "1", "1", "1"]],
   .block
     [["0", "0", "0", "0", "0"],
      ["0", "0", "0", "0", "e"],
      ["0", "0", "1", "1", "1"],
      ["1", "1", "1", "1", "1"]]]

/-- The catalog of the bundled levels. -/
def bundled : Catalog :=
  ofTexts (.ofList
    [("basic_1", basicOne.render), ("basic_2", basicTwo.render), ("endless", endless.render)])

end LevelForge.Catalog
