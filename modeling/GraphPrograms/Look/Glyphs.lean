import GraphPrograms.Look.Basic
import GraphPrograms.Text.Basic

/-!
The marks that are drawn between texts.
-/

namespace GraphPrograms

structure Glyphs where
  bullet : Text
  arrow : Text
  separator : Text
  done : Text
  colored : Text
  uncolored : Text
  prompt : Text
deriving DecidableEq, Repr

namespace Glyphs

def ascii : Glyphs where
  bullet := "*".toList
  arrow := "->".toList
  separator := "|".toList
  done := "OK".toList
  colored := "*".toList
  uncolored := "o".toList
  prompt := ">".toList

def unicode : Glyphs where
  bullet := "•".toList
  arrow := "→".toList
  separator := "│".toList
  done := "✓".toList
  colored := "●".toList
  uncolored := "○".toList
  prompt := "▸".toList

end Glyphs

def Look.glyphs (look : Look) : Glyphs := if look.asciiOnly then .ascii else .unicode

end GraphPrograms
