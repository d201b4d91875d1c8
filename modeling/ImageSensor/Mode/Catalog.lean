import ImageSensor.Mode
import ImageSensor.Mode.Programs

/-!
# The mode catalog

Modes are told apart by the place they stand at, so two entries with equal
modes are still two entries.  A requested size is served by the entry nearest
to it, the earliest of those that are equally near; a request for an exposure
scheme is served only by an exact match.
-/

namespace ImageSensor

/-- A mode together with its place. -/
structure Entry where
  place : Nat
  mode : Mode
deriving DecidableEq

namespace Catalog

/-!
# Entries
-/

/-- Ten bits at 60 frames per second, the mode the sensor starts in. -/
def first : Entry where
  place := 0
  mode :=
    { format := .sgrbg10
      width := 1280
      height := 1080
      interval := ⟨10000, 600000⟩
      lineLength := 0x0a68
      frameLength := 0x04b0
      exposure := 0x01f4
      program := Program.tenBits60
      hdr := .off
      channels := Vector.replicate padCount 0 }

/-- Ten bits at 117 frames per second. -/
def fast : Entry where
  place := 1
  mode :=
    { format := .sgrbg10
      width := 1280
      height := 1080
      interval := ⟨10000, 1170000⟩
      lineLength := 0x0a68
      frameLength := 0x04b0
      exposure := 0x01f4
      program := Program.tenBits117
      hdr := .off
      channels := Vector.replicate padCount 0 }

/-- Twelve bits at 30 frames per second. -/
def deep : Entry where
  place := 2
  mode :=
    { format := .sgrbg12
      width := 1280
      height := 1080
      interval := ⟨10000, 300000⟩
      lineLength := 0x0a68
      frameLength := 0x04b0
      exposure := 0x0052
      program := Program.twelveBits30
      hdr := .off
      channels := Vector.replicate padCount 0 }

/-- The entries behind the first. -/
def others : List Entry :=
  [fast, deep]

def entries : List Entry :=
  first :: others

/-!
# Selection
-/

/-- The nearest of an entry at a known distance and the entries behind it. -/
def nearest (width height : UInt32) :
    (best : Entry) -> (distance : UInt32) -> List Entry -> Checked Entry
  | best, _, [] => pure best
  | best, distance, entry :: rest => do
      let next <- entry.mode.distance width height
      if next < distance then
        nearest width height entry next rest
      else
        nearest width height best distance rest

/-- The entry nearest to a requested size. -/
def bestFit (width height : UInt32) : Checked Entry := do
  let distance <- first.mode.distance width height
  nearest width height first distance others

/-- The first entry of exactly this size and exposure scheme. -/
def find? (width height : UInt32) (hdr : Hdr) : Option Entry :=
  entries.find? fun entry =>
    decide (entry.mode.width = width ∧ entry.mode.height = height ∧
      entry.mode.hdr = hdr)

end Catalog
end ImageSensor
