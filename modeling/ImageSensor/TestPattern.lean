/-!
# Test patterns

The pictures the host may select in place of the scene, numbered from zero in
the order of the menu.
-/

namespace ImageSensor

inductive TestPattern where
  | disabled
  | colorBar1
  | colorBar2
  | colorBar3
  | colorBar4
deriving DecidableEq

namespace TestPattern

/-- The position in the menu. -/
def index : TestPattern -> UInt32
  | .disabled => 0
  | .colorBar1 => 1
  | .colorBar2 => 2
  | .colorBar3 => 3
  | .colorBar4 => 4

/-- The text in the menu. -/
def name : TestPattern -> String
  | .disabled => "Disabled"
  | .colorBar1 => "Vertical Color Bar Type 1"
  | .colorBar2 => "Vertical Color Bar Type 2"
  | .colorBar3 => "Vertical Color Bar Type 3"
  | .colorBar4 => "Vertical Color Bar Type 4"

/-- All patterns, in the order of the menu. -/
def all : List TestPattern :=
  [.disabled, .colorBar1, .colorBar2, .colorBar3, .colorBar4]

/-- The texts of the menu. -/
def menu : List String :=
  all.map name

/-- The pattern at a position of the menu. -/
def ofIndex? (index : UInt32) : Option TestPattern :=
  all[index.toNat]?

@[simp]
theorem ofIndex?_index (p : TestPattern) : ofIndex? p.index = some p := by
  cases p <;> rfl

end TestPattern
end ImageSensor
