import ImageSensor.Checked
import ImageSensor.Event

/-!
# Usage counts

A usage count says how many users need the device powered.  Each call answers
whether it crossed between no user and one, so that a host which powers up on
the one answer and down on the other is powered exactly while there are users.
-/

namespace ImageSensor

/-- The number of users. -/
structure UsageCount where
  count : UInt32
deriving DecidableEq

namespace UsageCount

def zero : UsageCount :=
  ⟨0⟩

/-- Adds a user.  Answers whether it is the first. -/
def get (u : UsageCount) : Checked (Bool × UsageCount) := do
  let count <- Checked.add u.count 1
  pure (count == 1, ⟨count⟩)

/-- Adds a user if there is one already.  Answers whether there was. -/
def getIfInUse (u : UsageCount) : Checked (Bool × UsageCount) :=
  if u.count = 0 then
    pure (false, u)
  else do
    let count <- Checked.add u.count 1
    pure (true, ⟨count⟩)

/-- Removes a user, if there is one.  Answers whether it was the last. -/
def put (u : UsageCount) : Bool × UsageCount :=
  if u.count = 0 then
    (false, u)
  else
    (u.count - 1 == 0, ⟨u.count - 1⟩)

/-- Removes a user, if there is one, and leaves the power as it is. -/
def putNoIdle (u : UsageCount) : UsageCount :=
  if u.count = 0 then u else ⟨u.count - 1⟩

/-- Performs a call.  The quiet removal has no answer. -/
def perform (u : UsageCount) : UsageCall -> Checked (Option Bool × UsageCount)
  | .get => do
      let (answer, next) <- u.get
      pure (some answer, next)
  | .getIfInUse => do
      let (answer, next) <- u.getIfInUse
      pure (some answer, next)
  | .put => pure (some u.put.1, u.put.2)
  | .putNoIdle => pure (none, u.putNoIdle)

end UsageCount
end ImageSensor
