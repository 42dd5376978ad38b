import Daylight.Location

/-!
# The feed of fixes

A feed passes fixes on to callbacks. A subscriber gets every fix, once for each of its
subscriptions, in the order of the subscriptions. A one-shot request is for the next fix only; it
adds nothing for a callback that gets the fix anyway, as a subscriber or by another request. Passing
a fix on takes the one-shot requests with it, before any callback runs, so requests made by a
callback are for later fixes.
-/

namespace Daylight

/-- A feed with callbacks of type `κ`. -/
structure Feed (κ : Type) where
  /-- The last fix. -/
  last : Option Location
  /-- The callbacks for every fix. -/
  subscribers : List κ
  /-- The callbacks for the next fix. -/
  oneShots : List κ
  deriving DecidableEq

namespace Feed

variable {κ : Type}

/-- The feed that has passed on nothing. -/
def empty : Feed κ := ⟨none, [], []⟩

/-- Asks for every fix. -/
def requestUpdates (f : Feed κ) (callback : κ) : Feed κ :=
  { f with subscribers := f.subscribers ++ [callback] }

/-- Asks for the next fix. -/
def requestSingle (f : Feed κ) (callback : κ) : Feed κ :=
  { f with oneShots := f.oneShots ++ [callback] }

/-- The callbacks with one more, unless it is there. -/
def addNew [DecidableEq κ] (callbacks : List κ) (callback : κ) : List κ :=
  if callback ∈ callbacks then callbacks else callbacks ++ [callback]

/-- The callbacks that get the next fix, in their order. -/
def recipients [DecidableEq κ] (f : Feed κ) : List κ := f.oneShots.foldl addNew f.subscribers

/-- Records a fix and closes the one-shot requests; the answer is who gets the fix. -/
def push [DecidableEq κ] (f : Feed κ) (fix : Location) : Feed κ × List κ :=
  ({ f with last := some fix, oneShots := [] }, f.recipients)

end Feed

end Daylight
