import Daylight.Failure

/-!
# Actions in a row

Actions change a state and may fail. A list of actions is performed up to the first one that fails;
what was done until then stays done.
-/

namespace Daylight.Scenario

/-- Performs actions up to the first one that fails. -/
def performAll {σ α β : Type} (perform : σ → α → σ × Except Failure β) (s : σ) :
    List α → σ × Except Failure Unit
  | [] => (s, .ok ())
  | action :: actions =>
    match perform s action with
    | (s, .ok _) => performAll perform s actions
    | (s, .error e) => (s, .error e)

/-- What an action came to: its answer, and the state after it. -/
structure Episode (σ β : Type) where
  /-- The answer. -/
  answer : Except Failure β
  /-- The state after the action. -/
  state : σ

/-- Performs actions one after the other, whether they fail or not. -/
def play {σ α β : Type} (step : σ → α → Episode σ β) (s : σ) : List α → List (Episode σ β)
  | [] => []
  | action :: actions =>
    let episode := step s action
    episode :: play step episode.state actions

end Daylight.Scenario
