import Daylight.Setup
import Daylight.Web.Api

/-!
# Hosting

A service that is set up from the environment and answers requests. Hosted for its whole life, it is
started before the first request and stopped after the last one; else nobody runs its loop.
-/

namespace Daylight.Web

/-- Answers requests one after the other. -/
def respondAll (s : Service) : List Request → Service × Except Failure (List Response)
  | [] => (s, .ok [])
  | request :: requests =>
    match respond s request with
    | (s, .error e) => (s, .error e)
    | (s, .ok response) =>
      let (s, responses) := respondAll s requests
      (s, (response :: ·) <$> responses)

/-- What became of a hosted service. -/
structure Visit where
  /-- The answers to the requests. -/
  responses : List Response
  /-- Whether the loop was there during the requests. -/
  started : Bool
  /-- The service at the end. -/
  service : Service

/-- Sets a service up from the environment, answers requests, and starts and stops it around them if
it is hosted for its whole life. -/
def host (env : Config.Environment) (now : Moment) (wholeLife : Bool) (requests : List Request) :
    Except Failure Visit := do
  let config ← Config.ofEnvironment env
  let s ← Service.ofConfig config now
  let (s, begun) := if wholeLife then s.start else (s, .ok ())
  begun
  let started := s.owner.isRunning
  let (s, responses) := respondAll s requests
  return ⟨← responses, started, if wholeLife then s.stop .idle else s⟩

end Daylight.Web
