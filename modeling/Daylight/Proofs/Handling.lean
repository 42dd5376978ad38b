import Daylight.Proofs.Cycle
import Daylight.Web.Api

/-!
# What is handled from outside

Fixes, changes of the time, callbacks of timers and requests come to a service from outside. Each of them is
handled in a few small steps: something is written into the log, a trigger is put on the queue, a fix is
passed on by the feed or taken as the last one, the alarm clock is set.

So a relation between services that holds across each of these steps, and can be chained, holds across all
that is handled from outside. Such a relation spans them (`Spanning`), and what it says of a fix, a request
or a callback need not be proved for each.
-/

namespace Daylight

/-- A relation between what a service is before and after that holds across the steps in which everything is
handled that comes from outside. -/
structure Spanning (R : Service → Service → Prop) : Prop where
  /-- Nothing need be done. -/
  refl : ∀ s, R s s
  /-- Steps can be chained. -/
  trans : ∀ {s s' s''}, R s s' → R s' s'' → R s s''
  /-- Something is logged. -/
  report : ∀ (s : Service) (entry : LogEntry), R s (s.report entry)
  /-- A trigger is put on the queue. -/
  submit : ∀ (s : Service) (trigger : Trigger), R s (s.submit trigger)
  /-- A fix is taken as the last one. -/
  remember : ∀ (s : Service) (fix : Location), R s (s.mapOwner (·.remember fix))
  /-- The feed passes a fix on. -/
  push : ∀ {s : Service} {f : Feed Unit} (fix : Location), s.owner.source = .feed f →
    R s (s.mapOwner fun t => { t with source := .feed (f.push fix).1 })
  /-- The one-shot requests of a device are closed. -/
  close : ∀ {s : Service} {last : Option Location} {waiting : Nat}, s.owner.source = .device last waiting →
    R s (s.mapOwner fun t => { t with source := .device last 0 })
  /-- The alarm clock is set. -/
  alarms : ∀ (s : Service) (alarms : Alarms), R s (s.mapOwner fun t => { t with alarms := alarms })

namespace Spanning

variable {R : Service → Service → Prop} (h : Spanning R)

include h

theorem onLocation (s : Service) (fix : Option Location) : R s (s.onLocation fix) := by
  unfold Service.onLocation
  cases fix.filter Tracker.isGood with
  | none => exact h.report s _
  | some fix =>
    have hnoted := fun entry => h.trans (h.report s entry) (h.remember _ fix)
    exact h.trans (hnoted _) (h.submit _ .locationChanged)

theorem handOver (s : Service) (fix : Location) (callbacks : List Unit) :
    R s (s.handOver fix callbacks) := by
  induction callbacks generalizing s with
  | nil => exact h.refl s
  | cons _ callbacks ih => exact h.trans (h.onLocation s (some fix)) (ih _)

theorem reportLocation (s : Service) (fix : Location) : R s (s.reportLocation fix) := by
  unfold Service.reportLocation
  cases hsource : s.owner.source with
  | feed f => exact h.trans (h.push fix hsource) (h.handOver _ fix _)
  | fixed location => exact h.onLocation s (some fix)
  | device last waiting => exact h.onLocation s (some fix)

theorem handSingle (s : Service) (fix : Location) : R s (s.handSingle fix).1 := by
  unfold Service.handSingle
  cases hsource : s.owner.source with
  | feed f => exact h.refl s
  | fixed location => exact h.refl s
  | device last waiting => exact h.trans (h.close hsource) (h.handOver _ fix _)

theorem fire (s : Service) (number : Option Int) : R s (s.fire number).1 := by
  unfold Service.fire
  cases s.owner.alarms with
  | manual pending =>
    cases pending with
    | none => exact h.refl s
    | some wanted => exact h.trans (h.alarms s (.manual none)) (h.submit _ .alarm)
  | timers clock =>
    dsimp only
    cases clock.place? (number.getD (-1)) with
    | none => exact h.refl s
    | some place =>
      have hfired := h.alarms s (.timers (clock.fire place).1)
      cases htask : (clock.fire place).2 with
      | none =>
        simp only [htask]
        exact hfired
      | some task =>
        simp only [htask]
        exact h.trans (h.trans hfired (h.report _ firedEntry)) (h.submit _ .alarm)

theorem schedule (s : Service) (wanted : Moment) : R s (s.schedule wanted).1 := by
  unfold Service.schedule
  cases s.owner.alarms with
  | manual pending => exact h.alarms s (.manual (some wanted))
  | timers clock =>
    dsimp only
    have hasked := h.alarms s (.timers (clock.schedule wanted s.owner.clock.now ()).1)
    split
    · exact hasked
    · exact h.trans hasked (h.report _ _)
    · exact hasked

theorem follow (s : Service) (route : Web.Route) (body : Web.Body) : R s (Web.follow s route body).1 := by
  cases route with
  | twilight => exact h.refl s
  | timeChanged => exact h.submit s .timeChanged
  | location =>
    simp only [Web.follow, Web.takeFix]
    cases Web.readFix body with
    | error refusal => exact h.refl s
    | ok outcome =>
      cases outcome with
      | error e => exact h.refl s
      | ok fix => exact h.reportLocation s fix

/-- **Every request is spanned**, whatever it asks for. -/
theorem respond (s : Service) (r : Web.Request) : R s (Web.respond s r).1 := by
  unfold Web.respond
  dsimp only
  generalize Web.barePath (Web.Target.path r.target) = path
  cases Web.Route.ofPath? path with
  | some route =>
    dsimp only
    split
    · exact h.follow s route r.body
    · exact h.refl s
  | none =>
    dsimp only
    split
    · exact h.refl s
    · split
      · exact h.refl s
      · exact h.refl s

end Spanning

end Daylight
