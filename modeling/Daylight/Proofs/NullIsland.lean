import Daylight.Proofs.Alike
import Daylight.Proofs.Publishing

/-!
# Null island

Devices that find nothing report null island, and the tracker takes no notice of it: it neither becomes
the last fix that was taken, nor is anything evaluated there. But the feed remembers every fix that is
passed on. As long as the tracker has taken no fix, evaluations are made at the last fix of the feed, and
then null island puts itself in the place of a good fix that was reported before the service was started.

So a report of null island is void unless a good fix is held by the feed alone (`HoldsUntaken`). In that
one case the location is lost.

## What is proved

* `alike_reportLocation`: where no good fix is held by the feed alone, a service to which null island is
  reported is like one to which it is not.
* `alike_of_sprinkled`: the run lemma. A run with such reports thrown in anywhere goes like the run
  without them.
* `sprinkled_agrees`: what can be seen of both runs is the same. Where a good fix is held by the feed
  alone, the report takes the location away, and the next cycle publishes that there are no boundaries
  where it would have published some.
-/

namespace Daylight

/-- A good fix is held by the source alone: the tracker has taken none. -/
def Board.HoldsUntaken (s : Service) : Prop := s.owner.cache = none ∧ s.owner.location? ≠ none

instance (s : Service) : Decidable s.HoldsUntaken := inferInstanceAs (Decidable (_ ∧ _))

/-- A service that is fed with fixes, and asks for single ones only where it asks for all. -/
def Board.IsFed (s : Service) : Prop :=
  ∃ f, s.owner.source = .feed f ∧ (f.subscribers = [] → f.oneShots = [])

variable {react : Reaction Tracker} {s₀ s s' : Service} {fix : Location}

theorem Board.IsFed.alike (h : s.IsFed) : s.Alike s := by
  obtain ⟨f, hf, honeShots⟩ := h
  exact ⟨rfl, rfl, rfl, ⟨rfl, rfl⟩, rfl, ⟨f, f, hf, hf, rfl, fun hnil => ⟨honeShots hnil, honeShots hnil⟩⟩, rfl⟩

/-! ### A report of null island -/

theorem filter_isGood_of_isNullIsland (h : fix.isNullIsland = true) :
    (some fix).filter Tracker.isGood = none := by
  simp [Option.filter, Tracker.isGood, h]

/-- The tracker takes no notice of null island, however often it gets it. -/
theorem exists_handOver (h : fix.isNullIsland = true) (s : Service) (callbacks : List Unit) :
    ∃ entries : List LogEntry, s.handOver fix callbacks = entries.foldl Board.report s := by
  induction callbacks generalizing s with
  | nil => exact ⟨[], rfl⟩
  | cons callback callbacks ih =>
    have hignored : ∃ entry, s.onLocation (some fix) = s.report entry := by
      rw [Service.onLocation, filter_isGood_of_isNullIsland h]
      exact ⟨_, rfl⟩
    obtain ⟨entry, hentry⟩ := hignored
    obtain ⟨entries, hentries⟩ := ih (s.report entry)
    refine ⟨entry :: entries, ?_⟩
    rw [List.foldl_cons, ← hentries, ← hentry]
    rfl

/-- A report of null island changes what the feed remembers, and is logged. -/
theorem exists_reportLocation (h : fix.isNullIsland = true) {g : Feed Unit}
    (hg : s.owner.source = .feed g) :
    ∃ entries : List LogEntry, s.reportLocation fix = entries.foldl Board.report
      (s.mapOwner fun t => { t with source := .feed (g.push fix).1 }) := by
  rw [Service.reportLocation, hg]
  exact exists_handOver h _ _

theorem Board.Alike.foldl_report (h : s.Alike s') (entries : List LogEntry) :
    s.Alike (entries.foldl Board.report s') := by
  induction entries generalizing s' with
  | nil => exact h
  | cons entry entries ih => exact ih (h.report_right entry)

theorem owner_foldl_report (entries : List LogEntry) (s : Service) :
    (entries.foldl Board.report s).owner = s.owner := by
  induction entries generalizing s with
  | nil => rfl
  | cons entry entries ih => rw [List.foldl_cons, ih, owner_report]

theorem owner_reportLocation (hfix : fix.isNullIsland = true) {g : Feed Unit}
    (hg : s.owner.source = .feed g) :
    (s.reportLocation fix).owner = { s.owner with source := .feed (g.push fix).1 } := by
  obtain ⟨entries, hentries⟩ := exists_reportLocation hfix hg
  rw [hentries, owner_foldl_report]
  rfl

/-- Where the tracker has taken no fix, null island leaves it without a location. -/
theorem location?_of_isNullIsland (hfix : fix.isNullIsland = true) {t : Tracker}
    (hcache : t.cache = none) (g : Feed Unit) :
    ({ t with source := .feed (g.push fix).1 } : Tracker).location? = none := by
  simp only [Tracker.location?, hcache]
  exact filter_isGood_of_isNullIsland hfix

/-- **Null island is ignored where no good fix is held by the feed alone.** -/
theorem alike_reportLocation (h : s.Alike s') (hfix : fix.isNullIsland = true) (hs : ¬ s.HoldsUntaken) :
    s.Alike (s'.reportLocation fix) := by
  obtain ⟨f, g, hf, hg, hfg⟩ := h.owner.feeds
  obtain ⟨entries, hentries⟩ := exists_reportLocation hfix hg
  have hcache : s'.owner.cache = s.owner.cache := h.field (·.cache) fun _ _ => rfl
  have hlocation : ({ s'.owner with source := .feed (g.push fix).1 } : Tracker).location? =
      s.owner.location? := by
    cases hc : s.owner.cache with
    | some location => simp only [Tracker.location?, hcache, hc]
    | none =>
      have hnone : s.owner.location? = none := by
        by_contra hne
        exact hs ⟨hc, hne⟩
      rw [hnone, location?_of_isNullIsland hfix (hcache.trans hc)]
  have hpushed : s.Alike (s'.mapOwner fun t => { t with source := .feed (g.push fix).1 }) := by
    refine ⟨h.registry, h.contexts, h.onWorker, h.told, ?_, ⟨f, (g.push fix).1, hf, rfl, ?_⟩, hlocation⟩
    · rw [Board.mapOwner]
      conv_lhs => rw [h.owner.rest]
    · exact ⟨hfg.subscribers, fun hnil => ⟨(hfg.oneShots hnil).1, rfl⟩⟩
  rw [hentries]
  exact hpushed.foldl_report entries

/-! ### Runs with null island thrown in -/

/-- Two runs from one service, up to corresponding steps: in the second one null island is reported
anywhere, unless a good fix is held by the feed alone. Between two steps, workers may do their work. -/
inductive Sprinkled (react : Reaction Tracker) (s₀ : Service) : Service → Service → Prop
  /-- Both runs begin. -/
  | start : Sprinkled react s₀ s₀ s₀
  /-- The same is done in both runs. -/
  | act {s s' : Service} (action : Scenario.Action) : Sprinkled react s₀ s s' →
      Sprinkled react s₀ (Scenario.perform react s action).1 (Scenario.perform react s' action).1
  /-- The workers do their work in both runs. -/
  | work {s s' : Service} (rounds : Nat) : Sprinkled react s₀ s s' →
      Sprinkled react s₀ (s.settle react rounds) (s'.settle react rounds)
  /-- Null island is reported in the second run. -/
  | nullIsland {s s' : Service} {fix : Location} : fix.isNullIsland = true → ¬ s.HoldsUntaken →
      Sprinkled react s₀ s s' → Sprinkled react s₀ s (s'.reportLocation fix)

/-- **The run lemma.** -/
theorem alike_of_sprinkled (hu : Unaffected react) (hs₀ : s₀.IsFed) (h : Sprinkled react s₀ s s') :
    s.Alike s' := by
  induction h with
  | start => exact hs₀.alike
  | act action _ ih => exact (Scenario.alike_perform hu ih action).1
  | work rounds _ ih => exact ih.settle hu rounds
  | nullIsland hfix hs _ ih => exact alike_reportLocation ih hfix hs

/-- **Null island is ignored, unless a good fix is held by the feed alone.** Runs in which it is thrown in
elsewhere agree on what was published last, on the last fix that was taken, on the queue and on the
wake-up. A report at any point leaves the location as it is if, and only if, no good fix is held by the
feed alone; else the next cycle publishes that there are no boundaries, where without the report it
publishes the boundaries that it comes to. -/
theorem sprinkled_agrees (hu : Unaffected react) (hs₀ : s₀.IsFed) (h : Sprinkled react s₀ s s') :
    (s'.registry.last = s.registry.last ∧ s'.owner.cache = s.owner.cache ∧
        s'.owner.queue = s.owner.queue ∧ s'.owner.alarms.pending? = s.owner.alarms.pending?) ∧
      ∀ fix : Location, fix.isNullIsland = true →
        ((s'.reportLocation fix).owner.location? = s.owner.location? ↔ ¬ s.HoldsUntaken) ∧
          (s.HoldsUntaken → Quiet react → ∀ reason b, (⟨s, reason⟩ : Turn).evaluation = .ok (some b) →
            (s.cycle react reason).1.registry.last = some b ∧
              ((s'.reportLocation fix).cycle react reason).1.registry.last = none) := by
  have halike := alike_of_sprinkled hu hs₀ h
  have hcache : s'.owner.cache = s.owner.cache := halike.field (·.cache) fun _ _ => rfl
  have hqueue : s'.owner.queue = s.owner.queue := halike.field (·.queue) fun _ _ => rfl
  have halarms : s'.owner.alarms = s.owner.alarms := halike.field (·.alarms) fun _ _ => rfl
  refine ⟨⟨by rw [halike.registry], hcache, hqueue, by rw [halarms]⟩, fun fix hfix => ?_⟩
  obtain ⟨f, g, -, hg, -⟩ := halike.owner.feeds
  have howner := owner_reportLocation hfix hg
  have hlost : s.HoldsUntaken → (s'.reportLocation fix).owner.location? = none := fun hs => by
    rw [howner, location?_of_isNullIsland hfix (hcache.trans hs.1)]
  refine ⟨⟨fun hsame hs => hs.2 (hsame.symm.trans (hlost hs)), fun hs => ?_⟩, fun hs hq reason b heval => ?_⟩
  · exact (alike_reportLocation halike hfix hs).owner.location
  · obtain ⟨zone, hz, -⟩ := Turn.zone_of_evaluation heval
    have hclock : (s'.reportLocation fix).owner.clock = s.owner.clock := by
      rw [howner]
      exact halike.field (·.clock) fun _ _ => rfl
    have hnone : (⟨s'.reportLocation fix, reason⟩ : Turn).evaluation = .ok none := by
      rw [Turn.evaluation, hclock, hz, Turn.location?, hlost hs]
      rfl
    exact ⟨last_after_of_ok hq heval, last_after_of_ok hq hnone⟩

/-! ### A report before the start -/

/-- A service that is fed with fixes, at 05:00, before anything was done to it. -/
def fedService : Service :=
  .ofTracker [] (.ofParts ⟨.ofInstant 1687323600000000, .ok .utc⟩ ⟨eveningSunrise.calculator, []⟩
    (.feed .empty) (.timers .empty) (.memory .empty false))

/-- Null island, with a zero below zero. -/
def nowhere : Location := ⟨0.0, -0.0, none, none, "gps", by decide, by decide⟩

/-- Actions on a service whose listeners do nothing. -/
def played (s : Service) (actions : List Scenario.Action) : Service :=
  actions.foldl (fun s action => (Scenario.perform .idle s action).1) s

theorem perform_report (react : Reaction Tracker) (s : Service) (fix : Location) :
    (Scenario.perform react s (.report fix)).1 = s.reportLocation fix := rfl

/-- Null island may be reported before the start, after it, and after a good fix was taken: the same is
published. After a good fix that is reported before the start, it makes the first cycle publish
nothing. -/
theorem sprinkled_nowhere :
    ((played fedService [.report nowhere, .start, .report nowhere, .report home, .report nowhere,
        .runPending]).registry.last =
      (played fedService [.start, .report home, .runPending]).registry.last) ∧
    ((played fedService [.report home]).cycle .idle none).1.registry.last ≠ none ∧
    (((played fedService [.report home]).reportLocation nowhere).cycle .idle none).1.registry.last =
      none := by
  have hu : Unaffected .idle := fun _ _ _ _ h => h.answers none
  have hfed : fedService.IsFed := ⟨.empty, rfl, fun _ => rfl⟩
  have hnowhere : nowhere.isNullIsland = true := by decide +kernel
  have hbegin : Sprinkled .idle fedService fedService fedService := .start
  have hstart := (Sprinkled.nullIsland hnowhere (by decide +kernel) hbegin).act .start
  have hreport := (Sprinkled.nullIsland hnowhere (by decide +kernel) hstart).act (.report home)
  have hpending := (Sprinkled.nullIsland hnowhere (by decide +kernel) hreport).act .runPending
  obtain ⟨⟨hlast, -⟩, -⟩ := sprinkled_agrees hu hfed hpending
  obtain ⟨-, hreported⟩ := sprinkled_agrees hu hfed (hbegin.act (.report home))
  obtain ⟨-, hnext⟩ := hreported nowhere hnowhere
  have heval : (⟨played fedService [.report home], none⟩ : Turn).evaluation =
      .ok (some ⟨1687320000000, 1687377600000, 1687406400000, 1687464000000, by decide⟩) := by
    decide +kernel
  obtain ⟨hwithout, hwith⟩ := hnext (by decide +kernel) (fun _ _ _ => rfl) none _ heval
  simp only [played, List.foldl_cons, List.foldl_nil, perform_report] at hlast hwithout hwith ⊢
  exact ⟨hlast, ne_of_eq_of_ne hwithout (Option.some_ne_none _), hwith⟩

/-- Null island that is reported at any point does not always leave the run as it is: a good fix that was
reported before the start is forgotten. -/
theorem nowhere_overwrites : ¬ ∀ (before after : List Scenario.Action) (fix : Location),
    fix.isNullIsland = true → (played fedService (before ++ .report fix :: after)).registry.last =
      (played fedService (before ++ after)).registry.last := by
  intro h
  have hsame := h [.report home, .start, .runPending] [.changeTime, .runPending] nowhere (by decide +kernel)
  exact absurd hsame (by decide +kernel)

end Daylight
