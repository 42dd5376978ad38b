import Daylight.Proofs.Subscriptions
import Daylight.Scenario.Passing

/-!
# Fixes that overtake each other

A fix is pushed in several steps. First it is recorded as the last one of the feed, and it is settled who
gets it; then the callbacks are called, one after the other. Only the first step is done while the others
have to wait. So of two pushes that are under way at once, the one that was recorded first may be the last
one to call the tracker, and then the tracker is left with an older fix than the feed.

`Rush` is a service with the pushes that are under way, and `Hurry` one step of any of them. That a fix is
recorded last and one is handed over last does not mean that they are the same; but the one that is handed
over last cannot be any: it is the last one, or one that was under way when the last one was recorded.

## What is proved

* `isSound_hurry`: what every step keeps. The tracker has the fix that was handed over last. That one, once
  the last push has called it, is the last one or a rival of the last one.
* `isSound_of_hurries`: the run lemma.
* `cache_of_hurries`: what the tracker and the feed have when all pushes have finished. They have the same
  fix if the last push has had no rivals.
* `exists_overtaking`: any fix may be overtaken by any other.
* `hurries_reportLocation`: a report to the service is such a push, with nothing in between.
-/

namespace Daylight

open Relation (ReflTransGen)

/-- A service with the pushes that are under way. A push is known by its place among all pushes, in the
order in which they were recorded. -/
structure Rush where
  /-- The service. -/
  service : Service
  /-- The fixes that were recorded. -/
  pushed : List Location
  /-- The pushes that have not finished, with the callbacks that are still to be called. -/
  underway : List (Nat × List Unit)
  /-- The pushes that have called the tracker, in the order of the calls. -/
  handed : List Nat
  /-- The pushes that were under way when the last fix was recorded. -/
  rivals : List Nat

/-- A service to which nothing is pushed yet. -/
def Rush.ofService (s : Service) : Rush := ⟨s, [], [], [], []⟩

/-- What it is after a push has begun: the fix is recorded, and it is settled who gets it. -/
def Rush.record (x : Rush) (f : Feed Unit) (fix : Location) : Rush where
  service := x.service.mapOwner fun t => { t with source := .feed (f.push fix).1 }
  pushed := x.pushed ++ [fix]
  underway := x.underway ++ [(x.pushed.length, (f.push fix).2)]
  handed := x.handed
  rivals := x.underway.map (·.1)

@[simp] theorem Rush.pushed_record (x : Rush) (f : Feed Unit) (fix : Location) :
    (x.record f fix).pushed = x.pushed ++ [fix] := rfl

/-- One step of anybody. -/
inductive Hurry : Rush → Rush → Prop
  /-- A push begins. -/
  | record {x : Rush} {f : Feed Unit} {fix : Location} : x.service.owner.source = .feed f →
      Tracker.isGood fix = true → Hurry x (x.record f fix)
  /-- A push calls the tracker. -/
  | hand {x : Rush} {place : Nat} {fix : Location} {callback : Unit} {callbacks : List Unit}
      (before behind : List (Nat × List Unit)) :
      x.underway = before ++ (place, callback :: callbacks) :: behind → x.pushed[place]? = some fix →
      Hurry x { x with
        service := x.service.onLocation (some fix)
        underway := before ++ (place, callbacks) :: behind
        handed := x.handed ++ [place] }
  /-- A push that has called everybody is finished. -/
  | finish {x : Rush} {place : Nat} (before behind : List (Nat × List Unit)) :
      x.underway = before ++ (place, []) :: behind → Hurry x { x with underway := before ++ behind }
  /-- Something else happens that leaves the feed and the last fix alone. -/
  | other {x : Rush} {s : Service} : s.owner.source = x.service.owner.source →
      s.owner.cache = x.service.owner.cache → Hurry x { x with service := s }

/-! ### What every step keeps -/

namespace Rush

/-- A push that is the last one, or was under way when the last one was recorded. -/
def IsRecent (x : Rush) (place : Nat) : Prop := place + 1 = x.pushed.length ∨ place ∈ x.rivals

/-- What holds of the pushes at any time. -/
structure IsSound (x : Rush) : Prop where
  /-- The feed has subscriptions, and the last fix. -/
  feed : ∃ f, x.service.owner.source = .feed f ∧ f.subscribers ≠ [] ∧
    (x.pushed ≠ [] → f.last = x.pushed.getLast?)
  /-- The fixes are good. -/
  isGood : ∀ fix ∈ x.pushed, Tracker.isGood fix = true
  /-- The tracker has the fix that was handed over last. -/
  cache : ∀ place, x.handed.getLast? = some place →
    ∃ fix, x.pushed[place]? = some fix ∧ x.service.owner.cache = some fix
  /-- Whatever is under way is recent. -/
  underway : ∀ entry ∈ x.underway, x.IsRecent entry.1
  /-- The fix that was handed over last is recent, or the last push has still to call the tracker. -/
  newest : x.pushed ≠ [] → (∃ place, x.handed.getLast? = some place ∧ x.IsRecent place) ∨
    ∃ entry ∈ x.underway, entry.1 + 1 = x.pushed.length ∧ entry.2 ≠ []

end Rush

theorem recipients_ne_nil {f : Feed Unit} (h : f.subscribers ≠ []) : f.recipients ≠ [] := by
  rw [Feed.recipients, Feed.Alike.recipients_of_ne_nil h]
  exact h

/-- **The step lemma.** -/
theorem isSound_hurry {x y : Rush} (hx : x.IsSound) (h : Hurry x y) : y.IsSound := by
  obtain ⟨f, hf, hsubscribed, hlast⟩ := hx.feed
  cases h with
  | @record f' fix hf' hgood =>
    obtain rfl : f = f' := Source.feed.inj (hf.symm.trans hf')
    constructor
    case feed =>
      refine ⟨(f.push fix).1, rfl, hsubscribed, fun _ => ?_⟩
      rw [Rush.pushed_record, List.getLast?_concat]
      rfl
    case isGood =>
      intro fix' hmem
      rcases List.mem_append.mp hmem with hold | hnew
      · exact hx.isGood fix' hold
      · obtain rfl := List.mem_singleton.mp hnew
        exact hgood
    case cache =>
      intro place hplace
      obtain ⟨fix', hfix', hcache⟩ := hx.cache place hplace
      obtain ⟨hlt, -⟩ := List.getElem?_eq_some_iff.mp hfix'
      exact ⟨fix', (List.getElem?_append_left hlt).trans hfix', hcache⟩
    case underway =>
      intro entry hmem
      rcases List.mem_append.mp hmem with hold | hnew
      · exact .inr (List.mem_map_of_mem hold)
      · obtain rfl := List.mem_singleton.mp hnew
        left
        rw [Rush.pushed_record, List.length_append, List.length_singleton]
    case newest =>
      intro _
      refine .inr ⟨(x.pushed.length, f.recipients), ?_, by simp, recipients_ne_nil hsubscribed⟩
      exact List.mem_append_right _ (List.mem_singleton.mpr rfl)
  | @hand place fix callback callbacks before behind hunderway hfix =>
    have hgood := hx.isGood fix (List.mem_of_getElem? hfix)
    have howner := Service.owner_onLocation_of_isGood x.service hgood
    have hrecent : x.IsRecent place := hx.underway (place, callback :: callbacks) (by simp [hunderway])
    constructor
    case feed => exact ⟨f, by rw [howner]; exact hf, hsubscribed, hlast⟩
    case isGood => exact hx.isGood
    case cache =>
      intro last hplace
      obtain rfl : place = last := by simpa using hplace
      exact ⟨fix, hfix, by rw [howner]; rfl⟩
    case underway =>
      intro entry hmem
      have hcases : entry ∈ x.underway ∨ entry = (place, callbacks) := by
        rw [hunderway]
        simp only [List.mem_append, List.mem_cons] at hmem ⊢
        tauto
      rcases hcases with hold | rfl
      · exact hx.underway entry hold
      · exact hrecent
    case newest => exact fun _ => .inl ⟨place, by simp, hrecent⟩
  | @finish place before behind hunderway =>
    constructor
    case feed => exact ⟨f, hf, hsubscribed, hlast⟩
    case isGood => exact hx.isGood
    case cache => exact hx.cache
    case underway =>
      intro entry hmem
      refine hx.underway entry ?_
      rw [hunderway]
      simp only [List.mem_append, List.mem_cons] at hmem ⊢
      tauto
    case newest =>
      intro hpushed
      refine (hx.newest hpushed).imp_right ?_
      rintro ⟨entry, hmem, hplace, hne⟩
      refine ⟨entry, ?_, hplace, hne⟩
      rw [hunderway] at hmem
      simp only [List.mem_append, List.mem_cons] at hmem ⊢
      rcases hmem with hbefore | rfl | hbehind
      · exact .inl hbefore
      · exact absurd rfl hne
      · exact .inr hbehind
  | other hsource hcache =>
    constructor
    case feed => exact ⟨f, hsource.trans hf, hsubscribed, hlast⟩
    case isGood => exact hx.isGood
    case cache =>
      intro place hplace
      obtain ⟨fix, hfix, hsame⟩ := hx.cache place hplace
      exact ⟨fix, hfix, hcache.trans hsame⟩
    case underway => exact hx.underway
    case newest => exact hx.newest

section

variable {s : Service} {times : Nat}

theorem isSound_ofService (hs : s.IsSubscribed times) (ht : 0 < times) : (Rush.ofService s).IsSound := by
  obtain ⟨f, hf, hlength, -⟩ := hs.feed
  have hne : f.subscribers ≠ [] := List.ne_nil_of_length_pos (by omega)
  constructor
  case feed => exact ⟨f, hf, hne, fun h => absurd rfl h⟩
  case isGood => exact fun fix hmem => absurd hmem List.not_mem_nil
  case cache => exact fun place hplace => by cases hplace
  case underway => exact fun entry hmem => absurd hmem List.not_mem_nil
  case newest => exact fun h => absurd rfl h

/-- **The run lemma.** -/
theorem isSound_of_hurries (hs : s.IsSubscribed times) (ht : 0 < times) {x : Rush}
    (h : ReflTransGen Hurry (.ofService s) x) : x.IsSound := by
  induction h with
  | refl => exact isSound_ofService hs ht
  | tail _ hlast ih => exact isSound_hurry ih hlast

/-- **What remains of a rush.** Good fixes are pushed to a service that was started, once or more often, by
any number of reporters at any times. When all pushes have finished, the feed has the fix that was recorded
last, and the tracker the one that was handed over last. That one is the last one, too, or was under way
when the last one was recorded; so the two have the same fix if nothing was under way then, and else exactly
if the fixes of these two pushes are the same. -/
theorem cache_of_hurries (hs : s.IsSubscribed times) (ht : 0 < times) {x : Rush}
    (h : ReflTransGen Hurry (.ofService s) x) (hfinished : x.underway = []) (hpushed : x.pushed ≠ []) :
    ∃ place fix last, x.handed.getLast? = some place ∧ x.pushed[place]? = some fix ∧
      x.pushed.getLast? = some last ∧ x.service.owner.cache = some fix ∧
      x.service.owner.source.lastFix = some last ∧ (place + 1 = x.pushed.length ∨ place ∈ x.rivals) ∧
      (x.service.owner.cache = x.service.owner.source.lastFix ↔ fix = last) ∧
      (x.rivals = [] → x.service.owner.cache = x.service.owner.source.lastFix) := by
  have hx := isSound_of_hurries hs ht h
  obtain ⟨f, hf, -, hlast⟩ := hx.feed
  obtain ⟨place, hplace, hrecent⟩ : ∃ place, x.handed.getLast? = some place ∧ x.IsRecent place := by
    refine (hx.newest hpushed).resolve_right ?_
    rintro ⟨entry, hmem, -⟩
    rw [hfinished] at hmem
    exact absurd hmem List.not_mem_nil
  obtain ⟨fix, hfix, hcache⟩ := hx.cache place hplace
  obtain ⟨last, hgetLast⟩ := Option.isSome_iff_exists.mp (List.getLast?_isSome.mpr hpushed)
  have hsource : x.service.owner.source.lastFix = some last := by
    rw [hf]
    exact (hlast hpushed).trans hgetLast
  have hsame : x.service.owner.cache = x.service.owner.source.lastFix ↔ fix = last := by
    rw [hcache, hsource, Option.some.injEq]
  refine ⟨place, fix, last, hplace, hfix, hgetLast, hcache, hsource, hrecent, hsame, fun hnone => ?_⟩
  -- without rivals it is the last push that has called the tracker last
  rw [hsame]
  have hend : place + 1 = x.pushed.length := by
    refine hrecent.resolve_right ?_
    rw [hnone]
    exact List.not_mem_nil
  rw [List.getLast?_eq_getElem?, ← hend, Nat.add_sub_cancel] at hgetLast
  exact Option.some.inj (hfix.symm.trans hgetLast)

end

/-! ### The service takes these steps -/

/-- A push that calls everybody it has to, with nothing in between, and finishes. -/
theorem hurries_handOver {x : Rush} {place : Nat} {fix : Location} {callbacks : List Unit}
    (before behind : List (Nat × List Unit)) (hunderway : x.underway = before ++ (place, callbacks) :: behind)
    (hfix : x.pushed[place]? = some fix) :
    ReflTransGen Hurry x { x with
      service := x.service.handOver fix callbacks
      underway := before ++ behind
      handed := x.handed ++ List.replicate callbacks.length place } := by
  induction callbacks generalizing x with
  | nil =>
    rw [List.length_nil, List.replicate_zero, List.append_nil]
    exact .single (.finish before behind hunderway)
  | cons callback callbacks ih =>
    have hfirst : Hurry x _ := .hand before behind hunderway hfix
    have hrest := ReflTransGen.head hfirst (ih rfl hfix)
    rw [List.append_assoc] at hrest
    exact hrest

/-- A report to the service is a push with nothing in between. -/
theorem hurries_reportLocation (x : Rush) {f : Feed Unit} (hf : x.service.owner.source = .feed f)
    {fix : Location} (hfix : Tracker.isGood fix = true) :
    ReflTransGen Hurry x {
      service := x.service.reportLocation fix
      pushed := x.pushed ++ [fix]
      underway := x.underway
      handed := x.handed ++ List.replicate f.recipients.length x.pushed.length
      rivals := x.underway.map (·.1) } := by
  have hrecord : Hurry x (x.record f fix) := .record hf hfix
  have hplace : (x.record f fix).pushed[x.pushed.length]? = some fix := by simp
  have hhanded := hurries_handOver x.underway [] rfl hplace
  rw [List.append_nil] at hhanded
  have hreport : x.service.reportLocation fix =
      (x.record f fix).service.handOver fix (f.push fix).2 := by
    simp only [Service.reportLocation, hf]
    rfl
  rw [hreport]
  exact .head hrecord hhanded

/-- Listeners that report no fixes. -/
def Unreporting (react : Reaction Tracker) : Prop := ∀ s : Service, ∀ listener state,
  (react s listener state).1.owner.source = s.owner.source ∧
    (react s listener state).1.owner.cache = s.owner.cache

/-- Processing a trigger is something else. -/
theorem hurry_process {react : Reaction Tracker} (hr : Unreporting react) (x : Rush) (trigger : Trigger) :
    Hurry x { x with service := x.service.process react trigger } := by
  have hk : Kept react fun s => s.owner.source = x.service.owner.source ∧
      s.owner.cache = x.service.owner.cache := by
    refine ⟨fun s write h => by rwa [owner_record], fun _ _ _ h => h, fun s listener state h => ?_⟩
    obtain ⟨hsource, hcache⟩ := hr s listener state
    exact ⟨hsource.trans h.1, hcache.trans h.2⟩
  have hprocess := hk.process (fun _ _ _ h => h) (fun _ _ h => h) (fun s wanted h => ?_) ⟨rfl, rfl⟩ trigger
  · exact .other hprocess.1 hprocess.2
  · cases hs : s.owner.alarms with
    | manual pending =>
      simp only [Service.schedule, hs]
      exact h
    | timers clock =>
      rw [(schedule_timers hs wanted).1]
      exact h

/-! ### Overtaking -/

/-- **Any fix may be overtaken by any other.** A service that was started gets two fixes at the same time.
The first one is recorded first and handed over last. -/
theorem exists_overtaking {s : Service} {times : Nat} (hs : s.IsSubscribed times) (ht : 0 < times)
    {slow fast : Location} (hslow : Tracker.isGood slow = true) (hfast : Tracker.isGood fast = true) :
    ∃ x, ReflTransGen Hurry (.ofService s) x ∧ x.underway = [] ∧ x.pushed = [slow, fast] ∧
      x.service.owner.cache = some slow ∧ x.service.owner.source.lastFix = some fast := by
  obtain ⟨f, hf, hlength⟩ := hs.length_recipients
  have hfirst : Hurry (.ofService s) _ := .record hf hslow
  have hrecorded := ReflTransGen.tail (.single hfirst) (.record rfl hfast)
  have hovertaken := hrecorded.trans
    (hurries_handOver [(0, f.recipients)] [] rfl (by rfl : _ = some fast))
  have hfinished := hovertaken.trans (hurries_handOver [] [] rfl (by rfl : _ = some slow))
  refine ⟨_, hfinished, rfl, rfl, ?_, ?_⟩
  · rw [Service.owner_handOver _ hslow, if_neg (by omega)]
  · rw [Service.owner_handOver _ hslow, Service.owner_handOver _ hfast]
    rfl

/-- A service that is fed with fixes and was started once. -/
def startedService : Service := fedService.start.1

theorem isSubscribed_startedService : startedService.IsSubscribed 1 := by
  have hunstarted : fedService.IsUnstarted := ⟨rfl, none, rfl⟩
  exact Service.isSubscribed_start hunstarted.isSubscribed rfl

theorem isGood_home_abroad : Tracker.isGood home = true ∧ Tracker.isGood abroad = true := by
  decide +kernel

/-- Two fixes that are reported one after the other: the tracker has the last one, as the feed has. -/
theorem cache_of_two_reports :
    ∃ x, ReflTransGen Hurry (.ofService startedService) x ∧ x.pushed = [home, abroad] ∧
      x.service.owner.cache = x.service.owner.source.lastFix := by
  obtain ⟨hhome, habroad⟩ := isGood_home_abroad
  obtain ⟨f, hf, -⟩ := isSubscribed_startedService.feed
  have hfirst := hurries_reportLocation (.ofService startedService) hf hhome
  obtain ⟨g, hg, -⟩ := (isSound_of_hurries isSubscribed_startedService (by decide) hfirst).feed
  have hrun := hfirst.trans (hurries_reportLocation _ hg habroad)
  obtain ⟨place, fix, last, -, -, -, -, -, -, -, hsame⟩ :=
    cache_of_hurries isSubscribed_startedService (by decide) hrun rfl (List.cons_ne_nil _ _)
  exact ⟨_, hrun, rfl, hsame rfl⟩

/-- A feed whose first callback pushes a fix of its own when it gets one. -/
def eagerRelay : Scenario.Relay :=
  ⟨.feed ⟨none, ["eager", "tracker"], []⟩, [("eager", [.push abroad])], []⟩

/-- **When all pushes have finished, the tracker does not always have the last fix of the feed.** It is enough
that another callback pushes a fix before the tracker has got the first one. -/
theorem overtaken_by_abroad :
    (¬ ∀ x, ReflTransGen Hurry (.ofService startedService) x → x.underway = [] → x.pushed ≠ [] →
      x.service.owner.cache = x.service.owner.source.lastFix) ∧
      (eagerRelay.step 2 (.push home)).state.delivered =
        [("eager", home), ("eager", abroad), ("tracker", abroad), ("tracker", home)] ∧
      (eagerRelay.step 2 (.push home)).state.outlet.lastFix = some abroad := by
  refine ⟨fun h => ?_, by decide +kernel, by decide +kernel⟩
  obtain ⟨hhome, habroad⟩ := isGood_home_abroad
  obtain ⟨x, hrun, hfinished, hpushed, hcache, hlast⟩ :=
    exists_overtaking isSubscribed_startedService (by decide) hhome habroad
  have hsame := h x hrun hfinished (by simp [hpushed])
  rw [hcache, hlast] at hsame
  exact absurd hsame (by decide +kernel)

end Daylight
