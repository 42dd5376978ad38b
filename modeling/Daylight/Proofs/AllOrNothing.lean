import Daylight.Proofs.AlarmClock
import Daylight.Proofs.Cycle
import Daylight.Scenario.Session

/-!
# A cycle is all or nothing

A cycle can fail: there may be no zone, the days around the moment may lie outside the calendar, the
calculator may have no answer, or answers that do not fit together. All this comes to light in the
evaluation, and the evaluation comes before everything that others can see. So a cycle whose evaluation
fails has asked its questions and written into the log, and nothing else.

Once the evaluation has come to boundaries, nothing fails any more. That the boundaries say at the moment
of the cycle whether it is night and what comes next is `exists_outlook`; that the wake-up can be had is
shown here. Contexts that take no tasks, listeners that fail and a mirror that is down are only logged.

## What is proved

* `untouched_of_error`: a cycle whose evaluation fails leaves all but the questions and the log as it was.
* `outcome_of_none`, `outcome_of_present`: a cycle whose evaluation is completed answers with what it
  came to. So only a failed evaluation makes a cycle fail.
* `cycle_allOrNothing`: both halves for every cycle.
-/

namespace Daylight

/-! ### What a failed cycle leaves alone -/

/-- A service that has at most asked questions and written into the log since: nothing was published,
nothing posted or told, and the tracker has the same fix, the same queue, the same wake-up and the same
mirror. -/
structure Service.Untouched (s s' : Service) : Prop where
  /-- The listeners and what was published last are the same. -/
  registry : s'.registry = s.registry
  /-- The contexts hold the same tasks. -/
  contexts : s'.contexts = s.contexts
  /-- No listener was told anything. -/
  told : s'.journal.deliveries = s.journal.deliveries ∧
    s'.workerJournal.deliveries = s.workerJournal.deliveries
  /-- The tracker is the same, but for the questions. -/
  owner : ∃ asked, s'.owner = { s.owner with asked := asked }

namespace Service.Untouched

theorem refl (s : Service) : s.Untouched s := ⟨rfl, rfl, ⟨rfl, rfl⟩, ⟨s.owner.asked, rfl⟩⟩

/-- Asking leaves a service untouched. -/
theorem ask {s s' : Service} (h : s.Untouched s') (queries : List Query) :
    s.Untouched (s'.mapOwner fun t => { t with asked := t.asked ++ queries }) := by
  obtain ⟨hr, hc, ht, asked, ho⟩ := h
  exact ⟨hr, hc, ht, asked ++ queries, by simp only [Board.mapOwner, ho]⟩

/-- Writing into the log leaves a service untouched. -/
theorem report {s s' : Service} (h : s.Untouched s') (entry : LogEntry) :
    s.Untouched (s'.report entry) := by
  obtain ⟨hr, hc, ht, ho⟩ := h
  unfold Board.report Board.record
  split
  · exact ⟨hr, hc, ht, ho⟩
  · exact ⟨hr, hc, ht, ho⟩

end Service.Untouched

/-- Whether an act is one that nobody sees: a question, or a note in the log. -/
def Act.IsPrivate : Act → Prop
  | .ask _ | .note _ => True
  | .fanOut _ | .mirror _ | .wake _ => False

namespace Turn

variable {react : Reaction Tracker} {t : Turn} {b : Boundaries} {e : Failure}

theorem isPrivate_of_error (h : t.evaluation = .error e) : ∀ a ∈ t.acts, a.IsPrivate := by
  have hcomplaint : ∀ a ∈ t.complaint e, a.IsPrivate := by
    intro a ha
    simp only [complaint, List.mem_append, List.mem_map] at ha
    obtain ⟨entry, -, rfl⟩ | ha := ha
    · trivial
    · split at ha
      · obtain rfl := List.mem_singleton.mp ha
        trivial
      · cases ha
  intro a ha
  rw [acts, h] at ha
  cases hz : t.before.owner.clock.zone with
  | error e' =>
    simp only [prelude, hz] at ha
    cases ha
  | ok zone =>
    simp only [prelude, hz, h] at ha
    obtain rfl | ha := List.mem_cons.mp ha
    · trivial
    · exact hcomplaint a ha

/-- **A cycle whose evaluation fails leaves everything as it was**, but for the questions and the log. -/
theorem untouched_of_error (h : t.evaluation = .error e) : t.before.Untouched (t.after react) := by
  rw [t.after_eq_performAll react]
  refine performAll_induction (fun s a ha hs => ?_) (Service.Untouched.refl t.before)
  have hprivate := isPrivate_of_error h a ha
  cases a with
  | ask queries => exact hs.ask queries
  | note entry => exact hs.report entry
  | fanOut state => exact hprivate.elim
  | mirror flag => exact hprivate.elim
  | wake wanted => exact hprivate.elim

end Turn

/-! ### What cannot fail any more -/

/-- The timers are sound, where there are any. -/
def Alarms.IsSound : Alarms → Prop
  | manual _ => True
  | timers clock => clock.Sound

/-- A clock that shows moments with a zone, and timers that are sound where there are any. -/
def Service.IsPunctual (s : Service) : Prop := s.owner.clock.now.zone ≠ none ∧ s.owner.alarms.IsSound

/-- Listeners that leave a service punctual. -/
def Punctual (react : Reaction Tracker) : Prop :=
  ∀ s : Service, ∀ listener state, s.IsPunctual → Service.IsPunctual (react s listener state).1

theorem Moment.exists_instant? {m : Moment} (h : m.zone ≠ none) : ∃ i, m.instant? = some i := by
  obtain ⟨zone, hz⟩ := Option.ne_none_iff_exists'.mp h
  exact ⟨_, instant?_eq_some_iff.mpr ⟨zone, hz, rfl⟩⟩

/-- **Asking for a wake-up in the calendar**, where the clock shows an instant: it does not fail, and the
wake-up is pending then. -/
theorem schedule_of_instant? {s : Service} (hs : s.owner.alarms.IsSound) {x i : Int}
    (hx : Moment.inCalendar x = true) (hn : s.owner.clock.now.instant? = some i) :
    (s.schedule (.ofInstant x)).2 = .ok () ∧ (s.schedule (.ofInstant x)).1.owner.alarms.IsSound ∧
      (s.schedule (.ofInstant x)).1.owner.alarms.pending? = some (.ofInstant x) := by
  cases halarms : s.owner.alarms with
  | manual pending =>
    have hschedule : s.schedule (.ofInstant x) =
        (s.mapOwner fun t => { t with alarms := .manual (some (.ofInstant x)) }, .ok ()) := by
      simp only [Service.schedule, halarms]
    rw [hschedule]
    exact ⟨rfl, trivial, rfl⟩
  | timers clock =>
    rw [halarms] at hs
    have hsound : clock.Sound := hs
    obtain ⟨started, hstarted⟩ := AlarmClock.Sound.exists_started (a := clock) hx hn ()
    obtain ⟨howner, hiff⟩ := schedule_timers halarms (.ofInstant x)
    rw [howner]
    exact ⟨hiff.mpr ⟨started, hstarted⟩, hsound.schedule x _ (), hsound.pending?_schedule hstarted⟩

/-- A count of milliseconds that is a moment starts in the calendar. -/
theorem Moment.inCalendar_of_ofMillis {millis : Int} {m : Moment} (h : ofMillis millis = .ok m) :
    ∃ x, m = ofInstant x ∧ inCalendar x = true := by
  obtain ⟨hin, rfl⟩ := ofMillis_eq_ok_iff.mp h
  exact ⟨_, rfl, hin⟩

/-- What comes next is in the calendar. -/
theorem inCalendar_of_nextTransition {b : Boundaries} {now wanted : Moment}
    (h : b.nextTransition now = .ok wanted) :
    ∃ x, wanted = .ofInstant x ∧ Moment.inCalendar x = true := by
  obtain ⟨millis, -, hw⟩ := bind_eq_ok_iff.mp h
  exact Moment.inCalendar_of_ofMillis hw

section

variable {react : Reaction Tracker}

theorem isPunctual_of_owner {s s' : Service} (h : s.IsPunctual)
    (hc : s'.owner.clock = s.owner.clock) (ha : s'.owner.alarms = s.owner.alarms) : s'.IsPunctual := by
  rw [Service.IsPunctual, hc, ha]
  exact h

/-- Everything that a cycle does before it asks for the wake-up leaves the service punctual. -/
theorem isPunctual_perform (hr : Punctual react) {s : Service} (h : s.IsPunctual) {a : Act}
    (ha : ∀ wanted, a ≠ .wake wanted) : (a.perform react s).IsPunctual := by
  have hk : Kept react Service.IsPunctual :=
    ⟨fun s write h => isPunctual_of_owner h (by rw [owner_record]) (by rw [owner_record]),
      fun _ _ _ h => h, fun s listener state h => hr s listener state h⟩
  exact hk.perform (fun _ _ _ h => isPunctual_of_owner h rfl rfl) (fun _ _ h => h)
    (fun wanted hw => absurd hw (ha wanted)) h

theorem isPunctual_prelude (hr : Punctual react) {t : Turn} (h : t.before.IsPunctual) :
    (performAll react t.before t.prelude).IsPunctual := by
  refine performAll_induction (P := Service.IsPunctual) (fun s a ha hs => isPunctual_perform hr hs ?_) h
  rintro wanted rfl
  exact t.wake_notMem_prelude wanted ha

namespace Turn

variable {t : Turn} {b : Boundaries}

theorem outcome_of_none (h : t.evaluation = .ok none) : t.outcome react = .ok none := by
  obtain ⟨zone, hz, -⟩ := zone_of_evaluation h
  rw [outcome, cycle_of_zone react hz, h]
  rfl

/-- **A cycle that comes to boundaries does not fail.** It answers with them, and the wake-up at their
next transition is pending. The timers stay sound. -/
theorem outcome_of_present (hr : Punctual react) (ht : t.before.IsPunctual)
    (h : t.evaluation = .ok (some b)) :
    ∃ wanted, b.nextTransition t.now = .ok wanted ∧ t.outcome react = .ok (some b) ∧
      (t.after react).owner.alarms.IsSound ∧ (t.after react).owner.alarms.pending? = some wanted := by
  obtain ⟨n, -, -, hw⟩ := outlook_of_evaluation h
  obtain ⟨hafter, houtcome⟩ := cycle_of_present react h hw
  obtain ⟨x, hx, hin⟩ := inCalendar_of_nextTransition hw
  rw [hx] at hw hafter houtcome
  obtain ⟨hzone, hsound⟩ := isPunctual_prelude hr ht
  obtain ⟨i, hi⟩ := Moment.exists_instant? hzone
  obtain ⟨hok, hsound', hpending⟩ := schedule_of_instant? hsound hin hi
  rw [woken] at hafter houtcome
  rw [hok] at houtcome
  rw [← hafter] at hpending hsound'
  exact ⟨_, hw, houtcome, hsound', hpending⟩

end Turn

/-- **A cycle is all or nothing.** If it fails, or answers that there are no boundaries because the
evaluation failed, everything is as it was before. If the evaluation has come to boundaries, the cycle
answers with them: it is known whether it is night and what comes next, no alarm clock can fail to be
set for that moment, whatever time it is by then, and the wake-up is pending. -/
theorem cycle_allOrNothing (hr : Punctual react) (t : Turn) (ht : t.before.IsPunctual) :
    ((∃ e, t.outcome react = .error e) ∨ (∃ e, t.evaluation = .error e ∧ t.outcome react = .ok none) →
        t.before.Untouched (t.after react)) ∧
      ∀ b, t.evaluation = .ok (some b) →
        ∃ flag wanted, b.isNight t.now = .ok flag ∧ b.nextTransition t.now = .ok wanted ∧
          (∀ (clock : AlarmClock Unit) (later : Moment), later.zone ≠ none →
            ∃ started, (clock.schedule wanted later ()).2 = .ok started) ∧
          t.outcome react = .ok (some b) ∧
          (t.after react).owner.alarms.pending? = some wanted := by
  constructor
  · rintro (⟨e, he⟩ | ⟨e, heval, -⟩)
    · cases heval : t.evaluation with
      | error e' => exact Turn.untouched_of_error heval
      | ok state =>
        cases state with
        | none =>
          rw [Turn.outcome_of_none heval] at he
          cases he
        | some b =>
          obtain ⟨wanted, -, hok, -, -⟩ := Turn.outcome_of_present hr ht heval
          rw [hok] at he
          cases he
    · exact Turn.untouched_of_error heval
  · intro b heval
    obtain ⟨wanted, hw, hok, -, hpending⟩ := Turn.outcome_of_present hr ht heval
    obtain ⟨flag, hf⟩ := Turn.isNight_of_nextTransition hw
    refine ⟨flag, wanted, hf, hw, fun clock later hlater => ?_, hok, hpending⟩
    obtain ⟨x, rfl, hin⟩ := inCalendar_of_nextTransition hw
    obtain ⟨i, hi⟩ := Moment.exists_instant? hlater
    exact AlarmClock.Sound.exists_started hin hi ()

/-- A listener whose context takes no tasks. -/
def refusedTurn : Turn :=
  ⟨(eveningService (.ofInstant 1687323600000000)).register "lamp" (.named "gone"), some .startup⟩

/-- The same service in a zone that nobody knows. -/
def lostTurn : Turn :=
  ⟨Scenario.setClock refusedTurn.before fun clock => { clock with zone := .error (.unknownZone "Nowhere") },
    some .timeChanged⟩

/-- With a context that takes no tasks and a mirror that is down, the wake-up is asked for all the same;
and where the zone is unknown, nothing happens. -/
theorem allOrNothing_evening :
    lostTurn.before.Untouched (lostTurn.after .idle) ∧
      ∃ b wanted, refusedTurn.outcome .idle = .ok (some b) ∧ b.nextTransition refusedTurn.now = .ok wanted ∧
        (refusedTurn.after .idle).owner.alarms.pending? = some wanted := by
  have hr : Punctual .idle := fun _ _ _ h => h
  have hs : refusedTurn.before.IsPunctual := ⟨by decide, AlarmClock.sound_empty⟩
  have heval : refusedTurn.evaluation =
      .ok (some ⟨1687320000000, 1687377600000, 1687406400000, 1687464000000, by decide⟩) := by
    decide +kernel
  obtain ⟨-, hpresent⟩ := cycle_allOrNothing hr refusedTurn hs
  obtain ⟨-, wanted, -, hw, -, hok, hpending⟩ := hpresent _ heval
  obtain ⟨hfailed, -⟩ := cycle_allOrNothing hr lostTurn hs
  exact ⟨hfailed (Or.inl ⟨_, rfl⟩), _, wanted, hok, hw, hpending⟩

end

end Daylight
