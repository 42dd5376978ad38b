import Daylight.Proofs.Evaluating
import Daylight.Setup

/-!
# What a cycle does

A cycle of the service is a list of acts, one after the other: it asks the calculator, notes in the
log, fans a state out, hands the flag to the mirror, and asks for a wake-up. Which acts they are is
settled by what the service is before the cycle, since whatever listeners do in the meantime cannot
change what was evaluated. `Turn.acts` lists them, and `after_eq_performAll` says that the list is what
the cycle does: performing it, with the service's own operations, leads where the cycle leads.

What a cycle keeps can so be proved one act at a time, and what it sends out can be counted.

## What is proved

* `Kept.notifyAll`: telling all listeners keeps what the journal, the contexts and the listeners keep.
* `after_eq_performAll`: the list of acts is complete.
* `Kept.cycle`, `Kept.drain`: so a cycle keeps what all acts keep, and so does processing the queue.
* `cycle_of_present`: after an evaluation that comes to boundaries, the cycle ends with asking for the
  wake-up, and fails only if that does.
* `exists_wake`: a cycle that answers with boundaries has asked for the wake-up at their next
  transition, as its last act.
-/

namespace Daylight

/-! ### Single operations -/

/-- The service with the rest of its queue. -/
def Service.leave (s : Service) (rest : List Signal) : Service :=
  s.mapOwner fun t => { t with queue := rest }

@[simp] theorem owner_record {ω : Type} (b : Board ω) (write : Journal → Journal) :
    (b.record write).owner = b.owner := by
  unfold Board.record
  split <;> rfl

@[simp] theorem registry_record {ω : Type} (b : Board ω) (write : Journal → Journal) :
    (b.record write).registry = b.registry := by
  unfold Board.record
  split <;> rfl

@[simp] theorem contexts_record {ω : Type} (b : Board ω) (write : Journal → Journal) :
    (b.record write).contexts = b.contexts := by
  unfold Board.record
  split <;> rfl

@[simp] theorem owner_report {ω : Type} (b : Board ω) (entry : LogEntry) :
    (b.report entry).owner = b.owner := owner_record b _

@[simp] theorem registry_report {ω : Type} (b : Board ω) (entry : LogEntry) :
    (b.report entry).registry = b.registry := registry_record b _

/-- Asking for a wake-up is asking the clock of the timers. -/
theorem schedule_timers {s : Service} {clock : AlarmClock Unit}
    (hs : s.owner.alarms = .timers clock) (wanted : Moment) :
    (s.schedule wanted).1.owner =
        { s.owner with alarms := .timers (clock.schedule wanted s.owner.clock.now ()).1 } ∧
      ((s.schedule wanted).2 = .ok () ↔
        ∃ started, (clock.schedule wanted s.owner.clock.now ()).2 = .ok started) := by
  simp only [Service.schedule, hs]
  cases hc : clock.schedule wanted s.owner.clock.now () with
  | mk clock' outcome =>
    dsimp only
    split
    · exact ⟨rfl, iff_of_true rfl ⟨_, rfl⟩⟩
    · rw [owner_report]
      exact ⟨rfl, iff_of_true rfl ⟨_, rfl⟩⟩
    · exact ⟨rfl, by simp⟩

/-! ### Telling the listeners -/

section

variable {ω : Type} {react : Reaction ω} {P : Board ω → Prop}

/-- What writing into the journal, handing tasks to contexts and the listeners all keep. -/
structure Kept (react : Reaction ω) (P : Board ω → Prop) : Prop where
  /-- Writing into the journal keeps it. -/
  record : ∀ b write, P b → P (b.record write)
  /-- Changing a context keeps it. -/
  context : ∀ b id change, P b → P (b.mapContext id change)
  /-- The listeners keep it. -/
  listeners : ∀ b listener state, P b → P (react b listener state).1

theorem Kept.report (hk : Kept react P) {b : Board ω} (h : P b) (entry : LogEntry) :
    P (b.report entry) :=
  hk.record b _ h

theorem Kept.deliver (hk : Kept react P) {b : Board ω} (h : P b) (d : Delivery) :
    P (b.deliver react d) := by
  unfold Board.deliver
  split
  · have hr := hk.listeners _ d.listener d.state
      (hk.record b (fun j => { j with deliveries := j.deliveries ++ [(d.listener, d.state)] }) h)
    dsimp only
    split <;> rename_i heq <;> rw [heq] at hr
    · exact hr
    · exact hk.report hr _
  · exact h

/-- Running tasks keeps what every part of it keeps. -/
theorem Kept.foldl_deliver (hk : Kept react P) {b : Board ω} (h : P b) (tasks : List Delivery) :
    P (tasks.foldl (Board.deliver react) b) := by
  induction tasks generalizing b with
  | nil => exact h
  | cons d tasks ih => exact ih (hk.deliver h d)

theorem Kept.post (hk : Kept react P) {b : Board ω} (h : P b) (d : Delivery) :
    P (b.post react d) := by
  unfold Board.post
  dsimp only
  split
  · exact hk.report h _
  · exact hk.deliver h d
  all_goals
    split
    · exact hk.context _ _ _ h
    · exact hk.report h _

/-- Telling all listeners keeps what every part of it keeps. -/
theorem Kept.notifyAll (hk : Kept react P) {b : Board ω} (h : P b) (state : Option Boundaries) :
    P (b.notifyAll react state) := by
  unfold Board.notifyAll
  generalize b.registry.deliveries state = ds
  induction ds generalizing b with
  | nil => exact h
  | cons d ds ih => exact ih (hk.post h d)

theorem Kept.publish (hk : Kept react P)
    (hlast : ∀ b state, P b → P (b.mapRegistry fun r => { r with last := state })) {b : Board ω} (h : P b)
    (state : Option Boundaries) : P (b.publish react state).1 := by
  unfold Board.publish
  split
  · exact h
  · exact hk.notifyAll (hlast b state h) state

theorem Kept.run (hk : Kept react P) {b : Board ω} (h : P b) (id : ContextId) :
    P (b.run react id).1 := by
  unfold Board.run
  exact hk.foldl_deliver (hk.context b id _ h) _

end

/-! ### Acts -/

/-- One cycle that is run. -/
structure Turn where
  /-- The service before the cycle. -/
  before : Service
  /-- Why the cycle is run. -/
  reason : Option Trigger

/-- One thing that a cycle does. -/
inductive Act where
  /-- Ask the calculator. -/
  | ask (queries : List Query)
  /-- Write into the log. -/
  | note (entry : LogEntry)
  /-- Keep a state as the last one, and tell all listeners. -/
  | fanOut (state : Option Boundaries)
  /-- Hand the flag to the mirror. -/
  | mirror (flag : Bool)
  /-- Ask for a wake-up. -/
  | wake (wanted : Moment)

/-- What an act does to the service. -/
def Act.perform (react : Reaction Tracker) (s : Service) : Act → Service
  | .ask queries => s.mapOwner fun t => { t with asked := t.asked ++ queries }
  | .note entry => s.report entry
  | .fanOut state => (s.mapRegistry fun r => { r with last := state }).notifyAll react state
  | .mirror flag => s.mirrorFlag flag
  | .wake wanted => (s.schedule wanted).1

/-- An act keeps what its parts keep: writing, telling the listeners, and what changes the tracker. -/
theorem Kept.perform {react : Reaction Tracker} {P : Service → Prop} (hk : Kept react P)
    (howner : ∀ s asked mirror, P s → P (s.mapOwner fun t => { t with asked := asked, mirror := mirror }))
    (hlast : ∀ s state, P s → P (s.mapRegistry fun r => { r with last := state }))
    {a : Act} (hwake : ∀ wanted, a = .wake wanted → ∀ s, P s → P (s.schedule wanted).1)
    {s : Service} (h : P s) : P (a.perform react s) := by
  cases a with
  | ask queries => exact howner s (s.owner.asked ++ queries) s.owner.mirror h
  | note entry => exact hk.report h entry
  | fanOut state => exact hk.notifyAll (hlast s state h) state
  | mirror flag =>
    rw [Act.perform, Service.mirrorFlag]
    split
    · exact howner s s.owner.asked _ h
    · exact hk.report h _
  | wake wanted => exact hwake wanted rfl s h

/-- What acts do to the service, one after the other. -/
def performAll (react : Reaction Tracker) (s : Service) (acts : List Act) : Service :=
  acts.foldl (Act.perform react) s

@[simp] theorem performAll_nil (react : Reaction Tracker) (s : Service) : performAll react s [] = s := rfl

@[simp] theorem performAll_cons (react : Reaction Tracker) (s : Service) (a : Act) (acts : List Act) :
    performAll react s (a :: acts) = performAll react (a.perform react s) acts := rfl

@[simp] theorem performAll_append (react : Reaction Tracker) (s : Service) (acts more : List Act) :
    performAll react s (acts ++ more) = performAll react (performAll react s acts) more :=
  List.foldl_append

/-- What holds before some acts, and is kept by every act there is among them, holds after them. -/
theorem performAll_induction {react : Reaction Tracker} {P : Service → Prop} {acts : List Act}
    (hstep : ∀ s, ∀ a ∈ acts, P s → P (a.perform react s)) {s : Service} (hs : P s) :
    P (performAll react s acts) := by
  induction acts generalizing s with
  | nil => exact hs
  | cons a acts ih =>
    rw [performAll_cons]
    refine ih (fun s a ha => hstep s a (List.mem_cons_of_mem _ ha)) ?_
    exact hstep s a List.mem_cons_self hs

namespace Turn

/-- What the clock shows in the cycle. -/
def now (t : Turn) : Moment := t.before.owner.clock.now

/-- The location of the cycle. -/
def location? (t : Turn) : Option Location := t.before.owner.location?

/-- The service after the cycle. -/
def after (t : Turn) (react : Reaction Tracker) : Service := (t.before.cycle react t.reason).1

/-- What the cycle answers. -/
def outcome (t : Turn) (react : Reaction Tracker) : Except Failure (Option Boundaries) :=
  (t.before.cycle react t.reason).2

/-- The evaluation of the cycle. -/
def evaluation (t : Turn) : Except Failure (Option Boundaries) := do
  let zone ← t.before.owner.clock.zone
  evaluate t.before.owner.almanac.calculator t.location? t.now zone

/-- The questions of the cycle. -/
def questions (t : Turn) : List Query :=
  match t.before.owner.clock.zone with
  | .ok zone => (inquire t.before.owner.almanac.calculator t.location? t.now zone).asked
  | .error _ => []

/-- Whether a state is news. -/
def IsNews (t : Turn) (state : Option Boundaries) : Prop := t.before.registry.last ≠ state

instance (t : Turn) (state : Option Boundaries) : Decidable (t.IsNews state) :=
  inferInstanceAs (Decidable (_ ≠ _))

/-- How a state is published. -/
def announcement (t : Turn) (state : Option Boundaries) : List Act :=
  if t.IsNews state then
    [.fanOut state, .note ⟨.info, "Twilight state changed on " ++ Service.reasonText t.reason ++ ": " ++
      Service.stateText state, none⟩]
  else []

/-- How the flag of boundaries is mirrored. -/
def mirroring (t : Turn) (b : Boundaries) : List Act :=
  if t.IsNews (some b) then
    match b.isNight t.now with
    | .ok flag => [.mirror flag]
    | .error _ => []
  else []

/-- How the next wake-up is asked for. -/
def waking (t : Turn) (b : Boundaries) : List Act :=
  match b.nextTransition t.now with
  | .ok wanted => [.wake wanted]
  | .error _ => []

/-- What is written about a failed evaluation. -/
def complaint (t : Turn) (e : Failure) : List Act :=
  (Service.absenceEntries t.location? e).map .note ++
    if e.kind = .calculation then
      [.note ⟨.warning, "Twilight evaluation failed on " ++ Service.reasonText t.reason ++ ": " ++
        e.message, none⟩]
    else []

/-- What the cycle does, before it asks for a wake-up. -/
def prelude (t : Turn) : List Act :=
  match t.before.owner.clock.zone, t.evaluation with
  | .error _, _ => []
  | .ok _, .ok none => .ask t.questions :: t.announcement none
  | .ok _, .ok (some b) => .ask t.questions :: (t.announcement (some b) ++ t.mirroring b)
  | .ok _, .error e => .ask t.questions :: t.complaint e

/-- **What the cycle does.** -/
def acts (t : Turn) : List Act :=
  match t.evaluation with
  | .ok (some b) => t.prelude ++ t.waking b
  | _ => t.prelude

/-! ### The list is complete -/

variable (react : Reaction Tracker) {t : Turn} {b : Boundaries}

/-- Where there is a next transition, it is known whether it is night. -/
theorem isNight_of_nextTransition {now wanted : Moment} (h : b.nextTransition now = .ok wanted) :
    ∃ flag, b.isNight now = .ok flag := by
  obtain ⟨n, hn, -⟩ := bind_eq_ok_iff.mp h
  exact ⟨b.isNightAt n, by simp only [Boundaries.isNight, hn]; rfl⟩

/-- Publishing, where the registry keeps what it kept before the cycle. -/
theorem announce_eq {s : Service} (hs : s.registry.last = t.before.registry.last)
    (state : Option Boundaries) :
    s.announce react t.reason state =
      (performAll react s (t.announcement state), decide (t.IsNews state)) := by
  simp only [Service.announce, Board.publish, announcement, hs, IsNews]
  by_cases h : t.before.registry.last = state
  · simp [h]
  · simp only [ne_eq, h, not_false_eq_true, if_true, decide_true]
    rfl

/-- The wake-up at a moment, asked for after all that comes before it in the cycle. -/
def woken (t : Turn) (react : Reaction Tracker) (wanted : Moment) : Service × Except Failure Unit :=
  (performAll react t.before t.prelude).schedule wanted

/-- What follows an evaluation that comes to boundaries. Nothing but the wake-up can fail when they
have a next transition. -/
theorem conclude_of_nextTransition {s : Service} (hs : s.registry.last = t.before.registry.last)
    {wanted : Moment} (hw : b.nextTransition t.now = .ok wanted) :
    s.conclude react t.reason t.now (some b) =
      let woken := (performAll react s (t.announcement (some b) ++ t.mirroring b)).schedule wanted
      (woken.1, (fun _ => some b) <$> woken.2) := by
  obtain ⟨flag, hf⟩ := isNight_of_nextTransition hw
  rw [Service.conclude, announce_eq react hs]
  by_cases h : t.IsNews (some b)
  · simp only [h, decide_true, if_true, Service.mirrorNight, hf, Service.scheduleNext, hw, mirroring,
      performAll_append]
    rw [performAll_cons, performAll_nil, Act.perform]
    cases ((performAll react s (t.announcement (some b))).mirrorFlag flag).schedule wanted with
    | mk s' outcome => cases outcome <;> rfl
  · simp only [h, decide_false, Bool.false_eq_true, if_false, Service.scheduleNext, hw, mirroring,
      List.append_nil]
    cases (performAll react s (t.announcement (some b))).schedule wanted with
    | mk s' outcome => cases outcome <;> rfl

/-- A cycle in a zone asks its questions, and goes on as its evaluation comes out. -/
theorem cycle_of_zone {zone : Zone} (hz : t.before.owner.clock.zone = .ok zone) :
    t.before.cycle react t.reason =
      let s := Act.perform react t.before (.ask t.questions)
      match t.evaluation with
      | .ok state => s.conclude react t.reason t.now state
      | .error e =>
        let s := s.reportAbsence t.location? e
        if e.kind = .calculation then
          (s.report ⟨.warning, "Twilight evaluation failed on " ++ Service.reasonText t.reason ++ ": " ++
            e.message, none⟩, .ok none)
        else (s, .error e) := by
  have heval : t.evaluation =
      (inquire t.before.owner.almanac.calculator t.location? t.now zone).outcome := by
    rw [inquire_outcome, evaluation, hz]
    rfl
  rw [Service.cycle, heval]
  simp only [hz, questions, Act.perform]
  rfl

/-- An evaluation that is completed has a zone. -/
theorem zone_of_evaluation {state : Option Boundaries} (h : t.evaluation = .ok state) :
    ∃ zone, t.before.owner.clock.zone = .ok zone ∧
      evaluate t.before.owner.almanac.calculator t.location? t.now zone = .ok state :=
  bind_eq_ok_iff.mp h

/-- What an evaluation comes to can be used in its cycle. -/
theorem outlook_of_evaluation (h : t.evaluation = .ok (some b)) :
    ∃ n, Boundaries.millisOf t.now = .ok n ∧ b.isNight t.now = .ok (b.isNightAt n) ∧
      b.nextTransition t.now = .ok (.ofInstant (b.transitionAfter n * 1000)) := by
  obtain ⟨zone, -, hb⟩ := zone_of_evaluation h
  exact exists_outlook hb

theorem prelude_of_present (h : t.evaluation = .ok (some b)) :
    t.prelude = .ask t.questions :: (t.announcement (some b) ++ t.mirroring b) := by
  obtain ⟨zone, hz, -⟩ := zone_of_evaluation h
  rw [prelude, hz, h]

/-- **A cycle that comes to boundaries ends with asking for the wake-up.** It fails only if the
wake-up cannot be had. -/
theorem cycle_of_present (h : t.evaluation = .ok (some b)) {wanted : Moment}
    (hw : b.nextTransition t.now = .ok wanted) :
    t.after react = (t.woken react wanted).1 ∧
      t.outcome react = (fun _ => some b) <$> (t.woken react wanted).2 := by
  obtain ⟨zone, hz, -⟩ := zone_of_evaluation h
  have hcycle := cycle_of_zone react hz
  rw [h] at hcycle
  simp only [conclude_of_nextTransition react (t := t)
    (s := Act.perform react t.before (.ask t.questions)) rfl hw] at hcycle
  rw [after, outcome, woken, prelude_of_present h, performAll_cons, hcycle]
  exact ⟨rfl, rfl⟩

theorem performAll_map_note (s : Service) (entries : List LogEntry) :
    performAll react s (entries.map .note) = entries.foldl Board.report s := by
  induction entries generalizing s with
  | nil => rfl
  | cons entry entries ih => exact ih _

/-- **The list of acts is what the cycle does.** -/
theorem after_eq_performAll (t : Turn) :
    t.after react = performAll react t.before t.acts := by
  cases hz : t.before.owner.clock.zone with
  | error e =>
    have heval : t.evaluation = .error e := by rw [evaluation, hz]; rfl
    simp only [after, Service.cycle, hz, acts, heval, prelude, performAll_nil]
  | ok zone =>
    have hcycle := cycle_of_zone react hz
    cases heval : t.evaluation with
    | error e =>
      rw [after, hcycle, acts, heval]
      simp only [prelude, hz, heval, complaint, Service.reportAbsence, performAll_cons,
        performAll_append, performAll_map_note]
      by_cases hk : e.kind = .calculation
      · simp only [if_pos hk]
        rfl
      · simp only [if_neg hk]
        rfl
    | ok state =>
      cases state with
      | none =>
        rw [after, hcycle, acts, heval]
        simp only [Service.conclude, prelude, hz, heval, performAll_cons]
        rw [announce_eq react (t := t) (s := Act.perform react t.before (.ask t.questions)) rfl]
      | some b =>
        obtain ⟨n, -, -, hw⟩ := outlook_of_evaluation heval
        rw [acts, heval]
        simp only [(cycle_of_present react heval hw).1, woken, waking, hw, performAll_append]
        rfl

variable {react}

/-- Only an evaluation that comes to boundaries lets a cycle answer with them. -/
theorem evaluation_of_outcome (h : t.outcome react = .ok (some b)) :
    t.evaluation = .ok (some b) := by
  rw [outcome] at h
  cases hz : t.before.owner.clock.zone with
  | error e =>
    simp only [Service.cycle, hz] at h
    cases h
  | ok zone =>
    rw [cycle_of_zone react hz] at h
    cases heval : t.evaluation with
    | error e =>
      simp only [heval] at h
      split at h <;> cases h
    | ok state =>
      rw [heval] at h
      cases state with
      | none =>
        simp only [Service.conclude] at h
        cases h
      | some b' =>
        obtain ⟨n, -, -, hw⟩ := outlook_of_evaluation heval
        simp only [conclude_of_nextTransition react (t := t)
          (s := Act.perform react t.before (.ask t.questions)) rfl hw] at h
        obtain ⟨-, -, hb⟩ := map_eq_ok_iff.mp h
        rw [hb]

/-- What a cycle has done that answers with boundaries: it has asked for the wake-up at their next
transition, as its last act, and has it. -/
theorem exists_wake (h : t.outcome react = .ok (some b)) :
    ∃ x, b.nextTransition t.now = .ok (.ofInstant x) ∧
      t.after react = (t.woken react (.ofInstant x)).1 ∧
      (t.woken react (.ofInstant x)).2 = .ok () := by
  have heval := evaluation_of_outcome h
  obtain ⟨n, -, -, hw⟩ := outlook_of_evaluation heval
  obtain ⟨hafter, houtcome⟩ := cycle_of_present react heval hw
  rw [houtcome] at h
  obtain ⟨_, hwoken, -⟩ := map_eq_ok_iff.mp h
  exact ⟨_, hw, hafter, hwoken⟩

/-- Before the end of a cycle no wake-up is asked for. -/
theorem wake_notMem_prelude (t : Turn) (wanted : Moment) : .wake wanted ∉ t.prelude := by
  have hannouncement : ∀ state, .wake wanted ∉ t.announcement state := by
    intro state
    unfold announcement
    split <;> simp
  have hmirroring : ∀ b, .wake wanted ∉ t.mirroring b := by
    intro b
    unfold mirroring
    split
    · split <;> simp
    · simp
  have hcomplaint : ∀ e, .wake wanted ∉ t.complaint e := by
    intro e
    unfold complaint
    split <;> simp
  unfold prelude
  split
  · simp
  · simp [hannouncement]
  · simp [hannouncement, hmirroring]
  · simp [hcomplaint]

/-- The wake-up of a cycle is a moment of universal time. -/
theorem eq_ofInstant_of_wake_mem {t : Turn} {wanted : Moment} (h : .wake wanted ∈ t.acts) :
    ∃ x, wanted = .ofInstant x := by
  unfold acts at h
  split at h
  · rename_i b heval
    obtain ⟨n, -, -, hw⟩ := outlook_of_evaluation heval
    simp only [List.mem_append, waking, hw, List.mem_singleton, Act.wake.injEq] at h
    exact ⟨_, h.resolve_left (t.wake_notMem_prelude wanted)⟩
  · exact absurd h (t.wake_notMem_prelude wanted)

/-- A trigger whose cycle does not fail is processed by the cycle. -/
theorem process_eq_after {s : Service} {trigger : Trigger} {state : Option Boundaries}
    (h : (⟨s, some trigger⟩ : Turn).outcome react = .ok state) :
    s.process react trigger = (⟨s, some trigger⟩ : Turn).after react := by
  rw [outcome] at h
  unfold Service.process after
  cases hc : s.cycle react (some trigger) with
  | mk s' outcome =>
    rw [hc] at h
    dsimp only at h
    rw [h]

end Turn

section

variable {react : Reaction Tracker} {P : Service → Prop} (hk : Kept react P)
  (howner : ∀ s asked mirror, P s → P (s.mapOwner fun t => { t with asked := asked, mirror := mirror }))
  (hlast : ∀ s state, P s → P (s.mapRegistry fun r => { r with last := state }))
  (hwake : ∀ s wanted, P s → P (s.schedule wanted).1)

include hk howner hlast hwake

/-- **A cycle keeps what its acts keep**, whichever they are. -/
theorem Kept.cycle {s : Service} (h : P s) (reason : Option Trigger) : P (s.cycle react reason).1 := by
  show P ((⟨s, reason⟩ : Turn).after react)
  rw [Turn.after_eq_performAll]
  refine performAll_induction (fun s' a _ hs' => ?_) h
  exact hk.perform howner hlast (fun wanted _ s => hwake s wanted) hs'

theorem Kept.process {s : Service} (h : P s) (trigger : Trigger) : P (s.process react trigger) := by
  have hcycle := hk.cycle howner hlast hwake h (some trigger)
  unfold Service.process
  split
  · rename_i heq
    rwa [heq] at hcycle
  · rename_i heq
    rw [heq] at hcycle
    exact hk.report hcycle _

/-- Processing the queue keeps what its cycles keep, if it does not depend on the queue. -/
theorem Kept.drain (hleave : ∀ s rest, P s → P (s.leave rest)) (bound : Nat) {s : Service} (h : P s) :
    P (s.drain react bound).1 := by
  induction bound generalizing s with
  | zero => exact h
  | succ bound ih =>
    unfold Service.drain
    split
    · exact h
    · exact hleave s _ h
    · exact ih (hk.process howner hlast hwake (hleave s _ h) _)

end

/-! ### A service far from the zone of its clock -/

/-- A service at a moment, with sunrises in the evening and a mirror that is down. -/
def eveningService (now : Moment) : Service :=
  .ofTracker [] (.ofParts ⟨now, .ok .utc⟩ ⟨eveningSunrise.calculator, []⟩ (.fixed home)
    (.timers .empty) (.memory .empty true))

/-- Its first cycle, at 05:00. -/
def eveningTurn : Turn := ⟨eveningService (.ofInstant 1687323600000000), some .startup⟩

/-! ### A service by day -/

/-- Sunrise at 06:00 and sunset at 18:00. -/
def sixToSix : DailyTimes := ⟨21600 * second, 64800 * second, 0, 0⟩

/-- A service at 12:00 that was not started yet, with a mirror that can be written. -/
def noonService : Service :=
  .ofTracker [] (.ofParts ⟨.ofInstant 1687348800000000, .ok .utc⟩ ⟨sixToSix.calculator, []⟩ (.fixed home)
    (.timers .empty) (.memory .empty false))

/-- The boundaries of that day. -/
def noonBoundaries : Boundaries :=
  ⟨1687284000000, 1687327200000, 1687370400000, 1687413600000, by decide⟩

end Daylight
