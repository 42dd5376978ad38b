import Daylight.Proofs.Cycle
import Mathlib.Logic.Relation

/-!
# No fix is lost

A fix is taken in two steps: it is written down as the last one, and then a trigger is put on the queue.
Others may do anything between the two. The loop takes a trigger off the queue, and some time later runs
a cycle for it, which looks at the last fix when it begins. Any number of reporters and of loops may be
at work at the same time, and cycles may also be run directly.

`Traffic` is a service with all that is under way around it, and `Move` one step of anybody.

## What is proved

* `forwards_after`: a cycle takes nothing off the queue, and a fix that a listener hands in during the
  cycle is followed by its trigger.
* `isFollowedUp_move`: what every step keeps. Once a fix was accepted, the last cycle has begun with the
  last fix, or a cycle is still to come: its trigger is on the queue, or was taken off it, or its
  reporter stands between the two steps.
* `exists_cycle_of_moves`: the last cycle is one that was run among the steps.
* `resolved_of_moves`: so when nothing is under way any more, the last cycle has begun with the last fix, and
  has made its evaluation for it.
* `moves_onLocation`, `moves_drain`: what the service does when it takes a fix, and what its loop does,
  are such steps.
-/

namespace Daylight

open Relation (ReflTransGen)

/-- A service with what is under way around it. -/
structure Traffic where
  /-- The service. -/
  service : Service
  /-- The fixes that were written down and whose trigger is still to be put on the queue. -/
  midway : List Location
  /-- The triggers that were taken off the queue and wait for their cycle. -/
  taken : List Trigger
  /-- The cycle that was run last. -/
  turn : Option Turn
  /-- The fixes that were written down. -/
  accepted : List Location

/-- A service around which nothing has happened yet. -/
def Traffic.ofService (s : Service) : Traffic := ⟨s, [], [], none, []⟩

/-- One step of anybody. -/
inductive Move (react : Reaction Tracker) : Traffic → Traffic → Prop
  /-- A reporter writes a fix down. -/
  | write (x : Traffic) {fix : Location} : Tracker.isGood fix = true →
      Move react x { x with
        service := x.service.mapOwner (·.remember fix)
        midway := x.midway ++ [fix]
        accepted := x.accepted ++ [fix] }
  /-- A reporter that has written a fix down puts its trigger on the queue. -/
  | enqueue {x : Traffic} {fix : Location} (before behind : List Location) :
      x.midway = before ++ fix :: behind →
      Move react x { x with service := x.service.submit .locationChanged, midway := before ++ behind }
  /-- Another trigger is submitted. -/
  | submit (x : Traffic) (trigger : Trigger) : Move react x { x with service := x.service.submit trigger }
  /-- A trigger is taken off the queue. -/
  | take {x : Traffic} {trigger : Trigger} {rest : List Signal} :
      x.service.owner.queue = .trigger trigger :: rest →
      Move react x { x with service := x.service.leave rest, taken := x.taken ++ [trigger] }
  /-- The cycle of a trigger that was taken is run. -/
  | work {x : Traffic} {trigger : Trigger} (before behind : List Trigger) :
      x.taken = before ++ trigger :: behind →
      Move react x { x with
        service := x.service.process react trigger
        taken := before ++ behind
        turn := some ⟨x.service, some trigger⟩ }
  /-- A cycle is run directly. -/
  | direct (x : Traffic) (reason : Option Trigger) :
      Move react x { x with service := (x.service.cycle react reason).1, turn := some ⟨x.service, reason⟩ }
  /-- A signal to stop is taken off the queue. -/
  | drop {x : Traffic} {rest : List Signal} : x.service.owner.queue = .stop :: rest →
      Move react x { x with service := x.service.leave rest }
  /-- Something else happens that leaves the last fix alone and takes nothing off the queue. -/
  | other {x : Traffic} {s : Service} : s.owner.cache = x.service.owner.cache →
      x.service.owner.queue ⊆ s.owner.queue → Move react x { x with service := s }

/-! ### What a cycle does to the fix and the queue -/

/-- Nothing was taken off the queue, and if the last fix is another one, its trigger is on the queue. -/
def Service.Forwards (s s' : Service) : Prop :=
  s.owner.queue ⊆ s'.owner.queue ∧
    (s'.owner.cache = s.owner.cache ∨
      s'.owner.cache ≠ none ∧ .trigger .locationChanged ∈ s'.owner.queue)

theorem Service.Forwards.refl (s : Service) : s.Forwards s := ⟨List.Subset.refl _, Or.inl rfl⟩

/-- Listeners that take nothing off the queue, and put the trigger of every fix that they hand in on
it. -/
def Forwarding (react : Reaction Tracker) : Prop :=
  ∀ s : Service, ∀ listener state, s.Forwards (react s listener state).1

theorem Service.Forwards.trans {s s' s'' : Service} (h : s.Forwards s') (h' : s'.Forwards s'') :
    s.Forwards s'' := by
  obtain ⟨hq, hc⟩ := h
  obtain ⟨hq', hc'⟩ := h'
  refine ⟨List.Subset.trans hq hq', ?_⟩
  obtain hsame | hnew := hc'
  · obtain hold | ⟨hne, hmem⟩ := hc
    · exact Or.inl (hsame.trans hold)
    · exact Or.inr ⟨by rwa [hsame], hq' hmem⟩
  · exact Or.inr hnew

theorem Service.Forwards.of_eq {s s' s'' : Service} (h : s.Forwards s')
    (hc : s''.owner.cache = s'.owner.cache) (hq : s''.owner.queue = s'.owner.queue) : s.Forwards s'' :=
  h.trans ⟨by rw [hq]; exact List.Subset.refl _, Or.inl hc⟩

variable {react : Reaction Tracker}

/-- Asking for a wake-up leaves the last fix and the queue alone. -/
theorem cache_queue_schedule (s : Service) (wanted : Moment) :
    (s.schedule wanted).1.owner.cache = s.owner.cache ∧
      (s.schedule wanted).1.owner.queue = s.owner.queue := by
  cases hs : s.owner.alarms with
  | manual pending => simp only [Service.schedule, hs, Board.mapOwner, and_self]
  | timers clock =>
    rw [(schedule_timers hs wanted).1]
    exact ⟨rfl, rfl⟩

/-- **A cycle takes nothing off the queue**, and a fix that is handed in meanwhile is followed by its
trigger. -/
theorem forwards_after (hr : Forwarding react) (t : Turn) : t.before.Forwards (t.after react) := by
  have hk : Kept react t.before.Forwards :=
    ⟨fun s' write h => h.of_eq (by rw [owner_record]) (by rw [owner_record]), fun _ _ _ h => h,
      fun s' listener state h => h.trans (hr s' listener state)⟩
  refine hk.cycle (fun _ _ _ h => h.of_eq rfl rfl) (fun _ _ h => h) (fun s' wanted h => ?_) (.refl _)
    t.reason
  obtain ⟨hc, hq⟩ := cache_queue_schedule s' wanted
  exact h.of_eq hc hq

/-- Processing a trigger does to the tracker what its cycle does. -/
theorem owner_process (react : Reaction Tracker) (s : Service) (trigger : Trigger) :
    (s.process react trigger).owner = ((⟨s, some trigger⟩ : Turn).after react).owner := by
  unfold Service.process Turn.after
  cases s.cycle react (some trigger) with
  | mk s' outcome =>
    cases outcome with
    | ok state => rfl
    | error e => rw [owner_report]

/-! ### What every step keeps -/

namespace Traffic

/-- The last cycle has begun with the fix that is the last one now. -/
def Resolved (x : Traffic) : Prop :=
  ∃ t, x.turn = some t ∧ t.location? = x.service.owner.cache

/-- **Every accepted fix is followed up.** Either the last cycle has begun with the last fix, or a cycle
is still to come. -/
def IsFollowedUp (x : Traffic) : Prop :=
  x.accepted = [] ∨ x.service.owner.cache ≠ none ∧
    (x.Resolved ∨ .trigger .locationChanged ∈ x.service.owner.queue ∨ x.taken ≠ [] ∨ x.midway ≠ [])

/-- After a cycle every accepted fix is followed up, whatever is under way. -/
theorem isFollowedUp_of_cycle {t : Turn} {y : Traffic} (hb : y.accepted = [] ∨ t.before.owner.cache ≠ none)
    (ht : y.turn = some t) (hy : t.before.Forwards y.service) : y.IsFollowedUp := by
  obtain hb | hb := hb
  · exact Or.inl hb
  obtain ⟨fix, hfix⟩ := Option.ne_none_iff_exists'.mp hb
  have hlocation : t.location? = t.before.owner.cache := by
    rw [Turn.location?, Tracker.location?, hfix]
  obtain ⟨-, hsame | ⟨hne, hmem⟩⟩ := hy
  · exact Or.inr ⟨by rwa [hsame], Or.inl ⟨t, ht, by rw [hlocation, hsame]⟩⟩
  · exact Or.inr ⟨hne, Or.inr (Or.inl hmem)⟩

end Traffic

/-- **The step lemma.** Whoever takes a step, accepted fixes stay followed up. -/
theorem isFollowedUp_move (hr : Forwarding react) {x y : Traffic} (hx : x.IsFollowedUp)
    (h : Move react x y) : y.IsFollowedUp := by
  have hcache : x.accepted = [] ∨ x.service.owner.cache ≠ none := hx.imp_right And.left
  cases h with
  | write hgood => exact Or.inr ⟨nofun, Or.inr (Or.inr (Or.inr (by simp)))⟩
  | enqueue before behind hm =>
    refine hx.imp_right fun ⟨hne, _⟩ => ⟨hne, Or.inr (Or.inl ?_)⟩
    simp [Service.submit, Board.mapOwner, Tracker.submit, Tracker.enqueue]
  | submit trigger =>
    refine hx.imp_right fun ⟨hne, hway⟩ => ⟨hne, hway.imp_right (Or.imp_left fun hmem => ?_)⟩
    exact List.mem_append_left _ hmem
  | take hq => exact hx.imp_right fun ⟨hne, _⟩ => ⟨hne, Or.inr (Or.inr (Or.inl (by simp)))⟩
  | @work trigger before behind ht =>
    refine Traffic.isFollowedUp_of_cycle (t := ⟨x.service, some trigger⟩) hcache rfl ?_
    have hafter := forwards_after hr ⟨x.service, some trigger⟩
    have howner := owner_process react x.service trigger
    exact hafter.of_eq (by rw [howner]) (by rw [howner])
  | direct reason =>
    exact Traffic.isFollowedUp_of_cycle (t := ⟨x.service, reason⟩) hcache rfl (forwards_after hr _)
  | drop hq =>
    refine hx.imp_right fun ⟨hne, hway⟩ => ⟨hne, hway.imp_right (Or.imp_left fun hmem => ?_)⟩
    rw [hq] at hmem
    exact (List.mem_cons.mp hmem).resolve_left nofun
  | other hc hq =>
    refine hx.imp_right fun ⟨hne, hway⟩ => ⟨by rwa [hc], ?_⟩
    obtain ⟨t, ht, hl⟩ | hway := hway
    · exact Or.inl ⟨t, ht, hl.trans hc.symm⟩
    · exact Or.inr (hway.imp_left fun hmem => hq hmem)

/-- **The run lemma.** -/
theorem isFollowedUp_of_moves (hr : Forwarding react) {s : Service} {x : Traffic}
    (h : ReflTransGen (Move react) (.ofService s) x) : x.IsFollowedUp := by
  induction h with
  | refl => exact Or.inl rfl
  | tail _ hlast ih => exact isFollowedUp_move hr ih hlast

/-- The last cycle was run in one of the steps, and no other one since. -/
theorem exists_cycle_of_moves {s : Service} {x : Traffic} {t : Turn}
    (h : ReflTransGen (Move react) (.ofService s) x) (ht : x.turn = some t) :
    ∃ y z, ReflTransGen (Move react) (.ofService s) y ∧ Move react y z ∧ ReflTransGen (Move react) z x ∧
      y.service = t.before ∧ z.service.owner = (t.after react).owner ∧ z.turn = some t := by
  induction h with
  | refl => cases ht
  | @tail w x hw hlast ih =>
    -- Any step but a cycle leaves the last cycle as it is.
    have hkeeps : w.turn = some t → ∃ y z, ReflTransGen (Move react) (.ofService s) y ∧ Move react y z ∧
        ReflTransGen (Move react) z x ∧ y.service = t.before ∧ z.service.owner = (t.after react).owner ∧
        z.turn = some t := by
      intro hwt
      obtain ⟨y, z, hy, hcycle, hz, hrest⟩ := ih hwt
      exact ⟨y, z, hy, hcycle, hz.tail hlast, hrest⟩
    cases hlast with
    | @work trigger before behind htaken =>
      obtain rfl := Option.some.inj ht
      exact ⟨w, _, hw, .work before behind htaken, .refl, rfl, owner_process react w.service trigger, rfl⟩
    | direct reason =>
      obtain rfl := Option.some.inj ht
      exact ⟨w, _, hw, .direct w reason, .refl, rfl, rfl, rfl⟩
    | write | enqueue | submit | take | drop | other => exact hkeeps ht

/-- **No fix is lost.** Whatever order the steps come in: when a fix was accepted, the queue is empty,
no trigger that was taken waits for its cycle, and no reporter stands between its two steps, then the
last cycle has begun with the fix that is the last one now. Its evaluation was made for this fix, and what it did
is what this evaluation makes of it; and it was run as one of the steps. -/
theorem resolved_of_moves (hr : Forwarding react) {s : Service} {x : Traffic}
    (h : ReflTransGen (Move react) (.ofService s) x) (hq : x.service.owner.queue = [])
    (ht : x.taken = []) (hm : x.midway = []) (ha : x.accepted ≠ []) :
    ∃ t fix, x.turn = some t ∧ x.service.owner.cache = some fix ∧ t.location? = some fix ∧
      (t.evaluation = do
        let zone ← t.before.owner.clock.zone
        evaluate t.before.owner.almanac.calculator (some fix) t.now zone) ∧
      t.after react = performAll react t.before t.acts ∧
      ∃ y z, ReflTransGen (Move react) (.ofService s) y ∧ Move react y z ∧ ReflTransGen (Move react) z x ∧
        y.service = t.before ∧ z.service.owner = (t.after react).owner ∧ z.turn = some t := by
  obtain ⟨hne, hway⟩ := (isFollowedUp_of_moves hr h).resolve_left ha
  obtain ⟨fix, hfix⟩ := Option.ne_none_iff_exists'.mp hne
  obtain ⟨t, hturn, hl⟩ | hmem | htaken | hmidway := hway
  · have hlocation : t.location? = some fix := hl.trans hfix
    refine ⟨t, fix, hturn, hfix, hlocation, ?_, t.after_eq_performAll react, exists_cycle_of_moves h hturn⟩
    rw [Turn.evaluation, hlocation]
  · rw [hq] at hmem
    cases hmem
  · exact absurd ht htaken
  · exact absurd hm hmidway

/-- A fix from another place. -/
def abroad : Location := ⟨51.5, -0.1, none, none, "gps", by decide, by decide⟩

/-- Two reporters write their fixes down, one after the other; the trigger of the first one is processed
in between, and a cycle is run directly before the second one has put its trigger on the queue. In the
end the last cycle has begun with the second fix, and was evaluated for it. -/
theorem resolved_of_rivals :
    ∃ (x : Traffic) (t : Turn), ReflTransGen (Move .idle)
        (.ofService (eveningService (.ofInstant 1687323600000000))) x ∧
      x.accepted = [home, abroad] ∧ x.service.owner.queue = [] ∧ x.taken = [] ∧ x.midway = [] ∧
      x.turn = some t ∧ t.location? = x.service.owner.cache ∧
      (t.evaluation = do
        let zone ← t.before.owner.clock.zone
        evaluate t.before.owner.almanac.calculator (some abroad) t.now zone) := by
  have hgood : Tracker.isGood home = true ∧ Tracker.isGood abroad = true := by decide +kernel
  have hfirst : Move .idle (.ofService (eveningService (.ofInstant 1687323600000000))) _ :=
    .write _ hgood.1
  have hrun := ReflTransGen.single hfirst
    |>.tail (.write _ hgood.2)
    |>.tail (.enqueue [] [abroad] rfl)
    |>.tail (.take rfl)
    |>.tail (.work [] [] rfl)
    |>.tail (.direct _ none)
    |>.tail (.enqueue [] [] rfl)
    |>.tail (.take (by decide +kernel : _ = [Signal.trigger .locationChanged]))
    |>.tail (.work [] [] rfl)
  obtain ⟨t, fix, hturn, hfix, hl, heval, -⟩ := resolved_of_moves (fun s _ _ => .refl s) hrun
    (by decide +kernel) rfl rfl (by decide +kernel)
  have habroad : some abroad = some fix := Eq.trans (by decide +kernel) hfix
  obtain rfl := Option.some.inj habroad
  exact ⟨_, t, hrun, rfl, by decide +kernel, rfl, rfl, hturn, hl.trans hfix.symm, heval⟩

/-! ### The service takes these steps -/

theorem onLocation_of_isGood (s : Service) {fix : Location} (hfix : Tracker.isGood fix = true) :
    ∃ entry, s.onLocation (some fix) =
      Service.submit ((s.report entry).mapOwner (·.remember fix)) .locationChanged := by
  simp only [Service.onLocation, Option.filter, hfix, if_true]
  exact ⟨_, rfl⟩

/-- Taking a good fix is writing it down and putting its trigger on the queue, after a note in the log. -/
theorem moves_onLocation (x : Traffic) {fix : Location} (hfix : Tracker.isGood fix = true) :
    ReflTransGen (Move react) x
      { x with service := x.service.onLocation (some fix), accepted := x.accepted ++ [fix] } := by
  obtain ⟨entry, hentry⟩ := onLocation_of_isGood x.service hfix
  have hnote : Move react x { x with service := x.service.report entry } := by
    refine .other ?_ ?_
    · rw [owner_report]
    · rw [owner_report]
      exact List.Subset.refl _
  have henqueue : Move react _ _ := .enqueue
    (x := { x with
      service := (x.service.report entry).mapOwner (·.remember fix)
      midway := x.midway ++ [fix]
      accepted := x.accepted ++ [fix] }) x.midway [] rfl
  simp only [List.append_nil] at henqueue
  rw [hentry]
  exact .tail (.tail (.single hnote) (.write _ hfix)) henqueue

/-- What the loop of the service does are steps, up to any number of triggers. -/
theorem moves_drain (bound : Nat) (x : Traffic) :
    ∃ y, ReflTransGen (Move react) x y ∧ y.service = (x.service.drain react bound).1 ∧
      y.midway = x.midway ∧ y.taken = x.taken ∧ y.accepted = x.accepted := by
  induction bound generalizing x with
  | zero => exact ⟨x, .refl, rfl, rfl, rfl, rfl⟩
  | succ bound ih =>
    rw [Service.drain]
    split
    · exact ⟨x, .refl, rfl, rfl, rfl, rfl⟩
    · rename_i rest hq
      exact ⟨_, .single (.drop hq), rfl, rfl, rfl, rfl⟩
    · rename_i trigger rest hq
      have htake : Move react x _ := .take hq
      have hwork : Move react _ _ := .work
        (x := { x with service := x.service.leave rest, taken := x.taken ++ [trigger] }) x.taken [] rfl
      obtain ⟨y, hmoves, hservice, hmidway, htaken, haccepted⟩ := ih _
      refine ⟨y, .trans (.tail (.single htake) hwork) hmoves, hservice, hmidway, ?_, haccepted⟩
      rw [htaken, List.append_nil]

end Daylight
