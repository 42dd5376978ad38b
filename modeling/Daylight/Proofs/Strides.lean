import Daylight.Proofs.Deliveries
import Daylight.Proofs.Handling
import Daylight.Proofs.Quiescence

/-!
# What an action does to the listeners

To a listener most of what happens to a service is of no account: the queue, the clock, the log. What counts
is which listeners are bound and where, what the contexts hold, and what is sent out. So an action is a walk
in strides. In each, nothing of account happens, or all listeners are told a state, or something is done to
the board by those who own it, or the shared worker is made or closed.

Whatever every stride keeps, every action keeps. Five kinds of strides stand for all the actions there are.

## What is proved

* `spanning_aside`, `aside_start`: what is of no account.
* `broadcasts_cycle`, `broadcasts_drain`, `broadcasts_stopLoop`: cycles, and the loop, do nothing to the
  listeners but tell them what they fan out.
* `exists_stridesOf`: every action is a walk, which tells what the action publishes. Only stopping closes the
  shared worker.
* `exists_strides_stop`: stopping closes it last.
-/

namespace Daylight

namespace Service

/-! ### What is of no account -/

/-- What is of no account to the listeners. -/
structure Aside (s s' : Service) : Prop where
  /-- The bindings are the same. -/
  bindings : s'.registry.bindings = s.registry.bindings
  /-- The contexts are the same. -/
  contexts : s'.contexts = s.contexts
  /-- Nobody was told anything. -/
  told : ∀ listener, s'.told listener = s.told listener
  /-- The shared worker is the same. -/
  shared : s'.owner.shared = s.owner.shared
  /-- No shared worker was made. -/
  sharedCount : s'.owner.sharedCount = s.owner.sharedCount

section

variable {s s' s'' : Service}

theorem Aside.refl (s : Service) : s.Aside s := ⟨rfl, rfl, fun _ => rfl, rfl, rfl⟩

theorem Aside.trans (h : s.Aside s') (h' : s'.Aside s'') : s.Aside s'' :=
  ⟨h'.bindings.trans h.bindings, h'.contexts.trans h.contexts,
    fun listener => (h'.told listener).trans (h.told listener), h'.shared.trans h.shared,
    h'.sharedCount.trans h.sharedCount⟩

theorem Aside.context (h : s.Aside s') (id : ContextId) : s'.context id = s.context id := by
  rw [Board.context, h.contexts, ← Board.context]

theorem aside_mapOwner (s : Service) (change : Tracker → Tracker)
    (hshared : (change s.owner).shared = s.owner.shared)
    (hcount : (change s.owner).sharedCount = s.owner.sharedCount) : s.Aside (s.mapOwner change) :=
  ⟨rfl, rfl, fun _ => rfl, hshared, hcount⟩

theorem aside_report (s : Service) (entry : LogEntry) : s.Aside (s.report entry) := by
  obtain ⟨hregistry, hcontexts, -, htold⟩ := Board.tells_report s entry
  constructor
  case bindings => rw [hregistry]
  case contexts => exact hcontexts
  case told =>
    intro listener
    rw [htold, List.append_nil]
  case shared => rw [owner_report]
  case sharedCount => rw [owner_report]

theorem aside_submit (s : Service) (trigger : Trigger) : s.Aside (s.submit trigger) :=
  aside_mapOwner s _ rfl rfl

/-- Nothing that is handled from outside is of account. -/
theorem spanning_aside : Spanning Aside where
  refl := Aside.refl
  trans := Aside.trans
  report := aside_report
  submit := aside_submit
  remember s _ := aside_mapOwner s _ rfl rfl
  push _ _ := aside_mapOwner _ _ rfl rfl
  close _ := aside_mapOwner _ _ rfl rfl
  alarms s _ := aside_mapOwner s _ rfl rfl

theorem aside_requestSingle (s : Service) : s.Aside s.requestSingle := by
  unfold requestSingle
  cases s.owner.source with
  | feed f => exact aside_mapOwner s _ rfl rfl
  | fixed location => exact spanning_aside.onLocation s (some location)
  | device fix waiting => exact aside_mapOwner s _ rfl rfl

theorem aside_start (s : Service) : s.Aside s.start.1 := by
  unfold start
  split
  · exact Aside.refl s
  · have hasked := (aside_report s ⟨.info, "Starting twilight scheduler", none⟩).trans
      (aside_mapOwner _ (fun t => { t with source := t.source.requestUpdates }) rfl rfl)
    refine ((hasked.trans ?_).trans (aside_submit _ .startup)).trans
      (aside_mapOwner _ (fun t => { t with isRunning := true }) rfl rfl)
    split
    · exact aside_requestSingle _
    · exact Aside.refl _

theorem aside_mirrorFlag (s : Service) (flag : Bool) : s.Aside (s.mirrorFlag flag) := by
  unfold mirrorFlag
  split
  · exact aside_mapOwner s _ rfl rfl
  · exact aside_report s _

end

end Service

/-! ### Strides -/

/-- What can be done to the listeners. -/
inductive Stride where
  /-- Nothing that is of account. -/
  | aside
  /-- All are told a state. -/
  | tell (state : Option Boundaries)
  /-- Something is done by those who own the board. -/
  | deed (deed : Deed)
  /-- A shared worker is made. -/
  | openShared
  /-- The shared worker is closed, if there is one. -/
  | closeShared

/-- What a stride does to a service. -/
inductive Takes (react : Reaction Tracker) : Service → Stride → Service → Prop
  | aside {s s' : Service} : s.Aside s' → Takes react s .aside s'
  | tell (s : Service) (state : Option Boundaries) : Takes react s (.tell state) (s.notifyAll react state)
  | deed (s : Service) (deed : Deed) : Takes react s (.deed deed) (Board.perform react s deed)
  | openShared {s : Service} : s.owner.shared = none → Takes react s .openShared s.openShared.1
  | closeShared (s : Service) : Takes react s .closeShared s.closeShared

/-- Strides one after the other. -/
inductive Walk (react : Reaction Tracker) : Service → List Stride → Service → Prop
  | nil (s : Service) : Walk react s [] s
  | cons {s s' s'' : Service} {stride : Stride} {strides : List Stride} :
      Takes react s stride s' → Walk react s' strides s'' → Walk react s (stride :: strides) s''

namespace Stride

/-- What a stride tells all listeners. -/
def tidings : Stride → List (Option Boundaries)
  | tell state => [state]
  | aside | deed _ | openShared | closeShared => []

/-- Whether a stride does no more than to tell all listeners a state. -/
def IsTelling : Stride → Prop
  | aside | tell _ => True
  | deed _ | openShared | closeShared => False

/-- Whether a stride leaves a listener bound as it is, closes no shared worker by its name, and tells nobody
anything in another way than by telling all. -/
def Spares (listener : String) : Stride → Prop
  | deed (.register other _) | deed (.unregister other) => other ≠ listener
  | deed (.shutDown (.shared _)) | deed (.publish _) | deed (.refuse _ _) => False
  | aside | tell _ | deed (.run _ _) | deed (.shutDown (.named _)) | openShared | closeShared => True

theorem spares_of_isTelling {stride : Stride} (h : stride.IsTelling) (listener : String) :
    stride.Spares listener := by
  cases stride with
  | aside | tell _ => trivial
  | deed _ | openShared | closeShared => exact h.elim

end Stride

/-- What strides tell all listeners. -/
def tidings (strides : List Stride) : List (Option Boundaries) := strides.flatMap Stride.tidings

/-- All listeners are told these states, and nothing else of account happens. -/
def Service.Broadcasts (react : Reaction Tracker) (s : Service) (states : List (Option Boundaries))
    (s' : Service) : Prop :=
  ∃ strides, Walk react s strides s' ∧ tidings strides = states ∧ ∀ stride ∈ strides, stride.IsTelling

section

variable {react : Reaction Tracker} {s s' s'' : Service} {strides more : List Stride}

theorem tidings_append (strides more : List Stride) :
    tidings (strides ++ more) = tidings strides ++ tidings more :=
  List.flatMap_append

theorem Walk.append (h : Walk react s strides s') (h' : Walk react s' more s'') :
    Walk react s (strides ++ more) s'' := by
  induction h with
  | nil s => exact h'
  | cons hstride _ ih => exact .cons hstride (ih h')

theorem Walk.single {stride : Stride} (h : Takes react s stride s') : Walk react s [stride] s' :=
  .cons h (.nil s')

namespace Service

variable {states later : List (Option Boundaries)}

theorem Broadcasts.of_aside (h : s.Aside s') : s.Broadcasts react [] s' := by
  refine ⟨[.aside], Walk.single (.aside h), rfl, fun stride hmem => ?_⟩
  obtain rfl := List.mem_singleton.mp hmem
  trivial

theorem Broadcasts.trans (h : s.Broadcasts react states s') (h' : s'.Broadcasts react later s'') :
    s.Broadcasts react (states ++ later) s'' := by
  obtain ⟨strides, hwalk, rfl, htelling⟩ := h
  obtain ⟨more, hwalk', rfl, htelling'⟩ := h'
  refine ⟨strides ++ more, hwalk.append hwalk', tidings_append strides more, fun stride hmem => ?_⟩
  rcases List.mem_append.mp hmem with hfirst | hthen
  · exact htelling stride hfirst
  · exact htelling' stride hthen

theorem Broadcasts.andThen (h : s.Broadcasts react states s') (h' : s'.Aside s'') :
    s.Broadcasts react states s'' := by
  have hboth := h.trans (.of_aside h')
  rwa [List.append_nil] at hboth

theorem broadcasts_notifyAll (s : Service) (state : Option Boundaries) :
    s.Broadcasts react [state] (s.notifyAll react state) := by
  refine ⟨[.tell state], Walk.single (.tell s state), rfl, fun stride hmem => ?_⟩
  obtain rfl := List.mem_singleton.mp hmem
  trivial

/-- Keeping a state as the last one and telling all listeners. -/
theorem broadcasts_fanOut (s : Service) (state : Option Boundaries) : s.Broadcasts react [state]
    ((s.mapRegistry fun r => { r with last := state }).notifyAll react state) := by
  have hkept : s.Aside (s.mapRegistry fun r => { r with last := state }) :=
    ⟨rfl, rfl, fun _ => rfl, rfl, rfl⟩
  exact (Broadcasts.of_aside hkept).trans (broadcasts_notifyAll _ state)

/-! ### Cycles -/

/-- An act tells the listeners what it fans out. -/
theorem broadcasts_perform (s : Service) (a : Act) :
    s.Broadcasts react a.fanOut?.toList (a.perform react s) := by
  cases a with
  | ask queries =>
    have hasked := aside_mapOwner s (fun t => { t with asked := t.asked ++ queries }) rfl rfl
    exact .of_aside hasked
  | note entry => exact .of_aside (aside_report s entry)
  | fanOut state => exact broadcasts_fanOut s state
  | mirror flag => exact .of_aside (aside_mirrorFlag s flag)
  | wake wanted => exact .of_aside (spanning_aside.schedule s wanted)

theorem broadcasts_performAll (s : Service) (acts : List Act) :
    s.Broadcasts react (acts.filterMap Act.fanOut?) (performAll react s acts) := by
  induction acts generalizing s with
  | nil => exact .of_aside (Aside.refl s)
  | cons a acts ih =>
    have hboth := (broadcasts_perform s a).trans (ih (a.perform react s))
    rw [List.filterMap_cons]
    cases hfan : a.fanOut? with
    | none =>
      rw [hfan] at hboth
      exact hboth
    | some state =>
      rw [hfan] at hboth
      exact hboth

/-- **A cycle does nothing to the listeners but tell them what it fans out.** -/
theorem broadcasts_cycle (t : Turn) :
    t.before.Broadcasts react (History.fanOuts [t]) (t.after react) := by
  have hfan : History.fanOuts [t] = t.acts.filterMap Act.fanOut? := by
    rw [History.fanOuts, History.calls, List.flatMap_singleton, t.fanOuts_calls]
  rw [hfan, t.after_eq_performAll]
  exact broadcasts_performAll t.before t.acts

theorem broadcasts_process (s : Service) (trigger : Trigger) :
    s.Broadcasts react (History.fanOuts [⟨s, some trigger⟩]) (s.process react trigger) := by
  have hcycle : s.Broadcasts react (History.fanOuts [⟨s, some trigger⟩]) (s.cycle react (some trigger)).1 :=
    broadcasts_cycle ⟨s, some trigger⟩
  unfold process
  split
  · rename_i heq
    rwa [heq] at hcycle
  · rename_i heq
    rw [heq] at hcycle
    exact hcycle.andThen (aside_report _ _)

theorem fanOuts_cons (t : Turn) (turns : History) :
    History.fanOuts (t :: turns) = History.fanOuts [t] ++ turns.fanOuts := by
  simp only [History.fanOuts, History.calls, List.flatMap_cons, List.flatMap_nil, List.append_nil,
    List.filterMap_append]

/-- **Processing the queue** tells the listeners what the cycles fan out. -/
theorem broadcasts_drain (bound : Nat) (s : Service) :
    s.Broadcasts react (s.turns react bound).fanOuts (s.drain react bound).1 := by
  induction bound generalizing s with
  | zero => exact .of_aside (Aside.refl s)
  | succ bound ih =>
    cases hq : s.owner.queue with
    | nil =>
      simp only [drain, turns, hq]
      exact .of_aside (Aside.refl s)
    | cons signal rest =>
      have hleft : s.Aside (s.leave rest) := aside_mapOwner s _ rfl rfl
      cases signal with
      | stop =>
        simp only [drain, turns, hq]
        exact .of_aside hleft
      | trigger trigger =>
        simp only [drain, turns, hq]
        rw [fanOuts_cons]
        exact ((Broadcasts.of_aside hleft).trans (broadcasts_process (s.leave rest) trigger)).trans (ih _)

theorem broadcasts_runLoop (s : Service) : s.Broadcasts react
    (s.turns react (s.owner.queue.length + patience)).fanOuts (s.runLoop react) :=
  (broadcasts_drain _ s).andThen (aside_report _ _)

/-- The loop tells the listeners what its last cycles fan out, and then it is ended. -/
theorem broadcasts_stopLoop (s : Service) : s.Broadcasts react
    (Scenario.taken react s .stop).fanOuts (s.stopLoop react) := by
  unfold stopLoop Scenario.taken
  refine Broadcasts.andThen ?_ (aside_mapOwner _ (fun t => { t with alarms := t.alarms.cancel }) rfl rfl)
  cases s.owner.isRunning with
  | false => exact .of_aside (Aside.refl s)
  | true =>
    have hhalting : s.Aside s.halting := aside_mapOwner s _ rfl rfl
    refine Broadcasts.andThen ?_ (aside_mapOwner _ (fun t => { t with isRunning := false }) rfl rfl)
    cases hw : s.owner.waits with
    | false =>
      have hwaits : (Board.mapOwner s (·.enqueue .stop)).owner.waits = false := hw
      simp only [hwaits, Bool.and_false, Bool.false_eq_true, if_false]
      exact .of_aside hhalting
    | true =>
      have hwaits : (Board.mapOwner s (·.enqueue .stop)).owner.waits = true := hw
      rw [Bool.and_self, if_pos rfl]
      simp only [hwaits, if_true]
      exact (Broadcasts.of_aside hhalting).trans (broadcasts_runLoop s.halting)

end Service

end

/-! ### Actions -/

namespace Scenario

/-- Whether an action leaves a listener bound as it is, and closes no shared worker by its name. -/
def Action.Spares (listener : String) : Action → Prop
  | .register other _ | .unregister other => other ≠ listener
  | .shutDown (.shared _) => False
  | _ => True

/-- What an action publishes: what the cycles fan out that are run in it, or a state that is handed to the
board to be published, if it is another one than the last. -/
def published (react : Reaction Tracker) (s : Service) : Action → List (Option Boundaries)
  | .publish state => if s.registry.last = state then [] else [state]
  | .notify state => [state]
  | .evaluate reason => History.fanOuts [⟨s, reason⟩]
  | .runPending => (taken react s .runPending).fanOuts
  | .stop => (taken react s .stop).fanOuts
  | _ => []

variable {react : Reaction Tracker}

/-- The strides of an action. -/
structure StridesOf (react : Reaction Tracker) (s : Service) (a : Action) (strides : List Stride) : Prop where
  /-- They lead where the action leads. -/
  walk : Walk react s strides (perform react s a).1
  /-- They tell what the action publishes. -/
  tidings : Daylight.tidings strides = published react s a
  /-- Only stopping closes the shared worker. -/
  closing : .closeShared ∈ strides → a = .stop
  /-- They spare whom the action spares. -/
  spares : ∀ listener, a.Spares listener → ∀ stride ∈ strides, stride.Spares listener

/-- An action that does nothing to the listeners but tell them what it publishes. -/
theorem exists_stridesOf_broadcasts {s : Service} {a : Action}
    (h : s.Broadcasts react (published react s a) (perform react s a).1) :
    ∃ strides, StridesOf react s a strides := by
  obtain ⟨strides, hwalk, htidings, htelling⟩ := h
  refine ⟨strides, hwalk, htidings, fun hmem => ?_, fun listener _ stride hmem => ?_⟩
  · exact (htelling _ hmem).elim
  · exact Stride.spares_of_isTelling (htelling stride hmem) listener

/-- An action that is a deed of those who own the board, and publishes nothing. -/
theorem exists_stridesOf_deed {s : Service} {a : Action} (deed : Deed)
    (hafter : (perform react s a).1 = Board.perform react s deed) (hnone : published react s a = [])
    (hspares : ∀ listener, a.Spares listener → (Stride.deed deed).Spares listener) :
    ∃ strides, StridesOf react s a strides := by
  refine ⟨[.deed deed], ?_, hnone.symm, fun hmem => by simp at hmem, fun listener ha stride hmem => ?_⟩
  · rw [hafter]
    exact Walk.single (.deed s deed)
  · obtain rfl := List.mem_singleton.mp hmem
    exact hspares listener ha

/-- Registering a listener without a context may make a shared worker first. -/
theorem exists_stridesOf_register (s : Service) (listener : String) :
    ∃ strides, StridesOf react s (.register listener none) strides := by
  cases hshared : s.owner.shared with
  | some generation =>
    refine exists_stridesOf_deed (.register listener (.shared generation)) ?_ rfl fun _ ha => ha
    simp only [perform, Service.registerListener, Service.openShared, hshared]
    rfl
  | none =>
    refine ⟨[.openShared, .deed (.register listener (.shared s.owner.sharedCount))], ?_, rfl, ?_, ?_⟩
    · have hafter : (perform react s (.register listener none)).1 = Board.perform react s.openShared.1
          (.register listener (.shared s.owner.sharedCount)) := by
        simp only [perform, Service.registerListener, Service.openShared, hshared]
        rfl
      rw [hafter]
      exact .cons (.openShared hshared) (Walk.single (.deed _ _))
    · intro hmem
      simp at hmem
    · intro other ha stride hmem
      simp only [List.mem_cons, List.not_mem_nil, or_false] at hmem
      rcases hmem with rfl | rfl
      · trivial
      · exact ha

/-- **Stopping** tells the listeners what the last cycles fan out, and closes the shared worker then. -/
theorem exists_strides_stop (s : Service) : ∃ strides, Walk react s strides (s.stopLoop react) ∧
    tidings strides = published react s .stop ∧ (∀ stride ∈ strides, stride.IsTelling) ∧
    StridesOf react s .stop (strides ++ [.closeShared]) := by
  have hended : s.Broadcasts react (published react s .stop) (s.stopLoop react) := s.broadcasts_stopLoop
  obtain ⟨strides, hwalk, htidings, htelling⟩ := hended
  refine ⟨strides, hwalk, htidings, htelling, ?_, ?_, fun _ => rfl, fun listener _ stride hmem => ?_⟩
  · exact hwalk.append (Walk.single (.closeShared _))
  · rw [tidings_append, htidings]
    exact List.append_nil _
  · rcases List.mem_append.mp hmem with hfirst | hlast
    · exact Stride.spares_of_isTelling (htelling stride hfirst) listener
    · obtain rfl := List.mem_singleton.mp hlast
      trivial

open Service in
/-- **Every action is a walk in strides.** -/
theorem exists_stridesOf (s : Service) (a : Action) : ∃ strides, StridesOf react s a strides := by
  cases a with
  | register listener context =>
    cases context with
    | some id => exact exists_stridesOf_deed (.register listener id) rfl rfl fun _ ha => ha
    | none => exact exists_stridesOf_register s listener
  | unregister listener => exact exists_stridesOf_deed (.unregister listener) rfl rfl fun _ ha => ha
  | run id =>
    exact exists_stridesOf_deed (.run id (s.context id).tasks.length) (Board.run_eq_runFirst react s id) rfl
      fun _ _ => trivial
  | shutDown id =>
    refine exists_stridesOf_deed (.shutDown id) rfl rfl fun _ ha => ?_
    cases id with
    | named name => trivial
    | shared generation => exact ha.elim
  | stop =>
    obtain ⟨strides, -, -, -, hstop⟩ := exists_strides_stop s
    exact ⟨strides ++ [.closeShared], hstop⟩
  | publish state =>
    refine exists_stridesOf_broadcasts ?_
    simp only [published, perform, certain, Board.publish]
    split
    · exact .of_aside (.refl s)
    · exact broadcasts_fanOut s state
  | notify state => exact exists_stridesOf_broadcasts (broadcasts_notifyAll s state)
  | evaluate reason => exact exists_stridesOf_broadcasts (broadcasts_cycle ⟨s, reason⟩)
  | runPending => exact exists_stridesOf_broadcasts (broadcasts_drain _ s)
  | current | size | fail _ => exact exists_stridesOf_broadcasts (.of_aside (.refl s))
  | start => exact exists_stridesOf_broadcasts (.of_aside (aside_start s))
  | submit trigger => exact exists_stridesOf_broadcasts (.of_aside (aside_submit s trigger))
  | changeTime => exact exists_stridesOf_broadcasts (.of_aside (aside_submit s .timeChanged))
  | wakeUp => exact exists_stridesOf_broadcasts (.of_aside (aside_submit s .alarm))
  | locate fix => exact exists_stridesOf_broadcasts (.of_aside (spanning_aside.onLocation s fix))
  | report fix => exact exists_stridesOf_broadcasts (.of_aside (spanning_aside.reportLocation s fix))
  | handSingle fix => exact exists_stridesOf_broadcasts (.of_aside (spanning_aside.handSingle s fix))
  | fire number => exact exists_stridesOf_broadcasts (.of_aside (spanning_aside.fire s number))
  | request r =>
    refine exists_stridesOf_broadcasts (.of_aside ?_)
    simp only [perform]
    exact spanning_aside.respond s r
  | setNow _ | setZone _ | override _ _ | clearOverride _ | setFix _ | breakMirror _ =>
    exact exists_stridesOf_broadcasts (.of_aside ⟨rfl, rfl, fun _ => rfl, rfl, rfl⟩)

end Scenario

end Daylight
