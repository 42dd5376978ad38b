import Daylight.Proofs.Strides

/-!
# A listener with the shared worker, and restarts

A listener that is registered without a context is bound to the worker that all such listeners share. When
the service is stopped, the worker is closed and forgotten, and the next listener that comes without a
context gets another one. A listener that came before stays bound to the old worker. Starting the service
again does not bind it anew, so whatever is published from then on is refused by its worker, and is lost to
it; only the log tells. Until then nothing is lost: the listener is told what is published from its
registration to the end of the first stop, the last cycles of the loop included.

## What is proved

* `isOrderly_takes`: whatever happens, the shared worker takes tasks while it is the shared worker, and its
  number is its own.
* `follows_takes`: the step lemma. A stride adds what it tells to what the listener was told, and then waits
  for it, while its worker is open, and adds nothing after that.
* `follows_walk`, `follows_perform`, `follows_after`: from a stride to an action, and to any actions.
* `told_until_stop`: what the listener is told over any restarts.
* `misses_second_day`: it is not what is published while the service runs.
-/

namespace Daylight

/-! ### Workers -/

/-- The shared worker, the number of shared workers there were, and which contexts there are, are the same. -/
structure Service.SameWorkers (s s' : Service) : Prop where
  /-- The shared worker is the same. -/
  shared : s'.owner.shared = s.owner.shared
  /-- No shared worker was made. -/
  sharedCount : s'.owner.sharedCount = s.owner.sharedCount
  /-- The contexts have the same names. -/
  names : s'.contexts.map (·.1) = s.contexts.map (·.1)

/-- Listeners that leave the bindings, the contexts, what others were told, and the shared worker alone. They
may fail, write into the log, and change all else. -/
structure Unobtrusive (react : Reaction Tracker) : Prop where
  /-- They leave the board alone. -/
  detached : Detached react
  /-- They leave the shared worker alone. -/
  shared : ∀ s listener state, (react s listener state).1.owner.shared = s.owner.shared
  /-- They make no shared worker. -/
  sharedCount : ∀ s listener state, (react s listener state).1.owner.sharedCount = s.owner.sharedCount

theorem names_mapContext {ω : Type} (b : Board ω) (id : ContextId) (change : Context → Context) :
    (b.mapContext id change).contexts.map (·.1) = b.contexts.map (·.1) := by
  rw [Board.mapContext, List.map_map]
  refine List.map_congr_left fun entry _ => ?_
  rw [Function.comp_apply]
  split <;> rfl

namespace Service

section

variable {react : Reaction Tracker} {s s' : Service}

theorem SameWorkers.refl (s : Service) : s.SameWorkers s := ⟨rfl, rfl, rfl⟩

theorem sameWorkers_mapContext (s : Service) (id : ContextId) (change : Context → Context) :
    s.SameWorkers (s.mapContext id change) := ⟨rfl, rfl, names_mapContext s id change⟩

theorem kept_sameWorkers (hr : Unobtrusive react) (s : Service) : Kept react s.SameWorkers := by
  constructor
  case record =>
    intro s' write h
    exact ⟨by rw [owner_record, h.shared], by rw [owner_record, h.sharedCount],
      by rw [contexts_record, h.names]⟩
  case context =>
    intro s' id change h
    exact ⟨h.shared, h.sharedCount, (names_mapContext s' id change).trans h.names⟩
  case listeners =>
    intro s' listener state h
    have hcontexts := (hr.detached s' listener state).contexts
    exact ⟨(hr.shared s' listener state).trans h.shared,
      (hr.sharedCount s' listener state).trans h.sharedCount, by rw [hcontexts, h.names]⟩

theorem sameWorkers_notifyAll (hr : Unobtrusive react) (s : Service) (state : Option Boundaries) :
    s.SameWorkers (s.notifyAll react state) :=
  (kept_sameWorkers hr s).notifyAll (.refl s) state

theorem sameWorkers_perform (hr : Unobtrusive react) (s : Service) (deed : Deed) :
    s.SameWorkers (Board.perform react s deed) := by
  cases deed with
  | register listener context => exact ⟨rfl, rfl, rfl⟩
  | unregister listener => exact ⟨rfl, rfl, rfl⟩
  | publish state =>
    rw [Board.perform, Board.publish]
    split
    · exact .refl s
    · have hkept : s.SameWorkers (s.mapRegistry fun r => { r with last := state }) := ⟨rfl, rfl, rfl⟩
      exact (kept_sameWorkers hr s).notifyAll hkept state
  | run id count =>
    rw [Board.perform, Board.runFirst, Board.drop]
    exact (kept_sameWorkers hr s).foldl_deliver (sameWorkers_mapContext s id _) _
  | shutDown id =>
    rw [Board.perform, Board.shutDown]
    exact sameWorkers_mapContext s id _
  | refuse id refuses =>
    rw [Board.perform, Board.refuse]
    exact sameWorkers_mapContext s id _

end

/-- Tasks wait in the contexts they are for, every listener is bound once, the shared worker takes what is
posted to it, and no number was given to a worker yet that is still to come. -/
structure IsOrderly (s : Service) : Prop extends Board.IsDeferring s where
  /-- The numbers to come are not in use. -/
  fresh : ∀ n, s.owner.sharedCount ≤ n → .shared n ∉ s.contexts.map (·.1)
  /-- The shared worker was given its number, and takes what is posted to it. -/
  current : ∀ n, s.owner.shared = some n → n < s.owner.sharedCount ∧ (s.context (.shared n)).Takes

/-! ### Making and closing the shared worker -/

section

variable {react : Reaction Tracker} {s s' : Service} {listener : String}

/-- What making a shared worker does. -/
theorem openShared_eq (h : s.owner.shared = none) : s.openShared.1 =
    { s with
      contexts := s.contexts ++ [(.shared s.owner.sharedCount, .ofKind .worker)]
      owner := { s.owner with
        shared := some s.owner.sharedCount
        sharedCount := s.owner.sharedCount + 1 } } := by
  simp only [openShared, h]
  rfl

theorem context_openShared (h : s.owner.shared = none) (id : ContextId) : s.openShared.1.context id =
    ((s.contexts.lookup id).or (if id = .shared s.owner.sharedCount then some (.ofKind .worker) else none)).getD
      (.ofKind .refusing) := by
  rw [openShared_eq h, Board.context, List.lookup_append, lookup_cons_eq_ite]
  rfl

theorem context_openShared_of_ne (h : s.owner.shared = none) {id : ContextId}
    (hid : id ≠ .shared s.owner.sharedCount) : s.openShared.1.context id = s.context id := by
  rw [context_openShared h, if_neg hid, Option.or_none]
  rfl

/-- The new worker is found by its number, which no other has. -/
theorem context_openShared_self (h : s.owner.shared = none) (ho : s.IsOrderly) :
    s.openShared.1.context (.shared s.owner.sharedCount) = .ofKind .worker := by
  have hnone : s.contexts.lookup (.shared s.owner.sharedCount) = none := by
    rw [List.lookup_eq_none_iff]
    intro entry hmem
    have hname : entry.1 ≠ .shared s.owner.sharedCount := by
      intro he
      exact ho.fresh _ (le_refl _) (List.mem_map.mpr ⟨entry, hmem, he⟩)
    simpa using hname.symm
  rw [context_openShared h, hnone, if_pos rfl]
  rfl

/-- What holds of a new worker, and of all contexts before, holds of all contexts after one is made. -/
theorem forall_context_openShared {p : ContextId → Context → Prop} (h : s.owner.shared = none)
    (ho : s.IsOrderly) (hnew : p (.shared s.owner.sharedCount) (.ofKind .worker))
    (hold : ∀ id, p id (s.context id)) (id : ContextId) : p id (s.openShared.1.context id) := by
  by_cases hid : id = .shared s.owner.sharedCount
  · rw [hid, context_openShared_self h ho]
    exact hnew
  · rw [context_openShared_of_ne h hid]
    exact hold id

theorem isOrderly_openShared (ho : s.IsOrderly) (h : s.owner.shared = none) : s.openShared.1.IsOrderly := by
  have hnew : s.openShared.1.context (.shared s.owner.sharedCount) = .ofKind .worker :=
    context_openShared_self h ho
  constructor
  case toIsDeferring =>
    constructor
    case inline =>
      exact forall_context_openShared (p := fun _ c => c.kind ≠ .inline) h ho (by decide) ho.inline
    case home =>
      exact forall_context_openShared (p := fun id c => ∀ d ∈ c.tasks, d.context = id) h ho
        (fun d hmem => by simp [Context.ofKind] at hmem) ho.home
    case once =>
      rw [openShared_eq h]
      exact ho.once
  case fresh =>
    rw [openShared_eq h]
    dsimp only
    intro n hn
    rw [List.map_append, List.mem_append, List.map_singleton, List.mem_singleton, ContextId.shared.injEq]
    rintro (hmem | rfl)
    · exact ho.fresh n (by omega) hmem
    · omega
  case current =>
    intro n hn
    have hn : some s.owner.sharedCount = some n := by
      rw [openShared_eq h] at hn
      exact hn
    obtain rfl := Option.some.inj hn
    constructor
    · rw [openShared_eq h]
      exact Nat.lt_succ_self _
    · rw [hnew]
      decide

/-- A context that is closed takes nothing. -/
theorem not_takes_shutDown (s : Service) (id : ContextId) : ¬ ((s.shutDown id).context id).Takes := by
  rw [Board.shutDown, Board.context_mapContext]
  cases hthere : s.contexts.lookup id with
  | some context =>
    rw [if_pos ⟨rfl, rfl⟩]
    rintro ⟨hopen, -⟩
    cases hopen
  | none =>
    rw [if_neg (by simp), Board.context, hthere]
    decide

/-- What closing the shared worker does, if there is one. -/
theorem closeShared_cases (s : Service) : (s.owner.shared = none ∧ s.closeShared = s) ∨
    ∃ n, s.owner.shared = some n ∧
      s.closeShared = (s.shutDown (.shared n)).mapOwner fun t => { t with shared := none } := by
  unfold closeShared
  cases s.owner.shared with
  | none => exact Or.inl ⟨rfl, rfl⟩
  | some n => exact Or.inr ⟨n, rfl, rfl⟩

/-- Closing the shared worker leaves nobody bound otherwise, tells nobody anything, and leaves all tasks. -/
theorem closeShared_spares (s : Service) : s.closeShared.registry = s.registry ∧
    (∀ listener, s.closeShared.told listener = s.told listener) ∧
    (∀ id, (s.closeShared.context id).tasks = (s.context id).tasks) ∧
    s.closeShared.owner.sharedCount = s.owner.sharedCount ∧ s.closeShared.owner.shared = none := by
  rcases s.closeShared_cases with ⟨hnone, heq⟩ | ⟨n, -, heq⟩
  · rw [heq]
    exact ⟨rfl, fun _ => rfl, fun _ => rfl, rfl, hnone⟩
  · have htasks : ∀ id, ((s.shutDown (.shared n)).context id).tasks = (s.context id).tasks :=
      Board.tasks_mapContext (.shared n) rfl
    rw [heq]
    exact ⟨rfl, fun _ => rfl, htasks, rfl, rfl⟩

theorem isOrderly_closeShared (hr : Unobtrusive react) (h : s.IsOrderly) : s.closeShared.IsOrderly := by
  rcases s.closeShared_cases with ⟨-, heq⟩ | ⟨n, -, heq⟩
  · rw [heq]
    exact h
  · have hclosed := Board.isDeferring_perform hr.detached h.toIsDeferring (.shutDown (.shared n))
    have hnames := names_mapContext s (.shared n) fun context => { context with isOpen := false }
    rw [heq]
    refine ⟨⟨hclosed.inline, hclosed.home, hclosed.once⟩, fun m hm => ?_, fun m hm => ?_⟩
    · exact hnames ▸ h.fresh m hm
    · cases hm

/-! ### Telling all listeners -/

theorem posts_notifyAll (react : Reaction Tracker) (ho : s.IsOrderly) (state : Option Boundaries) :
    Board.Posts s (s.notifyAll react state) (s.registry.deliveries state) :=
  Board.posts_notifyAll ho.inline state

/-- Telling all listeners leaves the state for a listener in the context to which it is bound, if the context
takes it. -/
theorem waiting_notifyAll (react : Reaction Tracker) (ho : s.IsOrderly) (state : Option Boundaries)
    (listener : String) (id : ContextId) : Board.waiting (s.notifyAll react state) listener id =
      Board.waiting s listener id ++
        if (s.context id).Takes ∧ s.registry.context? listener = some id then [state] else [] := by
  rw [Board.waiting, (posts_notifyAll react ho state).context, Context.tasks_add, statesFor_append, ite_and,
    ← statesFor_tasksIn_deliveries ho.once]
  congr 1
  split <;> rfl

end

end Service

/-! ### What a stride does

One lemma for each thing that can be seen: the bindings, the shared workers, which of them take tasks, and
what listeners were told or will be. -/

section

variable {react : Reaction Tracker} {s s' : Service} {listener : String} {stride : Stride}

/-- A deed that is a stride and spares a listener leaves it bound, leaves the shared workers as they are, and
publishes nothing. -/
theorem Stride.Spares.deed {deed : Deed} (h : (Stride.deed deed).Spares listener) :
    (∀ n, deed.Spares listener (.shared n)) ∧ ¬ deed.Registers listener ∧ ∀ last, deed.news last = [] := by
  cases deed with
  | register other id => exact ⟨fun _ => h, h, fun _ => rfl⟩
  | unregister other => exact ⟨fun _ => h, id, fun _ => rfl⟩
  | run id count => exact ⟨fun _ => trivial, not_false, fun _ => rfl⟩
  | shutDown id =>
    cases id with
    | named name => exact ⟨fun _ => by simp [Deed.Spares], not_false, fun _ => rfl⟩
    | shared n => exact h.elim
  | publish _ | refuse _ _ => exact h.elim

theorem Board.IsDeferring.of_aside (h : Board.IsDeferring s) (ha : s.Aside s') : Board.IsDeferring s' := by
  refine ⟨fun id => ?_, fun id d hmem => ?_, ?_⟩
  · rw [ha.context]
    exact h.inline id
  · rw [ha.context] at hmem
    exact h.home id d hmem
  · rw [Registry.IsOnce, ha.bindings]
    exact h.once

namespace Service

/-- Where the workers are the same, and take tasks as before, all is as orderly. -/
theorem IsOrderly.of_sameWorkers (h : s.IsOrderly) (hdeferring : Board.IsDeferring s')
    (hsame : s.SameWorkers s')
    (htakes : ∀ n, (s'.context (.shared n)).Takes ↔ (s.context (.shared n)).Takes) : s'.IsOrderly := by
  refine ⟨hdeferring, fun n hn => ?_, fun n hn => ?_⟩
  · rw [hsame.names]
    rw [hsame.sharedCount] at hn
    exact h.fresh n hn
  · rw [hsame.shared] at hn
    rw [hsame.sharedCount, htakes]
    exact h.current n hn

variable (hr : Unobtrusive react) (ho : s.IsOrderly) (hstride : Takes react s stride s')
  (hspares : stride.Spares listener)

include hr ho hstride hspares

/-- **The workers stay in order**, whatever happens. -/
theorem isOrderly_takes : s'.IsOrderly := by
  cases hstride with
  | aside haside =>
    refine ho.of_sameWorkers (ho.toIsDeferring.of_aside haside) ?_ fun n => by rw [haside.context]
    exact ⟨haside.shared, haside.sharedCount, by rw [haside.contexts]⟩
  | tell state =>
    have hposts := posts_notifyAll react ho state
    refine ho.of_sameWorkers (ho.of_posts hposts) (sameWorkers_notifyAll hr s state) fun n => ?_
    rw [hposts.context, Context.takes_add]
  | deed deed =>
    have hdone := Board.isDeferring_perform hr.detached ho.toIsDeferring deed
    refine ho.of_sameWorkers hdone (sameWorkers_perform hr s deed) fun n => ?_
    exact Board.takes_perform hr.detached ho.toIsDeferring (hspares.deed.1 n)
  | openShared hnone => exact isOrderly_openShared ho hnone
  | closeShared => exact isOrderly_closeShared hr ho

/-- A listener that is spared stays bound as it is. -/
theorem context?_takes : s'.registry.context? listener = s.registry.context? listener := by
  cases hstride with
  | aside haside => rw [Registry.context?, haside.bindings, ← Registry.context?]
  | tell state => rw [(posts_notifyAll react ho state).registry]
  | deed deed =>
    rw [Board.context?_perform hr.detached ho.toIsDeferring, Deed.binds_of_spares (hspares.deed.1 0)]
  | openShared hnone => rw [openShared_eq hnone]
  | closeShared => rw [s.closeShared_spares.1]

/-- A listener that is bound to no context, and for which nothing is anywhere, is left alone. -/
theorem isUnknown_takes (h : Board.IsUnknown s listener) : Board.IsUnknown s' listener := by
  have hunbound : s'.registry.context? listener = none :=
    (context?_takes hr ho hstride hspares).trans h.unbound
  cases hstride with
  | aside haside =>
    refine ⟨hunbound, (haside.told listener).trans h.told, fun id => ?_⟩
    rw [Board.waiting, haside.context]
    exact h.waiting id
  | tell state =>
    refine ⟨hunbound, ((posts_notifyAll react ho state).told listener).trans h.told, fun id => ?_⟩
    rw [waiting_notifyAll react ho, h.waiting, h.unbound]
    simp
  | deed deed => exact Board.isUnknown_perform hr.detached ho.toIsDeferring h hspares.deed.2.1
  | openShared hnone =>
    have hwaiting : ∀ id, statesFor listener (s.openShared.1.context id).tasks = [] :=
      forall_context_openShared (p := fun _ c => statesFor listener c.tasks = []) hnone ho rfl h.waiting
    have htold : s.openShared.1.told listener = s.told listener := by rw [openShared_eq hnone]; rfl
    exact ⟨hunbound, htold.trans h.told, hwaiting⟩
  | closeShared =>
    obtain ⟨-, htold, htasks, -, -⟩ := s.closeShared_spares
    refine ⟨hunbound, (htold listener).trans h.told, fun id => ?_⟩
    rw [Board.waiting, htasks]
    exact h.waiting id

variable {generation : Nat} (hmade : generation < s.owner.sharedCount)

include hmade

/-- A worker that was made stays made. It becomes the shared worker never again, and it is the shared one
until that is closed. -/
theorem shared_takes (hclose : stride = .closeShared → s.owner.shared ≠ some generation) :
    generation < s'.owner.sharedCount ∧
      (s'.owner.shared = some generation ↔ s.owner.shared = some generation) ∧
      ((s'.context (.shared generation)).Takes ↔ (s.context (.shared generation)).Takes) := by
  cases hstride with
  | aside haside =>
    rw [haside.sharedCount, haside.shared, haside.context]
    exact ⟨hmade, Iff.rfl, Iff.rfl⟩
  | tell state =>
    have hsame := sameWorkers_notifyAll hr s state
    rw [hsame.sharedCount, hsame.shared, (posts_notifyAll react ho state).context, Context.takes_add]
    exact ⟨hmade, Iff.rfl, Iff.rfl⟩
  | deed deed =>
    have hsame := sameWorkers_perform hr s deed
    rw [hsame.sharedCount, hsame.shared]
    exact ⟨hmade, Iff.rfl, Board.takes_perform hr.detached ho.toIsDeferring (hspares.deed.1 generation)⟩
  | openShared hnone =>
    have hne : generation ≠ s.owner.sharedCount := hmade.ne
    rw [context_openShared_of_ne hnone (by simpa using hne), openShared_eq hnone]
    refine ⟨Nat.lt_succ_of_lt hmade, ?_, Iff.rfl⟩
    simpa [hnone] using hne.symm
  | closeShared =>
    have hother := hclose rfl
    rcases s.closeShared_cases with ⟨hnone, heq⟩ | ⟨n, hn, heq⟩
    · rw [heq]
      exact ⟨hmade, Iff.rfl, Iff.rfl⟩
    · have hne : generation ≠ n := by
        rintro rfl
        exact hother hn
      have htakes : ((s.shutDown (.shared n)).context (.shared generation)).Takes ↔
          (s.context (.shared generation)).Takes := Board.takes_mapContext (by simpa using hne)
      rw [heq]
      refine ⟨hmade, ?_, htakes⟩
      simp [Board.mapOwner, hother]

/-- **What a stride tells** is added to what a listener was told, and then waits for it at its worker, if the
worker takes it. -/
theorem told_waiting_takes (hbound : s.registry.context? listener = some (.shared generation)) :
    s'.told listener ++ Board.waiting s' listener (.shared generation) =
      s.told listener ++ Board.waiting s listener (.shared generation) ++
        if (s.context (.shared generation)).Takes then stride.tidings else [] := by
  cases hstride with
  | aside haside =>
    rw [haside.told, Board.waiting, haside.context, ← Board.waiting, Stride.tidings, ite_self,
      List.append_nil]
  | tell state =>
    rw [(posts_notifyAll react ho state).told, waiting_notifyAll react ho, List.append_assoc, hbound]
    simp only [and_true, Stride.tidings]
  | deed deed =>
    rw [Board.told_waiting_perform hr.detached ho.toIsDeferring hbound, hspares.deed.2.2, Stride.tidings]
  | openShared hnone =>
    have hother : ContextId.shared generation ≠ .shared s.owner.sharedCount := by simpa using hmade.ne
    have htold : s.openShared.1.told listener = s.told listener := by
      rw [openShared_eq hnone]
      rfl
    rw [htold, Board.waiting, context_openShared_of_ne hnone hother, ← Board.waiting, Stride.tidings, ite_self,
      List.append_nil]
  | closeShared =>
    obtain ⟨-, htold, htasks, -, -⟩ := s.closeShared_spares
    rw [htold, Board.waiting, htasks, ← Board.waiting, Stride.tidings, ite_self, List.append_nil]

end Service

end

/-! ### A listener with the shared worker -/

/-- What is added in two steps while something is open is added in one. -/
theorem append_ite_append {α : Type} (isOpen : Bool) (states more later : List α) :
    states ++ (if isOpen then more else []) ++ (if isOpen then later else []) =
      states ++ if isOpen then more ++ later else [] := by
  cases isOpen with
  | true => exact List.append_assoc states more later
  | false => simp only [Bool.false_eq_true, if_false, List.append_nil]

namespace Service

/-- A listener is bound to the shared worker with a number. What it was told, and then what waits for it
there, is a list of states. The worker takes what is posted to it while it is the shared worker, and takes
nothing after that. -/
structure Follows (s : Service) (listener : String) (generation : Nat) (isOpen : Bool)
    (states : List (Option Boundaries)) : Prop where
  /-- It is bound to the worker. -/
  bound : s.registry.context? listener = some (.shared generation)
  /-- The worker was given its number. -/
  made : generation < s.owner.sharedCount
  /-- While the worker is open, it is the shared one. -/
  current : s.owner.shared = some generation ↔ isOpen = true
  /-- While it is open, it takes what is posted to it. -/
  takes : (s.context (.shared generation)).Takes ↔ isOpen = true
  /-- What the listener was told, and then what waits for it, is the list. -/
  states : s.told listener ++ Board.waiting s listener (.shared generation) = states

section

variable {react : Reaction Tracker} (hr : Unobtrusive react) {s s' : Service} {listener : String}
  {generation : Nat} {isOpen : Bool} {states : List (Option Boundaries)}

include hr

/-- **The step lemma.** A stride that spares a listener adds what it tells while the worker of the listener is
open, and nothing after that. -/
theorem follows_takes (ho : s.IsOrderly) (h : s.Follows listener generation isOpen states) {stride : Stride}
    (hstride : Takes react s stride s') (hspares : stride.Spares listener)
    (hclose : stride = .closeShared → isOpen = false) :
    s'.Follows listener generation isOpen (states ++ if isOpen then stride.tidings else []) := by
  have hother : stride = .closeShared → s.owner.shared ≠ some generation := by
    intro hclosing hshared
    have hopen := h.current.mp hshared
    rw [hclose hclosing] at hopen
    cases hopen
  obtain ⟨hmade, hcurrent, htakes⟩ := shared_takes hr ho hstride hspares h.made hother
  constructor
  case bound => rw [context?_takes hr ho hstride hspares, h.bound]
  case made => exact hmade
  case current => exact hcurrent.trans h.current
  case takes => exact htakes.trans h.takes
  case states =>
    rw [told_waiting_takes hr ho hstride hspares h.made h.bound, h.states]
    simp only [h.takes]

/-- A walk that spares a listener adds what it tells while the worker of the listener is open. -/
theorem follows_walk (ho : s.IsOrderly) (h : s.Follows listener generation isOpen states)
    {strides : List Stride} (hwalk : Walk react s strides s')
    (hspares : ∀ stride ∈ strides, stride.Spares listener)
    (hclose : .closeShared ∈ strides → isOpen = false) :
    s'.IsOrderly ∧
      s'.Follows listener generation isOpen (states ++ if isOpen then tidings strides else []) := by
  induction hwalk generalizing states with
  | nil s =>
    rw [tidings, List.flatMap_nil, ite_self, List.append_nil]
    exact ⟨ho, h⟩
  | @cons s s' s'' stride strides hstride _ ih =>
    obtain ⟨hfirst, hrest⟩ := List.forall_mem_cons.mp hspares
    have hstep := follows_takes hr ho h hstride hfirst fun hclosing => hclose (by simp [hclosing])
    have hlast := ih (isOrderly_takes hr ho hstride hfirst) hstep hrest fun hmem =>
      hclose (List.mem_cons_of_mem stride hmem)
    rw [append_ite_append] at hlast
    exact hlast

theorem isUnknown_walk (ho : s.IsOrderly) (h : Board.IsUnknown s listener) {strides : List Stride}
    (hwalk : Walk react s strides s') (hspares : ∀ stride ∈ strides, stride.Spares listener) :
    s'.IsOrderly ∧ Board.IsUnknown s' listener := by
  induction hwalk with
  | nil s => exact ⟨ho, h⟩
  | cons hstride _ ih =>
    obtain ⟨hfirst, hrest⟩ := List.forall_mem_cons.mp hspares
    exact ih (isOrderly_takes hr ho hstride hfirst) (isUnknown_takes hr ho hstride hfirst h) hrest

omit hr in
/-- When the shared worker is closed, a listener that is bound to it keeps what it was told, and what waits
for it. -/
theorem follows_closeShared (h : s.Follows listener generation true states) :
    s.closeShared.Follows listener generation false states := by
  obtain ⟨hregistry, htold, htasks, hcount, hshared⟩ := s.closeShared_spares
  have hclosed : ¬ (s.closeShared.context (.shared generation)).Takes := by
    have hcurrent : s.owner.shared = some generation := h.current.mpr rfl
    simp only [closeShared, hcurrent]
    exact not_takes_shutDown s (.shared generation)
  constructor
  case bound => rw [hregistry, h.bound]
  case made =>
    rw [hcount]
    exact h.made
  case current =>
    rw [hshared]
    simp
  case takes => exact iff_of_false hclosed (by simp)
  case states => rw [htold, Board.waiting, htasks, ← Board.waiting, h.states]

omit hr in
/-- A listener for which nothing is anywhere is bound to the shared worker. -/
theorem follows_register (ho : s.IsOrderly) (h : Board.IsUnknown s listener)
    (hshared : s.owner.shared = some generation) :
    Service.IsOrderly (s.register listener (.shared generation)) ∧
      Service.Follows (s.register listener (.shared generation)) listener generation true [] := by
  obtain ⟨hmade, htakes⟩ := ho.current generation hshared
  constructor
  · exact ⟨⟨ho.inline, ho.home, Registry.isOnce_register ho.once listener _⟩, ho.fresh, ho.current⟩
  · constructor
    case bound => exact (Registry.context?_register s.registry listener _ listener).trans (if_pos rfl)
    case made => exact hmade
    case current => exact iff_of_true hshared rfl
    case takes => exact iff_of_true htakes rfl
    case states =>
      have hnothing : s.told listener ++ Board.waiting s listener (.shared generation) = [] := by
        rw [h.told, h.waiting, List.append_nil]
      exact hnothing

/-- A listener that comes without a context follows the shared worker from then on. -/
theorem follows_registerListener (ho : s.IsOrderly) (h : Board.IsUnknown s listener) :
    ∃ generation, (s.registerListener listener none).IsOrderly ∧
      (s.registerListener listener none).Follows listener generation true [] := by
  cases hshared : s.owner.shared with
  | some generation =>
    have hregister : s.registerListener listener none = s.register listener (.shared generation) := by
      simp only [registerListener, openShared, hshared]
    rw [hregister]
    exact ⟨generation, follows_register ho h hshared⟩
  | none =>
    have hregister : s.registerListener listener none =
        s.openShared.1.register listener (.shared s.owner.sharedCount) := by
      simp only [registerListener, openShared, hshared]
    have hunknown : Board.IsUnknown s.openShared.1 listener :=
      isUnknown_takes hr ho (.openShared hshared) trivial h
    have hopened : s.openShared.1.owner.shared = some s.owner.sharedCount := by rw [openShared_eq hshared]
    rw [hregister]
    exact ⟨s.owner.sharedCount, follows_register (isOrderly_openShared ho hshared) hunknown hopened⟩

/-- Once the worker was run, the listener was told all that it was to be told. -/
theorem told_run (ho : s.IsOrderly) (h : s.Follows listener generation isOpen states) :
    (s.run react (.shared generation)).1.told listener = states :=
  (Board.told_run_of_bound hr.detached ho.toIsDeferring h.bound).trans h.states

end

/-- Nobody was registered yet, and no shared worker was made. Contexts keep what is posted to them, or take
nothing, and are idle. -/
structure IsUnused (s : Service) : Prop where
  /-- Nobody is registered. -/
  bindings : s.registry.bindings = []
  /-- Nobody was told anything. -/
  told : ∀ listener, s.told listener = []
  /-- There is no shared worker. -/
  shared : s.owner.shared = none
  /-- The contexts have names of their own, are idle, and do not run what they get at once. -/
  contexts : ∀ entry ∈ s.contexts,
    (∀ n, entry.1 ≠ .shared n) ∧ entry.2.kind ≠ .inline ∧ entry.2.tasks = []

theorem IsUnused.isIdle {s : Service} (h : s.IsUnused) (id : ContextId) :
    (s.context id).kind ≠ .inline ∧ (s.context id).tasks = [] :=
  Board.context_of_forall (p := fun c => c.kind ≠ .inline ∧ c.tasks = []) ⟨by decide, rfl⟩
    (fun entry hmem => (h.contexts entry hmem).2) id

theorem IsUnused.isOrderly {s : Service} (h : s.IsUnused) : s.IsOrderly := by
  constructor
  case toIsDeferring =>
    refine ⟨fun id => (h.isIdle id).1, fun id d hmem => ?_, ?_⟩
    · rw [(h.isIdle id).2] at hmem
      cases hmem
    · rw [Registry.IsOnce, h.bindings]
      exact List.nodup_nil
  case fresh =>
    intro n _ hmem
    obtain ⟨entry, hentry, hname⟩ := List.mem_map.mp hmem
    exact (h.contexts entry hentry).1 n hname
  case current =>
    intro n hn
    rw [h.shared] at hn
    cases hn

theorem IsUnused.isUnknown {s : Service} (h : s.IsUnused) (listener : String) :
    Board.IsUnknown s listener := by
  constructor
  case unbound =>
    rw [Registry.context?, h.bindings]
    rfl
  case told => exact h.told listener
  case waiting =>
    intro id
    rw [Board.waiting, (h.isIdle id).2, statesFor_nil]

end Service

/-! ### Starts and stops -/

namespace Scenario

section

variable {react : Reaction Tracker} (hr : Unobtrusive react) {s : Service} {listener : String}
  {generation : Nat} {isOpen : Bool} {states : List (Option Boundaries)}

include hr

theorem follows_perform (ho : s.IsOrderly) (h : s.Follows listener generation isOpen states) {a : Action}
    (hspares : a.Spares listener) (hclose : a = .stop → isOpen = false) :
    (perform react s a).1.IsOrderly ∧ (perform react s a).1.Follows listener generation isOpen
      (states ++ if isOpen then published react s a else []) := by
  obtain ⟨strides, hstrides⟩ := exists_stridesOf s a
  have hwalk := Service.follows_walk hr ho h hstrides.walk (hstrides.spares listener hspares) fun hmem =>
    hclose (hstrides.closing hmem)
  rwa [hstrides.tidings] at hwalk

/-- **Stopping** adds what the last cycles publish, and closes the worker. -/
theorem follows_stop (ho : s.IsOrderly) (h : s.Follows listener generation true states) :
    (perform react s .stop).1.IsOrderly ∧ (perform react s .stop).1.Follows listener generation false
      (states ++ published react s .stop) := by
  obtain ⟨strides, hwalk, htidings, htelling, -⟩ := exists_strides_stop s
  have hended := Service.follows_walk hr ho h hwalk
    (fun stride hmem => Stride.spares_of_isTelling (htelling stride hmem) listener)
    fun hmem => (htelling _ hmem).elim
  rw [if_pos rfl, htidings] at hended
  exact ⟨Service.isOrderly_closeShared hr hended.1, Service.follows_closeShared hended.2⟩

theorem isUnknown_after (ho : s.IsOrderly) (h : Board.IsUnknown s listener) {actions : List Action}
    (hspares : ∀ a ∈ actions, a.Spares listener) :
    (after react s actions).IsOrderly ∧ Board.IsUnknown (after react s actions) listener := by
  induction actions generalizing s with
  | nil => exact ⟨ho, h⟩
  | cons a actions ih =>
    obtain ⟨hfirst, hrest⟩ := List.forall_mem_cons.mp hspares
    obtain ⟨strides, hstrides⟩ := exists_stridesOf s a
    obtain ⟨ho', h'⟩ := Service.isUnknown_walk hr ho h hstrides.walk (hstrides.spares listener hfirst)
    exact ih ho' h' hrest

/-- **The run lemma.** Actions that spare a listener add what they publish while the worker of the listener is
open, and nothing after that. -/
theorem follows_after (ho : s.IsOrderly) (h : s.Follows listener generation isOpen states)
    {actions : List Action} (hspares : ∀ a ∈ actions, a.Spares listener)
    (hclose : .stop ∈ actions → isOpen = false) :
    (after react s actions).IsOrderly ∧ (after react s actions).Follows listener generation isOpen
      (states ++ if isOpen then collect react (published react) s actions else []) := by
  induction actions generalizing s states with
  | nil =>
    rw [collect, ite_self, List.append_nil]
    exact ⟨ho, h⟩
  | cons a actions ih =>
    obtain ⟨hfirst, hrest⟩ := List.forall_mem_cons.mp hspares
    obtain ⟨ho', h'⟩ := follows_perform hr ho h hfirst fun hstop => hclose (by simp [hstop])
    have hlast := ih ho' h' hrest fun hmem => hclose (List.mem_cons_of_mem a hmem)
    rw [append_ite_append] at hlast
    exact hlast

/-- **A listener with the shared worker is told everything until the first stop, and nothing after it.** It
is registered without a context, after whatever was done before, and is neither removed nor registered again.
Until the service is stopped, once its worker was run, it was told what was published since it came, each
state once and in order. The stop adds what the last cycles of the loop publish. After that nothing is added
any more, whatever is published, and however often the service is started and stopped. -/
theorem told_until_stop {s₀ : Service} (h₀ : s₀.IsUnused) (listener : String) {before between : List Action}
    (hbefore : ∀ a ∈ before, a.Spares listener) (hbetween : ∀ a ∈ between, a.Spares listener)
    (hnostop : .stop ∉ between) :
    let registered := after react s₀ (before ++ [.register listener none])
    let running := after react registered between
    ∃ worker, running.registry.context? listener = some worker ∧
      (running.run react worker).1.told listener = collect react (published react) registered between ∧
      ∀ later : List Action, (∀ a ∈ later, a.Spares listener) →
        let last := after react registered (between ++ .stop :: later)
        last.registry.context? listener = some worker ∧
          (last.run react worker).1.told listener =
            collect react (published react) registered (between ++ [.stop]) := by
  intro registered running
  have hregistered : registered = (after react s₀ before).registerListener listener none :=
    after_append react s₀ before [.register listener none]
  obtain ⟨ho, hunknown⟩ := isUnknown_after hr h₀.isOrderly (h₀.isUnknown listener) hbefore
  obtain ⟨generation, ho, hfollows⟩ := Service.follows_registerListener hr ho hunknown
  rw [← hregistered] at ho hfollows
  obtain ⟨horunning, hrunning⟩ := follows_after hr ho hfollows hbetween fun hmem => (hnostop hmem).elim
  rw [if_pos rfl, List.nil_append] at hrunning
  refine ⟨.shared generation, hrunning.bound, Service.told_run hr horunning hrunning, fun later hlater => ?_⟩
  intro last
  have hlast : last = after react (perform react running .stop).1 later :=
    after_append react registered between (.stop :: later)
  obtain ⟨hostopped, hstopped⟩ := follows_stop hr horunning hrunning
  obtain ⟨holast, hfinal⟩ := follows_after hr hostopped hstopped hlater fun _ => rfl
  have hstates : collect react (published react) registered (between ++ [.stop]) =
      collect react (published react) registered between ++ published react running .stop := by
    rw [collect_append, collect, collect, List.append_nil]
  rw [hlast, hstates]
  rw [if_neg (by simp), List.append_nil] at hfinal
  exact ⟨hfinal.bound, Service.told_run hr holast hfinal⟩

end

/-! ### A lamp over night -/

/-- The boundaries of the day after. -/
def morrowBoundaries : Boundaries :=
  ⟨1687370400000, 1687413600000, 1687456800000, 1687500000000, by decide⟩

/-- The service is started at noon and stopped, and it is started again on the next day. -/
def overNight : List Action :=
  [.start, .runPending] ++ .stop :: [.start, .setNow (.ofInstant 1687435200000000), .runPending]

theorem unobtrusive_idle : Unobtrusive .idle := ⟨fun b _ _ => .refl b, fun _ _ _ => rfl, fun _ _ _ => rfl⟩

theorem isUnused_noonService : noonService.IsUnused :=
  ⟨rfl, fun _ => rfl, rfl, fun _ hmem => nomatch hmem⟩

/-- A lamp is told the first day. The second is published, and is lost to it. -/
theorem told_first_day :
    let registered := after .idle noonService ([] ++ [.register "lamp" none])
    let last := after .idle registered overNight
    ∃ worker, last.registry.context? "lamp" = some worker ∧
      (last.run .idle worker).1.told "lamp" = [some noonBoundaries] ∧
      last.registry.last = some morrowBoundaries := by
  intro registered last
  have hbefore : ∀ a ∈ ([] : List Action), a.Spares "lamp" := by simp
  have hbetween : ∀ a ∈ ([.start, .runPending] : List Action), a.Spares "lamp" := by simp [Action.Spares]
  have hlater : ∀ a ∈ ([.start, .setNow (.ofInstant 1687435200000000), .runPending] : List Action),
      a.Spares "lamp" := by simp [Action.Spares]
  obtain ⟨worker, -, -, hlast⟩ := told_until_stop unobtrusive_idle isUnused_noonService "lamp" hbefore hbetween
    (by simp)
  obtain ⟨hbound, htold⟩ := hlast _ hlater
  refine ⟨worker, hbound, htold.trans ?_, ?_⟩
  · decide +kernel
  · decide +kernel

/-- What an action publishes while the service runs. -/
def publishedRunning (react : Reaction Tracker) (s : Service) (a : Action) : List (Option Boundaries) :=
  if s.owner.isRunning then published react s a else []

/-- **What is published while the service runs is not always told**, even to a listener that was registered
before all of it and stays: the boundaries of the second day are lost. -/
theorem misses_second_day : ¬ ∀ (actions : List Action) (worker : ContextId),
    (∀ a ∈ actions, a.Spares "lamp") →
    let registered := after .idle noonService [.register "lamp" none]
    let last := after .idle registered actions
    last.registry.context? "lamp" = some worker →
    (last.run .idle worker).1.told "lamp" = collect .idle (publishedRunning .idle) registered actions := by
  intro h
  have hspares : ∀ a ∈ overNight, a.Spares "lamp" := by simp [overNight, Action.Spares]
  have htold := h overNight (.shared 0) hspares (by decide +kernel)
  revert htold
  decide +kernel

end Scenario

end Daylight
