import Daylight.Board
import Mathlib.Data.List.Nodup

/-!
# Posting and running tasks

What can be done to a board by those who own it: listeners are registered and removed, states are
published, tasks that wait in a context are run, one after the other, and contexts are closed or refuse
what is posted to them. A listener that does such a thing while it is told something does it right after
it was told, so in the order of deeds it is a deed of its own. What is left of a listener is whether it
fails, and what it does elsewhere (`Detached`).

## What is proved

One lemma for each operation, in terms of what can be seen of a board: the bindings, the contexts with
their tasks, and what each listener was told.

* `context?_register`, `context?_unregister`: only the binding of that listener is changed.
* `tells_deliver`, `tells_foldl_deliver`: running tasks tells a listener those that are for it and for the
  context to which it is bound.
* `posts_post`, `posts_notifyAll`: posting adds to each context that takes tasks what is for it, at the
  end, whatever other contexts refuse.
* `isDeferring_perform`: while no context runs what it gets at once, tasks wait in the context they are
  for, and every listener is bound once. Every deed keeps this.
-/

namespace Daylight

theorem lookup_cons_eq_ite {α β : Type} [DecidableEq α] (name key : α) (value : β)
    (rest : List (α × β)) :
    ((key, value) :: rest).lookup name = if name = key then some value else rest.lookup name := by
  rw [List.lookup_cons]
  by_cases h : name = key
  · rw [if_pos h, beq_iff_eq.mpr h]
  · rw [if_neg h, beq_eq_false_iff_ne.mpr h]

/-! ### Bindings -/

namespace Registry

variable {r : Registry}

theorem lookup_bind (listener : String) (context : ContextId) (bindings : List (String × ContextId))
    (name : String) : (bind listener context bindings).lookup name =
      if name = listener then some context else bindings.lookup name := by
  induction bindings with
  | nil => exact lookup_cons_eq_ite name listener context []
  | cons binding rest ih =>
    obtain ⟨l, c⟩ := binding
    by_cases hl : l = listener
    · subst hl
      simp only [bind, if_true, lookup_cons_eq_ite]
      split <;> rfl
    · simp only [bind, hl, if_false, lookup_cons_eq_ite, ih]
      by_cases h : name = l
      · rw [if_pos h, if_neg (by rwa [h]), if_pos h]
      · rw [if_neg h, if_neg h]

/-- Registering a listener binds it, and no other. -/
theorem context?_register (r : Registry) (listener : String) (context : ContextId) (name : String) :
    (r.register listener context).context? name =
      if name = listener then some context else r.context? name :=
  lookup_bind listener context r.bindings name

/-- Removing a listener takes its binding, and no other. -/
theorem context?_unregister (r : Registry) (listener name : String) :
    (r.unregister listener).context? name = if name = listener then none else r.context? name := by
  simp only [context?, unregister]
  induction r.bindings with
  | nil => exact (ite_self _).symm
  | cons binding rest ih =>
    obtain ⟨l, c⟩ := binding
    by_cases hl : l = listener
    · subst hl
      rw [List.filter_cons_of_neg (by simp), ih, lookup_cons_eq_ite]
      split <;> rfl
    · rw [List.filter_cons_of_pos (by simpa using hl), lookup_cons_eq_ite, lookup_cons_eq_ite, ih]
      by_cases h : name = l
      · rw [if_pos h, if_neg (by rwa [h]), if_pos h]
      · rw [if_neg h, if_neg h]

/-- Every listener is bound once. -/
def IsOnce (r : Registry) : Prop := (r.bindings.map (·.1)).Nodup

theorem keys_bind (listener : String) (context : ContextId) (bindings : List (String × ContextId)) :
    (bind listener context bindings).map (·.1) =
      if listener ∈ bindings.map (·.1) then bindings.map (·.1)
      else bindings.map (·.1) ++ [listener] := by
  induction bindings with
  | nil => rfl
  | cons binding rest ih =>
    by_cases hl : binding.1 = listener
    · simp [bind, hl]
    · have hne : listener ≠ binding.1 := fun h => hl h.symm
      simp only [bind, hl, if_false, List.map_cons, ih, List.mem_cons, hne, false_or]
      split <;> rfl

theorem isOnce_register (h : r.IsOnce) (listener : String) (context : ContextId) :
    (r.register listener context).IsOnce := by
  rw [IsOnce, register, keys_bind]
  split
  · exact h
  · rename_i hnew
    exact List.nodup_append'.mpr ⟨h, List.nodup_singleton _, by simpa using hnew⟩

theorem isOnce_unregister (h : r.IsOnce) (listener : String) : (r.unregister listener).IsOnce := by
  have hsub : ((r.unregister listener).bindings.map (·.1)).Sublist (r.bindings.map (·.1)) :=
    List.filter_sublist.map _
  exact hsub.nodup h

end Registry

/-! ### Tasks -/

/-- The states that tasks have for a listener. -/
def statesFor (listener : String) (tasks : List Delivery) : List (Option Boundaries) :=
  (tasks.filter (·.listener = listener)).map (·.state)

@[simp] theorem statesFor_nil (listener : String) : statesFor listener [] = [] := rfl

@[simp] theorem statesFor_append (listener : String) (tasks more : List Delivery) :
    statesFor listener (tasks ++ more) = statesFor listener tasks ++ statesFor listener more := by
  rw [statesFor, List.filter_append, List.map_append]
  rfl

theorem statesFor_cons (listener : String) (d : Delivery) (tasks : List Delivery) :
    statesFor listener (d :: tasks) = statesFor listener [d] ++ statesFor listener tasks :=
  statesFor_append listener [d] tasks

theorem statesFor_eq_nil {listener : String} {tasks : List Delivery}
    (h : ∀ d ∈ tasks, d.listener ≠ listener) : statesFor listener tasks = [] := by
  rw [statesFor, List.map_eq_nil_iff, List.filter_eq_nil_iff]
  simpa using h

/-- The tasks for a context. -/
def tasksIn (context : ContextId) (tasks : List Delivery) : List Delivery :=
  tasks.filter (·.context = context)

theorem tasksIn_cons (context : ContextId) (d : Delivery) (tasks : List Delivery) :
    tasksIn context (d :: tasks) = (if d.context = context then [d] else []) ++ tasksIn context tasks := by
  rw [tasksIn, List.filter_cons]
  by_cases h : d.context = context <;> simp [h, tasksIn]

theorem statesFor_tasksIn_map (listener : String) (context : ContextId) (state : Option Boundaries)
    {bindings : List (String × ContextId)} (h : (bindings.map (·.1)).Nodup) :
    statesFor listener (tasksIn context (bindings.map fun binding => ⟨binding.1, binding.2, state⟩)) =
      if bindings.lookup listener = some context then [state] else [] := by
  induction bindings with
  | nil => rfl
  | cons binding rest ih =>
    obtain ⟨l, c⟩ := binding
    obtain ⟨hnew, hrest⟩ := List.nodup_cons.mp h
    rw [List.map_cons, tasksIn_cons, statesFor_append, lookup_cons_eq_ite]
    by_cases hl : listener = l
    · subst hl
      -- the other bindings are those of other listeners
      have hothers : statesFor listener
          (tasksIn context (rest.map fun binding => ⟨binding.1, binding.2, state⟩)) = [] := by
        refine statesFor_eq_nil fun d hd => ?_
        obtain ⟨p, hp, rfl⟩ := List.mem_map.mp (List.mem_of_mem_filter hd)
        rintro rfl
        exact hnew (List.mem_map.mpr ⟨p, hp, rfl⟩)
      rw [hothers, List.append_nil, if_pos rfl]
      by_cases hc : c = context <;> simp [statesFor, hc]
    · rw [if_neg hl, ih hrest]
      have hne : ¬ l = listener := fun h => hl h.symm
      split <;> simp [statesFor, hne]

/-- What is posted when a state is published holds the state once for a listener, in the context to which
it is bound. -/
theorem statesFor_tasksIn_deliveries {r : Registry} (h : r.IsOnce) (listener : String)
    (context : ContextId) (state : Option Boundaries) :
    statesFor listener (tasksIn context (r.deliveries state)) =
      if r.context? listener = some context then [state] else [] :=
  statesFor_tasksIn_map listener context state h

namespace Context

/-- Whether a context keeps what is posted to it. -/
def Takes (c : Context) : Prop := c.isOpen = true ∧ (c.kind = .queue ∨ c.kind = .worker)

instance (c : Context) : Decidable c.Takes := inferInstanceAs (Decidable (_ ∧ _))

/-- A context with more tasks, if it takes them. -/
def add (c : Context) (tasks : List Delivery) : Context :=
  if c.Takes then { c with tasks := c.tasks ++ tasks } else c

@[simp] theorem kind_add (c : Context) (tasks : List Delivery) : (c.add tasks).kind = c.kind := by
  unfold add
  split <;> rfl

@[simp] theorem takes_add (c : Context) (tasks : List Delivery) : (c.add tasks).Takes ↔ c.Takes := by
  unfold add
  split <;> rfl

theorem tasks_add (c : Context) (tasks : List Delivery) :
    (c.add tasks).tasks = c.tasks ++ if c.Takes then tasks else [] := by
  unfold add
  split
  · rfl
  · rw [List.append_nil]

@[simp] theorem add_nil (c : Context) : c.add [] = c := by
  unfold add
  split
  · rw [List.append_nil]
  · rfl

theorem add_add (c : Context) (tasks more : List Delivery) :
    (c.add tasks).add more = c.add (tasks ++ more) := by
  by_cases h : c.Takes
  · have h' := (takes_add c tasks).mpr h
    rw [add, if_pos h', add, if_pos h, add, if_pos h, List.append_assoc]
  · have h' := mt (takes_add c tasks).mp h
    rw [add, if_neg h', add, if_neg h, add, if_neg h]

theorem mem_tasks_add {c : Context} {tasks : List Delivery} {d : Delivery}
    (h : d ∈ (c.add tasks).tasks) : d ∈ c.tasks ∨ d ∈ tasks := by
  unfold add at h
  split at h
  · exact List.mem_append.mp h
  · exact Or.inl h

end Context

namespace Board

variable {ω : Type}

/-! ### What can be seen of a board -/

/-- The journal of whoever is at work. -/
def currentJournal (b : Board ω) : Journal := if b.onWorker then b.workerJournal else b.journal

/-- What a listener was told. -/
def told (b : Board ω) (listener : String) : List (Option Boundaries) :=
  (b.currentJournal.deliveries.filter (·.1 = listener)).map (·.2)

/-- What waits for a listener in a context. -/
def waiting (b : Board ω) (listener : String) (context : ContextId) : List (Option Boundaries) :=
  statesFor listener (b.context context).tasks

theorem lookup_mapContext (b : Board ω) (id other : ContextId) (change : Context → Context) :
    (b.mapContext id change).contexts.lookup other =
      (b.contexts.lookup other).map fun c => if other = id then change c else c := by
  simp only [mapContext]
  induction b.contexts with
  | nil => rfl
  | cons entry rest ih =>
    obtain ⟨key, c⟩ := entry
    have hentry : (if key = id then (key, change c) else (key, c)) =
        (key, if key = id then change c else c) := by split <;> rfl
    rw [List.map_cons, hentry, lookup_cons_eq_ite, lookup_cons_eq_ite, ih]
    by_cases h : other = key
    · rw [if_pos h, if_pos h, h, Option.map_some]
    · rw [if_neg h, if_neg h]

/-- A context that is there is changed, and all others stay. -/
theorem context_mapContext (b : Board ω) (id other : ContextId) (change : Context → Context) :
    (b.mapContext id change).context other =
      if other = id ∧ (b.contexts.lookup id).isSome then change (b.context id) else b.context other := by
  simp only [context, lookup_mapContext]
  by_cases h : other = id
  · subst h
    cases b.contexts.lookup other <;> simp
  · cases b.contexts.lookup other <;> simp [h]

/-- What holds of every context that is there, and of one that is not there, holds of the context with any
name. -/
theorem context_of_forall {p : Context → Prop} {b : Board ω} (hrefusing : p (.ofKind .refusing))
    (h : ∀ entry ∈ b.contexts, p entry.2) (id : ContextId) : p (b.context id) := by
  rw [context]
  cases hc : b.contexts.lookup id with
  | none => exact hrefusing
  | some c =>
    obtain ⟨before, behind, heq, -⟩ := List.lookup_eq_some_iff.mp hc
    exact h (id, c) (by simp [heq])

/-! ### Running tasks -/

/-- Nothing but what listeners were told, the log and the owner is another. -/
structure Tells (b b' : Board ω) (states : String → List (Option Boundaries)) : Prop where
  /-- The bindings and what was published last are the same. -/
  registry : b'.registry = b.registry
  /-- The contexts are the same. -/
  contexts : b'.contexts = b.contexts
  /-- The same journal is written. -/
  onWorker : b'.onWorker = b.onWorker
  /-- Every listener was told these states. -/
  told : ∀ listener, b'.told listener = b.told listener ++ states listener

theorem tells_record (b : Board ω) (write : Journal → Journal) (states : List (String × Option Boundaries))
    (h : ∀ j, (write j).deliveries = j.deliveries ++ states) :
    b.Tells (b.record write) fun listener => (states.filter (·.1 = listener)).map (·.2) := by
  obtain ⟨registry, contexts, journal, workerJournal, onWorker, owner⟩ := b
  cases onWorker <;>
    exact ⟨rfl, rfl, rfl, fun listener => by simp [told, currentJournal, record, h]⟩

theorem Tells.trans {b b' b'' : Board ω} {states more : String → List (Option Boundaries)}
    (h : b.Tells b' states) (h' : b'.Tells b'' more) :
    b.Tells b'' fun listener => states listener ++ more listener :=
  ⟨h'.registry.trans h.registry, h'.contexts.trans h.contexts, h'.onWorker.trans h.onWorker,
    fun listener => by rw [h'.told, h.told, List.append_assoc]⟩

theorem Tells.congr {b b' : Board ω} {states more : String → List (Option Boundaries)}
    (h : b.Tells b' states) (he : ∀ listener, states listener = more listener) : b.Tells b' more :=
  ⟨h.registry, h.contexts, h.onWorker, fun listener => by rw [h.told, he]⟩

theorem tells_report (b : Board ω) (entry : LogEntry) : b.Tells (b.report entry) fun _ => [] :=
  tells_record b (fun j => { j with log := j.log ++ [entry] }) [] fun j =>
    (List.append_nil j.deliveries).symm

theorem Tells.refl (b : Board ω) : b.Tells b fun _ => [] :=
  ⟨rfl, rfl, rfl, fun listener => (List.append_nil (b.told listener)).symm⟩

end Board

/-- Listeners that leave the bindings, the contexts and what others were told alone while they are told
something. They may fail, write into the log, and change the owner. -/
def Detached {ω : Type} (react : Reaction ω) : Prop :=
  ∀ (b : Board ω) listener state, b.Tells (react b listener state).1 fun _ => []

namespace Board

variable {ω : Type} {react : Reaction ω}

/-- Running a task tells its listener, if it is still bound to the context; a listener that fails was
told all the same. -/
theorem tells_deliver (hd : Detached react) (b : Board ω) (d : Delivery) :
    b.Tells (b.deliver react d) fun listener =>
      if b.registry.context? listener = some d.context then statesFor listener [d] else [] := by
  unfold deliver
  by_cases hbound : b.registry.context? d.listener = some d.context
  · rw [if_pos hbound]
    have hrecord := b.tells_record
      (fun j => { j with deliveries := j.deliveries ++ [(d.listener, d.state)] }) [(d.listener, d.state)]
      fun _ => rfl
    have htold := hrecord.trans (hd _ d.listener d.state)
    have hstates : ∀ listener, ([(d.listener, d.state)].filter (·.1 = listener)).map (·.2) ++ [] =
        if b.registry.context? listener = some d.context then statesFor listener [d] else [] := by
      intro listener
      by_cases hl : d.listener = listener
      · subst hl
        simp [statesFor, hbound]
      · simp [statesFor, hl]
    dsimp only
    split
    · rename_i b' heq
      rw [heq] at htold
      exact htold.congr hstates
    · rename_i b' e heq
      rw [heq] at htold
      exact (htold.trans (tells_report b' _)).congr fun listener => by rw [List.append_nil, hstates]
  · rw [if_neg hbound]
    refine ⟨rfl, rfl, rfl, fun listener => ?_⟩
    by_cases hl : d.listener = listener
    · subst hl
      rw [if_neg hbound, List.append_nil]
    · simp [statesFor, hl]

/-- **Running tasks of a context** tells a listener that is bound to it those that are for the listener,
in their order, and no other listener. -/
theorem tells_foldl_deliver (hd : Detached react) {context : ContextId} {tasks : List Delivery}
    (h : ∀ d ∈ tasks, d.context = context) (b : Board ω) :
    b.Tells (tasks.foldl (deliver react) b) fun listener =>
      if b.registry.context? listener = some context then statesFor listener tasks else [] := by
  induction tasks generalizing b with
  | nil => exact ⟨rfl, rfl, rfl, fun listener => by simp⟩
  | cons d tasks ih =>
    obtain ⟨hcontext, htasks⟩ := List.forall_mem_cons.mp h
    have hfirst := tells_deliver hd b d
    refine (hfirst.trans (ih htasks (b.deliver react d))).congr fun listener => ?_
    rw [hfirst.registry, hcontext, statesFor_cons listener d tasks]
    split <;> rfl

/-! ### Posting -/

/-- Nothing but the tasks that wait, the log and the owner is another: every context was given what is
for it. -/
structure Posts (b b' : Board ω) (tasks : List Delivery) : Prop where
  /-- The bindings and what was published last are the same. -/
  registry : b'.registry = b.registry
  /-- The same journal is written. -/
  onWorker : b'.onWorker = b.onWorker
  /-- Nobody was told anything. -/
  told : ∀ listener, b'.told listener = b.told listener
  /-- Every context has its tasks, if it takes any. -/
  context : ∀ id, b'.context id = (b.context id).add (tasksIn id tasks)

/-- A context that is told that a task came for it either takes it, or it is logged that it does not. -/
theorem posts_post (react : Reaction ω) {b : Board ω} {d : Delivery}
    (h : (b.context d.context).kind ≠ .inline) : b.Posts (b.post react d) [d] := by
  have hrefused : ∀ entry, ¬ (b.context d.context).Takes → b.Posts (b.report entry) [d] := by
    intro entry hno
    obtain ⟨hregistry, hcontexts, honWorker, htold⟩ := tells_report b entry
    refine ⟨hregistry, honWorker, fun listener => by rw [htold, List.append_nil], fun id => ?_⟩
    rw [context, hcontexts, ← context, tasksIn]
    by_cases hid : d.context = id
    · subst hid
      rw [Context.add, if_neg hno]
    · simp [hid]
  have htaken : (b.context d.context).Takes → b.Posts
      (b.mapContext d.context fun context => { context with tasks := context.tasks ++ [d] }) [d] := by
    intro htakes
    refine ⟨rfl, rfl, fun _ => rfl, fun id => ?_⟩
    have hsome : (b.contexts.lookup d.context).isSome := by
      by_contra hnone
      rw [Option.not_isSome_iff_eq_none] at hnone
      rw [context, hnone] at htakes
      exact absurd htakes (by decide)
    rw [context_mapContext, tasksIn]
    by_cases hid : id = d.context
    · subst hid
      rw [if_pos ⟨rfl, hsome⟩, Context.add, if_pos htakes]
      simp
    · have hne : d.context ≠ id := fun h => hid h.symm
      simp [hid, hne]
  cases hk : (b.context d.context).kind with
  | refusing =>
    simp only [post, hk]
    exact hrefused _ fun ⟨_, hkind⟩ => by simp [hk] at hkind
  | inline => exact absurd hk h
  | queue | worker =>
    simp only [post, hk]
    split
    · rename_i hopen
      exact htaken ⟨hopen, by simp [hk]⟩
    · rename_i hclosed
      exact hrefused _ fun ⟨hopen, _⟩ => hclosed hopen

/-- No context runs its tasks while they are posted. -/
def HasNoInline (b : Board ω) : Prop := ∀ id, (b.context id).kind ≠ .inline

theorem posts_foldl_post {tasks : List Delivery} {b : Board ω} (h : b.HasNoInline) :
    b.Posts (tasks.foldl (post react) b) tasks := by
  induction tasks generalizing b with
  | nil => exact ⟨rfl, rfl, fun _ => rfl, fun id => ((b.context id).add_nil).symm⟩
  | cons d tasks ih =>
    have hfirst := posts_post react (h d.context)
    have hinline : (b.post react d).HasNoInline := fun id => by
      rw [hfirst.context, Context.kind_add]
      exact h id
    have hrest := ih hinline
    refine ⟨hrest.registry.trans hfirst.registry, hrest.onWorker.trans hfirst.onWorker,
      fun listener => (hrest.told listener).trans (hfirst.told listener), fun id => ?_⟩
    rw [List.foldl_cons, hrest.context, hfirst.context, Context.add_add, tasksIn, tasksIn, tasksIn,
      ← List.filter_append, List.singleton_append]

/-- **Telling all listeners** posts one task for each, in the order in which they came. -/
theorem posts_notifyAll {b : Board ω} (h : b.HasNoInline) (state : Option Boundaries) :
    b.Posts (b.notifyAll react state) (b.registry.deliveries state) :=
  posts_foldl_post h

end Board

/-! ### Deeds -/

/-- What can be done to a board. -/
inductive Deed where
  /-- Register a listener. -/
  | register (listener : String) (context : ContextId)
  /-- Remove a listener. -/
  | unregister (listener : String)
  /-- Publish a state. -/
  | publish (state : Option Boundaries)
  /-- Run the first tasks that wait in a context, so many of them. -/
  | run (context : ContextId) (count : Nat)
  /-- Close a context. -/
  | shutDown (context : ContextId)
  /-- Let a context refuse what is posted to it, or keep it again. -/
  | refuse (context : ContextId) (refuses : Bool)

namespace Board

variable {ω : Type}

/-- Takes the first tasks out of a context. -/
def drop (b : Board ω) (id : ContextId) (count : Nat) : Board ω :=
  let rest := (b.context id).tasks.drop count
  b.mapContext id fun context => { context with tasks := rest }

/-- Runs the first tasks that wait in a context. -/
def runFirst (react : Reaction ω) (b : Board ω) (id : ContextId) (count : Nat) : Board ω :=
  ((b.context id).tasks.take count).foldl (deliver react) (b.drop id count)

/-- A context is run by running all its tasks. -/
theorem run_eq_runFirst (react : Reaction ω) (b : Board ω) (id : ContextId) :
    (b.run react id).1 = b.runFirst react id (b.context id).tasks.length := by
  simp only [run, runFirst, drop, List.take_length, List.drop_length]

/-- Lets a context refuse what is posted to it, or keep it again. -/
def refuse (b : Board ω) (id : ContextId) (refuses : Bool) : Board ω :=
  b.mapContext id fun context => { context with kind := if refuses then .refusing else .queue }

/-- What a deed does. -/
def perform (react : Reaction ω) (b : Board ω) : Deed → Board ω
  | .register listener context => b.register listener context
  | .unregister listener => b.unregister listener
  | .publish state => (b.publish react state).1
  | .run context count => b.runFirst react context count
  | .shutDown context => b.shutDown context
  | .refuse context refuses => b.refuse context refuses

/-- What deeds do, one after the other. -/
def enact (react : Reaction ω) (b : Board ω) (deeds : List Deed) : Board ω :=
  deeds.foldl (perform react) b

variable {react : Reaction ω} {b b' : Board ω}

/-- A state that is not news is not published. -/
theorem publish_of_same {state : Option Boundaries} (h : b.registry.last = state) :
    b.publish react state = (b, false) := if_pos h

/-- Publishing news keeps it as the last state and posts it to all listeners. -/
theorem posts_publish (react : Reaction ω) {state : Option Boundaries} (h : b.HasNoInline)
    (hnews : b.registry.last ≠ state) :
    (b.publish react state).2 = true ∧ (b.mapRegistry fun r => { r with last := state }).Posts
      (b.publish react state).1 (b.registry.deliveries state) := by
  rw [publish, if_neg hnews]
  exact ⟨rfl, posts_notifyAll (b := b.mapRegistry fun r => { r with last := state }) h state⟩

/-- No context runs what it gets at once, tasks wait in the context they are for, and every listener is
bound once. -/
structure IsDeferring (b : Board ω) : Prop where
  /-- No context runs its tasks while they are posted. -/
  inline : b.HasNoInline
  /-- Tasks wait in the context they are for. -/
  home : ∀ id, ∀ d ∈ (b.context id).tasks, d.context = id
  /-- Every listener is bound once. -/
  once : b.registry.IsOnce

/-- Running the first tasks of a context tells the listeners that are bound to it. -/
theorem tells_runFirst (hd : Detached react) (h : b.IsDeferring) (id : ContextId) (count : Nat) :
    (b.drop id count).Tells (b.runFirst react id count) fun listener =>
      if b.registry.context? listener = some id
      then statesFor listener ((b.context id).tasks.take count) else [] :=
  tells_foldl_deliver hd (fun d hmem => h.home id d (List.mem_of_mem_take hmem)) (b.drop id count)

theorem context_drop (b : Board ω) (id other : ContextId) (count : Nat) :
    (b.drop id count).context other =
      if other = id then { b.context id with tasks := (b.context id).tasks.drop count }
      else b.context other := by
  rw [drop, context_mapContext]
  by_cases hid : other = id
  · subst hid
    cases hc : b.contexts.lookup other with
    | some c => simp
    | none => simp [context, hc, Context.ofKind]
  · simp [hid]

/-! ### Every deed keeps a board deferring -/

/-- A board with other tidings is as deferring as before. -/
theorem IsDeferring.of_tells {states : String → List (Option Boundaries)} (h : b.IsDeferring)
    (ht : b.Tells b' states) : b'.IsDeferring := by
  have hcontext : ∀ id, b'.context id = b.context id := fun id => by
    rw [context, ht.contexts, ← context]
  refine ⟨fun id => ?_, fun id d hmem => ?_, ?_⟩
  · rw [hcontext]
    exact h.inline id
  · rw [hcontext] at hmem
    exact h.home id d hmem
  · rw [ht.registry]
    exact h.once

theorem IsDeferring.of_posts {tasks : List Delivery} (h : b.IsDeferring) (hp : b.Posts b' tasks) :
    b'.IsDeferring := by
  refine ⟨fun id => ?_, fun id d hmem => ?_, ?_⟩
  · rw [hp.context, Context.kind_add]
    exact h.inline id
  · rw [hp.context] at hmem
    obtain hold | hnew := Context.mem_tasks_add hmem
    · exact h.home id d hold
    · simpa using (List.mem_filter.mp hnew).2
  · rw [hp.registry]
    exact h.once

/-- A context that is changed otherwise than by making it run what it gets, and by giving it tasks. -/
theorem IsDeferring.mapContext (h : b.IsDeferring) (id : ContextId) (change : Context → Context)
    (hkind : (change (b.context id)).kind ≠ .inline)
    (htasks : (change (b.context id)).tasks ⊆ (b.context id).tasks) :
    (b.mapContext id change).IsDeferring := by
  refine ⟨fun other => ?_, fun other d hmem => ?_, h.once⟩
  · rw [context_mapContext]
    split
    · exact hkind
    · exact h.inline other
  · rw [context_mapContext] at hmem
    split at hmem
    · rename_i hid
      rw [hid.1]
      exact h.home id d (htasks hmem)
    · exact h.home other d hmem

/-- **Every deed keeps a board deferring.** -/
theorem isDeferring_perform (hd : Detached react) (h : b.IsDeferring) (deed : Deed) :
    (b.perform react deed).IsDeferring := by
  cases deed with
  | register listener context => exact ⟨h.inline, h.home, Registry.isOnce_register h.once listener context⟩
  | unregister listener => exact ⟨h.inline, h.home, Registry.isOnce_unregister h.once listener⟩
  | publish state =>
    by_cases hnews : b.registry.last = state
    · rw [perform, publish_of_same hnews]
      exact h
    · have hlast : (b.mapRegistry fun r => { r with last := state }).IsDeferring :=
        ⟨h.inline, h.home, h.once⟩
      exact hlast.of_posts (posts_publish react h.inline hnews).2
  | run id count =>
    have hdrop := h.mapContext id
      (fun context => { context with tasks := (b.context id).tasks.drop count }) (h.inline id)
      (List.drop_subset count (b.context id).tasks)
    exact hdrop.of_tells (tells_runFirst hd h id count)
  | shutDown id =>
    exact h.mapContext id (fun context => { context with isOpen := false }) (h.inline id)
      (List.Subset.refl (b.context id).tasks)
  | refuse id refuses =>
    have hkind : (if refuses then Context.Kind.refusing else .queue) ≠ .inline := by
      split <;> decide
    exact h.mapContext id
      (fun context => { context with kind := if refuses then .refusing else .queue }) hkind
      (List.Subset.refl (b.context id).tasks)

theorem isDeferring_enact (hd : Detached react) (h : b.IsDeferring) (deeds : List Deed) :
    (b.enact react deeds).IsDeferring := by
  induction deeds generalizing b with
  | nil => exact h
  | cons deed deeds ih => exact ih (isDeferring_perform hd h deed)

section

variable {contexts : List (ContextId × Context)} (owner : ω)
  (h : ∀ entry ∈ contexts, entry.2.kind ≠ .inline ∧ entry.2.tasks = [])

include h

theorem context_ofOwner (id : ContextId) : ((ofOwner contexts owner).context id).kind ≠ .inline ∧
    ((ofOwner contexts owner).context id).tasks = [] :=
  context_of_forall (p := fun c => c.kind ≠ .inline ∧ c.tasks = []) ⟨by decide, rfl⟩ h id

/-- A board with idle contexts and no listeners. -/
theorem isDeferring_ofOwner : (ofOwner contexts owner).IsDeferring := by
  refine ⟨fun id => (context_ofOwner owner h id).1, fun id d hmem => ?_, List.nodup_nil⟩
  rw [(context_ofOwner owner h id).2] at hmem
  cases hmem

end

end Board

end Daylight
