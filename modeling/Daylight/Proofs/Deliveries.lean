import Daylight.Proofs.Posting

/-!
# What a steady listener is told

A listener comes to a board on which much may have happened before. It is registered with a context that
takes what is posted to it, and it stays: it is neither removed nor registered again, and its context is
not closed. Whatever is done to other listeners and other contexts meanwhile, and whichever listeners
fail, it is told every state that was news since it came, each once and in the order in which they were
published.

What carries this is that nothing is lost between the board and the listener: what it was told, and then
what waits for it in its context, is the list of the news since it came.

## What is proved

* `last_perform`, `context?_perform`, `takes_perform`, `tasks_perform`, `told_perform`: what one deed does
  to what can be seen of a board.
* `told_waiting_perform`: what a listener was told, and then what waits for it, grows by the news.
* `isUnknown_perform`: before a listener is registered, nothing is for it anywhere.
* `isSteady_perform`: the step lemma. Every deed that spares the listener and its context adds its news
  to what the listener was told or is still to be told.
* `isSteady_enact`: the run lemma.
* `told_of_steady`: once its context was run, the listener was told the news since it came.
-/

namespace Daylight

namespace Deed

/-- Whether a deed registers a listener. -/
def Registers (listener : String) : Deed → Prop
  | .register other _ => other = listener
  | .unregister _ | .publish _ | .run _ _ | .shutDown _ | .refuse _ _ => False

/-- Whether a deed leaves a listener bound as it is, and does not change whether a context takes what is
posted to it. -/
def Spares (listener : String) (context : ContextId) : Deed → Prop
  | .register other _ | .unregister other => other ≠ listener
  | .shutDown other | .refuse other _ => other ≠ context
  | .publish _ | .run _ _ => True

/-- The state that a deed publishes, if it is another one than the last. -/
def news (last : Option Boundaries) : Deed → List (Option Boundaries)
  | .publish state => if last = state then [] else [state]
  | .register _ _ | .unregister _ | .run _ _ | .shutDown _ | .refuse _ _ => []

/-- What was published last, after a deed. -/
def latest (last : Option Boundaries) : Deed → Option Boundaries
  | .publish state => state
  | .register _ _ | .unregister _ | .run _ _ | .shutDown _ | .refuse _ _ => last

/-- The context to which a listener is bound after a deed, where it was bound to one or to none before. -/
def binds (listener : String) (bound : Option ContextId) : Deed → Option ContextId
  | .register other id => if listener = other then some id else bound
  | .unregister other => if listener = other then none else bound
  | .publish _ | .run _ _ | .shutDown _ | .refuse _ _ => bound

/-- What a deed leaves of the tasks in every context: a context that is run loses its first ones. -/
def leaves (tasks : ContextId → List Delivery) : Deed → ContextId → List Delivery
  | .run id count, other => if other = id then (tasks id).drop count else tasks other
  | .register _ _, other | .unregister _, other | .publish _, other | .shutDown _, other
  | .refuse _ _, other => tasks other

instance (listener : String) : (deed : Deed) → Decidable (deed.Registers listener)
  | .register other _ => inferInstanceAs (Decidable (other = listener))
  | .unregister _ | .publish _ | .run _ _ | .shutDown _ | .refuse _ _ => inferInstanceAs (Decidable False)

instance (listener : String) (context : ContextId) : (deed : Deed) → Decidable (deed.Spares listener context)
  | .register other _ | .unregister other => inferInstanceAs (Decidable (other ≠ listener))
  | .shutDown other | .refuse other _ => inferInstanceAs (Decidable (other ≠ context))
  | .publish _ | .run _ _ => inferInstanceAs (Decidable True)

variable {listener : String} {context : ContextId} {deed : Deed}

/-- A listener that is not bound stays so until it is registered. -/
theorem binds_none (h : ¬ deed.Registers listener) : deed.binds listener none = none := by
  cases deed with
  | register other id => exact if_neg fun he => h he.symm
  | unregister other => exact ite_self _
  | publish _ | run _ _ | shutDown _ | refuse _ _ => rfl

theorem binds_of_spares (h : deed.Spares listener context) (bound : Option ContextId) :
    deed.binds listener bound = bound := by
  cases deed with
  | register other _ | unregister other => exact if_neg fun he => h he.symm
  | publish _ | run _ _ | shutDown _ | refuse _ _ => rfl

/-- Where nothing is for a listener, no deed leaves anything for it. -/
theorem statesFor_leaves (tasks : ContextId → List Delivery) (h : statesFor listener (tasks context) = [])
    (deed : Deed) : statesFor listener (deed.leaves tasks context) = [] := by
  cases deed with
  | run id count =>
    rw [leaves]
    split
    · rename_i hid
      rw [hid, ← List.take_append_drop count (tasks id), statesFor_append, List.append_eq_nil_iff] at h
      exact h.2
    · exact h
  | register _ _ | unregister _ | publish _ | shutDown _ | refuse _ _ => exact h

end Deed

/-- The news among what deeds publish, where a state was published last before them. -/
def newsOf (last : Option Boundaries) : List Deed → List (Option Boundaries)
  | [] => []
  | deed :: deeds => deed.news last ++ newsOf (deed.latest last) deeds

namespace Board

variable {ω : Type}

/-- What a deed posts to a context. -/
def posted (b : Board ω) : Deed → ContextId → List Delivery
  | .publish state, id =>
    if b.registry.last ≠ state ∧ (b.context id).Takes then tasksIn id (b.registry.deliveries state) else []
  | .register _ _, _ | .unregister _, _ | .run _ _, _ | .shutDown _, _ | .refuse _ _, _ => []

/-- What a deed tells a listener. -/
def telling (b : Board ω) : Deed → String → List (Option Boundaries)
  | .run id count, listener =>
    if b.registry.context? listener = some id then statesFor listener ((b.context id).tasks.take count)
    else []
  | .register _ _, _ | .unregister _, _ | .publish _, _ | .shutDown _, _ | .refuse _ _, _ => []

variable {react : Reaction ω} {b : Board ω} {listener : String} {context : ContextId}

/-- Nobody is told anything who is not bound. -/
theorem telling_of_unbound (h : b.registry.context? listener = none) (deed : Deed) :
    b.telling deed listener = [] := by
  cases deed with
  | run id count => rw [telling, h, if_neg (by simp)]
  | register _ _ | unregister _ | publish _ | shutDown _ | refuse _ _ => rfl

/-! ### What a deed does

One lemma for each thing that can be seen of a board: what was published last, the bindings, which
contexts take tasks, the tasks that wait, and what listeners were told. -/

theorem last_perform (hd : Detached react) (hb : b.IsDeferring) (deed : Deed) :
    (b.perform react deed).registry.last = deed.latest b.registry.last := by
  cases deed with
  | publish state =>
    by_cases hnews : b.registry.last = state
    · rw [perform, publish_of_same hnews, hnews]
      rfl
    · rw [perform, (posts_publish react hb.inline hnews).2.registry]
      rfl
  | run id count => exact congrArg Registry.last (tells_runFirst hd hb id count).registry
  | register other id | unregister other | shutDown id | refuse id refuses => rfl

theorem last_enact (hd : Detached react) (hb : b.IsDeferring) (deeds : List Deed) :
    (b.enact react deeds).registry.last = deeds.foldl Deed.latest b.registry.last := by
  induction deeds generalizing b with
  | nil => rfl
  | cons deed deeds ih =>
    rw [List.foldl_cons, ← last_perform hd hb]
    exact ih (isDeferring_perform hd hb deed)

/-- Only registering and removing a listener binds it otherwise. -/
theorem context?_perform (hd : Detached react) (hb : b.IsDeferring) (deed : Deed) (listener : String) :
    (b.perform react deed).registry.context? listener =
      deed.binds listener (b.registry.context? listener) := by
  cases deed with
  | register other id => exact Registry.context?_register b.registry other id listener
  | unregister other => exact Registry.context?_unregister b.registry other listener
  | publish state =>
    by_cases hnews : b.registry.last = state
    · rw [perform, publish_of_same hnews]
      rfl
    · rw [perform, (posts_publish react hb.inline hnews).2.registry]
      rfl
  | run id count => rw [perform, (tells_runFirst hd hb id count).registry]; rfl
  | shutDown id | refuse id refuses => rfl

/-- A change of another context does not change whether a context takes tasks. -/
theorem takes_mapContext {id : ContextId} (h : context ≠ id) {change : Context → Context} :
    ((b.mapContext id change).context context).Takes ↔ (b.context context).Takes := by
  rw [context_mapContext, if_neg fun he => h he.1]

/-- A deed that spares a context lets it take tasks as before. -/
theorem takes_perform (hd : Detached react) (hb : b.IsDeferring) {deed : Deed}
    (hdeed : deed.Spares listener context) :
    ((b.perform react deed).context context).Takes ↔ (b.context context).Takes := by
  cases deed with
  | register other id | unregister other => rfl
  | publish state =>
    by_cases hnews : b.registry.last = state
    · rw [perform, publish_of_same hnews]
    · rw [perform, (posts_publish react hb.inline hnews).2.context, Context.takes_add]
      rfl
  | run id count =>
    rw [perform, Board.context, (tells_runFirst hd hb id count).contexts, ← Board.context, context_drop]
    split
    · rename_i hid
      subst hid
      rfl
    · rfl
  | shutDown id | refuse id refuses => exact takes_mapContext fun he => hdeed he.symm

/-- A change that leaves the tasks of a context alone. -/
theorem tasks_mapContext (id : ContextId) {change : Context → Context}
    (h : (change (b.context id)).tasks = (b.context id).tasks) (other : ContextId) :
    ((b.mapContext id change).context other).tasks = (b.context other).tasks := by
  rw [context_mapContext]
  split
  · rename_i hid
    rw [h, hid.1]
  · rfl

/-- **What waits after a deed** is what the deed leaves, and behind it what the deed posts. -/
theorem tasks_perform (hd : Detached react) (hb : b.IsDeferring) (deed : Deed) (id : ContextId) :
    ((b.perform react deed).context id).tasks =
      deed.leaves (fun id => (b.context id).tasks) id ++ b.posted deed id := by
  cases deed with
  | register other _ | unregister other => exact (List.append_nil _).symm
  | publish state =>
    by_cases hnews : b.registry.last = state
    · rw [perform, publish_of_same hnews, posted, if_neg fun h => h.1 hnews, List.append_nil]
      rfl
    · rw [perform, (posts_publish react hb.inline hnews).2.context, Context.tasks_add, posted, ite_and,
        if_pos hnews]
      rfl
  | run ran count =>
    rw [perform, Board.context, (tells_runFirst hd hb ran count).contexts, ← Board.context, context_drop,
      posted, List.append_nil, Deed.leaves]
    split <;> rfl
  | shutDown _ | refuse _ _ => exact (tasks_mapContext _ rfl id).trans (List.append_nil _).symm

/-- What a deed posts for a listener is its news, in the context to which the listener is bound. -/
theorem statesFor_posted (hb : b.IsDeferring) (deed : Deed) (listener : String) (id : ContextId) :
    statesFor listener (b.posted deed id) =
      if (b.context id).Takes ∧ b.registry.context? listener = some id then deed.news b.registry.last
      else [] := by
  cases deed with
  | publish state =>
    rw [posted, Deed.news]
    by_cases hnews : b.registry.last = state
    · rw [if_neg fun h => h.1 hnews, if_pos hnews, ite_self]
      rfl
    · rw [if_neg hnews, ite_and, if_pos hnews, ite_and, ← statesFor_tasksIn_deliveries hb.once]
      split <;> rfl
  | register other _ | unregister other | run _ _ | shutDown _ | refuse _ _ => exact (ite_self _).symm

/-- What a listener was told after a deed. -/
theorem told_perform (hd : Detached react) (hb : b.IsDeferring) (deed : Deed) (listener : String) :
    (b.perform react deed).told listener = b.told listener ++ b.telling deed listener := by
  cases deed with
  | publish state =>
    rw [telling, List.append_nil]
    by_cases hnews : b.registry.last = state
    · rw [perform, publish_of_same hnews]
    · exact (posts_publish react hb.inline hnews).2.told listener
  | run id count => exact (tells_runFirst hd hb id count).told listener
  | register other _ | unregister other | shutDown _ | refuse _ _ => exact (List.append_nil _).symm

/-- What a deed tells a listener, and then what it leaves for it in the context to which it is bound, is
what waited for it there. -/
theorem telling_append_leaves (hbound : b.registry.context? listener = some context) (deed : Deed) :
    b.telling deed listener ++ statesFor listener (deed.leaves (fun id => (b.context id).tasks) context) =
      b.waiting listener context := by
  cases deed with
  | run id count =>
    rw [telling, Deed.leaves, hbound]
    by_cases hid : context = id
    · subst hid
      rw [if_pos rfl, if_pos rfl, ← statesFor_append, List.take_append_drop]
      rfl
    · rw [if_neg (by simpa using hid), if_neg hid, List.nil_append]
      rfl
  | register other _ | unregister other | publish _ | shutDown _ | refuse _ _ => rfl

/-- **Nothing is lost between the board and a listener.** Every deed adds its news to what the listener was
told, and then waits for it in the context to which it is bound, if the context takes it. -/
theorem told_waiting_perform (hd : Detached react) (hb : b.IsDeferring)
    (hbound : b.registry.context? listener = some context) (deed : Deed) :
    (b.perform react deed).told listener ++ (b.perform react deed).waiting listener context =
      b.told listener ++ b.waiting listener context ++
        if (b.context context).Takes then deed.news b.registry.last else [] := by
  rw [told_perform hd hb, waiting, tasks_perform hd hb, statesFor_append, statesFor_posted hb,
    ← telling_append_leaves hbound deed]
  simp only [hbound, and_true, List.append_assoc]

/-- Running the context of a listener tells it what waits for it there. -/
theorem told_run_of_bound (hd : Detached react) (hb : b.IsDeferring)
    (hbound : b.registry.context? listener = some context) :
    (b.run react context).1.told listener = b.told listener ++ b.waiting listener context := by
  have htold := told_perform hd hb (.run context (b.context context).tasks.length) listener
  rw [telling, if_pos hbound, List.take_length] at htold
  rw [run_eq_runFirst]
  exact htold

/-! ### Before a listener is registered -/

/-- Nothing is for a listener anywhere: it is not bound, was told nothing, and nothing waits for it. -/
structure IsUnknown (b : Board ω) (listener : String) : Prop where
  /-- It is not bound. -/
  unbound : b.registry.context? listener = none
  /-- It was told nothing. -/
  told : b.told listener = []
  /-- Nothing waits for it. -/
  waiting : ∀ id, b.waiting listener id = []

theorem isUnknown_perform (hd : Detached react) (hb : b.IsDeferring) (h : b.IsUnknown listener)
    {deed : Deed} (hdeed : ¬ deed.Registers listener) : (b.perform react deed).IsUnknown listener := by
  constructor
  case unbound =>
    rw [context?_perform hd hb, h.unbound]
    exact Deed.binds_none hdeed
  case told => rw [told_perform hd hb, h.told, telling_of_unbound h.unbound, List.append_nil]
  case waiting =>
    intro id
    rw [waiting, tasks_perform hd hb, statesFor_append, statesFor_posted hb, h.unbound]
    have hleft := Deed.statesFor_leaves (fun id => (b.context id).tasks) (h.waiting id) deed
    simpa using hleft

theorem isUnknown_enact (hd : Detached react) (hb : b.IsDeferring) (h : b.IsUnknown listener)
    {deeds : List Deed} (hdeeds : ∀ deed ∈ deeds, ¬ deed.Registers listener) :
    (b.enact react deeds).IsUnknown listener := by
  induction deeds generalizing b with
  | nil => exact h
  | cons deed deeds ih =>
    obtain ⟨hdeed, hrest⟩ := List.forall_mem_cons.mp hdeeds
    exact ih (isDeferring_perform hd hb deed) (isUnknown_perform hd hb h hdeed) hrest

/-- On a board with idle contexts and no listeners, nothing is for anybody. -/
theorem isUnknown_ofOwner {contexts : List (ContextId × Context)} (owner : ω)
    (hidle : ∀ entry ∈ contexts, entry.2.kind ≠ .inline ∧ entry.2.tasks = []) (listener : String) :
    (ofOwner contexts owner).IsUnknown listener := by
  refine ⟨rfl, rfl, fun id => ?_⟩
  rw [waiting, (context_ofOwner owner hidle id).2, statesFor_nil]

/-! ### While it stays -/

/-- A listener is bound to a context that takes what is posted to it, and has been told, or is still to be
told there, the states of a list. -/
structure IsSteady (b : Board ω) (listener : String) (context : ContextId)
    (states : List (Option Boundaries)) : Prop where
  /-- It is bound to the context. -/
  bound : b.registry.context? listener = some context
  /-- The context takes what is posted to it. -/
  takes : (b.context context).Takes
  /-- What it was told, and then what waits for it, is the list. -/
  states : b.told listener ++ b.waiting listener context = states

/-- **The step lemma.** A deed that spares the listener and its context adds its news. -/
theorem isSteady_perform (hd : Detached react) (hb : b.IsDeferring) {states : List (Option Boundaries)}
    (h : b.IsSteady listener context states) {deed : Deed} (hdeed : deed.Spares listener context) :
    (b.perform react deed).IsSteady listener context (states ++ deed.news b.registry.last) := by
  constructor
  case bound => rw [context?_perform hd hb, Deed.binds_of_spares hdeed, h.bound]
  case takes => exact (takes_perform hd hb hdeed).mpr h.takes
  case states => rw [told_waiting_perform hd hb h.bound, if_pos h.takes, h.states]

/-- **The run lemma.** -/
theorem isSteady_enact (hd : Detached react) (hb : b.IsDeferring) {states : List (Option Boundaries)}
    (h : b.IsSteady listener context states) {deeds : List Deed}
    (hdeeds : ∀ deed ∈ deeds, deed.Spares listener context) :
    (b.enact react deeds).IsSteady listener context (states ++ newsOf b.registry.last deeds) := by
  induction deeds generalizing b states with
  | nil => simpa [newsOf, enact] using h
  | cons deed deeds ih =>
    obtain ⟨hdeed, hrest⟩ := List.forall_mem_cons.mp hdeeds
    have hstep := isSteady_perform hd hb h hdeed
    rw [newsOf, ← List.append_assoc, ← last_perform hd hb]
    exact ih (isDeferring_perform hd hb deed) hstep hrest

/-- A listener that is registered with a context that takes what is posted to it has nothing to be told
yet. -/
theorem isSteady_register (h : b.IsUnknown listener) (htakes : (b.context context).Takes) :
    (b.register listener context).IsSteady listener context [] := by
  have hbound : (b.registry.register listener context).context? listener = some context := by
    rw [Registry.context?_register, if_pos rfl]
  have hstates : b.told listener ++ b.waiting listener context = [] := by
    rw [h.told, h.waiting, List.append_nil]
  exact ⟨hbound, htakes, hstates⟩

/-- Once its context was run, a listener was told what it was to be told. -/
theorem told_run (hd : Detached react) (hb : b.IsDeferring) {states : List (Option Boundaries)}
    (h : b.IsSteady listener context states) : (b.run react context).1.told listener = states :=
  (told_run_of_bound hd hb h.bound).trans h.states

/-- **A steady listener is told the news since it came**, each state once and in the order in which they
were published. Before it comes, anything may be done, but for registering it; after that, anything that
spares the listener and its context. Once the context was run, the listener was told what was published
since it came, without what was published already just before; and until then it was told the beginning
of that. -/
theorem told_of_steady (hd : Detached react) (listener : String) (context : ContextId)
    {contexts : List (ContextId × Context)} (owner : ω)
    (hidle : ∀ entry ∈ contexts, entry.2.kind ≠ .inline ∧ entry.2.tasks = [])
    {before after : List Deed} (hbefore : ∀ deed ∈ before, ¬ deed.Registers listener)
    (htakes : (((ofOwner contexts owner).enact react before).context context).Takes)
    (hafter : ∀ deed ∈ after, deed.Spares listener context) :
    let registered := ((ofOwner contexts owner).enact react before).register listener context
    let last := registered.enact react after
    let news := newsOf (before.foldl Deed.latest none) after
    (last.run react context).1.told listener = news ∧ last.told listener <+: news := by
  intro registered last news
  have hempty := isDeferring_ofOwner owner hidle
  have hunknown := isUnknown_ofOwner owner hidle listener
  have hcome := isDeferring_enact hd hempty before
  have hregistered : registered.IsDeferring := isDeferring_perform hd hcome (.register listener context)
  have hlast : registered.registry.last = before.foldl Deed.latest none := last_enact hd hempty before
  have hsteady := isSteady_enact hd hregistered
    (isSteady_register (isUnknown_enact hd hempty hunknown hbefore) htakes) hafter
  rw [List.nil_append, hlast] at hsteady
  exact ⟨told_run hd (isDeferring_enact hd hregistered after) hsteady, _, hsteady.states⟩

/-! ### A lamp among moths -/

/-- A context that is run by hand, one that takes no tasks, and one that is closed later. -/
def lampContexts : List (ContextId × Context) :=
  [(.named "main", .ofKind .queue), (.named "gone", .ofKind .refusing), (.named "side", .ofKind .worker)]

/-- Every listener but the lamp fails. -/
def onlyLamp : Reaction Unit := fun b listener _ =>
  (b, if listener = "lamp" then none else some (.exploded listener))

theorem detached_onlyLamp : Detached onlyLamp := fun b _ _ => .refl b

theorem idle_lampContexts : ∀ entry ∈ lampContexts, entry.2.kind ≠ .inline ∧ entry.2.tasks = [] := by decide

/-- Boundaries that begin at a count of milliseconds. -/
def dayAfter (millis : Int) : Boundaries :=
  ⟨millis, millis + 1, millis + 2, millis + 3, by omega⟩

/-- What happens before the lamp comes: moths come, and the first day is published. -/
def beforeLamp : List Deed :=
  [.register "moth" (.named "main"), .register "fly" (.named "gone"), .register "bat" (.named "side"),
    .publish (some (dayAfter 0))]

/-- What happens then: a moth is bound anew, another one is removed, a context is closed. -/
def afterLamp : List Deed :=
  [.publish (some (dayAfter 0)), .publish (some (dayAfter 1)), .run (.named "main") 1,
    .register "moth" (.named "side"), .unregister "fly", .publish none, .shutDown (.named "side"),
    .publish none, .run (.named "main") 3, .publish (some (dayAfter 1))]

/-- The lamp is told what changed after it came. -/
theorem told_lamp :
    let registered := ((ofOwner lampContexts ()).enact onlyLamp beforeLamp).register "lamp" (.named "main")
    ((registered.enact onlyLamp afterLamp).run onlyLamp (.named "main")).1.told "lamp" =
      [some (dayAfter 1), none, some (dayAfter 1)] := by
  have hbefore : ∀ deed ∈ beforeLamp, ¬ deed.Registers "lamp" := by decide
  have hafter : ∀ deed ∈ afterLamp, deed.Spares "lamp" (.named "main") := by decide
  obtain ⟨htold, -⟩ := told_of_steady detached_onlyLamp "lamp" (.named "main") () idle_lampContexts hbefore
    (by decide) hafter
  exact htold.trans (by decide +kernel)

end Board

end Daylight
