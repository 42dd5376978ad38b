import Daylight.Proofs.Deliveries
import Mathlib.Data.List.Perm.Subperm

/-!
# What a removed listener may still be told

A listener is removed while tasks for it wait in contexts. The tasks stay where they are, and whether
they are told it is decided when they are run, by the context to which the listener is bound then. So
removing a listener cuts it off from what was published before only as long as it does not come back to a
context in which something of that is left; when it does, it is told what is left there.

What was published before the removal and what was published since can be told apart by the place of a
task: a context hands out its tasks from the front and gets new ones at the end. So the tasks of a
context are what is left of those that waited at the removal (`Deed.leaves`), and behind them those that
came since.

## What is proved

* `left_enact`: what is left of earlier tasks is in front of a context, whatever is done.
* `isCutOff_perform`: the step lemma. A deed that does not bring a listener back to what is left for it
  tells the listener only what was posted for it since.
* `isCutOff_enact`: the run lemma.
* `told_of_removed`: what a listener is told after it was removed, when it finds nothing left where it
  comes back, and when it finds something.
* `hears_from_before`: so it is not true that a listener is never told what was published before it was
  removed.
-/

namespace Daylight

/-! ### What is left -/

namespace Deed

/-- Whether a deed registers a listener only where nothing is left for it. -/
def FindsNothing (listener : String) (left : ContextId → List Delivery) : Deed → Prop
  | .register other id => other = listener → statesFor listener (left id) = []
  | .unregister _ | .publish _ | .run _ _ | .shutDown _ | .refuse _ _ => True

instance (listener : String) (left : ContextId → List Delivery) :
    (deed : Deed) → Decidable (deed.FindsNothing listener left)
  | .register other id => inferInstanceAs (Decidable (other = listener → statesFor listener (left id) = []))
  | .unregister _ | .publish _ | .run _ _ | .shutDown _ | .refuse _ _ => inferInstanceAs (Decidable True)

variable {listener : String} {left : ContextId → List Delivery}

/-- What a deed leaves of tasks is what it leaves of the first ones, and some of the others. -/
theorem leaves_append (deed : Deed) (tasks : ContextId → List Delivery) {id : ContextId}
    {later : List Delivery} (h : tasks id = left id ++ later) :
    ∃ rest, deed.leaves tasks id = deed.leaves left id ++ rest ∧ rest.Sublist later := by
  cases deed with
  | run ran count =>
    rw [leaves, leaves]
    split
    · rename_i hid
      subst hid
      rw [h, List.drop_append]
      exact ⟨_, rfl, List.drop_sublist _ later⟩
    · exact ⟨later, h, List.Sublist.refl later⟩
  | register _ _ | unregister _ | publish _ | shutDown _ | refuse _ _ =>
    exact ⟨later, h, List.Sublist.refl later⟩

/-- A listener that is bound only where nothing is left for it stays so, unless the deed brings it back to
what is left. -/
theorem FindsNothing.of_binds {deed : Deed} (hdeed : deed.FindsNothing listener left)
    {bound : Option ContextId} (h : ∀ id, bound = some id → statesFor listener (left id) = [])
    (id : ContextId) (hid : deed.binds listener bound = some id) :
    statesFor listener (deed.leaves left id) = [] := by
  apply statesFor_leaves
  cases deed with
  | register other came =>
    rw [binds] at hid
    split at hid
    · rename_i hsame
      rw [← Option.some.inj hid]
      exact hdeed hsame.symm
    · exact h id hid
  | unregister other =>
    rw [binds] at hid
    split at hid
    · cases hid
    · exact h id hid
  | publish _ | run _ _ | shutDown _ | refuse _ _ => exact h id hid

end Deed

/-- Whether deeds register a listener only where nothing is left for it of the tasks that waited in the
contexts before them. -/
def ComesAnew (listener : String) : (ContextId → List Delivery) → List Deed → Prop
  | _, [] => True
  | left, deed :: deeds => deed.FindsNothing listener left ∧ ComesAnew listener (deed.leaves left) deeds

instance decidableComesAnew (listener : String) :
    (left : ContextId → List Delivery) → (deeds : List Deed) → Decidable (ComesAnew listener left deeds)
  | _, [] => inferInstanceAs (Decidable True)
  | left, deed :: deeds =>
    have := decidableComesAnew listener (deed.leaves left) deeds
    inferInstanceAs (Decidable (deed.FindsNothing listener left ∧ _))

/-! ### States by context -/

/-- The states that have to do with a context. -/
def statesIn (id : ContextId) (states : List (ContextId × Option Boundaries)) : List (Option Boundaries) :=
  (states.filter (·.1 = id)).map (·.2)

@[simp] theorem statesIn_append (id : ContextId) (states more : List (ContextId × Option Boundaries)) :
    statesIn id (states ++ more) = statesIn id states ++ statesIn id more := by
  rw [statesIn, List.filter_append, List.map_append]
  rfl

/-- States with the context to which a listener is bound; with none, there are no states. -/
def withContext (bound : Option ContextId) (states : List (Option Boundaries)) :
    List (ContextId × Option Boundaries) :=
  bound.elim [] fun id => states.map fun state => (id, state)

theorem statesIn_withContext (id : ContextId) (bound : Option ContextId) (states : List (Option Boundaries)) :
    statesIn id (withContext bound states) = if bound = some id then states else [] := by
  cases bound with
  | none => rfl
  | some context =>
    by_cases hid : context = id <;> simp [statesIn, withContext, List.filter_map, Function.comp_def, hid]

theorem count_statesIn (id : ContextId) (state : Option Boundaries)
    (states : List (ContextId × Option Boundaries)) :
    (statesIn id states).count state = states.count (id, state) := by
  induction states with
  | nil => rfl
  | cons entry states ih =>
    obtain ⟨context, other⟩ := entry
    rw [← List.singleton_append, statesIn_append, List.count_append, List.count_append, ih]
    congr 1
    by_cases hid : context = id <;> simp [statesIn, List.count_singleton, hid]

/-- States of which no context has more than among others are among these. -/
theorem subperm_of_statesIn {states more : List (ContextId × Option Boundaries)}
    (h : ∀ id, (statesIn id states).Sublist (statesIn id more)) :
    (states.map (·.2)).Subperm (more.map (·.2)) := by
  have hcount : states.Subperm more := by
    rw [List.subperm_ext_iff]
    rintro ⟨id, state⟩ -
    rw [← count_statesIn, ← count_statesIn]
    exact (h id).count_le state
  obtain ⟨these, hperm, hsub⟩ := hcount
  exact ⟨these.map (·.2), hperm.map (·.2), hsub.map (·.2)⟩

namespace Board

variable {ω : Type} {react : Reaction ω} {b : Board ω} {listener : String}
  {left : ContextId → List Delivery}

/-- **What is left of earlier tasks is in front**, whatever is done. -/
theorem left_enact (hd : Detached react) (hb : b.IsDeferring)
    (h : ∀ id, left id <+: (b.context id).tasks) (deeds : List Deed) (id : ContextId) :
    deeds.foldl Deed.leaves left id <+: ((b.enact react deeds).context id).tasks := by
  induction deeds generalizing b left with
  | nil => exact h id
  | cons deed deeds ih =>
    apply ih (isDeferring_perform hd hb deed)
    intro other
    obtain ⟨later, hlater⟩ := h other
    obtain ⟨rest, hrest, -⟩ := deed.leaves_append (fun id => (b.context id).tasks) hlater.symm
    rw [tasks_perform hd hb, hrest, List.append_assoc]
    exact List.prefix_append _ _

/-! ### Cut off -/

/-- A listener has not been told anything of what is left of earlier tasks, and will not be told anything
of it where it is: beyond what it was told at first, it was told some states in contexts, and they, and
then what was posted for it later and still waits there, are among those that were sent to it there. -/
structure IsCutOff (b : Board ω) (listener : String) (left : ContextId → List Delivery)
    (first : List (Option Boundaries)) (since sent : List (ContextId × Option Boundaries)) : Prop where
  /-- Nothing is left for it where it is bound. -/
  unreached : ∀ id, b.registry.context? listener = some id → statesFor listener (left id) = []
  /-- What it was told. -/
  told : b.told listener = first ++ since.map (·.2)
  /-- What waits, and what it was told of what it was sent. -/
  tasks : ∀ id, ∃ later, (b.context id).tasks = left id ++ later ∧
    (statesIn id since ++ statesFor listener later).Sublist (statesIn id sent)

/-- A listener that was removed is cut off. -/
theorem isCutOff_unregister (b : Board ω) (listener : String) :
    (b.unregister listener).IsCutOff listener (fun id => (b.context id).tasks) (b.told listener) [] [] := by
  constructor
  case unreached =>
    intro id hid
    have hunbound : (b.registry.unregister listener).context? listener = none := by
      rw [Registry.context?_unregister, if_pos rfl]
    cases hunbound.symm.trans hid
  case told => exact (List.append_nil _).symm
  case tasks =>
    intro id
    exact ⟨[], (List.append_nil _).symm, List.Sublist.refl []⟩

/-- Where nothing is left for a listener, what a deed tells it and what it leaves of later tasks for it
is what the later tasks have for it. -/
theorem telling_append_rest {id : ContextId} (hbound : b.registry.context? listener = some id)
    (hnone : statesFor listener (left id) = []) {later rest : List Delivery}
    (htasks : (b.context id).tasks = left id ++ later) {deed : Deed}
    (hrest : deed.leaves (fun id => (b.context id).tasks) id = deed.leaves left id ++ rest) :
    b.telling deed listener ++ statesFor listener rest = statesFor listener later := by
  have hwaiting := telling_append_leaves hbound deed
  rwa [hrest, statesFor_append, Deed.statesFor_leaves left hnone deed, List.nil_append, waiting, htasks,
    statesFor_append, hnone, List.nil_append] at hwaiting

/-- **The step lemma.** A deed that does not bring a listener back to what is left for it leaves it cut
off; what the listener is sent by the deed is news. -/
theorem isCutOff_perform (hd : Detached react) (hb : b.IsDeferring) {first : List (Option Boundaries)}
    {since sent : List (ContextId × Option Boundaries)}
    (h : b.IsCutOff listener left first since sent) {deed : Deed} (hdeed : deed.FindsNothing listener left) :
    (b.perform react deed).IsCutOff listener (deed.leaves left) first
      (since ++ withContext (b.registry.context? listener) (b.telling deed listener))
      (sent ++ withContext (b.registry.context? listener) (deed.news b.registry.last)) := by
  constructor
  case unreached =>
    intro id hid
    rw [context?_perform hd hb] at hid
    exact hdeed.of_binds h.unreached id hid
  case told =>
    rw [told_perform hd hb, h.told, List.map_append, List.append_assoc]
    cases hbound : b.registry.context? listener with
    | none => rw [telling_of_unbound hbound]; rfl
    | some context => simp [withContext, Function.comp_def]
  case tasks =>
    intro id
    obtain ⟨later, htasks, hsent⟩ := h.tasks id
    obtain ⟨rest, hrest, hsub⟩ := deed.leaves_append (fun id => (b.context id).tasks) htasks
    refine ⟨rest ++ b.posted deed id, ?_, ?_⟩
    · rw [tasks_perform hd hb, hrest, List.append_assoc]
    · rw [statesIn_append, statesIn_append, statesIn_withContext, statesIn_withContext, statesFor_append,
        statesFor_posted hb]
      by_cases hbound : b.registry.context? listener = some id
      · -- of what waited there, only what came later is for the listener
        have hlater := telling_append_rest hbound (h.unreached id hbound) htasks hrest
        rw [if_pos hbound, if_pos hbound, List.append_assoc, ← List.append_assoc (b.telling deed listener),
          hlater, ← List.append_assoc]
        apply hsent.append
        split
        · exact List.Sublist.refl _
        · exact List.nil_sublist _
      · -- where it is not bound, tasks for it can only be dropped
        rw [if_neg hbound, if_neg hbound, if_neg fun he => hbound he.2]
        simp only [List.append_nil]
        have hdropped : (statesFor listener rest).Sublist (statesFor listener later) :=
          (hsub.filter _).map _
        exact ((List.Sublist.refl _).append hdropped).trans hsent

/-- **The run lemma.** -/
theorem isCutOff_enact (hd : Detached react) (hb : b.IsDeferring) {first : List (Option Boundaries)}
    {since sent : List (ContextId × Option Boundaries)} (h : b.IsCutOff listener left first since sent)
    {deeds : List Deed} (hdeeds : ComesAnew listener left deeds) :
    ∃ more posted, (b.enact react deeds).IsCutOff listener (deeds.foldl Deed.leaves left) first
      (since ++ more) (sent ++ posted) ∧ (posted.map (·.2)).Sublist (newsOf b.registry.last deeds) := by
  induction deeds generalizing b left since sent with
  | nil => exact ⟨[], [], by simpa [enact] using h, List.Sublist.refl []⟩
  | cons deed deeds ih =>
    obtain ⟨hdeed, hrest⟩ := hdeeds
    obtain ⟨more, posted, hcut, hnews⟩ :=
      ih (isDeferring_perform hd hb deed) (isCutOff_perform hd hb h hdeed) hrest
    rw [List.append_assoc, List.append_assoc] at hcut
    refine ⟨_, _, hcut, ?_⟩
    rw [List.map_append, newsOf, ← last_perform hd hb]
    apply List.Sublist.append _ hnews
    cases b.registry.context? listener with
    | none => exact List.nil_sublist _
    | some context => simp [withContext, Function.comp_def]

/-- What a listener that is cut off was told is among what it was sent. -/
theorem IsCutOff.subperm {first : List (Option Boundaries)}
    {since sent : List (ContextId × Option Boundaries)} (h : b.IsCutOff listener left first since sent) :
    (since.map (·.2)).Subperm (sent.map (·.2)) := by
  apply subperm_of_statesIn
  intro id
  obtain ⟨later, -, hsent⟩ := h.tasks id
  exact (List.sublist_append_left _ _).trans hsent

/-! ### Brought back -/

/-- When a context is run, a listener that is bound to it is told what is left for it there, before anything
else. -/
theorem told_left_of_run (hd : Detached react) (hb : b.IsDeferring) {id : ContextId}
    (hbound : b.registry.context? listener = some id) (hleft : left id <+: (b.context id).tasks) :
    b.told listener ++ statesFor listener (left id) <+: (b.run react id).1.told listener := by
  obtain ⟨later, hlater⟩ := hleft
  have htold := told_perform hd hb (.run id (b.context id).tasks.length) listener
  have hstates : statesFor listener (b.context id).tasks =
      statesFor listener (left id) ++ statesFor listener later := by
    rw [← hlater, statesFor_append]
  rw [telling, if_pos hbound, List.take_length, hstates, ← List.append_assoc] at htold
  rw [run_eq_runFirst]
  exact ⟨_, htold.symm⟩

/-- **What a removed listener may still be told.** A listener is removed from a board on which anything
may have been done, and then anything may be done.

If the listener is registered again only with contexts in which nothing is left for it of what waited at
its removal, then all it is told since is news since: it is told nothing that was published before, and
nothing twice. But once it is registered with a context in which something is left, and the context is
run, it is told all of that, before anything else. -/
theorem told_of_removed (hd : Detached react) (listener : String) {contexts : List (ContextId × Context)}
    (owner : ω) (hidle : ∀ entry ∈ contexts, entry.2.kind ≠ .inline ∧ entry.2.tasks = [])
    (before : List Deed) :
    let b := (ofOwner contexts owner).enact react before
    let left := fun id => (b.context id).tasks
    (∀ deeds, ComesAnew listener left deeds → ∃ since : List (Option Boundaries),
      ((b.unregister listener).enact react deeds).told listener = b.told listener ++ since ∧
        since.Subperm (newsOf b.registry.last deeds)) ∧
    ∀ deeds id,
      let again := ((b.unregister listener).enact react deeds).register listener id
      again.told listener ++ statesFor listener (deeds.foldl Deed.leaves left id) <+:
        (again.run react id).1.told listener := by
  intro b left
  have hb : b.IsDeferring := isDeferring_enact hd (isDeferring_ofOwner owner hidle) before
  have hremoved : (b.unregister listener).IsDeferring := isDeferring_perform hd hb (.unregister listener)
  constructor
  · intro deeds hdeeds
    obtain ⟨since, sent, hcut, hnews⟩ :=
      isCutOff_enact hd hremoved (isCutOff_unregister b listener) hdeeds
    exact ⟨since.map (·.2), hcut.told, hcut.subperm.trans hnews.subperm⟩
  · intro deeds id again
    have hagain : again.IsDeferring :=
      isDeferring_perform hd (isDeferring_enact hd hremoved deeds) (.register listener id)
    have hbound : again.registry.context? listener = some id :=
      (Registry.context?_register _ listener id listener).trans (if_pos rfl)
    apply told_left_of_run hd hagain hbound
    exact left_enact hd hremoved (fun _ => List.prefix_rfl) deeds id

/-! ### A lamp that comes back -/

/-- A lamp comes, and a day is published. -/
def lampComes : List Deed := [.register "lamp" (.named "main"), .publish (some (dayAfter 0))]

/-- Where the lamp comes back elsewhere, it is told what changed since; where it comes back to its
context, it is told what was published before it was removed. -/
theorem told_lamp_again :
    let b := (ofOwner lampContexts ()).enact onlyLamp lampComes
    let elsewhere := [.register "lamp" (.named "side"), .publish (some (dayAfter 1)), .run (.named "main") 1,
      .register "lamp" (.named "main"), .publish none, .run (.named "main") 1]
    (∃ since : List (Option Boundaries),
      ((b.unregister "lamp").enact onlyLamp elsewhere).told "lamp" = b.told "lamp" ++ since ∧
        since.Subperm [some (dayAfter 1), none]) ∧
      let again := (b.unregister "lamp").register "lamp" (.named "main")
      [some (dayAfter 0)] <+: (again.run onlyLamp (.named "main")).1.told "lamp" := by
  intro b elsewhere
  obtain ⟨hnew, hold⟩ := told_of_removed detached_onlyLamp "lamp" () idle_lampContexts lampComes
  constructor
  · apply hnew elsewhere
    decide +kernel
  · exact hold [] (.named "main")

/-- So it is not true that a listener is never told what was published before it was removed. -/
theorem hears_from_before : ¬ ∀ before deeds : List Deed,
    let b := (ofOwner lampContexts ()).enact onlyLamp before
    ∃ since, ((b.unregister "lamp").enact onlyLamp deeds).told "lamp" = b.told "lamp" ++ since ∧
      ∀ state ∈ since, state ∈ newsOf b.registry.last deeds := by
  intro h
  obtain ⟨since, htold, hnews⟩ := h lampComes [.register "lamp" (.named "main"), .run (.named "main") 1]
  have hsince : since = [some (dayAfter 0)] := htold.symm.trans (by decide +kernel)
  have hmem := hnews (some (dayAfter 0)) (by rw [hsince]; exact List.mem_singleton_self _)
  cases hmem

end Board

end Daylight
