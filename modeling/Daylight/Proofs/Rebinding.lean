import Daylight.Proofs.Deliveries

/-!
# A listener that is moved

A listener that is bound already may be registered again, with another context. What is published then
goes to the new context. What waits for the listener in the old one is not told any more: a task tells
its listener only where the listener is bound. So to move a listener drops what still waits for it, and
if nothing is published afterwards, the listener never learns what was published last.

Apart from that a listener that is moved is kept in step, as long as it is never moved to a context in
which something still waits for it: it is told states in the order in which they were published, each at
most once, and what was published since it last lost something, it is told completely.

The proofs follow what the listener was told and what waits for it where it is bound, as one list
(`FollowedBy`). A deed adds its news to the list; a move cuts off what waits.

## What is proved

* `getLast?_newsOf`: the last of the news is what was published last.
* `followedBy_perform`: the step lemma.
* `followedBy_enact`, `followedBy_of_gentle`: the run lemmas, for all moves and for those that drop
  nothing.
* `told_of_moved`: what a listener is told that is moved.
* `falls_behind`: a listener that is moved may end with something else than what was published last.
-/

namespace Daylight

/-- If there are any news, the last of them is what was published last. -/
theorem getLast?_newsOf (last : Option Boundaries) (deeds : List Deed) :
    (last :: newsOf last deeds).getLast? = some (deeds.foldl Deed.latest last) := by
  induction deeds generalizing last with
  | nil => rfl
  | cons deed deeds ih =>
    rw [newsOf, List.foldl_cons]
    cases deed with
    | publish state =>
      by_cases hnews : last = state
      · subst hnews
        rw [Deed.news, if_pos rfl]
        exact ih last
      · rw [Deed.news, if_neg hnews, List.singleton_append, List.getLast?_cons_cons]
        exact ih state
    | register _ _ | unregister _ | run _ _ | shutDown _ | refuse _ _ => exact ih last

theorem getLast?_append_newsOf (kept : List (Option Boundaries)) {last : Option Boundaries}
    {deeds : List Deed} (h : newsOf last deeds ≠ []) :
    (kept ++ newsOf last deeds).getLast? = some (deeds.foldl Deed.latest last) := by
  rw [List.getLast?_append_of_ne_nil _ h, ← getLast?_newsOf]
  exact (List.getLast?_cons_of_ne_nil h).symm

namespace Board

variable {ω : Type} {react : Reaction ω} {b : Board ω} {listener : String} {context : ContextId}

/-! ### Properties of deeds where they are done -/

/-- Whether a property, which may look at the board, holds of every deed when it is done. -/
def Throughout (react : Reaction ω) (p : Board ω → Deed → Prop) : Board ω → List Deed → Prop
  | _, [] => True
  | b, deed :: deeds => p b deed ∧ Throughout react p (b.perform react deed) deeds

instance decidableThroughout (react : Reaction ω) (p : Board ω → Deed → Prop)
    [∀ b deed, Decidable (p b deed)] :
    (b : Board ω) → (deeds : List Deed) → Decidable (Throughout react p b deeds)
  | _, [] => inferInstanceAs (Decidable True)
  | b, deed :: deeds =>
    have := decidableThroughout react p (b.perform react deed) deeds
    inferInstanceAs (Decidable (p b deed ∧ _))

theorem throughout_append {p : Board ω → Deed → Prop} {first rest : List Deed} :
    Throughout react p b (first ++ rest) ↔
      Throughout react p b first ∧ Throughout react p (b.enact react first) rest := by
  induction first generalizing b with
  | nil => exact ⟨fun h => ⟨trivial, h⟩, fun h => h.2⟩
  | cons deed first ih =>
    rw [List.cons_append, Throughout, Throughout, ih, and_assoc]
    rfl

/-- A listener is not removed, and moved only to a context in which nothing waits for it; and what is
published is taken by the context to which it is bound. -/
def KeepsOrder (listener : String) (b : Board ω) : Deed → Prop
  | .register other id =>
    other = listener → b.registry.context? listener = some id ∨ b.waiting listener id = []
  | .unregister other => other ≠ listener
  | .publish state =>
    b.registry.last = state ∨ ∀ id ∈ b.registry.context? listener, (b.context id).Takes
  | .run _ _ | .shutDown _ | .refuse _ _ => True

/-- A listener is moved only away from a context in which nothing waits for it. -/
def DropsNothing (listener : String) (b : Board ω) : Deed → Prop
  | .register other id => other = listener →
    ∀ old ∈ b.registry.context? listener, old = id ∨ b.waiting listener old = []
  | .unregister _ | .publish _ | .run _ _ | .shutDown _ | .refuse _ _ => True

instance (listener : String) (b : Board ω) : (deed : Deed) → Decidable (b.KeepsOrder listener deed)
  | .register other id => inferInstanceAs
    (Decidable (other = listener → b.registry.context? listener = some id ∨ b.waiting listener id = []))
  | .unregister other => inferInstanceAs (Decidable (other ≠ listener))
  | .publish state => inferInstanceAs
    (Decidable (b.registry.last = state ∨ ∀ id ∈ b.registry.context? listener, (b.context id).Takes))
  | .run _ _ | .shutDown _ | .refuse _ _ => inferInstanceAs (Decidable True)

instance (listener : String) (b : Board ω) : (deed : Deed) → Decidable (b.DropsNothing listener deed)
  | .register other id => inferInstanceAs (Decidable
    (other = listener → ∀ old ∈ b.registry.context? listener, old = id ∨ b.waiting listener old = []))
  | .unregister _ | .publish _ | .run _ _ | .shutDown _ | .refuse _ _ => inferInstanceAs (Decidable True)

/-- A deed that keeps the order leaves a listener bound where it is, and its news is taken; or it moves
the listener to another context, in which nothing waits for it. -/
theorem KeepsOrder.stays_or_moves {deed : Deed} (h : b.KeepsOrder listener deed)
    (hbound : b.registry.context? listener = some context) :
    (deed.binds listener (some context) = some context ∧
        ((b.context context).Takes ∨ deed.news b.registry.last = [])) ∨
      ∃ id, context ≠ id ∧ deed = .register listener id ∧ b.waiting listener id = [] := by
  cases deed with
  | register other id =>
    by_cases hother : other = listener
    · subst hother
      by_cases hid : context = id
      · left
        exact ⟨by rw [Deed.binds, if_pos rfl, hid], Or.inr rfl⟩
      · right
        refine ⟨id, hid, rfl, ?_⟩
        rcases h rfl with hsame | hnothing
        · exact absurd (Option.some.inj (hbound.symm.trans hsame)) hid
        · exact hnothing
    · left
      exact ⟨if_neg fun he => hother he.symm, Or.inr rfl⟩
  | unregister other =>
    left
    exact ⟨if_neg fun he => h he.symm, Or.inr rfl⟩
  | publish state =>
    left
    rcases h with hsame | htakes
    · exact ⟨rfl, Or.inr (if_pos hsame)⟩
    · exact ⟨rfl, Or.inl (htakes context hbound)⟩
  | run _ _ | shutDown _ | refuse _ _ =>
    left
    exact ⟨rfl, Or.inr rfl⟩

/-! ### What a listener was told and is still to be told -/

/-- A listener is bound, and what it was told, and then what waits for it where it is bound, is a list. -/
def FollowedBy (b : Board ω) (listener : String) (states : List (Option Boundaries)) : Prop :=
  ∃ id, b.registry.context? listener = some id ∧ b.told listener ++ b.waiting listener id = states

/-- A deed that leaves a listener bound where it is adds its news, if the context takes what is posted. -/
theorem followedBy_of_stays (hd : Detached react) (hb : b.IsDeferring)
    (hbound : b.registry.context? listener = some context) {deed : Deed}
    (hstays : deed.binds listener (some context) = some context)
    (htaken : (b.context context).Takes ∨ deed.news b.registry.last = []) :
    (b.perform react deed).FollowedBy listener
      (b.told listener ++ b.waiting listener context ++ deed.news b.registry.last) := by
  refine ⟨context, ?_, ?_⟩
  · rw [context?_perform hd hb, hbound, hstays]
  · rw [told_waiting_perform hd hb hbound]
    rcases htaken with htakes | hnone
    · rw [if_pos htakes]
    · rw [hnone, ite_self]

/-- A listener that is moved to a context in which nothing waits for it keeps what it was told. -/
theorem followedBy_of_moves (listener : String) (id : ContextId) (h : b.waiting listener id = []) :
    (b.register listener id).FollowedBy listener (b.told listener) := by
  refine ⟨id, ?_, ?_⟩
  · exact (Registry.context?_register b.registry listener id listener).trans (if_pos rfl)
  · show b.told listener ++ b.waiting listener id = b.told listener
    rw [h, List.append_nil]

/-- A listener that is registered for the first time has nothing to be told yet. -/
theorem IsUnknown.followedBy_register (h : b.IsUnknown listener) (context : ContextId) :
    (b.register listener context).FollowedBy listener [] := by
  have hmoved := followedBy_of_moves listener context (h.waiting context)
  rwa [h.told] at hmoved

/-- **The step lemma.** A deed that keeps the order adds its news to the list, or to a part of it; to all
of it if it drops nothing. -/
theorem followedBy_perform (hd : Detached react) (hb : b.IsDeferring) {states : List (Option Boundaries)}
    (h : b.FollowedBy listener states) {deed : Deed} (hdeed : b.KeepsOrder listener deed) :
    ∃ kept, kept.Sublist states ∧ (b.DropsNothing listener deed → kept = states) ∧
      (b.perform react deed).FollowedBy listener (kept ++ deed.news b.registry.last) := by
  obtain ⟨context, hbound, rfl⟩ := h
  rcases hdeed.stays_or_moves hbound with ⟨hstays, htaken⟩ | ⟨id, hid, rfl, hnothing⟩
  · exact ⟨_, List.Sublist.refl _, fun _ => rfl, followedBy_of_stays hd hb hbound hstays htaken⟩
  · -- what waits where the listener was is cut off
    refine ⟨b.told listener, List.sublist_append_left _ _, ?_, ?_⟩
    · intro hdrops
      rcases hdrops rfl context hbound with hsame | hnone
      · exact absurd hsame hid
      · rw [hnone, List.append_nil]
    · rw [Deed.news, List.append_nil]
      apply followedBy_of_moves
      exact hnothing

/-- **The run lemma.** While deeds keep the order, what a listener was told and is still to be told is
part of what was there and the news. -/
theorem followedBy_enact (hd : Detached react) (hb : b.IsDeferring) {states : List (Option Boundaries)}
    (h : b.FollowedBy listener states) {deeds : List Deed}
    (hdeeds : Throughout react (KeepsOrder listener) b deeds) :
    ∃ kept, kept.Sublist (states ++ newsOf b.registry.last deeds) ∧
      (b.enact react deeds).FollowedBy listener kept := by
  induction deeds generalizing b states with
  | nil => exact ⟨states, by rw [newsOf, List.append_nil], h⟩
  | cons deed deeds ih =>
    obtain ⟨hdeed, hrest⟩ := hdeeds
    obtain ⟨kept, hsub, -, hnext⟩ := followedBy_perform hd hb h hdeed
    obtain ⟨last, hlast, hend⟩ := ih (isDeferring_perform hd hb deed) hnext hrest
    refine ⟨last, hlast.trans ?_, hend⟩
    rw [newsOf, ← last_perform hd hb, List.append_assoc]
    exact hsub.append (List.Sublist.refl _)

/-- While deeds keep the order and drop nothing, it is all of that. -/
theorem followedBy_of_gentle (hd : Detached react) (hb : b.IsDeferring) {states : List (Option Boundaries)}
    (h : b.FollowedBy listener states) {deeds : List Deed}
    (hdeeds : Throughout react (KeepsOrder listener) b deeds)
    (hgentle : Throughout react (DropsNothing listener) b deeds) :
    (b.enact react deeds).FollowedBy listener (states ++ newsOf b.registry.last deeds) := by
  induction deeds generalizing b states with
  | nil => simpa [newsOf, enact] using h
  | cons deed deeds ih =>
    obtain ⟨hdeed, hrest⟩ := hdeeds
    obtain ⟨hdrops, hothers⟩ := hgentle
    obtain ⟨kept, -, hkept, hnext⟩ := followedBy_perform hd hb h hdeed
    rw [hkept hdrops] at hnext
    rw [newsOf, ← last_perform hd hb, ← List.append_assoc]
    exact ih (isDeferring_perform hd hb deed) hnext hrest hothers

/-! ### Drained contexts -/

/-- No context has anything to do. -/
def IsDrained (b : Board ω) : Prop := ∀ entry ∈ b.contexts, entry.2.tasks = []

instance (b : Board ω) : Decidable b.IsDrained := inferInstanceAs (Decidable (∀ entry ∈ b.contexts, _))

/-- Once the contexts are drained, a listener was told what it was to be told. -/
theorem FollowedBy.told_eq {states : List (Option Boundaries)} (h : b.FollowedBy listener states)
    (hdrained : b.IsDrained) : b.told listener = states := by
  obtain ⟨id, -, rfl⟩ := h
  have htasks : (b.context id).tasks = [] := context_of_forall (p := fun c => c.tasks = []) rfl hdrained id
  rw [waiting, htasks, statesFor_nil, List.append_nil]

/-- **What a listener is told that is moved.** Before it comes, anything may be done, but for registering
it. Then it is registered, and may be registered again with the same or another context, but not where
something waits for it; it is not removed, and what is published is taken by the context to which it is
bound then.

It is told some of the news since it came, in the order in which they were published, and each once.
Whenever the contexts are drained, it was told all of the news since it was last moved away from a
context in which something waited for it; and if there were any, what it was told last is what was
published last. -/
theorem told_of_moved (hd : Detached react) (listener : String) (context : ContextId)
    {contexts : List (ContextId × Context)} (owner : ω)
    (hidle : ∀ entry ∈ contexts, entry.2.kind ≠ .inline ∧ entry.2.tasks = [])
    {before deeds : List Deed} (hbefore : ∀ deed ∈ before, ¬ deed.Registers listener)
    (hdeeds : Throughout react (KeepsOrder listener)
      (((ofOwner contexts owner).enact react before).register listener context) deeds) :
    let registered := ((ofOwner contexts owner).enact react before).register listener context
    let final := registered.enact react deeds
    (final.told listener).Sublist (newsOf registered.registry.last deeds) ∧
    ∀ first rest, deeds = first ++ rest →
      let moved := registered.enact react first
      Throughout react (DropsNothing listener) moved rest → final.IsDrained →
        let news := newsOf moved.registry.last rest
        (∃ kept, kept.Sublist (newsOf registered.registry.last first) ∧
          final.told listener = kept ++ news) ∧
        (news ≠ [] → (final.told listener).getLast? = some final.registry.last) := by
  intro registered final
  have hempty := isDeferring_ofOwner owner hidle
  have hunknown := isUnknown_ofOwner owner hidle listener
  have hcome := isDeferring_enact hd hempty before
  have hregistered : registered.IsDeferring := isDeferring_perform hd hcome (.register listener context)
  have hfollows : registered.FollowedBy listener [] :=
    (isUnknown_enact hd hempty hunknown hbefore).followedBy_register context
  constructor
  · obtain ⟨kept, hkept, id, -, hstates⟩ := followedBy_enact hd hregistered hfollows hdeeds
    rw [List.nil_append, ← hstates] at hkept
    exact (List.sublist_append_left _ _).trans hkept
  · rintro first rest rfl moved hgentle hdrained news
    obtain ⟨hbegin, hend⟩ := throughout_append.mp hdeeds
    obtain ⟨kept, hkept, hmoved⟩ := followedBy_enact hd hregistered hfollows hbegin
    have hmovedDeferring := isDeferring_enact hd hregistered first
    have hfinal : final = moved.enact react rest := List.foldl_append
    have htold : final.told listener = kept ++ news := by
      have hall := followedBy_of_gentle hd hmovedDeferring hmoved hend hgentle
      rw [← hfinal] at hall
      exact hall.told_eq hdrained
    rw [List.nil_append] at hkept
    refine ⟨⟨kept, hkept, htold⟩, ?_⟩
    intro hnews
    rw [htold, hfinal, last_enact hd hmovedDeferring]
    exact getLast?_append_newsOf kept hnews

/-! ### A lamp that is moved -/

/-- A day waits for the lamp when it is moved. -/
def lampMoved : List Deed := [.publish (some (dayAfter 1)), .register "lamp" (.named "side")]

/-- Then the lamp is moved back, with nothing waiting. -/
def lampReturns : List Deed :=
  [.publish none, .run (.named "side") 9, .run (.named "main") 9, .register "lamp" (.named "main"),
    .publish (some (dayAfter 2)), .run (.named "main") 9, .run (.named "side") 9]

/-- It ends with the day that was published last. -/
theorem told_moving_lamp :
    let registered := ((ofOwner lampContexts ()).enact onlyLamp beforeLamp).register "lamp" (.named "main")
    let final := registered.enact onlyLamp (lampMoved ++ lampReturns)
    (final.told "lamp").getLast? = some final.registry.last := by
  intro registered final
  have hbefore : ∀ deed ∈ beforeLamp, ¬ deed.Registers "lamp" := by decide
  have hdeeds : Throughout onlyLamp (KeepsOrder "lamp") registered (lampMoved ++ lampReturns) := by
    decide +kernel
  have hgentle : Throughout onlyLamp (DropsNothing "lamp") (registered.enact onlyLamp lampMoved)
      lampReturns := by
    decide +kernel
  have hdrained : final.IsDrained := by decide +kernel
  obtain ⟨-, hmoved⟩ := told_of_moved detached_onlyLamp "lamp" (.named "main") () idle_lampContexts hbefore
    hdeeds
  have hnews : newsOf (registered.enact onlyLamp lampMoved).registry.last lampReturns ≠ [] := by
    decide +kernel
  obtain ⟨-, hlast⟩ := hmoved lampMoved lampReturns rfl hgentle hdrained
  simpa only [final, registered] using hlast hnews

/-- Even where nothing waits for a listener in any context to which it is moved, it is not true that, once
the contexts are drained, it was last told what was published last. -/
theorem falls_behind : ¬ ∀ deeds : List Deed,
    let registered := (ofOwner lampContexts ()).register "lamp" (.named "main")
    let final := registered.enact onlyLamp deeds
    Throughout onlyLamp (KeepsOrder "lamp") registered deeds → final.IsDrained →
      newsOf registered.registry.last deeds ≠ [] →
        (final.told "lamp").getLast? = some final.registry.last := by
  intro h
  have hlast := h [.publish (some (dayAfter 0)), .register "lamp" (.named "side"), .run (.named "main") 1,
    .run (.named "side") 1] (by decide +kernel) (by decide +kernel) (by decide)
  exact absurd hlast (by decide +kernel)

end Board

end Daylight
