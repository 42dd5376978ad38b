import Daylight.Scenario.Passing
import Mathlib.Data.List.DropRight

/-!
# Who gets which fix

A fix that is pushed is recorded, and it is settled who gets it; then the callbacks are called, one after the
other. Meanwhile a callback may do anything: ask for fixes, push one itself, or fail. `Deed` is one thing that
is done to a feed, by whomever it may be: the calls of different pushes may be mixed in any way, be it that
one push is made inside of another or next to it.

Who is to get a fix is settled by what was done before it is pushed (`due`): every subscription counts, and
then everybody else who asked for the next fix counts once. Nothing that is done later matters for that push.

## What is proved

* `recipients_eq`: the callbacks that get the next fix, with nobody asked twice.
* `tells_does`, `tells_after`: what every deed keeps, and so what holds after any deeds. Every push has called
  the first of those who were to get its fix, in their order, and has still to call the others.
* `openRequests_push`: the requests that are open at a push count for that push only.
* `retold_play`: what a relay does, with callbacks that act and fail inside of each other, are such deeds, and
  when an action succeeds nobody is left to be called.
* `told_by_pushes`: both together.
-/

namespace Daylight

namespace Feed

variable {κ : Type}

/-! ### What is done to a feed -/

/-- What is done to a feed. A push is known by its place among all pushes. -/
inductive Deed (κ : Type) where
  /-- Somebody asks for every fix. -/
  | requestUpdates (callback : κ)
  /-- Somebody asks for the next fix. -/
  | requestSingle (callback : κ)
  /-- A fix is pushed: it is recorded, and it is settled who gets it. -/
  | push (fix : Location)
  /-- The push in this place calls the next one of its callbacks. -/
  | call (place : Nat)

/-- A push with what has become of it. -/
structure Round (κ : Type) where
  /-- The fix. -/
  fix : Location
  /-- The callbacks that were called, in the order of the calls. -/
  called : List κ
  /-- The callbacks that are still to be called. -/
  waiting : List κ

/-- A feed with all pushes. -/
structure Affair (κ : Type) where
  /-- The feed. -/
  feed : Feed κ
  /-- The pushes, in the order in which their fixes were recorded. -/
  rounds : List (Round κ)
  /-- The calls of all pushes, in their order. -/
  delivered : List (κ × Location)

namespace Affair

variable [DecidableEq κ]

/-- Nothing was done yet. -/
def empty : Affair κ := ⟨.empty, [], []⟩

/-- One thing is done. A push that has nobody left to call calls nobody. -/
def does (x : Affair κ) : Deed κ → Affair κ
  | .requestUpdates callback => { x with feed := x.feed.requestUpdates callback }
  | .requestSingle callback => { x with feed := x.feed.requestSingle callback }
  | .push fix => ⟨(x.feed.push fix).1, x.rounds ++ [⟨fix, [], (x.feed.push fix).2⟩], x.delivered⟩
  | .call place =>
    match x.rounds[place]? with
    | some ⟨fix, called, callback :: waiting⟩ =>
      { x with
        rounds := x.rounds.set place ⟨fix, called ++ [callback], waiting⟩
        delivered := x.delivered ++ [(callback, fix)] }
    | _ => x

/-- One thing is done after the other. -/
def after (x : Affair κ) (deeds : List (Deed κ)) : Affair κ := deeds.foldl does x

theorem after_append (x : Affair κ) (deeds later : List (Deed κ)) :
    x.after (deeds ++ later) = (x.after deeds).after later := List.foldl_append

theorem after_concat (x : Affair κ) (deeds : List (Deed κ)) (deed : Deed κ) :
    x.after (deeds ++ [deed]) = (x.after deeds).does deed := after_append x deeds [deed]

end Affair

/-! ### Who is to get a fix -/

namespace Deed

/-- The callback for which every fix is asked for. -/
def subscriber? : Deed κ → Option κ
  | requestUpdates callback => some callback
  | _ => none

/-- The callback for which the next fix is asked for. -/
def oneShot? : Deed κ → Option κ
  | requestSingle callback => some callback
  | _ => none

/-- The fix that is pushed. -/
def pushed? : Deed κ → Option Location
  | push fix => some fix
  | _ => none

end Deed

/-- The subscriptions, in the order in which they were made. -/
def subscriptions (deeds : List (Deed κ)) : List κ := deeds.filterMap (·.subscriber?)

/-- The fixes that were pushed. -/
def pushes (deeds : List (Deed κ)) : List Location := deeds.filterMap (·.pushed?)

/-- The requests for the next fix that were made since the last push. -/
def openRequests (deeds : List (Deed κ)) : List κ :=
  (deeds.rtakeWhile (·.pushed?.isNone)).filterMap (·.oneShot?)

/-- Who is to get a fix that is pushed now: every subscription, and then everybody else with an open request,
once. -/
def due [DecidableEq κ] (deeds : List (Deed κ)) : List κ :=
  subscriptions deeds ++ ((openRequests deeds).filter (· ∉ subscriptions deeds)).eraseDups

/-! ### One deed more -/

section

variable (deeds : List (Deed κ)) (deed : Deed κ)

theorem subscriptions_concat :
    subscriptions (deeds ++ [deed]) = subscriptions deeds ++ deed.subscriber?.toList := by
  rw [subscriptions, subscriptions, List.filterMap_append]
  cases deed <;> rfl

theorem pushes_concat : pushes (deeds ++ [deed]) = pushes deeds ++ deed.pushed?.toList := by
  rw [pushes, pushes, List.filterMap_append]
  cases deed <;> rfl

/-- A push closes the open requests. -/
theorem openRequests_concat : openRequests (deeds ++ [deed]) =
    if deed.pushed?.isSome then [] else openRequests deeds ++ deed.oneShot?.toList := by
  rw [openRequests, List.rtakeWhile_concat, openRequests]
  cases deed with
  | push fix => rfl
  | requestUpdates | requestSingle | call =>
    show ((deeds.rtakeWhile _) ++ [_]).filterMap _ = _
    rw [List.filterMap_append]
    rfl

end

/-- The requests that are open when a fix is pushed are not open any more after it. -/
theorem openRequests_push (before behind : List (Deed κ)) (fix : Location) :
    openRequests (before ++ .push fix :: behind) = openRequests behind := by
  induction behind using List.reverseRecOn with
  | nil => rw [openRequests_concat]; rfl
  | append_singleton behind deed ih =>
    rw [← List.cons_append, ← List.append_assoc, openRequests_concat, openRequests_concat, ih]

/-- The callbacks that get the next fix. -/
theorem recipients_eq [DecidableEq κ] (f : Feed κ) :
    f.recipients = f.subscribers ++ (f.oneShots.filter (· ∉ f.subscribers)).eraseDups := by
  rw [recipients]
  induction f.oneShots using List.reverseRecOn with
  | nil => simp
  | append_singleton requests callback ih =>
    rw [List.foldl_append, ih, List.filter_append, List.eraseDups_append]
    show addNew _ callback = _
    by_cases hsubscribed : callback ∈ f.subscribers
    · simp [addNew, hsubscribed]
    · by_cases hasked : callback ∈ requests
      · simp [addNew, hsubscribed, hasked, List.mem_eraseDups, List.removeAll]
      · simp [addNew, hsubscribed, hasked, List.mem_eraseDups, List.removeAll, List.eraseDups_cons]

/-! ### What is known of the pushes -/

/-- The calls of a push. -/
def Round.calls (r : Round κ) : List (κ × Location) := r.called.map fun callback => (callback, r.fix)

/-- The calls are those of the pushes after one more call, too. -/
theorem calls_set {rounds : List (Round κ)} {place : Nat} {round : Round κ} {callback : κ} {waiting : List κ}
    (h : rounds[place]? = some round) :
    ((rounds.set place ⟨round.fix, round.called ++ [callback], waiting⟩).flatMap Round.calls).Perm
      (rounds.flatMap Round.calls ++ [(callback, round.fix)]) := by
  obtain ⟨hlt, hround⟩ := List.getElem?_eq_some_iff.mp h
  obtain ⟨before, behind, hrounds, -, hset⟩ :=
    @List.exists_of_set _ place ⟨round.fix, round.called ++ [callback], waiting⟩ rounds hlt
  have hcalls : (⟨round.fix, round.called ++ [callback], waiting⟩ : Round κ).calls =
      round.calls ++ [(callback, round.fix)] := by
    simp [Round.calls]
  rw [hround] at hrounds
  rw [hset, hrounds]
  simp only [List.flatMap_append, List.flatMap_cons, hcalls, List.append_assoc]
  apply List.Perm.append_left
  apply List.Perm.append_left
  exact List.perm_append_comm

variable [DecidableEq κ]

/-- A push is the same one at a later time: it has the same fix, and the same callbacks get it. -/
def Round.Continues (r r' : Round κ) : Prop :=
  r'.fix = r.fix ∧ r'.called ++ r'.waiting = r.called ++ r.waiting

/-- After these deeds the feed has what was asked for and is still due, and every push has its callbacks. -/
structure Affair.Tells (x : Affair κ) (deeds : List (Deed κ)) : Prop where
  /-- The feed has the subscriptions. -/
  subscribers : x.feed.subscribers = subscriptions deeds
  /-- The feed has the open requests. -/
  oneShots : x.feed.oneShots = openRequests deeds
  /-- The feed has the last fix. -/
  last : x.feed.last = (pushes deeds).getLast?
  /-- The pushes have their own fixes. -/
  fixes : x.rounds.map (·.fix) = pushes deeds
  /-- Every push has called, or has still to call, whoever was to get a fix when it began. -/
  rounds : ∀ before fix behind, deeds = before ++ .push fix :: behind →
    ∃ round, x.rounds[(pushes before).length]? = some round ∧ round.fix = fix ∧
      round.called ++ round.waiting = due before
  /-- Nobody is called but by a push. -/
  delivered : x.delivered.Perm (x.rounds.flatMap Round.calls)

/-- What a call does: nothing, or a push has one callback less to call. -/
theorem does_call (x : Affair κ) (place : Nat) : x.does (.call place) = x ∨
    ∃ round callback waiting, x.rounds[place]? = some round ∧ round.waiting = callback :: waiting ∧
      x.does (.call place) = { x with
        rounds := x.rounds.set place ⟨round.fix, round.called ++ [callback], waiting⟩
        delivered := x.delivered ++ [(callback, round.fix)] } := by
  rw [Affair.does]
  split
  case h_1 fix called callback waiting hround => exact .inr ⟨_, callback, waiting, hround, rfl, rfl⟩
  case h_2 => exact .inl rfl

/-- A deed leaves every push the same one. -/
theorem exists_continues {x : Affair κ} {place : Nat} {round : Round κ} (h : x.rounds[place]? = some round)
    (deed : Deed κ) : ∃ later, (x.does deed).rounds[place]? = some later ∧ round.Continues later := by
  cases deed with
  | requestUpdates callback => exact ⟨round, h, rfl, rfl⟩
  | requestSingle callback => exact ⟨round, h, rfl, rfl⟩
  | push fix =>
    obtain ⟨hlt, -⟩ := List.getElem?_eq_some_iff.mp h
    exact ⟨round, (List.getElem?_append_left hlt).trans h, rfl, rfl⟩
  | call target =>
    obtain hsame | ⟨called, callback, waiting, hcalled, hwaiting, hdoes⟩ := does_call x target
    · rw [hsame]
      exact ⟨round, h, rfl, rfl⟩
    · rw [hdoes]
      by_cases htarget : target = place
      · subst htarget
        obtain rfl : called = round := Option.some.inj (hcalled.symm.trans h)
        obtain ⟨hlt, -⟩ := List.getElem?_eq_some_iff.mp h
        refine ⟨_, List.getElem?_set_self hlt, rfl, ?_⟩
        show (called.called ++ [callback]) ++ waiting = _
        rw [hwaiting, List.append_assoc]
        rfl
      · exact ⟨round, (List.getElem?_set_ne htarget).trans h, rfl, rfl⟩

theorem feed_does_call (x : Affair κ) (place : Nat) : (x.does (.call place)).feed = x.feed := by
  obtain hsame | ⟨round, callback, waiting, -, -, hdoes⟩ := does_call x place
  · rw [hsame]
  · rw [hdoes]

theorem fixes_does (x : Affair κ) (deed : Deed κ) :
    (x.does deed).rounds.map (·.fix) = x.rounds.map (·.fix) ++ deed.pushed?.toList := by
  cases deed with
  | requestUpdates | requestSingle => exact (List.append_nil _).symm
  | push fix => exact List.map_append
  | call place =>
    show _ = _ ++ []
    rw [List.append_nil]
    obtain hsame | ⟨round, callback, waiting, hround, -, hdoes⟩ := does_call x place
    · rw [hsame]
    · obtain ⟨hlt, rfl⟩ := List.getElem?_eq_some_iff.mp hround
      have hlength : place < (x.rounds.map Round.fix).length := by rwa [List.length_map]
      rw [hdoes, List.map_set, ← List.getElem_map Round.fix (h := hlength)]
      exact List.set_getElem_self hlength

theorem delivered_does {x : Affair κ} (h : x.delivered.Perm (x.rounds.flatMap Round.calls)) (deed : Deed κ) :
    (x.does deed).delivered.Perm ((x.does deed).rounds.flatMap Round.calls) := by
  cases deed with
  | requestUpdates | requestSingle => exact h
  | push fix =>
    show x.delivered.Perm ((x.rounds ++ [_]).flatMap Round.calls)
    rw [List.flatMap_append]
    simpa [Round.calls] using h
  | call place =>
    obtain hsame | ⟨round, callback, waiting, hround, -, hdoes⟩ := does_call x place
    · rw [hsame]
      exact h
    · rw [hdoes]
      exact (h.append_right _).trans (calls_set hround).symm

/-- **The step lemma.** -/
theorem tells_does {x : Affair κ} {deeds : List (Deed κ)} (h : x.Tells deeds) (deed : Deed κ) :
    (x.does deed).Tells (deeds ++ [deed]) := by
  constructor
  case subscribers =>
    rw [subscriptions_concat, ← h.subscribers]
    cases deed with
    | requestUpdates callback => rfl
    | requestSingle | push => exact (List.append_nil _).symm
    | call place => rw [feed_does_call]; exact (List.append_nil _).symm
  case oneShots =>
    rw [openRequests_concat, ← h.oneShots]
    cases deed with
    | requestSingle | push => rfl
    | requestUpdates => exact (List.append_nil _).symm
    | call place => rw [feed_does_call]; exact (List.append_nil _).symm
  case last =>
    rw [pushes_concat]
    cases deed with
    | push fix => exact List.getLast?_concat.symm
    | requestUpdates | requestSingle => exact h.last.trans (congrArg _ (List.append_nil _).symm)
    | call place =>
      rw [feed_does_call]
      exact h.last.trans (congrArg _ (List.append_nil _).symm)
  case fixes => rw [fixes_does, pushes_concat, h.fixes]
  case rounds =>
    intro before fix behind hdeeds
    obtain rfl | ⟨middle, final, rfl⟩ := List.eq_nil_or_concat behind
    · -- The push has just begun: its callbacks are those of the feed as it was.
      obtain ⟨rfl, hdeed⟩ := List.append_inj' hdeeds rfl
      obtain rfl : deed = .push fix := (List.cons.inj hdeed).1
      refine ⟨⟨fix, [], x.feed.recipients⟩, ?_, rfl, ?_⟩
      · rw [← h.fixes, List.length_map]
        exact List.getElem?_concat_length
      · rw [List.nil_append, recipients_eq, h.subscribers, h.oneShots, due]
    · rw [List.concat_eq_append, ← List.cons_append, ← List.append_assoc] at hdeeds
      obtain ⟨hbefore, -⟩ := List.append_inj' hdeeds rfl
      obtain ⟨round, hround, hfix, hdue⟩ := h.rounds before fix middle hbefore
      obtain ⟨later, hlater, hsame, hcallbacks⟩ := exists_continues hround deed
      exact ⟨later, hlater, hsame.trans hfix, hcallbacks.trans hdue⟩
  case delivered => exact delivered_does h.delivered deed

/-- **The run lemma.** -/
theorem tells_after (deeds : List (Deed κ)) : (Affair.empty.after deeds).Tells deeds := by
  induction deeds using List.reverseRecOn with
  | nil =>
    constructor
    case subscribers | oneShots | last | fixes => rfl
    case rounds => exact fun before fix behind h => absurd h.symm (by simp)
    case delivered => exact List.Perm.refl _
  | append_singleton deeds deed ih =>
    rw [Affair.after_concat]
    exact tells_does ih deed

end Feed

namespace Scenario

open Feed (Affair Round)

/-! ### What a relay does to its feed -/

/-- What an action does to a feed, if it is one of its own. -/
def FixAction.deed? : FixAction → Option (Feed.Deed String)
  | requestUpdates callback => some (.requestUpdates callback)
  | requestSingle callback => some (.requestSingle callback)
  | push fix => some (.push fix)
  | fail _ => none

namespace Relay

theorem outlet_next (r : Relay) (callback : String) : (r.next callback).2.outlet = r.outlet := by
  rw [next]
  split <;> rfl

theorem delivered_next (r : Relay) (callback : String) : (r.next callback).2.delivered = r.delivered := by
  rw [next]
  split <;> rfl

/-- From one relay to another something happens to the feed: the same callbacks are called, and if all goes
well, all pushes that are begun are brought to their end. -/
structure Retells (r r' : Relay) (answer : Except Failure Unit) (x x' : Affair String) : Prop where
  /-- The feed is the same. -/
  outlet : r'.outlet = .feed x'.feed
  /-- The calls are the same. -/
  delivered : ∃ calls, r'.delivered = r.delivered ++ calls ∧ x'.delivered = x.delivered ++ calls
  /-- Nobody is left to be called by the pushes that are begun. -/
  rounds : ∃ begun, x'.rounds = x.rounds ++ begun ∧ (answer = .ok () → ∀ round ∈ begun, round.waiting = [])

theorem Retells.of_feed {r r' : Relay} {answer : Except Failure Unit} {x : Affair String} {f : Feed String}
    (houtlet : r'.outlet = .feed f) (hdelivered : r'.delivered = r.delivered) :
    r.Retells r' answer x { x with feed := f } :=
  ⟨houtlet, ⟨[], by rw [hdelivered, List.append_nil], (List.append_nil _).symm⟩,
    ⟨[], (List.append_nil _).symm, fun _ _ h => absurd h List.not_mem_nil⟩⟩

section

variable {r r' r'' : Relay} {answer answer' : Except Failure Unit} {x x' x'' : Affair String}

theorem Retells.trans (h : r.Retells r' (.ok ()) x x') (h' : r'.Retells r'' answer x' x'') :
    r.Retells r'' answer x x'' := by
  obtain ⟨calls, hr, hx⟩ := h.delivered
  obtain ⟨calls', hr', hx'⟩ := h'.delivered
  obtain ⟨begun, hbegun, hdone⟩ := h.rounds
  obtain ⟨begun', hbegun', hdone'⟩ := h'.rounds
  refine ⟨h'.outlet, ⟨calls ++ calls', ?_, ?_⟩, begun ++ begun', ?_, fun hok round hmem => ?_⟩
  · rw [hr', hr, List.append_assoc]
  · rw [hx', hx, List.append_assoc]
  · rw [hbegun', hbegun, List.append_assoc]
  · exact (List.mem_append.mp hmem).elim (hdone rfl round) (hdone' hok round)

/-- What becomes of a push that was under way is a matter of its own. -/
theorem Retells.set (h : r.Retells r' answer x x') {place : Nat} (hplace : place < x.rounds.length)
    (round : Round String) : r.Retells r' answer { x with rounds := x.rounds.set place round }
      { x' with rounds := x'.rounds.set place round } := by
  obtain ⟨begun, hbegun, hdone⟩ := h.rounds
  refine ⟨h.outlet, h.delivered, begun, ?_, hdone⟩
  show x'.rounds.set place round = x.rounds.set place round ++ begun
  rw [hbegun, List.set_append_left place round hplace]

/-- One call may be put in front. -/
theorem Retells.of_call {call : String × Location} {rounds : List (Round String)}
    (h : ({ r with delivered := r.delivered ++ [call] } : Relay).Retells r' answer
      { x with rounds := rounds, delivered := x.delivered ++ [call] } x') :
    r.Retells r' answer { x with rounds := rounds } x' := by
  obtain ⟨calls, hr, hx⟩ := h.delivered
  exact ⟨h.outlet, ⟨call :: calls, by simp [hr], by simp [hx]⟩, h.rounds⟩

end

/-- Whatever an action is, it is done to the feed. -/
def IsTold (perform : Relay → FixAction → Relay × Except Failure Unit) : Prop :=
  ∀ (r : Relay) (x : Affair String) (action : FixAction), r.outlet = .feed x.feed →
    ∃ deeds, r.Retells (perform r action).1 (perform r action).2 x (x.after deeds)

section

variable {perform : Relay → FixAction → Relay × Except Failure Unit} {r : Relay} {x : Affair String}

/-- What a callback does when it gets a fix is done to the feed. -/
theorem exists_deeds_of_deliver (hp : IsTold perform) (hr : r.outlet = .feed x.feed) (fix : Location)
    (callback : String) : ∃ deeds, ({ r with delivered := r.delivered ++ [(callback, fix)] } : Relay).Retells
      (deliver perform fix r callback).1 (deliver perform fix r callback).2 x (x.after deeds) := by
  have hnext := outlet_next { r with delivered := r.delivered ++ [(callback, fix)] } callback
  have hcalls := delivered_next { r with delivered := r.delivered ++ [(callback, fix)] } callback
  rw [deliver]
  split
  case h_1 r' hnone =>
    rw [hnone] at hnext hcalls
    exact ⟨[], .of_feed (hnext.trans hr) hcalls⟩
  case h_2 action r' hsome =>
    rw [hsome] at hnext hcalls
    obtain ⟨deeds, hdeeds⟩ := hp r' x action (hnext.trans hr)
    refine ⟨deeds, hdeeds.outlet, ?_, hdeeds.rounds⟩
    rw [← hcalls]
    exact hdeeds.delivered

/-- To hand a fix over to one callback after the other is to go on with a push. -/
theorem exists_deeds_of_performAll (hp : IsTold perform) (hr : r.outlet = .feed x.feed) {place : Nat}
    {fix : Location} {called callbacks : List String}
    (hround : x.rounds[place]? = some ⟨fix, called, callbacks⟩) :
    ∃ deeds round, r.Retells (performAll (deliver perform fix) r callbacks).1
        (performAll (deliver perform fix) r callbacks).2
        { x with rounds := x.rounds.set place round } (x.after deeds) ∧
      ((performAll (deliver perform fix) r callbacks).2 = .ok () → round.waiting = []) := by
  induction callbacks generalizing r x called with
  | nil =>
    obtain ⟨hlt, hget⟩ := List.getElem?_eq_some_iff.mp hround
    refine ⟨[], ⟨fix, called, []⟩, ?_, fun _ => rfl⟩
    rw [← hget, List.set_getElem_self]
    exact .of_feed hr rfl
  | cons callback callbacks ih =>
    obtain ⟨hlt, -⟩ := List.getElem?_eq_some_iff.mp hround
    -- The push calls its callback, and this one does something to the feed.
    have hcall : x.does (.call place) = { x with
        rounds := x.rounds.set place ⟨fix, called ++ [callback], callbacks⟩
        delivered := x.delivered ++ [(callback, fix)] } := by
      rw [Affair.does, hround]
    obtain ⟨deeds, hdeeds⟩ := exists_deeds_of_deliver (x := x.does (.call place)) hp (by rw [hcall]; exact hr)
      fix callback
    have hafter : (x.does (.call place)).after deeds = x.after (.call place :: deeds) := rfl
    rw [hafter, hcall] at hdeeds
    rw [performAll]
    cases hstep : deliver perform fix r callback with
    | mk r' answer =>
      rw [hstep] at hdeeds
      cases answer with
      | error e => exact ⟨.call place :: deeds, _, hdeeds.of_call, fun h => nomatch h⟩
      | ok _ =>
        obtain ⟨begun, hbegun, -⟩ := hdeeds.rounds
        have hnext : (x.after (.call place :: deeds)).rounds[place]? =
            some ⟨fix, called ++ [callback], callbacks⟩ := by
          rw [hbegun, List.getElem?_append_left (by simpa using hlt)]
          exact List.getElem?_set_self hlt
        obtain ⟨later, round, hlater, hdone⟩ := ih hdeeds.outlet hnext
        refine ⟨.call place :: deeds ++ later, round, ?_, hdone⟩
        rw [Affair.after_append]
        have hset := hdeeds.set (by simpa using hlt) round
        rw [List.set_set] at hset
        exact hset.of_call.trans hlater

/-- An action is what it does to the feed, and then what the callbacks do. -/
theorem exists_deeds_of_perform {depth : Nat} (hp : IsTold (Relay.perform depth))
    (hr : r.outlet = .feed x.feed) (action : FixAction) : ∃ deeds, deeds.head? = action.deed? ∧
      r.Retells (Relay.perform (depth + 1) r action).1 (Relay.perform (depth + 1) r action).2 x
        (x.after deeds) := by
  cases action with
  | fail failure =>
    rw [Relay.perform]
    exact ⟨[], rfl, .of_feed hr rfl⟩
  | requestUpdates callback =>
    simp only [Relay.perform, hr]
    exact ⟨[.requestUpdates callback], rfl, .of_feed rfl rfl⟩
  | requestSingle callback =>
    simp only [Relay.perform, hr]
    exact ⟨[.requestSingle callback], rfl, .of_feed rfl rfl⟩
  | push fix =>
    simp only [Relay.perform, hr]
    have hround : (x.does (.push fix)).rounds[x.rounds.length]? = some ⟨fix, [], (x.feed.push fix).2⟩ :=
      List.getElem?_concat_length
    obtain ⟨deeds, round, hdeeds, hdone⟩ := exists_deeds_of_performAll
      (r := { r with outlet := .feed (x.feed.push fix).1 }) hp rfl hround
    refine ⟨.push fix :: deeds, rfl, hdeeds.outlet, hdeeds.delivered, ?_⟩
    obtain ⟨begun, hbegun, hended⟩ := hdeeds.rounds
    refine ⟨round :: begun, ?_, fun hok => List.forall_mem_cons.mpr ⟨hdone hok, hended hok⟩⟩
    show ((x.does (.push fix)).after deeds).rounds = _
    rw [hbegun]
    show (x.rounds ++ [_]).set x.rounds.length round ++ begun = _
    simp

theorem isTold_perform (depth : Nat) : IsTold (Relay.perform depth) := by
  induction depth with
  | zero => exact fun r x action hr => ⟨[], .of_feed hr rfl⟩
  | succ depth ih =>
    intro r x action hr
    obtain ⟨deeds, -, hdeeds⟩ := exists_deeds_of_perform ih hr action
    exact ⟨deeds, hdeeds⟩

end

/-- The episodes of a relay are what is done to a feed. Every action begins with what it does itself. -/
inductive Retold : Affair String → List FixAction → List (Episode Relay Unit) → Prop
  /-- Nothing is done. -/
  | nil (x : Affair String) : Retold x [] []
  /-- One action is performed before the others. -/
  | cons {x : Affair String} {action : FixAction} {actions : List FixAction} {episode : Episode Relay Unit}
      {episodes : List (Episode Relay Unit)} (deeds : List (Feed.Deed String)) : deeds.head? = action.deed? →
      ({ episode.state with delivered := [] } : Relay).Retells episode.state episode.answer x
        (x.after deeds) →
      Retold (x.after deeds) actions episodes → Retold x (action :: actions) (episode :: episodes)

/-- **The run lemma for relays.** -/
theorem retold_play {r : Relay} {x : Affair String} (hr : r.outlet = .feed x.feed) (depth : Nat)
    (actions : List FixAction) : Retold x actions (Scenario.play (step (depth + 1)) r actions) := by
  induction actions generalizing r x with
  | nil => exact .nil x
  | cons action actions ih =>
    obtain ⟨deeds, hhead, hdeeds⟩ := exists_deeds_of_perform (r := { r with delivered := [] })
      (isTold_perform depth) hr action
    exact .cons deeds hhead ⟨hdeeds.outlet, hdeeds.delivered, hdeeds.rounds⟩ (ih hdeeds.outlet)

end Relay

/-- **Who is told by which push.** Whatever was done to a feed before, its last fix is that of the last push,
and nobody was called but by a push that was made. A push that is made then hands its own fix, whatever is
done later, first to every subscription that was made before it, in their order, and then once to everybody
else who had asked for the next fix since the last push; the callbacks that it has called and those that it
has still to call are these. The requests that were open are closed. What a relay does is of this kind, and an
action that succeeds leaves nobody to be called. -/
theorem told_by_pushes {κ : Type} [DecidableEq κ] (before behind : List (Feed.Deed κ)) (fix : Location)
    (plans : List (String × List FixAction)) (actions : List FixAction) :
    (Affair.empty.after before).feed.last = (Feed.pushes before).getLast? ∧
    (Affair.empty.after before).rounds.map Round.fix = Feed.pushes before ∧
    (Affair.empty.after before).delivered.Perm ((Affair.empty.after before).rounds.flatMap Round.calls) ∧
    (∃ round, (Affair.empty.after (before ++ .push fix :: behind)).rounds[(Feed.pushes before).length]? =
        some round ∧ round.fix = fix ∧ round.called ++ round.waiting =
          Feed.subscriptions before ++
            ((Feed.openRequests before).filter (· ∉ Feed.subscriptions before)).eraseDups) ∧
    Feed.openRequests (before ++ .push fix :: behind) = Feed.openRequests behind ∧
    Relay.Retold .empty actions (Relay.play ⟨.feed .empty, plans, []⟩ actions) := by
  have hbefore := Feed.tells_after before
  have hbehind := Feed.tells_after (before ++ .push fix :: behind)
  refine ⟨hbefore.last, hbefore.fixes, hbefore.delivered, hbehind.rounds before fix behind rfl,
    Feed.openRequests_push before behind fix, ?_⟩
  exact Relay.retold_play rfl _ actions

/-- `b` asks twice for the next fix and gets it once. It pushes one itself when it gets it, and that one goes
to the subscription only. -/
example (fix : Location) :
    ((Relay.mk (.feed .empty) [("b", [.push fix])] []).play
      [.requestUpdates "a", .requestSingle "b", .requestSingle "b", .push fix, .push fix]).map
        (·.state.delivered) = [[], [], [], [("a", fix), ("b", fix), ("a", fix)], [("a", fix)]] := by
  rfl

end Scenario

end Daylight
