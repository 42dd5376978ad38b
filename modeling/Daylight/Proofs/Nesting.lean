import Daylight.Scenario.Passing
import Mathlib.Tactic.SplitIfs

/-!
# Callbacks inside of callbacks

A callback that gets a fix does its next action, which may hand a fix to callbacks again, and so on. How deep
this goes is bounded by the actions that are left: every callback takes one of them away before it is done. So
a bound on the depth that is larger than the number of actions is never met, and what is done does not
depend on it.

## What is proved

* `remaining_next`: a callback that does something has one action less, and `remaining_le`: no more are left
  than there are.
* `AgreesBelow.succ`, `agreesBelow_perform`: two depths give the same as long as fewer actions are left than
  either of them.
* `play_of_depth_le`: so every depth that is at least that of a relay plays its actions like the relay.
-/

namespace Daylight.Scenario.Relay

/-- A way to perform an action. -/
abbrev Performing : Type := Relay → FixAction → Relay × Except Failure Unit

/-! ### What is left to do -/

/-- How many actions are left to callbacks that are not among those that were seen. Of two plans of one
callback the first one counts. -/
def remaining (seen : List String) : List (String × List FixAction) → Nat
  | [] => 0
  | plan :: plans => (if plan.1 ∈ seen then 0 else plan.2.length) + remaining (plan.1 :: seen) plans

theorem remaining_le (seen : List String) (plans : List (String × List FixAction)) :
    remaining seen plans ≤ (plans.flatMap (·.2)).length := by
  induction plans generalizing seen with
  | nil => exact Nat.le_refl _
  | cons plan plans ih =>
    rw [remaining, List.flatMap_cons, List.length_append]
    apply Nat.add_le_add _ (ih _)
    split_ifs
    · exact Nat.zero_le _
    · exact Nat.le_refl _

/-- The plans with another one for a callback. -/
def replan (plans : List (String × List FixAction)) (callback : String) (rest : List FixAction) :
    List (String × List FixAction) :=
  plans.map fun plan => if plan.1 = callback then (callback, rest) else plan

section

variable {seen : List String} {callback : String}

theorem remaining_replan_of_mem (h : callback ∈ seen) (plans : List (String × List FixAction))
    (rest : List FixAction) : remaining seen (replan plans callback rest) = remaining seen plans := by
  induction plans generalizing seen with
  | nil => rfl
  | cons plan plans ih =>
    rw [replan, List.map_cons, ← replan, remaining, remaining]
    by_cases hplan : plan.1 = callback
    · rw [if_pos hplan, hplan, if_pos h, if_pos h, ih (List.mem_cons_of_mem _ h)]
    · rw [if_neg hplan, ih (List.mem_cons_of_mem _ h)]

/-- The plan of a callback that loses its first action. -/
theorem remaining_replan {action : FixAction} {rest : List FixAction}
    {plans : List (String × List FixAction)} (hseen : callback ∉ seen)
    (h : plans.lookup callback = some (action :: rest)) :
    remaining seen (replan plans callback rest) + 1 = remaining seen plans := by
  induction plans generalizing seen with
  | nil => cases h
  | cons plan plans ih =>
    obtain ⟨name, actions⟩ := plan
    rw [replan, List.map_cons, ← replan, remaining, remaining]
    by_cases hplan : name = callback
    · subst hplan
      rw [List.lookup_cons_self] at h
      cases h
      simp only [if_pos, if_neg hseen, List.length_cons, remaining_replan_of_mem List.mem_cons_self]
      omega
    · have hbehind : plans.lookup callback = some (action :: rest) := by
        rwa [List.lookup_cons, beq_false_of_ne (Ne.symm hplan)] at h
      have hunseen : callback ∉ name :: seen := List.not_mem_cons_of_ne_of_not_mem (Ne.symm hplan) hseen
      simp only [if_neg hplan, ← ih hunseen hbehind]
      omega

end

/-- **A callback that does something has one action less.** -/
theorem remaining_next {r r' : Relay} {callback : String} {action : FixAction}
    (h : r.next callback = (some action, r')) : remaining [] r'.plans + 1 = remaining [] r.plans := by
  rw [next] at h
  split at h
  case h_1 => cases h
  case h_2 first rest hplan =>
    cases h
    have hlookup : r.plans.lookup callback = some (action :: rest) := by
      cases hactions : r.plans.lookup callback with
      | none => simp [hactions] at hplan
      | some actions => simpa [hactions] using hplan
    exact remaining_replan List.not_mem_nil hlookup

theorem next_eq_none {r r' : Relay} {callback : String} (h : r.next callback = (none, r')) : r' = r := by
  rw [next] at h
  split at h <;> cases h
  rfl

/-! ### How deep callbacks go -/

/-- Two ways to perform an action are the same as long as fewer actions than these are left, and the first one
adds none. -/
structure AgreesBelow (bound : Nat) (perform perform' : Performing) : Prop where
  /-- They are the same. -/
  same : ∀ r action, remaining [] r.plans < bound → perform r action = perform' r action
  /-- The first one adds no actions. -/
  adds : ∀ r action, remaining [] (perform r action).1.plans ≤ remaining [] r.plans

section

variable {perform perform' : Performing} {bound : Nat}

/-- A callback takes an action away before it does it. -/
theorem AgreesBelow.deliver (h : AgreesBelow bound perform perform') (fix : Location) (r : Relay)
    (callback : String) :
    (remaining [] r.plans < bound + 1 → deliver perform fix r callback = deliver perform' fix r callback) ∧
      remaining [] (deliver perform fix r callback).1.plans ≤ remaining [] r.plans := by
  rw [Relay.deliver, Relay.deliver]
  cases hnext : next { r with delivered := r.delivered ++ [(callback, fix)] } callback with
  | mk action r' =>
    cases action with
    | none =>
      rw [next_eq_none hnext]
      exact ⟨fun _ => rfl, Nat.le_refl _⟩
    | some action =>
      have hless := remaining_next hnext
      change remaining [] r'.plans + 1 = remaining [] r.plans at hless
      have hadds := h.adds r' action
      refine ⟨fun hlt => h.same r' action (by omega), ?_⟩
      show remaining [] (perform r' action).1.plans ≤ _
      omega

theorem AgreesBelow.performAll (h : AgreesBelow bound perform perform') (fix : Location) (r : Relay)
    (callbacks : List String) :
    (remaining [] r.plans < bound + 1 →
        performAll (Relay.deliver perform fix) r callbacks =
          performAll (Relay.deliver perform' fix) r callbacks) ∧
      remaining [] (performAll (Relay.deliver perform fix) r callbacks).1.plans ≤ remaining [] r.plans := by
  induction callbacks generalizing r with
  | nil => exact ⟨fun _ => rfl, Nat.le_refl _⟩
  | cons callback callbacks ih =>
    obtain ⟨hsame, hadds⟩ := h.deliver fix r callback
    rw [Scenario.performAll, Scenario.performAll]
    cases hstep : Relay.deliver perform fix r callback with
    | mk r' answer =>
      rw [hstep] at hsame hadds
      cases answer with
      | error e => exact ⟨fun hlt => by rw [← hsame hlt], hadds⟩
      | ok _ =>
        obtain ⟨hsame', hadds'⟩ := ih r'
        refine ⟨fun hlt => ?_, Nat.le_trans hadds' hadds⟩
        rw [← hsame hlt]
        exact hsame' (Nat.lt_of_le_of_lt hadds hlt)

/-- An action from outside, with callbacks one level deeper. -/
theorem AgreesBelow.succ {depth depth' : Nat}
    (h : AgreesBelow bound (Relay.perform depth) (Relay.perform depth')) :
    AgreesBelow (bound + 1) (Relay.perform (depth + 1)) (Relay.perform (depth' + 1)) := by
  constructor
  case same =>
    intro r action hlt
    cases action with
    | fail failure => simp only [Relay.perform]
    | requestUpdates callback => cases houtlet : r.outlet <;> simp only [Relay.perform, houtlet]
    | requestSingle callback =>
      cases houtlet : r.outlet with
      | feed f => simp only [Relay.perform, houtlet]
      | fixed location =>
        simp only [Relay.perform, houtlet]
        exact (h.deliver location r callback).1 hlt
    | push fix =>
      cases houtlet : r.outlet with
      | feed f =>
        simp only [Relay.perform, houtlet]
        exact (h.performAll fix { r with outlet := .feed (f.push fix).1 } (f.push fix).2).1 hlt
      | fixed location => simp only [Relay.perform, houtlet]
  case adds =>
    intro r action
    cases action with
    | fail failure => simp only [Relay.perform, Nat.le_refl]
    | requestUpdates callback => cases houtlet : r.outlet <;> simp only [Relay.perform, houtlet, Nat.le_refl]
    | requestSingle callback =>
      cases houtlet : r.outlet with
      | feed f => simp only [Relay.perform, houtlet, Nat.le_refl]
      | fixed location =>
        simp only [Relay.perform, houtlet]
        exact (h.deliver location r callback).2
    | push fix =>
      cases houtlet : r.outlet with
      | feed f =>
        simp only [Relay.perform, houtlet]
        exact (h.performAll fix { r with outlet := .feed (f.push fix).1 } (f.push fix).2).2
      | fixed location => simp only [Relay.perform, houtlet, Nat.le_refl]

end

/-- **Two depths give the same where fewer actions are left than either.** -/
theorem agreesBelow_perform {bound depth depth' : Nat} (h : bound ≤ depth) (h' : bound ≤ depth') :
    AgreesBelow bound (perform depth) (perform depth') := by
  induction depth generalizing bound depth' with
  | zero =>
    obtain rfl := Nat.le_zero.mp h
    exact ⟨fun r action hlt => absurd hlt (Nat.not_lt_zero _), fun r action => Nat.le_refl _⟩
  | succ depth ih =>
    cases bound with
    | zero =>
      -- Nothing is to be the same, and that no actions are added does not depend on the other depth.
      have hadds := (ih (Nat.zero_le _) (Nat.zero_le 0)).succ.adds
      exact ⟨fun r action hlt => absurd hlt (Nat.not_lt_zero _), hadds⟩
    | succ bound =>
      have hpos : depth' ≠ 0 := Nat.ne_of_gt (Nat.lt_of_lt_of_le (Nat.succ_pos _) h')
      obtain ⟨depth', rfl⟩ := Nat.exists_eq_add_one_of_ne_zero hpos
      exact (ih (Nat.le_of_succ_le_succ h) (Nat.le_of_succ_le_succ h')).succ

/-- **The bound on the depth is never met.** Any larger one plays the same. -/
theorem play_of_depth_le (r : Relay) {depth : Nat} (h : r.depth ≤ depth) (actions : List FixAction) :
    Scenario.play (step depth) r actions = r.play actions := by
  have hagrees := agreesBelow_perform h (Nat.le_refl r.depth)
  have hleft : remaining [] r.plans < r.depth := Nat.lt_succ_of_le (remaining_le [] r.plans)
  rw [play]
  clear h
  generalize r.depth = bound at hagrees hleft ⊢
  induction actions generalizing r with
  | nil => rfl
  | cons action actions ih =>
    have hstep : step depth r action = step bound r action := by
      rw [step, step, hagrees.same { r with delivered := [] } action hleft]
    have hadds : remaining [] (step bound r action).state.plans ≤ remaining [] r.plans := by
      rw [← hstep]
      exact hagrees.adds { r with delivered := [] } action
    rw [Scenario.play, Scenario.play, hstep, ih (step bound r action).state (Nat.lt_of_le_of_lt hadds hleft)]

end Daylight.Scenario.Relay
