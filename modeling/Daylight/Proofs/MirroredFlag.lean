import Daylight.Proofs.Publishing

/-!
# The mirrored flag

The flag that other programs read is written when boundaries are published, with what it is then. It is not
written again when the clock comes to one of them: on one day the boundaries stay what they are, so there is
nothing to publish at sunset, though it is night from then on. The flag of the mirror is that of the moment
at which the present boundaries were published.

A run is followed with the cycle that has published what the registry shows (`Mirrored`). Between two cycles
anything may happen that neither publishes nor touches the mirror.

## What is proved

* `set_of_works`: a mirror that can be written shows what is written.
* `mirror_performAll`: after some acts the mirror shows the last flag that was among them.
* `flag_of_mirrored`: the run lemma. The mirror shows the flag of the moment at which the boundaries were
  published.
* `flag_after_cycle`: after a cycle that answers with boundaries the mirror shows whether it is night, if
  this was the same at that moment.
* `stale_at_sunset`: it need not be the same.
-/

namespace Daylight

/-! ### Mirrors that can be written -/

namespace SettingsTable

theorem flag?_setFlag (t : SettingsTable) (flag : Bool) : (t.setFlag flag).flag? = some flag := by
  have hnone : (t.filter fun row => row.1 ≠ flagName).lookup flagName = none := by
    rw [List.lookup_eq_none_iff]
    intro row hrow
    have hne : row.1 ≠ flagName := of_decide_eq_true (List.mem_filter.mp hrow).2
    exact bne_iff_ne.mpr hne.symm
  simp only [flag?, value?, setFlag, put, List.lookup_append, hnone, Option.none_or]
  cases flag with
  | true => simp [flagText]
  | false => simp [flagText]

end SettingsTable

namespace Mirror

/-- There is a mirror, and it can be written. -/
def Works : Mirror → Prop
  | none => False
  | memory _ isDown => isDown = false
  | table _ => True

theorem set_of_works {m : Mirror} (h : m.Works) (flag : Bool) :
    ∃ m', m.set flag = .ok m' ∧ m'.flag? = some flag ∧ m'.Works := by
  cases m with
  | none => exact h.elim
  | memory mirror isDown =>
    obtain rfl : isDown = false := h
    exact ⟨_, rfl, rfl, rfl⟩
  | table rows => exact ⟨_, rfl, SettingsTable.flag?_setFlag rows flag, trivial⟩

end Mirror

/-! ### What a cycle writes -/

/-- The flag that an act hands to the mirror. -/
def Act.flag? : Act → Option Bool
  | .mirror flag => some flag
  | _ => none

/-- Listeners that leave the mirror alone. -/
def SparesMirror (react : Reaction Tracker) : Prop :=
  ∀ s : Service, ∀ listener state, (react s listener state).1.owner.mirror = s.owner.mirror

theorem mirror_schedule (s : Service) (wanted : Moment) :
    (s.schedule wanted).1.owner.mirror = s.owner.mirror := by
  unfold Service.schedule
  split
  · rfl
  · dsimp only
    split
    · rfl
    · rw [owner_report]
      rfl
    · rfl

section

variable {react : Reaction Tracker} (hm : SparesMirror react)

include hm

theorem mirror_notifyAll (s : Service) (state : Option Boundaries) :
    (s.notifyAll react state).owner.mirror = s.owner.mirror := by
  have hk : Kept react fun s' => s'.owner.mirror = s.owner.mirror :=
    ⟨fun s' write h => by rw [owner_record, h], fun _ _ _ h => h,
      fun s' listener state h => (hm s' listener state).trans h⟩
  exact hk.notifyAll rfl state

/-- A mirror that can be written shows the flag that an act hands to it, and keeps it through others. -/
theorem mirror_perform {s : Service} (h : s.owner.mirror.Works) (a : Act) :
    (a.perform react s).owner.mirror.Works ∧
      (a.perform react s).owner.mirror.flag? = a.flag?.or s.owner.mirror.flag? := by
  cases a with
  | ask queries => exact ⟨h, rfl⟩
  | note entry =>
    rw [Act.perform, owner_report]
    exact ⟨h, rfl⟩
  | fanOut state =>
    rw [Act.perform, mirror_notifyAll hm]
    exact ⟨h, rfl⟩
  | mirror flag =>
    obtain ⟨m', hset, hflag, hworks⟩ := Mirror.set_of_works h flag
    simp only [Act.perform, Service.mirrorFlag, hset]
    exact ⟨hworks, hflag⟩
  | wake wanted =>
    rw [Act.perform, mirror_schedule]
    exact ⟨h, rfl⟩

/-- After some acts the mirror shows the last flag that was handed to it. -/
theorem mirror_performAll {s : Service} (h : s.owner.mirror.Works) (acts : List Act) :
    (performAll react s acts).owner.mirror.Works ∧ (performAll react s acts).owner.mirror.flag? =
      ((acts.filterMap Act.flag?).getLast?).or s.owner.mirror.flag? := by
  induction acts generalizing s with
  | nil => exact ⟨h, rfl⟩
  | cons a acts ih =>
    obtain ⟨hworks, hflag⟩ := mirror_perform hm h a
    obtain ⟨hlast, hshown⟩ := ih hworks
    refine ⟨hlast, ?_⟩
    rw [performAll_cons, hshown, hflag, List.filterMap_cons]
    cases a.flag? with
    | none => rfl
    | some flag =>
      rw [List.getLast?_cons]
      cases (acts.filterMap Act.flag?).getLast? <;> rfl

end

namespace Turn

theorem flags_calls (t : Turn) : t.calls.filterMap Act.flag? = t.acts.filterMap Act.flag? := by
  rw [calls, List.filterMap_filter]
  congr 1
  funext a
  cases a <;> rfl

/-- A cycle writes the flag of the boundaries that it publishes, and no other. -/
theorem mirror_after {react : Reaction Tracker} (hm : SparesMirror react) {t : Turn}
    (h : t.before.owner.mirror.Works) :
    (t.after react).owner.mirror.Works ∧ (t.after react).owner.mirror.flag? =
      ((t.calls.filterMap Act.flag?).getLast?).or t.before.owner.mirror.flag? := by
  rw [t.after_eq_performAll react, t.flags_calls]
  exact mirror_performAll hm h t.acts

/-- A cycle publishes what its evaluation comes to, if that is news. -/
def Publishes (t : Turn) : Prop := ∃ state, t.evaluation = .ok state ∧ t.IsNews state

/-- What a cycle leaves behind that publishes nothing: the registry and the mirror show what they did. -/
theorem shown_of_silent {react : Reaction Tracker} (hq : Quiet react) (hm : SparesMirror react) {t : Turn}
    (h : t.before.owner.mirror.Works) (ht : ¬ t.Publishes) :
    (t.after react).registry.last = t.before.registry.last ∧
      (t.after react).owner.mirror.flag? = t.before.owner.mirror.flag? := by
  obtain ⟨-, hflag⟩ := mirror_after hm h
  have hcalls : t.calls = [] := by
    cases heval : t.evaluation with
    | error e => exact calls_of_error heval
    | ok state => exact calls_of_not_news heval fun hn => ht ⟨state, heval, hn⟩
  rw [hflag, last_after hq, hcalls]
  exact ⟨rfl, rfl⟩

/-- A cycle that publishes boundaries leaves their flag in the mirror, as it is in the cycle. -/
theorem shown_of_published {react : Reaction Tracker} (hq : Quiet react) (hm : SparesMirror react)
    {t : Turn} (h : t.before.owner.mirror.Works) {b : Boundaries} (hb : t.evaluation = .ok (some b))
    (hn : t.IsNews (some b)) :
    (t.after react).registry.last = some b ∧
      ∃ flag, b.isNight t.now = .ok flag ∧ (t.after react).owner.mirror.flag? = some flag := by
  obtain ⟨-, hflag⟩ := mirror_after hm h
  obtain ⟨flag, hnight, hcalls⟩ := calls_of_changed hb hn
  refine ⟨last_after_of_ok hq hb, flag, hnight, ?_⟩
  rw [hflag, hcalls]
  rfl

end Turn

/-! ### Runs -/

/-- The services that a run can reach, with the cycle that has published what the registry shows, if there
is one. -/
inductive Mirrored (react : Reaction Tracker) : Service → Option Turn → Prop
  /-- The run begins with nothing published. -/
  | init {s : Service} : s.registry.last = none → s.owner.mirror.Works → Mirrored react s none
  /-- Something happens that neither publishes nor changes what the mirror shows; it can still be written. -/
  | between {s s' : Service} {publisher : Option Turn} : Mirrored react s publisher →
      s'.registry.last = s.registry.last → s'.owner.mirror.flag? = s.owner.mirror.flag? →
      s'.owner.mirror.Works → Mirrored react s' publisher
  /-- A cycle publishes. -/
  | published {t : Turn} {publisher : Option Turn} : Mirrored react t.before publisher → t.Publishes →
      Mirrored react (t.after react) (some t)
  /-- A cycle publishes nothing: it fails, or finds what is shown already. -/
  | silent {t : Turn} {publisher : Option Turn} : Mirrored react t.before publisher → ¬ t.Publishes →
      Mirrored react (t.after react) publisher

section

variable {react : Reaction Tracker} (hq : Quiet react) (hm : SparesMirror react)

include hq hm

/-- **The run lemma.** While boundaries are shown, the mirror shows the flag of the moment at which they were
published. -/
theorem flag_of_mirrored {s : Service} {publisher : Option Turn} (h : Mirrored react s publisher) :
    s.owner.mirror.Works ∧ ∀ b, s.registry.last = some b → ∃ t flag, publisher = some t ∧
      t.evaluation = .ok (some b) ∧ b.isNight t.now = .ok flag ∧ s.owner.mirror.flag? = some flag := by
  induction h with
  | init hlast hworks =>
    refine ⟨hworks, fun b hb => ?_⟩
    rw [hlast] at hb
    cases hb
  | between _ hlast hflag hworks ih =>
    refine ⟨hworks, fun b hb => ?_⟩
    rw [hflag]
    exact ih.2 b (hlast ▸ hb)
  | @published t publisher _ ht ih =>
    obtain ⟨hworks, -⟩ := ih
    refine ⟨(Turn.mirror_after hm hworks).1, fun b hb => ?_⟩
    obtain ⟨state, heval, hn⟩ := ht
    obtain rfl : state = some b := (last_after_of_ok hq heval).symm.trans hb
    obtain ⟨-, flag, hnight, hflag⟩ := Turn.shown_of_published hq hm hworks heval hn
    exact ⟨t, flag, rfl, heval, hnight, hflag⟩
  | silent _ ht ih =>
    obtain ⟨hworks, hshown⟩ := ih
    obtain ⟨hlast, hflag⟩ := Turn.shown_of_silent hq hm hworks ht
    refine ⟨(Turn.mirror_after hm hworks).1, fun b hb => ?_⟩
    rw [hflag]
    exact hshown b (hlast ▸ hb)

end

/-- Whether it is day at a count of milliseconds. -/
def Boundaries.IsDayAt (b : Boundaries) (millis : Int) : Prop := b.sunrise ≤ millis ∧ millis < b.sunset

instance (b : Boundaries) (millis : Int) : Decidable (b.IsDayAt millis) :=
  inferInstanceAs (Decidable (_ ∧ _))

theorem Boundaries.isNightAt_eq_iff (b : Boundaries) (millis millis' : Int) :
    b.isNightAt millis = b.isNightAt millis' ↔ (b.IsDayAt millis ↔ b.IsDayAt millis') := by
  have hnight : ∀ n, b.isNightAt n = true ↔ ¬ b.IsDayAt n := by
    intro n
    simp only [isNightAt, IsDayAt, Bool.not_eq_true', Bool.and_eq_false_iff, decide_eq_false_iff_not]
    exact not_and_or.symm
  rw [Bool.eq_iff_iff, hnight, hnight, not_iff_not]

section

variable {react : Reaction Tracker} (hq : Quiet react) (hm : SparesMirror react)

include hq hm

/-- **What the mirror shows after a cycle.** After a cycle that answers with boundaries the mirror shows
whether it was night at the moment at which these boundaries were published: in this cycle if they are news,
and else in the one that has published what the registry shows. It shows whether it is night now exactly if
the clock was, and is, between sunrise and sunset, or was not and is not. -/
theorem flag_after_cycle {t : Turn} {publisher : Option Turn} (h : Mirrored react t.before publisher)
    {b : Boundaries} (hb : t.outcome react = .ok (some b)) :
    ∃ writer began now, (writer = t ∨ publisher = some writer) ∧ (t.IsNews (some b) → writer = t) ∧
      writer.evaluation = .ok (some b) ∧ Boundaries.millisOf writer.now = .ok began ∧
      Boundaries.millisOf t.now = .ok now ∧
      (t.after react).owner.mirror.flag? = some (b.isNightAt began) ∧
      b.isNight t.now = .ok (b.isNightAt now) ∧
      ((t.after react).owner.mirror.flag? = some (b.isNightAt now) ↔
        (b.IsDayAt began ↔ b.IsDayAt now)) := by
  have heval := Turn.evaluation_of_outcome hb
  obtain ⟨now, hnow, hnight, -⟩ := Turn.outlook_of_evaluation heval
  obtain ⟨hworks, hshown⟩ := flag_of_mirrored hq hm h
  have hsame : ∀ began, (t.after react).owner.mirror.flag? = some (b.isNightAt began) →
      ((t.after react).owner.mirror.flag? = some (b.isNightAt now) ↔
        (b.IsDayAt began ↔ b.IsDayAt now)) := by
    intro began hbegan
    rw [hbegan, Option.some.injEq, b.isNightAt_eq_iff]
  by_cases hn : t.IsNews (some b)
  · obtain ⟨-, flag, hflag, hmirror⟩ := Turn.shown_of_published hq hm hworks heval hn
    obtain rfl := Except.ok.inj (hnight.symm.trans hflag)
    exact ⟨t, now, now, Or.inl rfl, fun _ => rfl, heval, hnow, hnow, hmirror, hnight, hsame now hmirror⟩
  · have hsilent : ¬ t.Publishes := by
      rintro ⟨state, hstate, hnews⟩
      obtain rfl := Except.ok.inj (heval.symm.trans hstate)
      exact hn hnews
    obtain ⟨-, hflag⟩ := Turn.shown_of_silent hq hm hworks hsilent
    obtain ⟨writer, flag, hwriter, hfound, hthen, hmirror⟩ := hshown b (not_not.mp hn)
    obtain ⟨began, hbegan, hnight', -⟩ := Turn.outlook_of_evaluation hfound
    obtain rfl := Except.ok.inj (hnight'.symm.trans hthen)
    have hkept := hflag.trans hmirror
    exact ⟨writer, began, now, Or.inr hwriter, fun hnews => absurd hnews hn, hfound, hbegan, hnow,
      hkept, hnight, hsame began hkept⟩

end

/-! ### A sunset that is not mirrored -/

/-- The first cycle of a service at noon. -/
def noonTurn : Turn := ⟨noonService, some .startup⟩

/-- The cycle after it, for a wake-up when the clock shows some instant. -/
def laterTurn (instant : Int) : Turn :=
  ⟨(noonTurn.after .idle).mapOwner fun t => { t with clock := ⟨.ofInstant instant, .ok .utc⟩ }, some .alarm⟩

theorem mirrored_laterTurn (instant : Int) : Mirrored .idle (laterTurn instant).before (some noonTurn) := by
  have hstart : Mirrored .idle noonTurn.before none := .init rfl rfl
  have hpublishes : noonTurn.Publishes := ⟨some noonBoundaries, by decide +kernel, by decide +kernel⟩
  exact (hstart.published hpublishes).between rfl rfl rfl

/-- An hour after noon it is still day, and the mirror still shows that it is. -/
theorem flag_at_one :
    ((laterTurn 1687352400000000).after .idle).owner.mirror.flag? = some false := by
  have hb : (laterTurn 1687352400000000).outcome .idle = .ok (some noonBoundaries) := by decide +kernel
  obtain ⟨writer, began, now, hwriter, -, -, hbegan, hnow, -, -, hiff⟩ :=
    flag_after_cycle (fun _ _ _ => rfl) (fun _ _ _ => rfl) (mirrored_laterTurn 1687352400000000) hb
  have hone : Boundaries.millisOf (laterTurn 1687352400000000).now = .ok 1687352400000 := by decide +kernel
  have hnoon : Boundaries.millisOf noonTurn.now = .ok 1687348800000 := by decide +kernel
  obtain rfl := Except.ok.inj (hone.symm.trans hnow)
  refine hiff.mpr (iff_of_true ?_ (by decide))
  rcases hwriter with rfl | hwriter
  · obtain rfl := Except.ok.inj (hone.symm.trans hbegan)
    decide
  · obtain rfl := Option.some.inj hwriter
    obtain rfl := Except.ok.inj (hnoon.symm.trans hbegan)
    decide

/-- So it does not hold that the mirror always shows whether it is night now. -/
theorem stale_at_sunset : ¬ ∀ (t : Turn) (publisher : Option Turn) (b : Boundaries),
    Mirrored .idle t.before publisher → t.outcome .idle = .ok (some b) →
    ∃ flag, b.isNight t.now = .ok flag ∧ (t.after .idle).owner.mirror.flag? = some flag := by
  intro h
  have hb : (laterTurn 1687370400000000).outcome .idle = .ok (some noonBoundaries) := by decide +kernel
  obtain ⟨flag, hnight, hflag⟩ := h _ _ _ (mirrored_laterTurn 1687370400000000) hb
  -- at 18:00 it is night, but the mirror shows what was so at noon
  have hstale : ((laterTurn 1687370400000000).after .idle).owner.mirror.flag? = some false := by
    decide +kernel
  obtain rfl : false = flag := Option.some.inj (hstale.symm.trans hflag)
  exact absurd hnight (by decide +kernel)

end Daylight
