import Daylight.Cli.Program
import Daylight.Proofs.Arguments
import Daylight.Proofs.WrittenMoments

/-!
# How an evaluation ends

An evaluation on the command line is meant to come to an end of its own: it prints boundaries, or it prints
why there are none, or its arguments are refused. It has a fourth end. A text that can be read as a moment may
lie outside the calendar when it is told in universal time, since its offset leads out of it, and then it is
neither taken nor refused; and at the edges of the calendar the days around a moment, and the days of the
events that are asked for, may not be there. In both cases the program ends with that failure, and prints
nothing.

Of several texts that are given for the moment one decides: the first one that is not taken, or else the last.

## What is proved

* `readMoment_eq`: what a text for a moment is taken for, whatever the text.
* `moments_of_deciding`: one text decides.
* `ends_evaluateOnce`: how an evaluation at an instant of the calendar ends.
* `ends_runWith`, `run_evaluate`: how the program ends when it is asked for an evaluation at a moment,
  whichever calculator knows the events. It has no end of its own if and only if the moment lies outside the
  calendar or the evaluation leaves it.
* `outside_in_first_hours`: there is such a moment.
-/

namespace Daylight.Cli

/-! ### The text that decides -/

section

variable {args : List String} {settings : List (Flag × String)}

/-- The text that decides about the moment: the first one that is not taken, or else the last one. -/
def deciding? (texts : List String) : Option String :=
  (texts.find? fun text => !(Options.readMoment .evaluate .instant text).isOk).or texts.getLast?

/-- **One text decides**: what is wrong with it is told, or it is the moment that counts. -/
theorem moments_of_deciding {texts : List String} {text : String} (h : deciding? texts = some text) :
    (∃ stop, Options.readMoment .evaluate .instant text = .error stop ∧
      texts.mapM (Options.readMoment .evaluate .instant) = .error stop) ∨
    ∃ moment all, Options.readMoment .evaluate .instant text = .ok moment ∧
      texts.mapM (Options.readMoment .evaluate .instant) = .ok all ∧ all.getLast? = some moment := by
  induction texts with
  | nil => cases h
  | cons first texts ih =>
    rw [List.mapM_cons]
    cases hfirst : Options.readMoment .evaluate .instant first with
    | error stop =>
      have hdecides : deciding? (first :: texts) = some first := by
        simp [deciding?, hfirst, Except.isOk, Except.toBool]
      cases hdecides.symm.trans h
      exact .inl ⟨stop, hfirst, rfl⟩
    | ok moment =>
      -- The first text is taken, so another one decides, unless it is the only one.
      rw [ok_bind]
      cases texts with
      | nil =>
        have hdecides : deciding? [first] = some first := by
          simp [deciding?, hfirst, Except.isOk, Except.toBool]
        cases hdecides.symm.trans h
        exact .inr ⟨moment, [moment], hfirst, rfl, rfl⟩
      | cons second texts =>
        have hdecides : deciding? (first :: second :: texts) = deciding? (second :: texts) := by
          simp [deciding?, hfirst, Except.isOk, Except.toBool, List.find?_cons]
        obtain ⟨stop, hstop, hall⟩ | ⟨last, all, hlast, hall, hcounts⟩ := ih (hdecides.symm.trans h)
        · refine .inl ⟨stop, hstop, ?_⟩
          rw [hall, error_bind]
        · refine .inr ⟨last, moment :: all, hlast, ?_, ?_⟩
          · rw [hall, ok_bind]
            rfl
          · rw [List.getLast?_cons, hcounts]
            rfl

/-- What a run comes to when its arguments set the moment. -/
theorem run_of_deciding {latitude longitude : Float} {text : String} (h : Sets args settings)
    (hplaces : Places settings latitude longitude)
    (htext : deciding? (values .instant settings) = some text) (calculator : Calculator) (now : Moment)
    (nows : List Moment) :
    runWith calculator ("evaluate" :: args) now nows =
      match Options.readMoment .evaluate .instant text with
      | .ok moment =>
        evaluateOnce calculator latitude longitude (values .zone settings).getLast? (some moment) now
      | .error stop => stop.outcome := by
  rw [runWith, ofArguments_evaluate h hplaces, moments]
  obtain ⟨stop, hstop, hall⟩ | ⟨moment, all, hmoment, hall, hcounts⟩ := moments_of_deciding htext
  · rw [hall, hstop, error_bind]
  · rw [hall, hmoment, ok_bind, hcounts]
    rfl

theorem exists_deciding {texts : List String} (h : texts ≠ []) : ∃ text, deciding? texts = some text := by
  rw [deciding?, List.getLast?_eq_getLast_of_ne_nil h]
  cases texts.find? _ with
  | none => exact ⟨_, rfl⟩
  | some text => exact ⟨text, rfl⟩

/-- **What a text for a moment is taken for**: a misuse, if it cannot be read, or else its reading in
universal time, which may lie outside the calendar. -/
theorem readMoment_eq (form : Form) (flag : Flag) (text : String) : Options.readMoment form flag text =
    match Moment.read? text.toList with
    | none => .error (.misuse form (.notMoment flag text))
    | some m =>
      if Moment.inCalendar m.universal then .ok (.ofInstant m.universal)
      else .error (.failure .outOfRange) := by
  rw [Options.readMoment]
  cases hread : Moment.read? text.toList with
  | none => rfl
  | some m =>
    simp only [Moment.toUtc_of_read? hread]
    split <;> rfl

end

/-! ### Ends -/

/-- What is asked for: a location, whose coordinates were the last ones given, in a zone that is known. -/
structure Asks (settings : List (Flag × String)) (location : Location) (zone : Zone) : Prop where
  /-- The coordinates are numbers, and the last ones lie within their bounds. -/
  isPlaced : ∃ latitude longitude, Places settings latitude longitude ∧
    Location.make latitude longitude none none provider = .ok location
  /-- The last zone is known, or there is none. -/
  isKnown : Zone.resolve (values .zone settings).getLast? = .ok zone

/-- There is no evaluation at a moment: it lies outside the calendar of universal time, or the evaluation
leaves the calendar. -/
def IsOutside (calculator : Calculator) (location : Location) (zone : Zone) (m : Moment) : Prop :=
  Moment.inCalendar m.universal = false ∨
    LeavesCalendar (fun query => calculator location query zone) zone m.universal

/-- How an evaluation ends at a moment that is given as a text. -/
inductive Ends (calculator : Calculator) (location : Location) (zone : Zone) (text : String) :
    Except Failure Outcome → Prop
  /-- The text cannot be read, and the arguments are refused. -/
  | refused : Moment.read? text.toList = none →
      Ends calculator location zone text (.ok (.refused .evaluate (.notMoment .instant text)))
  /-- There are boundaries, and they are printed as they are seen at the moment. -/
  | answered {m : Moment} {b : Boundaries} {line : String} : Moment.read? text.toList = some m →
      ¬ IsOutside calculator location zone m →
      evaluate calculator (some location) (.ofInstant m.universal) zone = .ok (some b) →
      stateLine (.ofInstant m.universal) (some b) = .ok line →
      Ends calculator location zone text (.ok (.success line))
  /-- The events could not be determined, and it is printed why. -/
  | unanswered {m : Moment} {e : Failure} : Moment.read? text.toList = some m →
      ¬ IsOutside calculator location zone m →
      evaluate calculator (some location) (.ofInstant m.universal) zone = .error e →
      e.kind = .calculation →
      Ends calculator location zone text
        (.ok (.unanswered (absenceLine e) (Service.absenceEntries (some location) e)))
  /-- There is no evaluation, and nothing is printed. -/
  | outside {m : Moment} : Moment.read? text.toList = some m → IsOutside calculator location zone m →
      Ends calculator location zone text (.error .outOfRange)

section

variable {calculator : Calculator} {location : Location} {zone : Zone} {latitude longitude : Float}
  {name : Option String}

theorem evaluateOnce_eq (hlocation : Location.make latitude longitude none none provider = .ok location)
    (hzone : Zone.resolve name = .ok zone) (moment now : Moment) :
    evaluateOnce calculator latitude longitude name (some moment) now =
      match evaluate calculator (some location) moment zone with
      | .ok state => do return .success (← stateLine moment state)
      | .error e =>
        if e.kind = .calculation then
          return .unanswered (absenceLine e) (Service.absenceEntries (some location) e)
        else throw e := by
  rw [evaluateOnce, ok_bind]
  cases hstate : evaluate calculator (some location) moment zone with
  | ok state => simp only [hlocation, hzone, ok_bind, hstate]
  | error e => simp only [hlocation, hzone, ok_bind, hstate]

/-- An evaluation at an instant of the calendar. -/
theorem ends_evaluateOnce {text : String} {m : Moment}
    (hanswers : AnswersIn zone fun query => calculator location query zone)
    (hlocation : Location.make latitude longitude none none provider = .ok location)
    (hzone : Zone.resolve name = .ok zone) (hread : Moment.read? text.toList = some m)
    (hin : Moment.inCalendar m.universal = true) (now : Moment) :
    Ends calculator location zone text
      (evaluateOnce calculator latitude longitude name (some (.ofInstant m.universal)) now) := by
  obtain ⟨hcases, hleaves⟩ := evaluate_ofInstant hanswers hin
  have houtside : IsOutside calculator location zone m ↔
      evaluate calculator (some location) (.ofInstant m.universal) zone = .error .outOfRange := by
    rw [hleaves, IsOutside, hin]
    simp
  rw [evaluateOnce_eq hlocation hzone]
  obtain ⟨b, hb⟩ | ⟨e, he, hkind⟩ | hout := hcases
  · obtain ⟨report, hreport⟩ := exists_report_of_evaluate hb
    obtain ⟨line, hline⟩ : ∃ line, stateLine (.ofInstant m.universal) (some b) = .ok line := by
      rw [stateLine, hreport]
      exact ⟨_, rfl⟩
    rw [hb]
    simp only [hline, ok_bind]
    apply Ends.answered hread _ hb hline
    rw [houtside, hb]
    intro heq
    cases heq
  · rw [he]
    simp only [hkind, if_true]
    apply Ends.unanswered hread _ he hkind
    rw [houtside, he]
    rintro heq
    cases heq
    cases hkind
  · rw [hout]
    exact .outside hread (houtside.mpr hout)

end

/-- How the program ends, where a calculator knows the events. -/
theorem ends_runWith {args : List String} {settings : List (Flag × String)} {calculator : Calculator}
    {location : Location} {zone : Zone} {text : String} (h : Sets args settings)
    (ha : Asks settings location zone) (htext : deciding? (values .instant settings) = some text)
    (hanswers : AnswersIn zone fun query => calculator location query zone) (now : Moment)
    (nows : List Moment) :
    Ends calculator location zone text (runWith calculator ("evaluate" :: args) now nows) := by
  obtain ⟨⟨latitude, longitude, hplaces, hlocation⟩, hzone⟩ := ha
  rw [run_of_deciding h hplaces htext, readMoment_eq]
  cases hread : Moment.read? text.toList with
  | none => exact .refused hread
  | some m =>
    by_cases hin : Moment.inCalendar m.universal = true
    · simp only [hin, if_true]
      exact ends_evaluateOnce hanswers hlocation hzone hread hin now
    · simp only [hin]
      exact .outside hread (.inl (Bool.not_eq_true _ ▸ hin))

/-- **How an evaluation at a moment ends.** One of the texts that are given for the moment decides. If it
cannot be read as a moment, the arguments are refused. If it can, there are boundaries, which are printed, or
events that could not be determined, which is printed, too; but where the moment lies outside the calendar of
universal time, or the evaluation leaves the calendar, the program ends with that failure. It is so for every
calculator whose answers are of the zone and in the calendar, and that has no answer for these two reasons only;
the sun's course is one of them. -/
theorem run_evaluate {args : List String} {settings : List (Flag × String)} {location : Location}
    {zone : Zone} (h : Sets args settings) (ha : Asks settings location zone)
    (hat : values .instant settings ≠ []) (now : Moment) (nows : List Moment) :
    ∃ text, deciding? (values .instant settings) = some text ∧
      (∀ calculator : Calculator, (AnswersIn zone fun query => calculator location query zone) →
        Ends calculator location zone text (runWith calculator ("evaluate" :: args) now nows)) ∧
      Ends Solar.calculator location zone text (run ("evaluate" :: args) now nows) := by
  obtain ⟨text, htext⟩ := exists_deciding hat
  refine ⟨text, htext, fun _ hanswers => ends_runWith h ha htext hanswers now nows, ?_⟩
  exact ends_runWith h ha htext (Solar.answersIn location (Zone.isKnown_of_resolve ha.isKnown)) now nows

/-- A location on the west coast. -/
def westCoast : Location := ⟨38.7, -9.1, none, none, provider, by decide +kernel, by decide +kernel⟩

/-- Arguments for it, one of them with its value attached. -/
def westCoastArguments : List String := ["--lat", "38.7", "--lon=-9.1", "--at", "2023-06-21T12:00:00Z"]

/-- What they set. -/
def westCoastSettings : List (Flag × String) :=
  [(.latitude, "38.7"), (.longitude, "-9.1"), (.instant, "2023-06-21T12:00:00Z")]

/-- A moment on the west coast, in the zone of the system. -/
theorem ends_on_west_coast : Sets westCoastArguments westCoastSettings ∧
    Asks westCoastSettings westCoast .system ∧ values .instant westCoastSettings ≠ [] ∧
      ∃ text, deciding? (values .instant westCoastSettings) = some text ∧
        Ends Solar.calculator westCoast .system text
          (run ("evaluate" :: westCoastArguments) (.ofInstant 0) []) := by
  have hsets : Sets westCoastArguments westCoastSettings :=
    ⟨[("--lat", .flag .latitude none), ("38.7", .value), ("--lon=-9.1", .flag .longitude (some "-9.1")),
      ("--at", .flag .instant none), ("2023-06-21T12:00:00Z", .value)], by decide +kernel,
      .apart rfl (.attached rfl (.apart rfl .nil))⟩
  have hasks : Asks westCoastSettings westCoast .system := by
    have hlatitude : Decimal.readGrouped "38.7" = some 38.7 := by decide +kernel
    have hlongitude : Decimal.readGrouped "-9.1" = some (-9.1) := by decide +kernel
    refine ⟨⟨38.7, -9.1, ⟨?_, ?_, ?_⟩, ?_⟩, rfl⟩
    · intro setting hsetting hflag
      simp only [westCoastSettings, List.mem_cons, List.not_mem_nil, or_false] at hsetting
      obtain rfl | rfl | rfl := hsetting
      · exact ⟨_, hlatitude⟩
      · exact ⟨_, hlongitude⟩
      · simp at hflag
    · simp [westCoastSettings, numbers, hlatitude]
    · simp [westCoastSettings, numbers, hlongitude]
    · show Location.make westCoast.latitude westCoast.longitude none none provider = .ok westCoast
      rw [Location.make, dif_pos westCoast.isLatitude, dif_pos westCoast.isLongitude]
      rfl
  obtain ⟨text, htext, -, hends⟩ := run_evaluate hsets hasks (by decide) (.ofInstant 0) []
  exact ⟨hsets, hasks, by decide, text, htext, hends⟩

/-- The arguments of an evaluation in universal time at a moment. -/
def argumentsAt (text : String) : List String :=
  ["evaluate", "--lat", "10", "--lon", "20", "--at", text, "--timezone", "UTC"]

/-- East of Greenwich the first hours of the calendar lie before it in universal time, and the program has no
end of its own for them. -/
theorem outside_in_first_hours :
    run (argumentsAt "0001-01-01T00:00:00+05:00") (.ofInstant 0) [] = .error .outOfRange ∧
      ¬ ∀ text, (∃ line, run (argumentsAt text) (.ofInstant 0) [] = .ok (.success line)) ∨
        (∃ output log, run (argumentsAt text) (.ofInstant 0) [] = .ok (.unanswered output log)) ∨
        ∃ cause, run (argumentsAt text) (.ofInstant 0) [] = .ok (.refused .evaluate cause) := by
  have hcall : Call.ofArguments (argumentsAt "0001-01-01T00:00:00+05:00") =
      .error (.failure .outOfRange) := by
    decide +kernel
  have hrun : run (argumentsAt "0001-01-01T00:00:00+05:00") (.ofInstant 0) [] = .error .outOfRange := by
    rw [run, runWith, hcall]
    rfl
  refine ⟨hrun, fun h => ?_⟩
  obtain ⟨_, hend⟩ | ⟨_, _, hend⟩ | ⟨_, hend⟩ := h "0001-01-01T00:00:00+05:00"
  all_goals
    rw [hrun] at hend
    cases hend

end Daylight.Cli
