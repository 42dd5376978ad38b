import Daylight.Proofs.Instants
import Daylight.Setup

/-!
# Environments

A configuration is checked when it is read: the mode has to be one of the two, what is given for a coordinate
has to be a number, a static location needs both of them, and the zone has to be known. What is refused is
refused as an unacceptable value, and once a configuration is read its zone is there.

Its source of fixes need not be. The bounds of the coordinates are left to the location that is made of them
when the service is set up. An environment that gives a static location out of its bounds is read without
objection, and fails then.

## What is proved

* `ofEnvironment_eq_ok_iff`: which environments are read, and as what.
* `refusesValues_ofEnvironment`: the others are refused for an unacceptable value.
* `source_cases`: the source of what is read can be made unless a static location is out of bounds.
* `ofEnvironment_builds`: an environment is refused, or what it gives can be built but for the bounds of a
  static location, where it fails with one of two failures.
-/

namespace Daylight.Config

variable {env : Environment} {c : Config} {e : Failure} {now : Moment}

/-! ### What is read -/

/-- What an environment gives. -/
structure IsGiven (env : Environment) (c : Config) : Prop where
  /-- The mode is named. -/
  mode : readMode (env.lookup "TWILIGHT_LOCATION_MODE") = .ok c.mode
  /-- The latitude is a number, or not given. -/
  latitude : readNumber env "TWILIGHT_LATITUDE" = .ok c.latitude
  /-- The longitude is a number, or not given. -/
  longitude : readNumber env "TWILIGHT_LONGITUDE" = .ok c.longitude
  /-- The zone has this name. -/
  timezone : readText env "TWILIGHT_TIMEZONE" = c.timezone
  /-- The settings have this path. -/
  settingsPath : readText env "TWILIGHT_SETTINGS_PATH" = c.settingsPath
  /-- A static location has both coordinates. -/
  isComplete : c.mode = staticMode → c.latitude ≠ none ∧ c.longitude ≠ none
  /-- There is such a zone. -/
  isKnown : ∃ zone, Zone.resolve c.timezone = .ok zone

theorem readMode_cases (value : Option String) :
    (∃ mode, readMode value = .ok mode ∧ (mode = staticMode ∨ mode = pushMode)) ∨
      readMode value = .error .modeVariable := by
  rw [readMode]
  generalize String.ofList (List.map Char.toLower (Text.trimWhere Text.isBlank _)) = word
  split_ifs with hmode
  · exact .inl ⟨word, rfl, hmode⟩
  · exact .inr rfl

theorem mode_of_readMode {value : Option String} {mode : String} (h : readMode value = .ok mode) :
    mode = staticMode ∨ mode = pushMode := by
  obtain ⟨word, hword, hmode⟩ | herror := readMode_cases value
  · rw [hword] at h
    cases h
    exact hmode
  · rw [herror] at h
    cases h

theorem check_eq_ok_iff {d : Config} : check c = .ok d ↔ c = d ∧ (c.mode = staticMode ∨ c.mode = pushMode) ∧
    (c.mode = staticMode → c.latitude ≠ none ∧ c.longitude ≠ none) ∧
    ∃ zone, Zone.resolve c.timezone = .ok zone := by
  simp only [check, Option.isNone_iff_eq_none]
  split_ifs with hmode hcomplete
  · simp only [false_iff]
    rintro ⟨-, hnamed, -⟩
    exact hnamed.elim hmode.1 hmode.2
  · simp only [false_iff]
    rintro ⟨-, -, hgiven, -⟩
    obtain ⟨hlatitude, hlongitude⟩ := hgiven hcomplete.1
    exact hcomplete.2.elim hlatitude hlongitude
  · rw [not_and_or, not_not, not_not] at hmode
    have hgiven : c.mode = staticMode → c.latitude ≠ none ∧ c.longitude ≠ none := by
      intro hstatic
      exact not_or.mp fun hnone => hcomplete ⟨hstatic, hnone⟩
    simp only [bind_eq_ok_iff]
    constructor
    · rintro ⟨zone, hzone, hd⟩
      cases hd
      exact ⟨rfl, hmode, hgiven, zone, hzone⟩
    · rintro ⟨rfl, -, -, zone, hzone⟩
      exact ⟨zone, hzone, rfl⟩

/-- **What an environment is read as.** -/
theorem ofEnvironment_eq_ok_iff : ofEnvironment env = .ok c ↔ IsGiven env c := by
  simp only [ofEnvironment, bind_eq_ok_iff, check_eq_ok_iff]
  constructor
  · rintro ⟨mode, hmode, latitude, hlatitude, longitude, hlongitude, rfl, -, hcomplete, hknown⟩
    exact ⟨hmode, hlatitude, hlongitude, rfl, rfl, hcomplete, hknown⟩
  · intro h
    refine ⟨_, h.mode, _, h.latitude, _, h.longitude, ?_, mode_of_readMode h.mode, h.isComplete, ?_⟩
    · rw [h.timezone, h.settingsPath]
    · rw [h.timezone]
      exact h.isKnown

/-! ### What is refused -/

/-- A value is refused only as an unacceptable one. -/
def RefusesValues {α : Type} (r : Except Failure α) : Prop := ∀ e, r = .error e → e.kind = .value

theorem RefusesValues.bind {α β : Type} {r : Except Failure α} {f : α → Except Failure β}
    (hr : RefusesValues r) (hf : ∀ a, RefusesValues (f a)) : RefusesValues (r >>= f) := by
  intro e he
  cases r with
  | error failure =>
    cases he
    exact hr _ rfl
  | ok a => exact hf a e he

theorem refusesValues_readMode (value : Option String) : RefusesValues (readMode value) := by
  intro e he
  obtain ⟨word, hword, -⟩ | herror := readMode_cases value
  · rw [hword] at he
    cases he
  · rw [herror] at he
    cases he
    rfl

theorem refusesValues_readNumber (env : Environment) (name : String) :
    RefusesValues (readNumber env name) := by
  intro e he
  simp only [readNumber] at he
  split at he
  · cases he
  · split at he
    · cases he
    · split at he <;> cases he
      rfl

theorem refusesValues_resolve (name : Option String) : RefusesValues (Zone.resolve name) := by
  intro e he
  simp only [Zone.resolve] at he
  split at he
  · cases he
  · split at he
    · cases he
    · split at he <;> cases he
      rfl

theorem refusesValues_check (c : Config) : RefusesValues (check c) := by
  rw [check]
  split_ifs
  · rintro e ⟨⟩
    rfl
  · rintro e ⟨⟩
    rfl
  · exact (refusesValues_resolve _).bind fun _ _ he => nomatch he

/-- **An environment that is not read is refused for a value.** -/
theorem refusesValues_ofEnvironment (env : Environment) : RefusesValues (ofEnvironment env) :=
  (refusesValues_readMode _).bind fun _ => (refusesValues_readNumber _ _).bind fun _ =>
    (refusesValues_readNumber _ _).bind fun _ => refusesValues_check _

/-! ### What is built -/

/-- If the location is static, it lies within its bounds. -/
def IsPlaced (c : Config) : Prop :=
  c.mode = staticMode → ∃ latitude longitude, c.latitude = some latitude ∧ c.longitude = some longitude ∧
    IsLatitude latitude ∧ IsLongitude longitude

theorem make_cases (latitude longitude : Float) (accuracy : Option Float) (timestamp : Option Moment)
    (provider : String) :
    (IsLatitude latitude ∧ IsLongitude longitude ∧
      ∃ fix, Location.make latitude longitude accuracy timestamp provider = .ok fix) ∨
    (¬ IsLatitude latitude ∧
      Location.make latitude longitude accuracy timestamp provider = .error .latitude) ∨
    (¬ IsLongitude longitude ∧
      Location.make latitude longitude accuracy timestamp provider = .error .longitude) := by
  rw [Location.make]
  split_ifs with hlatitude hlongitude
  · exact .inl ⟨hlatitude, hlongitude, _, rfl⟩
  · exact .inr (.inr ⟨hlongitude, rfl⟩)
  · exact .inr (.inl ⟨hlatitude, rfl⟩)

/-- **The source of a configuration that was read** can be made, or its static location is out of bounds. -/
theorem source_cases (h : IsGiven env c) (now : Moment) :
    (c.IsPlaced ∧ ∃ source, c.source now = .ok source) ∨
      (¬ c.IsPlaced ∧ ∃ e, (e = .latitude ∨ e = .longitude) ∧ c.source now = .error e) := by
  by_cases hmode : c.mode = staticMode
  · obtain ⟨hlatitude, hlongitude⟩ := h.isComplete hmode
    obtain ⟨latitude, hlatitude⟩ := Option.ne_none_iff_exists'.mp hlatitude
    obtain ⟨longitude, hlongitude⟩ := Option.ne_none_iff_exists'.mp hlongitude
    have hplaced : c.IsPlaced ↔ IsLatitude latitude ∧ IsLongitude longitude := by
      simp [IsPlaced, hmode, hlatitude, hlongitude]
    have hsource : c.source now =
        .fixed <$> Location.make latitude longitude (some 0.0) (some now) Source.fixedProvider := by
      rw [source, if_pos hmode, hlatitude, hlongitude]
      rfl
    rw [hplaced, hsource]
    obtain ⟨hin, hat, fix, hfix⟩ | ⟨hout, herror⟩ | ⟨hout, herror⟩ :=
      make_cases latitude longitude (some 0.0) (some now) Source.fixedProvider
    · exact .inl ⟨⟨hin, hat⟩, .fixed fix, by rw [hfix]; rfl⟩
    · exact .inr ⟨fun hplace => hout hplace.1, .latitude, .inl rfl, by rw [herror]; rfl⟩
    · exact .inr ⟨fun hplace => hout hplace.2, .longitude, .inr rfl, by rw [herror]; rfl⟩
  · exact .inl ⟨fun hstatic => absurd hstatic hmode, .feed .empty, by rw [source, if_neg hmode]⟩

/-- The service of a configuration fails where its source does. -/
theorem ofConfig_of_source_error (h : c.source now = .error e) : Service.ofConfig c now = .error e := by
  rw [Service.ofConfig, tracker, h]
  rfl

/-- Where source and mirror can be made there is a service, which has the zone of the configuration. -/
theorem exists_ofConfig {source : Source} {mirror : Mirror} (hsource : c.source now = .ok source)
    (hmirror : c.mirror = .ok mirror) :
    ∃ s, Service.ofConfig c now = .ok s ∧ s.owner.clock.zone = Zone.resolve c.timezone := by
  rw [Service.ofConfig, tracker, hsource, hmirror]
  exact ⟨_, rfl, rfl⟩

/-- **What is read can be built, up to the bounds of a static location.** An environment is refused for an
unacceptable value, or it is read as what it gives, and there is its zone. Then the source of fixes can be
made if and only if a static location lies within its bounds, and if so there is a service in that zone
wherever its settings can be opened. If not, the source fails with one of the coordinates, and so does the
service. -/
theorem ofEnvironment_builds (env : Environment) (now : Moment) :
    (∃ e, ofEnvironment env = .error e ∧ e.kind = .value) ∨
    ∃ c zone, ofEnvironment env = .ok c ∧ IsGiven env c ∧ Zone.resolve c.timezone = .ok zone ∧
      ((∃ source, c.source now = .ok source) ↔ c.IsPlaced) ∧
      (c.IsPlaced → ∀ mirror, c.mirror = .ok mirror →
        ∃ s, Service.ofConfig c now = .ok s ∧ s.owner.clock.zone = .ok zone) ∧
      (¬ c.IsPlaced → ∃ e, (e = .latitude ∨ e = .longitude) ∧ c.source now = .error e ∧
        Service.ofConfig c now = .error e) := by
  cases henv : ofEnvironment env with
  | error e => exact .inl ⟨e, rfl, refusesValues_ofEnvironment env e henv⟩
  | ok c =>
    have hgiven := ofEnvironment_eq_ok_iff.mp henv
    obtain ⟨zone, hzone⟩ := hgiven.isKnown
    refine .inr ⟨c, zone, rfl, hgiven, hzone, ?_⟩
    obtain ⟨hplaced, source, hsource⟩ | ⟨hplaced, e, he, hsource⟩ := source_cases hgiven now
    · refine ⟨⟨fun _ => hplaced, fun _ => ⟨source, hsource⟩⟩, fun _ mirror hmirror => ?_, absurd hplaced⟩
      rw [← hzone]
      exact exists_ofConfig hsource hmirror
    · refine ⟨⟨?_, fun h => absurd h hplaced⟩, fun h => absurd h hplaced, fun _ => ?_⟩
      · rintro ⟨source, hmade⟩
        rw [hsource] at hmade
        cases hmade
      · exact ⟨e, he, hsource, ofConfig_of_source_error hsource⟩

/-- A static location beyond the pole. -/
def beyondThePole : Environment :=
  [("TWILIGHT_LOCATION_MODE", "static"), ("TWILIGHT_LATITUDE", "95"), ("TWILIGHT_LONGITUDE", "0")]

/-- A location beyond the pole is read without objection, and fails when the service is set up. -/
theorem reads_beyond_the_pole : (∃ c, ofEnvironment beyondThePole = .ok c ∧
      Service.ofConfig c (.ofInstant 0) = .error .latitude) ∧
    ¬ ∀ (env : Environment) (now : Moment), (∃ e, ofEnvironment env = .error e ∧ e.kind = .value) ∨
      ∃ c source zone, ofEnvironment env = .ok c ∧ c.source now = .ok source ∧
        Zone.resolve c.timezone = .ok zone := by
  have hread : ofEnvironment beyondThePole = .ok ⟨staticMode, some 95.0, some 0.0, none, none⟩ := by
    decide +kernel
  have hsource : (⟨staticMode, some 95.0, some 0.0, none, none⟩ : Config).source (.ofInstant 0) =
      .error .latitude := by
    show Source.fixed <$> Location.make 95.0 0.0 _ _ _ = _
    rw [Location.make, dif_neg (by decide +kernel)]
    rfl
  refine ⟨⟨_, hread, ofConfig_of_source_error hsource⟩, fun h => ?_⟩
  obtain ⟨e, herror, -⟩ | ⟨c, source, zone, hc, hmade, -⟩ := h beyondThePole (.ofInstant 0)
  · rw [hread] at herror
    cases herror
  · rw [hread] at hc
    cases hc
    rw [hsource] at hmade
    cases hmade

end Daylight.Config
