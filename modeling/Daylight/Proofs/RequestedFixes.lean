import Daylight.Proofs.NullIsland

/-!
# Fixes in requests

A coordinate is checked twice: the reader of a request lets no number pass that is out of its bounds, and a
location is made only of coordinates that are within them. To ask whether a number is outside, and to ask
whether it is inside, comes to the same for all doubles but one: what is not a number is neither. The reader
asks whether it is inside, too, so whatever it lets pass is a location.

That does not mean that every request is answered with a success or a list of objections. A body that cannot
be taken in at all is refused before anything is read from it. And an answer shows the values that it objects
to: where one of them holds a number that is not finite there is no answer, and the request fails.

## What is proved

* `le_iff_not_lt`: of two doubles the second is at most the first if and only if the first is not less than
  it and both are numbers. `isLatitude_iff`, `isLongitude_iff`: what follows for the bounds.
* `readFix_ne_error`: a body that is read is a location. `isShowable_of_objections`: what is objected to can
  be shown where all numbers are finite.
* `respond_fix`: the answers to a fix, and exactly when one is a success or a list of objections. Unless the
  fix is taken, the service is what it was before.
-/

namespace Daylight

open Float.Model (UnpackedFloat)

/-! ### The order of doubles -/

/-- The order of two doubles is that of the same two the other way round. -/
theorem compare_swap (u v : UnpackedFloat) : v.compare u = (u.compare v).map Ordering.swap := by
  have hfinite : ∀ (e f : Int) (m n : Nat),
      (compare f e).then (compare n m) = ((compare e f).then (compare m n)).swap := by
    intro e f m n
    rw [Ordering.swap_then, ← Std.OrientedCmp.eq_swap, ← Std.OrientedCmp.eq_swap]
  cases u with
  | notANumber => cases v <;> rfl
  | infinity s => cases v with
    | infinity t => cases s <;> cases t <;> rfl
    | zero t | finite t | notANumber => cases s <;> rfl
  | zero s => cases v with
    | infinity t | finite t => cases t <;> rfl
    | zero t | notANumber => rfl
  | finite s m e => cases v with
    | infinity t => cases s <;> cases t <;> rfl
    | zero t | notANumber => cases s <;> rfl
    | finite t n f => cases s with
      | positive => cases t with
        | positive => exact congrArg some (hfinite e f m n)
        | negative => rfl
      | negative => cases t with
        | positive => rfl
        | negative => exact congrArg (fun order => some order.swap) (hfinite e f m n)

/-- Two doubles have an order unless one of them is not a number. -/
theorem isNone_compare (u v : UnpackedFloat) : (u.compare v).isNone = (u.isNaN || v.isNaN) := by
  cases u with
  | notANumber => rfl
  | infinity s => cases v <;> cases s <;> rfl
  | zero s => cases v with
    | infinity t | finite t => cases t <;> rfl
    | zero t | notANumber => rfl
  | finite s m e => cases v with
    | infinity t | finite t => cases s <;> cases t <;> rfl
    | zero t | notANumber => cases s <;> rfl

/-- **At least is not less than, and both are numbers.** -/
theorem le_iff_not_lt {x y : Float} : y ≤ x ↔ ¬ x < y ∧ x.isNaN = false ∧ y.isNaN = false := by
  have hlt : x < y ↔ x.toModel.unpack.compare y.toModel.unpack = some .lt := by
    change decide (x.toModel.unpack.lt y.toModel.unpack = true) = true ↔ _
    simp [UnpackedFloat.lt]
  have hle : y ≤ x ↔ (y.toModel.unpack.compare x.toModel.unpack).any (·.isLE) = true := by
    change decide (y.toModel.unpack.le x.toModel.unpack = true) = true ↔ _
    rw [decide_eq_true_eq]
    rfl
  have hnone : x.toModel.unpack.compare y.toModel.unpack = none ↔ x.isNaN = true ∨ y.isNaN = true := by
    rw [← Option.isNone_iff_eq_none, isNone_compare, Bool.or_eq_true]
    rfl
  have hnumbers : (x.isNaN = false ∧ y.isNaN = false) ↔ x.toModel.unpack.compare y.toModel.unpack ≠ none := by
    rw [ne_eq, hnone, not_or, Bool.not_eq_true, Bool.not_eq_true]
  rw [hlt, hle, compare_swap x.toModel.unpack, hnumbers]
  cases x.toModel.unpack.compare y.toModel.unpack with
  | none => simp
  | some order => cases order <;> simp

/-- **A number between two bounds is one that is not outside of them.** -/
theorem between_iff {low high x : Float} (hlow : low.isNaN = false) (hhigh : high.isNaN = false) :
    low ≤ x ∧ x ≤ high ↔ x.isNaN = false ∧ ¬ x < low ∧ ¬ high < x := by
  rw [le_iff_not_lt, le_iff_not_lt]
  constructor
  · rintro ⟨⟨hlower, hnumber, -⟩, hhigher, -, -⟩
    exact ⟨hnumber, hlower, hhigher⟩
  · rintro ⟨hnumber, hlower, hhigher⟩
    exact ⟨⟨hlower, hnumber, hlow⟩, hhigher, hhigh, hnumber⟩

theorem isLatitude_iff {x : Float} : IsLatitude x ↔ x.isNaN = false ∧ ¬ x < -90.0 ∧ ¬ 90.0 < x :=
  between_iff (by decide +kernel) (by decide +kernel)

theorem isLongitude_iff {x : Float} : IsLongitude x ↔ x.isNaN = false ∧ ¬ x < -180.0 ∧ ¬ 180.0 < x :=
  between_iff (by decide +kernel) (by decide +kernel)

namespace Web

variable {fields : List (String × Json)} {name : String} {value : Json} {x : Float}

/-! ### What a reader lets pass -/

theorem readCoordinate_eq_ok_iff {size : Float} :
    readCoordinate size value = .ok x ↔ readNumber value = .ok x ∧ x ≤ size ∧ -size ≤ x := by
  rw [readCoordinate]
  cases readNumber value with
  | error complaint => simp [bind, Except.bind]
  | ok y =>
    simp only [bind, Except.bind, atMost, atLeast]
    grind

/-- A number is let pass by itself. -/
theorem readCoordinate_real_iff {size : Float} :
    readCoordinate size (.real x) = .ok x ↔ -size ≤ x ∧ x ≤ size := by
  rw [readCoordinate_eq_ok_iff]
  show Except.ok x = Except.ok x ∧ _ ↔ _
  simp only [true_and, and_comm]

theorem inField_eq_ok_iff {α : Type} {read : Json → Except Complaint α} {a : α} :
    inField name read value = .ok a ↔ read value = .ok a := by
  rw [inField]
  cases read value <;> simp [Except.mapError]

/-- What is read from a field that has to be there is read from its value. -/
theorem exists_of_required {α : Type} {read : Json → Except Complaint α} {a : α}
    (h : required fields name read = .ok a) : ∃ v, Json.lookUp name fields = some v ∧ read v = .ok a := by
  rw [required] at h
  cases hv : Json.lookUp name fields with
  | none => simp [hv] at h
  | some v =>
    rw [hv] at h
    exact ⟨v, rfl, inField_eq_ok_iff.mp h⟩

theorem bounds_of_required {size : Float} (h : required fields name (readCoordinate size) = .ok x) :
    -size ≤ x ∧ x ≤ size := by
  obtain ⟨v, -, hread⟩ := exists_of_required h
  obtain ⟨-, hhigh, hlow⟩ := readCoordinate_eq_ok_iff.mp hread
  exact ⟨hlow, hhigh⟩

/-- **Fields that are let pass make a location.** -/
theorem location_ne_error (fields : List (String × Json)) (e : Failure) :
    (GivenFix.ofFields fields).location ≠ .ok (.error e) := by
  intro h
  rw [GivenFix.location] at h
  split at h
  case h_1 latitude longitude accuracy timestamp provider hlatitude hlongitude _ _ _ =>
    have hin : IsLatitude latitude := bounds_of_required hlatitude
    have hat : IsLongitude longitude := bounds_of_required hlongitude
    rw [Location.make, dif_pos hin, dif_pos hat] at h
    cases h
  case h_2 => cases h

/-- **A body that is read is a location.** -/
theorem readFix_ne_error (body : Body) (e : Failure) : readFix body ≠ .ok (.error e) := by
  intro h
  rw [readFix] at h
  cases hread : body.read with
  | error refusal =>
    rw [hread] at h
    cases h
  | ok value =>
    rw [hread] at h
    cases value with
    | object fields =>
      change (GivenFix.ofFields fields).location.mapError Refusal.objections = .ok (.error e) at h
      cases hlocation : (GivenFix.ofFields fields).location with
      | error objections =>
        rw [hlocation] at h
        cases h
      | ok made =>
        rw [hlocation] at h
        cases h
        exact location_ne_error fields e hlocation
    | null | bool | integer | real | text | array => cases h

/-! ### What an answer can show -/

theorem lookUp_cons (name key : String) (first : Json) (fields : List (String × Json)) :
    Json.lookUp name ((key, first) :: fields) =
      (Json.lookUp name fields).or (if key = name then some first else none) := by
  simp only [Json.lookUp, List.reverse_cons, List.find?_append, Option.map_or]
  by_cases h : key = name <;> simp [h]

theorem any_eq_false_of_lookUp (h : Json.lookUp name fields = none) :
    (fields.any fun field => field.1 = name) = false := by
  simpa [Json.lookUp] using h

/-- The value of a field of an object whose numbers are finite. -/
theorem isFinite_of_lookUp (h : Json.fieldsAreFinite fields = true)
    (hvalue : Json.lookUp name fields = some value) : value.isFinite = true := by
  induction fields with
  | nil => cases hvalue
  | cons field fields ih =>
    obtain ⟨key, first⟩ := field
    rw [Json.fieldsAreFinite, Bool.and_eq_true] at h
    rw [lookUp_cons] at hvalue
    cases hlater : Json.lookUp name fields with
    | some later =>
      rw [hlater, Option.some_or] at hvalue
      exact ih h.2 (hlater.trans hvalue)
    | none =>
      rw [hlater, Option.none_or] at hvalue
      split at hvalue
      case isTrue hkey =>
        cases hvalue
        simpa [hkey, any_eq_false_of_lookUp hlater] using h.1
      case isFalse => cases hvalue

theorem isShowable_of_inField {α : Type} {read : Json → Except Complaint α} {o : Objection}
    (h : inField name read value = .error o) (hvalue : value.isFinite = true) : o.isShowable = true := by
  rw [inField] at h
  cases hread : read value with
  | error complaint =>
    rw [hread] at h
    cases h
    exact hvalue
  | ok a =>
    rw [hread] at h
    cases h

theorem isShowable_of_required {α : Type} {read : Json → Except Complaint α} {o : Objection}
    (h : Json.fieldsAreFinite fields = true) (ho : required fields name read = .error o) :
    o.isShowable = true := by
  rw [required] at ho
  cases hvalue : Json.lookUp name fields with
  | none =>
    rw [hvalue] at ho
    cases ho
    simpa only [Json.isFinite] using h
  | some value =>
    rw [hvalue] at ho
    exact isShowable_of_inField ho (isFinite_of_lookUp h hvalue)

theorem isShowable_of_optional {α : Type} {absent : α} {read : Json → Except Complaint α} {o : Objection}
    (h : Json.fieldsAreFinite fields = true) (ho : optional fields name absent read = .error o) :
    o.isShowable = true := by
  rw [optional] at ho
  cases hvalue : Json.lookUp name fields with
  | none => simp [hvalue] at ho
  | some value =>
    rw [hvalue] at ho
    exact isShowable_of_inField ho (isFinite_of_lookUp h hvalue)

theorem mem_objectionOf_iff {α : Type} {r : Except Objection α} {o : Objection} :
    o ∈ objectionOf r ↔ r = .error o := by
  cases r <;> simp [objectionOf, eq_comm]

/-- **All objections to an object whose numbers are finite can be shown.** -/
theorem isShowable_of_objections (h : Json.fieldsAreFinite fields = true) :
    ∀ o ∈ (GivenFix.ofFields fields).objections, o.isShowable = true := by
  intro o ho
  simp only [GivenFix.objections, List.mem_append, mem_objectionOf_iff] at ho
  obtain (((hlatitude | hlongitude) | haccuracy) | htimestamp) | hprovider := ho
  · exact isShowable_of_required h hlatitude
  · exact isShowable_of_required h hlongitude
  · exact isShowable_of_optional h haccuracy
  · exact isShowable_of_optional h htimestamp
  · exact isShowable_of_optional h hprovider

theorem objections_of_location {list : List Objection}
    (h : (GivenFix.ofFields fields).location = .error list) :
    list = (GivenFix.ofFields fields).objections := by
  rw [GivenFix.location] at h
  split at h
  case h_1 => cases h
  case h_2 =>
    cases h
    rfl

/-- **A body that can be taken in is a location, or objected to.** The objections can be shown unless a
number in the body is not finite. -/
theorem readFix_of_read {body : Body} (h : body.read = .ok value) :
    (∃ fix, readFix body = .ok (.ok fix)) ∨
      ∃ list, readFix body = .error (.objections list) ∧
        (value.isFinite = true → ∀ o ∈ list, o.isShowable = true) := by
  rw [readFix, h]
  cases value with
  | object fields =>
    show (∃ fix, (GivenFix.ofFields fields).location.mapError Refusal.objections = .ok (.ok fix)) ∨
      ∃ list, (GivenFix.ofFields fields).location.mapError Refusal.objections = .error (.objections list) ∧ _
    cases hlocation : (GivenFix.ofFields fields).location with
    | error list =>
      refine .inr ⟨list, rfl, fun hfinite => ?_⟩
      rw [objections_of_location hlocation]
      apply isShowable_of_objections
      simpa only [Json.isFinite] using hfinite
    | ok made =>
      cases made with
      | error e => exact absurd hlocation (location_ne_error fields e)
      | ok fix => exact .inl ⟨fix, rfl⟩
  | null | bool | integer | real | text | array =>
    refine .inr ⟨_, rfl, fun hfinite o ho => ?_⟩
    rw [List.mem_singleton] at ho
    rw [ho]
    exact hfinite

/-! ### The answers to a fix -/

theorem respond_location (s : Service) (body : Body) :
    respond s ⟨"POST", "/location", body⟩ = takeFix s body := by
  have hroute : Route.ofPath? (barePath (Target.path "/location")) = some .location := by decide
  have hmethod : "POST".toUpper = Route.location.method := by decide +kernel
  simp only [respond, hroute, hmethod, if_pos]
  rfl

theorem takeFix_cases (s : Service) (body : Body) :
    (∃ fix, readFix body = .ok (.ok fix) ∧
        takeFix s body = (s.reportLocation fix, .ok (.queued .locationChanged))) ∨
      (∃ list, readFix body = .error (.objections list) ∧
        takeFix s body = (s, if list.all (·.isShowable) then .ok (.invalid list) else .error .notFinite)) ∨
      (readFix body = .error .unreadable ∧ takeFix s body = (s, .ok .unreadable)) := by
  rw [takeFix]
  cases hfix : readFix body with
  | error refusal =>
    cases refusal with
    | unreadable => exact .inr (.inr ⟨rfl, rfl⟩)
    | objections list => exact .inr (.inl ⟨list, rfl, rfl⟩)
  | ok made =>
    cases made with
    | error e => exact absurd hfix (readFix_ne_error body e)
    | ok fix => exact .inl ⟨fix, rfl, rfl⟩

/-- An answer that is a success or a list of objections. -/
def IsJudgement (answer : Except Failure Response) : Prop :=
  ∃ response, answer = .ok response ∧ (response.status = 200 ∨ response.status = 422)

/-- The body can be taken in, and all objections to it can be shown. -/
def IsJudgeable (body : Body) : Prop :=
  readFix body ≠ .error .unreadable ∧
    ∀ list, readFix body = .error (.objections list) → ∀ o ∈ list, o.isShowable = true

theorem isJudgement_takeFix_iff (s : Service) (body : Body) :
    IsJudgement (takeFix s body).2 ↔ IsJudgeable body := by
  obtain ⟨fix, hfix, htake⟩ | ⟨list, hlist, htake⟩ | ⟨hnone, htake⟩ := takeFix_cases s body
  · simp [IsJudgement, IsJudgeable, hfix, htake, Response.status]
  · by_cases hall : list.all (·.isShowable) = true
    · have hshowable := List.all_eq_true.mp hall
      simpa [IsJudgement, IsJudgeable, hlist, htake, hall, Response.status] using hshowable
    · have hhidden : ¬ ∀ o ∈ list, o.isShowable = true := fun h => hall (List.all_eq_true.mpr h)
      simpa [IsJudgement, IsJudgeable, hlist, htake, hall] using hhidden
  · simp [IsJudgement, IsJudgeable, hnone, htake, Response.status]

/-- A body whose numbers are finite can be judged. -/
theorem isJudgeable_of_isFinite {body : Body} (h : body.read = .ok value) (hfinite : value.isFinite = true) :
    IsJudgeable body := by
  obtain ⟨fix, hfix⟩ | ⟨list, hlist, hshowable⟩ := readFix_of_read h
  · simp [IsJudgeable, hfix]
  · refine ⟨by simp [hlist], fun other hother => ?_⟩
    rw [hlist] at hother
    cases hother
    exact hshowable hfinite

/-- **The answers to a fix.** The reader lets a number pass if and only if a location can have it, that is
if it is a number that is not outside the bounds. A fix that is let pass is taken. Else the service is what
it was, and the objections are listed, if all of them can be shown; if not, there is no answer. A body that
cannot be taken in is refused. So an answer is a success or a list of objections if and only if the body can
be taken in and all objections to it can be shown, as is the case for every JSON value whose numbers are
finite. -/
theorem respond_fix (s : Service) (body : Body) :
    (∀ x : Float, (readCoordinate 90.0 (.real x) = .ok x ↔ IsLatitude x) ∧
      (IsLatitude x ↔ x.isNaN = false ∧ ¬ x < -90.0 ∧ ¬ 90.0 < x) ∧
      (readCoordinate 180.0 (.real x) = .ok x ↔ IsLongitude x) ∧
      (IsLongitude x ↔ x.isNaN = false ∧ ¬ x < -180.0 ∧ ¬ 180.0 < x)) ∧
    ((∃ fix, readFix body = .ok (.ok fix) ∧ respond s ⟨"POST", "/location", body⟩ =
        (s.reportLocation fix, .ok (.queued .locationChanged))) ∨
      (∃ list, readFix body = .error (.objections list) ∧ respond s ⟨"POST", "/location", body⟩ =
        (s, if list.all (·.isShowable) then .ok (.invalid list) else .error .notFinite)) ∨
      (readFix body = .error .unreadable ∧ respond s ⟨"POST", "/location", body⟩ = (s, .ok .unreadable))) ∧
    (IsJudgement (respond s ⟨"POST", "/location", body⟩).2 ↔ IsJudgeable body) ∧
    (∀ value, body.read = .ok value → value.isFinite = true → IsJudgeable body) := by
  rw [respond_location]
  refine ⟨fun x => ?_, takeFix_cases s body, isJudgement_takeFix_iff s body, fun _ => isJudgeable_of_isFinite⟩
  exact ⟨readCoordinate_real_iff, isLatitude_iff, readCoordinate_real_iff, isLongitude_iff⟩

/-- A latitude that is not a number. -/
def strayBody : Body := .raw "\x7b\"latitude\": NaN, \"longitude\": 2\x7d"

/-- What is not a number is neither below its lower bound nor above its upper one, and it is no latitude. A
request with it is neither answered with a success nor with a list of objections: there is no answer. -/
theorem stray_is_not_answered :
    (¬ (0.0 / 0.0 : Float) < -90.0 ∧ ¬ (90.0 : Float) < 0.0 / 0.0 ∧ ¬ IsLatitude (0.0 / 0.0)) ∧
    (respond fedService ⟨"POST", "/location", strayBody⟩).2 = .error .notFinite ∧
    ¬ ∀ body : Body, IsJudgement (respond fedService ⟨"POST", "/location", body⟩).2 := by
  have hstray : (respond fedService ⟨"POST", "/location", strayBody⟩).2 = .error .notFinite := by
    rw [respond_location]
    decide +kernel
  refine ⟨by decide +kernel, hstray, fun h => ?_⟩
  obtain ⟨response, hresponse, -⟩ := h strayBody
  rw [hstray] at hresponse
  cases hresponse

end Web

end Daylight
