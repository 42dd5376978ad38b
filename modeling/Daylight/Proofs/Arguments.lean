import Daylight.Cli.Command
import Daylight.Proofs.Instants
import Mathlib.Data.List.Infix

/-!
# The arguments of an evaluation

The arguments of the program are read twice: by the general form, up to the command, and behind it by the form
of the command. Both forms look at all arguments of the command, so one that two options of the general form
share would be refused before the command sees it. This does not happen to arguments that the form of the
evaluation can tell: two options of the general form have nothing in common behind their dashes, and what has
nothing behind its dashes is shared by the options of the evaluation, too.

Options are set in any order and as often as one likes, by any beginning of their names, with their values
attached or apart.

## What is proved

* `wordOf_cases`: what an argument looks like.
* `exists_wordsOf_general`: what the form of the evaluation can tell, the general form can tell, too.
* `consume_of_gives`: options with their values are taken one by one.
* `foldlM_take`: of several values of an option the last one counts, and of several moments the first one that
  is not taken is told.
* `ofArguments_evaluate`: the call that the arguments of an evaluation make.
-/

namespace Daylight.Cli

/-! ### Words -/

section

variable {form : Form} {arg : String} {args : List String} {words : List (String × Word)}

/-- What an argument looks like: a value, an option that is spelled out, or what it is unspelled. -/
theorem wordOf_cases (form : Form) (arg : String) :
    ((∀ c cs, arg.toList ≠ '-' :: c :: cs) ∧ wordOf form arg = .ok .value) ∨
    (∃ spelling flag attached, (spelling = arg ∨ spelling = (splitAttached arg).1) ∧
      form.spellings.lookup spelling = some flag ∧ wordOf form arg = .ok (.flag flag attached)) ∨
    (∃ c cs, arg.toList = '-' :: c :: cs) ∧ wordOf form arg = unspelled form arg := by
  rw [wordOf]
  split
  case h_1 hnil => exact .inl ⟨by simp [hnil], rfl⟩
  case h_2 hdash => exact .inl ⟨by simp [hdash], rfl⟩
  case h_3 rest hone harg =>
    obtain ⟨c, cs, rfl⟩ := List.exists_cons_of_ne_nil (l := rest) fun hnil => hone hnil
    split
    · exact .inr (.inl ⟨arg, _, _, .inl rfl, ‹_›, rfl⟩)
    · split
      case h_1 spelling attached hsplit =>
        split
        · exact .inr (.inl ⟨spelling, _, _, .inr (by rw [hsplit]), ‹_›, rfl⟩)
        · exact .inr (.inr ⟨⟨c, cs, harg⟩, rfl⟩)
      · exact .inr (.inr ⟨⟨c, cs, harg⟩, rfl⟩)
  case h_4 hother => exact .inl ⟨fun c cs harg => hother _ harg, rfl⟩

theorem mem_flags_of_mem_spellings {spelling : String} {flag : Flag} (h : (spelling, flag) ∈ form.spellings) :
    flag ∈ form.flags := by
  simp only [Form.spellings, List.mem_flatMap, List.mem_map] at h
  obtain ⟨flag, hflag, spelling, -, heq⟩ := h
  cases heq
  exact hflag

theorem mem_flags_of_lookup {flag : Flag} (h : form.spellings.lookup arg = some flag) :
    flag ∈ form.flags := by
  obtain ⟨front, behind, hsplit, -⟩ := List.lookup_eq_some_iff.mp h
  have hmem : (arg, flag) ∈ form.spellings := by
    rw [hsplit]
    exact List.mem_append_right _ List.mem_cons_self
  exact mem_flags_of_mem_spellings hmem

theorem mem_flags_of_mem_candidates {c : Candidate} (h : c ∈ candidates form arg) :
    c.flag ∈ form.flags := by
  rw [candidates] at h
  split at h
  · simp only [List.mem_map, List.mem_filter] at h
    obtain ⟨entry, ⟨hentry, -⟩, rfl⟩ := h
    exact mem_flags_of_mem_spellings hentry
  · simp only [List.mem_filterMap] at h
    obtain ⟨entry, hentry, hc⟩ := h
    split_ifs at hc
    · cases hc
      exact mem_flags_of_mem_spellings hentry
    · cases hc
      exact mem_flags_of_mem_spellings hentry

theorem mem_flags_of_unspelled {flag : Flag} {attached : Option String}
    (h : unspelled form arg = .ok (.flag flag attached)) : flag ∈ form.flags := by
  rw [unspelled] at h
  split at h
  case h_1 candidate hone =>
    cases h
    exact mem_flags_of_mem_candidates (hone ▸ List.mem_singleton_self _)
  · split at h <;> cases h
  · cases h

/-- An argument that looks like an option looks like one of the form's. -/
theorem mem_flags_of_wordOf {flag : Flag} {attached : Option String}
    (h : wordOf form arg = .ok (.flag flag attached)) : flag ∈ form.flags := by
  obtain ⟨-, hword⟩ | ⟨_, _, _, -, hlookup, hword⟩ | ⟨-, hword⟩ := wordOf_cases form arg
  · cases hword.symm.trans h
  · cases hword.symm.trans h
    exact mem_flags_of_lookup hlookup
  · exact mem_flags_of_unspelled (hword.symm.trans h)

/-- The words of arguments, one by one: behind the divider every argument is a value. -/
theorem wordsOf_cons_eq_ok_iff : wordsOf form (arg :: args) = .ok words ↔
    (arg = dividerText ∧ words = (arg, .divider) :: args.map fun value => (value, .value)) ∨
      (arg ≠ dividerText ∧ ∃ word rest, wordOf form arg = .ok word ∧ wordsOf form args = .ok rest ∧
        words = (arg, word) :: rest) := by
  rw [wordsOf]
  split
  case isTrue hdivider => simp [hdivider, eq_comm]
  case isFalse hword =>
    simp only [hword, bind_eq_ok_iff, false_and, ne_eq, not_false_eq_true, true_and, false_or, pure,
      Except.pure, Except.ok.injEq, eq_comm (a := words), exists_and_left]

/-- A form knows all options that arguments look like. -/
theorem mem_flags_of_wordsOf (h : wordsOf form args = .ok words) {flag : Flag}
    {attached : Option String} (hmem : (arg, .flag flag attached) ∈ words) : flag ∈ form.flags := by
  induction args generalizing words with
  | nil =>
    cases h
    cases hmem
  | cons first args ih =>
    obtain ⟨-, rfl⟩ | ⟨-, word, rest, hword, hrest, rfl⟩ := wordsOf_cons_eq_ok_iff.mp h
    · simp at hmem
    · obtain heq | hbehind := List.mem_cons.mp hmem
      · cases heq
        exact mem_flags_of_wordOf hword
      · exact ih hrest hbehind

/-- Words keep their arguments. -/
theorem map_fst_wordsOf (h : wordsOf form args = .ok words) : words.map (·.1) = args := by
  induction args generalizing words with
  | nil =>
    cases h
    rfl
  | cons first args ih =>
    obtain ⟨-, rfl⟩ | ⟨-, word, rest, -, hrest, rfl⟩ := wordsOf_cons_eq_ok_iff.mp h
    · simp [Function.comp_def]
    · simp [ih hrest]

theorem beginsWith_iff {whole start : String} :
    beginsWith whole start = true ↔ start.toList <+: whole.toList := by
  rw [beginsWith, List.isPrefixOf_iff_prefix]

theorem toList_splitAttached (arg : String) :
    (splitAttached arg).1.toList = arg.toList.takeWhile (· ≠ '=') := by
  rw [splitAttached]
  split
  case h_1 hnone =>
    have h := List.takeWhile_append_dropWhile (p := (· ≠ '=')) (l := arg.toList)
    rw [hnone, List.append_nil] at h
    exact h.symm
  case h_2 => exact String.toList_ofList

theorem length_candidates (h : beginsWith arg dividerText = true) :
    (candidates form arg).length =
      (form.spellings.filter fun entry => beginsWith entry.1 (splitAttached arg).1).length := by
  rw [candidates, if_pos h, List.length_map]

/-- An argument is refused where it begins several options. -/
theorem unspelled_eq_error_iff :
    (∃ e, unspelled form arg = .error e) ↔ 1 < (candidates form arg).length := by
  rw [unspelled]
  match candidates form arg with
  | [] =>
    dsimp only
    split <;> simp
  | [c] => simp
  | a :: b :: rest => simp

/-- What two options of the general form begin with, two dashes in front, is nothing else. -/
theorem start_eq_of_general {start : String} (hstart : dividerText.toList <+: start.toList)
    (h : 1 < (Form.general.spellings.filter fun entry => beginsWith entry.1 start).length) :
    start = dividerText := by
  have hall : ∀ cs ∈ Form.general.spellings.flatMap (fun entry => entry.1.toList.inits),
      dividerText.toList <+: cs →
      1 < (Form.general.spellings.filter fun entry => beginsWith entry.1 (String.ofList cs)).length →
        cs = dividerText.toList := by
    decide
  obtain ⟨entry, hentry⟩ := List.exists_mem_of_length_pos (Nat.zero_lt_of_lt h)
  obtain ⟨hmem, hbegins⟩ := List.mem_filter.mp hentry
  have hinit : start.toList ∈ Form.general.spellings.flatMap fun entry => entry.1.toList.inits :=
    List.mem_flatMap.mpr ⟨entry, hmem, (List.mem_inits _ _).mpr (beginsWith_iff.mp hbegins)⟩
  apply String.toList_inj.mp
  apply hall _ hinit hstart
  rwa [String.ofList_toList]

/-- Behind a single dash there is only one option of the general form. -/
theorem length_candidates_general {cs : List Char} {c : Char} (h : arg.toList = '-' :: c :: cs)
    (hc : c ≠ '-') : (candidates .general arg).length ≤ 1 := by
  have hdashes : ∀ {whole : List Char}, whole.take 2 = ['-', '-'] → ¬ ['-', c] <+: whole := by
    intro whole htwo hstart
    have hdash := List.prefix_iff_eq_take.mp hstart
    rw [List.length_cons, List.length_singleton, htwo] at hdash
    cases hdash
    exact hc rfl
  have hb : ¬ beginsWith arg dividerText = true := by
    intro hb
    rw [beginsWith_iff, h] at hb
    obtain ⟨behind, hbehind⟩ := hb
    cases hbehind
    exact hc rfl
  have htwo : ∀ entry ∈ Form.general.spellings.tail, entry.1.toList.take 2 = ['-', '-'] := by decide
  have hcons : Form.general.spellings = ("-h", .help) :: Form.general.spellings.tail := rfl
  rw [candidates, if_neg hb, hcons, List.filterMap_cons, List.filterMap_eq_nil_iff.mpr]
  · split <;> simp
  · intro entry hmem
    have hspelling := hdashes (htwo entry hmem)
    show (if entry.1 = _ then _ else if _ then _ else _) = none
    rw [if_neg, if_neg]
    · intro hp
      rw [beginsWith_iff, h] at hp
      exact hspelling (List.IsPrefix.trans ⟨cs, rfl⟩ hp)
    · intro heq
      apply hspelling
      rw [heq, String.toList_ofList, h]
      exact List.prefix_rfl

/-- Two dashes with nothing behind them, or with an equals sign, do not spell an option. -/
theorem wordOf_of_dashes {cs : List Char} (h : arg.toList = '-' :: '-' :: cs)
    (hstart : (splitAttached arg).1 = dividerText) : wordOf .evaluate arg = unspelled .evaluate arg := by
  have hspelled : ∀ spelling flag, Form.evaluate.spellings.lookup spelling = some flag →
      (splitAttached spelling).1 ≠ dividerText := by
    have hall : ∀ entry ∈ Form.evaluate.spellings, (splitAttached entry.1).1 ≠ dividerText := by decide
    intro spelling flag hlookup
    obtain ⟨front, behind, hsplit, -⟩ := List.lookup_eq_some_iff.mp hlookup
    exact hall (spelling, flag) (hsplit ▸ List.mem_append_right _ List.mem_cons_self)
  obtain ⟨hvalue, -⟩ | ⟨spelling, flag, _, hspelling, hlookup, -⟩ | ⟨-, hword⟩ := wordOf_cases .evaluate arg
  · exact absurd h (hvalue _ _)
  · obtain rfl | rfl := hspelling
    · exact absurd hstart (hspelled _ _ hlookup)
    · rw [hstart] at hlookup
      exact absurd (by decide) (hspelled _ _ hlookup)
  · exact hword

/-- What the form of the evaluation can tell of an argument unspelled, the general form can tell, too. -/
theorem exists_unspelled_general {cs : List Char} {c : Char} {word : Word}
    (harg : arg.toList = '-' :: c :: cs) (h : wordOf .evaluate arg = .ok word) :
    ∃ word', unspelled .general arg = .ok word' := by
  cases hgeneral : unspelled .general arg with
  | ok word' => exact ⟨word', rfl⟩
  | error e =>
    have hlength := unspelled_eq_error_iff.mp ⟨e, hgeneral⟩
    by_cases hc : c = '-'
    · subst hc
      have hdashes : beginsWith arg dividerText = true := by
        rw [beginsWith_iff, harg]
        exact ⟨cs, rfl⟩
      have hbehind : dividerText.toList <+: (splitAttached arg).1.toList := by
        rw [toList_splitAttached, harg]
        exact ⟨cs.takeWhile (· ≠ '='), rfl⟩
      rw [length_candidates hdashes] at hlength
      have hstart := start_eq_of_general hbehind hlength
      have hmany : 1 < (candidates .evaluate arg).length := by
        rw [length_candidates hdashes, hstart]
        decide
      obtain ⟨e, he⟩ := unspelled_eq_error_iff.mpr hmany
      rw [wordOf_of_dashes harg hstart, he] at h
      cases h
    · exact absurd hlength (Nat.not_lt.mpr (length_candidates_general harg hc))

theorem exists_wordOf_general {word : Word} (h : wordOf .evaluate arg = .ok word) :
    ∃ word', wordOf .general arg = .ok word' := by
  obtain ⟨-, hword⟩ | ⟨_, _, _, -, -, hword⟩ | ⟨⟨c, cs, harg⟩, hword⟩ := wordOf_cases .general arg
  · exact ⟨_, hword⟩
  · exact ⟨_, hword⟩
  · rw [hword]
    exact exists_unspelled_general harg h

/-- **What the form of the evaluation can tell, the general form can tell, too.** -/
theorem exists_wordsOf_general (h : wordsOf .evaluate args = .ok words) :
    ∃ words', wordsOf .general args = .ok words' := by
  induction args generalizing words with
  | nil => exact ⟨[], rfl⟩
  | cons arg args ih =>
    obtain ⟨hdivider, -⟩ | ⟨hdivider, word, rest, hword, hrest, -⟩ := wordsOf_cons_eq_ok_iff.mp h
    · exact ⟨_, wordsOf_cons_eq_ok_iff.mpr (.inl ⟨hdivider, rfl⟩)⟩
    · obtain ⟨word', hword'⟩ := exists_wordOf_general hword
      obtain ⟨rest', hrest'⟩ := ih hrest
      exact ⟨_, wordsOf_cons_eq_ok_iff.mpr (.inr ⟨hdivider, word', rest', hword', hrest', rfl⟩)⟩

end

/-! ### Options with their values -/

/-- Words that are options with their values, attached or apart. -/
inductive Gives : List (String × Word) → List (Flag × String) → Prop
  /-- No option. -/
  | nil : Gives [] []
  /-- An option with its value attached. -/
  | attached {arg value : String} {flag : Flag} {words : List (String × Word)}
      {settings : List (Flag × String)} : flag.takesValue = true → Gives words settings →
      Gives ((arg, .flag flag (some value)) :: words) ((flag, value) :: settings)
  /-- An option with its value behind it. -/
  | apart {arg value : String} {flag : Flag} {words : List (String × Word)}
      {settings : List (Flag × String)} : flag.takesValue = true → Gives words settings →
      Gives ((arg, .flag flag none) :: (value, .value) :: words) ((flag, value) :: settings)

/-- Arguments that set options of an evaluation, and nothing else. -/
def Sets (args : List String) (settings : List (Flag × String)) : Prop :=
  ∃ words, wordsOf .evaluate args = .ok words ∧ Gives words settings

/-- The values that an option is set to, in their order. -/
def values (flag : Flag) (settings : List (Flag × String)) : List String :=
  (settings.filter (·.1 = flag)).map (·.2)

section

variable {form : Form} {args : List String} {words : List (String × Word)} {settings : List (Flag × String)}

theorem Gives.exists_word (h : Gives words settings) {setting : Flag × String} (hmem : setting ∈ settings) :
    setting.1.takesValue = true ∧ ∃ arg attached, (arg, .flag setting.1 attached) ∈ words := by
  induction h with
  | nil => cases hmem
  | attached htakes hrest ih =>
    obtain rfl | hbehind := List.mem_cons.mp hmem
    · exact ⟨htakes, _, _, List.mem_cons_self⟩
    · obtain ⟨htakes, arg, attached, hword⟩ := ih hbehind
      exact ⟨htakes, arg, attached, List.mem_cons_of_mem _ hword⟩
  | apart htakes hrest ih =>
    obtain rfl | hbehind := List.mem_cons.mp hmem
    · exact ⟨htakes, _, _, List.mem_cons_self⟩
    · obtain ⟨htakes, arg, attached, hword⟩ := ih hbehind
      exact ⟨htakes, arg, attached, List.mem_cons_of_mem _ (List.mem_cons_of_mem _ hword)⟩

/-- The options that an evaluation can be given. -/
theorem Sets.mem_flags (h : Sets args settings) {setting : Flag × String} (hmem : setting ∈ settings) :
    setting.1 ∈ [.latitude, .longitude, .instant, .zone] := by
  obtain ⟨words, hwords, hgives⟩ := h
  obtain ⟨htakes, arg, attached, hword⟩ := hgives.exists_word hmem
  have hflag := mem_flags_of_wordsOf hwords hword
  have hall : ∀ flag ∈ Form.evaluate.flags, flag.takesValue = true →
      flag ∈ [.latitude, .longitude, .instant, .zone] := by decide
  exact hall _ hflag htakes

/-- **Options are taken one by one.** -/
theorem consume_of_gives (h : Gives words settings) (r : Reading) :
    consume form r words = (do
      let options ← settings.foldlM (fun o setting => o.take form setting.1 setting.2) r.options
      return { r with options := options }) := by
  induction h generalizing r with
  | nil => rfl
  | @attached _ value flag _ _ htakes _ ih =>
    rw [consume, if_pos htakes, List.foldlM_cons, bind_assoc]
    cases r.options.take form flag value with
    | error stop => rfl
    | ok options => exact ih _
  | @apart _ value flag _ _ htakes _ ih =>
    rw [consume, if_pos htakes, List.foldlM_cons, bind_assoc]
    cases r.options.take form flag value with
    | error stop => rfl
    | ok options => exact ih _

/-! ### The options of an evaluation -/

@[simp] theorem values_nil (flag : Flag) : values flag [] = [] := rfl

@[simp] theorem values_cons (flag : Flag) (setting : Flag × String) : values flag (setting :: settings) =
    if setting.1 = flag then setting.2 :: values flag settings else values flag settings := by
  rw [values, List.filter_cons]
  by_cases h : setting.1 = flag
  · simp [h, values]
  · simp [h, values]

theorem getLast?_cons_or {α : Type} (a : α) (l : List α) (o : Option α) :
    (a :: l).getLast?.or o = l.getLast?.or (some a) := by
  rw [List.getLast?_cons]
  cases l.getLast? <;> rfl

/-- The numbers that an option is set to. -/
def numbers (flag : Flag) (settings : List (Flag × String)) : List Float :=
  (values flag settings).filterMap Decimal.readGrouped

/-- All coordinates are numbers. -/
def AreNumbers (settings : List (Flag × String)) : Prop :=
  ∀ setting ∈ settings, setting.1 = .latitude ∨ setting.1 = .longitude →
    ∃ x, Decimal.readGrouped setting.2 = some x

/-- All coordinates are numbers, and these are the last ones. -/
structure Places (settings : List (Flag × String)) (latitude longitude : Float) : Prop where
  /-- All coordinates are numbers. -/
  areNumbers : AreNumbers settings
  /-- The last latitude. -/
  latitude : (numbers .latitude settings).getLast? = some latitude
  /-- The last longitude. -/
  longitude : (numbers .longitude settings).getLast? = some longitude

/-- The moments that an option is set to, if all values are moments. -/
def moments (settings : List (Flag × String)) : Except Stop (List Moment) :=
  (values .instant settings).mapM (Options.readMoment .evaluate .instant)

/-- **Of several values the last one counts**, and the first one that is not a moment is told. -/
theorem foldlM_take (hflags : ∀ setting ∈ settings, setting.1 ∈ [.latitude, .longitude, .instant, .zone])
    (hnumbers : AreNumbers settings) (o : Options) :
    settings.foldlM (fun o setting => o.take .evaluate setting.1 setting.2) o = (do
      let moments ← moments settings
      return ⟨o.logLevel, (numbers .latitude settings).getLast?.or o.latitude,
        (numbers .longitude settings).getLast?.or o.longitude, moments.getLast?.or o.instant,
        (values .zone settings).getLast?.or o.zone⟩) := by
  induction settings generalizing o with
  | nil => rfl
  | cons setting settings ih =>
    obtain ⟨flag, text⟩ := setting
    have hrest := ih (fun setting h => hflags setting (List.mem_cons_of_mem _ h))
      (fun setting h => hnumbers setting (List.mem_cons_of_mem _ h))
    have hflag := hflags (flag, text) List.mem_cons_self
    rw [List.foldlM_cons]
    cases flag with
    | help | version | logLevel => simp at hflag
    | latitude =>
      obtain ⟨x, hx⟩ : ∃ x, Decimal.readGrouped text = some x :=
        hnumbers (.latitude, text) List.mem_cons_self (.inl rfl)
      have htake : o.take .evaluate .latitude text = .ok { o with latitude := some x } := by
        simp [Options.take, Options.readNumber, hx, bind, Except.bind, pure, Except.pure]
      rw [htake, ok_bind, hrest]
      simp [moments, numbers, hx, getLast?_cons_or]
    | longitude =>
      obtain ⟨x, hx⟩ : ∃ x, Decimal.readGrouped text = some x :=
        hnumbers (.longitude, text) List.mem_cons_self (.inr rfl)
      have htake : o.take .evaluate .longitude text = .ok { o with longitude := some x } := by
        simp [Options.take, Options.readNumber, hx, bind, Except.bind, pure, Except.pure]
      rw [htake, ok_bind, hrest]
      simp [moments, numbers, hx, getLast?_cons_or]
    | instant =>
      rw [moments, values_cons, if_pos rfl, List.mapM_cons]
      cases hmoment : Options.readMoment .evaluate .instant text with
      | error stop =>
        have htake : o.take .evaluate .instant text = .error stop := by
          simp [Options.take, hmoment, bind, Except.bind]
        rw [htake, error_bind, error_bind, error_bind]
      | ok moment =>
        have htake : o.take .evaluate .instant text = .ok { o with instant := some moment } := by
          simp [Options.take, hmoment, bind, Except.bind, pure, Except.pure]
        rw [htake, ok_bind, ok_bind, hrest, ← moments, bind_assoc]
        simp [numbers, getLast?_cons_or]
    | zone =>
      rw [Options.take, ok_bind, hrest]
      simp [moments, numbers, getLast?_cons_or]

/-- How the form of the evaluation reads its arguments. -/
theorem readForm_evaluate {latitude longitude : Float} (h : Sets args settings)
    (hplaces : Places settings latitude longitude) :
    readForm .evaluate args = (do
      let moments ← moments settings
      return ⟨⟨Options.none.logLevel, some latitude, some longitude, moments.getLast?,
        (values .zone settings).getLast?⟩, [], []⟩) := by
  have htake := foldlM_take (fun _ hmem => h.mem_flags hmem) hplaces.areNumbers Options.none
  obtain ⟨words, hwords, hgives⟩ := h
  rw [readForm, hwords, Except.mapError, ok_bind, consume_of_gives hgives, htake, hplaces.latitude,
    hplaces.longitude, bind_assoc, bind_assoc]
  cases moments settings with
  | error stop => rfl
  | ok all => simp [ok_bind, pure, Except.pure, Options.none, Form.required, Options.has]

/-- The general form leaves all that follows the command to it. -/
theorem readForm_general (h : Sets args settings) :
    readForm .general ("evaluate" :: args) = .ok ⟨.none, [], "evaluate" :: args⟩ := by
  obtain ⟨words, hwords, -⟩ := h
  obtain ⟨words', hwords'⟩ := exists_wordsOf_general hwords
  have hall : wordsOf .general ("evaluate" :: args) = .ok (("evaluate", .value) :: words') :=
    wordsOf_cons_eq_ok_iff.mpr (.inr ⟨by decide, _, _, by decide, hwords', rfl⟩)
  rw [readForm, hall, Except.mapError, ok_bind, consume, if_pos (by rfl), map_fst_wordsOf hwords', ok_bind]
  rfl

/-- **The call that the arguments of an evaluation make.** -/
theorem ofArguments_evaluate {latitude longitude : Float} (h : Sets args settings)
    (hplaces : Places settings latitude longitude) :
    Call.ofArguments ("evaluate" :: args) = (do
      let moments ← moments settings
      return ⟨.evaluate latitude longitude moments.getLast? (values .zone settings).getLast?,
        Options.none.logLevel⟩) := by
  have hform : Form.ofWord? "evaluate" = some .evaluate := by decide
  rw [Call.ofArguments, readForm_general h, ok_bind]
  simp only [hform, readForm_evaluate h hplaces]
  cases moments settings with
  | error stop => rfl
  | ok all => rfl

end

end Daylight.Cli
