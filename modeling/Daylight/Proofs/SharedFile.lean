import Daylight.Proofs.MirroredFlag
import Daylight.Scenario.Mirroring

/-!
# Mirrors of one file

Any number of mirrors keep the flag in one database file. They are opened, used and closed in any order, and
each of them creates the table when it is opened, unless there is one. What is written goes into a draft first,
which nobody else sees; it is committed before anything else is done. So there is no draft between two uses, and the mirrors
are no more than handles of one mirror in memory, some of which are closed (`Handles`).

What the file holds is a function of the handles (`Handles.store`), and to use a mirror of the file is to use
the handle. Only open ones matter: through a closed one nothing is read and nothing is written. It can be closed
once more, though, which does nothing.

## What is proved

* `others_put`, `put_put`: a value that is put into a table is the only one of its name, and the rows of other
  names stay what they are.
* `rows_of_isAtRest`, `store_of_isAtRest`: while no connection has a draft, one that can be used reads what was
  committed, and what it writes is committed.
* `performOnTables_store`: the step lemma, for uses of mirrors and of handles. `used_store` and `play_store`: the
  run lemmas.
* `memory_run`: the mirror in memory is as after the flags that were set through open handles.
* `areOne_of_used`: what this means for the answers, for open mirrors, for closed ones, for one that is opened
  later, and for the rows of other names.
* `closes_again`: what is done with a closed mirror need not fail.
-/

namespace Daylight

/-! ### Tables -/

namespace SettingsTable

/-- The rows of other names. -/
def others (t : SettingsTable) (name : String) : SettingsTable := t.filter fun row => row.1 ≠ name

theorem others_put (t : SettingsTable) (name value : String) :
    (t.put name value).others name = t.others name := by
  simp [others, put]

theorem put_put (t : SettingsTable) (name value value' : String) :
    (t.put name value).put name value' = t.put name value' :=
  congrArg (· ++ [(name, value')]) (others_put t name value)

/-- A table that has no value under a name consists of rows of other names. -/
theorem others_of_value? {t : SettingsTable} {name : String} (h : t.value? name = none) :
    t.others name = t := by
  rw [others, List.filter_eq_self]
  intro row hrow
  have hne : (name != row.1) = true := List.lookup_eq_none_iff.mp h row hrow
  exact decide_eq_true (bne_iff_ne.mp hne).symm

theorem flag?_of_value? {t : SettingsTable} (h : t.value? flagName = none) : t.flag? = none := by
  rw [flag?, h, Option.map_none]

end SettingsTable

/-! ### Between two uses -/

namespace SettingsStore

variable {s : SettingsStore} {number : Nat} {c : Connection} {table : SettingsTable}

/-- No connection has a draft. -/
def IsAtRest (s : SettingsStore) : Prop := ∀ c ∈ s.connections, c.draft = none

theorem usable_eq_ok_iff :
    s.usable number = .ok c ↔ s.connections[number]? = some c ∧ c.isOpen = true := by
  unfold usable
  cases s.connections[number]? with
  | none => simp
  | some c' =>
    by_cases hopen : c'.isOpen = true
    · simp only [hopen, if_true, Except.ok.injEq, Option.some.injEq]
      exact ⟨fun h => ⟨h, h ▸ hopen⟩, And.left⟩
    · simp only [if_neg hopen, reduceCtorEq, Option.some.injEq, false_iff, not_and]
      exact fun h => h ▸ hopen

theorem isHeld_of_isAtRest (h : s.IsAtRest) (number database : Nat) :
    s.isHeld number database = false := by
  rw [isHeld, List.any_eq_false]
  intro c hc
  simp [h c (List.mem_of_mem_eraseIdx hc)]

theorem seen_of_isAtRest (h : s.IsAtRest) (hc : s.usable number = .ok c)
    (htable : s.committed c.database = some table) : s.seen c = .ok table := by
  have hdraft : c.draft = none := h c (List.mem_of_getElem? (usable_eq_ok_iff.mp hc).1)
  rw [seen, hdraft, Option.none_or, htable]

/-- A connection that can be used reads what was committed. -/
theorem rows_of_isAtRest (h : s.IsAtRest) (hc : s.usable number = .ok c)
    (htable : s.committed c.database = some table) : s.rows number = .ok table := by
  rw [rows, hc]
  exact seen_of_isAtRest h hc htable

theorem usable_withDraft (hc : s.usable number = .ok c) (draft : Option SettingsTable) :
    (s.withDraft number draft).usable number = .ok { c with draft } := by
  obtain ⟨hget, hopen⟩ := usable_eq_ok_iff.mp hc
  refine usable_eq_ok_iff.mpr ⟨?_, hopen⟩
  rw [withDraft, List.getElem?_modify, hget]
  exact congrArg some (if_pos rfl)

/-- Without a draft a connection is what it was. -/
theorem withDraft_none (h : s.IsAtRest) (number : Nat) (draft : Option SettingsTable) :
    (s.withDraft number draft).withDraft number none = s := by
  obtain ⟨tables, connections⟩ := s
  rw [withDraft, withDraft, List.modify_modify_eq, mk.injEq]
  refine ⟨rfl, List.ext_getElem? fun other => ?_⟩
  rw [List.getElem?_modify]
  cases hget : connections[other]? with
  | none => rfl
  | some c =>
    -- to drop the draft gives back what was there only because there was none
    have hdraft : c.draft = none := h c (List.mem_of_getElem? hget)
    split_ifs
    · exact congrArg some (congrArg (Connection.mk c.database c.isOpen) hdraft.symm)
    · rfl

/-- **What a connection writes is committed** at once, as long as no connection has a draft. -/
theorem store_of_isAtRest (h : s.IsAtRest) (hc : s.usable number = .ok c)
    (htable : s.committed c.database = some table) (value : String) :
    s.store number value = .ok { s with
      tables := s.tables.set c.database (some (table.put SettingsTable.flagName value)) } := by
  let draft := table.put SettingsTable.flagName value
  have hreplace : s.replace number value = .ok (s.withDraft number (some draft)) := by
    rw [replace, hc, ok_bind, seen_of_isAtRest h hc htable, ok_bind, isHeld_of_isAtRest h]
    rfl
  have hcommit : (s.withDraft number (some draft)).commit number =
      .ok { s with tables := s.tables.set c.database (some draft) } := by
    rw [commit, usable_withDraft hc, ok_bind]
    exact congrArg Except.ok (congrArg (mk _) (congrArg connections (withDraft_none h number _)))
  rw [store, hreplace, ok_bind, hcommit]

/-- Before it is committed nobody else sees what a connection writes, and nobody else can write. -/
example : let s := ((ofFile none).connect 0).connect 0
    (s.replace 0 "1" >>= (·.getFlag 0)) = .ok (some true) ∧ (s.replace 0 "1" >>= (·.getFlag 1)) = .ok none ∧
      (s.replace 0 "1" >>= (·.setFlag 1 false)) = .error lockedDatabase := ⟨rfl, rfl, rfl⟩

/-! ### Connections that cannot be used -/

section

variable {e : Failure} (hc : s.usable number = .error e)

include hc

theorem store_of_unusable (value : String) : s.store number value = .error e := by
  rw [store, replace, hc]
  rfl

theorem getFlag_of_unusable : s.getFlag number = .error e := by
  rw [getFlag, rows, hc]
  rfl

end

end SettingsStore

namespace Scenario

/-! ### Uses of mirrors, and of handles -/

/-- What is done with the mirrors of one file, which are numbered in the order in which they are opened. -/
inductive MirrorUse where
  /-- Open another one. -/
  | connect
  /-- Write the flag. -/
  | set (number : Nat) (flag : Bool)
  /-- Read the flag. -/
  | get (number : Nat)
  /-- Close one. -/
  | close (number : Nat)

namespace MirrorUse

/-- The action on mirrors. -/
def action : MirrorUse → MirrorAction
  | connect => .connect
  | set number flag => .set flag (some number)
  | get number => .get (some number)
  | close number => .close (some number)

/-- The mirror that is used. -/
def number? : MirrorUse → Option Nat
  | connect => none
  | set number _ | get number | close number => some number

/-- The answer of a mirror that is closed. -/
def whenClosed : MirrorUse → Except Failure MirrorAnswer
  | close _ => .ok .done
  | _ => .error .closedDatabase

end MirrorUse

/-- Handles of one mirror in memory. -/
structure Handles where
  /-- The mirror in memory. -/
  memory : MemoryMirror
  /-- Whether each of the handles is open. -/
  isOpen : List Bool

namespace Handles

/-- A mirror to which nothing was written, and no handles yet. -/
def fresh : Handles := ⟨.empty, []⟩

/-- Whether there is an open handle of a number. -/
def hasOpen (h : Handles) (number : Nat) : Bool := h.isOpen.getD number false

/-- Uses a handle. The mirror in memory is read and written through open ones only. -/
def perform (h : Handles) : MirrorUse → Handles × Except Failure MirrorAnswer
  | .connect => (⟨h.memory, h.isOpen ++ [true]⟩, .ok .done)
  | .set number flag =>
    if h.hasOpen number then (⟨h.memory.set flag, h.isOpen⟩, .ok .done)
    else (h, .error .closedDatabase)
  | .get number =>
    (h, if h.hasOpen number then .ok (.flag h.memory.value) else .error .closedDatabase)
  | .close number => (⟨h.memory, h.isOpen.modify number fun _ => false⟩, .ok .done)

/-- The handles after some uses. -/
def run (h : Handles) (uses : List MirrorUse) : Handles := uses.foldl (fun h use => (h.perform use).1) h

/-- What a use comes to. -/
def step (h : Handles) (use : MirrorUse) : Episode Handles MirrorAnswer :=
  ⟨(h.perform use).2, (h.perform use).1⟩

/-- The flags that are set through open handles. -/
def flags (h : Handles) : List MirrorUse → List Bool
  | [] => []
  | .set number flag :: uses =>
    if h.hasOpen number then flag :: flags (h.perform (.set number flag)).1 uses
    else flags (h.perform (.set number flag)).1 uses
  | use :: uses => flags (h.perform use).1 uses

theorem hasOpen_iff {h : Handles} {number : Nat} :
    h.hasOpen number = true ↔ h.isOpen[number]? = some true := by
  rw [hasOpen, List.getD_eq_getElem?_getD]
  cases h.isOpen[number]? <;> simp

section

variable {h : Handles} {number : Nat} (hclosed : h.isOpen[number]? = some false)

include hclosed

theorem hasOpen_of_closed : h.hasOpen number = false := by
  rw [hasOpen, List.getD_eq_getElem?_getD, hclosed, Option.getD_some]

/-- Nothing is changed through a closed handle. -/
theorem perform_of_closed {use : MirrorUse} (huse : use.number? = some number) :
    h.perform use = (h, use.whenClosed) := by
  have hopen := hasOpen_of_closed hclosed
  cases use with
  | connect => cases huse
  | set _ _ | get _ =>
    cases huse
    rw [perform, hopen]
    rfl
  | close _ =>
    cases huse
    have hsame : h.isOpen.modify number (fun _ => false) = h.isOpen := by
      refine List.ext_getElem? fun other => ?_
      rw [List.getElem?_modify]
      by_cases hnumber : number = other
      · simp [← hnumber, hclosed]
      · simp [hnumber]
    rw [perform, hsame]
    rfl

end

/-- The mirror in memory is as after the flags that were set through open handles. -/
theorem memory_run (h : Handles) (uses : List MirrorUse) :
    (h.run uses).memory = (h.flags uses).foldl MemoryMirror.set h.memory := by
  induction uses generalizing h with
  | nil => rfl
  | cons use uses ih =>
    rw [run, List.foldl_cons, ← run, ih]
    cases use with
    | set number flag =>
      rw [flags, perform]
      split_ifs <;> rfl
    | connect | get _ | close _ => rfl

end Handles

theorem value_foldl_set (flags : List Bool) (m : MemoryMirror) :
    (flags.foldl MemoryMirror.set m).value = flags.getLast?.or m.value := by
  induction flags generalizing m with
  | nil => rfl
  | cons flag flags ih =>
    rw [List.foldl_cons, ih, List.getLast?_cons]
    cases flags.getLast? <;> rfl

/-! ### What the file holds -/

namespace Handles

variable {h : Handles} {file : Option SettingsTable} {number : Nat}

/-- The rows of a file whose mirrors are used like handles. -/
def rows (h : Handles) (file : Option SettingsTable) : SettingsTable :=
  match h.memory.value with
  | none => file.getD []
  | some flag => (file.getD []).setFlag flag

/-- The table of that file. There need not be one before the first mirror is opened. -/
def table (h : Handles) (file : Option SettingsTable) : Option SettingsTable :=
  if h.isOpen = [] ∧ h.memory.value = none then file else some (h.rows file)

/-- The store with that file and a connection for each handle. -/
def store (h : Handles) (file : Option SettingsTable) : SettingsStore :=
  ⟨[h.table file], h.isOpen.map fun isOpen => ⟨0, isOpen, none⟩⟩

theorem store_fresh (file : Option SettingsTable) : fresh.store file = .ofFile file :=
  congrArg (fun table => SettingsStore.mk [table] []) (if_pos ⟨rfl, rfl⟩)

theorem isAtRest_store (h : Handles) (file : Option SettingsTable) : (h.store file).IsAtRest := by
  intro c hc
  obtain ⟨isOpen, -, rfl⟩ := List.mem_map.mp hc
  rfl

theorem getD_table (h : Handles) (file : Option SettingsTable) :
    (h.table file).getD [] = h.rows file := by
  rw [table]
  split_ifs with hnew
  · rw [rows, hnew.2]
  · rfl

theorem table_of_ne_nil (hopen : h.isOpen ≠ []) (file : Option SettingsTable) :
    h.table file = some (h.rows file) := if_neg fun hnew => hopen hnew.1

theorem committed_store (hopen : h.hasOpen number = true) (file : Option SettingsTable) :
    (h.store file).committed 0 = some (h.rows file) := by
  apply table_of_ne_nil
  rintro hnil
  rw [hasOpen, hnil] at hopen
  cases hopen

theorem usable_of_hasOpen (hopen : h.hasOpen number = true) (file : Option SettingsTable) :
    (h.store file).usable number = .ok ⟨0, true, none⟩ := by
  refine SettingsStore.usable_eq_ok_iff.mpr ⟨?_, rfl⟩
  rw [store, List.getElem?_map, hasOpen_iff.mp hopen]
  rfl

theorem usable_of_not_hasOpen (hopen : h.hasOpen number = false) (file : Option SettingsTable) :
    (h.store file).usable number = .error .closedDatabase := by
  rw [SettingsStore.usable, store, List.getElem?_map]
  rw [hasOpen, List.getD_eq_getElem?_getD] at hopen
  cases hget : h.isOpen[number]? with
  | none => rfl
  | some isOpen =>
    obtain rfl : isOpen = false := by simpa [hget] using hopen
    rfl

theorem flag?_rows (hfile : (file.getD []).value? SettingsTable.flagName = none) :
    (h.rows file).flag? = h.memory.value := by
  rw [rows]
  cases h.memory.value with
  | none => exact SettingsTable.flag?_of_value? hfile
  | some flag => exact SettingsTable.flag?_setFlag _ flag

theorem others_rows (hfile : (file.getD []).value? SettingsTable.flagName = none) :
    (h.rows file).others SettingsTable.flagName = file.getD [] := by
  rw [rows]
  cases h.memory.value with
  | none => exact SettingsTable.others_of_value? hfile
  | some flag => exact (SettingsTable.others_put ..).trans (SettingsTable.others_of_value? hfile)

theorem setFlag_rows (h : Handles) (file : Option SettingsTable) (flag : Bool) :
    (h.rows file).setFlag flag = rows ⟨h.memory.set flag, h.isOpen⟩ file := by
  rw [rows]
  cases h.memory.value with
  | none => rfl
  | some earlier => exact SettingsTable.put_put ..

theorem table_connect (h : Handles) (file : Option SettingsTable) :
    (h.perform .connect).1.table file = some (h.rows file) :=
  table_of_ne_nil (List.append_ne_nil_of_right_ne_nil _ (List.cons_ne_nil _ _)) file

theorem connect_store (h : Handles) (file : Option SettingsTable) :
    (h.store file).connect 0 = (h.perform .connect).1.store file := by
  have hstore : (h.perform .connect).1.store file =
      ⟨[some ((h.table file).getD [])], (h.isOpen ++ [true]).map fun isOpen => ⟨0, isOpen, none⟩⟩ := by
    rw [store, table_connect, getD_table]
    rfl
  rw [hstore, List.map_append]
  rfl

theorem close_store (h : Handles) (file : Option SettingsTable) (number : Nat) :
    (h.store file).close number = (h.perform (.close number)).1.store file := by
  have htable : table ⟨h.memory, h.isOpen.modify number fun _ => false⟩ file = h.table file := by
    simp only [table, rows, List.modify_eq_nil_iff]
  have hconnections : (h.isOpen.map fun isOpen => (⟨0, isOpen, none⟩ : Connection)).modify number
      (fun c => ⟨c.database, false, none⟩) =
        (h.isOpen.modify number fun _ => false).map fun isOpen => ⟨0, isOpen, none⟩ := by
    refine List.ext_getElem? fun other => ?_
    rw [List.getElem?_modify, List.getElem?_map, List.getElem?_map, List.getElem?_modify]
    cases h.isOpen[other]? with
    | none => rfl
    | some isOpen => by_cases hnumber : number = other <;> simp [hnumber]
  rw [SettingsStore.close, perform, store, store, htable, hconnections]

theorem setFlag_store (hopen : h.hasOpen number = true) (file : Option SettingsTable) (flag : Bool) :
    (h.store file).setFlag number flag = .ok (store ⟨h.memory.set flag, h.isOpen⟩ file) := by
  -- a flag that was set before is replaced, so the rows depend on the last one only
  have htable : table ⟨h.memory.set flag, h.isOpen⟩ file = some ((h.rows file).setFlag flag) := by
    rw [setFlag_rows]
    exact if_neg fun hnew => nomatch hnew.2
  have hstore : store ⟨h.memory.set flag, h.isOpen⟩ file =
      ⟨[some ((h.rows file).setFlag flag)], (h.store file).connections⟩ := by
    rw [store, htable]
    rfl
  rw [SettingsStore.setFlag, SettingsStore.store_of_isAtRest (isAtRest_store h file)
    (usable_of_hasOpen hopen file) (committed_store hopen file), hstore]
  rfl

theorem getFlag_store (hfile : (file.getD []).value? SettingsTable.flagName = none)
    (hopen : h.hasOpen number = true) : (h.store file).getFlag number = .ok h.memory.value := by
  rw [SettingsStore.getFlag, SettingsStore.rows_of_isAtRest (isAtRest_store h file)
    (usable_of_hasOpen hopen file) (committed_store hopen file), ok_bind, flag?_rows hfile]
  rfl

/-- **What is done with a mirror of the file is what is done with the handle.** -/
theorem performOnTables_store (hfile : (file.getD []).value? SettingsTable.flagName = none)
    (h : Handles) (use : MirrorUse) :
    Mirrors.performOnTables true (h.store file) use.action =
      ((h.perform use).1.store file, (h.perform use).2) := by
  cases use with
  | connect => exact congrArg (·, _) (connect_store h file)
  | close number => exact congrArg (·, _) (close_store h file number)
  | set number flag =>
    change Mirrors.written (h.store file) ((h.store file).setFlag number flag) = _
    rw [perform]
    cases hopen : h.hasOpen number with
    | true =>
      rw [setFlag_store hopen file flag]
      rfl
    | false =>
      rw [SettingsStore.setFlag, SettingsStore.store_of_unusable (usable_of_not_hasOpen hopen file)]
      rfl
  | get number =>
    change (h.store file, MirrorAnswer.flag <$> (h.store file).getFlag number) = _
    rw [perform]
    cases hopen : h.hasOpen number with
    | true =>
      rw [getFlag_store hfile hopen]
      rfl
    | false =>
      rw [SettingsStore.getFlag_of_unusable (usable_of_not_hasOpen hopen file)]
      rfl

end Handles

/-! ### Whole runs -/

/-- A store after some uses of the mirrors of its first database. -/
def Mirrors.used (s : SettingsStore) (uses : List MirrorUse) : SettingsStore :=
  uses.foldl (fun s use => (performOnTables true s use.action).1) s

section

variable {file : Option SettingsTable} (hfile : (file.getD []).value? SettingsTable.flagName = none)

include hfile

theorem used_store (h : Handles) (uses : List MirrorUse) :
    Mirrors.used (h.store file) uses = (h.run uses).store file := by
  induction uses generalizing h with
  | nil => rfl
  | cons use uses ih =>
    rw [Mirrors.used, List.foldl_cons, Handles.performOnTables_store hfile, ← Mirrors.used, ih]
    rfl

/-- A run of uses of mirrors is a run of uses of handles. -/
theorem play_store (h : Handles) (uses : List MirrorUse) :
    play Mirrors.step (.tables true (h.store file)) (uses.map MirrorUse.action) =
      (play Handles.step h uses).map fun e => ⟨e.answer, .tables true (e.state.store file)⟩ := by
  induction uses generalizing h with
  | nil => rfl
  | cons use uses ih =>
    have hstep : Mirrors.step (.tables true (h.store file)) use.action =
        ⟨(h.step use).answer, .tables true ((h.step use).state.store file)⟩ := by
      rw [Mirrors.step, Handles.performOnTables_store hfile]
      rfl
    rw [List.map_cons, play, hstep, ih, play, List.map_cons]

end

/-- The mirrors of a file are handles of one mirror in memory. After some uses there are the store `s` and the
handles `h`. -/
structure AreOne (file : Option SettingsTable) (uses : List MirrorUse) (s : SettingsStore) (h : Handles) :
    Prop where
  /-- Every use is answered as if it were a use of the handle. -/
  answers : (play Mirrors.step (.tables true (.ofFile file)) (uses.map MirrorUse.action)).map (·.answer) =
    (play Handles.step .fresh uses).map (·.answer)
  /-- The mirror in memory got the flags that were set through mirrors which were open then. -/
  memory : h.memory = (Handles.fresh.flags uses).foldl MemoryMirror.set .empty
  /-- It holds the last of these flags, if there was one. -/
  last : h.memory.value = (Handles.fresh.flags uses).getLast?
  /-- An open mirror reads what the mirror in memory holds. -/
  reads : ∀ number, h.isOpen[number]? = some true → s.getFlag number = .ok h.memory.value
  /-- A closed mirror neither reads nor writes. That it is closed again does nothing. -/
  closed : ∀ number, h.isOpen[number]? = some false →
    Mirrors.performOnTables true s (.get (some number)) = (s, .error .closedDatabase) ∧
    (∀ flag, Mirrors.performOnTables true s (.set flag (some number)) = (s, .error .closedDatabase)) ∧
    Mirrors.performOnTables true s (.close (some number)) = (s, .ok .done)
  /-- Another mirror that is opened keeps the rows of the file, and reads the same as the others. -/
  reopened : (s.connect 0).committed 0 = some ((s.committed 0).getD []) ∧
    (s.connect 0).getFlag s.connections.length = .ok h.memory.value
  /-- The rows of other names are those that were found. -/
  others : ((s.committed 0).getD []).others SettingsTable.flagName = file.getD []

/-- **The mirrors of a file are handles of one mirror in memory**, if the file has no flag at first. -/
theorem areOne_of_used {file : Option SettingsTable}
    (hfile : (file.getD []).value? SettingsTable.flagName = none) (uses : List MirrorUse) :
    AreOne file uses (Mirrors.used (.ofFile file) uses) (Handles.fresh.run uses) := by
  have hmemory := Handles.memory_run .fresh uses
  have hanswers := play_store hfile .fresh uses
  have hused := used_store hfile .fresh uses
  rw [Handles.store_fresh] at hanswers hused
  rw [hused]
  -- from here on it does not matter how the handles came to be what they are
  generalize Handles.fresh.run uses = h at hmemory ⊢
  constructor
  case answers =>
    rw [hanswers, List.map_map]
    rfl
  case memory => exact hmemory
  case last =>
    rw [hmemory, value_foldl_set]
    exact Option.or_none
  case reads => exact fun number hopen => Handles.getFlag_store hfile (Handles.hasOpen_iff.mpr hopen)
  case closed =>
    intro number hclosed
    have hperform (use : MirrorUse) (huse : use.number? = some number) :=
      (Handles.performOnTables_store hfile h use).trans
        (congrArg (fun done => (done.1.store file, done.2)) (Handles.perform_of_closed hclosed huse))
    exact ⟨hperform (.get number) rfl, fun flag => hperform (.set number flag) rfl,
      hperform (.close number) rfl⟩
  case reopened =>
    have hlatest : (h.isOpen ++ [true])[(h.store file).connections.length]? = some true := by
      rw [Handles.store, List.length_map, List.getElem?_concat_length]
    rw [Handles.connect_store]
    refine ⟨?_, Handles.getFlag_store hfile (Handles.hasOpen_iff.mpr hlatest)⟩
    exact (Handles.table_connect h file).trans (congrArg some (Handles.getD_table h file).symm)
  case others =>
    exact (congrArg (SettingsTable.others · _) (Handles.getD_table h file)).trans (Handles.others_rows hfile)

/-- A file in which something else is set. -/
def darkTheme : SettingsTable := [("theme", "dark")]

/-- Three mirrors of it, of which the second one is closed in between. -/
def evenings : List MirrorUse :=
  [.connect, .get 0, .set 0 true, .connect, .get 1, .set 1 false, .close 1, .get 0, .set 1 true, .connect, .get 2]

/-- What the third mirror reads was set through the second one before that was closed. -/
theorem areOne_evenings : ((some darkTheme).getD []).value? SettingsTable.flagName = none ∧
    AreOne (some darkTheme) evenings (Mirrors.used (.ofFile (some darkTheme)) evenings)
      (Handles.fresh.run evenings) ∧
    (play Handles.step .fresh evenings).map (·.answer) =
      [.ok .done, .ok (.flag none), .ok .done, .ok .done, .ok (.flag (some true)), .ok .done, .ok .done,
        .ok (.flag (some false)), .error .closedDatabase, .ok .done, .ok (.flag (some false))] ∧
    (Mirrors.used (.ofFile (some darkTheme)) evenings).committed 0 =
      some [("theme", "dark"), ("twilight_is_night", "0")] :=
  ⟨rfl, areOne_of_used rfl evenings, rfl, rfl⟩

/-- **A use of a closed mirror need not fail**: it can be closed once more. -/
theorem closes_again : ¬ ∀ (uses : List MirrorUse) (use : MirrorUse) (number : Nat),
    (Handles.fresh.run uses).isOpen[number]? = some false → use.number? = some number →
    ∃ e, (Mirrors.performOnTables true (Mirrors.used (.ofFile none) uses) use.action).2 = .error e := by
  intro hfails
  obtain ⟨e, he⟩ := hfails [.connect, .close 0] (.close 0) 0 rfl rfl
  cases he

end Scenario

end Daylight
