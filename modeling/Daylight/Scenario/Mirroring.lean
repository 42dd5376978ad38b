import Daylight.Scenario.Basic
import Daylight.Settings

/-!
# Mirroring

Several mirrors of the flag at work, numbered in the order in which they were opened. Mirrors in
memory know nothing of each other; connections to databases have one database each, or all of them
the same. An action that names no mirror is about the one that was opened last.
-/

namespace Daylight.Scenario

/-- What can be done to mirrors. -/
inductive MirrorAction where
  /-- Write the flag. -/
  | set (flag : Bool) (number : Option Nat)
  /-- Read the flag. -/
  | get (number : Option Nat)
  /-- Open another mirror. -/
  | connect
  /-- Close the mirror. -/
  | close (number : Option Nat := none)
  /-- Ask how often a flag was written. -/
  | writes
  /-- Ask for the rows of the table. -/
  | rows
  /-- Write a text in place of a flag. -/
  | store (value : String)
  /-- Fail. -/
  | fail (failure : Failure)

/-- What an action on mirrors answers. -/
inductive MirrorAnswer where
  /-- Nothing but that it is done. -/
  | done
  /-- The flag, if one was written. -/
  | flag (value : Option Bool)
  /-- A number. -/
  | count (n : Nat)
  /-- Rows of a table. -/
  | rows (table : SettingsTable)
  deriving DecidableEq

/-- Mirrors at work. -/
inductive Mirrors where
  /-- Mirrors in memory. -/
  | memory (mirrors : List MemoryMirror)
  /-- Connections to databases, which may all be the same. -/
  | tables (shared : Bool) (store : SettingsStore)

namespace Mirrors

/-- One mirror in memory. -/
def inMemory : Mirrors := memory [.empty]

/-- One connection to one database. -/
def ofTables (shared : Bool) : Mirrors := tables shared ((SettingsStore.ofFile none).connect 0)

/-- Performs an action on mirrors in memory. -/
def performInMemory (mirrors : List MemoryMirror) :
    MirrorAction → List MemoryMirror × Except Failure MirrorAnswer
  | .set flag number =>
    (mirrors.modify (number.getD (mirrors.length - 1)) (·.set flag), .ok .done)
  | .get number =>
    let mirror := mirrors.getD (number.getD (mirrors.length - 1)) .empty
    (mirrors, .ok (.flag mirror.value))
  | .connect => (mirrors ++ [.empty], .ok .done)
  | .writes => (mirrors, .ok (.count ((mirrors.getLast?.map (·.writes)).getD 0)))
  | .close _ | .rows | .store _ => (mirrors, .ok .done)
  | .fail failure => (mirrors, .error failure)

/-- A write to a store that may fail. -/
def written (s : SettingsStore) (result : Except Failure SettingsStore) :
    SettingsStore × Except Failure MirrorAnswer :=
  match result with
  | .ok s => (s, .ok .done)
  | .error e => (s, .error e)

/-- Performs an action on connections. -/
def performOnTables (shared : Bool) (s : SettingsStore) :
    MirrorAction → SettingsStore × Except Failure MirrorAnswer
  | .set flag number => written s (s.setFlag (number.getD s.latest) flag)
  | .get number => (s, .flag <$> s.getFlag (number.getD s.latest))
  | .connect => (if shared then s.connect 0 else s.create, .ok .done)
  | .close number => (s.close (number.getD s.latest), .ok .done)
  | .writes => (s, .ok .done)
  | .rows => (s, .rows <$> s.rows s.latest)
  | .store value => written s (s.store s.latest value)
  | .fail failure => (s, .error failure)

/-- Performs an action. -/
def step : Mirrors → MirrorAction → Episode Mirrors MirrorAnswer
  | memory mirrors, action =>
    let (mirrors, answer) := performInMemory mirrors action
    ⟨answer, memory mirrors⟩
  | tables shared s, action =>
    let (s, answer) := performOnTables shared s action
    ⟨answer, tables shared s⟩

end Mirrors

end Daylight.Scenario
