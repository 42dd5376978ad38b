import Daylight.Decimal.Column
import Daylight.Failure

/-!
# The mirrored flag

Whether it is night is written to a settings mirror, where other programs can read it. A mirror in
memory holds the last flag and counts the writes. A mirror in a database holds it in a table of
names and values, under a fixed name, as `1` or `0`; any value but `1` reads as false. (The time of the
write, which stands beside every value, is read by nothing and left out.)

A connection writes into a draft of the table, which no other connection sees before it is committed.
Several connections to one database see what each of them committed. A closed connection neither reads
nor writes, and what it had not committed is gone.
-/

namespace Daylight

/-- A mirror in memory. -/
structure MemoryMirror where
  /-- The last flag that was written. -/
  value : Option Bool
  /-- How often a flag was written. -/
  writes : Nat
  deriving DecidableEq, Repr

/-- The mirror to which nothing was written. -/
def MemoryMirror.empty : MemoryMirror := ⟨none, 0⟩

/-- The mirror after a flag was written. -/
def MemoryMirror.set (m : MemoryMirror) (flag : Bool) : MemoryMirror := ⟨some flag, m.writes + 1⟩

/-- The table of settings: names with their values. -/
abbrev SettingsTable := List (String × String)

namespace SettingsTable

/-- The name of the flag. -/
def flagName : String := "twilight_is_night"

/-- The table with a value under a name, in place of the one that was there. -/
def put (t : SettingsTable) (name value : String) : SettingsTable :=
  (t.filter fun row => row.1 ≠ name) ++ [(name, value)]

/-- The value under a name. -/
def value? (t : SettingsTable) (name : String) : Option String := t.lookup name

/-- How a flag is stored. -/
def flagText (flag : Bool) : String := if flag then "1" else "0"

/-- The table after a flag was written. -/
def setFlag (t : SettingsTable) (flag : Bool) : SettingsTable := t.put flagName (flagText flag)

/-- The flag in the table, if one was written. -/
def flag? (t : SettingsTable) : Option Bool := (t.value? flagName).map (· = "1")

/-- How a column of text type stores a whole number, which has to fit into sixty-four bits. -/
def integerText (n : Int) : Except Failure String :=
  if -9223372036854775808 ≤ n ∧ n ≤ 9223372036854775807 then .ok (toString n)
  else .error .wideInteger

end SettingsTable

/-- A connection to one of several databases. -/
structure Connection where
  /-- The number of its database. -/
  database : Nat
  /-- Whether it can be used. -/
  isOpen : Bool
  /-- The table with what it wrote and did not commit yet, if it wrote anything. -/
  draft : Option SettingsTable
  deriving DecidableEq, Repr

/-- Databases, and the connections to them in the order in which they were opened. -/
structure SettingsStore where
  /-- The table of every database as it was committed, if it was created. -/
  tables : List (Option SettingsTable)
  /-- The connections. -/
  connections : List Connection
  deriving DecidableEq, Repr

namespace SettingsStore

/-- The store with one database, to which there is no connection. -/
def ofFile (table : Option SettingsTable) : SettingsStore := ⟨[table], []⟩

/-- What was committed to a database: its table, if that was created. -/
def committed (s : SettingsStore) (database : Nat) : Option SettingsTable :=
  s.tables.getD database none

/-- Creates the table of a database, unless there is one. This is committed at once. -/
def createTable (s : SettingsStore) (database : Nat) : SettingsStore :=
  { s with tables := s.tables.modify database fun table => some (table.getD []) }

/-- One more connection to a database, which has its table from then on. -/
def connect (s : SettingsStore) (database : Nat) : SettingsStore :=
  createTable ⟨s.tables, s.connections ++ [⟨database, true, none⟩]⟩ database

/-- A new database without a table, and a connection to it. -/
def create (s : SettingsStore) : SettingsStore :=
  connect ⟨s.tables ++ [none], s.connections⟩ s.tables.length

/-- The number of the connection that was opened last. -/
def latest (s : SettingsStore) : Nat := s.connections.length - 1

/-- The database does not have the table. -/
def missingTable : Failure := .reported .operation "no such table: settings"

/-- Another connection is about to write to the database. -/
def lockedDatabase : Failure := .reported .operation "database is locked"

/-- A connection that can be used. -/
def usable (s : SettingsStore) (number : Nat) : Except Failure Connection :=
  match s.connections[number]? with
  | some c => if c.isOpen then .ok c else .error .closedDatabase
  | none => .error .closedDatabase

/-- The table that a connection sees: its draft, or else what was committed. -/
def seen (s : SettingsStore) (c : Connection) : Except Failure SettingsTable :=
  match c.draft.or (s.committed c.database) with
  | some table => .ok table
  | none => .error missingTable

/-- The rows that a connection sees. -/
def rows (s : SettingsStore) (number : Nat) : Except Failure SettingsTable := do
  let c ← s.usable number
  s.seen c

/-- Whether another connection has a draft of the table of a database. -/
def isHeld (s : SettingsStore) (number database : Nat) : Bool :=
  (s.connections.eraseIdx number).any fun c => c.database = database ∧ c.draft.isSome

/-- The store with another draft of a connection. -/
def withDraft (s : SettingsStore) (number : Nat) (draft : Option SettingsTable) : SettingsStore :=
  { s with connections := s.connections.modify number fun c => { c with draft } }

/-- Writes a value under the flag's name into the draft of a connection. One connection at a time can
have a draft. -/
def replace (s : SettingsStore) (number : Nat) (value : String) : Except Failure SettingsStore := do
  let c ← s.usable number
  let table ← s.seen c
  if s.isHeld number c.database then .error lockedDatabase
  else return s.withDraft number (some (table.put SettingsTable.flagName value))

/-- Commits the draft of a connection, if it has one. -/
def commit (s : SettingsStore) (number : Nat) : Except Failure SettingsStore := do
  let c ← s.usable number
  match c.draft with
  | none => return s
  | some table =>
    return { s.withDraft number none with tables := s.tables.set c.database (some table) }

/-- Writes a value under the flag's name and commits it. -/
def store (s : SettingsStore) (number : Nat) (value : String) : Except Failure SettingsStore := do
  let s ← s.replace number value
  s.commit number

/-- Writes a flag. -/
def setFlag (s : SettingsStore) (number : Nat) (flag : Bool) : Except Failure SettingsStore :=
  s.store number (SettingsTable.flagText flag)

/-- Reads the flag. -/
def getFlag (s : SettingsStore) (number : Nat) : Except Failure (Option Bool) := do
  let table ← s.rows number
  return table.flag?

/-- Closes a connection, which loses its draft; closing it again changes nothing. -/
def close (s : SettingsStore) (number : Nat) : SettingsStore :=
  { s with connections := s.connections.modify number fun c => ⟨c.database, false, none⟩ }

end SettingsStore

end Daylight
