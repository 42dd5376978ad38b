import Daylight.Boundaries
import Daylight.Log

/-!
# The board

The board shows the last published boundaries and tells its listeners about every change. A listener
is bound to one context, in which it is told; binding it again replaces the context and keeps its
place. A change is posted to the contexts of all listeners that are bound at that moment, in the
order in which they were bound. What is posted is delivered later, when the context runs, and only
if the listener is then still bound to that very context. Neither a context that takes no tasks nor
a listener that fails stops the others; both are logged.

A context keeps its tasks until they are run, or takes none, or is a worker, which runs by itself,
or runs a task inline, while it is being posted. So a listener can act in the middle of an
operation, on the board and on whatever else the program holds. What else there is, is the board's
owner, and what listeners do is a reaction: both are parameters.
-/

namespace Daylight

/-- A context, by its name or as the worker shared by the listeners that bring none. -/
inductive ContextId where
  /-- A context with a name. -/
  | named (name : String)
  /-- The shared worker, numbered from start to start of the service. -/
  | shared (generation : Nat)
  deriving DecidableEq, Repr

/-- A change that was posted for a listener. -/
structure Delivery where
  /-- The listener. -/
  listener : String
  /-- The context to which the listener was bound. -/
  context : ContextId
  /-- What was published. -/
  state : Option Boundaries
  deriving DecidableEq

/-- How a context treats its tasks. -/
inductive Context.Kind where
  /-- It keeps them until it is told to run. -/
  | queue
  /-- It runs them while they are posted. -/
  | inline
  /-- It takes none. -/
  | refusing
  /-- It runs them by itself, one after the other. -/
  | worker
  deriving DecidableEq, Repr

/-- A context with its tasks. -/
structure Context where
  /-- How it treats them. -/
  kind : Context.Kind
  /-- The tasks that are waiting, the first one in front. -/
  tasks : List Delivery
  /-- Whether it still takes tasks. -/
  isOpen : Bool
  deriving DecidableEq

/-- A context without tasks. -/
def Context.ofKind (kind : Context.Kind) : Context := ⟨kind, [], true⟩

/-- The listeners with their contexts, and the last published boundaries. -/
structure Registry where
  /-- The bindings, in the order in which the listeners came. -/
  bindings : List (String × ContextId)
  /-- What was published last. -/
  last : Option Boundaries
  deriving DecidableEq

namespace Registry

/-- The registry of nobody. -/
def empty : Registry := ⟨[], none⟩

/-- The context of a listener. -/
def context? (r : Registry) (listener : String) : Option ContextId := r.bindings.lookup listener

/-- Binds a listener, in its place if it has one. -/
def bind (listener : String) (context : ContextId) :
    List (String × ContextId) → List (String × ContextId)
  | [] => [(listener, context)]
  | binding :: rest =>
    if binding.1 = listener then (listener, context) :: rest
    else binding :: bind listener context rest

/-- Adds a listener, or replaces its context. -/
def register (r : Registry) (listener : String) (context : ContextId) : Registry :=
  { r with bindings := bind listener context r.bindings }

/-- Removes a listener, if it is there. -/
def unregister (r : Registry) (listener : String) : Registry :=
  { r with bindings := r.bindings.filter fun binding => binding.1 ≠ listener }

/-- What has to be posted to tell everybody. -/
def deliveries (r : Registry) (state : Option Boundaries) : List Delivery :=
  r.bindings.map fun binding => ⟨binding.1, binding.2, state⟩

end Registry

/-- What was logged and what was delivered. -/
structure Journal where
  /-- The log. -/
  log : List LogEntry
  /-- The deliveries: who was told what. -/
  deliveries : List (String × Option Boundaries)
  deriving DecidableEq

/-- The journal of nothing. -/
def Journal.empty : Journal := ⟨[], []⟩

/-- The board with its contexts and its owner. Workers have a journal of their own, since nothing is
promised about the order of their work and that of others. -/
structure Board (ω : Type) where
  /-- The listeners and the last state. -/
  registry : Registry
  /-- The contexts. -/
  contexts : List (ContextId × Context)
  /-- What happened, except on workers. -/
  journal : Journal
  /-- What happened on workers. -/
  workerJournal : Journal
  /-- Whether a worker is at work. -/
  onWorker : Bool
  /-- What else there is. -/
  owner : ω

/-- What a listener does with what it is told; it may fail. -/
abbrev Reaction (ω : Type) := Board ω → String → Option Boundaries → Board ω × Option Failure

namespace Board

variable {ω : Type}

/-- An empty board with contexts and an owner. -/
def ofOwner (contexts : List (ContextId × Context)) (owner : ω) : Board ω :=
  ⟨.empty, contexts, .empty, .empty, false, owner⟩

/-- Writes into the journal of whoever is at work. -/
def record (b : Board ω) (write : Journal → Journal) : Board ω :=
  if b.onWorker then { b with workerJournal := write b.workerJournal }
  else { b with journal := write b.journal }

/-- Logs an entry. -/
def report (b : Board ω) (entry : LogEntry) : Board ω :=
  b.record fun j => { j with log := j.log ++ [entry] }

/-- Changes the owner. -/
def mapOwner (b : Board ω) (change : ω → ω) : Board ω := { b with owner := change b.owner }

/-- Changes the registry. -/
def mapRegistry (b : Board ω) (change : Registry → Registry) : Board ω :=
  { b with registry := change b.registry }

/-- A context; one that is not there takes no tasks. -/
def context (b : Board ω) (id : ContextId) : Context :=
  (b.contexts.lookup id).getD (.ofKind .refusing)

/-- Changes a context. -/
def mapContext (b : Board ω) (id : ContextId) (change : Context → Context) : Board ω :=
  { b with contexts := b.contexts.map fun entry =>
      if entry.1 = id then (entry.1, change entry.2) else entry }

/-- Adds a listener, or replaces its context. -/
def register (b : Board ω) (listener : String) (context : ContextId) : Board ω :=
  b.mapRegistry (·.register listener context)

/-- Removes a listener, if it is there. -/
def unregister (b : Board ω) (listener : String) : Board ω :=
  b.mapRegistry (·.unregister listener)

/-- A listener, as the log shows it. -/
def listenerText (listener : String) : String := "<" ++ listener ++ ">"

/-- Tells a listener what was published, if it is still bound to the context. -/
def deliver (react : Reaction ω) (b : Board ω) (d : Delivery) : Board ω :=
  if b.registry.context? d.listener = some d.context then
    let b := b.record fun j => { j with deliveries := j.deliveries ++ [(d.listener, d.state)] }
    match react b d.listener d.state with
    | (b, none) => b
    | (b, some e) =>
      b.report ⟨.error, "Twilight listener " ++ listenerText d.listener ++ " failed", some e⟩
  else b

/-- Logs that a context took no task. -/
def reportRefusal (b : Board ω) (d : Delivery) (cause : Failure) : Board ω :=
  b.report ⟨.error, "Could not post twilight state to " ++ listenerText d.listener, some cause⟩

/-- Hands a delivery to its context. -/
def post (react : Reaction ω) (b : Board ω) (d : Delivery) : Board ω :=
  let context := b.context d.context
  match context.kind with
  | .refusing => b.reportRefusal d .contextRefused
  | .inline => deliver react b d
  | .queue | .worker =>
    if context.isOpen then
      b.mapContext d.context fun context => { context with tasks := context.tasks ++ [d] }
    else b.reportRefusal d .contextClosed

/-- Tells everybody who is bound now. -/
def notifyAll (react : Reaction ω) (b : Board ω) (state : Option Boundaries) : Board ω :=
  (b.registry.deliveries state).foldl (post react) b

/-- Publishes boundaries, or that there are none. Everybody is told if they differ from the last
ones; the answer is whether they do. -/
def publish (react : Reaction ω) (b : Board ω) (state : Option Boundaries) : Board ω × Bool :=
  if b.registry.last = state then (b, false)
  else (notifyAll react (b.mapRegistry fun r => { r with last := state }) state, true)

/-- Runs the tasks that wait in a context; the answer is their number. -/
def run (react : Reaction ω) (b : Board ω) (id : ContextId) : Board ω × Nat :=
  let tasks := (b.context id).tasks
  let b := b.mapContext id fun context => { context with tasks := [] }
  (tasks.foldl (deliver react) b, tasks.length)

/-- Closes a context: what waits in it is still run. -/
def shutDown (b : Board ω) (id : ContextId) : Board ω :=
  b.mapContext id fun context => { context with isOpen := false }

/-- The workers that have something to do. -/
def busyWorkers (b : Board ω) : List ContextId :=
  (b.contexts.filter fun entry => entry.2.kind = .worker && !entry.2.tasks.isEmpty).map (·.1)

/-- Lets the workers run until they are idle, in at most `rounds` rounds. -/
def settle (react : Reaction ω) : Nat → Board ω → Board ω
  | 0, b => b
  | rounds + 1, b =>
    match b.busyWorkers with
    | [] => b
    | workers =>
      let b := workers.foldl (fun b id => (run react b id).1) { b with onWorker := true }
      settle react rounds { b with onWorker := false }

end Board

end Daylight
