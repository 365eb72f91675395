import EntityStore.Store.Work

/-!
# Calls side by side

Calls that run side by side give way to each other in two places: while they wait for the lock of
an entity, and while the database provisions a container.  Everything between is done in one
stretch.  `Crew.advance` runs one stretch of one task, and any list of tasks to advance, one after
the other, is a possible run.

`Crew.together` runs all calls to their ends in the usual order: a task that has been called or
given a lock goes to the back of a queue, and the front of the queue runs next.
-/

namespace EntityStore

/-- Where a task stands. -/
inductive Stage (κ : Type) where
  | starting (call : Call)
  /-- It has asked for the lock of the entity, which it holds or waits for. -/
  | queued (entity : String) (config : ContainerConfig) (work : Work)
  /-- It holds the lock, and the call to provision is under way. -/
  | provisioning (entity : String) (answer : Except Failure κ) (work : Work)
  | finished (result : Except Failure (Answer κ))

/-- The tasks of a session. -/
structure Crew (σ κ : Type) where
  session : Session σ κ
  stages : List (Stage κ)

namespace Crew

variable {σ κ : Type}

/-- Puts a task at a stage. -/
def place (c : Crew σ κ) (task : Nat) (stage : Stage κ) : Crew σ κ :=
  { c with stages := c.stages.set task stage }

/-- The crew with another router. -/
def withRouter (c : Crew σ κ) (router : Router κ) : Crew σ κ :=
  { c with session := { c.session with router := router } }

/-- Ends a task whose container is known, or could not be had. -/
def finish (b : Backend σ κ) (task : Nat) (entity : String) (work : Work)
    (container : Except Failure κ) (c : Crew σ κ) : Crew σ κ :=
  match container with
  | .error e => c.place task (.finished (.error e))
  | .ok handle =>
    let (result, session) := work.perform b entity handle c.session
    { c with session := session }.place task (.finished result)

/-- Starts the call to provision. -/
def call (b : Backend σ κ) (task : Nat) (entity : String) (config : ContainerConfig)
    (work : Work) (c : Crew σ κ) : Crew σ κ :=
  let (answer, outside) :=
    b.provision config.containerId config.partitionPath c.session.outside
  { c with session := { c.session with outside := outside } }.place task
    (.provisioning entity answer work)

/-- The first stretch of a task whose call is prepared, and the tasks that are ready after it. -/
def request (b : Backend σ κ) (task : Nat) (entity : String) (work : Work) (c : Crew σ κ) :
    Crew σ κ × List Nat :=
  match c.session.router.request task entity with
  | (.settled container, router) => ((c.withRouter router).finish b task entity work container, [])
  | (.waiting config, router) =>
    ((c.withRouter router).place task (.queued entity config work), [])
  | (.calling config, router) => ((c.withRouter router).call b task entity config work, [task])

/-- **One stretch of a task**, and the tasks that are ready after it, in order.  A task that waits
for a lock it has not been given stays where it is, and so does one that has finished. -/
def advance (b : Backend σ κ) (task : Nat) (c : Crew σ κ) : Crew σ κ × List Nat :=
  match c.stages[task]? with
  | some (.starting call) =>
    match call.prepare b c.session with
    | (.error e, session) => ({ c with session := session }.place task (.finished (.error e)), [])
    | (.ok (.answered a), session) =>
      ({ c with session := session }.place task (.finished (.ok a)), [])
    | (.ok (.ready entity work), session) =>
      { c with session := session }.request b task entity work
  | some (.queued entity config work) =>
    if (c.session.router.lockOf entity).holder = some task then
      match c.session.router.enter entity config with
      | (.settled container, next, router) =>
        ((c.withRouter router).finish b task entity work container, next.toList)
      | (_, _, router) => ((c.withRouter router).call b task entity config work, [task])
    else (c, [])
  | some (.provisioning entity answer work) =>
    let (next, router) := c.session.router.settle entity answer
    ((c.withRouter router).finish b task entity work answer, next.toList)
  | some (.finished _) | none => (c, [])

/-- Runs the tasks of a queue, at most so many stretches. -/
def runQueue (b : Backend σ κ) : (stretches : Nat) → List Nat → Crew σ κ → Crew σ κ
  | n + 1, task :: queue, c =>
    let (c, ready) := c.advance b task
    runQueue b n (queue ++ ready) c
  | _, _, c => c

/-- What a task has come to. -/
def resultOf : Stage κ → Except Failure (Answer κ)
  | .finished result => result
  | _ => .error .endless

/-- **All calls run side by side**: their results, and the session after them.  No task takes more
than three stretches. -/
def together (b : Backend σ κ) (calls : List Call) (s : Session σ κ) :
    List (Except Failure (Answer κ)) × Session σ κ :=
  let c : Crew σ κ := runQueue b (3 * calls.length) (List.range calls.length)
    ⟨s, calls.map .starting⟩
  (c.stages.map resultOf, c.session)

end Crew

end EntityStore
