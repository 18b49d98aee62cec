import Mathlib.Logic.Function.Basic

/-!
# `SNSyncManager.sync` as a cooperative state machine

`sync()` (sync_manager.js:338–472) is an `async` method: it runs on the one
JavaScript thread and hands the thread back at every `await`. Each invocation
is a *task* suspended at one of its `await`s (`Pc`), and the manager is a
configuration of the fields the tasks share (`Conf`). One `Act` either resumes
one task with the outcome of what it awaited, or is something the rest of the
application does meanwhile: a new `sync()` call, `lockSyncing`, `handleSignOut`,
an item edit, the clock. `Conf.step` is total (an action that is not enabled
leaves the configuration as it is) and `Conf.run` folds it over a schedule, so
every interleaving of the `await`s is a list of actions.

- `Conf.sync`: what a call runs before its first `await` (the `locked` check
  and the read of the dirty items).
- `Conf.continueFrom`: the code between two `await`s, one definition per
  resumption point, named after the line it continues from. Any awaited
  promise may also reject (`Conf.resume _ _ false`), which `sync()` does not
  catch.
- The promises the two queues hand out (`timingStrategyResolveOnNext`,
  `timingStrategyForceSpawnNew`) are records with a state. A promise that
  adopts another one settles in a step of its own, as a microtask does.

Awaits whose code touches none of the modelled fields are merged into the
`await` before them; the operation's token reads (`syncOnlineOperation`), the
items' `lastSyncBegan` stamp and the event notifications are not modelled.
Ghost fields (`createdAt`, `beganAt`, `pastRun`, `resolvedBy`, `saved`) record
when things happened; no code reads them.
-/

namespace Snjs.Sync

/-- `TIMING_STRATEGY_RESOLVE_ON_NEXT` (sync_manager.js:26). -/
def TIMING_STRATEGY_RESOLVE_ON_NEXT : Nat := 1

/-- `TIMING_STRATEGY_FORCE_SPAWN_NEW` (sync_manager.js:27). -/
def TIMING_STRATEGY_FORCE_SPAWN_NEW : Nat := 2

/-- `SYNC_MODE_DEFAULT` (sync_manager.js:29). -/
def SYNC_MODE_DEFAULT : Nat := 1

/-- `SYNC_MODE_INITIAL` (sync_manager.js:30). -/
def SYNC_MODE_INITIAL : Nat := 2

/-- The fields of an item (`SNItem`) the sync loop reads. `CreateMaxPayloadFromAnyObject`
turns an item into a payload with the same fields, so one record stands for both; two
versions of an item differ in their `dirtiedDate`. -/
structure Item where
  uuid : Nat
  dirty : Bool
  dirtiedDate : Option Nat
  deleted : Bool
  neverSynced : Bool
  deriving DecidableEq, Repr

/-- The argument object of `sync({ timingStrategy, mode, checkIntegrity })`; `none` is
`undefined`. -/
structure SyncArgs where
  timingStrategy : Option Nat := none
  mode : Option Nat := none
  checkIntegrity : Option Bool := none
  deriving DecidableEq, Repr

/-- The `await`s of `sync()`, named after what is awaited. -/
inductive Pc where
  /-- `await this.itemsNeedingSync()` (:344). -/
  | itemsNeedingSync
  /-- `await this.popPayloadsNeedingPreSyncSave(...)` (:360). -/
  | presaveFilter
  /-- `await this.persistPayloads(...)` (:363). -/
  | persist
  /-- `await this.modelManager.setItemsProperties(...)` (:399). -/
  | setItemsProperties
  /-- `await this.sessionManager.online()` (:411). -/
  | online
  /-- `await this.protocolService.payloadsByEncryptingPayloads(...)` (:417). -/
  | encrypt
  /-- `await this.syncOnlineOperation(...)` or `syncOfflineOperation` (:429, :434). -/
  | operation
  /-- `await operation.run()` (:438). -/
  | run
  /-- `await this.handleSyncOperationCompletion(...)` (:456). -/
  | completion
  /-- `await this.modelManager.mapPayloadsToLocalItems(...)` in `handleNeverSyncedDeleted`
  (:643), called at :457. -/
  | mapNeverSyncedDeleted
  /-- `await this.persistPayloads(...)` in `handleNeverSyncedDeleted` (:644), and with it
  `await this.handleNeverSyncedDeleted(...)` (:457), which settles as it does. -/
  | neverSyncedDeleted
  /-- `await this.notifyEvent(SyncEvents.InitialSyncCompleted)` (:461). -/
  | initialNotify
  /-- `await this.itemsNeedingSync()` after a default-mode round (:464). -/
  | recheck
  deriving DecidableEq, Repr

/-- Where an invocation of `sync()` stands. -/
inductive Status where
  /-- Suspended at an `await`. -/
  | suspended (pc : Pc)
  /-- Returned a promise from one of the queues (:384, :386) and adopts it. -/
  | awaitsPromise (p : Nat)
  /-- Returned `this.sync()` (:463, :470) and adopts that invocation's promise. -/
  | awaitsSync (j : Nat)
  /-- Its promise is resolved (`true`) or rejected (`false`). -/
  | settled (ok : Bool)
  deriving DecidableEq, Repr

/-- One invocation of `sync()`: its arguments, where it stands, and its locals. -/
structure Task where
  args : SyncArgs
  status : Status
  /-- `items` after `subtractFromArray(items, neverSyncedDeleted)` (:352); their payloads
  are `decryptedPayloads` (:354). -/
  items : List Item := []
  neverSyncedDeleted : List Item := []
  /-- `payloadsNeedingSave` (:360). -/
  needingSave : List Item := []
  /-- `inTimeResolveQueue` (:368), kept when the invocation begins. -/
  inTimeResolveQueue : List Nat := []
  /-- The payloads handed to `payloadsByEncryptingPayloads`, i.e. uploaded (:417). -/
  upload : List Item := []
  /-- Whether `itemsNeedingSync()` at :464 found dirty items. -/
  dirtyRemaining : Bool := false
  /-- Ghost: how many queue promises existed when the invocation was called. -/
  createdAt : Nat := 0
  /-- Ghost: how many queue promises existed when it executed `setDidBegin()` (:393). -/
  beganAt : Option Nat := none
  /-- Ghost: its `operation.run()` has completed (:438). -/
  pastRun : Bool := false
  deriving DecidableEq, Repr

/-- What a queued promise was created by: `timingStrategyResolveOnNext()` (:288) or
`timingStrategyForceSpawnNew({ checkIntegrity })` (:294), whose options it keeps. -/
inductive Request where
  | resolveOnNext
  | forceSpawnNew (checkIntegrity : Option Bool)
  deriving DecidableEq, Repr

/-- The `checkIntegrity` option a queued request carries (`promise.options`, :313). -/
def Request.checkIntegrity : Request → Option Bool
  | .resolveOnNext => none
  | .forceSpawnNew ci => ci

/-- An element of `resolveQueue` (`{ resolve, reject }`) or `spawnQueue`
(`{ resolve, reject, options }`) together with the state of the promise its resolvers settle. -/
structure QueuedPromise where
  request : Request
  /-- `none` while pending, `some true` once resolved, `some false` once rejected. -/
  settledWith : Option Bool := none
  /-- The invocation `popSpawnQueue` started for this request (:311). -/
  spawned : Option Nat := none
  /-- Ghost: the invocation whose callback loop (:446–448) resolved it. -/
  resolvedBy : Option Nat := none
  deriving DecidableEq, Repr

/-- `callback.resolve()` (:447) by invocation `i`; resolving a settled promise does nothing. -/
def QueuedPromise.resolve (q : QueuedPromise) (i : Nat) : QueuedPromise :=
  if q.settledWith = none then { q with settledWith := some true, resolvedBy := some i } else q

/-- The item manager maps a new version of an item, replacing the one with its uuid. -/
def mapItem (items : List Item) (it : Item) : List Item :=
  it :: items.filter (·.uuid ≠ it.uuid)

/-- The arguments `popSpawnQueue` passes to the sync it starts for a request with options
`{ checkIntegrity }` (:311–313). -/
def spawnArgs (checkIntegrity : Option Bool) : SyncArgs :=
  { timingStrategy := some TIMING_STRATEGY_FORCE_SPAWN_NEW, checkIntegrity }

/-- The fields of `SNSyncManager` that `sync()` shares between its invocations, the item
store of the model manager, and the storage's log of saved payloads. -/
structure Conf where
  locked : Bool := false
  databaseLoaded : Bool := false
  completedInitialSync : Bool := false
  /-- `opStatus.syncInProgress`. -/
  syncInProgress : Bool := false
  /-- `state.lastPreSyncSaveDate`. `SyncState` is not under src/; `initializeState` (:77–87)
  passes it no such date, so a fresh state has none. -/
  lastPreSyncSaveDate : Option Nat := none
  resolveQueue : List Nat := []
  spawnQueue : List Nat := []
  /-- The model manager's items. -/
  items : List Item := []
  /-- Ghost: every payload handed to `storageManager.savePayloads`, in order. -/
  saved : List Item := []
  /-- The millisecond clock `new Date()` reads. -/
  now : Nat := 0
  tasks : Nat → Option Task := fun _ => none
  nextTask : Nat := 0
  promises : Nat → Option QueuedPromise := fun _ => none
  nextPromise : Nat := 0

namespace Conf

/-- The configuration of a freshly constructed manager over the model manager's `items`. -/
def init (items : List Item) (now : Nat) : Conf := { items, now }

/-- Store invocation `i`'s new record. -/
def setTask (c : Conf) (i : Nat) (t : Task) : Conf :=
  { c with tasks := Function.update c.tasks i (some t) }

/-- Store queued promise `p`'s new record. -/
def setPromise (c : Conf) (p : Nat) (q : QueuedPromise) : Conf :=
  { c with promises := Function.update c.promises p (some q) }

/-- `itemsNeedingSync()` (:213): the model manager's dirty items. -/
def itemsNeedingSync (c : Conf) : List Item := c.items.filter (·.dirty)

/-- `modelManager.mapPayloadsToLocalItems({ payloads })`: each payload replaces the item
with its uuid. -/
def mapPayloadsToLocalItems (c : Conf) (ps : List Item) : Conf :=
  { c with items := ps.foldl mapItem c.items }

/-- `persistPayloads({ decryptedPayloads })` (:648): one `savePayloads` unless empty. -/
def persistPayloads (c : Conf) (ps : List Item) : Conf :=
  if ps = [] then c else { c with saved := c.saved ++ ps }

/-- `popPayloadsNeedingPreSyncSave(from)` (:275–286): everything when no pre-sync save
date is set; otherwise the payloads dirtied after it (or with no `dirtiedDate`), and the
date moves to now. -/
def popPayloadsNeedingPreSyncSave (c : Conf) (src : List Item) : Conf × List Item :=
  match c.lastPreSyncSaveDate with
  | none => (c, src)
  | some last =>
    ({ c with lastPreSyncSaveDate := some c.now },
      src.filter fun p => p.dirtiedDate.all (last < ·))

/-- `timingStrategyResolveOnNext()` (:288): a fresh promise on `resolveQueue`. -/
def timingStrategyResolveOnNext (c : Conf) : Conf × Nat :=
  ({ c with promises := Function.update c.promises c.nextPromise (some ⟨.resolveOnNext, none, none, none⟩)
            nextPromise := c.nextPromise + 1
            resolveQueue := c.resolveQueue ++ [c.nextPromise] }, c.nextPromise)

/-- `timingStrategyForceSpawnNew({ checkIntegrity })` (:294): a fresh promise on
`spawnQueue`, keeping only the `checkIntegrity` option (:386). -/
def timingStrategyForceSpawnNew (c : Conf) (ci : Option Bool) : Conf × Nat :=
  ({ c with promises :=
              Function.update c.promises c.nextPromise (some ⟨.forceSpawnNew ci, none, none, none⟩)
            nextPromise := c.nextPromise + 1
            spawnQueue := c.spawnQueue ++ [c.nextPromise] }, c.nextPromise)

/-- The record of a new invocation `sync(a)` after the code before its first `await`
(:339–344): a locked manager returns at once (`'Sync Locked'`); otherwise the dirty items
are read. -/
def invocation (c : Conf) (a : SyncArgs) : Task :=
  if c.locked then { args := a, status := .settled true, createdAt := c.nextPromise }
  else { args := a, status := .suspended .itemsNeedingSync, items := c.itemsNeedingSync,
         createdAt := c.nextPromise }

/-- A call `sync(a)`, as a new invocation at the next free index, which is returned. -/
def sync (c : Conf) (a : SyncArgs) : Conf × Nat :=
  ({ c with tasks := Function.update c.tasks c.nextTask (some (c.invocation a)),
            nextTask := c.nextTask + 1 }, c.nextTask)

/-- `popSpawnQueue()` (:304–319): start a force-spawn-new sync for the oldest request, with
that request's options, and record the invocation whose outcome will settle it. The flag
says whether the queue was non-empty (the returned promise is truthy). -/
def popSpawnQueue (c : Conf) : Conf × Bool :=
  match c.spawnQueue with
  | [] => (c, false)
  | p :: rest =>
    match c.promises p with
    | some q =>
      let r := { c with spawnQueue := rest }.sync (spawnArgs q.request.checkIntegrity)
      (r.1.setPromise p { q with spawned := some r.2 }, true)
    | none => ({ c with spawnQueue := rest }, true)

/-- Modelled from the spec: `SyncOpStatus` is not under src/. Its `reset()`, called when an
operation completes (:623) and on sign-out (:676), returns the status to that of a fresh
`SyncOpStatus`, with no sync in progress. -/
def resetOpStatus (c : Conf) : Conf := { c with syncInProgress := false }

/-- The callback loop of invocation `i`, which began with `inTimeResolveQueue = q`, and
`subtractFromArray(this.resolveQueue, inTimeResolveQueue)` (:446–449). -/
def resolveInTime (c : Conf) (i : Nat) (q : List Nat) : Conf :=
  { c with promises := fun p => if p ∈ q then (c.promises p).map (·.resolve i) else c.promises p
           resolveQueue := c.resolveQueue.filter (· ∉ q) }

/-- `if (!this.popSpawnQueue() && this.resolveQueue.length > 0) this.sync()` (:450–454). -/
def drainQueues (c : Conf) : Conf :=
  let r := c.popSpawnQueue
  if !r.2 && !r.1.resolveQueue.isEmpty then (r.1.sync {}).1 else r.1

/-- The payloads `handleNeverSyncedDeleted(items)` maps and persists: the items with
`dirty: false` (:637–642). -/
def neverSyncedDeletedPayloads (items : List Item) : List Item :=
  items.map fun it => { it with dirty := false }

/-- `handleNeverSyncedDeleted(items)` (:636–646) up to its first `await`: map the payloads.
It persists them only once the map has resolved (`afterMapNeverSyncedDeleted`). -/
def handleNeverSyncedDeleted (c : Conf) (ps : List Item) : Conf :=
  c.mapPayloadsToLocalItems (neverSyncedDeletedPayloads ps)

/-- `handleSignOut()` (:674–680): `state.reset()` (which clears the pre-sync save date, as a
fresh `SyncState` has none), `opStatus.reset()`, and both queues emptied. -/
def handleSignOut (c : Conf) : Conf :=
  { c.resetOpStatus with lastPreSyncSaveDate := none, resolveQueue := [], spawnQueue := [] }

/-! ## The code between two `await`s -/

/-- Resuming at :344: set aside the never-synced deleted items, then run the synchronous body
of `popPayloadsNeedingPreSyncSave`. -/
def afterItemsNeedingSync (c : Conf) (i : Nat) (t : Task) : Conf :=
  let nsd := t.items.filter fun it => it.neverSynced && it.deleted
  let items := t.items.filter fun it => !(it.neverSynced && it.deleted)
  let r := c.popPayloadsNeedingPreSyncSave items
  r.1.setTask i { t with items, neverSyncedDeleted := nsd, needingSave := r.2,
                         status := .suspended .presaveFilter }

/-- Resuming at :360: call `persistPayloads` on the payloads needing a pre-sync save. -/
def afterPresaveFilter (c : Conf) (i : Nat) (t : Task) : Conf :=
  (c.persistPayloads t.needingSave).setTask i { t with status := .suspended .persist }

/-- Resuming at :363 (:367–399): queue behind a sync in progress (or an unloaded database)
according to the timing strategy, or take `inTimeResolveQueue` and begin (`setDidBegin`). -/
def afterPersist (c : Conf) (i : Nat) (t : Task) : Conf :=
  let useStrategy := t.args.timingStrategy.getD TIMING_STRATEGY_RESOLVE_ON_NEXT
  if c.syncInProgress || !c.databaseLoaded then
    if useStrategy = TIMING_STRATEGY_RESOLVE_ON_NEXT then
      let r := c.timingStrategyResolveOnNext
      r.1.setTask i { t with status := .awaitsPromise r.2 }
    else if useStrategy = TIMING_STRATEGY_FORCE_SPAWN_NEW then
      let r := c.timingStrategyForceSpawnNew t.args.checkIntegrity
      r.1.setTask i { t with status := .awaitsPromise r.2 }
    else c.setTask i { t with status := .settled false }
  else
    { c with syncInProgress := true }.setTask i
      { t with inTimeResolveQueue := c.resolveQueue, beganAt := some c.nextPromise,
               status := .suspended .setItemsProperties }

/-- Resuming at :411: a default-mode sync raises unless the initial sync completed; a
default-mode sync encrypts its payloads, an initial one uploads nothing. -/
def afterOnline (c : Conf) (i : Nat) (t : Task) : Conf :=
  let useMode := t.args.mode.getD SYNC_MODE_DEFAULT
  if useMode = SYNC_MODE_DEFAULT then
    if !c.completedInitialSync then c.setTask i { t with status := .settled false }
    else c.setTask i { t with status := .suspended .encrypt }
  else if useMode = SYNC_MODE_INITIAL then
    c.setTask i { t with upload := [], status := .suspended .operation }
  else c.setTask i { t with status := .suspended .operation }

/-- Resuming at :438, the run completed (:440–456): `setDidEnd()`, the in-time callbacks,
the next spawn request or a sync for the resolve queue, then the synchronous start of
`handleSyncOperationCompletion` (`opStatus.reset()`). The invocation's own record is written
first: none of this code reads it. -/
def afterRun (c : Conf) (i : Nat) (t : Task) : Conf :=
  let c := c.setTask i { t with pastRun := true, status := .suspended .completion }
  ({ c with syncInProgress := false }.resolveInTime i t.inTimeResolveQueue).drainQueues.resetOpStatus

/-- Resuming inside `handleNeverSyncedDeleted` at :643, the map resolved: persist the
payloads it mapped. -/
def afterMapNeverSyncedDeleted (c : Conf) (i : Nat) (t : Task) : Conf :=
  (c.persistPayloads (neverSyncedDeletedPayloads t.neverSyncedDeleted)).setTask i
    { t with status := .suspended .neverSyncedDeleted }

/-- Resuming at :457: an initial-mode sync records that the initial sync completed (:460);
a default-mode one checks for items dirtied meanwhile (:464). -/
def afterNeverSyncedDeleted (c : Conf) (i : Nat) (t : Task) : Conf :=
  if t.args.mode.getD SYNC_MODE_DEFAULT = SYNC_MODE_INITIAL then
    { c with completedInitialSync := true }.setTask i { t with status := .suspended .initialNotify }
  else
    c.setTask i { t with dirtyRemaining := !c.itemsNeedingSync.isEmpty, status := .suspended .recheck }

/-- `return this.sync()` (:463, :470): a new default sync whose promise invocation `i` adopts. -/
def chainSync (c : Conf) (i : Nat) (t : Task) : Conf :=
  let r := c.sync {}
  r.1.setTask i { t with status := .awaitsSync r.2 }

/-- The code run when invocation `i` resumes at `pc` with the awaited value. -/
def continueFrom (c : Conf) (i : Nat) (t : Task) : Pc → Conf
  | .itemsNeedingSync => c.afterItemsNeedingSync i t
  | .presaveFilter => c.afterPresaveFilter i t
  | .persist => c.afterPersist i t
  | .setItemsProperties => c.setTask i { t with status := .suspended .online }
  | .online => c.afterOnline i t
  | .encrypt => c.setTask i { t with upload := t.items, status := .suspended .operation }
  | .operation => c.setTask i { t with status := .suspended .run }
  | .run => c.afterRun i t
  | .completion =>
    (c.handleNeverSyncedDeleted t.neverSyncedDeleted).setTask i
      { t with status := .suspended .mapNeverSyncedDeleted }
  | .mapNeverSyncedDeleted => c.afterMapNeverSyncedDeleted i t
  | .neverSyncedDeleted => c.afterNeverSyncedDeleted i t
  | .initialNotify => c.chainSync i t
  | .recheck => if t.dirtyRemaining then c.chainSync i t else c.setTask i { t with status := .settled true }

/-- Invocation `i`'s awaited promise settles: with a value (`ok`), the next piece of code runs;
rejected, the exception leaves `sync()` uncaught. -/
def resume (c : Conf) (i : Nat) (ok : Bool) : Conf :=
  match c.tasks i with
  | some t =>
    match t.status with
    | .suspended pc => if ok then c.continueFrom i t pc else c.setTask i { t with status := .settled false }
    | _ => c
  | none => c

/-- An invocation that returned a promise settles once that promise has. -/
def settleInvocation (c : Conf) (i : Nat) : Conf :=
  match c.tasks i with
  | some t =>
    match t.status with
    | .awaitsPromise p =>
      match (c.promises p).bind (·.settledWith) with
      | some r => c.setTask i { t with status := .settled r }
      | none => c
    | .awaitsSync j =>
      match (c.tasks j).map (·.status) with
      | some (Status.settled r) => c.setTask i { t with status := .settled r }
      | _ => c
    | _ => c
  | none => c

/-- `.then(() => promise.resolve()).catch(() => promise.reject())` (:314–318): a spawn
request settles as the invocation started for it did. -/
def settleSpawnRequest (c : Conf) (p : Nat) : Conf :=
  match c.promises p with
  | some q =>
    match q.settledWith, q.spawned with
    | none, some j =>
      match (c.tasks j).map (·.status) with
      | some (Status.settled r) => c.setPromise p { q with settledWith := some r }
      | _ => c
    | _, _ => c
  | none => c

/-- A pending spawn request whose invocation has settled settles the same way. -/
theorem settleSpawnRequest_of_settled {c : Conf} {p j : Nat} {q : QueuedPromise} {r : Bool}
    (hp : c.promises p = some q) (hq : q.settledWith = none) (hj : q.spawned = some j)
    (hr : (c.tasks j).map (·.status) = some (.settled r)) :
    c.settleSpawnRequest p = c.setPromise p { q with settledWith := some r } := by
  simp only [settleSpawnRequest, hp, hq, hj, hr]

end Conf

/-- What can happen next. -/
inductive Act where
  /-- A caller invokes `sync(args)`. -/
  | sync (args : SyncArgs)
  /-- What invocation `i` awaits settles, with a value (`true`) or rejected (`false`). -/
  | resume (i : Nat) (ok : Bool)
  /-- During invocation `i`'s `operation.run()`, `handleSuccessServerResponse` finds the
  integrity check failing and calls `sync({ checkIntegrity: true, FORCE_SPAWN_NEW })` (:611–616). -/
  | integritySync (i : Nat)
  | settleInvocation (i : Nat)
  | settleSpawnRequest (p : Nat)
  | lockSyncing
  | unlockSyncing
  | handleSignOut
  /-- The item manager maps a new version of an item (an edit dirties it). -/
  | mapItem (it : Item)
  /-- `loadDatabasePayloads` finishes (`databaseLoaded = true`, :175). -/
  | loadDatabase
  | tick
  deriving DecidableEq, Repr

/-- The arguments of the integrity-triggered sync (:612–615). -/
def integrityArgs : SyncArgs :=
  { timingStrategy := some TIMING_STRATEGY_FORCE_SPAWN_NEW, checkIntegrity := some true }

namespace Conf

/-- One step of the manager and its callers. -/
def step (c : Conf) : Act → Conf
  | .sync a => (c.sync a).1
  | .resume i ok => c.resume i ok
  | .integritySync i =>
    if (c.tasks i).map (·.status) = some (.suspended .run) then (c.sync integrityArgs).1 else c
  | .settleInvocation i => c.settleInvocation i
  | .settleSpawnRequest p => c.settleSpawnRequest p
  | .lockSyncing => { c with locked := true }
  | .unlockSyncing => { c with locked := false }
  | .handleSignOut => c.handleSignOut
  | .mapItem it => { c with items := mapItem c.items it }
  | .loadDatabase => { c with databaseLoaded := true }
  | .tick => { c with now := c.now + 1 }

/-- A schedule of steps. -/
def run (c : Conf) (acts : List Act) : Conf := acts.foldl step c

@[simp] theorem run_nil (c : Conf) : c.run [] = c := rfl

@[simp] theorem run_cons (c : Conf) (a : Act) (acts : List Act) :
    c.run (a :: acts) = (c.step a).run acts := rfl

theorem run_append (c : Conf) (as bs : List Act) : c.run (as ++ bs) = (c.run as).run bs :=
  List.foldl_append _ _ _ _

/-- Run induction: a property kept by every allowed step holds after every schedule of
allowed steps. -/
theorem run_induction {P : Conf → Prop} (allowed : Act → Prop)
    (hstep : ∀ c a, allowed a → P c → P (c.step a)) :
    ∀ (acts : List Act) {c : Conf}, (∀ a ∈ acts, allowed a) → P c → P (c.run acts)
  | [], _, _, h => h
  | a :: acts, _, hall, h =>
    run_induction allowed hstep acts (fun b hb => hall b (.tail _ hb))
      (hstep _ a (hall a (.head _)) h)

end Conf

end Snjs.Sync
