import Mathlib.Logic.Function.Basic
import Mathlib.Order.MinMax

/-!
# `SNKeyRecoveryService` as a cooperative state machine

The key recovery service (migration_service.ts:224–690) reacts to items keys that arrive
undecryptable. Its work runs as `async` invocations on the one JavaScript thread, each
suspended at an `await` until what it awaits settles:

- a *handler*: `handleIgnoredItemsKeys`, `handleUndecryptableItemsKeys` or
  `processPersistedUndecryptables`, through `saveToUndecryptables`, `addKeysToQueue` and the
  `beginProcessingQueue` it awaits, whose loop pops the queue one item at a time;
- `popQueueItem(queueItem)`, which the loop starts without awaiting it and whose item's
  promise it awaits instead;
- the continuation the loop registers on `queuePromise` when the queue is empty (:529–549);
- `removeFromUndecryptables(key)`, started without an `await` by the callback of an ignored
  key once it is recovered (:313–318).

`Svc` holds the fields these share: the queue and its guard, the server's key params, the
protocol service's root key, the non-errored local items keys, and the stored
`KeyRecoveryUndecryptableItems` record. `Svc.step` is total (a step that is not enabled
leaves the service as it is) and `Svc.run` folds it over a schedule. The histories `resolved`
and `called` of a queue item are ghost fields: they record each call of one of its `resolve`
functions and of its callback.

Awaits whose code between them touches no modelled field are merged into one; alerts,
challenges' dismissal, `savePayloads` of recovered keys and the out-of-sync check are not
modelled.
-/

namespace Snjs.KeyRecovery

/-- Modelled from the spec: `SNRootKeyParams` is not under src/. Key params are a protocol
version and the salt inputs that re-derive a root key from a password (§3, KeyParams);
`compare` is equality of the two. -/
structure KeyParams where
  version : Nat
  salt : Nat
  deriving DecidableEq, Repr

/-- Modelled from the spec: `leftVersionGreaterThanOrEqualToRight` is not under src/.
Versions compare as decimal numbers (§3, version ordering). -/
def leftVersionGreaterThanOrEqualToRight (left right : Nat) : Bool := decide (right ≤ left)

/-- A root key, as `computeRootKey(password, keyParams)` derives it. -/
structure RootKey where
  password : Nat
  keyParams : KeyParams
  deriving DecidableEq, Repr

/-- The fields of an items key the service reads: its uuid, `created_at`, the key params
embedded in it (`protocolService.getKeyEmbeddedKeyParams`), and the root key its content is
encrypted under. -/
structure ItemsKey where
  uuid : Nat
  createdAt : Nat
  keyParams : Option KeyParams
  encryptedWith : RootKey
  deriving DecidableEq, Repr

/-- Modelled from the spec: decryption is not under src/. Content is authenticated (§3), so
`payloadByDecryptingPayload(key.payload, rootKey)` succeeds with the root key the key was
encrypted under and errs with any other. -/
def ItemsKey.decryptsWith (k : ItemsKey) (rk : RootKey) : Bool := decide (k.encryptedWith = rk)

/-- A `DecryptionQueueItem` (:203–209) and the history of its promises. -/
structure QueueItem where
  key : ItemsKey
  keyParams : KeyParams
  /-- Whether it carries the callback of `handleIgnoredItemsKeys` (:313–318). -/
  callback : Bool
  /-- Its current promise; `readdQueueItem` makes a new one (:480–486). -/
  gen : Nat := 0
  /-- Ghost: each call of one of its `resolve` functions: the promise and `result.success`. -/
  resolved : List (Nat × Bool) := []
  /-- Ghost: each call of its callback, with `result.success`. -/
  called : List Bool := []
  deriving DecidableEq, Repr

/-- Where a handler stands, the `beginProcessingQueue` it awaits included. -/
inductive HandlerPc
  /-- `processPersistedUndecryptables`: `await this.getUndecryptables()` (:335). -/
  | loadRecord
  /-- `saveToUndecryptables(keys)`: `await this.getUndecryptables()` (:363). -/
  | saveRead (keys : List ItemsKey)
  /-- `await this.persistUndecryptables(record)` (:368). -/
  | saveWrite (keys : List ItemsKey) (record : List ItemsKey)
  /-- `addKeysToQueue`: `await getKeyEmbeddedKeyParams` of the first key left (:463); with
  none left, the `await this.addKeysToQueue(...)` of the handler (:318, :330). -/
  | addKeys (keys : List ItemsKey)
  /-- `beginProcessingQueue`: `await this.getClientKeyParams()` (:494). -/
  | clientParams
  /-- `await this.apiService.getAccountKeyParams(...)` (:497). -/
  | fetchServerParams
  /-- `await this.performServerSignIn(queueItem.keyParams)` (:512). -/
  | signIn (q : Nat)
  /-- `handleDecryptionOfAllKeysMatchingCorrectRootKey(rootKey, true)`:
  `await this.protocolService.setRootKey(...)` (:652–654). -/
  | signInRootKey (q : Nat) (rootKey : RootKey)
  /-- The same call's `await payloadsByDecryptingPayloads(...)` and `savePayloads` (:657–665). -/
  | signInSave (q : Nat) (rootKey : RootKey) (matching : List Nat)
  /-- `await queueItem.promise` (:524). -/
  | awaitItem (q : Nat) (gen : Nat)
  deriving DecidableEq, Repr

/-- Where a `popQueueItem` invocation stands. -/
inductive PopPc
  /-- `await this.getClientKeyParams()` (:566). -/
  | clientParams
  /-- `await this.challengeService.promptForChallengeResponse(challenge)` (:600). -/
  | prompt (replacesRootKey : Bool)
  /-- `await computeRootKey(...)` and `await payloadByDecryptingPayload(...)` (:612–619). -/
  | decrypt (replacesRootKey : Bool) (rootKey : RootKey)
  /-- `handleDecryptionOfAllKeysMatchingCorrectRootKey(rootKey, true, ...)` on a device with a
  passcode: `getWrappingKeyIfApplicable()` awaits the passcode challenge
  (`challengeService.getWrappingKeyIfApplicable()`, :443–446); a cancel is alerted and the
  challenge shown again (:447–454). -/
  | passcode (rootKey : RootKey)
  /-- The same call's `await this.protocolService.setRootKey(...)` (:652–654). -/
  | setRootKey (rootKey : RootKey)
  /-- The same call's `await payloadsByDecryptingPayloads(...)` and `savePayloads`
  (:657–665). -/
  | save (rootKey : RootKey) (matching : List Nat)
  /-- `await this.alertService.alert(KeyRecoveryUnableToRecover)` (:640). -/
  | alert
  deriving DecidableEq, Repr

/-- Where the `queuePromise` continuation stands. -/
inductive ContPc
  /-- Registered, not yet run (:529). -/
  | pending
  /-- `await this.getClientKeyParams()` (:532). -/
  | clientParams
  /-- `await this.performServerSignIn(this.serverParams)` (:543). -/
  | signIn
  deriving DecidableEq, Repr

/-- Where a `removeFromUndecryptables(key)` invocation stands. -/
inductive RemovePc
  /-- `await this.getUndecryptables()` (:373). -/
  | read
  /-- `await this.persistUndecryptables(record)` (:375). -/
  | write (record : List ItemsKey)
  deriving DecidableEq, Repr

/-- A running invocation. -/
inductive Proc
  /-- A handler; `callback` says whether the keys it enqueues carry the callback of
  `handleIgnoredItemsKeys`. -/
  | handler (callback : Bool) (pc : HandlerPc)
  /-- `popQueueItem` of item `q`, whose `resolve` for promise `gen` it holds (:559). -/
  | pop (q : Nat) (gen : Nat) (pc : PopPc)
  | continuation (pc : ContPc)
  | remove (uuid : Nat) (pc : RemovePc)
  deriving DecidableEq, Repr

/-- The fields of `SNKeyRecoveryService` and of the services it reads that the recovery flow
shares between its invocations. -/
structure Svc where
  /-- `decryptionQueue`, as indices of `queueItems`. -/
  decryptionQueue : List Nat := []
  queueItems : Nat → Option QueueItem := fun _ => none
  nextItem : Nat := 0
  isProcessingQueue : Bool := false
  serverParams : Option KeyParams := none
  /-- `protocolService.hasAccount()`. -/
  hasAccount : Bool
  /-- `protocolService.hasPasscode()`. -/
  hasPasscode : Bool
  /-- The protocol service's root key; its key params are the account's. -/
  rootKey : Option RootKey
  /-- `itemManager.nonErroredItemsForContentType(ContentType.ItemsKey)`. -/
  localKeys : List ItemsKey
  /-- The stored `KeyRecoveryUndecryptableItems` record, one entry per uuid; an absent
  record reads as an empty one. -/
  undecryptables : List ItemsKey := []
  procs : Nat → Option Proc := fun _ => none
  nextProc : Nat := 0

/-- A freshly constructed service (:236–265), over the protocol service's account, passcode
and root key, the non-errored local items keys, and the stored record. -/
def Svc.init (hasAccount hasPasscode : Bool) (rootKey : Option RootKey)
    (localKeys undecryptables : List ItemsKey) : Svc :=
  { hasAccount, hasPasscode, rootKey, localKeys, undecryptables }

/-! ## Pieces of the service's code -/

/-- `serverKeyParamsAreSafe(clientParams)` (:386–391): the server's version is at least the
argument's. -/
def serverKeyParamsAreSafe (serverParams clientParams : KeyParams) : Bool :=
  leftVersionGreaterThanOrEqualToRight serverParams.version clientParams.version

/-- `!hasLocalItemsKey || isNewerThanLatest` (:576–584): the key is newer than the latest
non-errored local items key (`dateSorted(..., CreatedAt, false)[0]`), or there is none. -/
def newerThanLocalKeys (key : ItemsKey) (localKeys : List ItemsKey) : Bool :=
  match (localKeys.map (·.createdAt)).max? with
  | none => true
  | some latest => decide (latest < key.createdAt)

/-- `replacesRootKey` (:565–585), computed by `popQueueItem` for a key with params
`keyParams`: the server's params are known and differ from the client's, the key's params
are the server's, `serverKeyParamsAreSafe(this.serverParams)` holds, and the key is newer than
the local items keys. -/
def replacesRootKey (serverParams clientParams : Option KeyParams) (keyParams : KeyParams)
    (key : ItemsKey) (localKeys : List ItemsKey) : Bool :=
  match serverParams, clientParams with
  | some sp, some cp =>
    if cp ≠ sp ∧ keyParams = sp ∧ serverKeyParamsAreSafe sp sp = true then
      newerThanLocalKeys key localKeys
    else false
  | _, _ => false

/-- `record[key.uuid] = key.payload.ejected()` (:365–367), the record in the order of its
members: an existing uuid keeps its place, a new one goes last (a uuid is never an array index,
which JavaScript would put first). -/
def putKey (record : List ItemsKey) (k : ItemsKey) : List ItemsKey :=
  if record.any (·.uuid = k.uuid) then record.map fun l => if l.uuid = k.uuid then k else l
  else record ++ [k]

namespace Svc

/-- `getClientKeyParams()` (:382): the account's key params. -/
def clientKeyParams (s : Svc) : Option KeyParams :=
  if s.hasAccount then s.rootKey.map (·.keyParams) else none

def setProc (s : Svc) (i : Nat) (p : Option Proc) : Svc :=
  { s with procs := Function.update s.procs i p }

/-- Start an invocation at the next free index. -/
def spawn (s : Svc) (p : Proc) : Svc :=
  { s with procs := Function.update s.procs s.nextProc (some p), nextProc := s.nextProc + 1 }

def setItem (s : Svc) (q : Nat) (it : QueueItem) : Svc :=
  { s with queueItems := Function.update s.queueItems q (some it) }

/-- `this.decryptionQueue.push(queueItem)` (:474–477) for a key with params. -/
def pushKey (s : Svc) (k : ItemsKey) (kp : KeyParams) (callback : Bool) : Svc :=
  { s with queueItems := Function.update s.queueItems s.nextItem (some ⟨k, kp, callback, 0, [], []⟩)
           nextItem := s.nextItem + 1
           decryptionQueue := s.decryptionQueue ++ [s.nextItem] }

/-- `readdQueueItem(queueItem)` (:480–486): a new promise, and back to the front. -/
def readdQueueItem (s : Svc) (q : Nat) : Svc :=
  match s.queueItems q with
  | some it => { s.setItem q { it with gen := it.gen + 1 } with
                 decryptionQueue := q :: s.decryptionQueue }
  | none => s

/-- `popQueueForKeyParams(keyParams)` (:674–689): the items with those params leave the
queue and are returned. -/
def popQueueForKeyParams (s : Svc) (kp : KeyParams) : Svc × List Nat :=
  let isMatch q := decide ((s.queueItems q).map (·.keyParams) = some kp)
  ({ s with decryptionQueue := s.decryptionQueue.filter fun q => !isMatch q },
    s.decryptionQueue.filter isMatch)

/-- A `resolve` of item `q`'s promise `gen` is called with `{ success }`. -/
def resolveItem (s : Svc) (q gen : Nat) (success : Bool) : Svc :=
  match s.queueItems q with
  | some it => s.setItem q { it with resolved := it.resolved ++ [(gen, success)] }
  | none => s

/-- `queueItem.callback?.(key, result)`: the callback of an ignored key removes it from the
record when `success` (:313–318), without awaiting. -/
def callBack (s : Svc) (q : Nat) (success : Bool) : Svc :=
  match s.queueItems q with
  | some it =>
    if it.callback then
      let s := s.setItem q { it with called := it.called ++ [success] }
      if success then s.spawn (.remove it.key.uuid .read) else s
    else s
  | none => s

/-- `match.resolve!(result); match.callback?.(match.key, result)` for each matching item
(:634–637), each with its current promise. -/
def resolveMatching (s : Svc) (matching : List Nat) : Svc :=
  matching.foldl (fun s m =>
    match s.queueItems m with
    | some it => (s.resolveItem m it.gen true).callBack m true
    | none => s) s

/-- `payloadManager.emitPayloads(...)` of recovered keys: those that decrypt with `rk` join
the non-errored local items keys. -/
def emitKeys (s : Svc) (rk : RootKey) (ks : List ItemsKey) : Svc :=
  { s with localKeys := ks.filter (·.decryptsWith rk) ++ s.localKeys }

/-- The keys of the matching items. -/
def keysOf (s : Svc) (qs : List Nat) : List ItemsKey :=
  qs.filterMap fun q => (s.queueItems q).map (·.key)

/-! ## The code between two `await`s -/

/-- `beginProcessingQueue()` (:488–492) up to its first `await`, called by handler `i`. -/
def beginProcessingQueue (s : Svc) (i : Nat) (cb : Bool) : Svc :=
  if s.isProcessingQueue then s.setProc i none
  else { s with isProcessingQueue := true }.setProc i (some (.handler cb .clientParams))

/-- The loop at :522–527 with `queueItem = q?`: start `popQueueItem(queueItem)` up to its
first `await` (:552–566) and await the item's promise; with no item, register the
continuation on `queuePromise` (:529) and return. -/
def loop (s : Svc) (i : Nat) (cb : Bool) (queueItem : Option Nat) : Svc :=
  match queueItem with
  | none => (s.setProc i none).spawn (.continuation .pending)
  | some q =>
    match s.queueItems q with
    | some it =>
      (({ s with decryptionQueue := s.decryptionQueue.erase q }).spawn
        (.pop q it.gen .clientParams)).setProc i (some (.handler cb (.awaitItem q it.gen)))
    | none => s.setProc i none

/-- :506–513: without account or passcode, sign in with the first item's params; an empty
queue makes `queueItem.keyParams` raise. -/
def credentialsCheck (s : Svc) (i : Nat) (cb : Bool) : Svc :=
  if !s.hasAccount && !s.hasPasscode then
    match s.decryptionQueue.head? with
    | some q => s.setProc i (some (.handler cb (.signIn q)))
    | none => s.setProc i none
  else s.loop i cb s.decryptionQueue.head?

/-- Handler `i` resumes at `pc`; `answer` is what a prompt returned. -/
def resumeHandler (s : Svc) (i : Nat) (cb : Bool) (answer : Option Nat) : HandlerPc → Svc
  | .loadRecord =>
    if s.undecryptables.isEmpty then s.setProc i none
    else s.setProc i (some (.handler true (.addKeys s.undecryptables)))
  | .saveRead keys =>
    s.setProc i (some (.handler cb (.saveWrite keys (keys.foldl putKey s.undecryptables))))
  | .saveWrite keys record =>
    { s with undecryptables := record }.setProc i (some (.handler cb (.addKeys keys)))
  | .addKeys [] => s.beginProcessingQueue i cb
  | .addKeys (k :: ks) =>
    let s := match k.keyParams with
      | some kp => s.pushKey k kp cb
      | none => s
    s.setProc i (some (.handler cb (.addKeys ks)))
  | .clientParams =>
    if s.serverParams.isNone && s.clientKeyParams.isSome then
      s.setProc i (some (.handler cb .fetchServerParams))
    else s.credentialsCheck i cb
  | .fetchServerParams => s.credentialsCheck i cb
  | .signIn q =>
    match answer, s.queueItems q with
    | some pw, some it =>
      { s with hasAccount := true, rootKey := some ⟨pw, it.keyParams⟩ }.setProc i
        (some (.handler cb (.signInRootKey q ⟨pw, it.keyParams⟩)))
    | _, _ => s.loop i cb (some q)
  | .signInRootKey q rk =>
    let r := { s with rootKey := some rk }.popQueueForKeyParams rk.keyParams
    r.1.setProc i (some (.handler cb (.signInSave q rk r.2)))
  | .signInSave q rk matching =>
    let s := (s.emitKeys rk (s.keysOf matching))
    let s := { s with decryptionQueue := s.decryptionQueue.erase q }
    s.loop i cb s.decryptionQueue.head?
  | .awaitItem q gen =>
    if ((s.queueItems q).map fun it => it.resolved.any (·.1 = gen)) = some true then
      s.loop i cb s.decryptionQueue.head?
    else s

/-- The server answers `getAccountKeyParams` (:497–504) for handler `i`. -/
def fetched (s : Svc) (i : Nat) (cb : Bool) (params : Option KeyParams) : Svc :=
  match params with
  | some p => { s with serverParams := some p }.credentialsCheck i cb
  | none => s.credentialsCheck i cb

/-- `popQueueItem` `i` of item `q` (promise `gen`) resumes at `pc`. -/
def resumePop (s : Svc) (i q gen : Nat) (answer : Option Nat) : PopPc → Svc
  | .clientParams =>
    match s.queueItems q with
    | some it =>
      s.setProc i (some (.pop q gen (.prompt
        (replacesRootKey s.serverParams s.clientKeyParams it.keyParams it.key s.localKeys))))
    | none => s.setProc i none
  | .prompt replaces =>
    match answer, s.queueItems q with
    | some pw, some it => s.setProc i (some (.pop q gen (.decrypt replaces ⟨pw, it.keyParams⟩)))
    | _, _ => ((s.resolveItem q gen false).callBack q false).setProc i none
  | .decrypt replaces rk =>
    match s.queueItems q with
    | some it =>
      if it.key.decryptsWith rk then
        -- without a passcode `getWrappingKeyIfApplicable()` returns at once (:439–441)
        if replaces then
          s.setProc i (some (.pop q gen (if s.hasPasscode then .passcode rk else .setRootKey rk)))
        else
          let r := s.popQueueForKeyParams rk.keyParams
          r.1.setProc i (some (.pop q gen (.save rk r.2)))
      else s.setProc i (some (.pop q gen .alert))
    | none => s.setProc i none
  | .passcode rk =>
    match answer with
    | some _ => s.setProc i (some (.pop q gen (.setRootKey rk)))
    | none => s.setProc i (some (.pop q gen (.passcode rk)))
  | .setRootKey rk =>
    let r := { s with rootKey := some rk }.popQueueForKeyParams rk.keyParams
    r.1.setProc i (some (.pop q gen (.save rk r.2)))
  | .save rk matching =>
    let s := s.emitKeys rk (s.keysOf (q :: matching))
    (((s.resolveItem q gen true).callBack q true).resolveMatching matching).setProc i none
  | .alert => ((s.readdQueueItem q).resolveItem q gen false).setProc i none

/-- The continuation `i` resumes at `pc`: it lowers the guard, then signs in with the server's
params when they are at least as new as the client's and differ from them (:529–548). -/
def resumeContinuation (s : Svc) (i : Nat) (answer : Option Nat) : ContPc → Svc
  | .pending =>
    let s := { s with isProcessingQueue := false }
    if s.serverParams.isSome then s.setProc i (some (.continuation .clientParams))
    else s.setProc i none
  | .clientParams =>
    match s.serverParams, s.clientKeyParams with
    | some sp, some cp =>
      if serverKeyParamsAreSafe sp cp && cp ≠ sp then s.setProc i (some (.continuation .signIn))
      else s.setProc i none
    | _, _ => s.setProc i none
  | .signIn =>
    match answer, s.serverParams with
    | some pw, some sp => { s with hasAccount := true, rootKey := some ⟨pw, sp⟩ }.setProc i none
    | _, _ => s.setProc i none

/-- `removeFromUndecryptables` `i` of key `uuid` resumes at `pc` (:371–376). -/
def resumeRemove (s : Svc) (i uuid : Nat) : RemovePc → Svc
  | .read => s.setProc i (some (.remove uuid (.write (s.undecryptables.filter (·.uuid ≠ uuid)))))
  | .write record => { s with undecryptables := record }.setProc i none

/-- Invocation `i` resumes, with a prompt's answer where one is awaited. -/
def resume (s : Svc) (i : Nat) (answer : Option Nat) : Svc :=
  match s.procs i with
  | some (.handler cb pc) =>
    if pc = .fetchServerParams then s else s.resumeHandler i cb answer pc
  | some (.pop q gen pc) => s.resumePop i q gen answer pc
  | some (.continuation pc) => s.resumeContinuation i answer pc
  | some (.remove uuid pc) => s.resumeRemove i uuid pc
  | none => s

/-- The item observer (:250–264) sees items keys change from a source other than a local
change: the errored changed or inserted ones, and the ignored ones. -/
def itemsKeysObserved (s : Svc) (changed ignored : List ItemsKey) : Svc :=
  let s := if changed.isEmpty then s else s.spawn (.handler false (.addKeys changed))
  if ignored.isEmpty then s else s.spawn (.handler true (.saveRead ignored))

end Svc

/-- What can happen next. -/
inductive Act
  /-- The item observer fires. -/
  | itemsKeysObserved (changed ignored : List ItemsKey)
  /-- `handleApplicationStage(LoadedDatabase_12)` starts `processPersistedUndecryptables`
  (:284–289). -/
  | loadedDatabase
  /-- What invocation `i` awaits settles; `answer` is the password a prompt returns, `none`
  when it is canceled. A passcode challenge, whose validation the challenge service (not under
  src/) makes, is completed with any `some`. -/
  | resume (i : Nat) (answer : Option Nat)
  /-- The server answers the key params request of invocation `i`. -/
  | fetched (i : Nat) (params : Option KeyParams)
  deriving DecidableEq, Repr

namespace Svc

/-- One step of the service and its environment. -/
def step (s : Svc) : Act → Svc
  | .itemsKeysObserved changed ignored => s.itemsKeysObserved changed ignored
  | .loadedDatabase => s.spawn (.handler true .loadRecord)
  | .resume i answer => s.resume i answer
  | .fetched i params =>
    match s.procs i with
    | some (.handler cb .fetchServerParams) => s.fetched i cb params
    | _ => s

/-- A schedule of steps. -/
def run (s : Svc) (acts : List Act) : Svc := acts.foldl step s

@[simp] theorem run_nil (s : Svc) : s.run [] = s := rfl

@[simp] theorem run_cons (s : Svc) (a : Act) (acts : List Act) :
    s.run (a :: acts) = (s.step a).run acts := rfl

theorem run_append (s : Svc) (as bs : List Act) : s.run (as ++ bs) = (s.run as).run bs :=
  List.foldl_append _ _ _ _

/-- Run induction: a property kept by every step holds after every schedule. -/
theorem run_induction {P : Svc → Prop} (hstep : ∀ s a, P s → P (s.step a)) :
    ∀ (acts : List Act) {s : Svc}, P s → P (s.run acts)
  | [], _, h => h
  | a :: acts, _, h => run_induction hstep acts (hstep _ a h)

end Svc

end Snjs.KeyRecovery
