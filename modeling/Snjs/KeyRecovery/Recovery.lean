import Snjs.KeyRecovery.Promises
import Snjs.KeyRecovery.RootKey

/-!
# Recovering a batch of items keys after a password change

The class comment of `SNKeyRecoveryService` (migration_service.ts:180–195) names the run the
service exists for: the password was changed on another device, so the items keys made there
arrive encrypted under a root key this client does not have. When such a key carries the
server's current key params and is newer than every valid local items key, its decryption
validates the password the user enters, the local root key is replaced by the one that password
derives, and the decrypted key is emitted.

**`password_change_recovers_batch`**: from a freshly constructed service of an account, when a
batch of keys arrives that carry the server's params (which differ from the account's) and are
encrypted under the root key that password `pw'` derives from them, the first newer than every
local key, and the user answers the one prompt with `pw'` (and, with a passcode, completes the
passcode challenge after any number of cancels), the run ends with the root key replaced, every
key of the batch emitted to the local keys, every queue item resolved once with success, the
queue empty, the guard lowered and no invocation left.

## Proof structure

The run is cut where the invocation that moves changes, and each stretch is one lemma about any
service that meets its precondition:

- `run_addKeys`: the handler queues the keys one `await` at a time (`queued`), by induction;
- `run_beginProcessingQueue`: it raises the guard, fetches the server's params and starts
  `popQueueItem` of the first item;
- `run_popQueueItem_replacing`: the success path of `popQueueItem` that replaces the root key,
  through the passcode challenge and its cancel loop (`run_passcodeAnswers`);
  `run_popQueueItem_batch` evaluates it on a batch queued together: one password recovers all;
- `run_handOver`: the handler finds the queue empty, and the continuation lowers the guard;
  `run_recoverBatch` chains the last two, and also serves the run in which wrong passwords came
  first (`Retry`).

An intermediate state is a record under `setProc`; the `rfl` lemmas `setProc_*` read a field
through it, and `setProc_settle` (from `Promises`) moves it past the settling of the items.
-/

namespace Snjs.KeyRecovery

namespace Svc

/-! ## Reading a field through `setProc` -/

@[simp] theorem setProc_procs_self (s : Svc) (i : Nat) (p : Option Proc) :
    (s.setProc i p).procs i = p := Function.update_same _ _ _

@[simp] theorem setProc_queueItems (s : Svc) (i : Nat) (p : Option Proc) :
    (s.setProc i p).queueItems = s.queueItems := rfl

@[simp] theorem setProc_decryptionQueue (s : Svc) (i : Nat) (p : Option Proc) :
    (s.setProc i p).decryptionQueue = s.decryptionQueue := rfl

@[simp] theorem setProc_localKeys (s : Svc) (i : Nat) (p : Option Proc) :
    (s.setProc i p).localKeys = s.localKeys := rfl

@[simp] theorem setProc_rootKey (s : Svc) (i : Nat) (p : Option Proc) :
    (s.setProc i p).rootKey = s.rootKey := rfl

@[simp] theorem setProc_serverParams (s : Svc) (i : Nat) (p : Option Proc) :
    (s.setProc i p).serverParams = s.serverParams := rfl

@[simp] theorem setProc_clientKeyParams (s : Svc) (i : Nat) (p : Option Proc) :
    (s.setProc i p).clientKeyParams = s.clientKeyParams := rfl

@[simp] theorem setProc_isProcessingQueue (s : Svc) (i : Nat) (p : Option Proc) :
    (s.setProc i p).isProcessingQueue = s.isProcessingQueue := rfl

@[simp] theorem setProc_nextProc (s : Svc) (i : Nat) (p : Option Proc) :
    (s.setProc i p).nextProc = s.nextProc := rfl

@[simp] theorem setProc_setProc (s : Svc) (i : Nat) (p p' : Option Proc) :
    (s.setProc i p).setProc i p' = s.setProc i p' := by
  simp [setProc, Function.update_idem]

theorem setProc_of_eq {s : Svc} {i : Nat} {p : Option Proc} (h : s.procs i = p) :
    s.setProc i p = s := by
  simp [setProc, ← h]

/-! ## The queue `addKeysToQueue` builds -/

/-- The items `addKeysToQueue(keys)` pushes (:474–477): item `q` holds the `q`-th key with the
params `kp`, under promise 0. -/
def queuedItems (keys : List ItemsKey) (kp : KeyParams) (cb : Bool) : Nat → Option QueueItem :=
  fun q => keys[q]?.map fun k => ⟨k, kp, cb, 0, [], []⟩

/-- Item `0` of a batch is the first key's. -/
theorem queuedItems_update_zero (k : ItemsKey) (ks : List ItemsKey) (kp : KeyParams) (cb : Bool) :
    Function.update (queuedItems (k :: ks) kp cb) 0 (some ⟨k, kp, cb, 0, [], []⟩) =
      queuedItems (k :: ks) kp cb :=
  Function.update_eq_self_iff.2 (by simp [queuedItems])

/-- A service whose queue, empty before, holds `keys` in order. -/
def queued (s : Svc) (keys : List ItemsKey) (kp : KeyParams) (cb : Bool) : Svc :=
  { s with decryptionQueue := List.range keys.length
           queueItems := queuedItems keys kp cb
           nextItem := keys.length }

theorem queued_pushKey (s : Svc) (keys : List ItemsKey) (k : ItemsKey) (kp : KeyParams)
    (cb : Bool) : (s.queued keys kp cb).pushKey k kp cb = s.queued (keys ++ [k]) kp cb := by
  simp only [queued, pushKey, queuedItems, List.length_append, List.length_singleton,
    List.range_succ, mk.injEq, true_and, and_true]
  funext q
  rcases lt_trichotomy q keys.length with hq | rfl | hq
  · simp [queuedItems, Function.update_noteq hq.ne, List.getElem?_append_left hq]
  · simp [queuedItems]
  · simp [queuedItems, Function.update_noteq hq.ne',
      List.getElem?_eq_none (by omega : keys.length ≤ q),
      List.getElem?_eq_none (by simp; omega : (keys ++ [k]).length ≤ q)]

theorem setProc_queued (s : Svc) (i : Nat) (p : Option Proc) (keys kp cb) :
    (s.queued keys kp cb).setProc i p = (s.setProc i p).queued keys kp cb := rfl

/-- The `addKeysToQueue` loop (:458–478): handler `i`, resumed once per key, queues each key
behind the ones before it. -/
theorem run_addKeys {i : Nat} {cb : Bool} {kp : KeyParams} :
    ∀ (ks pre : List ItemsKey) {s : Svc}, (∀ k ∈ ks, k.keyParams = some kp) →
      s.procs i = some (.handler cb (.addKeys ks)) →
      (s.queued pre kp cb).run (List.replicate ks.length (.resume i none)) =
        (s.queued (pre ++ ks) kp cb).setProc i (some (.handler cb (.addKeys [])))
  | [], pre, s, _, hi => by
    rw [List.length_nil, List.replicate_zero, run_nil, List.append_nil, setProc_queued,
      setProc_of_eq hi]
  | k :: ks, pre, s, hk, hi => by
    have hkp := hk k (List.mem_cons_self _ _)
    have hstep : (s.queued pre kp cb).resume i none =
        (s.setProc i (some (.handler cb (.addKeys ks)))).queued (pre ++ [k]) kp cb := by
      have hq : (s.queued pre kp cb).procs i = some (.handler cb (.addKeys (k :: ks))) := hi
      simp only [resume, hq, resumeHandler, hkp, reduceCtorEq, if_false]
      rw [queued_pushKey, setProc_queued]
    rw [List.length_cons, List.replicate_succ, run_cons, step, hstep,
      run_addKeys ks (pre ++ [k]) (fun l hl => hk l (List.mem_cons_of_mem _ hl))
        (by simp [setProc]), ← setProc_queued, setProc_setProc, List.append_assoc,
      List.singleton_append]

/-- The keys of the items `0` to `n - 1`, when item `q` holds the `q`-th key. -/
theorem keysOf_range {s : Svc} {keys : List ItemsKey}
    (h : ∀ q, (s.queueItems q).map (·.key) = keys[q]?) : s.keysOf (List.range keys.length) = keys := by
  simp only [keysOf, h]
  clear h
  induction keys with
  | nil => rfl
  | cons k ks ih =>
    rw [List.length_cons, List.range_succ_eq_map, List.filterMap_cons, List.filterMap_map]
    simpa [Function.comp_def] using ih

/-- When every queued item has the params `kp`, `popQueueForKeyParams kp` takes the whole
queue. -/
theorem popQueueForKeyParams_of_forall {s : Svc} {kp : KeyParams}
    (h : ∀ q ∈ s.decryptionQueue, (s.queueItems q).map (·.keyParams) = some kp) :
    s.popQueueForKeyParams kp = ({ s with decryptionQueue := [] }, s.decryptionQueue) := by
  simp only [popQueueForKeyParams, Prod.mk.injEq]
  constructor
  · congr 1
    exact List.filter_eq_nil_iff.2 fun q hq => by simp [h q hq]
  · exact List.filter_eq_self.2 fun q hq => by simp [h q hq]

/-! ## Beginning to process the queue -/

/-- `beginProcessingQueue` on a service with an account whose server params are not known yet
(:488–527): it raises the guard, fetches the server's params, and starts `popQueueItem` of the
first queued item, whose promise it awaits. -/
theorem run_beginProcessingQueue {s : Svc} {i : Nat} {cb : Bool} {sp rk : KeyParams} {q : Nat}
    {rest : List Nat} {it : QueueItem} {pw : Nat}
    (hi : s.procs i = some (.handler cb (.addKeys []))) (hne : i ≠ s.nextProc)
    (hguard : s.isProcessingQueue = false) (hserver : s.serverParams = none)
    (hacc : s.hasAccount = true) (hrk : s.rootKey = some ⟨pw, rk⟩)
    (hq : s.decryptionQueue = q :: rest) (hit : s.queueItems q = some it) :
    s.run [.resume i none, .resume i none, .fetched i (some sp)] =
      ({ s with isProcessingQueue := true, serverParams := some sp, decryptionQueue := rest }.spawn
        (.pop q it.gen .clientParams)).setProc i (some (.handler cb (.awaitItem q it.gen))) := by
  simp only [run_cons, run_nil, step, resume, hi, resumeHandler, beginProcessingQueue, hguard,
    setProc, Function.update_same, reduceCtorEq, if_false, Bool.false_eq_true, hserver,
    clientKeyParams, hacc, hrk, fetched, credentialsCheck, hq, loop, hit, List.head?_cons,
    List.erase_cons_head, spawn, Option.isNone_none, Option.isSome_some, Option.map_some', if_true,
    Bool.and_true, Bool.true_and, Bool.not_true, Bool.false_and]
  rw [Function.update_idem, Function.update_comm hne, Function.update_idem]

/-! ## The pop that replaces the root key -/

/-- What the user answers the passcode challenge of a root-key replacement by `popQueueItem`
`j` with (:438–455): on a device with a passcode, `cancels` cancellations, each alerted and the
challenge shown again, then the passcode; without a passcode no challenge is shown. -/
def passcodeAnswers (j : Nat) (hasPasscode : Bool) (cancels passcode : Nat) : List Act :=
  if hasPasscode then List.replicate cancels (.resume j none) ++ [.resume j (some passcode)]
  else []

/-- The resumptions of a `popQueueItem` `j` whose password `pw` decrypts its key and replaces
the root key: the prompt answered, the passcode challenge as `passcodeAnswers` says, the root
key set and the keys saved. -/
def replacingPop (j pw : Nat) (hasPasscode : Bool) (cancels passcode : Nat) : List Act :=
  [.resume j none, .resume j (some pw), .resume j none] ++
    passcodeAnswers j hasPasscode cancels passcode ++ [.resume j none, .resume j none]

/-- **The passcode challenge.** However often it is canceled, the challenge is shown again,
and once completed the pop goes on to set the root key; without a passcode it goes on at once. -/
theorem run_passcodeAnswers {s : Svc} {j q g : Nat} {rk : RootKey} (cancels passcode : Nat)
    (hj : s.procs j = some (.pop q g (if s.hasPasscode then .passcode rk else .setRootKey rk))) :
    s.run (passcodeAnswers j s.hasPasscode cancels passcode) =
      s.setProc j (some (.pop q g (.setRootKey rk))) := by
  cases hp : s.hasPasscode
  · simp only [hp, Bool.false_eq_true, if_false] at hj
    exact (setProc_of_eq hj).symm
  · simp only [hp, if_true] at hj
    have hcancel : s.resume j none = s := by
      simp only [resume, hj, resumePop]
      exact setProc_of_eq hj
    have hrep : s.run (List.replicate cancels (.resume j none)) = s := by
      induction cancels with
      | zero => rfl
      | succ n ih => rw [List.replicate_succ, run_cons, step, hcancel, ih]
    rw [passcodeAnswers, if_pos rfl, run_append, hrep]
    simp only [run_cons, run_nil, step, resume, hj, resumePop]

/-- `popQueueItem` of item `q` under its current promise, on a service whose server params
differ from the account's while the key has the server's params and is newer than every local
key, when the password entered decrypts the key (:552–665): after the passcode challenge, if
any, the root key is replaced by the one the password derives, the items with the key's params
leave the queue, the keys of the item and of those items that decrypt with the new root key join
the local keys, and the item and the matching ones are resolved with success. -/
theorem run_popQueueItem_replacing {s : Svc} {j q : Nat} {it : QueueItem} {sp cp : KeyParams}
    {pw : Nat} (cancels passcode : Nat) (hj : s.procs j = some (.pop q it.gen .clientParams))
    (hlt : j < s.nextProc)
    (hit : s.queueItems q = some it) (hserver : s.serverParams = some sp)
    (hclient : s.clientKeyParams = some cp) (hcp : cp ≠ sp) (hkp : it.keyParams = sp)
    (hnewer : ∀ l ∈ s.localKeys, l.createdAt < it.key.createdAt)
    (hdec : it.key.decryptsWith ⟨pw, sp⟩ = true) :
    s.run (replacingPop j pw s.hasPasscode cancels passcode) =
      let r := { s with rootKey := some ⟨pw, sp⟩ }.popQueueForKeyParams sp
      (((r.1.emitKeys ⟨pw, sp⟩ (r.1.keysOf (q :: r.2))).settle q true).resolveMatching r.2).setProc j
        none := by
  have hrep : replacesRootKey s.serverParams s.clientKeyParams it.keyParams it.key s.localKeys =
      true := (replacesRootKey_eq_true_iff ..).2 ⟨sp, cp, hserver, hclient, hcp, hkp, hnewer⟩
  subst hkp
  have h1 : s.resume j none = s.setProc j (some (.pop q it.gen (.prompt true))) := by
    simp only [resume, hj, resumePop, hit, hrep]
  have h2 : (s.setProc j (some (.pop q it.gen (.prompt true)))).resume j (some pw) =
      s.setProc j (some (.pop q it.gen (.decrypt true ⟨pw, it.keyParams⟩))) := by
    simp only [resume, setProc_procs_self, resumePop, setProc_queueItems, hit, setProc_setProc]
  set P := some (Proc.pop q it.gen (if s.hasPasscode then .passcode ⟨pw, it.keyParams⟩
    else .setRootKey ⟨pw, it.keyParams⟩))
  have h3 : (s.setProc j (some (.pop q it.gen (.decrypt true ⟨pw, it.keyParams⟩)))).resume j none =
      s.setProc j P := by
    simp only [resume, setProc_procs_self, resumePop, setProc_queueItems, hit, hdec, if_true,
      setProc_setProc]
    rfl
  have hP : (s.setProc j P).run (passcodeAnswers j s.hasPasscode cancels passcode) =
      s.setProc j (some (.pop q it.gen (.setRootKey ⟨pw, it.keyParams⟩))) :=
    (run_passcodeAnswers (s := s.setProc j P) cancels passcode (setProc_procs_self _ _ _)).trans
      (setProc_setProc _ _ _ _)
  set r := { s with rootKey := some ⟨pw, it.keyParams⟩ }.popQueueForKeyParams it.keyParams
  have h4 : (s.setProc j (some (.pop q it.gen (.setRootKey ⟨pw, it.keyParams⟩)))).resume j none =
      r.1.setProc j (some (.pop q it.gen (.save ⟨pw, it.keyParams⟩ r.2))) := by
    simp only [resume, setProc_procs_self, resumePop]
    exact setProc_setProc r.1 j (some (.pop q it.gen (.setRootKey ⟨pw, it.keyParams⟩))) _
  -- the save settles the item and the matching ones; the record of invocation `j` stays outside
  set t := r.1.emitKeys ⟨pw, it.keyParams⟩ (r.1.keysOf (q :: r.2))
  have ht : j < t.nextProc := hlt
  have h5 : (r.1.setProc j (some (.pop q it.gen (.save ⟨pw, it.keyParams⟩ r.2)))).resume j none =
      ((t.settle q true).resolveMatching r.2).setProc j none := by
    simp only [resume, setProc_procs_self, resumePop]
    let P := some (Proc.pop q it.gen (.save ⟨pw, it.keyParams⟩ r.2))
    show ((((t.setProc j P).resolveItem q it.gen true).callBack q true).resolveMatching r.2).setProc
      j none = _
    rw [show ((t.setProc j P).resolveItem q it.gen true).callBack q true =
        (t.setProc j P).settle q true by simp only [settle, setProc_queueItems, show t.queueItems q =
          some it from hit],
      ← setProc_settle ht, resolveMatching_eq, resolveMatching_eq,
      ← setProc_foldl_settle _ _ _ (lt_of_lt_of_le ht (nextProc_le_settle _ _)), setProc_setProc]
  rw [replacingPop, run_append, run_append]
  simp only [run_cons, run_nil, step, h1, h2, h3, hP, h4, h5]

/-- Keys that all decrypt with `rk` all join the local keys. -/
theorem emitKeys_of_forall {s : Svc} {rk : RootKey} {ks : List ItemsKey}
    (h : ∀ k ∈ ks, k.decryptsWith rk = true) :
    s.emitKeys rk ks = { s with localKeys := ks ++ s.localKeys } := by
  simp only [emitKeys, List.filter_eq_self.2 h]

/-- Settling, one after the other, distinct items that carry no callback settles each once. -/
theorem foldl_settle_of_no_callback :
    ∀ (ms : List Nat) {s : Svc}, ms.Nodup →
      (∀ m ∈ ms, ∀ it, s.queueItems m = some it → it.callback = false) →
      ms.foldl (fun s m => s.settle m true) s =
        { s with queueItems := fun q => if q ∈ ms then (s.queueItems q).map (·.settleWith true)
                                        else s.queueItems q }
  | [], s, _, _ => by simp
  | m :: ms, s, hnd, hcb => by
    rw [List.nodup_cons] at hnd
    have hcb' : ∀ m' ∈ ms, ∀ it, s.queueItems m' = some it → it.callback = false :=
      fun m' hm' => hcb m' (List.mem_cons_of_mem _ hm')
    cases hm : s.queueItems m with
    | none =>
      rw [List.foldl_cons, show s.settle m true = s by simp only [settle, hm],
        foldl_settle_of_no_callback ms hnd.2 hcb']
      congr 1; funext q
      by_cases hq : q = m
      · subst hq; simp [hm, hnd.1]
      · simp [hq]
    | some it =>
      rw [List.foldl_cons, settle_eq hm, hcb m (List.mem_cons_self _ _) it hm, Bool.false_and,
        if_neg nofun, foldl_settle_of_no_callback ms hnd.2 fun m' hm' => by
          simpa [setItem, Function.update_noteq (ne_of_mem_of_not_mem hm' hnd.1)] using hcb' m' hm']
      simp only [setItem]
      congr 1; funext q
      by_cases hq : q = m
      · subst hq; simp [hm, hnd.1]
      · simp [hq]

/-- `popQueueItem` of the first key of a batch queued together, all with the server's params
and encrypted under the root key one password derives from them: that password recovers the
whole batch. The first item may have had earlier promises. The root key is replaced, the queue
is emptied, every key joins the local keys and every item is settled once more, with success. -/
theorem run_popQueueItem_batch {s : Svc} {j : Nat} {sp cp : KeyParams} {pw : Nat} {it : QueueItem}
    {ks : List ItemsKey} (cancels passcode : Nat)
    (hq : s.queueItems = Function.update (queuedItems (it.key :: ks) sp false) 0 (some it))
    (hkp : it.keyParams = sp) (hcb : it.callback = false)
    (hdq : s.decryptionQueue = (List.range ks.length).map Nat.succ)
    (hj : s.procs j = some (.pop 0 it.gen .clientParams)) (hlt : j < s.nextProc)
    (hserver : s.serverParams = some sp) (hclient : s.clientKeyParams = some cp) (hcp : cp ≠ sp)
    (hnewer : ∀ l ∈ s.localKeys, l.createdAt < it.key.createdAt)
    (henc : ∀ l ∈ it.key :: ks, l.encryptedWith = ⟨pw, sp⟩) :
    s.run (replacingPop j pw s.hasPasscode cancels passcode) =
      { s with rootKey := some ⟨pw, sp⟩
               decryptionQueue := []
               localKeys := it.key :: ks ++ s.localKeys
               queueItems := fun q => (s.queueItems q).map fun (it : QueueItem) => it.settleWith true
      }.setProc j none := by
  have hrange : 0 :: (List.range ks.length).map Nat.succ = List.range (it.key :: ks).length :=
    (List.range_succ_eq_map _).symm
  have hit : s.queueItems 0 = some it := by simp [hq]
  -- the other items hold the batch's keys, with the server's params and no callback
  have hrest : ∀ q, q ≠ 0 → s.queueItems q = (it.key :: ks)[q]?.map fun k => ⟨k, sp, false, 0, [], []⟩ :=
    fun q hq0 => by simp [hq, Function.update_noteq hq0, queuedItems]
  have hpop : { s with rootKey := some ⟨pw, sp⟩ }.popQueueForKeyParams sp =
      ({ s with rootKey := some ⟨pw, sp⟩, decryptionQueue := [] },
        (List.range ks.length).map Nat.succ) := by
    rw [popQueueForKeyParams_of_forall fun q hmem => ?_]
    · exact congrArg _ hdq
    · obtain ⟨n, hn, rfl⟩ := List.mem_map.1 (hdq ▸ hmem)
      simp [hrest _ n.succ_ne_zero, List.mem_range.1 hn]
  rw [run_popQueueItem_replacing cancels passcode hj hlt hit hserver hclient hcp hkp hnewer
    (by simp [ItemsKey.decryptsWith, hkp, henc it.key (List.mem_cons_self _ _)])]
  simp only [hpop]
  rw [hrange, keysOf_range fun q => ?keys,
    emitKeys_of_forall fun l hl => by simp [ItemsKey.decryptsWith, henc l hl],
    resolveMatching_eq, ← List.foldl_cons, hrange,
    foldl_settle_of_no_callback _ (hrange ▸ List.nodup_range _) fun m _ it' h => ?callback]
  · congr 2; funext q
    simp only [List.mem_range]
    split
    · rfl
    · rename_i h
      have hnone := hrest q (by rintro rfl; simp at h)
      rw [List.getElem?_eq_none (Nat.le_of_not_lt h)] at hnone
      simp [hnone]
  case keys =>
    by_cases hq0 : q = 0
    · subst hq0; simp [hit]
    · simp [hrest q hq0, Option.map_map, Function.comp_def]
  case callback =>
    by_cases hm : m = 0
    · subst hm; rw [hit] at h; cases h; exact hcb
    · rw [hrest m hm] at h
      obtain ⟨l, -, rfl⟩ := Option.map_eq_some'.1 h
      rfl

/-! ## The hand-over -/

/-- The hand-over once the queue is empty (:522–548): handler `i`, whose item's promise is
resolved, finds no item left and registers the continuation on `queuePromise`; the continuation
lowers the guard and, the server's params being the account's, does not sign in. -/
theorem run_handOver {s : Svc} {i q g : Nat} {cb : Bool} {it : QueueItem} {sp : KeyParams}
    (hi : s.procs i = some (.handler cb (.awaitItem q g))) (hit : s.queueItems q = some it)
    (hres : it.resolved.any (·.1 = g) = true) (hq : s.decryptionQueue = [])
    (hserver : s.serverParams = some sp) (hclient : s.clientKeyParams = some sp) :
    s.run [.resume i none, .resume s.nextProc none, .resume s.nextProc none] =
      ({ s with isProcessingQueue := false, nextProc := s.nextProc + 1 }.setProc i none).setProc
        s.nextProc none := by
  have h1 : s.resume i none = (s.setProc i none).spawn (.continuation .pending) := by
    simp only [resume, hi, resumeHandler, hit, hres, hq, Option.map_some', List.head?_nil, loop,
      reduceCtorEq, if_false, if_true]
  set t := (s.setProc i none).spawn (.continuation .pending)
  have ht : t.procs s.nextProc = some (.continuation .pending) := Function.update_same _ _ _
  have hts : t.serverParams = some sp := hserver
  have h2 : t.resume s.nextProc none = { t with isProcessingQueue := false }.setProc s.nextProc
      (some (.continuation .clientParams)) := by
    simp only [resume, ht, resumeContinuation, hts, Option.isSome_some, if_true]
  have htc : { t with isProcessingQueue := false }.clientKeyParams = some sp := hclient
  have h3 : ({ t with isProcessingQueue := false }.setProc s.nextProc
      (some (.continuation .clientParams))).resume s.nextProc none =
        { t with isProcessingQueue := false }.setProc s.nextProc none := by
    simp only [resume, setProc_procs_self, resumeContinuation, setProc_serverParams,
      setProc_clientKeyParams, htc]
    simp only [hts, serverKeyParamsAreSafe_self, ne_eq, not_true_eq_false, decide_False,
      Bool.and_false, Bool.false_eq_true, if_false, setProc_setProc]
  simp only [run_cons, run_nil, step, h1, h2, h3]
  exact setProc_setProc ({ s with isProcessingQueue := false, nextProc := s.nextProc + 1 }.setProc
    i none) s.nextProc (some (.continuation .pending)) none

/-- From the pop of a batch's first key to the end of the run, when handler `0` awaits the pop
`j`, the last invocation started, and no other invocation runs: the right password recovers the
whole batch, and the handler hands over to the continuation, which lowers the guard. -/
theorem run_recoverBatch {s : Svc} {j : Nat} {sp cp : KeyParams} {pw : Nat} {it : QueueItem}
    {ks : List ItemsKey} (cancels passcode : Nat)
    (hq : s.queueItems = Function.update (queuedItems (it.key :: ks) sp false) 0 (some it))
    (hkp : it.keyParams = sp) (hcb : it.callback = false)
    (hdq : s.decryptionQueue = (List.range ks.length).map Nat.succ)
    (hi : s.procs 0 = some (.handler false (.awaitItem 0 it.gen)))
    (hj : s.procs j = some (.pop 0 it.gen .clientParams)) (hj0 : 0 < j) (hnext : s.nextProc = j + 1)
    (hnone : ∀ k, k ≠ 0 → k ≠ j → s.procs k = none)
    (hserver : s.serverParams = some sp) (hclient : s.clientKeyParams = some cp) (hcp : cp ≠ sp)
    (hnewer : ∀ l ∈ s.localKeys, l.createdAt < it.key.createdAt)
    (henc : ∀ l ∈ it.key :: ks, l.encryptedWith = ⟨pw, sp⟩) :
    let s' := s.run (replacingPop j pw s.hasPasscode cancels passcode ++
      [.resume 0 none, .resume (j + 1) none, .resume (j + 1) none])
    s'.rootKey = some ⟨pw, sp⟩ ∧ s'.localKeys = it.key :: ks ++ s.localKeys ∧
      (∀ q, s'.queueItems q = (s.queueItems q).map fun (it : QueueItem) => it.settleWith true) ∧
      s'.decryptionQueue = [] ∧ s'.isProcessingQueue = false ∧ ∀ k, s'.procs k = none := by
  intro s'
  have hacc : s.hasAccount = true := by
    by_contra h
    simp [clientKeyParams, h] at hclient
  set sC := { s with rootKey := some ⟨pw, sp⟩
                     decryptionQueue := []
                     localKeys := it.key :: ks ++ s.localKeys
                     queueItems := fun q => (s.queueItems q).map fun (it : QueueItem) => it.settleWith true
              }.setProc j none
  have hC : s.run (replacingPop j pw s.hasPasscode cancels passcode) = sC :=
    run_popQueueItem_batch cancels passcode hq hkp hcb hdq hj (by omega) hserver hclient hcp
      hnewer henc
  have hD := run_handOver
    (show sC.procs 0 = some (.handler false (.awaitItem 0 it.gen)) by
      simp [sC, setProc, Function.update_noteq (Nat.ne_of_lt hj0), hi])
    (show sC.queueItems 0 = some (it.settleWith true) by simp [sC, hq])
    (by simp [QueueItem.settleWith]) rfl (show sC.serverParams = some sp from hserver)
    (show sC.clientKeyParams = some sp by
      rw [clientKeyParams, if_pos (show sC.hasAccount = true from hacc)]; rfl)
  rw [show sC.nextProc = j + 1 from hnext] at hD
  have hs : s' = ({ sC with isProcessingQueue := false, nextProc := j + 1 + 1 }.setProc 0
      none).setProc (j + 1) none := by
    show s.run (_ ++ _) = _
    rw [run_append, hC, hD]
  rw [hs]
  refine ⟨rfl, rfl, fun q => rfl, rfl, rfl, fun k => ?_⟩
  simp only [setProc, sC, Function.update_apply]
  split_ifs with h1 h2 h3 <;> first | rfl | exact hnone k h2 h3

end Svc

/-! ## The whole run -/

/-- The service once the handler of a batch, observed by a freshly constructed service of an
account, has queued it, raised the guard, recorded the server's params `sp` and started the pop
of the first key (invocation 1), whose promise it awaits. -/
def batchStarted (hasPasscode : Bool) (pw : Nat) (cp sp : KeyParams)
    (localKeys undecryptables : List ItemsKey) (k : ItemsKey) (ks : List ItemsKey) : Svc :=
  { Svc.init true hasPasscode (some ⟨pw, cp⟩) localKeys undecryptables with
    decryptionQueue := (List.range ks.length).map Nat.succ
    queueItems := Svc.queuedItems (k :: ks) sp false
    nextItem := ks.length + 1
    isProcessingQueue := true
    serverParams := some sp
    procs := fun i =>
      if i = 0 then some (.handler false (.awaitItem 0 0))
      else if i = 1 then some (.pop 0 0 .clientParams) else none
    nextProc := 2 }

open Svc in
/-- The start of the recovery of a batch whose keys carry the params `sp`: the item observer
hands it to `handleUndecryptableItemsKeys`, which queues it one key at a time, begins processing
the queue, is answered `sp` by the server and starts the pop of the first key. -/
theorem run_beginBatch (hasPasscode : Bool) (pw : Nat) (cp sp : KeyParams)
    (localKeys undecryptables : List ItemsKey) (k : ItemsKey) (ks : List ItemsKey)
    (hparams : ∀ l ∈ k :: ks, l.keyParams = some sp) :
    ((Svc.init true hasPasscode (some ⟨pw, cp⟩) localKeys undecryptables).run
      (.itemsKeysObserved (k :: ks) [] :: List.replicate (k :: ks).length (.resume 0 none))).run
        [.resume 0 none, .resume 0 none, .fetched 0 (some sp)] =
      batchStarted hasPasscode pw cp sp localKeys undecryptables k ks := by
  set s0 := (Svc.init true hasPasscode (some ⟨pw, cp⟩) localKeys undecryptables).spawn
    (.handler false (.addKeys (k :: ks)))
  have hA := run_addKeys (k :: ks) [] hparams
    (show s0.procs 0 = some (.handler false (.addKeys (k :: ks))) by simp [s0, spawn, Svc.init])
  rw [show s0.queued [] sp false = s0 from rfl, List.nil_append] at hA
  set sA := (s0.queued (k :: ks) sp false).setProc 0 (some (.handler false (.addKeys [])))
  have hB : sA.run [.resume 0 none, .resume 0 none, .fetched 0 (some sp)] = _ :=
    run_beginProcessingQueue (show sA.procs 0 = some (.handler false (.addKeys [])) from
      setProc_procs_self _ _ _) Nat.zero_ne_one rfl rfl rfl
      (show sA.rootKey = some ⟨pw, cp⟩ from rfl)
      (show sA.decryptionQueue = 0 :: (List.range ks.length).map Nat.succ by
        simp [sA, queued, List.range_succ_eq_map])
      (show sA.queueItems 0 = some ⟨k, sp, false, 0, [], []⟩ by simp [sA, queued, queuedItems])
  rw [show (Svc.init true hasPasscode (some ⟨pw, cp⟩) localKeys undecryptables).run
      (.itemsKeysObserved (k :: ks) [] :: List.replicate (k :: ks).length (.resume 0 none)) =
        s0.run (List.replicate (k :: ks).length (.resume 0 none)) from rfl, hA, hB]
  simp only [batchStarted, sA, s0, setProc, spawn, queued, Svc.init, List.length_cons, mk.injEq,
    true_and, and_true]
  funext i
  simp only [Function.update_apply]
  split_ifs <;> rfl

/-- The recovery of a batch of keys, one invocation moving at a time: the item observer hands
the keys to `handleUndecryptableItemsKeys` (invocation 0), which queues them, begins processing
the queue and fetches the server's params; `popQueueItem` (invocation 1) of the first key
prompts, is answered `pw`, decrypts, goes through the passcode challenge as `passcodeAnswers`
says, replaces the root key and saves; the handler then finds the queue empty and registers the
`queuePromise` continuation (invocation 2). -/
def recoverySchedule (keys : List ItemsKey) (sp : KeyParams) (pw : Nat) (hasPasscode : Bool)
    (cancels passcode : Nat) : List Act :=
  .itemsKeysObserved keys [] :: List.replicate keys.length (.resume 0 none) ++
    [.resume 0 none, .resume 0 none, .fetched 0 (some sp)] ++
    Svc.replacingPop 1 pw hasPasscode cancels passcode ++
    [.resume 0 none, .resume 2 none, .resume 2 none]

open Svc in
/-- **A password change elsewhere is recovered from.** A freshly constructed service of an
account signed in with params `cp` receives a batch of undecryptable items keys that carry the
server's params `sp ≠ cp` and are encrypted under the root key that password `pw'` derives from
`sp`, the first newer than every local key. After the server answers `sp`, the user enters
`pw'` at the one prompt and, on a device with a passcode, completes the passcode challenge
after any number of cancels, the root key is the new one, the whole batch has joined the local
keys, every queue item is resolved once with success, the queue is empty, the guard is down and
no invocation is left. -/
theorem password_change_recovers_batch (hasPasscode : Bool) (pw pw' : Nat) (cp sp : KeyParams)
    (localKeys undecryptables : List ItemsKey) (k : ItemsKey) (ks : List ItemsKey)
    (cancels passcode : Nat) (hsp : cp ≠ sp)
    (hparams : ∀ l ∈ k :: ks, l.keyParams = some sp)
    (henc : ∀ l ∈ k :: ks, l.encryptedWith = ⟨pw', sp⟩)
    (hnewer : ∀ l ∈ localKeys, l.createdAt < k.createdAt) :
    let s := (Svc.init true hasPasscode (some ⟨pw, cp⟩) localKeys undecryptables).run
      (recoverySchedule (k :: ks) sp pw' hasPasscode cancels passcode)
    s.rootKey = some ⟨pw', sp⟩ ∧ s.localKeys = k :: ks ++ localKeys ∧
      (∀ q, (s.queueItems q).map (fun it => (it.key, it.resolved)) =
        (k :: ks)[q]?.map (·, [(0, true)])) ∧
      s.decryptionQueue = [] ∧ s.isProcessingQueue = false ∧ ∀ i, s.procs i = none := by
  intro s
  -- the handler queues the batch, fetches the server's params and starts the pop of the first key
  set sB := batchStarted hasPasscode pw cp sp localKeys undecryptables k ks
  have hs : s = sB.run (replacingPop 1 pw' sB.hasPasscode cancels passcode ++
      [.resume 0 none, .resume (1 + 1) none, .resume (1 + 1) none]) := by
    simp only [s, sB, recoverySchedule, run_append,
      run_beginBatch hasPasscode pw cp sp localKeys undecryptables k ks hparams]
    rfl
  -- the pop recovers the batch and the handler hands over to the continuation
  have hnone : ∀ i, i ≠ 0 → i ≠ 1 → sB.procs i = none := fun i h0 h1 => by
    simp [sB, batchStarted, h0, h1]
  obtain ⟨h1, h2, h3, h4, h5, h6⟩ := run_recoverBatch (s := sB) (j := 1) cancels passcode
    (show sB.queueItems = Function.update (queuedItems (k :: ks) sp false) 0
      (some ⟨k, sp, false, 0, [], []⟩) from (queuedItems_update_zero k ks sp false).symm)
    rfl rfl rfl rfl rfl Nat.one_pos rfl hnone rfl rfl hsp hnewer henc
  rw [hs]
  refine ⟨h1, h2, fun q => ?_, h4, h5, h6⟩
  rw [h3 q]
  show ((queuedItems (k :: ks) sp false q).map fun (it : QueueItem) => it.settleWith true).map
    (fun it => (it.key, it.resolved)) = _
  simp [queuedItems, Option.map_map, Function.comp_def, QueueItem.settleWith]

/-- The items key of an account signed in with params `⟨4, 2⟩` under password 7. -/
def oldItemsKey : ItemsKey := ⟨0, 3, some ⟨4, 2⟩, ⟨7, ⟨4, 2⟩⟩⟩

/-- Two items keys made on another device under the new password 9, with the server's params
`⟨4, 6⟩`. -/
def newItemsKeys : List ItemsKey := [⟨1, 5, some ⟨4, 6⟩, ⟨9, ⟨4, 6⟩⟩⟩, ⟨2, 6, some ⟨4, 6⟩, ⟨9, ⟨4, 6⟩⟩⟩]

/-- On a device with a passcode whose challenge is canceled once and then completed, both new
keys join the old one among the local keys, under the new root key. -/
theorem password_change_recovers_two_keys :
    let s := (Svc.init true true (some ⟨7, ⟨4, 2⟩⟩) [oldItemsKey] []).run
      (recoverySchedule newItemsKeys ⟨4, 6⟩ 9 true 1 3)
    s.rootKey = some ⟨9, ⟨4, 6⟩⟩ ∧ s.localKeys = newItemsKeys ++ [oldItemsKey] :=
  let h := password_change_recovers_batch true 7 9 ⟨4, 2⟩ ⟨4, 6⟩ [oldItemsKey] []
    ⟨1, 5, some ⟨4, 6⟩, ⟨9, ⟨4, 6⟩⟩⟩ [⟨2, 6, some ⟨4, 6⟩, ⟨9, ⟨4, 6⟩⟩⟩] 1 3 (by decide)
    (by decide) (by decide) (by decide)
  ⟨h.1, h.2.1⟩

end Snjs.KeyRecovery
