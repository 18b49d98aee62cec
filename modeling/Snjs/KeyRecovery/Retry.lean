import Snjs.KeyRecovery.Recovery

/-!
# A wrong password is asked again

When the password entered for a queued items key does not decrypt it, `popQueueItem`
(migration_service.ts:639–646) alerts, puts the item back at the front of the queue under a new
promise (`readdQueueItem`, :480–486) and resolves the promise the loop of
`beginProcessingQueue` awaits with `{ success: false }`. The loop then starts from the front
again (:522–527): it pops the same item and the user is prompted for it once more.

**`wrong_passwords_prompt_again`**: for every service in which the pop of an item is about to
run under the item's current promise, the handler that started it awaiting that promise and
no later invocation started, and for every list of passwords none of which decrypts the key,
answering them one after the other fails the item once per password and leaves a new pop about
to prompt for it under its newest promise, which the handler awaits; nothing else changes.

**`password_change_recovers_after_wrong_passwords`**: in the run of
`password_change_recovers_batch`, any number of wrong passwords before the right one still
recover the whole batch.

## Proof structure

`run_popQueueItem_wrong` runs one wrong answer to its end, as `Recovery` runs the right one, and
gives the service in closed form (`Svc.retried`); `retried_retried` composes two stretches of
failures, and `run_retrySchedule` follows by induction on the passwords. The recovery after
the failures is `run_recoverBatch` of `Recovery`, from the service `run_retrySchedule` gives.
-/

namespace Snjs.KeyRecovery

/-- A queue item after `n` wrong passwords: `n` new promises, each earlier one resolved with
`{ success: false }`. -/
def QueueItem.failed (it : QueueItem) (n : Nat) : QueueItem :=
  { it with gen := it.gen + n
            resolved := it.resolved ++ (List.range n).map fun k => (it.gen + k, false) }

@[simp] theorem QueueItem.failed_one (it : QueueItem) :
    it.failed 1 = { it with gen := it.gen + 1, resolved := it.resolved ++ [(it.gen, false)] } := by
  simp [failed, List.range_succ]

theorem QueueItem.failed_failed (it : QueueItem) (n : Nat) :
    (it.failed 1).failed n = it.failed (n + 1) := by
  simp only [failed, List.range_succ_eq_map n, show List.range 1 = [0] from rfl, List.map_cons,
    List.map_nil, List.map_map, Function.comp_def, List.append_assoc, List.singleton_append,
    Nat.add_zero, Nat.succ_eq_add_one, Nat.add_assoc, Nat.add_comm 1]

namespace Svc

/-- The service after `n` wrong passwords for item `q`, handler `i` having started pop `j`: the
item has failed `n` times, the pops `j` to `j + n - 1` have returned, and pop `j + n` runs under
the item's newest promise, which the handler awaits. -/
def retried (s : Svc) (i j q : Nat) (cb : Bool) (it : QueueItem) (n : Nat) : Svc :=
  { s with queueItems := Function.update s.queueItems q (some (it.failed n))
           procs := fun k =>
             if k = i then some (.handler cb (.awaitItem q (it.gen + n)))
             else if k = j + n then some (.pop q (it.gen + n) .clientParams)
             else if j ≤ k ∧ k < j + n then none
             else s.procs k
           nextProc := j + n + 1 }

variable {s : Svc} {i j q : Nat} {cb : Bool} {it : QueueItem}

/-- No password tried yet: the service as it is. -/
theorem retried_zero (hi : s.procs i = some (.handler cb (.awaitItem q it.gen)))
    (hj : s.procs j = some (.pop q it.gen .clientParams)) (hnext : s.nextProc = j + 1)
    (hit : s.queueItems q = some it) : s.retried i j q cb it 0 = s := by
  have hq : Function.update s.queueItems q (some (it.failed 0)) = s.queueItems := by
    rw [show it.failed 0 = it by simp [QueueItem.failed]]
    exact Function.update_eq_self_iff.2 hit.symm
  simp only [retried, hq, Nat.add_zero, ← hnext]
  congr 1; funext k
  split_ifs with h1 h2 h3
  · exact h1 ▸ hi.symm
  · exact h2 ▸ hj.symm
  · omega
  · rfl

/-- `n` failures after one. -/
theorem retried_retried (n : Nat) :
    (s.retried i j q cb it 1).retried i (j + 1) q cb (it.failed 1) n =
      s.retried i j q cb it (n + 1) := by
  simp only [retried, Function.update_idem, QueueItem.failed_failed]
  have hgen : (it.failed 1).gen + n = it.gen + (n + 1) := by simp; omega
  rw [hgen, show j + 1 + n = j + (n + 1) by omega]
  congr 1; funext k
  split_ifs <;> first | rfl | omega

/-- `popQueueItem` of item `q` under its current promise, answered with a password that does
not decrypt the key (:552–645), and the loop of handler `i` that awaited the promise (:522–527):
the item fails once, goes back to the front of the queue and is popped again. -/
theorem run_popQueueItem_wrong {pw : Nat} (hi : s.procs i = some (.handler cb (.awaitItem q it.gen)))
    (hj : s.procs j = some (.pop q it.gen .clientParams)) (hij : i < j) (hnext : s.nextProc = j + 1)
    (hit : s.queueItems q = some it) (hdec : it.key.decryptsWith ⟨pw, it.keyParams⟩ = false) :
    s.run [.resume j none, .resume j (some pw), .resume j none, .resume j none, .resume i none] =
      s.retried i j q cb it 1 := by
  set r := replacesRootKey s.serverParams s.clientKeyParams it.keyParams it.key s.localKeys
  have h1 : s.resume j none = s.setProc j (some (.pop q it.gen (.prompt r))) := by
    simp only [resume, hj, resumePop, hit, r]
  have h2 : (s.setProc j (some (.pop q it.gen (.prompt r)))).resume j (some pw) =
      s.setProc j (some (.pop q it.gen (.decrypt r ⟨pw, it.keyParams⟩))) := by
    simp only [resume, setProc_procs_self, resumePop, setProc_queueItems, hit, setProc_setProc]
  have h3 : (s.setProc j (some (.pop q it.gen (.decrypt r ⟨pw, it.keyParams⟩)))).resume j none =
      s.setProc j (some (.pop q it.gen .alert)) := by
    simp only [resume, setProc_procs_self, resumePop, setProc_queueItems, hit, hdec,
      Bool.false_eq_true, if_false, setProc_setProc]
  -- the alert puts the item back at the front under a new promise and fails the old one
  have h4 : (s.setProc j (some (.pop q it.gen .alert))).resume j none =
      { s.setItem q (it.failed 1) with decryptionQueue := q :: s.decryptionQueue }.setProc j none := by
    simp only [resume, setProc_procs_self, resumePop, readdQueueItem, setProc_queueItems, hit,
      resolveItem, setItem, Function.update_same, Function.update_idem, setProc,
      QueueItem.failed_one]
  -- the handler finds its promise resolved and pops the item again
  have hres : ((it.failed 1).resolved.any fun x => decide (x.1 = it.gen)) = true := by simp
  have h5 : ({ s.setItem q (it.failed 1) with decryptionQueue := q :: s.decryptionQueue }.setProc j
      none).resume i none = s.retried i j q cb it 1 := by
    simp only [resume, setProc, Function.update_noteq (Nat.ne_of_lt hij), hi, resumeHandler, setItem,
      Function.update_same, Option.map_some', hres, List.head?_cons, loop, List.erase_cons_head,
      spawn, hnext, retried]
    simp only [QueueItem.failed, reduceCtorEq, if_false, if_true]
    congr 1; funext k
    simp only [Function.update_apply]
    split_ifs <;> first | rfl | omega
  simp only [run_cons, run_nil, step, h1, h2, h3, h4, h5]

end Svc

/-- `popQueueItem` `j` answered with each password in turn, handler `i` looping back to the
item after each failure. -/
def retrySchedule (i j : Nat) : List Nat → List Act
  | [] => []
  | pw :: pws =>
    [.resume j none, .resume j (some pw), .resume j none, .resume j none, .resume i none] ++
      retrySchedule i (j + 1) pws

namespace Svc

variable {s : Svc} {i j q : Nat} {cb : Bool} {it : QueueItem}

/-- Every password of `pws` fails: the service after `pws.length` failures, by induction on the
passwords. -/
theorem run_retrySchedule (pws : List Nat) (hi : s.procs i = some (.handler cb (.awaitItem q it.gen)))
    (hj : s.procs j = some (.pop q it.gen .clientParams)) (hij : i < j) (hnext : s.nextProc = j + 1)
    (hit : s.queueItems q = some it)
    (hwrong : ∀ pw ∈ pws, it.key.decryptsWith ⟨pw, it.keyParams⟩ = false) :
    s.run (retrySchedule i j pws) = s.retried i j q cb it pws.length := by
  induction pws generalizing s j it with
  | nil => exact (retried_zero hi hj hnext hit).symm
  | cons pw pws ih =>
    rw [retrySchedule, run_append, run_popQueueItem_wrong hi hj hij hnext hit
      (hwrong pw (List.mem_cons_self _ _)), List.length_cons, ← retried_retried pws.length]
    exact @ih (s.retried i j q cb it 1) (j + 1) (it.failed 1) (by simp [retried])
      (by simp [retried, show j + 1 ≠ i by omega]) (by omega) rfl (by simp [retried])
      fun pw' hpw' => by simpa using hwrong pw' (List.mem_cons_of_mem _ hpw')

end Svc

open Svc in
/-- **A wrong password is asked again.** When the pop `j` of item `q` is about to run under the
item's current promise, handler `i` awaits that promise and `j` is the last invocation started,
answering passwords none of which decrypts the key fails the item once per password, under
promises `it.gen` to `it.gen + n - 1`, and leaves a new pop `j + n` about to prompt for it under
its newest promise, which the handler awaits; the pops in between have returned, and nothing
else has changed: the other items, the earlier invocations and every other field of the
service are as they were. -/
theorem wrong_passwords_prompt_again {s : Svc} {i j q : Nat} {cb : Bool} {it : QueueItem}
    (pws : List Nat) (hi : s.procs i = some (.handler cb (.awaitItem q it.gen)))
    (hj : s.procs j = some (.pop q it.gen .clientParams)) (hij : i < j) (hnext : s.nextProc = j + 1)
    (hit : s.queueItems q = some it)
    (hwrong : ∀ pw ∈ pws, it.key.decryptsWith ⟨pw, it.keyParams⟩ = false) :
    let s' := s.run (retrySchedule i j pws)
    s'.queueItems q = some (it.failed pws.length) ∧
      s'.procs i = some (.handler cb (.awaitItem q (it.gen + pws.length))) ∧
      s'.procs (j + pws.length) = some (.pop q (it.gen + pws.length) .clientParams) ∧
      (∀ k, j ≤ k → k < j + pws.length → s'.procs k = none) ∧
      (∀ k, k ≠ i → (k < j ∨ j + pws.length < k) → s'.procs k = s.procs k) ∧
      (∀ q', q' ≠ q → s'.queueItems q' = s.queueItems q') ∧
      { s' with queueItems := s.queueItems, procs := s.procs, nextProc := s.nextProc } = s := by
  intro s'
  rw [show s' = s.retried i j q cb it pws.length from
    run_retrySchedule pws hi hj hij hnext hit hwrong]
  refine ⟨by simp [retried], by simp [retried], by simp [retried, show j + pws.length ≠ i by omega],
    fun k hk hk' => ?_, fun k hki hk => ?_, fun q' hq' => by simp [retried, hq'], rfl⟩
  · simp only [retried]
    rw [if_neg (by omega), if_neg (by omega), if_pos ⟨hk, hk'⟩]
  · simp only [retried]
    rw [if_neg hki, if_neg (by omega), if_neg (by omega)]

/-- The service of `password_change_recovers_two_keys` once the pop of the first new key is
about to run: invocation 0 awaits it and invocation 1 runs it. -/
def firstKeyPopped : Svc :=
  (Svc.init true false (some ⟨7, ⟨4, 2⟩⟩) [oldItemsKey] []).run
    (.itemsKeysObserved newItemsKeys [] :: List.replicate 4 (.resume 0 none) ++
      [.fetched 0 (some ⟨4, 6⟩)])

/-- Passwords 8 and 5 fail for the first new key, encrypted under password 9: pop 3 prompts for
it under promise 2, which handler 0 awaits. -/
theorem two_wrong_passwords_prompt_again :
    (firstKeyPopped.run (retrySchedule 0 1 [8, 5])).procs 3 = some (.pop 0 2 .clientParams) ∧
      (firstKeyPopped.run (retrySchedule 0 1 [8, 5])).procs 0 =
        some (.handler false (.awaitItem 0 2)) :=
  let h := @wrong_passwords_prompt_again firstKeyPopped 0 1 0 false
    ⟨⟨1, 5, some ⟨4, 6⟩, ⟨9, ⟨4, 6⟩⟩⟩, ⟨4, 6⟩, false, 0, [], []⟩ [8, 5] (by decide) (by decide)
    (by decide) (by decide) (by decide) (by decide)
  ⟨h.2.2.1, h.2.1⟩

/-! ## Wrong passwords, then the right one -/

/-- The recovery of a batch of keys as in `recoverySchedule`, the pop of the first key answered
with each of `pws` in turn and then, by the pop after them, with `pw`, the passcode challenge
answered as `passcodeAnswers` says. -/
def recoveryRetrySchedule (keys : List ItemsKey) (sp : KeyParams) (pws : List Nat) (pw : Nat)
    (hasPasscode : Bool) (cancels passcode : Nat) : List Act :=
  .itemsKeysObserved keys [] :: List.replicate keys.length (.resume 0 none) ++
    [.resume 0 none, .resume 0 none, .fetched 0 (some sp)] ++ retrySchedule 0 1 pws ++
    Svc.replacingPop (1 + pws.length) pw hasPasscode cancels passcode ++
    [.resume 0 none, .resume (1 + pws.length + 1) none, .resume (1 + pws.length + 1) none]

open Svc in
/-- **Wrong passwords do not stand in the way of recovery.** As in
`password_change_recovers_batch`, a freshly constructed service of an account signed in with
params `cp` receives a batch of undecryptable items keys with the server's params `sp ≠ cp`,
encrypted under the root key that password `pw'` derives from `sp`, the first newer than every
local key; the user now first enters any passwords other than `pw'`, each asked again, and then
`pw'`, completing the passcode challenge, on a device with a passcode, after any number of
cancels. The run ends with the root key the new one, the whole batch among the local keys, the
first item's promises failed once per wrong password and its last one resolved with success,
every other item resolved once with success, the queue empty, the guard down and no invocation
left. -/
theorem password_change_recovers_after_wrong_passwords (hasPasscode : Bool) (pw pw' : Nat)
    (cp sp : KeyParams) (localKeys undecryptables : List ItemsKey) (k : ItemsKey)
    (ks : List ItemsKey) (pws : List Nat) (cancels passcode : Nat) (hsp : cp ≠ sp)
    (hparams : ∀ l ∈ k :: ks, l.keyParams = some sp)
    (henc : ∀ l ∈ k :: ks, l.encryptedWith = ⟨pw', sp⟩)
    (hnewer : ∀ l ∈ localKeys, l.createdAt < k.createdAt) (hwrong : pw' ∉ pws) :
    let s := (Svc.init true hasPasscode (some ⟨pw, cp⟩) localKeys undecryptables).run
      (recoveryRetrySchedule (k :: ks) sp pws pw' hasPasscode cancels passcode)
    s.rootKey = some ⟨pw', sp⟩ ∧ s.localKeys = k :: ks ++ localKeys ∧
      (s.queueItems 0).map (·.resolved) =
        some ((List.range pws.length).map (·, false) ++ [(pws.length, true)]) ∧
      (∀ q, 0 < q → (s.queueItems q).map (fun it => (it.key, it.resolved)) =
        (k :: ks)[q]?.map (·, [(0, true)])) ∧
      s.decryptionQueue = [] ∧ s.isProcessingQueue = false ∧ ∀ i, s.procs i = none := by
  intro s
  -- the handler queues the batch, fetches the server's params and starts the pop of the first key
  set sB := batchStarted hasPasscode pw cp sp localKeys undecryptables k ks
  -- each wrong password fails the first item, which is popped again
  set it : QueueItem := ⟨k, sp, false, 0, [], []⟩
  have hR := @run_retrySchedule sB 0 1 0 false it pws rfl rfl Nat.zero_lt_one rfl
    (by simp [sB, batchStarted, queuedItems, it]) fun p hp => by
      simp only [it, ItemsKey.decryptsWith, henc k (List.mem_cons_self _ _), decide_eq_false_iff_not]
      rintro ⟨rfl⟩
      exact hwrong hp
  set sR := sB.retried 0 1 0 false it pws.length
  have hs : s = sR.run (replacingPop (1 + pws.length) pw' sR.hasPasscode cancels passcode ++
      [.resume 0 none, .resume (1 + pws.length + 1) none, .resume (1 + pws.length + 1) none]) := by
    simp only [s, recoveryRetrySchedule, run_append,
      run_beginBatch hasPasscode pw cp sp localKeys undecryptables k ks hparams]
    rw [hR]
    rfl
  -- the right password recovers the batch and the handler hands over
  obtain ⟨h1, h2, h3, h4, h5, h6⟩ := run_recoverBatch (s := sR) (j := 1 + pws.length) cancels
    passcode
    (show sR.queueItems = Function.update (queuedItems (k :: ks) sp false) 0
      (some (it.failed pws.length)) from rfl)
    rfl rfl rfl (by simp [sR, retried, QueueItem.failed, it])
    (by simp [sR, retried, QueueItem.failed, it]) (by omega) rfl
    (fun i h0 h1 => by
      simp only [sR, retried, if_neg h0, if_neg h1]
      split_ifs
      · rfl
      · simp [sB, batchStarted, h0, show i ≠ 1 by omega])
    rfl rfl hsp hnewer henc
  rw [hs]
  refine ⟨h1, h2, ?_, fun q hq => ?_, h4, h5, h6⟩
  · rw [h3 0]
    simp [sR, retried, QueueItem.failed, QueueItem.settleWith, it]
  · rw [h3 q]
    show ((Function.update (queuedItems (k :: ks) sp false) 0 (some (it.failed pws.length)) q).map
      fun (it : QueueItem) => it.settleWith true).map (fun it => (it.key, it.resolved)) = _
    rw [Function.update_noteq (Nat.pos_iff_ne_zero.1 hq)]
    simp [queuedItems, Option.map_map, Function.comp_def, QueueItem.settleWith]

/-- Passwords 8 and 5 fail and 9 recovers both new keys: the first key's promises 0 and 1 fail
and promise 2 succeeds. -/
theorem two_wrong_passwords_then_right_recover_two_keys :
    let s := (Svc.init true false (some ⟨7, ⟨4, 2⟩⟩) [oldItemsKey] []).run
      (recoveryRetrySchedule newItemsKeys ⟨4, 6⟩ [8, 5] 9 false 0 0)
    s.localKeys = newItemsKeys ++ [oldItemsKey] ∧
      (s.queueItems 0).map (·.resolved) = some [(0, false), (1, false), (2, true)] :=
  let h := password_change_recovers_after_wrong_passwords false 7 9 ⟨4, 2⟩ ⟨4, 6⟩ [oldItemsKey] []
    ⟨1, 5, some ⟨4, 6⟩, ⟨9, ⟨4, 6⟩⟩⟩ [⟨2, 6, some ⟨4, 6⟩, ⟨9, ⟨4, 6⟩⟩⟩] [8, 5] 0 0 (by decide)
    (by decide) (by decide) (by decide) (by decide)
  ⟨h.2.1, h.2.2.1⟩

end Snjs.KeyRecovery
