import Snjs.KeyRecovery.Recovery
import Snjs.KeyRecovery.Undecryptables

/-!
# An ignored items key, recovered, leaves the stored record

An items key that arrives undecryptable while a decrypted version of it exists locally is
ignored (migration_service.ts:291–305): `handleIgnoredItemsKeys` saves it to the
`KeyRecoveryUndecryptableItems` record, so that it survives the session, queues it with a
callback, and processes the queue. When a password entered at its prompt decrypts it, the key is
emitted and the callback removes it from the record (:319–324).

**`ignored_key_recovered_leaves_record`**: from a freshly constructed service of an account whose
params the server confirms, when an ignored key arrives whose embedded params derive, with the
password the user enters, the root key it is encrypted under, the run ends with the key among
the local keys, the record as it was without the key's uuid, the item resolved and its callback
called once with success, the root key unchanged, the queue empty, the guard down and no
invocation left.

## Proof structure

The run is cut as in `Recovery`: the save (`run_saveToUndecryptables`), the queueing and the
beginning of the processing (`run_addKeys`, `run_beginProcessingQueue`), the success path of
`popQueueItem` that keeps the root key (`run_popQueueItem_keeping`), the removal the callback
starts (`run_removeFromUndecryptables`), and the hand-over (`run_handOver`).
-/

namespace Snjs.KeyRecovery

namespace Svc

variable {s : Svc} {i : Nat}

/-- `popQueueItem` of item `q` under its current promise when the key does not replace the root
key and the password entered decrypts it (:552–630, :649–676): the items with the key's params
leave the queue, the keys of the item and of those items that decrypt join the local keys, and
the item and the matching ones are settled with success. -/
theorem run_popQueueItem_keeping {j q : Nat} {it : QueueItem} {pw : Nat}
    (hj : s.procs j = some (.pop q it.gen .clientParams)) (hlt : j < s.nextProc)
    (hit : s.queueItems q = some it)
    (hrep : replacesRootKey s.serverParams s.clientKeyParams it.keyParams it.key s.localKeys = false)
    (hdec : it.key.decryptsWith ⟨pw, it.keyParams⟩ = true) :
    s.run [.resume j none, .resume j (some pw), .resume j none, .resume j none] =
      let r := s.popQueueForKeyParams it.keyParams
      (((r.1.emitKeys ⟨pw, it.keyParams⟩ (r.1.keysOf (q :: r.2))).settle q true).resolveMatching
        r.2).setProc j none := by
  have h1 : s.resume j none = s.setProc j (some (.pop q it.gen (.prompt false))) := by
    simp only [resume, hj, resumePop, hit, hrep]
  have h2 : (s.setProc j (some (.pop q it.gen (.prompt false)))).resume j (some pw) =
      s.setProc j (some (.pop q it.gen (.decrypt false ⟨pw, it.keyParams⟩))) := by
    simp only [resume, setProc_procs_self, resumePop, setProc_queueItems, hit, setProc_setProc]
  set r := s.popQueueForKeyParams it.keyParams
  have h3 : (s.setProc j (some (.pop q it.gen (.decrypt false ⟨pw, it.keyParams⟩)))).resume j none =
      r.1.setProc j (some (.pop q it.gen (.save ⟨pw, it.keyParams⟩ r.2))) := by
    simp only [resume, setProc_procs_self, resumePop, setProc_queueItems, hit, hdec, if_true,
      Bool.false_eq_true, if_false]
    exact setProc_setProc r.1 j (some (.pop q it.gen (.decrypt false ⟨pw, it.keyParams⟩))) _
  -- the save settles the item and the matching ones; the record of invocation `j` stays outside
  set t := r.1.emitKeys ⟨pw, it.keyParams⟩ (r.1.keysOf (q :: r.2))
  have ht : j < t.nextProc := hlt
  have h4 : (r.1.setProc j (some (.pop q it.gen (.save ⟨pw, it.keyParams⟩ r.2)))).resume j none =
      ((t.settle q true).resolveMatching r.2).setProc j none := by
    simp only [resume, setProc_procs_self, resumePop]
    let P := some (Proc.pop q it.gen (.save ⟨pw, it.keyParams⟩ r.2))
    show ((((t.setProc j P).resolveItem q it.gen true).callBack q true).resolveMatching r.2).setProc
      j none = _
    rw [show ((t.setProc j P).resolveItem q it.gen true).callBack q true =
        (t.setProc j P).settle q true by simp only [settle, setProc_queueItems, show t.queueItems q =
          some it from hit],
      ← setProc_settle ht, resolveMatching_eq, resolveMatching_eq,
      ← setProc_foldl_settle _ _ _ (lt_of_lt_of_le ht (nextProc_le_settle _ _)), setProc_setProc]
  simp only [run_cons, run_nil, step, h1, h2, h3, h4]

/-- The same with nothing else queued, for an item that carries the callback: the key joins the
local keys, the item is settled with success, and the callback starts `removeFromUndecryptables`
of the key. -/
theorem run_popQueueItem_keeping_alone {j q : Nat} {it : QueueItem} {pw : Nat}
    (hj : s.procs j = some (.pop q it.gen .clientParams)) (hlt : j < s.nextProc)
    (hit : s.queueItems q = some it)
    (hrep : replacesRootKey s.serverParams s.clientKeyParams it.keyParams it.key s.localKeys = false)
    (hdec : it.key.decryptsWith ⟨pw, it.keyParams⟩ = true) (hq : s.decryptionQueue = [])
    (hcb : it.callback = true) :
    s.run [.resume j none, .resume j (some pw), .resume j none, .resume j none] =
      (({ s with localKeys := it.key :: s.localKeys }.setItem q (it.settleWith true)).spawn
        (.remove it.key.uuid .read)).setProc j none := by
  have hr : s.popQueueForKeyParams it.keyParams = (s, []) := by
    simp only [popQueueForKeyParams, hq, List.filter_nil]
    rw [← hq]
  rw [run_popQueueItem_keeping hj hlt hit hrep hdec]
  simp only [hr, keysOf, List.filterMap_cons, hit, Option.map_some', List.filterMap_nil, emitKeys,
    List.filter_cons, hdec, if_true, List.filter_nil, List.singleton_append]
  rw [settle_eq (show { s with localKeys := it.key :: s.localKeys }.queueItems q = some it from hit),
    hcb, Bool.true_and, if_pos rfl]
  rfl

end Svc

/-- The recovery of an ignored key: the item observer hands it to `handleIgnoredItemsKeys`
(invocation 0), which saves it, queues it, begins processing the queue and fetches the server's
params; `popQueueItem` (invocation 1) prompts, is answered `pw`, decrypts and saves, and the
callback starts `removeFromUndecryptables` (invocation 2); the handler then finds the queue empty
and registers the `queuePromise` continuation (invocation 3). -/
def ignoredRecoverySchedule (k : ItemsKey) (sp : KeyParams) (pw : Nat) : List Act :=
  [.itemsKeysObserved [] [k], .resume 0 none, .resume 0 none] ++ [.resume 0 none] ++
    [.resume 0 none, .resume 0 none, .fetched 0 (some sp)] ++
    [.resume 1 none, .resume 1 (some pw), .resume 1 none, .resume 1 none] ++
    [.resume 2 none, .resume 2 none] ++ [.resume 0 none, .resume 3 none, .resume 3 none]

open Svc in
/-- **A recovered ignored key leaves the record.** A freshly constructed service of an account
signed in with params `cp`, holding the stored record `record`, observes an ignored items key
`k` with embedded params `kp`, encrypted under the root key that password `pw'` derives from
`kp`. After the server confirms `cp` and the user enters `pw'` at the one prompt, `k` is among
the local keys, the record is `record` without `k`'s uuid, the key's queue item is resolved and
its callback called once, both with success, the root key is unchanged, the queue is empty,
the guard is down and no invocation is left. -/
theorem ignored_key_recovered_leaves_record (hasPasscode : Bool) (pw pw' : Nat) (cp kp : KeyParams)
    (localKeys record : List ItemsKey) (k : ItemsKey) (hkp : k.keyParams = some kp)
    (henc : k.encryptedWith = ⟨pw', kp⟩) :
    let s := (Svc.init true hasPasscode (some ⟨pw, cp⟩) localKeys record).run
      (ignoredRecoverySchedule k cp pw')
    s.localKeys = k :: localKeys ∧ s.undecryptables = record.filter (·.uuid ≠ k.uuid) ∧
      (s.queueItems 0).map (fun it => (it.key, it.resolved, it.called)) =
        some (k, [(0, true)], [true]) ∧
      s.rootKey = some ⟨pw, cp⟩ ∧ s.decryptionQueue = [] ∧ s.isProcessingQueue = false ∧
      ∀ i, s.procs i = none := by
  intro s
  set s0 := (Svc.init true hasPasscode (some ⟨pw, cp⟩) localKeys record).spawn
    (.handler true (.saveRead [k]))
  -- the handler saves the key to the record and queues it
  have hS := run_saveToUndecryptables
    (show s0.procs 0 = some (.handler true (.saveRead [k])) by simp [s0, spawn, Svc.init])
  set sS := { s0 with undecryptables := [k].foldl putKey s0.undecryptables }.setProc 0
    (some (.handler true (.addKeys [k])))
  have hA := run_addKeys [k] [] (fun l hl => (List.mem_singleton.1 hl) ▸ hkp)
    (show sS.procs 0 = some (.handler true (.addKeys [k])) from setProc_procs_self _ _ _)
  rw [show sS.queued [] kp true = sS from rfl, List.nil_append] at hA
  set sA := (sS.queued [k] kp true).setProc 0 (some (.handler true (.addKeys [])))
  -- it fetches the server's params and starts the pop of the key
  have hB : sA.run [.resume 0 none, .resume 0 none, .fetched 0 (some cp)] = _ :=
    run_beginProcessingQueue (show sA.procs 0 = some (.handler true (.addKeys [])) from
      setProc_procs_self _ _ _) Nat.zero_ne_one rfl rfl rfl
      (show sA.rootKey = some ⟨pw, cp⟩ from rfl) (show sA.decryptionQueue = [0] from rfl)
      (show sA.queueItems 0 = some ⟨k, kp, true, 0, [], []⟩ by simp [sA, queued, queuedItems])
  set sB := ({ sA with isProcessingQueue := true, serverParams := some cp, decryptionQueue := []
    }.spawn (.pop 0 0 .clientParams)).setProc 0 (some (.handler true (.awaitItem 0 0)))
  -- the pop recovers the key without replacing the root key, and the callback starts the removal
  set it : QueueItem := ⟨k, kp, true, 0, [], []⟩
  set sC := (({ sB with localKeys := k :: sB.localKeys }.setItem 0 (it.settleWith true)).spawn
    (.remove k.uuid .read)).setProc 1 none
  have hC : sB.run [.resume 1 none, .resume 1 (some pw'), .resume 1 none, .resume 1 none] = sC :=
    run_popQueueItem_keeping_alone (show sB.procs 1 = some (.pop 0 it.gen .clientParams) from rfl)
      Nat.one_lt_two (show sA.queueItems 0 = some it by simp [sA, queued, queuedItems, it])
      (show replacesRootKey (some cp) (some cp) kp k localKeys = false by simp [replacesRootKey])
      (by simp [it, ItemsKey.decryptsWith, henc]) rfl rfl
  -- the removal deletes the key from the record
  have hD : sC.run [.resume 2 none, .resume 2 none] = _ :=
    run_removeFromUndecryptables (show sC.procs 2 = some (.remove k.uuid .read) from rfl)
  set sD := { sC with undecryptables := sC.undecryptables.filter (·.uuid ≠ k.uuid) }.setProc 2 none
  -- the handler hands over to the continuation
  have hE := run_handOver (show sD.procs 0 = some (.handler true (.awaitItem 0 0)) from rfl)
    (show sD.queueItems 0 = some (it.settleWith true) from rfl) rfl rfl
    (show sD.serverParams = some cp from rfl) (show sD.clientKeyParams = some cp from rfl)
  have hs : s = ({ sD with isProcessingQueue := false, nextProc := 3 + 1 }.setProc 0 none).setProc
      3 none := by
    show (Svc.init true hasPasscode (some ⟨pw, cp⟩) localKeys record).run
      (ignoredRecoverySchedule k cp pw') = _
    rw [ignoredRecoverySchedule, run_append, run_append, run_append, run_append, run_append]
    show (((((s0.run _).run _).run _).run _).run _).run _ = _
    rw [hS, show sS.run [.resume 0 none] = sA from hA, hB, hC, hD]
    exact hE
  rw [hs]
  refine ⟨rfl, filter_putKey record k, rfl, rfl, rfl, rfl, fun i => ?_⟩
  simp only [setProc, sD, sC, sB, sA, sS, s0, spawn, setItem, queued, Svc.init,
    Function.update_apply]
  split_ifs <;> trivial

/-- An items key of the account's params `⟨4, 2⟩`, encrypted under password 7. -/
def ignoredItemsKey : ItemsKey := ⟨5, 8, some ⟨4, 2⟩, ⟨7, ⟨4, 2⟩⟩⟩

/-- The ignored key replaces its older entry in the record, and once recovered leaves the
record with the other entry only. -/
theorem ignored_key_leaves_record_of_two :
    let s := (Svc.init true false (some ⟨7, ⟨4, 2⟩⟩) [oldItemsKey]
      [⟨5, 4, some ⟨4, 2⟩, ⟨7, ⟨4, 2⟩⟩⟩, ⟨6, 4, some ⟨4, 2⟩, ⟨7, ⟨4, 2⟩⟩⟩]).run
        (ignoredRecoverySchedule ignoredItemsKey ⟨4, 2⟩ 7)
    s.localKeys = [ignoredItemsKey, oldItemsKey] ∧
      s.undecryptables = [⟨6, 4, some ⟨4, 2⟩, ⟨7, ⟨4, 2⟩⟩⟩] :=
  let h := ignored_key_recovered_leaves_record false 7 7 ⟨4, 2⟩ ⟨4, 2⟩ [oldItemsKey]
    [⟨5, 4, some ⟨4, 2⟩, ⟨7, ⟨4, 2⟩⟩⟩, ⟨6, 4, some ⟨4, 2⟩, ⟨7, ⟨4, 2⟩⟩⟩] ignoredItemsKey rfl rfl
  ⟨h.1, h.2.1⟩

end Snjs.KeyRecovery
