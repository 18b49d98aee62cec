import Snjs.Sync.Serial

/-!
# A sign-out drops the queued sync requests

The resolvers of a queued promise are held in three places only: `resolveQueue` and
`spawnQueue` (:288–300), and the `inTimeResolveQueue` copy an invocation takes when it
begins (:367), whose callback loop runs after `operation.run()` (:446–448). A spawn request
popped by `popSpawnQueue` is also held by the `.then` of the sync started for it (:314–318).
`handleSignOut()` (:674–680) empties both queues and keeps nothing of them.

So after a sign-out, a pending promise that no invocation between `setDidBegin()` and
`setDidEnd()` took into its `inTimeResolveQueue`, and for which no sync was started, is
*dropped* (`Dropped`): it is in neither queue, and no code can reach its resolvers. Every
step keeps it dropped (`Dropped.step`): the promise keeps its pending record under every
later schedule, and every invocation that returned it to its caller awaits it for ever
(`sign_out_drops_pending_requests`). Every request in `spawnQueue` at the sign-out is such a
promise.
-/

namespace Snjs.Sync

namespace Conf

variable {c : Conf} {p i : Nat} {q : QueuedPromise} {w : Nat → Option Task} {t t' : Task}

/-- Promise `p`, with record `q`, is dropped, and `w` lists the invocations waiting on it:
`p` is in neither queue nor in the `inTimeResolveQueue` of an invocation still to run its
callback loop, and each waiting invocation keeps its record. -/
structure Dropped (c : Conf) (p : Nat) (q : QueuedPromise) (w : Nat → Option Task) : Prop where
  lt : p < c.nextPromise
  record : c.promises p = some q
  notResolveQueue : p ∉ c.resolveQueue
  notSpawnQueue : p ∉ c.spawnQueue
  notInTime : ∀ k t, c.tasks k = some t → t.InSync → p ∉ t.inTimeResolveQueue
  waiting : ∀ k t, w k = some t → c.tasks k = some t ∧ k < c.nextTask

/-- `Dropped` reads only the tasks, the promises, the queues and the two counters. -/
theorem Dropped.congr {c' : Conf} (h : Dropped c p q w) (h1 : c'.tasks = c.tasks)
    (h2 : c'.promises = c.promises) (h3 : c'.resolveQueue = c.resolveQueue)
    (h4 : c'.spawnQueue = c.spawnQueue) (h5 : c'.nextTask = c.nextTask)
    (h6 : c'.nextPromise = c.nextPromise) : Dropped c' p q w := by
  obtain ⟨a1, a2, a3, a4, a5, a6⟩ := h
  rw [← h1, ← h2, ← h3, ← h4, ← h5, ← h6] at *
  exact ⟨a1, a2, a3, a4, a5, a6⟩

/-- Writing the record of an invocation nobody waits on keeps `p` dropped, when the new
record reaches its callback loop only with a list without `p`. -/
theorem Dropped.setTask (h : Dropped c p q w) (hi : w i = none)
    (ht' : t'.InSync → p ∉ t'.inTimeResolveQueue) : Dropped (c.setTask i t') p q w := by
  refine { h with notInTime := fun k t0 hk hs => ?_, waiting := fun k t0 hk => ?_ }
  · simp only [Conf.setTask, Function.update_apply] at hk
    split_ifs at hk
    · cases hk; exact ht' hs
    · exact h.notInTime k t0 hk hs
  · have hki : k ≠ i := fun he => by subst he; rw [hi] at hk; cases hk
    simpa [Function.update_apply, hki] using h.waiting k t0 hk

/-- Moving invocation `i` on, with its list kept, in a configuration with the same
bookkeeping. -/
theorem Dropped.advance {c' : Conf} (h : Dropped c p q w) (ht : c.tasks i = some t)
    (hi : w i = none) (b1 : c'.tasks = c.tasks) (b2 : c'.promises = c.promises)
    (b3 : c'.resolveQueue = c.resolveQueue) (b4 : c'.spawnQueue = c.spawnQueue)
    (b5 : c'.nextTask = c.nextTask) (b6 : c'.nextPromise = c.nextPromise)
    (hin : t'.InSync → t.InSync) (hq : t'.inTimeResolveQueue = t.inTimeResolveQueue) :
    Dropped (c'.setTask i t') p q w :=
  (h.congr b1 b2 b3 b4 b5 b6).setTask hi fun hs => hq ▸ h.notInTime i t ht (hin hs)

theorem Dropped.sync (h : Dropped c p q w) (a : SyncArgs) : Dropped (c.sync a).1 p q w := by
  refine { h with notInTime := fun k t0 hk hs => ?_, waiting := fun k t0 hk => ?_ }
  · rcases sync_tasks_cases a hk with hk | rfl
    · exact h.notInTime k t0 hk hs
    · simp
  · obtain ⟨h1, h2⟩ := h.waiting k t0 hk
    exact ⟨by simp [Function.update_apply, Nat.ne_of_lt h2, h1], by simp; omega⟩

theorem Dropped.timingStrategyResolveOnNext (h : Dropped c p q w) :
    Dropped c.timingStrategyResolveOnNext.1 p q w where
  lt := by simpa using Nat.lt_succ_of_lt h.lt
  record := by simp [Function.update_apply, Nat.ne_of_lt h.lt, h.record]
  notResolveQueue := by simp [h.notResolveQueue, Nat.ne_of_lt h.lt]
  notSpawnQueue := h.notSpawnQueue
  notInTime := h.notInTime
  waiting := h.waiting

theorem Dropped.timingStrategyForceSpawnNew (h : Dropped c p q w) (ci : Option Bool) :
    Dropped (c.timingStrategyForceSpawnNew ci).1 p q w where
  lt := by simpa using Nat.lt_succ_of_lt h.lt
  record := by simp [Function.update_apply, Nat.ne_of_lt h.lt, h.record]
  notResolveQueue := h.notResolveQueue
  notSpawnQueue := by simp [h.notSpawnQueue, Nat.ne_of_lt h.lt]
  notInTime := h.notInTime
  waiting := h.waiting

/-- A callback loop over a list without `p` keeps it dropped. -/
theorem Dropped.resolveInTime (h : Dropped c p q w) {S : List Nat} (hS : p ∉ S) :
    Dropped (c.resolveInTime i S) p q w :=
  { h with record := by simp [hS, h.record],
           notResolveQueue := fun hm => h.notResolveQueue (List.mem_of_mem_filter hm) }

theorem Dropped.popSpawnQueue (h : Dropped c p q w) : Dropped c.popSpawnQueue.1 p q w := by
  unfold Conf.popSpawnQueue
  split
  · exact h
  · rename_i p' rest heq
    have h1 : Dropped { c with spawnQueue := rest } p q w :=
      { h with notSpawnQueue := fun hm => h.notSpawnQueue (by rw [heq]; exact .tail _ hm) }
    have hne : p ≠ p' := fun he => h.notSpawnQueue (by rw [heq, he]; exact .head _)
    split
    · rename_i q' _
      have h2 := h1.sync (spawnArgs q'.request.checkIntegrity)
      exact { h2 with record := by simp [Function.update_apply, hne, h.record] }
    · exact h1

theorem Dropped.drainQueues (h : Dropped c p q w) : Dropped c.drainQueues p q w := by
  unfold Conf.drainQueues
  dsimp only
  split
  · exact h.popSpawnQueue.sync {}
  · exact h.popSpawnQueue

/-- `handleSignOut` keeps every dropped promise dropped. -/
theorem Dropped.handleSignOut (h : Dropped c p q w) : Dropped c.handleSignOut p q w :=
  { h with notResolveQueue := by simp, notSpawnQueue := by simp }

section Waiting

/- The fixed facts about the dropped promise: its sync was never started, it is pending, and
the invocations in `w` returned it. -/
variable (hunsp : q.spawned = none) (hpend : q.settledWith = none)
  (hw : ∀ k t, w k = some t → t.status = .awaitsPromise p)

include hw in
/-- A suspended invocation is not one waiting on `p`. -/
theorem Dropped.not_waiting {pc : Pc} (h : Dropped c p q w) (ht : c.tasks i = some t)
    (hs : t.status = .suspended pc) : w i = none := by
  cases hwi : w i with
  | none => rfl
  | some t0 =>
    obtain ⟨h1, -⟩ := h.waiting i t0 hwi
    rw [ht] at h1; cases h1
    rw [hw i t hwi] at hs; cases hs

include hunsp in
theorem Dropped.settleSpawnRequest (h : Dropped c p q w) (p' : Nat) :
    Dropped (c.settleSpawnRequest p') p q w := by
  rcases settleSpawnRequest_cases c p' with he | ⟨q', j, _, _, hp', _, hsp, _, _, he⟩
  · rw [he]; exact h
  have hne : p ≠ p' := fun e => by
    subst e; rw [h.record] at hp'; cases hp'; rw [hunsp] at hsp; cases hsp
  rw [he]
  exact { h with record := by simp [Function.update_apply, hne, h.record] }

include hpend hw in
theorem Dropped.settleInvocation (h : Dropped c p q w) (i : Nat) :
    Dropped (c.settleInvocation i) p q w := by
  cases hwi : w i with
  | some t0 =>
    obtain ⟨h1, -⟩ := h.waiting i t0 hwi
    simpa [Conf.settleInvocation, h1, hw i t0 hwi, h.record, hpend] using h
  | none =>
    unfold Conf.settleInvocation
    repeat' split
    all_goals first | exact h | exact h.setTask hwi (by rintro ⟨_, hs, _⟩; cases hs)

/-- The code after `operation.run()` of an invocation that does not hold `p`. -/
theorem Dropped.afterRun (h : Dropped c p q w) (ht : c.tasks i = some t) (hi : w i = none)
    (hpc : t.status = .suspended .run) : Dropped (c.afterRun i t) p q w := by
  have hS := h.notInTime i t ht ⟨.run, hpc, rfl⟩
  have h1 : Dropped { c.setTask i { t with pastRun := true, status := .suspended .completion }
      with syncInProgress := false } p q w :=
    (h.setTask hi (by rintro ⟨_, hs, hb⟩; cases hs; cases hb)).congr rfl rfl rfl rfl rfl rfl
  exact ((h1.resolveInTime hS).drainQueues).congr rfl rfl rfl rfl rfl rfl

/-- The check at :375–393: the list an invocation takes when it begins is `resolveQueue`,
which does not hold `p`. -/
theorem Dropped.afterPersist (h : Dropped c p q w) (hi : w i = none) :
    Dropped (c.afterPersist i t) p q w := by
  have out : ∀ s, (∀ pc, s ≠ .suspended pc) → ({ t with status := s } : Task).InSync →
      p ∉ ({ t with status := s } : Task).inTimeResolveQueue :=
    fun s hs ⟨pc, h1, _⟩ => absurd h1 (hs pc)
  unfold Conf.afterPersist
  dsimp only
  split
  · split
    · exact h.timingStrategyResolveOnNext.setTask hi (out _ nofun)
    · split
      · exact (h.timingStrategyForceSpawnNew _).setTask hi (out _ nofun)
      · exact h.setTask hi (out _ nofun)
  · have h1 : Dropped { c with syncInProgress := true } p q w := h.congr rfl rfl rfl rfl rfl rfl
    exact h1.setTask hi fun _ => h.notResolveQueue

include hw in
/-- Resuming an invocation keeps `p` dropped. -/
theorem Dropped.resume (h : Dropped c p q w) (i : Nat) (ok : Bool) :
    Dropped (c.resume i ok) p q w := by
  unfold Conf.resume
  split
  · rename_i t ht
    split
    · rename_i pc hpc
      have hi := h.not_waiting hw ht hpc
      split
      · cases pc with
        | persist => exact h.afterPersist hi
        | run => exact h.afterRun ht hi hpc
        | initialNotify =>
          exact (h.sync {}).setTask hi (by rintro ⟨_, hs, _⟩; cases hs)
        | recheck =>
          simp only [Conf.continueFrom, Conf.chainSync]
          split
          · exact (h.sync {}).setTask hi (by rintro ⟨_, hs, _⟩; cases hs)
          · exact h.setTask hi (by rintro ⟨_, hs, _⟩; cases hs)
        | itemsNeedingSync =>
          obtain ⟨d, hd⟩ := popPayloadsNeedingPreSyncSave_fst c
            (t.items.filter fun it => !(it.neverSynced && it.deleted))
          simp only [Conf.continueFrom, Conf.afterItemsNeedingSync, hd]
          exact h.advance ht hi rfl rfl rfl rfl rfl rfl
            (by rintro ⟨_, hs, hb⟩; cases hs; cases hb) rfl
        | _ =>
          simp only [Conf.continueFrom, Conf.afterOnline, Conf.afterNeverSyncedDeleted,
            Conf.afterPresaveFilter, persistPayloads_eq, Conf.handleNeverSyncedDeleted,
            Conf.afterMapNeverSyncedDeleted, Conf.mapPayloadsToLocalItems]
          repeat' split
          all_goals
            apply h.advance ht hi <;>
              first | rfl | exact fun _ => ⟨_, hpc, rfl⟩ | (rintro ⟨_, hs, hb⟩; cases hs; cases hb)
      · exact h.setTask hi (by rintro ⟨_, hs, _⟩; cases hs)
    · exact h
  · exact h

include hunsp hpend hw in
/-- Every step keeps a dropped promise dropped, sign-outs included. -/
theorem Dropped.step (h : Dropped c p q w) (a : Act) : Dropped (c.step a) p q w := by
  cases a with
  | sync a => exact h.sync a
  | resume i ok => exact h.resume hw i ok
  | integritySync i =>
    simp only [Conf.step]
    split
    · exact h.sync _
    · exact h
  | settleInvocation i => exact h.settleInvocation hpend hw i
  | settleSpawnRequest p' => exact h.settleSpawnRequest hunsp p'
  | handleSignOut => exact h.handleSignOut
  | lockSyncing | unlockSyncing | mapItem _ | loadDatabase | tick =>
    exact h.congr rfl rfl rfl rfl rfl rfl

include hunsp hpend hw in
theorem Dropped.run (h : Dropped c p q w) (acts : List Act) : Dropped (c.run acts) p q w :=
  run_induction (P := fun c => Dropped c p q w) (fun _ => True)
    (fun _ a _ h => h.step hunsp hpend hw a) acts
    (fun _ _ => trivial) h

end Waiting

/-- A sign-out drops every pending promise whose sync was never started and that no
invocation between `setDidBegin()` and `setDidEnd()` holds; the invocations that returned it
are the ones waiting on it. -/
theorem Inv.dropped_handleSignOut (hinv : Inv c) (hp : c.promises p = some q)
    (hfree : ∀ k t, c.tasks k = some t → t.InSync → p ∉ t.inTimeResolveQueue) :
    Dropped c.handleSignOut p q
      (fun k => (c.tasks k).filter fun t => t.status = .awaitsPromise p) where
  lt := hinv.lt_nextPromise hp
  record := hp
  notResolveQueue := by simp
  notSpawnQueue := by simp
  notInTime := hfree
  waiting k t hk := by
    obtain ⟨h1, -⟩ := Option.filter_eq_some.mp hk
    exact ⟨h1, hinv.lt_nextTask h1⟩

/-- A request in `spawnQueue` is pending, its sync not started, and no invocation holds it in
its `inTimeResolveQueue`, which holds resolve-on-next promises only. -/
theorem Inv.spawnQueue_free (hinv : Inv c) (hp : p ∈ c.spawnQueue) :
    ∃ q, c.promises p = some q ∧ q.settledWith = none ∧ q.spawned = none ∧
      ∀ k t, c.tasks k = some t → p ∉ t.inTimeResolveQueue := by
  obtain ⟨q, ci, hq, hk, hs, hsp⟩ := hinv.spawnQueue p hp
  refine ⟨q, hq, hs, hsp, fun k t ht hm => ?_⟩
  obtain ⟨⟨q', hq', hk'⟩, -⟩ := hinv.snapshot k t ht p hm
  rw [hq] at hq'; cases hq'
  rw [hk] at hk'; cases hk'

end Conf

/-- **A sign-out drops the queued sync requests.** In every configuration reached from a fresh
manager, take a pending promise whose sync was never started and that no invocation between
`setDidBegin()` and `setDidEnd()` took into its `inTimeResolveQueue`; every request in
`spawnQueue` is one. After `handleSignOut`, under every later schedule (new syncs, resumptions,
spawned and integrity syncs, more sign-outs), the promise keeps its pending record, and every
invocation that returned it to its caller still awaits it. -/
theorem sign_out_drops_pending_requests (items : List Item) (now : Nat) (acts later : List Act) :
    (∀ p q, ((Conf.init items now).run acts).promises p = some q → q.settledWith = none →
      q.spawned = none →
      (∀ k t, ((Conf.init items now).run acts).tasks k = some t → t.InSync →
        p ∉ t.inTimeResolveQueue) →
      ((Conf.init items now).run (acts ++ .handleSignOut :: later)).promises p = some q ∧
      ∀ k t, ((Conf.init items now).run acts).tasks k = some t → t.status = .awaitsPromise p →
        ((Conf.init items now).run (acts ++ .handleSignOut :: later)).tasks k = some t) ∧
    ∀ p ∈ ((Conf.init items now).run acts).spawnQueue, ∃ q,
      ((Conf.init items now).run acts).promises p = some q ∧ q.settledWith = none ∧
      q.spawned = none ∧
      ∀ k t, ((Conf.init items now).run acts).tasks k = some t → p ∉ t.inTimeResolveQueue := by
  have hinv := Conf.inv_run items now acts
  refine ⟨fun p q hp hpend hunsp hfree => ?_, fun p hp => hinv.spawnQueue_free hp⟩
  have hd := ((hinv.dropped_handleSignOut hp hfree).run hunsp hpend
    (fun k t hk => of_decide_eq_true (Option.filter_eq_some.mp hk).2) later)
  rw [Conf.run_append, Conf.run_cons]
  exact ⟨hd.record, fun k t hk hs => (hd.waiting k t (Option.filter_eq_some.mpr ⟨hk, by simpa⟩)).1⟩

/-- An initial sync begins, and a force-spawn-new request queues behind it (promise 0, returned
by invocation 1). -/
def spawnQueuedSchedule : List Act :=
  [.loadDatabase, .sync { mode := some SYNC_MODE_INITIAL },
   .resume 0 true, .resume 0 true, .resume 0 true,
   .sync { timingStrategy := some TIMING_STRATEGY_FORCE_SPAWN_NEW },
   .resume 1 true, .resume 1 true, .resume 1 true]

/-- A sign-out with the request queued: the initial sync's run then completes, where
`popSpawnQueue` would have started a sync for the request, and invocation 1 is offered its
settlement; promise 0 stays pending and invocation 1 keeps awaiting it. -/
theorem sign_out_drops_queued_spawn_request :
    ((Conf.init [] 0).run (spawnQueuedSchedule ++ .handleSignOut ::
        [.resume 0 true, .resume 0 true, .resume 0 true, .resume 0 true, .resume 0 true,
         .settleInvocation 1])).promises 0 = some ⟨.forceSpawnNew none, none, none, none⟩ ∧
    ∀ k t, ((Conf.init [] 0).run spawnQueuedSchedule).tasks k = some t →
      t.status = .awaitsPromise 0 →
      ((Conf.init [] 0).run (spawnQueuedSchedule ++ .handleSignOut ::
        [.resume 0 true, .resume 0 true, .resume 0 true, .resume 0 true, .resume 0 true,
         .settleInvocation 1])).tasks k = some t :=
  (sign_out_drops_pending_requests [] 0 spawnQueuedSchedule _).1 0 _ (by decide) rfl rfl
    fun k t hk _ => by
      simpa using Conf.forall_tasks (Conf.inv_run [] 0 _)
        (fun t => !(t.inTimeResolveQueue.contains 0)) (by decide) k t hk

end Snjs.Sync
