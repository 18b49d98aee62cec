import Snjs.Sync.Invariant

/-!
# One sync at a time, and what the queues promise

`sync()` takes its lock by reading `opStatus.syncInProgress` and calling `setDidBegin()`
in one piece of code (:375–393), and releases it with `setDidEnd()` (:440). `Serial` says
that at most one invocation is between the two, and that the flag is up while one is.
Every step keeps it except `handleSignOut`, whose `opStatus.reset()` lowers the flag under
a running sync, so that a second one can begin.

`sync_serialization` collects what holds of the queues under every schedule:

1. without sign-outs, at most one invocation is between `setDidBegin()` and `setDidEnd()`;
2. a resolve-on-next promise is resolved only by an invocation that began after it was
   pushed, once that invocation's `operation.run()` has completed;
3. a force-spawn-new promise settles only as the invocation `popSpawnQueue` started for it
   settled, that invocation having been called after the request was queued, with the
   request's `checkIntegrity`.

What does not hold is shown on concrete schedules (`sign_out_lock_and_mode_break_serialization`): a
sign-out lets two syncs run, a spawn request is resolved by a locked spawned sync that never
begins, and the request's `mode` is not passed on. A default-mode invocation that raises after
`setDidBegin()` leaves the flag up with nobody in a sync, and no later schedule without a
sign-out undoes that (`Leaked.step`, `default_mode_throw_leaks_lock`); and the sync spawned by
an initial sync reaches that raise before the initial sync records its completion
(`spawned_sync_overtakes_initial`).
-/

namespace Snjs.Sync

/-- The `await`s between `setDidBegin()` and `setDidEnd()` (:393–440). -/
def Pc.inSync : Pc → Bool
  | .setItemsProperties | .online | .encrypt | .operation | .run => true
  | _ => false

/-- An invocation between its `setDidBegin()` and its `setDidEnd()`. -/
def Task.InSync (t : Task) : Prop := ∃ pc, t.status = .suspended pc ∧ pc.inSync = true

namespace Conf

variable {c : Conf} {i : Nat} {t t' : Task}

/-- At most one invocation holds the sync lock, and the flag is up while one does. -/
structure Serial (c : Conf) : Prop where
  flag : ∀ k t, c.tasks k = some t → t.InSync → c.syncInProgress = true
  unique : ∀ k k' t t', c.tasks k = some t → c.tasks k' = some t' → t.InSync → t'.InSync → k = k'

/-- No invocation holds the sync lock. -/
def NoneInSync (c : Conf) : Prop := ∀ k t, c.tasks k = some t → ¬ t.InSync

theorem NoneInSync.serial (h : NoneInSync c) : Serial c :=
  ⟨fun k t hk hs => absurd hs (h k t hk), fun k _ t _ hk _ hs => absurd hs (h k t hk)⟩

theorem Serial.congr {c' : Conf} (h : Serial c) (h1 : c'.tasks = c.tasks)
    (h2 : c'.syncInProgress = c.syncInProgress) : Serial c' := by
  obtain ⟨a, b⟩ := h
  rw [← h1, ← h2] at *
  exact ⟨a, b⟩

theorem NoneInSync.congr {c' : Conf} (h : NoneInSync c) (h1 : c'.tasks = c.tasks) :
    NoneInSync c' := by
  rw [NoneInSync, h1]; exact h

/-- A new invocation does not hold the lock. -/
theorem invocation_not_inSync (c : Conf) (a : SyncArgs) : ¬ (c.invocation a).InSync := by
  rintro ⟨pc, hs, hpc⟩
  rcases invocation_status c a with h | h <;> rw [h] at hs <;> cases hs
  cases hpc

/-- The invocations after a call are the old ones and the new one. -/
theorem sync_tasks_cases (a : SyncArgs) {k : Nat} {t0 : Task}
    (hk : (c.sync a).1.tasks k = some t0) : c.tasks k = some t0 ∨ t0 = c.invocation a := by
  simp only [Conf.sync, Function.update_apply] at hk
  split_ifs at hk
  · cases hk; exact .inr rfl
  · exact .inl hk

theorem NoneInSync.sync (h : NoneInSync c) (a : SyncArgs) :
    NoneInSync (c.sync a).1 := fun k t0 hk hs => by
  rcases sync_tasks_cases a hk with hk | rfl
  · exact h k t0 hk hs
  · exact invocation_not_inSync c a hs

theorem Serial.sync (h : Serial c) (a : SyncArgs) : Serial (c.sync a).1 := by
  refine ⟨fun k t0 hk hs => ?_, fun k k' t0 t1 hk hk' hs hs' => ?_⟩
  · rcases sync_tasks_cases a hk with hk | rfl
    · exact h.flag k t0 hk hs
    · exact absurd hs (invocation_not_inSync c a)
  · rcases sync_tasks_cases a hk with hk | rfl
    · rcases sync_tasks_cases a hk' with hk' | rfl
      · exact h.unique k k' t0 t1 hk hk' hs hs'
      · exact absurd hs' (invocation_not_inSync c a)
    · exact absurd hs (invocation_not_inSync c a)

theorem NoneInSync.popSpawnQueue (h : NoneInSync c) : NoneInSync c.popSpawnQueue.1 := by
  unfold Conf.popSpawnQueue
  split
  · exact h
  · split
    · exact (NoneInSync.sync (c := { c with spawnQueue := _ }) h _).congr rfl
    · exact h

theorem NoneInSync.drainQueues (h : NoneInSync c) : NoneInSync c.drainQueues := by
  unfold Conf.drainQueues
  dsimp only
  split
  · exact h.popSpawnQueue.sync {}
  · exact h.popSpawnQueue

/-- Writing an invocation's record keeps `Serial` when the new record holds the lock only if
the old one did. -/
theorem Serial.setTask (h : Serial c) (ht : c.tasks i = some t) (hin : t'.InSync → t.InSync) :
    Serial (c.setTask i t') := by
  have back : ∀ {k t0}, (c.setTask i t').tasks k = some t0 → t0.InSync →
      ∃ t1, c.tasks k = some t1 ∧ t1.InSync := by
    intro k t0 hk hs
    simp only [Conf.setTask, Function.update_apply] at hk
    split_ifs at hk with hki
    · cases hk; subst hki; exact ⟨t, ht, hin hs⟩
    · exact ⟨t0, hk, hs⟩
  refine ⟨fun k t0 hk hs => ?_, fun k k' t0 t1 hk hk' hs hs' => ?_⟩
  · obtain ⟨t2, h2, hs2⟩ := back hk hs
    exact h.flag k t2 h2 hs2
  · obtain ⟨t2, h2, hs2⟩ := back hk hs
    obtain ⟨t3, h3, hs3⟩ := back hk' hs'
    exact h.unique k k' t2 t3 h2 h3 hs2 hs3

/-- `setDidBegin()` with the flag down: the beginning invocation is the only one in a sync. -/
theorem Serial.begin (h : Serial c) (hflag : c.syncInProgress = false) :
    Serial ({ c with syncInProgress := true }.setTask i t') := by
  have none : ∀ k t0, c.tasks k = some t0 → ¬ t0.InSync := fun k t0 hk hs => by
    rw [h.flag k t0 hk hs] at hflag; cases hflag
  refine ⟨fun _ _ _ _ => rfl, fun k k' t0 t1 hk hk' hs hs' => ?_⟩
  simp only [Conf.setTask, Function.update_apply] at hk hk'
  split_ifs at hk hk' with h1 h2 h2
  · exact h1.trans h2.symm
  · exact absurd hs' (none k' t1 hk')
  · exact absurd hs (none k t0 hk)
  · exact absurd hs (none k t0 hk)

/-- The code after `operation.run()` releases the lock: afterwards nobody holds it. -/
theorem Serial.afterRun (h : Serial c) (ht : c.tasks i = some t)
    (hpc : t.status = .suspended .run) : Serial (c.afterRun i t) := by
  have h1 : NoneInSync (c.setTask i { t with pastRun := true, status := .suspended .completion }) := by
    intro k t0 hk hs
    simp only [Conf.setTask, Function.update_apply] at hk
    split_ifs at hk with hki
    · cases hk; obtain ⟨pc, hs, hpc'⟩ := hs; cases hs; cases hpc'
    · exact hki (h.unique k i t0 t hk ht hs ⟨.run, hpc, rfl⟩)
  have h2 : NoneInSync ({ c.setTask i { t with pastRun := true, status := .suspended .completion }
      with syncInProgress := false }.resolveInTime i t.inTimeResolveQueue).drainQueues :=
    NoneInSync.drainQueues (h1.congr rfl)
  exact (show NoneInSync (c.afterRun i t) from h2.congr rfl).serial

/-- Writing an invocation's record in a configuration with the same tasks and flag. -/
theorem Serial.advance {c' : Conf} (h : Serial c) (ht : c.tasks i = some t)
    (b1 : c'.tasks = c.tasks) (b2 : c'.syncInProgress = c.syncInProgress)
    (hin : t'.InSync → t.InSync) : Serial (c'.setTask i t') :=
  (h.congr b1 b2).setTask (b1 ▸ ht) hin

/-- The check at :375–393: queue, raise, or take the lock with the flag down. -/
theorem Serial.afterPersist (h : Serial c) (ht : c.tasks i = some t) :
    Serial (c.afterPersist i t) := by
  have out : ∀ s, (∀ pc, s ≠ .suspended pc) → ({ t with status := s } : Task).InSync → t.InSync :=
    fun s hs ⟨pc, h1, _⟩ => absurd h1 (hs pc)
  unfold Conf.afterPersist
  dsimp only
  split
  · split
    · exact h.advance ht rfl rfl (out _ nofun)
    · split
      · exact h.advance ht rfl rfl (out _ nofun)
      · exact h.advance ht rfl rfl (out _ nofun)
  · rename_i hflag
    exact h.begin (by simp_all)

/-- `return this.sync()` keeps `Serial`. -/
theorem Serial.chainSync (hinv : Inv c) (h : Serial c) (ht : c.tasks i = some t) :
    Serial (c.chainSync i t) :=
  (h.sync {}).setTask (sync_tasks_of_some hinv ht {}) nofun

/-- Resuming an invocation keeps `Serial`. -/
theorem Serial.resume (hinv : Inv c) (h : Serial c) (i : Nat) (ok : Bool) :
    Serial (c.resume i ok) := by
  unfold Conf.resume
  split
  · rename_i t ht
    split
    · rename_i pc hpc
      split
      · cases pc with
        | persist => exact h.afterPersist ht
        | run => exact h.afterRun ht hpc
        | initialNotify => exact h.chainSync hinv ht
        | recheck =>
          simp only [Conf.continueFrom]
          split
          · exact h.chainSync hinv ht
          · exact h.advance ht rfl rfl nofun
        | itemsNeedingSync =>
          obtain ⟨d, hd⟩ := popPayloadsNeedingPreSyncSave_fst c
            (t.items.filter fun it => !(it.neverSynced && it.deleted))
          simp only [Conf.continueFrom, Conf.afterItemsNeedingSync, hd]
          exact h.advance ht rfl rfl (fun ⟨_, hs, hb⟩ => by cases hs; cases hb)
        | _ =>
          simp only [Conf.continueFrom, Conf.afterOnline, Conf.afterNeverSyncedDeleted,
            Conf.afterPresaveFilter, persistPayloads_eq, Conf.handleNeverSyncedDeleted,
            Conf.afterMapNeverSyncedDeleted, Conf.mapPayloadsToLocalItems]
          repeat' split
          all_goals
            apply h.advance ht <;>
              first | rfl | exact fun _ => ⟨_, hpc, rfl⟩ | (rintro ⟨_, hs, hb⟩; cases hs; cases hb)
      · exact h.advance ht rfl rfl nofun
    · exact h
  · exact h

theorem Serial.settleInvocation (h : Serial c) (i : Nat) : Serial (c.settleInvocation i) := by
  unfold Conf.settleInvocation
  split
  · rename_i t ht
    have key : ∀ r, (∀ pc, t.status ≠ .suspended pc) →
        Serial (c.setTask i { t with status := .settled r }) :=
      fun _ _ => h.setTask ht nofun
    split
    · split
      · exact key _ (by simp_all)
      · exact h
    · split
      · exact key _ (by simp_all)
      · exact h
    · exact h
  · exact h

/-- Every step but `handleSignOut` keeps `Serial`. -/
theorem Serial.step (hinv : Inv c) (h : Serial c) (a : Act) (ha : a ≠ .handleSignOut) :
    Serial (c.step a) := by
  cases a with
  | sync a => exact h.sync a
  | resume i ok => exact h.resume hinv i ok
  | integritySync i =>
    simp only [Conf.step]
    split
    · exact h.sync _
    · exact h
  | settleInvocation i => exact h.settleInvocation i
  | settleSpawnRequest p =>
    rcases settleSpawnRequest_cases c p with he | ⟨_, _, _, _, _, _, _, _, _, he⟩ <;>
      simp only [Conf.step, he] <;> first | exact h | exact h.congr rfl rfl
  | handleSignOut => exact absurd rfl ha
  | lockSyncing | unlockSyncing | mapItem _ | loadDatabase | tick => exact h.congr rfl rfl

end Conf

/-! ## The serialisation law -/

/-- At most one invocation is between its `setDidBegin()` and its `setDidEnd()`. -/
def OneSyncAtATime (c : Conf) : Prop :=
  ∀ k k' t t', c.tasks k = some t → c.tasks k' = some t' → t.InSync → t'.InSync → k = k'

/-- A settled resolve-on-next promise was resolved by an invocation that executed
`setDidBegin()` after the promise was pushed, and whose `operation.run()` had completed. -/
def ResolvedAfterRun (c : Conf) : Prop :=
  ∀ p q, c.promises p = some q → q.request = .resolveOnNext → q.settledWith ≠ none →
    ∃ T t b, q.resolvedBy = some T ∧ c.tasks T = some t ∧ t.beganAt = some b ∧ p < b ∧
      t.pastRun = true

/-- A settled force-spawn-new promise settled as the invocation `popSpawnQueue` started for
it did; that invocation was called after the request was queued, with the request's
`checkIntegrity`. -/
def SpawnSettledAfterSync (c : Conf) : Prop :=
  ∀ p q ci r, c.promises p = some q → q.request = .forceSpawnNew ci → q.settledWith = some r →
    ∃ j t, q.spawned = some j ∧ c.tasks j = some t ∧ p < t.createdAt ∧ t.args = spawnArgs ci ∧
      t.status = .settled r

theorem serial_run (items : List Item) (now : Nat) (acts : List Act)
    (hacts : ∀ a ∈ acts, a ≠ .handleSignOut) : Conf.Serial ((Conf.init items now).run acts) :=
  (Conf.run_induction (fun a => a ≠ .handleSignOut) (P := fun c => c.Inv ∧ c.Serial)
    (fun _ a ha h => ⟨h.1.step a, h.2.step h.1 a ha⟩) acts hacts
    ⟨Conf.inv_init items now, ⟨fun _ _ h => (nomatch h), fun _ _ _ _ h => (nomatch h)⟩⟩).2

/-- **Serialisation of `sync()`**, under every schedule of invocations, resumptions,
spawned and integrity syncs, lock calls and sign-outs: one sync at a time as long as no
sign-out intervenes; resolve-on-next promises resolved by a later invocation after its run;
force-spawn-new promises settled by the invocation started for them. -/
theorem sync_serialization (items : List Item) (now : Nat) (acts : List Act) :
    ((∀ a ∈ acts, a ≠ .handleSignOut) → OneSyncAtATime ((Conf.init items now).run acts)) ∧
    ResolvedAfterRun ((Conf.init items now).run acts) ∧
    SpawnSettledAfterSync ((Conf.init items now).run acts) := by
  have h := Conf.inv_run items now acts
  refine ⟨fun hacts => (serial_run items now acts hacts).unique, h.onNextResolved,
    fun p q ci r hp hq hr => ?_⟩
  obtain ⟨j, t, hsp, hj, hst⟩ := h.spawnSettled p q ci r hp hq hr
  obtain ⟨t', hj', hlt, hargs⟩ := h.spawnedBy p q j hp hsp
  rw [hj] at hj'; cases hj'
  rw [hq] at hargs
  exact ⟨j, t, hsp, hj, hlt, hargs, hst⟩

/-! ## The lock left up -/

namespace Conf

variable {c : Conf} {i : Nat} {t : Task}

/-- The flag is up and nobody holds the lock: no `setDidEnd()` will lower it. -/
def Leaked (c : Conf) : Prop := c.syncInProgress = true ∧ NoneInSync c

theorem Leaked.setTask (h : Leaked c) (t' : Task) (hout : ¬ t'.InSync) : Leaked (c.setTask i t') := by
  refine ⟨h.1, fun k t0 hk => ?_⟩
  simp only [Conf.setTask, Function.update_apply] at hk
  split_ifs at hk
  · cases hk; exact hout
  · exact h.2 k t0 hk

theorem Leaked.advance {c' : Conf} (h : Leaked c) (b1 : c'.tasks = c.tasks)
    (b2 : c'.syncInProgress = c.syncInProgress) (t' : Task) (hout : ¬ t'.InSync) :
    Leaked (c'.setTask i t') :=
  Leaked.setTask ⟨b2.trans h.1, h.2.congr b1⟩ t' hout

/-- Resuming an invocation keeps a leaked lock leaked: nobody can begin, and nobody is in a
sync to end one. -/
theorem Leaked.resume (h : Leaked c) (i : Nat) (ok : Bool) : Leaked (c.resume i ok) := by
  unfold Conf.resume
  split
  · rename_i t ht
    split
    · rename_i pc hpc
      have hnot : ¬ t.InSync := h.2 i t ht
      split
      · cases pc with
        | setItemsProperties | online | encrypt | operation | run =>
          exact absurd ⟨_, hpc, rfl⟩ hnot
        | persist =>
          simp only [Conf.continueFrom, Conf.afterPersist, h.1, Bool.true_or, if_true]
          repeat' split
          all_goals exact h.advance rfl rfl _ (by rintro ⟨_, hs, _⟩; cases hs)
        | itemsNeedingSync =>
          obtain ⟨d, hd⟩ := popPayloadsNeedingPreSyncSave_fst c
            (t.items.filter fun it => !(it.neverSynced && it.deleted))
          simp only [Conf.continueFrom, Conf.afterItemsNeedingSync, hd]
          exact h.advance rfl rfl _ (by rintro ⟨_, hs, hb⟩; cases hs; cases hb)
        | initialNotify | recheck =>
          simp only [Conf.continueFrom, Conf.chainSync]
          try split
          all_goals first
            | exact (show Leaked (c.sync {}).1 from ⟨h.1, h.2.sync {}⟩).setTask _
                (by rintro ⟨_, hs, _⟩; cases hs)
            | exact h.advance rfl rfl _ (by rintro ⟨_, hs, _⟩; cases hs)
        | presaveFilter | completion | mapNeverSyncedDeleted | neverSyncedDeleted =>
          simp only [Conf.continueFrom, Conf.afterNeverSyncedDeleted, Conf.afterPresaveFilter,
            persistPayloads_eq, Conf.handleNeverSyncedDeleted, Conf.afterMapNeverSyncedDeleted,
            Conf.mapPayloadsToLocalItems]
          try split
          all_goals exact h.advance rfl rfl _ (by rintro ⟨_, hs, hb⟩; cases hs; cases hb)
      · exact h.advance rfl rfl _ (by rintro ⟨_, hs, _⟩; cases hs)
    · exact h
  · exact h

theorem Leaked.settleInvocation (h : Leaked c) (i : Nat) : Leaked (c.settleInvocation i) := by
  unfold Conf.settleInvocation
  repeat' split
  all_goals first | exact h | exact h.setTask _ (by rintro ⟨_, hs, _⟩; cases hs)

/-- Every step but `handleSignOut` keeps a leaked lock leaked. -/
theorem Leaked.step (h : Leaked c) (a : Act) (ha : a ≠ .handleSignOut) : Leaked (c.step a) := by
  cases a with
  | sync a => exact ⟨h.1, h.2.sync a⟩
  | resume i ok => exact h.resume i ok
  | integritySync i =>
    simp only [Conf.step]
    split
    · exact ⟨h.1, h.2.sync _⟩
    · exact h
  | settleInvocation i => exact h.settleInvocation i
  | settleSpawnRequest p =>
    rcases settleSpawnRequest_cases c p with he | ⟨_, _, _, _, _, _, _, _, _, he⟩ <;>
      simp only [Conf.step, he] <;> exact ⟨h.1, h.2.congr rfl⟩
  | handleSignOut => exact absurd rfl ha
  | lockSyncing | unlockSyncing | mapItem _ | loadDatabase | tick => exact ⟨h.1, h.2.congr rfl⟩

/-- On a concrete configuration, a check of every existing invocation covers all of them. -/
theorem forall_tasks (h : Inv c) (f : Task → Bool)
    (hf : (List.range c.nextTask).all (fun k => (c.tasks k).all f) = true) :
    ∀ k t, c.tasks k = some t → f t = true := by
  intro k t hk
  have := List.all_eq_true.mp hf k (List.mem_range.mpr (h.lt_nextTask hk))
  rwa [hk] at this

end Conf

/-! ## Three schedules the serialisation law does not cover -/

/-- A sync begins; the user signs out under it; a second sync begins. -/
def signOutSchedule : List Act :=
  [.loadDatabase, .sync {}, .resume 0 true, .resume 0 true, .resume 0 true,
   .handleSignOut, .sync {}, .resume 1 true, .resume 1 true, .resume 1 true]

/-- An initial sync begins and a force-spawn-new request queues behind it; syncing is locked
before the initial sync's run completes and `popSpawnQueue` starts the spawned sync. -/
def lockedSpawnSchedule : List Act :=
  [.loadDatabase, .sync { mode := some SYNC_MODE_INITIAL },
   .resume 0 true, .resume 0 true, .resume 0 true,
   .sync { timingStrategy := some TIMING_STRATEGY_FORCE_SPAWN_NEW },
   .resume 1 true, .resume 1 true, .resume 1 true, .lockSyncing,
   .resume 0 true, .resume 0 true, .resume 0 true, .resume 0 true]

/-- As `lockedSpawnSchedule` without the lock, the request made with `mode: SYNC_MODE_INITIAL`;
the initial sync and the spawned one both run to their end. -/
def initialSpawnSchedule : List Act :=
  [.loadDatabase, .sync { mode := some SYNC_MODE_INITIAL },
   .resume 0 true, .resume 0 true, .resume 0 true,
   .sync { timingStrategy := some TIMING_STRATEGY_FORCE_SPAWN_NEW, mode := some SYNC_MODE_INITIAL },
   .resume 1 true, .resume 1 true, .resume 1 true,
   .resume 0 true, .resume 0 true, .resume 0 true, .resume 0 true,
   .resume 0 true, .resume 0 true, .resume 0 true, .resume 0 true,
   .resume 2 true, .resume 2 true, .resume 2 true, .resume 2 true, .resume 2 true, .resume 2 true,
   .resume 2 true, .resume 2 true, .resume 2 true, .resume 2 true, .resume 2 true, .resume 2 true]

/-- The spawn request of both spawn schedules, once its invocation (number 2) has settled. -/
theorem run_spawnSchedule_settle (acts : List Act)
    (hp : ((Conf.init [] 0).run acts).promises 0 =
      some { request := .forceSpawnNew none, spawned := some 2 })
    (ht : (((Conf.init [] 0).run acts).tasks 2).map (·.status) = some (.settled true)) :
    (Conf.init [] 0).run (acts ++ [.settleSpawnRequest 0]) =
      ((Conf.init [] 0).run acts).setPromise 0
        { request := .forceSpawnNew none, settledWith := some true, spawned := some 2 } := by
  rw [Conf.run_append, Conf.run_cons, Conf.run_nil]
  exact Conf.settleSpawnRequest_of_settled hp rfl rfl ht

/-- Serialisation fails on three schedules from a fresh manager with no items.
A sign-out under a running sync lets a second one begin: invocations 0 and 1 are both between
`setDidBegin()` and `setDidEnd()`. A force-spawn-new request queued behind an initial sync is
resolved once syncing is locked, although no invocation began after it was queued. A
force-spawn-new request made with `mode: SYNC_MODE_INITIAL` is resolved by the default-mode
invocation `popSpawnQueue` starts for it, and no invocation in initial mode began after it. -/
theorem sign_out_lock_and_mode_break_serialization :
    ¬ OneSyncAtATime ((Conf.init [] 0).run signOutSchedule) ∧
    (let c := (Conf.init [] 0).run (lockedSpawnSchedule ++ [.settleSpawnRequest 0])
     (c.promises 0).map (·.settledWith) = some (some true) ∧
     ∀ k t b, c.tasks k = some t → t.beganAt = some b → b ≤ 0) ∧
    (let c := (Conf.init [] 0).run (initialSpawnSchedule ++ [.settleSpawnRequest 0])
     (c.tasks 1).map (·.status) = some (.awaitsPromise 0) ∧
     (c.tasks 1).map (·.args.mode) = some (some SYNC_MODE_INITIAL) ∧
     (c.promises 0).map (·.settledWith) = some (some true) ∧
     ∀ k t b, c.tasks k = some t → t.beganAt = some b → 0 < b →
       t.args.mode ≠ some SYNC_MODE_INITIAL) := by
  have hB := run_spawnSchedule_settle lockedSpawnSchedule (by decide) (by decide)
  have hC := run_spawnSchedule_settle initialSpawnSchedule (by decide) (by decide)
  have iB := Conf.inv_run [] 0 (lockedSpawnSchedule ++ [Act.settleSpawnRequest 0])
  have iC := Conf.inv_run [] 0 (initialSpawnSchedule ++ [Act.settleSpawnRequest 0])
  rw [hB] at iB ⊢
  rw [hC] at iC ⊢
  refine ⟨fun h => absurd (h 0 1 _ _ rfl rfl ⟨_, rfl, rfl⟩ ⟨_, rfl, rfl⟩) (by decide),
    ⟨rfl, fun k t b hk hb => ?_⟩, ⟨by decide, by decide, rfl, fun k t b hk hb hpos => ?_⟩⟩
  · have := Conf.forall_tasks iB (fun t => t.beganAt.all (· ≤ 0)) (by decide) k t hk
    simpa [hb] using this
  · have := Conf.forall_tasks iC
      (fun t => t.beganAt.all (fun b => b = 0 || t.args.mode != some SYNC_MODE_INITIAL)) (by decide) k t hk
    simp only [hb, Option.all_some, Bool.or_eq_true, decide_eq_true_eq, bne_iff_ne] at this
    exact this.resolve_left (by omega)

/-- A default-mode sync resumed up to the check at :413–416, no initial sync having run. -/
def defaultModeSchedule : List Act :=
  [.loadDatabase, .sync {}, .resume 0 true, .resume 0 true, .resume 0 true,
   .resume 0 true, .resume 0 true]

/-- A default-mode sync called before the initial sync completed raises at :415 after
`setDidBegin()`: invocation 0 began, is rejected, and leaves the flag up with nobody in a sync,
under every later schedule without a sign-out; a later call only queues. -/
theorem default_mode_throw_leaks_lock :
    (((Conf.init [] 0).run defaultModeSchedule).tasks 0).map (·.beganAt) = some (some 0) ∧
    (((Conf.init [] 0).run defaultModeSchedule).tasks 0).map (·.status) = some (.settled false) ∧
    (∀ acts, (∀ a ∈ acts, a ≠ .handleSignOut) →
      ((Conf.init [] 0).run (defaultModeSchedule ++ acts)).Leaked) ∧
    (((Conf.init [] 0).run (defaultModeSchedule ++
      [.sync {}, .resume 1 true, .resume 1 true, .resume 1 true])).tasks 1).map (·.status) =
      some (.awaitsPromise 0) := by
  have hL : ((Conf.init [] 0).run defaultModeSchedule).Leaked := by
    refine ⟨by decide, fun k t hk hs => ?_⟩
    have := Conf.forall_tasks (Conf.inv_run [] 0 _) (fun t => decide (t.status = .settled false))
      (by decide) k t hk
    obtain ⟨_, hst, _⟩ := hs
    simp [hst] at this
  refine ⟨by decide, by decide, fun acts hacts => ?_, by decide⟩
  rw [Conf.run_append]
  exact Conf.run_induction (fun a => a ≠ .handleSignOut) (fun _ a ha h => h.step a ha) acts hacts hL

/-- After the raise, a new call, a lock and an unlock leave the lock leaked. -/
theorem lock_leaked_after_later_calls :
    ((Conf.init [] 0).run (defaultModeSchedule ++
      [.sync {}, .resume 1 true, .lockSyncing, .unlockSyncing])).Leaked :=
  default_mode_throw_leaks_lock.2.2.1 _ (by decide)

/-- An initial sync begins, a force-spawn-new request queues behind it, the initial sync's run
completes, and the spawned sync is resumed five times. -/
def spawnOvertakesSchedule : List Act :=
  [.loadDatabase, .sync { mode := some SYNC_MODE_INITIAL },
   .resume 0 true, .resume 0 true, .resume 0 true,
   .sync { timingStrategy := some TIMING_STRATEGY_FORCE_SPAWN_NEW },
   .resume 1 true, .resume 1 true, .resume 1 true,
   .resume 0 true, .resume 0 true, .resume 0 true, .resume 0 true,
   .resume 2 true, .resume 2 true, .resume 2 true, .resume 2 true, .resume 2 true]

/-- The sync `popSpawnQueue` starts when an initial sync's run completes is a default-mode
sync, and it reaches the check at :414 before the initial invocation sets
`completedInitialSync` (:460): it raises there, leaving the lock up. -/
theorem spawned_sync_overtakes_initial :
    (((Conf.init [] 0).run spawnOvertakesSchedule).tasks 0).map (·.status) =
      some (.suspended .completion) ∧
    ((Conf.init [] 0).run spawnOvertakesSchedule).completedInitialSync = false ∧
    (((Conf.init [] 0).run spawnOvertakesSchedule).promises 0).map (·.spawned) = some (some 2) ∧
    (((Conf.init [] 0).run spawnOvertakesSchedule).tasks 2).map (·.args.mode) = some none ∧
    (((Conf.init [] 0).run spawnOvertakesSchedule).tasks 2).map (·.status) =
      some (.settled false) ∧
    ((Conf.init [] 0).run spawnOvertakesSchedule).syncInProgress = true := by
  decide

end Snjs.Sync
