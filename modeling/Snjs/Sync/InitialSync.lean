import Snjs.Sync.Invariant

/-!
# Rounds begin on a loaded database, and uploads follow an initial sync

`sync()` takes its round (`setDidBegin()`, sync_manager.js:393) only when the local database
is loaded: before that, the call queues behind by its timing strategy (:376–390). A
default-mode round encrypts and uploads its items only once `completedInitialSync` is set
(:411–416), and only an initial-mode round, which uploads nothing, sets it, after its operation
has run (:457–461). Neither flag is ever cleared, a sign-out included.

`Staged` is the invariant: a begun invocation implies a loaded database, an invocation about to
encrypt or with something to upload implies `completedInitialSync`, and that flag implies an
initial-mode invocation whose operation has run. Every step keeps it (`Staged.step`), so
under every schedule:

- **`rounds_follow_load_and_initial_sync`**: every invocation that has begun a round did so on
  a loaded database, and every invocation that has uploaded items did so after an initial-mode
  invocation completed its `operation.run()`: nothing is uploaded before the first download.
-/

namespace Snjs.Sync

/-- The `await`s after `operation.run()` completed (:456–464). -/
def Pc.ranOperation : Pc → Bool
  | .completion | .mapNeverSyncedDeleted | .neverSyncedDeleted | .initialNotify | .recheck => true
  | _ => false

namespace Conf

variable {c : Conf} {i : Nat} {t t' : Task}

/-- A begun invocation implies a loaded database; one about to encrypt, or with an upload,
implies `completedInitialSync`; past its run, an invocation has `pastRun`; and
`completedInitialSync` implies an initial-mode invocation whose operation has run. -/
structure Staged (c : Conf) : Prop where
  begunLoaded : ∀ k t, c.tasks k = some t → t.beganAt ≠ none → c.databaseLoaded = true
  uploadInitial : ∀ k t, c.tasks k = some t → (t.status = .suspended .encrypt ∨ t.upload ≠ []) →
    c.completedInitialSync = true
  ranPast : ∀ k t pc, c.tasks k = some t → t.status = .suspended pc → pc.ranOperation = true →
    t.pastRun = true
  initialRan : c.completedInitialSync = true →
    ∃ j t, c.tasks j = some t ∧ t.args.mode = some SYNC_MODE_INITIAL ∧ t.pastRun = true

/-- `Staged` reads the tasks and the two flags; a loaded database stays loaded. -/
theorem Staged.congr {c' : Conf} (h : Staged c) (h1 : c'.tasks = c.tasks)
    (h2 : c.databaseLoaded = true → c'.databaseLoaded = true)
    (h3 : c'.completedInitialSync = c.completedInitialSync) : Staged c' where
  begunLoaded k t hk hb := h2 (h.begunLoaded k t (h1 ▸ hk) hb)
  uploadInitial k t hk hu := h3 ▸ h.uploadInitial k t (h1 ▸ hk) hu
  ranPast k t pc hk := h.ranPast k t pc (h1 ▸ hk)
  initialRan hc := h1 ▸ h.initialRan (h3 ▸ hc)

theorem Staged.keep (h : Staged c) {c' : Conf} (h1 : c'.tasks = c.tasks)
    (h2 : c'.databaseLoaded = c.databaseLoaded)
    (h3 : c'.completedInitialSync = c.completedInitialSync) : Staged c' :=
  h.congr h1 (h2 ▸ id) h3

/-- Writing invocation `i`'s record keeps `Staged` when the new record keeps the arguments and
the completed run, and carries what its own stamps, `await` point and upload require. -/
theorem Staged.setTask (h : Staged c) (ht : c.tasks i = some t)
    (hargs : t'.args = t.args) (hpast : t.pastRun = true → t'.pastRun = true)
    (hb : t'.beganAt ≠ none → c.databaseLoaded = true)
    (hu : (t'.status = .suspended .encrypt ∨ t'.upload ≠ []) → c.completedInitialSync = true)
    (hr : ∀ pc, t'.status = .suspended pc → pc.ranOperation = true → t'.pastRun = true) :
    Staged (c.setTask i t') := by
  have hof : ∀ k t₀, (c.setTask i t').tasks k = some t₀ →
      (k = i ∧ t₀ = t') ∨ (k ≠ i ∧ c.tasks k = some t₀) := by
    intro k t₀ hk
    simp only [Conf.setTask, Function.update_apply] at hk
    split_ifs at hk with hki
    · exact .inl ⟨hki, (Option.some.inj hk).symm⟩
    · exact .inr ⟨hki, hk⟩
  refine ⟨fun k t₀ hk => ?_, fun k t₀ hk => ?_, fun k t₀ pc hk => ?_, fun hc => ?_⟩
  · rcases hof k t₀ hk with ⟨-, rfl⟩ | ⟨-, hk⟩
    exacts [hb, h.begunLoaded k t₀ hk]
  · rcases hof k t₀ hk with ⟨-, rfl⟩ | ⟨-, hk⟩
    exacts [hu, h.uploadInitial k t₀ hk]
  · rcases hof k t₀ hk with ⟨-, rfl⟩ | ⟨-, hk⟩
    exacts [hr pc, h.ranPast k t₀ pc hk]
  · obtain ⟨j, t₀, hj, hmode, hrun⟩ := h.initialRan hc
    by_cases hji : j = i
    · subst hji; rw [ht] at hj; cases hj
      exact ⟨j, t', by simp, hargs ▸ hmode, hpast hrun⟩
    · exact ⟨j, t₀, by simp [Function.update_apply, hji, hj], hmode, hrun⟩

/-- Moving invocation `i` to another `await` or outcome, with its arguments, stamps, completed
run and upload kept, to an `await` that is not `encrypt` and not past the run. -/
theorem Staged.advance (h : Staged c) (ht : c.tasks i = some t) (hargs : t'.args = t.args)
    (hpast : t'.pastRun = t.pastRun) (hbegan : t'.beganAt = t.beganAt) (hup : t'.upload = t.upload)
    (hpc : ∀ pc, t'.status = .suspended pc → pc ≠ .encrypt ∧ pc.ranOperation = false) :
    Staged (c.setTask i t') := by
  refine h.setTask ht hargs (hpast ▸ id) (fun hb => h.begunLoaded i t ht (hbegan ▸ hb))
    (fun hu => h.uploadInitial i t ht (.inr ?_)) (fun pc hs hr => by simp [(hpc pc hs).2] at hr)
  rcases hu with hs | hu
  · exact absurd rfl (hpc _ hs).1
  · exact hup ▸ hu

/-- A new invocation has not begun, uploads nothing and waits on its first `await`. -/
theorem Staged.sync (h : Staged c) (hf : ∀ k, c.nextTask ≤ k → c.tasks k = none) (a : SyncArgs) :
    Staged (c.sync a).1 := by
  have hnew : ∀ k t₀, (c.sync a).1.tasks k = some t₀ →
      t₀ = c.invocation a ∨ c.tasks k = some t₀ := by
    intro k t₀ hk
    simp only [Conf.sync, Function.update_apply] at hk
    split_ifs at hk
    · exact .inl (Option.some.inj hk).symm
    · exact .inr hk
  have hinv : (c.invocation a).beganAt = none ∧ (c.invocation a).upload = [] ∧
      ∀ pc, (c.invocation a).status = .suspended pc → pc = .itemsNeedingSync := by
    unfold invocation; split <;> simp
  refine ⟨fun k t₀ hk hb => ?_, fun k t₀ hk hu => ?_, fun k t₀ pc hk hs hr => ?_, fun hc => ?_⟩
  · rcases hnew k t₀ hk with rfl | hk
    exacts [absurd hinv.1 hb, h.begunLoaded k t₀ hk hb]
  · rcases hnew k t₀ hk with rfl | hk
    · rcases hu with hs | hu
      · cases hinv.2.2 _ hs
      · exact absurd hinv.2.1 hu
    · exact h.uploadInitial k t₀ hk hu
  · rcases hnew k t₀ hk with rfl | hk
    · cases hinv.2.2 pc hs; cases hr
    · exact h.ranPast k t₀ pc hk hs hr
  · obtain ⟨j, t₀, hj, hrest⟩ := h.initialRan hc
    have hne : j ≠ c.nextTask := fun e => by rw [e, hf _ le_rfl] at hj; cases hj
    exact ⟨j, t₀, by simp [Function.update_apply, hne, hj], hrest⟩

theorem Staged.popSpawnQueue (h : Staged c) (hf : ∀ k, c.nextTask ≤ k → c.tasks k = none) :
    Staged c.popSpawnQueue.1 := by
  unfold Conf.popSpawnQueue
  split
  · exact h
  · split
    · exact ((h.keep rfl rfl rfl : Staged { c with spawnQueue := _ }).sync hf _).keep rfl rfl rfl
    · exact h.keep rfl rfl rfl

theorem Staged.drainQueues (h : Staged c) (hi : Inv c) : Staged c.drainQueues := by
  unfold Conf.drainQueues
  dsimp only
  split
  · exact (h.popSpawnQueue hi.taskFresh).sync hi.popSpawnQueue.taskFresh {}
  · exact h.popSpawnQueue hi.taskFresh

theorem Staged.settleSpawnRequest (h : Staged c) (p : Nat) : Staged (c.settleSpawnRequest p) := by
  rcases settleSpawnRequest_cases c p with he | ⟨_, _, _, _, _, _, _, _, _, he⟩ <;> rw [he]
  exacts [h, h.keep rfl rfl rfl]

theorem Staged.settleInvocation (h : Staged c) (i : Nat) : Staged (c.settleInvocation i) := by
  unfold Conf.settleInvocation
  split
  · rename_i t ht
    repeat' split
    all_goals first | exact h | refine h.advance ht ?_ ?_ ?_ ?_ nofun <;> rfl
  · exact h

/-- `return this.sync()`. -/
theorem Staged.chainSync (h : Staged c) (hi : Inv c) (ht : c.tasks i = some t) :
    Staged (c.chainSync i t) :=
  (h.sync hi.taskFresh {}).advance (sync_tasks_of_some hi ht {}) rfl rfl rfl rfl nofun

/-- The round begins only on a loaded database (:376). -/
theorem Staged.afterPersist (h : Staged c) (ht : c.tasks i = some t) :
    Staged (c.afterPersist i t) := by
  unfold Conf.afterPersist
  dsimp only
  split
  · split
    · exact (h.keep rfl rfl rfl : Staged c.timingStrategyResolveOnNext.1).advance ht rfl rfl rfl
        rfl nofun
    · split
      · exact (h.keep rfl rfl rfl : Staged (c.timingStrategyForceSpawnNew _).1).advance ht rfl rfl
          rfl rfl nofun
      · exact h.advance ht rfl rfl rfl rfl nofun
  · rename_i hbusy
    have hloaded : c.databaseLoaded = true := by simp at hbusy; exact hbusy.2
    exact (h.keep rfl rfl rfl : Staged { c with syncInProgress := true }).setTask ht rfl id
      (fun _ => hloaded) (fun hu => h.uploadInitial i t ht (.inr (by simpa using hu)))
      (fun _ hs hr => by cases hs; cases hr)

/-- A default-mode round reaches `encrypt` only once the initial sync completed (:411–416). -/
theorem Staged.afterOnline (h : Staged c) (ht : c.tasks i = some t) :
    Staged (c.afterOnline i t) := by
  unfold Conf.afterOnline
  dsimp only
  split_ifs with hd hc hi
  · exact h.advance ht rfl rfl rfl rfl nofun
  · exact h.setTask ht rfl id (h.begunLoaded i t ht) (fun _ => by simpa using hc)
      (fun _ hs hr => by cases hs; cases hr)
  · exact h.setTask ht rfl id (h.begunLoaded i t ht) (fun hu => by simp at hu)
      (fun _ hs hr => by cases hs; cases hr)
  · exact h.advance ht rfl rfl rfl rfl (fun _ hs => by cases hs; exact ⟨nofun, rfl⟩)

/-- An initial-mode invocation past its run sets `completedInitialSync`. -/
theorem Staged.complete (h : Staged c) (ht : c.tasks i = some t)
    (hmode : t.args.mode = some SYNC_MODE_INITIAL) (hrun : t.pastRun = true) :
    Staged { c with completedInitialSync := true } where
  begunLoaded := h.begunLoaded
  uploadInitial _ _ _ _ := rfl
  ranPast := h.ranPast
  initialRan _ := ⟨i, t, ht, hmode, hrun⟩

theorem Staged.afterNeverSyncedDeleted (h : Staged c) (ht : c.tasks i = some t)
    (hpc : t.status = .suspended .neverSyncedDeleted) : Staged (c.afterNeverSyncedDeleted i t) := by
  have hrun := h.ranPast i t _ ht hpc rfl
  unfold Conf.afterNeverSyncedDeleted
  split
  · rename_i hmode
    have hmode' : t.args.mode = some SYNC_MODE_INITIAL := by
      cases hm : t.args.mode with
      | none => rw [hm] at hmode; cases hmode
      | some m => rw [hm] at hmode; exact congrArg some hmode
    exact (h.complete ht hmode' hrun).setTask ht rfl id (h.begunLoaded i t ht) (fun _ => rfl)
      (fun _ _ _ => hrun)
  · exact h.setTask ht rfl id (h.begunLoaded i t ht)
      (fun hu => h.uploadInitial i t ht (.inr (by simpa using hu))) (fun _ _ _ => hrun)

/-- The code after `operation.run()`: the record marks the run completed. -/
theorem Staged.afterRun (h : Staged c) (hi : Inv c) (ht : c.tasks i = some t)
    (hpc : t.status = .suspended .run) : Staged (c.afterRun i t) := by
  have h1 : Staged (c.setTask i { t with pastRun := true, status := .suspended .completion }) :=
    h.setTask ht rfl (fun _ => rfl) (h.begunLoaded i t ht)
      (fun hu => h.uploadInitial i t ht (.inr (by simpa using hu))) (fun _ _ _ => rfl)
  have h2 : Staged ({ c.setTask i { t with pastRun := true, status := .suspended .completion }
      with syncInProgress := false }.resolveInTime i t.inTimeResolveQueue) := h1.keep rfl rfl rfl
  exact (h2.drainQueues (hi.resolveAfterRun ht hpc)).keep rfl rfl rfl

theorem Staged.resume (h : Staged c) (hi : Inv c) (i : Nat) (ok : Bool) :
    Staged (c.resume i ok) := by
  unfold Conf.resume
  split
  · rename_i t ht
    split
    · rename_i pc hpc
      split
      · cases pc with
        | persist => exact h.afterPersist ht
        | run => exact h.afterRun hi ht hpc
        | online => exact h.afterOnline ht
        | neverSyncedDeleted => exact h.afterNeverSyncedDeleted ht hpc
        | initialNotify => exact h.chainSync hi ht
        | recheck =>
          simp only [Conf.continueFrom]
          split
          · exact h.chainSync hi ht
          · exact h.advance ht rfl rfl rfl rfl nofun
        | encrypt =>
          exact h.setTask ht rfl id (h.begunLoaded i t ht)
            (fun _ => h.uploadInitial i t ht (.inl hpc)) (fun _ hs hr => by cases hs; cases hr)
        | completion | mapNeverSyncedDeleted =>
          simp only [Conf.continueFrom, Conf.handleNeverSyncedDeleted,
            Conf.afterMapNeverSyncedDeleted, persistPayloads_eq, Conf.mapPayloadsToLocalItems]
          refine Staged.setTask (h.keep rfl rfl rfl) ht rfl id (h.begunLoaded i t ht) (fun hu => ?_)
            (fun _ _ _ => h.ranPast i t _ ht hpc rfl)
          exact h.uploadInitial i t ht (.inr (by simpa using hu))
        | itemsNeedingSync =>
          obtain ⟨d, hd⟩ := popPayloadsNeedingPreSyncSave_fst c
            (t.items.filter fun it => !(it.neverSynced && it.deleted))
          simp only [Conf.continueFrom, Conf.afterItemsNeedingSync, hd]
          refine Staged.advance (h.keep rfl rfl rfl) ht ?_ ?_ ?_ ?_ (fun _ hs => ?_) <;> try rfl
          cases hs; exact ⟨nofun, rfl⟩
        | presaveFilter =>
          simp only [Conf.continueFrom, Conf.afterPresaveFilter, persistPayloads_eq]
          refine Staged.advance (h.keep rfl rfl rfl) ht ?_ ?_ ?_ ?_ (fun _ hs => ?_) <;> try rfl
          cases hs; exact ⟨nofun, rfl⟩
        | setItemsProperties | operation =>
          refine h.advance ht ?_ ?_ ?_ ?_ (fun _ hs => ?_) <;> try rfl
          cases hs; exact ⟨nofun, rfl⟩
      · exact h.advance ht rfl rfl rfl rfl nofun
    · exact h
  · exact h

/-- Every step keeps `Staged`. -/
theorem Staged.step (h : Staged c) (hi : Inv c) (a : Act) : Staged (c.step a) := by
  cases a with
  | sync a => exact h.sync hi.taskFresh a
  | resume i ok => exact h.resume hi i ok
  | integritySync i =>
    simp only [Conf.step]
    split
    · exact h.sync hi.taskFresh _
    · exact h
  | settleInvocation i => exact h.settleInvocation i
  | settleSpawnRequest p => exact h.settleSpawnRequest p
  | loadDatabase => exact h.congr rfl (fun _ => rfl) rfl
  | handleSignOut | lockSyncing | unlockSyncing | mapItem _ | tick => exact h.keep rfl rfl rfl

theorem staged_run (items : List Item) (now : Nat) (acts : List Act) :
    Staged ((Conf.init items now).run acts) :=
  (run_induction (fun _ => True) (P := fun c => c.Inv ∧ c.Staged)
    (fun _ a _ h => ⟨h.1.step a, h.2.step h.1 a⟩) acts (fun _ _ => trivial)
    ⟨inv_init items now, fun _ _ h => (nomatch h), fun _ _ h => (nomatch h),
      fun _ _ _ h => (nomatch h), nofun⟩).2

end Conf

/-- **Rounds follow the database load, uploads follow an initial sync.** In every
configuration reached from a fresh manager, under any schedule of calls, resumptions, rejected
awaits, spawned and integrity-triggered syncs, locks, sign-outs, edits and loads: every
invocation that has begun its round (`beganAt`) did so on a loaded database, and every
invocation that has uploaded items did so after an initial-mode invocation completed its
`operation.run()`. -/
theorem rounds_follow_load_and_initial_sync (items : List Item) (now : Nat) (acts : List Act) :
    ∀ k t, ((Conf.init items now).run acts).tasks k = some t →
      (t.beganAt ≠ none → ((Conf.init items now).run acts).databaseLoaded = true) ∧
      (t.upload ≠ [] → ∃ j t', ((Conf.init items now).run acts).tasks j = some t' ∧
        t'.args.mode = some SYNC_MODE_INITIAL ∧ t'.pastRun = true) :=
  let h := Conf.staged_run items now acts
  fun k t hk => ⟨h.begunLoaded k t hk, fun hu => h.initialRan (h.uploadInitial k t hk (.inr hu))⟩

/-- A dirty item that has been synced before. -/
def uploadItem : Item :=
  { uuid := 1, dirty := true, dirtiedDate := none, deleted := false, neverSynced := false }

/-- An initial-mode sync runs to its end and chains a default-mode sync (invocation 1), which is
resumed until it has chosen its upload. -/
def uploadSchedule : List Act :=
  [.loadDatabase, .sync { mode := some SYNC_MODE_INITIAL }] ++ List.replicate 11 (.resume 0 true) ++
    List.replicate 6 (.resume 1 true)

/-- In `uploadSchedule`, invocation 1 uploads `uploadItem`, after the initial sync's run. -/
theorem upload_follows_initial_sync :
    ∃ t, ((Conf.init [uploadItem] 0).run uploadSchedule).tasks 1 = some t ∧ t.upload = [uploadItem] ∧
      ∃ j t', ((Conf.init [uploadItem] 0).run uploadSchedule).tasks j = some t' ∧
        t'.args.mode = some SYNC_MODE_INITIAL ∧ t'.pastRun = true := by
  have h1 : (((Conf.init [uploadItem] 0).run uploadSchedule).tasks 1).map (·.upload) =
      some [uploadItem] := by decide
  obtain ⟨t, ht, hu⟩ := Option.map_eq_some'.1 h1
  exact ⟨t, ht, hu,
    (rounds_follow_load_and_initial_sync [uploadItem] 0 uploadSchedule 1 t ht).2 (by simp [hu])⟩

end Snjs.Sync
