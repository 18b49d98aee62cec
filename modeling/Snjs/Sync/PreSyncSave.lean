import Snjs.Sync.Invariant

/-!
# The pre-sync save comes before the upload

`sync()` hands `popPayloadsNeedingPreSyncSave` the payloads it is about to upload and
persists what comes back before anything goes to the network (sync_manager.js:354–363).
The filter keeps only payloads dirtied after `state.lastPreSyncSaveDate`, but the date is
written only when one is already set (:276–284), and neither a fresh `SyncState` nor a
sign-out sets one. So the filter keeps everything, and every payload an invocation uploads
is in the storage's log of saved payloads, at the version it uploads, by the time the
operation carrying it is built.

`PreSaved` is the invariant: the date is unset, and each invocation's record carries what
its `await` point guarantees. Every step keeps it (`PreSaved.step`), so it holds after every
schedule of edits, syncs, sign-outs and clock ticks (`presaved_run`).
-/

namespace Snjs.Sync

/-- The `await`s before the upload is chosen at :417–420. -/
def Pc.beforeUpload : Pc → Bool
  | .itemsNeedingSync | .presaveFilter | .persist | .setItemsProperties | .online => true
  | _ => false

/-- The `await`s after `persistPayloads` was called (:363) and before the upload is chosen. -/
def Pc.persisted : Pc → Bool
  | .persist | .setItemsProperties | .online | .encrypt => true
  | _ => false

/-- The `await`s on the operation that carries the upload (:429–438). -/
def Pc.uploading : Pc → Bool
  | .operation | .run => true
  | _ => false

/-- What one invocation's record guarantees at its `await` point, given the log of saved
payloads: nothing is chosen for upload before :417; what `popPayloadsNeedingPreSyncSave`
returned is the whole of `decryptedPayloads`; those were saved once `persistPayloads` was
called; and the upload was saved once it is chosen. -/
structure Task.PreSaved (saved : List Item) (t : Task) : Prop where
  noUpload : ∀ pc, t.status = .suspended pc → pc.beforeUpload → t.upload = []
  toSave : t.status = .suspended .presaveFilter → t.needingSave = t.items
  itemsSaved : ∀ pc, t.status = .suspended pc → pc.persisted → t.items ⊆ saved
  uploadSaved : ∀ pc, t.status = .suspended pc → pc.uploading → t.upload ⊆ saved

namespace Task

variable {s s' : List Item} {t : Task}

theorem PreSaved.mono (h : t.PreSaved s) (hs : s ⊆ s') : t.PreSaved s' :=
  ⟨h.noUpload, h.toSave, fun pc h1 h2 => (h.itemsSaved pc h1 h2).trans hs,
    fun pc h1 h2 => (h.uploadSaved pc h1 h2).trans hs⟩

/-- A record suspended at an `await` that carries no obligation, or not suspended at all. -/
theorem PreSaved.of_free (h : ∀ pc, t.status = .suspended pc →
    pc.beforeUpload = false ∧ pc.persisted = false ∧ pc.uploading = false) : t.PreSaved s := by
  refine ⟨fun pc hs hb => ?_, fun hs => ?_, fun pc hs hb => ?_, fun pc hs hb => ?_⟩
  · simp [(h pc hs).1] at hb
  · simpa [Pc.beforeUpload] using (h _ hs).1
  · simp [(h pc hs).2.1] at hb
  · simp [(h pc hs).2.2] at hb

/-- The same locals at an `await` point with no more obligations than the one before. -/
theorem PreSaved.advance {t' : Task} {pc pc' : Pc} (h : t.PreSaved s)
    (hpc : t.status = .suspended pc) (hpc' : t'.status = .suspended pc')
    (hi : t'.items = t.items) (hu : t'.upload = t.upload)
    (hb : pc'.beforeUpload → pc.beforeUpload) (hp : pc'.persisted → pc.persisted)
    (hn : pc' ≠ .presaveFilter) (hup : pc'.uploading = false) : t'.PreSaved s := by
  refine ⟨fun q hs hq => ?_, fun hs => ?_, fun q hs hq => ?_, fun q hs hq => ?_⟩
  · rw [hpc'] at hs; cases hs; rw [hu]; exact h.noUpload pc hpc (hb hq)
  · rw [hpc'] at hs; cases hs; exact absurd rfl hn
  · rw [hpc'] at hs; cases hs; rw [hi]; exact h.itemsSaved pc hpc (hp hq)
  · rw [hpc'] at hs; cases hs; simp [hup] at hq

/-- A record whose upload is chosen and saved. -/
theorem PreSaved.uploaded {pc : Pc} (hs : t.status = .suspended pc) (hb : pc.beforeUpload = false)
    (hp : pc.persisted = false) (hu : t.upload ⊆ s) : t.PreSaved s := by
  refine ⟨fun q h1 h2 => ?_, fun h1 => ?_, fun q h1 h2 => ?_, fun q h1 _ => ?_⟩ <;>
    rw [hs] at h1 <;> cases h1
  · simp [hb] at h2
  · simp [Pc.beforeUpload] at hb
  · simp [hp] at h2
  · exact hu

end Task

namespace Conf

variable {c : Conf} {i : Nat} {t : Task}

/-- The pre-sync save date is unset, and every invocation's record keeps its guarantees. -/
structure PreSaved (c : Conf) : Prop where
  noDate : c.lastPreSyncSaveDate = none
  tasks : ∀ k t, c.tasks k = some t → t.PreSaved c.saved

/-- With no pre-sync save date, `popPayloadsNeedingPreSyncSave` returns all it is given and
leaves the manager as it is. -/
theorem popPayloadsNeedingPreSyncSave_of_none (h : c.lastPreSyncSaveDate = none)
    (src : List Item) : c.popPayloadsNeedingPreSyncSave src = (c, src) := by
  simp [popPayloadsNeedingPreSyncSave, h]

theorem PreSaved.congr {c' : Conf} (h : PreSaved c) (h1 : c'.tasks = c.tasks)
    (h2 : c'.lastPreSyncSaveDate = c.lastPreSyncSaveDate) (h3 : c.saved ⊆ c'.saved) :
    PreSaved c' :=
  ⟨h2.trans h.noDate, fun k t hk => (h.tasks k t (h1 ▸ hk)).mono h3⟩

theorem PreSaved.setTask (h : PreSaved c) (ht : t.PreSaved c.saved) : PreSaved (c.setTask i t) := by
  refine ⟨h.noDate, fun k t0 hk => ?_⟩
  simp only [Conf.setTask, Function.update_apply] at hk
  split_ifs at hk
  · cases hk; exact ht
  · exact h.tasks k t0 hk

/-- A new invocation has chosen nothing to upload. -/
theorem invocation_preSaved (c : Conf) (a : SyncArgs) (s : List Item) :
    (c.invocation a).PreSaved s := by
  rcases invocation_status c a with hs | hs
  · exact .of_free fun _ h => by rw [hs] at h; cases h
  · refine ⟨fun _ _ _ => ?_, fun h => ?_, fun pc h hp => ?_, fun pc h hp => ?_⟩
    · unfold invocation; split <;> rfl
    all_goals rw [hs] at h; cases h
    all_goals cases hp

theorem PreSaved.sync (h : PreSaved c) (a : SyncArgs) : PreSaved (c.sync a).1 := by
  refine ⟨h.noDate, fun k t0 hk => ?_⟩
  simp only [Conf.sync, Function.update_apply] at hk
  split_ifs at hk
  · cases hk; exact invocation_preSaved c a _
  · exact h.tasks k t0 hk

theorem PreSaved.popSpawnQueue (h : PreSaved c) : PreSaved c.popSpawnQueue.1 := by
  unfold Conf.popSpawnQueue
  split
  · exact h
  · split
    · exact (PreSaved.sync (c := { c with spawnQueue := _ }) h _).congr rfl rfl
        (List.Subset.refl _)
    · exact h.congr rfl rfl (List.Subset.refl _)

theorem PreSaved.drainQueues (h : PreSaved c) : PreSaved c.drainQueues := by
  unfold Conf.drainQueues
  dsimp only
  split
  · exact h.popSpawnQueue.sync {}
  · exact h.popSpawnQueue

/-- The code after `operation.run()` (:440–456) keeps `PreSaved`: its invocation moves on to
an `await` with no obligation, and the syncs it starts have chosen nothing. -/
theorem PreSaved.afterRun (h : PreSaved c) : PreSaved (c.afterRun i t) := by
  have h1 : PreSaved ({ c.setTask i { t with pastRun := true, status := .suspended .completion }
      with syncInProgress := false }.resolveInTime i t.inTimeResolveQueue) :=
    (h.setTask (.of_free fun _ hs => by cases hs; decide)).congr rfl rfl (List.Subset.refl _)
  exact h1.drainQueues.congr rfl rfl (List.Subset.refl _)

theorem PreSaved.persistPayloads (h : PreSaved c) (ps : List Item) :
    PreSaved (c.persistPayloads ps) := by
  rw [persistPayloads_eq]
  exact h.congr rfl rfl (List.subset_append_left _ _)

theorem PreSaved.mapPayloadsToLocalItems (h : PreSaved c) (ps : List Item) :
    PreSaved (c.mapPayloadsToLocalItems ps) :=
  h.congr rfl rfl (List.Subset.refl _)

theorem PreSaved.handleNeverSyncedDeleted (h : PreSaved c) (ps : List Item) :
    PreSaved (c.handleNeverSyncedDeleted ps) :=
  h.mapPayloadsToLocalItems _

/-- The check at :375–393 keeps `PreSaved`: a queued invocation returns a promise, and one
that begins keeps its locals. -/
theorem PreSaved.afterPersist (h : PreSaved c) (ht : c.tasks i = some t)
    (hpc : t.status = .suspended .persist) : PreSaved (c.afterPersist i t) := by
  unfold Conf.afterPersist
  dsimp only
  split
  · repeat' split
    all_goals
      exact PreSaved.setTask (h.congr rfl rfl (List.Subset.refl _)) (.of_free nofun)
  · exact PreSaved.setTask (h.congr rfl rfl (List.Subset.refl _))
      (by apply (h.tasks i t ht).advance hpc <;> first | rfl | decide)

/-- Resuming an invocation keeps `PreSaved`. -/
theorem PreSaved.resume (h : PreSaved c) (i : Nat) (ok : Bool) : PreSaved (c.resume i ok) := by
  unfold Conf.resume
  split
  · rename_i t ht
    have ht' := h.tasks i t ht
    split
    · rename_i pc hpc
      split
      · cases pc with
        | itemsNeedingSync =>
          simp only [Conf.continueFrom, Conf.afterItemsNeedingSync,
            popPayloadsNeedingPreSyncSave_of_none h.noDate]
          refine h.setTask ⟨fun _ _ _ => ht'.noUpload _ hpc rfl, fun _ => rfl,
            fun _ hs hp => ?_, fun _ hs hp => ?_⟩ <;> (cases hs; cases hp)
        | presaveFilter =>
          refine (h.persistPayloads t.needingSave).setTask
            ⟨fun _ _ _ => ht'.noUpload _ hpc rfl, fun hs => ?_, fun _ hs _ => ?_,
              fun _ hs hp => ?_⟩
          · cases hs
          · cases hs
            rw [persistPayloads_eq, ← ht'.toSave hpc]
            exact List.subset_append_right _ _
          · cases hs; cases hp
        | persist => exact h.afterPersist ht hpc
        | setItemsProperties =>
          exact h.setTask (by apply ht'.advance hpc <;> first | rfl | decide)
        | online =>
          simp only [Conf.continueFrom, Conf.afterOnline]
          split
          · split
            · exact h.setTask (.of_free nofun)
            · exact h.setTask (by apply ht'.advance hpc <;> first | rfl | decide)
          · split
            · exact h.setTask (.uploaded rfl rfl rfl (List.nil_subset _))
            · refine h.setTask (.uploaded rfl rfl rfl ?_)
              show t.upload ⊆ _
              rw [ht'.noUpload _ hpc rfl]
              exact List.nil_subset _
        | encrypt => exact h.setTask (.uploaded rfl rfl rfl (ht'.itemsSaved _ hpc rfl))
        | operation => exact h.setTask (.uploaded rfl rfl rfl (ht'.uploadSaved _ hpc rfl))
        | run => exact h.afterRun
        | completion =>
          exact (h.handleNeverSyncedDeleted _).setTask (.of_free fun _ hs => by cases hs; decide)
        | mapNeverSyncedDeleted =>
          exact (h.persistPayloads _).setTask (.of_free fun _ hs => by cases hs; decide)
        | neverSyncedDeleted =>
          simp only [Conf.continueFrom, Conf.afterNeverSyncedDeleted]
          split
          · exact PreSaved.setTask (h.congr rfl rfl (List.Subset.refl _))
              (.of_free fun _ hs => by cases hs; decide)
          · exact h.setTask (.of_free fun _ hs => by cases hs; decide)
        | initialNotify => exact (h.sync {}).setTask (.of_free nofun)
        | recheck =>
          simp only [Conf.continueFrom, Conf.chainSync]
          split
          · exact (h.sync {}).setTask (.of_free nofun)
          · exact h.setTask (.of_free nofun)
      · exact h.setTask (.of_free nofun)
    · exact h
  · exact h

theorem PreSaved.settleInvocation (h : PreSaved c) (i : Nat) : PreSaved (c.settleInvocation i) := by
  unfold Conf.settleInvocation
  repeat' split
  all_goals first | exact h | exact h.setTask (.of_free nofun)

/-- Every step keeps `PreSaved`; a sign-out clears the date (`state.reset()`). -/
theorem PreSaved.step (h : PreSaved c) (a : Act) : PreSaved (c.step a) := by
  cases a with
  | sync a => exact h.sync a
  | resume i ok => exact h.resume i ok
  | integritySync i =>
    simp only [Conf.step]
    split
    · exact h.sync _
    · exact h
  | settleInvocation i => exact h.settleInvocation i
  | settleSpawnRequest p =>
    rcases settleSpawnRequest_cases c p with he | ⟨_, _, _, _, _, _, _, _, _, he⟩ <;>
      simp only [Conf.step, he] <;> exact h.congr rfl rfl (List.Subset.refl _)
  | handleSignOut => exact ⟨rfl, h.tasks⟩
  | lockSyncing | unlockSyncing | mapItem _ | loadDatabase | tick =>
    exact h.congr rfl rfl (List.Subset.refl _)

theorem presaved_init (items : List Item) (now : Nat) : PreSaved (Conf.init items now) :=
  ⟨rfl, fun _ _ h => (nomatch h)⟩

/-- Every configuration reachable from a fresh manager satisfies `PreSaved`. -/
theorem presaved_run (items : List Item) (now : Nat) (acts : List Act) :
    PreSaved ((Conf.init items now).run acts) :=
  run_induction (fun _ => True) (fun _ a _ h => h.step a) acts (fun _ _ => trivial)
    (presaved_init items now)

end Conf

/-- Every payload an invocation carries in its operation was handed to
`storageManager.savePayloads`, at that version, before the operation was built. -/
def UploadsPresaved (c : Conf) : Prop :=
  ∀ k t pc, c.tasks k = some t → t.status = .suspended pc → pc.uploading →
    ∀ p ∈ t.upload, p ∈ c.saved

/-- **Persist before network.** Under every schedule of item edits, `sync()` calls, awaits,
sign-outs and clock ticks, `popPayloadsNeedingPreSyncSave` drops nothing, and every payload
an invocation uploads was saved, at the version it uploads, before its operation was built. -/
theorem uploads_presaved (items : List Item) (now : Nat) (acts : List Act) :
    UploadsPresaved ((Conf.init items now).run acts) ∧
    ∀ src, ((Conf.init items now).run acts).popPayloadsNeedingPreSyncSave src =
      ((Conf.init items now).run acts, src) := by
  have h := Conf.presaved_run items now acts
  exact ⟨fun k t pc hk hs hu => (h.tasks k t hk).uploadSaved pc hs hu,
    Conf.popPayloadsNeedingPreSyncSave_of_none h.noDate⟩

end Snjs.Sync
