import Snjs.Sync.Invariant

/-!
# Items never synced and deleted stay local

`sync()` sets aside the dirty items that were never synced and are deleted
(sync_manager.js:345–352): they "should not be uploaded to server, and instead deleted directly
after sync completion". It uploads what is left (:417), and once its round has completed,
`handleNeverSyncedDeleted` (:636–646) maps the items it set aside with `dirty: false` and,
once the map has resolved, saves them.

`Task.Partitioned` is what one invocation record says about such items: its upload holds
none, what it set aside holds only such items, and past its first `await` its items hold none.
Every step keeps it for every record (`Conf.Partitioned.step`), so under every schedule:

- **`never_synced_deleted_stay_local`**: no invocation uploads an item that was never synced
  and is deleted, and what an invocation set aside is only such items; when it resumes after
  `handleSyncOperationCompletion`, they are mapped, so that no dirty item of the store has one
  of their uuids any more, and saved with `dirty: false` only if the map resolves.
-/

namespace Snjs.Sync

/-- What an invocation record says about the items that were never synced and are deleted. -/
structure Task.Partitioned (t : Task) : Prop where
  upload : ∀ it ∈ t.upload, (it.neverSynced && it.deleted) = false
  setAside : ∀ it ∈ t.neverSyncedDeleted, (it.neverSynced && it.deleted) = true
  items : ∀ pc, t.status = .suspended pc → pc ≠ .itemsNeedingSync →
    ∀ it ∈ t.items, (it.neverSynced && it.deleted) = false

namespace Task

variable {t t' : Task} {pc : Pc}

/-- A new invocation has uploaded and set aside nothing, and waits on its first `await`. -/
theorem partitioned_invocation (c : Conf) (a : SyncArgs) : (c.invocation a).Partitioned where
  upload it h := by unfold Conf.invocation at h; split at h <;> simp at h
  setAside it h := by unfold Conf.invocation at h; split at h <;> simp at h
  items pc hs hne := by
    rcases Conf.invocation_status c a with h | h <;> rw [h] at hs <;> cases hs
    exact absurd rfl hne

/-- Moving on from an `await` other than the first, with the items and what was set aside
kept, uploading only what was uploaded or the items. -/
theorem Partitioned.advance (h : t.Partitioned) (hpc : t.status = .suspended pc)
    (hne : pc ≠ .itemsNeedingSync) (hitems : t'.items = t.items)
    (hup : ∀ it ∈ t'.upload, it ∈ t.upload ∨ it ∈ t.items)
    (hset : t'.neverSyncedDeleted = t.neverSyncedDeleted) : t'.Partitioned where
  upload it hit := (hup it hit).elim (h.upload it) (h.items pc hpc hne it)
  setAside := hset ▸ h.setAside
  items _ _ _ := hitems ▸ h.items pc hpc hne

/-- Leaving the `await`s for good, with the upload and what was set aside kept. -/
theorem Partitioned.leave (h : t.Partitioned) (hs : ∀ pc, t'.status ≠ .suspended pc)
    (hup : t'.upload = t.upload) (hset : t'.neverSyncedDeleted = t.neverSyncedDeleted) :
    t'.Partitioned where
  upload := hup ▸ h.upload
  setAside := hset ▸ h.setAside
  items pc hpc := absurd hpc (hs pc)

/-- Resuming at :344 splits the items read into those kept and those set aside. -/
theorem Partitioned.split (h : t.Partitioned) (needingSave : List Item) :
    { t with items := t.items.filter fun it => !(it.neverSynced && it.deleted)
             neverSyncedDeleted := t.items.filter fun it => it.neverSynced && it.deleted
             needingSave
             status := .suspended .presaveFilter }.Partitioned where
  upload := h.upload
  setAside _ hit := (List.mem_filter.1 hit).2
  items _ _ _ it hit := by simpa only [Bool.not_eq_true'] using (List.mem_filter.1 hit).2

end Task

namespace Conf

variable {c : Conf} {i : Nat} {t t' : Task} {pc : Pc}

/-- Every invocation record is `Partitioned`. -/
def Partitioned (c : Conf) : Prop := ∀ k t, c.tasks k = some t → t.Partitioned

theorem Partitioned.congr {c' : Conf} (h : c.Partitioned) (h1 : c'.tasks = c.tasks) :
    c'.Partitioned := fun k t hk => h k t (h1 ▸ hk)

theorem Partitioned.setTask (h : c.Partitioned) (ht : t'.Partitioned) :
    (c.setTask i t').Partitioned := fun k t₀ hk => by
  simp only [Conf.setTask, Function.update_apply] at hk
  split_ifs at hk
  · exact Option.some.inj hk ▸ ht
  · exact h k t₀ hk

/-- Invocation `i`'s record, moved on from an `await` other than the first with its items,
upload and set-aside items kept, written into a configuration with the same records. -/
theorem Partitioned.advance {c' : Conf} (h : c.Partitioned) (h1 : c'.tasks = c.tasks)
    (ht : c.tasks i = some t) (hpc : t.status = .suspended pc) (hne : pc ≠ .itemsNeedingSync)
    (hitems : t'.items = t.items) (hup : t'.upload = t.upload)
    (hset : t'.neverSyncedDeleted = t.neverSyncedDeleted) : (c'.setTask i t').Partitioned :=
  (h.congr h1).setTask ((h i t ht).advance hpc hne hitems (fun _ hit => .inl (hup ▸ hit)) hset)

theorem Partitioned.sync (h : c.Partitioned) (a : SyncArgs) : (c.sync a).1.Partitioned :=
  (h.setTask (Task.partitioned_invocation c a) :
    (c.setTask c.nextTask (c.invocation a)).Partitioned).congr rfl

theorem Partitioned.popSpawnQueue (h : c.Partitioned) : c.popSpawnQueue.1.Partitioned := by
  unfold Conf.popSpawnQueue
  split
  · exact h
  · split
    · exact ((h.congr rfl : Partitioned { c with spawnQueue := _ }).sync _).congr rfl
    · exact h.congr rfl

theorem Partitioned.drainQueues (h : c.Partitioned) : c.drainQueues.Partitioned := by
  unfold Conf.drainQueues
  dsimp only
  split
  · exact h.popSpawnQueue.sync {}
  · exact h.popSpawnQueue

theorem Partitioned.settleSpawnRequest (h : c.Partitioned) (p : Nat) :
    (c.settleSpawnRequest p).Partitioned := by
  rcases settleSpawnRequest_cases c p with he | ⟨_, _, _, _, _, _, _, _, _, he⟩ <;> rw [he]
  exacts [h, h.congr rfl]

theorem Partitioned.settleInvocation (h : c.Partitioned) (i : Nat) :
    (c.settleInvocation i).Partitioned := by
  unfold Conf.settleInvocation
  split
  · rename_i t ht
    repeat' split
    all_goals first | exact h | exact h.setTask ((h i t ht).leave (fun _ => nofun) rfl rfl)
  · exact h

@[simp] theorem handleNeverSyncedDeleted_tasks (c : Conf) (ps : List Item) :
    (c.handleNeverSyncedDeleted ps).tasks = c.tasks := rfl

/-- The code between two `await`s keeps `Partitioned`: it splits the items at the first one,
uploads the kept items at `encrypt`, and otherwise moves the record on and starts syncs. -/
theorem Partitioned.continueFrom (h : c.Partitioned) (ht : c.tasks i = some t)
    (hpc : t.status = .suspended pc) : (c.continueFrom i t pc).Partitioned := by
  have hp := h i t ht
  cases pc with
  | itemsNeedingSync =>
    obtain ⟨d, hd⟩ := popPayloadsNeedingPreSyncSave_fst c
      (t.items.filter fun it => !(it.neverSynced && it.deleted))
    simp only [continueFrom, afterItemsNeedingSync, hd]
    exact (h.congr rfl).setTask (hp.split _)
  | presaveFilter =>
    simp only [continueFrom, afterPresaveFilter, persistPayloads_eq]
    exact h.advance rfl ht hpc nofun rfl rfl rfl
  | persist =>
    simp only [continueFrom, afterPersist]
    split_ifs
    all_goals exact h.advance rfl ht hpc nofun rfl rfl rfl
  | online =>
    simp only [continueFrom, afterOnline]
    split_ifs
    all_goals first
      | exact h.advance rfl ht hpc nofun rfl rfl rfl
      | exact h.setTask (hp.advance hpc nofun rfl (fun _ hit => by simp at hit) rfl)
  | encrypt => exact h.setTask (hp.advance hpc nofun rfl (fun _ hit => .inr hit) rfl)
  | run =>
    simp only [continueFrom, afterRun]
    have h1 : Partitioned (c.setTask i { t with pastRun := true, status := .suspended .completion }) :=
      h.advance rfl ht hpc nofun rfl rfl rfl
    have h2 : Partitioned ({ c.setTask i { t with pastRun := true, status := .suspended .completion }
      with syncInProgress := false }.resolveInTime i t.inTimeResolveQueue) := h1.congr rfl
    exact h2.drainQueues.congr rfl
  | completion => exact h.advance (handleNeverSyncedDeleted_tasks _ _) ht hpc nofun rfl rfl rfl
  | mapNeverSyncedDeleted =>
    simp only [continueFrom, afterMapNeverSyncedDeleted, persistPayloads_eq]
    exact h.advance rfl ht hpc nofun rfl rfl rfl
  | neverSyncedDeleted =>
    simp only [continueFrom, afterNeverSyncedDeleted]
    split
    all_goals exact h.advance rfl ht hpc nofun rfl rfl rfl
  | initialNotify => exact (h.sync {}).setTask (hp.advance hpc nofun rfl (fun _ => .inl) rfl)
  | recheck =>
    simp only [continueFrom]
    split
    · exact (h.sync {}).setTask (hp.advance hpc nofun rfl (fun _ => .inl) rfl)
    · exact h.advance rfl ht hpc nofun rfl rfl rfl
  | setItemsProperties | operation => exact h.advance rfl ht hpc nofun rfl rfl rfl

theorem Partitioned.resume (h : c.Partitioned) (i : Nat) (ok : Bool) :
    (c.resume i ok).Partitioned := by
  unfold Conf.resume
  split
  · rename_i t ht
    split
    · rename_i pc hpc
      split
      · exact h.continueFrom ht hpc
      · exact h.setTask ((h i t ht).leave (fun _ => nofun) rfl rfl)
    · exact h
  · exact h

/-- Every step keeps `Partitioned`. -/
theorem Partitioned.step (h : c.Partitioned) (a : Act) : (c.step a).Partitioned := by
  cases a with
  | sync a => exact h.sync a
  | resume i ok => exact h.resume i ok
  | integritySync i =>
    simp only [Conf.step]
    split
    · exact h.sync _
    · exact h
  | settleInvocation i => exact h.settleInvocation i
  | settleSpawnRequest p => exact h.settleSpawnRequest p
  | lockSyncing | unlockSyncing | handleSignOut | mapItem _ | loadDatabase | tick =>
    exact h.congr rfl

theorem partitioned_run (items : List Item) (now : Nat) (acts : List Act) :
    ((Conf.init items now).run acts).Partitioned :=
  run_induction (P := Partitioned) (fun _ => True) (fun _ a _ h => h.step a) acts (fun _ _ => trivial)
    fun _ _ h => nomatch h

end Conf

/-! ## Clearing the set-aside items -/

/-- An item the mapping of `ps` leaves in the store whose uuid none of `ps` has was there. -/
theorem mem_of_mem_foldl_mapItem {it : Item} :
    ∀ (ps : List Item) {items : List Item}, it ∈ ps.foldl mapItem items →
      it.uuid ∉ ps.map (·.uuid) → it ∈ items
  | [], _, h, _ => h
  | p :: ps, _, h, hu => by
    simp only [List.map_cons, List.mem_cons, not_or] at hu
    have := mem_of_mem_foldl_mapItem ps h hu.2
    simp only [mapItem, List.mem_cons, List.mem_filter] at this
    rcases this with rfl | ⟨hit, -⟩
    · exact absurd rfl hu.1
    · exact hit

/-- After mapping `ps`, an item of the store with the uuid of one of them is one of them. -/
theorem mem_of_mem_foldl_mapItem_uuid {it : Item} :
    ∀ (ps : List Item) {items : List Item}, it ∈ ps.foldl mapItem items →
      it.uuid ∈ ps.map (·.uuid) → it ∈ ps
  | [], _, _, hu => by simp at hu
  | p :: ps, _, h, hu => by
    by_cases hps : it.uuid ∈ ps.map (·.uuid)
    · exact List.mem_cons_of_mem _ (mem_of_mem_foldl_mapItem_uuid ps h hps)
    · have hp : it.uuid = p.uuid := by simpa [hps] using hu
      have := mem_of_mem_foldl_mapItem ps h hps
      simp only [mapItem, List.mem_cons, List.mem_filter, hp, ne_eq, not_true_eq_false,
        decide_False, Bool.false_eq_true, and_false, or_false] at this
      exact this ▸ List.mem_cons_self _ _

/-- Once the payloads of `ps` are mapped with `dirty: false`, no dirty item has one of their
uuids. -/
theorem uuid_not_mem_of_dirty_mapped {it : Item} {ps items : List Item}
    (hit : it ∈ (Conf.neverSyncedDeletedPayloads ps).foldl mapItem items) (hd : it.dirty = true) :
    it.uuid ∉ ps.map (·.uuid) := fun hu => by
  have := mem_of_mem_foldl_mapItem_uuid _ hit
    (by simpa [Conf.neverSyncedDeletedPayloads, Function.comp_def] using hu)
  obtain ⟨_, -, rfl⟩ := List.mem_map.1 this
  simp at hd

namespace Conf

variable {c : Conf} {i : Nat} {t : Task}

/-- Resuming after `handleSyncOperationCompletion` (:457) maps the items the invocation set
aside, with `dirty: false`, saves nothing yet, and waits on the map. -/
theorem resume_completion (ht : c.tasks i = some t) (hpc : t.status = .suspended .completion) :
    (c.resume i true).tasks i = some { t with status := .suspended .mapNeverSyncedDeleted } ∧
      (c.resume i true).saved = c.saved ∧
      (c.resume i true).items = (neverSyncedDeletedPayloads t.neverSyncedDeleted).foldl mapItem c.items := by
  simp [resume, ht, hpc, continueFrom, handleNeverSyncedDeleted, mapPayloadsToLocalItems, setTask]

/-- Resuming after the map (:643) saves the mapped payloads if the map resolved, and nothing if
it rejected; the store is left as it is. -/
theorem resume_mapNeverSyncedDeleted (ht : c.tasks i = some t)
    (hpc : t.status = .suspended .mapNeverSyncedDeleted) (ok : Bool) :
    (c.resume i ok).saved =
        c.saved ++ (if ok then neverSyncedDeletedPayloads t.neverSyncedDeleted else []) ∧
      (c.resume i ok).items = c.items := by
  cases ok <;> simp [resume, ht, hpc, continueFrom, afterMapNeverSyncedDeleted, persistPayloads_eq,
    setTask]

end Conf

/-- **Items never synced and deleted stay local.** In every configuration reached from a fresh
manager, under any schedule of calls, resumptions, rejected awaits, spawned and
integrity-triggered syncs, locks, sign-outs, edits, loads and clock ticks: no invocation has
uploaded an item that was never synced and is deleted; what an invocation set aside is only
such items; and when an invocation resumes after `handleSyncOperationCompletion`, the items it
set aside are mapped with `dirty: false`, with nothing saved, and when the map then settles
they are saved if it resolved and not at all if it rejected, and either way no dirty item of
the store has one of their uuids. -/
theorem never_synced_deleted_stay_local (items : List Item) (now : Nat) (acts : List Act) :
    let c := (Conf.init items now).run acts
    ∀ k t, c.tasks k = some t →
      (∀ it ∈ t.upload, it.neverSynced = false ∨ it.deleted = false) ∧
      (∀ it ∈ t.neverSyncedDeleted, it.neverSynced = true ∧ it.deleted = true) ∧
      (t.status = .suspended .completion →
        (c.step (.resume k true)).saved = c.saved ∧
        ∀ ok, ((c.step (.resume k true)).step (.resume k ok)).saved =
            c.saved ++ (if ok then t.neverSyncedDeleted.map (fun it => { it with dirty := false })
              else []) ∧
          ∀ it ∈ ((c.step (.resume k true)).step (.resume k ok)).itemsNeedingSync,
            it.uuid ∉ t.neverSyncedDeleted.map (·.uuid)) := by
  intro c k t hk
  have h := Conf.partitioned_run items now acts k t hk
  refine ⟨fun it hit => Bool.and_eq_false_iff.1 (h.upload it hit),
    fun it hit => by simpa using h.setAside it hit, fun hpc => ?_⟩
  obtain ⟨ht₁, hs₁, hi₁⟩ := Conf.resume_completion hk hpc
  refine ⟨hs₁, fun ok => ?_⟩
  obtain ⟨hs₂, hi₂⟩ := Conf.resume_mapNeverSyncedDeleted ht₁ rfl ok
  refine ⟨hs₂.trans (by rw [hs₁]; rfl), fun it hit => ?_⟩
  simp only [Conf.step, Conf.itemsNeedingSync, List.mem_filter, hi₂, hi₁] at hit
  exact uuid_not_mem_of_dirty_mapped hit.1 hit.2

/-- A note created and deleted before it was ever synced. -/
def deletedDraft : Item :=
  { uuid := 2, dirty := true, dirtiedDate := none, deleted := true, neverSynced := true }

/-- An edited note that has been synced before. -/
def editedNote : Item :=
  { uuid := 3, dirty := true, dirtiedDate := none, deleted := false, neverSynced := false }

/-- An initial-mode sync over both, resumed until its round has completed. -/
def draftSchedule : List Act :=
  [.loadDatabase, .sync { mode := some SYNC_MODE_INITIAL }] ++ List.replicate 7 (.resume 0 true)

/-- The initial sync sets the draft aside; resumed after its round, it saves it not dirty once
the map resolves, and not at all if the map rejects. -/
theorem initial_sync_saves_draft_not_dirty :
    ∃ t, ((Conf.init [deletedDraft, editedNote] 0).run draftSchedule).tasks 0 = some t ∧
      t.neverSyncedDeleted = [deletedDraft] ∧
      ∀ ok, ((((Conf.init [deletedDraft, editedNote] 0).run draftSchedule).step (.resume 0 true)).step
        (.resume 0 ok)).saved =
          [editedNote] ++ if ok then [{ deletedDraft with dirty := false }] else [] := by
  have h1 : (((Conf.init [deletedDraft, editedNote] 0).run draftSchedule).tasks 0).map
      (fun t => (t.neverSyncedDeleted, t.status)) = some ([deletedDraft], .suspended .completion) := by
    decide
  obtain ⟨t, ht, hts⟩ := Option.map_eq_some'.1 h1
  simp only [Prod.mk.injEq] at hts
  refine ⟨t, ht, hts.1, fun ok => ?_⟩
  rw [(((never_synced_deleted_stay_local [deletedDraft, editedNote] 0 draftSchedule 0 t ht).2.2
    hts.2).2 ok).1, hts.1]
  cases ok <;> decide

end Snjs.Sync
