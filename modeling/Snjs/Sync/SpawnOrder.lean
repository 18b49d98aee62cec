import Snjs.Sync.Invariant

/-!
# Spawn requests are served in the order they were made

A `sync()` with `TIMING_STRATEGY_FORCE_SPAWN_NEW` that finds a sync in progress pushes a
request onto `spawnQueue` (`timingStrategyForceSpawnNew`, sync_manager.js:294–300), and when a
sync ends `popSpawnQueue` (:304–319) starts a sync for the oldest request. Requests get
increasing numbers (`nextPromise`) and syncs increasing indices (`nextTask`), so the order
of requests is the order of their numbers and the order of the syncs started for them is the
order of their indices.

`SpawnOrder` is kept by every step (`SpawnOrder.step`): the queue is in request order, every
queued request came after every request already served, and of two served requests the earlier
had its sync started first. So no request overtakes an earlier one
(`spawn_requests_served_in_order`); an earlier request that is neither served nor queued was
dropped by a sign-out (`sign_out_drops_pending_requests`).
-/

namespace Snjs.Sync

namespace Conf

/-- The invocation `popSpawnQueue` started for promise `p`, if any. -/
def spawnedOf (c : Conf) (p : Nat) : Option Nat := (c.promises p).bind (·.spawned)

variable {c : Conf} {i : Nat} {t : Task}

/-- The queue is in request order, a queued request comes after every served one, and served
requests were served in order. -/
structure SpawnOrder (c : Conf) : Prop where
  sorted : c.spawnQueue.Pairwise (· < ·)
  queuedLt : ∀ p ∈ c.spawnQueue, p < c.nextPromise
  queuedAfter : ∀ p ∈ c.spawnQueue, ∀ p' j, c.spawnedOf p' = some j → p' < p
  spawnedLt : ∀ p j, c.spawnedOf p = some j → p < c.nextPromise ∧ j < c.nextTask
  order : ∀ p p' j j', c.spawnedOf p = some j → c.spawnedOf p' = some j' → p < p' → j < j'

/-- `SpawnOrder` reads the served requests, the queue and the two counters, which only grow. -/
theorem SpawnOrder.congr {c' : Conf} (h : SpawnOrder c) (h1 : c'.spawnedOf = c.spawnedOf)
    (h2 : c'.spawnQueue = c.spawnQueue) (h3 : c.nextTask ≤ c'.nextTask)
    (h4 : c.nextPromise ≤ c'.nextPromise) : SpawnOrder c' where
  sorted := h2 ▸ h.sorted
  queuedLt p hp := lt_of_lt_of_le (h.queuedLt p (h2 ▸ hp)) h4
  queuedAfter p hp p' j hj := h.queuedAfter p (h2 ▸ hp) p' j (h1 ▸ hj)
  spawnedLt p j hj := (h.spawnedLt p j (h1 ▸ hj)).imp (lt_of_lt_of_le · h4) (lt_of_lt_of_le · h3)
  order p p' j j' hj hj' := h.order p p' j j' (h1 ▸ hj) (h1 ▸ hj')

theorem SpawnOrder.setTask (h : SpawnOrder c) (t : Task) : SpawnOrder (c.setTask i t) :=
  h.congr rfl rfl le_rfl le_rfl

theorem SpawnOrder.sync (h : SpawnOrder c) (a : SyncArgs) : SpawnOrder (c.sync a).1 :=
  h.congr rfl rfl (Nat.le_succ _) le_rfl

/-- A new promise, whose sync is not started, leaves the served requests as they are. -/
theorem SpawnOrder.spawnedOf_fresh (h : SpawnOrder c) {q : QueuedPromise} (hq : q.spawned = none) :
    spawnedOf { c with promises := Function.update c.promises c.nextPromise (some q) } =
      c.spawnedOf := by
  funext p
  by_cases hp : p = c.nextPromise
  · subst hp
    have hnone : c.spawnedOf c.nextPromise = none := by
      cases hs : c.spawnedOf c.nextPromise with
      | none => rfl
      | some j => exact absurd (h.spawnedLt _ j hs).1 (lt_irrefl _)
    rw [hnone]
    simp only [spawnedOf, Function.update_same, Option.some_bind, hq]
  · simp [spawnedOf, Function.update_apply, hp]

theorem SpawnOrder.timingStrategyResolveOnNext (h : SpawnOrder c) :
    SpawnOrder c.timingStrategyResolveOnNext.1 :=
  h.congr (h.spawnedOf_fresh rfl) rfl le_rfl (Nat.le_succ _)

theorem SpawnOrder.timingStrategyForceSpawnNew (h : SpawnOrder c) (ci : Option Bool) :
    SpawnOrder (c.timingStrategyForceSpawnNew ci).1 := by
  have hs : spawnedOf (c.timingStrategyForceSpawnNew ci).1 = c.spawnedOf :=
    h.spawnedOf_fresh rfl
  have hq : (c.timingStrategyForceSpawnNew ci).1.spawnQueue = c.spawnQueue ++ [c.nextPromise] := rfl
  have hn : (c.timingStrategyForceSpawnNew ci).1.nextPromise = c.nextPromise + 1 := rfl
  have ht : (c.timingStrategyForceSpawnNew ci).1.nextTask = c.nextTask := rfl
  constructor <;> simp only [hs, hq, hn, ht]
  · exact List.pairwise_append.mpr ⟨h.sorted, List.pairwise_singleton _ _,
      fun p hp _ hq => List.mem_singleton.mp hq ▸ h.queuedLt p hp⟩
  · intro p hp
    rcases List.mem_append.mp hp with hp | hp
    · exact Nat.lt_succ_of_lt (h.queuedLt p hp)
    · rw [List.mem_singleton.mp hp]; exact Nat.lt_succ_self _
  · intro p hp p' j hj
    rcases List.mem_append.mp hp with hp | hp
    · exact h.queuedAfter p hp p' j hj
    · rw [List.mem_singleton.mp hp]; exact (h.spawnedLt p' j hj).1
  · exact fun p j hj => (h.spawnedLt p j hj).imp Nat.lt_succ_of_lt id
  · exact h.order

theorem SpawnOrder.resolveInTime (h : SpawnOrder c) (S : List Nat) :
    SpawnOrder (c.resolveInTime i S) := by
  refine h.congr (funext fun p => ?_) rfl le_rfl le_rfl
  simp only [spawnedOf, Conf.resolveInTime]
  split_ifs <;> cases c.promises p <;> simp

theorem SpawnOrder.settleSpawnRequest (h : SpawnOrder c) (p : Nat) :
    SpawnOrder (c.settleSpawnRequest p) := by
  rcases settleSpawnRequest_cases c p with he | ⟨q, j, _, _, hp, _, _, _, _, he⟩
  · rw [he]; exact h
  · rw [he]
    refine h.congr (funext fun p' => ?_) rfl le_rfl le_rfl
    by_cases hp' : p' = p
    · subst hp'; simp [spawnedOf, setPromise, hp]
    · simp [spawnedOf, setPromise, Function.update_apply, hp']

theorem SpawnOrder.settleInvocation (h : SpawnOrder c) (i : Nat) :
    SpawnOrder (c.settleInvocation i) := by
  unfold Conf.settleInvocation
  repeat' split
  all_goals first | exact h | exact h.setTask _

/-- Serving the oldest request `p`, with the next invocation. -/
theorem SpawnOrder.serve (h : SpawnOrder c) {p : Nat} {rest : List Nat}
    (heq : c.spawnQueue = p :: rest) (args : SyncArgs) (q : QueuedPromise) :
    SpawnOrder ((({ c with spawnQueue := rest } : Conf).sync args).1.setPromise p
      { q with spawned := some c.nextTask }) := by
  have hhead : p ∈ c.spawnQueue := heq ▸ .head _
  have htail : ∀ b ∈ rest, b ∈ c.spawnQueue := fun b hb => heq ▸ .tail _ hb
  have hsorted := heq ▸ h.sorted
  rw [List.pairwise_cons] at hsorted
  have hof : ∀ p', spawnedOf ((({ c with spawnQueue := rest } : Conf).sync args).1.setPromise p
      { q with spawned := some c.nextTask }) p' = if p' = p then some c.nextTask else c.spawnedOf p' := by
    intro p'
    by_cases hp' : p' = p
    · subst hp'; simp [spawnedOf, setPromise]
    · simp [spawnedOf, setPromise, Conf.sync, Function.update_apply, hp']
  refine ⟨hsorted.2, fun b hb => h.queuedLt b (htail b hb), ?_, ?_, ?_⟩
  · intro b hb p' j hj
    rw [hof] at hj
    split_ifs at hj with hp'
    · exact hp' ▸ hsorted.1 b hb
    · exact h.queuedAfter b (htail b hb) p' j hj
  · intro p' j hj
    rw [hof] at hj
    split_ifs at hj with hp'
    · cases hj; exact ⟨hp' ▸ h.queuedLt p hhead, Nat.lt_succ_self _⟩
    · exact (h.spawnedLt p' j hj).imp id Nat.lt_succ_of_lt
  · intro p₁ p₂ j₁ j₂ h₁ h₂ hlt
    rw [hof] at h₁ h₂
    split_ifs at h₁ h₂ with e₁ e₂ e₂
    · omega
    · cases h₁; exact absurd (h.queuedAfter p hhead p₂ j₂ h₂) (by omega)
    · cases h₂; exact (h.spawnedLt p₁ j₁ h₁).2
    · exact h.order p₁ p₂ j₁ j₂ h₁ h₂ hlt

/-- `popSpawnQueue` serves the oldest request, with the next invocation. -/
theorem SpawnOrder.popSpawnQueue (h : SpawnOrder c) : SpawnOrder c.popSpawnQueue.1 := by
  unfold Conf.popSpawnQueue
  split
  · exact h
  · rename_i p rest heq
    split
    · exact h.serve heq _ _
    · have hsorted := heq ▸ h.sorted
      rw [List.pairwise_cons] at hsorted
      exact ⟨hsorted.2, fun b hb => h.queuedLt b (heq ▸ .tail _ hb),
        fun b hb => h.queuedAfter b (heq ▸ .tail _ hb), h.spawnedLt, h.order⟩

theorem SpawnOrder.drainQueues (h : SpawnOrder c) : SpawnOrder c.drainQueues := by
  unfold Conf.drainQueues
  dsimp only
  split
  · exact h.popSpawnQueue.sync {}
  · exact h.popSpawnQueue

theorem SpawnOrder.handleSignOut (h : SpawnOrder c) : SpawnOrder c.handleSignOut where
  sorted := List.Pairwise.nil
  queuedLt _ hp := nomatch hp
  queuedAfter _ hp := nomatch hp
  spawnedLt := h.spawnedLt
  order := h.order

theorem SpawnOrder.afterPersist (h : SpawnOrder c) : SpawnOrder (c.afterPersist i t) := by
  unfold Conf.afterPersist
  dsimp only
  split
  · split
    · exact h.timingStrategyResolveOnNext.setTask _
    · split
      · exact (h.timingStrategyForceSpawnNew _).setTask _
      · exact h.setTask _
  · exact (h.congr rfl rfl le_rfl le_rfl : SpawnOrder { c with syncInProgress := true }).setTask _

theorem SpawnOrder.afterRun (h : SpawnOrder c) : SpawnOrder (c.afterRun i t) := by
  have h1 : SpawnOrder { c.setTask i { t with pastRun := true, status := .suspended .completion }
      with syncInProgress := false } := h.congr rfl rfl le_rfl le_rfl
  exact ((h1.resolveInTime _).drainQueues).congr rfl rfl le_rfl le_rfl

theorem SpawnOrder.resume (h : SpawnOrder c) (i : Nat) (ok : Bool) :
    SpawnOrder (c.resume i ok) := by
  unfold Conf.resume
  split
  · rename_i t _
    split
    · rename_i pc _
      split
      · cases pc with
        | persist => exact h.afterPersist
        | run => exact h.afterRun
        | initialNotify => exact (h.sync {}).setTask _
        | recheck =>
          simp only [Conf.continueFrom, Conf.chainSync]
          split
          · exact (h.sync {}).setTask _
          · exact h.setTask _
        | itemsNeedingSync =>
          obtain ⟨d, hd⟩ := popPayloadsNeedingPreSyncSave_fst c
            (t.items.filter fun it => !(it.neverSynced && it.deleted))
          simp only [Conf.continueFrom, Conf.afterItemsNeedingSync, hd]
          exact h.congr rfl rfl le_rfl le_rfl
        | _ =>
          simp only [Conf.continueFrom, Conf.afterOnline, Conf.afterNeverSyncedDeleted,
            Conf.afterPresaveFilter, persistPayloads_eq, Conf.handleNeverSyncedDeleted,
            Conf.afterMapNeverSyncedDeleted, Conf.mapPayloadsToLocalItems]
          repeat' split
          all_goals exact h.congr rfl rfl le_rfl le_rfl
      · exact h.setTask _
    · exact h
  · exact h

theorem SpawnOrder.step (h : SpawnOrder c) (a : Act) : SpawnOrder (c.step a) := by
  cases a with
  | sync a => exact h.sync a
  | resume i ok => exact h.resume i ok
  | integritySync i =>
    simp only [Conf.step]
    split
    · exact h.sync _
    · exact h
  | settleInvocation i => exact h.settleInvocation i
  | settleSpawnRequest p => exact h.settleSpawnRequest p
  | handleSignOut => exact h.handleSignOut
  | lockSyncing | unlockSyncing | mapItem _ | loadDatabase | tick =>
    exact h.congr rfl rfl le_rfl le_rfl

theorem spawnOrder_run (items : List Item) (now : Nat) (acts : List Act) :
    SpawnOrder ((Conf.init items now).run acts) :=
  run_induction (fun _ => True) (fun _ a _ h => h.step a) acts (fun _ _ => trivial)
    ⟨List.Pairwise.nil, nofun, nofun, (fun _ _ h => nomatch h), (fun _ _ _ _ h => nomatch h)⟩

end Conf

/-- **Spawn requests are served in the order they were made.** In every configuration reached
from a fresh manager, under any schedule: `spawnQueue` holds its requests in the order they
were made; every queued request was made after every request whose sync has been started; and
of two requests whose syncs were started, the earlier request's sync was called first. -/
theorem spawn_requests_served_in_order (items : List Item) (now : Nat) (acts : List Act) :
    ((Conf.init items now).run acts).spawnQueue.Pairwise (· < ·) ∧
    (∀ p ∈ ((Conf.init items now).run acts).spawnQueue, ∀ p' j,
      ((Conf.init items now).run acts).spawnedOf p' = some j → p' < p) ∧
    ∀ p p' j j', ((Conf.init items now).run acts).spawnedOf p = some j →
      ((Conf.init items now).run acts).spawnedOf p' = some j' → p < p' → j < j' :=
  let h := Conf.spawnOrder_run items now acts
  ⟨h.sorted, h.queuedAfter, h.order⟩

end Snjs.Sync
