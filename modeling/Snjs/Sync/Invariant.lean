import Snjs.Sync.Manager
import Mathlib.Data.List.Nodup

/-!
# Bookkeeping invariants of the sync queue

What every configuration reachable under any schedule satisfies, sign-outs included
(`Inv`): unused indices hold nothing, each queue holds pending promises of its own kind,
an invocation that began took its `inTimeResolveQueue` among the promises pushed before
it, and two histories:

- `onNextResolved`: a settled resolve-on-next promise was resolved by an invocation that
  executed `setDidBegin()` after the promise was pushed, once that invocation's
  `operation.run()` had completed;
- `spawnSettled` with `spawnedBy`: a settled force-spawn-new promise settled as the
  invocation `popSpawnQueue` started for it did, and that invocation was called after the
  request was queued, with the request's `checkIntegrity`.

Each piece of `sync()` keeps `Inv` (`Inv.setTask`, `Inv.sync`, `Inv.resolveInTime`, ...);
`Inv.step` assembles them along `Conf.step`.
-/

namespace Snjs.Sync

/-- The `await`s before `setDidBegin()` (:344–363). -/
def Pc.beforeBegin : Pc → Bool
  | .itemsNeedingSync | .presaveFilter | .persist => true
  | _ => false

@[simp] theorem QueuedPromise.resolve_request (q : QueuedPromise) (i : Nat) :
    (q.resolve i).request = q.request := by
  unfold QueuedPromise.resolve; split <;> rfl

@[simp] theorem QueuedPromise.resolve_spawned (q : QueuedPromise) (i : Nat) :
    (q.resolve i).spawned = q.spawned := by
  unfold QueuedPromise.resolve; split <;> rfl

namespace Conf

attribute [simp] setTask setPromise resetOpStatus handleSignOut timingStrategyResolveOnNext
  timingStrategyForceSpawnNew sync resolveInTime

variable {c : Conf} {i k p : Nat} {t t' : Task}

/-- The invariant of every reachable configuration. -/
structure Inv (c : Conf) : Prop where
  taskFresh : ∀ k, c.nextTask ≤ k → c.tasks k = none
  promiseFresh : ∀ p, c.nextPromise ≤ p → c.promises p = none
  resolveQueue : ∀ p ∈ c.resolveQueue, ∃ q, c.promises p = some q ∧ q.request = .resolveOnNext
  spawnQueue : ∀ p ∈ c.spawnQueue, ∃ q ci, c.promises p = some q ∧
    q.request = .forceSpawnNew ci ∧ q.settledWith = none ∧ q.spawned = none
  spawnNodup : c.spawnQueue.Nodup
  notBegun : ∀ k t pc, c.tasks k = some t → t.status = .suspended pc → pc.beforeBegin = true →
    t.beganAt = none
  snapshot : ∀ k t, c.tasks k = some t → ∀ p ∈ t.inTimeResolveQueue,
    (∃ q, c.promises p = some q ∧ q.request = .resolveOnNext) ∧ ∃ b, t.beganAt = some b ∧ p < b
  onNextUnspawned : ∀ p q, c.promises p = some q → q.request = .resolveOnNext → q.spawned = none
  onNextResolved : ∀ p q, c.promises p = some q → q.request = .resolveOnNext →
    q.settledWith ≠ none → ∃ T t b, q.resolvedBy = some T ∧ c.tasks T = some t ∧
      t.beganAt = some b ∧ p < b ∧ t.pastRun = true
  spawnedBy : ∀ p q j, c.promises p = some q → q.spawned = some j →
    ∃ t, c.tasks j = some t ∧ p < t.createdAt ∧ t.args = spawnArgs q.request.checkIntegrity
  spawnSettled : ∀ p q ci r, c.promises p = some q → q.request = .forceSpawnNew ci →
    q.settledWith = some r → ∃ j t, q.spawned = some j ∧ c.tasks j = some t ∧ t.status = .settled r

theorem Inv.lt_nextTask (h : Inv c) (hk : c.tasks k = some t) : k < c.nextTask := by
  by_contra hle
  rw [h.taskFresh k (by omega)] at hk
  cases hk

theorem Inv.lt_nextPromise {q : QueuedPromise} (h : Inv c) (hp : c.promises p = some q) :
    p < c.nextPromise := by
  by_contra hle
  rw [h.promiseFresh p (by omega)] at hp
  cases hp

/-- `Inv` reads only the tasks, the promises, the queues and the two counters. -/
theorem Inv.congr {c' : Conf} (h : Inv c) (h1 : c'.tasks = c.tasks) (h2 : c'.promises = c.promises)
    (h3 : c'.resolveQueue = c.resolveQueue) (h4 : c'.spawnQueue = c.spawnQueue)
    (h5 : c'.nextTask = c.nextTask) (h6 : c'.nextPromise = c.nextPromise) : Inv c' := by
  obtain ⟨a1, a2, a3, a4, a5, a6, a7, a8, a9, a10, a11⟩ := h
  rw [← h1, ← h2, ← h3, ← h4, ← h5, ← h6] at *
  exact ⟨a1, a2, a3, a4, a5, a6, a7, a8, a9, a10, a11⟩

@[simp] theorem invocation_args (c : Conf) (a : SyncArgs) : (c.invocation a).args = a := by
  unfold invocation; split <;> rfl

@[simp] theorem invocation_createdAt (c : Conf) (a : SyncArgs) :
    (c.invocation a).createdAt = c.nextPromise := by
  unfold invocation; split <;> rfl

@[simp] theorem invocation_beganAt (c : Conf) (a : SyncArgs) : (c.invocation a).beganAt = none := by
  unfold invocation; split <;> rfl

@[simp] theorem invocation_pastRun (c : Conf) (a : SyncArgs) : (c.invocation a).pastRun = false := by
  unfold invocation; split <;> rfl

@[simp] theorem invocation_inTimeResolveQueue (c : Conf) (a : SyncArgs) :
    (c.invocation a).inTimeResolveQueue = [] := by
  unfold invocation; split <;> rfl

/-- A new invocation has either returned (locked) or waits on its first `await`. -/
theorem invocation_status (c : Conf) (a : SyncArgs) :
    (c.invocation a).status = .settled true ∨
      (c.invocation a).status = .suspended .itemsNeedingSync := by
  unfold invocation; split
  · exact .inl rfl
  · exact .inr rfl

/-- Writing an existing invocation's record keeps `Inv` when the new record keeps its
arguments, creation stamp, begin stamp, completed run and settlement, and its
`inTimeResolveQueue` holds promises pushed before it began. -/
theorem Inv.setTask (h : Inv c) (ht : c.tasks i = some t)
    (hargs : t'.args = t.args) (hcreated : t'.createdAt = t.createdAt)
    (hbegan : ∀ b, t.beganAt = some b → t'.beganAt = some b)
    (hpast : t.pastRun = true → t'.pastRun = true)
    (hsettled : ∀ r, t.status = .settled r → t'.status = .settled r)
    (hnb : ∀ pc, t'.status = .suspended pc → pc.beforeBegin = true → t'.beganAt = none)
    (hsnap : ∀ p ∈ t'.inTimeResolveQueue,
      (∃ q, c.promises p = some q ∧ q.request = .resolveOnNext) ∧ ∃ b, t'.beganAt = some b ∧ p < b) :
    Inv (c.setTask i t') := by
  have hi := h.lt_nextTask ht
  refine ⟨fun k hk => ?_, h.promiseFresh, h.resolveQueue, h.spawnQueue, h.spawnNodup,
    fun k t0 pc hk => ?_, fun k t0 hk => ?_, h.onNextUnspawned, fun p q hp hq hs => ?_,
    fun p q j hp hj => ?_, fun p q ci r hp hq hr => ?_⟩
  · simp only [Conf.setTask] at hk
    simp [Function.update_apply, show k ≠ i by omega, h.taskFresh k hk]
  · simp only [Conf.setTask, Function.update_apply] at hk
    split_ifs at hk
    · cases hk; exact hnb pc
    · exact h.notBegun k t0 pc hk
  · simp only [Conf.setTask, Function.update_apply] at hk
    split_ifs at hk
    · cases hk; exact hsnap
    · exact h.snapshot k t0 hk
  · obtain ⟨T, t0, b, hby, hT, hb, hpb, hrun⟩ := h.onNextResolved p q hp hq hs
    by_cases hTi : T = i
    · subst hTi; rw [ht] at hT; cases hT
      exact ⟨T, t', b, hby, by simp, hbegan b hb, hpb, hpast hrun⟩
    · exact ⟨T, t0, b, hby, by simp [Function.update_apply, hTi, hT], hb, hpb, hrun⟩
  · obtain ⟨t0, hj', hlt, hargs0⟩ := h.spawnedBy p q j hp hj
    by_cases hji : j = i
    · subst hji; rw [ht] at hj'; cases hj'
      exact ⟨t', by simp, by rw [hcreated]; exact hlt, by rw [hargs]; exact hargs0⟩
    · exact ⟨t0, by simp [Function.update_apply, hji, hj'], hlt, hargs0⟩
  · obtain ⟨j, t0, hsp, hj', hst⟩ := h.spawnSettled p q ci r hp hq hr
    by_cases hji : j = i
    · subst hji; rw [ht] at hj'; cases hj'
      exact ⟨j, t', hsp, by simp, hsettled r hst⟩
    · exact ⟨j, t0, hsp, by simp [Function.update_apply, hji, hj'], hst⟩

/-- A new invocation keeps `Inv`. -/
theorem Inv.sync (h : Inv c) (a : SyncArgs) : Inv (c.sync a).1 := by
  have old : ∀ {k t0}, c.tasks k = some t0 → (c.sync a).1.tasks k = some t0 := fun hk => by
    simp [Function.update_apply, Nat.ne_of_lt (h.lt_nextTask hk), hk]
  refine ⟨fun k hk => ?_, h.promiseFresh, h.resolveQueue, h.spawnQueue, h.spawnNodup,
    fun k t0 pc hk => ?_, fun k t0 hk => ?_, h.onNextUnspawned, fun p q hp hq hs => ?_,
    fun p q j hp hj => ?_, fun p q ci r hp hq hr => ?_⟩
  · simp only [Conf.sync] at hk
    simp [Function.update_apply, show k ≠ c.nextTask by omega, h.taskFresh k (by omega)]
  · simp only [Conf.sync, Function.update_apply] at hk
    split_ifs at hk
    · cases hk; simp
    · exact h.notBegun k t0 pc hk
  · simp only [Conf.sync, Function.update_apply] at hk
    split_ifs at hk
    · cases hk; simp
    · exact h.snapshot k t0 hk
  · obtain ⟨T, t0, b, hby, hT, hb⟩ := h.onNextResolved p q hp hq hs
    exact ⟨T, t0, b, hby, old hT, hb⟩
  · obtain ⟨t0, hj', hrest⟩ := h.spawnedBy p q j hp hj
    exact ⟨t0, old hj', hrest⟩
  · obtain ⟨j, t0, hsp, hj', hst⟩ := h.spawnSettled p q ci r hp hq hr
    exact ⟨j, t0, hsp, old hj', hst⟩

/-- A fresh promise on `resolveQueue` keeps `Inv`. -/
theorem Inv.timingStrategyResolveOnNext (h : Inv c) : Inv c.timingStrategyResolveOnNext.1 := by
  have old : ∀ {p q}, c.promises p = some q →
      c.timingStrategyResolveOnNext.1.promises p = some q := fun hp => by
    simp [Function.update_apply, Nat.ne_of_lt (h.lt_nextPromise hp), hp]
  refine ⟨h.taskFresh, fun p hp => ?_, fun p hp => ?_, fun p hp => ?_, h.spawnNodup, h.notBegun,
    fun k t0 hk p hp => ?_, fun p q hp hq => ?_, fun p q hp hq hs => ?_, fun p q j hp hj => ?_,
    fun p q ci r hp hq hr => ?_⟩
  · simp only [Conf.timingStrategyResolveOnNext] at hp
    simp [Function.update_apply, show p ≠ c.nextPromise by omega, h.promiseFresh p (by omega)]
  · simp only [Conf.timingStrategyResolveOnNext, List.mem_append, List.mem_singleton] at hp
    rcases hp with hp | rfl
    · obtain ⟨q, hq, hk⟩ := h.resolveQueue p hp
      exact ⟨q, old hq, hk⟩
    · exact ⟨⟨.resolveOnNext, none, none, none⟩, by simp, rfl⟩
  · obtain ⟨q, ci, hq, hrest⟩ := h.spawnQueue p hp
    exact ⟨q, ci, old hq, hrest⟩
  · obtain ⟨⟨q, hq, hk'⟩, hb⟩ := h.snapshot k t0 hk p hp
    exact ⟨⟨q, old hq, hk'⟩, hb⟩
  all_goals
    simp only [Conf.timingStrategyResolveOnNext, Function.update_apply] at hp
    split_ifs at hp
    · cases hp; simp_all
  · exact h.onNextUnspawned p q hp hq
  · exact h.onNextResolved p q hp hq hs
  · exact h.spawnedBy p q j hp hj
  · exact h.spawnSettled p q ci r hp hq hr

/-- A fresh promise on `spawnQueue` keeps `Inv`. -/
theorem Inv.timingStrategyForceSpawnNew (h : Inv c) (ci : Option Bool) :
    Inv (c.timingStrategyForceSpawnNew ci).1 := by
  have old : ∀ {p q}, c.promises p = some q →
      (c.timingStrategyForceSpawnNew ci).1.promises p = some q := fun hp => by
    simp [Function.update_apply, Nat.ne_of_lt (h.lt_nextPromise hp), hp]
  refine ⟨h.taskFresh, fun p hp => ?_, fun p hp => ?_, fun p hp => ?_, ?_, h.notBegun,
    fun k t0 hk p hp => ?_, fun p q hp hq => ?_, fun p q hp hq hs => ?_, fun p q j hp hj => ?_,
    fun p q ci' r hp hq hr => ?_⟩
  · simp only [Conf.timingStrategyForceSpawnNew] at hp
    simp [Function.update_apply, show p ≠ c.nextPromise by omega, h.promiseFresh p (by omega)]
  · obtain ⟨q, hq, hk⟩ := h.resolveQueue p hp
    exact ⟨q, old hq, hk⟩
  · simp only [Conf.timingStrategyForceSpawnNew, List.mem_append, List.mem_singleton] at hp
    rcases hp with hp | rfl
    · obtain ⟨q, ci', hq, hrest⟩ := h.spawnQueue p hp
      exact ⟨q, ci', old hq, hrest⟩
    · exact ⟨⟨.forceSpawnNew ci, none, none, none⟩, ci, by simp, rfl, rfl, rfl⟩
  · refine List.nodup_append.mpr ⟨h.spawnNodup, List.nodup_singleton _, ?_⟩
    simp only [List.disjoint_singleton]
    intro hm
    obtain ⟨q, _, hq, -⟩ := h.spawnQueue _ hm
    exact absurd (h.lt_nextPromise hq) (Nat.lt_irrefl _)
  · obtain ⟨⟨q, hq, hk'⟩, hb⟩ := h.snapshot k t0 hk p hp
    exact ⟨⟨q, old hq, hk'⟩, hb⟩
  all_goals
    simp only [Conf.timingStrategyForceSpawnNew, Function.update_apply] at hp
    split_ifs at hp
    · cases hp; simp_all
  · exact h.onNextUnspawned p q hp hq
  · exact h.onNextResolved p q hp hq hs
  · exact h.spawnedBy p q j hp hj
  · exact h.spawnSettled p q ci' r hp hq hr

/-- What `resolveInTime` leaves at a promise: the old record, resolved by `i` if it is in
the loop's list. -/
theorem resolveInTime_promises {S : List Nat} {q' : QueuedPromise}
    (hp : (c.resolveInTime i S).promises p = some q') :
    ∃ q, c.promises p = some q ∧ (q' = q ∨ p ∈ S ∧ q' = q.resolve i) := by
  simp only [Conf.resolveInTime] at hp
  split_ifs at hp with hS
  · obtain ⟨q, hq, rfl⟩ := Option.map_eq_some'.mp hp
    exact ⟨q, hq, .inr ⟨hS, rfl⟩⟩
  · exact ⟨q', hp, .inl rfl⟩

theorem resolveInTime_of_some {S : List Nat} {q : QueuedPromise} (hp : c.promises p = some q) :
    ∃ q', (c.resolveInTime i S).promises p = some q' ∧ q'.request = q.request := by
  simp only [Conf.resolveInTime, hp]
  split_ifs
  · exact ⟨_, rfl, by simp⟩
  · exact ⟨q, rfl, rfl⟩

/-- The callback loop of invocation `i` keeps `Inv` when its list holds resolve-on-next
promises pushed before `i` began, and `i`'s run has completed. -/
theorem Inv.resolveInTime (h : Inv c) {S : List Nat}
    (hS : ∀ p ∈ S, ∃ q, c.promises p = some q ∧ q.request = .resolveOnNext)
    (hby : ∀ p ∈ S, ∃ t b, c.tasks i = some t ∧ t.beganAt = some b ∧ p < b ∧ t.pastRun = true) :
    Inv (c.resolveInTime i S) := by
  have kind : ∀ {p q}, c.promises p = some q → q.request = .resolveOnNext →
      ∃ q', (c.resolveInTime i S).promises p = some q' ∧ q'.request = .resolveOnNext :=
    fun hp hk => by
      obtain ⟨q', h1, h2⟩ := resolveInTime_of_some (i := i) (S := S) hp
      exact ⟨q', h1, h2.trans hk⟩
  refine ⟨h.taskFresh, fun p hp => ?_, fun p hp => ?_, fun p hp => ?_, h.spawnNodup, h.notBegun,
    fun k t0 hk p hp => ?_, fun p q hp hq => ?_, fun p q hp hq hs => ?_, fun p q j hp hj => ?_,
    fun p q ci r hp hq hr => ?_⟩
  · simp [Conf.resolveInTime, h.promiseFresh p hp]
  · obtain ⟨q, hq, hk⟩ := h.resolveQueue p (List.mem_of_mem_filter hp)
    exact kind hq hk
  · obtain ⟨q, ci, hq, hk, hrest⟩ := h.spawnQueue p hp
    have hpS : p ∉ S := fun hm => by
      obtain ⟨q', hq', hk'⟩ := hS p hm
      rw [hq] at hq'; cases hq'; rw [hk] at hk'; cases hk'
    exact ⟨q, ci, by simp [Conf.resolveInTime, hpS, hq], hk, hrest⟩
  · obtain ⟨⟨q, hq, hk'⟩, hb⟩ := h.snapshot k t0 hk p hp
    exact ⟨kind hq hk', hb⟩
  all_goals obtain ⟨q0, hq0, rfl | ⟨hpS, rfl⟩⟩ := resolveInTime_promises hp
  · exact h.onNextUnspawned p _ hq0 hq
  · simp only [QueuedPromise.resolve_request, QueuedPromise.resolve_spawned] at hq ⊢
    exact h.onNextUnspawned p _ hq0 hq
  · exact h.onNextResolved p _ hq0 hq hs
  · simp only [QueuedPromise.resolve_request] at hq
    unfold QueuedPromise.resolve at hs ⊢
    split_ifs with hn
    · obtain ⟨t, b, ht, hb, hpb, hrun⟩ := hby p hpS
      exact ⟨i, t, b, rfl, ht, hb, hpb, hrun⟩
    · rw [if_neg hn] at hs
      exact h.onNextResolved p _ hq0 hq hs
  · exact h.spawnedBy p _ j hq0 hj
  · simp only [QueuedPromise.resolve_request, QueuedPromise.resolve_spawned] at hj ⊢
    exact h.spawnedBy p _ j hq0 hj
  · exact h.spawnSettled p _ ci r hq0 hq hr
  · obtain ⟨q, hq', hk⟩ := hS p hpS
    rw [hq0] at hq'; cases hq'
    simp only [QueuedPromise.resolve_request, hk] at hq
    cases hq

/-- `handleSignOut` keeps `Inv`: it only empties the queues. -/
theorem Inv.handleSignOut (h : Inv c) : Inv c.handleSignOut :=
  { h with resolveQueue := by simp, spawnQueue := by simp, spawnNodup := List.nodup_nil }

/-- Writing an existing promise's record keeps `Inv` when its kind is kept, a queued request
stays pending and unstarted, and the record satisfies the three history facts. -/
theorem Inv.setPromise {q q' : QueuedPromise} (h : Inv c) (hp : c.promises p = some q)
    (hreq : q'.request = q.request)
    (hqueued : p ∈ c.spawnQueue → q'.settledWith = none ∧ q'.spawned = none)
    (hunsp : q'.request = .resolveOnNext → q'.spawned = none)
    (hres : q'.request = .resolveOnNext → q'.settledWith ≠ none → ∃ T t b, q'.resolvedBy = some T ∧
      c.tasks T = some t ∧ t.beganAt = some b ∧ p < b ∧ t.pastRun = true)
    (hsby : ∀ j, q'.spawned = some j →
      ∃ t, c.tasks j = some t ∧ p < t.createdAt ∧ t.args = spawnArgs q'.request.checkIntegrity)
    (hsset : ∀ ci r, q'.request = .forceSpawnNew ci → q'.settledWith = some r →
      ∃ j t, q'.spawned = some j ∧ c.tasks j = some t ∧ t.status = .settled r) :
    Inv (c.setPromise p q') := by
  have hlt := h.lt_nextPromise hp
  have at_p : ∀ {p' q0}, (c.setPromise p q').promises p' = some q0 →
      (p' = p ∧ q0 = q') ∨ (p' ≠ p ∧ c.promises p' = some q0) := by
    intro p' q0 hp'
    simp only [Conf.setPromise, Function.update_apply] at hp'
    split_ifs at hp' with he
    · cases hp'; exact .inl ⟨he, rfl⟩
    · exact .inr ⟨he, hp'⟩
  have kind : ∀ {p' q0}, c.promises p' = some q0 →
      ∃ q1, (c.setPromise p q').promises p' = some q1 ∧ q1.request = q0.request := by
    intro p' q0 hp'
    by_cases he : p' = p
    · subst he; rw [hp] at hp'; cases hp'; exact ⟨q', by simp, hreq⟩
    · exact ⟨q0, by simp [Function.update_apply, he, hp'], rfl⟩
  refine ⟨h.taskFresh, fun p' hp' => ?_, fun p' hp' => ?_, fun p' hp' => ?_, h.spawnNodup,
    h.notBegun, fun k t0 hk p' hp' => ?_, fun p' q0 hp' hq => ?_, fun p' q0 hp' hq hs => ?_,
    fun p' q0 j hp' hj => ?_, fun p' q0 ci r hp' hq hr => ?_⟩
  · simp only [Conf.setPromise] at hp'
    simp [Function.update_apply, show p' ≠ p by omega, h.promiseFresh p' hp']
  · obtain ⟨q0, hq0, hk⟩ := h.resolveQueue p' hp'
    obtain ⟨q1, hq1, hk1⟩ := kind hq0
    exact ⟨q1, hq1, hk1.trans hk⟩
  · obtain ⟨q0, ci, hq0, hk, hrest⟩ := h.spawnQueue p' hp'
    by_cases he : p' = p
    · subst he; rw [hp] at hq0; cases hq0
      exact ⟨q', ci, by simp, hreq.trans hk, hqueued hp'⟩
    · exact ⟨q0, ci, by simp [Function.update_apply, he, hq0], hk, hrest⟩
  · obtain ⟨⟨q0, hq0, hk'⟩, hb⟩ := h.snapshot k t0 hk p' hp'
    obtain ⟨q1, hq1, hk1⟩ := kind hq0
    exact ⟨⟨q1, hq1, hk1.trans hk'⟩, hb⟩
  all_goals rcases at_p hp' with ⟨rfl, rfl⟩ | ⟨-, hp'⟩
  · exact hunsp hq
  · exact h.onNextUnspawned p' q0 hp' hq
  · exact hres hq hs
  · exact h.onNextResolved p' q0 hp' hq hs
  · exact hsby j hj
  · exact h.spawnedBy p' q0 j hp' hj
  · exact hsset ci r hq hr
  · exact h.spawnSettled p' q0 ci r hp' hq hr

/-- `popSpawnQueue` keeps `Inv`: the request it starts an invocation for leaves the queue,
and the invocation is called after it with its `checkIntegrity`. -/
theorem Inv.popSpawnQueue (h : Inv c) : Inv c.popSpawnQueue.1 := by
  unfold Conf.popSpawnQueue
  split
  · exact h
  · rename_i p rest heq
    have hmem : p ∈ c.spawnQueue := by rw [heq]; exact .head _
    have hnd := heq ▸ h.spawnNodup
    have h1 : Inv { c with spawnQueue := rest } :=
      { h with spawnQueue := fun p' hp' => h.spawnQueue p' (by rw [heq]; exact .tail _ hp'),
               spawnNodup := (List.nodup_cons.mp hnd).2 }
    obtain ⟨q, ci, hq, hk, hs, hsp⟩ := h.spawnQueue p hmem
    simp only [hq]
    have h2 := h1.sync (spawnArgs q.request.checkIntegrity)
    refine h2.setPromise (q := q) (by simpa using hq) rfl (fun hm => ?_) (fun hr => ?_)
      (fun hr => ?_) (fun j hj => ?_) (fun ci' r _ hr => ?_)
    · exact absurd hm (List.nodup_cons.mp hnd).1
    · rw [hk] at hr; cases hr
    · rw [hk] at hr; cases hr
    · simp only [Option.some.injEq] at hj; subst hj
      exact ⟨Conf.invocation { c with spawnQueue := rest } (spawnArgs q.request.checkIntegrity),
        by simp, by simpa using h.lt_nextPromise hq, by simp⟩
    · simp [hs] at hr

/-- What `settleSpawnRequest` does: nothing, or settle a pending request as the invocation
started for it settled. -/
theorem settleSpawnRequest_cases (c : Conf) (p : Nat) :
    c.settleSpawnRequest p = c ∨ ∃ q j t r, c.promises p = some q ∧ q.settledWith = none ∧
      q.spawned = some j ∧ c.tasks j = some t ∧ t.status = .settled r ∧
      c.settleSpawnRequest p = c.setPromise p { q with settledWith := some r } := by
  unfold Conf.settleSpawnRequest
  split
  next q hp =>
    split
    next j hs hsp =>
      split
      next r hj =>
        obtain ⟨t, ht, hst⟩ := Option.map_eq_some'.mp hj
        exact .inr ⟨q, j, t, r, hp, hs, hsp, ht, hst, rfl⟩
      next => exact .inl rfl
    next => exact .inl rfl
  next => exact .inl rfl

/-- `settleSpawnRequest` keeps `Inv`: a request settles as its started invocation did. -/
theorem Inv.settleSpawnRequest (h : Inv c) (p : Nat) : Inv (c.settleSpawnRequest p) := by
  rcases settleSpawnRequest_cases c p with he | ⟨q, j, t, r, hp, _, hsp, hjt, hst, he⟩
  · rw [he]; exact h
  rw [he]
  have unsp : q.request ≠ .resolveOnNext := fun hr => by
    have := h.onNextUnspawned p q hp hr; rw [hsp] at this; cases this
  refine h.setPromise hp rfl (fun hm => ?_) (fun hr => absurd hr unsp) (fun hr => absurd hr unsp)
    (fun j' hj' => h.spawnedBy p q j' hp hj') (fun _ r' _ hr => ?_)
  · obtain ⟨q0, _, hq0, _, _, hsp0⟩ := h.spawnQueue p hm
    rw [hp] at hq0; cases hq0; rw [hsp] at hsp0; cases hsp0
  · simp only [Option.some.injEq] at hr; subst hr
    exact ⟨j, t, hsp, hjt, hst⟩

/-- Moving a suspended invocation on, with its arguments and stamps kept, keeps `Inv`. -/
theorem Inv.advance {pc : Pc} (h : Inv c) (ht : c.tasks i = some t) (hpc : t.status = .suspended pc)
    (hsame : t'.args = t.args ∧ t'.createdAt = t.createdAt ∧ t'.beganAt = t.beganAt ∧
      t'.pastRun = t.pastRun ∧ t'.inTimeResolveQueue = t.inTimeResolveQueue)
    (hnb : ∀ pc', t'.status = .suspended pc' → pc'.beforeBegin = true → pc.beforeBegin = true) :
    Inv (c.setTask i t') := by
  obtain ⟨h1, h2, h3, h4, h5⟩ := hsame
  refine h.setTask ht h1 h2 (fun b hb => h3.trans hb) (fun hr => h4.trans hr)
    (fun r hr => by rw [hpc] at hr; cases hr) (fun pc' hs hb => ?_) (fun p hp => ?_)
  · rw [h3]; exact h.notBegun i t pc ht hpc (hnb pc' hs hb)
  · rw [h5] at hp; rw [h3]; exact h.snapshot i t ht p hp

/-- `settleInvocation` keeps `Inv`. -/
theorem Inv.settleInvocation (h : Inv c) (i : Nat) : Inv (c.settleInvocation i) := by
  unfold Conf.settleInvocation
  split
  · rename_i t ht
    have key : ∀ r, (∀ r', t.status ≠ .settled r') → (∀ pc, t.status ≠ .suspended pc) →
        Inv (c.setTask i { t with status := .settled r }) := fun r h1 _ =>
      h.setTask ht rfl rfl (fun _ hb => hb) id (fun r' hr => absurd hr (h1 r'))
        nofun (fun p hp => h.snapshot i t ht p hp)
    split
    · rename_i p hst
      split
      · exact key _ (by simp [hst]) (by simp [hst])
      · exact h
    · rename_i j hst
      split
      · exact key _ (by simp [hst]) (by simp [hst])
      · exact h
    · exact h
  · exact h

theorem persistPayloads_eq (c : Conf) (ps : List Item) :
    c.persistPayloads ps = { c with saved := c.saved ++ ps } := by
  unfold Conf.persistPayloads; split <;> simp_all

theorem popPayloadsNeedingPreSyncSave_fst (c : Conf) (src : List Item) :
    ∃ d, (c.popPayloadsNeedingPreSyncSave src).1 = { c with lastPreSyncSaveDate := d } := by
  unfold Conf.popPayloadsNeedingPreSyncSave; split
  · exact ⟨_, rfl⟩
  · exact ⟨_, rfl⟩

/-- The invocation at `i` is still there after `sync` starts another. -/
theorem sync_tasks_of_some (h : Inv c) (ht : c.tasks i = some t) (a : SyncArgs) :
    (c.sync a).1.tasks i = some t := by
  simp [Function.update_apply, Nat.ne_of_lt (h.lt_nextTask ht), ht]

theorem Inv.setSyncInProgress (h : Inv c) (b : Bool) : Inv { c with syncInProgress := b } :=
  h.congr rfl rfl rfl rfl rfl rfl

/-- Lines :450–454 keep `Inv`. -/
theorem Inv.drainQueues (h : Inv c) : Inv c.drainQueues := by
  unfold Conf.drainQueues
  dsimp only
  split
  · exact h.popSpawnQueue.sync {}
  · exact h.popSpawnQueue

/-- The record an invocation gets when its run completes. -/
theorem Inv.pastRun (h : Inv c) (ht : c.tasks i = some t) (hpc : t.status = .suspended .run) :
    Inv (c.setTask i { t with pastRun := true, status := .suspended .completion }) :=
  h.setTask ht rfl rfl (fun _ hb => hb) (fun _ => rfl) (fun r hr => by rw [hpc] at hr; cases hr)
    (fun _ hs hb => by simp only [Status.suspended.injEq] at hs; subst hs; simp [Pc.beforeBegin] at hb)
    (fun p hp => h.snapshot i t ht p hp)

/-- The in-time callbacks of an invocation whose run completed keep `Inv`. -/
theorem Inv.resolveAfterRun (h : Inv c) (ht : c.tasks i = some t) (hpc : t.status = .suspended .run) :
    Inv ({ c.setTask i { t with pastRun := true, status := .suspended .completion }
      with syncInProgress := false }.resolveInTime i t.inTimeResolveQueue) :=
  ((h.pastRun ht hpc).setSyncInProgress false).resolveInTime
    (fun p hp => (h.snapshot i t ht p hp).1) (fun p hp => by
      obtain ⟨b, hb, hpb⟩ := (h.snapshot i t ht p hp).2
      exact ⟨{ t with pastRun := true, status := .suspended .completion }, b, by simp, hb, hpb, rfl⟩)

/-- The code after `operation.run()` keeps `Inv`. -/
theorem Inv.afterRun (h : Inv c) (ht : c.tasks i = some t) (hpc : t.status = .suspended .run) :
    Inv (c.afterRun i t) :=
  (h.resolveAfterRun ht hpc).drainQueues.congr rfl rfl rfl rfl rfl rfl

/-- The code before `setDidBegin()` and after it, up to the run (:367–399), keeps `Inv`. -/
theorem Inv.afterPersist (h : Inv c) (ht : c.tasks i = some t) (hpc : t.status = .suspended .persist) :
    Inv (c.afterPersist i t) := by
  have same : ∀ s, ({ t with status := s } : Task).args = t.args ∧
      ({ t with status := s } : Task).createdAt = t.createdAt ∧
      ({ t with status := s } : Task).beganAt = t.beganAt ∧
      ({ t with status := s } : Task).pastRun = t.pastRun ∧
      ({ t with status := s } : Task).inTimeResolveQueue = t.inTimeResolveQueue :=
    fun _ => ⟨rfl, rfl, rfl, rfl, rfl⟩
  unfold Conf.afterPersist
  simp only
  split
  · split
    · exact h.timingStrategyResolveOnNext.advance (by simpa using ht) hpc (same _)
        nofun
    · split
      · exact (h.timingStrategyForceSpawnNew _).advance (by simpa using ht) hpc (same _)
          nofun
      · exact h.advance ht hpc (same _) nofun
  · refine (show Inv { c with syncInProgress := true } from
      h.congr rfl rfl rfl rfl rfl rfl).setTask ht
      rfl rfl (fun b hb => ?_) id (fun r hr => by rw [hpc] at hr; cases hr)
      (fun _ hs hb => by cases hs; simp [Pc.beforeBegin] at hb) (fun p hp => ?_)
    · rw [h.notBegun i t .persist ht hpc rfl] at hb; cases hb
    · exact ⟨h.resolveQueue p hp, _, rfl, h.lt_nextPromise (h.resolveQueue p hp).choose_spec.1⟩

/-- `return this.sync()` keeps `Inv`. -/
theorem Inv.chainSync (h : Inv c) (ht : c.tasks i = some t) (hpc : t.status = .suspended pc) :
    Inv (c.chainSync i t) :=
  (h.sync {}).advance (sync_tasks_of_some h ht {}) hpc ⟨rfl, rfl, rfl, rfl, rfl⟩
    nofun

/-- Moving a suspended invocation on in a configuration with the same tasks, promises,
queues and counters keeps `Inv`, when only the status and the locals change. -/
theorem Inv.advance' {c' : Conf} {pc : Pc} (h : Inv c) (ht : c.tasks i = some t)
    (hpc : t.status = .suspended pc) (b1 : c'.tasks = c.tasks) (b2 : c'.promises = c.promises)
    (b3 : c'.resolveQueue = c.resolveQueue) (b4 : c'.spawnQueue = c.spawnQueue)
    (b5 : c'.nextTask = c.nextTask) (b6 : c'.nextPromise = c.nextPromise)
    (a1 : t'.args = t.args) (a2 : t'.createdAt = t.createdAt) (a3 : t'.beganAt = t.beganAt)
    (a4 : t'.pastRun = t.pastRun) (a5 : t'.inTimeResolveQueue = t.inTimeResolveQueue)
    (hnb : ∀ pc', t'.status = .suspended pc' → pc'.beforeBegin = true → pc.beforeBegin = true) :
    Inv (c'.setTask i t') :=
  (h.congr b1 b2 b3 b4 b5 b6).advance (b1 ▸ ht) hpc ⟨a1, a2, a3, a4, a5⟩ hnb

/-- Resuming an invocation keeps `Inv`. -/
theorem Inv.resume (h : Inv c) (i : Nat) (ok : Bool) : Inv (c.resume i ok) := by
  unfold Conf.resume
  split
  · rename_i t ht
    split
    · rename_i pc hpc
      split
      · cases pc with
        | persist => exact h.afterPersist ht hpc
        | run => exact h.afterRun ht hpc
        | initialNotify => exact h.chainSync ht hpc
        | itemsNeedingSync =>
          obtain ⟨d, hd⟩ := popPayloadsNeedingPreSyncSave_fst c
            (t.items.filter fun it => !(it.neverSynced && it.deleted))
          simp only [Conf.continueFrom, Conf.afterItemsNeedingSync, hd]
          apply h.advance' ht hpc <;> first | rfl | exact fun _ _ _ => rfl
        | recheck =>
          simp only [Conf.continueFrom]
          split
          · exact h.chainSync ht hpc
          · apply h.advance' ht hpc <;> first | rfl | (intro _ hs; simp at hs)
        | _ =>
          simp only [Conf.continueFrom, Conf.afterOnline, Conf.afterNeverSyncedDeleted,
            Conf.afterPresaveFilter, persistPayloads_eq, Conf.handleNeverSyncedDeleted,
            Conf.afterMapNeverSyncedDeleted, Conf.mapPayloadsToLocalItems]
          repeat' split
          all_goals
            apply h.advance' ht hpc <;>
              first | rfl | exact fun _ _ _ => rfl |
                (intro _ hs hb; simp only [Status.suspended.injEq] at hs; subst hs
                 first | rfl | simp [Pc.beforeBegin] at hb) |
                (intro _ hs; simp at hs)
      · apply h.advance' ht hpc <;> first | rfl | (intro _ hs; simp at hs)
    · exact h
  · exact h

/-- Every step keeps `Inv`. -/
theorem Inv.step (h : Inv c) (a : Act) : Inv (c.step a) := by
  cases a with
  | sync a => exact h.sync a
  | resume i ok => exact h.resume i ok
  | integritySync i =>
    simp only [Conf.step]
    split
    · exact h.sync _
    · exact h
  | settleInvocation i => exact h.settleInvocation i
  | settleSpawnRequest p => exact h.settleSpawnRequest p
  | handleSignOut => exact h.handleSignOut
  | lockSyncing | unlockSyncing | mapItem _ | loadDatabase | tick =>
    exact h.congr rfl rfl rfl rfl rfl rfl

/-- A freshly constructed manager satisfies `Inv`. -/
theorem inv_init (items : List Item) (now : Nat) : Inv (Conf.init items now) :=
  ⟨fun _ _ => rfl, fun _ _ => rfl, by simp [Conf.init], by simp [Conf.init], List.nodup_nil,
    fun _ _ _ h => (nomatch h), fun _ _ h => (nomatch h), fun _ _ h => (nomatch h),
    fun _ _ h => (nomatch h), fun _ _ _ h => (nomatch h), fun _ _ _ _ h => (nomatch h)⟩

/-- Every configuration reachable from a fresh manager satisfies `Inv`. -/
theorem inv_run (items : List Item) (now : Nat) (acts : List Act) :
    Inv ((Conf.init items now).run acts) :=
  run_induction (fun _ => True) (fun _ a _ h => h.step a) acts (fun _ _ => trivial)
    (inv_init items now)

end Conf

end Snjs.Sync
