import Snjs.KeyRecovery.Queue
import Mathlib.Data.List.Nodup

/-!
# Each promise of a queue item settles at most once

A `DecryptionQueueItem`'s promise is resolved by the `popQueueItem` started for it, which took
its `resolve` when it started (migration_service.ts:559): on cancel (:605), on success (:633)
or on failure (:645), or by the `popQueueItem` of another item whose root key has the same
params (:636). Its callback runs alongside, except on failure, where the item goes back to the
front of the queue with a new promise (`readdQueueItem`, :480–486). No promise is resolved
twice and no callback runs twice (`queue_items_settle_at_most_once`). The argument:

* each item in the queue, each item a pending `popQueueItem` was started for, and each matching
  item one took out of the queue has a pending promise and an uncalled callback (`Live`), and
  no item is held twice (`AtMostOnce`);
* a pending `popQueueItem` is awaited by the loop, which holds the guard; `Exclusive` makes
  the holder unique, so at most one `popQueueItem` is pending, and none while the holder is
  doing anything else (`AtMostOnce.noPop`);
* a `popQueueItem` settles what it holds and ends in the same step, so nobody holds what it
  settled.

That each promise is resolved at least once fails: see `queue_items_dropped_or_misreported`.
-/

namespace Snjs.KeyRecovery

/-- The promises of an item whose `resolve` has been called. -/
def QueueItem.settled (it : QueueItem) : List Nat := it.resolved.map (·.1)

/-- An item once its current promise is resolved with `success` and its callback, if it
carries one, called. -/
def QueueItem.settleWith (it : QueueItem) (success : Bool) : QueueItem :=
  { it with resolved := it.resolved ++ [(it.gen, success)]
            called := if it.callback then it.called ++ [success] else it.called }

/-- An invocation that places no demand on the queue: not a `popQueueItem`, and not a
handler about to sign in with a queued item's params. -/
def Proc.inert : Proc → Bool
  | .pop .. => false
  | .handler _ (.signIn _) => false
  | _ => true

theorem QueueItem.history_settleWith {it : QueueItem} (hn : it.settled.Nodup)
    (hle : ∀ g ∈ it.settled, g ≤ it.gen) (hg : it.gen ∉ it.settled) (hc : it.called = [])
    (b : Bool) :
    (it.settleWith b).settled.Nodup ∧ (∀ g ∈ (it.settleWith b).settled, g ≤ (it.settleWith b).gen) ∧
      (it.settleWith b).called.length ≤ 1 := by
  have hs : (it.settleWith b).settled = it.settled ++ [it.gen] := by
    simp [QueueItem.settleWith, QueueItem.settled]
  refine ⟨hs ▸ List.nodup_append.2 ⟨hn, List.nodup_singleton _, by simpa using hg⟩,
    fun g hg' => ?_, ?_⟩
  · rw [hs, List.mem_append, List.mem_singleton] at hg'
    rcases hg' with hg' | rfl
    · exact hle g hg'
    · exact Nat.le_refl _
  · simp only [QueueItem.settleWith, hc]; split <;> simp

namespace Svc

/-- Item `q` exists, its current promise is pending and its callback has not been called. -/
def Live (s : Svc) (q : Nat) : Prop :=
  ∃ it, s.queueItems q = some it ∧ it.gen ∉ it.settled ∧ it.called = []

/-- What a pending `popQueueItem` at `pc` for item `q` holds besides `q`: at `save`, the
matching items it took out of the queue. -/
def PopOwns (s : Svc) (q : Nat) : PopPc → Prop
  | .save _ matching => matching.Nodup ∧ q ∉ matching ∧
      ∀ m ∈ matching, s.Live m ∧ m ∉ s.decryptionQueue
  | _ => True

/-- What an invocation needs of the state: a `popQueueItem` of `q`'s promise `g` owns that
promise, still pending, with `q` out of the queue; a sign-in started with `q`'s params finds
`q` still queued. -/
def Owns (s : Svc) : Proc → Prop
  | .pop q g pc => (∃ it, s.queueItems q = some it ∧ it.gen = g) ∧ s.Live q ∧
      q ∉ s.decryptionQueue ∧ s.PopOwns q pc
  | .handler _ (.signIn q) => q ∈ s.decryptionQueue
  | _ => True

/-- Each promise of an item settles at most once and its callback runs at most once. -/
structure AtMostOnce (s : Svc) : Prop where
  fresh : ∀ q, s.nextItem ≤ q → s.queueItems q = none
  history : ∀ q it, s.queueItems q = some it →
    it.settled.Nodup ∧ (∀ g ∈ it.settled, g ≤ it.gen) ∧ it.called.length ≤ 1
  queued : ∀ q ∈ s.decryptionQueue, s.Live q
  nodup : s.decryptionQueue.Nodup
  owns : ∀ i p, s.procs i = some p → s.Owns p
  awaited : ∀ i q g pc, s.procs i = some (.pop q g pc) →
    ∃ j cb, s.procs j = some (.handler cb (.awaitItem q g))
  onePop : ∀ i j q g pc q' g' pc', s.procs i = some (.pop q g pc) →
    s.procs j = some (.pop q' g' pc') → i = j

variable {s : Svc} {i : Nat}

theorem Owns.of_inert {p : Proc} (hp : p.inert) : s.Owns p := by
  cases p with
  | pop => cases hp
  | handler cb pc => cases pc <;> trivial
  | continuation | remove => trivial

/-- `AtMostOnce` reads the items, their count, the queue and the invocations. -/
theorem AtMostOnce.congr {s' : Svc} (h : AtMostOnce s) (h1 : s'.queueItems = s.queueItems)
    (h2 : s'.nextItem = s.nextItem) (h3 : s'.decryptionQueue = s.decryptionQueue)
    (h4 : s'.procs = s.procs) : AtMostOnce s' := by
  have hl : s'.Live = s.Live := by funext q; simp only [Live, h1]
  have ho : s'.Owns = s.Owns := by
    funext p; cases p with
    | pop q g pc => cases pc <;> simp only [Owns, PopOwns, h1, h3, hl]
    | handler cb pc => cases pc <;> simp only [Owns, h3]
    | continuation | remove => rfl
  obtain ⟨a1, a2, a3, a4, a5, a6, a7⟩ := h
  exact ⟨h2 ▸ h1 ▸ a1, h1 ▸ a2, hl ▸ h3 ▸ a3, h3 ▸ a4, ho ▸ h4 ▸ a5, h4 ▸ a6, h4 ▸ a7⟩

/-- Writing invocation `i`'s state. The new state's demands hold; a new `popQueueItem` state
is awaited by another invocation and is the only one; and an awaiting loop is not removed
while its `popQueueItem` runs. -/
theorem AtMostOnce.setProc (h : AtMostOnce s) {np : Option Proc}
    (hown : ∀ p, np = some p → s.Owns p)
    (hpop : ∀ q g pc, np = some (.pop q g pc) →
      (∃ j cb, j ≠ i ∧ s.procs j = some (.handler cb (.awaitItem q g))) ∧
      ∀ k q' g' pc', s.procs k = some (.pop q' g' pc') → k = i)
    (hold : ∀ cb q g, s.procs i = some (.handler cb (.awaitItem q g)) →
      np = s.procs i ∨ ∀ k pc, s.procs k ≠ some (.pop q g pc)) :
    AtMostOnce (s.setProc i np) := by
  refine ⟨h.fresh, h.history, h.queued, h.nodup, fun k p hk => ?_, fun k q g pc hk => ?_,
    fun a b q g pc q' g' pc' ha hb => ?_⟩
  · simp only [Svc.setProc, Function.update_apply] at hk
    split_ifs at hk
    · exact hown p hk
    · exact h.owns k p hk
  · simp only [Svc.setProc, Function.update_apply] at hk ⊢
    split_ifs at hk with hki
    · obtain ⟨⟨j, cb, hji, hj⟩, -⟩ := hpop q g pc hk
      exact ⟨j, cb, by rw [if_neg hji]; exact hj⟩
    · obtain ⟨j, cb, hj⟩ := h.awaited k q g pc hk
      by_cases hji : j = i
      · subst hji
        rcases hold cb q g hj with hnp | hno
        · exact ⟨j, cb, by rw [if_pos rfl, hnp, hj]⟩
        · exact absurd hk (hno k pc)
      · exact ⟨j, cb, by rw [if_neg hji]; exact hj⟩
  · simp only [Svc.setProc, Function.update_apply] at ha hb
    split_ifs at ha hb with hai hbi hbi
    · exact hai.trans hbi.symm
    · exact hai.trans ((hpop q g pc ha).2 b q' g' pc' hb).symm
    · exact ((hpop q' g' pc' hb).2 a q g pc ha).trans hbi.symm
    · exact h.onePop a b q g pc q' g' pc' ha hb

/-- The common case: the new state is inert and the old one no awaiting loop, or a loop
whose `popQueueItem` is gone. -/
theorem AtMostOnce.setInert (h : AtMostOnce s) {np : Option Proc}
    (hnp : np.all Proc.inert = true)
    (hold : ∀ cb q g, s.procs i = some (.handler cb (.awaitItem q g)) →
      ∀ k pc, s.procs k ≠ some (.pop q g pc)) :
    AtMostOnce (s.setProc i np) := by
  refine h.setProc (fun p hp => ?_) (fun q g pc hp => ?_) fun cb q g hi => .inr (hold cb q g hi)
  · subst hp; exact Owns.of_inert hnp
  · subst hp; cases hnp

/-- Invocation `i`, not an awaiting loop, moves on to an inert state or ends. -/
theorem AtMostOnce.release {p0 : Proc} (h : AtMostOnce s) (hi : s.procs i = some p0)
    (hw : ∀ cb q g, p0 ≠ .handler cb (.awaitItem q g)) {np : Option Proc}
    (hnp : np.all Proc.inert = true) : AtMostOnce (s.setProc i np) :=
  h.setInert hnp fun cb q g hi' => absurd (Option.some.inj (hi.symm.trans hi')) (hw cb q g)

/-- Starting an inert invocation. -/
theorem AtMostOnce.spawn (h : AtMostOnce s) {p : Proc} (hp : p.inert = true)
    (hfresh : ∀ k, s.nextProc ≤ k → s.procs k = none) : AtMostOnce (s.spawn p) := by
  have hne : ∀ k p', s.procs k = some p' → k ≠ s.nextProc := fun k p' hk hkn => by
    rw [hfresh k (Nat.le_of_eq hkn.symm)] at hk; cases hk
  refine ⟨h.fresh, h.history, h.queued, h.nodup, fun k p' hk => ?_, fun k q g pc hk => ?_,
    fun a b q g pc q' g' pc' ha hb => ?_⟩
  · simp only [Svc.spawn, Function.update_apply] at hk
    split_ifs at hk
    · cases hk; exact Owns.of_inert hp
    · exact h.owns k p' hk
  · simp only [Svc.spawn, Function.update_apply] at hk ⊢
    split_ifs at hk
    · cases hk; cases hp
    · obtain ⟨j, cb, hj⟩ := h.awaited k q g pc hk
      exact ⟨j, cb, by rw [if_neg (hne j _ hj)]; exact hj⟩
  · simp only [Svc.spawn, Function.update_apply] at ha hb
    split_ifs at ha hb with h1 h2 h2
    · exact h1.trans h2.symm
    all_goals first | (cases ha; cases hp) | (cases hb; cases hp) |
      exact h.onePop a b q g pc q' g' pc' ha hb

/-- No `popQueueItem` is pending. -/
def NoPop (s : Svc) : Prop := ∀ k q g pc, s.procs k ≠ some (.pop q g pc)

/-- Writing an item that no invocation and no queue entry refers to, with a history that
settles each promise once and calls back once. -/
theorem AtMostOnce.setItem (h : AtMostOnce s) (hnp : s.NoPop) {q : Nat} {it it' : QueueItem}
    (hq : s.queueItems q = some it) (hout : q ∉ s.decryptionQueue)
    (hh : it'.settled.Nodup ∧ (∀ g ∈ it'.settled, g ≤ it'.gen) ∧ it'.called.length ≤ 1) :
    AtMostOnce (s.setItem q it') := by
  have hlt : q < s.nextItem := Nat.lt_of_not_le fun hle => by rw [h.fresh q hle] at hq; cases hq
  have hlive : ∀ m, m ≠ q → (s.setItem q it').Live m = s.Live m := fun m hm => by
    simp only [Live, Svc.setItem, Function.update_noteq hm]
  refine ⟨fun k hk => ?_, fun k it0 hk => ?_, fun m hm => ?_, h.nodup, fun k p hk => ?_,
    h.awaited, h.onePop⟩
  · simp only [Svc.setItem] at hk ⊢
    rw [Function.update_noteq (by omega)]
    exact h.fresh k hk
  · simp only [Svc.setItem, Function.update_apply] at hk
    split_ifs at hk
    · cases hk; exact hh
    · exact h.history k it0 hk
  · rw [hlive m (fun e => hout (e ▸ hm))]
    exact h.queued m hm
  · have ho := h.owns k p hk
    cases p with
    | pop q g pc => exact absurd hk (hnp k q g pc)
    | handler cb pc => cases pc <;> exact ho
    | continuation | remove => trivial

/-- `resolve` of item `q`'s current promise and a call of its callback with `success`: the
body of the loop in `resolveMatching`. -/
def settle (s : Svc) (q : Nat) (success : Bool) : Svc :=
  match s.queueItems q with
  | some it => (s.resolveItem q it.gen success).callBack q success
  | none => s

theorem resolveMatching_eq (s : Svc) (matching : List Nat) :
    s.resolveMatching matching = matching.foldl (fun s m => s.settle m true) s := rfl

/-- What `settle` does: one more resolution of the item's current promise and, when it carries
the callback, one more call, which starts `removeFromUndecryptables` on success. -/
theorem settle_eq {q : Nat} {it : QueueItem} (hit : s.queueItems q = some it) (b : Bool) :
    s.settle q b =
      if it.callback && b then (s.setItem q (it.settleWith b)).spawn (.remove it.key.uuid .read)
      else s.setItem q (it.settleWith b) := by
  cases hc : it.callback <;> cases b <;>
    simp [settle, resolveItem, callBack, hit, hc, setItem, Function.update_idem,
      QueueItem.settleWith]

theorem AtMostOnce.settle (h : AtMostOnce s) (hx : Exclusive s) (hnp : s.NoPop) {q : Nat}
    (hq : s.Live q) (hout : q ∉ s.decryptionQueue) (b : Bool) :
    AtMostOnce (s.settle q b) ∧ Exclusive (s.settle q b) ∧ (s.settle q b).NoPop ∧
      (∀ m, m ≠ q → (s.settle q b).queueItems m = s.queueItems m) ∧
      (s.settle q b).decryptionQueue = s.decryptionQueue := by
  obtain ⟨it, hit, hg, hc⟩ := hq
  obtain ⟨hn, hle, -⟩ := h.history q it hit
  have h1 := h.setItem hnp hit hout (it.history_settleWith hn hle hg hc b)
  have hx1 : Exclusive (s.setItem q (it.settleWith b)) := hx.setItem q _
  have hq' : ∀ m, m ≠ q → (s.setItem q (it.settleWith b)).queueItems m = s.queueItems m :=
    fun m hm => Function.update_noteq hm _ _
  rw [settle_eq hit]
  split
  · refine ⟨h1.spawn rfl hx1.fresh, hx1.spawn rfl, fun k q g pc => ?_, hq', rfl⟩
    simp only [Svc.spawn, Function.update_apply]
    split_ifs
    · simp
    · exact hnp k q g pc
  · exact ⟨h1, hx1, hnp, hq', rfl⟩

/-- Settling, in turn, distinct items that are live and out of the queue. -/
theorem AtMostOnce.settleAll (b : Bool) :
    ∀ (ms : List Nat) {s : Svc}, AtMostOnce s → Exclusive s → s.NoPop → ms.Nodup →
      (∀ m ∈ ms, s.Live m ∧ m ∉ s.decryptionQueue) →
      AtMostOnce (ms.foldl (fun s m => s.settle m b) s) ∧
        Exclusive (ms.foldl (fun s m => s.settle m b) s)
  | [], _, h, hx, _, _, _ => ⟨h, hx⟩
  | m :: ms, s, h, hx, hnp, hn, hms => by
    rw [List.nodup_cons] at hn
    obtain ⟨hl, hout⟩ := hms m (List.mem_cons_self _ _)
    obtain ⟨h1, hx1, hnp1, hq1, hqueue1⟩ := h.settle hx hnp hl hout b
    refine AtMostOnce.settleAll b ms h1 hx1 hnp1 hn.2 fun m' hm' => ?_
    have hne : m' ≠ m := fun e => hn.1 (e ▸ hm')
    obtain ⟨hl', hout'⟩ := hms m' (List.mem_cons_of_mem _ hm')
    simp only [Live, hq1 m' hne, hqueue1]
    exact ⟨hl', hout'⟩

/-! ## Who can be pending -/

/-- While an invocation holds the guard, no other invocation is about to sign in. -/
theorem Exclusive.no_signIn {p0 : Proc} (hx : Exclusive s) (hi : s.procs i = some p0)
    (hh : p0.holdsGuard) (hnot : ∀ cb q, p0 ≠ .handler cb (.signIn q)) :
    ∀ k cb q, s.procs k ≠ some (.handler cb (.signIn q)) := fun k cb q hk => by
  have := hx.unique k i _ p0 hk hi rfl hh
  subst this
  rw [hi] at hk
  exact hnot cb q (Option.some.inj hk)

/-- A pending `popQueueItem` is awaited by the guard's holder, so while the holder does
something else, or awaits a promise already resolved, none is pending. -/
theorem AtMostOnce.noPop {p0 : Proc} (h : AtMostOnce s) (hx : Exclusive s)
    (hi : s.procs i = some p0) (hh : p0.holdsGuard)
    (hnot : ∀ cb q g, p0 = .handler cb (.awaitItem q g) →
      ∃ it, s.queueItems q = some it ∧ g ∈ it.settled) : s.NoPop := fun k q g pc hk => by
  obtain ⟨j, cb, hj⟩ := h.awaited k q g pc hk
  have := hx.unique j i _ p0 hj hi rfl hh
  subst this
  rw [hi] at hj
  obtain ⟨it, hit, hg⟩ := hnot cb q g (Option.some.inj hj)
  obtain ⟨⟨it0, hit0, rfl⟩, ⟨it', hit', hg', -⟩, -⟩ := h.owns k _ hk
  rw [hit] at hit0 hit'
  cases hit0; cases hit'
  exact hg' hg

/-! ## The queue -/

/-- Keeping part of the queue, with no sign-in waiting for a queued item. -/
theorem AtMostOnce.sublistQueue (h : AtMostOnce s)
    (hns : ∀ k cb q, s.procs k ≠ some (.handler cb (.signIn q))) {l : List Nat}
    (hl : l.Sublist s.decryptionQueue) : AtMostOnce { s with decryptionQueue := l } := by
  refine ⟨h.fresh, h.history, fun q hq => h.queued q (hl.subset hq), h.nodup.sublist hl,
    fun k p hk => ?_, h.awaited, h.onePop⟩
  have ho := h.owns k p hk
  cases p with
  | pop q g pc =>
    obtain ⟨h1, h2, h3, h4⟩ := ho
    refine ⟨h1, h2, fun hq => h3 (hl.subset hq), ?_⟩
    cases pc with
    | save rk matching =>
      obtain ⟨m1, m2, m3⟩ := h4
      exact ⟨m1, m2, fun m hm => ⟨(m3 m hm).1, fun hq => (m3 m hm).2 (hl.subset hq)⟩⟩
    | _ => trivial
  | handler cb pc =>
    cases pc with
    | signIn q => exact absurd hk (hns k cb q)
    | _ => trivial
  | continuation | remove => trivial

/-- `addKeysToQueue` pushes a new item. -/
theorem AtMostOnce.pushKey (h : AtMostOnce s) (k : ItemsKey) (kp : KeyParams) (cb : Bool) :
    AtMostOnce (s.pushKey k kp cb) := by
  have hlt : ∀ q, s.Live q → q < s.nextItem := fun q ⟨it, hit, _⟩ =>
    Nat.lt_of_not_le fun hle => by rw [h.fresh q hle] at hit; cases hit
  have hlive : ∀ q, s.Live q → (s.pushKey k kp cb).Live q := fun q hq => by
    simpa only [Live, Svc.pushKey, Function.update_noteq (Nat.ne_of_lt (hlt q hq))] using hq
  refine ⟨fun q hq => ?_, fun q it hit => ?_, fun q hq => ?_, ?_, fun j p hj => ?_, h.awaited,
    h.onePop⟩
  · simp only [Svc.pushKey] at hq ⊢
    rw [Function.update_noteq (by omega)]
    exact h.fresh q (by omega)
  · simp only [Svc.pushKey, Function.update_apply] at hit
    split_ifs at hit
    · cases hit; simp [QueueItem.settled]
    · exact h.history q it hit
  · simp only [Svc.pushKey, List.mem_append, List.mem_singleton] at hq
    rcases hq with hq | rfl
    · exact hlive q (h.queued q hq)
    · exact ⟨⟨k, kp, cb, 0, [], []⟩, by simp [Svc.pushKey], by simp [QueueItem.settled], rfl⟩
  · exact h.nodup.append (List.nodup_singleton _) fun q hq hq' => by
      rw [List.mem_singleton.1 hq'] at hq
      exact Nat.lt_irrefl _ (hlt _ (h.queued _ hq))
  · have ho := h.owns j p hj
    have hnot : ∀ q, s.Live q → q ∉ s.decryptionQueue → q ∉ (s.pushKey k kp cb).decryptionQueue :=
      fun q hq hout hin => by
        simp only [Svc.pushKey, List.mem_append, List.mem_singleton] at hin
        rcases hin with hin | rfl
        · exact hout hin
        · exact Nat.lt_irrefl _ (hlt _ hq)
    cases p with
    | pop q g pc =>
      obtain ⟨⟨it, hit, hg⟩, h2, h3, h4⟩ := ho
      refine ⟨⟨it, ?_, hg⟩, hlive q h2, hnot q h2 h3, ?_⟩
      · simpa only [Svc.pushKey, Function.update_noteq (Nat.ne_of_lt (hlt q h2))] using hit
      · cases pc with
        | save rk matching =>
          obtain ⟨m1, m2, m3⟩ := h4
          exact ⟨m1, m2, fun m hm => ⟨hlive m (m3 m hm).1, hnot m (m3 m hm).1 (m3 m hm).2⟩⟩
        | _ => trivial
    | handler cb pc =>
      cases pc with
      | signIn q => exact List.mem_append_left _ ho
      | _ => trivial
    | continuation | remove => trivial

/-! ## `popQueueItem` -/

/-- A `popQueueItem` moves on, still pending, to a state whose demands hold. -/
theorem AtMostOnce.popNext (h : AtMostOnce s) {q g : Nat} {pc : PopPc}
    (hi : s.procs i = some (.pop q g pc)) {pc' : PopPc} (hpc : s.PopOwns q pc') :
    AtMostOnce (s.setProc i (some (.pop q g pc'))) := by
  obtain ⟨h1, h2, h3, -⟩ := h.owns i _ hi
  refine h.setProc (fun p hp => ?_) (fun q' g' pc'' hp => ?_) (fun cb q' g' hi' => ?_)
  · cases hp; exact ⟨h1, h2, h3, hpc⟩
  · cases hp
    obtain ⟨j, cb, hj⟩ := h.awaited i q g pc hi
    refine ⟨⟨j, cb, fun e => ?_, hj⟩, fun k _ _ _ hk => h.onePop k i _ _ _ _ _ _ hk hi⟩
    subst e; rw [hi] at hj; cases hj
  · rw [hi] at hi'; cases hi'

/-- `popQueueForKeyParams` run by a pending `popQueueItem`: the matching items it takes out of
the queue are live, distinct, and not its own. -/
theorem AtMostOnce.popMatching (h : AtMostOnce s) (hx : Exclusive s) {q g : Nat} {pc : PopPc}
    (hi : s.procs i = some (.pop q g pc)) (kp : KeyParams) (rk : RootKey) :
    AtMostOnce ((s.popQueueForKeyParams kp).1.setProc i
      (some (.pop q g (.save rk (s.popQueueForKeyParams kp).2)))) := by
  obtain ⟨j, cb, hj⟩ := h.awaited i q g pc hi
  have h1 : AtMostOnce (s.popQueueForKeyParams kp).1 :=
    h.sublistQueue (hx.no_signIn hj rfl fun _ _ => by simp) (List.filter_sublist _)
  obtain ⟨-, -, hout, -⟩ := h.owns i _ hi
  refine h1.popNext hi ⟨h.nodup.filter _, fun hq => hout (List.mem_filter.1 hq).1,
    fun m hm => ⟨h.queued m (List.mem_filter.1 hm).1, fun hm' => ?_⟩⟩
  have := (List.mem_filter.1 hm).2
  have := (List.mem_filter.1 hm').2
  simp_all

/-! ## The loop -/

/-- The loop starts a `popQueueItem`, awaited by the loop. -/
theorem AtMostOnce.spawnPop (h : AtMostOnce s) (hnp : s.NoPop)
    (hfresh : ∀ k, s.nextProc ≤ k → s.procs k = none) {q g j : Nat} {cb : Bool} {pc : PopPc}
    (hown : s.Owns (.pop q g pc)) (hj : s.procs j = some (.handler cb (.awaitItem q g))) :
    AtMostOnce (s.spawn (.pop q g pc)) := by
  have hne : j ≠ s.nextProc := fun e => by rw [hfresh j (Nat.le_of_eq e.symm)] at hj; cases hj
  refine ⟨h.fresh, h.history, h.queued, h.nodup, fun k p hk => ?_, fun k q' g' pc' hk => ?_,
    fun a b q1 g1 pc1 q2 g2 pc2 ha hb => ?_⟩
  · simp only [Svc.spawn, Function.update_apply] at hk
    split_ifs at hk
    · cases hk; exact hown
    · exact h.owns k p hk
  · simp only [Svc.spawn, Function.update_apply] at hk ⊢
    split_ifs at hk
    · cases hk; exact ⟨j, cb, by rw [if_neg hne]; exact hj⟩
    · exact absurd hk (hnp k q' g' pc')
  · simp only [Svc.spawn, Function.update_apply] at ha hb
    split_ifs at ha hb with h1 h2 h2
    · exact h1.trans h2.symm
    all_goals first | exact absurd ha (hnp _ _ _ _) | exact absurd hb (hnp _ _ _ _)

theorem spawn_setProc_comm (hi : i < s.nextProc) (p : Proc) (np : Option Proc) :
    (s.spawn p).setProc i np = (s.setProc i np).spawn p := by
  simp only [Svc.spawn, Svc.setProc]
  rw [Function.update_comm (Nat.ne_of_gt hi)]

/-- The loop, run by the guard's holder with no `popQueueItem` pending, on a queued item or on
none. -/
theorem AtMostOnce.loop {p0 : Proc} (h : AtMostOnce s) (hx : Exclusive s)
    (hi : s.procs i = some p0) (hh : p0.holdsGuard) (hnp : s.NoPop) (cb : Bool)
    {queueItem : Option Nat} (hq : ∀ q, queueItem = some q → q ∈ s.decryptionQueue) :
    AtMostOnce (s.loop i cb queueItem) := by
  have hlt := hx.lt_nextProc hi
  have hold : ∀ cb q g, s.procs i = some (.handler cb (.awaitItem q g)) →
      ∀ k pc, s.procs k ≠ some (.pop q g pc) := fun _ _ _ _ k _ => hnp k _ _ _
  unfold Svc.loop
  split
  · refine (h.setInert ?_ hold).spawn rfl (hx.finish hlt).fresh
    rfl
  · next q =>
    split
    · next it hit =>
      rw [spawn_setProc_comm (by exact hlt)]
      have hx1 : Exclusive (s.setProc i (some (.handler cb (.awaitItem q it.gen)))) :=
        hx.keep hi hh
      have h1 : AtMostOnce (s.setProc i (some (.handler cb (.awaitItem q it.gen)))) :=
        h.setInert rfl hold
      have hns : ∀ k cb' q', (s.setProc i (some (.handler cb (.awaitItem q it.gen)))).procs k ≠
          some (.handler cb' (.signIn q')) := fun k cb' q' hk => by
        simp only [Svc.setProc, Function.update_apply] at hk
        split_ifs at hk with hki
        · cases hk
        · exact hki (hx.unique k i _ p0 hk hi rfl hh)
      have h2 := h1.sublistQueue hns (List.erase_sublist q _)
      have hj : (s.setProc i (some (.handler cb (.awaitItem q it.gen)))).procs i =
          some (.handler cb (.awaitItem q it.gen)) := by simp [Svc.setProc]
      refine h2.spawnPop (fun k q' g' pc' hk => ?_) (hx1.congr rfl rfl rfl).fresh
        ⟨⟨it, hit, rfl⟩, h.queued q (hq q rfl), h.nodup.not_mem_erase, trivial⟩ hj
      simp only [Svc.setProc, Function.update_apply] at hk
      split_ifs at hk
      · cases hk
      · exact hnp k q' g' pc' hk
    · exact h.setInert rfl hold

/-! ## The end of a `popQueueItem` -/

/-- Putting a live item back at the front of the queue, with no `popQueueItem` pending. -/
theorem AtMostOnce.consQueue (h : AtMostOnce s) (hnp : s.NoPop) {q : Nat} (hq : s.Live q)
    (hout : q ∉ s.decryptionQueue) :
    AtMostOnce { s with decryptionQueue := q :: s.decryptionQueue } := by
  refine ⟨h.fresh, h.history, fun m hm => ?_, List.nodup_cons.2 ⟨hout, h.nodup⟩,
    fun k p hk => ?_, h.awaited, h.onePop⟩
  · rcases List.mem_cons.1 hm with rfl | hm
    · exact hq
    · exact h.queued m hm
  · have ho := h.owns k p hk
    cases p with
    | pop q g pc => exact absurd hk (hnp k q g pc)
    | handler cb pc =>
      cases pc with
      | signIn q' => exact List.mem_cons_of_mem _ ho
      | _ => trivial
    | continuation | remove => trivial

theorem nextProc_le_settle (q : Nat) (b : Bool) : s.nextProc ≤ (s.settle q b).nextProc := by
  cases hq : s.queueItems q with
  | none => simp [settle, hq]
  | some it =>
    rw [settle_eq hq]
    split
    · exact Nat.le_succ _
    · exact Nat.le_refl _

/-- Ending invocation `i` commutes with settling an item. -/
theorem setProc_settle (hi : i < s.nextProc) (q : Nat) (b : Bool) (np : Option Proc) :
    (s.settle q b).setProc i np = (s.setProc i np).settle q b := by
  cases hq : s.queueItems q with
  | none => simp [settle, hq, Svc.setProc]
  | some it =>
    rw [settle_eq hq, settle_eq (show (s.setProc i np).queueItems q = some it from hq)]
    split
    · rw [spawn_setProc_comm (by exact hi)]; rfl
    · rfl

theorem setProc_foldl_settle (b : Bool) (np : Option Proc) :
    ∀ (ms : List Nat) {s : Svc}, i < s.nextProc →
      (ms.foldl (fun s m => s.settle m b) s).setProc i np =
        ms.foldl (fun s m => s.settle m b) (s.setProc i np)
  | [], _, _ => rfl
  | m :: ms, s, hi => by
    rw [List.foldl_cons, List.foldl_cons,
      setProc_foldl_settle b np ms (Nat.lt_of_lt_of_le hi (nextProc_le_settle m b)),
      setProc_settle hi]

/-- What the failure branch of `popQueueItem` does to its item (:638–645): a new promise at the
front of the queue, and the old one resolved. -/
theorem readd_resolve_eq {q : Nat} {it : QueueItem} (hit : s.queueItems q = some it) (b : Bool) :
    (s.readdQueueItem q).resolveItem q it.gen b =
      { s.setItem q { it with gen := it.gen + 1, resolved := it.resolved ++ [(it.gen, b)] } with
        decryptionQueue := q :: s.decryptionQueue } := by
  simp [readdQueueItem, resolveItem, hit, setItem, Function.update_idem]

theorem AtMostOnce.readd (h : AtMostOnce s) (hnp : s.NoPop) {q : Nat} (hq : s.Live q)
    (hout : q ∉ s.decryptionQueue) :
    ∃ it, s.queueItems q = some it ∧
      AtMostOnce ((s.readdQueueItem q).resolveItem q it.gen false) := by
  obtain ⟨it, hit, hg, hc⟩ := hq
  obtain ⟨hn, hle, -⟩ := h.history q it hit
  refine ⟨it, hit, ?_⟩
  rw [readd_resolve_eq hit]
  have hs : ({ it with gen := it.gen + 1, resolved := it.resolved ++ [(it.gen, false)] } :
      QueueItem).settled = it.settled ++ [it.gen] := by simp [QueueItem.settled]
  have hle' : ∀ g ∈ it.settled ++ [it.gen], g ≤ it.gen := fun g hg' => by
    rcases List.mem_append.1 hg' with hg' | hg'
    · exact hle g hg'
    · rw [List.mem_singleton.1 hg']
  have h1 : AtMostOnce (s.setItem q
      { it with gen := it.gen + 1, resolved := it.resolved ++ [(it.gen, false)] }) :=
    h.setItem hnp hit hout ⟨hs ▸ List.nodup_append.2 ⟨hn, List.nodup_singleton _, by simpa using hg⟩,
      fun g hg' => Nat.le_succ_of_le (hle' g (hs ▸ hg')), by simp [hc]⟩
  refine h1.consQueue hnp ⟨_, Function.update_same _ _ _, fun hg' => ?_, hc⟩ hout
  exact Nat.not_succ_le_self _ (hle' _ (hs ▸ hg'))

theorem setProc_readd_resolve (q g : Nat) (b : Bool) (np : Option Proc) :
    ((s.readdQueueItem q).resolveItem q g b).setProc i np =
      ((s.setProc i np).readdQueueItem q).resolveItem q g b := by
  cases hq : s.queueItems q <;>
    simp [readdQueueItem, resolveItem, hq, setItem, Svc.setProc, Function.update_apply]

/-- A `popQueueItem` invocation's resumption keeps `AtMostOnce`. It settles its item once,
on cancel, on failure (with a new promise) or on success together with the matching items,
and ends at the same step. -/
theorem AtMostOnce.resumePop (h : AtMostOnce s) (hx : Exclusive s) {q g : Nat} {pc : PopPc}
    (hi : s.procs i = some (.pop q g pc)) (answer : Option Nat) :
    AtMostOnce (s.resumePop i q g answer pc) := by
  have hlt := hx.lt_nextProc hi
  obtain ⟨⟨it, hit, hgen⟩, hlive, hout, hpc⟩ := h.owns i _ hi
  have h0 : AtMostOnce (s.setProc i none) :=
    h.setInert rfl fun _ _ _ hi' => by rw [hi] at hi'; cases hi'
  have hnp0 : (s.setProc i none).NoPop := fun k q' g' pc' hk => by
    by_cases hki : k = i
    · subst hki; simp [Svc.setProc] at hk
    · rw [show (s.setProc i none).procs k = s.procs k from Function.update_noteq hki _ _] at hk
      exact hki (h.onePop k i _ _ _ _ _ _ hk hi)
  have hx0 := hx.finish hlt
  cases pc with
  | clientParams =>
    simp only [Svc.resumePop]
    split
    · exact h.popNext hi trivial
    · exact h0
  | prompt replaces =>
    simp only [Svc.resumePop]
    split
    · exact h.popNext hi trivial
    · have e : (s.resolveItem q g false).callBack q false = s.settle q false := by
        simp only [Svc.settle, hit, hgen]
      rw [e, setProc_settle hlt]
      exact (h0.settle hx0 hnp0 hlive hout false).1
  | decrypt replaces rk =>
    simp only [Svc.resumePop]
    split
    · split
      · split
        · exact h.popNext hi (by split <;> trivial)
        · exact h.popMatching hx hi _ _
      · exact h.popNext hi trivial
    · exact h0
  | passcode rk =>
    simp only [Svc.resumePop]
    split <;> exact h.popNext hi trivial
  | setRootKey rk =>
    have h1 : AtMostOnce { s with rootKey := some rk } := h.congr rfl rfl rfl rfl
    exact h1.popMatching (hx.congr rfl rfl rfl) hi _ _
  | save rk matching =>
    obtain ⟨m1, m2, m3⟩ := hpc
    simp only [Svc.resumePop]
    have e : (((s.emitKeys rk (s.keysOf (q :: matching))).resolveItem q g true).callBack q
        true).resolveMatching matching = (q :: matching).foldl (fun s m => s.settle m true)
          (s.emitKeys rk (s.keysOf (q :: matching))) := by
      simp only [resolveMatching_eq, List.foldl_cons, Svc.settle, emitKeys, hit, hgen]
    rw [e, setProc_foldl_settle true none _
      (show i < (s.emitKeys rk (s.keysOf (q :: matching))).nextProc from hlt)]
    have h1 : AtMostOnce ((s.emitKeys rk (s.keysOf (q :: matching))).setProc i none) :=
      h0.congr rfl rfl rfl rfl
    have hx1 : Exclusive ((s.emitKeys rk (s.keysOf (q :: matching))).setProc i none) :=
      hx0.congr rfl rfl rfl
    refine (AtMostOnce.settleAll true (q :: matching) h1 hx1 hnp0
      (List.nodup_cons.2 ⟨m2, m1⟩) fun m hm => ?_).1
    rcases List.mem_cons.1 hm with rfl | hm
    · exact ⟨hlive, hout⟩
    · exact m3 m hm
  | alert =>
    simp only [Svc.resumePop]
    rw [setProc_readd_resolve, ← hgen]
    obtain ⟨it', hit', h1⟩ := h0.readd hnp0 hlive hout
    rw [show it' = it from Option.some.inj (hit'.symm.trans hit)] at h1
    exact h1

/-! ## The handlers -/

/-- :506–513, run by the guard's holder with no `popQueueItem` pending. -/
theorem AtMostOnce.credentialsCheck {p0 : Proc} (h : AtMostOnce s) (hx : Exclusive s)
    (hi : s.procs i = some p0) (hh : p0.holdsGuard) (hnp : s.NoPop) (cb : Bool) :
    AtMostOnce (s.credentialsCheck i cb) := by
  have hold : ∀ cb q g, s.procs i = some (.handler cb (.awaitItem q g)) →
      ∀ k pc, s.procs k ≠ some (.pop q g pc) := fun _ _ _ _ k _ => hnp k _ _ _
  unfold Svc.credentialsCheck
  split
  · split
    · next q hq =>
      refine h.setProc (fun p hp => ?_) nofun fun _ _ _ hi' =>
        .inr (hold _ _ _ hi')
      cases hp
      exact List.mem_of_mem_head? hq
    · exact h.setInert rfl hold
  · exact h.loop hx hi hh hnp cb fun q hq => List.mem_of_mem_head? hq

theorem settled_of_resolved {q g : Nat}
    (hres : ((s.queueItems q).map fun it => it.resolved.any (·.1 = g)) = some true) :
    ∃ it, s.queueItems q = some it ∧ g ∈ it.settled := by
  cases hq : s.queueItems q with
  | none => rw [hq] at hres; cases hres
  | some it =>
    rw [hq] at hres
    obtain ⟨r, hr, hrg⟩ := List.any_eq_true.1 (Option.some.inj hres)
    exact ⟨it, rfl, List.mem_map.2 ⟨r, hr, of_decide_eq_true hrg⟩⟩

/-- A handler's resumption keeps `AtMostOnce`. -/
theorem AtMostOnce.resumeHandler (h : AtMostOnce s) (hx : Exclusive s) {cb : Bool}
    {pc : HandlerPc} (hi : s.procs i = some (.handler cb pc)) (answer : Option Nat) :
    AtMostOnce (s.resumeHandler i cb answer pc) := by
  cases pc with
  | loadRecord =>
    simp only [Svc.resumeHandler]
    split <;> refine h.release hi nofun ?_ <;> rfl
  | saveRead keys => refine h.release hi nofun ?_; rfl
  | saveWrite keys record =>
    have h1 : AtMostOnce { s with undecryptables := record } := h.congr rfl rfl rfl rfl
    refine h1.release hi nofun ?_; rfl
  | addKeys keys =>
    cases keys with
    | nil =>
      simp only [Svc.resumeHandler, Svc.beginProcessingQueue]
      split
      · refine h.release hi nofun ?_; rfl
      · have h1 : AtMostOnce { s with isProcessingQueue := true } := h.congr rfl rfl rfl rfl
        refine h1.release hi nofun ?_; rfl
    | cons k ks =>
      simp only [Svc.resumeHandler]
      split
      · refine (h.pushKey k _ cb).release hi nofun ?_; rfl
      · refine h.release hi nofun ?_; rfl
  | clientParams =>
    simp only [Svc.resumeHandler]
    split
    · refine h.release hi nofun ?_; rfl
    · exact h.credentialsCheck hx hi rfl (h.noPop hx hi rfl nofun) cb
  | fetchServerParams =>
    exact h.credentialsCheck hx hi rfl (h.noPop hx hi rfl nofun) cb
  | signIn q =>
    simp only [Svc.resumeHandler]
    split
    · next pw it _ =>
      have h1 : AtMostOnce { s with hasAccount := true, rootKey := some ⟨pw, it.keyParams⟩ } :=
        h.congr rfl rfl rfl rfl
      refine h1.release hi nofun ?_; rfl
    · exact h.loop hx hi rfl (h.noPop hx hi rfl nofun) cb
        fun q' e => by cases e; exact h.owns i _ hi
  | signInRootKey q rk =>
    simp only [Svc.resumeHandler]
    have h1 : AtMostOnce ({ s with rootKey := some rk }.popQueueForKeyParams rk.keyParams).1 :=
      (h.congr rfl rfl rfl rfl : AtMostOnce { s with rootKey := some rk }).sublistQueue
        (hx.no_signIn hi rfl nofun) (List.filter_sublist _)
    refine h1.release hi nofun ?_; rfl
  | signInSave q rk matching =>
    simp only [Svc.resumeHandler]
    have h1 : AtMostOnce { s.emitKeys rk (s.keysOf matching) with
        decryptionQueue := (s.emitKeys rk (s.keysOf matching)).decryptionQueue.erase q } :=
      (h.congr rfl rfl rfl rfl : AtMostOnce (s.emitKeys rk (s.keysOf matching))).sublistQueue
        (hx.no_signIn hi rfl nofun) (List.erase_sublist _ _)
    have hx1 : Exclusive { s.emitKeys rk (s.keysOf matching) with
        decryptionQueue := (s.emitKeys rk (s.keysOf matching)).decryptionQueue.erase q } :=
      hx.congr rfl rfl rfl
    exact h1.loop hx1 hi rfl (h.noPop hx hi rfl nofun) cb
      fun q' hq => List.mem_of_mem_head? hq
  | awaitItem q g =>
    simp only [Svc.resumeHandler]
    split
    · next hres =>
      refine h.loop hx hi rfl (h.noPop hx hi rfl fun _ _ _ e => ?_) cb
        fun q' hq => List.mem_of_mem_head? hq
      cases e
      exact settled_of_resolved hres
    · exact h

/-! ## Every step -/

theorem AtMostOnce.resumeContinuation (h : AtMostOnce s) {pc : ContPc}
    (hi : s.procs i = some (.continuation pc)) (answer : Option Nat) :
    AtMostOnce (s.resumeContinuation i answer pc) := by
  cases pc with
  | pending =>
    have h1 : AtMostOnce { s with isProcessingQueue := false } := h.congr rfl rfl rfl rfl
    simp only [Svc.resumeContinuation]
    split <;> refine h1.release hi nofun ?_ <;> rfl
  | clientParams =>
    simp only [Svc.resumeContinuation]
    repeat' split
    all_goals refine h.release hi nofun ?_; rfl
  | signIn =>
    simp only [Svc.resumeContinuation]
    split
    · next pw sp _ =>
      have h1 : AtMostOnce { s with hasAccount := true, rootKey := some ⟨pw, sp⟩ } :=
        h.congr rfl rfl rfl rfl
      refine h1.release hi nofun ?_; rfl
    · refine h.release hi nofun ?_; rfl

theorem AtMostOnce.resumeRemove (h : AtMostOnce s) {uuid : Nat} {pc : RemovePc}
    (hi : s.procs i = some (.remove uuid pc)) : AtMostOnce (s.resumeRemove i uuid pc) := by
  cases pc with
  | read => refine h.release hi nofun ?_; rfl
  | write record =>
    have h1 : AtMostOnce { s with undecryptables := record } := h.congr rfl rfl rfl rfl
    refine h1.release hi nofun ?_; rfl

theorem AtMostOnce.resume (h : AtMostOnce s) (hx : Exclusive s) (i : Nat)
    (answer : Option Nat) : AtMostOnce (s.resume i answer) := by
  unfold Svc.resume
  split
  · next cb pc hi =>
    split
    · exact h
    · exact h.resumeHandler hx hi answer
  · next q g pc hi => exact h.resumePop hx hi answer
  · next pc hi => exact h.resumeContinuation hi answer
  · next uuid pc hi => exact h.resumeRemove hi
  · exact h

/-- Every step keeps `AtMostOnce`. -/
theorem AtMostOnce.step (h : AtMostOnce s) (hx : Exclusive s) (a : Act) :
    AtMostOnce (s.step a) := by
  cases a with
  | itemsKeysObserved changed ignored =>
    simp only [Svc.step, Svc.itemsKeysObserved]
    have h1 : AtMostOnce (if changed.isEmpty then s
        else s.spawn (.handler false (.addKeys changed))) ∧
        Exclusive (if changed.isEmpty then s
          else s.spawn (.handler false (.addKeys changed))) := by
      split
      · exact ⟨h, hx⟩
      · exact ⟨h.spawn rfl hx.fresh, hx.spawn rfl⟩
    split
    · exact h1.1
    · exact h1.1.spawn rfl h1.2.fresh
  | loadedDatabase => exact h.spawn rfl hx.fresh
  | resume i answer => exact h.resume hx i answer
  | fetched i params =>
    simp only [Svc.step]
    split
    · next cb hi =>
      have hnp := h.noPop hx hi rfl nofun
      unfold Svc.fetched
      split
      · next kp =>
        have h1 : AtMostOnce { s with serverParams := some kp } := h.congr rfl rfl rfl rfl
        exact h1.credentialsCheck (hx.congr rfl rfl rfl) hi rfl hnp cb
      · exact h.credentialsCheck hx hi rfl hnp cb
    · exact h

theorem atMostOnce_init (hasAccount hasPasscode : Bool) (rootKey : Option RootKey)
    (localKeys undecryptables : List ItemsKey) :
    (Svc.init hasAccount hasPasscode rootKey localKeys undecryptables).AtMostOnce :=
  ⟨fun _ _ => rfl, fun _ _ h => (nomatch h), fun _ h => (nomatch h), List.nodup_nil,
    fun _ _ h => (nomatch h), fun _ _ _ _ h => (nomatch h), fun _ _ _ _ _ _ _ _ h => (nomatch h)⟩

/-- Each promise of every item settles at most once, and its callback runs at most once. -/
def SettlesOnce (s : Svc) : Prop :=
  ∀ q it, s.queueItems q = some it → it.settled.Nodup ∧ it.called.length ≤ 1

end Svc

/-- **No promise settles twice.** From a freshly constructed service, under every schedule,
every `resolve` call of a queue item is for a promise not yet resolved, and its callback is
called at most once. -/
theorem queue_items_settle_at_most_once (hasAccount hasPasscode : Bool)
    (rootKey : Option RootKey) (localKeys undecryptables : List ItemsKey) (acts : List Act) :
    ((Svc.init hasAccount hasPasscode rootKey localKeys undecryptables).run acts).SettlesOnce := by
  have h := Svc.run_induction (P := fun s => s.AtMostOnce ∧ s.Exclusive)
    (fun _ a h => ⟨h.1.step h.2 a, h.2.step a⟩) acts
    ⟨Svc.atMostOnce_init hasAccount hasPasscode rootKey localKeys undecryptables,
      Svc.exclusive_init hasAccount hasPasscode rootKey localKeys undecryptables⟩
  exact fun q it hq => ⟨(h.1.history q it hq).1, (h.1.history q it hq).2.2⟩

end Snjs.KeyRecovery
