import Snjs.KeyRecovery.Service

/-!
# The decryption queue and its guard

`beginProcessingQueue` (migration_service.ts:488–550) returns at once when
`isProcessingQueue` is set, sets it otherwise, and leaves it to the continuation it registers
on `queuePromise` to lower it. What the guard does achieve holds under every schedule
(`queue_processing_exclusive`): at most one invocation holds it (a `beginProcessingQueue`
past its check, or the continuation it registered, before that continuation runs), and the
flag is up while one does.

What it does not achieve is shown on a concrete schedule. Without account or passcode, a
`beginProcessingQueue` started on an empty queue raises at `queueItem.keyParams` (:512) with
the flag up, and a key that arrives next is left in the queue with nobody to process it
(`empty_queue_leaves_guard_set`). A guard left up with nobody holding it stays up under every
later schedule, and the queue is never taken from again (`guard_leaked_forever`).

The sign-in branch for missing credentials takes items out of the queue without resolving them
or calling their callbacks, and `popQueueItem` resolves the items matching a recovered root key
as recovered whether their own keys decrypt or not (`queue_items_dropped_or_misreported`).
-/

namespace Snjs.KeyRecovery

/-- The `await`s of `beginProcessingQueue` after it raised the guard (:494–524). -/
def HandlerPc.processing : HandlerPc → Bool
  | .clientParams | .fetchServerParams | .signIn _ | .signInRootKey _ _ | .signInSave _ _ _
  | .awaitItem _ _ => true
  | _ => false

/-- An invocation that holds the guard: a `beginProcessingQueue` past its check, or the
continuation it registered before the continuation lowers the guard. -/
def Proc.holdsGuard : Proc → Bool
  | .handler _ pc => pc.processing
  | .continuation .pending => true
  | _ => false

namespace Svc

variable {s : Svc} {i : Nat}

/-- At most one invocation holds the guard, and the flag is up while one does; indices past
`nextProc` are unused. -/
structure Exclusive (s : Svc) : Prop where
  fresh : ∀ k, s.nextProc ≤ k → s.procs k = none
  unique : ∀ i j p p', s.procs i = some p → s.procs j = some p' → p.holdsGuard →
    p'.holdsGuard → i = j
  flag : ∀ i p, s.procs i = some p → p.holdsGuard → s.isProcessingQueue = true

theorem Exclusive.lt_nextProc {p : Proc} (h : Exclusive s) (hi : s.procs i = some p) :
    i < s.nextProc :=
  Nat.lt_of_not_le fun hle => by rw [h.fresh i hle] at hi; cases hi

/-- `Exclusive` survives a change that keeps the flag and adds no holder. -/
theorem Exclusive.of_holders {s' : Svc} (h : Exclusive s)
    (hfresh : ∀ k, s'.nextProc ≤ k → s'.procs k = none)
    (hback : ∀ k p, s'.procs k = some p → p.holdsGuard →
      ∃ p0, s.procs k = some p0 ∧ p0.holdsGuard)
    (hflag : s'.isProcessingQueue = s.isProcessingQueue) : Exclusive s' := by
  refine ⟨hfresh, fun i j p p' hi hj hp hp' => ?_, fun i p hi hp => ?_⟩
  · obtain ⟨_, hi0, hh⟩ := hback i p hi hp
    obtain ⟨_, hj0, hh'⟩ := hback j p' hj hp'
    exact h.unique i j _ _ hi0 hj0 hh hh'
  · obtain ⟨_, hi0, hh⟩ := hback i p hi hp
    exact hflag ▸ h.flag i _ hi0 hh

theorem Exclusive.congr {s' : Svc} (h : Exclusive s) (h1 : s'.procs = s.procs)
    (h2 : s'.nextProc = s.nextProc) (h3 : s'.isProcessingQueue = s.isProcessingQueue) :
    Exclusive s' :=
  h.of_holders (fun k hk => h1 ▸ h.fresh k (h2 ▸ hk)) (fun _ p hk hp => ⟨p, h1 ▸ hk, hp⟩) h3

theorem Exclusive.spawn (h : Exclusive s) {p : Proc} (hp : p.holdsGuard = false) :
    Exclusive (s.spawn p) := by
  refine h.of_holders (fun k hk => ?_) (fun k p' hk hh => ?_) rfl
  · simp only [Svc.spawn] at hk ⊢
    rw [Function.update_noteq (by omega)]
    exact h.fresh k (by omega)
  · simp only [Svc.spawn, Function.update_apply] at hk
    split_ifs at hk
    · cases hk; rw [hp] at hh; cases hh
    · exact ⟨p', hk, hh⟩

/-- Writing an allocated invocation's state keeps `Exclusive` when the new state holds the
guard only if the old one did. -/
theorem Exclusive.setProc (h : Exclusive s) (hi : i < s.nextProc) {np : Option Proc}
    (hp : ∀ p, np = some p → p.holdsGuard → ∃ p0, s.procs i = some p0 ∧ p0.holdsGuard) :
    Exclusive (s.setProc i np) := by
  refine h.of_holders (fun k hk => ?_) (fun k p hk hh => ?_) rfl
  · simp only [Svc.setProc] at hk ⊢
    rw [Function.update_noteq (by omega)]
    exact h.fresh k hk
  · simp only [Svc.setProc, Function.update_apply] at hk
    split_ifs at hk with hki
    · subst hki; exact hp p hk hh
    · exact ⟨p, hk, hh⟩

/-- Writing a state that does not hold the guard. -/
theorem Exclusive.release (h : Exclusive s) (hi : i < s.nextProc) {np : Option Proc}
    (hp : np.all (fun p => !p.holdsGuard) = true) : Exclusive (s.setProc i np) :=
  h.setProc hi fun p hnp hh => by subst hnp; simp [hh] at hp

/-- Moving a holder on to another state. -/
theorem Exclusive.keep {p0 : Proc} (h : Exclusive s) (hi : s.procs i = some p0) {np : Option Proc} :
    p0.holdsGuard → Exclusive (s.setProc i np) :=
  fun hh => h.setProc (h.lt_nextProc hi) fun _ _ _ => ⟨p0, hi, hh⟩

theorem Exclusive.setItem (h : Exclusive s) (q : Nat) (it : QueueItem) :
    Exclusive (s.setItem q it) :=
  h.congr rfl rfl rfl

theorem Exclusive.callBack (h : Exclusive s) (q : Nat) (b : Bool) :
    Exclusive (s.callBack q b) ∧ s.nextProc ≤ (s.callBack q b).nextProc := by
  unfold Svc.callBack
  split
  · split
    · dsimp only
      split
      · exact ⟨(h.setItem _ _).spawn (by rfl), Nat.le_succ _⟩
      · exact ⟨h.setItem _ _, Nat.le_refl _⟩
    · exact ⟨h, Nat.le_refl _⟩
  · exact ⟨h, Nat.le_refl _⟩

@[simp] theorem resolveItem_nextProc (s : Svc) (q gen : Nat) (b : Bool) :
    (s.resolveItem q gen b).nextProc = s.nextProc := by
  unfold Svc.resolveItem; split <;> rfl

theorem Exclusive.resolveItem (h : Exclusive s) (q gen : Nat) (b : Bool) :
    Exclusive (s.resolveItem q gen b) := by
  unfold Svc.resolveItem
  split
  · exact h.setItem _ _
  · exact h

theorem Exclusive.resolveMatching (matching : List Nat) :
    ∀ {s : Svc}, Exclusive s →
      Exclusive (s.resolveMatching matching) ∧ s.nextProc ≤ (s.resolveMatching matching).nextProc := by
  induction matching with
  | nil => exact fun h => ⟨h, Nat.le_refl _⟩
  | cons m ms ih =>
    intro s h
    simp only [Svc.resolveMatching, List.foldl_cons]
    split
    · obtain ⟨h1, h2⟩ := (h.resolveItem m _ true).callBack m true
      obtain ⟨h3, h4⟩ := ih h1
      exact ⟨h3, Nat.le_trans (by simpa using h2) h4⟩
    · exact ih h

/-- :490–492 with the guard down: the calling handler is the only holder. -/
theorem Exclusive.beginProcessingQueue (h : Exclusive s) (hi : i < s.nextProc) (cb : Bool) :
    Exclusive (s.beginProcessingQueue i cb) := by
  unfold Svc.beginProcessingQueue
  split
  · exact h.release hi rfl
  · rename_i hflag
    have none : ∀ k p, s.procs k = some p → p.holdsGuard = false := fun k p hk => by
      cases hh : p.holdsGuard
      · rfl
      · exact absurd (h.flag k p hk hh) hflag
    refine ⟨fun k hk => ?_, fun a b p p' ha hb hp hp' => ?_, fun _ _ _ _ => rfl⟩
    · simp only [Svc.setProc] at hk ⊢
      rw [Function.update_noteq (by omega)]
      exact h.fresh k hk
    · simp only [Svc.setProc, Function.update_apply] at ha hb
      split_ifs at ha hb with h1 h2 h2
      · exact h1.trans h2.symm
      · rw [none b p' hb] at hp'; cases hp'
      · rw [none a p ha] at hp; cases hp
      · rw [none a p ha] at hp; cases hp

/-- Holder `i` ends and a new invocation takes the guard over. -/
theorem Exclusive.handOver {p0 : Proc} (h : Exclusive s) (hi : s.procs i = some p0)
    (hh : p0.holdsGuard) (p : Proc) : Exclusive ((s.setProc i none).spawn p) := by
  have hlt := h.lt_nextProc hi
  have only : ∀ k p, (s.setProc i none).procs k = some p → p.holdsGuard → False := by
    intro k p hk hp
    simp only [Svc.setProc, Function.update_apply] at hk
    split_ifs at hk with hki
    · exact hki (h.unique k i p p0 hk hi hp hh)
  refine ⟨fun k hk => ?_, fun a b q q' ha hb hq hq' => ?_, fun _ _ _ _ => h.flag i p0 hi hh⟩
  · simp only [Svc.spawn, Svc.setProc] at hk ⊢
    rw [Function.update_noteq (by omega), Function.update_noteq (by omega)]
    exact h.fresh k (by omega)
  · simp only [Svc.spawn, Function.update_apply] at ha hb
    split_ifs at ha hb with e1 e2 e2
    · exact e1.trans e2.symm
    · exact (only b q' hb hq').elim
    · exact (only a q ha hq).elim
    · exact (only a q ha hq).elim

/-- The loop at :522–529, run by a holder `i`: it starts `popQueueItem` and keeps the guard,
or hands the guard to the continuation. -/
theorem Exclusive.loop {p0 : Proc} (h : Exclusive s) (hi : s.procs i = some p0) (hh : p0.holdsGuard)
    (cb : Bool) (queueItem : Option Nat) : Exclusive (s.loop i cb queueItem) := by
  have hlt := h.lt_nextProc hi
  unfold Svc.loop
  split
  · exact h.handOver hi hh _
  · have start : ∀ q gen, Exclusive (({ s with decryptionQueue := s.decryptionQueue.erase q }.spawn
        (.pop q gen .clientParams)).setProc i (some (.handler cb (.awaitItem q gen)))) := by
      intro q gen
      have h1 : Exclusive { s with decryptionQueue := s.decryptionQueue.erase q } :=
        h.congr rfl rfl rfl
      have hi' : ({ s with decryptionQueue := s.decryptionQueue.erase q }.spawn
          (.pop q gen .clientParams)).procs i = some p0 := by
        simp only [Svc.spawn]
        rw [Function.update_noteq (Nat.ne_of_lt hlt)]
        exact hi
      exact (h1.spawn (by rfl)).keep hi' hh
    split
    · exact start _ _
    · exact h.keep hi hh

theorem Exclusive.pushKey (h : Exclusive s) (k : ItemsKey) (kp : KeyParams) (cb : Bool) :
    Exclusive (s.pushKey k kp cb) :=
  h.congr rfl rfl rfl

theorem Exclusive.popQueueForKeyParams (h : Exclusive s) (kp : KeyParams) :
    Exclusive (s.popQueueForKeyParams kp).1 :=
  h.congr rfl rfl rfl

theorem Exclusive.emitKeys (h : Exclusive s) (rk : RootKey) (ks : List ItemsKey) :
    Exclusive (s.emitKeys rk ks) :=
  h.congr rfl rfl rfl

theorem Exclusive.readdQueueItem (h : Exclusive s) (q : Nat) : Exclusive (s.readdQueueItem q) := by
  unfold Svc.readdQueueItem
  split
  · exact h.congr rfl rfl rfl
  · exact h

/-- A resumption that changes no invocation, their count or the guard before writing its
own state, which does not hold the guard. -/
theorem Exclusive.frameRelease {s' : Svc} (h : Exclusive s) (hi : i < s.nextProc)
    (h1 : s'.procs = s.procs) (h2 : s'.nextProc = s.nextProc)
    (h3 : s'.isProcessingQueue = s.isProcessingQueue) {np : Option Proc}
    (hp : np.all (fun p => !p.holdsGuard) = true) : Exclusive (s'.setProc i np) :=
  (h.congr h1 h2 h3).release (h2 ▸ hi) hp

/-- The same, for a holder moving on to another state. -/
theorem Exclusive.frameKeep {s' : Svc} {p0 : Proc} (h : Exclusive s) (hi : s.procs i = some p0)
    (hh : p0.holdsGuard) (h1 : s'.procs = s.procs) (h2 : s'.nextProc = s.nextProc)
    (h3 : s'.isProcessingQueue = s.isProcessingQueue) {np : Option Proc} :
    Exclusive (s'.setProc i np) :=
  (h.congr h1 h2 h3).keep (h1 ▸ hi) hh

/-- An invocation ends. -/
theorem Exclusive.finish (h : Exclusive s) (hi : i < s.nextProc) : Exclusive (s.setProc i none) :=
  h.release hi rfl

/-- :506–513, run by a holder. -/
theorem Exclusive.credentialsCheck {p0 : Proc} (h : Exclusive s) (hi : s.procs i = some p0)
    (hh : p0.holdsGuard) (cb : Bool) : Exclusive (s.credentialsCheck i cb) := by
  unfold Svc.credentialsCheck
  split
  · split <;> exact h.keep hi hh
  · exact h.loop hi hh cb _

/-- A handler's resumption keeps `Exclusive`. -/
theorem Exclusive.resumeHandler (h : Exclusive s) {cb : Bool} {pc : HandlerPc}
    (hi : s.procs i = some (.handler cb pc)) (answer : Option Nat) :
    Exclusive (s.resumeHandler i cb answer pc) := by
  have hlt := h.lt_nextProc hi
  cases pc with
  | addKeys keys =>
    cases keys with
    | nil => exact h.beginProcessingQueue hlt cb
    | cons k ks =>
      simp only [Svc.resumeHandler]
      split <;> refine h.frameRelease hlt ?_ ?_ ?_ ?_ <;> rfl
  | clientParams =>
    simp only [Svc.resumeHandler]
    split
    · exact h.keep hi rfl
    · exact h.credentialsCheck hi rfl cb
  | fetchServerParams => exact h.credentialsCheck hi rfl cb
  | signIn q =>
    simp only [Svc.resumeHandler]
    split
    · refine h.frameKeep hi rfl ?_ ?_ ?_ <;> rfl
    · exact h.loop hi rfl cb _
  | signInRootKey q rk =>
    simp only [Svc.resumeHandler]
    refine h.frameKeep hi rfl ?_ ?_ ?_ <;> rfl
  | signInSave q rk matching =>
    simp only [Svc.resumeHandler]
    have h1 : Exclusive { s.emitKeys rk (s.keysOf matching) with
        decryptionQueue := (s.emitKeys rk (s.keysOf matching)).decryptionQueue.erase q } :=
      h.congr rfl rfl rfl
    exact h1.loop hi rfl cb _
  | awaitItem q gen =>
    simp only [Svc.resumeHandler]
    split
    · exact h.loop hi rfl cb _
    · exact h
  | loadRecord | saveRead _ | saveWrite _ _ =>
    simp only [Svc.resumeHandler]
    try split
    all_goals refine h.frameRelease hlt ?_ ?_ ?_ ?_ <;> rfl

/-- The chain of `resolve`s and callbacks at the end of a successful `popQueueItem`. -/
theorem Exclusive.settleRecovered (h : Exclusive s) (q gen : Nat) (matching : List Nat) :
    Exclusive (((s.resolveItem q gen true).callBack q true).resolveMatching matching) ∧
      s.nextProc ≤ (((s.resolveItem q gen true).callBack q true).resolveMatching matching).nextProc := by
  obtain ⟨h1, h2⟩ := (h.resolveItem q gen true).callBack q true
  obtain ⟨h3, h4⟩ := h1.resolveMatching matching
  exact ⟨h3, Nat.le_trans (by simpa using h2) h4⟩

/-- A `popQueueItem` invocation's resumption keeps `Exclusive`. -/
theorem Exclusive.resumePop (h : Exclusive s) (hlt : i < s.nextProc) (q gen : Nat)
    (answer : Option Nat) (pc : PopPc) : Exclusive (s.resumePop i q gen answer pc) := by
  cases pc with
  | prompt replaces =>
    simp only [Svc.resumePop]
    split
    · refine h.release hlt ?_
      rfl
    · obtain ⟨h1, h2⟩ := (h.resolveItem q gen false).callBack q false
      rw [resolveItem_nextProc] at h2
      exact h1.finish (Nat.lt_of_lt_of_le hlt h2)
  | save rk matching =>
    obtain ⟨h1, h2⟩ := (h.emitKeys rk (s.keysOf (q :: matching))).settleRecovered q gen matching
    exact h1.finish (Nat.lt_of_lt_of_le hlt h2)
  | alert =>
    have h1 := (h.readdQueueItem q).resolveItem q gen false
    refine h1.finish ?_
    simp only [resolveItem_nextProc]
    unfold Svc.readdQueueItem
    split <;> exact hlt
  | clientParams | decrypt _ _ | passcode _ | setRootKey _ =>
    simp only [Svc.resumePop]
    repeat' split
    all_goals refine h.frameRelease hlt ?_ ?_ ?_ ?_ <;> rfl

/-- The continuation lowers the guard: it was the only holder. -/
theorem Exclusive.lower (h : Exclusive s) (hi : s.procs i = some (.continuation .pending))
    {np : Option Proc} (hp : np.all (fun p => !p.holdsGuard) = true) :
    Exclusive ({ s with isProcessingQueue := false }.setProc i np) := by
  have hlt := h.lt_nextProc hi
  have only : ∀ k p, ({ s with isProcessingQueue := false }.setProc i np).procs k = some p →
      p.holdsGuard = false := by
    intro k p hk
    simp only [Svc.setProc, Function.update_apply] at hk
    split_ifs at hk with hki
    · subst hk; simpa using hp
    · cases hh : p.holdsGuard
      · rfl
      · exact absurd (h.unique k i p _ hk hi hh rfl) hki
  refine ⟨fun k hk => ?_, fun a b p p' ha _ hh _ => ?_, fun a p ha hh => ?_⟩
  · simp only [Svc.setProc] at hk ⊢
    rw [Function.update_noteq (by omega)]
    exact h.fresh k hk
  · rw [only a p ha] at hh; cases hh
  · rw [only a p ha] at hh; cases hh

theorem Exclusive.resumeContinuation (h : Exclusive s) {pc : ContPc}
    (hi : s.procs i = some (.continuation pc)) (answer : Option Nat) :
    Exclusive (s.resumeContinuation i answer pc) := by
  have hlt := h.lt_nextProc hi
  cases pc with
  | pending =>
    simp only [Svc.resumeContinuation]
    split <;> refine h.lower hi ?_ <;> rfl
  | clientParams | signIn =>
    simp only [Svc.resumeContinuation]
    repeat' split
    all_goals refine h.frameRelease hlt ?_ ?_ ?_ ?_ <;> rfl

theorem Exclusive.resumeRemove (h : Exclusive s) (hlt : i < s.nextProc) (uuid : Nat)
    (pc : RemovePc) : Exclusive (s.resumeRemove i uuid pc) := by
  cases pc <;> refine h.frameRelease hlt ?_ ?_ ?_ ?_ <;> rfl

theorem Exclusive.resume (h : Exclusive s) (i : Nat) (answer : Option Nat) :
    Exclusive (s.resume i answer) := by
  unfold Svc.resume
  split
  · next cb pc hi =>
    split
    · exact h
    · exact h.resumeHandler hi answer
  · next q gen pc hi => exact h.resumePop (h.lt_nextProc hi) q gen answer pc
  · next pc hi => exact h.resumeContinuation hi answer
  · next uuid pc hi => exact h.resumeRemove (h.lt_nextProc hi) uuid pc
  · exact h

/-- Every step keeps `Exclusive`. -/
theorem Exclusive.step (h : Exclusive s) (a : Act) : Exclusive (s.step a) := by
  cases a with
  | itemsKeysObserved changed ignored =>
    simp only [Svc.step, Svc.itemsKeysObserved]
    have h1 : Exclusive (if changed.isEmpty then s else s.spawn (.handler false (.addKeys changed))) := by
      split
      · exact h
      · exact h.spawn rfl
    split
    · exact h1
    · exact h1.spawn rfl
  | loadedDatabase => exact h.spawn rfl
  | resume i answer => exact h.resume i answer
  | fetched i params =>
    simp only [Svc.step]
    split
    · next cb hi =>
      unfold Svc.fetched
      split
      · next kp =>
        have h1 : Exclusive { s with serverParams := some kp } := h.congr rfl rfl rfl
        exact h1.credentialsCheck hi rfl cb
      · exact h.credentialsCheck hi rfl cb
    · exact h

end Svc

/-- `Exclusive` holds after every schedule from a state where it holds. -/
theorem Svc.Exclusive.run {s : Svc} (h : s.Exclusive) (acts : List Act) : (s.run acts).Exclusive :=
  Svc.run_induction (fun _ a h => h.step a) acts h

/-- A freshly constructed service runs no invocation. -/
theorem Svc.exclusive_init (hasAccount hasPasscode : Bool) (rootKey : Option RootKey)
    (localKeys undecryptables : List ItemsKey) :
    (Svc.init hasAccount hasPasscode rootKey localKeys undecryptables).Exclusive :=
  ⟨fun _ _ => rfl, fun _ _ _ _ h => (nomatch h), fun _ _ h => (nomatch h)⟩

/-- **The guard serialises queue processing.** From a freshly constructed service, under every
schedule of key arrivals, stage notifications, prompt answers, server answers and
resumptions, at most one invocation holds `isProcessingQueue` (a `beginProcessingQueue` past
its check, or the continuation it registered before that continuation runs), and the flag is
up while one does. -/
theorem queue_processing_exclusive (hasAccount hasPasscode : Bool) (rootKey : Option RootKey)
    (localKeys undecryptables : List ItemsKey) (acts : List Act) :
    ((Svc.init hasAccount hasPasscode rootKey localKeys undecryptables).run acts).Exclusive :=
  (Svc.exclusive_init hasAccount hasPasscode rootKey localKeys undecryptables).run acts

/-! ## What the guard leaves out -/

/-- No invocation of the service is pending: no handler, `popQueueItem`, continuation or
`removeFromUndecryptables` will run again without a new arrival. -/
def Svc.Idle (s : Svc) : Prop := ∀ k, s.procs k = none

/-- Under `Exclusive` the invocations are those below `nextProc`, so idleness is a finite
check. -/
theorem Svc.Exclusive.idle {s : Svc} (h : s.Exclusive)
    (hr : (List.range s.nextProc).all (fun k => (s.procs k).isNone) = true) : s.Idle := by
  intro k
  by_cases hk : k < s.nextProc
  · have := List.all_eq_true.1 hr k (List.mem_range.2 hk)
    exact Option.isNone_iff_eq_none.1 this
  · exact h.fresh k (Nat.le_of_not_lt hk)

/-- The key params of the keys below, and keys under them: `keyA` and `keyB` are encrypted
under different root keys with the same params, `keyWithoutParams` embeds none. -/
def keyParamsA : KeyParams := ⟨4, 5⟩

def keyA : ItemsKey := ⟨1, 5, some keyParamsA, ⟨9, keyParamsA⟩⟩

def keyB : ItemsKey := ⟨2, 6, some keyParamsA, ⟨8, keyParamsA⟩⟩

def keyWithoutParams : ItemsKey := ⟨1, 5, none, ⟨9, keyParamsA⟩⟩

/-- A service with neither account nor passcode. -/
def signedOutStart : Svc := Svc.init false false none [] []

/-- A service signed in with `keyA`'s root key. -/
def signedInStart : Svc := Svc.init true false (some ⟨9, keyParamsA⟩) [] []

/-- Signed out, an arrival whose key embeds no params enqueues nothing: its handler raises
the guard and, with no credentials, reads `queueItem.keyParams` of an empty queue and raises.
`keyA` then arrives: its handler enqueues it and finds the guard up. -/
def emptyQueueSchedule : List Act :=
  [.itemsKeysObserved [keyWithoutParams] [], .resume 0 none, .resume 0 none, .resume 0 none,
    .itemsKeysObserved [keyA] [], .resume 1 none, .resume 1 none]

/-- After `emptyQueueSchedule` nothing is pending, the guard is left up and `keyA`'s item is in
the queue. -/
theorem empty_queue_leaves_guard_set :
    (signedOutStart.run emptyQueueSchedule).Idle ∧
      (signedOutStart.run emptyQueueSchedule).isProcessingQueue = true ∧
      (signedOutStart.run emptyQueueSchedule).decryptionQueue = [0] :=
  ⟨((Svc.exclusive_init ..).run _).idle (by decide), by decide, by decide⟩

/-- Signed out, `keyA` arrives ignored: it is saved to the record and enqueued with the
callback, processing signs in with its params and password `9`, and the sign-in takes it out
of the queue. -/
def missingCredentialsSchedule : List Act :=
  [.itemsKeysObserved [] [keyA], .resume 0 none, .resume 0 none, .resume 0 none,
    .resume 0 none, .resume 0 none, .resume 0 (some 9), .resume 0 none, .resume 0 none,
    .resume 1 none]

/-- Signed in with `keyA`'s root key, `keyA` and `keyB` arrive; `keyA`'s item is processed with
password `9`, which decrypts it, and `keyB`'s item has the same params. -/
def matchingItemSchedule : List Act :=
  [.itemsKeysObserved [keyA, keyB] [], .resume 0 none, .resume 0 none, .resume 0 none,
    .resume 0 none, .fetched 0 none, .resume 1 none, .resume 1 (some 9), .resume 1 none,
    .resume 1 none]

/-- In the first run `keyA`'s item has left the queue and nothing is pending, yet its promise
was never resolved and its callback never called. In the second, `keyB`'s item is resolved
with success though `keyB` does not decrypt under the recovered root key. -/
theorem queue_items_dropped_or_misreported :
    (signedOutStart.run missingCredentialsSchedule).Idle ∧
      (signedOutStart.run missingCredentialsSchedule).decryptionQueue = [] ∧
      ((signedOutStart.run missingCredentialsSchedule).queueItems 0).map (·.resolved) = some [] ∧
      ((signedOutStart.run missingCredentialsSchedule).queueItems 0).map (·.called) = some [] ∧
    (signedInStart.run matchingItemSchedule).decryptionQueue = [] ∧
      ((signedInStart.run matchingItemSchedule).queueItems 1).map (·.resolved) = some [(0, true)] ∧
      ((signedInStart.run matchingItemSchedule).queueItems 1).map (·.key) = some keyB ∧
      keyB.decryptsWith ⟨9, keyParamsA⟩ = false :=
  ⟨((Svc.exclusive_init ..).run _).idle (by decide), by decide, by decide, by decide,
    by decide, by decide, by decide, by decide⟩

/-! ## A guard left up -/

/-- An invocation that neither holds the guard nor is a `popQueueItem`. -/
def Proc.passive : Proc → Bool
  | .pop .. => false
  | p => !p.holdsGuard

namespace Svc

/-- The guard is up and nobody will lower it or process the queue: no invocation holds it
and no `popQueueItem` is pending. -/
def Leaked (s : Svc) : Prop :=
  s.isProcessingQueue = true ∧ ∀ k p, s.procs k = some p → p.passive

variable {s : Svc} {i : Nat}

theorem Leaked.setProc (h : s.Leaked) {np : Option Proc} (hnp : np.all Proc.passive = true) :
    (s.setProc i np).Leaked := by
  refine ⟨h.1, fun k p hk => ?_⟩
  simp only [Svc.setProc, Function.update_apply] at hk
  split_ifs at hk
  · subst hk; simpa using hnp
  · exact h.2 k p hk

theorem Leaked.spawn (h : s.Leaked) {p : Proc} (hp : p.passive = true) : (s.spawn p).Leaked := by
  refine ⟨h.1, fun k p' hk => ?_⟩
  simp only [Svc.spawn, Function.update_apply] at hk
  split_ifs at hk
  · cases hk; exact hp
  · exact h.2 k p' hk

theorem Leaked.congr {s' : Svc} (h : s.Leaked) (h1 : s'.isProcessingQueue = s.isProcessingQueue)
    (h2 : s'.procs = s.procs) : s'.Leaked :=
  ⟨h1 ▸ h.1, h2 ▸ h.2⟩

/-- A step that leaves the guard and the queue alone and parks the invocation at a passive
point. -/
theorem Leaked.keep (h : s.Leaked) {np : Option Proc} (hnp : np.all Proc.passive = true) :
    (s.setProc i np).Leaked ∧ s.decryptionQueue <+: (s.setProc i np).decryptionQueue :=
  ⟨h.setProc hnp, List.prefix_refl _⟩

/-- A step from a state with the guard left up: what can still run is a handler before the
guard, a `removeFromUndecryptables`, or a continuation that has lowered the guard already. The
queue only grows at its end. -/
theorem Leaked.step (h : s.Leaked) (a : Act) :
    (s.step a).Leaked ∧ s.decryptionQueue <+: (s.step a).decryptionQueue := by
  cases a with
  | itemsKeysObserved changed ignored =>
    simp only [Svc.step, Svc.itemsKeysObserved]
    have h1 : (if changed.isEmpty then s else s.spawn (.handler false (.addKeys changed))).Leaked ∧
        (if changed.isEmpty then s else s.spawn (.handler false (.addKeys changed))).decryptionQueue
          = s.decryptionQueue := by
      split
      · exact ⟨h, rfl⟩
      · exact ⟨h.spawn rfl, rfl⟩
    split
    · exact ⟨h1.1, h1.2 ▸ List.prefix_refl _⟩
    · exact ⟨h1.1.spawn rfl, h1.2 ▸ List.prefix_refl _⟩
  | loadedDatabase => exact ⟨h.spawn rfl, List.prefix_refl _⟩
  | fetched i params =>
    simp only [Svc.step]
    split
    · next cb hi => have := h.2 i _ hi; cases this
    · exact ⟨h, List.prefix_refl _⟩
  | resume i answer =>
    simp only [Svc.step]
    unfold Svc.resume
    split
    · next cb pc hi =>
      split
      · exact ⟨h, List.prefix_refl _⟩
      · have hp := h.2 i _ hi
        cases pc with
        | loadRecord =>
          simp only [Svc.resumeHandler]
          split <;> exact h.keep rfl
        | saveRead keys => exact h.keep rfl
        | saveWrite keys record =>
          exact (h.congr rfl rfl : Leaked { s with undecryptables := record }).keep rfl
        | addKeys keys =>
          cases keys with
          | nil =>
            simp only [Svc.resumeHandler, Svc.beginProcessingQueue, h.1, if_true]
            exact h.keep rfl
          | cons k ks =>
            simp only [Svc.resumeHandler]
            split
            · exact ⟨(h.congr rfl rfl : Leaked (s.pushKey k _ cb)).setProc rfl,
                List.prefix_append _ _⟩
            · exact h.keep rfl
        | _ => cases hp
    · next q g pc hi => have := h.2 i _ hi; cases this
    · next pc hi =>
      have hp := h.2 i _ hi
      cases pc with
      | pending => cases hp
      | clientParams =>
        simp only [Svc.resumeContinuation]
        repeat' split
        all_goals exact h.keep rfl
      | signIn =>
        simp only [Svc.resumeContinuation]
        split
        · next pw sp _ =>
          exact (h.congr rfl rfl :
            Leaked { s with hasAccount := true, rootKey := some ⟨pw, sp⟩ }).keep rfl
        · exact h.keep rfl
    · next uuid pc hi =>
      cases pc with
      | read => exact h.keep rfl
      | write record => exact (h.congr rfl rfl : Leaked { s with undecryptables := record }).keep rfl
    · exact ⟨h, List.prefix_refl _⟩

end Svc

/-- **A guard left up stays up.** Once `isProcessingQueue` is up with nobody holding it and no
`popQueueItem` pending, it stays so under every later schedule, and the queue only grows at
its end: no queued key is ever processed again. -/
theorem guard_leaked_forever {s : Svc} (h : s.Leaked) :
    ∀ acts : List Act, (s.run acts).Leaked ∧ s.decryptionQueue <+: (s.run acts).decryptionQueue
  | [] => ⟨h, List.prefix_refl _⟩
  | a :: acts => by
    obtain ⟨h1, hp1⟩ := h.step a
    obtain ⟨h2, hp2⟩ := guard_leaked_forever h1 acts
    exact ⟨h2, hp1.trans hp2⟩

/-- After the run of `empty_queue_leaves_guard_set` the guard is left up, and it stays up when
`keyB` arrives. -/
theorem guard_stays_up_after_empty_queue :
    (signedOutStart.run emptyQueueSchedule).Leaked ∧
      ((signedOutStart.run emptyQueueSchedule).run [.itemsKeysObserved [keyB] []]).Leaked ∧
      (signedOutStart.run emptyQueueSchedule).decryptionQueue <+:
        ((signedOutStart.run emptyQueueSchedule).run [.itemsKeysObserved [keyB] []]).decryptionQueue :=
  have idle : (signedOutStart.run emptyQueueSchedule).Idle :=
    ((Svc.exclusive_init false false none [] []).run emptyQueueSchedule).idle (by decide)
  have h : (signedOutStart.run emptyQueueSchedule).Leaked :=
    ⟨by decide, fun k p hk => by rw [idle k] at hk; cases hk⟩
  ⟨h, guard_leaked_forever h _⟩

end Snjs.KeyRecovery
