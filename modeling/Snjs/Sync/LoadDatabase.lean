import Mathlib.Data.List.Perm.Basic
import Mathlib.Data.List.Range

/-!
# `loadDatabasePayloads`

`loadDatabasePayloads(rawPayloads)` (sync_manager.js:117–176) throws when `databaseLoaded` is
set; otherwise it sorts the payloads with `SortPayloadsByRecentAndContentPriority`, takes the
items keys out with `subtractFromArray`, decrypts and maps them in one call each, and then
decrypts and maps the rest in batches of `DEFAULT_DATABASE_LOAD_BATCH_SIZE`, awaiting each
call. Only after the last batch does it set `databaseLoaded` (:175).

An invocation is modelled as a task suspended at one of its awaits; the model keeps a ghost log
of the calls to `payloadsByDecryptingPayloads` and `mapPayloadsToLocalItems`, by invocation.
Under any interleaving of calls and resumptions, the calls an invocation has made are those
its position in the code accounts for (`Loader.Inv`), and an invocation that resolves has made
exactly `loadCalls` (`batches_partition`, `load_maps_items_keys_then_batches`).

The guard is read on entry and set at the end, with awaits between: two invocations that
start before either ends both pass it, and both map their payloads
(`concurrent_loads_both_map`). Only an invocation called after one has resolved is turned away.
-/

namespace Snjs.Sync

/-- `DEFAULT_DATABASE_LOAD_BATCH_SIZE` (:21). -/
def DEFAULT_DATABASE_LOAD_BATCH_SIZE : Nat := 100

/-- `ContentTypes.ItemsKey`. -/
def ItemsKeyContentType : String := "SN|ItemsKey"

/-- `this.localLoadPriorty` (:58–65). -/
def localLoadPriorty : List String :=
  [ItemsKeyContentType, "SN|UserPreferences", "SN|Privileges", "SN|Component", "SN|Theme"]

/-- What `loadDatabasePayloads` reads of a payload: its `content_type`. The uuid names it. -/
structure DatabasePayload where
  uuid : String
  content_type : String
  deriving DecidableEq, Repr

/-- `SortPayloadsByRecentAndContentPriority(payloads, priorityList)` (`@Services/sync/utils`)
is not under src/. It sorts the array in place with `Array.prototype.sort`, so what it returns
is a permutation of what it is given; the model leaves open which one. -/
structure PayloadSort where
  sort : List DatabasePayload → List String → List DatabasePayload
  perm : ∀ payloads priorityList, (sort payloads priorityList).Perm payloads

/-- A sort that keeps the order it is given. -/
def PayloadSort.keepOrder : PayloadSort := ⟨fun payloads _ => payloads, fun _ _ => List.Perm.refl _⟩

/-- `subtractFromArray(array, toSubtract)` (`@Lib/utils`, not under src/): each element of
`toSubtract` removed from `array` in turn, at its first occurrence. -/
def subtractFromArray (array toSubtract : List DatabasePayload) : List DatabasePayload :=
  toSubtract.foldl List.erase array

def isItemsKey (payload : DatabasePayload) : Bool := payload.content_type == ItemsKeyContentType

/-- `Math.ceil(payloadCount / batchSize)` (:149). -/
def numBatches (payloadCount : Nat) : Nat :=
  (payloadCount + DEFAULT_DATABASE_LOAD_BATCH_SIZE - 1) / DEFAULT_DATABASE_LOAD_BATCH_SIZE

/-- `payloads.slice(currentPosition, currentPosition + batchSize)` (:151–152). -/
def batch (payloads : List DatabasePayload) (batchIndex : Nat) : List DatabasePayload :=
  (payloads.drop (batchIndex * DEFAULT_DATABASE_LOAD_BATCH_SIZE)).take
    DEFAULT_DATABASE_LOAD_BATCH_SIZE

/-- The batches of the loop (:150–168), in order. -/
def batches (payloads : List DatabasePayload) : List (List DatabasePayload) :=
  (List.range (numBatches payloads.length)).map (batch payloads)

/-- Lines :122–136: the payloads sorted, then split into the items keys and the rest, which
`subtractFromArray` leaves in `payloads` in place. -/
def sortAndSplit (srt : PayloadSort) (rawPayloads : List DatabasePayload) :
    List DatabasePayload × List DatabasePayload :=
  let payloads := srt.sort rawPayloads localLoadPriorty
  let itemsKeysPayloads := payloads.filter isItemsKey
  (itemsKeysPayloads, subtractFromArray payloads itemsKeysPayloads)

/-- A call an invocation makes and awaits. -/
inductive LoadCall
  /-- `protocolService.payloadsByDecryptingPayloads({ payloads })`. -/
  | decrypt (payloads : List DatabasePayload)
  /-- `modelManager.mapPayloadsToLocalItems({ payloads })`, of the decrypted payloads. -/
  | map (payloads : List DatabasePayload)
  deriving DecidableEq, Repr

/-- The calls of a batch. -/
def batchCalls (b : List DatabasePayload) : List LoadCall := [.decrypt b, .map b]

/-- Every call of an invocation that runs to the end: the items keys decrypted and mapped,
then each batch decrypted and mapped. -/
def loadCalls (itemsKeysPayloads payloads : List DatabasePayload) : List LoadCall :=
  batchCalls itemsKeysPayloads ++ (batches payloads).flatMap batchCalls

/-- Where an invocation is. -/
inductive LoadPc
  /-- At `await payloadsByDecryptingPayloads` of the items keys (:137–140). -/
  | decryptItemsKeys
  /-- At `await mapPayloadsToLocalItems` of the items keys (:141–144). -/
  | mapItemsKeys
  /-- At `await payloadsByDecryptingPayloads` of batch `batchIndex` (:153–156). -/
  | decryptBatch (batchIndex : Nat)
  /-- At `await mapPayloadsToLocalItems` of batch `batchIndex` (:157–160). -/
  | mapBatch (batchIndex : Nat)
  /-- Resolved, after `databaseLoaded = true` (:175). -/
  | resolved
  /-- Rejected on entry with the message thrown at :119. -/
  | rejected (message : String)
  deriving DecidableEq, Repr

/-- An invocation: the items keys, the other payloads in sorted order, and where it is. -/
structure LoadTask where
  itemsKeysPayloads : List DatabasePayload
  payloads : List DatabasePayload
  pc : LoadPc
  deriving DecidableEq, Repr

/-- The fields of `SNSyncManager` that `loadDatabasePayloads` reads and writes, its
invocations, and the ghost log of its calls. -/
structure Loader where
  databaseLoaded : Bool := false
  tasks : Nat → Option LoadTask := fun _ => none
  nextTask : Nat := 0
  /-- Ghost: every call made so far, with the invocation that made it, in order. -/
  calls : List (Nat × LoadCall) := []

/-- What happens next. -/
inductive LoadAct
  /-- `loadDatabasePayloads(rawPayloads)` is called. -/
  | call (rawPayloads : List DatabasePayload)
  /-- Invocation `i` resumes from its await. -/
  | resume (i : Nat)
  deriving DecidableEq, Repr

namespace Loader

variable (srt : PayloadSort)

def setTask (l : Loader) (i : Nat) (t : LoadTask) : Loader :=
  { l with tasks := Function.update l.tasks i (some t) }

/-- Invocation `i` makes `c` and awaits it at `pc`. -/
def await (l : Loader) (i : Nat) (t : LoadTask) (c : LoadCall) (pc : LoadPc) : Loader :=
  { l.setTask i { t with pc } with calls := l.calls ++ [(i, c)] }

/-- The loop from `batchIndex` on (:150–175): the next batch, or the end. -/
def nextBatch (l : Loader) (i : Nat) (t : LoadTask) (batchIndex : Nat) : Loader :=
  if batchIndex < numBatches t.payloads.length then
    l.await i t (.decrypt (batch t.payloads batchIndex)) (.decryptBatch batchIndex)
  else { l.setTask i { t with pc := .resolved } with databaseLoaded := true }

/-- `loadDatabasePayloads(rawPayloads)` (:117–140) up to its first await. -/
def call (l : Loader) (rawPayloads : List DatabasePayload) : Loader :=
  let i := l.nextTask
  let l := { l with nextTask := i + 1 }
  if l.databaseLoaded then
    l.setTask i ⟨[], [], .rejected "Attempting to initialize already initialized local database."⟩
  else
    let (itemsKeysPayloads, payloads) := sortAndSplit srt rawPayloads
    l.await i ⟨itemsKeysPayloads, payloads, .decryptItemsKeys⟩ (.decrypt itemsKeysPayloads)
      .decryptItemsKeys

/-- Invocation `i` resumes from its await. -/
def resume (l : Loader) (i : Nat) : Loader :=
  match l.tasks i with
  | none => l
  | some t =>
    match t.pc with
    | .decryptItemsKeys => l.await i t (.map t.itemsKeysPayloads) .mapItemsKeys
    | .mapItemsKeys => l.nextBatch i t 0
    | .decryptBatch b => l.await i t (.map (batch t.payloads b)) (.mapBatch b)
    | .mapBatch b => l.nextBatch i t (b + 1)
    | .resolved | .rejected _ => l

def step (l : Loader) : LoadAct → Loader
  | .call rawPayloads => l.call srt rawPayloads
  | .resume i => l.resume i

def run (l : Loader) (acts : List LoadAct) : Loader := acts.foldl (step srt) l

end Loader

/-! ## The batches -/

/-- Erasing payloads that satisfy `p` passes over a head that does not. -/
theorem foldl_erase_cons {p : DatabasePayload → Bool} {x : DatabasePayload} (hx : p x = false) :
    ∀ (ys zs : List DatabasePayload), (∀ y ∈ ys, p y) →
      ys.foldl List.erase (x :: zs) = x :: ys.foldl List.erase zs
  | [], _, _ => rfl
  | y :: ys, zs, hy => by
    have hne : x ≠ y := fun e => by rw [e, hy y (List.mem_cons_self _ _)] at hx; cases hx
    rw [List.foldl_cons, List.foldl_cons, List.erase_cons_tail (by simpa using hne)]
    exact foldl_erase_cons hx ys _ fun y' h' => hy y' (List.mem_cons_of_mem _ h')

/-- `subtractFromArray` of the items keys leaves the other payloads, in their order. -/
theorem subtractFromArray_filter (p : DatabasePayload → Bool) :
    ∀ payloads : List DatabasePayload,
      subtractFromArray payloads (payloads.filter p) = payloads.filter (!p ·)
  | [] => rfl
  | x :: xs => by
    unfold subtractFromArray
    cases hx : p x
    · rw [List.filter_cons_of_neg (by simp [hx]),
        foldl_erase_cons hx _ _ fun y hy => (List.mem_filter.1 hy).2,
        List.filter_cons_of_pos (by simp [hx])]
      exact congrArg _ (subtractFromArray_filter p xs)
    · rw [List.filter_cons_of_pos hx, List.foldl_cons, List.erase_cons_head,
        List.filter_cons_of_neg (by simp [hx])]
      exact subtractFromArray_filter p xs

theorem length_batches (payloads : List DatabasePayload) :
    (batches payloads).length = numBatches payloads.length := by
  simp [batches]

/-- Every batch holds at most `DEFAULT_DATABASE_LOAD_BATCH_SIZE` payloads, and none is empty. -/
theorem length_mem_batches {payloads b : List DatabasePayload} (hb : b ∈ batches payloads) :
    0 < b.length ∧ b.length ≤ DEFAULT_DATABASE_LOAD_BATCH_SIZE := by
  obtain ⟨i, hi, rfl⟩ := List.mem_map.1 hb
  have hi : i < numBatches payloads.length := List.mem_range.1 hi
  simp only [batch, List.length_take, List.length_drop, numBatches,
    DEFAULT_DATABASE_LOAD_BATCH_SIZE] at hi ⊢
  omega

/-- The batches from `batchIndex` on cover the payloads from `batchIndex * 100` on. -/
theorem join_batches_from (payloads : List DatabasePayload) :
    ∀ k batchIndex, numBatches payloads.length = batchIndex + k →
      ((List.range' batchIndex k).map (batch payloads)).flatten =
        payloads.drop (batchIndex * DEFAULT_DATABASE_LOAD_BATCH_SIZE)
  | 0, batchIndex, h => by
    simp only [List.range'_zero, List.map_nil, List.flatten_nil]
    refine (List.drop_eq_nil_of_le ?_).symm
    simp only [numBatches, DEFAULT_DATABASE_LOAD_BATCH_SIZE] at h ⊢
    omega
  | k + 1, batchIndex, h => by
    rw [List.range'_succ, List.map_cons, List.flatten_cons,
      join_batches_from payloads k (batchIndex + 1) (by omega), batch, Nat.succ_mul,
      ← List.drop_drop, List.take_append_drop]

/-- **The batches partition the payloads.** Their number is `ceil(m / 100)` for `m`
payloads, each holds between one and a hundred, and in order they make up the payloads. -/
theorem batches_partition (payloads : List DatabasePayload) :
    (batches payloads).length = (payloads.length + 99) / 100 ∧
      (∀ b ∈ batches payloads, 0 < b.length ∧ b.length ≤ 100) ∧
      (batches payloads).flatten = payloads := by
  refine ⟨length_batches payloads, fun b hb => length_mem_batches hb, ?_⟩
  have := join_batches_from payloads (numBatches payloads.length) 0 (Nat.zero_add _).symm
  simpa only [List.range'_eq_map_range, List.map_map, Function.comp_def, Nat.zero_add,
    Nat.zero_mul, List.drop_zero] using this

theorem take_succ_batches {payloads : List DatabasePayload} {b : Nat}
    (hb : b < numBatches payloads.length) :
    (batches payloads).take (b + 1) = (batches payloads).take b ++ [batch payloads b] := by
  rw [List.take_succ, batches, List.getElem?_map, List.getElem?_range hb]
  rfl

/-! ## What one resumption does -/

/-- `nextBatch`'s target: batch `batchIndex` if there is one, else the end. -/
def nextBatchPc (n batchIndex : Nat) : LoadPc :=
  if batchIndex < n then .decryptBatch batchIndex else .resolved

/-- Where an invocation with `n` batches goes when it resumes. -/
def LoadPc.next (n : Nat) : LoadPc → LoadPc
  | .decryptItemsKeys => .mapItemsKeys
  | .mapItemsKeys => nextBatchPc n 0
  | .decryptBatch b => .mapBatch b
  | .mapBatch b => nextBatchPc n (b + 1)
  | .resolved => .resolved
  | .rejected message => .rejected message

/-- The batch a `pc` is at, if any. -/
def LoadPc.batchIndex? : LoadPc → Option Nat
  | .decryptBatch b | .mapBatch b => some b
  | _ => none

/-- The calls an invocation at its `pc` has made. -/
def LoadTask.made (t : LoadTask) : List LoadCall :=
  match t.pc with
  | .decryptItemsKeys => [.decrypt t.itemsKeysPayloads]
  | .mapItemsKeys => batchCalls t.itemsKeysPayloads
  | .decryptBatch b => batchCalls t.itemsKeysPayloads ++
      ((batches t.payloads).take b).flatMap batchCalls ++ [.decrypt (batch t.payloads b)]
  | .mapBatch b =>
    batchCalls t.itemsKeysPayloads ++ ((batches t.payloads).take (b + 1)).flatMap batchCalls
  | .resolved => loadCalls t.itemsKeysPayloads t.payloads
  | .rejected _ => []

/-- The payloads a call maps, if it is a `mapPayloadsToLocalItems`. -/
def LoadCall.mapped : LoadCall → Option (List DatabasePayload)
  | .decrypt _ => none
  | .map payloads => some payloads

/-- From batch `b` on, the loop resolves after two resumptions per batch left. -/
theorem iterate_next_nextBatchPc (n : Nat) :
    ∀ k b, b + k = n → (LoadPc.next n)^[2 * k] (nextBatchPc n b) = .resolved
  | 0, b, h => by simp [nextBatchPc, ← h]
  | k + 1, b, h => by
    rw [Nat.mul_succ, Function.iterate_add_apply, nextBatchPc, if_pos (by omega)]
    exact iterate_next_nextBatchPc n k (b + 1) (by omega)

/-- An invocation that passed the guard resolves after `2 * n + 2` resumptions. -/
theorem iterate_next_decryptItemsKeys (n : Nat) :
    (LoadPc.next n)^[2 * n + 2] .decryptItemsKeys = .resolved :=
  iterate_next_nextBatchPc n n 0 (Nat.zero_add n)

/-- Wherever an invocation that passed the guard is, enough resumptions resolve it. -/
theorem iterate_next_resolves (n k : Nat) :
    (LoadPc.next n)^[2 * n + 2] ((LoadPc.next n)^[k] .decryptItemsKeys) = .resolved := by
  rw [← Function.iterate_add_apply, Nat.add_comm, Function.iterate_add_apply,
    iterate_next_decryptItemsKeys]
  exact Function.iterate_fixed rfl k

theorem loadCalls_eq_take_drop (itemsKeysPayloads payloads : List DatabasePayload) (k : Nat) :
    loadCalls itemsKeysPayloads payloads = batchCalls itemsKeysPayloads ++
      ((batches payloads).take k).flatMap batchCalls ++ ((batches payloads).drop k).flatMap batchCalls := by
  conv_lhs => rw [loadCalls, ← List.take_append_drop k (batches payloads)]
  rw [List.flatMap_append, List.append_assoc]

/-- What an invocation has made is where `loadCalls` starts. -/
theorem LoadTask.made_prefix (t : LoadTask)
    (hr : t.pc.batchIndex?.all (· < numBatches t.payloads.length)) :
    t.made <+: loadCalls t.itemsKeysPayloads t.payloads := by
  obtain ⟨K, rest, pc⟩ := t
  cases pc with
  | decryptItemsKeys => exact ⟨_, rfl⟩
  | mapItemsKeys => exact List.prefix_append _ _
  | decryptBatch b =>
    have hb : b < numBatches rest.length := by simpa [LoadPc.batchIndex?] using hr
    refine ⟨.map (batch rest b) :: ((batches rest).drop (b + 1)).flatMap batchCalls, ?_⟩
    rw [loadCalls_eq_take_drop K rest (b + 1), take_succ_batches hb]
    simp [LoadTask.made, batchCalls]
  | mapBatch b => exact ⟨_, (loadCalls_eq_take_drop K rest (b + 1)).symm⟩
  | resolved => exact List.prefix_refl _
  | rejected _ => exact List.nil_prefix

namespace Loader

variable {srt : PayloadSort} {l : Loader} {i : Nat} {t : LoadTask}

/-- The calls invocation `i` has made, in order. -/
def callsOf (l : Loader) (i : Nat) : List LoadCall := (l.calls.filter (·.1 == i)).map (·.2)

@[simp] theorem tasks_setTask (t' : LoadTask) :
    (l.setTask i t').tasks = Function.update l.tasks i (some t') := rfl

theorem callsOf_await (c : LoadCall) (pc : LoadPc) (j : Nat) :
    (l.await i t c pc).callsOf j = if j = i then l.callsOf i ++ [c] else l.callsOf j := by
  by_cases hj : j = i
  · subst hj; simp [await, callsOf, setTask, List.filter_append]
  · simp [await, callsOf, setTask, List.filter_append, hj, Ne.symm hj]

theorem resume_of_some (ht : l.tasks i = some t) :
    ∃ calls databaseLoaded, l.resume i = { l with
      tasks := Function.update l.tasks i (some { t with pc := t.pc.next (numBatches t.payloads.length) }),
      calls, databaseLoaded } := by
  obtain ⟨K, rest, pc⟩ := t
  unfold resume
  rw [ht]
  cases pc with
  | resolved | rejected _ =>
    refine ⟨l.calls, l.databaseLoaded, ?_⟩
    simp only [LoadPc.next]
    rw [(Function.update_eq_self_iff (f := l.tasks) (a := i)).2 ht.symm]
  | decryptItemsKeys | decryptBatch _ => exact ⟨_, _, rfl⟩
  | mapItemsKeys | mapBatch _ =>
    simp only [nextBatch, LoadPc.next, nextBatchPc]
    split <;> exact ⟨_, _, rfl⟩

theorem call_of_not_loaded {rawPayloads K rest : List DatabasePayload}
    (hd : l.databaseLoaded = false) (hsplit : sortAndSplit srt rawPayloads = (K, rest)) :
    l.call srt rawPayloads = { l with nextTask := l.nextTask + 1 }.await l.nextTask
      ⟨K, rest, .decryptItemsKeys⟩ (.decrypt K) .decryptItemsKeys := by
  simp only [call, hd, hsplit, Bool.false_eq_true, if_false]

theorem call_of_loaded (hd : l.databaseLoaded = true) (rawPayloads : List DatabasePayload) :
    l.call srt rawPayloads = { l with nextTask := l.nextTask + 1 }.setTask l.nextTask
      ⟨[], [], .rejected "Attempting to initialize already initialized local database."⟩ := by
  simp only [call, hd, if_true]

theorem call_fields_of_not_loaded (srt : PayloadSort) (hd : l.databaseLoaded = false)
    (rawPayloads : List DatabasePayload) :
    (l.call srt rawPayloads).databaseLoaded = false ∧ (l.call srt rawPayloads).nextTask = l.nextTask + 1 ∧
      (l.call srt rawPayloads).tasks l.nextTask =
        some ⟨(sortAndSplit srt rawPayloads).1, (sortAndSplit srt rawPayloads).2, .decryptItemsKeys⟩ := by
  rw [call_of_not_loaded hd rfl]
  exact ⟨hd, rfl, Function.update_same _ _ _⟩

theorem tasks_call_of_ne (srt : PayloadSort) {j : Nat} (hj : j ≠ l.nextTask)
    (rawPayloads : List DatabasePayload) :
    (l.call srt rawPayloads).tasks j = l.tasks j := by
  cases hd : l.databaseLoaded
  · rw [call_of_not_loaded hd rfl]; exact Function.update_noteq hj _ _
  · rw [call_of_loaded hd]; exact Function.update_noteq hj _ _

theorem tasks_resume_of_ne {j : Nat} (hj : j ≠ i) : (l.resume i).tasks j = l.tasks j := by
  cases ht : l.tasks i with
  | none => simp only [resume, ht]
  | some t =>
    obtain ⟨_, _, he⟩ := resume_of_some ht
    rw [he]; exact Function.update_noteq hj _ _

theorem tasks_resume_of_some (ht : l.tasks i = some t) :
    (l.resume i).tasks i = some { t with pc := t.pc.next (numBatches t.payloads.length) } := by
  obtain ⟨_, _, he⟩ := resume_of_some ht
  rw [he]; exact Function.update_same _ _ _

end Loader

namespace Loader

variable {srt : PayloadSort} {l : Loader} {i : Nat} {t : LoadTask}

/-- What every reachable loader satisfies: each invocation has made the calls its position
accounts for, a batch index is in range, and one that resolved has set `databaseLoaded`. -/
structure Inv (l : Loader) : Prop where
  fresh : ∀ i, l.nextTask ≤ i → l.tasks i = none
  made : ∀ i t, l.tasks i = some t → l.callsOf i = t.made
  idle : ∀ i, l.tasks i = none → l.callsOf i = []
  inRange : ∀ i t, l.tasks i = some t → t.pc.batchIndex?.all (· < numBatches t.payloads.length)
  loaded : ∀ i t, l.tasks i = some t → t.pc = .resolved → l.databaseLoaded = true

theorem Inv.lt_nextTask (h : l.Inv) (ht : l.tasks i = some t) : i < l.nextTask :=
  Nat.lt_of_not_le fun hle => by rw [h.fresh i hle] at ht; cases ht

/-- Invocation `i` moves to `t'`, making the calls `t'` accounts for, and nothing else
changes but the log of `i` and a `databaseLoaded` that can only be set. -/
theorem Inv.update (h : l.Inv) {l' : Loader} (t' : LoadTask)
    (htasks : l'.tasks = Function.update l.tasks i (some t'))
    (hnext : l.nextTask ≤ l'.nextTask) (hi : i < l'.nextTask)
    (hcalls : ∀ j, j ≠ i → l'.callsOf j = l.callsOf j) (hmade : l'.callsOf i = t'.made)
    (hrange : t'.pc.batchIndex?.all (· < numBatches t'.payloads.length))
    (hloaded : l.databaseLoaded = true → l'.databaseLoaded = true)
    (hres : t'.pc = .resolved → l'.databaseLoaded = true) : l'.Inv where
  fresh j hj := by
    rw [htasks, Function.update_noteq (by omega)]
    exact h.fresh j (by omega)
  made j t0 hj := by
    rw [htasks] at hj
    by_cases hji : j = i
    · subst hji; rw [Function.update_same] at hj; cases hj; exact hmade
    · rw [Function.update_noteq hji] at hj; rw [hcalls j hji]; exact h.made j t0 hj
  idle j hj := by
    rw [htasks] at hj
    by_cases hji : j = i
    · subst hji; rw [Function.update_same] at hj; cases hj
    · rw [Function.update_noteq hji] at hj; rw [hcalls j hji]; exact h.idle j hj
  inRange j t0 hj := by
    rw [htasks] at hj
    by_cases hji : j = i
    · subst hji; rw [Function.update_same] at hj; cases hj; exact hrange
    · rw [Function.update_noteq hji] at hj; exact h.inRange j t0 hj
  loaded j t0 hj hpc := by
    rw [htasks] at hj
    by_cases hji : j = i
    · subst hji; rw [Function.update_same] at hj; cases hj; exact hres hpc
    · rw [Function.update_noteq hji] at hj; exact hloaded (h.loaded j t0 hj hpc)

theorem Inv.await (h : l.Inv) (ht : l.tasks i = some t) {c : LoadCall} {pc : LoadPc}
    (hmade : t.made ++ [c] = { t with pc }.made)
    (hrange : pc.batchIndex?.all (· < numBatches t.payloads.length)) (hpc : pc ≠ .resolved) :
    (l.await i t c pc).Inv :=
  h.update { t with pc } rfl le_rfl (h.lt_nextTask ht)
    (fun j hj => by rw [callsOf_await, if_neg hj])
    (by rw [callsOf_await, if_pos rfl, h.made i t ht, hmade]) hrange id
    (fun e => absurd e hpc)

/-- The loop, entered at `batchIndex` by an invocation that has mapped the items keys and the
batches before it. -/
theorem Inv.nextBatch (h : l.Inv) (ht : l.tasks i = some t) {b : Nat}
    (hmade : t.made = batchCalls t.itemsKeysPayloads ++ ((batches t.payloads).take b).flatMap batchCalls) :
    (l.nextBatch i t b).Inv := by
  unfold Loader.nextBatch
  split
  · next hb =>
    refine h.await ht ?_ (by simpa [LoadPc.batchIndex?] using hb) (by simp)
    rw [hmade]
    simp only [LoadTask.made, List.append_assoc]
  · next hb =>
    refine h.update { t with pc := .resolved } rfl le_rfl (h.lt_nextTask ht)
      (fun _ _ => rfl) ?_ rfl (fun _ => rfl) fun _ => rfl
    show l.callsOf i = loadCalls _ _
    rw [h.made i t ht, hmade, loadCalls, List.take_of_length_le (by rw [length_batches]; omega)]

theorem Inv.resume (h : l.Inv) (i : Nat) : (l.resume i).Inv := by
  unfold Loader.resume
  split
  · exact h
  · next t ht =>
    have hr := h.inRange i t ht
    split
    · next hpc => exact h.await ht (by simp [LoadTask.made, hpc, batchCalls]) rfl (by simp)
    · next hpc => exact h.nextBatch ht (by simp [LoadTask.made, hpc])
    · next b hpc =>
      rw [hpc] at hr
      refine h.await ht ?_ hr (by simp)
      simp only [LoadTask.made, hpc, take_succ_batches (by simpa [LoadPc.batchIndex?] using hr),
        List.flatMap_append, List.append_assoc]
      rfl
    · next b hpc => exact h.nextBatch ht (by simp [LoadTask.made, hpc])
    · exact h
    · exact h

theorem Inv.call (h : l.Inv) (rawPayloads : List DatabasePayload) :
    (l.call srt rawPayloads).Inv := by
  have hidle := h.idle l.nextTask (h.fresh _ le_rfl)
  cases hd : l.databaseLoaded
  · rw [call_of_not_loaded hd rfl]
    refine h.update _ rfl (Nat.le_succ _) (Nat.lt_succ_self _) (fun j hj => ?_) ?_ rfl
      (by simp [hd]) nofun
    · rw [callsOf_await, if_neg hj]; rfl
    · rw [callsOf_await, if_pos rfl]
      exact congrArg (· ++ _) hidle
  · rw [call_of_loaded hd]
    exact h.update _ rfl (Nat.le_succ _) (Nat.lt_succ_self _) (fun _ _ => rfl) hidle rfl id
      nofun

theorem Inv.step (h : l.Inv) : ∀ a, (l.step srt a).Inv
  | .call rawPayloads => h.call rawPayloads
  | .resume i => h.resume i

theorem Inv.run (h : l.Inv) (acts : List LoadAct) : (l.run srt acts).Inv := by
  induction acts generalizing l with
  | nil => exact h
  | cons a acts ih => exact ih (h.step a)

theorem inv_empty : ({} : Loader).Inv where
  fresh _ _ := rfl
  made _ _ h := by cases h
  idle _ _ := rfl
  inRange _ _ h := by cases h
  loaded _ _ h := by cases h

/-- A loader that some run from the start reaches. -/
def Reachable (srt : PayloadSort) (l : Loader) : Prop := ∃ acts, ({} : Loader).run srt acts = l

theorem Reachable.inv (h : l.Reachable srt) : l.Inv := by
  obtain ⟨acts, rfl⟩ := h
  exact inv_empty.run acts

theorem Reachable.run (h : l.Reachable srt) (acts : List LoadAct) : (l.run srt acts).Reachable srt := by
  obtain ⟨acts₀, rfl⟩ := h
  exact ⟨acts₀ ++ acts, List.foldl_append _ _ _ _⟩

/-! ## One invocation along a run -/

/-- A step moves at most the invocation it resumes, one position along `LoadPc.next`. -/
theorem tasks_step_of_some (srt : PayloadSort) (h : l.Inv) {j : Nat} (ht : l.tasks j = some t)
    (a : LoadAct) :
    (l.step srt a).tasks j = some t ∨
      (l.step srt a).tasks j = some { t with pc := t.pc.next (numBatches t.payloads.length) } := by
  cases a with
  | call rawPayloads =>
    exact .inl ((tasks_call_of_ne srt (Nat.ne_of_lt (h.lt_nextTask ht)) rawPayloads).trans ht)
  | resume i =>
    by_cases hji : j = i
    · subst hji; exact .inr (tasks_resume_of_some ht)
    · exact .inl ((tasks_resume_of_ne hji).trans ht)

/-- Over any run, an invocation keeps its payloads and moves only along `LoadPc.next`. -/
theorem tasks_run_of_some {j : Nat} (acts : List LoadAct) :
    ∀ {l : Loader} (k : Nat), l.Inv →
      l.tasks j = some { t with pc := (LoadPc.next (numBatches t.payloads.length))^[k] t.pc } →
      ∃ k', (l.run srt acts).tasks j =
        some { t with pc := (LoadPc.next (numBatches t.payloads.length))^[k'] t.pc } := by
  induction acts with
  | nil => exact fun k _ ht => ⟨k, ht⟩
  | cons a acts ih =>
    intro l k h ht
    rcases tasks_step_of_some srt h ht a with h' | h'
    · exact ih k (h.step a) h'
    · refine ih (k + 1) (h.step a) ?_
      rw [Function.iterate_succ_apply']
      exact h'

/-- Resuming an invocation `k` times moves it `k` positions. -/
theorem tasks_run_replicate_resume (k : Nat) :
    ∀ {l : Loader} {t : LoadTask}, l.tasks i = some t →
      (l.run srt (List.replicate k (.resume i))).tasks i =
        some { t with pc := (LoadPc.next (numBatches t.payloads.length))^[k] t.pc } := by
  induction k with
  | zero => exact fun ht => ht
  | succ k ih => exact fun ht => ih (tasks_resume_of_some ht)

/-- An invocation that passed the guard has made a prefix of `loadCalls` whatever ran since,
and `2 * n + 2` more resumptions of it make all of them. -/
theorem callsOf_run_of_not_loaded (hl : l.Reachable srt) (hd : l.databaseLoaded = false)
    {rawPayloads K rest : List DatabasePayload} (hsplit : sortAndSplit srt rawPayloads = (K, rest))
    (acts : List LoadAct) :
    ((l.call srt rawPayloads).run srt acts).callsOf l.nextTask <+: loadCalls K rest ∧
      (((l.call srt rawPayloads).run srt acts).run srt
        (List.replicate (2 * numBatches rest.length + 2) (.resume l.nextTask))).callsOf l.nextTask =
          loadCalls K rest := by
  have hreach : ((l.call srt rawPayloads).run srt acts).Reachable srt :=
    (hl.run [.call rawPayloads]).run acts
  have ht₀ : (l.call srt rawPayloads).tasks l.nextTask = some ⟨K, rest, .decryptItemsKeys⟩ := by
    rw [call_of_not_loaded hd hsplit]; exact Function.update_same _ _ _
  obtain ⟨k, ht⟩ := tasks_run_of_some (t := ⟨K, rest, .decryptItemsKeys⟩) acts 0
    (hl.inv.call rawPayloads) ht₀
  refine ⟨?_, ?_⟩
  · rw [hreach.inv.made _ _ ht]
    exact LoadTask.made_prefix _ (hreach.inv.inRange _ _ ht)
  · rw [(hreach.run _).inv.made _ _ (tasks_run_replicate_resume _ ht)]
    show LoadTask.made ⟨K, rest, _⟩ = _
    rw [iterate_next_resolves]
    rfl

end Loader

/-! ## What a load maps -/

theorem filterMap_mapped_flatMap_batchCalls :
    ∀ bs : List (List DatabasePayload), (bs.flatMap batchCalls).filterMap LoadCall.mapped = bs
  | [] => rfl
  | b :: bs => by
    simp [batchCalls, LoadCall.mapped, filterMap_mapped_flatMap_batchCalls bs]

/-- The payloads `loadCalls` maps: the items keys, then each batch. -/
theorem filterMap_mapped_loadCalls (itemsKeysPayloads payloads : List DatabasePayload) :
    (loadCalls itemsKeysPayloads payloads).filterMap LoadCall.mapped =
      itemsKeysPayloads :: batches payloads := by
  simp [loadCalls, batchCalls, LoadCall.mapped, filterMap_mapped_flatMap_batchCalls]

/-- **`loadDatabasePayloads` maps the items keys, then the rest in batches.** Called on any
payloads from any reachable loader whose database is not loaded, an invocation decrypts and
maps the items keys in one call, then the other payloads, in sorted order, in `ceil(m / 100)`
batches of one to a hundred with no items key among them; together it maps every payload once.
Whatever runs meanwhile, the calls it has made are where that list starts, and `2 * n + 2`
resumptions of it make the whole list. -/
theorem load_maps_items_keys_then_batches (srt : PayloadSort) (l : Loader) (hl : l.Reachable srt)
    (hd : l.databaseLoaded = false) (rawPayloads K rest : List DatabasePayload)
    (hsplit : sortAndSplit srt rawPayloads = (K, rest)) (acts : List LoadAct) :
    K.Perm (rawPayloads.filter isItemsKey) ∧
    rest = (srt.sort rawPayloads localLoadPriorty).filter (!isItemsKey ·) ∧
    (batches rest).length = (rest.length + 99) / 100 ∧
    (∀ b ∈ batches rest, 0 < b.length ∧ b.length ≤ 100 ∧ ∀ p ∈ b, isItemsKey p = false) ∧
    (batches rest).flatten = rest ∧
    (loadCalls K rest).filterMap LoadCall.mapped = K :: batches rest ∧
    (K :: batches rest).flatten.Perm rawPayloads ∧
    ((l.call srt rawPayloads).run srt acts).callsOf l.nextTask <+: loadCalls K rest ∧
    (((l.call srt rawPayloads).run srt acts).run srt
      (List.replicate (2 * numBatches rest.length + 2) (.resume l.nextTask))).callsOf l.nextTask =
        loadCalls K rest := by
  have hcalls := Loader.callsOf_run_of_not_loaded hl hd hsplit acts
  simp only [sortAndSplit, subtractFromArray_filter, Prod.mk.injEq] at hsplit
  obtain ⟨rfl, rfl⟩ := hsplit
  obtain ⟨hlen, hsize, hflat⟩ := batches_partition ((srt.sort rawPayloads localLoadPriorty).filter (!isItemsKey ·))
  refine ⟨(srt.perm _ _).filter _, rfl, hlen, fun b hb => ⟨(hsize b hb).1, (hsize b hb).2, fun p hp => ?_⟩,
    hflat, filterMap_mapped_loadCalls _ _, ?_, hcalls⟩
  · have hp : p ∈ (srt.sort rawPayloads localLoadPriorty).filter (!isItemsKey ·) :=
      hflat ▸ List.mem_flatten.2 ⟨b, hb, hp⟩
    simpa using (List.mem_filter.1 hp).2
  · rw [List.flatten_cons, hflat]
    exact (List.filter_append_perm _ _).trans (srt.perm _ _)

/-- An items key and a note. -/
def sampleDatabase : List DatabasePayload := [⟨"k", ItemsKeyContentType⟩, ⟨"n", "Note"⟩]

/-- The load of `sampleDatabase` from the start, with nothing else run. -/
theorem load_sample_database :
    ([⟨"k", ItemsKeyContentType⟩] : List DatabasePayload).Perm (sampleDatabase.filter isItemsKey) ∧
    ([⟨"n", "Note"⟩] : List DatabasePayload) =
      (PayloadSort.keepOrder.sort sampleDatabase localLoadPriorty).filter (!isItemsKey ·) ∧
    (batches [⟨"n", "Note"⟩]).length = (([⟨"n", "Note"⟩] : List DatabasePayload).length + 99) / 100 ∧
    (∀ b ∈ batches [⟨"n", "Note"⟩], 0 < b.length ∧ b.length ≤ 100 ∧ ∀ p ∈ b, isItemsKey p = false) ∧
    (batches [⟨"n", "Note"⟩]).flatten = [⟨"n", "Note"⟩] ∧
    (loadCalls [⟨"k", ItemsKeyContentType⟩] [⟨"n", "Note"⟩]).filterMap LoadCall.mapped =
      [⟨"k", ItemsKeyContentType⟩] :: batches [⟨"n", "Note"⟩] ∧
    ([⟨"k", ItemsKeyContentType⟩] :: batches [⟨"n", "Note"⟩]).flatten.Perm sampleDatabase ∧
    (({} : Loader).call PayloadSort.keepOrder sampleDatabase).callsOf 0 <+:
      loadCalls [⟨"k", ItemsKeyContentType⟩] [⟨"n", "Note"⟩] ∧
    ((({} : Loader).call PayloadSort.keepOrder sampleDatabase).run PayloadSort.keepOrder
      (List.replicate (2 * numBatches 1 + 2) (.resume 0))).callsOf 0 =
        loadCalls [⟨"k", ItemsKeyContentType⟩] [⟨"n", "Note"⟩] :=
  load_maps_items_keys_then_batches PayloadSort.keepOrder {} ⟨[], rfl⟩ rfl sampleDatabase _ _ rfl []

/-- **Two loads that overlap both map.** From any reachable loader whose database is not
loaded, two calls made before either resumes both pass the guard, which is read on entry and
set only at the end: after one resumption each, both have decrypted and mapped their items
keys. The guard turns a call away only once `databaseLoaded` is set, and that call makes no
call at all. -/
theorem concurrent_loads_both_map (srt : PayloadSort) (l : Loader) (hl : l.Reachable srt)
    (hd : l.databaseLoaded = false) (raw₁ raw₂ : List DatabasePayload) :
    (l.run srt [.call raw₁, .call raw₂, .resume l.nextTask, .resume (l.nextTask + 1)]).callsOf
        l.nextTask = batchCalls (sortAndSplit srt raw₁).1 ∧
      (l.run srt [.call raw₁, .call raw₂, .resume l.nextTask, .resume (l.nextTask + 1)]).callsOf
        (l.nextTask + 1) = batchCalls (sortAndSplit srt raw₂).1 ∧
      ∀ l' : Loader, l'.Reachable srt → l'.databaseLoaded = true → ∀ rawPayloads,
        (l'.call srt rawPayloads).tasks l'.nextTask =
          some ⟨[], [], .rejected "Attempting to initialize already initialized local database."⟩ ∧
        (l'.call srt rawPayloads).callsOf l'.nextTask = [] := by
  obtain ⟨hd₁, hn₁, ht₁⟩ := Loader.call_fields_of_not_loaded srt hd raw₁
  obtain ⟨-, hn₂, ht₂⟩ := Loader.call_fields_of_not_loaded srt hd₁ raw₂
  rw [hn₁] at ht₂
  have ht₁' := (Loader.tasks_call_of_ne srt (by omega) raw₂).trans ht₁
  have h := (hl.run [.call raw₁, .call raw₂, .resume l.nextTask, .resume (l.nextTask + 1)]).inv
  refine ⟨h.made _ _ ((Loader.tasks_resume_of_ne (Nat.succ_ne_self _).symm).trans
      (Loader.tasks_resume_of_some ht₁')),
    h.made _ _ (Loader.tasks_resume_of_some
      ((Loader.tasks_resume_of_ne (Nat.succ_ne_self _)).trans ht₂)),
    fun l' hl' hd' rawPayloads => ?_⟩
  rw [Loader.call_of_loaded hd']
  exact ⟨Function.update_same _ _ _, hl'.inv.idle _ (hl'.inv.fresh _ le_rfl)⟩

/-- Two loads of `sampleDatabase` from the start. -/
theorem two_sample_loads_both_map :
    (({} : Loader).run PayloadSort.keepOrder
        [.call sampleDatabase, .call sampleDatabase, .resume 0, .resume 1]).callsOf 0 =
      batchCalls (sortAndSplit PayloadSort.keepOrder sampleDatabase).1 ∧
    (({} : Loader).run PayloadSort.keepOrder
        [.call sampleDatabase, .call sampleDatabase, .resume 0, .resume 1]).callsOf 1 =
      batchCalls (sortAndSplit PayloadSort.keepOrder sampleDatabase).1 ∧
    ∀ l' : Loader, l'.Reachable PayloadSort.keepOrder → l'.databaseLoaded = true → ∀ rawPayloads,
      (l'.call PayloadSort.keepOrder rawPayloads).tasks l'.nextTask =
        some ⟨[], [], .rejected "Attempting to initialize already initialized local database."⟩ ∧
      (l'.call PayloadSort.keepOrder rawPayloads).callsOf l'.nextTask = [] :=
  concurrent_loads_both_map PayloadSort.keepOrder {} ⟨[], rfl⟩ rfl sampleDatabase sampleDatabase

/-! ## What `databaseLoaded` records -/

namespace Loader

variable {srt : PayloadSort} {l : Loader}

/-- `databaseLoaded` is set only once some invocation has resolved. -/
def LoadedByResolved (l : Loader) : Prop :=
  l.databaseLoaded = true → ∃ i t, l.tasks i = some t ∧ t.pc = .resolved

/-- A resolved invocation stays resolved. -/
theorem resolved_step (h : l.Inv) {j : Nat} {t : LoadTask} (ht : l.tasks j = some t)
    (hr : t.pc = .resolved) (a : LoadAct) : (l.step srt a).tasks j = some t := by
  rcases tasks_step_of_some srt h ht a with h' | h'
  · exact h'
  · obtain ⟨K, rest, pc⟩ := t
    subst hr
    exact h'

/-- Resuming an invocation sets `databaseLoaded` only when it resolves. -/
theorem resume_loaded {i : Nat} (hd : l.databaseLoaded = false)
    (h : (l.resume i).databaseLoaded = true) :
    ∃ t, (l.resume i).tasks i = some t ∧ t.pc = .resolved := by
  have nb : ∀ t b, (l.nextBatch i t b).databaseLoaded = true →
      ∃ t', (l.nextBatch i t b).tasks i = some t' ∧ t'.pc = .resolved := by
    intro t b hb
    by_cases hlt : b < numBatches t.payloads.length
    · simp [nextBatch, hlt, await, setTask, hd] at hb
    · exact ⟨{ t with pc := .resolved }, by simp [nextBatch, hlt, setTask], rfl⟩
  unfold resume at h ⊢
  rcases ht : l.tasks i with _ | t
  · simp [ht, hd] at h
  · simp only [ht] at h ⊢
    cases hpc : t.pc <;> simp only [hpc] at h ⊢
    all_goals first | simp [await, setTask, hd] at h | exact nb _ _ h

theorem LoadedByResolved.step (h : l.Inv) (hl : LoadedByResolved l) (a : LoadAct) :
    LoadedByResolved (l.step srt a) := fun hd' => by
  cases hd : l.databaseLoaded
  · cases a with
    | call rawPayloads =>
      change (l.call srt rawPayloads).databaseLoaded = true at hd'
      rw [(call_fields_of_not_loaded srt hd rawPayloads).1] at hd'
      cases hd'
    | resume i =>
      obtain ⟨t, ht, hr⟩ := resume_loaded hd hd'
      exact ⟨i, t, ht, hr⟩
  · obtain ⟨j, t, ht, hr⟩ := hl hd
    exact ⟨j, t, resolved_step h ht hr a, hr⟩

theorem LoadedByResolved.run (h : l.Inv) (hl : LoadedByResolved l) (acts : List LoadAct) :
    LoadedByResolved (l.run srt acts) := by
  induction acts generalizing l with
  | nil => exact hl
  | cons a acts ih => exact ih (h.step a) (hl.step h a)

end Loader

/-- **`databaseLoaded` means a load completed.** Under every schedule of
`loadDatabasePayloads` calls and resumptions from a fresh manager, `databaseLoaded` is set
exactly when some invocation has resolved; and every invocation that has resolved has set it
and has made all of `loadCalls`: its items keys decrypted and mapped, then every batch
decrypted and mapped, in order. The flag is never set on a partial load. -/
theorem database_loaded_iff_load_completed (srt : PayloadSort) (acts : List LoadAct) :
    ((({} : Loader).run srt acts).databaseLoaded = true ↔
      ∃ i t, (({} : Loader).run srt acts).tasks i = some t ∧ t.pc = .resolved) ∧
    ∀ i t, (({} : Loader).run srt acts).tasks i = some t → t.pc = .resolved →
      (({} : Loader).run srt acts).databaseLoaded = true ∧
        (({} : Loader).run srt acts).callsOf i = loadCalls t.itemsKeysPayloads t.payloads := by
  have hinv : (({} : Loader).run srt acts).Inv := Loader.Reachable.inv ⟨acts, rfl⟩
  have hres : Loader.LoadedByResolved (({} : Loader).run srt acts) :=
    Loader.LoadedByResolved.run Loader.inv_empty nofun acts
  refine ⟨⟨hres, fun ⟨i, t, ht, hr⟩ => hinv.loaded i t ht hr⟩,
    fun i t ht hr => ⟨hinv.loaded i t ht hr, ?_⟩⟩
  rw [hinv.made i t ht, LoadTask.made, hr]

/-- A load of `sampleDatabase` run to its end: it resolves, sets `databaseLoaded` and has
made every call. -/
theorem sample_load_completes :
    (({} : Loader).run PayloadSort.keepOrder
        (.call sampleDatabase :: List.replicate 4 (.resume 0))).tasks 0 =
      some ⟨[⟨"k", ItemsKeyContentType⟩], [⟨"n", "Note"⟩], .resolved⟩ ∧
    (({} : Loader).run PayloadSort.keepOrder
        (.call sampleDatabase :: List.replicate 4 (.resume 0))).databaseLoaded = true ∧
    (({} : Loader).run PayloadSort.keepOrder
        (.call sampleDatabase :: List.replicate 4 (.resume 0))).callsOf 0 =
      loadCalls [⟨"k", ItemsKeyContentType⟩] [⟨"n", "Note"⟩] :=
  have h := (database_loaded_iff_load_completed PayloadSort.keepOrder
    (.call sampleDatabase :: List.replicate 4 (.resume 0))).2 0
    ⟨[⟨"k", ItemsKeyContentType⟩], [⟨"n", "Note"⟩], .resolved⟩ (by decide) rfl
  ⟨by decide, h⟩

end Snjs.Sync
