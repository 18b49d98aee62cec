import Mathlib.Logic.Function.Basic

/-!
# The storage steps of a sync response, and where a crash can stop them

`handleSuccessServerResponse` (sync_manager.js:548–621) writes the response's cursor first:
`setLastSyncToken` and `setPaginationToken` (:551–552, not awaited) each take one storage
step, a `setValue` or a `removeValue` (:178–190). Only after the decryption loop and the
resolver does it persist each reconciled collection, with one `savePayloads` per non-empty
collection (:580–599), a collection without content having each payload merged with its
master copy first. The handler is modelled as the storage steps it takes, in order, and
whether it gets to its end; a crash between two steps leaves a prefix of them applied.

- `response_persisted`: from its first step on, the storage holds the response's
  `lastSyncToken`, and from its second on its `paginationToken`, with no payload saved yet;
  when every payload to merge has a master copy, the handler gets to its end and every payload
  of every reconciled collection is stored as well.
- `cursor_before_payloads`: a crash after the first step leaves the cursor stored and a
  retrieved payload not.
- `merge_without_master_raises`: a payload to merge without a master copy makes
  `base.mergedWith` raise (:589–591), against the comment at :588; the tokens are stored and
  no payload of that collection or a later one is.

The decryption loop and the resolver take no storage step; the collections the resolver
returns are the handler's input here, as is the master collection read at :572. A token is
modelled as a value that is always truthy: `if (token)` (:185) tests only for presence, and an
empty token, which the code would remove instead of storing, is left out.
-/

namespace Snjs.Sync.Response

/-- The fields of a payload the handler reads: its uuid and its content, which payload
classes without a content field (remote-saved payloads) omit; `updatedAt` stands for the
rest of it. -/
structure Payload where
  uuid : Nat
  content : Option Nat
  updatedAt : Nat
  deriving DecidableEq, Repr

/-- Modelled from the spec: `PurePayload.mergedWith` is not under src/. A payload whose
variant omits content is merged with the master copy's content before it is persisted
(§4.3, response handling). -/
def Payload.mergedWith (base p : Payload) : Payload := { p with content := base.content }

/-- `masterCollection.findPayload(uuid)`. -/
def findPayload (master : List Payload) (uuid : Nat) : Option Payload :=
  master.find? (·.uuid = uuid)

/-- A collection `collectionsByProcessingResponse()` returns: whether
`payloadClassForSource(collection.source).fields()` includes the content field, and its
payloads. -/
structure Collection where
  withContent : Bool
  allPayloads : List Payload
  deriving DecidableEq, Repr

/-- The fields of a successful response that the handler writes to storage. -/
structure SyncResponse where
  lastSyncToken : Nat
  paginationToken : Option Nat
  deriving DecidableEq, Repr

/-- `StorageKeys.LastSyncToken` and `StorageKeys.PaginationToken`. -/
inductive StorageKey
  | lastSyncToken
  | paginationToken
  deriving DecidableEq, Repr

/-- One atomic step of the storage manager. -/
inductive StorageStep
  | setValue (key : StorageKey) (value : Nat)
  | removeValue (key : StorageKey)
  | savePayloads (payloads : List Payload)
  deriving DecidableEq, Repr

/-- The storage: a key-value map, and the payloads saved so far. -/
structure Storage where
  values : StorageKey → Option Nat
  payloads : List Payload

/-- The payloads a step saves. -/
def StorageStep.saved : StorageStep → List Payload
  | .savePayloads ps => ps
  | _ => []

/-- Whether a step writes the value under `k`. -/
def StorageStep.writes (k : StorageKey) : StorageStep → Bool
  | .setValue k' _ | .removeValue k' => k' = k
  | .savePayloads _ => false

namespace Storage

/-- One storage step. -/
def apply (s : Storage) : StorageStep → Storage
  | .setValue k v => { s with values := Function.update s.values k (some v) }
  | .removeValue k => { s with values := Function.update s.values k none }
  | .savePayloads ps => { s with payloads := s.payloads ++ ps }

/-- Storage steps one after another. -/
def run (s : Storage) (steps : List StorageStep) : Storage := steps.foldl apply s

@[simp] theorem run_nil (s : Storage) : s.run [] = s := rfl

@[simp] theorem run_cons (s : Storage) (st : StorageStep) (steps : List StorageStep) :
    s.run (st :: steps) = (s.apply st).run steps := rfl

/-- The payloads after some steps are those before and those the steps saved. -/
theorem run_payloads (steps : List StorageStep) (s : Storage) :
    (s.run steps).payloads = s.payloads ++ steps.flatMap StorageStep.saved := by
  induction steps generalizing s with
  | nil => simp
  | cons st steps ih => cases st <;> simp [ih, apply, StorageStep.saved]

/-- Steps that do not write under `k` leave its value as it is. -/
theorem run_values_of_not_writes {k : StorageKey} (steps : List StorageStep)
    (h : ∀ st ∈ steps, st.writes k = false) (s : Storage) : (s.run steps).values k = s.values k := by
  induction steps generalizing s with
  | nil => rfl
  | cons st steps ih =>
    rw [run_cons, ih (fun st' h' => h st' (.tail _ h'))]
    have hk := h st (.head _)
    cases st with
    | setValue k' _ | removeValue k' =>
      exact Function.update_noteq (fun e => by simp [StorageStep.writes, e] at hk) _ _
    | savePayloads _ => rfl

end Storage

/-- `setLastSyncToken(token)` (:178–181). -/
def setLastSyncToken (token : Nat) : List StorageStep := [.setValue .lastSyncToken token]

/-- `setPaginationToken(token)` (:183–190): stored when there is one, removed otherwise. -/
def setPaginationToken : Option Nat → List StorageStep
  | some token => [.setValue .paginationToken token]
  | none => [.removeValue .paginationToken]

/-- `persistPayloads({ decryptedPayloads })` (:648–653): one `savePayloads` unless empty. -/
def persistPayloads (ps : List Payload) : List StorageStep :=
  if ps.isEmpty then [] else [.savePayloads ps]

/-- `payloadsToPersist` (:583–593): a collection without content has each payload merged
with its master copy, and `base.mergedWith` raises when there is none (`none`). -/
def payloadsToPersist (master : List Payload) (c : Collection) : Option (List Payload) :=
  if c.withContent then some c.allPayloads
  else c.allPayloads.mapM fun p => (findPayload master p.uuid).map (·.mergedWith p)

/-- The collection loop (:580–599): its storage steps, and whether it got to its end. -/
def persistCollections (master : List Payload) : List Collection → List StorageStep × Bool
  | [] => ([], true)
  | c :: cs =>
    match payloadsToPersist master c with
    | none => ([], false)
    | some ps =>
      let r := persistCollections master cs
      (persistPayloads ps ++ r.1, r.2)

/-- `handleSuccessServerResponse({ operation, response })` (:548–621) as the storage steps it
takes, in order, and whether it gets to its end. -/
def handleSuccessServerResponse (master : List Payload) (response : SyncResponse)
    (collections : List Collection) : List StorageStep × Bool :=
  let r := persistCollections master collections
  (setLastSyncToken response.lastSyncToken ++ setPaginationToken response.paginationToken ++ r.1,
    r.2)

/-! ## What a prefix of the steps leaves in storage -/

theorem persistPayloads_saved (ps : List Payload) :
    (persistPayloads ps).flatMap StorageStep.saved = ps := by
  unfold persistPayloads
  split <;> simp_all [StorageStep.saved]

theorem persistPayloads_writes (ps : List Payload) (k : StorageKey) :
    ∀ st ∈ persistPayloads ps, st.writes k = false := by
  unfold persistPayloads
  split <;> simp [StorageStep.writes]

/-- The collection loop writes no value. -/
theorem persistCollections_writes (master : List Payload) (k : StorageKey) :
    ∀ cs : List Collection, ∀ st ∈ (persistCollections master cs).1, st.writes k = false
  | [] => fun _ h => nomatch h
  | c :: cs => by
    unfold persistCollections
    split
    · exact fun _ h => nomatch h
    · intro st hst
      rcases List.mem_append.mp hst with h | h
      · exact persistPayloads_writes _ k st h
      · exact persistCollections_writes master k cs st h

/-- A collection loop that got to its end saved every payload of every collection. -/
theorem persistCollections_complete (master : List Payload) :
    ∀ cs : List Collection, (persistCollections master cs).2 = true →
      ∀ c ∈ cs, ∀ ps, payloadsToPersist master c = some ps →
        ps ⊆ (persistCollections master cs).1.flatMap StorageStep.saved
  | [] => fun _ _ h => nomatch h
  | c :: cs => by
    unfold persistCollections
    split
    · exact fun h => nomatch h
    · rename_i ps0 hps0
      intro hdone c' hc' ps hps
      simp only [List.flatMap_append, persistPayloads_saved]
      rcases List.mem_cons.mp hc' with rfl | hc'
      · rw [hps0] at hps; cases hps
        exact List.subset_append_left _ _
      · exact List.Subset.trans (persistCollections_complete master cs hdone c' hc' ps hps)
          (List.subset_append_right _ _)

/-- The merge of a collection without content raises at a payload with no master copy. -/
theorem payloadsToPersist_eq_none {master : List Payload} {c : Collection}
    (hc : c.withContent = false) {p : Payload} (hp : p ∈ c.allPayloads)
    (hnone : findPayload master p.uuid = none) : payloadsToPersist master c = none := by
  simp only [payloadsToPersist, hc, Bool.false_eq_true, if_false]
  generalize c.allPayloads = ps at hp
  induction ps with
  | nil => cases hp
  | cons q qs ih =>
    rcases List.mem_cons.1 hp with rfl | hp
    · rw [List.mapM_cons, hnone]; rfl
    · simp only [List.mapM_cons, ih hp]
      cases (findPayload master q.uuid).map (·.mergedWith q) <;> rfl

/-- Every merge of a collection finds its master copy. -/
theorem payloadsToPersist_isSome {master : List Payload} {c : Collection}
    (h : c.withContent = false → ∀ p ∈ c.allPayloads, (findPayload master p.uuid).isSome) :
    (payloadsToPersist master c).isSome := by
  unfold payloadsToPersist
  split
  · rfl
  · next hc =>
    have h := h (by simpa using hc)
    generalize c.allPayloads = ps at h
    induction ps with
    | nil => rfl
    | cons q qs ih =>
      obtain ⟨b, hb⟩ := Option.isSome_iff_exists.1 (h q (.head _))
      obtain ⟨bs, hbs⟩ := Option.isSome_iff_exists.1 (ih fun p hp => h p (.tail _ hp))
      rw [List.mapM_cons, hb, hbs]; rfl

/-- A collection loop whose merges all find their master copies gets to its end. -/
theorem persistCollections_of_isSome (master : List Payload) :
    ∀ cs : List Collection, (∀ c ∈ cs, (payloadsToPersist master c).isSome) →
      (persistCollections master cs).2 = true
  | [], _ => rfl
  | c :: cs, h => by
    obtain ⟨ps, hps⟩ := Option.isSome_iff_exists.1 (h c (.head _))
    rw [persistCollections, hps]
    exact persistCollections_of_isSome master cs fun c' hc' => h c' (.tail _ hc')

/-- A collection loop that reaches a merge raising at `c` stops there: it has saved the
collections before `c` and no more. -/
theorem persistCollections_append_of_none (master : List Payload) {c : Collection}
    (hc : payloadsToPersist master c = none) (cs₂ : List Collection) :
    ∀ cs₁ : List Collection, (∀ c' ∈ cs₁, (payloadsToPersist master c').isSome) →
      (persistCollections master (cs₁ ++ c :: cs₂)).2 = false ∧
        (persistCollections master (cs₁ ++ c :: cs₂)).1.flatMap StorageStep.saved =
          (cs₁.filterMap (payloadsToPersist master)).flatten
  | [], _ => by simp [persistCollections, hc]
  | c' :: cs₁, h => by
    obtain ⟨ps, hps⟩ := Option.isSome_iff_exists.1 (h c' (.head _))
    obtain ⟨ih₁, ih₂⟩ := persistCollections_append_of_none master hc cs₂ cs₁
      fun c'' hc'' => h c'' (.tail _ hc'')
    rw [List.cons_append, persistCollections]
    simp only [hps, List.flatMap_append, persistPayloads_saved, ih₁, ih₂,
      List.filterMap_cons, List.flatten_cons, and_self, true_and]

theorem handleSuccessServerResponse_fst (master : List Payload) (response : SyncResponse)
    (collections : List Collection) :
    (handleSuccessServerResponse master response collections).1 =
      .setValue .lastSyncToken response.lastSyncToken ::
        (setPaginationToken response.paginationToken ++ (persistCollections master collections).1) :=
  rfl

theorem setPaginationToken_writes (token : Option Nat) :
    ∀ st ∈ setPaginationToken token, st.writes .lastSyncToken = false := by
  cases token <;> simp [setPaginationToken, StorageStep.writes]

/-- **The cursor is stored first.** After any prefix of the handler's storage steps past the
first, the storage holds the response's `lastSyncToken`; past the second, its
`paginationToken` (none once removed). -/
theorem run_take_values (s : Storage) (master : List Payload) (response : SyncResponse)
    (collections : List Collection) (k : Nat) :
    (s.run ((handleSuccessServerResponse master response collections).1.take (k + 1))).values
      .lastSyncToken = some response.lastSyncToken ∧
    (s.run ((handleSuccessServerResponse master response collections).1.take (k + 2))).values
      .paginationToken = response.paginationToken := by
  have loop : ∀ key, ∀ st ∈ (persistCollections master collections).1.take k,
      st.writes key = false :=
    fun key st h => persistCollections_writes master key collections st (List.mem_of_mem_take h)
  constructor
  · rw [handleSuccessServerResponse_fst, List.take_succ_cons, Storage.run_cons,
      Storage.run_values_of_not_writes]
    · simp [Storage.apply]
    · intro st h
      rcases List.mem_append.mp (List.mem_of_mem_take h) with h | h
      · exact setPaginationToken_writes _ st h
      · exact persistCollections_writes master _ collections st h
  · cases hp : response.paginationToken <;>
      simp only [handleSuccessServerResponse_fst, hp, setPaginationToken, List.singleton_append,
        List.take_succ_cons, Storage.run_cons] <;>
      rw [Storage.run_values_of_not_writes _ (loop _)] <;> simp [Storage.apply]

/-- The handler's steps all run: the storage holds the response's tokens. -/
theorem run_values (s : Storage) (master : List Payload) (response : SyncResponse)
    (collections : List Collection) :
    (s.run (handleSuccessServerResponse master response collections).1).values .lastSyncToken =
      some response.lastSyncToken ∧
    (s.run (handleSuccessServerResponse master response collections).1).values .paginationToken =
      response.paginationToken := by
  have hlen : (handleSuccessServerResponse master response collections).1.length =
      (persistCollections master collections).1.length + 2 := by
    cases hp : response.paginationToken <;>
      simp [handleSuccessServerResponse, setLastSyncToken, setPaginationToken, hp]
  have hv := run_take_values s master response collections
    (handleSuccessServerResponse master response collections).1.length
  rwa [List.take_of_length_le (by omega), List.take_of_length_le (by omega)] at hv

/-- **The cursor first, then the payloads.** Whatever the response, after any prefix of the
handler's storage steps past the first the storage holds the response's `lastSyncToken`, past
the second its `paginationToken`, while the first two steps save no payload. When every
payload of a collection without content has a master copy, the handler gets to its end, and
the storage then holds every payload of every reconciled collection, merged with its master
copy where the collection has no content. -/
theorem response_persisted (s : Storage) (master : List Payload) (response : SyncResponse)
    (collections : List Collection) :
    (∀ k, (s.run ((handleSuccessServerResponse master response collections).1.take (k + 1))).values
        .lastSyncToken = some response.lastSyncToken ∧
      (s.run ((handleSuccessServerResponse master response collections).1.take (k + 2))).values
        .paginationToken = response.paginationToken) ∧
    (s.run ((handleSuccessServerResponse master response collections).1.take 2)).payloads =
      s.payloads ∧
    ((∀ c ∈ collections, c.withContent = false →
        ∀ p ∈ c.allPayloads, (findPayload master p.uuid).isSome) →
      (handleSuccessServerResponse master response collections).2 = true ∧
      ∀ c ∈ collections, ∃ ps, payloadsToPersist master c = some ps ∧
        ps ⊆ (s.run (handleSuccessServerResponse master response collections).1).payloads) := by
  refine ⟨run_take_values s master response collections, ?_, fun hmaster => ?_⟩
  · cases hp : response.paginationToken <;>
      simp [handleSuccessServerResponse, setLastSyncToken, setPaginationToken, hp, Storage.apply]
  have hsome : ∀ c ∈ collections, (payloadsToPersist master c).isSome :=
    fun c hc => payloadsToPersist_isSome (hmaster c hc)
  have hdone := persistCollections_of_isSome master collections hsome
  refine ⟨hdone, fun c hc => ?_⟩
  obtain ⟨ps, hps⟩ := Option.isSome_iff_exists.1 (hsome c hc)
  refine ⟨ps, hps, ?_⟩
  rw [Storage.run_payloads, handleSuccessServerResponse_fst]
  refine List.Subset.trans (persistCollections_complete master collections hdone c hc ps hps) ?_
  simp only [List.flatMap_cons, List.flatMap_append]
  exact List.Subset.trans (List.subset_append_right _ _) (List.subset_append_right _ _)

/-- An empty storage. -/
def emptyStorage : Storage := ⟨fun _ => none, []⟩

/-- A response whose cursor is `1`, without pagination token. -/
def cursorOneResponse : SyncResponse := ⟨1, none⟩

/-- A collection stored as it came, of one payload with content. -/
def contentCollection : Collection := ⟨true, [⟨1, some 1, 1⟩]⟩

/-- A collection without content, of one payload without content. -/
def bareCollection : Collection := ⟨false, [⟨1, none, 1⟩]⟩

/-- The master copy of payload 1. -/
def masterOne : List Payload := [⟨1, some 1, 0⟩]

/-- A response whose one collection has no content, the payload's master copy at hand: the
handler gets to its end and stores the merged payload. -/
theorem bare_collection_with_master_stored :
    (∀ c ∈ [bareCollection], c.withContent = false →
        ∀ p ∈ c.allPayloads, (findPayload masterOne p.uuid).isSome) ∧
      (handleSuccessServerResponse masterOne cursorOneResponse [bareCollection]).2 = true ∧
      ∀ c ∈ [bareCollection], ∃ ps, payloadsToPersist masterOne c = some ps ∧
        ps ⊆ (emptyStorage.run
          (handleSuccessServerResponse masterOne cursorOneResponse [bareCollection]).1).payloads :=
  ⟨by decide,
    (response_persisted emptyStorage masterOne cursorOneResponse [bareCollection]).2.2 (by decide)⟩

/-- A crash after the first step of a response with `contentCollection` leaves the cursor
stored and the payload not. -/
theorem cursor_before_payloads :
    (emptyStorage.run ((handleSuccessServerResponse [] cursorOneResponse
        [contentCollection]).1.take 1)).values .lastSyncToken = some 1 ∧
    (emptyStorage.run ((handleSuccessServerResponse [] cursorOneResponse
        [contentCollection]).1.take 1)).payloads = [] := by
  decide

/-- **A payload to merge without a master copy stops the handler.** Whatever the response and
the collections before it, when a collection without content holds a payload that the master
collection has no copy of, `base.mergedWith` is called on `undefined` and raises (:589–591),
where the comment at :588 says the payload is merged before it is persisted. The handler does
not get to its end, the storage holds both tokens, and of the payloads only those of the
collections before that one are stored. -/
theorem merge_without_master_raises (s : Storage) (master : List Payload)
    (response : SyncResponse) (cs₁ : List Collection) (c : Collection) (cs₂ : List Collection)
    (hbefore : ∀ c' ∈ cs₁, (payloadsToPersist master c').isSome) (hc : c.withContent = false)
    (p : Payload) (hp : p ∈ c.allPayloads) (hnone : findPayload master p.uuid = none) :
    (handleSuccessServerResponse master response (cs₁ ++ c :: cs₂)).2 = false ∧
    (s.run (handleSuccessServerResponse master response (cs₁ ++ c :: cs₂)).1).values
      .lastSyncToken = some response.lastSyncToken ∧
    (s.run (handleSuccessServerResponse master response (cs₁ ++ c :: cs₂)).1).values
      .paginationToken = response.paginationToken ∧
    (s.run (handleSuccessServerResponse master response (cs₁ ++ c :: cs₂)).1).payloads =
      s.payloads ++ (cs₁.filterMap (payloadsToPersist master)).flatten := by
  obtain ⟨hdone, hsaved⟩ := persistCollections_append_of_none master
    (payloadsToPersist_eq_none hc hp hnone) cs₂ cs₁ hbefore
  have hv := run_values s master response (cs₁ ++ c :: cs₂)
  refine ⟨hdone, hv.1, hv.2, ?_⟩
  rw [Storage.run_payloads, handleSuccessServerResponse_fst, List.flatMap_cons, List.flatMap_append,
    hsaved]
  cases response.paginationToken <;> simp [setPaginationToken, StorageStep.saved]

/-- With no master copy, the payload of `bareCollection` makes the handler raise after it has
written the cursor: it is never stored. -/
theorem bare_collection_without_master_raises :
    (∀ c' ∈ ([] : List Collection), (payloadsToPersist [] c').isSome) ∧
      bareCollection.withContent = false ∧ (⟨1, none, 1⟩ : Payload) ∈ bareCollection.allPayloads ∧
      findPayload [] 1 = none ∧
      (handleSuccessServerResponse [] cursorOneResponse ([] ++ bareCollection :: [])).2 = false ∧
      (emptyStorage.run (handleSuccessServerResponse [] cursorOneResponse
        ([] ++ bareCollection :: [])).1).values .lastSyncToken = some 1 ∧
      (emptyStorage.run (handleSuccessServerResponse [] cursorOneResponse
        ([] ++ bareCollection :: [])).1).values .paginationToken = none ∧
      (emptyStorage.run (handleSuccessServerResponse [] cursorOneResponse
        ([] ++ bareCollection :: [])).1).payloads =
        [] ++ (([] : List Collection).filterMap (payloadsToPersist [])).flatten :=
  ⟨by decide, rfl, by decide, rfl,
    merge_without_master_raises emptyStorage [] cursorOneResponse [] bareCollection []
      (by decide) rfl ⟨1, none, 1⟩ (by decide) rfl⟩

end Snjs.Sync.Response
