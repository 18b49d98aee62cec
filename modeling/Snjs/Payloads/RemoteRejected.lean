import Mathlib.Data.List.Forall2

/-!
# `DeltaRemoteRejected.resultingCollection`

When the server rejects saved payloads, `DeltaRemoteRejected.resultingCollection()`
(remote_rejected.ts:8–33) walks the rejected payloads in order, looks up each one's decrypted
counterpart among the related payloads of source `DecryptedTransient`, and re-sources that
counterpart as `RemoteRejected`, with `lastSyncEnd` the date read in that iteration and `dirty`
false. A payload without a counterpart makes the loop throw, and the results gathered so far
are dropped.

- `resultingLoop_eq`: the loop with its accumulator is `List.mapM` of the lookup, followed by
  the re-sourcing of each counterpart with the clock of its iteration.
- **`remote_rejected_collection`**: the delta throws exactly when some rejected payload has no
  decrypted counterpart, and otherwise returns a `RemoteRejected` collection holding, in order,
  one payload per rejected payload: its counterpart, re-sourced, not dirty, stamped with the
  date of its iteration.
-/

namespace Snjs.Payloads

/-- Modelled from the spec: `PayloadSource` (`@Payloads/sources`) is not under src/. The two
sources the delta names, and the others. -/
inductive PayloadSource where
  | DecryptedTransient
  | RemoteRejected
  | other (n : Nat)
  deriving DecidableEq, Repr

/-- The fields of a payload the delta reads or overrides; `rest` stands for the others, which a
copy keeps. -/
structure Payload (α : Type) where
  uuid : String
  source : PayloadSource
  dirty : Bool
  lastSyncEnd : Option Nat
  rest : α
  deriving DecidableEq, Repr

/-- The override `{ lastSyncEnd: new Date(), dirty: false }` (:20–23), by the clock's value. -/
structure PayloadOverride where
  lastSyncEnd : Nat
  dirty : Bool
  deriving DecidableEq, Repr

/-- Modelled from the spec: `CreateSourcedPayloadFromObject` (`@Payloads/generator`) is not
under src/. It copies the object under the given source, with the override's fields
(§4.4, RemoteRejected delta). -/
def CreateSourcedPayloadFromObject {α : Type} (object : Payload α) (source : PayloadSource)
    (override : PayloadOverride) : Payload α :=
  { object with source, dirty := override.dirty, lastSyncEnd := some override.lastSyncEnd }

/-- `ImmutablePayloadCollection.WithPayloads(payloads, source)`. -/
structure PayloadCollection (α : Type) where
  payloads : List (Payload α)
  source : PayloadSource
  deriving DecidableEq, Repr

section Delta

variable {α : Type} (findRelatedPayload : String → PayloadSource → Option (Payload α))
  (dates : Nat → Nat)

/-- The loop of `resultingCollection` (:10–27) over the rejected payloads, with the results
gathered so far. `findRelatedPayload(uuid, source)` is the delta's lookup among its related
collections (`PayloadsDelta`, not under src/), and `dates k` the value `new Date()` returns in
the iteration that pushes result `k`. -/
def resultingLoop (results : List (Payload α)) : List (Payload α) → Except String (List (Payload α))
  | [] => .ok results
  | payload :: rest =>
    match findRelatedPayload payload.uuid .DecryptedTransient with
    | none => .error "Unable to find decrypted counterpart for rejected payload."
    | some decrypted =>
      resultingLoop (results ++
        [CreateSourcedPayloadFromObject decrypted .RemoteRejected ⟨dates results.length, false⟩]) rest

/-- `DeltaRemoteRejected.resultingCollection()` (:8–33). -/
def resultingCollection (applyCollection : List (Payload α)) :
    Except String (PayloadCollection α) := do
  let results ← resultingLoop findRelatedPayload dates [] applyCollection
  return ⟨results, .RemoteRejected⟩

/-- The loop looks every counterpart up and re-sources each with the clock of its own
iteration; its error is the text of the `throw`. -/
theorem resultingLoop_eq (results ps : List (Payload α)) :
    resultingLoop findRelatedPayload dates results ps =
      match ps.mapM fun p => findRelatedPayload p.uuid .DecryptedTransient with
      | some ds => .ok (results ++ List.zipWith
          (fun d k => CreateSourcedPayloadFromObject d .RemoteRejected ⟨dates k, false⟩)
          ds (List.range' results.length ds.length))
      | none => .error "Unable to find decrypted counterpart for rejected payload." := by
  induction ps generalizing results with
  | nil => simp only [resultingLoop, List.mapM_nil, Option.pure_def]; simp
  | cons p ps ih =>
    simp only [resultingLoop, List.mapM_cons, Option.pure_def, Option.bind_eq_bind]
    cases findRelatedPayload p.uuid .DecryptedTransient with
    | none => rfl
    | some d =>
      simp only [ih, Option.some_bind, List.length_append, List.length_singleton]
      cases ps.mapM (fun p => findRelatedPayload p.uuid .DecryptedTransient) <;>
        simp [List.range'_succ]

theorem mapM_eq_none_iff {β γ : Type} {f : β → Option γ} {ps : List β} :
    ps.mapM f = none ↔ ∃ p ∈ ps, f p = none := by
  induction ps with
  | nil => simp only [List.mapM_nil, Option.pure_def]; simp
  | cons p ps ih =>
    simp only [List.mapM_cons, Option.pure_def, Option.bind_eq_bind, List.mem_cons,
      exists_eq_or_imp]
    cases f p with
    | none => simp
    | some r => cases h : ps.mapM f <;> simp_all

theorem forall₂_of_mapM_eq_some {β γ : Type} {f : β → Option γ} :
    ∀ {ps : List β} {rs : List γ}, ps.mapM f = some rs → List.Forall₂ (fun p r => f p = some r) ps rs
  | [], rs, h => by cases h; exact .nil
  | p :: ps, rs, h => by
    simp only [List.mapM_cons, Option.pure_def, Option.bind_eq_bind, Option.bind_eq_some,
      Option.some.injEq] at h
    obtain ⟨r, hp, rs', hs, rfl⟩ := h
    exact .cons hp (forall₂_of_mapM_eq_some hs)

/-- **The rejected-payload delta.** `resultingCollection` throws
`Unable to find decrypted counterpart for rejected payload.` exactly when some rejected payload
has no decrypted counterpart; otherwise it returns a `RemoteRejected` collection with one payload
per rejected payload, in order: the `k`-th is the `k`-th payload's counterpart re-sourced as
`RemoteRejected`, with `dirty` false and `lastSyncEnd` the date read in iteration `k`. -/
theorem remote_rejected_collection (applyCollection : List (Payload α)) :
    (resultingCollection findRelatedPayload dates applyCollection =
        .error "Unable to find decrypted counterpart for rejected payload." ↔
      ∃ p ∈ applyCollection, findRelatedPayload p.uuid .DecryptedTransient = none) ∧
    ∀ rc, resultingCollection findRelatedPayload dates applyCollection = .ok rc →
      rc.source = .RemoteRejected ∧
      ∃ ds, List.Forall₂ (fun p d => findRelatedPayload p.uuid .DecryptedTransient = some d)
          applyCollection ds ∧
        rc.payloads = List.zipWith
          (fun d k => { d with source := .RemoteRejected, dirty := false, lastSyncEnd := some (dates k) })
          ds (List.range ds.length) := by
  simp only [resultingCollection, resultingLoop_eq, List.nil_append, List.length_nil]
  cases hm : applyCollection.mapM (fun p => findRelatedPayload p.uuid .DecryptedTransient) with
  | none =>
    refine ⟨iff_of_true rfl (mapM_eq_none_iff.1 hm), fun rc h => ?_⟩
    cases h
  | some ds =>
    refine ⟨iff_of_false nofun fun h => ?_, fun rc h => ?_⟩
    · rw [mapM_eq_none_iff.2 h] at hm; cases hm
    · cases h
      exact ⟨rfl, ds, forall₂_of_mapM_eq_some hm, by rw [List.range_eq_range']; rfl⟩

end Delta

end Snjs.Payloads
