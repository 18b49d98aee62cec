import Snjs.KeyRecovery.Service

/-!
# When `popQueueItem` replaces the root key

`popQueueItem` decides `replacesRootKey` (migration_service.ts:565–585) before prompting for
the password; when the key then decrypts, `handleDecryptionOfAllKeysMatchingCorrectRootKey`
calls `protocolService.setRootKey` with the root key derived from the key's params. The
decision means to accept the server's params only when their version is at least the
client's (the class comment, :189–192, and `serverKeyParamsAreSafe`, :386–391), but it calls
`serverKeyParamsAreSafe(this.serverParams)`, comparing the server's version with itself.

- `replacesRootKey_eq_true_iff`: what the decision tests; no version comparison is left.
- `popQueueItem_downgrades_root_key`: a server answering with version-003 params makes a
  client on version-004 params replace its root key with a version-003 one.
-/

namespace Snjs.KeyRecovery

/-- The check `popQueueItem` makes always passes. -/
@[simp] theorem serverKeyParamsAreSafe_self (kp : KeyParams) : serverKeyParamsAreSafe kp kp = true := by
  simp [serverKeyParamsAreSafe, leftVersionGreaterThanOrEqualToRight]

/-- A key is newer than the latest local items key exactly when it is newer than each. -/
theorem newerThanLocalKeys_eq_true_iff (key : ItemsKey) (localKeys : List ItemsKey) :
    newerThanLocalKeys key localKeys = true ↔ ∀ l ∈ localKeys, l.createdAt < key.createdAt := by
  unfold newerThanLocalKeys
  split
  · rename_i h
    obtain rfl : localKeys = [] := by simpa using h
    simp
  · rename_i latest h
    obtain ⟨hmem, hle⟩ := (List.max?_eq_some_iff (fun a => Nat.le_refl a) max_choice
      (fun _ _ _ => max_le_iff)).mp h
    simp only [decide_eq_true_eq]
    constructor
    · intro hlt l hl
      exact lt_of_le_of_lt (hle _ (List.mem_map_of_mem _ hl)) hlt
    · intro hall
      obtain ⟨l, hl, rfl⟩ := List.mem_map.mp hmem
      exact hall l hl

/-- **What `replacesRootKey` tests.** The server's and the client's params are both known and
differ, the key's params are the server's, and the key is newer than every non-errored local
items key. Neither version is compared. -/
theorem replacesRootKey_eq_true_iff (serverParams clientParams : Option KeyParams)
    (keyParams : KeyParams) (key : ItemsKey) (localKeys : List ItemsKey) :
    replacesRootKey serverParams clientParams keyParams key localKeys = true ↔
      ∃ sp cp, serverParams = some sp ∧ clientParams = some cp ∧ cp ≠ sp ∧ keyParams = sp ∧
        ∀ l ∈ localKeys, l.createdAt < key.createdAt := by
  unfold replacesRootKey
  split
  · rename_i sp cp
    split
    · rename_i h
      simp only [newerThanLocalKeys_eq_true_iff, Option.some.injEq, exists_and_left,
        exists_eq_left', h.1, h.2.1, ne_eq, not_false_eq_true, true_and]
    · rename_i h
      simp only [Bool.false_eq_true, false_iff, not_exists, not_and, Option.some.injEq]
      rintro _ _ rfl rfl hne rfl _
      exact h ⟨hne, rfl, serverKeyParamsAreSafe_self _⟩
  · rename_i h
    simp only [Bool.false_eq_true, false_iff, not_exists, not_and]
    rintro sp cp rfl rfl
    exact fun _ _ _ => h sp cp rfl rfl

/-- A client signed in with version-004 params, with no decryptable items key, whose server
answers with version-003 params. -/
def downgradeStart : Svc := Svc.init true false (some ⟨7, ⟨4, 2⟩⟩) [] []

/-- An items key encrypted under the server's version-003 params arrives undecryptable; the
server's params are fetched; the user enters the password of that key. -/
def downgradeSchedule : List Act :=
  [.itemsKeysObserved [⟨1, 5, some ⟨3, 1⟩, ⟨9, ⟨3, 1⟩⟩⟩] [], .resume 0 none, .resume 0 none,
   .resume 0 none, .fetched 0 (some ⟨3, 1⟩), .resume 1 none, .resume 1 (some 9), .resume 1 none,
   .resume 1 none, .resume 1 none]

/-- The client's params are version 004 and the server's 003, so `serverKeyParamsAreSafe`
applied to the client's params fails; yet `popQueueItem` replaces the root key with the one
derived from the server's version-003 params. -/
theorem popQueueItem_downgrades_root_key :
    downgradeStart.clientKeyParams = some ⟨4, 2⟩ ∧
    serverKeyParamsAreSafe ⟨3, 1⟩ ⟨4, 2⟩ = false ∧
    (downgradeStart.run downgradeSchedule).serverParams = some ⟨3, 1⟩ ∧
    (downgradeStart.run downgradeSchedule).rootKey = some ⟨9, ⟨3, 1⟩⟩ := by
  decide

end Snjs.KeyRecovery
