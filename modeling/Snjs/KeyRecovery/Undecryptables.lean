import Snjs.KeyRecovery.Queue

/-!
# The `KeyRecoveryUndecryptableItems` record

`saveToUndecryptables` (migration_service.ts:362–369) reads the record, puts its keys into it
and writes it back; `removeFromUndecryptables` (:371–376) reads it, deletes one uuid and writes
it back. Each awaits between its read and its write, and neither is serialised with the other
invocations that do the same: the item observer starts `handleIgnoredItemsKeys` without
awaiting it (:259–262), and the callback of a recovered ignored key starts
`removeFromUndecryptables` without awaiting it (:313–318).

Run alone, each does what it should: a save leaves every key of its batch in the record and
keeps the other uuids (`run_saveToUndecryptables`, `mem_foldl_putKey`), and a remove deletes
exactly its uuid (`run_removeFromUndecryptables`). Overlapping, the later write replaces the
record the earlier one wrote, and a key whose save has completed leaves the record without any
decryption of it (`concurrent_saves_lose_key`).
-/

namespace Snjs.KeyRecovery

/-! ## Putting keys into a record -/

/-- The uuids of a record after `putKey`: the same, and the key's last if it was not there. -/
theorem map_uuid_putKey (record : List ItemsKey) (k : ItemsKey) :
    (putKey record k).map (·.uuid) =
      if record.any (·.uuid = k.uuid) then record.map (·.uuid)
      else record.map (·.uuid) ++ [k.uuid] := by
  unfold putKey
  split
  · simp only [List.map_map]
    exact List.map_congr_left fun l _ => by by_cases h : l.uuid = k.uuid <;> simp [h]
  · simp

/-- An entry after `putKey` is the key, or an entry of another uuid that was there. -/
@[simp] theorem mem_putKey {record : List ItemsKey} {k l : ItemsKey} :
    l ∈ putKey record k ↔ l = k ∨ (l ∈ record ∧ l.uuid ≠ k.uuid) := by
  unfold putKey
  split
  · next h =>
    obtain ⟨l', hl', hu⟩ := List.any_eq_true.1 h
    simp only [List.mem_map]
    constructor
    · rintro ⟨l'', hl'', rfl⟩
      by_cases hu' : l''.uuid = k.uuid
      · exact .inl (if_pos hu')
      · exact .inr ⟨by simpa [hu'] using hl'', by simp [hu']⟩
    · rintro (rfl | ⟨hl, hne⟩)
      · exact ⟨l', hl', if_pos (of_decide_eq_true hu)⟩
      · exact ⟨l, hl, if_neg hne⟩
  · next h =>
    simp only [List.any_eq_true, decide_eq_true_eq, not_exists, not_and] at h
    simp only [List.mem_append, List.mem_singleton]
    exact ⟨(·.elim (fun hl => .inr ⟨hl, h l hl⟩) .inl), (·.elim .inr (.inl ·.1))⟩

/-- `putKey` keeps the record one entry per uuid. -/
theorem putKey_nodup {record : List ItemsKey} (h : (record.map (·.uuid)).Nodup) (k : ItemsKey) :
    ((putKey record k).map (·.uuid)).Nodup := by
  rw [map_uuid_putKey]
  split
  · exact h
  · next hk =>
    refine List.pairwise_append.2 ⟨h, List.pairwise_singleton _ _, fun u hu v hv huv => hk ?_⟩
    obtain ⟨l, hl, rfl⟩ := List.mem_map.1 hu
    exact List.any_eq_true.2 ⟨l, hl, by simpa [huv] using hv⟩

/-- Deleting the key's uuid after putting the key gives the record without that uuid. -/
theorem filter_putKey (record : List ItemsKey) (k : ItemsKey) :
    (putKey record k).filter (·.uuid ≠ k.uuid) = record.filter (·.uuid ≠ k.uuid) := by
  unfold putKey
  split
  · clear ‹_›
    induction record with
    | nil => rfl
    | cons l ls ih =>
      rw [List.map_cons, List.filter_cons, List.filter_cons, ih]
      by_cases h : l.uuid = k.uuid <;> simp [h]
  · simp

/-- Entries of uuids the batch does not hold survive a save. -/
theorem mem_foldl_putKey_of_mem {l : ItemsKey} :
    ∀ (keys : List ItemsKey) {record : List ItemsKey}, l ∈ record →
      l.uuid ∉ keys.map (·.uuid) → l ∈ keys.foldl putKey record
  | [], _, hl, _ => hl
  | k :: ks, _, hl, hu => by
    simp only [List.map_cons, List.mem_cons, not_or] at hu
    exact mem_foldl_putKey_of_mem ks (mem_putKey.2 (Or.inr ⟨hl, hu.1⟩)) hu.2

/-- A save puts every key of a batch of distinct uuids into the record. -/
theorem mem_foldl_putKey {k : ItemsKey} :
    ∀ (keys record : List ItemsKey), (keys.map (·.uuid)).Nodup → k ∈ keys →
      k ∈ keys.foldl putKey record
  | k' :: ks, record, hn, hk => by
    rw [List.map_cons, List.nodup_cons] at hn
    rcases List.mem_cons.1 hk with rfl | hk
    · exact mem_foldl_putKey_of_mem ks (mem_putKey.2 (Or.inl rfl)) hn.1
    · exact mem_foldl_putKey ks _ hn.2 hk

theorem foldl_putKey_nodup :
    ∀ (keys : List ItemsKey) {record : List ItemsKey}, (record.map (·.uuid)).Nodup →
      ((keys.foldl putKey record).map (·.uuid)).Nodup
  | [], _, h => h
  | k :: ks, _, h => foldl_putKey_nodup ks (putKey_nodup h k)

/-! ## A save or a remove run alone -/

namespace Svc

variable {s : Svc} {i : Nat}

/-- **A save run alone.** `saveToUndecryptables(keys)` (:362–369) with no other step between
its read and its write: the record it read, with each key of the batch put into it. -/
theorem run_saveToUndecryptables {cb : Bool} {keys : List ItemsKey}
    (hi : s.procs i = some (.handler cb (.saveRead keys))) :
    s.run [.resume i none, .resume i none] =
      { s with undecryptables := keys.foldl putKey s.undecryptables }.setProc i
        (some (.handler cb (.addKeys keys))) := by
  simp [run_cons, run_nil, step, resume, hi, resumeHandler, setProc, Function.update_idem]

/-- **A remove run alone.** `removeFromUndecryptables(key)` (:371–376) with no other step between
its read and its write deletes exactly the entry of its uuid. -/
theorem run_removeFromUndecryptables {uuid : Nat} (hi : s.procs i = some (.remove uuid .read)) :
    s.run [.resume i none, .resume i none] =
      { s with undecryptables := s.undecryptables.filter (·.uuid ≠ uuid) }.setProc i none := by
  simp [run_cons, run_nil, step, resume, hi, resumeRemove, setProc, Function.update_idem]

end Svc

/-! ## Two saves overlapping -/

/-- Signed in, `keyA` and then `keyB` arrive ignored; both handlers read the empty record,
`keyA`'s handler writes `[keyA]`, and then `keyB`'s handler writes the record it read with
`keyB` put in. -/
def overlappingSavesSchedule : List Act :=
  [.itemsKeysObserved [] [keyA], .itemsKeysObserved [] [keyB], .resume 0 none, .resume 1 none,
    .resume 0 none]

/-- After `keyA`'s save has completed the record holds it; the next step drops it, though no
item was ever enqueued, let alone decrypted. -/
theorem concurrent_saves_lose_key :
    (signedInStart.run overlappingSavesSchedule).undecryptables = [keyA] ∧
      (signedInStart.run overlappingSavesSchedule).procs 0 =
        some (.handler true (.addKeys [keyA])) ∧
    ((signedInStart.run overlappingSavesSchedule).step (.resume 1 none)).undecryptables =
        [keyB] ∧
      ((signedInStart.run overlappingSavesSchedule).step (.resume 1 none)).nextItem = 0 := by
  decide

end Snjs.KeyRecovery
