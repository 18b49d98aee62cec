import Snjs.Models.Item
import Mathlib.Data.List.Sort

/-!
# `computeDataIntegrityHash`

`computeDataIntegrityHash()` (sync_manager.js:660–672) sorts the non-deleted items with the
comparator `(a, b) => b.updated_at - a.updated_at`, maps each to `updatedAtTimestamp()`
(part_005 :312–314) and hashes the comma-join of the result.

`Array.prototype.sort` is stable, and a comparator result of `NaN` counts as `+0`
(ECMA-262, SortCompare). When every non-deleted item has an `updated_at` the comparator is a
consistent order, the sorted list is unique, and the string is the join of the timestamps in
descending order: the same for any order of the items, and blind to deleted items
(`integrity_string_of_stamped_items`). An item without `updated_at` compares equal to every
item, so the sort keeps such an item where it was, and `join` writes it as the empty string:
two orders of the same two items give `"5,"` and `",5"`
(`integrity_string_depends_on_order`).
-/

namespace Snjs.Sync

open Snjs.Models

/-- `modelManager.nonDeletedItems` (not under src/): the items not marked deleted, in order. -/
def nonDeletedItems (items : List SNItem) : List SNItem := items.filter (!·.deleted)

/-- The comparator `(a, b) => b.updated_at - a.updated_at` (:662–664), after SortCompare: the
difference of the times, and `+0` where a side is `undefined` and the difference `NaN`. -/
def updatedAtCompare (a b : SNItem) : Int :=
  match a.updated_at, b.updated_at with
  | some x, some y => y - x
  | _, _ => 0

/-- `nonDeletedItems.sort(...)` (:662–664) as a stable insertion sort: `a` stays before `b`
unless the comparator puts `b` first. For a consistent comparator every stable sort gives this
order; for an inconsistent one ECMA-262 leaves the order to the implementation. -/
def sortByUpdatedAt (items : List SNItem) : List SNItem :=
  items.insertionSort fun a b => updatedAtCompare a b ≤ 0

/-- `dates.join(',')` (:666): an `undefined` entry is written as the empty string. -/
def joinDates (dates : List (Option Int)) : String :=
  ",".intercalate (dates.map fun date => (date.map toString).getD "")

/-- The `string` that `computeDataIntegrityHash()` (:660–672) passes to `sha256`. -/
def integrityString (items : List SNItem) : String :=
  joinDates ((sortByUpdatedAt (nonDeletedItems items)).map SNItem.updatedAtTimestamp)

/-- `computeDataIntegrityHash()` (:660–672), with the digest `sha256` as a parameter; nothing
in the `try` block raises. -/
def computeDataIntegrityHash {α : Type} (sha256 : String → α) (items : List SNItem) : α :=
  sha256 (integrityString items)

/-! ## Items that all carry `updated_at` -/

/-- Every non-deleted item has an `updated_at`. -/
def Stamped (items : List SNItem) : Prop := ∀ i ∈ items, i.deleted = false → i.updated_at.isSome

instance (items : List SNItem) : Decidable (Stamped items) :=
  inferInstanceAs (Decidable (∀ i ∈ items, i.deleted = false → i.updated_at.isSome))

/-- The timestamps of the non-deleted items, in descending order. -/
def descendingTimestamps (items : List SNItem) : List Int :=
  ((nonDeletedItems items).filterMap SNItem.updatedAtTimestamp).insertionSort (· ≥ ·)

theorem updatedAt_of_mem_nonDeletedItems {items : List SNItem} (h : Stamped items) {i : SNItem}
    (hi : i ∈ nonDeletedItems items) : ∃ t, i.updated_at = some t := by
  obtain ⟨hi, hd⟩ := List.mem_filter.1 hi
  exact Option.isSome_iff_exists.1 (h i hi (by simpa using hd))

/-- On stamped items the comparator is the order of the times. -/
theorem updatedAtCompare_nonpos_iff {a b : SNItem} {x y : Int} (ha : a.updated_at = some x)
    (hb : b.updated_at = some y) : updatedAtCompare a b ≤ 0 ↔ x ≥ y := by
  simp only [updatedAtCompare, ha, hb]
  omega

/-- On stamped items the sort orders the timestamps descending. -/
theorem map_sortByUpdatedAt {items : List SNItem} (h : ∀ i ∈ items, i.updated_at.isSome) :
    (sortByUpdatedAt items).map (fun i => i.updated_at.getD 0) =
      (items.map fun i => i.updated_at.getD 0).insertionSort (· ≥ ·) := by
  refine List.map_insertionSort _ _ _ _ fun a ha b hb => ?_
  obtain ⟨x, hx⟩ := Option.isSome_iff_exists.1 (h a ha)
  obtain ⟨y, hy⟩ := Option.isSome_iff_exists.1 (h b hb)
  rw [updatedAtCompare_nonpos_iff hx hy, hx, hy]
  rfl

theorem filterMap_updatedAtTimestamp {items : List SNItem} (h : ∀ i ∈ items, i.updated_at.isSome) :
    items.filterMap SNItem.updatedAtTimestamp = items.map fun i => i.updated_at.getD 0 := by
  induction items with
  | nil => rfl
  | cons i items ih =>
    obtain ⟨x, hx⟩ := Option.isSome_iff_exists.1 (h i (List.mem_cons_self _ _))
    rw [List.filterMap_cons_some (by exact hx), List.map_cons, hx,
      ih fun j hj => h j (List.mem_cons_of_mem _ hj)]
    rfl

/-- On stamped items the string is the join of the descending timestamps. -/
theorem integrityString_eq (items : List SNItem) (h : Stamped items) :
    integrityString items = ",".intercalate ((descendingTimestamps items).map toString) := by
  have hs : ∀ i ∈ nonDeletedItems items, i.updated_at.isSome := fun i hi => by
    obtain ⟨t, ht⟩ := updatedAt_of_mem_nonDeletedItems h hi
    simp [ht]
  have hsorted : ∀ i ∈ sortByUpdatedAt (nonDeletedItems items), i.updated_at.isSome :=
    fun i hi => hs i ((List.perm_insertionSort _ _).subset hi)
  rw [integrityString, joinDates, descendingTimestamps, filterMap_updatedAtTimestamp hs,
    ← map_sortByUpdatedAt hs, List.map_map, List.map_map]
  congr 1
  refine List.map_congr_left fun i hi => ?_
  obtain ⟨t, ht⟩ := Option.isSome_iff_exists.1 (hsorted i hi)
  simp [SNItem.updatedAtTimestamp, ht]

/-- The descending timestamps of two collections whose non-deleted items are the same up to
order are the same. -/
theorem descendingTimestamps_eq_of_perm {items items' : List SNItem}
    (hp : (nonDeletedItems items).Perm (nonDeletedItems items')) :
    descendingTimestamps items = descendingTimestamps items' :=
  List.eq_of_perm_of_sorted
    (((List.perm_insertionSort _ _).trans (hp.filterMap _)).trans
      (List.perm_insertionSort _ _).symm)
    (List.sorted_insertionSort _ _) (List.sorted_insertionSort _ _)

theorem Stamped.of_perm {items items' : List SNItem} (h : Stamped items)
    (hp : (nonDeletedItems items).Perm (nonDeletedItems items')) : Stamped items' :=
  fun i hi hd => by
    have hi' : i ∈ nonDeletedItems items := hp.symm.subset (List.mem_filter.2 ⟨hi, by simp [hd]⟩)
    obtain ⟨t, ht⟩ := updatedAt_of_mem_nonDeletedItems h hi'
    simp [ht]

/-- **The integrity string of stamped items.** When every non-deleted item has an
`updated_at`, the string hashed is the comma-join of the timestamps of the non-deleted items
in descending order, and any collection whose non-deleted items are the same up to order (the
items reordered, deleted items added, removed or changed) gives the same string. -/
theorem integrity_string_of_stamped_items (items items' : List SNItem) (h : Stamped items)
    (hp : (nonDeletedItems items).Perm (nonDeletedItems items')) :
    integrityString items = ",".intercalate ((descendingTimestamps items).map toString) ∧
      integrityString items' = integrityString items := by
  refine ⟨integrityString_eq items h, ?_⟩
  rw [integrityString_eq items' (h.of_perm hp), integrityString_eq items h,
    descendingTimestamps_eq_of_perm hp]

/-- A note with `updated_at` at time 5. -/
def stampedItem : SNItem := ⟨{ uuid := "x", content_type := "Note", updated_at := some 5 }⟩

/-- A note without `updated_at`. -/
def unstampedItem : SNItem := ⟨{ uuid := "m", content_type := "Note" }⟩

/-- A deleted note at time 9. -/
def deletedItem : SNItem :=
  ⟨{ uuid := "d", content_type := "Note", deleted := true, updated_at := some 9 }⟩

/-- Two stamped notes in either order, one of them with a deleted note beside it. -/
theorem integrity_string_of_two_stamped :
    integrityString [stampedItem, ⟨{ uuid := "y", content_type := "Note", updated_at := some 7 }⟩] =
        ",".intercalate ((descendingTimestamps [stampedItem,
          ⟨{ uuid := "y", content_type := "Note", updated_at := some 7 }⟩]).map toString) ∧
      integrityString [deletedItem, ⟨{ uuid := "y", content_type := "Note", updated_at := some 7 }⟩,
          stampedItem] =
        integrityString [stampedItem, ⟨{ uuid := "y", content_type := "Note", updated_at := some 7 }⟩] :=
  integrity_string_of_stamped_items _ _ (by decide) (List.Perm.swap _ _ _)

/-- The same two items, one of them without `updated_at`, in two orders. -/
theorem integrity_string_depends_on_order :
    integrityString [stampedItem, unstampedItem] = "5," ∧
      integrityString [unstampedItem, stampedItem] = ",5" := by
  decide

end Snjs.Sync
