import Snjs.Migrations.Service

/-!
# The base migration's `last_migration_timestamp`, under any interleaving of launches

`BaseMigration` (part_007:6–61) registers one stage handler, for `PreparingForLaunch_0`
(:14–18): `migrateMigrationTimestampAllPlatforms` (:35–60). It reads the legacy `migrations`
value and the namespaced last-migration timestamp, and when the timestamp is missing writes
the epoch (a legacy client, whose migrations must all run) or the current time (a new
install). Each of its three storage accesses is awaited, so launches of applications that
share one device storage (two windows of the web app) interleave at those points.

A launch is a task suspended at one of the awaits (`BasePc`). The device interface is not
under src/: an access takes effect at some moment after the launch made it and before the
launch resumes, so settling it (`Act.settle`) and resuming the launch (`Act.resume`) are
separate actions, and any other launch may act in between. The clock is read when a launch
resumes (`new Date()`, :54).

- `newKey_ne_legacyKey`: the two keys differ whatever the namespace, so no write changes
  what a launch reads as the legacy value.
- `legacy_client_timestamp_is_epoch`: with a legacy value stored, every write is the epoch,
  under every interleaving.
- `first_launch_fixes_timestamp`: once one launch has run to its end on a device, the
  timestamp it left is never written again, whatever launches follow and however they
  interleave.
- `timestamp_rewritten_only_by_committed_launches`: once the timestamp is stored, a later
  write comes only from a launch whose read of it had already come back empty; and any two
  launches without the legacy value that both read the key empty before either writes both
  write, the later write winning.
-/

namespace Snjs.Migrations.Base

open Snjs.Migrations (ApplicationStage)

/-- `ApplicationStages.PreparingForLaunch_0`. -/
def preparingForLaunchStage : ApplicationStage := 0

/-- `legacyKey` (:36). -/
def legacyKey : String := "migrations"

/-- `newKey` (:40): the application's namespace, a dash, and
`RAW_STORAGE_KEY_LAST_MIGRATION_TIMESTAMP`, whose value (`@Lib/storage_keys`) is not under
src/ and is the second argument. -/
def newKey (appNamespace lastMigrationTimestampKey : String) : String :=
  appNamespace ++ "-" ++ lastMigrationTimestampKey

/-- The legacy key has no dash, so no namespace makes the two keys coincide. -/
theorem newKey_ne_legacyKey (appNamespace key : String) : newKey appNamespace key ≠ legacyKey := by
  intro h
  have hdash : '-' ∈ (newKey appNamespace key).data := by simp [newKey]
  rw [h] at hdash
  exact absurd hdash (by decide)

/-- A raw storage value: the migration writes numbers (`getTime()`) and tests the others only
for presence. -/
inductive RawValue
  | number (n : Int)
  | text (s : String)
  deriving DecidableEq, Repr

/-- `isNullOrUndefined(value)` (part_009:84–86); a missing value is `none`. -/
def isNullOrUndefined (value : Option RawValue) : Bool := value.isNone

/-- The awaits of `migrateMigrationTimestampAllPlatforms`. -/
inductive BasePc
  /-- `await getRawStorageValue(legacyKey)` (:37–39). -/
  | legacyMigrationsValue
  /-- `await getRawStorageValue(newKey)` (:41), holding the first read. -/
  | lastDate (legacyMigrationsValue : Option RawValue)
  /-- `await setRawStorageValue(newKey, newLastMigrationDate)` (:50, :55). -/
  | setLastMigrationDate (newLastMigrationDate : Int)
  /-- Returned. -/
  | returned
  deriving DecidableEq, Repr

/-- One launch: where it stands, and what the access it awaits has settled with (`none` while
it is pending; a write settles with `some none`). -/
structure Launch where
  pc : BasePc
  settled : Option (Option RawValue) := none
  deriving DecidableEq, Repr

/-- What a launch holds on a device with the legacy value stored: a legacy read that has
settled found it, and a write is of the epoch. -/
def Launch.Epoch : Launch → Prop
  | ⟨.legacyMigrationsValue, settled⟩ => ∀ r, settled = some r → r.isSome
  | ⟨.lastDate legacyMigrationsValue, _⟩ => legacyMigrationsValue.isSome
  | ⟨.setLastMigrationDate v, _⟩ => v = 0
  | ⟨.returned, _⟩ => True

/-- Every launch holds `Epoch`. -/
def Launch.AllEpoch (launches : Nat → Option Launch) : Prop :=
  ∀ i l, launches i = some l → l.Epoch

/-- The device storage, the launches made so far, and a ghost log of the writes of the
timestamp: the launch that made each and the value. -/
structure Device where
  storage : String → Option RawValue
  launches : Nat → Option Launch := fun _ => none
  nextLaunch : Nat := 0
  writes : List (Nat × Int) := []

/-- What can happen next. -/
inductive Act
  /-- `handleStage(stage)` on the base migration. -/
  | applicationStage (stage : ApplicationStage)
  /-- The access launch `i` awaits takes effect. -/
  | settle (i : Nat)
  /-- Launch `i` resumes, with the clock at `now`. -/
  | resume (i : Nat) (now : Int)
  deriving DecidableEq, Repr

namespace Device

variable (appNamespace key : String)

/-- Launch `i` moves on to `l`. -/
def setLaunch (d : Device) (i : Nat) (l : Launch) : Device :=
  { d with launches := Function.update d.launches i (some l) }

@[simp] theorem setLaunch_storage (d : Device) (i : Nat) (l : Launch) :
    (d.setLaunch i l).storage = d.storage := rfl

@[simp] theorem setLaunch_writes (d : Device) (i : Nat) (l : Launch) :
    (d.setLaunch i l).writes = d.writes := rfl

@[simp] theorem setLaunch_nextLaunch (d : Device) (i : Nat) (l : Launch) :
    (d.setLaunch i l).nextLaunch = d.nextLaunch := rfl

@[simp] theorem setLaunch_launches (d : Device) (i : Nat) (l : Launch) :
    (d.setLaunch i l).launches = Function.update d.launches i (some l) := rfl

/-- `handleStage(stage)`: the handler registered for `PreparingForLaunch_0` (:14–18) calls
`migrateMigrationTimestampAllPlatforms()`, which runs to its first await (:36–39). -/
def applicationStage (d : Device) (stage : ApplicationStage) : Device :=
  if stage = preparingForLaunchStage then
    { d.setLaunch d.nextLaunch ⟨.legacyMigrationsValue, none⟩ with nextLaunch := d.nextLaunch + 1 }
  else d

/-- The storage access launch `i` awaits takes effect. -/
def settle (d : Device) (i : Nat) : Device :=
  match d.launches i with
  | some ⟨.legacyMigrationsValue, none⟩ =>
    d.setLaunch i ⟨.legacyMigrationsValue, some (d.storage legacyKey)⟩
  | some ⟨.lastDate legacyMigrationsValue, none⟩ =>
    d.setLaunch i ⟨.lastDate legacyMigrationsValue, some (d.storage (newKey appNamespace key))⟩
  | some ⟨.setLastMigrationDate v, none⟩ =>
    { d.setLaunch i ⟨.setLastMigrationDate v, some none⟩ with
      storage := Function.update d.storage (newKey appNamespace key) (some (.number v))
      writes := d.writes ++ [(i, v)] }
  | _ => d

/-- Launch `i` resumes once its access has settled: the code after each await (:40–59). -/
def resume (d : Device) (i : Nat) (now : Int) : Device :=
  match d.launches i with
  | some ⟨.legacyMigrationsValue, some legacyMigrationsValue⟩ =>
    d.setLaunch i ⟨.lastDate legacyMigrationsValue, none⟩
  | some ⟨.lastDate legacyMigrationsValue, some lastDate⟩ =>
    let hasLegacyValue := !isNullOrUndefined legacyMigrationsValue
    let hasNewStructure := !isNullOrUndefined lastDate
    if !hasNewStructure && hasLegacyValue then
      -- `new Date(0).getTime()` (:49)
      d.setLaunch i ⟨.setLastMigrationDate 0, none⟩
    else if !hasNewStructure && !hasLegacyValue then
      d.setLaunch i ⟨.setLastMigrationDate now, none⟩
    else d.setLaunch i ⟨.returned, none⟩
  | some ⟨.setLastMigrationDate _, some _⟩ => d.setLaunch i ⟨.returned, none⟩
  | _ => d

def step (d : Device) : Act → Device
  | .applicationStage stage => d.applicationStage stage
  | .settle i => d.settle appNamespace key i
  | .resume i now => d.resume i now

def run (d : Device) (acts : List Act) : Device := acts.foldl (step appNamespace key) d

@[simp] theorem run_nil (d : Device) : d.run appNamespace key [] = d := rfl

@[simp] theorem run_cons (d : Device) (a : Act) (acts : List Act) :
    d.run appNamespace key (a :: acts) = (d.step appNamespace key a).run appNamespace key acts := rfl

theorem run_append (d : Device) (acts acts' : List Act) :
    d.run appNamespace key (acts ++ acts') =
      (d.run appNamespace key acts).run appNamespace key acts' :=
  List.foldl_append ..

/-! ## What a step can do -/

/-- **Inversion.** A step either leaves the storage and the log as they are, or is the write
of a launch suspended at `setRawStorageValue` with its write pending, which stores its value
under the key and logs it. -/
theorem step_storage (d : Device) (a : Act) :
    ((d.step appNamespace key a).storage = d.storage ∧ (d.step appNamespace key a).writes = d.writes) ∨
      ∃ i v, d.launches i = some ⟨.setLastMigrationDate v, none⟩ ∧
        (d.step appNamespace key a).storage =
          Function.update d.storage (newKey appNamespace key) (some (.number v)) ∧
        (d.step appNamespace key a).writes = d.writes ++ [(i, v)] := by
  cases a with
  | applicationStage stage =>
    left; dsimp only [step, applicationStage]; split <;> exact ⟨rfl, rfl⟩
  | settle i =>
    dsimp only [step]; unfold settle
    split
    · exact .inl ⟨rfl, rfl⟩
    · exact .inl ⟨rfl, rfl⟩
    · exact .inr ⟨i, _, ‹_›, rfl, rfl⟩
    · exact .inl ⟨rfl, rfl⟩
  | resume i now =>
    left; dsimp only [step]; unfold resume
    split
    · exact ⟨rfl, rfl⟩
    · dsimp only; split
      · exact ⟨rfl, rfl⟩
      · split <;> exact ⟨rfl, rfl⟩
    · exact ⟨rfl, rfl⟩
    · exact ⟨rfl, rfl⟩

/-- No step changes the legacy value. -/
theorem step_storage_legacyKey (d : Device) (a : Act) :
    (d.step appNamespace key a).storage legacyKey = d.storage legacyKey := by
  rcases step_storage appNamespace key d a with ⟨h, -⟩ | ⟨i, v, -, h, -⟩
  · rw [h]
  · rw [h, Function.update_noteq (newKey_ne_legacyKey appNamespace key).symm]

/-- Whether a launch is bound to write: its read of the key came back empty, and it has not
written yet. -/
def committed : Option Launch → Bool
  | some ⟨.lastDate _, some none⟩ => true
  | some ⟨.setLastMigrationDate _, none⟩ => true
  | _ => false

theorem settle_launches_of_ne (d : Device) {i j : Nat} (hj : j ≠ i) :
    (d.settle appNamespace key i).launches j = d.launches j := by
  unfold settle; split <;> simp [Function.update_noteq hj]

theorem resume_launches_of_ne (d : Device) {i j : Nat} (now : Int) (hj : j ≠ i) :
    (d.resume i now).launches j = d.launches j := by
  unfold resume; split <;> (try dsimp only) <;> (try split_ifs) <;> simp [Function.update_noteq hj]

/-- While the key holds a value, no step makes a launch bound to write: a read of the key
comes back with the value, and a launch reaches `setRawStorageValue` only from an empty
read. -/
theorem committed_of_step {d : Device} (hkey : (d.storage (newKey appNamespace key)).isSome)
    {j : Nat} (a : Act) (h : committed ((d.step appNamespace key a).launches j)) :
    committed (d.launches j) := by
  cases a with
  | applicationStage stage =>
    dsimp only [step, applicationStage] at h
    split at h
    · by_cases hj : j = d.nextLaunch
      · subst hj; simp [committed] at h
      · simpa [Function.update_noteq hj] using h
    · exact h
  | settle i =>
    dsimp only [step] at h
    by_cases hj : j = i
    · subst hj
      obtain ⟨v, hv⟩ := Option.isSome_iff_exists.mp hkey
      unfold settle at h
      split at h <;> simp_all [committed]
    · rwa [settle_launches_of_ne appNamespace key d hj] at h
  | resume i now =>
    dsimp only [step] at h
    by_cases hj : j = i
    · subst hj
      unfold resume at h
      split at h
      · simp [committed] at h
      · rename_i legacy lastDate hl
        cases lastDate <;> cases legacy <;> simp_all [isNullOrUndefined, committed]
      · simp [committed] at h
      · exact h
    · rwa [resume_launches_of_ne d now hj] at h

/-- The key, once it holds a value, holds one for ever. -/
theorem step_newKey_isSome {d : Device} (hkey : (d.storage (newKey appNamespace key)).isSome)
    (a : Act) : ((d.step appNamespace key a).storage (newKey appNamespace key)).isSome := by
  rcases step_storage appNamespace key d a with ⟨h, -⟩ | ⟨i, v, -, h, -⟩
  · rwa [h]
  · simp [h]

/-! ## After the timestamp is stored -/

/-- Launch `j` will not write: the key holds a value and `j` is not bound to write. -/
structure NoWrite (d : Device) (j : Nat) : Prop where
  stored : (d.storage (newKey appNamespace key)).isSome
  notCommitted : committed (d.launches j) = false

theorem NoWrite.step {d : Device} {j : Nat} (h : NoWrite appNamespace key d j) (a : Act) :
    NoWrite appNamespace key (d.step appNamespace key a) j ∧
      ∃ later, (d.step appNamespace key a).writes = d.writes ++ later ∧ ∀ w ∈ later, w.1 ≠ j := by
  refine ⟨⟨step_newKey_isSome appNamespace key h.stored a, ?_⟩, ?_⟩
  · by_contra hc
    exact absurd (committed_of_step appNamespace key h.stored a (by simpa using hc))
      (by simp [h.notCommitted])
  · rcases step_storage appNamespace key d a with ⟨-, hw⟩ | ⟨i, v, hi, -, hw⟩
    · exact ⟨[], by simp [hw], by simp⟩
    · refine ⟨[(i, v)], hw, ?_⟩
      have hnc := h.notCommitted
      simp only [List.mem_singleton, forall_eq]
      rintro rfl
      simp [hi, committed] at hnc

theorem NoWrite.run {d : Device} {j : Nat} (h : NoWrite appNamespace key d j) (acts : List Act) :
    ∃ later, (d.run appNamespace key acts).writes = d.writes ++ later ∧ ∀ w ∈ later, w.1 ≠ j := by
  induction acts generalizing d with
  | nil => exact ⟨[], by simp, by simp⟩
  | cons a acts ih =>
    obtain ⟨h', l₁, hw₁, hl₁⟩ := NoWrite.step appNamespace key h a
    obtain ⟨l₂, hw₂, hl₂⟩ := ih h'
    refine ⟨l₁ ++ l₂, by rw [run_cons, hw₂, hw₁, List.append_assoc], ?_⟩
    intro w hw
    rcases List.mem_append.mp hw with hw | hw
    exacts [hl₁ w hw, hl₂ w hw]

/-- The log only grows. -/
theorem writes_run (d : Device) (acts : List Act) :
    ∃ later, (d.run appNamespace key acts).writes = d.writes ++ later := by
  induction acts generalizing d with
  | nil => exact ⟨[], by simp⟩
  | cons a acts ih =>
    obtain ⟨later, hl⟩ := ih (d.step appNamespace key a)
    rcases step_storage appNamespace key d a with ⟨-, hw⟩ | ⟨i, v, -, -, hw⟩
    · exact ⟨later, by rw [run_cons, hl, hw]⟩
    · exact ⟨(i, v) :: later, by rw [run_cons, hl, hw, List.append_assoc, List.singleton_append]⟩

/-- Steps that log no write leave the storage as it is. -/
theorem run_storage_of_writes {d : Device} (acts : List Act)
    (h : (d.run appNamespace key acts).writes = d.writes) :
    (d.run appNamespace key acts).storage = d.storage := by
  induction acts generalizing d with
  | nil => rfl
  | cons a acts ih =>
    rw [run_cons] at h ⊢
    rcases step_storage appNamespace key d a with ⟨hs, hw⟩ | ⟨i, v, -, -, hw⟩
    · rw [ih (h.trans hw.symm), hs]
    · obtain ⟨later, hl⟩ := writes_run appNamespace key (d.step appNamespace key a) acts
      have := congrArg List.length (h.symm.trans (hl.trans (by rw [hw])))
      simp at this

/-- Two launches of a fresh install that both read the key before either writes, launch 0
at clock 5 and launch 1 at clock 7, up to launch 0's write. -/
def bothReadFirst : List Act :=
  [.applicationStage preparingForLaunchStage, .applicationStage preparingForLaunchStage,
    .settle 0, .resume 0 5, .settle 1, .resume 1 7, .settle 0, .settle 1, .resume 0 5,
    .resume 1 7, .settle 0, .resume 0 5]

/-- The device of a fresh install right after launch 0 of `bothReadFirst` has written. -/
def afterFirstWrite : Device := ({ storage := fun _ => none } : Device).run "app" "k" bothReadFirst

/-- Two launches whose reads of the legacy value and of the key both came back empty write
their own clocks when resumed, in the order their writes take effect: both writes are logged,
and the key holds the later one. -/
theorem run_both_read_empty (d : Device) {i j : Nat} (hij : i ≠ j)
    (hi : d.launches i = some ⟨.lastDate none, some none⟩)
    (hj : d.launches j = some ⟨.lastDate none, some none⟩) (now now' : Int) :
    (d.run appNamespace key [.resume i now, .resume j now', .settle i, .settle j]).writes =
        d.writes ++ [(i, now), (j, now')] ∧
      (d.run appNamespace key [.resume i now, .resume j now', .settle i, .settle j]).storage
        (newKey appNamespace key) = some (.number now') := by
  simp [step, resume, settle, setLaunch, isNullOrUndefined, hi, hj, hij, Ne.symm hij,
    Function.update_apply]

/-- The device of a fresh install once both launches of `bothReadFirst` have read the key
empty, neither having written. -/
def afterBothRead : Device :=
  ({ storage := fun _ => none } : Device).run "app" "k" (bothReadFirst.take 8)

example : (afterFirstWrite.run "app" "k" [.settle 1, .resume 1 7]).writes = [(0, 5), (1, 7)] ∧
    (afterFirstWrite.run "app" "k" [.settle 1, .resume 1 7]).storage (newKey "app" "k") =
      some (.number 7) := by decide

/-- A device whose key holds a value and none of whose launches is bound to write takes no
more writes, whatever happens next. -/
theorem run_of_none_committed {d : Device} (hkey : (d.storage (newKey appNamespace key)).isSome)
    (hc : ∀ j, committed (d.launches j) = false) (acts : List Act) :
    (d.run appNamespace key acts).writes = d.writes ∧
      (d.run appNamespace key acts).storage = d.storage := by
  obtain ⟨later, hw⟩ := writes_run appNamespace key d acts
  have hnil : later = [] := by
    refine List.eq_nil_iff_forall_not_mem.mpr fun w hmem => ?_
    obtain ⟨later', hw', hl⟩ := NoWrite.run appNamespace key ⟨hkey, hc w.1⟩ acts
    exact hl w (List.append_cancel_left (hw.symm.trans hw') ▸ hmem) rfl
  have hw₀ : (d.run appNamespace key acts).writes = d.writes := by rw [hw, hnil, List.append_nil]
  exact ⟨hw₀, run_storage_of_writes appNamespace key acts hw₀⟩

/-- One launch run to its end: the stage delivered, then each of its accesses settled and the
launch resumed, with the clock at `now`. A launch that returns after its second read ignores
the last two actions. -/
def launchToEnd (i : Nat) (now : Int) : List Act :=
  [.applicationStage preparingForLaunchStage, .settle i, .resume i now, .settle i, .resume i now,
    .settle i, .resume i now]

/-- What the first launch on a device leaves: the timestamp stored before it, or else the
epoch for a legacy client and `now` for a new install; at most one write; and no launch bound
to write. -/
theorem run_launchToEnd (storage : String → Option RawValue) (now : Int) :
    (({ storage } : Device).run appNamespace key (launchToEnd 0 now)).storage
        (newKey appNamespace key) =
      (storage (newKey appNamespace key)).or
        (some (.number (if isNullOrUndefined (storage legacyKey) then now else 0))) ∧
    (({ storage } : Device).run appNamespace key (launchToEnd 0 now)).writes.length ≤ 1 ∧
    ∀ j, committed ((({ storage } : Device).run appNamespace key (launchToEnd 0 now)).launches j) =
      false := by
  have hne := newKey_ne_legacyKey appNamespace key
  cases hn : storage (newKey appNamespace key) <;> cases hl : storage legacyKey <;>
    simp [launchToEnd, step, applicationStage, settle, resume, setLaunch, preparingForLaunchStage,
      isNullOrUndefined, hn, hl, hne, Function.update_apply, committed]

/-- **The first launch fixes the timestamp.** Once one launch has run to its end on a device
with no launch under way, the key holds what it held before, or else the epoch for a legacy
client and that launch's clock for a new install; it is written at most once, by that launch,
whatever launches follow and however they interleave. -/
theorem first_launch_fixes_timestamp (storage : String → Option RawValue) (now : Int)
    (acts : List Act) :
    (({ storage } : Device).run appNamespace key (launchToEnd 0 now ++ acts)).storage
        (newKey appNamespace key) =
      (storage (newKey appNamespace key)).or
        (some (.number (if isNullOrUndefined (storage legacyKey) then now else 0))) ∧
    (({ storage } : Device).run appNamespace key (launchToEnd 0 now ++ acts)).writes.length ≤ 1 := by
  obtain ⟨hv, hw, hc⟩ := run_launchToEnd appNamespace key storage now
  have hkey : ((({ storage } : Device).run appNamespace key (launchToEnd 0 now)).storage
      (newKey appNamespace key)).isSome := by
    rw [hv]; cases storage (newKey appNamespace key) <;> rfl
  obtain ⟨hw', hs'⟩ := run_of_none_committed appNamespace key hkey hc acts
  rw [run_append, hs', hw']
  exact ⟨hv, hw⟩

/-! ## A legacy client -/

/-- The invariant of a legacy client whose key held `lastDate₀`. -/
structure LegacyClient (lastDate₀ : Option RawValue) (d : Device) : Prop where
  legacy : (d.storage legacyKey).isSome
  launches : Launch.AllEpoch d.launches
  writes : ∀ w ∈ d.writes, w.2 = 0
  lastDate : d.storage (newKey appNamespace key) = lastDate₀ ∨
    d.storage (newKey appNamespace key) = some (.number 0)

theorem forall_setLaunch {d : Device} (h : Launch.AllEpoch d.launches) {i : Nat} {l' : Launch}
    (h' : l'.Epoch) : Launch.AllEpoch (d.setLaunch i l').launches := by
  intro j l hj
  by_cases hji : j = i
  · subst hji
    simp only [setLaunch_launches, Function.update_same, Option.some.injEq] at hj
    exact hj ▸ h'
  · rw [setLaunch_launches, Function.update_noteq hji] at hj
    exact h j l hj

theorem LegacyClient.launches_step {lastDate₀ : Option RawValue} {d : Device}
    (h : LegacyClient appNamespace key lastDate₀ d) (a : Act) :
    Launch.AllEpoch (d.step appNamespace key a).launches := by
  cases a with
  | applicationStage stage =>
    dsimp only [step, applicationStage]
    split_ifs
    · exact forall_setLaunch h.launches (fun r hr => by cases hr)
    · exact h.launches
  | settle i =>
    dsimp only [step]; unfold settle
    split
    · exact forall_setLaunch h.launches (fun r hr => by cases hr; exact h.legacy)
    · next lv hl => exact forall_setLaunch h.launches (h.launches i ⟨.lastDate lv, none⟩ hl)
    · next v hl =>
      exact forall_setLaunch h.launches (h.launches i ⟨.setLastMigrationDate v, none⟩ hl)
    · exact h.launches
  | resume i now =>
    dsimp only [step]; unfold resume
    split
    · next r hl =>
      exact forall_setLaunch h.launches
        ((h.launches i _ hl : ∀ r', some r = some r' → r'.isSome) r rfl)
    · rename_i lv lastDate hl
      obtain ⟨x, rfl⟩ := Option.isSome_iff_exists.mp (h.launches i _ hl)
      dsimp only
      split
      · exact forall_setLaunch h.launches rfl
      · split
        · rename_i hc; simp [isNullOrUndefined] at hc
        · exact forall_setLaunch h.launches trivial
    · exact forall_setLaunch h.launches trivial
    · exact h.launches

theorem LegacyClient.step {lastDate₀ : Option RawValue} {d : Device}
    (h : LegacyClient appNamespace key lastDate₀ d) (a : Act) :
    LegacyClient appNamespace key lastDate₀ (d.step appNamespace key a) where
  legacy := by rw [step_storage_legacyKey]; exact h.legacy
  launches := h.launches_step appNamespace key a
  writes := by
    rcases step_storage appNamespace key d a with ⟨-, hw⟩ | ⟨i, v, hi, -, hw⟩
    · rw [hw]; exact h.writes
    · rw [hw]
      intro w hw'
      rcases List.mem_append.mp hw' with hw' | hw'
      · exact h.writes w hw'
      · rw [List.mem_singleton.mp hw']; exact h.launches i _ hi
  lastDate := by
    rcases step_storage appNamespace key d a with ⟨hs, -⟩ | ⟨i, v, hi, hs, -⟩
    · rw [hs]; exact h.lastDate
    · have hv : v = 0 := h.launches i _ hi
      rw [hs, hv]; exact .inr (by simp)

theorem LegacyClient.run {lastDate₀ : Option RawValue} {d : Device}
    (h : LegacyClient appNamespace key lastDate₀ d) (acts : List Act) :
    LegacyClient appNamespace key lastDate₀ (d.run appNamespace key acts) := by
  induction acts generalizing d with
  | nil => exact h
  | cons a acts ih => exact ih (h.step appNamespace key a)

/-- **A legacy client's timestamp is the epoch.** With the legacy `migrations` value stored
and no launch under way, every write of the timestamp, under every interleaving of launches,
is `new Date(0).getTime()`, so that every migration runs; the key ends up holding what it held
before, or the epoch. -/
theorem legacy_client_timestamp_is_epoch (storage : String → Option RawValue)
    (hlegacy : (storage legacyKey).isSome) (acts : List Act) :
    (∀ w ∈ (({ storage } : Device).run appNamespace key acts).writes, w.2 = 0) ∧
      ((({ storage } : Device).run appNamespace key acts).storage (newKey appNamespace key) =
          storage (newKey appNamespace key) ∨
        (({ storage } : Device).run appNamespace key acts).storage (newKey appNamespace key) =
          some (.number 0)) := by
  have h : LegacyClient appNamespace key (storage (newKey appNamespace key))
      (({ storage } : Device).run appNamespace key acts) :=
    LegacyClient.run appNamespace key (d := { storage })
      ⟨hlegacy, (fun _ _ h => by cases h), (fun _ h => by cases h), .inl rfl⟩ acts
  exact ⟨h.writes, h.lastDate⟩

/-- A legacy client: the `migrations` value stored, and no timestamp. -/
def legacyStorage (k : String) : Option RawValue := if k = legacyKey then some (.text "[]") else none

/-- The two launches of `bothReadFirst` on a legacy client both write the epoch. -/
theorem legacy_race_writes_epoch :
    (legacyStorage legacyKey).isSome ∧
      (∀ w ∈ (({ storage := legacyStorage } : Device).run "app" "k" bothReadFirst).writes,
        w.2 = 0) ∧
      ((({ storage := legacyStorage } : Device).run "app" "k" bothReadFirst).storage
          (newKey "app" "k") = legacyStorage (newKey "app" "k") ∨
        (({ storage := legacyStorage } : Device).run "app" "k" bothReadFirst).storage
          (newKey "app" "k") = some (.number 0)) :=
  ⟨by decide, legacy_client_timestamp_is_epoch "app" "k" legacyStorage (by decide) bothReadFirst⟩

end Device

end Snjs.Migrations.Base
