import Mathlib.Data.List.Sort

/-!
# `SNMigrationService` and the stored `SnjsVersion`

`initialize` (migration_service.ts:38–56) reads the stored version, instantiates the
migrations newer than it in version order, and registers `markMigrationsAsDone` (:58–63), the
write of `SnjsVersion` under `snjs_version`, as the `onDone` callback of the last of them only;
with no migration required it writes the version at once. `handleApplicationStage` and
`handleApplicationEvent` (:69–88) forward a stage to the base migration and then to every
active migration (:139–144); a ghost log records those calls as they are made.

So the stored version is written exactly when the newest active migration signals done,
whatever the others have done (`stored_version_written`). An older migration whose last stage
has not come yet keeps handlers that have not run, and after a restart `getRequiredMigrations`
no longer returns it (`version_written_before_older_migration_done`).

Stage deliveries are taken one at a time, each with all its awaits: the model merges the
awaits of `handleStage`, and of the `onDone` callback, into the step that delivers the stage.
-/

namespace Snjs.Migrations

/-- Modelled from the spec: `ApplicationStage` (`@Lib/stages`) is not under src/. A stage is
the number its name ends in (`PreparingForLaunch_0`, `LoadedDatabase_12`, `SignedIn_30`). -/
abbrev ApplicationStage := Nat

/-- `ApplicationStage.SignedIn_30`. -/
def signedInStage : ApplicationStage := 30

/-- `ApplicationEvent.SignedIn` (events.ts:5); an event is its enum value. -/
def signedInEvent : Nat := 2

/-- Modelled from the spec: `isRightVersionGreaterThanLeft` and `compareSemVersions`
(`@Lib/version`) are not under src/. Semantic versions are totally ordered; they are the
numbers they map to here. -/
def isRightVersionGreaterThanLeft (left right : Nat) : Bool := decide (left < right)

/-- Modelled from the spec: the migration classes (`@Lib/migrations`) are not under src/. A
class has a static `version()` and registers handlers for some stages, listed in lifecycle
order; the handler of the last of them ends by `markDone()` (§4.6). -/
structure MigrationClass where
  version : Nat
  stages : List ApplicationStage
  deriving DecidableEq, Repr

/-- An instance of a migration class. -/
structure Migration where
  cls : MigrationClass
  /-- Whether `onDone` registered a callback on it. -/
  onDone : Bool := false
  /-- Ghost: the stages whose handlers have run. -/
  handled : List ApplicationStage := []
  deriving DecidableEq, Repr

/-- Modelled from the spec: `Migration.handleStage(stage)` runs the handler registered for
`stage`, if any, and the last stage's handler calls the `onDone` callback through
`markDone()`. The second component says whether it did. -/
def Migration.handleStage (m : Migration) (stage : ApplicationStage) : Migration × Bool :=
  if stage ∈ m.cls.stages then
    ({ m with handled := m.handled ++ [stage] }, m.onDone && m.cls.stages.getLast? == some stage)
  else (m, false)

/-- `new BaseMigration(services)` (:67–70): `BaseMigration` (part_007:6–61) registers one
handler, for `PreparingForLaunch_0` (:14–18), and no `onDone` callback is registered on it. It
is not one of the classes `getRequiredMigrations` reads, and its version is never read. -/
def baseMigration : Migration := { cls := ⟨0, [0]⟩ }

/-- The fields of `SNMigrationService`, and the device storage it writes. -/
structure MigrationService where
  /-- The library's compiled-in `SnjsVersion`. -/
  snjsVersion : Nat
  baseMigration : Migration := Snjs.Migrations.baseMigration
  activeMigrations : List Migration
  /-- The value stored under `snjs_version`. -/
  storedVersion : Option Nat
  /-- Ghost: the `handleStage(stage)` calls made on migrations, in order, each with the
  migration's class, `none` for the base migration. -/
  calls : List (ApplicationStage × Option MigrationClass) := []
  deriving DecidableEq, Repr

/-- `getStoredSnjsVersion()` (:100–110). -/
def getStoredSnjsVersion (storedVersion : Option Nat) : Except String Nat :=
  match storedVersion with
  | some version => .ok version
  | none => .error "Snjs version missing from storage, run base migration."

/-- `getRequiredMigrations(storedVersion)` (:112–131): the classes in version order, those
newer than the stored version. -/
def getRequiredMigrations (migrationClasses : List MigrationClass) (storedVersion : Nat) :
    List MigrationClass :=
  (migrationClasses.insertionSort fun a b => a.version ≤ b.version).filter fun c =>
    c.version != storedVersion && isRightVersionGreaterThanLeft storedVersion c.version

/-- `instantiateMigrationClasses(classes)` (:133–137). -/
def instantiateMigrationClasses (classes : List MigrationClass) : List Migration :=
  classes.map fun c => { cls := c }

/-- `lastElement(this.activeMigrations).onDone(...)` (:47–50). -/
def onDoneOfLast : List Migration → List Migration
  | [] => []
  | [m] => [{ m with onDone := true }]
  | m :: ms => m :: onDoneOfLast ms

/-- `initialize()` (:38–56), whose name Lean keeps for itself, once `runBaseMigrationPreRun`
(:67–70) has made the base migration: its `preRun` is not under src/, and `storedVersion` is
what storage holds after it. -/
def initializeService (snjsVersion : Nat) (migrationClasses : List MigrationClass)
    (storedVersion : Option Nat) : Except String MigrationService := do
  let version ← getStoredSnjsVersion storedVersion
  let activeMigrations :=
    instantiateMigrationClasses (getRequiredMigrations migrationClasses version)
  if activeMigrations.length > 0 then
    return { snjsVersion, activeMigrations := onDoneOfLast activeMigrations, storedVersion }
  else
    return { snjsVersion, activeMigrations, storedVersion := some snjsVersion }

namespace MigrationService

/-- `markMigrationsAsDone()` (:58–63). -/
def markMigrationsAsDone (s : MigrationService) : MigrationService :=
  { s with storedVersion := some s.snjsVersion }

/-- The loop of `handleStage` (:141–143) over the migrations `ms` still to call: each call is
logged, and a `markDone()` it makes runs the `onDone` callback, `markMigrationsAsDone`. It
returns the migrations as the calls left them. -/
def handleEach (stage : ApplicationStage) (s : MigrationService) :
    List Migration → List Migration × MigrationService
  | [] => ([], s)
  | m :: ms =>
    let r := m.handleStage stage
    let s := { s with calls := s.calls ++ [(stage, some m.cls)] }
    let rest := handleEach stage (if r.2 then s.markMigrationsAsDone else s) ms
    (r.1 :: rest.1, rest.2)

/-- `handleStage(stage)` (:139–144): the base migration, whose handlers touch nothing modelled
here and on which no callback is registered, then each active migration in order. -/
def handleStage (s : MigrationService) (stage : ApplicationStage) : MigrationService :=
  let s := { s with baseMigration := (s.baseMigration.handleStage stage).1
                    calls := s.calls ++ [(stage, none)] }
  let loop := handleEach stage s s.activeMigrations
  { loop.2 with activeMigrations := loop.1 }

end MigrationService

/-- What the application delivers. -/
inductive Act
  /-- `handleApplicationStage(stage)` (:69–72). -/
  | applicationStage (stage : ApplicationStage)
  /-- `handleApplicationEvent(event)` (:77–81). -/
  | applicationEvent (event : Nat)
  deriving DecidableEq, Repr

namespace MigrationService

def step (s : MigrationService) : Act → MigrationService
  | .applicationStage stage => s.handleStage stage
  | .applicationEvent event => if event = signedInEvent then s.handleStage signedInStage else s

def run (s : MigrationService) (acts : List Act) : MigrationService := acts.foldl step s

end MigrationService

/-! ## What a stage does -/

/-- The stages an action forwards to `handleStage`. -/
def Act.stages : Act → List ApplicationStage
  | .applicationStage stage => [stage]
  | .applicationEvent event => if event = signedInEvent then [signedInStage] else []

namespace Migration

variable {m : Migration} {stage : ApplicationStage}

@[simp] theorem handleStage_cls : (m.handleStage stage).1.cls = m.cls := by
  unfold handleStage; split <;> rfl

@[simp] theorem handleStage_onDone : (m.handleStage stage).1.onDone = m.onDone := by
  unfold handleStage; split <;> rfl

/-- A migration calls its `onDone` callback exactly when the stage is its last one and a
callback is registered on it. -/
theorem handleStage_snd :
    (m.handleStage stage).2 = (m.onDone && m.cls.stages.getLast? == some stage) := by
  unfold handleStage
  split
  · rfl
  · next h =>
    cases hl : m.cls.stages.getLast? with
    | none => simp
    | some l =>
      have hne : l ≠ stage := fun hls => h (hls ▸ List.mem_of_getLast?_eq_some hl)
      simp [hne]

end Migration

namespace MigrationService

variable {s : MigrationService}

/-- Whether some active migration calls `markMigrationsAsDone` when it handles `stage`. -/
def marksDoneAt (s : MigrationService) (stage : ApplicationStage) : Bool :=
  s.activeMigrations.any fun m => m.onDone && m.cls.stages.getLast? == some stage

/-- **The loop.** It calls every migration in order, logging each call, and writes
`SnjsVersion` when one of them marks done. -/
theorem handleEach_eq (stage : ApplicationStage) (ms : List Migration) :
    handleEach stage s ms =
      (ms.map fun m => (m.handleStage stage).1,
        { s with calls := s.calls ++ ms.map fun m => (stage, some m.cls)
                 storedVersion := if ms.any fun m => (m.handleStage stage).2 then some s.snjsVersion
                   else s.storedVersion }) := by
  induction ms generalizing s with
  | nil => simp [handleEach]
  | cons m ms ih =>
    simp only [handleEach, ih]
    cases h : (m.handleStage stage).2 <;> simp [markMigrationsAsDone, h]

/-- **One stage.** The base migration is called, then every active migration in order, and
`SnjsVersion` is written exactly when one of them marks done. -/
theorem handleStage_eq (stage : ApplicationStage) :
    s.handleStage stage =
      { s with baseMigration := (s.baseMigration.handleStage stage).1
               activeMigrations := s.activeMigrations.map fun m => (m.handleStage stage).1
               calls := s.calls ++ (stage, none) :: s.activeMigrations.map fun m => (stage, some m.cls)
               storedVersion := if s.marksDoneAt stage then some s.snjsVersion
                 else s.storedVersion } := by
  simp [handleStage, handleEach_eq, marksDoneAt, Migration.handleStage_snd]

@[simp] theorem handleStage_snjsVersion (stage : ApplicationStage) :
    (s.handleStage stage).snjsVersion = s.snjsVersion := by
  rw [handleStage_eq]

@[simp] theorem handleStage_marksDoneAt (stage stage' : ApplicationStage) :
    (s.handleStage stage).marksDoneAt stage' = s.marksDoneAt stage' := by
  simp [handleStage_eq, marksDoneAt, Function.comp_def]

theorem handleStage_storedVersion (stage : ApplicationStage) :
    (s.handleStage stage).storedVersion =
      if s.marksDoneAt stage then some s.snjsVersion else s.storedVersion := by
  rw [handleStage_eq]

@[simp] theorem map_cls_handleStage (stage : ApplicationStage) :
    (s.handleStage stage).activeMigrations.map (·.cls) = s.activeMigrations.map (·.cls) := by
  simp [handleStage_eq, Function.comp_def]

/-- A delivery is its stages handled in turn. -/
theorem step_eq (a : Act) : s.step a = a.stages.foldl handleStage s := by
  cases a with
  | applicationStage stage => rfl
  | applicationEvent event =>
    simp only [step, Act.stages]
    split <;> rfl

theorem run_eq (acts : List Act) : s.run acts = (acts.flatMap Act.stages).foldl handleStage s := by
  induction acts generalizing s with
  | nil => rfl
  | cons a acts ih =>
    rw [List.flatMap_cons, List.foldl_append, ← step_eq]
    exact ih

/-- **Any stages.** `SnjsVersion` is written once a migration has marked done at one of
them. -/
theorem foldl_handleStage_storedVersion :
    ∀ (stages : List ApplicationStage) (s : MigrationService),
      (stages.foldl handleStage s).storedVersion =
        if stages.any s.marksDoneAt then some s.snjsVersion else s.storedVersion
  | [], _ => rfl
  | stage :: stages, s => by
    rw [List.foldl_cons, foldl_handleStage_storedVersion stages, handleStage_storedVersion]
    have hm : (stages.any fun st => (s.handleStage stage).marksDoneAt st) =
        stages.any s.marksDoneAt := by simp
    rw [hm, handleStage_snjsVersion, List.any_cons]
    cases s.marksDoneAt stage <;> cases stages.any s.marksDoneAt <;> rfl

/-- The calls made for the stages `stages`, from a service whose active migrations are of the
classes `cs`: for each stage, the base migration and then each active migration. -/
def callsFor (cs : List MigrationClass) (stages : List ApplicationStage) :
    List (ApplicationStage × Option MigrationClass) :=
  stages.flatMap fun stage => (stage, none) :: cs.map fun c => (stage, some c)

/-- **Any stages.** The calls logged are those of `callsFor`, the active migrations keeping
their classes from stage to stage. -/
theorem calls_foldl_handleStage (stages : List ApplicationStage) :
    (stages.foldl handleStage s).calls =
      s.calls ++ callsFor (s.activeMigrations.map (·.cls)) stages := by
  induction stages generalizing s with
  | nil => simp [callsFor]
  | cons stage stages ih =>
    rw [List.foldl_cons, ih, map_cls_handleStage, handleStage_eq]
    simp [callsFor, Function.comp_def]

end MigrationService

/-! ## From `initialize` on -/

/-- Whether the newest of the `required` migrations has reached its last stage among
`stages`: the moment its `onDone` callback runs. With none required there is nothing to
wait for. -/
def newestDone (required : List MigrationClass) (stages : List ApplicationStage) : Bool :=
  match required.getLast? with
  | none => true
  | some c =>
    match c.stages.getLast? with
    | some last => decide (last ∈ stages)
    | none => false

/-- Only the last instance carries the callback: they mark done at its last stage. -/
theorem any_onDoneOfLast (stage : ApplicationStage) :
    ∀ cs : List MigrationClass,
      ((onDoneOfLast (instantiateMigrationClasses cs)).any
          fun m => m.onDone && m.cls.stages.getLast? == some stage) =
        (cs.getLast?.bind (·.stages.getLast?) == some stage)
  | [] => rfl
  | [c] => by simp [onDoneOfLast, instantiateMigrationClasses]
  | c :: c' :: cs => by
    have := any_onDoneOfLast stage (c' :: cs)
    simp only [instantiateMigrationClasses, List.map_cons] at this ⊢
    simp only [onDoneOfLast, List.any_cons, this, Bool.false_and, Bool.false_or,
      List.getLast?_cons_cons]

theorem marksDoneAt_onDoneOfLast (snjsVersion : Nat) (storedVersion : Option Nat)
    (cs : List MigrationClass) :
    ({ snjsVersion, storedVersion, activeMigrations := onDoneOfLast (instantiateMigrationClasses cs) } :
      MigrationService).marksDoneAt =
      fun stage => cs.getLast?.bind (·.stages.getLast?) == some stage :=
  funext fun stage => any_onDoneOfLast stage cs

theorem initializeService_some (snjsVersion : Nat) (migrationClasses : List MigrationClass)
    (version : Nat) :
    initializeService snjsVersion migrationClasses (some version) =
      .ok (if getRequiredMigrations migrationClasses version = [] then
        { snjsVersion, activeMigrations := [], storedVersion := some snjsVersion }
      else
        { snjsVersion, storedVersion := some version,
          activeMigrations := onDoneOfLast
            (instantiateMigrationClasses (getRequiredMigrations migrationClasses version)) }) := by
  cases h : getRequiredMigrations migrationClasses version <;>
    simp [initializeService, getStoredSnjsVersion, instantiateMigrationClasses, h, bind,
      Except.bind, pure, Except.pure]

/-- **When `SnjsVersion` is written.** From `initialize` over any migration classes and stored
version, under any deliveries, the stored version becomes `SnjsVersion` exactly when the
newest required migration has handled its last stage, or at once when none is required;
until then it is the version read at `initialize`. -/
theorem stored_version_written (snjsVersion : Nat) (migrationClasses : List MigrationClass)
    (version : Nat) (acts : List Act) :
    (initializeService snjsVersion migrationClasses (some version)).map
        (fun s => (s.run acts).storedVersion) =
      .ok (if newestDone (getRequiredMigrations migrationClasses version)
          (acts.flatMap Act.stages) then some snjsVersion else some version) := by
  rw [initializeService_some]
  split
  · next h =>
    simp only [Except.map, MigrationService.run_eq,
      MigrationService.foldl_handleStage_storedVersion, h, newestDone]
    simp [MigrationService.marksDoneAt]
  · next h =>
    simp only [Except.map, MigrationService.run_eq,
      MigrationService.foldl_handleStage_storedVersion, marksDoneAt_onDoneOfLast]
    obtain ⟨c, hc⟩ := Option.ne_none_iff_exists'.1 (mt List.getLast?_eq_none_iff.1 h)
    simp only [hc, newestDone, Option.some_bind]
    cases c.stages.getLast? <;> simp

/-! ## The newest migration done first -/

/-- A migration of version 1 whose only handler is for `SignedIn_30`. -/
def signedInMigration : MigrationClass := ⟨1, [signedInStage]⟩

/-- A migration of version 2 whose only handler is for `PreparingForLaunch_0`. -/
def launchMigration : MigrationClass := ⟨2, [0]⟩

/-- With `SnjsVersion` 2 and version 0 stored, both migrations are required; at
`PreparingForLaunch_0` the newer one is done and `SnjsVersion` is written, while the older one's
`SignedIn_30` handler has not run. After a restart neither is required. -/
theorem version_written_before_older_migration_done :
    (initializeService 2 [signedInMigration, launchMigration] (some 0)).map
        (fun s => ((s.run [.applicationStage 0]).storedVersion,
          (s.run [.applicationStage 0]).activeMigrations.map (·.handled))) =
      .ok (some 2, [[], [0]]) ∧
    getRequiredMigrations [signedInMigration, launchMigration] 0 =
      [signedInMigration, launchMigration] ∧
    getRequiredMigrations [signedInMigration, launchMigration] 2 = [] :=
  ⟨rfl, rfl, rfl⟩

/-! ## Which migrations run, and in what order -/

/-- `hasPendingMigrations()` (:90–98). `needsKeychainRepair` is what
`baseMigration.needsKeychainRepair()` (not under src/) answers. -/
def hasPendingMigrations (migrationClasses : List MigrationClass) (storedVersion : Option Nat)
    (needsKeychainRepair : Bool) : Except String Bool := do
  let version ← getStoredSnjsVersion storedVersion
  return (getRequiredMigrations migrationClasses version).length > 0 || needsKeychainRepair

/-- The test of `getRequiredMigrations` keeps exactly the newer classes: a newer version is
not the stored one. -/
theorem getRequiredMigrations_eq_filter (migrationClasses : List MigrationClass) (version : Nat) :
    getRequiredMigrations migrationClasses version =
      (migrationClasses.insertionSort fun a b => a.version ≤ b.version).filter
        (version < ·.version) := by
  refine List.filter_congr fun c _ => ?_
  by_cases h : version < c.version
  · simp [isRightVersionGreaterThanLeft, h, Nat.ne_of_gt h]
  · simp [isRightVersionGreaterThanLeft, h]

theorem map_cls_onDoneOfLast : ∀ ms : List Migration, (onDoneOfLast ms).map (·.cls) = ms.map (·.cls)
  | [] | [_] => rfl
  | m :: m' :: ms => congrArg (m.cls :: ·) (map_cls_onDoneOfLast (m' :: ms))

/-- The required classes are the newer ones, each as often as given, in version order. -/
theorem getRequiredMigrations_perm_sorted (migrationClasses : List MigrationClass) (version : Nat) :
    (getRequiredMigrations migrationClasses version).Perm
        (migrationClasses.filter (version < ·.version)) ∧
      (getRequiredMigrations migrationClasses version).Sorted (·.version ≤ ·.version) := by
  have : IsTotal MigrationClass (·.version ≤ ·.version) := ⟨fun a b => Nat.le_total _ _⟩
  have : IsTrans MigrationClass (·.version ≤ ·.version) := ⟨fun _ _ _ => Nat.le_trans⟩
  rw [getRequiredMigrations_eq_filter]
  exact ⟨(List.perm_insertionSort _ _).filter _, (List.sorted_insertionSort _ _).filter _⟩

/-- `initialize` instantiates the required classes, in their order, and has called no
migration yet. -/
theorem initializeService_activeMigrations (snjsVersion : Nat)
    (migrationClasses : List MigrationClass) (version : Nat) :
    ∃ s, initializeService snjsVersion migrationClasses (some version) = .ok s ∧
      s.activeMigrations.map (·.cls) = getRequiredMigrations migrationClasses version ∧
      s.calls = [] := by
  rw [initializeService_some]
  refine ⟨_, rfl, ?_⟩
  split
  · next h => exact ⟨h.symm, rfl⟩
  · rw [map_cls_onDoneOfLast]
    simp [instantiateMigrationClasses, Function.comp_def]

theorem hasPendingMigrations_eq_ok_false (migrationClasses : List MigrationClass) (version : Nat)
    (needsKeychainRepair : Bool) :
    hasPendingMigrations migrationClasses (some version) needsKeychainRepair = .ok false ↔
      (∀ c ∈ migrationClasses, c.version ≤ version) ∧ needsKeychainRepair = false := by
  have hlen := (getRequiredMigrations_perm_sorted migrationClasses version).1.length_eq
  simp only [hasPendingMigrations, getStoredSnjsVersion, bind, Except.bind, pure, Except.pure,
    Except.ok.injEq, Bool.or_eq_false_iff, decide_eq_false_iff_not, hlen, Nat.not_lt,
    Nat.le_zero, List.length_eq_zero, List.filter_eq_nil_iff, decide_eq_true_eq]

/-- **The required migrations, and the order stages reach them.** For any migration classes
and stored version, `getRequiredMigrations` returns the classes with a newer version, each as
often as it is given, in ascending version order. From `initialize` on, under any deliveries,
`handleStage` calls, for every stage delivered, the base migration and then those classes'
instances in that order; and
`hasPendingMigrations` answers `false` exactly when no class is newer and the keychain needs
no repair, and raises with no stored version. -/
theorem required_migrations_newer_in_order (migrationClasses : List MigrationClass)
    (version snjsVersion : Nat) (needsKeychainRepair : Bool) (acts : List Act) :
    (getRequiredMigrations migrationClasses version).Perm
        (migrationClasses.filter (version < ·.version)) ∧
    (getRequiredMigrations migrationClasses version).Sorted (·.version ≤ ·.version) ∧
    (initializeService snjsVersion migrationClasses (some version)).map
        (fun s => (s.run acts).calls) =
      .ok ((acts.flatMap Act.stages).flatMap fun stage =>
        (stage, none) :: (getRequiredMigrations migrationClasses version).map fun c =>
          (stage, some c)) ∧
    (hasPendingMigrations migrationClasses (some version) needsKeychainRepair = .ok false ↔
      (∀ c ∈ migrationClasses, c.version ≤ version) ∧ needsKeychainRepair = false) ∧
    hasPendingMigrations migrationClasses none needsKeychainRepair =
      .error "Snjs version missing from storage, run base migration." := by
  obtain ⟨s, hs, hcls, hcalls⟩ :=
    initializeService_activeMigrations snjsVersion migrationClasses version
  refine ⟨(getRequiredMigrations_perm_sorted migrationClasses version).1,
    (getRequiredMigrations_perm_sorted migrationClasses version).2, ?_,
    hasPendingMigrations_eq_ok_false migrationClasses version needsKeychainRepair, rfl⟩
  rw [hs, ← hcls]
  simp only [Except.map, MigrationService.run_eq, MigrationService.calls_foldl_handleStage, hcalls,
    List.nil_append, MigrationService.callsFor]

end Snjs.Migrations
