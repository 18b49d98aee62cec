import Snjs.Models.Item

/-!
# `SNSessionManager.signIn`

`signIn(email, password, strict, minAllowedVersion)` (part_004 :164–236) fetches the account's
key params and runs a chain of checks, each of which returns an error response; past the last
one it derives the root key with `computeRootKey` and calls
`bypassChecksAndSignInWithServerPassword`, which contacts the sign-in endpoint.
`reauthenticateInvalidSession` (:104–121) prompts for the credentials and calls
`signIn(email, password, false, currentKeyParams!.version)`.

The model returns `.ok keyParams` on the path that derives the key from `keyParams` and signs
in, and `.error` with the message of the response returned otherwise. `signIn` gets that far
exactly when the checks of `SignInAdmits` hold (`signIn_derives_key_iff`).

The cost check is the JS comparison `pw_cost < minimum`. On params without a `pw_cost` it
compares `undefined`, which is `NaN`, and is false: outdated params with no cost at all pass
it (`signIn_accepts_missing_pw_cost`). And with `strict` set the version floor is the latest
version, whatever `minAllowedVersion` was given.
-/

namespace Snjs.Session

open Snjs.Models

/-- What `signIn` reads of the params `KeyParamsFromApiResponse` (not under src/) builds: the
version, and `content002.pw_cost`, `undefined` when the response has none. -/
structure KeyParams where
  version : Option String
  pw_cost : Option Nat
  deriving DecidableEq, Repr

/-- The answers of `SNProtocolService` (not under src/) and of
`leftVersionGreaterThanOrEqualToRight` (`@Lib/protocol/versions`, not under src/) that
`signIn` asks for. -/
structure ProtocolLibrary where
  supportedVersions : List String
  isVersionNewerThanLibraryVersion : String → Bool
  isProtocolVersionOutdated : String → Bool
  costMinimumForVersion : String → Nat
  platformSupportsKeyDerivation : KeyParams → Bool
  getLatestVersion : String
  leftVersionGreaterThanOrEqualToRight : String → String → Bool

/-- The error responses `signIn` returns, by the message they carry (`./messages`, not under
src/). -/
inductive SignInError
  /-- The error response of `getAccountKeyParams`, returned as it is (:170–174). -/
  | response (error : String)
  | API_MESSAGE_FALLBACK_LOGIN_FAIL
  | UNSUPPORTED_PROTOCOL_VERSION
  | EXPIRED_PROTOCOL_VERSION
  | INVALID_PASSWORD_COST
  | UNSUPPORTED_KEY_DERIVATION
  /-- `messages.StrictSignInFailed(version, minAllowedVersion)`. -/
  | StrictSignInFailed (version minAllowedVersion : String)
  deriving DecidableEq, Repr

/-- `keyParams.content002.pw_cost < minimum` (:198): `undefined < minimum` is false. -/
def costBelow (pw_cost : Option Nat) (minimum : Nat) : Bool :=
  match pw_cost with
  | some cost => decide (cost < minimum)
  | none => false

/-- Lines :211–225 of `signIn`: the key-derivation check, then the version floor, which is the
latest version when `strict` is set. -/
def checkDerivationAndFloor (P : ProtocolLibrary) (keyParams : KeyParams) (version : String)
    (strict : Bool) (minAllowedVersion : Option String) : Except SignInError KeyParams :=
  if !P.platformSupportsKeyDerivation keyParams then .error .UNSUPPORTED_KEY_DERIVATION
  else
    match if strict then some P.getLatestVersion else minAllowedVersion with
    | some minAllowed =>
      if !P.leftVersionGreaterThanOrEqualToRight version minAllowed then
        .error (.StrictSignInFailed version minAllowed)
      else .ok keyParams
    | none => .ok keyParams

/-- `signIn(email, password, strict, minAllowedVersion)` (:164–236), with `paramsResponse` what
`getAccountKeyParams(email)` answers (`none` where `KeyParamsFromApiResponse` builds nothing)
and `confirmed` what the user answers the outdated-protocol alert. -/
def signIn (P : ProtocolLibrary) (paramsResponse : Except String (Option KeyParams))
    (confirmed strict : Bool) (minAllowedVersion : Option String) : Except SignInError KeyParams :=
  match paramsResponse with
  | .error error => .error (.response error)
  | .ok none => .error .API_MESSAGE_FALLBACK_LOGIN_FAIL
  | .ok (some keyParams) =>
    match keyParams.version with
    | none | some "" => .error .API_MESSAGE_FALLBACK_LOGIN_FAIL
    | some version =>
      if !P.supportedVersions.contains version then
        if P.isVersionNewerThanLibraryVersion version then .error .UNSUPPORTED_PROTOCOL_VERSION
        else .error .EXPIRED_PROTOCOL_VERSION
      else if P.isProtocolVersionOutdated version then
        if costBelow keyParams.pw_cost (P.costMinimumForVersion version) then
          .error .INVALID_PASSWORD_COST
        else if !confirmed then .error .API_MESSAGE_FALLBACK_LOGIN_FAIL
        else checkDerivationAndFloor P keyParams version strict minAllowedVersion
      else checkDerivationAndFloor P keyParams version strict minAllowedVersion

/-- `reauthenticateInvalidSession()` (:104–121), once the challenge is answered with `email` and
`password` (`''` where a value is missing). Without both it returns; otherwise
`currentKeyParams!.version` raises on an account without key params, and `signIn` runs with
that version as the floor. -/
def reauthenticateInvalidSession (P : ProtocolLibrary) (email password : String)
    (currentKeyParams : Option KeyParams) (paramsResponse : Except String (Option KeyParams))
    (confirmed : Bool) : Except JsError (Option (Except SignInError KeyParams)) :=
  if email = "" || password = "" then .ok none
  else
    match currentKeyParams with
    | none => .error .typeError
    | some current => .ok (some (signIn P paramsResponse confirmed false current.version))

/-! ## When `signIn` derives a key -/

/-- The checks `signIn` makes of params at `version` before it derives a key. -/
structure SignInAdmits (P : ProtocolLibrary) (keyParams : KeyParams) (version : String)
    (confirmed strict : Bool) (minAllowedVersion : Option String) : Prop where
  supported : version ∈ P.supportedVersions
  /-- Outdated params pass the cost check, which a missing `pw_cost` passes, and the alert. -/
  outdated : P.isProtocolVersionOutdated version = true →
    costBelow keyParams.pw_cost (P.costMinimumForVersion version) = false ∧ confirmed = true
  derivation : P.platformSupportsKeyDerivation keyParams = true
  floor : ∀ minAllowed, (if strict then some P.getLatestVersion else minAllowedVersion) = some minAllowed →
    P.leftVersionGreaterThanOrEqualToRight version minAllowed = true

theorem signInAdmits_iff {P : ProtocolLibrary} {keyParams : KeyParams} {version : String}
    {confirmed strict : Bool} {minAllowedVersion : Option String} :
    SignInAdmits P keyParams version confirmed strict minAllowedVersion ↔
      version ∈ P.supportedVersions ∧
      (P.isProtocolVersionOutdated version = true →
        costBelow keyParams.pw_cost (P.costMinimumForVersion version) = false ∧ confirmed = true) ∧
      P.platformSupportsKeyDerivation keyParams = true ∧
      ∀ minAllowed, (if strict then some P.getLatestVersion else minAllowedVersion) = some minAllowed →
        P.leftVersionGreaterThanOrEqualToRight version minAllowed = true :=
  ⟨fun h => ⟨h.1, h.2, h.3, h.4⟩, fun h => ⟨h.1, h.2.1, h.2.2.1, h.2.2.2⟩⟩

theorem checkDerivationAndFloor_eq_ok {P : ProtocolLibrary} {keyParams keyParams' : KeyParams}
    {version : String} {strict : Bool} {minAllowedVersion : Option String} :
    checkDerivationAndFloor P keyParams version strict minAllowedVersion = .ok keyParams' ↔
      keyParams' = keyParams ∧ P.platformSupportsKeyDerivation keyParams = true ∧
      ∀ minAllowed, (if strict then some P.getLatestVersion else minAllowedVersion) = some minAllowed →
        P.leftVersionGreaterThanOrEqualToRight version minAllowed = true := by
  unfold checkDerivationAndFloor
  cases hd : P.platformSupportsKeyDerivation keyParams
  · simp
  · simp only [Bool.not_true, Bool.false_eq_true, if_false, true_and]
    generalize (if strict then some P.getLatestVersion else minAllowedVersion) = floor
    cases floor with
    | none =>
      simp only [Except.ok.injEq, reduceCtorEq, false_implies, implies_true, and_true]
      exact eq_comm
    | some minAllowed =>
      cases hv : P.leftVersionGreaterThanOrEqualToRight version minAllowed
      · simp [hv]
      · simp only [hv, Bool.not_true, Bool.false_eq_true, if_false, Except.ok.injEq,
          Option.some.injEq, forall_eq', and_true]
        exact eq_comm

/-- **When `signIn` derives a key.** `signIn` goes on to `computeRootKey` and
`bypassChecksAndSignInWithServerPassword` exactly when the server answered with params that
have a non-empty version and the checks of `SignInAdmits` hold; in every other case it returns
an error response. -/
theorem signIn_derives_key_iff (P : ProtocolLibrary) (paramsResponse : Except String (Option KeyParams))
    (confirmed strict : Bool) (minAllowedVersion : Option String) (keyParams' : KeyParams) :
    signIn P paramsResponse confirmed strict minAllowedVersion = .ok keyParams' ↔
      ∃ keyParams version, paramsResponse = .ok (some keyParams) ∧
        keyParams.version = some version ∧ version ≠ "" ∧ keyParams' = keyParams ∧
        SignInAdmits P keyParams version confirmed strict minAllowedVersion := by
  rcases paramsResponse with error | _ | keyParams
  · simp [signIn]
  · simp [signIn]
  · simp only [signIn, Except.ok.injEq, Option.some.injEq, exists_and_left, exists_eq_left']
    split
    · next hv => simp [hv]
    · next hv => simp [hv]
    · next version hne hv =>
      have hne : version ≠ "" := hne
      simp only [hv, Option.some.injEq, exists_eq_left', hne, ne_eq, not_false_eq_true, true_and,
        signInAdmits_iff]
      by_cases hs : version ∈ P.supportedVersions
      · have hs' : P.supportedVersions.contains version = true := by simpa using hs
        simp only [hs', Bool.not_true, Bool.false_eq_true, if_false, hs, true_and]
        cases ho : P.isProtocolVersionOutdated version
        · simp [checkDerivationAndFloor_eq_ok]
        · cases costBelow keyParams.pw_cost (P.costMinimumForVersion version) <;> cases confirmed <;>
            simp [checkDerivationAndFloor_eq_ok]
      · have hs' : P.supportedVersions.contains version = false := by simpa using hs
        simp only [hs', Bool.not_false, if_true, hs, false_and, and_false, iff_false]
        split <;> simp

/-- **`signIn` and reauthentication check before they derive a key.** `signIn` derives a key
and signs in exactly when `SignInAdmits` holds of the params the server answered; and
`reauthenticateInvalidSession` does so exactly when both credentials were entered and
`SignInAdmits` holds with the version of the account's current key params as the floor. -/
theorem sign_in_checks_before_key_derivation :
    (∀ (P : ProtocolLibrary) (paramsResponse : Except String (Option KeyParams))
        (confirmed strict : Bool) (minAllowedVersion : Option String) (keyParams' : KeyParams),
      signIn P paramsResponse confirmed strict minAllowedVersion = .ok keyParams' ↔
        ∃ keyParams version, paramsResponse = .ok (some keyParams) ∧
          keyParams.version = some version ∧ version ≠ "" ∧ keyParams' = keyParams ∧
          SignInAdmits P keyParams version confirmed strict minAllowedVersion) ∧
    ∀ (P : ProtocolLibrary) (email password : String) (current : KeyParams)
        (paramsResponse : Except String (Option KeyParams)) (confirmed : Bool) (keyParams' : KeyParams),
      reauthenticateInvalidSession P email password (some current) paramsResponse confirmed =
          .ok (some (.ok keyParams')) ↔
        email ≠ "" ∧ password ≠ "" ∧ ∃ keyParams version, paramsResponse = .ok (some keyParams) ∧
          keyParams.version = some version ∧ version ≠ "" ∧ keyParams' = keyParams ∧
          SignInAdmits P keyParams version confirmed false current.version := by
  refine ⟨signIn_derives_key_iff, fun P email password current paramsResponse confirmed keyParams' => ?_⟩
  rw [← signIn_derives_key_iff]
  unfold reauthenticateInvalidSession
  by_cases he : email = "" <;> by_cases hp : password = "" <;> simp [he, hp]

/-- **Params without a cost are accepted.** In any library in which `version` is supported and
derives keys for the params, params at `version` with no `pw_cost` pass the cost check, outdated
or not: once the alert is confirmed, `signIn` derives a key from them and signs in. -/
theorem signIn_accepts_missing_pw_cost (P : ProtocolLibrary) (version : String)
    (hne : version ≠ "") (hs : version ∈ P.supportedVersions)
    (hd : P.platformSupportsKeyDerivation ⟨some version, none⟩ = true) :
    signIn P (.ok (some ⟨some version, none⟩)) true false none = .ok ⟨some version, none⟩ :=
  (signIn_derives_key_iff P _ true false none _).2
    ⟨_, version, rfl, rfl, hne, rfl, hs, fun _ => ⟨rfl, rfl⟩, hd, fun _ h => by cases h⟩

/-- A library with the answers privileges.test.js checks (:93–116): versions `001` to `004`,
`004` the latest, `005` newer; `001` and `002` outdated, as the spec has them. The tests fix
no cost minimum, key derivation or version order: here `3000`, derivation for all params, and
versions compared as the numbers they spell. -/
def testedLibrary : ProtocolLibrary where
  supportedVersions := ["001", "002", "003", "004"]
  isVersionNewerThanLibraryVersion version := !(["001", "002", "003", "004"].contains version)
  isProtocolVersionOutdated version := version == "001" || version == "002"
  costMinimumForVersion _ := 3000
  platformSupportsKeyDerivation _ := true
  getLatestVersion := "004"
  leftVersionGreaterThanOrEqualToRight left right :=
    Nat.ble (right.toNat?.getD 0) (left.toNat?.getD 0)

/-- Params at `002`, an outdated version, without `pw_cost` sign in with the tested library. -/
theorem tested_library_accepts_missing_pw_cost :
    "002" ≠ "" ∧ "002" ∈ testedLibrary.supportedVersions ∧
      testedLibrary.isProtocolVersionOutdated "002" = true ∧
      testedLibrary.platformSupportsKeyDerivation ⟨some "002", none⟩ = true ∧
      signIn testedLibrary (.ok (some ⟨some "002", none⟩)) true false none =
        .ok ⟨some "002", none⟩ :=
  ⟨by decide, by decide, rfl, rfl,
    signIn_accepts_missing_pw_cost testedLibrary "002" (by decide) (by decide) rfl⟩

end Snjs.Session
