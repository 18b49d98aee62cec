import Snjs.Session.SignIn

/-!
# `SNSessionManager`: the signed-in user, the MFA retries, and what storage keeps

The session manager (part_004 :38–323) keeps the user in memory and under `StorageKey.User`,
and hands the api service the session of the last successful authentication.
`handleSuccessAuthResponse` (:306–322) is the only code that writes either: `register`,
`changePassword` and the sign-in loop call it on an answer without error. `signOut` (:96–102)
forgets the user in memory only, and `initializeFromDisk` (:64–78) reads the user (or the legacy
uuid) and the session back from storage.

`bypassChecksAndSignInWithServerPassword` (:251–285) is a loop written as a recursion: while the
server answers with an error whose payload carries an `mfa_key` and the user enters a code, it
signs in again with that key and code.

- `mfa_loop_retries_as_answered`: the loop returns exactly when an answer does not ask for a
  code or the user dismisses the prompt. The calls it made are the first one and one retry per
  code entered, each with the `mfa_key` of the answer before it. It returns the answer to its
  last call, and the state changes, through `handleSuccessAuthResponse`, exactly when that
  answer has no error.
- `storage_keeps_last_authenticated_user`: over every run of `initializeFromDisk`, `register`,
  `signIn`, `changePassword` and `signOut`, storage holds the user and the session of the last
  successful authentication, sign-outs notwithstanding, and `initializeFromDisk` after the run
  restores that user.

The api service, the protocol service, the challenge prompts and the sessions' classes are not
under src/; their answers are inputs of the model. `apiService.setSession(session, persist)` is
taken to make `session` the current session and, when `persist` is set, to store it under
`StorageKey.Session`.
-/

namespace Snjs.Session

/-- `User` (:28–31). -/
structure User where
  uuid : String
  email : Option String
  deriving DecidableEq, Repr

/-- The error of an api answer; the manager reads only `error.payload?.mfa_key`, `none` where
the payload or the key is missing. -/
structure ResponseError where
  mfa_key : Option String
  deriving DecidableEq, Repr

/-- What the api service answers to `register`, `signIn` and `changePassword` (`./responses`,
not under src/): its error, its `user`, and the legacy JWT `token`. -/
structure AuthResponse where
  error : Option ResponseError
  user : Option User
  token : Option String
  deriving DecidableEq, Repr

/-- `Session` (`./session`, not under src/), as the manager builds one: a legacy `JwtSession`
on the response's token, or the `TokenSession` built from the response by
`TokenSession.FromApiResponse`. -/
inductive ApiSession
  | JwtSession (token : String)
  | TokenSession (response : AuthResponse)
  deriving DecidableEq, Repr

/-- A string or `undefined` where JavaScript tests it for truth: the string when it is
non-empty. -/
def truthy (value : Option String) : Option String := value.filter (· != "")

@[simp] theorem truthy_none : truthy none = none := rfl

/-- `error.payload?.mfa_key` of an answer, when it has an error and the key is truthy: the
answer asks for a two-factor code. -/
def AuthResponse.mfaKey? (r : AuthResponse) : Option String := r.error.bind fun e => truthy e.mfa_key

/-- The fields the manager reads and writes: its `user`, the api service's session, and the
storage values under `StorageKey.User`, `StorageKey.LegacyUuid` and `StorageKey.Session`. -/
structure SessionState where
  user : Option User
  session : Option ApiSession
  storedUser : Option User
  storedLegacyUuid : Option String
  storedSession : Option ApiSession
  deriving DecidableEq, Repr

/-- `MINIMUM_PASSWORD_LENGTH` (:20). -/
def MINIMUM_PASSWORD_LENGTH : Nat := 8

/-- `password.length`: JavaScript counts UTF-16 code units, two for a character outside the
Basic Multilingual Plane. -/
def utf16Length (password : String) : Nat :=
  password.data.foldr (fun c n => (if c.val ≤ 0xFFFF then 1 else 2) + n) 0

/-- What a call of the manager returns: the api's answer, or an error response the manager
creates (`apiService.createErrorResponse`, not under src/) with the message it names. -/
inductive ManagerResponse
  | response (response : AuthResponse)
  /-- `messages.InsufficientPasswordMessage(minimum)` (:135–140). -/
  | InsufficientPasswordMessage (minimum : Nat)
  /-- The error responses of `signIn`'s checks (`Snjs.Session.signIn`). -/
  | signInError (error : SignInError)
  deriving DecidableEq, Repr

namespace SessionState

/-- `setSession(session, persist)` (:80–82). -/
def setSession (s : SessionState) (session : ApiSession) (persist : Bool) : SessionState :=
  { s with session := some session
           storedSession := if persist then some session else s.storedSession }

/-- `handleSuccessAuthResponse(response)` (:306–322). -/
def handleSuccessAuthResponse (s : SessionState) (response : AuthResponse) : SessionState :=
  let s := { s with user := response.user, storedUser := response.user }
  match truthy response.token with
  | some token => s.setSession (.JwtSession token) true
  | none => s.setSession (.TokenSession response) true

/-- `initializeFromDisk()` (:64–78): the stored user, else a user with the legacy uuid if one
is stored, then the stored session, handed over without persisting it again. -/
def initializeFromDisk (s : SessionState) : SessionState :=
  let user := match s.storedUser with
    | some user => some user
    | none => (truthy s.storedLegacyUuid).map fun uuid => ⟨uuid, none⟩
  let s := { s with user }
  match s.storedSession with
  | some rawSession => s.setSession rawSession false
  | none => s

/-- `signOut()` (:96–102), with `canExpire` the sessions' `canExpire()`: the user is forgotten,
and the flag says whether `apiService.signOut()` is called, which happens when there is a
session that can expire. -/
def signOut (s : SessionState) (canExpire : ApiSession → Bool) : SessionState × Bool :=
  ({ s with user := none }, s.session.any canExpire)

/-- `register(email, password)` (:134–162), with `answer` what `apiService.register` answers: a
password shorter than `MINIMUM_PASSWORD_LENGTH` is refused before the root key is created. -/
def register (s : SessionState) (password : String) (answer : AuthResponse) :
    SessionState × ManagerResponse :=
  if utf16Length password < MINIMUM_PASSWORD_LENGTH then
    (s, .InsufficientPasswordMessage MINIMUM_PASSWORD_LENGTH)
  else
    match answer.error with
    | none => (s.handleSuccessAuthResponse answer, .response answer)
    | some _ => (s, .response answer)

/-- `changePassword(currentServerPassword, newServerPassword, newKeyParams)` (:287–304), with
`answer` what `apiService.changePassword` answers. -/
def changePassword (s : SessionState) (answer : AuthResponse) : SessionState × ManagerResponse :=
  match answer.error with
  | none => (s.handleSuccessAuthResponse answer, .response answer)
  | some _ => (s, .response answer)

/-- `bypassChecksAndSignInWithServerPassword(email, serverPassword, mfaKeyPath, mfaCode)`
(:251–285), with `answers` what `apiService.signIn` answers to this call and to each retry, and
`codes` what `promptForMfaValue()` returns at each prompt. The result is the state, the
`mfaKeyPath` and `mfaCode` of every call made, and the answer returned; `none` while the loop
still waits for an answer or a code that the lists do not hold. -/
def bypassChecksAndSignInWithServerPassword (s : SessionState) (mfaKeyPath mfaCode : Option String) :
    List AuthResponse → List (Option String) →
      Option (SessionState × List (Option String × Option String) × AuthResponse)
  | [], _ => none
  | signInResponse :: answers, codes =>
    match signInResponse.error with
    | none => some (s.handleSuccessAuthResponse signInResponse, [(mfaKeyPath, mfaCode)], signInResponse)
    | some error =>
      match truthy error.mfa_key with
      | none => some (s, [(mfaKeyPath, mfaCode)], signInResponse)
      | some mfaKey =>
        match codes with
        | [] => none
        | code :: codes =>
          match truthy code with
          | none => some (s, [(mfaKeyPath, mfaCode)], signInResponse)
          | some code =>
            (bypassChecksAndSignInWithServerPassword s (some mfaKey) (some code) answers codes).map
              fun r => (r.1, (mfaKeyPath, mfaCode) :: r.2.1, r.2.2)

/-- `signIn(email, password, strict, minAllowedVersion)` (:164–249) as a whole: the checks of
`Snjs.Session.signIn`, then, past them, the sign-in loop without a code. -/
def signIn (s : SessionState) (P : ProtocolLibrary) (paramsResponse : Except String (Option KeyParams))
    (confirmed strict : Bool) (minAllowedVersion : Option String) (answers : List AuthResponse)
    (codes : List (Option String)) : Option (SessionState × ManagerResponse) :=
  match Snjs.Session.signIn P paramsResponse confirmed strict minAllowedVersion with
  | .error error => some (s, .signInError error)
  | .ok _ =>
    (s.bypassChecksAndSignInWithServerPassword none none answers codes).map
      fun r => (r.1, .response r.2.2)

end SessionState

/-! ## The MFA retries -/

/-- The `mfaKeyPath` and `mfaCode` of each retry: while an answer asks for a code and the user
enters one, the answer's key and the code. -/
def retryPairs : List AuthResponse → List (Option String) → List (String × String)
  | r :: answers, code :: codes =>
    match r.mfaKey?, truthy code with
    | some key, some code => (key, code) :: retryPairs answers codes
    | _, _ => []
  | _, _ => []

/-- An answer ends the loop: it asks for no code, or the user enters none (`code` is the
prompt's answer, `none` while the prompt is open). -/
def EndsLoop (r : AuthResponse) (code : Option (Option String)) : Prop :=
  r.mfaKey? = none ∨ ∃ c, code = some c ∧ truthy c = none

namespace SessionState

variable {s : SessionState}

/-- The state after the loop: changed by `handleSuccessAuthResponse` when the answer returned
has no error. -/
def afterAnswer (s : SessionState) (r : AuthResponse) : SessionState :=
  match r.error with
  | none => s.handleSuccessAuthResponse r
  | some _ => s

theorem mfaKey?_of_error_none {r : AuthResponse} (h : r.error = none) : r.mfaKey? = none := by
  simp [AuthResponse.mfaKey?, h]

@[simp] theorem retryPairs_nil_right (answers : List AuthResponse) : retryPairs answers [] = [] := by
  cases answers <;> rfl

theorem retryPairs_cons_cons (r : AuthResponse) (answers : List AuthResponse) (code : Option String)
    (codes : List (Option String)) :
    retryPairs (r :: answers) (code :: codes) =
      match r.mfaKey?, truthy code with
      | some key, some code => (key, code) :: retryPairs answers codes
      | _, _ => [] := rfl

theorem retryPairs_of_mfaKey?_none {r : AuthResponse} (h : r.mfaKey? = none)
    (answers : List AuthResponse) (codes : List (Option String)) :
    retryPairs (r :: answers) codes = [] := by
  cases codes <;> simp [retryPairs_cons_cons, h]

/-- A loop that stops at its first answer `a`, in state `s₀`: it returns `a` after one call,
in the state `afterAnswer` gives. -/
theorem loop_stops_at_first {a : AuthResponse} {s₀ : SessionState} {mfaKeyPath mfaCode : Option String}
    {next : Option (Option String)} {s' : SessionState} {calls : List (Option String × Option String)}
    {r : AuthResponse} (hends : EndsLoop a next) (h₀ : s₀ = s.afterAnswer a) :
    some (s₀, [(mfaKeyPath, mfaCode)], a) = some (s', calls, r) ↔
      some a = some r ∧ EndsLoop r next ∧ calls = [(mfaKeyPath, mfaCode)] ∧
        s' = s.afterAnswer r := by
  subst h₀
  constructor
  · rintro ⟨⟩
    exact ⟨rfl, hends, rfl, rfl⟩
  · rintro ⟨⟨⟩, -, rfl, rfl⟩
    rfl

/-- **The MFA loop retries as answered.** The sign-in loop returns `(s', calls, r)` exactly
when `r` is the answer after the retries `retryPairs` reads off the answers and codes, and `r`
ends the loop. Its calls are the first one and one per retry, each retry with the `mfa_key` of
the answer before it and the code entered; the state changes, through
`handleSuccessAuthResponse`, exactly when `r` has no error. -/
theorem mfa_loop_retries_as_answered (s : SessionState) (mfaKeyPath mfaCode : Option String)
    (answers : List AuthResponse) (codes : List (Option String)) (s' : SessionState)
    (calls : List (Option String × Option String)) (r : AuthResponse) :
    s.bypassChecksAndSignInWithServerPassword mfaKeyPath mfaCode answers codes = some (s', calls, r) ↔
      answers[(retryPairs answers codes).length]? = some r ∧
      EndsLoop r codes[(retryPairs answers codes).length]? ∧
      calls = (mfaKeyPath, mfaCode) :: (retryPairs answers codes).map (fun p => (some p.1, some p.2)) ∧
      s' = s.afterAnswer r := by
  induction answers generalizing mfaKeyPath mfaCode codes calls with
  | nil => simp [bypassChecksAndSignInWithServerPassword]
  | cons a answers ih =>
    rcases he : a.error with _ | error
    · -- an answer without error ends the loop, signed in
      have hk := mfaKey?_of_error_none he
      rw [retryPairs_of_mfaKey?_none hk]
      simp only [bypassChecksAndSignInWithServerPassword, he, List.length_nil,
        List.getElem?_cons_zero, List.map_nil]
      exact loop_stops_at_first (.inl hk) (by simp [afterAnswer, he])
    have hk : a.mfaKey? = truthy error.mfa_key := by simp [AuthResponse.mfaKey?, he]
    rcases hm : truthy error.mfa_key with _ | key
    · -- an error that asks for no code ends the loop
      rw [retryPairs_of_mfaKey?_none (hk.trans hm)]
      simp only [bypassChecksAndSignInWithServerPassword, he, hm, List.length_nil,
        List.getElem?_cons_zero, List.map_nil]
      exact loop_stops_at_first (.inl (hk.trans hm)) (by simp [afterAnswer, he])
    cases codes with
    | nil =>
      -- the prompt is still open
      simp only [bypassChecksAndSignInWithServerPassword, he, hm, retryPairs_nil_right,
        List.length_nil, List.getElem?_cons_zero, List.getElem?_nil, reduceCtorEq, false_iff]
      rintro ⟨⟨⟩, h | ⟨_, ⟨⟩, _⟩, -⟩
      rw [hk, hm] at h
      cases h
    | cons code codes =>
      rcases hc : truthy code with _ | c
      · -- the user dismissed the prompt
        rw [retryPairs_cons_cons, hk, hm, hc]
        simp only [bypassChecksAndSignInWithServerPassword, he, hm, hc, List.length_nil,
          List.getElem?_cons_zero, List.map_nil]
        exact loop_stops_at_first (.inr ⟨code, rfl, hc⟩) (by simp [afterAnswer, he])
      · -- a retry with the answer's key and the code entered
        simp only [bypassChecksAndSignInWithServerPassword, he, hm, hc, Option.map_eq_some',
          retryPairs_cons_cons, hk, List.length_cons, List.getElem?_cons_succ, List.map_cons]
        constructor
        · rintro ⟨⟨s₁, calls₁, r₁⟩, h₁, ⟨⟩⟩
          obtain ⟨h1, h2, rfl, h4⟩ := (ih _ _ _ _).1 h₁
          exact ⟨h1, h2, rfl, h4⟩
        · rintro ⟨h1, h2, rfl, h4⟩
          exact ⟨(s', _, r), (ih _ _ _ _).2 ⟨h1, h2, rfl, h4⟩, rfl⟩


/-! ## What storage keeps over a run -/

/-- The session `handleSuccessAuthResponse` builds from an answer. -/
def sessionFor (response : AuthResponse) : ApiSession :=
  match truthy response.token with
  | some token => .JwtSession token
  | none => .TokenSession response

theorem handleSuccessAuthResponse_eq (s : SessionState) (response : AuthResponse) :
    s.handleSuccessAuthResponse response =
      { s with user := response.user, storedUser := response.user,
               session := some (sessionFor response), storedSession := some (sessionFor response) } := by
  unfold handleSuccessAuthResponse sessionFor
  split <;> rfl

end SessionState

/-- What can happen to the session manager next, with what the outside world answers. -/
inductive Act
  | initializeFromDisk
  | register (password : String) (answer : AuthResponse)
  | signIn (paramsResponse : Except String (Option KeyParams)) (confirmed strict : Bool)
      (minAllowedVersion : Option String) (answers : List AuthResponse) (codes : List (Option String))
  | changePassword (answer : AuthResponse)
  | signOut

namespace SessionState

/-- One call of the manager, run to its end; a sign-in whose loop still waits has changed
nothing yet. -/
def step (P : ProtocolLibrary) (canExpire : ApiSession → Bool) (s : SessionState) : Act → SessionState
  | .initializeFromDisk => s.initializeFromDisk
  | .register password answer => (s.register password answer).1
  | .signIn paramsResponse confirmed strict minAllowedVersion answers codes =>
    ((s.signIn P paramsResponse confirmed strict minAllowedVersion answers codes).map (·.1)).getD s
  | .changePassword answer => (s.changePassword answer).1
  | .signOut => (s.signOut canExpire).1

def run (P : ProtocolLibrary) (canExpire : ApiSession → Bool) (s : SessionState) (acts : List Act) :
    SessionState :=
  acts.foldl (step P canExpire) s

/-- `initializeFromDisk` signs in the stored user. -/
theorem initializeFromDisk_user {s : SessionState} {u : User} (h : s.storedUser = some u) :
    s.initializeFromDisk.user = some u := by
  unfold initializeFromDisk
  simp only [h]
  split <;> rfl

end SessionState

/-- The answer a call authenticates with, read off what the world answers: a registration with
a long enough password, a password change, or a sign-in past its checks whose answer after the
retries has no error. -/
def Act.authenticated (P : ProtocolLibrary) : Act → Option AuthResponse
  | .register password answer =>
    if utf16Length password < MINIMUM_PASSWORD_LENGTH then none
    else if answer.error = none then some answer else none
  | .signIn paramsResponse confirmed strict minAllowedVersion answers codes =>
    match Snjs.Session.signIn P paramsResponse confirmed strict minAllowedVersion with
    | .error _ => none
    | .ok _ => answers[(retryPairs answers codes).length]?.filter fun r => r.error = none
  | .changePassword answer => if answer.error = none then some answer else none
  | _ => none

namespace SessionState

variable (P : ProtocolLibrary) (canExpire : ApiSession → Bool)

/-- The state the sign-in loop leaves, also while it waits: signed in with the answer after the
retries when that answer has no error, and as it was otherwise. -/
theorem loop_state (s : SessionState) (mfaKeyPath mfaCode : Option String)
    (answers : List AuthResponse) (codes : List (Option String)) :
    ((s.bypassChecksAndSignInWithServerPassword mfaKeyPath mfaCode answers codes).map (·.1)).getD s =
      (answers[(retryPairs answers codes).length]?.filter fun r => r.error = none).elim s
        s.handleSuccessAuthResponse := by
  induction answers generalizing mfaKeyPath mfaCode codes with
  | nil => rfl
  | cons a answers ih =>
    rcases he : a.error with _ | error
    · rw [retryPairs_of_mfaKey?_none (mfaKey?_of_error_none he)]
      simp [bypassChecksAndSignInWithServerPassword, he, Option.filter]
    have hk : a.mfaKey? = truthy error.mfa_key := by simp [AuthResponse.mfaKey?, he]
    have hs : (some a).filter (fun r => r.error = none) = none := by simp [Option.filter, he]
    rcases hm : truthy error.mfa_key with _ | key
    · rw [retryPairs_of_mfaKey?_none (hk.trans hm)]
      simp [bypassChecksAndSignInWithServerPassword, he, hm, hs]
    cases codes with
    | nil => simp [bypassChecksAndSignInWithServerPassword, he, hm, hs]
    | cons code codes =>
      rcases hc : truthy code with _ | c
      · simp [bypassChecksAndSignInWithServerPassword, retryPairs_cons_cons, he, hm, hc, hk, hs]
      · simpa [bypassChecksAndSignInWithServerPassword, retryPairs_cons_cons, he, hm, hc, hk,
          Function.comp_def] using ih (some key) (some c) codes

/-- The stored user and session after the sign-in loop returned: those of its answer, when it
has no error. -/
theorem signIn_loop_stored (s : SessionState) (answers : List AuthResponse)
    (codes : List (Option String)) :
    (((s.bypassChecksAndSignInWithServerPassword none none answers codes).map (·.1)).getD s).storedUser =
        ((answers[(retryPairs answers codes).length]?.filter fun r => r.error = none).elim
          s.storedUser (·.user)) ∧
      (((s.bypassChecksAndSignInWithServerPassword none none answers codes).map (·.1)).getD s).storedSession =
        ((answers[(retryPairs answers codes).length]?.filter fun r => r.error = none).elim
          s.storedSession (some ∘ sessionFor)) := by
  rw [loop_state]
  cases (answers[(retryPairs answers codes).length]?.filter fun r => r.error = none) with
  | none => exact ⟨rfl, rfl⟩
  | some r => simp [handleSuccessAuthResponse_eq]

/-- One call leaves storage holding the user and session of the answer it authenticates with,
and as it was when it authenticates with none. -/
theorem step_stored (s : SessionState) (a : Act) :
    (s.step P canExpire a).storedUser = (a.authenticated P).elim s.storedUser (·.user) ∧
      (s.step P canExpire a).storedSession =
        (a.authenticated P).elim s.storedSession (some ∘ sessionFor) := by
  cases a with
  | initializeFromDisk =>
    simp only [step, initializeFromDisk, Act.authenticated]
    split <;> exact ⟨rfl, rfl⟩
  | register password answer =>
    simp only [step, register, Act.authenticated]
    split
    · simp
    · cases he : answer.error <;> simp [he, handleSuccessAuthResponse_eq]
  | signIn paramsResponse confirmed strict minAllowedVersion answers codes =>
    simp only [step, SessionState.signIn, Act.authenticated]
    split
    · simp
    · simpa [Option.map_map, Function.comp_def] using signIn_loop_stored s answers codes
  | changePassword answer =>
    simp only [step, changePassword, Act.authenticated]
    cases he : answer.error <;> simp [he, handleSuccessAuthResponse_eq]
  | signOut => simp [step, signOut, Act.authenticated]

/-- **Storage keeps the last authenticated user.** Over every run of the manager's calls, with
any answers of the server and the prompts, storage holds the user and the session of the last
answer the run authenticated with (`Act.authenticated`), and what it held before when there is
none: sign-outs and `initializeFromDisk` leave both in place. So `initializeFromDisk` after
the run brings back the user of that answer. -/
theorem storage_keeps_last_authenticated_user (s : SessionState) (acts : List Act) :
    (s.run P canExpire acts).storedUser =
        ((acts.filterMap (Act.authenticated P)).getLast?).elim s.storedUser (·.user) ∧
      (s.run P canExpire acts).storedSession =
        ((acts.filterMap (Act.authenticated P)).getLast?).elim s.storedSession (some ∘ sessionFor) ∧
      ∀ r u, (acts.filterMap (Act.authenticated P)).getLast? = some r → r.user = some u →
        (s.run P canExpire (acts ++ [.initializeFromDisk])).user = some u := by
  have hrun : ∀ s : SessionState, (s.run P canExpire acts).storedUser =
        ((acts.filterMap (Act.authenticated P)).getLast?).elim s.storedUser (·.user) ∧
      (s.run P canExpire acts).storedSession =
        ((acts.filterMap (Act.authenticated P)).getLast?).elim s.storedSession (some ∘ sessionFor) := by
    induction acts with
    | nil => simp [run]
    | cons a acts ih =>
      intro s
      obtain ⟨h1, h2⟩ := ih (s.step P canExpire a)
      obtain ⟨h3, h4⟩ := step_stored P canExpire s a
      simp only [run, List.foldl_cons] at h1 h2 ⊢
      rw [h1, h2, h3, h4, List.filterMap_cons]
      cases a.authenticated P
      · exact ⟨rfl, rfl⟩
      · simp only [List.getLast?_cons]
        cases (acts.filterMap (Act.authenticated P)).getLast? <;> exact ⟨rfl, rfl⟩
  refine ⟨(hrun s).1, (hrun s).2, fun r u hr hu => ?_⟩
  rw [run, List.foldl_append, List.foldl_cons, List.foldl_nil]
  exact initializeFromDisk_user (by rw [← run, (hrun s).1, hr]; exact hu)

/-- A manager with nothing in memory or storage. -/
def fresh : SessionState := ⟨none, none, none, none, none⟩

/-- The account of the run below. -/
def registeredUser : User := ⟨"u1", none⟩

/-- A registration answered with `registeredUser` and a token, then a sign-out. -/
def registerThenSignOut : List Act :=
  [.register "password1" ⟨none, some registeredUser, some "jwt"⟩, .signOut]

/-- After a registration and a sign-out, `initializeFromDisk` brings the registered user back. -/
theorem registered_user_back_after_sign_out :
    (registerThenSignOut.filterMap (Act.authenticated testedLibrary)).getLast? =
        some ⟨none, some registeredUser, some "jwt"⟩ ∧
      (fresh.run testedLibrary (fun _ => true) (registerThenSignOut ++ [.initializeFromDisk])).user =
        some registeredUser :=
  ⟨by decide, (storage_keeps_last_authenticated_user testedLibrary (fun _ => true) fresh
    registerThenSignOut).2.2 ⟨none, some registeredUser, some "jwt"⟩ registeredUser (by decide) rfl⟩

end SessionState

end Snjs.Session
