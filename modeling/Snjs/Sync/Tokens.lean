import Snjs.Sync.Response

/-!
# The sync-position tokens: a cache in front of storage

`SNSyncManager` keeps the last sync token and the pagination token in two fields,
`syncToken` and `cursorToken`, in front of the storage values under
`StorageKeys.LastSyncToken` and `StorageKeys.PaginationToken` (sync_manager.js:178–211). A
setter writes the field and storage; a getter returns the field when it is set, and otherwise
`await`s a storage read and caches what it read; `clearSyncPositionTokens` empties both fields
and removes both values, one `await` apart. The constructor (:33–66) sets neither field.

The storage manager is not under src/: its `getValue`, `setValue` and `removeValue` are taken
to act on the stored value when they are called, and an `await` on them lets other calls run
before the caller goes on. Each step below is a call, or a suspended call resumed.

A token is a value that is always truthy, and `none` stands for `null` and `undefined`. The
code tests tokens for truthiness (`if (token)`, :185; `!this.syncToken`, :193), so an empty
token would count as absent: a getter would read storage again instead of returning the field,
and `setPaginationToken` would remove the stored value. Falsy tokens are left out.

- `cache_invisible_to_sequential_calls`: when each call ends before the next one starts, the
  cache is invisible. The getters return what a plain storage read returns, and storage goes
  through the same values as without the cache (`Call.plain`).
- `stale_token_after_interleaved_clear`: a clear that runs while a `getLastSyncToken` awaits
  its read (the sign-out calls one, :679) is undone in memory. The getter caches the token it
  read while storage holds none, and until the next `setLastSyncToken` or clear every
  `getLastSyncToken` returns that token, which `syncOnlineOperation` sends to the server
  (:483).
-/

namespace Snjs.Sync.Tokens

open Snjs.Sync.Response (StorageKey)

/-- A `getLastSyncToken()` or `getPaginationToken()` suspended at
`await this.storageManager.getValue(key)` (:194, :201), with the value the read returned. -/
structure PendingGet where
  key : StorageKey
  read : Option Nat
  deriving DecidableEq, Repr

/-- The token fields, the two stored values, and the calls suspended at an `await`. -/
structure TokenState where
  /-- `this.syncToken` at `.lastSyncToken` and `this.cursorToken` at `.paginationToken`;
  `none` is `null` or `undefined`. -/
  memory : StorageKey → Option Nat
  /-- What storage holds under each key. -/
  values : StorageKey → Option Nat
  /-- The getters suspended at their read, in call order. -/
  gets : List PendingGet := []
  /-- How many `clearSyncPositionTokens()` are suspended at their first `removeValue` (:209). -/
  clears : Nat := 0
  /-- Ghost: what the getters returned, in order, with the key each read. -/
  returned : List (StorageKey × Option Nat) := []

namespace TokenState

/-- A freshly constructed manager over what storage holds: both fields unset. -/
def init (values : StorageKey → Option Nat) : TokenState := { memory := fun _ => none, values }

/-- `setLastSyncToken(token)` (:178–181). -/
def setLastSyncToken (s : TokenState) (token : Nat) : TokenState :=
  { s with memory := Function.update s.memory .lastSyncToken (some token)
           values := Function.update s.values .lastSyncToken (some token) }

/-- `setPaginationToken(token)` (:183–190): the field takes the token; storage stores it when
there is one and removes the value otherwise. -/
def setPaginationToken (s : TokenState) (token : Option Nat) : TokenState :=
  let s := { s with memory := Function.update s.memory .paginationToken token }
  match token with
  | some token => { s with values := Function.update s.values .paginationToken (some token) }
  | none => { s with values := Function.update s.values .paginationToken none }

/-- The body shared by `getLastSyncToken()` (:192–197) and `getPaginationToken()`
(:199–204) for the field that caches `key`: a set field is returned at once; an unset one
makes the call read storage and suspend. -/
def getToken (s : TokenState) (key : StorageKey) : TokenState :=
  match s.memory key with
  | some token => { s with returned := s.returned ++ [(key, some token)] }
  | none => { s with gets := s.gets ++ [⟨key, s.values key⟩] }

/-- `getLastSyncToken()` (:192–197). -/
def getLastSyncToken (s : TokenState) : TokenState := s.getToken .lastSyncToken

/-- `getPaginationToken()` (:199–204). -/
def getPaginationToken (s : TokenState) : TokenState := s.getToken .paginationToken

/-- Suspended getter `i` resumes: it writes what it read to its field and returns it. -/
def resumeGet (s : TokenState) (i : Nat) : TokenState :=
  match s.gets[i]? with
  | some g =>
    { s with memory := Function.update s.memory g.key g.read, gets := s.gets.eraseIdx i
             returned := s.returned ++ [(g.key, g.read)] }
  | none => s

/-- `clearSyncPositionTokens()` (:206–211) up to its first `await`: both fields emptied and
the last sync token removed. -/
def clearSyncPositionTokens (s : TokenState) : TokenState :=
  { s with memory := fun _ => none, values := Function.update s.values .lastSyncToken none
           clears := s.clears + 1 }

/-- A suspended clear resumes and removes the pagination token. -/
def resumeClear (s : TokenState) : TokenState :=
  match s.clears with
  | 0 => s
  | n + 1 => { s with values := Function.update s.values .paginationToken none, clears := n }

end TokenState

/-- A call, or a suspended call resumed. -/
inductive Act
  | setLastSyncToken (token : Nat)
  | setPaginationToken (token : Option Nat)
  | getLastSyncToken
  | getPaginationToken
  | resumeGet (i : Nat)
  | clearSyncPositionTokens
  | resumeClear
  deriving DecidableEq, Repr

/-- The steps that write the last sync token's field and value. -/
def Act.writesLastSyncToken : Act → Bool
  | .setLastSyncToken _ | .clearSyncPositionTokens => true
  | _ => false

namespace TokenState

def step (s : TokenState) : Act → TokenState
  | .setLastSyncToken token => s.setLastSyncToken token
  | .setPaginationToken token => s.setPaginationToken token
  | .getLastSyncToken => s.getLastSyncToken
  | .getPaginationToken => s.getPaginationToken
  | .resumeGet i => s.resumeGet i
  | .clearSyncPositionTokens => s.clearSyncPositionTokens
  | .resumeClear => s.resumeClear

def run (s : TokenState) (acts : List Act) : TokenState := acts.foldl step s

@[simp] theorem run_nil (s : TokenState) : s.run [] = s := rfl

@[simp] theorem run_cons (s : TokenState) (a : Act) (acts : List Act) :
    s.run (a :: acts) = (s.step a).run acts := rfl

theorem run_append (s : TokenState) (as bs : List Act) : s.run (as ++ bs) = (s.run as).run bs :=
  List.foldl_append _ _ _ _

@[simp] theorem setPaginationToken_memory (s : TokenState) (token : Option Nat) :
    (s.setPaginationToken token).memory = Function.update s.memory .paginationToken token := by
  cases token <;> rfl

@[simp] theorem setPaginationToken_values (s : TokenState) (token : Option Nat) :
    (s.setPaginationToken token).values = Function.update s.values .paginationToken token := by
  cases token <;> rfl

@[simp] theorem setPaginationToken_gets (s : TokenState) (token : Option Nat) :
    (s.setPaginationToken token).gets = s.gets := by
  cases token <;> rfl

@[simp] theorem setPaginationToken_clears (s : TokenState) (token : Option Nat) :
    (s.setPaginationToken token).clears = s.clears := by
  cases token <;> rfl

@[simp] theorem setPaginationToken_returned (s : TokenState) (token : Option Nat) :
    (s.setPaginationToken token).returned = s.returned := by
  cases token <;> rfl

/-! ## Sequential calls: the cache is invisible -/

/-- Nothing is suspended, and each field is unset or holds what storage holds. -/
structure Quiet (s : TokenState) : Prop where
  gets : s.gets = []
  clears : s.clears = 0
  coherent : ∀ k, s.memory k = none ∨ s.memory k = s.values k

theorem quiet_init (values : StorageKey → Option Nat) : Quiet (init values) :=
  ⟨rfl, rfl, fun _ => .inl rfl⟩

end TokenState

/-- A call that runs to its end before the next one starts. -/
inductive Call
  | setLastSyncToken (token : Nat)
  | setPaginationToken (token : Option Nat)
  | getLastSyncToken
  | getPaginationToken
  | clearSyncPositionTokens
  deriving DecidableEq, Repr

/-- A call's steps when nothing else runs meanwhile: a getter that suspends is resumed at once,
and so is a clear. -/
def Call.acts : Call → List Act
  | .setLastSyncToken token => [.setLastSyncToken token]
  | .setPaginationToken token => [.setPaginationToken token]
  | .getLastSyncToken => [.getLastSyncToken, .resumeGet 0]
  | .getPaginationToken => [.getPaginationToken, .resumeGet 0]
  | .clearSyncPositionTokens => [.clearSyncPositionTokens, .resumeClear]

/-- The same call on storage alone, with no field in front of it: what storage then holds, and
what the call returns. -/
def Call.plain (values : StorageKey → Option Nat) :
    Call → (StorageKey → Option Nat) × List (StorageKey × Option Nat)
  | .setLastSyncToken token => (Function.update values .lastSyncToken (some token), [])
  | .setPaginationToken token => (Function.update values .paginationToken token, [])
  | .getLastSyncToken => (values, [(.lastSyncToken, values .lastSyncToken)])
  | .getPaginationToken => (values, [(.paginationToken, values .paginationToken)])
  | .clearSyncPositionTokens => (fun _ => none, [])

/-- Calls one after another on storage alone. -/
def plainRun (values : StorageKey → Option Nat) :
    List Call → (StorageKey → Option Nat) × List (StorageKey × Option Nat)
  | [] => (values, [])
  | c :: cs =>
    let r := c.plain values
    let rs := plainRun r.1 cs
    (rs.1, r.2 ++ rs.2)

namespace TokenState

variable {s : TokenState}

/-- A getter with nothing suspended, from a quiet state, returns what storage holds and leaves
the state quiet. -/
theorem Quiet.resumeGet_getToken (h : Quiet s) (k : StorageKey) :
    (s.getToken k).resumeGet 0 =
      { s with memory := Function.update s.memory k (s.values k)
               returned := s.returned ++ [(k, s.values k)] } := by
  unfold getToken
  rcases hm : s.memory k with _ | token
  · simp [resumeGet, h.gets]
  · have hv : some token = s.values k := by simpa [hm] using h.coherent k
    simp only [resumeGet, h.gets, List.getElem?_nil, ← hv, ← hm, Function.update_eq_self]

/-- After a getter caches what storage holds, each field is still unset or what storage holds. -/
theorem Quiet.coherent_cache (h : Quiet s) (k k' : StorageKey) :
    Function.update s.memory k (s.values k) k' = none ∨
      Function.update s.memory k (s.values k) k' = s.values k' := by
  by_cases hk : k' = k
  · subst hk; simp
  · simpa [hk] using h.coherent k'

/-- One call from a quiet state: the state stays quiet, storage changes as `Call.plain` says,
and the call returns what it returns there. -/
theorem Quiet.call (h : Quiet s) (c : Call) :
    Quiet (s.run c.acts) ∧ (s.run c.acts).values = (c.plain s.values).1 ∧
      (s.run c.acts).returned = s.returned ++ (c.plain s.values).2 := by
  have upd : ∀ k v, ∀ k', Function.update s.memory k v k' = none ∨
      Function.update s.memory k v k' = Function.update s.values k v k' := fun k v k' => by
    by_cases hk : k' = k
    · subst hk; simp
    · simpa [hk] using h.coherent k'
  cases c with
  | setLastSyncToken token =>
    exact ⟨⟨h.gets, h.clears, upd _ _⟩, rfl, by simp [Call.plain]; rfl⟩
  | setPaginationToken token =>
    simp only [Call.acts, run_cons, run_nil, step]
    exact ⟨⟨by simp [h.gets], by simp [h.clears], by simpa using upd _ _⟩, by simp [Call.plain],
      by simp [Call.plain]⟩
  | getLastSyncToken | getPaginationToken =>
    simp only [Call.acts, run_cons, run_nil, step, getLastSyncToken, getPaginationToken,
      h.resumeGet_getToken]
    exact ⟨⟨h.gets, h.clears, h.coherent_cache _⟩, rfl, rfl⟩
  | clearSyncPositionTokens =>
    simp only [Call.acts, run_cons, run_nil, step, clearSyncPositionTokens, resumeClear, h.clears]
    refine ⟨⟨h.gets, rfl, fun _ => .inl rfl⟩, funext fun k => ?_, by simp [Call.plain]⟩
    cases k <;> simp [Call.plain]

/-- **The cache is invisible to sequential calls.** From a quiet state (a fresh manager is
one), when each call ends before the next starts, storage goes through the values it goes
through without the fields in front of it, and every getter returns what a plain storage read
returns. -/
theorem cache_invisible_to_sequential_calls (s : TokenState) (h : Quiet s) (calls : List Call) :
    (s.run (calls.flatMap Call.acts)).values = (plainRun s.values calls).1 ∧
      (s.run (calls.flatMap Call.acts)).returned = s.returned ++ (plainRun s.values calls).2 := by
  induction calls generalizing s with
  | nil => simp [plainRun]
  | cons c cs ih =>
    obtain ⟨hq, hv, hr⟩ := h.call c
    obtain ⟨ih1, ih2⟩ := ih _ hq
    rw [List.flatMap_cons, run_append]
    refine ⟨by rw [ih1, hv]; rfl, by rw [ih2, hr, hv]; simp [plainRun]⟩

/-- A fresh manager over a stored last sync token `5`: a read, a pagination token written and
read back, a clear, and a read of the cleared token. -/
theorem sequential_calls_read_storage :
    Quiet (init (Function.update (fun _ => none) .lastSyncToken (some 5))) ∧
    ((init (Function.update (fun _ => none) .lastSyncToken (some 5))).run
      ([Call.getLastSyncToken, .setPaginationToken (some 7), .getPaginationToken,
        .clearSyncPositionTokens, .getLastSyncToken].flatMap Call.acts)).returned =
      [(.lastSyncToken, some 5), (.paginationToken, some 7), (.lastSyncToken, none)] :=
  ⟨quiet_init _, by
    rw [(cache_invisible_to_sequential_calls _ (quiet_init _) _).2]
    simp [plainRun, Call.plain, init]⟩

/-! ## A clear during a read leaves a stale token -/

/-- Token `token` is stale: the field holds it, storage holds no last sync token, and no getter
of it is suspended that could overwrite the field. -/
structure StaleSyncToken (token : Nat) (s : TokenState) : Prop where
  memory : s.memory .lastSyncToken = some token
  values : s.values .lastSyncToken = none
  noGet : ∀ g ∈ s.gets, g.key ≠ .lastSyncToken

theorem StaleSyncToken.getLastSyncToken {token : Nat} (h : StaleSyncToken token s) :
    s.getLastSyncToken = { s with returned := s.returned ++ [(.lastSyncToken, some token)] } := by
  simp [TokenState.getLastSyncToken, getToken, h.memory]

/-- Every step but a write of the last sync token keeps a stale token stale. -/
theorem StaleSyncToken.step {token : Nat} (h : StaleSyncToken token s) (a : Act)
    (ha : a.writesLastSyncToken = false) : StaleSyncToken token (s.step a) := by
  cases a with
  | setLastSyncToken | clearSyncPositionTokens => cases ha
  | setPaginationToken t => exact ⟨by simpa [TokenState.step] using h.memory, by simpa [TokenState.step] using h.values,
      by simpa [TokenState.step] using h.noGet⟩
  | getLastSyncToken => rw [TokenState.step, h.getLastSyncToken]; exact ⟨h.memory, h.values, h.noGet⟩
  | getPaginationToken =>
    simp only [TokenState.step, TokenState.getPaginationToken, getToken]
    split
    · exact ⟨h.memory, h.values, h.noGet⟩
    · refine ⟨h.memory, h.values, fun g hg => ?_⟩
      rcases List.mem_append.mp hg with hg | hg
      · exact h.noGet g hg
      · simp at hg; subst hg; nofun
  | resumeGet i =>
    simp only [TokenState.step, resumeGet]
    split
    · rename_i g hg
      have hk := h.noGet g (List.getElem?_mem hg)
      exact ⟨by simpa [Function.update_apply, Ne.symm hk] using h.memory, h.values,
        fun g' hg' => h.noGet g' (List.mem_of_mem_eraseIdx hg')⟩
    · exact h
  | resumeClear =>
    simp only [TokenState.step, resumeClear]
    split
    · exact h
    · exact ⟨h.memory, by simpa using h.values, h.noGet⟩

theorem StaleSyncToken.run {token : Nat} (h : StaleSyncToken token s) (acts : List Act)
    (hacts : ∀ a ∈ acts, a.writesLastSyncToken = false) : StaleSyncToken token (s.run acts) := by
  induction acts generalizing s with
  | nil => exact h
  | cons a acts ih =>
    exact ih (h.step a (hacts a (.head _))) fun b hb => hacts b (.tail _ hb)

/-- **A clear during a read leaves a stale token.** From any state in which the last sync
token's field is unset, storage holds `token` and no getter of it is suspended: a
`getLastSyncToken` suspends on its read, a `clearSyncPositionTokens` runs, and the getter
resumes. Then storage holds no last sync token, and under every later schedule without a
`setLastSyncToken` or a clear, storage still holds none and `getLastSyncToken` returns `token`
at once. -/
theorem stale_token_after_interleaved_clear (s : TokenState) (token : Nat)
    (hm : s.memory .lastSyncToken = none) (hv : s.values .lastSyncToken = some token)
    (hg : ∀ g ∈ s.gets, g.key ≠ .lastSyncToken) (later : List Act)
    (hlater : ∀ a ∈ later, a.writesLastSyncToken = false) :
    let s' := s.run ([.getLastSyncToken, .clearSyncPositionTokens, .resumeGet s.gets.length] ++ later)
    s'.values .lastSyncToken = none ∧
      s'.getLastSyncToken = { s' with returned := s'.returned ++ [(.lastSyncToken, some token)] } := by
  have h0 : StaleSyncToken token
      (s.run [.getLastSyncToken, .clearSyncPositionTokens, .resumeGet s.gets.length]) := by
    refine ⟨?_, ?_, fun g hg' => ?_⟩
    · simp [step, TokenState.getLastSyncToken, getToken, hm, clearSyncPositionTokens, resumeGet, hv]
    · simp [step, TokenState.getLastSyncToken, getToken, hm, clearSyncPositionTokens, resumeGet]
    · simp only [run_cons, run_nil, step, TokenState.getLastSyncToken, getToken, hm,
        clearSyncPositionTokens, resumeGet, List.getElem?_append_right (Nat.le_refl _),
        Nat.sub_self, List.getElem?_cons_zero] at hg'
      rw [List.eraseIdx_append_of_length_le (Nat.le_refl _), Nat.sub_self,
        List.eraseIdx_cons_zero, List.append_nil] at hg'
      exact hg g hg'
  have h1 := h0.run later hlater
  rw [run_append]
  exact ⟨h1.values, h1.getLastSyncToken⟩

/-- Storage holding the last sync token `5` and no pagination token. -/
def storedToken : StorageKey → Option Nat := Function.update (fun _ => none) .lastSyncToken (some 5)

/-- A fresh manager over a stored token: the clear of a sign-out runs while the first
`getLastSyncToken` awaits its read; then the clear ends and a pagination token is written.
Storage holds no last sync token, and `getLastSyncToken` returns `5`. -/
theorem sign_out_during_first_read_keeps_token :
    ((init storedToken).run ([.getLastSyncToken, .clearSyncPositionTokens, .resumeGet 0] ++
        [.resumeClear, .setPaginationToken (some 3)])).values .lastSyncToken = none ∧
    ((init storedToken).run ([.getLastSyncToken, .clearSyncPositionTokens, .resumeGet 0] ++
        [.resumeClear, .setPaginationToken (some 3)])).getLastSyncToken =
      { (init storedToken).run ([.getLastSyncToken, .clearSyncPositionTokens, .resumeGet 0] ++
          [.resumeClear, .setPaginationToken (some 3)]) with
        returned := ((init storedToken).run ([.getLastSyncToken, .clearSyncPositionTokens,
          .resumeGet 0] ++ [.resumeClear, .setPaginationToken (some 3)])).returned ++
            [(.lastSyncToken, some 5)] } :=
  stale_token_after_interleaved_clear (init storedToken) 5 rfl rfl (by simp [init]) _ (by decide)

end TokenState

end Snjs.Sync.Tokens
