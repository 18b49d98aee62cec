import Mathlib.Data.List.Nodup

/-!
# `SNPrivileges` credentials

`SNPrivileges` (part_006) keeps, under `content.desktopPrivileges`, the list of credentials
each protected action requires. `addCredentialForAction` (:51–55) pushes a credential on the
action's list, `removeCredentialForAction` (:47–49) removes every occurrence of it with lodash
`pull`, and `toggleCredentialForAction` (:39–45) does one or the other depending on
`isCredentialRequiredForAction` (:57–60), which is the `includes` of the list.

Each call changes the list of its own action only, and for its own credential only
(`step_isCredentialRequiredForAction`). So whether a credential is required is decided by the
last call on its pair, or by the content when there was none, and a toggle keeps every list free
of duplicates (`credential_required_iff_last_call_added`); an add does not check.
-/

namespace Snjs.Models

/-- A privileges item's `desktopPrivileges` once the constructor (:16–21) has run: a
non-errored content without it gets `{}`. An action never set reads as absent. -/
structure SNPrivileges where
  desktopPrivileges : String → Option (List String)

namespace SNPrivileges

/-- The constructor (:16–21) on a non-errored content. -/
def ofContent (desktopPrivileges : Option (String → Option (List String))) : SNPrivileges :=
  ⟨desktopPrivileges.getD fun _ => none⟩

/-- `setCredentialsForAction(action, credentials)` (:31–33). -/
def setCredentialsForAction (p : SNPrivileges) (action : String) (credentials : List String) :
    SNPrivileges :=
  ⟨Function.update p.desktopPrivileges action (some credentials)⟩

/-- `getCredentialsForAction(action)` (:35–37): `desktopPrivileges[action] || []`. -/
def getCredentialsForAction (p : SNPrivileges) (action : String) : List String :=
  (p.desktopPrivileges action).getD []

/-- `isCredentialRequiredForAction(action, credential)` (:57–60). -/
def isCredentialRequiredForAction (p : SNPrivileges) (action credential : String) : Bool :=
  (p.getCredentialsForAction action).contains credential

/-- `removeCredentialForAction(action, credential)` (:47–49): `pull` removes every occurrence
from the stored list in place, and leaves an absent list absent. -/
def removeCredentialForAction (p : SNPrivileges) (action credential : String) : SNPrivileges :=
  match p.desktopPrivileges action with
  | some credentials => ⟨Function.update p.desktopPrivileges action
      (some (credentials.filter (· != credential)))⟩
  | none => p

/-- `addCredentialForAction(action, credential)` (:51–55). -/
def addCredentialForAction (p : SNPrivileges) (action credential : String) : SNPrivileges :=
  p.setCredentialsForAction action (p.getCredentialsForAction action ++ [credential])

/-- `toggleCredentialForAction(action, credential)` (:39–45). -/
def toggleCredentialForAction (p : SNPrivileges) (action credential : String) : SNPrivileges :=
  if p.isCredentialRequiredForAction action credential then
    p.removeCredentialForAction action credential
  else p.addCredentialForAction action credential

end SNPrivileges

/-- A call of one of the three credential methods. -/
inductive PrivilegesCall
  | add (action credential : String)
  | remove (action credential : String)
  | toggle (action credential : String)
  deriving DecidableEq, Repr

namespace PrivilegesCall

/-- The `(action, credential)` pair a call is on. -/
def pair : PrivilegesCall → String × String
  | add a c | remove a c | toggle a c => (a, c)

/-- Whether the call, made on `p`, adds its credential: an add does, a remove does not, and a
toggle does when the credential is absent. -/
def adds (p : SNPrivileges) : PrivilegesCall → Bool
  | add .. => true
  | remove .. => false
  | toggle a c => !p.isCredentialRequiredForAction a c

end PrivilegesCall

namespace SNPrivileges

def step (p : SNPrivileges) : PrivilegesCall → SNPrivileges
  | .add a c => p.addCredentialForAction a c
  | .remove a c => p.removeCredentialForAction a c
  | .toggle a c => p.toggleCredentialForAction a c

def run (p : SNPrivileges) (calls : List PrivilegesCall) : SNPrivileges := calls.foldl step p

variable {p : SNPrivileges} {a a' c c' : String}

@[simp] theorem run_nil : p.run [] = p := rfl

@[simp] theorem run_append (calls calls' : List PrivilegesCall) :
    p.run (calls ++ calls') = (p.run calls).run calls' :=
  List.foldl_append _ _ _ _

@[simp] theorem run_cons (call : PrivilegesCall) (calls : List PrivilegesCall) :
    p.run (call :: calls) = (p.step call).run calls := rfl

/-! ## What one call does to the lists -/

theorem getCredentialsForAction_setCredentialsForAction (l : List String) :
    (p.setCredentialsForAction a l).getCredentialsForAction a' =
      if a' = a then l else p.getCredentialsForAction a' := by
  simp only [getCredentialsForAction, setCredentialsForAction, Function.update_apply]
  split <;> rfl

theorem getCredentialsForAction_removeCredentialForAction :
    (p.removeCredentialForAction a c).getCredentialsForAction a' =
      if a' = a then (p.getCredentialsForAction a').filter (· != c)
      else p.getCredentialsForAction a' := by
  unfold removeCredentialForAction
  split
  · next l hl =>
    simp only [getCredentialsForAction, Function.update_apply]
    split
    · next h => subst h; simp [hl]
    · rfl
  · next hl =>
    split
    · next h => subst h; simp [getCredentialsForAction, hl]
    · rfl

theorem getCredentialsForAction_addCredentialForAction :
    (p.addCredentialForAction a c).getCredentialsForAction a' =
      if a' = a then p.getCredentialsForAction a' ++ [c] else p.getCredentialsForAction a' := by
  rw [addCredentialForAction, getCredentialsForAction_setCredentialsForAction]
  split
  · next h => rw [h]
  · rfl

/-- A call that edits the list of `a` by `f`, where `f` settles whether `c` is in it and keeps
every other credential, settles `(a, c)` and leaves every other pair. -/
theorem isCredentialRequiredForAction_of_edit {p' : SNPrivileges} {f : List String → List String}
    {v : Bool} (hget : ∀ a', p'.getCredentialsForAction a' =
      if a' = a then f (p.getCredentialsForAction a') else p.getCredentialsForAction a')
    (hself : ∀ l, (f l).contains c = v) (hother : ∀ l c', c' ≠ c → (f l).contains c' = l.contains c') :
    p'.isCredentialRequiredForAction a' c' =
      if (a, c) = (a', c') then v else p.isCredentialRequiredForAction a' c' := by
  simp only [isCredentialRequiredForAction, hget, Prod.mk.injEq]
  by_cases ha : a' = a
  · by_cases hc : c' = c
    · rw [if_pos ha, if_pos ⟨ha.symm, hc.symm⟩, hc]; exact hself _
    · rw [if_pos ha, if_neg fun h => hc h.2.symm]; exact hother _ _ hc
  · rw [if_neg ha, if_neg fun h => ha h.1.symm]

theorem isCredentialRequiredForAction_addCredentialForAction :
    (p.addCredentialForAction a c).isCredentialRequiredForAction a' c' =
      if (a, c) = (a', c') then true else p.isCredentialRequiredForAction a' c' :=
  isCredentialRequiredForAction_of_edit (f := (· ++ [c]))
    (fun _ => getCredentialsForAction_addCredentialForAction) (fun _ => by simp)
    fun _ _ h => by simp [h]

theorem isCredentialRequiredForAction_removeCredentialForAction :
    (p.removeCredentialForAction a c).isCredentialRequiredForAction a' c' =
      if (a, c) = (a', c') then false else p.isCredentialRequiredForAction a' c' :=
  isCredentialRequiredForAction_of_edit (f := (·.filter (· != c)))
    (fun _ => getCredentialsForAction_removeCredentialForAction) (fun _ => by simp)
    fun _ _ h => by simp [h]

/-- **One call.** A call on `(a, c)` makes `c` required for `a` exactly when it adds it; a
call on another pair leaves the answer for `(a, c)` alone. -/
theorem step_isCredentialRequiredForAction (call : PrivilegesCall) :
    (p.step call).isCredentialRequiredForAction a c =
      if call.pair = (a, c) then call.adds p else p.isCredentialRequiredForAction a c := by
  cases call with
  | add a0 c0 => exact isCredentialRequiredForAction_addCredentialForAction
  | remove a0 c0 => exact isCredentialRequiredForAction_removeCredentialForAction
  | toggle a0 c0 =>
    simp only [step, toggleCredentialForAction, PrivilegesCall.pair, PrivilegesCall.adds]
    split
    · next hreq => simp [isCredentialRequiredForAction_removeCredentialForAction, hreq]
    · next hreq => simp [isCredentialRequiredForAction_addCredentialForAction, hreq]

/-- A toggle adds its credential exactly when it is absent. -/
theorem isCredentialRequiredForAction_toggleCredentialForAction :
    (p.toggleCredentialForAction a c).isCredentialRequiredForAction a c =
      !p.isCredentialRequiredForAction a c := by
  simpa [step, PrivilegesCall.pair, PrivilegesCall.adds] using
    step_isCredentialRequiredForAction (p := p) (a := a) (c := c) (.toggle a c)

/-- A toggle leaves every list as free of duplicates as it was: it adds only an absent
credential. -/
theorem nodup_toggleCredentialForAction (h : (p.getCredentialsForAction a').Nodup) :
    ((p.toggleCredentialForAction a c).getCredentialsForAction a').Nodup := by
  unfold toggleCredentialForAction
  split
  · rw [getCredentialsForAction_removeCredentialForAction]
    split
    · exact h.filter _
    · exact h
  · next hreq =>
    rw [getCredentialsForAction_addCredentialForAction]
    split
    · next ha =>
      subst ha
      refine List.nodup_append.2 ⟨h, List.nodup_singleton c, ?_⟩
      simpa [isCredentialRequiredForAction] using hreq
    · exact h

/-- An add does not check: adding a credential twice lists it twice. -/
example : (((ofContent none).addCredentialForAction "a" "c").addCredentialForAction "a" "c"
    ).getCredentialsForAction "a" = ["c", "c"] := by decide

/-- **Any calls off the pair.** Calls on other pairs never change the answer for `(a, c)`. -/
theorem run_isCredentialRequiredForAction_of_forall_ne :
    ∀ (calls : List PrivilegesCall) (p : SNPrivileges), (∀ call ∈ calls, call.pair ≠ (a, c)) →
      (p.run calls).isCredentialRequiredForAction a c = p.isCredentialRequiredForAction a c
  | [], _, _ => rfl
  | call :: calls, p, h => by
    rw [run_cons, run_isCredentialRequiredForAction_of_forall_ne calls _
        fun call' h' => h call' (List.mem_cons_of_mem _ h'),
      step_isCredentialRequiredForAction, if_neg (h call (List.mem_cons_self _ _))]

end SNPrivileges

/-- **Credentials follow the last call.** From any privileges content, after any calls:
`isCredentialRequiredForAction(a, c)` is the content's answer when no call was on `(a, c)`,
and otherwise whether the last call on `(a, c)` added `c`; a toggle adds `c` exactly when it is
absent; and toggles never put a duplicate into a list. -/
theorem credential_required_iff_last_call_added (p : SNPrivileges) :
    (∀ (calls : List PrivilegesCall) (a c : String), (∀ call ∈ calls, call.pair ≠ (a, c)) →
      (p.run calls).isCredentialRequiredForAction a c = p.isCredentialRequiredForAction a c) ∧
    (∀ (pre post : List PrivilegesCall) (call : PrivilegesCall) (a c : String),
      call.pair = (a, c) → (∀ call' ∈ post, call'.pair ≠ (a, c)) →
        (p.run (pre ++ call :: post)).isCredentialRequiredForAction a c =
          call.adds (p.run pre)) ∧
    (∀ (q : SNPrivileges) (a c : String),
      (q.toggleCredentialForAction a c).isCredentialRequiredForAction a c =
        !q.isCredentialRequiredForAction a c) ∧
    (∀ (q : SNPrivileges) (a c a' : String), (q.getCredentialsForAction a').Nodup →
      ((q.toggleCredentialForAction a c).getCredentialsForAction a').Nodup) :=
  ⟨fun calls _ _ h => SNPrivileges.run_isCredentialRequiredForAction_of_forall_ne calls p h,
    fun pre post call _ _ hc h => by
      rw [SNPrivileges.run_append, SNPrivileges.run_cons,
        SNPrivileges.run_isCredentialRequiredForAction_of_forall_ne post _ h,
        SNPrivileges.step_isCredentialRequiredForAction, if_pos hc],
    fun _ _ _ => SNPrivileges.isCredentialRequiredForAction_toggleCredentialForAction,
    fun _ _ _ _ h => SNPrivileges.nodup_toggleCredentialForAction h⟩

end Snjs.Models
