import Mathlib.Logic.Function.Basic

/-!
# `SNItem`: what is read off an item's content

`SNItem` (part_005 :48–341) is a read-only view over a payload. The getters modelled here are
the ones the mutator, the note filter and the integrity hash use: `getDomainData` (:176–183)
and `getAppDomainValue` (:185–188), with the `pinned`, `archived` and `locked` getters
(:198–208) and `user_modified_at` (:104–107) built on it; `references` (:76–78) and
`hasRelationshipWithItem` (:155–160); `updated_at` and `updatedAtTimestamp` (:100–102,
:312–314).

A content is a JSON object. Its `appData` maps a domain to a record and a record maps a key to
a value; an absent member reads as `undefined`, here `none`. `getDomainData` guards against a
missing `appData`, but `getAppDomainValue` reads `appData[key]` off whatever `getDomainData`
returned: when the content has no `appData`, or no record for `org.standardnotes.sn`, that is
`undefined` and the read raises (`getAppDomainValue_eq_error`), and so do the four getters built
on it.
-/

namespace Snjs.Models

/-- A value stored under `appData`. The modelled code only tests one for truthiness and passes
it on. -/
inductive Value
  | bool (b : Bool)
  | number (n : Int)
  | string (s : String)
  /-- A `Date`, by its time value in ms; `none` for an invalid date. -/
  | date (time : Option Int)
  | null
  deriving DecidableEq, Repr

/-- JavaScript truthiness. -/
def Value.truthy : Value → Bool
  | .bool b => b
  | .number n => n != 0
  | .string s => !s.isEmpty
  | .date _ => true
  | .null => false

/-- What an operation raises. -/
inductive JsError
  /-- The engine's `TypeError`: a property read or write on `undefined`. -/
  | typeError
  /-- An `Error` or a string the code throws, by its message. -/
  | thrown (message : String)
  deriving DecidableEq, Repr

/-- A domain's record under `appData`: each key's value, `none` for an absent key. -/
abbrev DomainData := String → Option Value

/-- An entry of `content.references`. -/
structure ContentReference where
  uuid : String
  content_type : String
  deriving DecidableEq, Repr

/-- A decrypted content object, with the members the modelled code reads or writes. -/
structure PayloadContent where
  references : Option (List ContentReference) := none
  /-- `appData`: each domain's record. -/
  appData : Option (String → Option DomainData) := none
  «protected» : Option Bool := none
  trashed : Option Bool := none
  title : Option String := none
  text : Option String := none

/-- A payload (`PurePayload`, not under src/) with the fields the modelled code reads. A
payload without content has `content = none`; a missing `uuid` or `content_type` is the empty
string, which JavaScript tests false just the same. -/
structure PurePayload where
  uuid : String
  content_type : String
  content : Option PayloadContent := none
  deleted : Bool := false
  errorDecrypting : Bool := false
  /-- `updated_at`, by its time value in ms; `none` when absent. -/
  updated_at : Option Int := none
  dirty : Bool := false
  /-- `dirtiedDate`, by its time value in ms. -/
  dirtiedDate : Option Int := none

/-- `SNItem` (:48–62): a view over a payload. -/
structure SNItem where
  payload : PurePayload

/-- The `AppDataField` members (:24–35) the modelled code names. -/
def AppDataField.Pinned : String := "pinned"
def AppDataField.Archived : String := "archived"
def AppDataField.Locked : String := "locked"
def AppDataField.UserModifiedDate : String := "client_updated_at"

namespace SNItem

/-- `new SNItem(payload)` (:53–62). -/
def create (payload : PurePayload) : Except JsError SNItem :=
  if payload.uuid.isEmpty || payload.content_type.isEmpty then
    .error (.thrown "Cannot create item without both uuid and content_type")
  else .ok ⟨payload⟩

/-- A payload with the uuid and content type of a payload that builds an item builds one too. -/
theorem create_of_same_keys {item : SNItem} (h : create item.payload = .ok item)
    (payload : PurePayload) (hu : payload.uuid = item.payload.uuid)
    (ht : payload.content_type = item.payload.content_type) : create payload = .ok ⟨payload⟩ := by
  unfold create at h ⊢
  rw [hu, ht]
  exact if_neg fun hc => by rw [if_pos hc] at h; cases h

/-- `SNItem.DefaultAppDomain()` (:64–66). -/
def DefaultAppDomain : String := "org.standardnotes.sn"

def uuid (item : SNItem) : String := item.payload.uuid

def content_type (item : SNItem) : String := item.payload.content_type

def deleted (item : SNItem) : Bool := item.payload.deleted

/-- `updated_at` (:100–102), by its time value. -/
def updated_at (item : SNItem) : Option Int := item.payload.updated_at

/-- `updatedAtTimestamp()` (:312–314): `this.updated_at?.getTime()`. -/
def updatedAtTimestamp (item : SNItem) : Option Int := item.updated_at

/-- `payload.safeContent`: the content object, `{}` for a payload without one. -/
def safeContent (item : SNItem) : PayloadContent := item.payload.content.getD {}

/-- `references` (:76–78). -/
def references (item : SNItem) : List ContentReference := item.safeContent.references.getD []

/-- `hasRelationshipWithItem(item)` (:155–160). -/
def hasRelationshipWithItem (item other : SNItem) : Bool :=
  (item.safeContent.references.getD []).any (·.uuid == other.uuid)

/-- `getDomainData(domain)` (:176–183). -/
def getDomainData (item : SNItem) (domain : String) : Option DomainData :=
  match item.safeContent.appData with
  | none => none
  | some domainData => domainData domain

/-- `getAppDomainValue(key)` (:185–188): `appData[key]` on the default domain's record, which
raises when there is none. -/
def getAppDomainValue (item : SNItem) (key : String) : Except JsError (Option Value) :=
  match item.getDomainData DefaultAppDomain with
  | none => .error .typeError
  | some appData => .ok (appData key)

/-- `pinned` (:198–200). -/
def pinned (item : SNItem) : Except JsError (Option Value) :=
  item.getAppDomainValue AppDataField.Pinned

/-- `archived` (:202–204). -/
def archived (item : SNItem) : Except JsError (Option Value) :=
  item.getAppDomainValue AppDataField.Archived

/-- `locked` (:206–208). -/
def locked (item : SNItem) : Except JsError (Option Value) :=
  item.getAppDomainValue AppDataField.Locked

/-- `user_modified_at` (:104–107): the value `new Date(value || this.updated_at)` is built
from. -/
def user_modified_at (item : SNItem) : Except JsError Value := do
  let value ← item.getAppDomainValue AppDataField.UserModifiedDate
  match value with
  | some v => if v.truthy then return v else return .date item.updated_at
  | none => return .date item.updated_at

/-! ## When the getters raise -/

variable {item : SNItem} {key : String}

theorem getAppDomainValue_eq_ok (appData : DomainData)
    (h : item.getDomainData DefaultAppDomain = some appData) :
    item.getAppDomainValue key = .ok (appData key) := by
  simp [getAppDomainValue, h]

/-- **`getAppDomainValue` raises exactly without a default-domain record.** -/
theorem getAppDomainValue_eq_error :
    item.getAppDomainValue key = .error .typeError ↔
      item.getDomainData DefaultAppDomain = none := by
  unfold getAppDomainValue
  split <;> simp_all

/-- `user_modified_at` raises exactly when `getAppDomainValue` does. -/
theorem user_modified_at_eq_error :
    item.user_modified_at = .error .typeError ↔ item.getDomainData DefaultAppDomain = none := by
  rw [← @getAppDomainValue_eq_error item AppDataField.UserModifiedDate]
  unfold user_modified_at
  cases item.getAppDomainValue AppDataField.UserModifiedDate with
  | error e => cases e <;> simp [bind, Except.bind]
  | ok v =>
    simp only [bind, Except.bind, pure, Except.pure]
    split
    · split <;> simp
    · simp

end SNItem

end Snjs.Models
