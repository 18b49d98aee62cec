import Snjs.Models.Item

/-!
# `ItemMutator`

An `ItemMutator` (part_005 :343–474) takes an item and a `MutationType`, edits a working copy
of the item's content through its setters, and `getResult` (:361–382) returns a copy of the
payload carrying that content, `dirty = true` and a new `dirtiedDate`. Before that, on a payload
not deleted, it stamps `appData[DefaultAppDomain].client_updated_at`: with the current time
for a `UserInteraction`, and for an `Internal` mutation with the item's `updated_at` where the
item has no stamp.

`MutationType` is a numeric enum and its two members have the same value (:9–20). The test
`source === MutationType.UserInteraction` is a comparison of numbers, so every mutation takes
the first branch (`getResult_of_not_deleted`): an `Internal` mutation stamps the current time
as well, and the second branch, which reads the item's stamp through `getAppDomainValue`, never
runs.

A write reaches `this.content!`; a mutator whose payload has no content raises there. The
setters of `appData` do nothing on a payload that failed to decrypt.
-/

namespace Snjs.Models

/-- `MutationType` (:9–20). -/
inductive MutationType
  | UserInteraction
  | Internal
  deriving DecidableEq, Repr

/-- The members' numeric values: both are `1`. -/
def MutationType.value : MutationType → Nat
  | .UserInteraction => 1
  | .Internal => 1

/-- `UserModifiedDateKey` (:22). -/
def UserModifiedDateKey : String := "client_updated_at"

/-- The content `setDomainDataKey(key, value, domain)` (:440–453) writes: `appData` and the
domain's record are created where missing. -/
def PayloadContent.withDomainDataKey (content : PayloadContent) (key : String) (value : Value)
    (domain : String) : PayloadContent :=
  let globalData := content.appData.getD fun _ => none
  let domainData := (globalData domain).getD fun _ => none
  { content with
    appData := some (Function.update globalData domain
      (some (Function.update domainData key (some value)))) }

/-- An `ItemMutator` (:348–352): the item, the source, the payload and the working copy of
the content. -/
structure ItemMutator where
  item : SNItem
  source : MutationType
  payload : PurePayload
  content : Option PayloadContent

namespace ItemMutator

/-- `new ItemMutator(item, source)` (:354–359). `Copy` gives the working copy its own
identity, which a value has already. -/
def create (item : SNItem) (source : MutationType) : ItemMutator :=
  { item, source, payload := item.payload, content := item.payload.content }

/-- A write to a member of `this.content!`, which raises on a mutator without content. -/
def writeContent (m : ItemMutator) (f : PayloadContent → PayloadContent) :
    Except JsError ItemMutator :=
  match m.content with
  | some content => .ok { m with content := some (f content) }
  | none => .error .typeError

/-- `setDomainDataKey(key, value, domain)` (:440–453). -/
def setDomainDataKey (m : ItemMutator) (key : String) (value : Value) (domain : String) :
    Except JsError ItemMutator :=
  if m.payload.errorDecrypting then .ok m
  else m.writeContent (·.withDomainDataKey key value domain)

/-- `setAppDataItem(key, value)` (:455–457). -/
def setAppDataItem (m : ItemMutator) (key : String) (value : Value) : Except JsError ItemMutator :=
  m.setDomainDataKey key value SNItem.DefaultAppDomain

/-- `setDomainData(data, domain)` (:428–434). `content` there is `appData` itself, so
`content.appData` is the record of a domain named `"appData"`: without one the read of
`[domain]` raises, and with one the expression `content.appData[domain] || data` assigns
nothing. -/
def setDomainData (m : ItemMutator) (_data : DomainData) (_domain : String) :
    Except JsError ItemMutator :=
  if m.payload.errorDecrypting then .ok m
  else match m.content with
    | none => .error .typeError
    | some content =>
      match (content.appData.getD fun _ => none) "appData" with
      | none => .error .typeError
      | some _ => .ok m

/-- The `protected` setter (:405–407). -/
def setProtected (m : ItemMutator) (isProtected : Bool) : Except JsError ItemMutator :=
  m.writeContent fun content => { content with «protected» := some isProtected }

/-- The `trashed` setter (:409–411). -/
def setTrashed (m : ItemMutator) (trashed : Bool) : Except JsError ItemMutator :=
  m.writeContent fun content => { content with trashed := some trashed }

/-- The `pinned` setter (:413–415). -/
def setPinned (m : ItemMutator) (pinned : Bool) : Except JsError ItemMutator :=
  m.setAppDataItem AppDataField.Pinned (.bool pinned)

/-- The `archived` setter (:417–419). -/
def setArchived (m : ItemMutator) (archived : Bool) : Except JsError ItemMutator :=
  m.setAppDataItem AppDataField.Archived (.bool archived)

/-- The `locked` setter (:421–423). -/
def setLocked (m : ItemMutator) (locked : Bool) : Except JsError ItemMutator :=
  m.setAppDataItem AppDataField.Locked (.bool locked)

/-- The reference list `addItemAsRelationship(item)` (:459–468) writes: a reference to `item`
is pushed unless one with its uuid is there. -/
def addReference (references : List ContentReference) (item : SNItem) : List ContentReference :=
  if references.any (·.uuid == item.uuid) then references
  else references ++ [⟨item.uuid, item.content_type⟩]

/-- The reference list `removeItemAsRelationship(item)` (:470–474) writes. -/
def removeReference (references : List ContentReference) (item : SNItem) :
    List ContentReference :=
  references.filter (·.uuid != item.uuid)

/-- `addItemAsRelationship(item)` (:459–468). -/
def addItemAsRelationship (m : ItemMutator) (item : SNItem) : Except JsError ItemMutator :=
  m.writeContent fun content =>
    { content with references := some (addReference (content.references.getD []) item) }

/-- `removeItemAsRelationship(item)` (:470–474). -/
def removeItemAsRelationship (m : ItemMutator) (item : SNItem) : Except JsError ItemMutator :=
  m.writeContent fun content =>
    { content with references := some (removeReference (content.references.getD []) item) }

/-- `setDeleted()` (:384–393). -/
def setDeleted (m : ItemMutator) : ItemMutator :=
  { m with content := none, payload := { m.payload with content := none, deleted := true } }

/-- `getResult()` (:361–382), with `now` the time `new Date()` reads. -/
def getResult (m : ItemMutator) (now : Int) : Except JsError PurePayload := do
  let m ← if m.payload.deleted then pure m
    else if m.source.value = MutationType.UserInteraction.value then
      m.setAppDataItem UserModifiedDateKey (.date (some now))
    else do
      let currentValue ← m.item.getAppDomainValue AppDataField.UserModifiedDate
      if (currentValue.map Value.truthy).getD false then pure m
      else m.setAppDataItem UserModifiedDateKey (.date m.item.updated_at)
  return { m.payload with content := m.content, dirty := true, dirtiedDate := some now }

/-! ## What the writes do -/

variable {m : ItemMutator}

@[simp] theorem create_payload (item : SNItem) (source : MutationType) :
    (create item source).payload = item.payload := rfl

@[simp] theorem create_content (item : SNItem) (source : MutationType) :
    (create item source).content = item.payload.content := rfl

theorem writeContent_of_some {content : PayloadContent} (h : m.content = some content)
    (f : PayloadContent → PayloadContent) :
    m.writeContent f = .ok { m with content := some (f content) } := by
  simp [writeContent, h]

theorem setDomainDataKey_of_some {content : PayloadContent} (h : m.content = some content)
    (he : m.payload.errorDecrypting = false) (key : String) (value : Value) (domain : String) :
    m.setDomainDataKey key value domain =
      .ok { m with content := some (content.withDomainDataKey key value domain) } := by
  simp [setDomainDataKey, he, writeContent_of_some h]

/-- **Every mutation takes the `UserInteraction` branch.** On a payload not deleted, `getResult`
stamps `client_updated_at` with the current time whatever the mutation type. -/
theorem getResult_of_not_deleted (hd : m.payload.deleted = false) (now : Int) :
    m.getResult now = (m.setAppDataItem UserModifiedDateKey (.date (some now))).map
      fun m' => { m'.payload with content := m'.content, dirty := true, dirtiedDate := some now } := by
  have hv : m.source.value = MutationType.UserInteraction.value := by
    cases m.source <;> rfl
  simp only [getResult, hd, hv, Bool.false_eq_true, if_false, if_true]
  cases m.setAppDataItem UserModifiedDateKey (.date (some now)) <;> rfl

end ItemMutator

end Snjs.Models
