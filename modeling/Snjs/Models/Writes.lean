import Snjs.Models.Mutator

/-!
# Writes to `appData` through an `ItemMutator`

`setDomainDataKey` (part_005 :440–453) sets one entry of one domain's record, creating the
record where missing; `setAppDataItem` (:455–457) and the `pinned`, `archived` and `locked`
setters (:413–423) are that write on the default domain, and the `protected` and `trashed`
setters (:405–411) write members outside `appData`. Each of these writes one entry and leaves
every other entry and every other domain's record as it was (`write_of_some`). So after any
sequence of them, on an item that decrypted, every entry reads the last value written to it or
its value from the start, and `getResult` adds its own stamp of the current time
(`domain_writes_read_back`).

`setDomainData` (:428–434) is not such a write: it assigns nothing, and it raises unless the
record has a domain named `"appData"` (`setDomainData_writes_nothing`). Nor does an `Internal`
mutation keep the item's stamp, since its `MutationType` value is the one of
`UserInteraction` (`ItemMutator.getResult_of_not_deleted`).
-/

namespace Snjs.Models

/-- `getDomainData(domain)` (:176–183) on an item with this content. -/
def PayloadContent.getDomainData (content : PayloadContent) (domain : String) :
    Option DomainData :=
  match content.appData with
  | none => none
  | some domainData => domainData domain

theorem SNItem.getDomainData_eq (item : SNItem) (domain : String) :
    item.getDomainData domain = item.safeContent.getDomainData domain := rfl

/-- A write through one of the mutator's setters. -/
inductive WriteCall
  | setDomainDataKey (key : String) (value : Value) (domain : String)
  | setAppDataItem (key : String) (value : Value)
  | setDomainData (data : DomainData) (domain : String)
  | setPinned (pinned : Bool)
  | setArchived (archived : Bool)
  | setLocked (locked : Bool)
  | setProtected (isProtected : Bool)
  | setTrashed (trashed : Bool)

namespace WriteCall

/-- The `(domain, key, value)` a call writes under `appData`, if any. -/
def entry? : WriteCall → Option (String × String × Value)
  | setDomainDataKey key value domain => some (domain, key, value)
  | setAppDataItem key value => some (SNItem.DefaultAppDomain, key, value)
  | setDomainData .. => none
  | setPinned b => some (SNItem.DefaultAppDomain, AppDataField.Pinned, .bool b)
  | setArchived b => some (SNItem.DefaultAppDomain, AppDataField.Archived, .bool b)
  | setLocked b => some (SNItem.DefaultAppDomain, AppDataField.Locked, .bool b)
  | setProtected _ | setTrashed _ => none

def isSetDomainData : WriteCall → Bool
  | setDomainData .. => true
  | _ => false

/-- The value the call writes to `(domain, key)`, if it writes there. -/
def writes (call : WriteCall) (domain key : String) : Option Value :=
  match call.entry? with
  | some (d, k, v) => if d = domain ∧ k = key then some v else none
  | none => none

/-- The domain whose record the call writes, if any. -/
def domain? (call : WriteCall) : Option String := call.entry?.map (·.1)

end WriteCall

/-- The value the last of `calls` that writes `(domain, key)` writes there. -/
def lastWrite : List WriteCall → String → String → Option Value
  | [], _, _ => none
  | call :: calls, domain, key => (lastWrite calls domain key).or (call.writes domain key)

namespace ItemMutator

def write (m : ItemMutator) : WriteCall → Except JsError ItemMutator
  | .setDomainDataKey key value domain => m.setDomainDataKey key value domain
  | .setAppDataItem key value => m.setAppDataItem key value
  | .setDomainData data domain => m.setDomainData data domain
  | .setPinned b => m.setPinned b
  | .setArchived b => m.setArchived b
  | .setLocked b => m.setLocked b
  | .setProtected b => m.setProtected b
  | .setTrashed b => m.setTrashed b

/-- The writes in turn, stopping at the first that raises. -/
def writeAll (m : ItemMutator) (calls : List WriteCall) : Except JsError ItemMutator :=
  calls.foldlM write m

end ItemMutator

/-! ## One write -/

namespace PayloadContent

variable {content : PayloadContent}

theorem getDomainData_withDomainDataKey (key : String) (value : Value) (domain domain' : String) :
    (content.withDomainDataKey key value domain).getDomainData domain' =
      if domain' = domain then
        some (Function.update ((content.getDomainData domain).getD fun _ => none) key (some value))
      else content.getDomainData domain' := by
  cases h : content.appData <;>
    by_cases hd : domain' = domain <;>
      simp [withDomainDataKey, getDomainData, h, hd, Function.update_apply]

/-- **`setDomainDataKey` writes one entry.** -/
theorem entry_withDomainDataKey (key : String) (value : Value) (domain domain' key' : String) :
    ((content.withDomainDataKey key value domain).getDomainData domain').bind (· key') =
      if domain = domain' ∧ key = key' then some value
      else (content.getDomainData domain').bind (· key') := by
  rw [getDomainData_withDomainDataKey]
  by_cases hd : domain' = domain
  · subst hd
    by_cases hk : key' = key
    · subst hk; cases content.getDomainData domain' <;> simp
    · cases content.getDomainData domain' <;> simp [hk, Ne.symm hk, Function.update_apply]
  · simp [hd, Ne.symm hd]

end PayloadContent

namespace ItemMutator

variable {m : ItemMutator} {content : PayloadContent}

theorem setDomainDataKey_spec (h : m.content = some content)
    (he : m.payload.errorDecrypting = false) (key : String) (value : Value) (domain : String) :
    ∃ content', m.setDomainDataKey key value domain = .ok { m with content := some content' } ∧
      (∀ d k, (content'.getDomainData d).bind (· k) =
        (if domain = d ∧ key = k then some value else none).or
          ((content.getDomainData d).bind (· k))) ∧
      ∀ d, domain ≠ d → content'.getDomainData d = content.getDomainData d := by
  refine ⟨_, setDomainDataKey_of_some h he key value domain, fun d k => ?_, fun d hd => ?_⟩
  · rw [PayloadContent.entry_withDomainDataKey]
    split <;> rfl
  · rw [PayloadContent.getDomainData_withDomainDataKey, if_neg (Ne.symm hd)]

/-- **One write.** A write other than `setDomainData`, on a mutator with content that
decrypted, sets the entry it names and leaves every other entry, and every other domain's
record, as they were. -/
theorem write_of_some (h : m.content = some content) (he : m.payload.errorDecrypting = false)
    (call : WriteCall) (hcall : call.isSetDomainData = false) :
    ∃ content', m.write call = .ok { m with content := some content' } ∧
      (∀ d k, (content'.getDomainData d).bind (· k) =
        (call.writes d k).or ((content.getDomainData d).bind (· k))) ∧
      ∀ d, call.domain? ≠ some d → content'.getDomainData d = content.getDomainData d := by
  cases call with
  | setDomainData => cases hcall
  | setProtected _ | setTrashed _ =>
    exact ⟨_, writeContent_of_some h _, fun _ _ => rfl, fun _ _ => rfl⟩
  | setDomainDataKey _ _ _ | setAppDataItem _ _ | setPinned _ | setArchived _ | setLocked _ =>
    obtain ⟨c', h1, h2, h3⟩ := setDomainDataKey_spec h he _ _ _
    exact ⟨c', h1, h2, fun d hd => h3 d fun e => hd (congrArg some e)⟩

/-- **Any writes.** -/
theorem writeAll_of_some :
    ∀ (calls : List WriteCall) (m : ItemMutator) (content : PayloadContent),
      m.content = some content → m.payload.errorDecrypting = false →
      (∀ call ∈ calls, call.isSetDomainData = false) →
      ∃ content', m.writeAll calls = .ok { m with content := some content' } ∧
        (∀ d k, (content'.getDomainData d).bind (· k) =
          (lastWrite calls d k).or ((content.getDomainData d).bind (· k))) ∧
        ∀ d, (∀ call ∈ calls, call.domain? ≠ some d) →
          content'.getDomainData d = content.getDomainData d
  | [], m, content, h, _, _ =>
    ⟨content, by cases m; cases h; rfl, fun _ _ => rfl, fun _ _ => rfl⟩
  | call :: calls, m, content, h, he, hcalls => by
    obtain ⟨c1, h1, e1, f1⟩ := write_of_some h he call (hcalls call (List.mem_cons_self _ _))
    obtain ⟨c2, h2, e2, f2⟩ := writeAll_of_some calls { m with content := some c1 } c1 rfl he
      fun call' h' => hcalls call' (List.mem_cons_of_mem _ h')
    refine ⟨c2, ?_, fun d k => ?_, fun d hd => ?_⟩
    · simp only [writeAll, List.foldlM_cons, h1] at h2 ⊢
      exact h2
    · rw [e2, e1, lastWrite, Option.or_assoc]
    · rw [f2 d fun call' h' => hd call' (List.mem_cons_of_mem _ h'),
        f1 d (hd call (List.mem_cons_self _ _))]

/-- `setDomainData` never writes: it leaves the mutator as it was, or raises. -/
theorem setDomainData_eq_ok {data : DomainData} {domain : String} {m' : ItemMutator}
    (h : m.setDomainData data domain = .ok m') : m' = m := by
  unfold setDomainData at h
  split at h
  · cases h; rfl
  · split at h
    · cases h
    · split at h
      · cases h
      · cases h; rfl

end ItemMutator

/-- A note stamped at time 5 in the default domain, updated at time 3, with no other domain. -/
def stampedNote : SNItem :=
  ⟨{ uuid := "n", content_type := "Note", updated_at := some 3,
     content := some { appData := some (Function.update (fun _ => none) SNItem.DefaultAppDomain
       (some (Function.update (fun _ => none) UserModifiedDateKey (some (.date (some 5)))))) } }⟩

/-- **Writes read back.** On an item that decrypted and is not deleted, for any mutation type,
any writes other than `setDomainData` and any time: `getResult` returns a payload marked dirty
at that time, from which an item can be built. On it every entry of `appData` reads the last
value written to it, or its value on the item when none was; the default domain's
`client_updated_at` reads the time of `getResult`, whatever the mutation type; and the record
of every other domain no call writes is the item's. -/
theorem domain_writes_read_back (item : SNItem) (source : MutationType) (calls : List WriteCall)
    (now : Int) (hitem : SNItem.create item.payload = .ok item) (hc : item.payload.content.isSome)
    (he : item.payload.errorDecrypting = false) (hd : item.payload.deleted = false)
    (hcalls : ∀ call ∈ calls, call.isSetDomainData = false) :
    ∃ result : SNItem,
      ((ItemMutator.create item source).writeAll calls).bind (·.getResult now) =
        .ok result.payload ∧
      SNItem.create result.payload = .ok result ∧
      result.payload.dirty = true ∧ result.payload.dirtiedDate = some now ∧
      (∀ domain key, ¬(domain = SNItem.DefaultAppDomain ∧ key = UserModifiedDateKey) →
        (result.getDomainData domain).bind (· key) =
          (lastWrite calls domain key).or ((item.getDomainData domain).bind (· key))) ∧
      (result.getDomainData SNItem.DefaultAppDomain).bind (· UserModifiedDateKey) =
        some (.date (some now)) ∧
      ∀ domain, domain ≠ SNItem.DefaultAppDomain → (∀ call ∈ calls, call.domain? ≠ some domain) →
        result.getDomainData domain = item.getDomainData domain := by
  obtain ⟨content, hcontent⟩ := Option.isSome_iff_exists.1 hc
  have hsafe : item.safeContent = content := by simp [SNItem.safeContent, hcontent]
  obtain ⟨c1, hrun, e1, f1⟩ :=
    ItemMutator.writeAll_of_some calls (ItemMutator.create item source) content hcontent he hcalls
  let m1 : ItemMutator := { ItemMutator.create item source with content := some c1 }
  let result : PurePayload :=
    { item.payload with content := some (c1.withDomainDataKey UserModifiedDateKey
        (.date (some now)) SNItem.DefaultAppDomain), dirty := true, dirtiedDate := some now }
  have hres : m1.getResult now = .ok result := by
    rw [ItemMutator.getResult_of_not_deleted hd, ItemMutator.setAppDataItem,
      ItemMutator.setDomainDataKey_of_some (rfl : m1.content = _) he]
    rfl
  have hcreate : SNItem.create result = .ok ⟨result⟩ :=
    SNItem.create_of_same_keys hitem result rfl rfl
  have hdom : ∀ d, (⟨result⟩ : SNItem).getDomainData d =
      (c1.withDomainDataKey UserModifiedDateKey (.date (some now)) SNItem.DefaultAppDomain).getDomainData d :=
    fun _ => rfl
  refine ⟨⟨result⟩, ?_, hcreate, rfl, rfl, fun domain key hk => ?_, ?_, fun domain hd' hw => ?_⟩
  · rw [hrun]; exact hres
  · rw [hdom, PayloadContent.entry_withDomainDataKey, if_neg fun e => hk ⟨e.1.symm, e.2.symm⟩,
      e1, SNItem.getDomainData_eq, hsafe]
  · rw [hdom, PayloadContent.entry_withDomainDataKey, if_pos ⟨rfl, rfl⟩]
  · rw [hdom, PayloadContent.getDomainData_withDomainDataKey, if_neg hd', f1 domain hw,
      SNItem.getDomainData_eq, hsafe]

/-- Pinning `stampedNote` in an `Internal` mutation at time 9. -/
theorem pinning_stampedNote_reads_back :
    ∃ result : SNItem,
      ((ItemMutator.create stampedNote .Internal).writeAll [.setPinned true]).bind
          (·.getResult 9) = .ok result.payload ∧
      SNItem.create result.payload = .ok result ∧
      result.payload.dirty = true ∧ result.payload.dirtiedDate = some 9 ∧
      (∀ domain key, ¬(domain = SNItem.DefaultAppDomain ∧ key = UserModifiedDateKey) →
        (result.getDomainData domain).bind (· key) =
          (lastWrite [.setPinned true] domain key).or
            ((stampedNote.getDomainData domain).bind (· key))) ∧
      (result.getDomainData SNItem.DefaultAppDomain).bind (· UserModifiedDateKey) =
        some (.date (some 9)) ∧
      ∀ domain, domain ≠ SNItem.DefaultAppDomain →
        (∀ call ∈ [WriteCall.setPinned true], call.domain? ≠ some domain) →
        result.getDomainData domain = stampedNote.getDomainData domain :=
  domain_writes_read_back stampedNote .Internal [.setPinned true] 9 rfl rfl rfl rfl (by decide)

/-! ## `setDomainData` assigns nothing, and an internal mutation restamps -/

/-- `setDomainData` assigns nothing whenever it returns; on `stampedNote`, which has no domain
named `"appData"`, it raises. An `Internal` mutation of `stampedNote` does not keep its stamp:
`getResult` at time 9 overwrites it with 9. -/
theorem setDomainData_writes_nothing :
    (∀ (m m' : ItemMutator) (data : DomainData) (domain : String),
      m.setDomainData data domain = .ok m' → m' = m) ∧
    ((ItemMutator.create stampedNote .Internal).writeAll
        [.setDomainData (fun _ => some (.bool true)) "org.standardnotes.sn.components"]).map
      (fun _ => ()) = .error .typeError ∧
    ((ItemMutator.create stampedNote .Internal).getResult 9).map
      (fun r => ((⟨r⟩ : SNItem).getDomainData SNItem.DefaultAppDomain).bind (· UserModifiedDateKey)) =
      .ok (some (.date (some 9))) :=
  ⟨fun _ _ _ _ h => ItemMutator.setDomainData_eq_ok h, rfl, rfl⟩

end Snjs.Models
