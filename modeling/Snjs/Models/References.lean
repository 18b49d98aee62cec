import Snjs.Models.Mutator
import Mathlib.Data.List.Nodup

/-!
# Relationship edits through an `ItemMutator`

`addItemAsRelationship` (part_005 :459–468) pushes a reference to an item unless one with its
uuid is there, and `removeItemAsRelationship` (:470–474) filters out every reference with its
uuid. Each call on a reference list is therefore one of three things: nothing, a push at the
end, or the removal of one uuid (`any_edit`, `nodup_edit`, `filter_prefix_edit`).

So over any sequence of calls, from a content whose references have distinct uuids: the
uuids stay distinct, an item is referenced exactly when the last call naming it was an add (or,
with no such call, when it was at the start), and the references no call removes stay at the
front, in their order. `getResult` only stamps `appData`, so the payload it returns carries
this list, and `hasRelationshipWithItem` on the item built from it answers by the same rule
(`relationship_edits_follow_last_call`).
-/

namespace Snjs.Models

/-- A relationship edit on a mutator. -/
inductive RelationshipCall
  | add (item : SNItem)
  | remove (item : SNItem)

namespace RelationshipCall

/-- The uuid of the item a call names. -/
def target : RelationshipCall → String
  | add item | remove item => item.uuid

def isAdd : RelationshipCall → Bool
  | add _ => true
  | remove _ => false

/-- Whether the call removes `uuid`. -/
def removes (uuid : String) : RelationshipCall → Bool
  | add _ => false
  | remove item => item.uuid == uuid

/-- The reference list after the call. -/
def edit (references : List ContentReference) : RelationshipCall → List ContentReference
  | add item => ItemMutator.addReference references item
  | remove item => ItemMutator.removeReference references item

end RelationshipCall

/-- Whether the last call naming `uuid` is an add; `none` when no call names it. -/
def lastNaming (calls : List RelationshipCall) (uuid : String) : Option Bool :=
  (calls.filter (·.target == uuid)).getLast?.map RelationshipCall.isAdd

namespace ItemMutator

def relate (m : ItemMutator) : RelationshipCall → Except JsError ItemMutator
  | .add item => m.addItemAsRelationship item
  | .remove item => m.removeItemAsRelationship item

/-- The calls in turn, stopping at the first that raises. -/
def relateAll (m : ItemMutator) (calls : List RelationshipCall) : Except JsError ItemMutator :=
  calls.foldlM relate m

end ItemMutator

/-! ## One call on a reference list -/

namespace RelationshipCall

variable {references : List ContentReference} {uuid : String}

/-- A call on `uuid` decides whether `uuid` is referenced; any other call leaves it. -/
theorem any_edit (call : RelationshipCall) :
    (call.edit references).any (·.uuid == uuid) =
      if call.target = uuid then call.isAdd else references.any (·.uuid == uuid) := by
  cases call with
  | add item =>
    simp only [edit, ItemMutator.addReference, target, isAdd]
    by_cases hu : item.uuid = uuid
    · subst hu; split <;> simp_all
    · split <;> simp_all
  | remove item =>
    simp only [edit, ItemMutator.removeReference, target, isAdd, List.any_filter]
    by_cases hu : item.uuid = uuid
    · subst hu; simp
    · simp only [hu, if_false]
      congr 1
      funext r
      by_cases hr : r.uuid = uuid
      · simp [hr, Ne.symm hu]
      · simp [hr]

theorem nodup_edit (h : (references.map (·.uuid)).Nodup) (call : RelationshipCall) :
    ((call.edit references).map (·.uuid)).Nodup := by
  cases call with
  | add item =>
    simp only [edit, ItemMutator.addReference]
    split
    · exact h
    · next hany =>
      rw [List.map_append, List.nodup_append]
      refine ⟨h, List.nodup_singleton _, ?_⟩
      simpa using hany
  | remove item => exact (List.filter_sublist _).map _ |>.nodup h

/-- The references the later calls `calls` do not remove are still at the front after `call`. -/
theorem filter_prefix_edit (call : RelationshipCall) (calls : List RelationshipCall) :
    references.filter (fun r => !(call :: calls).any (·.removes r.uuid)) <+:
      (call.edit references).filter (fun r => !calls.any (·.removes r.uuid)) := by
  cases call with
  | add item =>
    simp only [edit, ItemMutator.addReference, List.any_cons, removes, Bool.false_or]
    split
    · exact List.prefix_refl _
    · rw [List.filter_append]; exact List.prefix_append _ _
  | remove item =>
    refine ⟨[], ?_⟩
    rw [List.append_nil, edit, ItemMutator.removeReference, List.filter_filter]
    refine List.filter_congr fun r _ => ?_
    simp only [List.any_cons, removes]
    by_cases hr : item.uuid = r.uuid
    · simp [hr]
    · have hb : (item.uuid == r.uuid) = false := by simp [hr]
      have hb' : (r.uuid != item.uuid) = true := by simp [Ne.symm hr]
      simp [hb, hb']

end RelationshipCall

/-! ## Any calls on a reference list -/

variable {references : List ContentReference}

theorem any_foldl_edit (uuid : String) :
    ∀ (calls : List RelationshipCall) (references : List ContentReference),
      (calls.foldl RelationshipCall.edit references).any (·.uuid == uuid) =
        (lastNaming calls uuid).getD (references.any (·.uuid == uuid)) := by
  intro calls
  induction calls using List.reverseRecOn with
  | nil => intro _; rfl
  | append_singleton calls call ih =>
    intro references
    rw [List.foldl_append, List.foldl_cons, List.foldl_nil, RelationshipCall.any_edit, ih]
    simp only [lastNaming, List.filter_append, List.filter_singleton]
    by_cases hc : call.target = uuid
    · simp [hc]
    · have hb : (call.target == uuid) = false := by simp [hc]
      simp [hb, hc]

theorem nodup_foldl_edit :
    ∀ (calls : List RelationshipCall) {references : List ContentReference},
      (references.map (·.uuid)).Nodup → ((calls.foldl RelationshipCall.edit references).map (·.uuid)).Nodup
  | [], _, h => h
  | call :: calls, _, h => nodup_foldl_edit calls (RelationshipCall.nodup_edit h call)

/-- **The references no call removes stay at the front, in their order.** -/
theorem filter_prefix_foldl_edit :
    ∀ (calls : List RelationshipCall) (references : List ContentReference),
      references.filter (fun r => !calls.any (·.removes r.uuid)) <+:
        calls.foldl RelationshipCall.edit references
  | [], references => by simp
  | call :: calls, references =>
    (RelationshipCall.filter_prefix_edit call calls).trans
      (filter_prefix_foldl_edit calls (call.edit references))

/-! ## Through the mutator -/

namespace ItemMutator

variable {m : ItemMutator}

theorem relate_of_some {content : PayloadContent} (h : m.content = some content)
    (call : RelationshipCall) :
    m.relate call = .ok { m with content := some { content with
      references := some (call.edit (content.references.getD [])) } } := by
  cases call <;> exact writeContent_of_some h _

/-- After calls, the working copy holds the edited reference list and the rest of the
content as it was. -/
theorem relateAll_of_some :
    ∀ (calls : List RelationshipCall) (m : ItemMutator) (content : PayloadContent),
      m.content = some content →
      ∃ content', m.relateAll calls = .ok { m with content := some content' } ∧
        content'.references.getD [] = calls.foldl RelationshipCall.edit (content.references.getD []) ∧
        content'.appData = content.appData
  | [], m, content, h => ⟨content, by cases m; cases h; rfl, rfl, rfl⟩
  | call :: calls, m, content, h => by
    obtain ⟨content', h1, h2, h3⟩ := relateAll_of_some calls _ _ (rfl :
      ({ m with content := some { content with
        references := some (call.edit (content.references.getD [])) } } : ItemMutator).content =
        some _)
    refine ⟨content', ?_, ?_, h3⟩
    · simp only [relateAll, List.foldlM_cons, relate_of_some h] at h1 ⊢
      exact h1
    · rw [h2]; rfl

/-- `getResult` on a mutator with content returns a payload with the same references. -/
theorem getResult_of_some {content : PayloadContent} (h : m.content = some content) (now : Int) :
    ∃ content', m.getResult now =
        .ok { m.payload with content := some content', dirty := true, dirtiedDate := some now } ∧
      content'.references = content.references := by
  cases hd : m.payload.deleted
  · rw [getResult_of_not_deleted hd]
    cases he : m.payload.errorDecrypting
    · simp only [setAppDataItem, setDomainDataKey_of_some h he, Except.map]
      exact ⟨_, rfl, rfl⟩
    · simp only [setAppDataItem, setDomainDataKey, he, if_true, Except.map, h]
      exact ⟨content, rfl, rfl⟩
  · simp only [getResult, hd, if_true, bind, Except.bind, pure, Except.pure, h]
    exact ⟨content, rfl, rfl⟩

end ItemMutator

/-- **Relationship edits follow the last call.** For an item whose references have distinct
uuids, any mutation type, any sequence of `addItemAsRelationship` and
`removeItemAsRelationship` calls and any time: `getResult` returns a payload from which an
item can be built; its references have distinct uuids; an item is referenced, and
`hasRelationshipWithItem` says so, exactly when the last call naming it was an add, or no call
named it and it was referenced at the start; and the starting references no call removes are
at the front, in their order. -/
theorem relationship_edits_follow_last_call (item : SNItem) (source : MutationType)
    (calls : List RelationshipCall) (now : Int) (hitem : SNItem.create item.payload = .ok item)
    (hc : item.payload.content.isSome) (hnodup : (item.references.map (·.uuid)).Nodup) :
    ∃ result : SNItem,
      ((ItemMutator.create item source).relateAll calls).bind (·.getResult now) =
        .ok result.payload ∧
      SNItem.create result.payload = .ok result ∧
      (result.references.map (·.uuid)).Nodup ∧
      (∀ uuid, result.references.any (·.uuid == uuid) =
        (lastNaming calls uuid).getD (item.references.any (·.uuid == uuid))) ∧
      (∀ X : SNItem, result.hasRelationshipWithItem X =
        (lastNaming calls X.uuid).getD (item.references.any (·.uuid == X.uuid))) ∧
      item.references.filter (fun r => !calls.any (·.removes r.uuid)) <+: result.references := by
  obtain ⟨content, hcontent⟩ := Option.isSome_iff_exists.1 hc
  have href : item.references = content.references.getD [] := by
    simp [SNItem.references, SNItem.safeContent, hcontent]
  obtain ⟨content', hrun, hrefs, -⟩ :=
    ItemMutator.relateAll_of_some calls (ItemMutator.create item source) content hcontent
  obtain ⟨content'', hres, hrefs'⟩ :=
    ItemMutator.getResult_of_some (m := { ItemMutator.create item source with
      content := some content' }) rfl now
  let result : PurePayload :=
    { item.payload with content := some content'', dirty := true, dirtiedDate := some now }
  have hcreate : SNItem.create result = .ok ⟨result⟩ :=
    SNItem.create_of_same_keys hitem result rfl rfl
  have hresult : (⟨result⟩ : SNItem).references =
      calls.foldl RelationshipCall.edit item.references := by
    show content''.references.getD [] = _
    rw [hrefs', hrefs, href]
  refine ⟨⟨result⟩, ?_, hcreate, ?_, fun uuid => ?_, fun X => ?_, ?_⟩
  · rw [hrun]; exact hres
  · rw [hresult]; exact nodup_foldl_edit calls hnodup
  · rw [hresult, any_foldl_edit]
  · rw [← any_foldl_edit, ← hresult]; rfl
  · rw [hresult]; exact filter_prefix_foldl_edit calls item.references

/-- A tag. -/
def tagOne : SNItem := ⟨{ uuid := "t1", content_type := "Tag" }⟩

/-- Another tag. -/
def tagTwo : SNItem := ⟨{ uuid := "t2", content_type := "Tag" }⟩

/-- A note that references `tagOne`. -/
def taggedNote : SNItem :=
  ⟨{ uuid := "n", content_type := "Note", content := some { references := some [⟨"t1", "Tag"⟩] } }⟩

/-- `taggedNote` moved from `tagOne` to `tagTwo` by a user at time 9. -/
theorem retagging_taggedNote :
    ∃ result : SNItem,
      ((ItemMutator.create taggedNote .UserInteraction).relateAll
          [.add tagTwo, .remove tagOne]).bind (·.getResult 9) = .ok result.payload ∧
      SNItem.create result.payload = .ok result ∧
      (result.references.map (·.uuid)).Nodup ∧
      (∀ uuid, result.references.any (·.uuid == uuid) =
        (lastNaming [.add tagTwo, .remove tagOne] uuid).getD
          (taggedNote.references.any (·.uuid == uuid))) ∧
      (∀ X : SNItem, result.hasRelationshipWithItem X =
        (lastNaming [.add tagTwo, .remove tagOne] X.uuid).getD
          (taggedNote.references.any (·.uuid == X.uuid))) ∧
      taggedNote.references.filter
          (fun r => !([RelationshipCall.add tagTwo, .remove tagOne].any (·.removes r.uuid))) <+:
        result.references :=
  relationship_edits_follow_last_call taggedNote .UserInteraction [.add tagTwo, .remove tagOne] 9
    rfl rfl (by decide)

end Snjs.Models
