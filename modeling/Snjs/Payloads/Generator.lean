import Mathlib.Data.List.Nodup

/-!
# `generator.js`: payloads by projection, override and omission

A payload of a given class is built from an object in three moves (generator.js:11–47):
`pick(object, payloadClass.fields())` keeps the fields of the class the object has, in the
order of the class's field list; `Object.assign(rawPayload, override)` sets the override's
members, an existing one keeping its place and a new one going last; and
`omitByCopy(rawPayload, omit)` (part_009:98–109) deletes the omitted keys from a copy. The
class is chosen by the encryption intent or the mapping source (:53–101), whose functions
throw for any other value.

An object is modelled by its own enumerable members in insertion order, each key once
(`JsObject`, which carries that as a field); `object[key]` is `JsObject.get`. The payload
classes' `fields()` are not under src/ and are a parameter.

- `get_CreatePayloadFromAnyObject`: a member of the payload is absent when omitted, else the
  override's when it has one, else the object's when the class has the field: omission beats
  override, which beats projection.
- `pick_pick_of_subset`: converting a payload to a variant whose fields are among those of the
  variant it has is projecting the original object to that variant directly (the spec's
  "conversion between variants is pure projection").
- `get_CreatePayloadFromItem`: the same for `CreatePayloadFromItem` and
  `CreateMaxPayloadFromItem`, which test for an item differently, by the constructor's name
  and by `isItem`.
-/

namespace Snjs.Payloads

/-- A JavaScript object: what `object[key]` yields for each key it has (own members, or for a
class instance, its getters too), in insertion order, each key once. -/
structure JsObject (α : Type) where
  entries : List (String × α)
  nodup : (entries.map Prod.fst).Nodup

namespace JsObject

variable {α : Type}

/-- The object's keys, in order. -/
def keys (o : JsObject α) : List String := o.entries.map Prod.fst

/-- `{}`. -/
def empty : JsObject α := ⟨[], List.nodup_nil⟩

/-- `object[key]`; `undefined` is `none`. -/
def get (o : JsObject α) (key : String) : Option α :=
  (o.entries.find? (·.1 == key)).map Prod.snd

/-- Replacing the value under one key keeps the keys. -/
theorem map_fst_replace (entries : List (String × α)) (key : String) (value : α) :
    (entries.map fun e => if e.1 = key then (key, value) else e).map Prod.fst =
      entries.map Prod.fst := by
  rw [List.map_map]
  congr 1
  funext e
  by_cases h : e.1 = key <;> simp [h]

/-- `object[key] = value`: an existing key keeps its place, a new one goes last. -/
def set (o : JsObject α) (key : String) (value : α) : JsObject α :=
  if h : key ∈ o.keys then
    ⟨o.entries.map fun e => if e.1 = key then (key, value) else e,
      (map_fst_replace o.entries key value).symm ▸ o.nodup⟩
  else
    ⟨o.entries ++ [(key, value)], by
      rw [List.map_append, List.nodup_append]
      exact ⟨o.nodup, List.nodup_singleton _, by
        simp only [List.map_cons, List.map_nil, List.disjoint_singleton]; exact h⟩⟩

/-- `delete object[key]`. -/
def delete (o : JsObject α) (key : String) : JsObject α :=
  ⟨o.entries.filter (·.1 != key), o.nodup.sublist ((List.filter_sublist _).map _)⟩

/-- `Object.assign(target, source)`: each member of `source`, in order, set on `target`. -/
def assign (target source : JsObject α) : JsObject α :=
  source.entries.foldl (fun o e => o.set e.1 e.2) target

/-- `pick(object, paths)` (lodash): each path the object has, in the order of `paths`. -/
def pick (object : JsObject α) (paths : List String) : JsObject α :=
  paths.foldl (fun r p => match object.get p with
    | some v => r.set p v
    | none => r) empty

/-! ## Reading a member back -/

theorem get_eq_none_of_not_mem {o : JsObject α} {key : String} (h : key ∉ o.keys) :
    o.get key = none := by
  simp only [get, Option.map_eq_none', List.find?_eq_none]
  intro e he hk
  exact h (List.mem_map.mpr ⟨e, he, by simpa using hk⟩)

@[simp] theorem get_empty (key : String) : (empty : JsObject α).get key = none := rfl

@[simp] theorem get_set (o : JsObject α) (key key' : String) (value : α) :
    (o.set key value).get key' = if key' = key then some value else o.get key' := by
  unfold set get
  split
  · rw [List.find?_map]
    by_cases hk : key' = key
    · subst hk
      obtain ⟨e, he, rfl⟩ := List.mem_map.mp ‹key' ∈ o.keys›
      have hfind : (o.entries.find? fun x => x.1 == e.1).isSome := List.find?_isSome.mpr ⟨e, he, by simp⟩
      obtain ⟨e', he'⟩ := Option.isSome_iff_exists.mp hfind
      have h1 : e'.1 = e.1 := by simpa using List.find?_some he'
      simp only [Function.comp_def]
      rw [show (fun x : String × α => (if x.1 = e.1 then (e.1, value) else x).1 == e.1) =
        fun x => x.1 == e.1 from funext fun x => by by_cases h : x.1 = e.1 <;> simp [h], he']
      simp [h1]
    · simp only [Function.comp_def, hk, if_false]
      rw [show (fun x : String × α => (if x.1 = key then (key, value) else x).1 == key') =
        fun x => x.1 == key' from funext fun x => by by_cases h : x.1 = key <;> simp [h], ]
      cases hf : o.entries.find? (fun x => x.1 == key') with
      | none => rfl
      | some e' =>
        have h1 : e'.1 = key' := by simpa using List.find?_some hf
        simp [h1, hk]
  · rw [List.find?_append]
    by_cases hk : key' = key
    · subst hk
      have := get_eq_none_of_not_mem ‹key' ∉ o.keys›
      simp only [get, Option.map_eq_none'] at this
      simp [this]
    · cases hf : o.entries.find? (fun x => x.1 == key') <;> simp [hk, Ne.symm hk]

@[simp] theorem get_delete (o : JsObject α) (key key' : String) :
    (o.delete key).get key' = if key' = key then none else o.get key' := by
  unfold delete get
  rw [List.find?_filter]
  by_cases hk : key' = key
  · subst hk
    simp only [if_true, Option.map_eq_none', List.find?_eq_none]
    intro e _
    by_cases h : e.1 = key' <;> simp [h]
  · simp only [hk, if_false]
    congr 2
    funext e
    by_cases h : e.1 = key' <;> simp [h, hk]

/-- Setting members with distinct keys one after another: a key set reads back its value, any
other reads what it read before. -/
theorem get_foldl_set (l : List (String × α)) (hl : (l.map Prod.fst).Nodup)
    (target : JsObject α) (key : String) :
    (l.foldl (fun o e => o.set e.1 e.2) target).get key =
      ((l.find? (·.1 == key)).map Prod.snd).or (target.get key) := by
  induction l generalizing target with
  | nil => simp
  | cons e l ih =>
    rw [List.map_cons, List.nodup_cons] at hl
    rw [List.foldl_cons, ih hl.2, get_set, List.find?_cons]
    by_cases hk : key = e.1
    · subst hk
      have hnone : l.find? (·.1 == e.1) = none := List.find?_eq_none.mpr fun x hx hx' =>
        hl.1 (List.mem_map.mpr ⟨x, hx, by simpa using hx'⟩)
      simp [hnone]
    · rw [beq_false_of_ne (Ne.symm hk)]
      simp [hk]

@[simp] theorem get_assign (target source : JsObject α) (key : String) :
    (target.assign source).get key = (source.get key).or (target.get key) :=
  get_foldl_set source.entries source.nodup target key

/-- The loop of `pick`, from any start. -/
theorem get_foldl_pick (object : JsObject α) (paths : List String) (r : JsObject α)
    (key : String) :
    (paths.foldl (fun r p => match object.get p with
        | some v => r.set p v
        | none => r) r).get key =
      if key ∈ paths then (object.get key).or (r.get key) else r.get key := by
  induction paths generalizing r with
  | nil => simp
  | cons p ps ih =>
    rw [List.foldl_cons, ih]
    by_cases hk : key = p
    · subst hk
      cases hv : object.get key <;> simp [hv]
    · have hr : (match object.get p with
          | some v => r.set p v
          | none => r).get key = r.get key := by
        cases object.get p <;> simp [hk]
      simp [hr, hk]

@[simp] theorem get_pick (object : JsObject α) (paths : List String) (key : String) :
    (object.pick paths).get key = if key ∈ paths then object.get key else none := by
  rw [pick, get_foldl_pick]
  simp

/-- `pick` reads the object only at the paths. -/
theorem pick_congr {o o' : JsObject α} {paths : List String} (h : ∀ p ∈ paths, o.get p = o'.get p) :
    o.pick paths = o'.pick paths := by
  unfold pick
  generalize (empty : JsObject α) = r
  induction paths generalizing r with
  | nil => rfl
  | cons p ps ih =>
    simp only [List.foldl_cons]
    rw [h p (.head _)]
    exact ih (fun q hq => h q (.tail _ hq)) _

/-- **Projection through a larger variant.** Picking the fields `G` of what was picked to the
fields `F` is picking `G` directly, when every field of `G` is one of `F`: the same members in
the same order. -/
theorem pick_pick_of_subset (object : JsObject α) {F G : List String} (h : ∀ k ∈ G, k ∈ F) :
    (object.pick F).pick G = object.pick G :=
  pick_congr fun p hp => by simp [h p hp]

end JsObject

/-- `omitByCopy(object, fields)` (part_009:98–109): a copy of the object, each field deleted. -/
def omitByCopy {α : Type} (object : JsObject α) (fields : List String) : JsObject α :=
  fields.foldl JsObject.delete object

@[simp] theorem get_omitByCopy {α : Type} (object : JsObject α) (fields : List String)
    (key : String) : (omitByCopy object fields).get key = if key ∈ fields then none else object.get key := by
  induction fields generalizing object with
  | nil => simp [omitByCopy]
  | cons f fs ih =>
    simp only [omitByCopy, List.foldl_cons] at ih ⊢
    rw [ih, JsObject.get_delete]
    by_cases hk : key = f <;> simp [hk]

/-! ## Payload classes -/

/-- The payload classes generator.js builds (`@Protocol/payloads`, not under src/). -/
inductive PayloadClass
  | SNFileItemPayload
  | SNStorageItemPayload
  | SNServerItemPayload
  | SNMaxItemPayload
  deriving DecidableEq, Repr

/-- Modelled from the names generator.js compares with: `@Protocol/intents` is not under src/.
The six intents named are distinct, and any other value is `other`, by how a template string
prints it. -/
inductive EncryptionIntent
  | EncryptionIntentFileEncrypted
  | EncryptionIntentFileDecrypted
  | EncryptionIntentLocalStoragePreferEncrypted
  | EncryptionIntentLocalStorageDecrypted
  | EncryptionIntentLocalStorageEncrypted
  | EncryptionIntentSync
  | other (printed : String)
  deriving DecidableEq, Repr

/-- Modelled from the names generator.js compares with: `@Lib/sources` is not under src/. -/
inductive MappingSource
  | MAPPING_SOURCE_FILE_IMPORT
  | MAPPING_SOURCE_LOCAL_SAVED
  | MAPPING_SOURCE_LOCAL_RETRIEVED
  | MAPPING_SOURCE_LOCAL_DIRTIED
  | MAPPING_SOURCE_REMOTE_RETRIEVED
  | MAPPING_SOURCE_REMOTE_SAVED
  | other (printed : String)
  deriving DecidableEq, Repr

/-- `itemPayloadClassForIntent(intent)` (:53–76). -/
def itemPayloadClassForIntent : EncryptionIntent → Except String PayloadClass
  | .EncryptionIntentFileEncrypted | .EncryptionIntentFileDecrypted => .ok .SNFileItemPayload
  | .EncryptionIntentLocalStoragePreferEncrypted | .EncryptionIntentLocalStorageDecrypted
  | .EncryptionIntentLocalStorageEncrypted => .ok .SNStorageItemPayload
  | .EncryptionIntentSync => .ok .SNServerItemPayload
  | .other printed => .error ("No item payload class found for intent " ++ printed)

/-- `itemPayloadClassForMappingSource(source)` (:78–101). -/
def itemPayloadClassForMappingSource : MappingSource → Except String PayloadClass
  | .MAPPING_SOURCE_FILE_IMPORT => .ok .SNFileItemPayload
  | .MAPPING_SOURCE_LOCAL_SAVED | .MAPPING_SOURCE_LOCAL_RETRIEVED
  | .MAPPING_SOURCE_LOCAL_DIRTIED => .ok .SNStorageItemPayload
  | .MAPPING_SOURCE_REMOTE_RETRIEVED | .MAPPING_SOURCE_REMOTE_SAVED => .ok .SNServerItemPayload
  | .other printed => .error ("No item payload class found for source " ++ printed)

/-- What is passed as `item`: the name of its constructor, whether `item.isItem` is truthy
(`undefined` for anything but an item), and what it yields for each key. -/
structure ItemArg (α : Type) where
  constructorName : String
  isItem : Bool
  object : JsObject α

section Generator

variable {α : Type} (fields : PayloadClass → List String)

/-- `CreatePayloadFromItem({ item, encryptionPayload, intent, source })` (:11–23): the class
and the raw payload it is constructed with; `undefined` is `none`. -/
def CreatePayloadFromItem (item : ItemArg α) (encryptionPayload : JsObject α)
    (intent : Option EncryptionIntent) (source : Option MappingSource) :
    Except String (PayloadClass × JsObject α) :=
  if item.constructorName = "Object" then
    .error "Attempting to construct payload from non-item object."
  else do
    let payloadClass ← match intent with
      | some intent => itemPayloadClassForIntent intent
      | none => itemPayloadClassForMappingSource (source.getD (.other "undefined"))
    return (payloadClass, (item.object.pick (fields payloadClass)).assign encryptionPayload)

/-- `CreatePayloadFromAnyObject({ object, source, override, omit })` (:25–35); `omit` is
`omitKeys`, since Lean keeps the word. -/
def CreatePayloadFromAnyObject (object : JsObject α) (source : Option MappingSource)
    (override : JsObject α) (omitKeys : Option (List String)) :
    Except String (PayloadClass × JsObject α) := do
  let payloadClass ← match source with
    | some source => itemPayloadClassForMappingSource source
    | none => pure .SNMaxItemPayload
  let rawPayload := (object.pick (fields payloadClass)).assign override
  return (payloadClass, match omitKeys with
    | some omitKeys => omitByCopy rawPayload omitKeys
    | none => rawPayload)

/-- `CreateMaxPayloadFromItem({ item, override, omit })` (:37–47). -/
def CreateMaxPayloadFromItem (item : ItemArg α) (override : JsObject α)
    (omitKeys : Option (List String)) : Except String (JsObject α) :=
  if !item.isItem then .error "Attempting to create max payload from non-item object."
  else
    let rawPayload := (item.object.pick (fields .SNMaxItemPayload)).assign override
    .ok (match omitKeys with
      | some omitKeys => omitByCopy rawPayload omitKeys
      | none => rawPayload)

/-- **Omission beats override, which beats projection.** Whatever the object, source,
override and omitted keys, `CreatePayloadFromAnyObject` fails exactly when the source has no
payload class, and otherwise its payload has no member under an omitted key, the override's
member under a key the override has, the object's under a field of the class, and nothing
else. -/
theorem get_CreatePayloadFromAnyObject (object : JsObject α) (source : Option MappingSource)
    (override : JsObject α) (omitKeys : Option (List String)) (key : String) :
    (CreatePayloadFromAnyObject fields object source override omitKeys).map (fun r => r.2.get key) =
      (match source with
        | some source => itemPayloadClassForMappingSource source
        | none => .ok .SNMaxItemPayload).map fun payloadClass =>
        if key ∈ omitKeys.getD [] then none
        else (override.get key).or (if key ∈ fields payloadClass then object.get key else none) := by
  have hraw : ∀ payloadClass, (match omitKeys with
      | some omitKeys => omitByCopy ((object.pick (fields payloadClass)).assign override) omitKeys
      | none => (object.pick (fields payloadClass)).assign override).get key =
      if key ∈ omitKeys.getD [] then none
      else (override.get key).or (if key ∈ fields payloadClass then object.get key else none) := by
    intro payloadClass
    cases omitKeys <;> simp
  cases source with
  | none => exact congrArg Except.ok (hraw _)
  | some source =>
    cases h : itemPayloadClassForMappingSource source with
    | error e => simp [CreatePayloadFromAnyObject, h, bind, Except.bind, Except.map]
    | ok payloadClass =>
      simp only [CreatePayloadFromAnyObject, h]
      exact congrArg Except.ok (hraw payloadClass)

/-- **What a payload from an item holds.** `CreatePayloadFromItem` turns away a plain object
(constructor `Object`) and an intent or source that has no payload class; otherwise its payload
has the encryption payload's member under a key that has one, else the item's under a field of
the class. `CreateMaxPayloadFromItem` turns away anything whose `isItem` is falsy; otherwise
its payload has nothing under an omitted key, else the override's member, else the item's under
a field of `SNMaxItemPayload`. The two test for an item differently: by the constructor's name
and by `isItem`. -/
theorem get_CreatePayloadFromItem (item : ItemArg α) (encryptionPayload override : JsObject α)
    (intent : Option EncryptionIntent) (source : Option MappingSource)
    (omitKeys : Option (List String)) (key : String) :
    (CreatePayloadFromItem fields item encryptionPayload intent source).map (fun r => r.2.get key) =
      (if item.constructorName = "Object" then
        .error "Attempting to construct payload from non-item object."
      else (match intent with
        | some intent => itemPayloadClassForIntent intent
        | none => itemPayloadClassForMappingSource (source.getD (.other "undefined"))).map
          fun payloadClass => (encryptionPayload.get key).or
            (if key ∈ fields payloadClass then item.object.get key else none)) ∧
    (CreateMaxPayloadFromItem fields item override omitKeys).map (·.get key) =
      if item.isItem then
        .ok (if key ∈ omitKeys.getD [] then none
          else (override.get key).or
            (if key ∈ fields .SNMaxItemPayload then item.object.get key else none))
      else .error "Attempting to create max payload from non-item object." := by
  constructor
  · by_cases hname : item.constructorName = "Object"
    · simp [CreatePayloadFromItem, hname, Except.map]
    · rw [CreatePayloadFromItem, if_neg hname, if_neg hname]
      cases intent with
      | some intent =>
        cases h : itemPayloadClassForIntent intent <;>
          simp [h, bind, Except.bind, Except.map, pure, Except.pure]
      | none =>
        cases h : itemPayloadClassForMappingSource (source.getD (.other "undefined")) <;>
          simp [h, bind, Except.bind, Except.map, pure, Except.pure]
  · cases hi : item.isItem <;> cases omitKeys <;> simp [CreateMaxPayloadFromItem, hi, Except.map]

end Generator

/-- An object with a `uuid` and a `deleted` member. -/
def uuidDeleted : JsObject Nat := ⟨[("uuid", 1), ("deleted", 0)], by decide⟩

/-- Picking `uuid` and `content` out of what was picked to `uuid`, `content` and `deleted`. -/
theorem pick_server_fields_of_max :
    (∀ k ∈ ["uuid", "content"], k ∈ ["uuid", "content", "deleted"]) ∧
      (uuidDeleted.pick ["uuid", "content", "deleted"]).pick ["uuid", "content"] =
        uuidDeleted.pick ["uuid", "content"] :=
  ⟨by decide, JsObject.pick_pick_of_subset uuidDeleted (by decide)⟩

end Snjs.Payloads
