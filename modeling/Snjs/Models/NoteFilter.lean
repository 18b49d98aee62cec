import Snjs.Models.Mutator

/-!
# `notePassesFilter` and the getters it reads

`notePassesFilter` (migration_service.ts :694–709) reads `note.archived` and then, unless that
already excludes the note, `note.pinned`, before it matches the query (`noteMatchesQuery`,
:711–736). Both getters are `getAppDomainValue` (part_005 :185–188), which raises on a content
that has no record for the default domain: with no `appData` at all, or with records for other
domains only. On such a note the filter raises whatever its flags and query, and so do
`pinned`, `archived`, `locked` and `user_modified_at` (`getters_raise_without_default_domain`).

`ItemMutator.getResult` for an `Internal` mutation does not raise on any content, but only
because that mutation takes the `UserInteraction` branch, which writes the stamp without
reading it (`ItemMutator.getResult_of_not_deleted`).
-/

namespace Snjs.Models

/-- `SNNote.safeTitle()` (not under src/): the title, `''` when absent. -/
def safeTitle (note : SNItem) : String := note.safeContent.title.getD ""

/-- `SNNote.safeText()` (not under src/): the text, `''` when absent. -/
def safeText (note : SNItem) : String := note.safeContent.text.getD ""

/-- A line terminator, which `.` in a regular expression does not match. -/
def isLineTerminator (c : Char) : Bool :=
  c = '\n' || c = '\r' || c = '\u2028' || c = '\u2029'

/-- The characters up to the next `"` on the same line, if there is one. -/
def closingQuote : List Char → Option (List Char)
  | [] => none
  | c :: cs =>
    if c = '"' then some []
    else if isLineTerminator c then none
    else (closingQuote cs).map (c :: ·)

/-- `stringBetweenQuotes(text)` (:738–741): the group of the first match of `/"(.*?)"/`. -/
def stringBetweenQuotes : List Char → Option (List Char)
  | [] => none
  | c :: cs =>
    if c = '"' then (closingQuote cs).or (stringBetweenQuotes cs) else stringBetweenQuotes cs

/-- `\w` in a regular expression. -/
def isWordChar (c : Char) : Bool := c.isAlphanum || c = '_'

/-- `[0-9a-f]`. -/
def isHexDigit (c : Char) : Bool := c.isDigit || ('a' ≤ c && c ≤ 'f')

/-- `n` characters of `[0-9a-f]`, and what follows them. -/
def hexRun : Nat → List Char → Option (List Char)
  | 0, cs => some cs
  | _ + 1, [] => none
  | n + 1, c :: cs => if isHexDigit c then hexRun n cs else none

/-- A `-`, and what follows it. -/
def dash : List Char → Option (List Char)
  | '-' :: cs => some cs
  | _ => none

/-- Whether the pattern of `stringIsUuid` matches at the head of `cs`, up to its closing `\b`. -/
def uuidAt (cs : List Char) : Bool :=
  match hexRun 8 cs >>= dash >>= hexRun 4 >>= dash >>= hexRun 4 >>= dash >>= hexRun 4 >>= dash >>=
      hexRun 12 with
  | some [] => true
  | some (c :: _) => !isWordChar c
  | none => false

/-- `stringIsUuid(text)` (:743–749): a match anywhere that starts at a word boundary. -/
def stringIsUuid (text : List Char) : Bool := go true text
where
  go (atBoundary : Bool) : List Char → Bool
    | [] => false
    | c :: cs => (atBoundary && uuidAt (c :: cs)) || go (!isWordChar c) cs

/-- `text.indexOf(word) >= 0`. -/
def includes (text word : String) : Bool := go text.data
where
  go : List Char → Bool
    | [] => word.data.isEmpty
    | c :: cs => word.data.isPrefixOf (c :: cs) || go cs

/-- `noteMatchesQuery(note, query)` (:711–736). `toLowerCase` is JavaScript's
`String.prototype.toLowerCase`, the Unicode case mapping, which can change a text's length (`İ`
gives `i` and a combining dot) and depends on context (a final `Σ`); it is a parameter, and what
is proved of the matcher holds for every case map. -/
def noteMatchesQuery (toLowerCase : String → String) (note : SNItem) (query : String) : Bool :=
  if query.length = 0 then true
  else
    let title := toLowerCase (safeTitle note)
    let text := toLowerCase (safeText note)
    let lowercaseText := toLowerCase query
    match stringBetweenQuotes lowercaseText.data with
    | some (c :: cs) => includes title (String.mk (c :: cs)) || includes text (String.mk (c :: cs))
    | _ =>
      if stringIsUuid lowercaseText.data then note.uuid == lowercaseText
      else
        let words := lowercaseText.splitOn " "
        words.all (includes title ·) || words.all (includes text ·)

/-- Whether a getter's value is truthy; `undefined` is not. -/
def truthy (value : Option Value) : Bool := (value.map Value.truthy).getD false

/-- `notePassesFilter(note, showArchived, hidePinned, query)` (:694–709). The `&&` and `||` of
the test evaluate left to right and stop early: `note.pinned` is read only when `note.archived`
has not excluded the note. -/
def notePassesFilter (toLowerCase : String → String) (note : SNItem)
    (showArchived hidePinned : Bool) (query : String) : Except JsError Bool := do
  let canShowArchived := showArchived
  let canShowPinned := !hidePinned
  let archived ← note.archived
  if truthy archived && !canShowArchived then return false
  let pinned ← note.pinned
  if truthy pinned && !canShowPinned then return false
  return noteMatchesQuery toLowerCase note query

/-! ## When the getters and the filter raise -/

variable {note : SNItem}

/-- The filter raises exactly when `note.archived` does. -/
theorem notePassesFilter_eq_error (toLowerCase : String → String) (showArchived hidePinned : Bool)
    (query : String) :
    notePassesFilter toLowerCase note showArchived hidePinned query = .error .typeError ↔
      note.getDomainData SNItem.DefaultAppDomain = none := by
  rw [← @SNItem.getAppDomainValue_eq_error note AppDataField.Archived]
  cases h : note.getDomainData SNItem.DefaultAppDomain with
  | none =>
    simp [notePassesFilter, SNItem.archived, SNItem.getAppDomainValue, h, bind, Except.bind]
  | some appData =>
    simp only [notePassesFilter, SNItem.archived, SNItem.pinned, SNItem.getAppDomainValue_eq_ok
      appData h, bind, Except.bind, pure, Except.pure]
    repeat' split
    all_goals simp

/-- `getResult` of an `Internal` mutation returns on every item with content. -/
theorem getResult_internal_ok (payload : PurePayload) (content : PayloadContent) (now : Int) :
    ∃ r, (ItemMutator.create ⟨{ payload with content := some content }⟩ .Internal).getResult now =
      .ok r := by
  cases hd : payload.deleted
  · rw [ItemMutator.getResult_of_not_deleted rfl]
    cases he : payload.errorDecrypting
    · rw [ItemMutator.setAppDataItem, ItemMutator.setDomainDataKey_of_some rfl rfl]
      exact ⟨_, rfl⟩
    · exact ⟨_, rfl⟩
  · exact ⟨_, rfl⟩

/-- A note with a title and text and no `appData`. -/
def plainNote : SNItem :=
  ⟨{ uuid := "n", content_type := "Note", content := some { title := some "t", text := some "x" } }⟩

/-- A note whose `appData` holds a record for another domain only. -/
def componentDataNote : SNItem :=
  ⟨{ uuid := "n", content_type := "Note",
     content := some { appData := some (Function.update (fun _ => none)
       "org.standardnotes.sn.components" (some fun _ => none)) } }⟩

/-- **The getters raise without a default-domain record.** `getAppDomainValue`, `pinned`,
`archived`, `locked`, `user_modified_at` and `notePassesFilter` (for every case map, flag and
query) raise exactly on an item without a record for the default domain, as `plainNote` and
`componentDataNote` are; `getResult` of an `Internal` mutation returns on every content. -/
theorem getters_raise_without_default_domain :
    (∀ (item : SNItem) (key : String), item.getAppDomainValue key = .error .typeError ↔
      item.getDomainData SNItem.DefaultAppDomain = none) ∧
    (∀ item : SNItem, (item.pinned = .error .typeError ↔
        item.getDomainData SNItem.DefaultAppDomain = none) ∧
      (item.archived = .error .typeError ↔ item.getDomainData SNItem.DefaultAppDomain = none) ∧
      (item.locked = .error .typeError ↔ item.getDomainData SNItem.DefaultAppDomain = none) ∧
      (item.user_modified_at = .error .typeError ↔
        item.getDomainData SNItem.DefaultAppDomain = none)) ∧
    (∀ (toLowerCase : String → String) (note : SNItem) (showArchived hidePinned : Bool)
        (query : String),
      notePassesFilter toLowerCase note showArchived hidePinned query = .error .typeError ↔
        note.getDomainData SNItem.DefaultAppDomain = none) ∧
    (∀ (payload : PurePayload) (content : PayloadContent) (now : Int), ∃ r,
      (ItemMutator.create ⟨{ payload with content := some content }⟩ .Internal).getResult now =
        .ok r) ∧
    plainNote.getDomainData SNItem.DefaultAppDomain = none ∧
    componentDataNote.getDomainData SNItem.DefaultAppDomain = none :=
  ⟨fun _ _ => SNItem.getAppDomainValue_eq_error,
    fun _ => ⟨SNItem.getAppDomainValue_eq_error, SNItem.getAppDomainValue_eq_error,
      SNItem.getAppDomainValue_eq_error, SNItem.user_modified_at_eq_error⟩,
    fun _ _ _ _ _ => notePassesFilter_eq_error _ _ _ _, getResult_internal_ok, rfl, rfl⟩

end Snjs.Models
