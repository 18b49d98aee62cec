import Mathlib.Data.List.Infix
import Mathlib.Data.String.Basic
import Snjs.Models.NoteFilter

/-!
# The query matchers of `noteMatchesQuery`

`noteMatchesQuery` (migration_service.ts :711–736) reads the lower-cased query three ways in
turn: the first run between quotes (`stringBetweenQuotes`, the regular expression `/"(.*?)"/`),
a uuid anywhere in it (`stringIsUuid`, `/\b[0-9a-f]{8}\b-…-\b[0-9a-f]{12}\b/`), and otherwise
its words. Each matcher of the model is given here the language it accepts, for every input:

- `stringBetweenQuotes_eq_some_iff`: the matcher returns the run opened at the *first*
  position of the text where a quote is followed, on the same line, by another quote.
- `stringIsUuid_iff`: the matcher holds exactly when the text contains `8-4-4-4-12` lower-case
  hex digits joined by `-`, with no word character right before or after them.
- `quoted_query_matches_substring`: a query whose lower-cased form's first quote opens a
  non-empty run matches a note exactly when its lower-cased title or text contains the run.
- `uuid_query_matches_only_uuid`: a query whose lower-cased form has no quote and contains a
  uuid is compared with the note's uuid as a whole, so `meeting 0f…` matches no note, whatever
  its title and text.
- `plain_query_matches_words`: any other query matches a note exactly when every run of its
  lower-cased form between spaces stands in the lower-cased title, or every one stands in the
  lower-cased text. `String.splitOn " "` is first moved to `List.splitOnP` (`splitOn_space`).

The three are stated of the lower-cased query and hold for every case map standing for
JavaScript's `toLowerCase`. They do not carry over to the query as typed: the Unicode mapping
can turn a character that is not a word character into one (the Kelvin sign `K` gives `k`), and
`\b` and `\w` read only ASCII word characters. The examples use `asciiToLowerCase`, which
agrees with `toLowerCase` on their ASCII text.
-/

namespace Snjs.Models

/-- JavaScript's `toLowerCase` on ASCII text: each of `A`–`Z` to its lower case, every other
character kept. -/
def asciiToLowerCase (s : String) : String := ⟨s.data.map Char.toLower⟩

/-! ## `stringBetweenQuotes` -/

/-- What `.` matches inside `/"(.*?)"/` before the closing quote: neither a quote, which
closes the lazy run first, nor a line terminator. -/
def Quotable (c : Char) : Prop := c ≠ '"' ∧ isLineTerminator c = false

instance : DecidablePred Quotable := fun c =>
  inferInstanceAs (Decidable (c ≠ '"' ∧ isLineTerminator c = false))

/-- `cs` opens, at its head, the quoted run `s`: a quote, `s`, then the closing quote. -/
def QuotedAt (cs s : List Char) : Prop :=
  ∃ rest, cs = '"' :: (s ++ '"' :: rest) ∧ ∀ c ∈ s, Quotable c

/-- A quoted run opens at the head of `cs`. -/
def Opens (cs : List Char) : Prop := ∃ s, QuotedAt cs s

/-- `k` is the first position of `text` at which `P` holds. -/
def FirstAt (P : List Char → Prop) (text : List Char) (k : Nat) : Prop :=
  P (text.drop k) ∧ ∀ j < k, ¬ P (text.drop j)

/-- The first position of `c :: cs` at which `P` holds is its head, or one past the first
position of `cs`. -/
theorem exists_firstAt_cons {P Q : List Char → Prop} {c : Char} {cs : List Char} :
    (∃ k, FirstAt P (c :: cs) k ∧ Q ((c :: cs).drop k)) ↔
      (P (c :: cs) ∧ Q (c :: cs)) ∨ (¬ P (c :: cs) ∧ ∃ k, FirstAt P cs k ∧ Q (cs.drop k)) := by
  constructor
  · rintro ⟨_ | k, ⟨hk, hj⟩, hq⟩
    · exact .inl ⟨hk, hq⟩
    · exact .inr ⟨hj 0 k.succ_pos, k, ⟨hk, fun j hj' => hj (j + 1) (by omega)⟩, hq⟩
  · rintro (⟨hp, hq⟩ | ⟨h0, k, ⟨hk, hj⟩, hq⟩)
    · exact ⟨0, ⟨hp, nofun⟩, hq⟩
    · refine ⟨k + 1, ⟨hk, fun j hj' => ?_⟩, hq⟩
      cases j with
      | zero => exact h0
      | succ j => exact hj j (by omega)

/-- A quote-free run on one line, then a quote, is what `closingQuote` returns. -/
theorem closingQuote_quoted {s : List Char} (rest : List Char) (hs : ∀ c ∈ s, Quotable c) :
    closingQuote (s ++ '"' :: rest) = some s := by
  induction s with
  | nil => simp [closingQuote]
  | cons d s ih =>
    have hd := hs d (List.mem_cons_self _ _)
    rw [List.cons_append, closingQuote, if_neg hd.1, if_neg (by simp [hd.2]),
      ih fun c hc => hs c (List.mem_cons_of_mem _ hc)]
    rfl

theorem closingQuote_sound {cs s : List Char} (h : closingQuote cs = some s) :
    ∃ rest, cs = s ++ '"' :: rest ∧ ∀ c ∈ s, Quotable c := by
  induction cs generalizing s with
  | nil => cases h
  | cons c cs ih =>
    unfold closingQuote at h
    split_ifs at h with hq hl
    · cases h; exact ⟨cs, by rw [hq]; rfl, nofun⟩
    · obtain ⟨s', hs', rfl⟩ := Option.map_eq_some'.1 h
      obtain ⟨rest, rfl, hq'⟩ := ih hs'
      refine ⟨rest, rfl, ?_⟩
      rintro d (_ | ⟨_, hd⟩)
      · exact ⟨hq, by simpa using hl⟩
      · exact hq' d hd

theorem quotedAt_cons {c : Char} {cs s : List Char} :
    QuotedAt (c :: cs) s ↔ c = '"' ∧ closingQuote cs = some s := by
  constructor
  · rintro ⟨rest, h, hs⟩
    obtain ⟨rfl, rfl⟩ := List.cons.inj h
    exact ⟨rfl, closingQuote_quoted rest hs⟩
  · rintro ⟨rfl, h⟩
    obtain ⟨rest, rfl, hs⟩ := closingQuote_sound h
    exact ⟨rest, rfl, hs⟩

theorem opens_cons {c : Char} {cs : List Char} :
    Opens (c :: cs) ↔ c = '"' ∧ (closingQuote cs).isSome := by
  simp only [Opens, quotedAt_cons, exists_and_left, Option.isSome_iff_exists]

/-- **The first quoted run.** `stringBetweenQuotes` returns `s` exactly when `s` is the run
opened at the first position of `text` where a quoted run opens: the lazy `.*?` stops at the
first quote after the opening one, and the match starts as far left as it can. -/
theorem stringBetweenQuotes_eq_some_iff (text s : List Char) :
    stringBetweenQuotes text = some s ↔ ∃ k, FirstAt Opens text k ∧ QuotedAt (text.drop k) s := by
  induction text with
  | nil => simp [stringBetweenQuotes, QuotedAt]
  | cons c cs ih =>
    rw [exists_firstAt_cons (Q := (QuotedAt · s)), ← ih, opens_cons, quotedAt_cons]
    by_cases hq : c = '"'
    · cases hc : closingQuote cs <;> simp [stringBetweenQuotes, hq, hc]
    · simp [stringBetweenQuotes, hq]

/-! ## `stringIsUuid` -/

/-- `[0-9a-f]{n}`. -/
def HexRun (n : Nat) (h : List Char) : Prop := h.length = n ∧ ∀ c ∈ h, isHexDigit c = true

instance (n : Nat) (h : List Char) : Decidable (HexRun n h) :=
  inferInstanceAs (Decidable (h.length = n ∧ ∀ c ∈ h, isHexDigit c = true))

/-- What `[0-9a-f]{8}-[0-9a-f]{4}-[0-9a-f]{4}-[0-9a-f]{4}-[0-9a-f]{12}` matches. The `\b`s
inside the pattern hold at each `-`, which stands between two hex digits. -/
def IsUuid (u : List Char) : Prop :=
  ∃ a b c d e, u = a ++ '-' :: (b ++ '-' :: (c ++ '-' :: (d ++ '-' :: e))) ∧
    HexRun 8 a ∧ HexRun 4 b ∧ HexRun 4 c ∧ HexRun 4 d ∧ HexRun 12 e

/-- A `\b` after a word character: no word character follows. -/
def WordEnd (rest : List Char) : Prop := ∀ c ∈ rest.head?, isWordChar c = false

/-- A `\b` before a word character that follows `pre`, at the start of a text when `b`. -/
def Boundary (b : Bool) (pre : List Char) : Prop :=
  (pre = [] → b = true) ∧ ∀ c ∈ pre.getLast?, isWordChar c = false

theorem hexRun_append {n : Nat} {a : List Char} (h : HexRun n a) (rest : List Char) :
    hexRun n (a ++ rest) = some rest := by
  induction a generalizing n with
  | nil => obtain ⟨rfl, -⟩ := h; rfl
  | cons c a ih =>
    obtain ⟨rfl, hc⟩ := h
    simp only [List.cons_append, hexRun, hc c (List.mem_cons_self _ _), ite_true]
    exact ih ⟨rfl, fun x hx => hc x (List.mem_cons_of_mem _ hx)⟩

theorem hexRun_sound {n : Nat} {cs rest : List Char} (h : hexRun n cs = some rest) :
    ∃ a, cs = a ++ rest ∧ HexRun n a := by
  induction n generalizing cs with
  | zero => cases h; exact ⟨[], rfl, rfl, nofun⟩
  | succ n ih =>
    match cs, h with
    | c :: cs, h =>
      simp only [hexRun] at h
      split_ifs at h with hc
      obtain ⟨a, rfl, hl, ha⟩ := ih h
      refine ⟨c :: a, rfl, by simp [hl], ?_⟩
      rintro x (_ | ⟨_, hx⟩)
      exacts [hc, ha x hx]

@[simp] theorem dash_cons (rest : List Char) : dash ('-' :: rest) = some rest := rfl

theorem dash_sound {cs rest : List Char} (h : dash cs = some rest) : cs = '-' :: rest := by
  unfold dash at h; split at h <;> cases h; rfl

/-- What the pattern of `stringIsUuid` reads before its closing `\b`. -/
theorem uuidPattern_eq_some_iff {cs rest : List Char} :
    (hexRun 8 cs >>= dash >>= hexRun 4 >>= dash >>= hexRun 4 >>= dash >>= hexRun 4 >>= dash >>=
      hexRun 12) = some rest ↔ ∃ u, cs = u ++ rest ∧ IsUuid u := by
  constructor
  · intro h
    simp only [Option.bind_eq_bind, Option.bind_eq_some] at h
    obtain ⟨r₁, ⟨r₂, ⟨r₃, ⟨r₄, ⟨r₅, ⟨r₆, ⟨r₇, ⟨r₈, h₈, h₇⟩, h₆⟩, h₅⟩, h₄⟩, h₃⟩, h₂⟩, h₁⟩, h₀⟩ := h
    obtain ⟨a, rfl, ha⟩ := hexRun_sound h₈
    obtain ⟨e, rfl, he⟩ := hexRun_sound h₀
    obtain ⟨d, rfl, hd⟩ := hexRun_sound h₂
    obtain ⟨c, rfl, hc⟩ := hexRun_sound h₄
    obtain ⟨b, rfl, hb⟩ := hexRun_sound h₆
    obtain rfl := dash_sound h₇; obtain rfl := dash_sound h₅
    obtain rfl := dash_sound h₃; obtain rfl := dash_sound h₁
    exact ⟨_, by simp, a, b, c, d, e, rfl, ha, hb, hc, hd, he⟩
  · rintro ⟨u, rfl, a, b, c, d, e, rfl, ha, hb, hc, hd, he⟩
    simp only [List.append_assoc, List.cons_append, hexRun_append ha, hexRun_append hb,
      hexRun_append hc, hexRun_append hd, hexRun_append he, Option.bind_eq_bind, dash_cons,
      Option.some_bind]

theorem uuidAt_iff (cs : List Char) :
    uuidAt cs = true ↔ ∃ u rest, cs = u ++ rest ∧ IsUuid u ∧ WordEnd rest := by
  constructor
  · unfold uuidAt
    split
    next hp =>
      obtain ⟨u, rfl, hu⟩ := uuidPattern_eq_some_iff.1 hp
      exact fun _ => ⟨u, [], rfl, hu, nofun⟩
    next c r hp =>
      obtain ⟨u, rfl, hu⟩ := uuidPattern_eq_some_iff.1 hp
      exact fun hc => ⟨u, c :: r, rfl, hu, by simpa [WordEnd] using hc⟩
    next => nofun
  · rintro ⟨u, rest, rfl, hu, hend⟩
    rw [uuidAt, uuidPattern_eq_some_iff.2 ⟨u, rfl, hu⟩]
    cases rest with
    | nil => rfl
    | cons c r => simpa [WordEnd] using hend

theorem boundary_cons (b : Bool) (c : Char) (pre : List Char) :
    Boundary b (c :: pre) ↔ Boundary (!isWordChar c) pre := by
  cases pre <;> simp [Boundary]

theorem stringIsUuid_go_iff (b : Bool) (text : List Char) :
    stringIsUuid.go b text = true ↔
      ∃ pre rest, text = pre ++ rest ∧ Boundary b pre ∧ uuidAt rest = true := by
  induction text generalizing b with
  | nil =>
    have : uuidAt [] = false := rfl
    simp [stringIsUuid.go, this]
  | cons c cs ih =>
    simp only [stringIsUuid.go, Bool.or_eq_true, Bool.and_eq_true, ih, List.cons_eq_append_iff]
    constructor
    · rintro (⟨hb, hu⟩ | ⟨pre, rest, rfl, hpre, hu⟩)
      · exact ⟨[], c :: cs, .inl ⟨rfl, rfl⟩, ⟨fun _ => hb, nofun⟩, hu⟩
      · exact ⟨c :: pre, rest, .inr ⟨pre, rfl, rfl⟩, (boundary_cons ..).2 hpre, hu⟩
    · rintro ⟨pre, rest, ⟨rfl, rfl⟩ | ⟨pre', rfl, rfl⟩, hpre, hu⟩
      · exact .inl ⟨hpre.1 rfl, hu⟩
      · exact .inr ⟨pre', rest, rfl, (boundary_cons ..).1 hpre, hu⟩

theorem exists_uuid_of_stringIsUuid {text : List Char} (h : stringIsUuid text = true) :
    ∃ pre u post, text = pre ++ u ++ post ∧ IsUuid u ∧
      (∀ c ∈ pre.getLast?, isWordChar c = false) ∧ WordEnd post := by
  rw [stringIsUuid, stringIsUuid_go_iff] at h
  simp only [uuidAt_iff, Boundary] at h
  obtain ⟨pre, _, rfl, ⟨-, hpre⟩, u, post, rfl, hu, hend⟩ := h
  exact ⟨pre, u, post, (List.append_assoc _ _ _).symm, hu, hpre, hend⟩

theorem stringIsUuid_of_uuid {pre u post : List Char} (hu : IsUuid u)
    (hpre : ∀ c ∈ pre.getLast?, isWordChar c = false) (hend : WordEnd post) :
    stringIsUuid (pre ++ u ++ post) = true := by
  rw [stringIsUuid, stringIsUuid_go_iff]
  simp only [uuidAt_iff, Boundary]
  exact ⟨pre, u ++ post, List.append_assoc _ _ _, ⟨by simp, hpre⟩, u, post, rfl, hu, hend⟩

/-- **A uuid anywhere.** `stringIsUuid` holds exactly when the text contains a uuid in the
form its pattern spells, `8-4-4-4-12` hex digits, with no word character right before or right
after it. The pattern has no `^` or `$`: the uuid may stand between any other characters. -/
theorem stringIsUuid_iff (text : List Char) :
    stringIsUuid text = true ↔ ∃ pre u post, text = pre ++ u ++ post ∧ IsUuid u ∧
      (∀ c ∈ pre.getLast?, isWordChar c = false) ∧ WordEnd post :=
  ⟨exists_uuid_of_stringIsUuid, fun ⟨_, _, _, h, hu, hpre, hend⟩ =>
    h ▸ stringIsUuid_of_uuid hu hpre hend⟩

/-! ## What a query matches -/

theorem includes_go_iff (word : String) (cs : List Char) :
    includes.go word cs = true ↔ word.data <:+: cs := by
  induction cs with
  | nil => simp [includes.go]
  | cons c cs ih => simp [includes.go, ih, List.infix_cons_iff]

/-- `text.includes(word)` and `text.indexOf(word) >= 0` hold when `word` stands in `text`. -/
theorem includes_iff (text word : String) : includes text word = true ↔ word.data <:+: text.data :=
  includes_go_iff word text.data

/-- The quoted run of a text whose first quote opens it. -/
theorem stringBetweenQuotes_quoted {pre s : List Char} (rest : List Char) (hpre : '"' ∉ pre)
    (hs : ∀ c ∈ s, Quotable c) : stringBetweenQuotes (pre ++ '"' :: (s ++ '"' :: rest)) = some s := by
  induction pre with
  | nil => simp [stringBetweenQuotes, closingQuote_quoted rest hs]
  | cons c pre ih =>
    rw [List.mem_cons, not_or] at hpre
    simp [stringBetweenQuotes, Ne.symm hpre.1, ih hpre.2]

theorem stringBetweenQuotes_of_not_mem {text : List Char} (h : '"' ∉ text) :
    stringBetweenQuotes text = none := by
  induction text with
  | nil => rfl
  | cons c cs ih =>
    rw [List.mem_cons, not_or] at h
    simp [stringBetweenQuotes, Ne.symm h.1, ih h.2]

/-- **A quoted query is a substring search.** A query whose lower-cased form's first quote
opens a non-empty run `s` on its line matches a note exactly when the lower-cased title or
text contains `s`: whatever stands around the quotes is not read. -/
theorem quoted_query_matches_substring (toLowerCase : String → String) (note : SNItem)
    (query : String) (hlen : query.length ≠ 0) (pre s rest : List Char)
    (hlow : (toLowerCase query).data = pre ++ '"' :: (s ++ '"' :: rest)) (hpre : '"' ∉ pre)
    (hs : s ≠ []) (hq : ∀ c ∈ s, Quotable c) :
    noteMatchesQuery toLowerCase note query = true ↔
      s <:+: (toLowerCase (safeTitle note)).data ∨ s <:+: (toLowerCase (safeText note)).data := by
  obtain ⟨c, cs, rfl⟩ := List.exists_cons_of_ne_nil hs
  simp only [noteMatchesQuery, hlen, if_false, hlow, stringBetweenQuotes_quoted rest hpre hq,
    Bool.or_eq_true, includes_iff]

/-- A note titled `Meeting notes`. -/
def meetingNote : SNItem :=
  ⟨{ uuid := "n", content_type := "Note",
     content := some { title := some "Meeting notes", text := some "agenda" } }⟩

/-- The query `"MEET" later` finds `meetingNote` by its title: the quoted run is matched
without case, and ` later`, outside the quotes, is not read. -/
theorem quoted_meet_finds_meeting_note :
    noteMatchesQuery asciiToLowerCase meetingNote "\"MEET\" later" = true :=
  (quoted_query_matches_substring asciiToLowerCase meetingNote "\"MEET\" later" (by decide) []
    "meet".data " later".data (by decide) (by decide) (by decide) (by decide)).2 (.inl (by decide))

/-- **A query with a uuid is compared with the uuid.** A query whose lower-cased form has no
quote and contains a uuid, with no word character right before or after it, matches a note
exactly when the note's uuid is the whole lower-cased query: the title and text are not read,
so a query of a word and a uuid matches no note with a uuid of its own form. -/
theorem uuid_query_matches_only_uuid (toLowerCase : String → String) (note : SNItem)
    (query : String) (hlen : query.length ≠ 0) (pre u post : List Char)
    (hlow : (toLowerCase query).data = pre ++ u ++ post)
    (hquote : '"' ∉ (toLowerCase query).data) (hu : IsUuid u)
    (hpre : ∀ c ∈ pre.getLast?, isWordChar c = false) (hpost : WordEnd post) :
    noteMatchesQuery toLowerCase note query = (note.uuid == toLowerCase query) := by
  have huuid : stringIsUuid (toLowerCase query).data = true :=
    hlow ▸ stringIsUuid_of_uuid hu hpre hpost
  simp only [noteMatchesQuery, hlen, if_false, stringBetweenQuotes_of_not_mem hquote, huuid,
    if_true]

/-- The query `meeting 0f1e2d3c-4b5a-6978-8796-a5b4c3d2e1f0` misses `meetingNote`, whose title
holds `meeting`: the query is compared with the note's uuid. -/
theorem word_and_uuid_query_misses_title :
    noteMatchesQuery asciiToLowerCase meetingNote "meeting 0f1e2d3c-4b5a-6978-8796-a5b4c3d2e1f0" =
      false := by
  rw [uuid_query_matches_only_uuid asciiToLowerCase meetingNote
    "meeting 0f1e2d3c-4b5a-6978-8796-a5b4c3d2e1f0" (by decide) "meeting ".data
    "0f1e2d3c-4b5a-6978-8796-a5b4c3d2e1f0".data [] (by decide) (by decide)
    ⟨"0f1e2d3c".data, "4b5a".data, "6978".data, "8796".data, "a5b4c3d2e1f0".data, rfl,
      by decide, by decide, by decide, by decide, by decide⟩ (by decide) nofun]
  decide

/-! ## The words of a query -/

open String in
/-- `splitOnAux` with the separator `" "`, at a valid position of `l ++ m ++ r` just after the
current run `m`, is `List.splitOnP.go` over the characters left (after `splitAux_of_valid` of
Batteries, which does this for `String.split`). -/
theorem splitOnAux_space_of_valid (l m r : List Char) (acc : List String) :
    splitOnAux ⟨l ++ m ++ r⟩ " " ⟨utf8Len l⟩ ⟨utf8Len l + utf8Len m⟩ 0 acc =
      acc.reverse ++ (List.splitOnP.go (· = ' ') r m.reverse).map String.mk := by
  induction r generalizing l m acc with
  | nil =>
    have hm : extract ⟨l ++ m⟩ ⟨utf8Len l⟩ ⟨utf8Len l + utf8Len m⟩ = ⟨m⟩ := by
      simpa using extract_of_valid l m []
    unfold splitOnAux
    simp [List.splitOnP.go, hm, (atEnd_of_valid (l ++ m) []).2 rfl]
  | cons c r ih =>
    unfold splitOnAux
    have hend : ¬ atEnd ⟨l ++ m ++ c :: r⟩ ⟨utf8Len l + utf8Len m⟩ := by
      simpa using (atEnd_of_valid (l ++ m) (c :: r)).not
    have hget : get ⟨l ++ m ++ c :: r⟩ ⟨utf8Len l + utf8Len m⟩ = c := by
      simpa using get_of_valid (l ++ m) (c :: r)
    have hnext : next ⟨l ++ m ++ c :: r⟩ ⟨utf8Len l + utf8Len m⟩ =
        ⟨utf8Len l + utf8Len m + c.utf8Size⟩ := by
      simpa using next_of_valid (l ++ m) c r
    have hsep : " ".get 0 = ' ' ∧ " ".next 0 = ⟨1⟩ ∧ " ".atEnd ⟨1⟩ = true := ⟨rfl, rfl, rfl⟩
    have hsub : ∀ n k : Nat, (⟨n + k⟩ - ⟨k⟩ : Pos) = ⟨n⟩ := fun n k => by
      show (⟨n + k - k⟩ : Pos) = ⟨n⟩; rw [Nat.add_sub_cancel]
    simp only [hend, hget, hsep, if_false, Bool.false_eq_true]
    by_cases hc : c = ' '
    · -- a space closes the run `m`
      subst hc
      have hm : extract ⟨l ++ m ++ ' ' :: r⟩ ⟨utf8Len l⟩ ⟨utf8Len l + utf8Len m⟩ = ⟨m⟩ :=
        extract_of_valid l m (' ' :: r)
      simp only [beq_self_eq_true, if_true, hnext, show ' '.utf8Size = 1 from rfl, hsub, hm]
      simpa [List.splitOnP.go, Nat.add_assoc] using ih (l ++ m ++ [' ']) [] (⟨m⟩ :: acc)
    · -- any other character extends it
      simp only [beq_iff_eq, hc, if_false,
        show (⟨utf8Len l + utf8Len m⟩ : Pos) - 0 = ⟨utf8Len l + utf8Len m⟩ from hsub _ 0, hnext]
      simpa [List.splitOnP.go, hc, Nat.add_assoc] using ih l (m ++ [c]) acc

/-- `text.split(" ")`: the runs of the text between spaces, empty ones included. -/
theorem splitOn_space (s : String) : s.splitOn " " = (s.data.splitOnP (· = ' ')).map String.mk := by
  simpa [String.splitOn, List.splitOnP] using splitOnAux_space_of_valid [] [] s.data []

/-- **A plain query is a search for all its words.** A query whose lower-cased form has no
quote and no uuid matches a note exactly when every run of the lower-cased query between spaces
stands in the lower-cased title, or every one stands in the lower-cased text: the words are
looked up one by one, in any order and possibly overlapping, and an empty run (two spaces in a
row, or a space at an end) stands in every text. -/
theorem plain_query_matches_words (toLowerCase : String → String) (note : SNItem)
    (query : String) (hlen : query.length ≠ 0) (hquote : '"' ∉ (toLowerCase query).data)
    (huuid : ¬ ∃ pre u post, (toLowerCase query).data = pre ++ u ++ post ∧ IsUuid u ∧
      (∀ c ∈ pre.getLast?, isWordChar c = false) ∧ WordEnd post) :
    noteMatchesQuery toLowerCase note query = true ↔
      (∀ w ∈ (toLowerCase query).data.splitOnP (· = ' '),
        w <:+: (toLowerCase (safeTitle note)).data) ∨
        ∀ w ∈ (toLowerCase query).data.splitOnP (· = ' '),
          w <:+: (toLowerCase (safeText note)).data := by
  have hno : stringIsUuid (toLowerCase query).data = false :=
    Bool.eq_false_iff.2 fun h => huuid (exists_uuid_of_stringIsUuid h)
  simp only [noteMatchesQuery, hlen, if_false, stringBetweenQuotes_of_not_mem hquote, hno,
    splitOn_space, Bool.or_eq_true, List.all_eq_true, List.mem_map, forall_exists_index, and_imp,
    forall_apply_eq_imp_iff₂, includes_iff, Bool.false_eq_true]

/-- The query `notes MEETING` finds `meetingNote`, titled `Meeting notes`: its words are looked
up apart, whatever their order and case. -/
theorem reordered_words_find_meeting_note :
    noteMatchesQuery asciiToLowerCase meetingNote "notes MEETING" = true :=
  (plain_query_matches_words asciiToLowerCase meetingNote "notes MEETING" (by decide) (by decide)
    (fun ⟨_, _, _, h, hu, hpre, hend⟩ =>
      absurd (h ▸ stringIsUuid_of_uuid hu hpre hend) (by decide))).2 (.inl (by decide))

end Snjs.Models
