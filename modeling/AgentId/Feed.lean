import AgentId.Revocation

/-!
# The revocation feed (`feed.py`)

A `RevocationFeed` is an append-only log of verified records, numbered from 1.
`applyFeedDelta` checks a delivered delta for gaps, admits its records one by one, and marks the
registry synced at the end; a record that fails stops it with the records before it admitted.

* **`Reached.entries_eq`** — after any appends, entry `n` carries record `n`.
* **`checkDelta_ok_iff`** — the deltas the sequence checks accept.
* **`enterAll_holds`** — what the registry holds after the second loop, however it ends.
-/

namespace AgentFeed

open AgentPy AgentJson AgentSigning AgentSerde AgentDelegation AgentRevocation

/-! ## Entries -/

inductive EntryKind where
  | revocation
  | keyRevocation
  deriving DecidableEq

/-- `ENTRY_KIND_REVOCATION`, `ENTRY_KIND_KEY_REVOCATION` -/
def EntryKind.wire : EntryKind → PyStr
  | .revocation => py "revocation"
  | .keyRevocation => py "key-revocation"

/-- `kind in _ENTRY_KINDS` -/
def EntryKind.ofWire (kind : PyStr) : Py EntryKind :=
  if kind = EntryKind.revocation.wire then .ok .revocation
  else if kind = EntryKind.keyRevocation.wire then .ok .keyRevocation
  else raise .valueError ["unknown feed entry kind: ", .repr kind]

/-- One record, in wire form, at one feed position. -/
structure FeedEntry where
  seq : Int
  kind : EntryKind
  record : Members
  seq_pos : 0 < seq

/-- The check of `seq` in `FeedEntry.__post_init__`. -/
def positiveSeq : Json → Py { seq : Int // 0 < seq }
  | .int n =>
      if h : 0 < n then .ok ⟨n, h⟩
      else raise .valueError ["seq must be a positive integer, got ", .int n]
  | value => raise .valueError ["seq must be a positive integer, got ", typeName value]

/-- What a delivered delta may hold: an entry, or its wire form. -/
inductive EntryArg where
  | entry (e : FeedEntry)
  | wire (data : Json)

def FeedEntry.modelValidate : EntryArg → Py FeedEntry
  | .entry e => .ok e
  | .wire data => do
      let members ← requireMapping (py "entry") data
      let seq ← getField members (py "seq")
      let kind ← getField members (py "kind")
      let record ← getField members (py "record")
      let seq ← positiveSeq seq
      let kind ← requireStr (py "kind") kind
      let kind ← EntryKind.ofWire kind
      let record ← requireMapping (py "record") record
      .ok ⟨seq.val, kind, record, seq.property⟩

def FeedEntry.modelDump (e : FeedEntry) : Json :=
  .obj [(py "seq", .int e.seq), (py "kind", .str e.kind.wire), (py "record", .obj e.record)]

/-- `FeedEntry.revive`: the carried record, not yet verified. -/
def FeedEntry.revive (H : Host) (e : FeedEntry) : Py Record :=
  match e.kind with
  | .revocation => do
      let r ← Revocation.modelValidate H e.record
      .ok (.revocation r)
  | .keyRevocation => do
      let k ← KeyRevocation.modelValidate H e.record
      .ok (.keyRevocation k)

/-! ## The producer's log -/

structure RevocationFeed where
  entries : List FeedEntry := []
  seq : ℕ := 0

theorem entrySeq_pos (n : ℕ) : (0 : Int) < n + 1 := by omega

/-- The entry `append` makes of a record: position `n`, kind and wire form. -/
def entryOf (n : ℕ) : Record → FeedEntry
  | .revocation r => ⟨n + 1, .revocation, r.modelDump, entrySeq_pos n⟩
  | .keyRevocation k => ⟨n + 1, .keyRevocation, k.modelDump, entrySeq_pos n⟩

def RevocationFeed.append (H : Host) (now : Datetime) (feed : RevocationFeed) (record : Record) :
    Py (FeedEntry × RevocationFeed) := do
  record.verify H now
  let entry := entryOf feed.seq record
  .ok (entry, ⟨feed.entries ++ [entry], feed.seq + 1⟩)

def RevocationFeed.entriesSince (feed : RevocationFeed) (cursor : Int) : List FeedEntry × Int :=
  (feed.entries.filter (cursor < ·.seq), feed.seq)

def RevocationFeed.cursor (feed : RevocationFeed) : Int := feed.seq

/-! ## The consumer -/

/-- The first loop of `apply_feed_delta`: the seq of the last entry, `since` when there is none. -/
def checkContiguous (since : Int) : Int → List FeedEntry → Py Int
  | previous, [] => .ok previous
  | previous, e :: entries => do
      raiseIf (e.seq ≤ since) .valueError
        ["feed delta contains entry seq ", .int e.seq, " not newer than since=", .int since]
      -- the first entry must follow the cursor, each next one its predecessor
      raiseIf (e.seq ≠ previous + 1) .valueError
        ["feed delta is non-contiguous: expected seq ", .int (previous + 1), ", got ", .int e.seq,
          " (a record was dropped or reordered)"]
      checkContiguous since e.seq entries

/-- Every check made before the registry is touched. -/
def checkDelta (entries : List FeedEntry) (cursor since : Int) : Py Unit := do
  let previous ← checkContiguous since since entries
  -- an empty delivery is never compared with the cursor
  raiseIf (entries ≠ [] ∧ previous ≠ cursor) .valueError
    ["feed delta ends at seq ", .int previous, " but the cursor to persist is ", .int cursor,
      " — the delta tail was truncated"]

def validateDelta (entries : List EntryArg) (cursor since : Int) : Py (List FeedEntry) := do
  let revived ← entries.mapM FeedEntry.modelValidate
  checkDelta revived cursor since
  .ok revived

/-- The second loop: revive and enter, stopping at the first record that fails. -/
def enterAll (H : Host) (now : Datetime) :
    RevocationRegistry → List FeedEntry → Py Unit × RevocationRegistry
  | reg, [] => (.ok (), reg)
  | reg, e :: entries =>
      match e.revive H with
      | .error err => (.error err, reg)
      | .ok record =>
          match reg.enter H now record with
          -- what earlier turns entered stays
          | (.error err, reg) => (.error err, reg)
          | (.ok _, reg) => enterAll H now reg entries

def applyFeedDelta (H : Host) (now : Datetime) (reg : RevocationRegistry) (entries : List EntryArg)
    (cursor : Int) (syncedAt : Option Datetime) (since : Int) : Py Int × RevocationRegistry :=
  match validateDelta entries cursor since with
  | .error err => (.error err, reg)
  | .ok revived =>
      match enterAll H now reg revived with
      | (.error err, reg) => (.error err, reg)
      | (.ok _, reg) => (.ok cursor, reg.markSynced now syncedAt)

def syncRegistry (H : Host) (now : Datetime) (reg : RevocationRegistry) (feed : RevocationFeed)
    (since : Int) (syncedAt : Option Datetime) : Py Int × RevocationRegistry :=
  applyFeedDelta H now reg ((feed.entriesSince since).1.map .entry) (feed.entriesSince since).2
    syncedAt since

/-! ## Consecutive numbers -/

/-- The `n` integers after `a`. -/
def upFrom (a : Int) (n : ℕ) : List Int := (List.range n).map fun i : ℕ => a + 1 + i

theorem upFrom_succ (a : Int) (n : ℕ) : upFrom a (n + 1) = (a + 1) :: upFrom (a + 1) n := by
  simp only [upFrom]
  rw [List.range_succ_eq_map, List.map_cons, List.map_map]
  refine congrArg₂ List.cons (by simp) (List.map_congr_left fun i _ => ?_)
  show a + 1 + ((i + 1 : ℕ) : Int) = a + 1 + 1 + i
  push_cast
  ring

theorem upFrom_add (a : Int) (m n : ℕ) : upFrom a (m + n) = upFrom a m ++ upFrom (a + m) n := by
  simp only [upFrom]
  rw [List.range_add, List.map_append, List.map_map]
  refine congrArg _ (List.map_congr_left fun i _ => ?_)
  show a + 1 + ((m + i : ℕ) : Int) = a + m + 1 + i
  push_cast
  ring

theorem mem_upFrom {a x : Int} {n : ℕ} : x ∈ upFrom a n ↔ a < x ∧ x ≤ a + n := by
  simp only [upFrom]
  rw [List.mem_map]
  constructor
  · rintro ⟨i, hi, rfl⟩
    have := List.mem_range.mp hi
    omega
  · rintro ⟨h1, h2⟩
    exact ⟨(x - a - 1).toNat, List.mem_range.mpr (by omega), by omega⟩

/-- Of the numbers 1 to `n`, those above `since`. -/
theorem filter_upFrom {since : Int} {n : ℕ} (h0 : 0 ≤ since) (hn : since ≤ n) :
    (upFrom 0 n).filter (since < ·) = upFrom since (n - since.toNat) := by
  obtain ⟨s, rfl⟩ := Int.eq_ofNat_of_zero_le h0
  have hsplit : n = s + (n - s) := by omega
  rw [hsplit, upFrom_add, List.filter_append]
  have hlow : (upFrom 0 s).filter ((s : Int) < ·) = [] := by
    rw [List.filter_eq_nil_iff]
    intro x hx
    have := (mem_upFrom.mp hx).2
    simp only [decide_eq_true_eq]
    omega
  have hhigh : (upFrom (0 + s) (n - s)).filter ((s : Int) < ·) = upFrom (0 + s) (n - s) := by
    rw [List.filter_eq_self]
    intro x hx
    have := (mem_upFrom.mp hx).1
    simp only [decide_eq_true_eq]
    omega
  rw [hlow, hhigh, List.nil_append, zero_add]
  congr 1
  show n - s = s + (n - s) - s
  omega

/-! ## The log after any appends -/

/-- The feeds appends can reach, with the records they hold. -/
inductive Reached (H : Host) : RevocationFeed → List Record → Prop where
  | empty : Reached H {} []
  | append {feed feed' : RevocationFeed} {records : List Record} {record : Record}
      {entry : FeedEntry} {now : Datetime} : Reached H feed records →
      feed.append H now record = .ok (entry, feed') → Reached H feed' (records ++ [record])

variable {H : Host} {now : Datetime} {feed : RevocationFeed} {records : List Record}

theorem append_ok_iff {record : Record} {entry : FeedEntry} {feed' : RevocationFeed} :
    feed.append H now record = .ok (entry, feed') ↔
      record.verify H now = .ok () ∧ entry = entryOf feed.seq record ∧
        feed' = ⟨feed.entries ++ [entry], feed.seq + 1⟩ := by
  rw [RevocationFeed.append, seq_ok_iff]
  refine and_congr_right fun _ => ?_
  rw [Except.ok.injEq, Prod.mk.injEq]
  constructor
  · rintro ⟨rfl, rfl⟩
    exact ⟨rfl, rfl⟩
  · rintro ⟨rfl, rfl⟩
    exact ⟨rfl, rfl⟩

/-- **THE LOG**: position `n` carries record `n`, and the counter counts the records. -/
theorem Reached.entries_eq (h : Reached H feed records) :
    feed.entries = records.mapIdx entryOf ∧ feed.seq = records.length := by
  induction h with
  | empty => exact ⟨rfl, rfl⟩
  | append _ happend ih =>
      obtain ⟨-, rfl, rfl⟩ := append_ok_iff.mp happend
      rw [List.mapIdx_concat, ← ih.1, ← ih.2, List.length_append, ← ih.2]
      exact ⟨rfl, rfl⟩

@[simp] theorem entryOf_seq (n : ℕ) (record : Record) : (entryOf n record).seq = n + 1 := by
  cases record <;> rfl

theorem Reached.map_seq (h : Reached H feed records) :
    feed.entries.map FeedEntry.seq = upFrom 0 feed.seq := by
  rw [h.entries_eq.1, h.entries_eq.2, upFrom]
  refine List.ext_getElem (by simp) fun i h1 h2 => ?_
  simp
  omega

/-- The true delta is numbered consecutively from `since`. -/
theorem Reached.map_seq_entriesSince (h : Reached H feed records) {since : Int} (h0 : 0 ≤ since)
    (hle : since ≤ feed.cursor) :
    (feed.entriesSince since).1.map FeedEntry.seq = upFrom since (feed.seq - since.toNat) := by
  rw [← filter_upFrom h0 hle, ← h.map_seq, List.filter_map]
  rfl

/-- An entry of the log is the one at its own position. -/
theorem Reached.getElem?_seq (h : Reached H feed records) {e : FeedEntry} (he : e ∈ feed.entries) :
    feed.entries[(e.seq - 1).toNat]? = some e := by
  obtain ⟨i, hi, rfl⟩ := List.getElem_of_mem he
  have hseq : feed.entries[i].seq = i + 1 := by
    simp only [h.entries_eq.1, List.getElem_mapIdx, entryOf_seq]
  rw [hseq, show ((i : Int) + 1 - 1).toNat = i by omega]
  exact List.getElem?_eq_getElem hi

/-- Entries of the log are determined by their positions. -/
theorem Reached.eq_of_map_seq (h : Reached H feed records) {es es' : List FeedEntry}
    (hes : ∀ e ∈ es, e ∈ feed.entries) (hes' : ∀ e ∈ es', e ∈ feed.entries)
    (hmap : es.map FeedEntry.seq = es'.map FeedEntry.seq) : es = es' := by
  have hback : ∀ l : List FeedEntry, (∀ e ∈ l, e ∈ feed.entries) →
      (l.map FeedEntry.seq).filterMap (fun q => feed.entries[(q - 1).toNat]?) = l := by
    intro l
    induction l with
    | nil => exact fun _ => rfl
    | cons e l ih =>
        intro hl
        rw [List.map_cons, List.filterMap_cons, h.getElem?_seq (hl e List.mem_cons_self),
          ih fun x hx => hl x (List.mem_cons_of_mem _ hx)]
  rw [← hback es hes, ← hback es' hes', hmap]

/-! ## The checks on a delta -/

theorem checkContiguous_ok_iff {since previous last : Int} {entries : List FeedEntry}
    (h : since ≤ previous) :
    checkContiguous since previous entries = .ok last ↔
      entries.map FeedEntry.seq = upFrom previous entries.length ∧
        last = previous + entries.length := by
  induction entries generalizing previous with
  | nil =>
      rw [checkContiguous, Except.ok.injEq]
      constructor
      · rintro rfl
        exact ⟨rfl, by simp⟩
      · rintro ⟨-, rfl⟩
        simp
  | cons e entries ih =>
      rw [checkContiguous, seq_ok_iff, seq_ok_iff, raiseIf_ok_iff, raiseIf_ok_iff, not_le, not_not,
        List.map_cons, List.length_cons, upFrom_succ, List.cons.injEq]
      constructor
      · rintro ⟨-, hseq, hrest⟩
        obtain ⟨hmap, hlast⟩ := (ih (by omega)).mp hrest
        rw [hseq] at hmap hlast
        exact ⟨⟨hseq, hmap⟩, by push_cast; omega⟩
      · rintro ⟨⟨hseq, hmap⟩, hlast⟩
        refine ⟨by omega, hseq, (ih (by omega)).mpr ⟨?_, ?_⟩⟩
        · rw [hseq]
          exact hmap
        · push_cast at hlast
          omega

/-- **THE SEQUENCE CHECKS**: consecutive from `since`, and up to the cursor unless empty. -/
theorem checkDelta_ok_iff {cursor since : Int} {entries : List FeedEntry} :
    checkDelta entries cursor since = .ok () ↔
      entries.map FeedEntry.seq = upFrom since entries.length ∧
        (entries ≠ [] → since + entries.length = cursor) := by
  rw [checkDelta, bind_ok_iff]
  simp only [checkContiguous_ok_iff le_rfl, raiseIf_ok_iff, not_and, not_not]
  constructor
  · rintro ⟨_, ⟨hmap, rfl⟩, htail⟩
    exact ⟨hmap, htail⟩
  · rintro ⟨hmap, htail⟩
    exact ⟨_, ⟨hmap, rfl⟩, htail⟩

theorem validateDelta_ok_iff {args : List EntryArg} {cursor since : Int} {entries : List FeedEntry} :
    validateDelta args cursor since = .ok entries ↔
      args.mapM FeedEntry.modelValidate = .ok entries ∧
        checkDelta entries cursor since = .ok () := by
  rw [validateDelta, bind_ok_iff]
  simp only [seq_ok_iff, Except.ok.injEq]
  constructor
  · rintro ⟨es, hes, hcheck, rfl⟩
    exact ⟨hes, hcheck⟩
  · rintro ⟨hes, hcheck⟩
    exact ⟨entries, hes, hcheck, rfl⟩

/-! ## Admission -/

/-- The second loop gets as far as `record`: every entry before it was admitted. -/
inductive Offered (H : Host) (now : Datetime) : List FeedEntry → Record → Prop where
  | head {e : FeedEntry} {entries : List FeedEntry} {record : Record} :
      e.revive H = .ok record → Offered H now (e :: entries) record
  | tail {e : FeedEntry} {entries : List FeedEntry} {record first : Record} :
      e.revive H = .ok first → first.verify H now = .ok () → Offered H now entries record →
      Offered H now (e :: entries) record

/-- One turn of the second loop: the entry stops it, or its record is admitted. -/
theorem enterAll_cons (reg : RevocationRegistry) (e : FeedEntry) (entries : List FeedEntry) :
    (∃ err, enterAll H now reg (e :: entries) = (.error err, reg) ∧
        ∀ record, e.revive H = .ok record → record.verify H now ≠ .ok ()) ∨
      ∃ record mid, e.revive H = .ok record ∧ reg.enter H now record = (.ok (), mid) ∧
        enterAll H now reg (e :: entries) = enterAll H now mid entries := by
  rw [enterAll]
  cases hrevive : e.revive H with
  | error err => exact Or.inl ⟨err, rfl, fun record h => nomatch h⟩
  | ok record =>
      rcases reg.enter_cases H now record with ⟨-, hentered⟩ | ⟨err, hverify, hrefused⟩
      · exact Or.inr ⟨record, _, rfl, hentered, by simp [hentered]⟩
      · refine Or.inl ⟨err, by simp [hrefused], fun record' h => ?_⟩
        cases h
        rw [hverify]
        exact fun h => nomatch h

/-- **THE SECOND LOOP**, finished or not: the registry it leaves holds what it held and what the
    verified records it reached recall. -/
theorem enterAll_holds {reg : RevocationRegistry} {entries : List FeedEntry} {x : Recall} :
    (enterAll H now reg entries).2.Holds x ↔
      reg.Holds x ∨ ∃ record, Offered H now entries record ∧
        record.verify H now = .ok () ∧ x = record.recall := by
  induction entries generalizing reg with
  | nil =>
      rw [enterAll]
      refine ⟨Or.inl, ?_⟩
      rintro (h | ⟨_, h, -⟩)
      · exact h
      · exact nomatch h
  | cons e entries ih =>
      rcases @enterAll_cons H now reg e entries with
        ⟨err, heq, hstop⟩ | ⟨first, mid, hrevive, henter, heq⟩
      · rw [heq]
        refine ⟨Or.inl, ?_⟩
        rintro (h | ⟨record, hoffered, hverify, -⟩)
        · exact h
        · cases hoffered with
          | head hr => exact absurd hverify (hstop record hr)
          -- an entry behind the one that fails is never offered
          | tail hr hv _ => exact absurd hv (hstop _ hr)
      · obtain ⟨hverify, hholds⟩ := RevocationRegistry.enter_ok henter
        rw [heq, ih, hholds, or_assoc]
        refine or_congr_right ?_
        constructor
        · rintro (rfl | ⟨record, hoffered, hv, rfl⟩)
          · exact ⟨first, .head hrevive, hverify, rfl⟩
          · exact ⟨record, .tail hrevive hverify hoffered, hv, rfl⟩
        · rintro ⟨record, hoffered, hv, rfl⟩
          cases hoffered with
          | head hr =>
              rw [hrevive] at hr
              cases hr
              exact Or.inl rfl
          | tail _ _ hrest => exact Or.inr ⟨record, hrest, hv, rfl⟩

/-- When the second loop finishes, it has admitted the record of every entry. -/
theorem enterAll_ok {reg reg' : RevocationRegistry} {entries : List FeedEntry}
    (h : enterAll H now reg entries = (.ok (), reg')) :
    (∀ x, reg.Holds x → reg'.Holds x) ∧
      ∀ e ∈ entries, ∃ record, e.revive H = .ok record ∧ reg'.Holds record.recall := by
  induction entries generalizing reg with
  | nil =>
      obtain ⟨-, rfl⟩ := Prod.mk.inj h
      exact ⟨fun x hx => hx, fun e he => absurd he List.not_mem_nil⟩
  | cons e entries ih =>
      rcases @enterAll_cons H now reg e entries with
        ⟨err, heq, -⟩ | ⟨first, mid, hrevive, henter, heq⟩
      · rw [heq] at h
        exact nomatch (Prod.mk.inj h).1
      · rw [heq] at h
        obtain ⟨hkept, hall⟩ := ih h
        obtain ⟨-, hholds⟩ := RevocationRegistry.enter_ok henter
        refine ⟨fun x hx => hkept x ((hholds x).mpr (Or.inl hx)), ?_⟩
        intro f hf
        rcases List.mem_cons.mp hf with rfl | hf
        · exact ⟨first, hrevive, hkept _ ((hholds _).mpr (Or.inr rfl))⟩
        · exact hall f hf

end AgentFeed
