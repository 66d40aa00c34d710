import Mathlib.Logic.Relation
import AgentId.Feed
import AgentId.WireForm

/-!
# Consumers at their own pace

One feed, any number of consumers.  A `sync_registry` call is two steps, the locked read of the
feed and the admission of what was read, and appends and other consumers' steps may fall between
them.

* **`revive_entryOf`** — what an entry revives to is the appended record, as the wire shows it.
* **`applyFeedDelta_delta`** — admitting the records between two cursors.
* **`sync_is_admission`** — in every reachable state no sync fails, and a consumer's registry is
  what admitting the records up to its cursor directly would have made it.
-/

namespace AgentFeedSchedule

open AgentPy AgentJson AgentCanonicalText AgentSigning AgentSerde AgentIsoText AgentDelegation
  AgentRevocation AgentWireForm AgentFeed

/-! ## A record through the log -/

/-- The record with its proof chain in wire form. -/
def rewire : Record → Record
  | .revocation r => .revocation r
  | .keyRevocation k => .keyRevocation (rewireRecall k)

/-- The timestamps of a record have four-digit years. -/
def RecordYears : Record → Prop
  | .revocation r => FourDigitYear r.revokedAt
  | .keyRevocation k => RecallYears k

variable {H : Host} {now now' : Datetime}

/-- **AN ENTRY REVIVES** to the record that was appended. -/
theorem revive_entryOf (R : IsoReads H) (n : ℕ) {record : Record} (h : RecordYears record) :
    (entryOf n record).revive H = .ok (rewire record) := by
  cases record with
  | revocation r => exact bind_ok_iff.mpr ⟨r, Revocation.modelValidate_modelDump R h, rfl⟩
  | keyRevocation k =>
      exact bind_ok_iff.mpr ⟨rewireRecall k, KeyRevocation.modelValidate_modelDump R h, rfl⟩

/-- A record that was carried recalls the same. -/
theorem rewire_recall (record : Record) : (rewire record).recall = record.recall := by
  cases record with
  | revocation r => rfl
  | keyRevocation k => rfl

/-- Revival changes no verdict, and neither does the clock. -/
theorem rewire_verify {record : Record} (h : record.verify H now = .ok ()) :
    (rewire record).verify H now' = .ok () := by
  cases record with
  | revocation r => exact h
  | keyRevocation k =>
      have hk : k.verify H now' = .ok () :=
        KeyRevocation.verify_ok_iff.mpr (KeyRevocation.verify_ok_iff.mp h)
      exact rewireRecall_verify.mpr hk

/-! ## What a registry should hold -/

/-- The grant a record recalls. -/
def digestOf : Record → Option PyStr
  | .revocation r => some r.delegationDigest
  | .keyRevocation _ => none

/-- The key a record recalls. -/
def keyOf : Record → Option PyStr
  | .revocation _ => none
  | .keyRevocation k => some k.address

/-- The registry's sets are exactly the digests and addresses of these records. -/
def Admitted (reg : RevocationRegistry) (records : List Record) : Prop :=
  reg.digests = (records.filterMap digestOf).toFinset ∧
    reg.revokedKeys = (records.filterMap keyOf).toFinset

theorem digestOf_eq_some_iff {record : Record} {digest : PyStr} :
    digestOf record = some digest ↔ Recall.grant digest = record.recall := by
  cases record with
  | revocation r =>
      rw [digestOf, Record.recall, Option.some.injEq, Recall.grant.injEq]
      exact eq_comm
  | keyRevocation k => exact ⟨fun h => absurd h (by simp [digestOf]), fun h => by cases h⟩

theorem keyOf_eq_some_iff {record : Record} {address : PyStr} :
    keyOf record = some address ↔ Recall.key address = record.recall := by
  cases record with
  | revocation r => exact ⟨fun h => absurd h (by simp [keyOf]), fun h => by cases h⟩
  | keyRevocation k =>
      rw [keyOf, Record.recall, Option.some.injEq, Recall.key.injEq]
      exact eq_comm

/-- A registry has admitted records when it holds their recalls, and no others. -/
theorem admitted_iff {reg : RevocationRegistry} {records : List Record} :
    Admitted reg records ↔ ∀ x, reg.Holds x ↔ ∃ record ∈ records, x = record.recall := by
  rw [Admitted, Finset.ext_iff, Finset.ext_iff]
  simp only [List.mem_toFinset, List.mem_filterMap, digestOf_eq_some_iff, keyOf_eq_some_iff]
  constructor
  · rintro ⟨hdigests, hkeys⟩ x
    cases x with
    | grant digest => exact hdigests digest
    | key address => exact hkeys address
  · intro h
    exact ⟨fun digest => h (.grant digest), fun address => h (.key address)⟩

/-! ## A delta of the log -/

/-- The entries after the first `a` of the first `b` records. -/
def delta (records : List Record) (a b : ℕ) : List FeedEntry :=
  ((records.take b).mapIdx entryOf).drop a

/-- What a delta delivers: the records between its ends, numbered. -/
theorem mem_delta {records : List Record} {a b : ℕ} {e : FeedEntry} :
    e ∈ delta records a b ↔
      ∃ i record, a ≤ i ∧ (records.take b)[i]? = some record ∧ e = entryOf i record := by
  rw [delta, List.mem_iff_getElem?]
  simp only [List.getElem?_drop, List.getElem?_mapIdx, Option.map_eq_some_iff]
  constructor
  · rintro ⟨j, record, hrecord, rfl⟩
    exact ⟨a + j, record, by omega, hrecord, rfl⟩
  · rintro ⟨i, record, hle, hrecord, rfl⟩
    refine ⟨i - a, record, ?_, ?_⟩
    · rw [Nat.add_sub_of_le hle]
      exact hrecord
    · rw [Nat.add_sub_of_le hle]

/-- As many as there are between them. -/
theorem length_delta {records : List Record} {a b : ℕ} (hb : b ≤ records.length) :
    (delta records a b).length = b - a := by
  rw [delta, List.length_drop, List.length_mapIdx, List.length_take, Nat.min_eq_left hb]

/-- A delta is numbered from its first cursor to its second. -/
theorem map_seq_delta {records : List Record} {a b : ℕ} (hab : a ≤ b) (hb : b ≤ records.length) :
    (delta records a b).map FeedEntry.seq = upFrom a (b - a) := by
  refine List.ext_getElem? fun i => ?_
  rw [delta, List.getElem?_map, List.getElem?_drop, List.getElem?_mapIdx, upFrom,
    List.getElem?_map]
  by_cases hi : a + i < b
  · rw [List.getElem?_take_of_lt hi, List.getElem?_range (by omega),
      List.getElem?_eq_getElem (by omega)]
    show some (entryOf (a + i) records[a + i]).seq = some ((a : Int) + 1 + i)
    rw [entryOf_seq]
    push_cast
    exact congrArg some (by ring)
  · rw [List.getElem?_eq_none (by rw [List.length_take]; omega),
      List.getElem?_eq_none (by rw [List.length_range]; omega)]
    rfl

/-- Appending leaves the deltas between earlier cursors as they are. -/
theorem delta_append {records : List Record} {a b : ℕ} (hb : b ≤ records.length)
    (rest : List Record) : delta (records ++ rest) a b = delta records a b := by
  rw [delta, delta, List.take_append_of_le_length hb]

/-- **WHAT `entries_since` RETURNS** at a cursor of this log: the delta up to its end. -/
theorem entriesSince_eq {feed : RevocationFeed} {records : List Record}
    (h : Reached H feed records) {a : ℕ} (ha : a ≤ records.length) :
    feed.entriesSince a = (delta records a records.length, (records.length : Int)) := by
  obtain ⟨hentries, hseq⟩ := h.entries_eq
  have hdelta : delta records a records.length = feed.entries.drop a := by
    rw [delta, List.take_length, hentries]
  refine Prod.ext ?_ (congrArg Int.ofNat hseq)
  refine h.eq_of_map_seq (fun e he => List.mem_of_mem_filter he) ?_ ?_
  · intro e he
    exact List.mem_of_mem_drop (hdelta ▸ he)
  · rw [h.map_seq_entriesSince (by omega) (by rw [RevocationFeed.cursor, hseq]; omega),
      map_seq_delta ha le_rfl, hseq]
    rfl

/-! ## Admission of a delta -/

/-- The second loop admits every record, when every record revives and verifies. -/
theorem enterAll_of_verified {reg : RevocationRegistry} {entries : List FeedEntry}
    (h : ∀ e ∈ entries, ∃ record, e.revive H = .ok record ∧ record.verify H now = .ok ()) :
    ∃ reg', enterAll H now reg entries = (.ok (), reg') ∧ ∀ x, reg'.Holds x ↔ reg.Holds x ∨
      ∃ e ∈ entries, ∃ record, e.revive H = .ok record ∧ x = record.recall := by
  induction entries generalizing reg with
  | nil => exact ⟨reg, rfl, fun x => ⟨Or.inl, fun h => h.elim id fun ⟨_, he, _⟩ =>
      absurd he List.not_mem_nil⟩⟩
  | cons e entries ih =>
      obtain ⟨record, hrevive, hverify⟩ := h e List.mem_cons_self
      rcases @enterAll_cons H now reg e entries with
        ⟨err, -, hstop⟩ | ⟨first, mid, hfirst, henter, heq⟩
      · exact absurd hverify (hstop record hrevive)
      obtain ⟨reg', hrun, hholds⟩ := @ih mid fun f hf => h f (List.mem_cons_of_mem _ hf)
      refine ⟨reg', heq.trans hrun, fun x => ?_⟩
      rw [hholds, (RevocationRegistry.enter_ok henter).2, or_assoc]
      refine or_congr_right ?_
      constructor
      · rintro (rfl | ⟨f, hf, r, hr, rfl⟩)
        · exact ⟨e, List.mem_cons_self, first, hfirst, rfl⟩
        · exact ⟨f, List.mem_cons_of_mem _ hf, r, hr, rfl⟩
      · rintro ⟨f, hf, r, hr, rfl⟩
        rcases List.mem_cons.mp hf with rfl | hf
        · rw [hfirst] at hr
          cases hr
          exact Or.inl rfl
        · exact Or.inr ⟨f, hf, r, hr, rfl⟩

/-- The records a feed holds: each verified when it was appended, and has a wire form that is
    read back. -/
def Sendable (H : Host) (records : List Record) : Prop :=
  ∀ record ∈ records, RecordYears record ∧ ∃ now, record.verify H now = .ok ()

/-- **THE RECORDS BETWEEN TWO CURSORS** are all admitted, and the second cursor is returned. -/
theorem applyFeedDelta_delta (R : IsoReads H) {records : List Record}
    (hsend : Sendable H records) {a b : ℕ} (hab : a ≤ b) (hb : b ≤ records.length)
    {reg : RevocationRegistry} (hreg : Admitted reg (records.take a)) (now : Datetime)
    (syncedAt : Option Datetime) :
    ∃ reg', applyFeedDelta H now reg ((delta records a b).map .entry) b syncedAt a = (.ok b, reg') ∧
      Admitted reg' (records.take b) := by
  have hrevive : ∀ i record, (records.take b)[i]? = some record →
      (entryOf i record).revive H = .ok (rewire record) ∧
        (rewire record).verify H now = .ok () := by
    intro i record hi
    obtain ⟨hyears, _, hverify⟩ :=
      hsend record (List.mem_of_mem_take (List.mem_of_getElem? hi))
    exact ⟨revive_entryOf R i hyears, rewire_verify hverify⟩
  obtain ⟨reg', hrun, hholds⟩ := @enterAll_of_verified H now reg (delta records a b) fun e he => by
    obtain ⟨i, record, -, hi, rfl⟩ := mem_delta.mp he
    exact ⟨rewire record, hrevive i record hi⟩
  have hvalid : validateDelta ((delta records a b).map .entry) b a = .ok (delta records a b) := by
    refine validateDelta_ok_iff.mpr ⟨?_, checkDelta_ok_iff.mpr ⟨?_, fun _ => ?_⟩⟩
    · exact mapM_map_self fun _ _ => rfl
    · rw [length_delta hb, map_seq_delta hab hb]
    · rw [length_delta hb]
      omega
  refine ⟨reg'.markSynced now syncedAt, ?_, ?_⟩
  · simp only [applyFeedDelta, hvalid, hrun]
  · have hmarked : Admitted (reg'.markSynced now syncedAt) (records.take b)
        ↔ Admitted reg' (records.take b) := Iff.rfl
    rw [hmarked, admitted_iff]
    intro x
    rw [hholds, admitted_iff.mp hreg]
    constructor
    · rintro (⟨record, hrecord, rfl⟩ | ⟨e, he, record, hr, rfl⟩)
      · exact ⟨record, List.take_subset_take_left _ hab hrecord, rfl⟩
      · obtain ⟨i, appended, -, hi, rfl⟩ := mem_delta.mp he
        rw [(hrevive i appended hi).1] at hr
        cases hr
        exact ⟨appended, List.mem_of_getElem? hi, rewire_recall appended⟩
    · rintro ⟨record, hrecord, rfl⟩
      -- a record of the log stands before the first cursor or in the delta
      obtain ⟨i, hi⟩ := List.mem_iff_getElem?.mp hrecord
      by_cases hia : i < a
      · refine Or.inl ⟨record, List.mem_iff_getElem?.mpr ⟨i, ?_⟩, rfl⟩
        rw [List.getElem?_take_of_lt hia]
        rwa [List.getElem?_take_of_lt (by omega)] at hi
      · exact Or.inr ⟨entryOf i record, mem_delta.mpr ⟨i, record, by omega, hi, rfl⟩,
          rewire record, (hrevive i record hi).1, (rewire_recall record).symm⟩

/-! ## Schedules -/

/-- A node that follows the feed: its registry, the cursor it was last given, and what a
    `sync_registry` call in progress has read. -/
structure Consumer where
  reg : RevocationRegistry := {}
  cursor : Int := 0
  fetched : Option (List FeedEntry × Int) := none

/-- The feed, what its accepted appends were, and every consumer. -/
structure World (ι : Type) where
  feed : RevocationFeed := {}
  records : List Record := []
  consumers : ι → Consumer := fun _ => {}

/-- The cursor a consumer keeps: the one a call returned, or the old one when it raised. -/
def keepCursor (old : Int) : Py Int → Int
  | .ok cursor => cursor
  | .error _ => old

variable {ι : Type} [DecidableEq ι]

/-- The world after one consumer's step. -/
def World.update (w : World ι) (i : ι) (c : Consumer) : World ι :=
  { w with consumers := Function.update w.consumers i c }

theorem World.update_update (w : World ι) (i : ι) (c c' : Consumer) :
    (w.update i c).update i c' = w.update i c' := by
  rw [World.update, World.update, World.update, Function.update_idem]

/-- One step of the system. -/
inductive Step (H : Host) : World ι → World ι → Prop where
  /-- `append` of a record it accepts. -/
  | append {w : World ι} {record : Record} {entry : FeedEntry} {feed : RevocationFeed}
      {now : Datetime} : RecordYears record → w.feed.append H now record = .ok (entry, feed) →
      Step H w { w with feed := feed, records := w.records ++ [record] }
  /-- `append` of a record it refuses. -/
  | refuse {w : World ι} {record : Record} {err : PyError} {now : Datetime} :
      w.feed.append H now record = .error err → Step H w w
  /-- The first half of `sync_registry`: `entries, cursor = feed.entries_since(since)`. -/
  | fetch {w : World ι} (i : ι) : (w.consumers i).fetched = none →
      Step H w (w.update i
        { w.consumers i with fetched := some (w.feed.entriesSince (w.consumers i).cursor) })
  /-- The second half: `apply_feed_delta(registry, entries, cursor, synced_at, since=since)`. -/
  | finish {w : World ι} (i : ι) {entries : List FeedEntry} {cursor : Int} {now : Datetime}
      {syncedAt : Option Datetime} {out : Py Int} {reg : RevocationRegistry} :
      (w.consumers i).fetched = some (entries, cursor) →
      applyFeedDelta H now (w.consumers i).reg (entries.map .entry) cursor syncedAt
        (w.consumers i).cursor = (out, reg) →
      Step H w (w.update i
        { reg := reg, cursor := keepCursor (w.consumers i).cursor out, fetched := none })

/-- The two halves, with nothing between them, are a call. -/
theorem syncRegistry_eq (now : Datetime) (reg : RevocationRegistry) (feed : RevocationFeed)
    (since : Int) (syncedAt : Option Datetime) :
    syncRegistry H now reg feed since syncedAt =
      applyFeedDelta H now reg ((feed.entriesSince since).1.map .entry) (feed.entriesSince since).2
        syncedAt since := rfl

/-- What any schedule can reach from an empty feed and empty registries. -/
def Reachable (H : Host) (w : World ι) : Prop := Relation.ReflTransGen (Step H) {} w

/-- **A WHOLE CALL** leads from one reachable world to another. -/
theorem Reachable.sync {w : World ι} (hw : Reachable H w) {i : ι}
    (hidle : (w.consumers i).fetched = none) {syncedAt : Option Datetime} {out : Py Int}
    {reg : RevocationRegistry}
    (hcall : syncRegistry H now (w.consumers i).reg w.feed (w.consumers i).cursor syncedAt
      = (out, reg)) :
    Reachable H (w.update i
      { reg := reg, cursor := keepCursor (w.consumers i).cursor out, fetched := none }) := by
  rw [syncRegistry_eq] at hcall
  have hfetch : Reachable H (w.update i { w.consumers i with
      fetched := some (w.feed.entriesSince (w.consumers i).cursor) }) := hw.tail (.fetch i hidle)
  have hself : ((w.update i { w.consumers i with
      fetched := some (w.feed.entriesSince (w.consumers i).cursor) }).consumers i) =
      { w.consumers i with fetched := some (w.feed.entriesSince (w.consumers i).cursor) } :=
    Function.update_self ..
  have hfinish := hfetch.tail (.finish i (congrArg Consumer.fetched hself)
    (show _ = (out, reg) by rw [hself]; exact hcall))
  rw [hself, World.update_update] at hfinish
  exact hfinish

/-! ## The invariant -/

/-- A consumer has admitted the records up to its cursor, and what it has read is the delta up
    to a later one. -/
structure InSync (records : List Record) (c : Consumer) (a : ℕ) : Prop where
  le_length : a ≤ records.length
  cursor : c.cursor = a
  admitted : Admitted c.reg (records.take a)
  fetched : ∀ entries cursor, c.fetched = some (entries, cursor) →
    ∃ b, a ≤ b ∧ b ≤ records.length ∧ cursor = (b : Int) ∧ entries = delta records a b

structure WorldInSync (H : Host) (w : World ι) : Prop where
  reached : Reached H w.feed w.records
  sendable : Sendable H w.records
  consumers : ∀ i, ∃ a, InSync w.records (w.consumers i) a

omit [DecidableEq ι] in
/-- At the start nothing is to be admitted. -/
theorem worldInSync_start : WorldInSync H ({} : World ι) where
  reached := .empty
  sendable record h := absurd h List.not_mem_nil
  consumers i := ⟨0, le_rfl, rfl, ⟨rfl, rfl⟩, fun entries cursor h => by cases h⟩

/-- A longer log changes nothing for a consumer. -/
theorem InSync.append {records : List Record} {c : Consumer} {a : ℕ} (h : InSync records c a)
    (rest : List Record) : InSync (records ++ rest) c a where
  le_length := by
    rw [List.length_append]
    exact Nat.le_add_right_of_le h.le_length
  cursor := h.cursor
  admitted := by
    rw [List.take_append_of_le_length h.le_length]
    exact h.admitted
  fetched entries cursor heq := by
    obtain ⟨b, hab, hb, hcursor, hentries⟩ := h.fetched entries cursor heq
    refine ⟨b, hab, ?_, hcursor, ?_⟩
    · rw [List.length_append]
      exact Nat.le_add_right_of_le hb
    · rw [delta_append hb, hentries]

/-- A step of one consumer concerns no other. -/
theorem WorldInSync.update {w : World ι} (h : WorldInSync H w) {i : ι} {c : Consumer} {a : ℕ}
    (hc : InSync w.records c a) : WorldInSync H (w.update i c) where
  reached := h.reached
  sendable := h.sendable
  consumers j := by
    show ∃ a, InSync w.records (Function.update w.consumers i c j) a
    by_cases hj : j = i
    · rw [hj, Function.update_self]
      exact ⟨a, hc⟩
    · rw [Function.update_of_ne hj]
      exact h.consumers j

/-- **ONE STEP** keeps every consumer in sync. -/
theorem WorldInSync.step (R : IsoReads H) {w w' : World ι} (h : WorldInSync H w)
    (hstep : Step H w w') : WorldInSync H w' := by
  cases hstep with
  | append hyears happend =>
      refine ⟨.append h.reached happend, ?_, fun i => ?_⟩
      · intro record hrecord
        rcases List.mem_append.mp hrecord with hrecord | hrecord
        · exact h.sendable record hrecord
        · rw [List.mem_singleton.mp hrecord]
          exact ⟨hyears, _, (append_ok_iff.mp happend).1⟩
      · obtain ⟨a, ha⟩ := h.consumers i
        exact ⟨a, ha.append _⟩
  | refuse _ => exact h
  | fetch i hidle =>
      obtain ⟨a, ha⟩ := h.consumers i
      refine h.update ⟨ha.le_length, ha.cursor, ha.admitted, fun entries cursor heq => ?_⟩
      have hread : w.feed.entriesSince (w.consumers i).cursor = (entries, cursor) :=
        Option.some.inj heq
      rw [ha.cursor, entriesSince_eq h.reached ha.le_length] at hread
      obtain ⟨hentries, hcursor⟩ := Prod.mk.inj hread
      exact ⟨_, ha.le_length, le_rfl, hcursor.symm, hentries.symm⟩
  | finish i hfetched happly =>
      obtain ⟨a, ha⟩ := h.consumers i
      obtain ⟨b, hab, hb, rfl, rfl⟩ := ha.fetched _ _ hfetched
      obtain ⟨reg', hrun, hadmitted⟩ := applyFeedDelta_delta R h.sendable hab hb ha.admitted _ _
      rw [ha.cursor, hrun] at happly
      obtain ⟨rfl, rfl⟩ := Prod.mk.inj happly
      exact h.update ⟨hb, rfl, hadmitted, fun entries cursor heq => by cases heq⟩

/-- **IN EVERY WORLD** each consumer has admitted what it has read. -/
theorem worldInSync_of_reachable (R : IsoReads H) {w : World ι} (hw : Reachable H w) :
    WorldInSync H w := by
  have hrun : Relation.ReflTransGen (Step H) {} w := hw
  induction hrun with
  | refl => exact worldInSync_start
  | tail hmid hstep ih => exact (ih hmid).step R hstep

/-- **SYNCING IS ADMISSION.**  In whatever order appends and the halves of sync calls come: the
    entries are numbered without gaps; every consumer's sets are exactly the digests and addresses
    of the records up to its cursor; and a sync call in progress will not fail, returns the cursor
    it read, and leaves the sets of the records up to that cursor. -/
theorem sync_is_admission (H : Host) (R : IsoReads H) (w : World ι) (hw : Reachable H w) :
    w.feed.entries.map FeedEntry.seq = upFrom 0 w.records.length ∧
      (∀ i, 0 ≤ (w.consumers i).cursor ∧ (w.consumers i).cursor ≤ w.records.length ∧
        Admitted (w.consumers i).reg (w.records.take (w.consumers i).cursor.toNat)) ∧
      ∀ i entries cursor, (w.consumers i).fetched = some (entries, cursor) →
        ∀ now syncedAt, ∃ reg, applyFeedDelta H now (w.consumers i).reg (entries.map .entry) cursor
            syncedAt (w.consumers i).cursor = (.ok cursor, reg) ∧
          Admitted reg (w.records.take cursor.toNat) := by
  obtain ⟨hreached, hsend, hconsumers⟩ := worldInSync_of_reachable R hw
  refine ⟨?_, fun i => ?_, fun i entries cursor hfetched now syncedAt => ?_⟩
  · rw [hreached.map_seq, hreached.entries_eq.2]
  · obtain ⟨a, ha⟩ := hconsumers i
    have hle := ha.le_length
    rw [ha.cursor, Int.toNat_natCast]
    exact ⟨by omega, by omega, ha.admitted⟩
  · obtain ⟨a, ha⟩ := hconsumers i
    obtain ⟨b, hab, hb, rfl, rfl⟩ := ha.fetched entries cursor hfetched
    rw [ha.cursor, Int.toNat_natCast]
    exact applyFeedDelta_delta R hsend hab hb ha.admitted now syncedAt

/-! ## Two records and two consumers -/

/-- A service whose holders sign anything, with a reader of timestamps. -/
def datedHost : Host := { idealHost (fun _ _ => true) with fromisoformat := readIso }

theorem datedHost_fromisoformat : datedHost.fromisoformat = readIso := rfl

theorem datedHost_isoReads : IsoReads datedHost := by
  intro t _
  rw [datedHost_fromisoformat]
  exact readIso_reads t

theorem verifyByAddress_datedHost {b : UInt8} {context : PyStr} {payload : Json}
    (hcontext : IsContext context) (hpayload : AsciiJson payload) :
    verifyByAddress datedHost (constAddress b) context payload (.str idealSignature) = .ok () := by
  rw [verifyByAddress_congr (show datedHost.nfc = (idealHost fun _ _ => true).nfc from rfl) rfl]
  exact verifyByAddress_idealHost (signingKey_constAddress b) hcontext hpayload fun _ _ => rfl

/-- A revocation made in 2026. -/
def datedRevocation : Revocation :=
  ⟨constAddress 1, py "00", moment2026, .str idealSignature⟩

/-- And a key that recalls itself then. -/
def datedRecall : KeyRevocation :=
  ⟨constAddress 2, constAddress 2, moment2026, none, .str idealSignature⟩

theorem datedRevocation_verify (now : Datetime) :
    (Record.revocation datedRevocation).verify datedHost now = .ok () :=
  Revocation.verify_ok_iff.mpr <| verifyByAddress_datedHost (by decide)
    (Revocation.asciiJson_payload (isAscii_constAddress 1) (by decide))

theorem datedRecall_verify (now : Datetime) :
    (Record.keyRevocation datedRecall).verify datedHost now = .ok () :=
  KeyRevocation.verify_ok_iff.mpr ⟨verifyByAddress_datedHost (by decide)
    (KeyRevocation.asciiJson_payload (isAscii_constAddress 2) (isAscii_constAddress 2) .null),
    Or.inl rfl⟩

def datedRecords : List Record := [.revocation datedRevocation, .keyRevocation datedRecall]

/-- The log of the two. -/
def datedFeed : RevocationFeed := ⟨datedRecords.mapIdx entryOf, 2⟩

theorem datedYears : ∀ record ∈ datedRecords, RecordYears record := by
  have hyear : FourDigitYear moment2026 := show yearThousand ≤ moment2026.ms by decide
  intro record hrecord
  rcases List.mem_pair.mp hrecord with rfl | rfl
  · exact hyear
  · exact ⟨hyear, fun chain hchain => by cases hchain⟩

/-- The worlds after each append, with whatever consumers. -/
def oneRecord (consumers : Bool → Consumer) : World Bool where
  feed := ⟨[entryOf 0 (.revocation datedRevocation)], 1⟩
  records := [.revocation datedRevocation]
  consumers := consumers

def twoRecords (consumers : Bool → Consumer) : World Bool where
  feed := datedFeed
  records := datedRecords
  consumers := consumers

/-- One consumer calls after each append and the other once, after both: they come to hold the
    same, the revocation and the recall. -/
theorem sync_is_admission_two : ∃ w : World Bool, Reachable datedHost w ∧
    ∀ i, (w.consumers i).cursor = 2 ∧ (w.consumers i).reg.digests = {py "00"} ∧
      (w.consumers i).reg.revokedKeys = {constAddress 2} := by
  have happend : Reachable datedHost (oneRecord fun _ => {}) :=
    .single (.append (datedYears _ List.mem_cons_self)
      (append_ok_iff.mpr ⟨datedRevocation_verify plainNow, rfl, rfl⟩))
  -- the first consumer is given the revocation
  obtain ⟨-, -, hfirst⟩ := sync_is_admission datedHost datedHost_isoReads _
    (happend.tail (.fetch true rfl))
  obtain ⟨reg₁, hcall₁, -⟩ := hfirst true _ 1 rfl plainNow none
  have hsync := happend.sync rfl hcall₁
  have happend₂ : Reachable datedHost
      (twoRecords (Function.update (fun _ => {}) true ⟨reg₁, 1, none⟩)) :=
    hsync.tail (.append (datedYears _ (List.mem_cons_of_mem _ List.mem_cons_self))
      (append_ok_iff.mpr ⟨datedRecall_verify plainNow, rfl, rfl⟩))
  -- then the recall
  obtain ⟨-, -, hsecond⟩ := sync_is_admission datedHost datedHost_isoReads _
    (happend₂.tail (.fetch true rfl))
  obtain ⟨reg₂, hcall₂, hholds₂⟩ := hsecond true _ 2 rfl plainNow none
  have hsync₂ := happend₂.sync rfl hcall₂
  -- and the second consumer both at once
  obtain ⟨-, -, hboth⟩ := sync_is_admission datedHost datedHost_isoReads _
    (hsync₂.tail (.fetch false rfl))
  obtain ⟨reg₃, hcall₃, hholds₃⟩ := hboth false _ 2 rfl plainNow none
  refine ⟨_, hsync₂.sync (i := false) rfl hcall₃, fun i => ?_⟩
  cases i with
  | true => exact ⟨rfl, hholds₂.1, hholds₂.2⟩
  | false => exact ⟨rfl, hholds₃.1, hholds₃.2⟩

end AgentFeedSchedule
