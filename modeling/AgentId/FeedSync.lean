import AgentId.FeedSchedule

/-!
# A lossy transport

A consumer syncs a delta that lost, repeated or reordered entries on the way.  The sequence
checks leave only the whole delta, except that an empty delivery is never compared with the
cursor: **`lossy_delta_synced_iff`** says exactly when a sync that returns has missed nothing.

A consumer whose cursor lies beyond the log gets such an empty delivery from the feed itself, and
the real cursor with it: **`future_cursor_recovers_iff`** says when it ends up with every record.
-/

namespace AgentFeedSync

open AgentPy AgentJson AgentSigning AgentSerde AgentIsoText AgentDelegation AgentRevocation AgentFeed
  AgentFeedSchedule

variable {H : Host} {now : Datetime} {feed : RevocationFeed} {records : List Record}

/-! ## The wire form of an entry -/

/-- An entry survives its wire form. -/
theorem modelValidate_modelDump (e : FeedEntry) :
    FeedEntry.modelValidate (.wire e.modelDump) = .ok e := by
  obtain ⟨seq, kind, record, hpos⟩ := e
  have hkind : EntryKind.ofWire kind.wire = .ok kind := by cases kind <;> rfl
  have hseq : positiveSeq (.int seq) = .ok ⟨seq, hpos⟩ := dif_pos hpos
  show (do
      let seq ← positiveSeq (.int seq)
      let kind ← EntryKind.ofWire kind.wire
      .ok (FeedEntry.mk seq.val kind record seq.property)) = _
  rw [hseq, hkind]
  rfl

/-- A delivered entry is an entry of the log, or its wire form. -/
def IsDelivery (arg : EntryArg) (e : FeedEntry) : Prop := arg = .entry e ∨ arg = .wire e.modelDump

theorem IsDelivery.modelValidate {arg : EntryArg} {e : FeedEntry} (h : IsDelivery arg e) :
    FeedEntry.modelValidate arg = .ok e := by
  rcases h with rfl | rfl
  · rfl
  · exact modelValidate_modelDump e

/-- Deliveries of entries of a list read back as entries of that list. -/
theorem mapM_modelValidate {sent : List EntryArg} {es : List FeedEntry}
    (h : ∀ arg ∈ sent, ∃ e ∈ es, IsDelivery arg e) :
    ∃ revived, sent.mapM FeedEntry.modelValidate = .ok revived ∧
      revived.length = sent.length ∧ ∀ e ∈ revived, e ∈ es := by
  induction sent with
  | nil => exact ⟨[], rfl, rfl, fun e he => absurd he List.not_mem_nil⟩
  | cons arg sent ih =>
      obtain ⟨e, he, hdelivery⟩ := h arg List.mem_cons_self
      obtain ⟨revived, hrevived, hlen, hmem⟩ := ih fun a ha => h a (List.mem_cons_of_mem _ ha)
      refine ⟨e :: revived, ?_, by simp [hlen], ?_⟩
      · rw [List.mapM_cons, hdelivery.modelValidate, hrevived]
        rfl
      · intro x hx
        rcases List.mem_cons.mp hx with rfl | hx
        · exact he
        · exact hmem x hx

/-- The record an entry revives recalls what the appended record recalls. -/
theorem recall_of_revive {n : ℕ} {record record' : Record}
    (h : (entryOf n record).revive H = .ok record') : record'.recall = record.recall := by
  cases record with
  | revocation r =>
      obtain ⟨r', hr, h⟩ := bind_ok_iff.mp h
      cases h
      obtain ⟨issuer, -, hr⟩ := bind_ok_iff.mp hr
      obtain ⟨digest, hdigest, hr⟩ := bind_ok_iff.mp hr
      obtain ⟨at_, -, hr⟩ := bind_ok_iff.mp hr
      obtain ⟨revokedAt, -, hr⟩ := bind_ok_iff.mp hr
      obtain ⟨issuer', -, hr⟩ := bind_ok_iff.mp hr
      obtain ⟨digest', hdigest', hr⟩ := bind_ok_iff.mp hr
      -- the wire form carries the digest as it is
      have hfield : getField r.modelDump (py "delegation_digest") =
        .ok (.str r.delegationDigest) := rfl
      rw [show (entryOf n (.revocation r)).record = r.modelDump from rfl, hfield] at hdigest
      cases hdigest
      cases hdigest'
      cases hr
      rfl
  | keyRevocation k =>
      obtain ⟨k', hk, h⟩ := bind_ok_iff.mp h
      cases h
      obtain ⟨address, haddress, hk⟩ := bind_ok_iff.mp hk
      obtain ⟨issuer, -, hk⟩ := bind_ok_iff.mp hk
      obtain ⟨chain, -, hk⟩ := bind_ok_iff.mp hk
      obtain ⟨at_, -, hk⟩ := bind_ok_iff.mp hk
      obtain ⟨revokedAt, -, hk⟩ := bind_ok_iff.mp hk
      obtain ⟨address', haddress', hk⟩ := bind_ok_iff.mp hk
      obtain ⟨issuer', -, hk⟩ := bind_ok_iff.mp hk
      have hfield : getField k.modelDump (py "address") = .ok (.str k.address) := rfl
      rw [show (entryOf n (.keyRevocation k)).record = k.modelDump from rfl, hfield] at haddress
      cases haddress
      cases haddress'
      cases hk
      rfl

/-! ## The whole delta -/

/-- The entries numbered from `since + 1` to the cursor. -/
def newer (feed : RevocationFeed) (since : Int) : List FeedEntry :=
  feed.entries.filter fun e => since + 1 ≤ e.seq ∧ e.seq ≤ feed.cursor

theorem seq_mem_upFrom (h : Reached H feed records) {e : FeedEntry} (he : e ∈ feed.entries) :
    0 < e.seq ∧ e.seq ≤ feed.cursor := by
  have hmem : e.seq ∈ upFrom 0 feed.seq := by
    rw [← h.map_seq]
    exact List.mem_map_of_mem he
  obtain ⟨h1, h2⟩ := mem_upFrom.mp hmem
  exact ⟨h1, by rw [RevocationFeed.cursor]; omega⟩

/-- `entries_since` leaves out nothing that is newer. -/
theorem entriesSince_eq_newer (h : Reached H feed records) (since : Int) :
    (feed.entriesSince since).1 = newer feed since := by
  refine List.filter_congr fun e he => ?_
  have := (seq_mem_upFrom h he).2
  exact decide_eq_decide.mpr ⟨fun hs => ⟨by omega, this⟩, fun hs => by omega⟩

/-- **ONLY THE WHOLE DELTA PASSES**: entries of the log that pass the sequence checks up to the
    cursor, and are not none, are all the newer ones in order. -/
theorem eq_newer_of_checkDelta (h : Reached H feed records) {since : Int} {es : List FeedEntry}
    (hmem : ∀ e ∈ es, e ∈ feed.entries) (hne : es ≠ [])
    (hcheck : checkDelta es feed.cursor since = .ok ()) : es = newer feed since := by
  obtain ⟨hmap, htail⟩ := checkDelta_ok_iff.mp hcheck
  have htail := htail hne
  have hpos : 0 < es.length := List.length_pos_of_ne_nil hne
  have hfirst : since + 1 ∈ es.map FeedEntry.seq := by
    rw [hmap]
    exact mem_upFrom.mpr ⟨by omega, by omega⟩
  obtain ⟨e, he, hseq⟩ := List.mem_map.mp hfirst
  have h0 : 0 ≤ since := by
    have := (seq_mem_upFrom h (hmem e he)).1
    omega
  rw [← entriesSince_eq_newer h]
  refine h.eq_of_map_seq hmem (fun e he => (List.mem_filter.mp he).1) ?_
  rw [h.map_seq_entriesSince h0 (by omega), hmap]
  congr 1
  rw [RevocationFeed.cursor] at htail
  omega

/-- Nothing is newer exactly when the consumer is at the cursor or the log is empty. -/
theorem newer_eq_nil_iff (h : Reached H feed records) {since : Int} (hsince : since ≤ feed.cursor) :
    newer feed since = [] ↔ since = feed.cursor ∨ feed.cursor = 0 := by
  have hcursor : feed.cursor = feed.seq := rfl
  constructor
  · intro hnil
    by_contra hnot
    push Not at hnot
    have hlast : feed.cursor ∈ feed.entries.map FeedEntry.seq := by
      rw [h.map_seq]
      exact mem_upFrom.mpr ⟨by omega, by omega⟩
    obtain ⟨e, he, hseq⟩ := List.mem_map.mp hlast
    have hin : e ∈ newer feed since :=
      List.mem_filter.mpr ⟨he, decide_eq_true ⟨by omega, by omega⟩⟩
    rw [hnil] at hin
    exact absurd hin List.not_mem_nil
  · intro hnone
    refine List.filter_eq_nil_iff.mpr fun e he => ?_
    obtain ⟨h1, h2⟩ := seq_mem_upFrom h he
    simp only [decide_eq_true_eq]
    omega

/-- Every record of the log after `since` is carried by a newer entry. -/
theorem mem_newer_of_mem_drop (h : Reached H feed records) {since : Int} {record : Record}
    (hrecord : record ∈ records.drop since.toNat) :
    ∃ n, entryOf n record ∈ newer feed since := by
  obtain ⟨i, hi, rfl⟩ := List.getElem_of_mem hrecord
  rw [List.length_drop] at hi
  have hentry : entryOf (since.toNat + i) records[since.toNat + i] ∈ feed.entries := by
    rw [h.entries_eq.1]
    refine List.mem_mapIdx.mpr ⟨since.toNat + i, by omega, rfl⟩
  refine ⟨since.toNat + i, List.mem_filter.mpr ⟨?_, decide_eq_true ⟨?_, ?_⟩⟩⟩
  · rw [List.getElem_drop]
    exact hentry
  · rw [entryOf_seq]
    omega
  · rw [entryOf_seq, RevocationFeed.cursor, h.entries_eq.2]
    omega

/-! ## Synced means complete -/

/-- A sync that returns has delivered every newer entry in order, and the registry holds every
    newer record. -/
def NothingMissed (H : Host) (now : Datetime) (reg : RevocationRegistry) (feed : RevocationFeed)
    (records : List Record) (since : Int) (sent : List EntryArg) (syncedAt : Option Datetime) :
    Prop :=
  ∀ cursor reg', applyFeedDelta H now reg sent feed.cursor syncedAt since = (.ok cursor, reg') →
    sent.mapM FeedEntry.modelValidate = .ok (newer feed since) ∧
      ∀ record ∈ records.drop since.toNat, reg'.Holds record.recall

/-- A sync that returns passed the checks, and its second loop finished. -/
theorem applyFeedDelta_ok {reg reg' : RevocationRegistry} {args : List EntryArg}
    {cursor cursor' since : Int} {syncedAt : Option Datetime}
    (h : applyFeedDelta H now reg args cursor syncedAt since = (.ok cursor', reg')) :
    ∃ revived mid, validateDelta args cursor since = .ok revived ∧
      enterAll H now reg revived = (.ok (), mid) ∧ reg' = mid.markSynced now syncedAt := by
  rw [applyFeedDelta] at h
  cases hvalid : validateDelta args cursor since with
  | error err =>
      rw [hvalid] at h
      cases (Prod.mk.inj h).1
  | ok revived =>
      rw [hvalid] at h
      cases henter : enterAll H now reg revived with
      | mk out mid =>
          simp only [henter] at h
          cases out with
          | error err => cases (Prod.mk.inj h).1
          | ok _ => exact ⟨revived, mid, rfl, henter, ((Prod.mk.inj h).2).symm⟩

/-- An empty delivery returns and marks the registry synced, whatever the cursor. -/
theorem applyFeedDelta_nil (reg : RevocationRegistry) (cursor since : Int)
    (syncedAt : Option Datetime) :
    applyFeedDelta H now reg [] cursor syncedAt since
      = (.ok cursor, reg.markSynced now syncedAt) := by
  have hvalid : validateDelta [] cursor since = .ok [] :=
    validateDelta_ok_iff.mpr ⟨rfl, checkDelta_ok_iff.mpr ⟨rfl, fun h => absurd rfl h⟩⟩
  rw [applyFeedDelta, hvalid]
  rfl

/-- **SYNCED MEANS COMPLETE, UNLESS NOTHING ARRIVED.**  Whatever a transport drops, repeats or
    reorders, a sync that returns has missed nothing exactly when the delivery was not empty or
    there was nothing newer to deliver. -/
theorem lossy_delta_synced_iff (H : Host) (feed : RevocationFeed) (records : List Record)
    (hreached : Reached H feed records) (since : Int) (hsince : since ≤ feed.cursor)
    (sent : List EntryArg)
    (hsent : ∀ arg ∈ sent, ∃ e ∈ (feed.entriesSince since).1, IsDelivery arg e)
    (now : Datetime) (reg : RevocationRegistry) (syncedAt : Option Datetime) :
    NothingMissed H now reg feed records since sent syncedAt ↔
      sent ≠ [] ∨ since = feed.cursor ∨ feed.cursor = 0 := by
  obtain ⟨revived, hrevived, hlen, hmem⟩ := mapM_modelValidate hsent
  have hlog : ∀ e ∈ revived, e ∈ feed.entries := fun e he => (List.mem_filter.mp (hmem e he)).1
  constructor
  · intro hall
    by_contra hnot
    push Not at hnot
    -- nothing was sent, and the checks let it pass
    obtain ⟨rfl, hsync, hempty⟩ := hnot
    have hdelta := (hall _ _ (applyFeedDelta_nil reg feed.cursor since syncedAt)).1
    have hnil : newer feed since = [] := (Except.ok.inj hdelta).symm
    rcases (newer_eq_nil_iff hreached hsince).mp hnil with h | h
    · exact hsync h
    · exact hempty h
  · intro hcond cursor reg' hok
    obtain ⟨es, mid, hvalid, henter, rfl⟩ := applyFeedDelta_ok hok
    obtain ⟨hes, hcheck⟩ := validateDelta_ok_iff.mp hvalid
    rw [hrevived] at hes
    cases hes
    -- the checks leave only the whole of what is newer
    have hwhole : revived = newer feed since := by
      by_cases hne : revived = []
      · have hsent' : sent = [] := by
          rw [hne, List.length_nil] at hlen
          exact List.length_eq_zero_iff.mp hlen.symm
        rw [hne, (newer_eq_nil_iff hreached hsince).mpr (hcond.resolve_left (absurd hsent'))]
      · exact eq_newer_of_checkDelta hreached hlog hne hcheck
    refine ⟨by rw [hrevived, hwhole], fun record hrecord => ?_⟩
    obtain ⟨n, hn⟩ := mem_newer_of_mem_drop hreached hrecord
    obtain ⟨record', hrevive, hholds⟩ := (enterAll_ok henter).2 _ (hwhole ▸ hn)
    rw [recall_of_revive hrevive] at hholds
    cases hr : record.recall with
    | grant digest => rw [hr] at hholds; exact hholds
    | key address => rw [hr] at hholds; exact hholds

/-- A third record after two. -/
def laterRevocation : Revocation :=
  ⟨constAddress 3, py "02", moment2026, .str idealSignature⟩

def longRecords : List Record := datedRecords ++ [.revocation laterRevocation]

def longFeed : RevocationFeed := ⟨longRecords.mapIdx entryOf, 3⟩

theorem laterRevocation_verify (now : Datetime) :
    (Record.revocation laterRevocation).verify datedHost now = .ok () :=
  Revocation.verify_ok_iff.mpr <| verifyByAddress_datedHost (by decide)
    (Revocation.asciiJson_payload (isAscii_constAddress 3) (by decide))

theorem reached_longFeed : Reached datedHost longFeed longRecords := by
  have hfirst : Reached datedHost ⟨[entryOf 0 (.revocation datedRevocation)], 1⟩
      [.revocation datedRevocation] :=
    .append .empty (append_ok_iff.mpr ⟨datedRevocation_verify plainNow, rfl, rfl⟩)
  have hsecond : Reached datedHost datedFeed datedRecords :=
    .append hfirst (append_ok_iff.mpr ⟨datedRecall_verify plainNow, rfl, rfl⟩)
  exact .append hsecond (append_ok_iff.mpr ⟨laterRevocation_verify plainNow, rfl, rfl⟩)

theorem sendable_longRecords : Sendable datedHost longRecords := by
  intro record hrecord
  rcases List.mem_append.mp hrecord with hrecord | hrecord
  · refine ⟨datedYears record hrecord, plainNow, ?_⟩
    rcases List.mem_pair.mp hrecord with rfl | rfl
    · exact datedRevocation_verify plainNow
    · exact datedRecall_verify plainNow
  · rw [List.mem_singleton.mp hrecord]
    exact ⟨show yearThousand ≤ moment2026.ms by decide, plainNow, laterRevocation_verify plainNow⟩

/-- What the two records after the first are delivered as, and what is left of it when the second
    record is lost and the third comes twice, once in wire form. -/
def wholeDelta : List EntryArg :=
  [.entry (entryOf 1 (.keyRevocation datedRecall)), .entry (entryOf 2 (.revocation laterRevocation))]

def lossyDelta : List EntryArg :=
  [.entry (entryOf 2 (.revocation laterRevocation)),
    .wire (entryOf 2 (.revocation laterRevocation)).modelDump]

/-- The registry of a consumer that has the first record. -/
def firstSynced : RevocationRegistry := { digests := {py "00"} }

/-- Delivered whole the records are synced, and what is left after the loss syncs nothing. -/
theorem lossy_delta_synced_iff_lossy :
    NothingMissed datedHost plainNow firstSynced longFeed longRecords 1 wholeDelta none ∧
      NothingMissed datedHost plainNow firstSynced longFeed longRecords 1 lossyDelta none ∧
      ∃ reg, applyFeedDelta datedHost plainNow firstSynced wholeDelta longFeed.cursor none 1
        = (.ok 3, reg) := by
  have hdelta : (longFeed.entriesSince 1).1 = [entryOf 1 (.keyRevocation datedRecall),
      entryOf 2 (.revocation laterRevocation)] := rfl
  have hthird : entryOf 2 (.revocation laterRevocation) ∈ (longFeed.entriesSince 1).1 := by
    rw [hdelta]
    exact List.mem_cons_of_mem _ List.mem_cons_self
  refine ⟨?_, ?_, ?_⟩
  · refine (lossy_delta_synced_iff datedHost longFeed longRecords reached_longFeed 1 (by decide)
      wholeDelta (fun arg harg => ?_) plainNow firstSynced none).mpr (Or.inl (List.cons_ne_nil _ _))
    rcases List.mem_pair.mp harg with rfl | rfl
    · exact ⟨_, hdelta ▸ List.mem_cons_self, Or.inl rfl⟩
    · exact ⟨_, hthird, Or.inl rfl⟩
  · refine (lossy_delta_synced_iff datedHost longFeed longRecords reached_longFeed 1 (by decide)
      lossyDelta (fun arg harg => ?_) plainNow firstSynced none).mpr (Or.inl (List.cons_ne_nil _ _))
    rcases List.mem_pair.mp harg with rfl | rfl
    · exact ⟨_, hthird, Or.inl rfl⟩
    · exact ⟨_, hthird, Or.inr rfl⟩
  · have hadmitted : Admitted firstSynced (longRecords.take 1) := ⟨rfl, rfl⟩
    obtain ⟨reg, hrun, -⟩ := applyFeedDelta_delta datedHost_isoReads sendable_longRecords
      (a := 1) (b := 3) (by decide) (by decide) hadmitted plainNow none
    exact ⟨reg, hrun⟩

/-- A log of one record, on a service where everyone signs. -/
def shortFeed : RevocationFeed := ⟨[entryOf 0 (.revocation (plainRevocation 1 (py "00")))], 1⟩

theorem reached_shortFeed :
    Reached (idealHost fun _ _ => true) shortFeed [.revocation (plainRevocation 1 (py "00"))] := by
  have hverify : (Record.revocation (plainRevocation 1 (py "00"))).verify
      (idealHost fun _ _ => true) plainNow = .ok () :=
    plainRevocation_verify (by decide) fun _ _ => rfl
  have happend : RevocationFeed.append (idealHost fun _ _ => true) plainNow {}
      (.revocation (plainRevocation 1 (py "00"))) = .ok (_, shortFeed) :=
    append_ok_iff.mpr ⟨hverify, rfl, rfl⟩
  exact .append .empty happend

/-- NOTHING ARRIVES: the one record of the log is lost on the way, and the sync still returns. -/
theorem nothing_delivered_synced :
    ∃ reg, applyFeedDelta (idealHost fun _ _ => true) plainNow {} [] shortFeed.cursor none 0
        = (.ok shortFeed.cursor, reg) ∧ reg.syncedAt ≠ none ∧
      ¬ NothingMissed (idealHost fun _ _ => true) plainNow {} shortFeed
        [.revocation (plainRevocation 1 (py "00"))] 0 [] none := by
  refine ⟨_, applyFeedDelta_nil {} _ 0 none, Option.some_ne_none _, fun hall => ?_⟩
  have hdelta := (hall _ _ (applyFeedDelta_nil {} _ 0 none)).1
  have hnil : newer shortFeed 0 = [] := (Except.ok.inj hdelta).symm
  rcases (newer_eq_nil_iff reached_shortFeed (by decide)).mp hnil with h | h
  · exact absurd h (by decide)
  · exact absurd h (by decide)

/-! ## A cursor beyond the log -/

/-- A consumer: its registry, the cursor it keeps, and when its syncs marked the registry, latest
    first. -/
structure Consumer where
  registry : RevocationRegistry
  cursor : Int
  marks : List Datetime := []

/-- One `sync_registry` from the cursor that is kept; a sync that raises leaves the cursor. -/
def Consumer.sync (H : Host) (feed : RevocationFeed) (c : Consumer)
    (call : Datetime × Option Datetime) : Consumer :=
  match syncRegistry H call.1 c.registry feed c.cursor call.2 with
  | (.ok cursor, reg) => ⟨reg, cursor, call.2.getD call.1 :: c.marks⟩
  | (.error _, reg) => ⟨reg, c.cursor, c.marks⟩

/-- Syncs in turn, each with its reading of the clock and the `synced_at` it is given. -/
def Consumer.resync (H : Host) (feed : RevocationFeed) (c : Consumer)
    (calls : List (Datetime × Option Datetime)) : Consumer :=
  calls.foldl (Consumer.sync H feed) c

/-- The registry contains every record of the feed, or no sync has marked it. -/
def Recovered (records : List Record) (c : Consumer) : Prop :=
  (∀ record ∈ records, c.registry.Holds record.recall) ∨ c.marks = []

theorem entriesSince_eq_nil (h : Reached H feed records) {since : Int} (hsince : feed.cursor ≤ since) :
    feed.entriesSince since = ([], feed.cursor) := by
  refine Prod.ext (List.filter_eq_nil_iff.mpr fun e he => ?_) rfl
  have hle := (seq_mem_upFrom h he).2
  rw [decide_eq_true_eq]
  omega

/-- **ONE SYNC FROM THE CURSOR OR BEYOND** enters nothing, marks the registry and keeps the feed's
    cursor. -/
theorem sync_of_le (h : Reached H feed records) {c : Consumer} (hcursor : feed.cursor ≤ c.cursor)
    (call : Datetime × Option Datetime) :
    c.sync H feed call = ⟨c.registry.markSynced call.1 call.2, feed.cursor,
      call.2.getD call.1 :: c.marks⟩ := by
  rw [Consumer.sync, syncRegistry, entriesSince_eq_nil h hcursor, List.map_nil, applyFeedDelta_nil]

/-- However often it syncs, the registry holds what it held. -/
theorem resync_of_le (h : Reached H feed records) {c : Consumer} (hcursor : feed.cursor ≤ c.cursor)
    (calls : List (Datetime × Option Datetime)) :
    (∀ x, (c.resync H feed calls).registry.Holds x ↔ c.registry.Holds x) ∧
      (c.resync H feed calls).marks.length = calls.length + c.marks.length := by
  induction calls generalizing c with
  | nil => exact ⟨fun _ => Iff.rfl, (Nat.zero_add _).symm⟩
  | cons call calls ih =>
      obtain ⟨hholds, hmarks⟩ := @ih (c.sync H feed call) (by rw [sync_of_le h hcursor])
      rw [Consumer.resync, List.foldl_cons]
      refine ⟨fun x => (hholds x).trans ?_, hmarks.trans ?_⟩
      · rw [sync_of_le h hcursor]
        exact holds_markSynced
      · rw [sync_of_le h hcursor, List.length_cons, List.length_cons]
        omega

theorem recovered_resync_iff (h : Reached H feed records) {c : Consumer}
    (hcursor : feed.cursor ≤ c.cursor) {calls : List (Datetime × Option Datetime)}
    (hcalls : calls ≠ []) :
    Recovered records (c.resync H feed calls) ↔ ∀ record ∈ records, c.registry.Holds record.recall := by
  obtain ⟨hholds, hmarks⟩ := resync_of_le h hcursor calls
  have hpos := List.length_pos_of_ne_nil hcalls
  have hmarked : (c.resync H feed calls).marks ≠ [] := by
    refine List.ne_nil_of_length_pos ?_
    omega
  rw [Recovered, or_iff_left hmarked]
  exact forall₂_congr fun record _ => hholds record.recall

/-- **WHEN A CURSOR FROM THE FUTURE RECOVERS**: after any number of syncs, only a registry that held
    every record of the feed to begin with. -/
theorem future_cursor_recovers_iff (H : Host) (feed : RevocationFeed) (records : List Record)
    (hreached : Reached H feed records) (since : Int) (hfuture : feed.cursor < since)
    (reg : RevocationRegistry) :
    (∃ calls ≠ [], Recovered records (Consumer.resync H feed ⟨reg, since, []⟩ calls)) ↔
      ∀ record ∈ records, reg.Holds record.recall := by
  constructor
  · rintro ⟨calls, hcalls, hrecovered⟩
    exact (recovered_resync_iff (c := ⟨reg, since, []⟩) hreached hfuture.le hcalls).mp hrecovered
  · intro hholds
    exact ⟨[(⟨0, by decide, by decide⟩, none)], List.cons_ne_nil _ _,
      (recovered_resync_iff (c := ⟨reg, since, []⟩) hreached hfuture.le
        (List.cons_ne_nil _ _)).mpr hholds⟩

/-- A registry that held the one record of the short log recovers. -/
theorem future_cursor_recovers_iff_held :
    ∃ calls ≠ [], Recovered [.revocation (plainRevocation 1 (py "00"))]
      (Consumer.resync (idealHost fun _ _ => true) shortFeed ⟨{ digests := {py "00"} }, 5, []⟩ calls) := by
  refine (future_cursor_recovers_iff _ _ _ reached_shortFeed 5 (by decide) _).mpr fun record hmem => ?_
  rw [List.mem_singleton.mp hmem]
  exact Finset.mem_singleton_self _

/-- SKIPPED FOREVER: from a cursor of 5 on a log of one record, every number of syncs leaves the
    registry marked and without the record. -/
theorem future_cursor_skips : Reached (idealHost fun _ _ => true) shortFeed
      [.revocation (plainRevocation 1 (py "00"))] ∧ shortFeed.cursor < 5 ∧
    ∀ calls ≠ [], ¬ Recovered [.revocation (plainRevocation 1 (py "00"))]
      (Consumer.resync (idealHost fun _ _ => true) shortFeed ⟨{}, 5, []⟩ calls) := by
  refine ⟨reached_shortFeed, by decide, fun calls hcalls hrecovered => ?_⟩
  have hholds := (recovered_resync_iff (c := ⟨{}, 5, []⟩) reached_shortFeed (by decide) hcalls).mp
    hrecovered
  exact RevocationRegistry.not_holds_empty _ (hholds _ List.mem_cons_self)

end AgentFeedSync
