import Mathlib.Data.List.AList
import Mathlib.Data.Rat.Floor
import AgentId.JsonText
import AgentId.Possession
import AgentId.SingleUse

/-!
# Challenge stores (`challenge_store.py`)

A store hands out the challenges it issued, each at most once.  `InMemoryChallengeStore` keeps them
in a dictionary behind a lock, with a deadline of its own clock; `RedisChallengeStore` keeps their
JSON text in a server that forgets it when it likes, and looks at the expiry after it has taken the
text out.  Any number of workers run against one store, and each access to what they share is one
step.

* **`memory_refines`**, **`redis_refines`** — every run of either store is a run of a single-use
  store.
* **`consumeRest_ok`** — what a consumer makes of the text of a challenge.
* **`single_use`** — a challenge is handed out at most once, as it was issued, and not after it
  expired.
* **`returned_eq_iff`** — which challenges come out of Redis as they were issued.
* **`joined_audience_returned`** — a challenge that comes out of Redis with another audience.
-/

namespace AgentChallengeStore

open AgentHalfEven AgentPy AgentJson AgentCanonicalText AgentSigning AgentSerde AgentIsoText
  AgentSignedText AgentPossession AgentJsonText AgentSingleUse

/-- What a `consume` returned: the id it was given, and the clock when it reached the store and when
    it was done. -/
structure Receipt (τ : Type) where
  challengeId : PyStr
  challenge : Challenge
  asked : τ
  checked : τ

def handedOut {τ : Type} (challengeId : PyStr) (asked checked : τ) (challenge : Option Challenge) :
    List (Receipt τ) :=
  (challenge.map fun challenge => ⟨challengeId, challenge, asked, checked⟩).toList

/-- What a store is for: fresh ids, no id handed out twice, and what is handed out is what was issued
    under that id, in time. -/
structure SingleUse {α τ : Type} (challengeOf : α → Challenge) (inTime : Receipt τ → α → Prop)
    (issued : List α) (returned : List (Receipt τ)) : Prop where
  fresh_ids : (issued.map fun a => (challengeOf a).challengeId).Nodup
  once : (returned.map Receipt.challengeId).Nodup
  as_issued : ∀ r ∈ returned, ∃ a ∈ issued, r.challenge = challengeOf a ∧
    r.challengeId = (challengeOf a).challengeId ∧ inTime r a

/-! ## `InMemoryChallengeStore` -/

section Memory

variable {τ : Type}

/-- `_entries`: a deadline and a challenge under each id. -/
abbrev Entries (τ : Type) := AList fun _ : PyStr => τ × Challenge

theorem lookup_foldl_erase (keys : List PyStr) (entries : Entries τ) (id : PyStr) :
    (keys.foldl (fun entries key => entries.erase key) entries).lookup id =
      if id ∈ keys then none else entries.lookup id := by
  induction keys generalizing entries with
  | nil => rw [if_neg List.not_mem_nil]; rfl
  | cons key keys ih =>
      rw [List.foldl_cons, ih]
      by_cases hid : id = key
      · subst hid
        rw [if_pos List.mem_cons_self, AList.lookup_erase, ite_self]
      · rw [AList.lookup_erase_ne hid]
        refine if_congr ?_ rfl rfl
        rw [List.mem_cons, or_iff_right hid]

variable [LinearOrder τ]

/-- `_prune_locked` -/
def pruneLocked (now : τ) (entries : Entries τ) : Entries τ :=
  let expired := (entries.entries.filter fun e => e.2.1 ≤ now).map Sigma.fst
  expired.foldl (fun entries key => entries.erase key) entries

/-- **PRUNING** leaves exactly what has not expired. -/
theorem lookup_pruneLocked (now : τ) (entries : Entries τ) (id : PyStr) (e : τ × Challenge) :
    (pruneLocked now entries).lookup id = some e ↔ entries.lookup id = some e ∧ now < e.1 := by
  rw [pruneLocked, lookup_foldl_erase]
  have hmem : id ∈ (entries.entries.filter fun e => e.2.1 ≤ now).map Sigma.fst ↔
      ∃ e, entries.lookup id = some e ∧ e.1 ≤ now := by
    constructor
    · intro h
      obtain ⟨⟨k, e⟩, he, rfl⟩ := List.mem_map.mp h
      obtain ⟨he, hle⟩ := List.mem_filter.mp he
      exact ⟨e, AList.mem_lookup_iff.mpr he, of_decide_eq_true hle⟩
    · rintro ⟨e, he, hle⟩
      exact List.mem_map_of_mem (a := (⟨id, e⟩ : Sigma fun _ : PyStr => τ × Challenge))
        (List.mem_filter.mpr ⟨AList.mem_lookup_iff.mp he, decide_eq_true hle⟩)
  by_cases hexpired : ∃ e, entries.lookup id = some e ∧ e.1 ≤ now
  · rw [if_pos (hmem.mpr hexpired)]
    obtain ⟨e', he', hle⟩ := hexpired
    refine iff_of_false (fun h => Option.some_ne_none e h.symm) ?_
    rintro ⟨he, hlt⟩
    rw [he'] at he
    cases he
    exact absurd hlt (not_lt.mpr hle)
  · rw [if_neg fun h => hexpired (hmem.mp h)]
    exact ⟨fun h => ⟨h, not_le.mp fun hle => hexpired ⟨e, h, hle⟩⟩, fun h => h.1⟩

/-- The locked part of `issue`. -/
def issueLocked (now deadline : τ) (challenge : Challenge) (entries : Entries τ) : Entries τ :=
  (pruneLocked now entries).insert challenge.challengeId (deadline, challenge)

/-- `consume`: what `pop` returns, and what it leaves. -/
def consumeLocked (now : τ) (challengeId : PyStr) (entries : Entries τ) :
    Option (τ × Challenge) × Entries τ :=
  let pruned := pruneLocked now entries
  (pruned.lookup challengeId, pruned.erase challengeId)

variable {W : Type} [DecidableEq W]

/-- What a thread is in the middle of: nothing, or an `issue` that has made its challenge. -/
inductive Thread (τ : Type) where
  | idle
  | issuing (deadline : τ) (challenge : Challenge)

/-- A store and the threads of its process, with the last reading of the clock.  `issued` and
    `returned` remember what happened. -/
structure InMemoryChallengeStore (W τ : Type) where
  entries : Entries τ := ∅
  threads : W → Thread τ := fun _ => .idle
  clock : τ
  issued : List (τ × Challenge) := []
  returned : List (Receipt τ) := []

/-- What a store was made with; `deadlineOf` adds the lifetime to a reading of the clock. -/
structure MemoryOptions (τ : Type) where
  ttlSeconds : ℚ
  deadlineOf : τ → τ

/-- One step of one thread.  Readings of the clock do not go back, and `uuid4` does not repeat. -/
inductive MemoryStep (opts : MemoryOptions τ) :
    InMemoryChallengeStore W τ → InMemoryChallengeStore W τ → Prop where
  -- `Challenge.issue`, and `time.monotonic() + self._ttl`
  | make {s : InMemoryChallengeStore W τ} {w : W} {uuid audience purpose : PyStr} {token : Bytes}
      {wall : Datetime} {challenge : Challenge} {now : τ} : s.threads w = .idle → s.clock ≤ now →
      uuid ∉ s.issued.map (·.2.challengeId) →
      Challenge.issue uuid token wall audience purpose opts.ttlSeconds = .ok challenge →
      MemoryStep opts s { s with
        threads := Function.update s.threads w (.issuing (opts.deadlineOf now) challenge)
        clock := now
        issued := (opts.deadlineOf now, challenge) :: s.issued }
  | issue {s : InMemoryChallengeStore W τ} {w : W} {deadline : τ} {challenge : Challenge} {now : τ} :
      s.threads w = .issuing deadline challenge → s.clock ≤ now →
      MemoryStep opts s { s with
        entries := issueLocked now deadline challenge s.entries
        threads := Function.update s.threads w .idle
        clock := now }
  | consume {s : InMemoryChallengeStore W τ} {challengeId : PyStr} {now : τ} : s.clock ≤ now →
      MemoryStep opts s { s with
        entries := (consumeLocked now challengeId s.entries).2
        clock := now
        returned := handedOut challengeId now now
          ((consumeLocked now challengeId s.entries).1.map Prod.snd) ++ s.returned }
  -- `__len__`
  | len {s : InMemoryChallengeStore W τ} {now : τ} : s.clock ≤ now →
      MemoryStep opts s { s with entries := pruneLocked now s.entries, clock := now }

/-- What a fresh store can come to. -/
def MemoryReachable (opts : MemoryOptions τ) (start : τ) (s : InMemoryChallengeStore W τ) : Prop :=
  Relation.ReflTransGen (MemoryStep opts) { clock := start } s

/-! ## What an in-memory store hands out -/

variable {opts : MemoryOptions τ} {start : τ} {s s' : InMemoryChallengeStore W τ}

/-- Where a challenge lies: in the dictionary, or in the hands of the thread that made it. -/
def InMemoryChallengeStore.lies (s : InMemoryChallengeStore W τ) :
    Option W → PyStr → τ × Challenge → Prop
  | none, id, e => s.entries.lookup id = some e
  | some w, id, e => s.threads w = .issuing e.1 e.2 ∧ e.2.challengeId = id

/-- An entry is over when its deadline is. -/
def overdue (now : τ) (e : τ × Challenge) : Prop := e.1 ≤ now

/-- The vault of an in-memory store. -/
structure MemoryRel (s : InMemoryChallengeStore W τ) (v : Vault PyStr (τ × Challenge) τ) : Prop where
  issued : ∀ id e, v.issued id = some e ↔ e ∈ s.issued ∧ e.2.challengeId = id
  custody : Custody Eq s.lies v.live
  returned : s.returned = v.taken.map fun t => ⟨t.1, t.2.1.2, t.2.2, t.2.2⟩
  nodup : (s.issued.map fun e => e.2.challengeId).Nodup

/-- What is found after `issue` was there, or is the challenge issued. -/
theorem lookup_issueLocked {now deadline : τ} {challenge : Challenge} {entries : Entries τ}
    {id : PyStr} {e : τ × Challenge}
    (h : (issueLocked now deadline challenge entries).lookup id = some e) :
    entries.lookup id = some e ∨ (id = challenge.challengeId ∧ e = (deadline, challenge)) := by
  rw [issueLocked] at h
  by_cases hid : id = challenge.challengeId
  · rw [hid, AList.lookup_insert] at h
    exact Or.inr ⟨hid, (Option.some.inj h).symm⟩
  · rw [AList.lookup_insert_ne hid] at h
    exact Or.inl ((lookup_pruneLocked now entries id e).mp h).1

/-- What is found after `consume` was there, under another identifier. -/
theorem lookup_consumeLocked {now : τ} {challengeId id : PyStr} {entries : Entries τ}
    {e : τ × Challenge} (h : (consumeLocked now challengeId entries).2.lookup id = some e) :
    entries.lookup id = some e ∧ id ≠ challengeId := by
  rw [consumeLocked] at h
  by_cases hid : id = challengeId
  · rw [hid, AList.lookup_erase] at h
    cases h
  · rw [AList.lookup_erase_ne hid] at h
    exact ⟨((lookup_pruneLocked now entries id e).mp h).1, hid⟩

/-- **ONE STEP OF A THREAD** is a step of the vault, or none. -/
theorem MemoryStep.refines {v : Vault PyStr (τ × Challenge) τ} (S : v.Sound overdue)
    (R : MemoryRel s v) (h : MemoryStep opts s s') :
    ∃ v', Relation.ReflGen (Step overdue) v v' ∧ MemoryRel s' v' := by
  cases h with
  | @make w uuid audience purpose token wall challenge now hidle hnow hfresh hissue =>
      have hid : challenge.challengeId = uuid := (Challenge.issue_ok hissue).1
      have hnew : v.issued challenge.challengeId = none := by
        rw [Option.eq_none_iff_forall_ne_some]
        intro e he
        obtain ⟨hmem, heq⟩ := (R.issued _ _).mp he
        exact hfresh (List.mem_map.mpr ⟨e, hmem, heq.trans hid⟩)
      refine ⟨_, .single (.issue (opts.deadlineOf now, challenge) hnew), ⟨?_, ?_, R.returned, ?_⟩⟩
      · exact issued_cons (fun e => e.2.challengeId) (a := (opts.deadlineOf now, challenge)) hnew
          R.issued
      · refine R.custody.make (S.not_live hnew) (b := (opts.deadlineOf now, challenge)) (p := some w)
          rfl ?_
        rintro (_ | w') id e he
        · exact Or.inl he
        · by_cases hw : w' = w
          · subst hw
            obtain ⟨hthread, hid⟩ := he
            simp only [Function.update_self, Thread.issuing.injEq] at hthread
            have he : e = (opts.deadlineOf now, challenge) :=
              Prod.ext hthread.1.symm hthread.2.symm
            exact Or.inr ⟨rfl, by rw [← hid, he], he⟩
          · refine Or.inl ⟨?_, he.2⟩
            simpa only [Function.update_of_ne hw] using he.1
      · refine List.nodup_cons.mpr ⟨?_, R.nodup⟩
        exact fun hmem => hfresh (hid ▸ hmem)
  | @issue w deadline challenge now hissuing hnow =>
      refine ⟨v, .refl, ⟨R.issued, ?_, R.returned, R.nodup⟩⟩
      refine R.custody.move (some w) none challenge.challengeId (deadline, challenge)
        ⟨hissuing, rfl⟩ ?_
      rintro (_ | w') id e he
      · rcases lookup_issueLocked he with hold | ⟨rfl, rfl⟩
        · exact Or.inl ⟨hold, fun h => Option.some_ne_none w h.1.symm⟩
        · exact Or.inr ⟨rfl, rfl, rfl⟩
      · refine Or.inl ?_
        obtain ⟨hthread, hid⟩ := he
        by_cases hw : w' = w
        · subst hw
          simp only [Function.update_self] at hthread
          cases hthread
        · simp only [Function.update_of_ne hw] at hthread
          exact ⟨⟨hthread, hid⟩, fun h => hw (Option.some.inj h.1)⟩
  | @consume challengeId now hnow =>
      cases hpop : (consumeLocked now challengeId s.entries).1 with
      | none =>
          refine ⟨v, .refl, ⟨R.issued, ?_, R.returned, R.nodup⟩⟩
          refine R.custody.mono ?_
          rintro (_ | w') id e he
          · exact (lookup_consumeLocked he).1
          · exact he
      | some e =>
          -- what is popped has not been pruned
          obtain ⟨hlookup, hlt⟩ := (lookup_pruneLocked now s.entries challengeId e).mp hpop
          obtain ⟨e', hlive, rfl⟩ := R.custody.lies_live none challengeId e hlookup
          refine ⟨_, .single (.take now hlive (not_le.mpr hlt)), ⟨R.issued, ?_, ?_, R.nodup⟩⟩
          · refine R.custody.take (p := none) hlookup ?_
            rintro (_ | w') id e' he
            · obtain ⟨hold, hne⟩ := lookup_consumeLocked he
              exact ⟨hold, fun h => hne h.2⟩
            · exact ⟨he, fun h => Option.some_ne_none w' h.1⟩
          · exact congrArg (_ :: ·) R.returned
  | @len now hnow =>
      refine ⟨v, .refl, ⟨R.issued, R.custody.mono ?_, R.returned, R.nodup⟩⟩
      rintro (_ | w') id e he
      · exact ((lookup_pruneLocked now s.entries id e).mp he).1
      · exact he

omit [DecidableEq W] [LinearOrder τ] in
/-- An empty store is an empty vault. -/
theorem memoryRel_empty (start : τ) :
    MemoryRel { clock := start : InMemoryChallengeStore W τ } {} where
  issued id e := by
    refine iff_of_false (fun h => Option.some_ne_none _ h.symm) fun h => List.not_mem_nil h.1
  custody := by
    refine ⟨?_, ?_⟩
    · rintro (_ | w) id e he
      · cases he
      · cases he.1
    · rintro (_ | w) p' id e e' he he'
      · cases he
      · cases he.1
  returned := rfl
  nodup := List.nodup_nil

/-- **THE DICTIONARY IS A SINGLE-USE STORE**: every run of its threads is a run of a vault. -/
theorem memory_refines (h : MemoryReachable opts start s) :
    ∃ v, Relation.ReflTransGen (Step overdue) {} v ∧ MemoryRel s v :=
  reachable_refines (memoryRel_empty start) (fun _ _ _ S R hstep => hstep.refines S R) h

/-- Before its deadline. -/
def beforeDeadline (r : Receipt τ) (e : τ × Challenge) : Prop := r.asked ≤ r.checked ∧ r.checked < e.1

/-- **THE STORE IN MEMORY IS SINGLE-USE.** -/
theorem memory_singleUse (h : MemoryReachable opts start s) :
    SingleUse Prod.snd beforeDeadline s.issued s.returned := by
  obtain ⟨v, hv, R⟩ := memory_refines h
  have S := sound_of_reachable hv
  refine ⟨R.nodup, ?_, fun r hr => ?_⟩
  · rw [R.returned, List.map_map]
    exact S.once
  · rw [R.returned] at hr
    obtain ⟨t, ht, rfl⟩ := List.mem_map.mp hr
    obtain ⟨hmem, hid⟩ := (R.issued _ _).mp (S.taken_issued t ht)
    exact ⟨t.2.1, hmem, rfl, hid.symm, le_rfl, not_le.mp (S.taken_fresh t ht)⟩

end Memory

/-! ## `RedisChallengeStore` -/

section Redis

/-- `REDIS_KEY_PREFIX` -/
def redisKeyPrefix : PyStr := py "fg-agent-id:challenge:"

/-- What the stores on one server are made with, the host they run on, and how its `json` spells and
    reads a float. -/
structure RedisOptions where
  ttlSeconds : ℚ := defaultTtlSeconds
  keyPrefix : PyStr := redisKeyPrefix
  host : Host
  repr : UInt64 → PyStr
  parseFloat : PyStr → UInt64

/-- `int(x)` -/
def truncated (x : ℚ) : ℤ := if 0 ≤ x then ⌊x⌋ else ⌈x⌉

/-- For how many milliseconds the server is asked to keep a challenge. -/
def RedisOptions.px (opts : RedisOptions) : ℤ := max 1 (truncated (opts.ttlSeconds * 1000))

/-- `_key` -/
def RedisOptions.key (opts : RedisOptions) (challengeId : PyStr) : PyStr :=
  opts.keyPrefix ++ challengeId

/-- What `issue` stores of a challenge. -/
def RedisOptions.payload (opts : RedisOptions) (challenge : Challenge) : PyStr :=
  dumpsText opts.repr (.obj challenge.modelDump)

/-- A value that is subscripted with a string. -/
def subscripted : Json → Py Members
  | .obj members => .ok members
  | value => raise .typeError [typeName value, " is not subscriptable by a string"]

/-- `consume` from the text on that `GETDEL` returned. -/
def consumeRest (opts : RedisOptions) (raw : PyStr) (now : Datetime) : Py (Option Challenge) := do
  let value ← loads opts.parseFloat raw
  let data ← subscripted value
  let challenge ← Challenge.modelValidate opts.host data
  let expired ← challenge.isExpired now 0
  .ok (if expired then none else some challenge)

/-- The server: a text under each key, and when it may be reaped, in its own milliseconds. -/
abbrev Server := AList fun _ : PyStr => ℤ × PyStr

/-- `SET` with `PX` -/
def Server.set (server : Server) (key : PyStr) (now px : ℤ) (value : PyStr) : Server :=
  server.insert key (now + px, value)

/-- `GETDEL`: the reply, and what it leaves. -/
def Server.getdel (server : Server) (key : PyStr) : Option PyStr × Server :=
  ((server.lookup key).map Prod.snd, server.erase key)

/-- What a worker is in the middle of: nothing, an `issue` that has made its challenge, or a
    `consume` that has its text. -/
inductive Worker where
  | idle
  | storing (challenge : Challenge)
  | judging (challengeId raw : PyStr) (asked : Datetime)

/-- What a `consume` does with the reply to its `GETDEL`. -/
def Worker.replied (challengeId : PyStr) (asked : Datetime) : Option PyStr → Worker
  | none => .idle
  | some raw => .judging challengeId raw asked

variable {W : Type} [DecidableEq W]

/-- A server and the workers that share it, with the last reading of the wall clock.  `issued` and
    `returned` remember what happened. -/
structure RedisChallengeStore (W : Type) where
  server : Server := ∅
  workers : W → Worker := fun _ => .idle
  clock : Datetime
  issued : List Challenge := []
  returned : List (Receipt Datetime) := []

/-- The text of a `uuid4`. -/
def IsUuid (s : PyStr) : Prop := s.length = 36 ∧ ∀ c ∈ s, IsHexDigit c ∨ c = codePoint '-'

/-- One step of one worker, or of the server.  Every `issue` asks for an audience and a purpose that
    `asks` allows; the server has a clock of its own, of which nothing is assumed. -/
inductive RedisStep (opts : RedisOptions) (asks : PyStr → PyStr → Prop) :
    RedisChallengeStore W → RedisChallengeStore W → Prop where
  -- `Challenge.issue`
  | make {s : RedisChallengeStore W} {w : W} {uuid audience purpose : PyStr} {token : Bytes}
      {challenge : Challenge} {now : Datetime} : s.workers w = .idle → s.clock.us ≤ now.us →
      IsUuid uuid → uuid ∉ s.issued.map Challenge.challengeId → asks audience purpose →
      Challenge.issue uuid token now audience purpose opts.ttlSeconds = .ok challenge →
      RedisStep opts asks s { s with
        workers := Function.update s.workers w (.storing challenge)
        clock := now
        issued := challenge :: s.issued }
  | set {s : RedisChallengeStore W} {w : W} {challenge : Challenge} {serverNow : ℤ} :
      s.workers w = .storing challenge →
      RedisStep opts asks s { s with
        server := s.server.set (opts.key challenge.challengeId) serverNow opts.px
          (opts.payload challenge)
        workers := Function.update s.workers w .idle }
  | reap {s : RedisChallengeStore W} {key : PyStr} {entry : ℤ × PyStr} {serverNow : ℤ} :
      s.server.lookup key = some entry → entry.1 ≤ serverNow →
      RedisStep opts asks s { s with server := s.server.erase key }
  | getdel {s : RedisChallengeStore W} {w : W} {challengeId : PyStr} {now : Datetime} :
      s.workers w = .idle → s.clock.us ≤ now.us →
      RedisStep opts asks s { s with
        server := (s.server.getdel (opts.key challengeId)).2
        workers := Function.update s.workers w
          (.replied challengeId now (s.server.getdel (opts.key challengeId)).1)
        clock := now }
  -- the rest of `consume`; an error hands nothing out
  | judge {s : RedisChallengeStore W} {w : W} {challengeId raw : PyStr} {asked now : Datetime} :
      s.workers w = .judging challengeId raw asked → s.clock.us ≤ now.us →
      RedisStep opts asks s { s with
        workers := Function.update s.workers w .idle
        clock := now
        returned := handedOut challengeId asked now (consumeRest opts raw now).toOption.join
          ++ s.returned }

/-- What workers on an empty server can come to. -/
def RedisReachable (opts : RedisOptions) (asks : PyStr → PyStr → Prop) (start : Datetime)
    (s : RedisChallengeStore W) : Prop :=
  Relation.ReflTransGen (RedisStep opts asks) { clock := start } s

/-! ## What comes back of a challenge -/

/-- `datetime.fromisoformat` reads back the spelling of a timestamp, or refuses one before the year
    1000, which not every `strftime` pads. -/
def ReadsBack (H : Host) : Prop :=
  ∀ t, H.fromisoformat (canonicalTimestamp t) = .aware t.us ∨
    (¬ FourDigitYear t ∧ H.fromisoformat (canonicalTimestamp t) = .invalid)

/-- The challenge that comes back: halves of pairs side by side in its audience and its purpose have
    become one character. -/
def rejoined (c : Challenge) : Challenge :=
  { c with
    audience := join c.audience
    purpose := join c.purpose
    audience_ne := join_ne_nil c.audience_ne }

/-- **WHICH CHALLENGES COME BACK AS THEY WERE.** -/
theorem rejoined_eq_self_iff {c : Challenge} :
    rejoined c = c ↔ Unpaired c.audience ∧ Unpaired c.purpose := by
  rw [← join_eq_self_iff, ← join_eq_self_iff]
  constructor
  · intro h
    exact ⟨congrArg Challenge.audience h, congrArg Challenge.purpose h⟩
  · rintro ⟨haudience, hpurpose⟩
    exact Challenge.ext rfl rfl haudience hpurpose rfl rfl

variable {opts : RedisOptions} {c c' : Challenge} {now : Datetime}

/-- ASCII has no surrogates to join. -/
theorem join_ascii {s : PyStr} (h : IsAscii s) : join s = s :=
  join_eq_self_iff.mpr (unpaired_of_ascii h)

/-- What `json.loads` makes of the text of a challenge. -/
theorem loads_payload (hid : IsAscii c.challengeId) (hnonce : IsAscii c.nonce) :
    loads opts.parseFloat (opts.payload c) = .ok (.obj (rejoined c).modelDump) := by
  have htime : ∀ t, join (canonicalTimestamp t) = canonicalTimestamp t :=
    fun t => join_ascii (isPlain_canonicalTimestamp t).isAscii
  have hkeys : ∀ k ∈ [py "challenge_id", py "nonce", py "audience", py "purpose", py "issued_at",
      py "expires_at"], join k = k := by decide +kernel
  have hload := @loads_dumpsText opts.parseFloat opts.repr
    [(py "challenge_id", c.challengeId), (py "nonce", c.nonce), (py "audience", c.audience),
      (py "purpose", c.purpose), (py "issued_at", canonicalTimestamp c.issuedAt),
      (py "expires_at", canonicalTimestamp c.expiresAt)] (List.cons_ne_nil _ _) ?_
  · refine hload.trans (congrArg (fun members => Except.ok (Json.obj members)) ?_)
    simp only [List.forall_mem_cons] at hkeys
    obtain ⟨k1, k2, k3, k4, k5, k6, -⟩ := hkeys
    simp only [List.map_cons, List.map_nil, k1, k2, k3, k4, k5, k6, htime, join_ascii hid,
      join_ascii hnonce]
    rfl
  · show [join (py "challenge_id"), join (py "nonce"), join (py "audience"), join (py "purpose"),
      join (py "issued_at"), join (py "expires_at")].Nodup
    decide +kernel

/-- What a consumer makes of the text of a challenge whose timestamps are read back. -/
theorem consumeRest_payload (hid : IsAscii c.challengeId) (hnonce : IsAscii c.nonce)
    (hissued : opts.host.fromisoformat (canonicalTimestamp c.issuedAt) = .aware c.issuedAt.us)
    (hexpires : opts.host.fromisoformat (canonicalTimestamp c.expiresAt) = .aware c.expiresAt.us) :
    consumeRest opts (opts.payload c) now
      = .ok (if c.expiresAt.us ≤ now.us then none else some (rejoined c)) := by
  refine bind_ok_iff.mpr ⟨_, loads_payload hid hnonce, bind_ok_iff.mpr ⟨_, rfl, ?_⟩⟩
  refine bind_ok_iff.mpr ⟨_, Challenge.modelValidate_modelDump (c := rejoined c) hissued hexpires, ?_⟩
  refine bind_ok_iff.mpr ⟨_, Challenge.isExpired_zero _ _, ?_⟩
  simp only [decide_eq_true_eq]
  rfl

/-- **WHAT A CONSUMER MAKES OF A CHALLENGE**: it is handed out rejoined, and only before it expires. -/
theorem consumeRest_ok (B : ReadsBack opts.host) (hid : IsAscii c.challengeId)
    (hnonce : IsAscii c.nonce) (h : consumeRest opts (opts.payload c) now = .ok (some c')) :
    c' = rejoined c ∧ now.us < c.expiresAt.us := by
  obtain ⟨value, hvalue, hrest⟩ := bind_ok_iff.mp h
  rw [loads_payload hid hnonce] at hvalue
  cases hvalue
  obtain ⟨data, hdata, hrest⟩ := bind_ok_iff.mp hrest
  cases hdata
  obtain ⟨challenge, hvalidate, -⟩ := bind_ok_iff.mp hrest
  rcases B c.issuedAt with hissued | ⟨-, hissued⟩
  · rcases B c.expiresAt with hexpires | ⟨-, hexpires⟩
    · rw [consumeRest_payload hid hnonce hissued hexpires] at h
      by_cases hle : c.expiresAt.us ≤ now.us
      · rw [if_pos hle] at h
        cases h
      · rw [if_neg hle] at h
        cases h
        exact ⟨rfl, not_le.mp hle⟩
    · exact absurd hvalidate (Challenge.modelValidate_invalid (c := rejoined c) _ (Or.inr hexpires))
  · exact absurd hvalidate (Challenge.modelValidate_invalid (c := rejoined c) _ (Or.inl hissued))

/-! ## What Redis hands out -/

variable {asks : PyStr → PyStr → Prop} {start : Datetime} {s s' : RedisChallengeStore W}

/-- The id and the text a worker holds. -/
def Worker.holds (opts : RedisOptions) : Worker → Option (PyStr × PyStr)
  | .idle => none
  | .storing challenge => some (challenge.challengeId, opts.payload challenge)
  | .judging challengeId raw _ => some (challengeId, raw)

/-- Where the text of a challenge lies: on the server, or in the hands of a worker. -/
def RedisChallengeStore.lies (opts : RedisOptions) (s : RedisChallengeStore W) :
    Option W → PyStr → PyStr → Prop
  | none, id, raw => (s.server.lookup (opts.key id)).map Prod.snd = some raw
  | some w, id, raw => (s.workers w).holds opts = some (id, raw)

/-- A challenge is over when it has expired. -/
def pastExpiry (now : Datetime) (c : Challenge) : Prop := c.expiresAt.us ≤ now.us

/-- The vault of the stores on one server. -/
structure RedisRel (opts : RedisOptions) (asks : PyStr → PyStr → Prop) (s : RedisChallengeStore W)
    (v : Vault PyStr Challenge Datetime) : Prop where
  issued : ∀ id c, v.issued id = some c ↔ c ∈ s.issued ∧ c.challengeId = id
  custody : Custody (fun raw c => raw = opts.payload c) (s.lies opts) v.live
  returned : s.returned.map (fun r => (r.challengeId, r.challenge, r.checked)) =
    v.taken.map fun t => (t.1, rejoined t.2.1, t.2.2)
  nodup : (s.issued.map Challenge.challengeId).Nodup
  askedFor : ∀ c ∈ s.issued, asks c.audience c.purpose ∧ IsAscii c.challengeId ∧ IsAscii c.nonce
  asked : ∀ w id raw asked, s.workers w = .judging id raw asked → asked.us ≤ s.clock.us
  timely : ∀ r ∈ s.returned, r.asked.us ≤ r.checked.us

/-- Challenges have keys of their own. -/
theorem key_inj {id id' : PyStr} (h : opts.key id = opts.key id') : id = id' :=
  List.append_cancel_left h

theorem isAscii_uuid {id : PyStr} (h : IsUuid id) : IsAscii id := by
  intro c hc
  rcases h.2 c hc with hdigit | rfl
  · simp only [IsHexDigit] at hdigit
    omega
  · decide

/-- What the server holds after `SET` it held, or was given. -/
theorem lookup_set {server : Server} {id id' raw : PyStr} {serverNow px : ℤ} {value : PyStr}
    (h : ((server.set (opts.key id) serverNow px value).lookup (opts.key id')).map Prod.snd = some raw) :
    (server.lookup (opts.key id')).map Prod.snd = some raw ∨ (id' = id ∧ raw = value) := by
  rw [Server.set] at h
  by_cases hid : opts.key id' = opts.key id
  · rw [hid, AList.lookup_insert] at h
    exact Or.inr ⟨key_inj hid, (Option.some.inj h).symm⟩
  · rw [AList.lookup_insert_ne hid] at h
    exact Or.inl h

/-- What it holds after erasing it held, under another key. -/
theorem lookup_erase {server : Server} {key key' raw : PyStr}
    (h : ((server.erase key).lookup key').map Prod.snd = some raw) :
    (server.lookup key').map Prod.snd = some raw ∧ key' ≠ key := by
  by_cases hkey : key' = key
  · rw [hkey, AList.lookup_erase] at h
    cases h
  · rw [AList.lookup_erase_ne hkey] at h
    exact ⟨h, hkey⟩

/-- A worker that turns to something else leaves the others alone. -/
theorem holds_update {w w' : W} {worker : Worker} {p : PyStr × PyStr}
    (h : (Function.update s.workers w worker w').holds opts = some p) :
    (w' = w ∧ worker.holds opts = some p) ∨ (w' ≠ w ∧ (s.workers w').holds opts = some p) := by
  by_cases hw : w' = w
  · rw [hw, Function.update_self] at h
    exact Or.inl ⟨hw, h⟩
  · rw [Function.update_of_ne hw] at h
    exact Or.inr ⟨hw, h⟩

/-- A worker that is done holds nothing any more. -/
theorem holds_release {w w' : W} {p : PyStr × PyStr}
    (h : (Function.update s.workers w .idle w').holds opts = some p) :
    w' ≠ w ∧ (s.workers w').holds opts = some p := by
  rcases holds_update h with ⟨-, hheld⟩ | hheld
  · cases hheld
  · exact hheld

theorem eq_ok_of_join {x : Py (Option Challenge)} (h : x.toOption.join = some c) :
    x = .ok (some c) :=
  toOption_eq_some_iff.mp (Option.join_eq_some_iff.mp h)

/-- The readings of workers still judging stay behind the clock. -/
theorem asked_update {w : W} {worker : Worker} {clock : Datetime} (hclock : s.clock.us ≤ clock.us)
    (h : ∀ w id raw asked, s.workers w = .judging id raw asked → asked.us ≤ s.clock.us)
    (hworker : ∀ id raw asked, worker = .judging id raw asked → asked.us ≤ clock.us) (w' : W)
    (id raw : PyStr) (asked : Datetime)
    (hjudging : Function.update s.workers w worker w' = .judging id raw asked) :
    asked.us ≤ clock.us := by
  by_cases hw : w' = w
  · rw [hw, Function.update_self] at hjudging
    exact hworker id raw asked hjudging
  · rw [Function.update_of_ne hw] at hjudging
    exact (h w' id raw asked hjudging).trans hclock

/-- **ONE STEP OF A WORKER OR OF THE SERVER** is a step of the vault, or none. -/
theorem RedisStep.refines (B : ReadsBack opts.host) {v : Vault PyStr Challenge Datetime}
    (S : v.Sound pastExpiry) (R : RedisRel opts asks s v) (h : RedisStep opts asks s s') :
    ∃ v', Relation.ReflGen (Step pastExpiry) v v' ∧ RedisRel opts asks s' v' := by
  cases h with
  | @make w uuid audience purpose token challenge now hidle hnow huuid hfresh hasks hissue =>
      obtain ⟨hid, hnonce, haudience, hpurpose⟩ := Challenge.issue_ok hissue
      have hnew : v.issued challenge.challengeId = none := by
        rw [Option.eq_none_iff_forall_ne_some]
        intro c hc
        obtain ⟨hmem, heq⟩ := (R.issued _ _).mp hc
        exact hfresh (List.mem_map.mpr ⟨c, hmem, heq.trans hid⟩)
      refine ⟨_, .single (.issue challenge hnew), ⟨issued_cons _ hnew R.issued, ?_, R.returned, ?_, ?_,
        asked_update hnow R.asked fun id raw asked h => ?_, R.timely⟩⟩
      · refine R.custody.make (S.not_live hnew) (b := opts.payload challenge) (p := some w) rfl ?_
        rintro (_ | w') id raw hraw
        · exact Or.inl hraw
        · rcases holds_update hraw with ⟨rfl, hheld⟩ | ⟨-, hheld⟩
          · cases hheld
            exact Or.inr ⟨rfl, rfl, rfl⟩
          · exact Or.inl hheld
      · exact List.nodup_cons.mpr ⟨fun hmem => hfresh (hid ▸ hmem), R.nodup⟩
      · refine List.forall_mem_cons.mpr ⟨⟨?_, ?_, ?_⟩, R.askedFor⟩
        · rw [haudience, hpurpose]
          exact hasks
        · rw [hid]
          exact isAscii_uuid huuid
        · rw [hnonce]
          exact isAscii_b64encode token
      · cases h
  | @set w challenge serverNow hstoring =>
      refine ⟨v, .refl, ⟨R.issued, ?_, R.returned, R.nodup, R.askedFor,
        asked_update le_rfl R.asked fun id raw asked h => ?_, R.timely⟩⟩
      · refine R.custody.move (some w) none challenge.challengeId (opts.payload challenge)
          (congrArg (Worker.holds opts) hstoring) ?_
        rintro (_ | w') id raw hraw
        · rcases lookup_set hraw with hold | ⟨rfl, rfl⟩
          · exact Or.inl ⟨hold, fun h => Option.some_ne_none w h.1.symm⟩
          · exact Or.inr ⟨rfl, rfl, rfl⟩
        · obtain ⟨hne, hheld⟩ := holds_release hraw
          exact Or.inl ⟨hheld, fun h => hne (Option.some.inj h.1)⟩
      · cases h
  | @reap key entry serverNow hentry hreap =>
      refine ⟨v, .refl, ⟨R.issued, R.custody.mono ?_, R.returned, R.nodup, R.askedFor, R.asked,
        R.timely⟩⟩
      rintro (_ | w') id raw hraw
      · exact (lookup_erase hraw).1
      · exact hraw
  | @getdel w challengeId now hidle hnow =>
      cases hreply : (s.server.getdel (opts.key challengeId)).1 with
      | none =>
          refine ⟨v, .refl, ⟨R.issued, R.custody.mono ?_, R.returned, R.nodup, R.askedFor,
            asked_update hnow R.asked fun id raw asked h => ?_, R.timely⟩⟩
          · rintro (_ | w') id raw hraw
            · exact (lookup_erase hraw).1
            · exact (holds_release hraw).2
          · cases h
      | some raw =>
          refine ⟨v, .refl, ⟨R.issued, ?_, R.returned, R.nodup, R.askedFor,
            asked_update hnow R.asked fun id raw' asked h => ?_, R.timely⟩⟩
          · refine R.custody.move none (some w) challengeId raw hreply ?_
            rintro (_ | w') id raw' hraw
            · obtain ⟨hold, hne⟩ := lookup_erase hraw
              exact Or.inl ⟨hold, fun h => hne (congrArg opts.key h.2)⟩
            · rcases holds_update hraw with ⟨rfl, hheld⟩ | ⟨-, hheld⟩
              · cases hheld
                exact Or.inr ⟨rfl, rfl, rfl⟩
              · exact Or.inl ⟨hheld, fun h => Option.some_ne_none w' h.1⟩
          · cases h
            exact le_rfl
  | @judge w challengeId raw asked now hjudging hnow =>
      have hlies : s.lies opts (some w) challengeId raw := congrArg (Worker.holds opts) hjudging
      have hworkers := @asked_update W _ s w .idle now hnow R.asked fun id raw asked h => by cases h
      cases hout : (consumeRest opts raw now).toOption.join with
      | none =>
          refine ⟨v, .refl, ⟨R.issued, R.custody.mono ?_, R.returned, R.nodup, R.askedFor, hworkers,
            R.timely⟩⟩
          rintro (_ | w') id raw' hraw
          · exact hraw
          · exact (holds_release hraw).2
      | some c' =>
          -- the text the worker holds is that of a challenge that is still live
          obtain ⟨c, hlive, rfl⟩ := R.custody.lies_live _ _ _ hlies
          obtain ⟨hmem, -⟩ := (R.issued _ _).mp (S.live_issued _ _ hlive)
          obtain ⟨-, hid, hnonce⟩ := R.askedFor c hmem
          obtain ⟨rfl, hfresh⟩ := consumeRest_ok B hid hnonce (eq_ok_of_join hout)
          refine ⟨_, .single (.take now hlive (not_le.mpr hfresh)),
            ⟨R.issued, ?_, ?_, R.nodup, R.askedFor, hworkers, ?_⟩⟩
          · refine R.custody.take hlies ?_
            rintro (_ | w') id raw' hraw
            · exact ⟨hraw, fun h => Option.some_ne_none w h.1.symm⟩
            · obtain ⟨hne, hheld⟩ := holds_release hraw
              exact ⟨hheld, fun h => hne (Option.some.inj h.1)⟩
          · exact congrArg ((challengeId, rejoined c, now) :: ·) R.returned
          · refine List.forall_mem_cons.mpr ⟨?_, R.timely⟩
            exact (R.asked w _ _ asked hjudging).trans hnow

omit [DecidableEq W] in
/-- An empty server is an empty vault. -/
theorem redisRel_empty (start : Datetime) :
    RedisRel opts asks { clock := start : RedisChallengeStore W } {} where
  issued id c := by
    refine iff_of_false (fun h => Option.some_ne_none _ h.symm) fun h => List.not_mem_nil h.1
  custody := by
    refine ⟨?_, ?_⟩
    · rintro (_ | w) id raw hraw
      · cases hraw
      · cases hraw
    · rintro (_ | w) p' id raw raw' hraw hraw'
      · cases hraw
      · cases hraw
  returned := rfl
  nodup := List.nodup_nil
  askedFor c hc := absurd hc List.not_mem_nil
  asked w id raw asked h := by cases h
  timely r hr := absurd hr List.not_mem_nil

/-- **THE SERVER IS A SINGLE-USE STORE**: every run of its workers is a run of a vault. -/
theorem redis_refines (B : ReadsBack opts.host) (h : RedisReachable opts asks start s) :
    ∃ v, Relation.ReflTransGen (Step pastExpiry) {} v ∧ RedisRel opts asks s v :=
  reachable_refines (redisRel_empty start) (fun _ _ _ S R hstep => hstep.refines B S R) h

/-- Before it expires, by the clock of the worker that took it. -/
def beforeExpiry (r : Receipt Datetime) (c : Challenge) : Prop :=
  r.asked.us ≤ r.checked.us ∧ r.checked.us < c.expiresAt.us

/-- **WHICH CHALLENGES COME OUT OF REDIS AS THEY WERE ISSUED**: every one that is handed out was
    issued under that id, and is handed out rejoined. -/
theorem returned_eq_iff (B : ReadsBack opts.host) (h : RedisReachable opts asks start s) :
    ∀ r ∈ s.returned, ∃ c ∈ s.issued, asks c.audience c.purpose ∧ r.challenge = rejoined c ∧
      r.challengeId = c.challengeId ∧ beforeExpiry r c ∧
      (r.challenge = c ↔ Unpaired c.audience ∧ Unpaired c.purpose) := by
  obtain ⟨v, hv, R⟩ := redis_refines B h
  have S := sound_of_reachable hv
  intro r hr
  have hmap : (r.challengeId, r.challenge, r.checked) ∈
      s.returned.map fun r => (r.challengeId, r.challenge, r.checked) := List.mem_map_of_mem hr
  rw [R.returned] at hmap
  obtain ⟨t, ht, heq⟩ := List.mem_map.mp hmap
  obtain ⟨hid, hrest⟩ := Prod.mk.inj heq
  obtain ⟨hchallenge, hchecked⟩ := Prod.mk.inj hrest
  obtain ⟨hmem, hname⟩ := (R.issued _ _).mp (S.taken_issued t ht)
  have hfresh := not_le.mp (S.taken_fresh t ht)
  rw [hchecked] at hfresh
  refine ⟨t.2.1, hmem, (R.askedFor _ hmem).1, hchallenge.symm, (hname.trans hid).symm,
    ⟨R.timely r hr, hfresh⟩, ?_⟩
  rw [← hchallenge]
  exact rejoined_eq_self_iff

/-- No id is handed out twice, whatever audiences and purposes were asked for. -/
theorem redis_once (B : ReadsBack opts.host) (h : RedisReachable opts asks start s) :
    (s.issued.map Challenge.challengeId).Nodup ∧ (s.returned.map Receipt.challengeId).Nodup := by
  obtain ⟨v, hv, R⟩ := redis_refines B h
  refine ⟨R.nodup, ?_⟩
  have hmap := congrArg (List.map Prod.fst) R.returned
  rw [List.map_map, List.map_map] at hmap
  exact hmap ▸ (sound_of_reachable hv).once

end Redis

/-! ## One challenge through each store -/

def sampleUuid : PyStr := py "00000000-0000-4000-8000-000000000001"

instance isHexDigitDecidable (c : CodePoint) : Decidable (IsHexDigit c) :=
  inferInstanceAs (Decidable (_ ∨ _))

theorem isUuid_sampleUuid : IsUuid sampleUuid := by
  have hall : sampleUuid.all (fun c => decide (IsHexDigit c ∨ c = codePoint '-')) = true := by
    decide +kernel
  exact ⟨by decide +kernel, fun c hc => of_decide_eq_true (List.all_eq_true.mp hall c hc)⟩

/-- Two minutes after that moment in 2026. -/
def twoMinutesLater : Timestamp := ⟨moment2026.ms + 120000, by decide⟩

def sampleNow : Datetime := ⟨moment2026.us, by decide, by decide⟩

def sampleLater : Datetime := ⟨twoMinutesLater.us, by decide, by decide⟩

def sampleToken : Bytes := List.replicate 32 0

/-- A challenge with the default lifetime. -/
def sampleChallenge (audience : PyStr) (h : audience ≠ []) : Challenge :=
  ⟨sampleUuid, b64encode sampleToken, audience, purposeAuthenticate, moment2026, twoMinutesLater, h,
    nonceLong_zero⟩

/-- The sample challenge can be issued for any audience. -/
theorem issue_sampleChallenge {audience : PyStr} (h : audience ≠ []) :
    Challenge.issue sampleUuid sampleToken sampleNow audience purposeAuthenticate defaultTtlSeconds
      = .ok (sampleChallenge audience h) := by
  have hdelta : timedelta defaultTtlSeconds = 120000000 := by
    have hcast : defaultTtlSeconds = ((120 : ℤ) : ℚ) := by norm_num [defaultTtlSeconds]
    rw [hcast, timedelta_intCast]
    norm_num
  refine bind_ok_iff.mpr ⟨sampleLater, ?_, ?_⟩
  · rw [hdelta]
    rfl
  · refine Challenge.postInit_ok_iff.mpr ⟨rfl, rfl, rfl, rfl, ?_, ?_⟩
    · exact (normalizeTimestamp_us moment2026 sampleNow.us_nonneg sampleNow.us_lt).symm
    · exact (normalizeTimestamp_us twoMinutesLater sampleLater.us_nonneg sampleLater.us_lt).symm

/-- A store whose deadlines lie two minutes ahead of a clock in seconds. -/
def sampleMemory : MemoryOptions ℕ where
  ttlSeconds := defaultTtlSeconds
  deadlineOf := (· + 120)

theorem sampleMemory_hands_out : ∃ s : InMemoryChallengeStore Unit ℕ,
    MemoryReachable sampleMemory 0 s ∧
      s.returned = [⟨sampleUuid, sampleChallenge keyAudience keyAudience_ne, 1, 1⟩] := by
  obtain ⟨s, hs, hissuing, hclock, hentries, hreturned⟩ : ∃ s : InMemoryChallengeStore Unit ℕ,
      MemoryReachable sampleMemory 0 s ∧
        s.threads () = .issuing 120 (sampleChallenge keyAudience keyAudience_ne) ∧ s.clock = 0 ∧
        s.entries = ∅ ∧ s.returned = [] := by
    refine ⟨_, .single (.make (w := ()) rfl le_rfl List.not_mem_nil
      (issue_sampleChallenge keyAudience_ne)), ?_, rfl, rfl, rfl⟩
    simp only [Function.update_self]
    rfl
  refine ⟨_, (hs.tail (.issue hissuing hclock.le)).tail
    (@MemoryStep.consume ℕ _ Unit _ sampleMemory _ sampleUuid 1 zero_le_one), ?_⟩
  have hpop : (consumeLocked 1 sampleUuid (issueLocked 0 120 (sampleChallenge keyAudience keyAudience_ne)
      s.entries)).1 = some (120, sampleChallenge keyAudience keyAudience_ne) :=
    (lookup_pruneLocked _ _ _ _).mpr ⟨AList.lookup_insert _, by decide⟩
  simp only [hpop, hreturned]
  rfl

/-- Stores with the default options. -/
def sampleRedis : RedisOptions where
  host := mutedHost
  repr _ := []
  parseFloat _ := 0

theorem sampleRedis_reads (t : Timestamp) :
    sampleRedis.host.fromisoformat (canonicalTimestamp t) = .aware t.us := by
  have hhost : sampleRedis.host.fromisoformat = readIso := rfl
  rw [hhost]
  exact readIso_reads t

theorem readsBack_sampleRedis : ReadsBack sampleRedis.host := fun t => Or.inl (sampleRedis_reads t)

theorem sampleRedis_hands_out {asks : PyStr → PyStr → Prop} {audience : PyStr} (h : audience ≠ [])
    (hasks : asks audience purposeAuthenticate) :
    ∃ s : RedisChallengeStore Unit, RedisReachable sampleRedis asks sampleNow s ∧
      s.issued = [sampleChallenge audience h] ∧
      s.returned = [⟨sampleUuid, rejoined (sampleChallenge audience h), sampleNow, sampleNow⟩] := by
  obtain ⟨s, hs, hstoring, hclock, hissued, hreturned⟩ : ∃ s : RedisChallengeStore Unit,
      RedisReachable sampleRedis asks sampleNow s ∧
        s.workers () = .storing (sampleChallenge audience h) ∧ s.clock = sampleNow ∧
        s.issued = [sampleChallenge audience h] ∧ s.returned = [] := by
    refine ⟨_, .single (.make (w := ()) rfl le_rfl isUuid_sampleUuid List.not_mem_nil hasks
      (issue_sampleChallenge h)), ?_, rfl, rfl, rfl⟩
    simp only [Function.update_self]
  obtain ⟨s, hs, hidle, hstored, hclock, hissued, hreturned⟩ : ∃ s : RedisChallengeStore Unit,
      RedisReachable sampleRedis asks sampleNow s ∧ s.workers () = .idle ∧
        (s.server.getdel (sampleRedis.key sampleUuid)).1
          = some (sampleRedis.payload (sampleChallenge audience h)) ∧ s.clock = sampleNow ∧
        s.issued = [sampleChallenge audience h] ∧ s.returned = [] := by
    refine ⟨_, hs.tail (@RedisStep.set Unit _ sampleRedis asks s () _ 0 hstoring), ?_, ?_, hclock,
      hissued, hreturned⟩
    · simp only [Function.update_self]
    · simp only [Server.getdel, Server.set]
      have hid : (sampleChallenge audience h).challengeId = sampleUuid := rfl
      rw [hid, AList.lookup_insert]
      rfl
  obtain ⟨s, hs, hjudging, hclock, hissued, hreturned⟩ : ∃ s : RedisChallengeStore Unit,
      RedisReachable sampleRedis asks sampleNow s ∧
        s.workers () = .judging sampleUuid (sampleRedis.payload (sampleChallenge audience h)) sampleNow ∧
        s.clock = sampleNow ∧ s.issued = [sampleChallenge audience h] ∧ s.returned = [] := by
    refine ⟨_, hs.tail (@RedisStep.getdel Unit _ sampleRedis asks s () sampleUuid sampleNow hidle
      (congrArg Datetime.us hclock).le), ?_, rfl, hissued, hreturned⟩
    simp only [Function.update_self, hstored]
    rfl
  refine ⟨_, hs.tail (@RedisStep.judge Unit _ sampleRedis asks s () _ _ _ sampleNow hjudging
    (congrArg Datetime.us hclock).le), hissued, ?_⟩
  have hrest : consumeRest sampleRedis (sampleRedis.payload (sampleChallenge audience h)) sampleNow
      = .ok (some (rejoined (sampleChallenge audience h))) := by
    have hlt : ¬ (sampleChallenge audience h).expiresAt.us ≤ sampleNow.us :=
      show ¬ twoMinutesLater.us ≤ moment2026.us by decide
    rw [consumeRest_payload (isAscii_uuid isUuid_sampleUuid) (isAscii_b64encode _)
      (sampleRedis_reads _) (sampleRedis_reads _), if_neg hlt]
  simp only [hrest, hreturned]
  rfl

/-! ## Single use -/

/-- The audience and the purpose come back from Redis as they are. -/
def BothUnpaired (audience purpose : PyStr) : Prop := Unpaired audience ∧ Unpaired purpose

/-- **A CHALLENGE AUTHENTICATES AT MOST ONCE**, as it was issued and in time: from memory in every run,
    from Redis in every run whose audiences and purposes hold no two halves of a pair side by side. -/
theorem single_use {W τ : Type} [DecidableEq W] [LinearOrder τ] (memory : MemoryOptions τ)
    (redis : RedisOptions) (B : ReadsBack redis.host) :
    (∀ start (s : InMemoryChallengeStore W τ), MemoryReachable memory start s →
      SingleUse Prod.snd beforeDeadline s.issued s.returned) ∧
    ∀ start (s : RedisChallengeStore W), RedisReachable redis BothUnpaired start s →
      SingleUse id beforeExpiry s.issued s.returned := by
  refine ⟨fun start s h => memory_singleUse h, fun start s h => ?_⟩
  obtain ⟨hfresh, honce⟩ := redis_once B h
  refine ⟨hfresh, honce, fun r hr => ?_⟩
  obtain ⟨c, hmem, hasks, -, hid, htime, heq⟩ := returned_eq_iff B h r hr
  exact ⟨c, hmem, heq.mpr hasks, hid, htime⟩

/-- A challenge of each store, handed out as it was issued. -/
theorem single_use_key :
    (∃ s : InMemoryChallengeStore Unit ℕ, MemoryReachable sampleMemory 0 s ∧ s.returned ≠ [] ∧
      SingleUse Prod.snd beforeDeadline s.issued s.returned) ∧
    ∃ s : RedisChallengeStore Unit, RedisReachable sampleRedis BothUnpaired sampleNow s ∧
      s.returned ≠ [] ∧ SingleUse id beforeExpiry s.issued s.returned := by
  have hasks : BothUnpaired keyAudience purposeAuthenticate :=
    ⟨unpaired_of_ascii (by decide), unpaired_of_ascii (by decide)⟩
  obtain ⟨memory, hmemory, hfirst⟩ := sampleMemory_hands_out
  obtain ⟨redis, hredis, -, hsecond⟩ := sampleRedis_hands_out keyAudience_ne hasks
  obtain ⟨hkept, hkept'⟩ := @single_use Unit ℕ _ _ sampleMemory sampleRedis readsBack_sampleRedis
  refine ⟨⟨memory, hmemory, ?_, hkept 0 memory hmemory⟩, ⟨redis, hredis, ?_, hkept' _ redis hredis⟩⟩
  · rw [hfirst]
    exact List.cons_ne_nil _ _
  · rw [hsecond]
    exact List.cons_ne_nil _ _

/-- The two halves of a pair, side by side. -/
def splitAudience : PyStr := [chr 0xD83D, chr 0xDE00]

theorem splitAudience_ne : splitAudience ≠ [] := List.cons_ne_nil _ _

/-- **ANOTHER AUDIENCE COMES OUT OF REDIS**: two halves were asked for, one character is handed out. -/
theorem joined_audience_returned : ∃ s : RedisChallengeStore Unit,
    RedisReachable sampleRedis (fun _ _ => True) sampleNow s ∧
      s.issued.map Challenge.audience = [splitAudience] ∧
      (s.returned.map fun r => r.challenge.audience) = [[chr 0x1F600]] ∧
      ¬ SingleUse id beforeExpiry s.issued s.returned := by
  obtain ⟨s, hs, hissued, hreturned⟩ := @sampleRedis_hands_out (fun _ _ => True) _
    splitAudience_ne trivial
  have hjoin : join splitAudience = [chr 0x1F600] := by decide
  refine ⟨s, hs, by rw [hissued]; rfl, ?_, fun hkept => ?_⟩
  · rw [hreturned]
    exact congrArg (fun audience => [audience]) hjoin
  · rw [hissued, hreturned] at hkept
    obtain ⟨c, hmem, heq, -⟩ := hkept.as_issued _ List.mem_cons_self
    obtain rfl := List.mem_singleton.mp hmem
    have hself : join splitAudience = splitAudience := congrArg Challenge.audience heq
    rw [hjoin] at hself
    exact absurd hself (by decide)

end AgentChallengeStore
