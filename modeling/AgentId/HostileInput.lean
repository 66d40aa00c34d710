import AgentId.GrantReading
import AgentId.Card

/-!
# What hostile input raises (`delegation.py`, `card.py`)

The canonical form of a payload raises a plain `ValueError` on a float, a `UnicodeEncodeError` on a
lone surrogate and a `RecursionError` on what is nested too deep; sorting scopes of mixed types raises
a `TypeError`, and `base58_decode` a plain `ValueError` on a character outside its alphabet.  None of
them is one of the package's own exceptions, and `is_revoked` and `AgentCard.verify` let them through.

* **`revoked_answers_iff`** — when `is_revoked` answers.
* **`AgentCard.verifyWithin_eq`** — where a payload is not too deep, the depth limit changes nothing.
* **`card_fails_as_own_error_iff`** — when reading and verifying a card raises only the package's
  own exceptions.
-/

namespace AgentHostileInput

open AgentRaises AgentPy AgentBase58 AgentJson AgentCanonicalText AgentNormalization
  AgentJsonRender AgentSigning AgentSerde AgentDelegation AgentRevocation AgentOwnerRecall
  AgentRecursion AgentGrantReading AgentCards

/-- The subclasses of `AgentIdError` (`errors.py`) among the modelled classes. -/
def isAgentIdError : ErrorClass → Bool
  | .addressError | .signatureError | .cardError | .delegationError | .spendScopeError
  | .rotationError => true
  | _ => false

/-- An exception of the package. -/
def IsOwn (e : PyError) : Prop := isAgentIdError e.cls = true

/-! ## What the helpers raise -/

variable {H : Host}

/-- No float in the value, and no lone surrogate in the normal form of its strings. -/
def Writable (nfc : PyStr → PyStr) (v : Json) : Prop := FloatFree v ∧ AllStrings (Encodes nfc) v

/-- A payload is signed exactly when it is writable and no deeper than there is room. -/
theorem exists_signingInput_iff_writable (N : NfcText H.nfc) {room : Room} {context : PyStr}
    (hcontext : IsContext context) {payload : Json} :
    (∃ message, signingInputWithin H room context payload = .ok message) ↔
      Fits room payload ∧ Writable H.nfc payload :=
  (exists_signingInputWithin_iff hcontext).trans (and_congr_right fun _ => canonicalJson_ok_iff N)

/-! ## The revocation predicate -/

theorem isContext_delegation : IsContext contextDelegation := by decide

/-- The scopes can be sorted, and the payload is writable and not too deep. -/
structure Digestible (H : Host) (room : Room) (w : WireDelegation) : Prop where
  sortable : Sortable w.scopes.items
  fits : Fits room w.sortedPayload
  writable : Writable H.nfc w.sortedPayload

variable {room : Room} {reg : RevocationRegistry} {w : WireDelegation}

/-- The payload is written and signed. -/
theorem exists_signed_iff (N : NfcText H.nfc) :
    (∃ payload message, w.payload = .ok payload ∧
        signingInputWithin H room contextDelegation payload = .ok message) ↔
      Digestible H room w := by
  constructor
  · rintro ⟨payload, message, hpayload, hmessage⟩
    obtain ⟨hsortable, rfl⟩ := WireDelegation.payload_ok_iff.mp hpayload
    obtain ⟨hfits, hwritable⟩ :=
      (exists_signingInput_iff_writable N isContext_delegation).mp ⟨message, hmessage⟩
    exact ⟨hsortable, hfits, hwritable⟩
  · intro h
    obtain ⟨message, hmessage⟩ :=
      (exists_signingInput_iff_writable N isContext_delegation).mpr ⟨h.fits, h.writable⟩
    exact ⟨w.sortedPayload, message, WireDelegation.payload_ok_iff.mpr ⟨h.sortable, rfl⟩, hmessage⟩

/-- Otherwise the digest raises, and not a `SignatureError`: it has not come to the signature. -/
theorem digest_of_not_digestible (N : NfcText H.nfc) (h : ¬ Digestible H room w) :
    ∃ e, w.digest H room = .error e ∧ (e.cls = .typeError ∨ e.cls = .valueError ∨
      e.cls = .unicodeEncodeError ∨ e.cls = .recursionError) := by
  obtain ⟨payload, hpayload⟩ | ⟨e, he⟩ := ok_or_error w.payload
  · obtain ⟨message, hmessage⟩ | ⟨e, he⟩ :=
      ok_or_error (signingInputWithin H room contextDelegation payload)
    · exact absurd ((exists_signed_iff N).mp ⟨payload, message, hpayload, hmessage⟩) h
    · exact ⟨e, bind_error_iff.mpr (Or.inr ⟨payload, hpayload, bind_error_iff.mpr (Or.inl he)⟩),
        Or.inr (signingInputWithin_error isContext_delegation he)⟩
  · exact ⟨e, bind_error_iff.mpr (Or.inl he), Or.inl (WireDelegation.payload_error he)⟩

/-- Then `is_revoked` raises it. -/
theorem isRevoked_of_not_digestible (N : NfcText H.nfc) (h : ¬ Digestible H room w) :
    ∃ e, isRevokedWithin H room reg w = .error e ∧ (e.cls = .typeError ∨ e.cls = .valueError ∨
      e.cls = .unicodeEncodeError ∨ e.cls = .recursionError) := by
  obtain ⟨e, hdigest, hcls⟩ := digest_of_not_digestible N h
  refine ⟨e, ?_, hcls⟩
  have hsig : e.cls ≠ .signatureError := by
    intro hsig
    rw [hsig] at hcls
    rcases hcls with hcls | hcls | hcls | hcls
    · cases hcls
    · cases hcls
    · cases hcls
    · cases hcls
  rw [isRevokedWithin, hdigest]
  exact if_neg hsig

/-- Of a digestible grant it answers, and `False` where the signature cannot be decoded. -/
theorem isRevoked_of_digestible (N : NfcText H.nfc) (reg : RevocationRegistry)
    (h : Digestible H room w) :
    (∃ b, isRevokedWithin H room reg w = .ok b) ∧
      ((∀ raw, decodeSignature (.str w.signature) ≠ .ok raw) →
        isRevokedWithin H room reg w = .ok false) := by
  obtain ⟨payload, message, hpayload, hmessage⟩ := (exists_signed_iff N).mpr h
  obtain ⟨raw, hraw⟩ | ⟨e, he⟩ := ok_or_error (decodeSignature (.str w.signature))
  · have hdigest : w.digest H room = .ok (hexdigest (H.sha256 (message ++ raw))) :=
      bind_ok_iff.mpr ⟨payload, hpayload, bind_ok_iff.mpr ⟨message, hmessage,
        bind_ok_iff.mpr ⟨raw, hraw, rfl⟩⟩⟩
    refine ⟨⟨decide (hexdigest (H.sha256 (message ++ raw)) ∈ reg.digests), ?_⟩,
      fun hno => absurd hraw (hno raw)⟩
    rw [isRevokedWithin, hdigest]
  · have hdigest : w.digest H room = .error e :=
      bind_error_iff.mpr (Or.inr ⟨payload, hpayload, bind_error_iff.mpr
        (Or.inr ⟨message, hmessage, bind_error_iff.mpr (Or.inl he)⟩)⟩)
    have hfalse : isRevokedWithin H room reg w = .ok false := by
      rw [isRevokedWithin, hdigest]
      exact if_pos (decodeSignature_error he)
    exact ⟨⟨false, hfalse⟩, fun _ => hfalse⟩

/-- There are canonical bytes of the payload. -/
def HasForm (H : Host) (w : WireDelegation) : Prop :=
  ∃ payload, w.payload = .ok payload ∧ HasBytes H.nfc payload

/-- `is_revoked` returns a boolean, and `False` where the payload has no canonical form or the
    signature cannot be decoded. -/
structure AnswersSafely (H : Host) (room : Room) (reg : RevocationRegistry) (w : WireDelegation) :
    Prop where
  answers : ∃ b, isRevokedWithin H room reg w = .ok b
  unsigned : (¬ HasForm H w ∨ ∀ raw, decodeSignature (.str w.signature) ≠ .ok raw) →
    isRevokedWithin H room reg w = .ok false

/-- **WHEN THE PREDICATE ANSWERS**: exactly for the grants whose scopes can be sorted and whose
    payload holds no float, no lone surrogate, and nothing too deep. -/
theorem revoked_answers_iff (H : Host) (N : NfcText H.nfc) (room : Room) (reg : RevocationRegistry)
    (w : WireDelegation) : AnswersSafely H room reg w ↔ Digestible H room w := by
  constructor
  · intro h
    by_contra hno
    obtain ⟨b, hb⟩ := h.answers
    obtain ⟨e, he, -⟩ := @isRevoked_of_not_digestible H room reg w N hno
    rw [he] at hb
    cases hb
  · intro h
    obtain ⟨hanswers, hmalformed⟩ := isRevoked_of_digestible N reg h
    refine ⟨hanswers, fun hno => hno.elim (fun hform => ?_) hmalformed⟩
    exact absurd ⟨w.sortedPayload, WireDelegation.payload_ok_iff.mpr ⟨h.sortable, rfl⟩,
      (canonicalJson_ok_iff N).mpr h.writable⟩ hform

/-- Strings are not compared with numbers. -/
example : ¬ Sortable [.int 1, .str (py "a")] ∧ Sortable [.int 1, .bool false] := by decide

section Samples

open AgentIsoText AgentWireForm

/-- Room for a thousand calls, less those that led to this one. -/
def sampleRoom : Room := ⟨990, 990, 990⟩

theorem hashable_numbers : ∀ v ∈ [Json.int 7, .int 3], isHashable v = true := by decide

theorem distinct_numbers : [Json.int 7, .int 3].Pairwise fun v w => sameValue v w = false := by decide

/-- The grant of an hour, of two scopes that are numbers. -/
def numberedGrant : WireDelegation where
  issuer := hourGrant.issuer
  subject := hourGrant.subject
  scopes := ⟨[.int 7, .int 3], hashable_numbers, distinct_numbers⟩
  issuedAt := hourGrant.issuedAt
  expiresAt := hourGrant.expiresAt
  signature := hourGrant.signature
  critical := []
  extra := []
  extra_nodup := List.nodup_nil
  extra_shadows_nothing := nothing_shadows
  critical_present := nothing_critical

theorem inOrder_numbers : inOrder [.int 7, .int 3] = [.int 3, .int 7] := by
  have hle : scopeLe (.int 7) (.int 3) = false := by decide +kernel
  simp [inOrder, hle]

theorem asciiJson_numberedGrant : AsciiJson numberedGrant.sortedPayload := by
  rw [WireDelegation.sortedPayload, show inOrder numberedGrant.scopes.items = _ from inOrder_numbers]
  refine .obj_cons (by decide) (.str (isAscii_constAddress 2)) ?_
  refine .obj_cons (by decide) (.str (isAscii_constAddress 1)) ?_
  refine .obj_cons (by decide) (.arr fun v hv => ?_) ?_
  · rcases List.mem_pair.mp hv with rfl | rfl
    · exact .int 3
    · exact .int 7
  · refine .obj_cons (by decide) (asciiJson_timestamp _) ?_
    exact .obj_cons (by decide) (asciiJson_timestamp _) .obj_nil

/-- Of the grant it answers. -/
theorem revoked_answers_iff_numbered : AnswersSafely openHost sampleRoom {} numberedGrant := by
  refine (revoked_answers_iff openHost sampleNfc_text sampleRoom {} numberedGrant).mpr
    ⟨by decide, ?_, ?_⟩
  · rw [WireDelegation.sortedPayload, show inOrder numberedGrant.scopes.items = _ from inOrder_numbers]
    exact ⟨by decide, by decide⟩
  · exact (canonicalJson_ok_iff sampleNfc_text).mp
      (asciiJson_numberedGrant.canonicalJson_ok sampleNfc_text.toNfcLaws)

/-- An extension with the number 0.5. -/
def halfWeight : Members := [(py "weight", .float 0x3FE0000000000000)]

theorem halfWeight_shadows_nothing : ∀ k ∈ halfWeight.map Prod.fst, k ∉ delegationFields := by decide

/-- The grant of an hour, with the extension. -/
def weightedGrant : Delegation :=
  { hourGrant with
    extra := halfWeight
    extra_nodup := List.nodup_singleton _
    extra_shadows_nothing := halfWeight_shadows_nothing
    critical_present := fun _ h => absurd h List.not_mem_nil }

theorem weightedGrant_not_writable : ¬ Writable openHost.nfc weightedGrant.payload := by
  rintro ⟨hfree, -⟩
  cases hfree with
  | obj hmembers =>
      have hfloat := hmembers (py "weight", .float 0x3FE0000000000000)
        (List.mem_append_right _ (List.mem_singleton_self _))
      cases hfloat

/-- The grant comes off the wire, and asking whether it was revoked raises, in any room. -/
theorem isRevoked_raises :
    ∃ w, WireDelegation.modelValidate openHost weightedGrant.modelDump = .ok w ∧ ∀ room,
      ¬ AnswersSafely openHost room {} w ∧ ∃ e, isRevokedWithin openHost room {} w = .error e ∧
        e.cls ≠ .signatureError := by
  have hyears : GrantYears weightedGrant := by
    simp only [GrantYears, FourDigitYear]
    exact ⟨by decide, by decide⟩
  obtain ⟨w, hread, hreads⟩ :=
    modelValidate_reads (Delegation.modelValidate_modelDump openHost_isoReads hyears)
  refine ⟨w, hread, fun room => ?_⟩
  have hpayload := (WireDelegation.payload_ok_iff.mp hreads.payload).2
  obtain ⟨e, he, hcls⟩ := @isRevoked_of_not_digestible openHost room {} w sampleNfc_text
    fun h => weightedGrant_not_writable (hpayload ▸ h.writable)
  refine ⟨fun h => ?_, e, he, fun hsig => ?_⟩
  · obtain ⟨b, hb⟩ := h.answers
    rw [he] at hb
    cases hb
  · rw [hsig] at hcls
    rcases hcls with hcls | hcls | hcls | hcls
    · cases hcls
    · cases hcls
    · cases hcls
    · cases hcls

end Samples

/-! ## Cards -/

theorem iterate_error {v : Json} : Raises (fun e => e.cls = .typeError) (iterate v) := by
  cases v with
  | arr | str | obj => exact raises_ok _
  | null | bool | int | float => exact raises_error_iff.mpr rfl

theorem requireStr_error {name : PyStr} {v : Json} :
    Raises (fun e => e.cls = .typeError) (requireStr name v) := by
  cases v with
  | str => exact raises_ok _
  | null | bool | int | float | arr | obj => exact raises_error_iff.mpr rfl

theorem requireMapping_error {name : PyStr} {v : Json} :
    Raises (fun e => e.cls = .typeError) (requireMapping name v) := by
  cases v with
  | obj => exact raises_ok _
  | null | bool | int | float | arr | str => exact raises_error_iff.mpr rfl

theorem participantKind_error {v : Json} :
    Raises (fun e => e.cls = .valueError) (participantKind v) := by
  cases v with
  | str s =>
      rw [participantKind]
      split_ifs
      · exact raises_ok ParticipantKind.agent
      · exact raises_ok ParticipantKind.human
      · exact raises_ok ParticipantKind.service
      · exact raises_error_iff.mpr rfl
  | null | bool | int | float | arr | obj => exact raises_error_iff.mpr rfl

/-- The `RecursionError` of a `repr`. -/
def reprTooDeep : Py ParticipantKind :=
  raise .recursionError ["maximum recursion depth exceeded while getting the repr of an object"]

/-- `ParticipantKind(value)`, whose `ValueError` spells the value with `repr`. -/
def participantKindWithin (room : Room) (value : Json) : Py ParticipantKind :=
  match participantKind value with
  | .ok kind => .ok kind
  | .error e => if room.reprs < depth value then reprTooDeep else .error e

theorem participantKindWithin_of_error {v : Json} {e : PyError} (h : participantKind v = .error e) :
    participantKindWithin room v = if room.reprs < depth v then reprTooDeep else .error e := by
  rw [participantKindWithin, h]

theorem participantKindWithin_of_ok {v : Json} {kind : ParticipantKind}
    (h : participantKind v = .ok kind) : participantKindWithin room v = .ok kind := by
  rw [participantKindWithin, h]

/-- The kinds are the kinds there are. -/
theorem participantKindWithin_ok_iff {v : Json} {kind : ParticipantKind} :
    participantKindWithin room v = .ok kind ↔ participantKind v = .ok kind := by
  obtain ⟨k, hk⟩ | ⟨e, he⟩ := ok_or_error (participantKind v)
  · rw [participantKindWithin_of_ok hk, hk]
  · rw [participantKindWithin_of_error he, he]
    refine iff_of_false (fun h => ?_) fun h => by cases h
    by_cases hdeep : room.reprs < depth v
    · rw [if_pos hdeep] at h
      cases h
    · rw [if_neg hdeep] at h
      cases h

/-- What leaves `AgentCard.model_validate` as a `CardError` when its constructor raises it. -/
def IsCaught (e : PyError) : Prop :=
  e.cls = .typeError ∨ e.cls = .valueError ∨ e.cls = .cardError

/-- A kind that is none can be spelled. -/
def KindSpelled (room : Room) (v : Json) : Prop :=
  (∃ kind, participantKind v = .ok kind) ∨ depth v ≤ room.reprs

theorem raises_participantKindWithin_iff {v : Json} :
    Raises IsCaught (participantKindWithin room v) ↔ KindSpelled room v := by
  obtain ⟨kind, hkind⟩ | ⟨e, he⟩ := ok_or_error (participantKind v)
  · rw [participantKindWithin_of_ok hkind]
    exact iff_of_true (raises_ok kind) (Or.inl ⟨kind, hkind⟩)
  · rw [participantKindWithin_of_error he]
    by_cases hdeep : room.reprs < depth v
    · rw [if_pos hdeep]
      refine iff_of_false (fun h => ?_) ?_
      · rcases raises_error_iff.mp h with hbad | hbad | hbad
        · cases hbad
        · cases hbad
        · cases hbad
      · rintro (⟨kind, h⟩ | h)
        · rw [he] at h
          cases h
        · exact hdeep.not_ge h
    · rw [if_neg hdeep]
      exact iff_of_true (raises_error_iff.mpr (Or.inr (Or.inl (participantKind_error he))))
        (Or.inr (not_lt.mp hdeep))

/-- What comes after the kind raises nothing else in any case. -/
theorem raises_kind_bind_iff {α : Type} {v : Json} {f : ParticipantKind → Py α}
    (hf : ∀ kind, Raises IsCaught (f kind)) :
    Raises IsCaught (participantKindWithin room v >>= f) ↔ KindSpelled room v := by
  rw [raises_bind_iff, raises_participantKindWithin_iff]
  exact and_iff_left fun kind _ => hf kind

/-- A string is asked for and found, or what follows is not come to. -/
theorem raises_requireStr_bind_iff {α : Type} {name : PyStr} {v : Json} {f : PyStr → Py α} :
    Raises IsCaught (requireStr name v >>= f) ↔ ∀ s, v = .str s → Raises IsCaught (f s) := by
  have herror : Raises IsCaught (requireStr name v) := requireStr_error.weaken fun _ => Or.inl
  rw [raises_bind_iff, and_iff_right herror]
  exact forall_congr' fun s => imp_congr_left requireStr_ok_iff

theorem raises_requireMapping_bind_iff {α : Type} {name : PyStr} {v : Json} {f : Members → Py α} :
    Raises IsCaught (requireMapping name v >>= f) ↔
      ∀ members, v = .obj members → Raises IsCaught (f members) := by
  have herror : Raises IsCaught (requireMapping name v) :=
    requireMapping_error.weaken fun _ => Or.inl
  rw [raises_bind_iff, and_iff_right herror]
  exact forall_congr' fun members => imp_congr_left requireMapping_ok_iff

/-- The fields that are looked at before the kind. -/
structure Checked (address name signingKey agreementKey endpoints : Json) : Prop where
  address : ∃ s, address = .str s
  name : ∃ s, name = .str s
  signingKey : ∃ s, signingKey = .str s
  agreementKey : ∃ s, agreementKey = .str s
  endpoints : ∃ members, endpoints = .obj members

/-- The constructor raises a `TypeError` or a `ValueError` unless it comes to a kind that cannot be
    spelled. -/
theorem AgentCard.raises_postInitWith_iff {amp address name kind operator signingKey agreementKey
    agreementPrekey payloadTypes endpoints policySummary signature critical : Json}
    {members : Members} :
    Raises IsCaught
        (AgentCard.postInitWith (participantKindWithin room) amp address name kind operator signingKey
          agreementKey agreementPrekey payloadTypes endpoints policySummary signature critical
          (members.filter (·.1 ∉ cardFields))) ↔
      (Checked address name signingKey agreementKey endpoints → KindSpelled room kind) := by
  rw [AgentCard.postInitWith, raises_requireStr_bind_iff]
  simp only [raises_requireStr_bind_iff, raises_requireMapping_bind_iff,
    dif_pos (extensions_shadow_nothing members)]
  constructor
  · rintro h ⟨⟨_, rfl⟩, ⟨_, rfl⟩, ⟨_, rfl⟩, ⟨_, rfl⟩, ⟨_, rfl⟩⟩
    exact raises_participantKindWithin_iff.mp
      (raises_bind_iff.mp (h _ rfl _ rfl _ rfl _ rfl _ rfl)).1
  · intro h s haddress s' hname key hkey agreement hagreement found hendpoints
    refine (raises_kind_bind_iff fun _ => ?_).mpr
      (h ⟨⟨s, haddress⟩, ⟨s', hname⟩, ⟨key, hkey⟩, ⟨agreement, hagreement⟩, ⟨found, hendpoints⟩⟩)
    -- the constructor is past the kind: the payload types, then the critical names
    refine (iterate_error.weaken fun _ => Or.inl).bind fun _ _ => ?_
    refine (iterate_error.weaken fun _ => Or.inl).bind fun _ _ => ?_
    refine Raises.bind (raises_mapM fun _ _ => requireStr_error.weaken fun _ => Or.inl)
      fun _ _ => ?_
    split_ifs
    · exact raises_ok _
    · exact raises_error_iff.mpr (Or.inr (Or.inl rfl))

/-- The required members are strings, the endpoints a mapping: the kind is looked at. -/
def ComesToKind (members : Members) : Prop :=
  (∀ k ∈ requiredCardFields, ∃ s, members.lookup k = some (.str s)) ∧
    ∃ endpoints, getFieldOr members (py "endpoints") (.obj []) = .obj endpoints

/-- If the kind is looked at, it is one or can be spelled. -/
def KindReadable (room : Room) (members : Members) : Prop :=
  ComesToKind members →
    KindSpelled room (getFieldOr members (py "kind") (.str ParticipantKind.agent.value))

/-- With its required members there, a card is refused as its kind is. -/
theorem AgentCard.raises_fromFieldsWith_iff {members : Members}
    (hthere : ∀ k ∈ requiredCardFields, k ∈ members.map Prod.fst) :
    Raises IsCaught (AgentCard.fromFieldsWith (participantKindWithin room) members) ↔
      KindReadable room members := by
  simp only [requiredCardFields, List.forall_mem_cons, List.not_mem_nil, false_imp_iff, implies_true,
    and_true, AgentDict.mem_keys_iff] at hthere
  obtain ⟨⟨address, haddress⟩, ⟨name, hname⟩, ⟨key, hkey⟩, ⟨agreement, hagreement⟩⟩ := hthere
  have hcomes : ComesToKind members ↔ Checked address name key agreement
      (getFieldOr members (py "endpoints") (.obj [])) := by
    simp only [ComesToKind, requiredCardFields, List.forall_mem_cons, List.not_mem_nil, false_imp_iff,
      implies_true, and_true, haddress, hname, hkey, hagreement, Option.some.injEq]
    constructor
    · rintro ⟨⟨h₁, h₂, h₃, h₄⟩, h₅⟩
      exact ⟨h₁, h₂, h₃, h₄, h₅⟩
    · rintro ⟨h₁, h₂, h₃, h₄, h₅⟩
      exact ⟨⟨h₁, h₂, h₃, h₄⟩, h₅⟩
  rw [AgentCard.fromFieldsWith, getField_ok_iff.mpr haddress, getField_ok_iff.mpr hname,
    getField_ok_iff.mpr hkey, getField_ok_iff.mpr hagreement, KindReadable, hcomes]
  exact AgentCard.raises_postInitWith_iff

/-- `AgentCard.model_validate`, in the room there is. -/
def AgentCard.modelValidateWithin (room : Room) : Json → Py AgentCard :=
  AgentCard.modelValidateWith (participantKindWithin room)

/-- The cards that are read are the cards there are. -/
theorem AgentCard.modelValidateWithin_ok_iff {members : Members} {c : AgentCard} :
    AgentCard.modelValidateWithin room (.obj members) = .ok c ↔ ReadFrom members c :=
  AgentCard.modelValidateWith_ok_iff participantKindWithin_ok_iff

/-- What the constructor raises comes out as a `CardError` if it is caught. -/
theorem raises_asCardError_iff {α : Type} {x : Py α} :
    Raises (fun e => e.cls = .cardError) (asCardError x) ↔ Raises IsCaught x := by
  cases x with
  | ok a => exact iff_of_true (raises_ok a) (raises_ok a)
  | error e =>
      rw [asCardError, raises_error_iff (p := IsCaught)]
      by_cases hcls : e.cls = .typeError ∨ e.cls = .valueError
      · rw [if_pos hcls]
        exact iff_of_true (raises_error_iff.mpr rfl) (or_assoc.mp (Or.inl hcls))
      · rw [if_neg hcls, raises_error_iff, IsCaught, ← or_assoc]
        exact (or_iff_right hcls).symm

/-- **READING A CARD** raises only a `CardError` exactly if its kind can be read. -/
theorem AgentCard.raises_modelValidateWithin_iff {members : Members} :
    Raises (fun e => e.cls = .cardError) (AgentCard.modelValidateWithin room (.obj members)) ↔
      KindReadable room members := by
  rw [AgentCard.modelValidateWithin, AgentCard.modelValidateWith, raises_bind_iff]
  simp only [raises_asCardError_iff, raiseIf_ok_iff, not_not, List.filter_eq_nil_iff,
    decide_eq_true_eq]
  constructor
  · rintro ⟨-, h⟩ hcomes
    have hthere : ∀ k ∈ requiredCardFields, k ∈ members.map Prod.fst := by
      intro k hk
      obtain ⟨s, hs⟩ := hcomes.1 k hk
      exact AgentDict.mem_keys_iff.mpr ⟨_, hs⟩
    exact (AgentCard.raises_fromFieldsWith_iff hthere).mp (h () hthere) hcomes
  · intro h
    refine ⟨raises_raiseIf rfl, fun _ hthere => ?_⟩
    exact (AgentCard.raises_fromFieldsWith_iff hthere).mpr h

/-- `AgentCard.verify`, in the room there is. -/
def AgentCard.verifyWithin (H : Host) (room : Room) (c : AgentCard)
    (understoodExtensions : List PyStr) : Py Unit := do
  let signing ← c.checkKeys
  verifyPayloadWithin H room signing contextAgentCard c.payload c.signature
  let unrecognized := c.critical.filter (· ∉ understoodExtensions)
  raiseIf (unrecognized ≠ []) .signatureError
    ["card marks extension fields critical that this verifier does not understand: ",
      .names (sortedStrs unrecognized.dedup)]

/-- Where the payload fits, nothing is different. -/
theorem AgentCard.verifyWithin_eq {c : AgentCard} {understood : List PyStr}
    (h : Fits room c.payload) : AgentCard.verifyWithin H room c understood = c.verify H understood := by
  rw [AgentCard.verifyWithin, AgentCard.verify]
  simp only [verifyPayloadWithin_eq h]

/-- The keys of the card are base58 where they are looked at, and its payload is writable and not
    too deep if the signature is looked at. -/
structure CardReadable (H : Host) (room : Room) (c : AgentCard) : Prop where
  signingKey : ∀ key, signingKeyFromAddress c.address = .ok key →
    ∀ ch ∈ c.signingKey, ch ∈ alphabet
  agreementKey : ∀ key, signingKeyFromAddress c.address = .ok key →
    base58Decode c.signingKey = .ok key → ∀ ch ∈ c.agreementKey, ch ∈ alphabet
  payload : ∀ key raw, signingKeyFromAddress c.address = .ok key →
    base58Decode c.signingKey = .ok key → (∀ ch ∈ c.agreementKey, ch ∈ alphabet) →
    decodeSignature c.signature = .ok raw → Fits room c.payload ∧ Writable H.nfc c.payload

theorem isContext_agentCard : IsContext contextAgentCard := by decide

/-- Base58 decoding stays within the package's exceptions on text of its alphabet. -/
theorem raises_base58Decode_iff {text : PyStr} :
    Raises IsOwn (base58Decode text) ↔ ∀ ch ∈ text, ch ∈ alphabet := by
  refine (base58Decode_error.iff_ok fun e he hown => ?_).trans base58Decode_ok_iff_alphabet
  rw [IsOwn, he] at hown
  cases hown

/-- Signing stays within them on a writable payload that is not too deep. -/
theorem raises_signingInputWithin_iff (N : NfcText H.nfc) {context : PyStr}
    (hcontext : IsContext context) {payload : Json} :
    Raises IsOwn (signingInputWithin H room context payload) ↔
      Fits room payload ∧ Writable H.nfc payload := by
  refine ((signingInputWithin_error hcontext).iff_ok fun e he hown => ?_).trans
    (exists_signingInput_iff_writable N hcontext)
  rcases he with he | he | he
  · rw [IsOwn, he] at hown
    cases hown
  · rw [IsOwn, he] at hown
    cases hown
  · rw [IsOwn, he] at hown
    cases hown

theorem raises_signingKeyFromAddress {address : PyStr} :
    Raises IsOwn (signingKeyFromAddress address) :=
  signingKeyFromAddress_error.weaken fun e he => by
    rw [IsOwn, he]
    rfl

theorem raises_decodeSignature {v : Json} : Raises IsOwn (decodeSignature v) :=
  decodeSignature_error.weaken fun e he => by
    rw [IsOwn, he]
    rfl

/-- The second key is only looked at when the first is the key of the address. -/
theorem AgentCard.raises_checkKeys_iff {c : AgentCard} :
    Raises IsOwn c.checkKeys ↔ ∀ key, signingKeyFromAddress c.address = .ok key →
      (∀ ch ∈ c.signingKey, ch ∈ alphabet) ∧
        (base58Decode c.signingKey = .ok key → ∀ ch ∈ c.agreementKey, ch ∈ alphabet) := by
  rw [AgentCard.checkKeys, raises_bind_iff, and_iff_right raises_signingKeyFromAddress]
  refine forall₂_congr fun key _ => ?_
  rw [raises_bind_iff, raises_base58Decode_iff]
  refine and_congr_right fun _ => ?_
  constructor
  · intro h hdeclared
    have hsame : raiseIf (key ≠ key) .signatureError
        ["card signing_key does not match its address"] = .ok () :=
      (raiseIf_ok_iff ..).mpr (not_not.mpr rfl)
    have hrest := (raises_bind_iff.mp (h key hdeclared)).2 () hsame
    exact raises_base58Decode_iff.mp (raises_bind_iff.mp hrest).1
  · intro h declared hdeclared
    refine Raises.bind (raises_raiseIf rfl) fun _ hsame => ?_
    rw [raiseIf_ok_iff, not_not] at hsame
    exact (raises_base58Decode_iff.mpr (h (hsame ▸ hdeclared))).bind fun _ _ => raises_ok _

/-- **WHAT VERIFYING A CARD RAISES**: only the package's own exceptions exactly if the card can be
    read. -/
theorem AgentCard.raises_verifyWithin_iff (N : NfcText H.nfc) {c : AgentCard}
    {understood : List PyStr} :
    Raises IsOwn (AgentCard.verifyWithin H room c understood) ↔ CardReadable H room c := by
  rw [AgentCard.verifyWithin, raises_bind_iff, AgentCard.raises_checkKeys_iff]
  constructor
  · rintro ⟨hkeys, hrest⟩
    refine ⟨fun key hkey => (hkeys key hkey).1, fun key hkey => (hkeys key hkey).2,
      fun key raw hkey hdeclared hagreement hraw => ?_⟩
    have hok := AgentCard.checkKeys_ok_iff.mpr
      ⟨hkey, hdeclared, base58Decode_ok_iff_alphabet.mpr hagreement⟩
    have hpayload := (raises_bind_iff.mp (hrest key hok)).1
    have hsigned := (raises_bind_iff.mp hpayload).2 raw hraw
    exact (raises_signingInputWithin_iff N isContext_agentCard).mp (raises_bind_iff.mp hsigned).1
  · intro hc
    refine ⟨fun key hkey => ⟨hc.signingKey key hkey, hc.agreementKey key hkey⟩, fun key hok => ?_⟩
    obtain ⟨hkey, hdeclared, hagreement⟩ := AgentCard.checkKeys_ok_iff.mp hok
    rw [base58Decode_ok_iff_alphabet] at hagreement
    refine Raises.bind (raises_decodeSignature.bind fun raw hraw => ?_) fun _ _ => raises_raiseIf rfl
    have hwritable := hc.payload key raw hkey hdeclared hagreement hraw
    refine Raises.bind ?_ fun _ _ => raises_raiseIf rfl
    exact (raises_signingInputWithin_iff N isContext_agentCard).mpr hwritable

/-- Reading the wire value raises only a `CardError`, and verifying the card read from it only an
    exception of the package. -/
structure FailsAsOwnError (H : Host) (room : Room) (v : Json) (understood : List PyStr) : Prop where
  reading : ∀ e, AgentCard.modelValidateWithin room v = .error e → e.cls = .cardError
  verifying : ∀ c e, AgentCard.modelValidateWithin room v = .ok c →
    AgentCard.verifyWithin H room c understood = .error e → isAgentIdError e.cls = true

/-- **WHEN HOSTILE CARDS FAIL AS THEY SHOULD**: the fields the wire value holds decode where they
    are looked at, and neither its kind nor the card it makes is nested deeper than there is room. -/
theorem card_fails_as_own_error_iff (H : Host) (N : NfcText H.nfc) (room : Room) (v : Json)
    (understood : List PyStr) :
    FailsAsOwnError H room v understood ↔
      ∀ members, v = .obj members →
        KindReadable room members ∧ ∀ c, ReadFrom members c → CardReadable H room c := by
  constructor
  · rintro h members rfl
    refine ⟨AgentCard.raises_modelValidateWithin_iff.mp fun e he => h.reading e he,
      fun c hread => ?_⟩
    have hraises : Raises IsOwn (AgentCard.verifyWithin H room c understood) :=
      fun e he => h.verifying c e (AgentCard.modelValidateWithin_ok_iff.mpr hread) he
    exact (AgentCard.raises_verifyWithin_iff N).mp hraises
  · intro h
    cases v with
    | obj members =>
        obtain ⟨hkind, hreadable⟩ := h members rfl
        refine ⟨fun e he => AgentCard.raises_modelValidateWithin_iff.mpr hkind he,
          fun c e hread he => ?_⟩
        have hcard := hreadable c (AgentCard.modelValidateWithin_ok_iff.mp hread)
        exact (AgentCard.raises_verifyWithin_iff N).mpr hcard he
    | null | bool | int | float | arr | str =>
        refine ⟨fun e he => ?_, fun c e hread _ => ?_⟩
        · cases he
          rfl
        · cases hread

section Samples

/-- Arrays inside one another. -/
def nested : ℕ → Json
  | 0 => .arr []
  | n + 1 => .arr [nested n]

theorem nesting_nested (leaf n : ℕ) : nesting leaf (nested n) = n + 1 := by
  induction n with
  | zero => rfl
  | succ n ih => rw [nested, nesting, nestingItems, nestingItems, ih, Nat.max_zero]

theorem asciiJson_nested (n : ℕ) : AsciiJson (nested n) := by
  induction n with
  | zero => exact .arr fun v hv => absurd hv List.not_mem_nil
  | succ n ih =>
      refine .arr fun v hv => ?_
      rw [List.mem_singleton.mp hv]
      exact ih

/-- A card of key 1, unsigned, with an extension of arrays inside one another. -/
def nestedCard (n : ℕ) : Members :=
  [(py "address", .str (constAddress 1)), (py "name", .str (py "agent")),
    (py "signing_key", .str (base58Encode (constKey 1))),
    (py "agreement_key", .str (base58Encode (constKey 2))), (py "x-trace", nested n)]

/-- The payload of the card that is read of it. -/
def nestedPayload (n : ℕ) : Json :=
  .obj [(py "amp", .str defaultProtocolVersion), (py "address", .str (constAddress 1)),
    (py "name", .str (py "agent")), (py "kind", .str (py "agent")), (py "operator", .null),
    (py "signing_key", .str (base58Encode (constKey 1))),
    (py "agreement_key", .str (base58Encode (constKey 2))), (py "agreement_prekey", .null),
    (py "payload_types", defaultPayloadTypes), (py "endpoints", .obj []),
    (py "policy_summary", .str []), (py "x-trace", nested n)]

theorem nestedCard_read (n : ℕ) :
    ∃ c, ReadFrom (nestedCard n) c ∧ c.address = constAddress 1 ∧
      c.signingKey = base58Encode (constKey 1) ∧ c.agreementKey = base58Encode (constKey 2) ∧
      c.signature = .str [] ∧ c.payload = nestedPayload n :=
  ⟨_, AgentCard.modelValidate_ok_iff.mp rfl, rfl, rfl, rfl, rfl, rfl⟩

/-- Only one card is read of the members. -/
theorem readFrom_unique {members : Members} {c c' : AgentCard} (h : ReadFrom members c)
    (h' : ReadFrom members c') : c = c' := by
  have hc := AgentCard.modelValidate_ok_iff.mpr h
  rw [AgentCard.modelValidate_ok_iff.mpr h'] at hc
  exact (Except.ok.inj hc).symm

theorem fits_nestedPayload {n : ℕ} (hn : 0 < n) :
    Fits room (nestedPayload n) ↔ n + 2 ≤ room.calls ∧ n + 2 ≤ room.containers := by
  simp only [Fits, depth, containerDepth, nestedPayload, defaultPayloadTypes, nesting, nestingMembers,
    nestingItems, nesting_nested]
  omega

theorem writable_nestedPayload (n : ℕ) : Writable openHost.nfc (nestedPayload n) := by
  have hascii : AsciiJson (nestedPayload n) := by
    refine .obj_cons (by decide) (.str (by decide)) ?_
    refine .obj_cons (by decide) (.str (isAscii_constAddress 1)) ?_
    refine .obj_cons (by decide) (.str (by decide)) ?_
    refine .obj_cons (by decide) (.str (by decide)) ?_
    refine .obj_cons (by decide) .null ?_
    refine .obj_cons (by decide) (.str (isAscii_of_base58Decode (base58Decode_base58Encode _))) ?_
    refine .obj_cons (by decide) (.str (isAscii_of_base58Decode (base58Decode_base58Encode _))) ?_
    refine .obj_cons (by decide) .null ?_
    refine .obj_cons (by decide) (@asciiJson_strs [py "text/plain", py "application/json"] ?_) ?_
    · decide
    refine .obj_cons (by decide) .obj_nil ?_
    exact .obj_cons (by decide) (.str (by decide)) (.obj_cons (by decide) (asciiJson_nested n) .obj_nil)
  exact (canonicalJson_ok_iff sampleNfc_text).mp (hascii.canonicalJson_ok sampleNfc_text.toNfcLaws)

/-- How deep the card can be. -/
theorem cardReadable_nested {n : ℕ} (hn : 0 < n) :
    (KindReadable sampleRoom (nestedCard n) ∧
      ∀ c, ReadFrom (nestedCard n) c → CardReadable openHost sampleRoom c) ↔ n ≤ 988 := by
  obtain ⟨c, hread, haddress, hsigning, hagreement, hsignature, hpayload⟩ := nestedCard_read n
  have hkey : signingKeyFromAddress c.address = .ok (constKey 1) := by
    rw [haddress]
    exact signingKey_constAddress 1
  have hdeclared : base58Decode c.signingKey = .ok (constKey 1) := by
    rw [hsigning]
    exact base58Decode_base58Encode _
  have hsigned : ∀ ch ∈ c.signingKey, ch ∈ alphabet :=
    base58Decode_ok_iff_alphabet.mp ⟨_, hdeclared⟩
  have hagreed : ∀ ch ∈ c.agreementKey, ch ∈ alphabet := by
    rw [hagreement]
    exact base58Decode_ok_iff_alphabet.mp ⟨_, base58Decode_base58Encode _⟩
  have hfits : Fits sampleRoom c.payload ↔ n ≤ 988 := by
    rw [hpayload, fits_nestedPayload hn]
    simp only [sampleRoom]
    omega
  constructor
  · rintro ⟨-, h⟩
    have hraw : decodeSignature c.signature = .ok [] := by
      rw [hsignature]
      exact decodeSignature_b64encode []
    exact hfits.mp ((h c hread).payload _ _ hkey hdeclared hagreed hraw).1
  · intro h
    refine ⟨fun _ => Or.inl ⟨.agent, rfl⟩, fun c' hread' => ?_⟩
    rw [readFrom_unique hread' hread]
    refine ⟨fun _ _ => hsigned, fun _ _ _ => hagreed, fun _ _ _ _ _ _ => ⟨hfits.mpr h, ?_⟩⟩
    rw [hpayload]
    exact writable_nestedPayload n

/-- Of arrays 900 deep it fails as it should, of arrays 1000 deep it does not. -/
theorem card_fails_as_own_error_iff_nested :
    FailsAsOwnError openHost sampleRoom (.obj (nestedCard 900)) [] ∧
      ¬ FailsAsOwnError openHost sampleRoom (.obj (nestedCard 1000)) [] := by
  constructor
  · refine (card_fails_as_own_error_iff openHost sampleNfc_text sampleRoom _ []).mpr ?_
    rintro members ⟨⟩
    exact (cardReadable_nested (by decide)).mpr (by decide)
  · intro h
    have hdeep := (cardReadable_nested (by decide)).mp
      ((card_fails_as_own_error_iff openHost sampleNfc_text sampleRoom _ []).mp h _ rfl)
    exact absurd hdeep (by decide)

/-- A card of key 1 whose `signing_key` has a character that no base58 text has. -/
def zeroKeyCard : Members :=
  [(py "address", .str (constAddress 1)), (py "name", .str (py "mallory")),
    (py "signing_key", .str (py "0")), (py "agreement_key", .str (py "1"))]

theorem zeroKeyCard_read : ∃ c, AgentCard.modelValidateWithin sampleRoom (.obj zeroKeyCard) = .ok c :=
  ⟨_, rfl⟩

/-- The card is read, and verifying it raises a plain `ValueError`. -/
theorem hostile_card_escapes :
    ¬ FailsAsOwnError openHost sampleRoom (.obj zeroKeyCard) [] ∧
      ∃ c e, AgentCard.modelValidateWithin sampleRoom (.obj zeroKeyCard) = .ok c ∧
        AgentCard.verifyWithin openHost sampleRoom c [] = .error e ∧ e.cls = .valueError := by
  obtain ⟨c, hc⟩ := zeroKeyCard_read
  have hread := AgentCard.modelValidateWithin_ok_iff.mp hc
  have haddress : c.address = constAddress 1 := by
    have hlookup := hread.address
    exact (Json.str.inj (Option.some.inj hlookup)).symm
  have hsigning : c.signingKey = py "0" := by
    have hlookup := hread.signingKey
    exact (Json.str.inj (Option.some.inj hlookup)).symm
  have hdecode : base58Decode (py "0") = .error ⟨.valueError, ["substring not found"]⟩ := by decide
  have hverify : AgentCard.verifyWithin openHost sampleRoom c [] =
      .error ⟨.valueError, ["substring not found"]⟩ := by
    refine bind_error_iff.mpr (Or.inl (bind_error_iff.mpr (Or.inr ⟨constKey 1, ?_, ?_⟩)))
    · rw [haddress]
      exact signingKey_constAddress 1
    · rw [hsigning]
      exact bind_error_iff.mpr (Or.inl hdecode)
  refine ⟨fun h => ?_, c, _, hc, hverify, rfl⟩
  have hcls := h.verifying c _ hc hverify
  cases hcls

end Samples

end AgentHostileInput
