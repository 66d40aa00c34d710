import AgentId.Normalization

/-!
# Key files (`keys.py`, `keyfile.py`)

A key file is the 64 private bytes themselves, or a container that seals them under a passphrase.
The reader tells the two apart by the first four bytes, `FGID`.

* **`fromEncryptedBytes_container`** — the slices of the reader are the fields of the container.
* **`opens_of_nfc_eq`**, **`refuses_of_nfc_ne`** — a container opens for the passphrases with one
  normal form, and for no other.
* **`loadKeys_of_magic`** — private bytes that begin with `FGID` are taken for a container.
* **`loadOrCreateKeys_again`** — a restart finds the keys of the first start.
* **`loadsBack_iff`** — which key files load back.
-/

namespace AgentKeyFile

open AgentRaises AgentPy AgentNormalization

/-- What the modules call of `cryptography` and `unicodedata`. -/
structure KeyCrypto where
  SigningKey : Type
  AgreementKey : Type
  SealingKey : Type
  /-- `Ed25519PrivateKey.from_private_bytes` and `private_bytes` -/
  signingKey : Bytes → SigningKey
  signingBytes : SigningKey → Bytes
  /-- `X25519PrivateKey.from_private_bytes` and `private_bytes` -/
  agreementKey : Bytes → AgreementKey
  agreementBytes : AgreementKey → Bytes
  /-- `Scrypt(salt, ...).derive(passphrase)` -/
  scrypt : (salt passphrase : Bytes) → SealingKey
  /-- `ChaCha20Poly1305(key).encrypt(nonce, plain, header)` and `decrypt`; none if it raises -/
  encrypt : SealingKey → (nonce plain header : Bytes) → Bytes
  decrypt : SealingKey → (nonce sealed header : Bytes) → Option Bytes
  /-- `unicodedata.normalize("NFC", ·)` -/
  nfc : PyStr → PyStr

/-- Injective scrypt and an ideal authenticated cipher. -/
structure IdealCrypto (K : KeyCrypto) : Prop where
  signing_bytes : ∀ data : Bytes, data.length = 32 → K.signingBytes (K.signingKey data) = data
  agreement_bytes : ∀ data : Bytes, data.length = 32 →
    K.agreementBytes (K.agreementKey data) = data
  scrypt_inj : ∀ salt, Function.Injective (K.scrypt salt)
  decrypt_encrypt : ∀ key nonce plain header,
    K.decrypt key nonce (K.encrypt key nonce plain header) header = some plain
  other_key : ∀ key key' nonce plain header, key ≠ key' →
    K.decrypt key' nonce (K.encrypt key nonce plain header) header = none
  /-- A ciphertext has at least its tag. -/
  encrypt_ne_nil : ∀ key nonce plain header, K.encrypt key nonce plain header ≠ []
  /-- Only the empty string has an empty normal form. -/
  nfc_empty : ∀ s, K.nfc s = K.nfc [] → s = []

variable {K : KeyCrypto}

/-! ## `KeyPair` -/

structure KeyPair (K : KeyCrypto) where
  signingKey : K.SigningKey
  agreementKey : K.AgreementKey

def KeyPair.toBytes (keys : KeyPair K) : Bytes :=
  K.signingBytes keys.signingKey ++ K.agreementBytes keys.agreementKey

def KeyPair.fromBytes (K : KeyCrypto) (data : Bytes) : Py (KeyPair K) := do
  raiseIf (data.length ≠ 64) .valueError ["KeyPair serialization must be exactly 64 bytes"]
  .ok { signingKey := K.signingKey (data.take 32), agreementKey := K.agreementKey (data.drop 32) }

/-- Key pairs are made of 64 bytes, half for each key. -/
theorem fromBytes_ok_iff {data : Bytes} {keys : KeyPair K} :
    KeyPair.fromBytes K data = .ok keys ↔
      data.length = 64 ∧ keys = ⟨K.signingKey (data.take 32), K.agreementKey (data.drop 32)⟩ := by
  rw [KeyPair.fromBytes, seq_ok_iff, raiseIf_ok_iff, not_not, Except.ok.injEq, eq_comm (b := keys)]

/-- **SERIALIZING** gives back the bytes a key pair was made of. -/
theorem toBytes_of_fromBytes (ideal : IdealCrypto K) {data : Bytes} {keys : KeyPair K}
    (h : KeyPair.fromBytes K data = .ok keys) : keys.toBytes = data := by
  obtain ⟨hlength, rfl⟩ := fromBytes_ok_iff.mp h
  rw [KeyPair.toBytes, ideal.signing_bytes _ (by rw [List.length_take]; omega),
    ideal.agreement_bytes _ (by rw [List.length_drop]; omega), List.take_append_drop]

/-! ## The container -/

/-- `_KEYFILE_MAGIC`, `b"FGID"` -/
def keyfileMagic : Bytes := [0x46, 0x47, 0x49, 0x44]

/-- `_KEYFILE_VERSION` -/
def keyfileVersion : UInt8 := 1

/-- `_SALT_BYTES` -/
def saltBytes : ℕ := 16

/-- `_NONCE_BYTES` -/
def nonceBytes : ℕ := 12

def header : Bytes := keyfileMagic ++ [keyfileVersion]

/-- What `os.urandom` answers in one call of `to_encrypted_bytes`. -/
structure Urandom where
  salt : Bytes
  nonce : Bytes
  length_salt : salt.length = saltBytes
  length_nonce : nonce.length = nonceBytes

/-- `header + salt + nonce + sealed` -/
def container (random : Urandom) (sealed : Bytes) : Bytes :=
  header ++ random.salt ++ random.nonce ++ sealed

/-- `_derive_key` -/
def deriveKey (K : KeyCrypto) (passphrase : PyStr) (salt : Bytes) : Py K.SealingKey := do
  let normalized := K.nfc passphrase
  let encoded ← utf8Encode normalized
  .ok (K.scrypt salt encoded)

def KeyPair.toEncryptedBytes (random : Urandom) (keys : KeyPair K) (passphrase : PyStr) :
    Py Bytes := do
  raiseIf (passphrase = []) .valueError ["passphrase must not be empty"]
  let key ← deriveKey K passphrase random.salt
  .ok (container random (K.encrypt key random.nonce keys.toBytes header))

/-- The end of `from_encrypted_bytes`: what is sealed is opened and read. -/
def openSealed (K : KeyCrypto) (key : K.SealingKey) (nonce sealed : Bytes) : Py (KeyPair K) :=
  match K.decrypt key nonce sealed header with
  | none => raise .valueError ["could not decrypt key file — wrong passphrase or corrupt"]
  | some plain => KeyPair.fromBytes K plain

def KeyPair.fromEncryptedBytes (K : KeyCrypto) (data : Bytes) (passphrase : PyStr) :
    Py (KeyPair K) := do
  let start := header.length + saltBytes + nonceBytes
  raiseIf (data.length ≤ start ∨ ¬ keyfileMagic <+: data) .valueError
    ["not an encrypted fareground key file"]
  let version := data.getD keyfileMagic.length 0
  raiseIf (version ≠ keyfileVersion) .valueError
    ["unsupported key file version: ", .int version.toNat]
  let salt := (data.take (header.length + saltBytes)).drop header.length
  let nonce := (data.take start).drop (header.length + saltBytes)
  let key ← deriveKey K passphrase salt
  openSealed K key nonce (data.drop start)

/-- A sealed file begins with `FGID`. -/
theorem keyfileMagic_prefix_container (random : Urandom) (sealed : Bytes) :
    keyfileMagic <+: container random sealed := by
  simp only [container, header, List.append_assoc]
  exact List.prefix_append _ _

/-- **THE SLICES** are the fields of the container. -/
theorem fromEncryptedBytes_container (random : Urandom) {sealed : Bytes} (hsealed : sealed ≠ [])
    (passphrase : PyStr) :
    KeyPair.fromEncryptedBytes K (container random sealed) passphrase =
      deriveKey K passphrase random.salt >>= fun key => openSealed K key random.nonce sealed := by
  have hsalt : (header ++ random.salt).length = header.length + saltBytes := by
    rw [List.length_append, random.length_salt]
  have hnonce : (header ++ random.salt ++ random.nonce).length =
      header.length + saltBytes + nonceBytes := by
    rw [List.length_append, hsalt, random.length_nonce]
  have hlong : ¬ (container random sealed).length ≤ header.length + saltBytes + nonceBytes := by
    rw [container, List.length_append, hnonce]
    have hpos := List.length_pos_of_ne_nil hsealed
    omega
  have hversion : (container random sealed).getD keyfileMagic.length 0 = keyfileVersion := rfl
  have hsaltSlice : ((container random sealed).take (header.length + saltBytes)).drop
      header.length = random.salt := by
    rw [container, ← hsalt, List.append_assoc (header ++ random.salt), List.take_left,
      List.drop_left]
  have hnonceSlice : ((container random sealed).take
      (header.length + saltBytes + nonceBytes)).drop (header.length + saltBytes) =
      random.nonce := by
    rw [container, ← hnonce, List.take_left, ← hsalt, List.drop_left]
  have hrest : (container random sealed).drop (header.length + saltBytes + nonceBytes) =
      sealed := by
    rw [container, ← hnonce, List.drop_left]
  have hmagic := keyfileMagic_prefix_container random sealed
  simp only [KeyPair.fromEncryptedBytes, hsaltSlice, hnonceSlice, hrest, hversion, raiseIf,
    if_neg (not_or.mpr ⟨hlong, not_not.mpr hmagic⟩), ne_eq, not_true_eq_false, if_false]
  rfl

/-! ## Which passphrases open a container -/

/-- Passphrases with one normal form derive one key. -/
theorem deriveKey_congr {p p' : PyStr} (h : K.nfc p' = K.nfc p) (salt : Bytes) :
    deriveKey K p' salt = deriveKey K p salt := by
  simp only [deriveKey, h]

/-- A key can be derived when the normal form has no lone surrogate. -/
theorem deriveKey_ok_iff {p : PyStr} {salt : Bytes} :
    (∃ key, deriveKey K p salt = .ok key) ↔ ∀ c ∈ K.nfc p, IsScalar c := by
  rw [← utf8Encode_ok_iff]
  constructor
  · rintro ⟨key, h⟩
    obtain ⟨encoded, hencoded, -⟩ := bind_ok_iff.mp h
    exact ⟨encoded, hencoded⟩
  · rintro ⟨encoded, hencoded⟩
    exact ⟨_, bind_ok_iff.mpr ⟨encoded, hencoded, rfl⟩⟩

/-- **ONE NORMAL FORM PER KEY.** -/
theorem nfc_eq_of_deriveKey (ideal : IdealCrypto K) {p p' : PyStr} {salt : Bytes}
    {key : K.SealingKey} (h : deriveKey K p salt = .ok key) (h' : deriveKey K p' salt = .ok key) :
    K.nfc p' = K.nfc p := by
  obtain ⟨encoded, hencoded, hkey⟩ := bind_ok_iff.mp h
  obtain ⟨encoded', hencoded', hkey'⟩ := bind_ok_iff.mp h'
  have hsame : encoded' = encoded :=
    ideal.scrypt_inj salt ((Except.ok.inj hkey').trans (Except.ok.inj hkey).symm)
  exact utf8Encode_inj (hsame ▸ hencoded') hencoded

section Opening

variable {p p' : PyStr} {random : Urandom} {key : K.SealingKey} {data : Bytes} {keys : KeyPair K}

/-- **THE SAME NORMAL FORM** opens the container. -/
theorem opens_of_nfc_eq (ideal : IdealCrypto K) (hkeys : KeyPair.fromBytes K data = .ok keys)
    (hkey : deriveKey K p random.salt = .ok key) (h : K.nfc p' = K.nfc p) :
    KeyPair.fromEncryptedBytes K (container random (K.encrypt key random.nonce data header)) p' =
      .ok keys := by
  rw [fromEncryptedBytes_container random (ideal.encrypt_ne_nil _ _ _ _), deriveKey_congr h, hkey]
  show openSealed K key random.nonce _ = _
  rw [openSealed, ideal.decrypt_encrypt]
  exact hkeys

/-- A subclass of `ValueError`, as `except ValueError` sees it. -/
def isValueError : ErrorClass → Bool
  | .valueError | .unicodeEncodeError => true
  | _ => false

/-- **ANOTHER NORMAL FORM** does not. -/
theorem refuses_of_nfc_ne (ideal : IdealCrypto K) (hkey : deriveKey K p random.salt = .ok key)
    (h : K.nfc p' ≠ K.nfc p) :
    ∃ e, KeyPair.fromEncryptedBytes K (container random (K.encrypt key random.nonce data header))
      p' = .error e ∧ isValueError e.cls = true := by
  rw [fromEncryptedBytes_container random (ideal.encrypt_ne_nil _ _ _ _)]
  cases hkey' : deriveKey K p' random.salt with
  | error e =>
      -- a lone surrogate: the passphrase has no bytes
      have hcls := (utf8Encode_error.bind fun _ _ => raises_ok _) hkey'
      exact ⟨e, rfl, by rw [hcls]; rfl⟩
  | ok key' =>
      have hne : key ≠ key' := by
        rintro rfl
        exact h (nfc_eq_of_deriveKey ideal hkey hkey')
      have hopen : openSealed K key' random.nonce (K.encrypt key random.nonce data header) =
          raise .valueError ["could not decrypt key file — wrong passphrase or corrupt"] := by
        rw [openSealed, ideal.other_key _ _ _ _ _ hne]
      exact ⟨_, hopen, rfl⟩

end Opening

/-! ## `keyfile.py` -/

/-- `_RAW_KEY_BYTES` -/
def rawKeyBytes : ℕ := 64

/-- What the functions of `keyfile.py` raise: an error of their own, that of a missing file, or what
`keys.py` raised. -/
inductive KeyFailure where
  | keyFileError (message : List Part)
  | fileNotFound (path : PyStr)
  | passed (e : PyError)

abbrev Keyed (α : Type) := Except KeyFailure α

/-- A call into `keys.py` outside any `try`. -/
def passOn {α : Type} : Py α → Keyed α
  | .ok a => .ok a
  | .error e => .error (.passed e)

/-- Passing exceptions on changes no result. -/
theorem passOn_ok_iff {α : Type} {x : Py α} {a : α} : passOn x = .ok a ↔ x = .ok a := by
  cases x with
  | ok b => rw [passOn, Except.ok.injEq, Except.ok.injEq]
  | error e => exact raised_iff_raised

/-- `except ValueError as exc: raise KeyFileError(str(exc)) from exc`; no `KeyFileError` comes out of
`keys.py`, so the branch for one is never taken. -/
def exceptValueError {α : Type} : Py α → Keyed α
  | .ok a => .ok a
  | .error e => if isValueError e.cls then .error (.keyFileError e.message) else .error (.passed e)

structure StoredFile where
  contents : Bytes
  mode : ℕ

abbrev Files := PyStr → Option StoredFile

/-- `Path(path).read_bytes()` -/
def readBytes (path : PyStr) (files : Files) : Keyed Bytes :=
  match files path with
  | none => .error (.fileNotFound path)
  | some file => .ok file.contents

/-- `save_keys`.  No passphrase and the empty one are alike. -/
def saveKeys (random : Urandom) (keys : KeyPair K) (path : PyStr) (passphrase : Option PyStr)
    (files : Files) : Keyed Files := do
  let secret := passphrase.getD []
  let data ← (if secret ≠ [] then passOn (keys.toEncryptedBytes random secret)
    else .ok keys.toBytes)
  .ok (Function.update files path (some { contents := data, mode := 0o600 }))

/-- `load_keys` -/
def loadKeys (K : KeyCrypto) (path : PyStr) (passphrase : Option PyStr) (files : Files) :
    Keyed (KeyPair K) := do
  let secret := passphrase.getD []
  let data ← readBytes path files
  if keyfileMagic <+: data then
    if secret = [] then
      .error (.keyFileError ["key file ", path,
        " is encrypted — pass the passphrase it was created with"])
    else exceptValueError (KeyPair.fromEncryptedBytes K data secret)
  else if secret ≠ [] then
    .error (.keyFileError ["key file ", path, " is not encrypted, but a passphrase was given — ",
      "refusing to guess which was intended"])
  else if data.length ≠ rawKeyBytes then
    .error (.keyFileError ["key file ", path, " is corrupt: expected ", .int rawKeyBytes,
      " raw bytes ", "or an encrypted FGID container, got ", .int data.length, " bytes"])
  else passOn (KeyPair.fromBytes K data)

/-- `load_or_create_keys`; `generated` is what `KeyPair.generate` answers. -/
def loadOrCreateKeys (random : Urandom) (generated : KeyPair K) (path : PyStr)
    (passphrase : Option PyStr) (files : Files) : Keyed (KeyPair K × Files) :=
  if (files path).isSome then do
    let keys ← loadKeys K path passphrase files
    .ok (keys, files)
  else do
    let saved ← saveKeys random generated path passphrase files
    .ok (generated, saved)

/-! ## One file -/

section File

variable {random : Urandom} {keys : KeyPair K} {path : PyStr} {passphrase : Option PyStr}
  {files saved : Files} {data : Bytes} {mode : ℕ}

/-- Without a passphrase the bytes are saved as they are. -/
theorem saveKeys_plain (hnone : passphrase.getD [] = []) :
    saveKeys random keys path passphrase files =
      .ok (Function.update files path (some ⟨keys.toBytes, 0o600⟩)) := by
  rw [saveKeys, hnone]
  rfl

/-- With one they are sealed under the key it derives. -/
theorem saveKeys_sealed_iff (hsome : passphrase.getD [] ≠ []) :
    saveKeys random keys path passphrase files = .ok saved ↔
      ∃ key, deriveKey K (passphrase.getD []) random.salt = .ok key ∧
        saved = Function.update files path
          (some ⟨container random (K.encrypt key random.nonce keys.toBytes header), 0o600⟩) := by
  simp only [saveKeys, KeyPair.toEncryptedBytes, if_pos hsome, bind_ok_iff, passOn_ok_iff,
    raiseIf_ok_iff, Except.ok.injEq]
  constructor
  · rintro ⟨_, ⟨_, -, key, hkey, rfl⟩, rfl⟩
    exact ⟨key, hkey, rfl⟩
  · rintro ⟨key, hkey, rfl⟩
    exact ⟨_, ⟨(), hsome, key, hkey, rfl⟩, rfl⟩

/-- **FRAME**: a file of mode 0600 is written at the path, and nothing else changes. -/
theorem saveKeys_writes (h : saveKeys random keys path passphrase files = .ok saved) :
    ∃ data, saved = Function.update files path (some ⟨data, 0o600⟩) := by
  rw [saveKeys] at h
  obtain ⟨data, -, hsaved⟩ := bind_ok_iff.mp h
  exact ⟨data, (Except.ok.inj hsaved).symm⟩

/-- **THE MAGIC DECIDES**: whatever begins with `FGID` is read as a container. -/
theorem loadKeys_of_magic (hfile : files path = some ⟨data, mode⟩) (hmagic : keyfileMagic <+: data) :
    loadKeys K path passphrase files =
      if passphrase.getD [] = [] then
        .error (.keyFileError ["key file ", path,
          " is encrypted — pass the passphrase it was created with"])
      else exceptValueError (KeyPair.fromEncryptedBytes K data (passphrase.getD [])) := by
  simp only [loadKeys, readBytes, hfile]
  exact if_pos hmagic

/-- A file of 64 bytes without the magic is loaded as it is. -/
theorem loadKeys_plain (hfile : files path = some ⟨data, mode⟩) (hmagic : ¬ keyfileMagic <+: data)
    (hnone : passphrase.getD [] = []) (hlength : data.length = rawKeyBytes) :
    loadKeys K path passphrase files = passOn (KeyPair.fromBytes K data) := by
  simp only [loadKeys, readBytes, hfile]
  show (if keyfileMagic <+: data then _ else if passphrase.getD [] ≠ [] then _ else
    if data.length ≠ rawKeyBytes then _ else _) = _
  rw [if_neg hmagic, if_neg (not_not.mpr hnone), if_neg (not_not.mpr hlength)]

end File

/-! ## An ideal cipher -/

/-- A ciphertext that shows its key in front of its plaintext, byte by byte. -/
def sealUnder : Bytes → Bytes → Bytes
  | [], plain => 0 :: plain
  | b :: key, plain => 1 :: b :: sealUnder key plain

def openUnder : Bytes → Bytes → Option Bytes
  | [], 0 :: plain => some plain
  | b :: key, 1 :: c :: sealed => if b = c then openUnder key sealed else none
  | _, _ => none

theorem openUnder_sealUnder (key plain : Bytes) :
    openUnder key (sealUnder key plain) = some plain := by
  induction key with
  | nil => rfl
  | cons b key ih => rw [sealUnder, openUnder, if_pos rfl, ih]

theorem openUnder_other {key key' : Bytes} (h : key ≠ key') (plain : Bytes) :
    openUnder key' (sealUnder key plain) = none := by
  induction key generalizing key' with
  | nil =>
      cases key' with
      | nil => exact absurd rfl h
      | cons b key' => rfl
  | cons b key ih =>
      cases key' with
      | nil => rfl
      | cons b' key' =>
          rw [sealUnder, openUnder]
          split_ifs with hb
          · exact ih fun hkey => h (by rw [hb, hkey])
          · rfl

theorem sealUnder_ne_nil (key plain : Bytes) : sealUnder key plain ≠ [] := by
  cases key with
  | nil => exact List.cons_ne_nil _ _
  | cons b key => exact List.cons_ne_nil _ _

/-- Keys that are their bytes, under a cipher that authenticates nonce and header too. -/
def sampleCrypto : KeyCrypto where
  SigningKey := Bytes
  AgreementKey := Bytes
  SealingKey := Bytes
  signingKey data := data
  signingBytes key := key
  agreementKey data := data
  agreementBytes key := key
  scrypt salt passphrase := salt ++ passphrase
  encrypt key nonce plain header := sealUnder (key ++ (nonce ++ header)) plain
  decrypt key nonce sealed header := openUnder (key ++ (nonce ++ header)) sealed
  nfc := sampleNfc

theorem eq_nil_of_sampleNfc {s : PyStr} (h : sampleNfc s = sampleNfc []) : s = [] := by
  have hchar : ∀ c, decomposeChar c ≠ [] := by
    intro c
    rw [decomposeChar]
    split_ifs
    · decide
    · exact List.cons_ne_nil _ _
    · exact List.cons_ne_nil _ _
  cases s with
  | nil => rfl
  | cons c s => exact absurd (List.append_eq_nil_iff.mp (sampleNfc_eq_iff.mp h)).1 (hchar c)

theorem idealCrypto_sample : IdealCrypto sampleCrypto where
  signing_bytes _ _ := rfl
  agreement_bytes _ _ := rfl
  scrypt_inj _ _ _ h := List.append_cancel_left h
  decrypt_encrypt _ _ _ _ := openUnder_sealUnder _ _
  other_key _ _ _ _ _ h := openUnder_other (fun heq => h (List.append_cancel_right heq)) _
  encrypt_ne_nil _ _ _ _ := sealUnder_ne_nil _ _
  nfc_empty _ h := eq_nil_of_sampleNfc h

def sampleRandom : Urandom where
  salt := List.replicate saltBytes 1
  nonce := List.replicate nonceBytes 2
  length_salt := List.length_replicate
  length_nonce := List.length_replicate

/-! ## What is saved loads back -/

/-- The file gives back the private bytes of `keys`. -/
def Opens (keys : KeyPair K) (path : PyStr) (passphrase : Option PyStr) (files : Files) : Prop :=
  ∃ loaded, loadKeys K path passphrase files = .ok loaded ∧ loaded.toBytes = keys.toBytes

/-- The file is refused with an error of `keyfile.py`. -/
def Refuses (K : KeyCrypto) (path : PyStr) (passphrase : Option PyStr) (files : Files) : Prop :=
  ∃ message, loadKeys K path passphrase files = .error (.keyFileError message)

/-- A saved key file loads back: with the passphrase it was saved with, with each of the same
normal form, and with no other. -/
structure LoadsBack (random : Urandom) (keys : KeyPair K) (path : PyStr)
    (passphrase : Option PyStr) (files saved : Files) : Prop where
  saves : saveKeys random keys path passphrase files = .ok saved
  opens : Opens keys path passphrase saved
  same_form : ∀ p, passphrase = some p → p ≠ [] → ∀ p', K.nfc p' = K.nfc p →
    Opens keys path (some p') saved
  other_form : ∀ p, passphrase = some p → p ≠ [] → ∀ other : Option PyStr,
    other.map K.nfc ≠ some (K.nfc p) → Refuses K path other saved

/-- When it does: a passphrase has a normal form without lone surrogates; private bytes that are
saved as they are do not begin with `FGID`. -/
def Storable (K : KeyCrypto) (data : Bytes) (passphrase : Option PyStr) : Prop :=
  if passphrase.getD [] = [] then ¬ keyfileMagic <+: data
  else ∀ c ∈ K.nfc (passphrase.getD []), IsScalar c

section LoadsBack

variable {data : Bytes} {keys : KeyPair K}

/-- **SAVED WITHOUT A PASSPHRASE**, keys are loaded without one. -/
theorem loadsBack_plain (ideal : IdealCrypto K) (hkeys : KeyPair.fromBytes K data = .ok keys)
    {passphrase : Option PyStr} (hnone : passphrase.getD [] = []) (hmagic : ¬ keyfileMagic <+: data)
    (random : Urandom) (path : PyStr) (files : Files) :
    LoadsBack random keys path passphrase files
      (Function.update files path (some ⟨data, 0o600⟩)) := by
  have hbytes := toBytes_of_fromBytes ideal hkeys
  have hlength : data.length = rawKeyBytes := (fromBytes_ok_iff.mp hkeys).1
  have hload : loadKeys K path passphrase (Function.update files path (some ⟨data, 0o600⟩)) =
      .ok keys := by
    rw [loadKeys_plain (Function.update_self _ _ _) hmagic hnone hlength, hkeys]
    rfl
  -- there is no passphrase to vary
  have hvoid : ∀ p, passphrase = some p → p ≠ [] → False := by
    rintro p rfl hp
    exact hp hnone
  refine ⟨?_, ⟨keys, hload, rfl⟩, ?_, ?_⟩
  · rw [saveKeys_plain hnone, hbytes]
  · intro p hpass hp
    exact (hvoid p hpass hp).elim
  · intro p hpass hp
    exact (hvoid p hpass hp).elim

section Sealed

variable {p : PyStr} {random : Urandom} {key : K.SealingKey} {path : PyStr} {files : Files}
  {mode : ℕ}

/-- A sealed file opens for a passphrase of the same normal form. -/
theorem opens_container (ideal : IdealCrypto K) (hkeys : KeyPair.fromBytes K data = .ok keys)
    (hp : p ≠ []) (hkey : deriveKey K p random.salt = .ok key)
    (hfile : files path =
      some ⟨container random (K.encrypt key random.nonce data header), mode⟩)
    {p' : PyStr} (h : K.nfc p' = K.nfc p) : Opens keys path (some p') files := by
  have hne : (some p').getD [] ≠ [] := by
    rintro rfl
    exact hp (ideal.nfc_empty p h.symm)
  refine ⟨keys, ?_, rfl⟩
  rw [loadKeys_of_magic hfile (keyfileMagic_prefix_container _ _), if_neg hne, Option.getD_some,
    opens_of_nfc_eq ideal hkeys hkey h, exceptValueError]

/-- And is refused for any other. -/
theorem refuses_container (ideal : IdealCrypto K) (hkey : deriveKey K p random.salt = .ok key)
    (hfile : files path =
      some ⟨container random (K.encrypt key random.nonce data header), mode⟩)
    {other : Option PyStr} (h : other.map K.nfc ≠ some (K.nfc p)) :
    Refuses K path other files := by
  rw [Refuses, loadKeys_of_magic hfile (keyfileMagic_prefix_container _ _)]
  split_ifs with hnone
  · exact ⟨_, rfl⟩
  · cases other with
    | none => exact absurd rfl hnone
    | some p' =>
        have hne : K.nfc p' ≠ K.nfc p := fun heq => h (congrArg some heq)
        obtain ⟨e, he, hcls⟩ := @refuses_of_nfc_ne K p p' random key data ideal hkey hne
        refine ⟨e.message, ?_⟩
        rw [Option.getD_some, he, exceptValueError, if_pos hcls]

/-- **SAVED UNDER A PASSPHRASE**, keys are loaded under it. -/
theorem loadsBack_sealed (ideal : IdealCrypto K) (hkeys : KeyPair.fromBytes K data = .ok keys)
    (hp : p ≠ []) (hkey : deriveKey K p random.salt = .ok key) (path : PyStr) (files : Files) :
    LoadsBack random keys path (some p) files (Function.update files path
      (some ⟨container random (K.encrypt key random.nonce data header), 0o600⟩)) := by
  have hfile := Function.update_self path
    (some (StoredFile.mk (container random (K.encrypt key random.nonce data header)) 0o600)) files
  refine ⟨?_, opens_container ideal hkeys hp hkey hfile rfl, ?_, ?_⟩
  · rw [saveKeys_sealed_iff (show (some p).getD [] ≠ [] from hp), toBytes_of_fromBytes ideal hkeys]
    exact ⟨key, hkey, rfl⟩
  · rintro _ ⟨⟩ - p' h
    exact opens_container ideal hkeys hp hkey hfile h
  · rintro _ ⟨⟩ - other h
    exact refuses_container ideal hkey hfile h

end Sealed

/-- What can be stored is loaded back. -/
theorem loadsBack_of_storable (ideal : IdealCrypto K)
    (hkeys : KeyPair.fromBytes K data = .ok keys) {passphrase : Option PyStr}
    (h : Storable K data passphrase) (random : Urandom) (path : PyStr) (files : Files) :
    ∃ saved, LoadsBack random keys path passphrase files saved := by
  rw [Storable] at h
  split_ifs at h with hnone
  · exact ⟨_, loadsBack_plain ideal hkeys hnone h random path files⟩
  · cases passphrase with
    | none => exact absurd rfl hnone
    | some p =>
        obtain ⟨key, hkey⟩ : ∃ key, deriveKey K p random.salt = .ok key := deriveKey_ok_iff.mpr h
        exact ⟨_, loadsBack_sealed ideal hkeys hnone hkey path files⟩

/-- A file that is saved and loads back was storable. -/
theorem storable_of_loadsBack (ideal : IdealCrypto K) (hkeys : KeyPair.fromBytes K data = .ok keys)
    {random : Urandom} {path : PyStr} {passphrase : Option PyStr} {files saved : Files}
    (h : LoadsBack random keys path passphrase files saved) : Storable K data passphrase := by
  rw [Storable]
  split_ifs with hnone
  · intro hmagic
    have hsaves := h.saves
    rw [saveKeys_plain hnone, toBytes_of_fromBytes ideal hkeys, Except.ok.injEq] at hsaves
    obtain ⟨loaded, hload, -⟩ := h.opens
    rw [← hsaves, loadKeys_of_magic (Function.update_self _ _ _) hmagic, if_pos hnone] at hload
    cases hload
  · obtain ⟨key, hkey, -⟩ := (saveKeys_sealed_iff hnone).mp h.saves
    exact deriveKey_ok_iff.mp ⟨key, hkey⟩

/-- **A RESTART** finds the keys that the first start generated, and changes no file. -/
theorem loadOrCreateKeys_again (ideal : IdealCrypto K)
    (hkeys : KeyPair.fromBytes K data = .ok keys) {passphrase : Option PyStr}
    (h : Storable K data passphrase) {path : PyStr} {files : Files} (hnew : files path = none)
    (random random' : Urandom) (generated : KeyPair K) :
    ∃ saved again, loadOrCreateKeys random keys path passphrase files = .ok (keys, saved) ∧
      loadOrCreateKeys random' generated path passphrase saved = .ok (again, saved) ∧
      again.toBytes = data := by
  obtain ⟨saved, hback⟩ := loadsBack_of_storable ideal hkeys h random path files
  obtain ⟨again, hload, hbytes⟩ := hback.opens
  obtain ⟨written, hwritten⟩ := saveKeys_writes hback.saves
  have hexists : (saved path).isSome = true := by rw [hwritten, Function.update_self, Option.isSome]
  refine ⟨saved, again, ?_, ?_, hbytes.trans (toBytes_of_fromBytes ideal hkeys)⟩
  · rw [loadOrCreateKeys, hnew, hback.saves]
    rfl
  · rw [loadOrCreateKeys, if_pos hexists, hload]
    rfl

end LoadsBack

/-- **WHICH KEY FILES LOAD BACK.** -/
theorem loadsBack_iff (ideal : IdealCrypto K) {data : Bytes} {keys : KeyPair K}
    (hkeys : KeyPair.fromBytes K data = .ok keys) (random : Urandom) (path : PyStr)
    (passphrase : Option PyStr) (files : Files) :
    (∃ saved, LoadsBack random keys path passphrase files saved) ↔ Storable K data passphrase := by
  constructor
  · rintro ⟨saved, h⟩
    exact storable_of_loadsBack ideal hkeys h
  · intro h
    exact loadsBack_of_storable ideal hkeys h random path files

/-- The key pair with 64 equal bytes, saved under a passphrase. -/
theorem loadsBack_sample : ∃ saved, LoadsBack sampleRandom
    (⟨List.replicate 32 7, List.replicate 32 7⟩ : KeyPair sampleCrypto) (py "copy.key")
    (some (py "p")) (fun _ => none) saved := by
  have hascii : IsAscii (sampleNfc (py "p")) := by decide
  have hstorable : Storable sampleCrypto (List.replicate 64 7) (some (py "p")) := by
    intro c hc
    exact isScalar_ascii (hascii c hc)
  have hkeys : KeyPair.fromBytes sampleCrypto (List.replicate 64 7) =
      .ok ⟨List.replicate 32 7, List.replicate 32 7⟩ := rfl
  exact (loadsBack_iff idealCrypto_sample hkeys _ _ _ _).mpr hstorable

/-- Private bytes a signing key can have. -/
def magicBytes : Bytes := keyfileMagic ++ List.replicate 60 0

/-- **A PLAIN FILE TAKEN FOR A CONTAINER**: it is saved, and refused for want of a passphrase. -/
theorem magic_key_refused :
    ∃ (keys : KeyPair sampleCrypto) (saved : Files),
      KeyPair.fromBytes sampleCrypto magicBytes = .ok keys ∧
      saveKeys sampleRandom keys (py "agent.key") none (fun _ => none) = .ok saved ∧
      loadKeys sampleCrypto (py "agent.key") none saved =
        .error (.keyFileError ["key file ", py "agent.key",
          " is encrypted — pass the passphrase it was created with"]) ∧
      ¬ ∃ saved, LoadsBack sampleRandom keys (py "agent.key") none (fun _ => none) saved := by
  have hkeys : KeyPair.fromBytes sampleCrypto magicBytes =
      .ok ⟨magicBytes.take 32, magicBytes.drop 32⟩ := rfl
  have hmagic : keyfileMagic <+: magicBytes := List.prefix_append _ _
  refine ⟨_, _, hkeys, saveKeys_plain rfl, ?_, ?_⟩
  · rw [toBytes_of_fromBytes idealCrypto_sample hkeys]
    exact loadKeys_of_magic (Function.update_self _ _ _) hmagic
  · rintro ⟨saved, h⟩
    exact storable_of_loadsBack idealCrypto_sample hkeys h hmagic

end AgentKeyFile
