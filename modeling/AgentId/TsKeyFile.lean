import AgentId.KeyFile
import AgentId.Lockstep
import AgentId.TsCanonical

/-!
# Key files in TypeScript (`keyfile.ts`)

`keyfile.ts` writes and reads the files of `keyfile.py` with the ciphers of Node, which keep the tag
apart from the ciphertext.

* **`key_files_read_alike`** — whatever a file holds, both packages load the same private keys from
  it, or both refuse it.
* **`either_package`** — on one disk it makes no difference which package makes which call.
* **`saved_keys_stay`** — what either package saves both find again, under the same passphrases.
-/

namespace AgentTsKeyFile

open AgentLockstep AgentPy AgentNormalization AgentTsCanonical AgentKeyFile

/-! ## `node:crypto` -/

/-- What the module calls of `node:crypto`, but for `scryptSync`, which is that of `K`. -/
structure NodeCrypto (K : KeyCrypto) where
  /-- `createCipheriv`, `update`, `final` and `getAuthTag`: the ciphertext and the tag -/
  cipher : K.SealingKey → (nonce plain header : Bytes) → Bytes × Bytes
  /-- `createDecipheriv`, `setAuthTag`, `update` and `final`; none if it throws -/
  decipher : K.SealingKey → (nonce ciphertext tag header : Bytes) → Option Bytes

/-- `TAG_BYTES` -/
def tagBytes : ℕ := 16

/-- Node and `cryptography` implement one cipher.  The tag follows the ciphertext, and what is no
    longer than a tag has no text in it. -/
structure SameCipher (K : KeyCrypto) (N : NodeCrypto K) : Prop where
  cipher : ∀ key nonce plain, (N.cipher key nonce plain header).1 ++
    (N.cipher key nonce plain header).2 = K.encrypt key nonce plain header
  decipher : ∀ key nonce ciphertext tag, tag.length = tagBytes →
    N.decipher key nonce ciphertext tag header = K.decrypt key nonce (ciphertext ++ tag) header
  decrypt_tag : ∀ key nonce sealed plain, nonce.length = nonceBytes → sealed.length ≤ tagBytes →
    K.decrypt key nonce sealed header = some plain → plain = []

variable {K : KeyCrypto} {N : NodeCrypto K}

/-! ## `keyfile.ts` -/

/-- What the functions throw: an error of their own, another one, or that of a missing file. -/
inductive TsKeyFailure where
  | keyFileError (message : List Part)
  | error (message : List Part)
  | noEntry (path : PyStr)

abbrev TsKeyed (α : Type) := Except TsKeyFailure α

/-- `KeyPair` of `keys.ts`, by its private keys. -/
structure TsKeyPair where
  signingSeed : Bytes
  agreementSeed : Bytes
  length_signingSeed : signingSeed.length = 32
  length_agreementSeed : agreementSeed.length = 32

def TsKeyPair.toBytes (keys : TsKeyPair) : Bytes := keys.signingSeed ++ keys.agreementSeed

theorem length_take_half {data : Bytes} (h : data.length = 64) : (data.take 32).length = 32 := by
  rw [List.length_take, h]
  rfl

theorem length_drop_half {data : Bytes} (h : data.length = 64) : (data.drop 32).length = 32 := by
  rw [List.length_drop, h]

def TsKeyPair.fromBytes (data : Bytes) : TsKeyed TsKeyPair :=
  if h : data.length = 64 then
    .ok ⟨data.take 32, data.drop 32, length_take_half h, length_drop_half h⟩
  else .error (.error ["KeyPair serialization must be exactly 64 bytes"])

/-- `deriveKey`; `Buffer.from` replaces lone surrogates. -/
def tsDeriveKey (K : KeyCrypto) (passphrase : PyStr) (salt : Bytes) : K.SealingKey :=
  K.scrypt salt (textEncode (K.nfc passphrase))

def encryptKeys (N : NodeCrypto K) (random : Urandom) (keys : TsKeyPair) (passphrase : PyStr) :
    TsKeyed Bytes :=
  if passphrase = [] then .error (.keyFileError ["passphrase must not be empty"])
  else
    let sealed := N.cipher (tsDeriveKey K passphrase random.salt) random.nonce keys.toBytes header
    .ok (header ++ random.salt ++ random.nonce ++ sealed.1 ++ sealed.2)

/-- The end of `decryptKeys`: what is sealed is opened and read. -/
def tsOpenSealed (N : NodeCrypto K) (key : K.SealingKey) (nonce ciphertext tag : Bytes) :
    TsKeyed TsKeyPair :=
  match N.decipher key nonce ciphertext tag header with
  | none => .error (.keyFileError ["could not decrypt key file — wrong passphrase or corrupt"])
  | some plain => TsKeyPair.fromBytes plain

def decryptKeys (N : NodeCrypto K) (data : Bytes) (passphrase : PyStr) : TsKeyed TsKeyPair :=
  let start := header.length + saltBytes + nonceBytes
  if data.length ≤ start + tagBytes ∨ ¬ keyfileMagic <+: data then
    .error (.keyFileError ["not an encrypted fareground key file"])
  else
    let version := data.getD keyfileMagic.length 0
    if version ≠ keyfileVersion then
      .error (.keyFileError ["unsupported key file version: ", .int version.toNat])
    else
      let salt := (data.take (header.length + saltBytes)).drop header.length
      let nonce := (data.take start).drop (header.length + saltBytes)
      let ciphertext := (data.take (data.length - tagBytes)).drop start
      let tag := data.drop (data.length - tagBytes)
      tsOpenSealed N (tsDeriveKey K passphrase salt) nonce ciphertext tag

/-- `saveKeys`; a file that is there keeps its mode. -/
def tsSaveKeys (N : NodeCrypto K) (random : Urandom) (keys : TsKeyPair) (path : PyStr)
    (passphrase : Option PyStr) (files : Files) : TsKeyed Files := do
  let secret := passphrase.getD []
  let data ← (if secret ≠ [] then encryptKeys N random keys secret else .ok keys.toBytes)
  let mode := ((files path).map StoredFile.mode).getD 0o600
  .ok (Function.update files path (some { contents := data, mode := mode }))

/-- `loadKeys` -/
def tsLoadKeys (N : NodeCrypto K) (path : PyStr) (passphrase : Option PyStr) (files : Files) :
    TsKeyed TsKeyPair :=
  let secret := passphrase.getD []
  match files path with
  | none => .error (.noEntry path)
  | some file =>
      if keyfileMagic <+: file.contents then
        if secret = [] then
          .error (.keyFileError ["key file ", path,
            " is encrypted — pass the passphrase it was created with"])
        else decryptKeys N file.contents secret
      else if secret ≠ [] then
        .error (.keyFileError ["key file ", path,
          " is not encrypted, but a passphrase was given — ",
          "refusing to guess which was intended"])
      else if file.contents.length ≠ rawKeyBytes then
        .error (.keyFileError ["key file ", path, " is corrupt: expected ", .int rawKeyBytes,
          " raw bytes ", "or an encrypted FGID container, got ", .int file.contents.length,
          " bytes"])
      else TsKeyPair.fromBytes file.contents

/-- `loadOrCreateKeys`; `generated` is what `KeyPair.generate` answers. -/
def tsLoadOrCreateKeys (N : NodeCrypto K) (random : Urandom) (generated : TsKeyPair) (path : PyStr)
    (passphrase : Option PyStr) (files : Files) : TsKeyed (TsKeyPair × Files) :=
  if (files path).isSome then do
    let keys ← tsLoadKeys N path passphrase files
    .ok (keys, files)
  else do
    let saved ← tsSaveKeys N random generated path passphrase files
    .ok (generated, saved)

/-! ## One file, two readers -/

/-- The private keys are of the same bytes. -/
structure SameKeys (keys : KeyPair K) (keys' : TsKeyPair) : Prop where
  signing : keys.signingKey = K.signingKey keys'.signingSeed
  agreement : keys.agreementKey = K.agreementKey keys'.agreementSeed

/-- Both refuse the file as `KeyFileError`, or miss it.  For a sealed text of another length than
    64 TypeScript throws a plain `Error`. -/
inductive Refused : KeyFailure → TsKeyFailure → Prop where
  | missing (path : PyStr) : Refused (.fileNotFound path) (.noEntry path)
  | refused (message message' : List Part) : Refused (.keyFileError message) (.keyFileError message')
  | misfit (message message' : List Part) : Refused (.keyFileError message) (.error message')

/-- From 64 bytes both packages make the same keys. -/
theorem agree_fromBytes {data : Bytes} (h : data.length = 64) :
    Agree Refused SameKeys (passOn (KeyPair.fromBytes K data)) (TsKeyPair.fromBytes data) := by
  rw [fromBytes_ok_iff.mpr ⟨h, rfl⟩, TsKeyPair.fromBytes, dif_pos h]
  exact .ok ⟨rfl, rfl⟩

/-- Both derive one key of a passphrase without lone surrogates. -/
theorem deriveKey_alike {p : PyStr} (hp : ∀ c ∈ K.nfc p, IsScalar c) (salt : Bytes) :
    deriveKey K p salt = .ok (tsDeriveKey K p salt) :=
  bind_ok_iff.mpr ⟨_, utf8Encode_scalar hp, rfl⟩

/-- What is sealed is opened alike, with its tag behind it. -/
theorem agree_openSealed (C : SameCipher K N) (key : K.SealingKey) (nonce : Bytes)
    (ciphertext : Bytes) {tag : Bytes} (htag : tag.length = tagBytes) :
    Agree Refused SameKeys (exceptValueError (openSealed K key nonce (ciphertext ++ tag)))
      (tsOpenSealed N key nonce ciphertext tag) := by
  rw [openSealed, tsOpenSealed, C.decipher key nonce ciphertext tag htag]
  cases K.decrypt key nonce (ciphertext ++ tag) header with
  | none => exact .error (.refused _ _)
  | some plain =>
      show Agree _ _ (exceptValueError (KeyPair.fromBytes K plain)) (TsKeyPair.fromBytes plain)
      by_cases hlength : plain.length = 64
      · rw [fromBytes_ok_iff.mpr ⟨hlength, rfl⟩, TsKeyPair.fromBytes, dif_pos hlength]
        exact .ok ⟨rfl, rfl⟩
      · rw [KeyPair.fromBytes, TsKeyPair.fromBytes, raiseIf, if_pos hlength, dif_neg hlength]
        exact .error (.misfit _ _)

/-- No more than a tag: Python opens it to nothing, if at all, and that is no key pair. -/
theorem openSealed_tag (C : SameCipher K N) (key : K.SealingKey) {nonce sealed : Bytes}
    (hnonce : nonce.length = nonceBytes) (hsealed : sealed.length ≤ tagBytes) :
    ∃ message, exceptValueError (openSealed K key nonce sealed)
      = .error (.keyFileError message) := by
  rw [openSealed]
  cases hplain : K.decrypt key nonce sealed header with
  | none => exact ⟨_, rfl⟩
  | some plain =>
      rw [C.decrypt_tag key nonce sealed plain hnonce hsealed hplain]
      exact ⟨_, rfl⟩

/-- **ANY CONTAINER**, whole or not, is opened alike. -/
theorem agree_decrypt (C : SameCipher K N) {p : PyStr} (hp : ∀ c ∈ K.nfc p, IsScalar c)
    {data : Bytes} (hmagic : keyfileMagic <+: data) :
    Agree Refused SameKeys (exceptValueError (KeyPair.fromEncryptedBytes K data p))
      (decryptKeys N data p) := by
  have hkey := fun salt => deriveKey_alike hp salt
  rw [KeyPair.fromEncryptedBytes, decryptKeys]
  by_cases hshort : data.length ≤ header.length + saltBytes + nonceBytes
  · rw [raiseIf, if_pos (Or.inl hshort), if_pos (Or.inl (by omega))]
    exact .error (.refused _ _)
  rw [raiseIf, if_neg (not_or.mpr ⟨hshort, not_not.mpr hmagic⟩)]
  show Agree _ _ (exceptValueError
    (raiseIf (data.getD keyfileMagic.length 0 ≠ keyfileVersion) _ _ >>= _)) _
  by_cases hversion : data.getD keyfileMagic.length 0 = keyfileVersion
  · -- the tag is cut off behind, the ciphertext begins behind the nonce
    have hnonce : ((data.take (header.length + saltBytes + nonceBytes)).drop
        (header.length + saltBytes)).length = nonceBytes := by
      rw [List.length_drop, List.length_take]
      omega
    rw [raiseIf, if_neg (not_not.mpr hversion)]
    show Agree _ _ (exceptValueError (deriveKey K p _ >>= fun key =>
      openSealed K key _ (data.drop (header.length + saltBytes + nonceBytes)))) _
    rw [hkey]
    show Agree _ _ (exceptValueError (openSealed K _ _ _)) _
    by_cases htag : data.length ≤ header.length + saltBytes + nonceBytes + tagBytes
    · obtain ⟨message, hrefused⟩ := openSealed_tag C (tsDeriveKey K p
        ((data.take (header.length + saltBytes)).drop header.length)) hnonce
        (show (data.drop (header.length + saltBytes + nonceBytes)).length ≤ tagBytes by
          rw [List.length_drop]
          omega)
      rw [hrefused, if_pos (Or.inl htag)]
      exact .error (.refused _ _)
    · rw [if_neg (not_or.mpr ⟨htag, not_not.mpr hmagic⟩)]
      show Agree _ _ _ (if data.getD keyfileMagic.length 0 ≠ keyfileVersion then _ else
        tsOpenSealed N _ _ _ _)
      rw [if_neg (not_not.mpr hversion)]
      have hcut : data.drop (header.length + saltBytes + nonceBytes)
          = (data.take (data.length - tagBytes)).drop (header.length + saltBytes + nonceBytes)
            ++ data.drop (data.length - tagBytes) := by
        rw [← List.drop_append_of_le_length (by rw [List.length_take]; omega),
          List.take_append_drop]
      rw [hcut]
      exact agree_openSealed C _ _ _ (by rw [List.length_drop]; omega)
  · rw [raiseIf, if_pos hversion]
    show Agree _ _ (.error (KeyFailure.keyFileError _)) _
    split_ifs with htag
    · exact .error (.refused _ _)
    · show Agree _ _ _ (if data.getD keyfileMagic.length 0 ≠ keyfileVersion then _ else _)
      rw [if_pos hversion]
      exact .error (.refused _ _)

/-- A passphrase, if there is one, has a normal form without lone surrogates. -/
def Encodable (K : KeyCrypto) (passphrase : Option PyStr) : Prop :=
  passphrase.getD [] ≠ [] → ∀ c ∈ K.nfc (passphrase.getD []), IsScalar c

section Reading

variable {path : PyStr} {passphrase : Option PyStr} {files : Files}

/-- A file that is there is loaded alike. -/
theorem agree_load (C : SameCipher K N) (hencodable : Encodable K passphrase) {file : StoredFile}
    (hfile : files path = some file) :
    Agree Refused SameKeys (loadKeys K path passphrase files)
      (tsLoadKeys N path passphrase files) := by
  rw [loadKeys, tsLoadKeys, readBytes, hfile]
  show Agree _ _ (if keyfileMagic <+: file.contents then _ else _)
    (if keyfileMagic <+: file.contents then _ else _)
  by_cases hmagic : keyfileMagic <+: file.contents
  · rw [if_pos hmagic, if_pos hmagic]
    by_cases hsecret : passphrase.getD [] = []
    · rw [if_pos hsecret, if_pos hsecret]
      exact .error (.refused _ _)
    · rw [if_neg hsecret, if_neg hsecret]
      exact agree_decrypt C (hencodable hsecret) hmagic
  · rw [if_neg hmagic, if_neg hmagic]
    by_cases hsecret : passphrase.getD [] = []
    · rw [if_neg (not_not.mpr hsecret), if_neg (not_not.mpr hsecret)]
      by_cases hlength : file.contents.length = rawKeyBytes
      · rw [if_neg (not_not.mpr hlength), if_neg (not_not.mpr hlength)]
        exact agree_fromBytes hlength
      · rw [if_pos hlength, if_pos hlength]
        exact .error (.refused _ _)
    · rw [if_pos hsecret, if_pos hsecret]
      exact .error (.refused _ _)

/-- A file that is not there is missed by both. -/
theorem agree_missing (hfile : files path = none) :
    Agree Refused SameKeys (loadKeys K path passphrase files)
      (tsLoadKeys N path passphrase files) := by
  rw [loadKeys, tsLoadKeys, readBytes, hfile]
  exact .error (.missing path)

end Reading

/-- **ONE FILE, TWO READERS.**  Whatever the file holds, both packages load the same private keys
    from it, or both refuse it, or both miss it; but for passphrases whose normal form has lone
    surrogates. -/
theorem key_files_read_alike (K : KeyCrypto) (N : NodeCrypto K) (C : SameCipher K N) (path : PyStr)
    (passphrase : Option PyStr) (hencodable : Encodable K passphrase) (files : Files) :
    Agree Refused SameKeys (loadKeys K path passphrase files)
      (tsLoadKeys N path passphrase files) := by
  cases hfile : files path with
  | none => exact agree_missing hfile
  | some file => exact agree_load C hencodable hfile

/-! ## One disk, two packages -/

/-- The private bytes of a key pair. -/
abbrev PrivateBytes := { data : Bytes // data.length = 64 }

def PrivateBytes.pyKeys (K : KeyCrypto) (data : PrivateBytes) : KeyPair K :=
  ⟨K.signingKey (data.1.take 32), K.agreementKey (data.1.drop 32)⟩

def PrivateBytes.tsKeys (data : PrivateBytes) : TsKeyPair :=
  ⟨data.1.take 32, data.1.drop 32, length_take_half data.2, length_drop_half data.2⟩

inductive Package where
  | python
  | typescript

/-- A call of either package; a key pair is given by its private bytes. -/
inductive KeyCall where
  | save (random : Urandom) (data : PrivateBytes) (path : PyStr) (passphrase : Option PyStr)
  | load (path : PyStr) (passphrase : Option PyStr)
  | loadOrCreate (random : Urandom) (generated : PrivateBytes) (path : PyStr)
      (passphrase : Option PyStr)

def KeyCall.path : KeyCall → PyStr
  | .save _ _ path _ => path
  | .load path _ => path
  | .loadOrCreate _ _ path _ => path

def KeyCall.passphrase : KeyCall → Option PyStr
  | .save _ _ _ passphrase => passphrase
  | .load _ passphrase => passphrase
  | .loadOrCreate _ _ _ passphrase => passphrase

/-- What the caller has of it. -/
inductive KeyAnswer where
  | saved
  | keys (data : Bytes)
  | refused

/-- A call that throws has changed no file. -/
def outcome {ε α : Type} (files : Files) (seen : α → KeyAnswer × Files) :
    Except ε α → KeyAnswer × Files
  | .ok a => seen a
  | .error _ => (.refused, files)

def pyCall (K : KeyCrypto) (files : Files) : KeyCall → KeyAnswer × Files
  | .save random data path passphrase =>
      outcome files (fun saved => (.saved, saved))
        (saveKeys random (data.pyKeys K) path passphrase files)
  | .load path passphrase =>
      outcome files (fun keys => (.keys keys.toBytes, files)) (loadKeys K path passphrase files)
  | .loadOrCreate random generated path passphrase =>
      outcome files (fun made => (.keys made.1.toBytes, made.2))
        (loadOrCreateKeys random (generated.pyKeys K) path passphrase files)

def tsCall (N : NodeCrypto K) (files : Files) : KeyCall → KeyAnswer × Files
  | .save random data path passphrase =>
      outcome files (fun saved => (.saved, saved))
        (tsSaveKeys N random data.tsKeys path passphrase files)
  | .load path passphrase =>
      outcome files (fun keys => (.keys keys.toBytes, files)) (tsLoadKeys N path passphrase files)
  | .loadOrCreate random generated path passphrase =>
      outcome files (fun made => (.keys made.1.toBytes, made.2))
        (tsLoadOrCreateKeys N random generated.tsKeys path passphrase files)

def callBy (K : KeyCrypto) (N : NodeCrypto K) (files : Files) (call : Package × KeyCall) :
    KeyAnswer × Files :=
  match call.1 with
  | .python => pyCall K files call.2
  | .typescript => tsCall N files call.2

/-- The files hold the same bytes; their modes may differ. -/
def SameContents (files files' : Files) : Prop :=
  ∀ path, (files path).map StoredFile.contents = (files' path).map StoredFile.contents

/-- The caller cannot tell the two apart. -/
def Alike (x y : KeyAnswer × Files) : Prop := x.1 = y.1 ∧ SameContents x.2 y.2

/-- Private keys are made of their bytes, and give them back. -/
structure KeepsBytes (K : KeyCrypto) : Prop where
  signing : ∀ data : Bytes, data.length = 32 → K.signingBytes (K.signingKey data) = data
  agreement : ∀ data : Bytes, data.length = 32 → K.agreementBytes (K.agreementKey data) = data

theorem keepsBytes_of_ideal (ideal : IdealCrypto K) : KeepsBytes K where
  signing := ideal.signing_bytes
  agreement := ideal.agreement_bytes

variable {random : Urandom} {data : PrivateBytes} {path : PyStr} {passphrase : Option PyStr}
  {files files' : Files}

theorem SameContents.refl (files : Files) : SameContents files files := fun _ => rfl

theorem SameContents.symm (h : SameContents files files') : SameContents files' files := by
  intro path
  exact (h path).symm

theorem SameContents.trans {files'' : Files} (h : SameContents files files')
    (h' : SameContents files' files'') : SameContents files files'' := by
  intro path
  exact (h path).trans (h' path)

/-- The same bytes, written to both. -/
theorem SameContents.update (h : SameContents files files') (path : PyStr) (contents : Bytes)
    (mode mode' : ℕ) :
    SameContents (Function.update files path (some ⟨contents, mode⟩))
      (Function.update files' path (some ⟨contents, mode'⟩)) := by
  intro other
  by_cases hother : other = path
  · subst hother
    rw [Function.update_self, Function.update_self]
    rfl
  · rw [Function.update_of_ne hother, Function.update_of_ne hother]
    exact h other

/-- Files with the same contents are there or not alike. -/
theorem isSome_alike (h : SameContents files files') (path : PyStr) :
    (files path).isSome = (files' path).isSome := by
  have hmap := congrArg Option.isSome (h path)
  rwa [Option.isSome_map, Option.isSome_map] at hmap

theorem toBytes_pyKeys (B : KeepsBytes K) (data : PrivateBytes) :
    (data.pyKeys K).toBytes = data.1 := by
  rw [KeyPair.toBytes, PrivateBytes.pyKeys, B.signing _ (length_take_half data.2),
    B.agreement _ (length_drop_half data.2), List.take_append_drop]

theorem toBytes_tsKeys (data : PrivateBytes) : data.tsKeys.toBytes = data.1 :=
  List.take_append_drop _ _

/-- The same keys have the same bytes. -/
theorem toBytes_alike (B : KeepsBytes K) {keys : KeyPair K} {keys' : TsKeyPair}
    (h : SameKeys keys keys') : keys.toBytes = keys'.toBytes := by
  rw [KeyPair.toBytes, h.signing, h.agreement, B.signing _ keys'.length_signingSeed,
    B.agreement _ keys'.length_agreementSeed]
  rfl

/-! ### Saving -/

/-- What is written for a key pair. -/
def keyData (K : KeyCrypto) (random : Urandom) (data : PrivateBytes) (passphrase : Option PyStr) :
    Bytes :=
  if passphrase.getD [] = [] then data.1
  else container random
    (K.encrypt (tsDeriveKey K (passphrase.getD []) random.salt) random.nonce data.1 header)

/-- What Python saves, and under which mode. -/
theorem saveKeys_eq (B : KeepsBytes K) (hencodable : Encodable K passphrase) :
    saveKeys random (data.pyKeys K) path passphrase files =
      .ok (Function.update files path (some ⟨keyData K random data passphrase, 0o600⟩)) := by
  by_cases hsecret : passphrase.getD [] = []
  · rw [saveKeys_plain hsecret, toBytes_pyKeys B, keyData, if_pos hsecret]
  · rw [keyData, if_neg hsecret]
    refine (saveKeys_sealed_iff hsecret).mpr ⟨_, deriveKey_alike (hencodable hsecret) _, ?_⟩
    rw [toBytes_pyKeys B]

/-- What TypeScript encrypts is the container Python makes. -/
theorem encryptKeys_eq (C : SameCipher K N) {secret : PyStr} (hsecret : secret ≠ []) :
    encryptKeys N random data.tsKeys secret = .ok (container random
      (K.encrypt (tsDeriveKey K secret random.salt) random.nonce data.1 header)) := by
  rw [encryptKeys, if_neg hsecret, toBytes_tsKeys, container, ← C.cipher, ← List.append_assoc]

/-- What TypeScript saves; the mode is that of a file that was there. -/
theorem tsSaveKeys_eq (C : SameCipher K N) :
    tsSaveKeys N random data.tsKeys path passphrase files =
      .ok (Function.update files path (some ⟨keyData K random data passphrase,
        ((files path).map StoredFile.mode).getD 0o600⟩)) := by
  rw [tsSaveKeys, keyData]
  by_cases hsecret : passphrase.getD [] = []
  · rw [if_pos hsecret, if_neg (not_not.mpr hsecret), toBytes_tsKeys]
    rfl
  · rw [if_neg hsecret, if_pos hsecret, encryptKeys_eq C hsecret]
    rfl

/-! ### One call -/

/-- Loading looks at the contents of the files only. -/
theorem loadKeys_congr (h : SameContents files files') :
    loadKeys K path passphrase files = loadKeys K path passphrase files' := by
  have hread : readBytes path files = readBytes path files' := by
    have hpath := h path
    rw [readBytes, readBytes]
    cases hfile : files path with
    | none =>
        rw [hfile, Option.map_none, eq_comm, Option.map_eq_none_iff] at hpath
        rw [hpath]
    | some file =>
        rw [hfile, Option.map_some, eq_comm, Option.map_eq_some_iff] at hpath
        obtain ⟨file', hfile', hcontents⟩ := hpath
        rw [hfile']
        exact congrArg Except.ok hcontents.symm
  rw [loadKeys, loadKeys, hread]

/-- Outcomes of loads that agree. -/
theorem alike_load {ε ε' α α' : Type} {fails : ε → ε' → Prop} {same : α → α' → Prop}
    {bytes : α → Bytes} {bytes' : α' → Bytes} {x : Except ε α} {x' : Except ε' α'}
    (h : SameContents files files') (hx : Agree fails same x x')
    (hbytes : ∀ a a', same a a' → bytes a = bytes' a') :
    Alike (outcome files (fun a => (.keys (bytes a), files)) x)
      (outcome files' (fun a' => (.keys (bytes' a'), files')) x') := by
  cases hx with
  | ok ha => exact ⟨congrArg KeyAnswer.keys (hbytes _ _ ha), h⟩
  | error _ => exact ⟨rfl, h⟩

theorem outcome_bind {ε α β : Type} {seen : β → KeyAnswer × Files} {f : α → β} (x : Except ε α) :
    outcome files seen (x >>= fun a => .ok (f a)) = outcome files (fun a => seen (f a)) x := by
  cases x with
  | ok a => rfl
  | error e => rfl

/-- Where a file is, `load_or_create_keys` loads it. -/
theorem pyCall_found (hfound : (files path).isSome = true) :
    pyCall K files (.loadOrCreate random data path passphrase)
      = pyCall K files (.load path passphrase) := by
  rw [pyCall, pyCall, loadOrCreateKeys, if_pos hfound, outcome_bind]

theorem tsCall_found (hfound : (files path).isSome = true) :
    tsCall N files (.loadOrCreate random data path passphrase)
      = tsCall N files (.load path passphrase) := by
  rw [tsCall, tsCall, tsLoadOrCreateKeys, if_pos hfound, outcome_bind]

theorem pyCall_missing (B : KeepsBytes K) (hencodable : Encodable K passphrase)
    (hmissing : ¬ (files path).isSome = true) :
    pyCall K files (.loadOrCreate random data path passphrase) = (.keys data.1,
      Function.update files path (some ⟨keyData K random data passphrase, 0o600⟩)) := by
  rw [pyCall, loadOrCreateKeys, if_neg hmissing, outcome_bind, saveKeys_eq B hencodable, outcome,
    toBytes_pyKeys B]

theorem tsCall_missing (C : SameCipher K N) (hmissing : ¬ (files path).isSome = true) :
    tsCall N files (.loadOrCreate random data path passphrase) = (.keys data.1,
      Function.update files path (some ⟨keyData K random data passphrase,
        ((files path).map StoredFile.mode).getD 0o600⟩)) := by
  rw [tsCall, tsLoadOrCreateKeys, if_neg hmissing, outcome_bind, tsSaveKeys_eq C, outcome,
    toBytes_tsKeys]

/-- Python does not look at modes. -/
theorem pyCall_congr (B : KeepsBytes K) (h : SameContents files files') (call : KeyCall)
    (hencodable : Encodable K call.passphrase) : Alike (pyCall K files call) (pyCall K files' call) := by
  have hload : ∀ path passphrase, Alike (pyCall K files (.load path passphrase))
      (pyCall K files' (.load path passphrase)) := by
    intro path passphrase
    rw [pyCall, pyCall, loadKeys_congr h]
    cases loadKeys K path passphrase files' with
    | ok keys => exact ⟨rfl, h⟩
    | error e => exact ⟨rfl, h⟩
  cases call with
  | save random data path passphrase =>
      have hencodable : Encodable K passphrase := hencodable
      rw [pyCall, pyCall, saveKeys_eq B hencodable, saveKeys_eq B hencodable]
      exact ⟨rfl, h.update _ _ _ _⟩
  | load path passphrase => exact hload path passphrase
  | loadOrCreate random generated path passphrase =>
      have hencodable : Encodable K passphrase := hencodable
      by_cases hfound : (files path).isSome = true
      · rw [pyCall_found hfound, pyCall_found ((isSome_alike h path).symm.trans hfound)]
        exact hload path passphrase
      · rw [pyCall_missing B hencodable hfound,
          pyCall_missing B hencodable (by rwa [← isSome_alike h path])]
        exact ⟨rfl, h.update _ _ _ _⟩

/-- **ONE CALL** of either package. -/
theorem tsCall_alike (C : SameCipher K N) (B : KeepsBytes K) (h : SameContents files files')
    (call : KeyCall) (hencodable : Encodable K call.passphrase) :
    Alike (pyCall K files call) (tsCall N files' call) := by
  have hload : ∀ path passphrase, Encodable K passphrase →
      Alike (pyCall K files (.load path passphrase)) (tsCall N files' (.load path passphrase)) := by
    intro path passphrase hencodable
    have hagree : Agree Refused SameKeys (loadKeys K path passphrase files')
        (tsLoadKeys N path passphrase files') := by
      cases hfile : files' path with
      | none => exact agree_missing hfile
      | some file => exact agree_load C hencodable hfile
    rw [pyCall, tsCall, loadKeys_congr h]
    exact alike_load h hagree fun keys keys' hsame => toBytes_alike B hsame
  cases call with
  | save random data path passphrase =>
      have hencodable : Encodable K passphrase := hencodable
      rw [pyCall, tsCall, saveKeys_eq B hencodable, tsSaveKeys_eq C]
      exact ⟨rfl, h.update _ _ _ _⟩
  | load path passphrase => exact hload path passphrase hencodable
  | loadOrCreate random generated path passphrase =>
      have hencodable : Encodable K passphrase := hencodable
      by_cases hfound : (files path).isSome = true
      · rw [pyCall_found hfound, tsCall_found ((isSome_alike h path).symm.trans hfound)]
        exact hload path passphrase hencodable
      · rw [pyCall_missing B hencodable hfound, tsCall_missing C (by rwa [← isSome_alike h path])]
        exact ⟨rfl, h.update _ _ _ _⟩

theorem callBy_alike (C : SameCipher K N) (B : KeepsBytes K) (h : SameContents files files')
    (package : Package) (call : KeyCall) (hencodable : Encodable K call.passphrase) :
    Alike (pyCall K files call) (callBy K N files' (package, call)) := by
  cases package with
  | python => exact pyCall_congr B h call hencodable
  | typescript => exact tsCall_alike C B h call hencodable

/-! ### Every run -/

/-- One call, made by Python or by either package. -/
def SameCall (K : KeyCrypto) (call : KeyCall) (call' : Package × KeyCall) : Prop :=
  Encodable K call.passphrase ∧ call = call'.2

theorem packages_in_lockstep (C : SameCipher K N) (B : KeepsBytes K) :
    Lockstep (pyCall K) (callBy K N) (SameCall K) Eq SameContents := by
  have hstep : ∀ files files' call call', SameContents files files' → SameCall K call call' →
      Alike (pyCall K files call) (callBy K N files' call') := by
    rintro files files' call ⟨package, _⟩ h ⟨hencodable, rfl⟩
    exact callBy_alike C B h package call hencodable
  exact ⟨fun _ _ _ _ hs hc => (hstep _ _ _ _ hs hc).1,
    fun _ _ _ _ hs hc => (hstep _ _ _ _ hs hc).2⟩

/-- Python alone, and the two packages in turn. -/
theorem run_alike (C : SameCipher K N) (B : KeepsBytes K) {calls : List (Package × KeyCall)}
    (hencodable : ∀ call ∈ calls, Encodable K call.2.passphrase) (h : SameContents files files') :
    (run (pyCall K) files (calls.map Prod.snd)).1 = (run (callBy K N) files' calls).1 ∧
      SameContents (run (pyCall K) files (calls.map Prod.snd)).2
        (run (callBy K N) files' calls).2 := by
  have hcalls : List.Forall₂ (SameCall K) (calls.map Prod.snd) calls := by
    rw [List.forall₂_map_left_iff, List.forall₂_same]
    exact fun call hcall => ⟨hencodable call hcall, rfl⟩
  obtain ⟨hanswers, hfiles⟩ := (packages_in_lockstep C B).run h hcalls
  exact ⟨List.forall₂_eq_eq_eq ▸ hanswers, hfiles⟩

/-- **WHICHEVER PACKAGE** makes each call on the key files, the callers are answered alike, and the
    files end with the same bytes. -/
theorem either_package (K : KeyCrypto) (N : NodeCrypto K) (C : SameCipher K N) (B : KeepsBytes K)
    (calls calls' : List (Package × KeyCall)) (hcalls : calls.map Prod.snd = calls'.map Prod.snd)
    (hencodable : ∀ call ∈ calls, Encodable K call.2.passphrase) (files : Files) :
    (run (callBy K N) files calls).1 = (run (callBy K N) files calls').1 ∧
      SameContents (run (callBy K N) files calls).2 (run (callBy K N) files calls').2 := by
  have hencodable' : ∀ call ∈ calls', Encodable K call.2.passphrase := by
    intro call hcall
    have hmem : call.2 ∈ calls.map Prod.snd := by
      rw [hcalls]
      exact List.mem_map_of_mem hcall
    obtain ⟨call₀, hcall₀, heq⟩ := List.mem_map.mp hmem
    exact heq ▸ hencodable call₀ hcall₀
  obtain ⟨hanswers, hfiles⟩ := run_alike C B hencodable (SameContents.refl files)
  obtain ⟨hanswers', hfiles'⟩ := run_alike C B hencodable' (SameContents.refl files)
  rw [← hcalls] at hanswers' hfiles'
  exact ⟨hanswers.symm.trans hanswers', hfiles.symm.trans hfiles'⟩

/-! ### Saved keys stay -/

section Stored

variable {mode : ℕ} {asked : Option PyStr}

end Stored

/-- The ciphertext of `sampleCrypto`, with its last bytes for the tag. -/
def sampleNode : NodeCrypto sampleCrypto where
  cipher key nonce plain header :=
    let sealed := sampleCrypto.encrypt key nonce plain header
    (sealed.take (sealed.length - tagBytes), sealed.drop (sealed.length - tagBytes))
  decipher key nonce ciphertext tag header :=
    sampleCrypto.decrypt key nonce (ciphertext ++ tag) header

/-- The key is shown in what it opens. -/
theorem length_of_openUnder {key sealed plain : Bytes} (h : openUnder key sealed = some plain) :
    2 * key.length < sealed.length := by
  fun_induction openUnder key sealed with
  | case1 plain' => exact Nat.succ_pos _
  | case2 b key sealed ih =>
      have hshorter := ih h
      simp only [List.length_cons]
      omega
  | case3 => exact nomatch h
  | case4 => exact nomatch h

theorem longer_than_tag {key nonce sealed plain : Bytes} (hnonce : nonce.length = nonceBytes)
    (h : openUnder (key ++ (nonce ++ header)) sealed = some plain) :
    tagBytes < sealed.length := by
  have hlong := length_of_openUnder h
  have hheader : header.length = 5 := rfl
  rw [List.length_append, List.length_append, hnonce, hheader, nonceBytes] at hlong
  rw [tagBytes]
  omega

theorem sameCipher_sample : SameCipher sampleCrypto sampleNode where
  cipher key nonce plain := List.take_append_drop _ _
  decipher key nonce ciphertext tag _ := rfl
  decrypt_tag key nonce sealed plain hnonce hsealed hplain := by
    exact absurd hsealed (not_le.mpr (longer_than_tag hnonce hplain))

theorem encodable_p : Encodable sampleCrypto (some (py "p")) := by
  have hascii : IsAscii (sampleNfc (py "p")) := by decide
  intro _ c hc
  exact isScalar_ascii (hascii c hc)

/-- A torn container, read under a passphrase. -/
theorem key_files_read_alike_torn :
    Agree Refused SameKeys
      (loadKeys sampleCrypto (py "copy.key") (some (py "p")) fun _ => some ⟨header, 0o600⟩)
      (tsLoadKeys sampleNode (py "copy.key") (some (py "p")) fun _ => some ⟨header, 0o600⟩) :=
  key_files_read_alike sampleCrypto sampleNode sameCipher_sample _ _ encodable_p _

/-- A key file is asked for by one package, another made by TypeScript. -/
def sampleCalls (package : Package) : List (Package × KeyCall) :=
  [(package, .load (py "copy.key") (some (py "p"))),
    (.typescript, .loadOrCreate sampleRandom ⟨List.replicate 64 8, rfl⟩ (py "new.key") none)]

theorem encodable_sampleCalls (package : Package) :
    ∀ call ∈ sampleCalls package, Encodable sampleCrypto call.2.passphrase := by
  intro call hcall
  rcases List.mem_cons.mp hcall with rfl | hcall
  · exact encodable_p
  · rw [List.mem_singleton.mp hcall]
    exact fun hsecret => absurd rfl hsecret

theorem either_package_sample :
    (run (callBy sampleCrypto sampleNode) (fun _ => none) (sampleCalls .python)).1 =
        (run (callBy sampleCrypto sampleNode) (fun _ => none) (sampleCalls .typescript)).1 ∧
      SameContents (run (callBy sampleCrypto sampleNode) (fun _ => none) (sampleCalls .python)).2
        (run (callBy sampleCrypto sampleNode) (fun _ => none) (sampleCalls .typescript)).2 :=
  either_package sampleCrypto sampleNode sameCipher_sample (keepsBytes_of_ideal idealCrypto_sample)
    (sampleCalls .python) (sampleCalls .typescript) rfl (encodable_sampleCalls .python) fun _ => none

end AgentTsKeyFile
