import MoonlightWeb.MoonlightCommon.Pair

/-! When pairing panics, and what a success of it proves. A panic needs a host
whose answers are shorter than what the client cuts out of them, or one so old
that it still uses SHA-1, whose hash does not fill the buffer it is copied into. -/
namespace MoonlightWeb.MoonlightCommon
open Throwing

variable {X509 PKey Client RequestError : Type} {crypto : Crypto X509 PKey}

section Hashes
variable {ε σ : Type} {state : σ}

/-- The digits of a pin as they are hashed. -/
def PairPin.utf8 (pin : PairPin) : Bytes := pin.numbers.map (48 + ·)

@[simp] theorem length_utf8 (pin : PairPin) : pin.utf8.length = 4 := by
  rw [PairPin.utf8, List.length_map, pin.four]

private theorem mapM_fromDigit (numbers : Bytes) (digits : ∀ number ∈ numbers, number < 10) :
    numbers.mapM fromDigit = some (numbers.map (48 + ·)) := by
  induction numbers with
  | nil => rfl
  | cons number rest ih =>
    have digit : fromDigit number = some (48 + number) := if_pos (digits number (by simp))
    have others := ih fun later member => digits later (List.mem_cons_of_mem _ member)
    simp [List.mapM_cons, digit, others]

theorem saltPin_eq (pin : PairPin) (salted : salt.length = SALT_LENGTH) :
    perform (saltPin salt pin : Fallible ε σ Bytes) state = (.ok (salt ++ pin.utf8), state) := by
  have digits : pin.numbers.mapM fromDigit = some pin.utf8 := mapM_fromDigit _ pin.digits
  simp [saltPin, copyFromSlice, expect, salted, digits]

theorem hashSizeUneq_sha256 (data : Bytes) (fits : length ≤ HashAlgorithm.MAX_HASH_LEN) :
    perform (hashSizeUneq crypto .sha256 data length : Fallible ε σ Bytes) state =
      (.ok ((crypto.sha256 data).toList.take length), state) := by
  rw [HashAlgorithm.MAX_HASH_LEN] at fits
  simp [hashSizeUneq, hash, copyFromSlice, slice, HashAlgorithm.MAX_HASH_LEN, fits]

theorem panics_hash_bind {next : Bytes → Fallible ε σ β} (data : Bytes) :
    Panics (hashSizeUneq crypto .sha256 data HashAlgorithm.MAX_HASH_LEN >>= next) state ↔
      Panics (next (crypto.sha256 data).toList) state := by
  have whole : (crypto.sha256 data).toList.take HashAlgorithm.MAX_HASH_LEN =
      (crypto.sha256 data).toList := List.take_of_length_le Vector.length_toList.le
  rw [panics_bind_of_ok (hashSizeUneq_sha256 data le_rfl), whole]

/-- Twenty bytes are copied over thirty-two. -/
theorem hashSizeUneq_sha1 (data : Bytes) :
    Panics (hashSizeUneq crypto .sha1 data length : Fallible ε σ Bytes) state := by
  simp [Panics, hashSizeUneq, hash, copyFromSlice, HashAlgorithm.MAX_HASH_LEN]

/-- The key from SHA-256, the only hash that gives one. -/
def aesKey (crypto : Crypto X509 PKey) (salt : Vector UInt8 16) (pin : PairPin) : Bytes :=
  (crypto.sha256 (salt.toList ++ pin.utf8)).toList.take 16

theorem generateAesKey_sha256 (salt : Vector UInt8 16) (pin : PairPin) :
    perform (generateAesKey crypto .sha256 salt.toList pin : Fallible ε σ Bytes) state =
      (.ok (aesKey crypto salt pin), state) := by
  have salted : salt.toList.length = SALT_LENGTH := salt.length_toList
  rw [generateAesKey, perform_bind_ok (saltPin_eq pin salted)]
  exact hashSizeUneq_sha256 _ (by decide)

theorem generateAesKey_sha1 (salt : Vector UInt8 16) (pin : PairPin) :
    Panics (generateAesKey crypto .sha1 salt.toList pin : Fallible ε σ Bytes) state := by
  have salted : salt.toList.length = SALT_LENGTH := salt.length_toList
  rw [generateAesKey, panics_bind_of_ok (saltPin_eq pin salted)]
  exact hashSizeUneq_sha1 _

end Hashes

section Requests
variable {answers : PairAnswers RequestError} {client : Client} {sent : List (Sent Client)}

theorem panics_sendRequest_bind {answer : Except (ApiError RequestError) α}
    {next : α → Pairing Client RequestError β} :
    Panics (sendRequest client hostport request answer >>= next) sent ↔
      ∃ value, answer = .ok value ∧
        Panics (next value) (sent ++ [⟨client, hostport, request⟩]) := by
  rw [sendRequest, bind_assoc, Panics, perform_get_bind, bind_assoc,
    perform_bind_ok (perform_set _ _)]
  exact panics_attempt_bind

theorem panics_checkOrUnpair_bind {holds : Prop} [Decidable holds]
    {error : PairError RequestError} {next : PUnit → Pairing Client RequestError β} :
    Panics (checkOrUnpair answers client httpHostport holds error >>= next) sent ↔
      holds ∧ Panics (next ⟨⟩) sent := by
  by_cases passes : holds
  · simp [checkOrUnpair, passes]
  · have ends : ¬Panics (hostUnpair answers client httpHostport >>= fun _ =>
        (fail error : Pairing Client RequestError PUnit) >>= next) sent := by
      rw [hostUnpair, panics_sendRequest_bind]
      rintro ⟨value, answered, panics⟩
      simp [Panics, fail] at panics
    simpa [checkOrUnpair, passes] using ends

end Requests

/-- Phase two was answered as paired and its answer could be decrypted; phase one
had given a certificate to go on with. -/
def ChallengeAnswered (crypto : Crypto X509 PKey) (draws : Draws)
    (answers : PairAnswers RequestError) (aesKey : Bytes) (response : HostPairResponse2)
    (plaintext : Bytes) : Prop :=
  ∃ first text pem serverCert challenge encrypted,
    answers.pair1 = .ok first ∧ first.paired = .paired ∧ first.cert = some text ∧
    crypto.pemFromStr text = .ok pem ∧ crypto.certificateFromDer pem.contents = .ok serverCert ∧
    draws.challenge = .ok challenge ∧ crypto.encryptAes aesKey challenge.toList = .ok encrypted ∧
    answers.pair2 = .ok response ∧ response.paired = .paired ∧
    crypto.decryptAes aesKey response.encryptedResponse = .ok plaintext

/-- Phase three was answered as paired, for the challenge in the plaintext of
phase two. -/
def SecretAnswered (crypto : Crypto X509 PKey) (draws : Draws)
    (answers : PairAnswers RequestError) (aesKey : Bytes) (clientCert : X509) (plaintext : Bytes)
    (response : HostPairResponse3) : Prop :=
  ∃ clientSecret encrypted,
    draws.clientSecret = .ok clientSecret ∧
    crypto.encryptAes aesKey (crypto.sha256 ((plaintext.drop 32).take 16 ++
      crypto.signature clientCert ++ clientSecret.toList)).toList = .ok encrypted ∧
    answers.pair3 = .ok response ∧ response.paired = .paired

/-- Forty-eight bytes of plaintext come from forty-eight bytes of ciphertext. -/
private theorem long_plaintext_iff
    (decrypted : crypto.decryptAes key ciphertext = .ok plaintext) :
    48 ≤ plaintext.length ↔ 48 ≤ ciphertext.length := by
  have length := crypto.decrypt_length _ _ _ decrypted
  omega

theorem host_pair_panics_iff :
    Panics (hostPair crypto requests draws answers client httpAddress httpsAddress
      clientPrivateKeyPem clientCertificatePem deviceName serverVersion pin :
        Pairing Client RequestError (PairSuccess Client)) sent ↔
      ∃ clientCert, crypto.certificateFromDer clientCertificatePem.contents = .ok clientCert ∧
      ∃ clientKey, crypto.privateKeyFromDer clientPrivateKeyPem.contents = .ok clientKey ∧
      crypto.canSignWithPkcs1Sha256 clientKey = true ∧
      ∃ salt, draws.salt = .ok salt ∧
      (¬7 ≤ serverVersion.major ∨ ∃ response plaintext,
        ChallengeAnswered crypto draws answers (aesKey crypto salt pin) response plaintext ∧
        (¬48 ≤ response.encryptedResponse.length ∨ ∃ third,
          SecretAnswered crypto draws answers (aesKey crypto salt pin) clientCert plaintext third ∧
          ¬16 ≤ third.serverPairingSecret.length)) := by
  unfold hostPair
  simp only [panics_attempt_bind, panics_check_bind]
  refine exists_congr fun clientCert => and_congr_right fun parsed => ?_
  refine exists_congr fun clientKey => and_congr_right fun key => and_congr_right fun signs => ?_
  refine exists_congr fun salt => and_congr_right fun drawn => ?_
  by_cases modern : 7 ≤ serverVersion.major
  · have sha256 : hashAlgorithmForServer serverVersion = .sha256 := if_pos modern
    have whole (data : Bytes) : (crypto.sha256 data).toList.take 32 = (crypto.sha256 data).toList :=
      List.take_of_length_le Vector.length_toList.le
    rw [sha256, panics_bind_of_ok (generateAesKey_sha256 salt pin)]
    simp only [panics_sendRequest_bind, panics_check_bind, panics_required_bind, panics_attempt_bind,
      panics_checkOrUnpair_bind, panics_slice_bind, panics_hash_bind, panics_copyFromSlice_bind,
      panics_pure, and_false, exists_false]
    simp only [HashAlgorithm.hashLen, CHALLENGE_LENGTH, whole, modern, Nat.reduceAdd,
      Nat.reduceLeDiff, Nat.reduceSub, Nat.sub_zero, Nat.zero_le, Std.le_refl, List.append_assoc,
      List.drop_zero, List.length_take, Vector.length_toList, inf_eq_left, ↓existsAndEq,
      exists_and_right, true_and, and_true, and_self, and_false, false_or, not_true_eq_false,
      imp_false, not_le, forall_self_imp, forall_const]
    constructor
    · rintro ⟨first, answered, paired, text, given, pem, isPem, ⟨serverCert, isCert⟩, challenge,
        challenged, ⟨encrypted, encrypts⟩, response, answers2, paired2, plaintext, decrypted, ends⟩
      refine ⟨response, plaintext, ⟨first, text, pem, serverCert, challenge, encrypted, answered,
        paired, given, isPem, isCert, challenged, encrypts, answers2, paired2, decrypted⟩, ?_⟩
      rw [or_iff_not_imp_left, not_lt, ← long_plaintext_iff decrypted]
      intro long
      obtain ⟨clientSecret, drawn, ⟨hashed, encrypts3⟩, third, answers3, paired3, short⟩ :=
        ends (Nat.le_trans (by decide) long) long
      refine ⟨third, ⟨clientSecret, hashed, drawn, ?_, answers3, paired3⟩, ?_⟩
      · rw [List.append_assoc]
        exact encrypts3
      · omega
    · rintro ⟨response, plaintext, ⟨first, text, pem, serverCert, challenge, encrypted, answered,
        paired, given, isPem, isCert, challenged, encrypts, answers2, paired2, decrypted⟩, short⟩
      refine ⟨first, answered, paired, text, given, pem, isPem, ⟨serverCert, isCert⟩, challenge,
        challenged, ⟨encrypted, encrypts⟩, response, answers2, paired2, plaintext, decrypted, ?_⟩
      intro _ long
      rw [long_plaintext_iff decrypted] at long
      obtain short | ⟨third, ⟨clientSecret, hashed, drawn, encrypts3, answers3, paired3⟩, short⟩ :=
        short
      · omega
      · rw [List.append_assoc] at encrypts3
        exact ⟨clientSecret, drawn, ⟨hashed, encrypts3⟩, third, answers3, paired3, fun _ => short⟩
  · have sha1 : hashAlgorithmForServer serverVersion = .sha1 := if_neg modern
    simp only [modern, not_false_eq_true, true_or, iff_true]
    rw [sha1, panics_bind]
    exact .inl (generateAesKey_sha1 salt pin)

/-- Pairing gives its caller a result exactly when, wherever it gets so far, the
host is new enough for SHA-256 and its answers hold what is cut out of them. -/
theorem host_pair_returns_iff :
    Returns (hostPair crypto requests draws answers client httpAddress httpsAddress
      clientPrivateKeyPem clientCertificatePem deviceName serverVersion pin :
        Pairing Client RequestError (PairSuccess Client)) sent ↔
      ∀ clientCert clientKey salt,
        crypto.certificateFromDer clientCertificatePem.contents = .ok clientCert →
        crypto.privateKeyFromDer clientPrivateKeyPem.contents = .ok clientKey →
        crypto.canSignWithPkcs1Sha256 clientKey = true → draws.salt = .ok salt →
        7 ≤ serverVersion.major ∧ ∀ response plaintext,
          ChallengeAnswered crypto draws answers (aesKey crypto salt pin) response plaintext →
          48 ≤ response.encryptedResponse.length ∧ ∀ third,
            SecretAnswered crypto draws answers (aesKey crypto salt pin) clientCert plaintext third →
            16 ≤ third.serverPairingSecret.length := by
  rw [returns_iff, host_pair_panics_iff]
  push Not
  constructor
  · intro calm clientCert clientKey salt parsed key signs drawn
    exact calm clientCert parsed clientKey key signs salt drawn
  · intro enough clientCert parsed clientKey key signs salt drawn
    exact enough clientCert clientKey salt parsed key signs drawn

/-! ## What a success proves -/

section Returned
variable {answers : PairAnswers RequestError} {client : Client} {sent : List (Sent Client)}

theorem perform_sendRequest_eq_ok {answer : Except (ApiError RequestError) α} :
    perform (sendRequest client hostport request answer) sent = (.ok value, after) ↔
      answer = .ok value ∧ sent ++ [⟨client, hostport, request⟩] = after := by
  rw [sendRequest, perform_get_bind, perform_bind_ok (perform_set _ _), perform_attempt_eq_ok]

theorem perform_checkOrUnpair_eq_ok {holds : Prop} [Decidable holds]
    {error : PairError RequestError} :
    perform (checkOrUnpair answers client httpHostport holds error) sent = (.ok value, after) ↔
      holds ∧ sent = after := by
  by_cases passes : holds
  · simp [checkOrUnpair, passes]
  · simp [checkOrUnpair, passes, perform_bind_eq_ok, fail]

end Returned

/-- The five phases were all answered as paired, the secret of phase three is
signed by the certificate of phase one, and phase two was answered with the hash
that the challenge, this certificate and this secret have: whoever answered knew
the pin. -/
def Authenticated (crypto : Crypto X509 PKey) (draws : Draws)
    (answers : PairAnswers RequestError) (pin : PairPin) (serverCertificate : Pem) : Prop :=
  ∃ first second third fourth fifth text serverCert salt challenge plaintext,
    answers.pair1 = .ok first ∧ first.paired = .paired ∧
    answers.pair2 = .ok second ∧ second.paired = .paired ∧
    answers.pair3 = .ok third ∧ third.paired = .paired ∧
    answers.pair4 = .ok fourth ∧ fourth.paired = .paired ∧
    answers.pair5 = .ok fifth ∧ fifth.paired = .paired ∧
    first.cert = some text ∧ crypto.pemFromStr text = .ok serverCertificate ∧
    crypto.certificateFromDer serverCertificate.contents = .ok serverCert ∧
    crypto.verifySignature (third.serverPairingSecret.take 16) (third.serverPairingSecret.drop 16)
      serverCert = .ok true ∧
    draws.salt = .ok salt ∧ draws.challenge = .ok challenge ∧
    crypto.decryptAes (aesKey crypto salt pin) second.encryptedResponse = .ok plaintext ∧
    plaintext.take 32 = (crypto.sha256 (challenge.toList ++ crypto.signature serverCert ++
      third.serverPairingSecret.take 16)).toList

/-- A key was made, so the hash is SHA-256. -/
theorem generateAesKey_eq_ok {ε σ : Type} {state after : σ} {salt : Vector UInt8 16}
    (made : perform (generateAesKey crypto algorithm salt.toList pin : Fallible ε σ Bytes) state =
      (.ok key, after)) : algorithm = .sha256 ∧ key = aesKey crypto salt pin := by
  cases algorithm with
  | sha1 =>
    have panics : Panics (generateAesKey crypto .sha1 salt.toList pin : Fallible ε σ Bytes) state :=
      generateAesKey_sha1 salt pin
    rw [Panics, made] at panics
    cases panics
  | sha256 =>
    rw [generateAesKey_sha256] at made
    cases made
    exact ⟨rfl, rfl⟩

theorem host_pair_authenticates
    (ran : perform (hostPair crypto requests draws answers client httpAddress httpsAddress
      clientPrivateKeyPem clientCertificatePem deviceName serverVersion pin :
        Pairing Client RequestError (PairSuccess Client)) sent = (.ok success, after)) :
    Authenticated crypto draws answers pin success.serverCertificate ∧
      requests.withCertificates clientPrivateKeyPem clientCertificatePem
        success.serverCertificate = .ok success.client := by
  unfold hostPair at ran
  simp only [perform_bind_eq_ok, perform_attempt_eq_ok, perform_check_eq_ok,
    perform_required_eq_ok, perform_slice_eq_ok, perform_copyFromSlice_eq_ok,
    perform_sendRequest_eq_ok, perform_checkOrUnpair_eq_ok, perform_pure] at ran
  obtain ⟨clientCert, _, -, ran⟩ := ran
  obtain ⟨clientKey, _, -, ran⟩ := ran
  obtain ⟨_, _, -, ran⟩ := ran
  obtain ⟨salt, _, ⟨salted, -⟩, ran⟩ := ran
  obtain ⟨key, _, made, ran⟩ := ran
  obtain ⟨modern, rfl⟩ := generateAesKey_eq_ok made
  rw [modern] at ran
  -- phase one
  obtain ⟨first, _, ⟨answered, -⟩, ran⟩ := ran
  obtain ⟨_, _, ⟨paired, -⟩, ran⟩ := ran
  obtain ⟨text, _, ⟨given, -⟩, ran⟩ := ran
  obtain ⟨pem, _, ⟨isPem, -⟩, ran⟩ := ran
  obtain ⟨serverCert, _, ⟨isCert, -⟩, ran⟩ := ran
  -- phase two
  obtain ⟨challenge, _, ⟨challenged, -⟩, ran⟩ := ran
  obtain ⟨encrypted, _, -, ran⟩ := ran
  obtain ⟨second, _, ⟨answered2, -⟩, ran⟩ := ran
  obtain ⟨_, _, ⟨paired2, -⟩, ran⟩ := ran
  obtain ⟨plaintext, _, ⟨decrypted, -⟩, ran⟩ := ran
  obtain ⟨responseHash, _, ⟨-, rfl, -⟩, ran⟩ := ran
  obtain ⟨serverChallenge, _, -, ran⟩ := ran
  -- phase three
  obtain ⟨clientSecret, _, -, ran⟩ := ran
  obtain ⟨hashed, _, -, ran⟩ := ran
  obtain ⟨_, _, -, ran⟩ := ran
  obtain ⟨_, _, -, ran⟩ := ran
  obtain ⟨third, _, ⟨answered3, -⟩, ran⟩ := ran
  obtain ⟨_, _, ⟨paired3, -⟩, ran⟩ := ran
  obtain ⟨_, _, ⟨-, rfl, -⟩, ran⟩ := ran
  obtain ⟨secret, _, ⟨-, rfl, -⟩, ran⟩ := ran
  obtain ⟨signature, _, ⟨-, rfl, -⟩, ran⟩ := ran
  obtain ⟨verified, _, ⟨verifies, -⟩, ran⟩ := ran
  obtain ⟨_, _, ⟨rfl, -⟩, ran⟩ := ran
  obtain ⟨expected, _, hashes, ran⟩ := ran
  obtain ⟨part, _, ⟨-, rfl, -⟩, ran⟩ := ran
  obtain ⟨_, _, ⟨agree, -⟩, ran⟩ := ran
  -- phases four and five
  obtain ⟨signed, _, -, ran⟩ := ran
  obtain ⟨fourth, _, ⟨answered4, -⟩, ran⟩ := ran
  obtain ⟨_, _, ⟨paired4, -⟩, ran⟩ := ran
  obtain ⟨newClient, _, ⟨made, -⟩, ran⟩ := ran
  obtain ⟨fifth, _, ⟨answered5, -⟩, ran⟩ := ran
  obtain ⟨_, _, ⟨paired5, -⟩, ran⟩ := ran
  cases ran
  rw [hashSizeUneq_sha256 _ le_rfl] at hashes
  cases hashes
  have rest : (third.serverPairingSecret.drop 16).take (third.serverPairingSecret.length - 16) =
      third.serverPairingSecret.drop 16 := List.take_of_length_le (List.length_drop).le
  simp only [rest, Nat.sub_zero, List.drop_zero] at verifies
  simp only [HashAlgorithm.hashLen, HashAlgorithm.MAX_HASH_LEN, Nat.sub_zero, List.drop_zero,
    List.take_take, Nat.min_self] at agree
  rw [List.take_of_length_le Vector.length_toList.le] at agree
  exact ⟨⟨first, second, third, fourth, fifth, text, serverCert, salt, challenge, plaintext,
    answered, paired, answered2, paired2, answered3, paired3, answered4, paired4, answered5, paired5,
    given, isPem, isCert, verifies, salted, challenged, decrypted, agree.symm⟩, made⟩

/-! ## A host to try it on -/

/-- The first bytes of the data stand for its hash. -/
private def clearHash (length : Nat) (data : Bytes) : Vector UInt8 length :=
  .ofFn fun i => data.getD i 0

/-- Cryptography that hides nothing: keys and certificates are their own bytes,
and what one of them signs comes after it. -/
def clearCrypto : Crypto Bytes Bytes where
  sha1 := clearHash 20
  sha256 := clearHash 32
  encryptAes _ plaintext := .ok plaintext
  decryptAes _ ciphertext := .ok (ciphertext.take (ciphertext.length / 16 * 16))
  decrypt_length key ciphertext plaintext decrypted := by
    cases decrypted
    rw [List.length_take]
    omega
  certificateFromDer := .ok
  signature certificate := certificate
  verifySignature secret signature certificate := .ok (signature == certificate ++ secret)
  privateKeyFromDer := .ok
  canSignWithPkcs1Sha256 _ := true
  signData key data := .ok (key ++ data)
  pemFromStr text := .ok ⟨"CERTIFICATE", text.toList.map (UInt8.ofNat ·.toNat)⟩
  pemToString pem := String.ofList (pem.contents.map (Char.ofNat ·.toNat))

def clearRequests : RequestClient Nat Empty where
  withDefaults := .ok 0
  withDefaultsLongTimeout := .ok 1
  withCertificates _ _ _ := .ok 2

def zeroDraws : Draws :=
  ⟨.ok (.replicate 16 0), .ok (.replicate 16 0), .ok (.replicate 16 0)⟩

def zeroPin : PairPin where
  numbers := [0, 0, 0, 0]
  four := rfl
  digits := by simp

/-- A host with the certificate `A` that follows the procedure. -/
def honestAnswers : PairAnswers Empty where
  pair1 := .ok ⟨.paired, some "A"⟩
  pair2 := .ok ⟨.paired, List.replicate 16 0 ++ [65] ++ List.replicate 31 0⟩
  pair3 := .ok ⟨.paired, List.replicate 16 0 ++ [65] ++ List.replicate 16 0⟩
  pair4 := .ok ⟨.paired⟩
  pair5 := .ok ⟨.paired⟩
  unpair := .ok ⟨⟩

def pairClear (answers : PairAnswers Empty) (major : Int32) :
    Pairing Nat Empty (PairSuccess Nat) :=
  hostPair clearCrypto clearRequests zeroDraws answers 1 "host:47989" "host:47984"
    ⟨"PRIVATE KEY", [66]⟩ ⟨"CERTIFICATE", [67]⟩ "browser" ⟨major, 0, 0, 0⟩ zeroPin

example : (perform (pairClear honestAnswers 7) []).1 = .ok ⟨2, "CERTIFICATE", [65]⟩ := by
  decide

/-- Any host of version six makes the client panic, and so does a new one whose
answer to the challenge is empty. -/
theorem old_host_panics :
    ¬Returns (pairClear honestAnswers 6) [] ∧
      ¬Returns (pairClear { honestAnswers with pair2 := .ok ⟨.paired, []⟩ } 7) [] := by
  simp only [returns_iff, not_not, Panics]
  decide

end MoonlightWeb.MoonlightCommon
