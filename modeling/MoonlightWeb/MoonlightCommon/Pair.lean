import MoonlightWeb.Lib.Panicking
import Mathlib.Data.Vector.Basic

/-! Pairing with a host. The client and the host prove to each other over five
requests that they know the pin, and the client leaves with the certificate of
the host. Every answer is the host's own choice, so each function here has to
cope with whatever it holds. -/
namespace MoonlightWeb.MoonlightCommon
open Throwing

abbrev Bytes := List UInt8

inductive PairStatus where
  | notPaired | paired
  deriving DecidableEq, Repr

structure ServerVersion where
  major : Int32
  minor : Int32
  patch : Int32
  miniPatch : Int32
  deriving DecidableEq, Repr

/-- A pin of four digits. -/
structure PairPin where
  numbers : Bytes
  four : numbers.length = 4
  digits : ∀ number ∈ numbers, number < 10

def SALT_LENGTH : Nat := 16
def CHALLENGE_LENGTH : Nat := 16

inductive HashAlgorithm where
  | sha1 | sha256
  deriving DecidableEq, Repr

namespace HashAlgorithm

def MAX_HASH_LEN : Nat := 32

def hashLen : HashAlgorithm → Nat
  | .sha1 => 20
  | .sha256 => 32

end HashAlgorithm

def hashAlgorithmForServer (serverVersion : ServerVersion) : HashAlgorithm :=
  if serverVersion.major ≥ 7 then .sha256 else .sha1

structure Pem where
  tag : String
  contents : Bytes
  deriving DecidableEq, Repr

structure ErrorStack where
  codes : List UInt64
  deriving DecidableEq, Repr

structure PemError where
  message : String
  deriving DecidableEq, Repr

/-- The libraries that pairing is built on: OpenSSL and the PEM format. -/
structure Crypto (X509 PKey : Type) where
  sha1 : Bytes → Vector UInt8 20
  sha256 : Bytes → Vector UInt8 32
  encryptAes : Bytes → Bytes → Except ErrorStack Bytes
  decryptAes : Bytes → Bytes → Except ErrorStack Bytes
  /-- Without padding a cipher gives the whole blocks of what it is given. -/
  decrypt_length : ∀ key ciphertext plaintext, decryptAes key ciphertext = .ok plaintext →
    plaintext.length = ciphertext.length / 16 * 16
  certificateFromDer : Bytes → Except ErrorStack X509
  signature : X509 → Bytes
  verifySignature : Bytes → Bytes → X509 → Except ErrorStack Bool
  privateKeyFromDer : Bytes → Except ErrorStack PKey
  canSignWithPkcs1Sha256 : PKey → Bool
  signData : PKey → Bytes → Except ErrorStack Bytes
  pemFromStr : String → Except PemError Pem
  pemToString : Pem → String

/-- What the random generator gives in one pairing. -/
structure Draws where
  salt : Except ErrorStack (Vector UInt8 16)
  challenge : Except ErrorStack (Vector UInt8 16)
  clientSecret : Except ErrorStack (Vector UInt8 16)

inductive ApiError (RequestError : Type) where
  | requestClient (error : RequestError)
  | parseXmlError (error : String)
  | invalidXmlStatusCode (message : Option String)
  | xmlRootNotFound
  | xmlTextNotFound (name : String)
  | detailNotFound (name : String)
  | parseServerStateError
  | parseServerVersionError (error : String)
  | parseServerCodecModeSupport
  | parseMacError (error : String)
  | parseIntError (error : String)
  | parseUuidError (error : String)
  | parseHexError (error : String)
  | utf8Error (error : String)
  deriving DecidableEq, Repr

/-- How a request client is made. -/
structure RequestClient (Client RequestError : Type) where
  withDefaults : Except RequestError Client
  withDefaultsLongTimeout : Except RequestError Client
  withCertificates : Pem → Pem → Pem → Except RequestError Client

structure ClientPairRequest1 where
  deviceName : String
  salt : Bytes
  clientCertPem : String
  deriving DecidableEq, Repr

structure HostPairResponse1 where
  paired : PairStatus
  cert : Option String
  deriving DecidableEq, Repr

structure ClientPairRequest2 where
  deviceName : String
  encryptedChallenge : Bytes
  deriving DecidableEq, Repr

structure HostPairResponse2 where
  paired : PairStatus
  encryptedResponse : Bytes
  deriving DecidableEq, Repr

structure ClientPairRequest3 where
  deviceName : String
  encryptedChallengeResponseHash : Bytes
  deriving DecidableEq, Repr

structure HostPairResponse3 where
  paired : PairStatus
  serverPairingSecret : Bytes
  deriving DecidableEq, Repr

structure ClientPairRequest4 where
  deviceName : String
  clientPairingSecret : Bytes
  deriving DecidableEq, Repr

structure HostPairResponse4 where
  paired : PairStatus
  deriving DecidableEq, Repr

structure ClientPairRequest5 where
  deviceName : String
  deriving DecidableEq, Repr

structure ServerPairResponse5 where
  paired : PairStatus
  deriving DecidableEq, Repr

inductive PairRequest where
  | pair1 (request : ClientPairRequest1)
  | pair2 (request : ClientPairRequest2)
  | pair3 (request : ClientPairRequest3)
  | pair4 (request : ClientPairRequest4)
  | pair5 (request : ClientPairRequest5)
  | unpair
  deriving DecidableEq, Repr

/-- A request as it went out: by which client and to which address. -/
structure Sent (Client : Type) where
  client : Client
  hostport : String
  request : PairRequest
  deriving DecidableEq, Repr

/-- What comes back for each request of one pairing, should it be made. -/
structure PairAnswers (RequestError : Type) where
  pair1 : Except (ApiError RequestError) HostPairResponse1
  pair2 : Except (ApiError RequestError) HostPairResponse2
  pair3 : Except (ApiError RequestError) HostPairResponse3
  pair4 : Except (ApiError RequestError) HostPairResponse4
  pair5 : Except (ApiError RequestError) ServerPairResponse5
  unpair : Except (ApiError RequestError) PUnit

structure PairSuccess (Client : Type) where
  client : Client
  serverCertificate : Pem
  deriving DecidableEq, Repr

inductive PairError (RequestError : Type) where
  | api (error : ApiError RequestError)
  | incorrectPrivateKey
  | openSSL (error : ErrorStack)
  | serverCertificatePem (error : PemError)
  | incorrectPin
  | alreadyInProgress
  | failed
  deriving DecidableEq, Repr

/-- Pairing, with the requests made so far. -/
abbrev Pairing (Client RequestError : Type) :=
  Fallible (PairError RequestError) (List (Sent Client))

section Hashes
variable {X509 PKey ε σ : Type} (crypto : Crypto X509 PKey)

def hash (algorithm : HashAlgorithm) (data : Bytes) (length : Nat) : Fallible ε σ Bytes :=
  match algorithm with
  | .sha1 => copyFromSlice length (crypto.sha1 data).toList
  | .sha256 => copyFromSlice length (crypto.sha256 data).toList

/-- The first bytes of a hash, as many as the output takes. -/
def hashSizeUneq (algorithm : HashAlgorithm) (data : Bytes) (length : Nat) :
    Fallible ε σ Bytes := do
  let hash ← hash crypto algorithm data HashAlgorithm.MAX_HASH_LEN
  let part ← slice hash 0 length
  copyFromSlice length part

def fromDigit (value : UInt8) : Option UInt8 :=
  if value < 10 then some (48 + value) else none

def saltPin (salt : Bytes) (pin : PairPin) : Fallible ε σ Bytes := do
  let out ← copyFromSlice SALT_LENGTH salt
  let pinUtf8 ← expect (pin.numbers.mapM fromDigit)
  let rest ← copyFromSlice 4 pinUtf8
  pure (out ++ rest)

def generateAesKey (algorithm : HashAlgorithm) (salt : Bytes) (pin : PairPin) :
    Fallible ε σ Bytes := do
  let salted ← saltPin salt pin
  hashSizeUneq crypto algorithm salted 16

end Hashes

section Requests
variable {Client RequestError : Type}

/-- A request goes out and its answer, if it is one, comes back. -/
def sendRequest (client : Client) (hostport : String) (request : PairRequest)
    (answer : Except (ApiError RequestError) α) : Pairing Client RequestError α := do
  let sent ← get
  set (sent ++ [⟨client, hostport, request⟩])
  attempt PairError.api answer

def hostUnpair (answers : PairAnswers RequestError) (client : Client) (httpHostport : String) :
    Pairing Client RequestError PUnit :=
  sendRequest client httpHostport .unpair answers.unpair

/-- A check of the later phases: where it fails, the host is told to forget the
client first. -/
def checkOrUnpair (answers : PairAnswers RequestError) (client : Client) (httpHostport : String)
    (holds : Prop) [Decidable holds] (error : PairError RequestError) :
    Pairing Client RequestError PUnit :=
  if holds then pure ⟨⟩
  else do
    hostUnpair answers client httpHostport
    fail error

end Requests

def hostPair {X509 PKey Client RequestError : Type} (crypto : Crypto X509 PKey)
    (requests : RequestClient Client RequestError) (draws : Draws)
    (answers : PairAnswers RequestError) (client : Client) (httpAddress httpsAddress : String)
    (clientPrivateKeyPem clientCertificatePem : Pem) (deviceName : String)
    (serverVersion : ServerVersion) (pin : PairPin) :
    Pairing Client RequestError (PairSuccess Client) := do
  let clientCert ← attempt .openSSL (crypto.certificateFromDer clientCertificatePem.contents)
  let clientPrivateKey ← attempt .openSSL (crypto.privateKeyFromDer clientPrivateKeyPem.contents)
  check (crypto.canSignWithPkcs1Sha256 clientPrivateKey = true) .incorrectPrivateKey
  let hashAlgorithm := hashAlgorithmForServer serverVersion
  let salt ← attempt .openSSL draws.salt
  let aesKey ← generateAesKey crypto hashAlgorithm salt.toList pin
  let serverResponse1 ← sendRequest client httpAddress
    (.pair1 ⟨deviceName, salt.toList, crypto.pemToString clientCertificatePem⟩) answers.pair1
  check (serverResponse1.paired = .paired) .failed
  let serverCertStr ← required serverResponse1.cert .alreadyInProgress
  let serverCertPem ← attempt .serverCertificatePem (crypto.pemFromStr serverCertStr)
  let serverCert ← attempt .openSSL (crypto.certificateFromDer serverCertPem.contents)
  let challenge ← attempt .openSSL draws.challenge
  let encryptedChallenge ← attempt .openSSL (crypto.encryptAes aesKey challenge.toList)
  let serverResponse2 ← sendRequest client httpAddress
    (.pair2 ⟨deviceName, encryptedChallenge⟩) answers.pair2
  checkOrUnpair answers client httpAddress (serverResponse2.paired = .paired) .failed
  let response ← attempt .openSSL (crypto.decryptAes aesKey serverResponse2.encryptedResponse)
  let serverResponseHash ← slice response 0 hashAlgorithm.hashLen
  let serverChallenge ←
    slice response hashAlgorithm.hashLen (hashAlgorithm.hashLen + CHALLENGE_LENGTH)
  let clientSecret ← attempt .openSSL draws.clientSecret
  let challengeResponseHash ← hashSizeUneq crypto hashAlgorithm
    (serverChallenge ++ crypto.signature clientCert ++ clientSecret.toList)
    HashAlgorithm.MAX_HASH_LEN
  let challengeResponse ← slice challengeResponseHash 0 hashAlgorithm.hashLen
  let encryptedChallengeResponseHash ←
    attempt .openSSL (crypto.encryptAes aesKey challengeResponse)
  let serverResponse3 ← sendRequest client httpAddress
    (.pair3 ⟨deviceName, encryptedChallengeResponseHash⟩) answers.pair3
  checkOrUnpair answers client httpAddress (serverResponse3.paired = .paired) .failed
  let pairingSecret ← slice serverResponse3.serverPairingSecret 0 16
  let serverSecret ← copyFromSlice 16 pairingSecret
  let serverSignature ← slice serverResponse3.serverPairingSecret 16
    serverResponse3.serverPairingSecret.length
  let verified ← attempt .openSSL (crypto.verifySignature serverSecret serverSignature serverCert)
  -- a man in the middle is likely
  checkOrUnpair answers client httpAddress (verified = true) .failed
  let expectedResponse ← hashSizeUneq crypto hashAlgorithm
    (challenge.toList ++ crypto.signature serverCert ++ serverSecret) HashAlgorithm.MAX_HASH_LEN
  let expectedResponseHash ← slice expectedResponse 0 hashAlgorithm.hashLen
  -- the pin is probably wrong
  checkOrUnpair answers client httpAddress (expectedResponseHash = serverResponseHash) .incorrectPin
  let signedSecret ← attempt .openSSL (crypto.signData clientPrivateKey clientSecret.toList)
  let serverResponse4 ← sendRequest client httpAddress
    (.pair4 ⟨deviceName, clientSecret.toList ++ signedSecret⟩) answers.pair4
  checkOrUnpair answers client httpAddress (serverResponse4.paired = .paired) .failed
  let newClient ← attempt (.api ∘ .requestClient)
    (requests.withCertificates clientPrivateKeyPem clientCertificatePem serverCertPem)
  let serverResponse5 ← sendRequest newClient httpsAddress (.pair5 ⟨deviceName⟩) answers.pair5
  checkOrUnpair answers client httpAddress (serverResponse5.paired = .paired) .failed
  pure ⟨newClient, serverCertPem⟩

end MoonlightWeb.MoonlightCommon
