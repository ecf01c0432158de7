/-
This file defines how a client connects to a device and decides whether to trust it.
-/

import SubnetDesk.Construction.Lan.Discovery

namespace SubnetDesk.Lan

abbrev Bytes := List UInt8

/-- The recent endpoints and the discovered peers at one time. -/
structure EndpointCaches where
  recent : List RecentLanEndpoint
  peers : List DiscoveryPeer

def connectionCandidates (parser : EndpointParser) (caches : EndpointCaches) (endpoint : Text) :
    Option Text × List Text :=
  connectionCandidatesFrom parser endpoint caches.recent caches.peers

/-- The surroundings of a connection. A candidate is attempted at most once, and an attempt that
completes the handshake has the proved key of the device. The discovery may change the caches. -/
structure Surroundings where
  parser : EndpointParser
  deviceFingerprint : Bytes → Text
  incomingOnly : Bool
  retryBlocked : Bool
  before : EndpointCaches
  discovered : EndpointCaches
  handshake : Text → Option Bytes

/-- A connected stream belongs to a device key and an endpoint. -/
structure Connected where
  devicePublicKey : Bytes
  endpoint : Text
deriving DecidableEq

section Start

variable (around : Surroundings)

def attempt (candidate : Text) : Option Connected :=
  match around.parser.parse candidate with
  | none => none
  | some endpoint => (around.handshake candidate).map fun key => ⟨key, endpoint.authority⟩

local instance lawfulCandidate : LawfulBEq Text := inferInstance

/-- The first candidate that completes a handshake wins. -/
def tryCandidates : List Text → List Text → Option Connected × List Text
  | [], attempted => (none, attempted)
  | candidate :: rest, attempted =>
      if candidate ∈ attempted then tryCandidates rest attempted
      else
        match attempt around candidate with
        | some connected => (some connected, candidate :: attempted)
        | none => tryCandidates rest (candidate :: attempted)

/-- A fingerprint that differs from the expected one is only logged. An expected fingerprint starts a
discovery, and its candidates are tried after the first ones. -/
def start (peer : Text) : Option Connected :=
  if around.incomingOnly || around.retryBlocked then none
  else
    match around.parser.parse peer with
    | none => none
    | some endpoint =>
        let requested := endpoint.authority
        let (expected, candidates) := connectionCandidates around.parser around.before requested
        match tryCandidates around candidates [] with
        | (some connected, _) => some connected
        | (none, attempted) =>
            if expected.isSome then
              let refreshed := (connectionCandidates around.parser around.discovered requested).2
              if refreshed.all (· ∈ attempted) then none
              else (tryCandidates around refreshed attempted).1
            else none

end Start

/-- The saved fingerprints are kept outside this repository. A write of them may fail. -/
structure TrustStore where
  getTrustedLanFingerprint : Text → Option Text
  isTrustedLanFingerprint : Text → Bool
  trustLanFingerprint : Text → Text → Bool

inductive UserData where
  | trustLanDevice
  | rejectLanDevice
  | close
  | other
deriving DecidableEq

/-- A device is trusted without a question, after the answer of the user, or not at all. -/
inductive Confirmation where
  | silent
  | answered
  | refused
deriving DecidableEq

inductive TrustPrompt where
  | lanDeviceKeyChanged (expected presented : Text)
  | lanDeviceFirstUse (presented : Text)
deriving DecidableEq

def awaitAnswer (saves : Bool) : List UserData → Confirmation
  | [] => .refused
  | .trustLanDevice :: _ => if saves then .answered else .refused
  | .rejectLanDevice :: _ | .close :: _ => .refused
  | .other :: rest => awaitAnswer saves rest

def confirmLanDevice (parser : EndpointParser) (deviceFingerprint : Bytes → Text)
    (store : TrustStore) (receiver : List UserData) (connected : Connected) :
    Option TrustPrompt × Confirmation :=
  match parser.parse connected.endpoint with
  | none => (none, .refused)
  | some endpoint =>
      let fingerprint := deviceFingerprint connected.devicePublicKey
      let saves := store.trustLanFingerprint endpoint.authority fingerprint
      match store.getTrustedLanFingerprint endpoint.authority with
      | some expected =>
          if expected = fingerprint then (none, .silent)
          else (some (.lanDeviceKeyChanged expected fingerprint), awaitAnswer saves receiver)
      | none =>
          if store.isTrustedLanFingerprint fingerprint then
            (none, if saves then .silent else .refused)
          else (some (.lanDeviceFirstUse fingerprint), awaitAnswer saves receiver)

/-- A session sends its login to a device with a fingerprint, or it ends. -/
inductive SessionOutcome where
  | notConnected
  | untrusted
  | login (silent : Bool) (fingerprint : Text)
deriving DecidableEq

/-- The beginning of `Remote::io_loop`. -/
def ioLoop (around : Surroundings) (store : TrustStore) (receiver : List UserData) (peer : Text) :
    SessionOutcome :=
  match start around peer with
  | none => .notConnected
  | some connected =>
      if connected.devicePublicKey.isEmpty then .untrusted
      else
        let fingerprint := around.deviceFingerprint connected.devicePublicKey
        match (confirmLanDevice around.parser around.deviceFingerprint store receiver connected).2 with
        | .silent => .login true fingerprint
        | .answered => .login false fingerprint
        | .refused => .untrusted

end SubnetDesk.Lan
