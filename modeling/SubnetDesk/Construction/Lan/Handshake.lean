/-
This file defines the handshake of a client with a device, over symbolic messages, and the network of
concurrent handshakes that an attacker controls.
-/

import SubnetDesk.Foundation.Symbolic

namespace SubnetDesk.Lan

open Symbolic

/-- The length of a nonce and the version of the protocol are fixed outside this repository. -/
structure LanProtocol where
  nonceLen : Nat
  nonceLenPositive : 0 < nonceLen
  protocolVersion : UInt32

/-- The two kinds of public keys, and the symmetric keys, have 32 bytes. -/
def publicKeyBytes : Nat := 32

def LanProtocol.size (lan : LanProtocol) : Atom → Nat
  | .byte _ => 1
  | .nonce _ => lan.nonceLen
  | .key _ | .boxPublic _ | .signPublic _ => publicKeyBytes

def LanProtocol.len (lan : LanProtocol) (word : Word) : Nat := measure lan.size word

def transcriptPrefix : Word :=
  ("rustdesk-lan-handshake-v1".toList.map fun char => .byte (UInt8.ofNat char.toNat)) ++ [.byte 0]

def versionBytes (version : UInt32) : Word :=
  [3, 2, 1, 0].map fun place => .byte (UInt8.ofNat (version.toNat / 256 ^ place))

inductive HandshakeError where
  | versionMismatch
  | invalidNonceLength
  | invalidEphemeralPublicKeyLength
  | lanProtocolRequired
  | invalidDevicePublicKeyLength
  | deviceSignatureMismatch
  | signedTranscriptMismatch
  | invalidClientNonceLength
  | clientKeyMessageRequired
  | invalidClientKey
deriving DecidableEq

structure LanClientHello where
  protocolVersion : UInt32
  clientNonce : Word
  clientCapabilities : UInt32
deriving DecidableEq

/-- Bytes that no key has signed are no signature. -/
structure LanServerHello where
  protocolVersion : UInt32
  serverNonce : Word
  devicePublicKey : Word
  ephemeralPublicKey : Word
  signature : Option Signature
deriving DecidableEq

/-- Bytes that no key has closed are no box. -/
structure PublicKey where
  asymmetricValue : Word
  symmetricValue : Option Box
deriving DecidableEq

inductive Message where
  | lanClientHello (hello : LanClientHello)
  | lanServerHello (hello : LanServerHello)
  | publicKey (key : PublicKey)
  | other
deriving DecidableEq

section Handshake

variable (lan : LanProtocol)

def requireProtocolVersion (remote : UInt32) : Except HandshakeError Unit :=
  if remote ≠ lan.protocolVersion then .error .versionMismatch else .ok ()

def transcript (clientNonce serverNonce ephemeralPublicKey : Word) : Except HandshakeError Word :=
  if lan.len clientNonce ≠ lan.nonceLen ∨ lan.len serverNonce ≠ lan.nonceLen then
    .error .invalidNonceLength
  else if lan.len ephemeralPublicKey ≠ publicKeyBytes then
    .error .invalidEphemeralPublicKeyLength
  else
    .ok (transcriptPrefix ++ versionBytes lan.protocolVersion ++ clientNonce ++ serverNonce ++
      ephemeralPublicKey)

def clientHello (nonce : Nat) : LanClientHello := ⟨lan.protocolVersion, [.nonce nonce], 0⟩

/-- The checks of `client_handshake` on the answer of a device. -/
def clientHandshake (clientNonce : Word) (message : Message) :
    Except HandshakeError LanServerHello :=
  match message with
  | .lanServerHello hello => do
      requireProtocolVersion lan hello.protocolVersion
      if lan.len hello.devicePublicKey ≠ publicKeyBytes then
        throw .invalidDevicePublicKeyLength
      let expected ← transcript lan clientNonce hello.serverNonce hello.ephemeralPublicKey
      match hello.signature.bind (verify · hello.devicePublicKey) with
      | none => throw .deviceSignatureMismatch
      | some signed => if signed ≠ expected then throw .signedTranscriptMismatch else pure hello
  | _ => .error .lanProtocolRequired

/-- The client closes a new symmetric key into a box with a new key of its own. -/
def createSymmetricKeyMsg (theirs : Word) (box key : Nat) : PublicKey :=
  ⟨[.boxPublic box], some ⟨[.key key], theirs, box⟩⟩

/-- A device signs the transcript of the nonce that it got, its own nonce, and its ephemeral key. -/
def serverHandshake (identity ephemeral serverNonce : Nat) (message : Message) :
    Except HandshakeError (Word × LanServerHello) :=
  match message with
  | .lanClientHello hello => do
      requireProtocolVersion lan hello.protocolVersion
      if lan.len hello.clientNonce ≠ lan.nonceLen then throw .invalidClientNonceLength
      let signed ← transcript lan hello.clientNonce [.nonce serverNonce] [.boxPublic ephemeral]
      pure (hello.clientNonce,
        ⟨lan.protocolVersion, [.nonce serverNonce], [.signPublic identity], [.boxPublic ephemeral],
          some ⟨identity, signed⟩⟩)
  | _ => .error .lanProtocolRequired

/-- The device opens the box of the client with its ephemeral key. -/
def serverKey (ephemeral : Nat) (message : Message) : Except HandshakeError Word :=
  match message with
  | .publicKey key =>
      match key.symmetricValue.bind (openBox · key.asymmetricValue ephemeral) with
      | none => .error .invalidClientKey
      | some content => .ok content
  | _ => .error .clientKeyMessageRequired

end Handshake

/-- The accepted answer, and the keys that the client made for it. -/
structure Acceptance where
  hello : LanServerHello
  box : Nat
  key : Nat

structure ClientRun where
  nonce : Option Nat
  acceptance : Option Acceptance
  waiting : Bool

/-- What a device has signed, and the secret behind its ephemeral key. -/
structure Exchange where
  clientNonce : Word
  serverNonce : Nat
  ephemeral : Nat

structure ServerRun where
  identity : Option Nat
  exchange : Option Exchange
  key : Option Word
  waiting : Bool

/-- Who made a random value is history. -/
inductive Origin where
  | clientNonce
  | serverNonce
  | ephemeral
  | clientBox
  | clientKey (device : Word)
  | attacker
deriving DecidableEq

/-- A new random value gets the number of values before it. Every message that was sent is known. -/
structure Network where
  origins : List Origin
  sent : List Fact
  clients : Nat → ClientRun
  servers : Nat → ServerRun

def initialNetwork : Network where
  origins := []
  sent := []
  clients _ := ⟨none, none, false⟩
  servers _ := ⟨none, none, none, false⟩

/-- The facts that a message contains. -/
def Message.facts : Message → List Fact
  | .lanClientHello hello => Symbolic.facts hello.clientNonce
  | .lanServerHello hello =>
      Symbolic.facts hello.serverNonce ++ Symbolic.facts hello.devicePublicKey ++
        Symbolic.facts hello.ephemeralPublicKey ++ hello.signature.toList.map Fact.signature
  | .publicKey key =>
      Symbolic.facts key.asymmetricValue ++ key.symmetricValue.toList.map Fact.box
  | .other => []

section Network

variable (lan : LanProtocol) (network : Network)

def startClient (index : Nat) : Network :=
  { network with
    origins := network.origins ++ [.clientNonce]
    sent := network.sent ++
      (Message.lanClientHello (clientHello lan network.origins.length)).facts
    clients := Function.update network.clients index ⟨some network.origins.length, none, true⟩ }

def startServer (index identity : Nat) : Network :=
  { network with
    servers := Function.update network.servers index ⟨some identity, none, none, true⟩ }

/-- A waiting client reads a message. -/
def clientReads (index nonce : Nat) (message : Message) : Network :=
  match clientHandshake lan [.nonce nonce] message with
  | .error _ =>
      { network with
        clients := Function.update network.clients index ⟨some nonce, none, false⟩ }
  | .ok hello =>
      let box := network.origins.length
      let key := network.origins.length + 1
      { network with
        origins := network.origins ++ [.clientBox, .clientKey hello.devicePublicKey]
        sent := network.sent ++
          (Message.publicKey (createSymmetricKeyMsg hello.ephemeralPublicKey box key)).facts
        clients := Function.update network.clients index
          ⟨some nonce, some ⟨hello, box, key⟩, false⟩ }

/-- A waiting device reads the first message of a client. -/
def serverReadsHello (index identity : Nat) (message : Message) : Network :=
  let ephemeral := network.origins.length
  let serverNonce := network.origins.length + 1
  match serverHandshake lan identity ephemeral serverNonce message with
  | .error _ =>
      { network with
        servers := Function.update network.servers index ⟨some identity, none, none, false⟩ }
  | .ok (clientNonce, hello) =>
      { network with
        origins := network.origins ++ [.ephemeral, .serverNonce]
        sent := network.sent ++ (Message.lanServerHello hello).facts
        servers := Function.update network.servers index
          ⟨some identity, some ⟨clientNonce, serverNonce, ephemeral⟩, none, true⟩ }

/-- A device that has answered reads the key of the client. -/
def serverReadsKey (index identity : Nat) (exchange : Exchange) (message : Message) : Network :=
  { network with
    servers := Function.update network.servers index
      ⟨some identity, some exchange, (serverKey exchange.ephemeral message).toOption, false⟩ }

/-- The attacker makes a random value of its own, and may use it as a nonce or as a key. -/
def invent : Network :=
  { network with
    origins := network.origins ++ [.attacker]
    sent := network.sent ++
      [.nonce network.origins.length, .key network.origins.length,
        .boxSecret network.origins.length] }

/-- The attacker knows what was sent and the keys of dishonest devices. -/
def Network.known (honest : Nat → Prop) : Set Fact :=
  { fact | fact ∈ network.sent ∨ ∃ identity, ¬ honest identity ∧ fact = .signSecret identity }

end Network

/-- The attacker delivers any message that it can build to any run. -/
inductive Step (lan : LanProtocol) (honest : Nat → Prop) : Network → Network → Prop where
  | startClient (network : Network) (index : Nat)
      (idle : (network.clients index).nonce = none) :
      Step lan honest network (startClient lan network index)
  | startServer (network : Network) (index identity : Nat)
      (idle : (network.servers index).identity = none) :
      Step lan honest network (startServer network index identity)
  | clientReads (network : Network) (index nonce : Nat) (message : Message)
      (run : network.clients index = ⟨some nonce, none, true⟩)
      (built : ∀ fact ∈ message.facts, Derives (network.known honest) fact) :
      Step lan honest network (clientReads lan network index nonce message)
  | serverReadsHello (network : Network) (index identity : Nat) (message : Message)
      (run : network.servers index = ⟨some identity, none, none, true⟩)
      (built : ∀ fact ∈ message.facts, Derives (network.known honest) fact) :
      Step lan honest network (serverReadsHello lan network index identity message)
  | serverReadsKey (network : Network) (index identity : Nat) (exchange : Exchange)
      (message : Message)
      (run : network.servers index = ⟨some identity, some exchange, none, true⟩)
      (built : ∀ fact ∈ message.facts, Derives (network.known honest) fact) :
      Step lan honest network (serverReadsKey network index identity exchange message)
  | invent (network : Network) : Step lan honest network (invent network)

def Reachable (lan : LanProtocol) (honest : Nat → Prop) (network : Network) : Prop :=
  Relation.ReflTransGen (Step lan honest) initialNetwork network

end SubnetDesk.Lan
