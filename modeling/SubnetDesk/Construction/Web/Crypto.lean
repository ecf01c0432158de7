/-
This file defines the secure channel of a web session and the nonces of its messages.
-/

import SubnetDesk.Foundation.Bytes
import SubnetDesk.Foundation.Machine

namespace SubnetDesk.WebClient

inductive CryptoError where
  | notEstablished
  | sequenceRange
  | verification
deriving DecidableEq

def CryptoError.text : CryptoError → String
  | .notEstablished => "安全通道尚未建立"
  | .sequenceRange => "消息序号超出范围"
  | .verification => "加密消息校验失败"

def secretboxNonceLength : Nat := 24

def maxSequence : Nat := 0xffff_ffff_ffff_ffff

def nonceForSequence (sequence : Nat) : Except CryptoError (List UInt8) :=
  if maxSequence < sequence then .error .sequenceRange
  else .ok (Bytes.le 8 sequence ++ List.replicate (secretboxNonceLength - 8) 0)

structure LanCryptoSession where
  symmetricKey : Option Nat
  sendSequence : Nat
  receiveSequence : Nat
deriving DecidableEq

inductive Direction where
  | sent
  | received
deriving DecidableEq

/-- A nonce with which a message is closed, or with which an open of one is tried. -/
structure NonceUse where
  direction : Direction
  key : Nat
  nonce : List UInt8
deriving DecidableEq

/-- A message that is closed with a key and a nonce. -/
structure SecretBox (Message : Type) where
  key : Nat
  nonce : List UInt8
  message : Message

namespace LanCryptoSession

def create : LanCryptoSession where
  symmetricKey := none
  sendSequence := 0
  receiveSequence := 0

/-- The end of `acceptServerHello`. -/
def accept (session : LanCryptoSession) (symmetricKey : Nat) : LanCryptoSession :=
  { session with symmetricKey := some symmetricKey }

def sealing (session : LanCryptoSession) : LanCryptoSession × Except CryptoError NonceUse :=
  match session.symmetricKey with
  | none => (session, .error .notEstablished)
  | some key =>
      let counted := { session with sendSequence := session.sendSequence + 1 }
      (counted, (nonceForSequence counted.sendSequence).map fun nonce => ⟨.sent, key, nonce⟩)

def opening (session : LanCryptoSession) : LanCryptoSession × Except CryptoError NonceUse :=
  match session.symmetricKey with
  | none => (session, .error .notEstablished)
  | some key =>
      let counted := { session with receiveSequence := session.receiveSequence + 1 }
      (counted, (nonceForSequence counted.receiveSequence).map fun nonce => ⟨.received, key, nonce⟩)

variable {Message : Type}

def encrypt (session : LanCryptoSession) (message : Message) :
    LanCryptoSession × Except CryptoError (SecretBox Message) :=
  let (counted, use_) := session.sealing
  (counted, use_.map fun use_ => ⟨use_.key, use_.nonce, message⟩)

/-- Bytes that no key has closed are no box. -/
def decrypt (session : LanCryptoSession) (payload : Option (SecretBox Message)) :
    LanCryptoSession × Except CryptoError Message :=
  let (counted, use_) := session.opening
  (counted, do
    let use_ ← use_
    match payload with
    | some box =>
        if box.key = use_.key ∧ box.nonce = use_.nonce then pure box.message
        else throw .verification
    | none => throw .verification)

end LanCryptoSession

inductive CryptoCall (Message : Type) where
  | encrypt (message : Message)
  | decrypt (payload : Option (SecretBox Message))

def CryptoCall.direction {Message : Type} : CryptoCall Message → Direction
  | .encrypt _ => .sent
  | .decrypt _ => .received

/-- The nonces of a session, in the order of its calls. -/
def channel (Message : Type) : Machine LanCryptoSession (CryptoCall Message) NonceUse where
  step session
    | .encrypt message => ((session.encrypt message).1, session.sealing.2.toOption.toList)
    | .decrypt payload => ((session.decrypt payload).1, session.opening.2.toOption.toList)

end SubnetDesk.WebClient
