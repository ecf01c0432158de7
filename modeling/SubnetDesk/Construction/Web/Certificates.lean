/-
This file defines the generated certificates of the web gateway, and what becomes of their files.
-/

import SubnetDesk.Foundation.Interruption
import SubnetDesk.Foundation.Machine

namespace SubnetDesk.WebGateway.Certificates

inductive CertificateFile where
  | caCertificate
  | caPrivateKey
  | certificate
  | privateKey
  | metadata
deriving DecidableEq

abbrev Host := List Char

/-- A certificate is about `key` and is signed with `issuer`. The present is in its validity, where
it is `valid`. -/
structure Certificate where
  isCa : Bool
  valid : Bool
  key : Nat
  issuer : Nat
  subjectAltNames : List Host
deriving DecidableEq

structure GeneratedCertificateMetadata where
  subjectAltNames : List Host
  generatedAtUnixSeconds : Nat
deriving DecidableEq

/-- What the bytes of a file are read as. -/
inductive Content where
  | certificate (certificate : Certificate)
  | privateKey (key : Nat)
  | metadata (metadata : GeneratedCertificateMetadata)
  | empty
  | unreadable
deriving DecidableEq

def Content.isEmpty : Content → Bool
  | .empty => true
  | _ => false

abbrev Files := Disk CertificateFile Content

abbrev Change := Disk.Change CertificateFile Content

def rotationSeconds : Nat := 30 * 24 * 60 * 60

def generatedCertificateNeedsRotation (metadata : GeneratedCertificateMetadata)
    (subjectAltNames : List Host) (nowUnixSeconds : Nat) : Bool :=
  metadata.subjectAltNames ≠ subjectAltNames ||
    rotationSeconds ≤ nowUnixSeconds - metadata.generatedAtUnixSeconds

def certificateAuthorityMaterialValid : Content → Content → Bool
  | .certificate certificate, .privateKey key =>
      certificate.valid && certificate.isCa && certificate.key = key
  | _, _ => false

/-- What a load finds outside the files: the names and the time of the present, and the keys that
its generations draw. -/
structure Inputs where
  subjectAltNames : List Host
  nowUnixSeconds : Nat
  caKey : Nat
  leafKey : Nat

def generateCertificateAuthority (caKey : Nat) : Content × Content :=
  (.certificate
    { isCa := true
      valid := true
      key := caKey
      issuer := caKey
      subjectAltNames := [] },
    .privateKey caKey)

/-- The certificate is signed with the given key of the authority. -/
def generateLeafCertificate (certificateAuthorityKey : Content) (subjectAltNames : List Host)
    (leafKey : Nat) : Option (Content × Content) :=
  match certificateAuthorityKey with
  | .privateKey issuer =>
      some (.certificate
        { isCa := false
          valid := true
          key := leafKey
          issuer := issuer
          subjectAltNames := subjectAltNames },
        .privateKey leafKey)
  | _ => none

/-- Both files of a certificate, where neither is missing or empty. -/
def readPair (files : Files) (certificatePath privateKeyPath : CertificateFile) :
    Option (Content × Content) :=
  match files certificatePath, files privateKeyPath with
  | some certificate, some privateKey =>
      if !certificate.isEmpty && !privateKey.isEmpty then some (certificate, privateKey) else none
  | _, _ => none

def loadOrGenerateCertificateAuthority (files : Files) (caKey : Nat) :
    List Change × Content × Content :=
  match (readPair files .caCertificate .caPrivateKey).filter
      fun pair => certificateAuthorityMaterialValid pair.1 pair.2 with
  | some (certificate, privateKey) => ([], certificate, privateKey)
  | none =>
      let (certificate, privateKey) := generateCertificateAuthority caKey
      ([.write .caPrivateKey privateKey, .write .caCertificate certificate],
        certificate, privateKey)

def loadGeneratedCertificateMetadata (files : Files) : Option GeneratedCertificateMetadata :=
  match files .metadata with
  | some (.metadata metadata) => some metadata
  | _ => none

/-- The leaf on the disk is kept on the word of its metadata. -/
def existing (files : Files) (inputs : Inputs) : Option (Content × Content) :=
  (readPair files .certificate .privateKey).filter fun _ =>
    ((loadGeneratedCertificateMetadata files).map fun metadata =>
      !generatedCertificateNeedsRotation metadata inputs.subjectAltNames
        inputs.nowUnixSeconds).getD false

/-- A load changes files and returns a chain with the key of its leaf. -/
abbrev Loaded := List Change × Option (List Content × Content)

def loadOrGenerateCertificate (files : Files) (inputs : Inputs) : Loaded :=
  let (changes, certificateAuthority, certificateAuthorityKey) :=
    loadOrGenerateCertificateAuthority files inputs.caKey
  match existing (files.applyAll changes) inputs with
  | some (certificate, privateKey) =>
      (changes, some ([certificate, certificateAuthority], privateKey))
  | none =>
      match generateLeafCertificate certificateAuthorityKey inputs.subjectAltNames
          inputs.leafKey with
      | some (certificate, privateKey) =>
          (changes ++ [.write .privateKey privateKey, .write .certificate certificate,
              .write .metadata
                (.metadata ⟨inputs.subjectAltNames, inputs.nowUnixSeconds⟩)],
            some ([certificate, certificateAuthority], privateKey))
      | none => (changes, none)

/-- What `RustlsConfig::from_der` documents: a key that is not that of the first certificate is an
error, and the key of a certificate is accepted with it. -/
structure TlsLibrary where
  fromDer : List Content → Content → Bool
  mismatch : ∀ certificate rest key, key ≠ .privateKey certificate.key →
    fromDer (.certificate certificate :: rest) key = false
  matching : ∀ certificate rest,
    fromDer (.certificate certificate :: rest) (.privateKey certificate.key) = true

/-- A library that compares keys alone. -/
def TlsLibrary.std : TlsLibrary where
  fromDer
    | .certificate certificate :: _, key => key = .privateKey certificate.key
    | _, _ => false
  mismatch _ _ _ different := decide_eq_false different
  matching _ _ := decide_eq_true rfl

/-- No custom certificate is configured. `first` and `second` are what the two loads find. -/
def loadTlsConfig (tls : TlsLibrary) (files : Files) (first second : Inputs) : Loaded :=
  let (changes, loaded) := loadOrGenerateCertificate files first
  match loaded with
  | none => (changes, none)
  | some (certificates, privateKey) =>
      if tls.fromDer certificates privateKey then (changes, some (certificates, privateKey))
      else
        let removed := changes ++ [.remove .metadata]
        let (more, regenerated) := loadOrGenerateCertificate (files.applyAll removed) second
        (removed ++ more, regenerated.filter fun pair => tls.fromDer pair.1 pair.2)

/-- What a write leaves that is stopped in the middle. -/
inductive Torn where
  | empty
  | partly
deriving DecidableEq

def Torn.content : Torn → Content
  | .empty => .empty
  | .partly => .unreadable

/-- A run is stopped after `count` changes, in the next write where it is torn. A run whose changes
are no more than `count` is whole. -/
structure Stop where
  count : Nat
  torn : Option Torn

def Stop.performed (stop : Stop) (changes : List Change) : List Change :=
  Disk.performed changes stop.count (stop.torn.map Torn.content)

/-- Files are lost or corrupted, where a damage replaces what they hold. -/
inductive Event where
  | loadOrGenerateCertificate (inputs : Inputs) (stop : Stop)
  | loadTlsConfig (first second : Inputs) (stop : Stop)
  | damage (left : Files)

def Event.changes (tls : TlsLibrary) (files : Files) : Event → List Change
  | .loadOrGenerateCertificate inputs stop =>
      stop.performed (WebGateway.Certificates.loadOrGenerateCertificate files inputs).1
  | .loadTlsConfig first second stop =>
      stop.performed (WebGateway.Certificates.loadTlsConfig tls files first second).1
  | .damage _ => []

/-- The certificate directory from one event to the next. -/
def directory (tls : TlsLibrary) : Machine Files Event Empty where
  step
    | _, .damage left => (left, [])
    | files, event => (files.applyAll (event.changes tls files), [])

/-- No certificate has been generated yet. -/
def absent : Files := fun _ => none

end SubnetDesk.WebGateway.Certificates
