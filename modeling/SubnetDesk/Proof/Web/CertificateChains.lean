import SubnetDesk.Construction.Web.Certificates

namespace SubnetDesk.WebGateway.Certificates

open Disk (performed)

variable {tls : TlsLibrary} {files left : Files} {inputs first second : Inputs} {ca : Certificate}

/-- The files of the authority are valid together. -/
def Authority (files : Files) (ca : Certificate) : Prop :=
  files .caCertificate = some (.certificate ca) ∧
    files .caPrivateKey = some (.privateKey ca.key) ∧ ca.valid = true ∧ ca.isCa = true

/-- The leaf on the disk is signed with the key of the authority on it and has the names. -/
def Consistent (files : Files) (subjectAltNames : List Host) : Prop :=
  ∃ ca leaf : Certificate, Authority files ca ∧
    files .certificate = some (.certificate leaf) ∧ leaf.issuer = ca.key ∧
    leaf.subjectAltNames = subjectAltNames

/-- No load keeps the leaf on the disk, whatever its private key is. -/
def Retired (files : Files) : Prop :=
  files .certificate = none ∨ files .certificate = some .empty ∨
    loadGeneratedCertificateMetadata files = none

/-- A leaf that a load may keep is as its metadata tells. -/
def Described (files : Files) : Prop :=
  Retired files ∨ ∃ metadata, loadGeneratedCertificateMetadata files = some metadata ∧
    Consistent files metadata.subjectAltNames

def authorityCertificate (caKey : Nat) : Certificate where
  isCa := true
  valid := true
  key := caKey
  issuer := caKey
  subjectAltNames := []

def leafCertificate (issuer : Nat) (inputs : Inputs) : Certificate where
  isCa := false
  valid := true
  key := inputs.leafKey
  issuer := issuer
  subjectAltNames := inputs.subjectAltNames

def authorityChanges (caKey : Nat) : List Change :=
  [.write .caPrivateKey (.privateKey caKey),
    .write .caCertificate (.certificate (authorityCertificate caKey))]

def leafChanges (issuer : Nat) (inputs : Inputs) : List Change :=
  [.write .privateKey (.privateKey inputs.leafKey),
    .write .certificate (.certificate (leafCertificate issuer inputs)),
    .write .metadata (.metadata ⟨inputs.subjectAltNames, inputs.nowUnixSeconds⟩)]

/-- Valid material is a certificate and its key. -/
theorem materialValid_iff (certificate privateKey : Content) :
    certificateAuthorityMaterialValid certificate privateKey = true ↔
      ∃ ca : Certificate, certificate = .certificate ca ∧ privateKey = .privateKey ca.key ∧
        ca.valid = true ∧ ca.isCa = true := by
  constructor
  · intro valid
    unfold certificateAuthorityMaterialValid at valid
    split at valid
    next ca key =>
      rw [Bool.and_eq_true, Bool.and_eq_true, decide_eq_true_eq] at valid
      obtain ⟨⟨inValidity, isCa⟩, rfl⟩ := valid
      exact ⟨ca, rfl, rfl, inValidity, isCa⟩
    next => cases valid
  · rintro ⟨ca, rfl, rfl, inValidity, isCa⟩
    simp [certificateAuthorityMaterialValid, inValidity, isCa]

/-- A pair is read where both files are. -/
theorem readPair_some {certificatePath privateKeyPath : CertificateFile}
    {pair : Content × Content} :
    readPair files certificatePath privateKeyPath = some pair ↔
      files certificatePath = some pair.1 ∧ files privateKeyPath = some pair.2 ∧
        pair.1.isEmpty = false ∧ pair.2.isEmpty = false := by
  obtain ⟨certificate, privateKey⟩ := pair
  unfold readPair
  cases files certificatePath with
  | none => simp
  | some certificate =>
      cases files privateKeyPath with
      | none => simp
      | some privateKey =>
          simp only [Option.ite_none_right_eq_some, Bool.and_eq_true, Bool.not_eq_true',
            Option.some.injEq, Prod.mk.injEq]
          constructor
          · rintro ⟨⟨filled, keyFilled⟩, rfl, rfl⟩
            exact ⟨rfl, rfl, filled, keyFilled⟩
          · rintro ⟨rfl, rfl, filled, keyFilled⟩
            exact ⟨⟨filled, keyFilled⟩, rfl, rfl⟩

/-- An authority that is valid on the disk is reused, and another one is generated otherwise. -/
theorem loadAuthority_cases (files : Files) (caKey : Nat) :
    (∃ ca, Authority files ca ∧ loadOrGenerateCertificateAuthority files caKey =
      ([], .certificate ca, .privateKey ca.key)) ∨
    ((∀ ca, ¬ Authority files ca) ∧ loadOrGenerateCertificateAuthority files caKey =
      (authorityChanges caKey, .certificate (authorityCertificate caKey), .privateKey caKey)) := by
  unfold loadOrGenerateCertificateAuthority
  cases found : (readPair files .caCertificate .caPrivateKey).filter
      fun pair => certificateAuthorityMaterialValid pair.1 pair.2 with
  | some pair =>
      obtain ⟨certificate, privateKey⟩ := pair
      rw [Option.filter_eq_some_iff, readPair_some, materialValid_iff] at found
      obtain ⟨⟨certificateFile, keyFile, -, -⟩, ca, rfl, rfl, inValidity, isCa⟩ := found
      exact .inl ⟨ca, ⟨certificateFile, keyFile, inValidity, isCa⟩, rfl⟩
  | none =>
      refine .inr ⟨?_, rfl⟩
      rintro ca ⟨certificateFile, keyFile, inValidity, isCa⟩
      rw [Option.filter_eq_none_iff] at found
      refine found (.certificate ca, .privateKey ca.key)
        (readPair_some.mpr ⟨certificateFile, keyFile, rfl, rfl⟩) ?_
      exact (materialValid_iff _ _).mpr ⟨ca, rfl, rfl, inValidity, isCa⟩

/-- A kept pair is that of the two files. -/
theorem existing_some {pair : Content × Content} (kept : existing files inputs = some pair) :
    files .certificate = some pair.1 ∧ files .privateKey = some pair.2 ∧
      pair.1.isEmpty = false ∧ pair.2.isEmpty = false ∧
      ∃ metadata, loadGeneratedCertificateMetadata files = some metadata ∧
        metadata.subjectAltNames = inputs.subjectAltNames := by
  rw [existing, Option.filter_eq_some_iff, readPair_some] at kept
  obtain ⟨⟨certificateFile, keyFile, filled, keyFilled⟩, fresh⟩ := kept
  refine ⟨certificateFile, keyFile, filled, keyFilled, ?_⟩
  cases metadata : loadGeneratedCertificateMetadata files with
  | none => simp [metadata] at fresh
  | some metadata_ =>
      rw [metadata] at fresh
      simp only [Option.map_some, Option.getD_some, generatedCertificateNeedsRotation,
        Bool.not_or, Bool.and_eq_true, decide_not, Bool.not_not, decide_eq_true_eq] at fresh
      exact ⟨metadata_, rfl, fresh.1⟩

/-- Only these files decide whether the leaf is kept. -/
theorem existing_congr (certificate : left .certificate = files .certificate)
    (privateKey : left .privateKey = files .privateKey)
    (metadata : left .metadata = files .metadata) : existing left inputs = existing files inputs := by
  simp only [existing, readPair, loadGeneratedCertificateMetadata, certificate, privateKey, metadata]

/-- Without metadata no pair is kept. -/
theorem existing_noMetadata (none_ : loadGeneratedCertificateMetadata files = none) :
    existing files inputs = none := by
  cases kept : existing files inputs with
  | none => rfl
  | some pair =>
      obtain ⟨-, -, -, -, metadata, found, -⟩ := existing_some kept
      rw [none_] at found
      cases found

/-- The authority writes its own files only. -/
theorem authorityChanges_files (caKey : Nat) (count : Nat) (torn : Option Content)
    (change : Change) (member : change ∈ performed (authorityChanges caKey) count torn) :
    change.file = .caPrivateKey ∨ change.file = .caCertificate := by
  obtain ⟨whole, inside, same⟩ := Disk.performed_files _ count torn change member
  rw [← same]
  simp only [authorityChanges, List.mem_cons, List.not_mem_nil, or_false] at inside
  obtain rfl | rfl := inside
  · exact .inl rfl
  · exact .inr rfl

theorem authorityChanges_other (caKey : Nat) (count : Nat) (torn : Option Content)
    (file : CertificateFile) (notKey : file ≠ .caPrivateKey) (notCertificate : file ≠ .caCertificate) :
    files.applyAll (performed (authorityChanges caKey) count torn) file = files file := by
  apply Disk.applyAll_other
  intro change member same
  cases authorityChanges_files caKey count torn change member with
  | inl key => exact notKey (same.symm.trans key)
  | inr certificate => exact notCertificate (same.symm.trans certificate)

/-- The changes of a load, the chain and the key, with and without the leaf on the disk. -/
theorem load_cases (files : Files) (inputs : Inputs) :
    ∃ changes ca, ((changes = [] ∧ Authority files ca) ∨
        (changes = authorityChanges inputs.caKey ∧ ca = authorityCertificate inputs.caKey ∧
          ∀ other, ¬ Authority files other)) ∧
      ((∃ certificate privateKey, existing files inputs = some (certificate, privateKey) ∧
          loadOrGenerateCertificate files inputs =
            (changes, some ([certificate, .certificate ca], privateKey))) ∨
        (existing files inputs = none ∧
          loadOrGenerateCertificate files inputs =
            (changes ++ leafChanges ca.key inputs,
              some ([.certificate (leafCertificate ca.key inputs), .certificate ca],
                .privateKey inputs.leafKey)))) := by
  cases loadAuthority_cases files inputs.caKey with
  | inl reused =>
      obtain ⟨ca, valid, loaded⟩ := reused
      refine ⟨[], ca, .inl ⟨rfl, valid⟩, ?_⟩
      simp only [loadOrGenerateCertificate, loaded]
      rw [show files.applyAll [] = files from rfl]
      cases kept : existing files inputs with
      | some pair => exact .inl ⟨pair.1, pair.2, rfl, rfl⟩
      | none => exact .inr ⟨rfl, rfl⟩
  | inr generated =>
      obtain ⟨invalid, loaded⟩ := generated
      refine ⟨authorityChanges inputs.caKey, authorityCertificate inputs.caKey,
        .inr ⟨rfl, rfl, invalid⟩, ?_⟩
      have same : existing (files.applyAll (authorityChanges inputs.caKey)) inputs =
          existing files inputs := existing_congr rfl rfl rfl
      simp only [loadOrGenerateCertificate, loaded, same]
      cases kept : existing files inputs with
      | some pair => exact .inl ⟨pair.1, pair.2, rfl, rfl⟩
      | none => exact .inr ⟨rfl, rfl⟩

/-- The key is that of the leaf, or the loader rejects it and ends with another leaf and its key. -/
def KeyFound (tls : TlsLibrary) (files : Files) (first second : Inputs) (leaf : Certificate)
    (certificates : List Content) (privateKey : Content) : Prop :=
  privateKey = .privateKey leaf.key ∨
    tls.fromDer certificates privateKey = false ∧ ∃ again authority : Certificate,
      (loadTlsConfig tls files first second).2 =
          some ([.certificate again, .certificate authority], .privateKey again.key) ∧
        again.issuer = authority.key ∧ again.subjectAltNames = second.subjectAltNames

/-- A chain that is returned has a leaf of its authority, with the names of the present. -/
def ReturnsSound (tls : TlsLibrary) (files : Files) (first second : Inputs) : Prop :=
  ∀ certificates privateKey,
    (loadOrGenerateCertificate files first).2 = some (certificates, privateKey) →
      ∃ leaf ca : Certificate, certificates = [.certificate leaf, .certificate ca] ∧
        leaf.issuer = ca.key ∧ leaf.subjectAltNames = first.subjectAltNames ∧
        KeyFound tls files first second leaf certificates privateKey

/-- Without metadata another leaf is generated. -/
theorem load_noMetadata (inputs : Inputs) (none_ : loadGeneratedCertificateMetadata files = none) :
    ∃ leaf ca : Certificate, leaf.issuer = ca.key ∧
      leaf.subjectAltNames = inputs.subjectAltNames ∧
      (loadOrGenerateCertificate files inputs).2 =
        some ([.certificate leaf, .certificate ca], .privateKey leaf.key) := by
  obtain ⟨changes, ca, -, loaded⟩ := load_cases files inputs
  cases loaded with
  | inl kept =>
      obtain ⟨certificate, privateKey, kept, -⟩ := kept
      rw [existing_noMetadata none_] at kept
      cases kept
  | inr generated => exact ⟨leafCertificate ca.key inputs, ca, rfl, rfl, by rw [generated.2]; rfl⟩

/-- A removed description is gone. -/
theorem metadata_removed (files : Files) (changes : List Change) :
    loadGeneratedCertificateMetadata (files.applyAll (changes ++ [.remove .metadata])) = none := by
  rw [Disk.applyAll_append]
  rfl

/-- A loader that rejects a chain generates another leaf, and accepts it. -/
theorem loader_regenerates {certificates : List Content} {privateKey : Content}
    (loaded : (loadOrGenerateCertificate files first).2 = some (certificates, privateKey))
    (rejected : tls.fromDer certificates privateKey = false) :
    ∃ again authority : Certificate, (loadTlsConfig tls files first second).2 =
        some ([.certificate again, .certificate authority], .privateKey again.key) ∧
      again.issuer = authority.key ∧ again.subjectAltNames = second.subjectAltNames := by
  obtain ⟨leaf, ca, signed, named, regenerated⟩ := load_noMetadata second
    (metadata_removed files (loadOrGenerateCertificate files first).1)
  refine ⟨leaf, ca, ?_, signed, named⟩
  simp only [loadTlsConfig, loaded, rejected, Bool.false_eq_true, if_false, regenerated]
  rw [Option.filter_some, if_pos (tls.matching leaf [.certificate ca])]

theorem keyFound (leaf : Certificate) {rest : List Content} {privateKey : Content}
    (loaded : (loadOrGenerateCertificate files first).2 =
      some (.certificate leaf :: rest, privateKey)) :
    KeyFound tls files first second leaf (.certificate leaf :: rest) privateKey := by
  by_cases same : privateKey = .privateKey leaf.key
  · exact .inl same
  · have rejected := tls.mismatch leaf rest privateKey same
    exact .inr ⟨rejected, loader_regenerates loaded rejected⟩

/-- A load is sound where the leaf that it keeps is signed by the authority and has the names. -/
theorem returnsSound_of (first second : Inputs)
    (consistent : (existing files first).isSome → Consistent files first.subjectAltNames) :
    ReturnsSound tls files first second := by
  obtain ⟨changes, ca, authority, loaded⟩ := load_cases files first
  intro certificates privateKey returned
  cases loaded with
  | inr generated =>
      have result := congrArg Prod.snd generated.2
      rw [returned] at result
      cases result
      exact ⟨leafCertificate ca.key first, ca, rfl, rfl, rfl, keyFound _ returned⟩
  | inl kept =>
      obtain ⟨certificate, privateKey, kept, loaded⟩ := kept
      obtain ⟨certificateFile, -, -, -, -, -, -⟩ := existing_some kept
      have result := congrArg Prod.snd loaded
      rw [result] at returned
      cases returned
      obtain ⟨valid, leaf, holds, leafFile, signed, named⟩ := consistent (by rw [kept]; rfl)
      have same := leafFile.symm.trans certificateFile
      cases same
      refine ⟨leaf, ca, rfl, ?_, named, keyFound leaf result⟩
      cases authority with
      | inl reused =>
          have sameAuthority := holds.1.symm.trans reused.2.1
          cases sameAuthority
          exact signed
      | inr generated => exact absurd holds (generated.2.2 valid)

/-- A load that keeps another leaf is not sound, where a generated key is not that of its issuer. -/
theorem consistent_of_returnsSound (fresh : ∀ leaf : Certificate,
      files .certificate = some (.certificate leaf) → leaf.issuer ≠ first.caKey)
    (sound : ReturnsSound tls files first second) (isSome : (existing files first).isSome) :
    Consistent files first.subjectAltNames := by
  obtain ⟨changes, ca, authority, loaded⟩ := load_cases files first
  cases loaded with
  | inr generated =>
      rw [generated.1] at isSome
      cases isSome
  | inl kept =>
      obtain ⟨certificate, privateKey, kept, loaded⟩ := kept
      obtain ⟨certificateFile, -, -, -, -, -, -⟩ := existing_some kept
      obtain ⟨leaf, other, chain, signed, named, -⟩ := sound _ _ (congrArg Prod.snd loaded)
      cases chain
      cases authority with
      | inl reused => exact ⟨ca, leaf, reused.2, certificateFile, signed, named⟩
      | inr generated =>
          refine absurd ?_ (fresh leaf certificateFile)
          rw [signed, generated.2.1]
          rfl

section Directory

/-- A run that stops with the certificate leaves no metadata that could vouch for it, or the names
of the metadata are those of the certificate. -/
def SafeStop (files : Files) (subjectAltNames : List Host) (changes : List Change) : Prop :=
  ∀ content, changes.getLast? = some (.write .certificate content) →
    Retired (files.applyAll changes) ∨
      (content ≠ .unreadable ∧ ∃ metadata,
        loadGeneratedCertificateMetadata (files.applyAll changes) = some metadata ∧
          metadata.subjectAltNames = subjectAltNames)

/-- A damage retires the leaf, or it leaves all files but the private key of the leaf. -/
def SafeDamage (files left : Files) : Prop :=
  Retired left ∨ ∀ file, file ≠ .privateKey → left file = files file

/-- The events after which every chain that is returned is sound. -/
def Safe (tls : TlsLibrary) (files : Files) : Event → Prop
  | .loadOrGenerateCertificate inputs stop =>
      SafeStop files inputs.subjectAltNames
        (Event.changes tls files (.loadOrGenerateCertificate inputs stop))
  | .loadTlsConfig first second stop =>
      SafeStop files first.subjectAltNames
        (Event.changes tls files (.loadTlsConfig first second stop))
  | .damage left => SafeDamage files left

theorem Retired.congr (retired : Retired files) (certificate : left .certificate = files .certificate)
    (metadata : left .metadata = files .metadata) : Retired left := by
  unfold Retired loadGeneratedCertificateMetadata at retired ⊢
  rw [certificate, metadata]
  exact retired

theorem Authority.congr (authority : Authority files ca)
    (certificate : left .caCertificate = files .caCertificate)
    (privateKey : left .caPrivateKey = files .caPrivateKey) : Authority left ca := by
  unfold Authority at authority ⊢
  rw [certificate, privateKey]
  exact authority

/-- The private key of the leaf does not matter. -/
theorem Described.congr (described : Described files)
    (same : ∀ file, file ≠ .privateKey → left file = files file) : Described left := by
  cases described with
  | inl retired => exact .inl (retired.congr (same _ (by decide)) (same _ (by decide)))
  | inr consistent =>
      obtain ⟨metadata, found, ca, leaf, authority, leafFile, signed, named⟩ := consistent
      refine .inr ⟨metadata, ?_, ca, leaf,
        authority.congr (same _ (by decide)) (same _ (by decide)),
        (same _ (by decide)).trans leafFile, signed, named⟩
      rw [← found, loadGeneratedCertificateMetadata, same _ (by decide)]
      rfl

/-- Where the authority is not valid, no load keeps the leaf. -/
theorem Described.retired (described : Described files) (invalid : ∀ ca, ¬ Authority files ca) :
    Retired files := by
  cases described with
  | inl retired => exact retired
  | inr consistent =>
      obtain ⟨metadata, found, ca, leaf, authority, -⟩ := consistent
      exact absurd authority (invalid ca)

/-- A safe damage leaves a directory described. -/
theorem Described.damage (described : Described files) (safe : SafeDamage files left) :
    Described left := by
  cases safe with
  | inl retired => exact .inl retired
  | inr same => exact described.congr same

/-- A new authority is one. -/
theorem authority_generated (files : Files) (caKey : Nat) :
    Authority (files.applyAll (authorityChanges caKey)) (authorityCertificate caKey) :=
  ⟨rfl, rfl, rfl, rfl⟩

theorem metadata_other {changes : List Change} (other : ∀ change ∈ changes, change.file ≠ .metadata) :
    loadGeneratedCertificateMetadata (files.applyAll changes) =
      loadGeneratedCertificateMetadata files := by
  rw [loadGeneratedCertificateMetadata, Disk.applyAll_other files changes .metadata other]
  rfl

/-- What a write of the leaf certificate leaves, torn or whole, before its metadata is written. -/
theorem Described.certificateWritten {changes : List Change} {key content : Content}
    {subjectAltNames : List Host} (authority : Authority files ca)
    (changes_ : changes = [.write .privateKey key, .write .certificate content])
    (written : content = .unreadable ∨ content = .empty ∨ ∃ leaf : Certificate,
      content = .certificate leaf ∧ leaf.issuer = ca.key ∧ leaf.subjectAltNames = subjectAltNames)
    (safe : loadGeneratedCertificateMetadata files = none ∨
      SafeStop files subjectAltNames changes) : Described (files.applyAll changes) := by
  subst changes_
  cases safe with
  | inl noMetadata =>
      refine .inl (.inr (.inr ?_))
      rw [metadata_other (by simp [Disk.Change.file])]
      exact noMetadata
  | inr safe =>
      obtain retired | ⟨whole, metadata, found, names⟩ := safe content rfl
      · exact .inl retired
      · obtain torn | empty | ⟨leaf, rfl, signed, named⟩ := written
        · exact absurd torn whole
        · exact .inl (.inr (.inl (by rw [empty]; rfl)))
        · exact .inr ⟨metadata, found, ca, leaf, authority.congr rfl rfl, rfl, signed,
            named.trans names.symm⟩

/-- A stopped generation of the leaf, under a valid authority. -/
theorem Described.leafChanges (described : Described files) (authority : Authority files ca)
    (count : Nat) (torn : Option Torn)
    (safe : loadGeneratedCertificateMetadata files = none ∨
      SafeStop files inputs.subjectAltNames
        (performed (Certificates.leafChanges ca.key inputs) count (torn.map Torn.content))) :
    Described (files.applyAll
      (performed (Certificates.leafChanges ca.key inputs) count (torn.map Torn.content))) := by
  have keyOnly : ∀ key, Described (files.applyAll [.write .privateKey key]) := by
    intro key
    refine described.congr fun file other => ?_
    exact Disk.applyAll_other files _ file (by simpa [Disk.Change.file] using Ne.symm other)
  match count, torn with
  | 0, none => exact described
  | 0, some torn => exact keyOnly torn.content
  | 1, none => exact keyOnly _
  | 1, some torn =>
      refine Described.certificateWritten authority rfl ?_ safe
      cases torn with
      | empty => exact .inr (.inl rfl)
      | partly => exact .inl rfl
  | 2, none =>
      exact Described.certificateWritten authority rfl (.inr (.inr ⟨_, rfl, rfl, rfl⟩)) safe
  | 2, some torn =>
      refine .inl (.inr (.inr ?_))
      cases torn with
      | empty => rfl
      | partly => rfl
  | count + 3, _ =>
      exact .inr ⟨⟨inputs.subjectAltNames, inputs.nowUnixSeconds⟩, rfl, ca,
        leafCertificate ca.key inputs, authority.congr rfl rfl, rfl, rfl, rfl⟩

/-- The leaf is generated after the authority, in files that hold a valid one. -/
theorem Described.authorityThenLeaf (described : Described files) {changes : List Change}
    (authority : (changes = [] ∧ Authority files ca) ∨
      (changes = authorityChanges inputs.caKey ∧ ca = authorityCertificate inputs.caKey ∧
        ∀ other, ¬ Authority files other)) :
    Authority (files.applyAll changes) ca ∧ Described (files.applyAll changes) ∧
      loadGeneratedCertificateMetadata (files.applyAll changes) =
        loadGeneratedCertificateMetadata files := by
  cases authority with
  | inl reused =>
      obtain ⟨rfl, valid⟩ := reused
      exact ⟨valid, described, rfl⟩
  | inr generated =>
      obtain ⟨rfl, rfl, invalid⟩ := generated
      exact ⟨authority_generated files inputs.caKey,
        .inl ((described.retired invalid).congr rfl rfl), rfl⟩

theorem safeStop_append {before changes : List Change} {subjectAltNames : List Host}
    (safe : SafeStop files subjectAltNames (before ++ changes)) :
    SafeStop (files.applyAll before) subjectAltNames changes := by
  intro content last
  rw [← Disk.applyAll_append]
  exact safe content (by rw [List.getLast?_append, last, Option.some_or])

/-- A load that is stopped anywhere keeps a leaf that is as its metadata tells. -/
theorem Described.load (described : Described files) (count : Nat) (torn : Option Torn)
    (safe : loadGeneratedCertificateMetadata files = none ∨
      SafeStop files inputs.subjectAltNames
        (performed (loadOrGenerateCertificate files inputs).1 count (torn.map Torn.content))) :
    Described (files.applyAll
      (performed (loadOrGenerateCertificate files inputs).1 count (torn.map Torn.content))) := by
  obtain ⟨changes, ca, authority, loaded⟩ := load_cases files inputs
  have authorityOnly : ∀ count, count < changes.length → Described (files.applyAll
      (performed changes count (torn.map Torn.content))) := by
    intro count within
    cases authority with
    | inl reused =>
        rw [reused.1] at within
        cases within
    | inr generated =>
        obtain ⟨rfl, -, invalid⟩ := generated
        refine .inl ((described.retired invalid).congr ?_ ?_)
        · exact authorityChanges_other _ _ _ _ (by decide) (by decide)
        · exact authorityChanges_other _ _ _ _ (by decide) (by decide)
  obtain ⟨valid, next, sameMetadata⟩ := described.authorityThenLeaf authority
  cases loaded with
  | inl kept =>
      obtain ⟨certificate, privateKey, -, loaded⟩ := kept
      rw [loaded]
      by_cases within : count < changes.length
      · exact authorityOnly count within
      · have whole := Disk.performed_append_of_le changes [] count (torn.map Torn.content)
          (Nat.le_of_not_lt within)
        rw [List.append_nil] at whole
        rw [whole, performed, List.append_nil]
        exact next
  | inr generated =>
      obtain ⟨-, loaded⟩ := generated
      rw [loaded] at safe ⊢
      by_cases within : count < changes.length
      · rw [Disk.performed_append_of_lt changes _ count _ within]
        exact authorityOnly count within
      · rw [Disk.performed_append_of_le changes _ count _ (Nat.le_of_not_lt within)] at safe ⊢
        rw [Disk.applyAll_append]
        refine next.leafChanges valid _ torn ?_
        cases safe with
        | inl noMetadata => exact .inl (sameMetadata.trans noMetadata)
        | inr safe => exact .inr (safeStop_append safe)

/-- A whole load does not end with the certificate. -/
theorem safeStop_whole (files : Files) (inputs : Inputs) (subjectAltNames : List Host) :
    SafeStop files subjectAltNames (loadOrGenerateCertificate files inputs).1 := by
  obtain ⟨changes, ca, authority, loaded⟩ := load_cases files inputs
  intro content last
  cases loaded with
  | inl kept =>
      obtain ⟨certificate, privateKey, -, loaded⟩ := kept
      rw [loaded] at last
      obtain ⟨rfl, -⟩ | ⟨rfl, -, -⟩ := authority
      · cases last
      · cases last
  | inr generated =>
      rw [generated.2] at last
      simp [Certificates.leafChanges] at last

/-- A load leaves a directory described. -/
theorem Described.loaded (described : Described files) :
    Described (files.applyAll (loadOrGenerateCertificate files inputs).1) := by
  have whole := Disk.performed_all (loadOrGenerateCertificate files inputs).1
    ((none : Option Torn).map Torn.content)
  have next := described.load (loadOrGenerateCertificate files inputs).1.length none
    (.inr (by rw [whole]; exact safeStop_whole files inputs inputs.subjectAltNames))
  rw [whole] at next
  exact next

/-- The loader makes the changes of one load, or it goes on without the metadata with a second. -/
theorem loadTlsConfig_cases (tls : TlsLibrary) (files : Files) (first second : Inputs) :
    (loadTlsConfig tls files first second).1 = (loadOrGenerateCertificate files first).1 ∨
      (loadTlsConfig tls files first second).1 =
        (loadOrGenerateCertificate files first).1 ++ ([.remove .metadata] ++
          (loadOrGenerateCertificate (files.applyAll
            ((loadOrGenerateCertificate files first).1 ++ [.remove .metadata])) second).1) := by
  unfold loadTlsConfig
  dsimp only
  cases loaded : (loadOrGenerateCertificate files first).2 with
  | none => exact .inl rfl
  | some pair =>
      obtain ⟨certificates, privateKey⟩ := pair
      dsimp only
      by_cases accepted : tls.fromDer certificates privateKey = true
      · rw [if_pos accepted]
        exact .inl rfl
      · rw [if_neg accepted]
        exact .inr (List.append_assoc _ _ _)

/-- A safe load leaves it described. -/
theorem Described.loadTlsConfig (described : Described files) (stop : Stop)
    (safe : SafeStop files first.subjectAltNames
      (stop.performed (Certificates.loadTlsConfig tls files first second).1)) :
    Described (files.applyAll
      (stop.performed (Certificates.loadTlsConfig tls files first second).1)) := by
  unfold Stop.performed at safe ⊢
  cases loadTlsConfig_cases tls files first second with
  | inl once =>
      rw [once] at safe ⊢
      exact described.load stop.count stop.torn (.inr safe)
  | inr twice =>
      rw [twice] at safe ⊢
      by_cases within : stop.count < (loadOrGenerateCertificate files first).1.length
      · rw [Disk.performed_append_of_lt _ _ _ _ within] at safe ⊢
        exact described.load stop.count stop.torn (.inr safe)
      · rw [Disk.performed_append_of_le _ _ _ _ (Nat.le_of_not_lt within)]
        generalize stop.count - (loadOrGenerateCertificate files first).1.length = count
        cases count with
        | zero =>
            have kept : performed ([Disk.Change.remove CertificateFile.metadata] ++
                (loadOrGenerateCertificate (files.applyAll
                  ((loadOrGenerateCertificate files first).1 ++ [.remove .metadata])) second).1)
                0 (stop.torn.map Torn.content) = [] := by
              cases stop.torn with
              | none => rfl
              | some torn => rfl
            rw [kept, List.append_nil]
            exact described.loaded
        | succ count =>
            rw [Disk.performed_append_of_le _ _ _ _ (Nat.le_add_left 1 count),
              ← List.append_assoc, Disk.applyAll_append]
            have noMetadata := metadata_removed files (loadOrGenerateCertificate files first).1
            exact Described.load (.inl (.inr (.inr noMetadata))) _ stop.torn (.inl noMetadata)

/-- One safe event leaves it described. -/
theorem Described.step (described : Described files) (event : Event) (safe : Safe tls files event) :
    Described ((directory tls).step files event).1 := by
  cases event with
  | loadOrGenerateCertificate inputs stop => exact described.load stop.count stop.torn (.inr safe)
  | loadTlsConfig first second stop => exact described.loadTlsConfig stop safe
  | damage left => exact described.damage safe

/-- After safe events a leaf that a load may keep is as its metadata tells. -/
theorem run_described (tls : TlsLibrary) (events : List Event)
    (safe : (directory tls).Guarded (Safe tls) absent events) :
    Described ((directory tls).run absent events).1 :=
  (directory tls).run_invariant (Safe tls) (fun files _ => Described files)
    (fun _ _ event safe described => described.step event safe) absent [] events
    (.inl (.inl rfl)) safe

/-- A kept pair of it is consistent. -/
theorem Described.consistent (described : Described files)
    (isSome : (existing files inputs).isSome) : Consistent files inputs.subjectAltNames := by
  obtain ⟨pair, kept⟩ := Option.isSome_iff_exists.mp isSome
  obtain ⟨certificateFile, -, filled, -, metadata, found, names⟩ := existing_some kept
  cases described with
  | inl retired =>
      obtain missing | empty | noMetadata := retired
      · rw [missing] at certificateFile
        cases certificateFile
      · rw [empty, Option.some.injEq] at certificateFile
        rw [← certificateFile] at filled
        cases filled
      · rw [noMetadata] at found
        cases found
  | inr consistent =>
      obtain ⟨described, sameMetadata, holds⟩ := consistent
      have same := sameMetadata.symm.trans found
      cases same
      rw [← names]
      exact holds

end Directory

/-- A load returns a sound chain exactly where the leaf that it keeps is signed by the valid
authority on the disk and has the names, and every load does after safe events. -/
theorem chains_sound (tls : TlsLibrary) :
    (∀ (files : Files) (first second : Inputs),
      (∀ leaf : Certificate, files .certificate = some (.certificate leaf) →
        leaf.issuer ≠ first.caKey) →
      (ReturnsSound tls files first second ↔
        ((existing files first).isSome → Consistent files first.subjectAltNames))) ∧
    ∀ events, (directory tls).Guarded (Safe tls) absent events → ∀ first second : Inputs,
      ReturnsSound tls ((directory tls).run absent events).1 first second := by
  constructor
  · intro files first second fresh
    exact ⟨consistent_of_returnsSound fresh, returnsSound_of first second⟩
  · intro events safe first second
    exact returnsSound_of first second (run_described tls events safe).consistent

section Runs

def hostNames : List Host := ["desk".toList]

def otherNames : List Host := ["laptop".toList]

/-- The loads of a run draw new keys. -/
def drawn (subjectAltNames : List Host) (index : Nat) : Inputs where
  subjectAltNames := subjectAltNames
  nowUnixSeconds := index
  caKey := 2 * index
  leafKey := 2 * index + 1

def whole : Stop := ⟨8, none⟩

def generated : Files :=
  ((directory .std).run absent
    [.loadTlsConfig (drawn hostNames 0) (drawn hostNames 1) whole]).1

def keyLost (files : Files) (file : CertificateFile) : Files := Function.update files file none

theorem leaf_key_lost : ReturnsSound .std
    ((directory .std).run absent [.loadTlsConfig (drawn hostNames 0) (drawn hostNames 1) whole,
      .damage (keyLost generated .privateKey)]).1 (drawn hostNames 2) (drawn hostNames 3) := by
  have first : Safe .std absent
      (.loadTlsConfig (drawn hostNames 0) (drawn hostNames 1) whole) := by
    intro content last
    cases last
  have second : Safe .std generated (.damage (keyLost generated .privateKey)) :=
    .inr fun file other => Function.update_of_ne other _ _
  exact (chains_sound .std).2
    [.loadTlsConfig (drawn hostNames 0) (drawn hostNames 1) whole,
      .damage (keyLost generated .privateKey)]
    ⟨first, second, trivial⟩ (drawn hostNames 2) (drawn hostNames 3)

/-- The key of the authority is lost, and a new authority is sent with the leaf of the old one. The
loader accepts it. Or a run stops between a certificate and its metadata, and the names change back. -/
theorem old_leaf_returned :
    (loadTlsConfig .std ((directory .std).run generated [.damage (keyLost generated .caPrivateKey)]).1
        (drawn hostNames 2) (drawn hostNames 3)).2 =
      some ([.certificate (leafCertificate 0 (drawn hostNames 0)),
        .certificate (authorityCertificate 4)], .privateKey 1) ∧
    ¬ ReturnsSound .std
      ((directory .std).run generated [.damage (keyLost generated .caPrivateKey)]).1
      (drawn hostNames 2) (drawn hostNames 3) ∧
    ¬ ReturnsSound .std ((directory .std).run generated
      [.loadTlsConfig (drawn otherNames 2) (drawn otherNames 3) ⟨2, none⟩]).1
      (drawn hostNames 4) (drawn hostNames 5) := by
  refine ⟨by decide +kernel, ?_, ?_⟩
  · intro sound
    obtain ⟨leaf, ca, chain, signed, -⟩ := sound
      [.certificate (leafCertificate 0 (drawn hostNames 0)), .certificate (authorityCertificate 4)]
      (.privateKey 1) (by decide +kernel)
    cases chain
    cases signed
  · intro sound
    obtain ⟨leaf, ca, chain, -, named, -⟩ := sound
      [.certificate (leafCertificate 0 (drawn otherNames 2)), .certificate (authorityCertificate 0)]
      (.privateKey 5) (by decide +kernel)
    cases chain
    revert named
    decide +kernel

end Runs

end SubnetDesk.WebGateway.Certificates
