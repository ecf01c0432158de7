import Mathlib.Data.Bool.AllAny
import SubnetDesk.Construction.Lan.DeviceName

namespace SubnetDesk.Lan

open Trimming (Trimmed isWhitespace)

/-- A name that every receiver takes over as it is. -/
structure PlainName (name : Text) : Prop where
  noControl : ∀ character ∈ name, isControl character = false
  trimmed : Trimmed isWhitespace name
  short : name.length ≤ maxNameChars

/-- Both cleanings of a name are idempotent, with a plain name as their result. -/
structure CleanedOnce (value : Text) : Prop where
  sanitizedTwice : sanitizeLanDeviceName (sanitizeLanDeviceName value) = sanitizeLanDeviceName value
  safeTwice : safeDisplayName (safeDisplayName value) = safeDisplayName value
  sanitizedPlain : PlainName (sanitizeLanDeviceName value)
  safePlain : PlainName (safeDisplayName value)

/-- No blank that is kept comes before or after all kept characters, or last below the bound. -/
def BlankInside (value : Text) : Prop :=
  ∀ before blank after, trim value = before ++ blank :: after →
    isWhitespace blank = true → isControl blank = false →
      let position := (before.filter fun character => !isControl character).length
      0 < position ∧ position + 1 ≠ maxNameChars ∧
        (position + 1 < maxNameChars → ∃ character ∈ after, isControl character = false)

/-- The result is trimmed where blanks are inside. -/
theorem sanitize_trimmed_iff (value : Text) :
    Trimmed isWhitespace (sanitizeLanDeviceName value) ↔ BlankInside value := by
  rw [sanitizeLanDeviceName, Trimming.trimmed_take_iff (by decide)]
  constructor
  · intro inside before blank after split white visible
    obtain ⟨first, uncut, more⟩ := inside _ blank _
      (Trimming.filter_eq_split_iff.mpr ⟨before, after, split, rfl, by simp [visible], rfl⟩) white
    refine ⟨first, uncut, fun below => ?_⟩
    obtain ⟨character, kept⟩ := List.exists_mem_of_ne_nil _ (more below)
    rw [List.mem_filter] at kept
    exact ⟨character, kept.1, by simpa using kept.2⟩
  · intro inside kept blank rest split white
    obtain ⟨before, after, whole, rfl, visible, rfl⟩ := Trimming.filter_eq_split_iff.mp split
    obtain ⟨first, uncut, more⟩ := inside before blank after whole white (by simpa using visible)
    refine ⟨first, uncut, fun below empty => ?_⟩
    obtain ⟨character, member, shown⟩ := more below
    have hidden := List.filter_eq_nil_iff.mp empty character member
    simp [shown] at hidden

/-- The result has no control characters. -/
theorem sanitize_noControl (value : Text) :
    ∀ character ∈ sanitizeLanDeviceName value, isControl character = false := by
  intro character member
  have kept := List.mem_filter.mp (List.mem_of_mem_take member)
  simpa using kept.2

/-- The result has at most sixty-four letters. -/
theorem sanitize_short (value : Text) : (sanitizeLanDeviceName value).length ≤ maxNameChars :=
  List.length_take_le _ _

/-- A short name without control characters is only trimmed. -/
theorem sanitize_eq_trim {name : Text}
    (noControl : ∀ character ∈ name, isControl character = false)
    (short : name.length ≤ maxNameChars) : sanitizeLanDeviceName name = trim name := by
  have kept : (trim name).filter (fun character => !isControl character) = trim name :=
    List.filter_eq_self.mpr fun character member => by
      simp [noControl character (Trimming.mem_of_mem_trim member)]
  rw [sanitizeLanDeviceName, kept]
  exact List.take_of_length_le ((Trimming.length_trim_le _ name).trans short)

/-- An empty name becomes that of the program. -/
theorem safeDisplayName_eq (value : Text) :
    safeDisplayName value =
      if sanitizeLanDeviceName value = [] then appName else sanitizeLanDeviceName value := rfl

theorem plain_appName : PlainName appName :=
  ⟨List.all_iff_forall_prop.mp (by decide), by decide, by decide⟩

/-- A safe name has no control characters. -/
theorem safe_noControl (value : Text) :
    ∀ character ∈ safeDisplayName value, isControl character = false := by
  rw [safeDisplayName_eq]
  split
  · exact plain_appName.noControl
  · exact sanitize_noControl value

/-- A safe name has at most sixty-four letters. -/
theorem safe_short (value : Text) : (safeDisplayName value).length ≤ maxNameChars := by
  rw [safeDisplayName_eq]
  split
  · exact plain_appName.short
  · exact sanitize_short value

/-- A safe name is trimmed where blanks are inside. -/
theorem safe_trimmed_iff (value : Text) :
    Trimmed isWhitespace (safeDisplayName value) ↔ BlankInside value := by
  rw [← sanitize_trimmed_iff, safeDisplayName_eq]
  split
  next empty => simp [empty, plain_appName.trimmed, Trimming.trimmed_nil]
  next => rfl

/-- A safe name is not empty. -/
theorem safe_ne_nil (value : Text) : safeDisplayName value ≠ [] := by
  rw [safeDisplayName_eq]
  split
  · decide
  · assumption

/-- A second cleaning trims the name, and an empty name is replaced. -/
theorem safe_safe (value : Text) :
    safeDisplayName (safeDisplayName value) =
      if trim (safeDisplayName value) = [] then appName else trim (safeDisplayName value) := by
  rw [safeDisplayName_eq (safeDisplayName value),
    sanitize_eq_trim (safe_noControl value) (safe_short value)]

/-- A plain name stays. -/
theorem PlainName.safe_eq {name : Text} (plain : PlainName name) (nonempty : name ≠ []) :
    safeDisplayName name = name := by
  have same : sanitizeLanDeviceName name = name :=
    (sanitize_eq_trim plain.noControl plain.short).trans plain.trimmed.trim_eq
  rw [safeDisplayName_eq, same, if_neg nonempty]

/-- A name that was cleaned twice is plain. -/
theorem safe_safe_plain (value : Text) : PlainName (safeDisplayName (safeDisplayName value)) := by
  refine ⟨safe_noControl _, ?_, safe_short _⟩
  rw [safe_safe]
  split
  · exact plain_appName.trimmed
  · exact Trimming.trimmed_trim _ _

/-- The second cleaning changes a name exactly when the first one leaves an outer blank. -/
theorem safe_safe_eq_iff (value : Text) :
    safeDisplayName (safeDisplayName value) = safeDisplayName value ↔ BlankInside value := by
  rw [← safe_trimmed_iff]
  constructor
  · intro same
    rw [← same]
    exact (safe_safe_plain value).trimmed
  · intro trimmed
    rw [safe_safe, trim, trimmed.trim_eq, if_neg (safe_ne_nil value)]

/-- One cleaning is enough for blanks inside. -/
theorem cleanedOnce_iff (value : Text) : CleanedOnce value ↔ BlankInside value := by
  constructor
  · exact fun cleaned => (sanitize_trimmed_iff value).mp cleaned.sanitizedPlain.trimmed
  · intro inside
    have trimmed := (sanitize_trimmed_iff value).mpr inside
    refine ⟨?_, (safe_safe_eq_iff value).mpr inside,
      ⟨sanitize_noControl value, trimmed, sanitize_short value⟩,
      ⟨safe_noControl value, (safe_trimmed_iff value).mpr inside, safe_short value⟩⟩
    rw [sanitize_eq_trim (sanitize_noControl value) (sanitize_short value)]
    exact trimmed.trim_eq

/-- A plain name is a valid label. -/
theorem validRemoteLabel_plain {name : Text} (plain : PlainName name) (nonempty : name ≠ []) :
    validRemoteLabel name = some name := by
  have same : trim name = name := plain.trimmed.trim_eq
  have short : ¬ 128 < name.length := by
    have bound := plain.short
    unfold maxNameChars at bound
    omega
  rw [validRemoteLabel, same, if_neg]
  rintro (empty | long | control)
  · exact nonempty empty
  · exact short long
  · obtain ⟨character, member, isControl_⟩ := List.any_eq_true.mp control
    rw [plain.noControl character member] at isControl_
    cases isControl_

/-- The configured name where any of its characters is visible, and the host name elsewhere. -/
def Device.configuredName (device : Device) : Text :=
  if (trim device.customName).any fun character => !isControl character then device.customName
  else device.systemHostname

/-- Only control characters leave nothing. -/
theorem sanitize_eq_nil_iff (value : Text) :
    sanitizeLanDeviceName value = [] ↔
      ((trim value).any fun character => !isControl character) = false := by
  rw [sanitizeLanDeviceName, List.take_eq_nil_iff, List.filter_eq_nil_iff, List.any_eq_false]
  simp [maxNameChars]

theorem displayName_eq (device : Device) :
    device.displayName = safeDisplayName device.configuredName := by
  rw [safeDisplayName_eq, Device.displayName, selectDeviceDisplayName]
  by_cases empty : sanitizeLanDeviceName device.customName = []
  · have chosen : device.configuredName = device.systemHostname :=
      if_neg (by simp [(sanitize_eq_nil_iff _).mp empty])
    rw [chosen, if_neg (not_not.mpr empty)]
  · have chosen : device.configuredName = device.customName :=
      if_pos (by simpa using mt (sanitize_eq_nil_iff _).mpr empty)
    rw [chosen, if_pos empty, if_neg empty]

section Announcing

variable {Presence : Type} (context : ScanContext Presence)

/-- The properties that the mDNS publisher announces for the name of a device. -/
inductive Announces (device : Device) : Properties → Prop where
  | name : Announces device (announcementProperties context device.displayName device.platform
      device.deviceType device.fingerprint)
  | current (announcement : Announcement) :
      Announcement.current context device = some announcement →
        Announces device (announcement.properties context)

/-- The announcement carries the name. -/
theorem get_announcementProperties (displayName platform deviceType fingerprint : Text) :
    (announcementProperties context displayName platform deviceType fingerprint).get "name" =
      some (safeDisplayName displayName) := by
  simp [announcementProperties, Properties.get]

/-- The name of an announcement was cleaned. -/
theorem Announces.name_eq {device : Device} {properties : Properties}
    (announces : Announces context device properties) :
    properties.get "name" = some (safeDisplayName device.displayName) := by
  cases announces with
  | name => exact get_announcementProperties context _ _ _ _
  | current announcement current =>
      unfold Announcement.current at current
      split at current
      · cases current
      · cases current
        rw [Announcement.properties, get_announcementProperties, displayName_eq,
          (safe_safe_plain _).safe_eq (safe_ne_nil _)]

/-- The host name of the service is not used where the properties announce a plain name. -/
theorem Announces.hostname_eq {device : Device} {properties : Properties}
    (announces : Announces context device properties) (serviceHostname : Text) :
    mdnsHostname serviceHostname properties = safeDisplayName device.displayName := by
  have plain : PlainName (safeDisplayName device.displayName) := by
    rw [displayName_eq]
    exact safe_safe_plain _
  rw [mdnsHostname, announces.name_eq, Option.bind_some,
    validRemoteLabel_plain plain (safe_ne_nil _), Option.getD_some]

/-- Both transports name a device alike exactly when its configured name has no outer blanks. -/
theorem announced_names_agree_iff (device : Device) (properties : Properties)
    (announces : Announces context device properties) (mac localFingerprint serviceHostname : Text)
    (port : UInt16) (addresses : List IpAddr) (peer : NamedPeer Presence)
    (received : namedPeerFromMdnsFields context localFingerprint serviceHostname port addresses
      properties = some peer) :
    ((device.pong context mac).hostname = peer.hostname ↔ BlankInside device.configuredName) ∧
      ∀ value, CleanedOnce value ↔ BlankInside value := by
  refine ⟨?_, cleanedOnce_iff⟩
  obtain ⟨known, -, rfl⟩ := Option.map_eq_some_iff.mp received
  have announced := announces.hostname_eq context serviceHostname
  calc (device.pong context mac).hostname = mdnsHostname serviceHostname properties
      ↔ safeDisplayName device.displayName = device.displayName := by
        rw [announced]
        exact eq_comm
    _ ↔ BlankInside device.configuredName := by
        rw [displayName_eq]
        exact safe_safe_eq_iff _

end Announcing

def scanContext : ScanContext Unit where
  parser := ⟨fun _ => none, 21118, fun _ => none⟩
  protocolVersion := 1
  online := ()
  markSeen := fun _ _ => ()
  markMissed := fun _ _ => ()
  connectable := fun _ => true
  precedes := fun _ _ => true

/-- A device that is configured under the given name. -/
def namedDevice (customName : Text) : Device where
  customName := customName
  systemHostname := "office.local".toList
  platform := "Linux".toList
  deviceType := "desktop".toList
  fingerprint := List.replicate 64 'a'
  listenPort := "21118".toList
  discoverable := true
  addresses := [.v4 "192.168.1.4".toList]

def namedProperties (customName : Text) : Properties :=
  announcementProperties scanContext (namedDevice customName).displayName "Linux".toList
    "desktop".toList (List.replicate 64 'a')

/-- The peer that another device of the network discovers. -/
def receivedPeer (customName : Text) : Option (NamedPeer Unit) :=
  namedPeerFromMdnsFields scanContext (List.replicate 64 'b') "office-aaaaaaaa.local.".toList 21118
    [.v4 "192.168.1.4".toList] (namedProperties customName)

theorem serviceProperties_named (customName : Text) :
    serviceProperties (namedProperties customName) =
      ⟨some 1, some (List.replicate 64 'a'), "desktop".toList⟩ := by
  rfl

theorem announces_named (customName : Text) :
    Announces scanContext (namedDevice customName) (namedProperties customName) :=
  .name

theorem receivedPeer_eq (customName : Text) :
    ∃ peer, receivedPeer customName = some peer ∧
      peer.hostname = safeDisplayName (namedDevice customName).displayName := by
  have found : (peerFromMdnsFields scanContext (List.replicate 64 'b') 21118
      [.v4 "192.168.1.4".toList]
      ⟨some 1, some (List.replicate 64 'a'), "desktop".toList⟩).isSome = true := by
    simp [peerFromMdnsFields, scanContext]
    decide
  obtain ⟨peer, found⟩ := Option.isSome_iff_exists.mp found
  have hostname := (announces_named customName).hostname_eq scanContext
    "office-aaaaaaaa.local.".toList
  rw [receivedPeer, namedPeerFromMdnsFields, serviceProperties_named, found, Option.map_some,
    hostname]
  refine ⟨_, rfl, ?_⟩
  dsimp only

theorem blankInside_office : BlankInside "Office PC".toList :=
  (sanitize_trimmed_iff _).mp (by decide)

theorem announced_names_agree_iff_office :
    ∃ peer, receivedPeer "Office PC".toList = some peer ∧
      ((namedDevice "Office PC".toList).pong scanContext []).hostname = peer.hostname := by
  obtain ⟨peer, received, -⟩ := receivedPeer_eq "Office PC".toList
  exact ⟨peer, received, (announced_names_agree_iff scanContext _ _ (announces_named _) [] _ _ _ _
    peer received).1.mpr blankInside_office⟩

/-- The blank after a control character stays in front of the name on one transport only. -/
theorem blank_after_control_differs :
    ∃ peer, receivedPeer "\x01 Desk".toList = some peer ∧ peer.hostname = "Desk".toList ∧
      ((namedDevice "\x01 Desk".toList).pong scanContext []).hostname = " Desk".toList ∧
      ¬ CleanedOnce "\x01 Desk".toList := by
  obtain ⟨peer, received, hostname⟩ := receivedPeer_eq "\x01 Desk".toList
  refine ⟨peer, received, hostname.trans (by decide), by decide, fun cleaned => ?_⟩
  exact absurd cleaned.sanitizedTwice (by decide)

end SubnetDesk.Lan
