/-
This file defines the names under which a device announces itself on both discovery transports.
-/

import SubnetDesk.Construction.Lan.Discovery
import SubnetDesk.Foundation.Trimming
import SubnetDesk.Foundation.Utf8

namespace SubnetDesk.Lan
open AsciiCase
open Trimming (isWhitespace)

/-- The category `Cc` of Unicode. -/
def isControl (char : Char) : Bool :=
  char.toNat < 0x20 || (0x7F ≤ char.toNat && char.toNat ≤ 0x9F)

def trim (value : Text) : Text := Trimming.trim isWhitespace value

def maxNameChars : Nat := 64

def sanitizeLanDeviceName (value : Text) : Text :=
  ((trim value).filter fun character => !isControl character).take maxNameChars

def appName : Text := "SubnetDesk".toList

def selectDeviceDisplayName (customName systemHostname : Text) : Text :=
  if sanitizeLanDeviceName customName ≠ [] then sanitizeLanDeviceName customName
  else if sanitizeLanDeviceName systemHostname = [] then appName
  else sanitizeLanDeviceName systemHostname

def safeDisplayName (value : Text) : Text :=
  let filtered := ((trim value).filter fun character => !isControl character).take maxNameChars
  if filtered = [] then appName else filtered

def validRemoteLabel (value : Text) : Option Text :=
  if trim value = [] ∨ 128 < (trim value).length ∨ (trim value).any isControl then none
  else some (trim value)

def unknown : Text := "Unknown".toList

def normalizePlatform (value : Text) : Text :=
  if value = "Windows".toList then "Windows".toList
  else if value = "Linux".toList then "Linux".toList
  else if value = "Mac OS".toList ∨ value = "macOS".toList then "Mac OS".toList
  else if value = "Android".toList then "Android".toList
  else unknown

/-- The value of an unsigned integer below the bound. A leading plus is accepted. -/
def parseUnsigned (bound : Nat) (value : Text) : Option Nat :=
  let digits := match value with
    | '+' :: rest => rest
    | _ => value
  if digits ≠ [] ∧ digits.all Char.isDigit then
    some (digits.foldl (fun total digit => total * 10 + (digit.toNat - 48)) 0) |>.filter (· < bound)
  else none

/-- What a device reads from its options and from its host before it announces itself. -/
structure Device where
  customName : Text
  systemHostname : Text
  platform : Text
  deviceType : Text
  fingerprint : Text
  listenPort : Text
  discoverable : Bool
  addresses : List IpAddr

def Device.displayName (device : Device) : Text :=
  selectDeviceDisplayName device.customName device.systemHostname

/-- An answer to a UDP query with the names that it carries. -/
structure Pong extends PeerDiscovery where
  hostname : Text
  username : Text
  platform : Text

/-- A discovered peer with the names that its answer carries. -/
structure NamedPeer (Presence : Type) where
  peer : StoredPeer Presence
  hostname : Text
  platform : Text
  username : Text

section Announcing

variable {Presence : Type} (context : ScanContext Presence)

def Device.port (device : Device) : UInt16 :=
  answerPort context (parseUnsigned (2 ^ 16) device.listenPort)

/-- The answer of the UDP listener to a query. -/
def Device.pong (device : Device) (mac : Text) : Pong where
  cmd := "pong".toList
  mac := mac
  id := device.fingerprint
  port := some (device.port context).toNat
  deviceType := device.deviceType
  hostname := device.displayName
  username := []
  platform := device.platform

def isAsciiAlphanumeric (byte : UInt8) : Bool :=
  (48 ≤ byte && byte ≤ 57) || (65 ≤ byte && byte ≤ 90) || (97 ≤ byte && byte ≤ 122)

def byteToAsciiLowercase (byte : UInt8) : UInt8 :=
  if 65 ≤ byte && byte ≤ 90 then byte + 32 else byte

/-- The character for one byte of a name. Only one hyphen stands for adjacent other bytes. -/
def normalizedByte (lastWasHyphen : Bool) (byte : UInt8) : Option Char :=
  if isAsciiAlphanumeric byte then some (Char.ofUInt8 (byteToAsciiLowercase byte))
  else if lastWasHyphen then none
  else some '-'

/-- One turn of the loop of `dns_host_label`. -/
def pushByte (label : Text × Bool) (byte : UInt8) : Text × Bool :=
  match normalizedByte label.2 byte with
  | some character => (label.1 ++ [character], character == '-')
  | none => label

/-- The characters that make up exactly the given number of bytes. -/
def bytePrefix (count : Nat) (value : Text) : Option Text :=
  if count = 0 then some []
  else
    match value with
    | [] => none
    | character :: rest =>
        if character.utf8Size ≤ count then
          (bytePrefix (count - character.utf8Size) rest).map (character :: ·)
        else none

def isHyphen (character : Char) : Bool := character == '-'

def labelFallback : Text := "subnetdesk".toList

def dnsHostLabel (displayName fingerprint : Text) : Text :=
  let pushed := ((Utf8.encode displayName).foldl pushByte ([], false)).1
  let trimmed := Trimming.trim isHyphen pushed
  let base := if trimmed = [] then labelFallback else trimmed
  let suffix := (bytePrefix 8 fingerprint).getD "device".toList
  let maxBaseLen := 63 - ((Utf8.encode suffix).length + 1)
  let popped := (base.take maxBaseLen).rdropWhile isHyphen
  (if popped = [] then labelFallback else popped) ++ '-' :: suffix

/-- What the mDNS publisher registers. -/
structure Announcement where
  displayName : Text
  dnsLabel : Text
  platform : Text
  deviceType : Text
  fingerprint : Text
  port : UInt16
  addresses : List IpAddr

def Announcement.current (device : Device) : Option Announcement :=
  if device.discoverable = false ∨ isFingerprint device.fingerprint = false ∨
      device.addresses = [] then none
  else
    some {
      displayName := safeDisplayName device.displayName
      dnsLabel := dnsHostLabel (safeDisplayName device.displayName) device.fingerprint
      platform := device.platform
      deviceType := device.deviceType
      fingerprint := device.fingerprint
      port := device.port context
      addresses := device.addresses }

abbrev Properties := List (Text × Text)

def Properties.get (properties : Properties) (key : String) : Option Text :=
  (properties.find? fun entry => entry.1 == key.toList).map Prod.snd

def announcementProperties (displayName platform deviceType fingerprint : Text) : Properties :=
  [("v".toList, (toString context.protocolVersion).toList),
    ("name".toList, safeDisplayName displayName),
    ("os".toList, normalizePlatform platform),
    ("device_type".toList, deviceType),
    ("fp".toList, toAsciiLowercase fingerprint)]

def Announcement.properties (announcement : Announcement) : Properties :=
  announcementProperties context announcement.displayName announcement.platform
    announcement.deviceType announcement.fingerprint

/-- The properties of a service, as far as they do not name the peer. -/
def serviceProperties (properties : Properties) : ServiceProperties where
  version := (properties.get "v").bind (parseUnsigned (2 ^ 32))
  fingerprint := properties.get "fp"
  deviceType := (properties.get "device_type").getD []

/-- The host of a service without its local domain. -/
def stripLocal (serviceHostname : Text) : Text :=
  let host := serviceHostname.rdropWhile (· == '.')
  if ".local".toList.isSuffixOf host then host.take (host.length - 6) else host

def mdnsHostname (serviceHostname : Text) (properties : Properties) : Text :=
  ((properties.get "name").bind validRemoteLabel).getD
    ((validRemoteLabel (stripLocal serviceHostname)).getD unknown)

/-- The peer of `peer_from_mdns_fields` with its names. -/
def namedPeerFromMdnsFields (localFingerprint serviceHostname : Text) (port : UInt16)
    (addresses : List IpAddr) (properties : Properties) : Option (NamedPeer Presence) :=
  (peerFromMdnsFields context localFingerprint port addresses (serviceProperties properties)).map
    fun peer =>
      { peer := peer
        hostname := mdnsHostname serviceHostname properties
        platform := ((properties.get "os").map normalizePlatform).getD unknown
        username := [] }

end Announcing

end SubnetDesk.Lan
