/-
This file defines the endpoints under which a client looks for a requested device, the responses of a
discovery scan, and the list of peers that a scan stores.
-/

import Mathlib
import SubnetDesk.Foundation.Trimming

namespace SubnetDesk.Lan
open AsciiCase

abbrev Text := List Char

/-- The parsed form of an endpoint. -/
structure Endpoint where
  authority : Text
  host : Text
  port : UInt16
deriving DecidableEq

/-- An address is known by its display form. -/
inductive IpAddr where
  | v4 (display : Text)
  | v6 (display : Text)
deriving DecidableEq

/-- Endpoints are parsed outside this repository, and every parser of addresses is allowed. -/
structure EndpointParser where
  parse : Text → Option Endpoint
  defaultPort : UInt16
  parseIp : Text → Option IpAddr

structure RecentLanEndpoint where
  endpoint : Text
  fingerprint : Text
deriving DecidableEq

/-- The addresses of a discovered peer are the keys of a map. -/
structure DiscoveryPeer where
  endpoint : Text
  fingerprint : Text
  ipMac : List (Text × Text)
deriving DecidableEq

def isAsciiHexdigit (char : Char) : Bool :=
  char.isDigit || ('a' ≤ char && char ≤ 'f') || ('A' ≤ char && char ≤ 'F')

def isFingerprint (value : Text) : Bool := value.length == 64 && value.all isAsciiHexdigit

def pushUnique (values : List Text) (value : Text) : List Text :=
  if value ≠ [] ∧ value ∉ values then values ++ [value] else values

section Candidates

variable (parser : EndpointParser)

/-- A discovered peer is the requested device under its endpoint or under one of its addresses. -/
def peerMatches (requested : Text) (peer : DiscoveryPeer) : Bool :=
  peer.endpoint == requested ||
    (parser.parse requested).any fun endpoint =>
      peer.ipMac.any fun entry => entry.1 == endpoint.host

def resolveFingerprint (requested : Text) (recent : List RecentLanEndpoint)
    (peers : List DiscoveryPeer) : Option Text :=
  let known := (recent.find? fun entry => entry.endpoint == requested).map fun entry =>
    toAsciiLowercase entry.fingerprint
  let discovered := (peers.find? (peerMatches parser requested)).map fun peer =>
    toAsciiLowercase peer.fingerprint
  (known.or discovered).filter isFingerprint

def formatAddress (port : UInt16) : IpAddr → Text
  | .v4 display => display ++ ':' :: (toString port.toNat).toList
  | .v6 display => '[' :: display ++ ']' :: ':' :: (toString port.toNat).toList

/-- The endpoints of a discovered peer, with its addresses in the order of their bytes. -/
def peerEndpoints (peer : DiscoveryPeer) : List Text :=
  let port := ((parser.parse peer.endpoint).map Endpoint.port).getD parser.defaultPort
  let addresses := (peer.ipMac.map Prod.fst).mergeSort fun first second => first ≤ second
  peer.endpoint :: addresses.filterMap fun address =>
    (parser.parseIp address).map (formatAddress port)

def knownEndpoints (fingerprint : Text) (recent : List RecentLanEndpoint)
    (peers : List DiscoveryPeer) : List Text :=
  (recent.filter fun entry => eqIgnoreAsciiCase entry.fingerprint fingerprint).map
      RecentLanEndpoint.endpoint ++
    (peers.filter fun peer => eqIgnoreAsciiCase peer.fingerprint fingerprint).flatMap
      (peerEndpoints parser)

def connectionCandidatesFrom (endpoint : Text) (recent : List RecentLanEndpoint)
    (peers : List DiscoveryPeer) : Option Text × List Text :=
  match parser.parse endpoint with
  | none => (none, [endpoint])
  | some requested =>
      let fingerprint := resolveFingerprint parser requested.authority recent peers
      let known := fingerprint.elim [] fun value => knownEndpoints parser value recent peers
      (fingerprint, (requested.authority :: known).foldl pushUnique [])

end Candidates

def IpAddr.display : IpAddr → Text
  | .v4 display => display
  | .v6 display => display

/-- The values that `normalize` keeps. -/
def deviceTypes : List Text :=
  ["phone", "tablet", "laptop", "desktop", "all-in-one", "server"].map String.toList

local instance lawfulDeviceType : LawfulBEq Text := inferInstance

def normalizeDeviceType (value : Text) : Text := if value ∈ deviceTypes then value else []

/-- A peer of the stored list. The times of its last answers are kept outside this repository. -/
structure StoredPeer (Presence : Type) extends DiscoveryPeer where
  id : Text
  deviceType : Text
  presence : Presence

/-- What a scan takes from outside this repository and from the interfaces of the host. -/
structure ScanContext (Presence : Type) where
  parser : EndpointParser
  protocolVersion : Nat
  online : Presence
  markSeen : Int → Presence → Presence
  markMissed : Int → Presence → Presence
  connectable : IpAddr → Bool
  precedes : IpAddr → IpAddr → Bool

/-- The fields of an answer to a UDP query, with the two values of `misc` that are read. -/
structure PeerDiscovery where
  cmd : Text
  id : Text
  mac : Text
  port : Option Nat
  deviceType : Text
deriving DecidableEq

/-- The properties of an mDNS service that are read. -/
structure ServiceProperties where
  version : Option Nat
  fingerprint : Option Text
  deviceType : Text
deriving DecidableEq

section Responses

variable {Presence : Type} (context : ScanContext Presence)

def answerPort (port : Option Nat) : UInt16 :=
  match port with
  | some value => if 0 < value ∧ value < 2 ^ 16 then UInt16.ofNat value
      else context.parser.defaultPort
  | none => context.parser.defaultPort

/-- The peer that `wait_response` sends for one answer. -/
def waitResponse (localMac : Text) (address : IpAddr) (answer : PeerDiscovery) :
    Option (StoredPeer Presence) :=
  if answer.cmd ≠ "pong".toList ∨ isFingerprint answer.id = false then none
  else if (localMac = [] ∧ answer.mac = []) ∨ localMac ≠ answer.mac then
    let endpoint := formatAddress (answerPort context answer.port) address
    some {
      id := endpoint
      endpoint := endpoint
      fingerprint := answer.id
      ipMac := [(address.display, answer.mac)]
      deviceType := normalizeDeviceType answer.deviceType
      presence := context.online }
  else none

def peerFromMdnsFields (localFingerprint : Text) (port : UInt16) (addresses : List IpAddr)
    (properties : ServiceProperties) : Option (StoredPeer Presence) :=
  if port = 0 ∨ properties.version ≠ some context.protocolVersion then none
  else
    match properties.fingerprint.map toAsciiLowercase with
    | none => none
    | some fingerprint =>
        if isFingerprint fingerprint = false ∨ eqIgnoreAsciiCase fingerprint localFingerprint then
          none
        else
          match ((addresses.filter context.connectable).mergeSort context.precedes).eraseReps with
          | [] => none
          | primary :: others =>
              let endpoint := formatAddress port primary
              some {
                id := endpoint
                endpoint := endpoint
                fingerprint := fingerprint
                ipMac := (primary :: others).map fun address => (address.display, [])
                deviceType := normalizeDeviceType properties.deviceType
                presence := context.online }

/-- A response of a scan, over either transport. -/
def Responds (peer : StoredPeer Presence) : Prop :=
  (∃ localMac address answer, waitResponse context localMac address answer = some peer) ∨
    ∃ localFingerprint port addresses properties,
      peerFromMdnsFields context localFingerprint port addresses properties = some peer

/-- The entries of the second map replace those of the first. -/
def extendMap (map other : List (Text × Text)) : List (Text × Text) :=
  other ++ map.filter fun entry => !(other.any fun replaced => replaced.1 == entry.1)

def orDefault (map : List (Text × Text)) (key : Text) : List (Text × Text) :=
  if map.any fun entry => entry.1 == key then map else (key, []) :: map

/-- The host of an endpoint where it is an address. -/
def endpointAddress (endpoint : Text) : Option Text :=
  ((context.parser.parse endpoint).map Endpoint.host).filter fun host =>
    (context.parser.parseIp host).isSome

def StoredPeer.isSamePeer (peer other : StoredPeer Presence) : Bool :=
  peer.fingerprint == other.fingerprint

def discoveryKey (peer : StoredPeer Presence) : Text :=
  if peer.fingerprint = [] then peer.id else toAsciiLowercase peer.fingerprint

/-- A response takes over what is known of its peer. -/
def StoredPeer.merge (peer known : StoredPeer Presence) : StoredPeer Presence :=
  { peer with
    deviceType := if peer.deviceType = [] then known.deviceType else peer.deviceType
    ipMac := extendMap ((endpointAddress context known.endpoint).elim peer.ipMac
      (orDefault peer.ipMac)) known.ipMac }

structure Scan (Presence : Type) where
  peers : List (StoredPeer Presence)
  seen : List Text

/-- One turn of the loop of `handle_received_peers`. -/
def Scan.receive (scan : Scan Presence) (arrival : Int × StoredPeer Presence) : Scan Presence :=
  let peer := { arrival.2 with presence := context.markSeen arrival.1 arrival.2.presence }
  { seen := discoveryKey peer :: scan.seen
    peers :=
      match scan.peers.find? (·.isSamePeer peer) with
      | some known => peer.merge context known :: scan.peers.eraseP (·.isSamePeer peer)
      | none => peer :: scan.peers }

def Scan.receiveAll (scan : Scan Presence) (arrivals : List (Int × StoredPeer Presence)) :
    Scan Presence :=
  arrivals.foldl (Scan.receive context) scan

/-- The stored list after a scan. A peer without a response is marked. -/
def handleReceivedPeers (now : Int) (stored : List (StoredPeer Presence))
    (arrivals : List (Int × StoredPeer Presence)) : List (StoredPeer Presence) :=
  let scan := Scan.receiveAll context ⟨stored, []⟩ arrivals
  scan.peers.map fun peer =>
    if discoveryKey peer ∈ scan.seen then peer
    else { peer with presence := context.markMissed now peer.presence }

end Responses

end SubnetDesk.Lan
