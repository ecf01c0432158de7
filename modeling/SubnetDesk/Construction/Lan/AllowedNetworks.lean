/-
This file defines which source addresses the setting of the allowed networks admits.
-/

import SubnetDesk.Construction.Lan.DeviceName

namespace SubnetDesk.Lan
open Trimming (isWhitespace)

/-- The address of a peer of a socket. -/
inductive SourceIp where
  | v4 (bits : BitVec 32)
  | v6 (bits : BitVec 128)
deriving DecidableEq

/-- The IPv4 address of `::ffff:a.b.c.d`. -/
def toIpv4Mapped (bits : BitVec 128) : Option (BitVec 32) :=
  if bits.extractLsb' 32 96 = 0xFFFF then some (bits.extractLsb' 0 32) else none

def normalizeSourceIp : SourceIp → SourceIp
  | .v4 bits => .v4 bits
  | .v6 bits => ((toIpv4Mapped bits).map SourceIp.v4).getD (.v6 bits)

/-- Networks are parsed, printed and searched outside this repository. -/
structure NetworkParser where
  Network : Type
  parse : Text → Option Network
  print : Network → Text
  contains : Network → SourceIp → Bool

def privateNetworks : List Text :=
  ["10.0.0.0/8", "172.16.0.0/12", "192.168.0.0/16", "100.64.0.0/10", "127.0.0.0/8",
    "169.254.0.0/16", "fc00::/7", "fe80::/10", "::1/128"].map String.toList

/-- The parts of a setting that are not blank, without their outer blanks. -/
def settingParts (value : Text) : List Text :=
  ((value.splitOn ',').map trim).filter fun part => part ≠ []

def invalidNetwork (network : Text) : Text := "Invalid allowed network: ".toList ++ network

section Networks

variable (parser : NetworkParser)

def normalizeNetwork (network : Text) : Except Text Text :=
  if '/' ∉ network then .error (invalidNetwork network)
  else
    match parser.parse network with
    | some parsed => .ok (parser.print parsed)
    | none => .error (invalidNetwork network)

def normalizeAllowedNetworks (value : Text) : Except Text Text :=
  ((settingParts value).mapM (normalizeNetwork parser)).map (List.intercalate [','])

def configuredNetworks (configured : Text) : List Text :=
  if trim configured = [] then privateNetworks else settingParts configured

def sourceAllowedWith (ip : SourceIp) (configured : Text) : Bool :=
  ((configuredNetworks configured).filterMap parser.parse).any fun network =>
    parser.contains network (normalizeSourceIp ip)

/-- What the parser documents. A network is printed as an address, a slash and a length. -/
structure NetworkParser.Lawful : Prop where
  parse_print : ∀ network, parser.parse (parser.print network) = some network
  slash : ∀ network, '/' ∈ parser.print network
  plain : ∀ network, ∀ character ∈ parser.print network,
    character ≠ ',' ∧ isWhitespace character = false
  loopback : ∃ network, parser.parse "127.0.0.0/8".toList = some network ∧
    parser.contains network (.v4 0x7F000001) = true

end Networks

end SubnetDesk.Lan
