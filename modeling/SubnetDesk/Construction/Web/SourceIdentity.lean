/-
This file defines which source each transport gives to a connection, to a web session and to a web
request.
-/

import SubnetDesk.Construction.Server.LoginFailureCheck
import SubnetDesk.Construction.Web.ConnectionLimiter
import SubnetDesk.Construction.Web.HttpRedirect

namespace SubnetDesk.SourceIdentity

open Lan (SourceIp toIpv4Mapped normalizeSourceIp)
open LoginFailureCheck (Source Ipv6Format Peer Choice Shared Output)

/-- A socket reports clients of version 4 by their own address or, where it serves both versions, by
a mapped one. -/
inductive Listener where
  | ipv4
  | ipv6Only
  | dualStack
deriving DecidableEq

def Listener.reports : Listener → SourceIp → Bool
  | .ipv4, .v4 _ => true
  | .ipv6Only, .v6 bits => (toIpv4Mapped bits).isNone
  | .dualStack, .v6 _ => true
  | _, _ => false

inductive Transport where
  | native
  | web
deriving DecidableEq

/-- A connection comes in with the address that the socket reports. -/
structure Arrival where
  transport : Transport
  reported : SourceIp
  secured : Bool

/-- The native listener normalizes the address, and the web gateway passes it on. -/
def Arrival.lanAddr (arrival : Arrival) : SourceIp :=
  match arrival.transport with
  | .native => normalizeSourceIp arrival.reported
  | .web => arrival.reported

def ipText : SourceIp → List Char
  | .v4 bits => IpText.dotted bits
  | .v6 bits => WebGateway.Redirects.displayIpv6 bits

theorem slash_notMem_ipText (ip : SourceIp) : '/' ∉ ipText ip := by
  have plain : '/' ∉ IpText.addressChars := by decide
  intro member
  cases ip with
  | v4 bits => exact plain (IpText.mem_addressChars_of_dotted member)
  | v6 bits =>
      rw [ipText, WebGateway.Redirects.displayIpv6] at member
      split at member
      · obtain front | back := List.mem_append.mp member
        · exact absurd front (by decide)
        · exact plain (IpText.mem_addressChars_of_dotted back)
      · exact plain (IpText.mem_addressChars_of_compressed member)

/-- The standard library reads and writes addresses of version 6. -/
def ipv6Format : Ipv6Format where
  parse := IpParser.ipv6FromStr
  display := WebGateway.Redirects.displayIpv6

section Logins

variable (tryIntoV4 : SourceIp → SourceIp)

/-- A connection passes its address through `try_into_v4` when it starts. -/
def Arrival.connectionAddr (arrival : Arrival) : SourceIp := tryIntoV4 arrival.lanAddr

/-- The address is the IP of the connection from `on_open` on. -/
def Arrival.source (arrival : Arrival) : Source where
  ip := ipText (arrival.connectionAddr tryIntoV4)
  plain := slash_notMem_ipText _

def Arrival.peer (arrival : Arrival) : Peer where
  source := arrival.source tryIntoV4
  secured := arrival.secured
  webClient := arrival.transport = .web

def loginEvent : Threads.Event Arrival Choice Nat → Threads.Event Peer Choice Nat
  | .call arrival => .call (arrival.peer tryIntoV4)
  | .advance index choice => .advance index choice
  | .disturb later => .disturb later

def loginRun (now : Nat) (events : List (Threads.Event Arrival Choice Nat)) :
    Threads.State Shared LoginFailureCheck.Connection × List Output :=
  (LoginFailureCheck.program ipv6Format).machine.run (LoginFailureCheck.LanAuth.start now)
    (events.map (loginEvent tryIntoV4))

end Logins

def maxWebConnections : Nat := 16

def maxWebConnectionsPerSource : Nat := 4

def maxWebRequestsPerMinute : Nat := 120

/-- A minute of the monotonic clock in nanoseconds. -/
def webRequestWindow : Nat := 60 * 10 ^ 9

/-- The listeners of a start of the gateway share one limiter, and attempts and requests bring the
reported address. -/
def sessionRun (events : List (Threads.Event (Nat × SourceIp) Unit Empty)) :
    WebGateway.Sessions SourceIp :=
  (WebGateway.sessions.machine.run
    (WebGateway.Sessions.start fun _ => (maxWebConnections, maxWebConnectionsPerSource)) events).1

def requestRun (calls : List (WebGateway.RateCall SourceIp)) :
    List (WebGateway.RateDecision SourceIp) :=
  (WebGateway.RequestRateBudget.machine.run
    (.new maxWebRequestsPerMinute webRequestWindow) calls).2

end SubnetDesk.SourceIdentity
