/-
This file defines where the web gateway sends a request that comes without TLS.
-/

import SubnetDesk.Construction.Lan.AllowedNetworks
import SubnetDesk.Foundation.IpText
import SubnetDesk.Foundation.Lines
import SubnetDesk.Foundation.Utf8Strict

namespace SubnetDesk.WebGateway.Redirects

open AsciiCase
open Trimming (isWhitespace)
open Lan (Text isControl trim toIpv4Mapped)

inductive Host where
  | domain (value : Text)
  | ipv4 (bits : BitVec 32)
  | ipv6 (bits : BitVec 128)
deriving DecidableEq

structure Url where
  host : Option Host
  username : Text
  password : Option Text
  path : Text
  query : Option Text
  fragment : Option Text

structure Uri where
  scheme : Option Text
  authority : Option Text
  path : Text
  pathAndQuery : Option Text

/-- URLs and targets are parsed, and hosts of URLs are printed, outside this repository. -/
structure Parsers where
  parseUrl : Text → Option Url
  displayHost : Host → Text
  parseUri : Text → Option Uri

/-- The characters of a domain that are no forbidden domain code points. -/
def domainChar (char : Char) : Bool :=
  0x20 < char.toNat && char.toNat < 0x7F && !char.isUpper &&
    !("#/:<>?@[\\]^|%".toList.contains char)

def httpScheme : Text := "http://".toList

/-- What the standards of URLs say, and that targets have no control characters. -/
structure Parsers.Lawful (parsers : Parsers) : Prop where
  domain : ∀ authority url value, parsers.parseUrl (httpScheme ++ authority) = some url →
    url.host = some (.domain value) → value.all domainChar = true
  displayDomain : ∀ value, parsers.displayHost (.domain value) = value
  displayIpv4 : ∀ bits, parsers.displayHost (.ipv4 bits) = IpText.dotted bits
  displayIpv6 : ∀ bits, parsers.displayHost (.ipv6 bits) = ['['] ++ IpText.compressed bits ++ [']']
  originForm : ∀ target uri text, parsers.parseUri target = some uri → uri.scheme = none →
    uri.authority = none → uri.pathAndQuery = some text →
      text = target.takeWhile (· ≠ '#') ∧ uri.path = text.takeWhile (· ≠ '?')
  noControl : ∀ target uri text, parsers.parseUri target = some uri →
    uri.pathAndQuery = some text → text.any isControl = false

def reserved : List Char := "@/\\?#".toList

def validAuthority (parsers : Parsers) (authority : Text) : Bool :=
  if authority = [] ∨ 512 < (Utf8.encode authority).length ∨
      authority.any isWhitespace = true ∨ authority.any reserved.contains = true then false
  else
    match parsers.parseUrl (httpScheme ++ authority) with
    | none => false
    | some url =>
        url.host.isSome && url.username.isEmpty && url.password.isNone && url.path == ['/'] &&
          url.query.isNone && url.fragment.isNone

def trimBrackets (text : Text) : Text := (text.dropWhile (· = '[')).rdropWhile (· = ']')

/-- The entry of the set of hosts that a host is looked up as. -/
def hostEntry (parsers : Parsers) (host : Host) : Text :=
  toAsciiLowercase (trimBrackets (parsers.displayHost host))

local instance lawfulHost : LawfulBEq Text := inferInstance

def authorityHostAllowed (parsers : Parsers) (authority : Text) (allowedHosts : List Text) : Bool :=
  validAuthority parsers authority &&
    match (parsers.parseUrl (httpScheme ++ authority)).bind Url.host with
    | some host => decide (hostEntry parsers host ∈ allowedHosts)
    | none => false

def crlfCrlf : List UInt8 := [13, 10, 13, 10]

/-- The first position of the line that ends the head of a request. -/
def headerEnd (request : List UInt8) : Option Nat :=
  request.tails.findIdx? crlfCrlf.isPrefixOf

def requestLines (request : List UInt8) : Option (List Text) :=
  (headerEnd request).bind fun headerEnd =>
    match Utf8.fromUtf8 (request.take headerEnd) with
    | .ok text => some (Lines.splitPair '\r' '\n' text)
    | .error _ => none

def splitWhitespace (text : Text) : List Text :=
  (text.splitOnP isWhitespace).filter fun word => !word.isEmpty

def splitOnce (separator : Char) (text : Text) : Option (Text × Text) :=
  if separator ∈ text then
    some (text.takeWhile (· ≠ separator), (text.dropWhile (· ≠ separator)).tail)
  else none

/-- The value of a line whose name is `host`. -/
def hostHeader (line : Text) : Option Text :=
  ((splitOnce ':' line).filter fun header => eqIgnoreAsciiCase (trim header.1) "host".toList).map
    fun header => trim header.2

/-- IPv6 addresses are printed by the standard library here. -/
def displayIpv6 (bits : BitVec 128) : Text :=
  match toIpv4Mapped bits with
  | some low => "::ffff:".toList ++ IpText.dotted low
  | none => IpText.compressed bits

def locationHost : Host → Text
  | .domain value => value
  | .ipv4 bits => IpText.dotted bits
  | .ipv6 bits => ['['] ++ displayIpv6 bits ++ [']']

def portText (port : UInt16) : Text := Nat.toDigits 10 port.toNat

def redirectTarget (parsers : Parsers) (target : Text) : Option Text :=
  (parsers.parseUri target).bind fun uri =>
    if uri.scheme.isSome || uri.authority.isSome || !(uri.path.head? == some '/') then none
    else uri.pathAndQuery

def httpsScheme : Text := "https://".toList

def location (host : Host) (httpsPort : UInt16) (pathAndQuery : Text) : Text :=
  httpsScheme ++ (locationHost host ++ [':'] ++ portText httpsPort) ++ pathAndQuery

def httpRedirectLocation (parsers : Parsers) (request : List UInt8) (httpsPort : UInt16)
    (allowedHosts : List Text) : Option Text :=
  match requestLines request with
  | some (requestLine :: lines) =>
      match splitWhitespace requestLine with
      | [method, target, version] =>
          if method = [] ∨ method.all Char.isUpper = false ∨
              version ∉ ["HTTP/1.0", "HTTP/1.1"].map String.toList then none
          else
            match lines.filterMap hostHeader with
            | [authority] =>
                if authorityHostAllowed parsers authority allowedHosts = false then none
                else
                  ((parsers.parseUrl (httpScheme ++ authority)).bind Url.host).bind fun host =>
                    (redirectTarget parsers target).map (location host httpsPort)
            | _ => none
      | _ => none
  | _ => none

end SubnetDesk.WebGateway.Redirects
