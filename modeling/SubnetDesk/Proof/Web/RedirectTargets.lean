import Mathlib
import SubnetDesk.Construction.Web.HttpRedirect

namespace SubnetDesk.WebGateway.Redirects

open AsciiCase
open Trimming (isWhitespace)
open Lan (Text isControl trim toIpv4Mapped)

/-- The parts of a request with one line for its host. -/
structure PlainRequest where
  requestLine : Text
  method : Text
  target : Text
  version : Text
  before : List Text
  name : Text
  value : Text
  after : List Text
  body : List UInt8

def isHostName (name : Text) : Bool := eqIgnoreAsciiCase (trim name) "host".toList

namespace PlainRequest

def lines (parsed : PlainRequest) : List Text :=
  parsed.requestLine :: (parsed.before ++ (parsed.name ++ ':' :: parsed.value) :: parsed.after)

def head (parsed : PlainRequest) : List UInt8 :=
  Utf8.encode (['\r', '\n'].intercalate parsed.lines)

/-- A request has one line for its host, and its other lines have other names. -/
structure Reads (parsed : PlainRequest) (request : List UInt8) : Prop where
  bytes : request = parsed.head ++ crlfCrlf ++ parsed.body
  ends : ∀ position < parsed.head.length, ¬ crlfCrlf <+: request.drop position
  words : splitWhitespace parsed.requestLine = [parsed.method, parsed.target, parsed.version]
  hostName : ':' ∉ parsed.name ∧ isHostName parsed.name = true
  oneHost : ∀ line ∈ parsed.before ++ parsed.after, ∀ name value,
    line = name ++ ':' :: value → ':' ∉ name → isHostName name = false

end PlainRequest

/-- A text is cut at its first separator. -/
theorem splitOnce_eq_some_iff {separator : Char} {text first second : Text} :
    splitOnce separator text = some (first, second) ↔
      text = first ++ separator :: second ∧ separator ∉ first := by
  unfold splitOnce
  constructor
  · intro found
    split at found
    next inside =>
      cases found
      refine ⟨?_, fun member => by simpa using List.mem_takeWhile_imp member⟩
      conv_lhs => rw [← List.takeWhile_append_dropWhile (p := (· ≠ separator)) (l := text)]
      congr 1
      cases rest : text.dropWhile (· ≠ separator) with
      | nil =>
          have all := List.dropWhile_eq_nil_iff.mp rest separator inside
          simp at all
      | cons entry tail =>
          have stops := List.head?_dropWhile_not (· ≠ separator) text
          rw [rest] at stops
          have same : entry = separator := by simpa using stops
          rw [same]
          rfl
    next => cases found
  · rintro ⟨rfl, clean⟩
    have keep : ∀ entry ∈ first, decide (entry ≠ separator) = true := fun entry member =>
      decide_eq_true fun same => clean (same ▸ member)
    rw [if_pos (List.mem_append_right first List.mem_cons_self),
      List.takeWhile_append_of_pos keep, List.dropWhile_append_of_pos keep]
    simp

/-- A header is a host name and a value. -/
theorem hostHeader_eq_some_iff {line value : Text} :
    hostHeader line = some value ↔ ∃ name rest, line = name ++ ':' :: rest ∧ ':' ∉ name ∧
      isHostName name = true ∧ trim rest = value := by
  simp only [hostHeader, Option.map_eq_some_iff, Option.filter_eq_some_iff, Prod.exists,
    splitOnce_eq_some_iff, isHostName]
  exact ⟨fun ⟨name, rest, ⟨split, same⟩, trimmed⟩ => ⟨name, rest, split.1, split.2, same, trimmed⟩,
    fun ⟨name, rest, shape, clean, same, trimmed⟩ => ⟨name, rest, ⟨⟨shape, clean⟩, same⟩, trimmed⟩⟩

/-- Only a missing name has no header. -/
theorem isHostName_of_hostHeader_none {line name value : Text} (missing : hostHeader line = none)
    (shape : line = name ++ ':' :: value) (clean : ':' ∉ name) : isHostName name = false := by
  by_contra isHost
  have found := hostHeader_eq_some_iff.mpr
    ⟨name, value, shape, clean, (Bool.not_eq_false _).mp isHost, rfl⟩
  rw [missing] at found
  cases found

/-- The head ends at the first empty line. -/
theorem headerEnd_spec {request : List UInt8} {position : Nat}
    (found : headerEnd request = some position) :
    (∃ body, request = request.take position ++ crlfCrlf ++ body) ∧
      ∀ earlier < position, ¬ crlfCrlf <+: request.drop earlier := by
  obtain ⟨inside, starts, first⟩ := List.findIdx?_eq_some_iff_getElem.mp found
  refine ⟨?_, fun earlier below => ?_⟩
  · rw [List.getElem_tails] at starts
    obtain ⟨body, rest⟩ := List.isPrefixOf_iff_prefix.mp starts
    refine ⟨body, ?_⟩
    rw [List.append_assoc, rest, List.take_append_drop]
  · have missing := first earlier below
    rw [List.getElem_tails] at missing
    exact fun starts => missing (List.isPrefixOf_iff_prefix.mpr starts)

/-- The lines are those of the head. -/
theorem requestLines_spec {request : List UInt8} {lines : List Text}
    (found : requestLines request = some lines) :
    (∃ body,
      request = Utf8.encode (['\r', '\n'].intercalate lines) ++ crlfCrlf ++ body) ∧
      ∀ earlier < (Utf8.encode (['\r', '\n'].intercalate lines)).length,
        ¬ crlfCrlf <+: request.drop earlier := by
  obtain ⟨position, ends, decoded⟩ := Option.bind_eq_some_iff.mp found
  cases text : Utf8.fromUtf8 (request.take position) with
  | error e =>
      rw [text] at decoded
      cases decoded
  | ok chars =>
      rw [text] at decoded
      cases decoded
      obtain ⟨body, first⟩ := headerEnd_spec ends
      rw [Lines.intercalate_splitPair, Utf8.encode_of_fromUtf8 text]
      refine ⟨body, fun earlier below => first earlier ?_⟩
      exact Nat.lt_of_lt_of_le below (List.length_take_le position request)

/-- A request is read line by line. -/
theorem reads_of_request {request : List UInt8} {requestLine : Text} {lines : List Text}
    {method target version authority : Text}
    (read : requestLines request = some (requestLine :: lines))
    (words : splitWhitespace requestLine = [method, target, version])
    (hosts : lines.filterMap hostHeader = [authority]) :
    ∃ parsed : PlainRequest, parsed.Reads request ∧ parsed.target = target ∧
      trim parsed.value = authority := by
  obtain ⟨before, line, after, rfl, others, found, none_⟩ := List.filterMap_eq_cons_iff.mp hosts
  obtain ⟨name, value, rfl, clean, isHost, rfl⟩ := hostHeader_eq_some_iff.mp found
  obtain ⟨⟨body, bytes⟩, ends⟩ := requestLines_spec read
  refine ⟨⟨requestLine, method, target, version, before, name, value, after, body⟩,
    ⟨bytes, ends, words, ⟨clean, isHost⟩, ?_⟩, rfl, rfl⟩
  intro line member name' value' shape clean'
  refine isHostName_of_hostHeader_none ?_ shape clean'
  obtain earlier | later := List.mem_append.mp member
  · exact others line earlier
  · exact List.filterMap_eq_nil_iff.mp none_ line later

/-- Characters that neither end a header, nor an authority. -/
def plain (char : Char) : Bool :=
  !isWhitespace char && !isControl char && !reserved.contains char

/-- The letters of a domain are plain. -/
theorem plain_of_domainChar {char : Char} (domain : domainChar char = true) :
    plain char = true := by
  simp only [domainChar, Bool.and_eq_true, decide_eq_true_eq, Bool.not_eq_true'] at domain
  obtain ⟨⟨⟨low, high⟩, -⟩, allowed⟩ := domain
  have blank : isWhitespace char = false := by
    simp only [isWhitespace, Bool.or_eq_false_iff, Bool.and_eq_false_iff, decide_eq_false_iff_not,
      beq_eq_false_iff_ne]
    omega
  have control : isControl char = false := by
    simp only [isControl, Bool.or_eq_false_iff, Bool.and_eq_false_iff, decide_eq_false_iff_not]
    omega
  have free : reserved.contains char = false := by
    rw [Bool.eq_false_iff]
    intro member
    have known : ∀ entry ∈ reserved, "#/:<>?@[\\]^|%".toList.contains entry = true :=
      List.all_iff_forall_prop.mp (by decide)
    rw [known char (by simpa using member)] at allowed
    cases allowed
  rw [plain, blank, control, free]
  rfl

/-- The letters of an address are plain. -/
theorem plain_of_addressChar {char : Char} (member : char ∈ IpText.addressChars) :
    plain char = true := by
  have known : ∀ entry ∈ IpText.addressChars, plain entry = true :=
    List.all_iff_forall_prop.mp (by decide)
  exact known char member

theorem mem_displayIpv6 {bits : BitVec 128} {char : Char} (member : char ∈ displayIpv6 bits) :
    char ∈ IpText.addressChars := by
  unfold displayIpv6 at member
  split at member
  next low mapped =>
    have known : ∀ entry ∈ "::ffff:".toList, entry ∈ IpText.addressChars :=
      List.all_iff_forall_prop.mp (by decide)
    obtain start | rest := List.mem_append.mp member
    · exact known char start
    · exact IpText.mem_addressChars_of_dotted rest
  next => exact IpText.mem_addressChars_of_compressed member

/-- The host of a location is plain. -/
theorem plain_locationHost {parsers : Parsers} (lawful : parsers.Lawful) {authority : Text}
    {url : Url} {host : Host} (parsed : parsers.parseUrl (httpScheme ++ authority) = some url)
    (hosted : url.host = some host) {char : Char} (member : char ∈ locationHost host) :
    plain char = true := by
  cases host with
  | domain value =>
      exact plain_of_domainChar (List.all_eq_true.mp (lawful.domain _ _ _ parsed hosted) char member)
  | ipv4 bits => exact plain_of_addressChar (IpText.mem_addressChars_of_dotted member)
  | ipv6 bits =>
      obtain (opening | inside) | closing := by
        rwa [locationHost, List.mem_append, List.mem_append] at member
      · exact List.mem_singleton.mp opening ▸ by decide
      · exact plain_of_addressChar (mem_displayIpv6 inside)
      · exact List.mem_singleton.mp closing ▸ by decide

/-- A port is plain. -/
theorem plain_portText {port : UInt16} {char : Char} (member : char ∈ portText port) :
    plain char = true :=
  plain_of_addressChar (IpText.mem_addressChars_of_digit (by decide) (by decide) member)

/-- How a location writes the host that stands in the set as an entry. -/
inductive WrittenAs : Host → Text → Text → Prop where
  | domain (value : Text) : WrittenAs (.domain value) value value
  | ipv4 (bits : BitVec 32) : WrittenAs (.ipv4 bits) (IpText.dotted bits) (IpText.dotted bits)
  | ipv6 (bits : BitVec 128) (unmapped : toIpv4Mapped bits = none) :
      WrittenAs (.ipv6 bits) (IpText.compressed bits) (['['] ++ IpText.compressed bits ++ [']'])
  | mapped (bits : BitVec 128) (low : BitVec 32) (mapped : toIpv4Mapped bits = some low) :
      WrittenAs (.ipv6 bits) (IpText.compressed bits)
        (['['] ++ ("::ffff:".toList ++ IpText.dotted low) ++ [']'])

/-- Brackets are taken off. -/
theorem trimBrackets_bracketed {text : Text} (clean : ∀ char ∈ text, char ≠ '[' ∧ char ≠ ']') :
    trimBrackets (['['] ++ text ++ [']']) = text := by
  have opened : (text ++ [']']).dropWhile (· = '[') = text ++ [']'] :=
    List.dropWhile_eq_self_iff.mpr fun positive => by
      cases text with
      | nil => simp
      | cons first rest => simpa using (clean first List.mem_cons_self).1
  have closed : text.rdropWhile (· = ']') = text :=
    List.rdropWhile_eq_self_iff.mpr fun nonempty => by
      simpa using (clean _ (List.getLast_mem nonempty)).2
  rw [trimBrackets, List.append_assoc, List.singleton_append, List.dropWhile_cons_of_pos (by decide),
    opened, List.rdropWhile_concat_pos _ _ _ (by decide), closed]

/-- A text without brackets stays. -/
theorem trimBrackets_eq {text : Text} (clean : ∀ char ∈ text, char ≠ '[' ∧ char ≠ ']') :
    trimBrackets text = text := by
  unfold trimBrackets
  have opened : text.dropWhile (· = '[') = text :=
    List.dropWhile_eq_self_iff.mpr fun positive => by
      simpa using (clean _ (List.getElem_mem positive)).1
  rw [opened]
  exact List.rdropWhile_eq_self_iff.mpr fun nonempty => by
    simpa using (clean _ (List.getLast_mem nonempty)).2

/-- A text in lower case stays. -/
theorem toAsciiLowercase_eq {text : Text} (lower : ∀ char ∈ text, char.isUpper = false) :
    toAsciiLowercase text = text := by
  refine (List.map_congr_left fun char member => ?_).trans (List.map_id text)
  have small := lower char member
  simp only [Char.isUpper, decide_eq_false_iff_not] at small
  rw [Char.toLower, dif_neg small, id]

/-- A host is written as it was read. -/
theorem writtenAs {parsers : Parsers} (lawful : parsers.Lawful) {authority : Text} {url : Url}
    {host : Host} (parsed : parsers.parseUrl (httpScheme ++ authority) = some url)
    (hosted : url.host = some host) : WrittenAs host (hostEntry parsers host) (locationHost host) := by
  have address : ∀ char ∈ IpText.addressChars,
      (char ≠ '[' ∧ char ≠ ']') ∧ char.isUpper = false :=
    List.all_iff_forall_prop.mp (by decide)
  cases host with
  | domain value =>
      have letters := List.all_eq_true.mp (lawful.domain _ _ _ parsed hosted)
      have entry : hostEntry parsers (.domain value) = value := by
        rw [hostEntry, lawful.displayDomain, trimBrackets_eq, toAsciiLowercase_eq]
        · intro char member
          have letter := letters char member
          simp only [domainChar, Bool.and_eq_true, Bool.not_eq_true'] at letter
          exact letter.1.2
        · intro char member
          have letter := letters char member
          refine ⟨?_, ?_⟩ <;> rintro rfl <;> revert letter <;> decide
      rw [entry]
      exact .domain value
  | ipv4 bits =>
      have entry : hostEntry parsers (.ipv4 bits) = IpText.dotted bits := by
        rw [hostEntry, lawful.displayIpv4, trimBrackets_eq, toAsciiLowercase_eq]
        · exact fun char member => (address char (IpText.mem_addressChars_of_dotted member)).2
        · exact fun char member => (address char (IpText.mem_addressChars_of_dotted member)).1
      rw [entry]
      exact .ipv4 bits
  | ipv6 bits =>
      have entry : hostEntry parsers (.ipv6 bits) = IpText.compressed bits := by
        rw [hostEntry, lawful.displayIpv6, trimBrackets_bracketed, toAsciiLowercase_eq]
        · exact fun char member => (address char (IpText.mem_addressChars_of_compressed member)).2
        · exact fun char member => (address char (IpText.mem_addressChars_of_compressed member)).1
      rw [entry, locationHost, displayIpv6]
      split
      next low mapped => exact .mapped bits low mapped
      next unmapped => exact .ipv6 bits unmapped

/-- A valid authority has no reserved letter. -/
theorem validAuthority_spec {parsers : Parsers} {authority : Text}
    (valid : validAuthority parsers authority = true) :
    authority.any reserved.contains = false := by
  unfold validAuthority at valid
  split at valid
  next => cases valid
  next accepted =>
    simp only [not_or] at accepted
    exact (Bool.not_eq_true _).mp accepted.2.2.2

/-- An allowed host is one of the list. -/
theorem authorityHostAllowed_spec {parsers : Parsers} {authority : Text}
    {allowedHosts : List Text}
    (allowed : authorityHostAllowed parsers authority allowedHosts = true) :
    validAuthority parsers authority = true ∧
      ∃ url host, parsers.parseUrl (httpScheme ++ authority) = some url ∧ url.host = some host ∧
        hostEntry parsers host ∈ allowedHosts := by
  obtain ⟨valid, known⟩ := Bool.and_eq_true_iff.mp allowed
  refine ⟨valid, ?_⟩
  split at known
  next host found =>
    obtain ⟨url, parsed, hosted⟩ := Option.bind_eq_some_iff.mp found
    exact ⟨url, host, parsed, hosted, of_decide_eq_true known⟩
  next => cases known

/-- A target is a path without its fragment. -/
theorem redirectTarget_spec {parsers : Parsers} (lawful : parsers.Lawful) {target text : Text}
    (found : redirectTarget parsers target = some text) :
    text = target.takeWhile (· ≠ '#') ∧ (∃ rest, text = '/' :: rest) ∧
      text.any isControl = false := by
  obtain ⟨uri, parsed, kept⟩ := Option.bind_eq_some_iff.mp found
  split at kept
  next => cases kept
  next origin =>
    simp only [Bool.or_eq_true, not_or, Option.not_isSome_iff_eq_none, Bool.not_eq_true',
      Bool.not_eq_false, beq_iff_eq] at origin
    obtain ⟨⟨noScheme, noAuthority⟩, slash⟩ := origin
    obtain ⟨whole, path⟩ := lawful.originForm _ _ _ parsed noScheme noAuthority kept
    refine ⟨whole, ?_, lawful.noControl _ _ _ parsed kept⟩
    rw [path] at slash
    cases text with
    | nil => cases slash
    | cons first rest =>
        rw [List.takeWhile_cons] at slash
        split at slash
        next => exact ⟨rest, congrArg (· :: rest) (Option.some.inj slash)⟩
        next => cases slash

/-- A location is made of checked parts. -/
theorem httpRedirectLocation_spec {parsers : Parsers} {request : List UInt8} {httpsPort : UInt16}
    {allowedHosts : List Text} {found : Text}
    (redirected : httpRedirectLocation parsers request httpsPort allowedHosts = some found) :
    ∃ parsed : PlainRequest, parsed.Reads request ∧
      authorityHostAllowed parsers (trim parsed.value) allowedHosts = true ∧
      ∃ url host text, parsers.parseUrl (httpScheme ++ trim parsed.value) = some url ∧
        url.host = some host ∧ redirectTarget parsers parsed.target = some text ∧
        location host httpsPort text = found := by
  unfold httpRedirectLocation at redirected
  split at redirected
  next requestLine lines read =>
    split at redirected
    next method target version words =>
      split at redirected
      next => cases redirected
      next =>
        split at redirected
        next authority hosts =>
          split at redirected
          next => cases redirected
          next allowed =>
            obtain ⟨parsed, reads, rfl, rfl⟩ := reads_of_request read words hosts
            obtain ⟨host, hosted, located⟩ := Option.bind_eq_some_iff.mp redirected
            obtain ⟨url, urlParsed, hosted⟩ := Option.bind_eq_some_iff.mp hosted
            obtain ⟨text, kept, same⟩ := Option.map_eq_some_iff.mp located
            exact ⟨parsed, reads, (Bool.not_eq_false _).mp allowed, url, host, text, urlParsed,
              hosted, kept, same⟩
        next => cases redirected
    next => cases redirected
  next => cases redirected

/-- The authority that a reader of the location finds. -/
def authorityPart (location : Text) : Text :=
  (location.drop httpsScheme.length).takeWhile fun char => !"/\\?#".toList.contains char

/-- A request and where it is sent. -/
structure Redirect extends PlainRequest where
  url : Url
  host : Host
  entry : Text
  written : Text
  pathAndQuery : Text

/-- The location leads to a host of the set and to the port of the gateway, and carries the path of
the request. -/
structure Redirect.Safe (redirect : Redirect) (parsers : Parsers) (request : List UInt8)
    (httpsPort : UInt16) (allowedHosts : List Text) (location : Text) : Prop where
  reads : redirect.toPlainRequest.Reads request
  parsed : parsers.parseUrl (httpScheme ++ trim redirect.value) = some redirect.url ∧
    redirect.url.host = some redirect.host
  noUserInfo : '@' ∉ trim redirect.value
  allowed : redirect.entry ∈ allowedHosts
  written : WrittenAs redirect.host redirect.entry redirect.written
  shape : location = httpsScheme ++ (redirect.written ++ [':'] ++ portText httpsPort) ++
    redirect.pathAndQuery
  origin : redirect.pathAndQuery = redirect.target.takeWhile (· ≠ '#') ∧
    ∃ rest, redirect.pathAndQuery = '/' :: rest
  authority : authorityPart location = redirect.written ++ [':'] ++ portText httpsPort
  noUser : '@' ∉ authorityPart location
  clean : ∀ char ∈ location, isWhitespace char = false ∧ isControl char = false

/-- An authority of a host is plain. -/
theorem plain_authority {parsers : Parsers} (lawful : parsers.Lawful) {authority : Text}
    {url : Url} {host : Host} (parsed : parsers.parseUrl (httpScheme ++ authority) = some url)
    (hosted : url.host = some host) (httpsPort : UInt16) :
    ∀ char ∈ locationHost host ++ [':'] ++ portText httpsPort, plain char = true := by
  intro char member
  obtain (named | colon) | port := by rwa [List.mem_append, List.mem_append] at member
  · exact plain_locationHost lawful parsed hosted named
  · exact List.mem_singleton.mp colon ▸ by decide
  · exact plain_portText port

/-- The authority of a location is its host. -/
theorem authorityPart_location {host : Host} {httpsPort : UInt16} {rest : Text}
    (clean : ∀ char ∈ locationHost host ++ [':'] ++ portText httpsPort, plain char = true) :
    authorityPart (location host httpsPort ('/' :: rest)) =
      locationHost host ++ [':'] ++ portText httpsPort := by
  have inside : ∀ char ∈ locationHost host ++ [':'] ++ portText httpsPort,
      (!"/\\?#".toList.contains char) = true := by
    intro char member
    have free := clean char member
    have ends : ∀ entry ∈ "/\\?#".toList, plain entry = false :=
      List.all_iff_forall_prop.mp (by decide)
    rw [Bool.not_eq_true', Bool.eq_false_iff]
    intro stop
    rw [ends char (by simpa using stop)] at free
    cases free
  rw [authorityPart, location, List.append_assoc, List.drop_left,
    List.takeWhile_append_of_pos inside, List.takeWhile_cons_of_neg (by decide), List.append_nil]

theorem not_white_of_splitOnP {text part : Text} (member : part ∈ text.splitOnP isWhitespace) :
    ∀ char ∈ part, isWhitespace char = false := by
  induction text generalizing part with
  | nil =>
      rw [List.splitOnP_nil, List.mem_singleton] at member
      rw [member]
      exact fun char none_ => nomatch none_
  | cons first rest inductionHypothesis =>
      rw [List.splitOnP_cons_eq_if_modifyHead] at member
      split at member
      next blank =>
        obtain rfl | later := List.mem_cons.mp member
        · exact fun char none_ => nomatch none_
        · exact inductionHypothesis later
      next letter =>
        cases parts : rest.splitOnP isWhitespace with
        | nil => exact absurd parts (List.splitOnP_ne_nil _ _)
        | cons head tail =>
            rw [parts, List.modifyHead_cons] at member
            obtain rfl | later := List.mem_cons.mp member
            · intro char inside
              obtain rfl | inside := List.mem_cons.mp inside
              · exact (Bool.not_eq_true _).mp letter
              · exact inductionHypothesis (parts ▸ List.mem_cons_self) char inside
            · exact inductionHypothesis (parts ▸ List.mem_cons_of_mem head later)

/-- A word has no white space. -/
theorem not_white_of_splitWhitespace {line word : Text} (member : word ∈ splitWhitespace line) :
    ∀ char ∈ word, isWhitespace char = false :=
  not_white_of_splitOnP (List.mem_filter.mp member).1

/-- A plain letter is harmless in a location. -/
theorem clean_of_plain {char : Char} (free : plain char = true) :
    isWhitespace char = false ∧ isControl char = false ∧ char ≠ '@' := by
  simp only [plain, Bool.and_eq_true, Bool.not_eq_true'] at free
  refine ⟨free.1.1, free.1.2, ?_⟩
  rintro rfl
  exact absurd free.2 (by decide)

/-- A redirect stays on the hosts of the set and adds no header. -/
theorem redirect_stays_on_allowed_hosts {parsers : Parsers} (lawful : parsers.Lawful)
    (request : List UInt8) (httpsPort : UInt16) (allowedHosts : List Text) (found : Text)
    (redirected : httpRedirectLocation parsers request httpsPort allowedHosts = some found) :
    ∃ redirect : Redirect, redirect.Safe parsers request httpsPort allowedHosts found := by
  obtain ⟨plainRequest, reads, allowed, url, host, text, parsed, hosted, kept, rfl⟩ :=
    httpRedirectLocation_spec redirected
  obtain ⟨valid, url', host', parsed', hosted', known⟩ := authorityHostAllowed_spec allowed
  cases parsed.symm.trans parsed'
  cases hosted.symm.trans hosted'
  obtain ⟨whole, ⟨rest, rfl⟩, noControl⟩ := redirectTarget_spec lawful kept
  have inAuthority := plain_authority lawful parsed hosted httpsPort
  have authority : authorityPart (location host httpsPort ('/' :: rest)) = _ :=
    authorityPart_location inAuthority
  refine ⟨⟨plainRequest, url, host, hostEntry parsers host, locationHost host, '/' :: rest⟩,
    { reads := reads
      parsed := ⟨parsed, hosted⟩
      noUserInfo := ?_
      allowed := known
      written := writtenAs lawful parsed hosted
      shape := rfl
      origin := ⟨whole, rest, rfl⟩
      authority := authority
      noUser := ?_
      clean := ?_ }⟩
  · intro member
    have reservedFree := validAuthority_spec valid
    rw [List.any_eq_false] at reservedFree
    exact reservedFree '@' member (by decide)
  · rw [authority]
    exact fun member => (clean_of_plain (inAuthority '@' member)).2.2 rfl
  · intro char member
    obtain (scheme | named) | path := by rwa [location, List.mem_append, List.mem_append] at member
    · have known : ∀ entry ∈ httpsScheme,
          isWhitespace entry = false ∧ isControl entry = false :=
        List.all_iff_forall_prop.mp (by decide)
      exact known char scheme
    · obtain ⟨noBlank, noControl, -⟩ := clean_of_plain (inAuthority char named)
      exact ⟨noBlank, noControl⟩
    · refine ⟨?_, (Bool.not_eq_true _).mp (List.any_eq_false.mp noControl char path)⟩
      have word : plainRequest.target ∈ splitWhitespace plainRequest.requestLine := by
        rw [reads.words]
        exact List.mem_cons_of_mem _ List.mem_cons_self
      rw [whole] at path
      exact not_white_of_splitWhitespace word char ((List.takeWhile_prefix _).subset path)

def rootUrl (host : Host) : Url where
  host := some host
  username := []
  password := none
  path := ['/']
  query := none
  fragment := none

/-- These parsers know the two authorities of one address. -/
def addressParsers : Parsers where
  parseUrl text :=
    if text = "http://10.1.1.124:18123".toList then some (rootUrl (.ipv4 0x0A01017C))
    else if text = "http://[::ffff:10.1.1.124]".toList then
      some (rootUrl (.ipv6 0xFFFF0A01017C))
    else none
  displayHost
    | .domain value => value
    | .ipv4 bits => IpText.dotted bits
    | .ipv6 bits => ['['] ++ IpText.compressed bits ++ [']']
  parseUri target :=
    let text := target.takeWhile (· ≠ '#')
    if target.head? = some '/' ∧ text.any isControl = false then
      some
        { scheme := none
          authority := none
          path := text.takeWhile (· ≠ '?')
          pathAndQuery := some text }
    else none

/-- The sample parsers are lawful. -/
theorem lawful_addressParsers : addressParsers.Lawful where
  domain authority url value parsed hosted := by
    simp only [addressParsers] at parsed
    split at parsed
    next => cases parsed; cases hosted
    next =>
      split at parsed
      next => cases parsed; cases hosted
      next => cases parsed
  displayDomain _ := rfl
  displayIpv4 _ := rfl
  displayIpv6 _ := rfl
  originForm target uri text parsed _ _ kept := by
    simp only [addressParsers] at parsed
    split at parsed
    next => cases parsed; cases kept; exact ⟨rfl, rfl⟩
    next => cases parsed
  noControl target uri text parsed kept := by
    simp only [addressParsers] at parsed
    split at parsed
    next accepted => cases parsed; cases kept; exact accepted.2
    next => cases parsed

def viewerRequest : Text := "GET /viewer?display=1 HTTP/1.1\r\nHost: 10.1.1.124:18123".toList

def mappedRequest : Text :=
  "GET //attacker.example/ HTTP/1.1\r\nHost: [::ffff:10.1.1.124]".toList

/-- A request whose head is a text without its last line. -/
def sent (head : Text) : List UInt8 := Utf8.encode head ++ crlfCrlf

/-- A request that is sent is read back. -/
theorem requestLines_sent {head : Text}
    (ends : headerEnd (sent head) = some (Utf8.encode head).length) :
    requestLines (sent head) = some (Lines.splitPair '\r' '\n' head) := by
  rw [requestLines, ends, Option.bind_some, sent, List.take_left, Utf8.fromUtf8_encode]

/-- The viewer is sent to the secure port. -/
theorem viewer_redirected :
    httpRedirectLocation addressParsers (sent viewerRequest) 18123 ["10.1.1.124".toList] =
      some "https://10.1.1.124:18123/viewer?display=1".toList := by
  rw [httpRedirectLocation, requestLines_sent (by decide +kernel)]
  decide +kernel

theorem viewer_stays_on_allowed_hosts : ∃ redirect : Redirect,
    redirect.Safe addressParsers (sent viewerRequest) 18123 ["10.1.1.124".toList]
      "https://10.1.1.124:18123/viewer?display=1".toList :=
  redirect_stays_on_allowed_hosts lawful_addressParsers _ _ _ _ viewer_redirected

def mappedLocation : Text := "https://[::ffff:10.1.1.124]:18123//attacker.example/".toList

/-- The set has the address in hexadecimal digits, and the location does not. -/
theorem mapped_host_rewritten :
    addressParsers.Lawful ∧
      httpRedirectLocation addressParsers (sent mappedRequest) 18123 ["::ffff:a01:17c".toList] =
        some mappedLocation ∧
      ∀ entry ∈ ["::ffff:a01:17c".toList], ∀ rest : Text,
        mappedLocation ≠ httpsScheme ++ entry ++ [':'] ++ portText 18123 ++ '/' :: rest ∧
        mappedLocation ≠ httpsScheme ++ (['['] ++ entry ++ [']']) ++ [':'] ++ portText 18123 ++
          '/' :: rest := by
  refine ⟨lawful_addressParsers, ?_, ?_⟩
  · rw [httpRedirectLocation, requestLines_sent (by decide +kernel)]
    decide +kernel
  · intro entry member rest
    rw [List.mem_singleton.mp member]
    have named : ¬ httpsScheme ++ "::ffff:a01:17c".toList ++ [':'] ++ portText 18123 <+:
        mappedLocation := by decide +kernel
    have bracketed : ¬ httpsScheme ++ (['['] ++ "::ffff:a01:17c".toList ++ [']']) ++ [':'] ++
        portText 18123 <+: mappedLocation := by decide +kernel
    exact ⟨fun same => named ⟨_, same.symm⟩, fun same => bracketed ⟨_, same.symm⟩⟩

end SubnetDesk.WebGateway.Redirects
