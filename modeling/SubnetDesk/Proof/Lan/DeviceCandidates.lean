import Mathlib
import SubnetDesk.Construction.Lan.Discovery

namespace SubnetDesk.Lan
open AsciiCase

/-- A push adds a value that is not empty. -/
theorem mem_pushUnique {values : List Text} {value other : Text} :
    other ∈ pushUnique values value ↔ other ∈ values ∨ (other = value ∧ value ≠ []) := by
  unfold pushUnique
  split
  next new =>
    rw [List.mem_append, List.mem_singleton]
    exact or_congr_right ⟨fun same => ⟨same, new.1⟩, And.left⟩
  next known =>
    refine ⟨.inl, ?_⟩
    rintro (member | ⟨rfl, filled⟩)
    · exact member
    · by_contra absent
      exact known ⟨filled, absent⟩

/-- A push adds no copy. -/
theorem nodup_pushUnique {values : List Text} (unique : values.Nodup) (value : Text) :
    (pushUnique values value).Nodup := by
  unfold pushUnique
  split
  next new =>
    refine List.nodup_append.mpr ⟨unique, List.nodup_singleton _, fun first member other last => ?_⟩
    rw [List.mem_singleton] at last
    rintro rfl
    exact new.2 (last ▸ member)
  next => exact unique

theorem pushUnique_eq (values : List Text) (value : Text) :
    ∃ more, pushUnique values value = values ++ more := by
  unfold pushUnique
  split
  next => exact ⟨[value], rfl⟩
  next => exact ⟨[], (List.append_nil _).symm⟩

theorem mem_foldl_pushUnique (more values : List Text) (value : Text) :
    value ∈ more.foldl pushUnique values ↔ value ∈ values ∨ (value ∈ more ∧ value ≠ []) := by
  induction more generalizing values with
  | nil => simp
  | cons first rest ih =>
      rw [List.foldl_cons, ih, mem_pushUnique, List.mem_cons]
      constructor
      · rintro ((member | ⟨rfl, filled⟩) | ⟨member, filled⟩)
        · exact .inl member
        · exact .inr ⟨.inl rfl, filled⟩
        · exact .inr ⟨.inr member, filled⟩
      · rintro (member | ⟨rfl | member, filled⟩)
        · exact .inl (.inl member)
        · exact .inl (.inr ⟨rfl, filled⟩)
        · exact .inr ⟨member, filled⟩

theorem nodup_foldl_pushUnique (more : List Text) {values : List Text} (unique : values.Nodup) :
    (more.foldl pushUnique values).Nodup := by
  induction more generalizing values with
  | nil => exact unique
  | cons first rest ih => exact ih (nodup_pushUnique unique first)

theorem foldl_pushUnique_eq (more values : List Text) :
    ∃ pushed, more.foldl pushUnique values = values ++ pushed := by
  induction more generalizing values with
  | nil => exact ⟨[], (List.append_nil _).symm⟩
  | cons first rest ih =>
      obtain ⟨one, pushed⟩ := pushUnique_eq values first
      obtain ⟨others, final⟩ := ih (values ++ one)
      exact ⟨one ++ others, by rw [List.foldl_cons, pushed, final, List.append_assoc]⟩

def IsLowerHex (char : Char) : Prop := char.isDigit = true ∨ ('a' ≤ char ∧ char ≤ 'f')

theorem toLower_not_upper (char : Char) : ¬ ('A' ≤ char.toLower ∧ char.toLower ≤ 'F') := by
  rintro ⟨low, high⟩
  unfold Char.toLower at low high
  split at low
  next upper =>
    rw [dif_pos upper] at high
    have least := UInt32.le_iff_toNat_le.mp upper.1
    have most := UInt32.le_iff_toNat_le.mp upper.2
    have bound := UInt32.le_iff_toNat_le.mp high
    rw [UInt32.toNat_add] at bound
    simp at least most bound
    omega
  next other =>
    rw [dif_neg other] at high
    refine other ⟨low, UInt32.le_iff_toNat_le.mpr ?_⟩
    have bound := UInt32.le_iff_toNat_le.mp high
    simp at bound ⊢
    omega

/-- A digit in lower case is one. -/
theorem toLower_hex {char : Char} (hex : isAsciiHexdigit char.toLower = true) :
    IsLowerHex char.toLower := by
  unfold isAsciiHexdigit at hex
  rw [Bool.or_eq_true, Bool.or_eq_true, Bool.and_eq_true, decide_eq_true_eq, decide_eq_true_eq,
    Bool.and_eq_true, decide_eq_true_eq, decide_eq_true_eq] at hex
  rcases hex with (digit | lower) | upper
  · exact .inl digit
  · exact .inr lower
  · exact absurd upper (toLower_not_upper char)

/-- A fingerprint is in lower case. -/
theorem resolveFingerprint_lower {parser : EndpointParser} {requested fingerprint : Text}
    {recent : List RecentLanEndpoint} {peers : List DiscoveryPeer}
    (found : resolveFingerprint parser requested recent peers = some fingerprint) :
    fingerprint.length = 64 ∧ ∀ char ∈ fingerprint, IsLowerHex char := by
  unfold resolveFingerprint at found
  obtain ⟨resolved, valid⟩ := Option.filter_eq_some_iff.mp found
  have lowered : ∃ text, fingerprint = toAsciiLowercase text := by
    rcases Option.or_eq_some_iff.mp resolved with known | ⟨-, discovered⟩
    · obtain ⟨entry, -, same⟩ := Option.map_eq_some_iff.mp known
      exact ⟨entry.fingerprint, same.symm⟩
    · obtain ⟨peer, -, same⟩ := Option.map_eq_some_iff.mp discovered
      exact ⟨peer.fingerprint, same.symm⟩
  obtain ⟨text, rfl⟩ := lowered
  unfold isFingerprint at valid
  rw [Bool.and_eq_true, beq_iff_eq, List.all_eq_true] at valid
  refine ⟨valid.1, fun char member => ?_⟩
  obtain ⟨original, -, rfl⟩ := List.mem_map.mp member
  exact toLower_hex (valid.2 _ member)

/-- An endpoint of a recent entry, or an endpoint or an address of a discovered peer, with the
fingerprint. -/
def IsDeviceEndpoint (parser : EndpointParser) (fingerprint : Text)
    (recent : List RecentLanEndpoint) (peers : List DiscoveryPeer) (candidate : Text) : Prop :=
  (∃ entry ∈ recent, eqIgnoreAsciiCase entry.fingerprint fingerprint = true ∧
    candidate = entry.endpoint) ∨
    ∃ peer ∈ peers, eqIgnoreAsciiCase peer.fingerprint fingerprint = true ∧
      (candidate = peer.endpoint ∨ ∃ entry ∈ peer.ipMac, ∃ ip, parser.parseIp entry.1 = some ip ∧
        candidate = formatAddress
          (((parser.parse peer.endpoint).map Endpoint.port).getD parser.defaultPort) ip)

/-- The endpoints of a peer are its addresses. -/
theorem mem_peerEndpoints {parser : EndpointParser} {peer : DiscoveryPeer} {candidate : Text} :
    candidate ∈ peerEndpoints parser peer ↔
      candidate = peer.endpoint ∨ ∃ entry ∈ peer.ipMac, ∃ ip, parser.parseIp entry.1 = some ip ∧
        candidate = formatAddress
          (((parser.parse peer.endpoint).map Endpoint.port).getD parser.defaultPort) ip := by
  unfold peerEndpoints
  dsimp only
  rw [List.mem_cons, List.mem_filterMap]
  refine or_congr_right ⟨?_, ?_⟩
  · rintro ⟨address, member, formatted⟩
    obtain ⟨ip, parsed, rfl⟩ := Option.map_eq_some_iff.mp formatted
    obtain ⟨entry, inside, rfl⟩ := List.mem_map.mp (List.mem_mergeSort.mp member)
    exact ⟨entry, inside, ip, parsed, rfl⟩
  · rintro ⟨entry, inside, ip, parsed, rfl⟩
    refine ⟨entry.1, List.mem_mergeSort.mpr (List.mem_map_of_mem inside), ?_⟩
    rw [parsed]
    rfl

/-- The known endpoints have the fingerprint. -/
theorem mem_knownEndpoints {parser : EndpointParser} {fingerprint : Text}
    {recent : List RecentLanEndpoint} {peers : List DiscoveryPeer} {candidate : Text} :
    candidate ∈ knownEndpoints parser fingerprint recent peers ↔
      IsDeviceEndpoint parser fingerprint recent peers candidate := by
  unfold knownEndpoints IsDeviceEndpoint
  rw [List.mem_append, List.mem_map, List.mem_flatMap]
  refine or_congr ⟨?_, ?_⟩ ⟨?_, ?_⟩
  · rintro ⟨entry, member, rfl⟩
    obtain ⟨inside, same⟩ := List.mem_filter.mp member
    exact ⟨entry, inside, same, rfl⟩
  · rintro ⟨entry, inside, same, rfl⟩
    exact ⟨entry, List.mem_filter.mpr ⟨inside, same⟩, rfl⟩
  · rintro ⟨peer, member, listed⟩
    obtain ⟨inside, same⟩ := List.mem_filter.mp member
    exact ⟨peer, inside, same, mem_peerEndpoints.mp listed⟩
  · rintro ⟨peer, inside, same, listed⟩
    exact ⟨peer, List.mem_filter.mpr ⟨inside, same⟩, mem_peerEndpoints.mpr listed⟩

/-- The endpoint as it is asked for first. -/
def requestedCandidate (parser : EndpointParser) (endpoint : Text) : Text :=
  ((parser.parse endpoint).map Endpoint.authority).getD endpoint

/-- The candidates are the requested endpoint and, with a fingerprint, every endpoint of the device
that is not empty. -/
theorem connectionCandidates_spec (parser : EndpointParser)
    (authorities : ∀ text found, parser.parse text = some found → found.authority ≠ [])
    (endpoint : Text) (recent : List RecentLanEndpoint) (peers : List DiscoveryPeer) :
    let result := connectionCandidatesFrom parser endpoint recent peers
    result.2.Nodup ∧
      result.2.head? = some (requestedCandidate parser endpoint) ∧
      (∀ fingerprint, result.1 = some fingerprint →
        fingerprint.length = 64 ∧ (∀ char ∈ fingerprint, IsLowerHex char) ∧
          ∀ candidate, candidate ∈ result.2 ↔ candidate = requestedCandidate parser endpoint ∨
            (IsDeviceEndpoint parser fingerprint recent peers candidate ∧ candidate ≠ [])) ∧
      (result.1 = none → result.2 = [requestedCandidate parser endpoint]) := by
  unfold connectionCandidatesFrom requestedCandidate
  cases parsed : parser.parse endpoint with
  | none => exact ⟨List.nodup_singleton _, rfl, nofun, fun _ => rfl⟩
  | some requested =>
      have first : pushUnique [] requested.authority = [requested.authority] := by
        rw [pushUnique, if_pos (And.intro (authorities endpoint requested parsed) List.not_mem_nil),
          List.nil_append]
      dsimp only [Option.map_some, Option.getD_some]
      rw [List.foldl_cons, first]
      refine ⟨nodup_foldl_pushUnique _ (List.nodup_singleton _), ?_, ?_, ?_⟩
      · obtain ⟨pushed, final⟩ := foldl_pushUnique_eq
          ((resolveFingerprint parser requested.authority recent peers).elim []
            fun value => knownEndpoints parser value recent peers) [requested.authority]
        rw [final]
        rfl
      · intro fingerprint found
        obtain ⟨length, lower⟩ := resolveFingerprint_lower found
        refine ⟨length, lower, fun candidate => ?_⟩
        rw [found, mem_foldl_pushUnique, List.mem_singleton, Option.elim_some, mem_knownEndpoints]
      · intro missing
        rw [missing]
        rfl

def knownFingerprint : Text := List.replicate 64 'a'

/-- A parser that takes every text with a colon. -/
def colonParser : EndpointParser where
  parse text := if ':' ∈ text then some ⟨text, text.takeWhile (· ≠ ':'), 21118⟩ else none
  defaultPort := 21118
  parseIp text := some (.v4 text)

theorem connectionCandidates_spec_recent :
    "10.9.0.20:21118".toList ∈ (connectionCandidatesFrom colonParser "10.8.0.15:21118".toList
      [⟨"10.8.0.15:21118".toList, knownFingerprint⟩] [⟨"192.168.1.20:21118".toList, knownFingerprint,
        [("10.9.0.20".toList, [])]⟩]).2 :=
  (((connectionCandidates_spec colonParser
    (fun text found parsed => by
      unfold colonParser at parsed
      dsimp only at parsed
      split at parsed
      next colon =>
        obtain rfl := Option.some.inj parsed
        exact List.ne_nil_of_mem colon
      next => cases parsed)
    "10.8.0.15:21118".toList [⟨"10.8.0.15:21118".toList, knownFingerprint⟩]
    [⟨"192.168.1.20:21118".toList, knownFingerprint, [("10.9.0.20".toList, [])]⟩]).2.2.1
    knownFingerprint (by decide +kernel)).2.2 _).mpr
    (.inr ⟨.inr ⟨_, List.mem_singleton_self _, by decide +kernel, .inr ⟨_, List.mem_singleton_self _,
      .v4 "10.9.0.20".toList, rfl, by decide +kernel⟩⟩, by decide⟩)

theorem empty_endpoint_dropped :
    IsDeviceEndpoint colonParser knownFingerprint
        [⟨"10.8.0.15:21118".toList, knownFingerprint⟩, ⟨[], knownFingerprint⟩] [] [] ∧
      (connectionCandidatesFrom colonParser "10.8.0.15:21118".toList
        [⟨"10.8.0.15:21118".toList, knownFingerprint⟩, ⟨[], knownFingerprint⟩] []) =
        (some knownFingerprint, ["10.8.0.15:21118".toList]) :=
  ⟨.inl ⟨⟨[], knownFingerprint⟩, by simp, by decide +kernel, rfl⟩, by decide +kernel⟩

end SubnetDesk.Lan
