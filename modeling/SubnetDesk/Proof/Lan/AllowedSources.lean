import Mathlib.Data.Bool.AllAny
import SubnetDesk.Construction.Lan.AllowedNetworks

namespace SubnetDesk.Lan
open Trimming (isWhitespace)

variable {parser : NetworkParser}

/-- Each accepted part is parsed, and its network is printed. -/
theorem normalizeNetworks_ok {parts printed : List Text}
    (accepted : parts.mapM (normalizeNetwork parser) = .ok printed) :
    ∃ networks : List parser.Network, parts.map parser.parse = networks.map some ∧
      printed = networks.map parser.print := by
  induction parts generalizing printed with
  | nil =>
      cases accepted
      exact ⟨[], rfl, rfl⟩
  | cons part parts inductionHypothesis =>
      rw [List.mapM_cons] at accepted
      cases first : normalizeNetwork parser part with
      | error message =>
          rw [first] at accepted
          cases accepted
      | ok text =>
          cases others : parts.mapM (normalizeNetwork parser) with
          | error message =>
              rw [first, others] at accepted
              cases accepted
          | ok texts =>
              rw [first, others] at accepted
              cases accepted
              obtain ⟨networks, parsed, rfl⟩ := inductionHypothesis others
              unfold normalizeNetwork at first
              split at first
              · cases first
              · split at first
                next network found =>
                  cases first
                  exact ⟨network :: networks, by simp [found, parsed], rfl⟩
                next => cases first

/-- A printed network is normal. -/
theorem normalizeNetworks_printed (lawful : parser.Lawful) (networks : List parser.Network) :
    (networks.map parser.print).mapM (normalizeNetwork parser) =
      .ok (networks.map parser.print) := by
  induction networks with
  | nil => rfl
  | cons network networks inductionHypothesis =>
      have first : normalizeNetwork parser (parser.print network) = .ok (parser.print network) := by
        rw [normalizeNetwork, if_neg (not_not.mpr (lawful.slash network)), lawful.parse_print]
      rw [List.map_cons, List.mapM_cons, first, inductionHypothesis]
      rfl

/-- A printed network has no blanks around. -/
theorem trim_printed (lawful : parser.Lawful) (network : parser.Network) :
    trim (parser.print network) = parser.print network := by
  refine Trimming.Trimmed.trim_eq ⟨fun character first => ?_, fun character last => ?_⟩
  · exact (lawful.plain network character (List.mem_of_head? first)).2
  · exact (lawful.plain network character (List.mem_of_getLast? last)).2

theorem printed_ne_nil (lawful : parser.Lawful) (network : parser.Network) :
    parser.print network ≠ [] :=
  List.ne_nil_of_mem (lawful.slash network)

/-- The parts of the joined networks are the networks. -/
theorem settingParts_printed (lawful : parser.Lawful) (networks : List parser.Network) :
    settingParts (List.intercalate [','] (networks.map parser.print)) =
      networks.map parser.print := by
  cases networks with
  | nil => rfl
  | cons network networks =>
      have noComma : ∀ part ∈ (network :: networks).map parser.print, ',' ∉ part := by
        intro part member comma
        obtain ⟨printed, -, rfl⟩ := List.mem_map.mp member
        exact (lawful.plain printed _ comma).1 rfl
      have split := List.splitOn_intercalate ',' noComma (by simp)
      have trimmed : ((network :: networks).map parser.print).map trim =
          (network :: networks).map parser.print := by
        rw [List.map_map]
        exact List.map_congr_left fun printed _ => trim_printed lawful printed
      rw [settingParts, split, trimmed]
      refine List.filter_eq_self.mpr fun part member => ?_
      obtain ⟨printed, -, rfl⟩ := List.mem_map.mp member
      simpa using printed_ne_nil lawful printed

/-- A property of all parts is one of the text. -/
theorem forall_splitOn_iff {property : Char → Prop} (separator : Char) (value : Text) :
    (∀ part ∈ value.splitOn separator, ∀ character ∈ part, property character) ↔
      ∀ character ∈ value, character = separator ∨ property character := by
  induction value with
  | nil => simp
  | cons character value inductionHypothesis =>
      rw [List.splitOn_cons_eq_if_modifyHead, List.forall_mem_cons, ← inductionHypothesis]
      obtain ⟨first, rest, split⟩ := List.exists_cons_of_ne_nil (List.splitOn_ne_nil separator value)
      rw [split]
      by_cases separates : character = separator
      · simp [separates]
      · simp [separates, and_assoc]

/-- A setting that separates only blanks. -/
def OnlySeparators (value : Text) : Prop :=
  ',' ∈ value ∧ ∀ character ∈ value, character = ',' ∨ isWhitespace character = true

/-- Only separators have no parts. -/
theorem settingParts_eq_nil_iff (value : Text) :
    settingParts value = [] ↔
      ∀ character ∈ value, character = ',' ∨ isWhitespace character = true := by
  rw [settingParts, List.filter_eq_nil_iff, ← forall_splitOn_iff, List.forall_mem_map]
  refine forall₂_congr fun part _ => ?_
  rw [decide_eq_true_eq, not_not]
  exact Trimming.trim_eq_nil_iff

theorem configuredNetworks_of_parts {value : Text} (some_ : settingParts value ≠ []) :
    configuredNetworks value = settingParts value := by
  refine if_neg fun blank => some_ ((settingParts_eq_nil_iff value).mpr fun character member => ?_)
  exact .inr (Trimming.trim_eq_nil_iff.mp blank character member)

theorem filterMap_parse {parts : List Text} {networks : List parser.Network}
    (parsed : parts.map parser.parse = networks.map some) :
    parts.filterMap parser.parse = networks := by
  have same := congrArg (List.filterMap id) parsed
  rw [List.filterMap_map, List.filterMap_map] at same
  exact same.trans List.filterMap_some

/-- The stored form of an accepted setting admits the same sources and is stored unchanged. -/
def StoredFaithfully (parser : NetworkParser) (value normalized : Text) : Prop :=
  (∀ ip, sourceAllowedWith parser ip normalized = sourceAllowedWith parser ip value) ∧
    normalizeAllowedNetworks parser normalized = .ok normalized

theorem configuredNetworks_nil : configuredNetworks [] = privateNetworks := rfl

/-- The default admits the own machine. -/
theorem admits_default (lawful : parser.Lawful) :
    sourceAllowedWith parser (.v4 0x7F000001) [] = true := by
  obtain ⟨network, parsed, contains⟩ := lawful.loopback
  refine List.any_eq_true.mpr ⟨network, List.mem_filterMap.mpr ⟨_, ?_, parsed⟩, contains⟩
  rw [configuredNetworks_nil]
  decide

def joined (networks : List parser.Network) : Text :=
  List.intercalate [','] (networks.map parser.print)

/-- An accepted setting is a list of networks. -/
theorem normalize_ok {value normalized : Text}
    (accepted : normalizeAllowedNetworks parser value = .ok normalized) :
    ∃ networks : List parser.Network,
      (settingParts value).map parser.parse = networks.map some ∧ normalized = joined networks := by
  unfold normalizeAllowedNetworks at accepted
  cases parts : (settingParts value).mapM (normalizeNetwork parser) with
  | error message =>
      rw [parts] at accepted
      cases accepted
  | ok printed =>
      rw [parts] at accepted
      cases accepted
      obtain ⟨networks, parsed, rfl⟩ := normalizeNetworks_ok parts
      exact ⟨networks, parsed, rfl⟩

/-- A normalized setting stays. -/
theorem normalize_joined (lawful : parser.Lawful) (networks : List parser.Network) :
    normalizeAllowedNetworks parser (joined networks) = .ok (joined networks) := by
  rw [normalizeAllowedNetworks, joined, settingParts_printed lawful,
    normalizeNetworks_printed lawful]
  rfl

/-- A stored setting admits the same. -/
theorem sourceAllowed_joined (lawful : parser.Lawful) {value : Text}
    {networks : List parser.Network}
    (parsed : (settingParts value).map parser.parse = networks.map some)
    (some_ : settingParts value ≠ []) (ip : SourceIp) :
    sourceAllowedWith parser ip (joined networks) = sourceAllowedWith parser ip value := by
  have stored := settingParts_printed lawful networks
  have printed : settingParts (joined networks) ≠ [] := by
    rw [joined, stored]
    rintro empty
    rw [List.map_eq_nil_iff.mp empty] at parsed
    exact some_ (List.map_eq_nil_iff.mp parsed)
  have read : (networks.map parser.print).filterMap parser.parse = networks :=
    filterMap_parse (by simp [lawful.parse_print])
  rw [sourceAllowedWith, sourceAllowedWith, configuredNetworks_of_parts some_,
    configuredNetworks_of_parts printed, joined, stored, read, filterMap_parse parsed]

/-- Only separators admit nobody. -/
theorem sourceAllowed_separators {value : Text} (separators : OnlySeparators value)
    (ip : SourceIp) : sourceAllowedWith parser ip value = false := by
  have shown : trim value ≠ [] := fun empty =>
    absurd (Trimming.trim_eq_nil_iff.mp empty _ separators.1) (by decide)
  rw [sourceAllowedWith, configuredNetworks, if_neg shown,
    (settingParts_eq_nil_iff value).mpr separators.2]
  rfl

/-- A blank setting stands for the private networks like the empty one. -/
theorem sourceAllowed_blank {value : Text} (none_ : settingParts value = [])
    (separated : ¬ OnlySeparators value) (ip : SourceIp) :
    sourceAllowedWith parser ip value = sourceAllowedWith parser ip [] := by
  have outer := (settingParts_eq_nil_iff value).mp none_
  have blank : trim value = [] := by
    refine Trimming.trim_eq_nil_iff.mpr fun character member => ?_
    obtain rfl | white := outer character member
    · exact absurd ⟨member, outer⟩ separated
    · exact white
  rw [sourceAllowedWith, sourceAllowedWith, configuredNetworks, if_pos blank,
    configuredNetworks_nil]

/-- A setting of separators only admits nothing, and its stored form the private networks. -/
theorem stored_faithfully_iff (lawful : parser.Lawful) (value normalized : Text)
    (accepted : normalizeAllowedNetworks parser value = .ok normalized) :
    StoredFaithfully parser value normalized ↔ ¬ OnlySeparators value := by
  obtain ⟨networks, parsed, rfl⟩ := normalize_ok accepted
  have twice := normalize_joined lawful networks
  by_cases none_ : settingParts value = []
  · rw [none_] at parsed
    obtain rfl : networks = [] := List.map_eq_nil_iff.mp parsed.symm
    constructor
    · intro faithful separators
      have same := faithful.1 (.v4 0x7F000001)
      rw [sourceAllowed_separators separators] at same
      exact absurd ((admits_default lawful).symm.trans same) (by decide)
    · exact fun separated => ⟨fun ip => (sourceAllowed_blank none_ separated ip).symm, twice⟩
  · exact iff_of_true ⟨sourceAllowed_joined lawful parsed none_, twice⟩ fun separators =>
      none_ ((settingParts_eq_nil_iff value).mpr separators.2)

/-- A parser of the networks that stand below. -/
def subnetParser : NetworkParser where
  Network := Bool
  parse := fun text =>
    if text = "127.0.0.0/8".toList then some true
    else if text = "192.168.0.0/16".toList then some false
    else none
  print := fun network => if network then "127.0.0.0/8".toList else "192.168.0.0/16".toList
  contains := fun network ip =>
    match ip with
    | .v4 bits => if network then bits.extractLsb' 24 8 = 127 else bits.extractLsb' 16 16 = 0xC0A8
    | .v6 _ => false

theorem subnetParser_lawful : subnetParser.Lawful where
  parse_print := fun network => match network with
    | true => rfl
    | false => rfl
  slash := fun network => match network with
    | true => by decide
    | false => by decide
  plain := fun network => match network with
    | true => List.all_iff_forall_prop.mp (by decide)
    | false => List.all_iff_forall_prop.mp (by decide)
  loopback := ⟨true, rfl, rfl⟩

theorem stored_faithfully_iff_subnet :
    StoredFaithfully subnetParser " 192.168.0.0/16, ".toList "192.168.0.0/16".toList :=
  (stored_faithfully_iff subnetParser_lawful _ _ (by rfl)).mpr (by
    rintro ⟨-, separators⟩
    exact absurd (separators '1' (by decide)) (by decide))

/-- A comma alone admits no source, but it is stored as the setting of the private networks. -/
theorem comma_widens :
    ∃ normalized ip, normalizeAllowedNetworks subnetParser [','] = .ok normalized ∧
      sourceAllowedWith subnetParser ip [','] = false ∧
      sourceAllowedWith subnetParser ip normalized = true :=
  ⟨[], .v4 0x7F000001, rfl, by decide, by decide⟩

end SubnetDesk.Lan
