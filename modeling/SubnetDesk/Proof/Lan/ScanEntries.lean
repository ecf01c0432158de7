import SubnetDesk.Construction.Lan.Discovery

namespace SubnetDesk.Lan

theorem lookup_filter_kept {map : List (Text × Text)} (keep : Text → Bool) {key : Text}
    (kept : keep key = true) : (map.filter fun entry => keep entry.1).lookup key = map.lookup key := by
  induction map with
  | nil => rfl
  | cons entry rest ih =>
      obtain ⟨name, value⟩ := entry
      by_cases same : key = name
      · subst same
        simp [kept]
      · have differs : (key == name) = false := by simpa using same
        rw [List.filter_cons]
        split
        next => simp only [List.lookup_cons, differs, ih]
        next => simp only [List.lookup_cons, differs, ih]

theorem any_key_iff {map : List (Text × Text)} {key : Text} :
    (map.any fun entry => entry.1 == key) = true ↔ map.lookup key ≠ none := by
  rw [Ne, List.lookup_eq_none_iff]
  simp only [List.any_eq_true, beq_iff_eq, bne_iff_ne, not_forall, not_not]
  constructor
  · rintro ⟨entry, member, same⟩
    exact ⟨entry, member, same.symm⟩
  · rintro ⟨entry, member, same⟩
    exact ⟨entry, member, same.symm⟩

/-- The second map wins. -/
theorem lookup_extendMap (map other : List (Text × Text)) (key : Text) :
    (extendMap map other).lookup key = (other.lookup key).or (map.lookup key) := by
  rw [extendMap, List.lookup_append]
  cases found : other.lookup key with
  | some value => rfl
  | none =>
      have missing : (!(other.any fun entry => entry.1 == key)) = true := by
        rw [Bool.not_eq_true', Bool.eq_false_iff, Ne, any_key_iff]
        exact fun present => present found
      rw [lookup_filter_kept (fun name => !(other.any fun entry => entry.1 == name)) missing]

/-- A host without an entry gets an empty one. -/
theorem lookup_orDefault (map : List (Text × Text)) (host key : Text) :
    (orDefault map host).lookup key =
      (map.lookup key).or (if host = key then some [] else none) := by
  unfold orDefault
  by_cases same : host = key
  · subst same
    cases found : map.lookup host with
    | some value =>
        rw [if_pos (any_key_iff.mpr (by rw [found]; exact Option.some_ne_none value)), found]
        rfl
    | none =>
        rw [if_neg fun present => any_key_iff.mp present found]
        simp
  · have differs : (key == host) = false := by simpa using Ne.symm same
    rw [if_neg same, Option.or_none]
    split
    next => rfl
    next => simp only [List.lookup_cons, differs]

section Entries

variable {Presence : Type} (context : ScanContext Presence)

/-- The entry of an address in the list, under the first peer with the fingerprint. -/
def entryOf (peers : List (StoredPeer Presence)) (fingerprint address : Text) : Option Text :=
  (peers.find? fun peer => peer.fingerprint == fingerprint).bind fun peer =>
    peer.ipMac.lookup address

/-- The address of the stored endpoint of a peer. -/
def hostOf (peers : List (StoredPeer Presence)) (fingerprint : Text) : Option Text :=
  (peers.find? fun peer => peer.fingerprint == fingerprint).bind fun peer =>
    endpointAddress context peer.endpoint

/-- What a response gives an address that has no entry: the reported address, or an empty one where
the address is the one of the known endpoint. -/
def reportOf (host : Option Text) (peer : StoredPeer Presence) (address : Text) : Option Text :=
  (peer.ipMac.lookup address).or (if host = some address then some [] else none)

theorem find?_eraseP_other {peers : List (StoredPeer Presence)} {first second : Text}
    (differ : first ≠ second) :
    (peers.eraseP fun peer => peer.fingerprint == first).find?
        (fun peer => peer.fingerprint == second) =
      peers.find? fun peer => peer.fingerprint == second := by
  induction peers with
  | nil => rfl
  | cons peer rest ih =>
      rw [List.eraseP_cons]
      by_cases same : peer.fingerprint = first
      · have other : (peer.fingerprint == second) = false := by
          rw [same]
          simpa using differ
        simp [same, differ]
      · have kept : (peer.fingerprint == first) = false := by simpa using same
        rw [kept]
        simp only [cond_false, List.find?_cons]
        rw [ih]

variable (scan : Scan Presence) (arrival : Int × StoredPeer Presence)

/-- A response changes its own peer only. -/
theorem Scan.receive_other {fingerprint : Text} (other : arrival.2.fingerprint ≠ fingerprint) :
    (scan.receive context arrival).peers.find? (fun peer => peer.fingerprint == fingerprint) =
      scan.peers.find? fun peer => peer.fingerprint == fingerprint := by
  have differs : (arrival.2.fingerprint == fingerprint) = false := by simpa using other
  unfold receive
  dsimp only
  split
  next known _ =>
    simp only [List.find?_cons, StoredPeer.merge, differs, StoredPeer.isSamePeer]
    exact find?_eraseP_other other
  next => simp only [List.find?_cons, differs]

/-- An entry that is there stays. -/
theorem Scan.receive_entry (address : Text) :
    entryOf (scan.receive context arrival).peers arrival.2.fingerprint address =
      (entryOf scan.peers arrival.2.fingerprint address).or
        (reportOf (hostOf context scan.peers arrival.2.fingerprint) arrival.2 address) := by
  unfold receive entryOf hostOf reportOf
  dsimp only [StoredPeer.isSamePeer]
  split
  next known found =>
    simp only [List.find?_cons, StoredPeer.merge, beq_self_eq_true, Option.bind_some,
      lookup_extendMap, found]
    congr 1
    cases endpointAddress context known.endpoint with
    | none => simp
    | some host => simp [lookup_orDefault]
  next missing => simp [missing]

/-- The host is that of the last response. -/
theorem Scan.receive_host :
    hostOf context (scan.receive context arrival).peers arrival.2.fingerprint =
      endpointAddress context arrival.2.endpoint := by
  unfold receive hostOf
  dsimp only [StoredPeer.isSamePeer]
  split
  next known _ => simp [StoredPeer.merge]
  next => simp

/-- A response lists the address of its endpoint. -/
def ListsHost (peer : StoredPeer Presence) : Prop :=
  ∀ address, endpointAddress context peer.endpoint = some address →
    (peer.ipMac.lookup address).isSome

/-- The arrivals of one peer. -/
def responsesOf (fingerprint : Text) (arrivals : List (Int × StoredPeer Presence)) :
    List (StoredPeer Presence) :=
  (arrivals.map Prod.snd).filter fun peer => peer.fingerprint == fingerprint

/-- The first entry that an address has stays. -/
theorem Scan.receiveAll_entry {arrivals : List (Int × StoredPeer Presence)}
    (listed : ∀ arrival ∈ arrivals, ListsHost context arrival.2) (fingerprint address : Text) :
    entryOf (scan.receiveAll context arrivals).peers fingerprint address =
      (entryOf scan.peers fingerprint address).or
        ((responsesOf fingerprint arrivals).findSome? fun peer =>
          reportOf (hostOf context scan.peers fingerprint) peer address) := by
  induction arrivals generalizing scan with
  | nil => simp [receiveAll, responsesOf]
  | cons arrival rest ih =>
      have later := ih (scan.receive context arrival)
        fun arrival member => listed arrival (List.mem_cons_of_mem _ member)
      rw [show scan.receiveAll context (arrival :: rest) =
        (scan.receive context arrival).receiveAll context rest from rfl, later]
      by_cases same : arrival.2.fingerprint = fingerprint
      · subst same
        rw [receive_entry, receive_host, Option.or_assoc]
        congr 1
        rw [show responsesOf arrival.2.fingerprint (arrival :: rest) =
          arrival.2 :: responsesOf arrival.2.fingerprint rest from by simp [responsesOf]]
        rw [List.findSome?_cons]
        cases reported : reportOf (hostOf context scan.peers arrival.2.fingerprint) arrival.2
            address with
        | some value => rfl
        | none =>
            rw [Option.none_or]
            rw [reportOf, Option.or_eq_none_iff] at reported
            obtain ⟨unlisted, elsewhere⟩ := reported
            have away : endpointAddress context arrival.2.endpoint ≠ some address := by
              intro host
              have present := listed arrival (List.mem_cons_self ..) address host
              rw [unlisted] at present
              cases present
            have before : hostOf context scan.peers arrival.2.fingerprint ≠ some address := by
              intro host
              rw [if_pos host] at elsewhere
              cases elsewhere
            simp only [reportOf, if_neg away, if_neg before]
      · unfold entryOf hostOf
        rw [receive_other context scan arrival same]
        congr 2
        simp [responsesOf, same]

/-- Some peer of the list with the fingerprint has the address. -/
def Listed (peers : List (StoredPeer Presence)) (fingerprint address : Text) : Prop :=
  ∃ peer ∈ peers, peer.fingerprint = fingerprint ∧ (peer.ipMac.lookup address).isSome

/-- A merge keeps the addresses of both. -/
theorem StoredPeer.merge_listed {peer known : StoredPeer Presence} {address : Text}
    (listed : (peer.ipMac.lookup address).isSome ∨ (known.ipMac.lookup address).isSome) :
    ((peer.merge context known).ipMac.lookup address).isSome := by
  rw [merge, lookup_extendMap, Option.isSome_or]
  cases listed with
  | inr old => rw [old, Bool.true_or]
  | inl fresh =>
      cases endpointAddress context known.endpoint with
      | none =>
          rw [Option.elim_none, fresh, Bool.or_true]
      | some host =>
          rw [Option.elim_some, lookup_orDefault, Option.isSome_or, fresh, Bool.true_or,
            Bool.or_true]

/-- A response loses no address. -/
theorem Scan.receive_keeps {fingerprint address : Text}
    (listed : Listed scan.peers fingerprint address) :
    Listed (scan.receive context arrival).peers fingerprint address := by
  obtain ⟨peer, member, same, present⟩ := listed
  unfold receive
  dsimp only [StoredPeer.isSamePeer]
  split
  next known found =>
    obtain ⟨matching, before, after, split, distinct⟩ := List.find?_eq_some_iff_append.mp found
    have erased : scan.peers.eraseP (fun peer => peer.fingerprint == arrival.2.fingerprint) =
        before ++ after := by
      rw [split, List.eraseP_append_right, List.eraseP_cons, matching]
      · rfl
      · intro other early
        simpa using distinct other early
    rw [erased]
    rw [split, List.mem_append, List.mem_cons] at member
    rcases member with early | here | late
    · exact ⟨peer, by simp [early], same, present⟩
    · subst here
      refine ⟨_, List.mem_cons_self .., ?_, StoredPeer.merge_listed context (.inr present)⟩
      exact (beq_iff_eq.mp matching).symm.trans same
    · exact ⟨peer, by simp [late], same, present⟩
  next => exact ⟨peer, List.mem_cons_of_mem _ member, same, present⟩

/-- A response adds its addresses. -/
theorem Scan.receive_lists {address : Text} (present : (arrival.2.ipMac.lookup address).isSome) :
    Listed (scan.receive context arrival).peers arrival.2.fingerprint address := by
  unfold receive
  dsimp only [StoredPeer.isSamePeer]
  split
  next known _ =>
    exact ⟨_, List.mem_cons_self .., rfl, StoredPeer.merge_listed context (.inl present)⟩
  next => exact ⟨_, List.mem_cons_self .., rfl, present⟩

/-- The responses lose no address. -/
theorem Scan.receiveAll_keeps {arrivals : List (Int × StoredPeer Presence)}
    {fingerprint address : Text} (listed : Listed scan.peers fingerprint address) :
    Listed (scan.receiveAll context arrivals).peers fingerprint address := by
  induction arrivals generalizing scan with
  | nil => exact listed
  | cons arrival rest ih => exact ih _ (scan.receive_keeps context arrival listed)

/-- Every response adds its addresses. -/
theorem Scan.receiveAll_lists {arrivals : List (Int × StoredPeer Presence)}
    (member : arrival ∈ arrivals) {address : Text}
    (present : (arrival.2.ipMac.lookup address).isSome) :
    Listed (scan.receiveAll context arrivals).peers arrival.2.fingerprint address := by
  induction arrivals generalizing scan with
  | nil => cases member
  | cons first rest ih =>
      cases member with
      | head =>
          exact Scan.receiveAll_keeps context (scan.receive context arrival)
            (scan.receive_lists context arrival present)
      | tail _ later => exact ih _ later

section Stored

variable (now : Int) (stored : List (StoredPeer Presence))
  (arrivals : List (Int × StoredPeer Presence))

/-- The stored entries are those of the scan. -/
theorem handleReceivedPeers_entry (fingerprint address : Text) :
    entryOf (handleReceivedPeers context now stored arrivals) fingerprint address =
      entryOf (Scan.receiveAll context ⟨stored, []⟩ arrivals).peers fingerprint address := by
  unfold handleReceivedPeers entryOf
  dsimp only
  rw [List.find?_map, Option.bind_map]
  congr 1
  · congr 1
    funext peer
    dsimp only [Function.comp_apply]
    split
    next => rfl
    next => rfl
  · funext peer
    dsimp only [Function.comp_apply]
    split
    next => rfl
    next => rfl

/-- The stored addresses are those of the scan. -/
theorem handleReceivedPeers_listed {fingerprint address : Text}
    (listed : Listed (Scan.receiveAll context ⟨stored, []⟩ arrivals).peers fingerprint address) :
    Listed (handleReceivedPeers context now stored arrivals) fingerprint address := by
  obtain ⟨peer, member, same, present⟩ := listed
  refine ⟨_, List.mem_map_of_mem member, ?_, ?_⟩
  · split
    next => exact same
    next => exact same
  · split
    next => exact present
    next => exact present

/-- What a scan promises about the stored list and about every list on the way to it. -/
structure ExactScan : Prop where
  reported : ∀ arrival ∈ arrivals, ∀ address mac, arrival.2.ipMac.lookup address = some mac →
    mac ≠ [] → entryOf (handleReceivedPeers context now stored arrivals) arrival.2.fingerprint
      address = some mac
  newest : ∀ arrived, arrived <+: arrivals → ∀ arrival ∈ arrived, ∀ address mac,
    arrival.2.ipMac.lookup address = some mac → mac ≠ [] →
      entryOf (Scan.receiveAll context ⟨stored, []⟩ arrived).peers arrival.2.fingerprint
        address = some mac
  anyOrder : ∀ later others, (others.map Prod.snd).Perm (arrivals.map Prod.snd) →
    ∀ fingerprint address,
      entryOf (handleReceivedPeers context later stored others) fingerprint address =
        entryOf (handleReceivedPeers context now stored arrivals) fingerprint address
  kept : ∀ peer ∈ stored ++ arrivals.map Prod.snd, ∀ address,
    (peer.ipMac.lookup address).isSome →
      Listed (handleReceivedPeers context now stored arrivals) peer.fingerprint address

end Stored

/-- Wherever a response reports an address of a network card, the stored entry has it already, or
there is no entry and no response of the peer gives the address another value. -/
def AgreeingScan (stored responses : List (StoredPeer Presence)) : Prop :=
  ∀ peer ∈ responses, ∀ address mac, peer.ipMac.lookup address = some mac → mac ≠ [] →
    entryOf stored peer.fingerprint address = some mac ∨
      (entryOf stored peer.fingerprint address = none ∧
        ∀ other ∈ responses, other.fingerprint = peer.fingerprint →
          other.ipMac.lookup address = some mac ∨
            (other.ipMac.lookup address = none ∧
              hostOf context stored peer.fingerprint ≠ some address))

theorem findSome?_single {Item Value : Type} {items : List Item} {read : Item → Option Value}
    {value : Value} (single : ∀ item ∈ items, read item = none ∨ read item = some value) :
    items.findSome? read = some value ↔ ∃ item ∈ items, read item = some value := by
  induction items with
  | nil => simp
  | cons item rest ih =>
      have later := ih fun item member => single item (List.mem_cons_of_mem _ member)
      rw [List.findSome?_cons]
      cases single item (List.mem_cons_self ..) with
      | inl unread => simp [unread, later]
      | inr read => simp [read]

theorem findSome?_perm {Item Value : Type} {items others : List Item}
    {read : Item → Option Value} {value : Value} (order : items.Perm others)
    (single : ∀ item ∈ items, read item = none ∨ read item = some value) :
    items.findSome? read = others.findSome? read := by
  have same : ∀ item ∈ others, read item = none ∨ read item = some value :=
    fun item member => single item (order.mem_iff.mpr member)
  cases found : others.findSome? read with
  | none =>
      rw [List.findSome?_eq_none_iff] at found ⊢
      exact fun item member => found item (order.mem_iff.mp member)
  | some other =>
      obtain ⟨item, member, reads⟩ := List.exists_of_findSome?_eq_some found
      have here := order.mem_iff.mpr member
      have known : other = value := by
        cases single item here with
        | inl unread => rw [unread] at reads; cases reads
        | inr valued => exact Option.some.inj (reads.symm.trans valued)
      subst known
      exact (findSome?_single single).mpr ⟨item, here, reads⟩

section Agreement

variable {stored responses : List (StoredPeer Presence)}

theorem mem_responsesOf {arrivals : List (Int × StoredPeer Presence)} {fingerprint : Text}
    {peer : StoredPeer Presence} :
    peer ∈ responsesOf fingerprint arrivals ↔
      peer ∈ arrivals.map Prod.snd ∧ peer.fingerprint = fingerprint := by
  rw [responsesOf, List.mem_filter, beq_iff_eq]

/-- Responses that agree leave one value for an address without an entry. -/
theorem AgreeingScan.single (agrees : AgreeingScan context stored responses)
    {fingerprint address : Text} (missing : entryOf stored fingerprint address = none) :
    ∃ value, ∀ peer ∈ responses, peer.fingerprint = fingerprint →
      reportOf (hostOf context stored fingerprint) peer address = none ∨
        reportOf (hostOf context stored fingerprint) peer address = some value := by
  by_cases cards : ∃ peer ∈ responses, peer.fingerprint = fingerprint ∧
      ∃ mac, peer.ipMac.lookup address = some mac ∧ mac ≠ []
  · obtain ⟨peer, member, same, mac, lookup, filled⟩ := cards
    subst same
    have agreed := agrees peer member address mac lookup filled
    rw [missing] at agreed
    obtain impossible | ⟨-, others⟩ := agreed
    · cases impossible
    refine ⟨mac, ?_⟩
    intro other here same
    cases others other here same with
    | inl equal => exact .inr (by rw [reportOf, equal]; rfl)
    | inr silent =>
        left
        rw [reportOf, silent.1, if_neg silent.2]
        rfl
  · refine ⟨[], ?_⟩
    intro peer member same
    unfold reportOf
    cases lookup : peer.ipMac.lookup address with
    | some mac =>
        right
        by_cases filled : mac = []
        · rw [filled]
          rfl
        · exact absurd ⟨peer, member, same, mac, lookup, filled⟩ cards
    | none =>
        rw [Option.none_or]
        split
        next => exact .inr rfl
        next => exact .inl rfl

/-- Agreeing responses give every entry. -/
theorem AgreeingScan.entry (agrees : AgreeingScan context stored responses)
    {arrived : List (Int × StoredPeer Presence)}
    (listed : ∀ arrival ∈ arrived, ListsHost context arrival.2)
    (sent : ∀ arrival ∈ arrived, arrival.2 ∈ responses) {arrival : Int × StoredPeer Presence}
    (member : arrival ∈ arrived) {address mac : Text}
    (lookup : arrival.2.ipMac.lookup address = some mac) (filled : mac ≠ []) :
    entryOf (Scan.receiveAll context ⟨stored, []⟩ arrived).peers arrival.2.fingerprint address =
      some mac := by
  rw [Scan.receiveAll_entry context _ listed]
  cases agrees arrival.2 (sent arrival member) address mac lookup filled with
  | inl known =>
      rw [known]
      rfl
  | inr fresh =>
      obtain ⟨missing, others⟩ := fresh
      rw [missing, Option.none_or]
      apply (findSome?_single ?_).mpr
      · refine ⟨arrival.2, ?_, by rw [reportOf, lookup]; rfl⟩
        rw [mem_responsesOf]
        exact ⟨List.mem_map_of_mem member, rfl⟩
      · intro other here
        rw [mem_responsesOf, List.mem_map] at here
        obtain ⟨⟨sender, early, rfl⟩, same⟩ := here
        cases others sender.2 (sent sender early) same with
        | inl equal => exact .inr (by rw [reportOf, equal]; rfl)
        | inr silent =>
            left
            rw [reportOf, silent.1, if_neg silent.2]
            rfl

/-- Agreeing responses make an exact scan. -/
theorem AgreeingScan.exact (agrees : AgreeingScan context stored responses)
    (listed : ∀ peer ∈ responses, ListsHost context peer) (now : Int)
    {arrivals : List (Int × StoredPeer Presence)} (order : (arrivals.map Prod.snd).Perm responses) :
    ExactScan context now stored arrivals := by
  have sent {arrivals : List (Int × StoredPeer Presence)}
      (order : (arrivals.map Prod.snd).Perm responses) :
      ∀ arrival ∈ arrivals, arrival.2 ∈ responses :=
    fun arrival member => order.mem_iff.mp (List.mem_map_of_mem member)
  have hosts {arrivals : List (Int × StoredPeer Presence)}
      (order : (arrivals.map Prod.snd).Perm responses) :
      ∀ arrival ∈ arrivals, ListsHost context arrival.2 :=
    fun arrival member => listed arrival.2 (sent order arrival member)
  constructor
  · intro arrival member address mac lookup filled
    rw [handleReceivedPeers_entry]
    exact agrees.entry context (hosts order) (sent order) member lookup filled
  · intro arrived before arrival member address mac lookup filled
    have inside : ∀ arrival ∈ arrived, arrival ∈ arrivals :=
      fun arrival here => before.subset here
    exact agrees.entry context (fun arrival here => hosts order arrival (inside arrival here))
      (fun arrival here => sent order arrival (inside arrival here)) member lookup filled
  · intro later others reordered fingerprint address
    have others_order := reordered.trans order
    rw [handleReceivedPeers_entry, handleReceivedPeers_entry,
      Scan.receiveAll_entry context _ (hosts order),
      Scan.receiveAll_entry context _ (hosts others_order)]
    cases missing : entryOf stored fingerprint address with
    | some value => rfl
    | none =>
        rw [Option.none_or, Option.none_or]
        obtain ⟨value, single⟩ := agrees.single context missing
        apply findSome?_perm (reordered.filter _)
        intro peer member
        rw [← responsesOf, mem_responsesOf] at member
        exact single peer (others_order.mem_iff.mp member.1) member.2
  · intro peer member address present
    apply handleReceivedPeers_listed
    rw [List.mem_append, List.mem_map] at member
    rcases member with old | ⟨arrival, here, rfl⟩
    · exact Scan.receiveAll_keeps context _ ⟨peer, old, rfl, present⟩
    · exact Scan.receiveAll_lists context _ arrival here present

/-- Every response can arrive first, and the first value stays. -/
theorem entry_arriving_first (listed : ∀ peer ∈ responses, ListsHost context peer)
    {peer : StoredPeer Presence} (member : peer ∈ responses) :
    ∃ arrivals : List (Int × StoredPeer Presence), (arrivals.map Prod.snd).Perm responses ∧
      ∀ address value, (entryOf stored peer.fingerprint address).or
          (reportOf (hostOf context stored peer.fingerprint) peer address) = some value →
        entryOf (handleReceivedPeers context 0 stored arrivals) peer.fingerprint address =
          some value := by
  obtain ⟨before, after, rfl⟩ := List.append_of_mem member
  refine ⟨(peer :: (before ++ after)).map fun peer => (0, peer), ?_, ?_⟩
  · rw [List.map_map]
    simpa [Function.comp_def] using List.perm_middle.symm
  · intro address value first
    rw [handleReceivedPeers_entry, Scan.receiveAll_entry]
    · rw [show responsesOf peer.fingerprint ((peer :: (before ++ after)).map fun peer =>
          ((0 : Int), peer)) = peer :: responsesOf peer.fingerprint ((before ++ after).map
            fun peer => ((0 : Int), peer)) from by simp [responsesOf],
        List.findSome?_cons]
      rw [Option.or_eq_some_iff] at first
      rcases first with known | ⟨missing, reported⟩
      · rw [known]
        rfl
      · rw [missing, reported]
        rfl
    · intro arrival here
      obtain ⟨other, there, rfl⟩ := List.mem_map.mp here
      apply listed
      simp only [List.mem_cons, List.mem_append] at there ⊢
      tauto

/-- The responses of an exact scan agree. -/
theorem agreeing_of_exact (listed : ∀ peer ∈ responses, ListsHost context peer)
    (exact : ∀ now arrivals, (arrivals.map Prod.snd).Perm responses →
      ExactScan context now stored arrivals) : AgreeingScan context stored responses := by
  intro peer member address mac lookup filled
  have final {arrivals : List (Int × StoredPeer Presence)}
      (order : (arrivals.map Prod.snd).Perm responses) :
      entryOf (handleReceivedPeers context 0 stored arrivals) peer.fingerprint address =
        some mac := by
    obtain ⟨arrival, here, same⟩ := List.mem_map.mp (order.mem_iff.mpr member)
    subst same
    exact (exact 0 arrivals order).reported arrival here address mac lookup filled
  have unique {other : StoredPeer Presence} (here : other ∈ responses)
      (same : other.fingerprint = peer.fingerprint) {value : Text}
      (first : (entryOf stored peer.fingerprint address).or
        (reportOf (hostOf context stored peer.fingerprint) other address) = some value) :
      value = mac := by
    obtain ⟨arrivals, order, entry⟩ := entry_arriving_first context listed here
    rw [same] at entry
    exact Option.some.inj ((entry address value first).symm.trans (final order))
  cases known : entryOf stored peer.fingerprint address with
  | some value =>
      left
      exact congrArg some (unique member rfl (by rw [known]; rfl))
  | none =>
      right
      refine ⟨rfl, ?_⟩
      intro other here same
      cases reported : other.ipMac.lookup address with
      | some value =>
          left
          exact congrArg some (unique here same (by rw [known, reportOf, reported]; rfl))
      | none =>
          right
          refine ⟨rfl, ?_⟩
          intro host
          apply filled
          symm
          apply unique here same
          rw [known, reportOf, reported, if_pos host]
          rfl

end Agreement

/-- A formatted address is parsed back into itself, where its host is read as an address at all. -/
def ReadsAddresses (parser : EndpointParser) : Prop :=
  ∀ port address endpoint, parser.parse (formatAddress port address) = some endpoint →
    (parser.parseIp endpoint.host).isSome → endpoint.host = address.display

/-- A formatted address is read back. -/
theorem endpointAddress_format (reads : ReadsAddresses context.parser) {port : UInt16}
    {address : IpAddr} {host : Text}
    (found : endpointAddress context (formatAddress port address) = some host) :
    host = address.display := by
  rw [endpointAddress, Option.filter_eq_some_iff, Option.map_eq_some_iff] at found
  obtain ⟨⟨endpoint, parsed, rfl⟩, isAddress⟩ := found
  exact reads port address endpoint parsed isAddress

/-- A response lists its own host. -/
theorem Responds.listsHost (reads : ReadsAddresses context.parser) {peer : StoredPeer Presence}
    (responds : Responds context peer) : ListsHost context peer := by
  intro host found
  rcases responds with ⟨localMac, address, answer, sent⟩ |
    ⟨localFingerprint, port, addresses, properties, sent⟩
  · unfold waitResponse at sent
    split at sent
    next => cases sent
    next =>
      split at sent
      next =>
        cases sent
        rw [endpointAddress_format context reads found]
        simp
      next => cases sent
  · unfold peerFromMdnsFields at sent
    split at sent
    next => cases sent
    next =>
      split at sent
      next => cases sent
      next =>
        split at sent
        next => cases sent
        next =>
          split at sent
          next => cases sent
          next primary others _ =>
            cases sent
            rw [endpointAddress_format context reads found]
            simp

/-- In every order of arrival a scan stores the reported addresses exactly when its responses agree
with each other and with what is stored. -/
theorem scan_exact_iff (reads : ReadsAddresses context.parser)
    (stored responses : List (StoredPeer Presence))
    (responded : ∀ peer ∈ responses, Responds context peer) :
    (∀ now arrivals, (arrivals.map Prod.snd).Perm responses →
        ExactScan context now stored arrivals) ↔ AgreeingScan context stored responses := by
  have listed : ∀ peer ∈ responses, ListsHost context peer :=
    fun peer member => (responded peer member).listsHost context reads
  constructor
  · exact agreeing_of_exact context listed
  · intro agrees now arrivals order
    exact agrees.exact context listed now order

end Entries

/-- A parser that reads the part in front of the last colon, and addresses of digits and dots. -/
def dottedParser : EndpointParser where
  parse text :=
    match text.reverse.dropWhile (· != ':') with
    | _ :: host => some ⟨text, host.reverse, 21118⟩
    | [] => none
  defaultPort := 21118
  parseIp text := if text.all fun char => char.isDigit || char == '.' then some (.v4 text) else none

/-- The sample parser reads addresses. -/
theorem dottedParser_reads : ReadsAddresses dottedParser := by
  have digits (port : UInt16) : ∀ char ∈ (toString port.toNat).toList.reverse,
      (char != ':') = true := by
    intro char member
    rw [List.mem_reverse, Nat.toString_eq_repr, Nat.toList_repr] at member
    have digit := Nat.isDigit_of_mem_toDigits (by decide) (by decide) member
    rw [bne_iff_ne]
    rintro rfl
    cases digit
  have host (port : UInt16) (front : Text) :
      (front ++ ':' :: (toString port.toNat).toList).reverse.dropWhile (· != ':') =
        ':' :: front.reverse := by
    rw [List.reverse_append, List.reverse_cons, List.append_assoc,
      List.dropWhile_append_of_pos (digits port)]
    rfl
  intro port address endpoint parsed isAddress
  cases address with
  | v4 display =>
      simp only [dottedParser, formatAddress, host, List.reverse_reverse] at parsed
      cases parsed
      rfl
  | v6 display =>
      have split : formatAddress port (.v6 display) =
          ('[' :: display ++ [']']) ++ ':' :: (toString port.toNat).toList := by
        simp [formatAddress]
      simp only [dottedParser, split, host, List.reverse_reverse] at parsed
      cases parsed
      simp [dottedParser] at isAddress

def sampleContext : ScanContext Bool where
  parser := dottedParser
  protocolVersion := 3
  online := true
  markSeen _ _ := true
  markMissed _ _ := false
  connectable _ := true
  precedes _ _ := true

def sampleAddress : IpAddr := .v4 "192.168.1.9".toList

def sampleMac : Text := "3c:52:82:00:00:01".toList

def sampleFingerprint : Text := List.replicate 64 'a'

/-- The answer of a device over UDP. -/
def answeringPeer : StoredPeer Bool where
  id := formatAddress 21118 sampleAddress
  endpoint := formatAddress 21118 sampleAddress
  fingerprint := sampleFingerprint
  ipMac := [("192.168.1.9".toList, sampleMac)]
  deviceType := "laptop".toList
  presence := true

/-- The announcement of the same device. -/
def announcedPeer : StoredPeer Bool := { answeringPeer with ipMac := [("192.168.1.9".toList, [])] }

theorem answeringPeer_responds : Responds sampleContext answeringPeer := by
  left
  refine ⟨[], sampleAddress, ⟨"pong".toList, sampleFingerprint, sampleMac, some 21118,
    "laptop".toList⟩, ?_⟩
  rfl

theorem announcedPeer_responds : Responds sampleContext announcedPeer := by
  right
  refine ⟨[], 21118, [sampleAddress], ⟨some 3, some sampleFingerprint, "laptop".toList⟩, ?_⟩
  have sorted : ([sampleAddress].filter sampleContext.connectable).mergeSort
      sampleContext.precedes = [sampleAddress] := List.mergeSort_singleton sampleAddress
  unfold peerFromMdnsFields
  rw [sorted]
  rfl

def secondAddress : IpAddr := .v4 "192.168.1.23".toList

/-- The answer of another device. -/
def secondPeer : StoredPeer Bool where
  id := formatAddress 21118 secondAddress
  endpoint := formatAddress 21118 secondAddress
  fingerprint := List.replicate 64 'b'
  ipMac := [("192.168.1.23".toList, "3c:52:82:00:00:02".toList)]
  deviceType := "desktop".toList
  presence := true

theorem secondPeer_responds : Responds sampleContext secondPeer := by
  left
  refine ⟨[], secondAddress, ⟨"pong".toList, List.replicate 64 'b', "3c:52:82:00:00:02".toList,
    some 21118, "desktop".toList⟩, ?_⟩
  rfl

/-- Two devices answer, and the first one answers again. -/
theorem scan_exact_answering :
    ExactScan sampleContext 0 [] [(0, secondPeer), (1, answeringPeer), (2, secondPeer)] := by
  have apart : answeringPeer.fingerprint ≠ secondPeer.fingerprint := by decide +kernel
  have agrees : AgreeingScan sampleContext [] [answeringPeer, secondPeer, secondPeer] := by
    intro peer member address mac lookup filled
    right
    refine ⟨rfl, fun other here same => .inl ?_⟩
    have one : other = peer := by
      simp only [List.mem_cons, List.not_mem_nil, or_false, or_self] at member here
      obtain rfl | rfl := member
      · exact here.resolve_right fun second => apart (second ▸ same).symm
      · exact here.resolve_left fun first => apart (first ▸ same)
    rw [one]
    exact lookup
  apply (scan_exact_iff sampleContext dottedParser_reads []
    [answeringPeer, secondPeer, secondPeer] ?_).mpr agrees
  · exact List.Perm.swap _ _ _
  · intro peer member
    simp only [List.mem_cons, List.not_mem_nil, or_false, or_self] at member
    obtain rfl | rfl := member
    · exact answeringPeer_responds
    · exact secondPeer_responds

/-- An announcement that arrives first leaves an empty entry for the reported address, which the
other order keeps. -/
theorem announcement_hides_answer :
    Responds sampleContext answeringPeer ∧ Responds sampleContext announcedPeer ∧
      answeringPeer.ipMac.lookup "192.168.1.9".toList = some sampleMac ∧
      entryOf (handleReceivedPeers sampleContext 2 [] [(0, announcedPeer), (1, answeringPeer)])
        sampleFingerprint "192.168.1.9".toList = some [] ∧
      entryOf (handleReceivedPeers sampleContext 2 [] [(0, answeringPeer), (1, announcedPeer)])
        sampleFingerprint "192.168.1.9".toList = some sampleMac := by
  refine ⟨answeringPeer_responds, announcedPeer_responds, by decide, ?_, ?_⟩
  · decide +kernel
  · decide +kernel

end SubnetDesk.Lan
