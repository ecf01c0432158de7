import SubnetDesk.Construction.Lan.Handshake

namespace SubnetDesk.Lan

open Symbolic

variable {lan : LanProtocol} {honest : Nat → Prop} {network : Network}

theorem LanProtocol.size_positive (lan : LanProtocol) (atom : Atom) : 0 < lan.size atom := by
  cases atom with
  | nonce id => exact lan.nonceLenPositive
  | byte value => exact Nat.one_pos
  | key id => exact Nat.succ_pos 31
  | boxPublic id => exact Nat.succ_pos 31
  | signPublic id => exact Nat.succ_pos 31

/-- A transcript has nonces of one length. -/
theorem transcript_ok {clientNonce serverNonce ephemeral signed : Word}
    (made : transcript lan clientNonce serverNonce ephemeral = .ok signed) :
    lan.len clientNonce = lan.nonceLen ∧ lan.len serverNonce = lan.nonceLen ∧
      signed = transcriptPrefix ++ versionBytes lan.protocolVersion ++ clientNonce ++
        serverNonce ++ ephemeral := by
  unfold transcript at made
  split at made
  next => cases made
  next lengths =>
    split at made
    next => cases made
    next =>
      rw [not_or, not_not, not_not] at lengths
      exact ⟨lengths.1, lengths.2, (Except.ok.inj made).symm⟩

/-- The layout of a transcript determines its three fields. -/
theorem transcript_inj {clientNonce serverNonce ephemeral : Word}
    {otherClient otherServer otherEphemeral signed : Word}
    (first : transcript lan clientNonce serverNonce ephemeral = .ok signed)
    (second : transcript lan otherClient otherServer otherEphemeral = .ok signed) :
    clientNonce = otherClient ∧ serverNonce = otherServer ∧ ephemeral = otherEphemeral := by
  obtain ⟨clientLength, serverLength, rfl⟩ := transcript_ok first
  obtain ⟨otherClientLength, otherServerLength, same⟩ := transcript_ok second
  simp only [List.append_assoc, List.append_cancel_left_eq] at same
  obtain ⟨rfl, rest⟩ := append_inj_of_measure lan.size_positive same
    (clientLength.trans otherClientLength.symm)
  obtain ⟨rfl, rfl⟩ := append_inj_of_measure lan.size_positive rest
    (serverLength.trans otherServerLength.symm)
  exact ⟨rfl, rfl, rfl⟩

/-- An accepted answer carries a signature of the device over the transcript of this client. -/
theorem clientHandshake_ok {nonce : Word} {message : Message} {hello : LanServerHello}
    (accepts : clientHandshake lan nonce message = .ok hello) :
    message = .lanServerHello hello ∧ ∃ signer signed,
      hello.signature = some ⟨signer, signed⟩ ∧ hello.devicePublicKey = [.signPublic signer] ∧
        transcript lan nonce hello.serverNonce hello.ephemeralPublicKey = .ok signed := by
  cases message with
  | lanClientHello other => cases accepts
  | publicKey key => cases accepts
  | other => cases accepts
  | lanServerHello answer =>
      simp only [clientHandshake, bind, Except.bind, throw, throwThe, MonadExceptOf.throw, pure,
        Except.pure] at accepts
      split at accepts
      next => cases accepts
      next =>
        split at accepts
        next => cases accepts
        next =>
          split at accepts
          next => cases accepts
          next expected made =>
            split at accepts
            next => cases accepts
            next signed verified =>
              split at accepts
              next => cases accepts
              next same =>
                cases accepts
                obtain ⟨signature, present, valid⟩ := Option.bind_eq_some_iff.mp verified
                obtain ⟨own, carried⟩ := verify_eq_some valid
                rw [not_not] at same
                refine ⟨rfl, signature.signer, signed, ?_, own, same ▸ made⟩
                rw [present, ← carried]

/-- A device answers with a signature over the transcript of its own run. -/
theorem serverHandshake_ok {identity ephemeral serverNonce : Nat} {message : Message}
    {clientNonce : Word} {hello : LanServerHello}
    (answers : serverHandshake lan identity ephemeral serverNonce message =
      .ok (clientNonce, hello)) :
    message.facts = facts clientNonce ∧ ∃ signed,
      transcript lan clientNonce [.nonce serverNonce] [.boxPublic ephemeral] = .ok signed ∧
        hello = ⟨lan.protocolVersion, [.nonce serverNonce], [.signPublic identity],
          [.boxPublic ephemeral], some ⟨identity, signed⟩⟩ := by
  cases message with
  | lanServerHello other => cases answers
  | publicKey key => cases answers
  | other => cases answers
  | lanClientHello asked =>
      simp only [serverHandshake, bind, Except.bind, throw, throwThe, MonadExceptOf.throw, pure,
        Except.pure] at answers
      split at answers
      next => cases answers
      next =>
        split at answers
        next => cases answers
        next =>
          split at answers
          next => cases answers
          next signed made =>
            cases answers
            exact ⟨rfl, signed, made, rfl⟩

/-- A device accepts the content of a box that is meant for its ephemeral key. -/
theorem serverKey_ok {ephemeral : Nat} {message : Message} {content : Word}
    (accepts : serverKey ephemeral message = .ok content) :
    ∃ box, .box box ∈ message.facts ∧ box.content = content ∧
      (box.recipient = [.boxPublic ephemeral] ∨ box.sender = ephemeral) := by
  cases message with
  | lanClientHello other => cases accepts
  | lanServerHello other => cases accepts
  | other => cases accepts
  | publicKey key =>
      simp only [serverKey] at accepts
      split at accepts
      next => cases accepts
      next opened verified =>
        obtain ⟨box, present, opens⟩ := Option.bind_eq_some_iff.mp verified
        obtain ⟨sides, carried⟩ := openBox_eq_some opens
        refine ⟨box, ?_, carried.trans (Except.ok.inj accepts), sides⟩
        simp [Message.facts, present]

/-- A device key belongs to an honest device. -/
def HonestKey (honest : Nat → Prop) (device : Word) : Prop :=
  ∃ identity, honest identity ∧ device = [.signPublic identity]

/-- A symmetric key for a dishonest device is free to know. -/
def freeFact (honest : Nat → Prop) (origins : List Origin) : Fact → Prop
  | .nonce id => id < origins.length
  | .key id => origins[id]? = some .attacker ∨
      ∃ device, origins[id]? = some (.clientKey device) ∧ ¬ HonestKey honest device
  | .boxSecret id => origins[id]? = some .attacker
  | .signSecret identity => ¬ honest identity
  | .signature _ | .box _ => False

def Network.Issued (lan : LanProtocol) (network : Network) (signature : Signature) : Prop :=
  ∃ index exchange, (network.servers index).identity = some signature.signer ∧
    (network.servers index).exchange = some exchange ∧
    transcript lan exchange.clientNonce [.nonce exchange.serverNonce]
      [.boxPublic exchange.ephemeral] = .ok signature.message

def Network.Made (honest : Nat → Prop) (network : Network) (box : Box) : Prop :=
  ∃ index acceptance, (network.clients index).acceptance = some acceptance ∧
    HonestKey honest acceptance.hello.devicePublicKey ∧
    box = ⟨[.key acceptance.key], acceptance.hello.ephemeralPublicKey, acceptance.box⟩

def boundary (lan : LanProtocol) (honest : Nat → Prop) (network : Network) : Boundary where
  free := freeFact honest network.origins
  issued := network.Issued lan
  made := network.Made honest

/-- The run of a device that answered a client with an accepted hello. -/
structure Partner (network : Network) (identity nonce : Nat) (hello : LanServerHello)
    (index : Nat) (exchange : Exchange) : Prop where
  device : (network.servers index).identity = some identity
  answered : (network.servers index).exchange = some exchange
  clientNonce : exchange.clientNonce = [.nonce nonce]
  serverNonce : hello.serverNonce = [.nonce exchange.serverNonce]
  ephemeral : hello.ephemeralPublicKey = [.boxPublic exchange.ephemeral]

/-- A client has checked what it accepted, and has made its random values itself. -/
structure ClientRun.Fits (lan : LanProtocol) (origins : List Origin) (run : ClientRun) : Prop where
  nonce : ∀ nonce, run.nonce = some nonce → origins[nonce]? = some .clientNonce
  checked : ∀ acceptance, run.acceptance = some acceptance → ∃ nonce,
    run.nonce = some nonce ∧
      clientHandshake lan [.nonce nonce] (.lanServerHello acceptance.hello) = .ok acceptance.hello
  box : ∀ acceptance, run.acceptance = some acceptance →
    origins[acceptance.box]? = some .clientBox
  key : ∀ acceptance, run.acceptance = some acceptance →
    origins[acceptance.key]? = some (.clientKey acceptance.hello.devicePublicKey)

def ClientRun.key (run : ClientRun) : Option Nat := run.acceptance.map Acceptance.key

structure ServerRun.Fits (origins : List Origin) (run : ServerRun) : Prop where
  owned : ∀ exchange, run.exchange = some exchange → run.identity ≠ none
  ephemeral : ∀ exchange, run.exchange = some exchange →
    origins[exchange.ephemeral]? = some .ephemeral

def ServerRun.ephemeral (run : ServerRun) : Option Nat := run.exchange.map Exchange.ephemeral

/-- A hidden key is in a device only if its client answered this device. -/
def Network.Keyed (honest : Nat → Prop) (network : Network) (index : Nat) (word : Word) : Prop :=
  ∀ id, .key id ∈ word → freeFact honest network.origins (.key id) ∨
    ∃ exchange client acceptance, (network.servers index).exchange = some exchange ∧
      (network.clients client).acceptance = some acceptance ∧ acceptance.key = id ∧
      acceptance.hello.ephemeralPublicKey = [.boxPublic exchange.ephemeral]

structure Sound (lan : LanProtocol) (honest : Nat → Prop) (network : Network) : Prop where
  clients : ∀ index, (network.clients index).Fits lan network.origins
  servers : ∀ index, (network.servers index).Fits network.origins
  oneNonce : OneOwner ClientRun.nonce network.clients
  oneKey : OneOwner ClientRun.key network.clients
  oneEphemeral : OneOwner ServerRun.ephemeral network.servers
  sent : ∀ fact ∈ network.sent, (boundary lan honest network).Allows fact
  partner : ∀ index acceptance nonce identity,
    (network.clients index).acceptance = some acceptance →
    (network.clients index).nonce = some nonce → honest identity →
    acceptance.hello.devicePublicKey = [.signPublic identity] →
    ∃ server exchange, Partner network identity nonce acceptance.hello server exchange
  keyed : ∀ index word, (network.servers index).key = some word →
    network.Keyed honest index word

/-- A step adds random values and runs, and changes no answer and no acceptance. -/
structure Extends (network after : Network) : Prop where
  origins : network.origins <+: after.origins
  servers : ∀ index exchange, (network.servers index).exchange = some exchange →
    (after.servers index).exchange = some exchange ∧
      (after.servers index).identity = (network.servers index).identity
  clients : ∀ index acceptance, (network.clients index).acceptance = some acceptance →
    after.clients index = network.clients index

variable {after : Network}

/-- An origin stays. -/
theorem origin_kept {origins later : List Origin} (longer : origins <+: later) {id : Nat}
    {origin : Origin} (here : origins[id]? = some origin) : later[id]? = some origin := by
  obtain ⟨new, rfl⟩ := longer
  rw [List.getElem?_append_left (List.getElem?_eq_some_iff.mp here).1]
  exact here

/-- A free fact stays free. -/
theorem freeFact_kept {origins later : List Origin} (longer : origins <+: later) (fact : Fact)
    (free : freeFact honest origins fact) : freeFact honest later fact := by
  cases fact with
  | nonce id => exact Nat.lt_of_lt_of_le free longer.length_le
  | key id =>
      obtain own | ⟨device, here, dishonest⟩ := free
      · exact .inl (origin_kept longer own)
      · exact .inr ⟨device, origin_kept longer here, dishonest⟩
  | boxSecret id => exact origin_kept longer free
  | signSecret identity => exact free
  | signature signature => exact free
  | box box => exact free

/-- A larger network allows the same facts. -/
theorem Extends.allows (larger : Extends network after) {fact : Fact}
    (allows : (boundary lan honest network).Allows fact) :
    (boundary lan honest after).Allows fact := by
  apply allows.mono
  · exact freeFact_kept larger.origins
  · rintro signature ⟨index, exchange, identity, answered, made⟩
    obtain ⟨kept, same⟩ := larger.servers index exchange answered
    exact ⟨index, exchange, same.trans identity, kept, made⟩
  · rintro box ⟨index, acceptance, accepted, own, rfl⟩
    have same := larger.clients index acceptance accepted
    exact ⟨index, acceptance, same ▸ accepted, own, rfl⟩

/-- A partner stays a partner. -/
theorem Extends.partner (larger : Extends network after) {identity nonce index : Nat}
    {hello : LanServerHello} {exchange : Exchange}
    (partner : Partner network identity nonce hello index exchange) :
    Partner after identity nonce hello index exchange := by
  obtain ⟨kept, same⟩ := larger.servers index exchange partner.answered
  exact ⟨same.trans partner.device, kept, partner.clientNonce, partner.serverNonce,
    partner.ephemeral⟩

/-- A key stays agreed. -/
theorem Extends.keyed (larger : Extends network after) {index : Nat} {word : Word}
    (keyed : network.Keyed honest index word) : after.Keyed honest index word := by
  intro id member
  obtain free | ⟨exchange, client, acceptance, answered, accepted, key, ephemeral⟩ :=
    keyed id member
  · exact .inl (freeFact_kept larger.origins _ free)
  · have same := larger.clients client acceptance accepted
    exact .inr ⟨exchange, client, acceptance, (larger.servers index exchange answered).1,
      same ▸ accepted, key, ephemeral⟩

/-- A run of a client still fits. -/
theorem ClientRun.Fits.later {origins later : List Origin} {run : ClientRun}
    (fits : run.Fits lan origins) (longer : origins <+: later) : run.Fits lan later where
  nonce nonce has := origin_kept longer (fits.nonce nonce has)
  checked := fits.checked
  box acceptance has := origin_kept longer (fits.box acceptance has)
  key acceptance has := origin_kept longer (fits.key acceptance has)

/-- A run of a device still fits. -/
theorem ServerRun.Fits.later {origins later : List Origin} {run : ServerRun}
    (fits : run.Fits origins) (longer : origins <+: later) : run.Fits later where
  owned := fits.owned
  ephemeral exchange has := origin_kept longer (fits.ephemeral exchange has)

/-- The boundary is closed. -/
theorem Sound.closed (sound : Sound lan honest network) :
    (boundary lan honest network).Closed := by
  rintro box ⟨index, acceptance, accepted, ⟨identity, own, device⟩, rfl⟩
  obtain ⟨nonce, has, -⟩ := (sound.clients index).checked acceptance accepted
  obtain ⟨server, exchange, partner⟩ :=
    sound.partner index acceptance nonce identity accepted has own device
  constructor
  · intro free
    have attacker : network.origins[acceptance.box]? = some .attacker := free
    rw [(sound.clients index).box acceptance accepted] at attacker
    cases attacker
  · intro key recipient free
    have attacker : network.origins[key]? = some .attacker := free
    have same : exchange.ephemeral = key := by
      have ephemeral := partner.ephemeral.symm.trans recipient
      simpa using ephemeral
    rw [← same, (sound.servers server).ephemeral exchange partner.answered] at attacker
    cases attacker

/-- What the attacker derives lies within the boundary. -/
theorem Sound.derives (sound : Sound lan honest network) {fact : Fact}
    (derives : Derives (network.known honest) fact) :
    (boundary lan honest network).Allows fact := by
  apply derives.allows sound.closed
  rintro known (sent | ⟨identity, dishonest, rfl⟩)
  · exact sound.sent known sent
  · exact dishonest

theorem origin_lt {origins : List Origin} {id : Nat} {origin : Origin}
    (here : origins[id]? = some origin) : id < origins.length :=
  (List.getElem?_eq_some_iff.mp here).1

/-- A client without an acceptance moves on, with new random values and new messages. -/
theorem Sound.changeClient (sound : Sound lan honest network) (index : Nat) (run : ClientRun)
    (new : List Origin) (said : List Fact)
    (after : Network)
    (changed : after = ⟨network.origins ++ new, network.sent ++ said,
      Function.update network.clients index run, network.servers⟩)
    (unaccepted : (network.clients index).acceptance = none)
    (fits : run.Fits lan after.origins)
    (nonces : ∀ nonce, run.nonce = some nonce →
      (network.clients index).nonce = some nonce ∨ network.origins.length ≤ nonce)
    (keys : ∀ key, run.key = some key → network.origins.length ≤ key)
    (allowed : ∀ fact ∈ said, (boundary lan honest after).Allows fact)
    (partners : ∀ acceptance nonce identity, run.acceptance = some acceptance →
      run.nonce = some nonce → honest identity →
      acceptance.hello.devicePublicKey = [.signPublic identity] →
      ∃ server exchange, Partner network identity nonce acceptance.hello server exchange) :
    Sound lan honest after := by
  subst changed
  have elsewhere (other : Nat) (differs : other ≠ index) :
      Function.update network.clients index run other = network.clients other :=
    Function.update_of_ne differs _ _
  have larger : Extends network ⟨network.origins ++ new, network.sent ++ said,
      Function.update network.clients index run, network.servers⟩ := by
    refine ⟨List.prefix_append _ _, fun _ _ has => ⟨has, rfl⟩, ?_⟩
    intro other acceptance accepted
    apply elsewhere
    rintro rfl
    rw [unaccepted] at accepted
    cases accepted
  constructor
  · show ∀ other, (Function.update network.clients index run other).Fits lan _
    rw [Function.forall_update_iff network.clients fun _ run => run.Fits lan _]
    exact ⟨fits, fun other _ => (sound.clients other).later larger.origins⟩
  · exact fun other => (sound.servers other).later larger.origins
  · apply sound.oneNonce.update
    intro nonce has
    refine (nonces nonce has).imp_right ?_
    intro fresh other there
    have old := origin_lt ((sound.clients other).nonce nonce there)
    omega
  · apply sound.oneKey.update
    intro key has
    refine .inr ?_
    intro other there
    obtain ⟨acceptance, accepted, rfl⟩ := Option.map_eq_some_iff.mp there
    have old := origin_lt ((sound.clients other).key acceptance accepted)
    have fresh := keys _ has
    omega
  · exact sound.oneEphemeral
  · intro fact member
    obtain old | now := List.mem_append.mp member
    · exact larger.allows (sound.sent fact old)
    · exact allowed fact now
  · intro other acceptance nonce identity accepted has own device
    by_cases here : other = index
    · subst here
      simp only [Function.update_self] at accepted has
      obtain ⟨server, exchange, partner⟩ :=
        partners acceptance nonce identity accepted has own device
      exact ⟨server, exchange, larger.partner partner⟩
    · simp only [elsewhere other here] at accepted has
      obtain ⟨server, exchange, partner⟩ :=
        sound.partner other acceptance nonce identity accepted has own device
      exact ⟨server, exchange, larger.partner partner⟩
  · exact fun other word has => larger.keyed (sound.keyed other word has)

/-- A device moves on and keeps what it has signed, with new random values and new messages. -/
theorem Sound.changeServer (sound : Sound lan honest network) (index : Nat) (run : ServerRun)
    (new : List Origin) (said : List Fact)
    (after : Network)
    (changed : after = ⟨network.origins ++ new, network.sent ++ said, network.clients,
      Function.update network.servers index run⟩)
    (kept : ∀ exchange, (network.servers index).exchange = some exchange →
      run.exchange = some exchange ∧ run.identity = (network.servers index).identity)
    (fits : run.Fits after.origins)
    (ephemerals : ∀ ephemeral, run.ephemeral = some ephemeral →
      (network.servers index).ephemeral = some ephemeral ∨ network.origins.length ≤ ephemeral)
    (allowed : ∀ fact ∈ said, (boundary lan honest after).Allows fact)
    (keyed : ∀ word, run.key = some word → network.Keyed honest index word) :
    Sound lan honest after := by
  subst changed
  have elsewhere (other : Nat) (differs : other ≠ index) :
      Function.update network.servers index run other = network.servers other :=
    Function.update_of_ne differs _ _
  have larger : Extends network ⟨network.origins ++ new, network.sent ++ said, network.clients,
      Function.update network.servers index run⟩ := by
    refine ⟨List.prefix_append _ _, ?_, fun _ _ _ => rfl⟩
    show ∀ other exchange, (network.servers other).exchange = some exchange →
      (Function.update network.servers index run other).exchange = some exchange ∧
        (Function.update network.servers index run other).identity =
          (network.servers other).identity
    intro other exchange answered
    by_cases here : other = index
    · subst here
      rw [Function.update_self]
      exact kept exchange answered
    · rw [elsewhere other here]
      exact ⟨answered, rfl⟩
  constructor
  · exact fun other => (sound.clients other).later larger.origins
  · show ∀ other, (Function.update network.servers index run other).Fits _
    rw [Function.forall_update_iff network.servers fun _ run => run.Fits _]
    exact ⟨fits, fun other _ => (sound.servers other).later larger.origins⟩
  · exact sound.oneNonce
  · exact sound.oneKey
  · apply sound.oneEphemeral.update
    intro ephemeral has
    refine (ephemerals ephemeral has).imp_right ?_
    intro fresh other there
    obtain ⟨exchange, answered, rfl⟩ := Option.map_eq_some_iff.mp there
    have old := origin_lt ((sound.servers other).ephemeral exchange answered)
    omega
  · intro fact member
    obtain old | now := List.mem_append.mp member
    · exact larger.allows (sound.sent fact old)
    · exact allowed fact now
  · intro other acceptance nonce identity accepted has own device
    obtain ⟨server, exchange, partner⟩ :=
      sound.partner other acceptance nonce identity accepted has own device
    exact ⟨server, exchange, larger.partner partner⟩
  · show ∀ other word, (Function.update network.servers index run other).key = some word → _
    intro other word has
    by_cases here : other = index
    · subst here
      rw [Function.update_self] at has
      exact larger.keyed (keyed word has)
    · rw [elsewhere other here] at has
      exact larger.keyed (sound.keyed other word has)

/-- A new client is sound. -/
theorem startClient_sound (sound : Sound lan honest network) {index : Nat}
    (idle : (network.clients index).nonce = none) :
    Sound lan honest (startClient lan network index) := by
  have unaccepted : (network.clients index).acceptance = none := by
    cases accepted : (network.clients index).acceptance with
    | none => rfl
    | some acceptance =>
        obtain ⟨nonce, has, -⟩ := (sound.clients index).checked acceptance accepted
        rw [idle] at has
        cases has
  apply sound.changeClient index _ _ _ _ rfl unaccepted
  · refine ⟨?_, nofun, nofun, nofun⟩
    intro nonce has
    cases has
    simp
  · intro nonce has
    cases has
    exact .inr (Nat.le_refl _)
  · nofun
  · intro fact member
    have here : fact = .nonce network.origins.length := by
      simpa [Message.facts, clientHello, facts, Atom.fact?] using member
    rw [here]
    show network.origins.length < (network.origins ++ [Origin.clientNonce]).length
    simp
  · nofun

/-- An invented value is sound. -/
theorem invent_sound (sound : Sound lan honest network) :
    Sound lan honest (invent network) := by
  have larger : Extends network (invent network) :=
    ⟨List.prefix_append _ _, fun _ _ has => ⟨has, rfl⟩, fun _ _ _ => rfl⟩
  have fresh : (network.origins ++ [.attacker])[network.origins.length]? =
      some Origin.attacker := by simp
  constructor
  · exact fun other => (sound.clients other).later larger.origins
  · exact fun other => (sound.servers other).later larger.origins
  · exact sound.oneNonce
  · exact sound.oneKey
  · exact sound.oneEphemeral
  · intro fact member
    obtain old | new := List.mem_append.mp member
    · exact larger.allows (sound.sent fact old)
    · simp only [List.mem_cons, List.not_mem_nil, or_false] at new
      obtain rfl | rfl | rfl := new
      · show network.origins.length < (network.origins ++ [Origin.attacker]).length
        simp
      · exact .inl fresh
      · exact fresh
  · intro other acceptance nonce identity accepted has own device
    obtain ⟨server, exchange, partner⟩ :=
      sound.partner other acceptance nonce identity accepted has own device
    exact ⟨server, exchange, larger.partner partner⟩
  · exact fun other word has => larger.keyed (sound.keyed other word has)

theorem facts_transcriptPrefix : facts transcriptPrefix = [] := by
  unfold transcriptPrefix
  rw [facts_append]
  rw [facts_bytes]
  rfl

theorem facts_versionBytes (version : UInt32) : facts (versionBytes version) = [] := by
  unfold versionBytes
  exact facts_bytes _ _

/-- A transcript reveals its three fields. -/
theorem facts_transcript {clientNonce serverNonce ephemeral signed : Word}
    (made : transcript lan clientNonce serverNonce ephemeral = .ok signed) :
    facts signed = facts clientNonce ++ facts serverNonce ++ facts ephemeral := by
  obtain ⟨-, -, rfl⟩ := transcript_ok made
  rw [facts_append, facts_append, facts_append, facts_append, facts_transcriptPrefix,
    facts_versionBytes, List.nil_append, List.nil_append]

/-- A new device is sound. -/
theorem startServer_sound (sound : Sound lan honest network) {index : Nat} (identity : Nat)
    (idle : (network.servers index).identity = none) :
    Sound lan honest (startServer network index identity) := by
  have unanswered (exchange : Exchange) : (network.servers index).exchange ≠ some exchange :=
    fun answered => (sound.servers index).owned exchange answered idle
  apply sound.changeServer index ⟨some identity, none, none, true⟩ [] []
  · simp [startServer]
  · exact fun exchange answered => absurd answered (unanswered exchange)
  · exact ⟨nofun, nofun⟩
  · nofun
  · nofun
  · nofun

/-- A device gets a free key, or the key of the client that accepted its answer. -/
theorem serverReadsKey_sound (sound : Sound lan honest network) {index identity : Nat}
    {exchange : Exchange} {message : Message}
    (run : network.servers index = ⟨some identity, some exchange, none, true⟩)
    (built : ∀ fact ∈ message.facts, Derives (network.known honest) fact) :
    Sound lan honest (serverReadsKey network index identity exchange message) := by
  have old := sound.servers index
  apply sound.changeServer index ⟨some identity, some exchange,
    (serverKey exchange.ephemeral message).toOption, false⟩ [] []
  · simp [serverReadsKey]
  · intro answer answered
    rw [run] at answered
    rw [run]
    exact ⟨answered, rfl⟩
  · rw [run] at old
    exact ⟨nofun, old.ephemeral⟩
  · intro ephemeral has
    rw [run]
    exact .inl has
  · nofun
  · intro word has
    have accepts : serverKey exchange.ephemeral message = .ok word := by
      cases outcome : serverKey exchange.ephemeral message with
      | error failure => simp [outcome, Except.toOption] at has
      | ok content => simpa [outcome, Except.toOption] using has
    obtain ⟨box, part, rfl, sides⟩ := serverKey_ok accepts
    intro id member
    obtain free | ⟨client, acceptance, accepted, own, rfl⟩ := sound.derives (built _ part)
    · exact .inl (free (.key id) (List.mem_filterMap.mpr ⟨.key id, member, rfl⟩))
    · have same : acceptance.key = id := by
        have here := List.mem_singleton.mp member
        simpa using here.symm
      refine .inr ⟨exchange, client, acceptance, by rw [run], accepted, same, ?_⟩
      obtain recipient | sender := sides
      · exact recipient
      · have answered : (network.servers index).exchange = some exchange := by rw [run]
        have clientBox := (sound.clients client).box acceptance accepted
        have ephemeral := old.ephemeral exchange answered
        have here : acceptance.box = exchange.ephemeral := sender
        rw [here, ephemeral] at clientBox
        cases clientBox

/-- The answer of a device reveals its nonce and a signature that it has issued. -/
theorem serverReadsHello_sound (sound : Sound lan honest network) {index identity : Nat}
    {message : Message}
    (run : network.servers index = ⟨some identity, none, none, true⟩)
    (built : ∀ fact ∈ message.facts, Derives (network.known honest) fact) :
    Sound lan honest (serverReadsHello lan network index identity message) := by
  have unanswered (exchange : Exchange) : (network.servers index).exchange ≠ some exchange := by
    rw [run]
    nofun
  unfold serverReadsHello
  simp only
  split
  next =>
    apply sound.changeServer index ⟨some identity, none, none, false⟩ [] []
    · simp
    · exact fun exchange answered => absurd answered (unanswered exchange)
    · exact ⟨nofun, nofun⟩
    · nofun
    · nofun
    · nofun
  next clientNonce hello answers =>
    obtain ⟨asked, signed, made, rfl⟩ := serverHandshake_ok answers
    have longer : network.origins <+: network.origins ++ [.ephemeral, .serverNonce] :=
      List.prefix_append _ _
    have newNonce : freeFact honest (network.origins ++ [.ephemeral, .serverNonce])
        (.nonce (network.origins.length + 1)) := by
      show network.origins.length + 1 < (network.origins ++ [_, _]).length
      simp
    apply sound.changeServer index _ _ _ _ rfl
    · exact fun exchange answered => absurd answered (unanswered exchange)
    · refine ⟨nofun, ?_⟩
      intro exchange answered
      cases answered
      simp
    · intro ephemeral has
      cases has
      exact .inr (Nat.le_refl _)
    · intro fact member
      have parts : fact = .nonce (network.origins.length + 1) ∨
          fact = .signature ⟨identity, signed⟩ := by
        simpa [Message.facts, facts, Atom.fact?] using member
      obtain rfl | rfl := parts
      · exact newNonce
      · refine ⟨?_, .inr ⟨index, ⟨clientNonce, network.origins.length + 1,
          network.origins.length⟩, by simp, by simp, made⟩⟩
        intro fact member
        rw [facts_transcript made, List.mem_append, List.mem_append] at member
        obtain (client | server) | ephemeral := member
        · have allowed := sound.derives (built fact (asked ▸ client))
          exact freeFact_kept longer fact ((Boundary.allows_part _ client).mp allowed)
        · rw [List.mem_singleton.mp server]
          exact newNonce
        · cases ephemeral
    · nofun

/-- A client accepts the answer of an honest device only from a run of this device, and closes its
key for this run. -/
theorem clientReads_sound (sound : Sound lan honest network) {index nonce : Nat}
    {message : Message}
    (run : network.clients index = ⟨some nonce, none, true⟩)
    (built : ∀ fact ∈ message.facts, Derives (network.known honest) fact) :
    Sound lan honest (clientReads lan network index nonce message) := by
  have old := sound.clients index
  rw [run] at old
  have unaccepted : (network.clients index).acceptance = none := by rw [run]
  unfold clientReads
  simp only
  split
  next =>
    apply sound.changeClient index ⟨some nonce, none, false⟩ [] []
    · simp
    · exact unaccepted
    · exact ⟨old.nonce, nofun, nofun, nofun⟩
    · intro value has
      rw [run]
      exact .inl has
    · nofun
    · nofun
    · nofun
  next hello accepts =>
    obtain ⟨rfl, signer, signed, signature, device, expected⟩ := clientHandshake_ok accepts
    have longer : network.origins <+:
        network.origins ++ [.clientBox, .clientKey hello.devicePublicKey] :=
      List.prefix_append _ _
    apply sound.changeClient index _ _ _ _ rfl unaccepted
    · constructor
      · exact fun value has => origin_kept longer (old.nonce value has)
      · intro acceptance accepted
        cases accepted
        exact ⟨nonce, rfl, accepts⟩
      · intro acceptance accepted
        cases accepted
        simp
      · intro acceptance accepted
        cases accepted
        simp
    · intro value has
      rw [run]
      exact .inl has
    · intro key has
      cases has
      exact Nat.le_succ _
    · intro fact member
      have here : fact = .box ⟨[.key (network.origins.length + 1)], hello.ephemeralPublicKey,
          network.origins.length⟩ := by
        simpa [Message.facts, createSymmetricKeyMsg, facts, Atom.fact?] using member
      rw [here]
      by_cases own : HonestKey honest hello.devicePublicKey
      · exact .inr ⟨index, ⟨hello, network.origins.length, network.origins.length + 1⟩,
          by simp, own, rfl⟩
      · refine .inl ?_
        intro part inside
        rw [List.mem_singleton.mp inside]
        exact .inr ⟨hello.devicePublicKey, by simp, own⟩
    · intro acceptance value identity accepted has own named
      cases accepted
      cases has
      have same : signer = identity := by
        have equal := device.symm.trans named
        simpa using equal
      have part : .signature ⟨signer, signed⟩ ∈ (Message.lanServerHello hello).facts := by
        simp [Message.facts, signature]
      obtain ⟨-, dishonest | ⟨server, exchange, identified, answered, made⟩⟩ :=
        sound.derives (built _ part)
      · exact absurd (same ▸ own) dishonest
      · obtain ⟨client, random, ephemeral⟩ := transcript_inj expected made
        exact ⟨server, exchange, same ▸ identified, answered, client.symm, random, ephemeral⟩

/-- The empty network is sound. -/
theorem initialNetwork_sound : Sound lan honest initialNetwork := by
  constructor
  · exact fun index => ⟨nofun, nofun, nofun, nofun⟩
  · exact fun index => ⟨nofun, nofun⟩
  · nofun
  · nofun
  · nofun
  · nofun
  · nofun
  · nofun

/-- One step keeps a network sound. -/
theorem step_sound (sound : Sound lan honest network) (step : Step lan honest network after) :
    Sound lan honest after := by
  cases step with
  | startClient index idle => exact startClient_sound sound idle
  | startServer index identity idle => exact startServer_sound sound identity idle
  | clientReads index nonce message run built => exact clientReads_sound sound run built
  | serverReadsHello index identity message run built =>
      exact serverReadsHello_sound sound run built
  | serverReadsKey index identity exchange message run built =>
      exact serverReadsKey_sound sound run built
  | invent => exact invent_sound sound

/-- Every reachable network is sound. -/
theorem reachable_sound (reachable : Reachable lan honest network) :
    Sound lan honest network := by
  induction reachable with
  | refl => exact initialNetwork_sound
  | tail run step sound => exact step_sound sound step

/-- Only a client and one run of a device have a key. -/
structure OnlyShared (honest : Nat → Prop) (network : Network) (client server key : Nat) :
    Prop where
  secret : ¬ Derives (network.known honest) (.key key)
  clients : ∀ other, (network.clients other).key = some key → other = client
  servers : ∀ other word, (network.servers other).key = some word → .key key ∈ word →
    other = server

/-- A key that is closed for an honest device stays between the client and its partner. -/
theorem Sound.onlyShared (sound : Sound lan honest network) {client server identity nonce : Nat}
    {acceptance : Acceptance} {exchange : Exchange}
    (accepted : (network.clients client).acceptance = some acceptance)
    (own : honest identity) (device : acceptance.hello.devicePublicKey = [.signPublic identity])
    (partner : Partner network identity nonce acceptance.hello server exchange) :
    OnlyShared honest network client server acceptance.key := by
  have origin := (sound.clients client).key acceptance accepted
  have hidden : ¬ freeFact honest network.origins (.key acceptance.key) := by
    rintro (attacker | ⟨other, same, dishonest⟩)
    · rw [origin] at attacker
      cases attacker
    · rw [origin] at same
      cases same
      exact dishonest ⟨identity, own, device⟩
  have keyOf : (network.clients client).key = some acceptance.key := by
    rw [ClientRun.key, accepted]
    rfl
  constructor
  · exact fun derives => hidden (sound.derives derives)
  · exact fun other has => sound.oneKey other client acceptance.key has keyOf
  · intro other word has member
    obtain free | ⟨answer, receiver, receipt, answered, received, same, ephemeral⟩ :=
      sound.keyed other word has acceptance.key member
    · exact absurd free hidden
    · have receiverKey : (network.clients receiver).key = some acceptance.key := by
        rw [ClientRun.key, received]
        exact congrArg some same
      obtain rfl := sound.oneKey receiver client acceptance.key receiverKey keyOf
      obtain rfl := Option.some.inj (received.symm.trans accepted)
      have equal : answer.ephemeral = exchange.ephemeral := by
        have keys := ephemeral.symm.trans partner.ephemeral
        simpa using keys
      apply sound.oneEphemeral other server exchange.ephemeral
      · rw [ServerRun.ephemeral, answered]
        exact congrArg some equal
      · rw [ServerRun.ephemeral, partner.answered]
        rfl

/-- An accepted answer belongs to the nonce of one client. -/
theorem Sound.acceptedOnce (sound : Sound lan honest network) {first second : Nat}
    {acceptance other : Acceptance}
    (firstAccepts : (network.clients first).acceptance = some acceptance)
    (secondAccepts : (network.clients second).acceptance = some other)
    (same : acceptance.hello = other.hello) : first = second := by
  obtain ⟨nonce, has, checked⟩ := (sound.clients first).checked acceptance firstAccepts
  obtain ⟨otherNonce, otherHas, otherChecked⟩ :=
    (sound.clients second).checked other secondAccepts
  rw [← same] at otherChecked
  obtain ⟨-, signer, signed, signature, -, made⟩ := clientHandshake_ok checked
  obtain ⟨-, otherSigner, otherSigned, otherSignature, -, otherMade⟩ :=
    clientHandshake_ok otherChecked
  rw [signature] at otherSignature
  cases otherSignature
  obtain ⟨nonces, -, -⟩ := transcript_inj made otherMade
  cases nonces
  exact sound.oneNonce first second nonce has otherHas

/-- The device key that a client accepts is a key of the attacker, or one run of this device has
signed the transcript of this client and no other run gets its symmetric key. No answer is accepted
twice, and a transcript determines its fields. -/
theorem accepted_device_agrees (reachable : Reachable lan honest network) :
    (∀ client acceptance, (network.clients client).acceptance = some acceptance →
      ∃ nonce identity signed, (network.clients client).nonce = some nonce ∧
        acceptance.hello.devicePublicKey = [.signPublic identity] ∧
        acceptance.hello.signature = some ⟨identity, signed⟩ ∧
        transcript lan [.nonce nonce] acceptance.hello.serverNonce
          acceptance.hello.ephemeralPublicKey = .ok signed ∧
        (¬ honest identity ∧ Derives (network.known honest) (.signSecret identity) ∨
          ∃ server exchange, Partner network identity nonce acceptance.hello server exchange ∧
            OnlyShared honest network client server acceptance.key)) ∧
    (∀ first second acceptance other,
      (network.clients first).acceptance = some acceptance →
      (network.clients second).acceptance = some other →
      acceptance.hello = other.hello → first = second) ∧
    ∀ clientNonce serverNonce ephemeral otherClient otherServer otherEphemeral signed,
      transcript lan clientNonce serverNonce ephemeral = .ok signed →
      transcript lan otherClient otherServer otherEphemeral = .ok signed →
      clientNonce = otherClient ∧ serverNonce = otherServer ∧ ephemeral = otherEphemeral := by
  have sound := reachable_sound reachable
  refine ⟨?_, ?_, ?_⟩
  · intro client acceptance accepted
    obtain ⟨nonce, has, checked⟩ := (sound.clients client).checked acceptance accepted
    obtain ⟨-, identity, signed, signature, device, made⟩ := clientHandshake_ok checked
    refine ⟨nonce, identity, signed, has, device, signature, made, ?_⟩
    by_cases own : honest identity
    · obtain ⟨server, exchange, partner⟩ :=
        sound.partner client acceptance nonce identity accepted has own device
      exact .inr ⟨server, exchange, partner, sound.onlyShared accepted own device partner⟩
    · exact .inl ⟨own, .known (.inr ⟨identity, own, rfl⟩)⟩
  · intro first second acceptance other firstAccepts secondAccepts same
    exact sound.acceptedOnce firstAccepts secondAccepts same
  · intro clientNonce serverNonce ephemeral otherClient otherServer otherEphemeral signed first
      second
    exact transcript_inj first second

def sampleLan : LanProtocol := ⟨32, by decide, 1⟩

/-- A client has asked a device whose key the attacker does not hold. -/
def sampleAsked : Network := startClient sampleLan (startServer initialNetwork 0 0) 0

def sampleHello : LanServerHello where
  protocolVersion := 1
  serverNonce := [.nonce 2]
  devicePublicKey := [.signPublic 0]
  ephemeralPublicKey := [.boxPublic 1]
  signature := some ⟨0, transcriptPrefix ++ versionBytes 1 ++ [.nonce 0] ++ [.nonce 2] ++
    [.boxPublic 1]⟩

def sampleAnswered : Network :=
  serverReadsHello sampleLan sampleAsked 0 0 (.lanClientHello (clientHello sampleLan 0))

def sampleAccepted : Network :=
  clientReads sampleLan sampleAnswered 0 0 (.lanServerHello sampleHello)

def sampleShared : Network :=
  serverReadsKey sampleAccepted 0 0 ⟨[.nonce 0], 2, 1⟩
    (.publicKey (createSymmetricKeyMsg [.boxPublic 1] 3 4))

/-- A message that was sent can be built. -/
theorem built_of_sent {message : Message}
    (sent : ∀ fact ∈ message.facts, fact ∈ network.sent) :
    ∀ fact ∈ message.facts, Derives (network.known honest) fact :=
  fun fact member => .known (.inl (sent fact member))

/-- The sample network is reachable. -/
theorem sampleShared_reachable : Reachable sampleLan (· = 0) sampleShared := by
  have started : Reachable sampleLan (· = 0) (startServer initialNetwork 0 0) :=
    .single (.startServer initialNetwork 0 0 rfl)
  have asked : Reachable sampleLan (· = 0) sampleAsked :=
    started.tail (.startClient (startServer initialNetwork 0 0) 0 rfl)
  have answered : Reachable sampleLan (· = 0) sampleAnswered := by
    apply asked.tail
    exact .serverReadsHello sampleAsked 0 0 _ rfl (built_of_sent (by decide +kernel))
  have accepted : Reachable sampleLan (· = 0) sampleAccepted := by
    apply answered.tail
    exact .clientReads sampleAnswered 0 0 _ rfl (built_of_sent (by decide +kernel))
  apply accepted.tail
  exact .serverReadsKey sampleAccepted 0 0 _ _ rfl (built_of_sent (by decide +kernel))

theorem accepted_device_agrees_shared :
    Reachable sampleLan (· = 0) sampleShared ∧
      (sampleShared.servers 0).key = some [.key 4] ∧
      OnlyShared (· = 0) sampleShared 0 0 4 := by
  have received : (sampleShared.servers 0).key = some [.key 4] := by decide +kernel
  have keyOf : (sampleShared.clients 0).key = some 4 := by decide +kernel
  have device : (sampleShared.clients 0).acceptance.map (·.hello.devicePublicKey) =
      some [.signPublic 0] := by decide +kernel
  refine ⟨sampleShared_reachable, received, ?_⟩
  obtain ⟨acceptance, accepted, key⟩ := Option.map_eq_some_iff.mp keyOf
  rw [accepted] at device
  obtain ⟨nonce, identity, signed, -, named, -, -, attacker | partner⟩ :=
    (accepted_device_agrees sampleShared_reachable).1 0 acceptance accepted
  · have same : acceptance.hello.devicePublicKey = [.signPublic 0] := Option.some.inj device
    rw [named] at same
    cases same
    exact absurd rfl attacker.1
  · obtain ⟨server, exchange, -, shared⟩ := partner
    rw [key] at shared
    obtain rfl := shared.servers 0 [.key 4] received (List.mem_singleton.mpr rfl)
    exact shared

end SubnetDesk.Lan
