import Mathlib.Data.Nat.Digits.Lemmas
import Mathlib.Tactic.DeriveEncodable
import SubnetDesk.Construction.Ipc.Stream
import SubnetDesk.Foundation.Framing

namespace SubnetDesk.Ipc

variable {α : Type}

def queuedBy (party : Party) (events : List (Event α)) : List (Data α) :=
  events.filterMap fun
    | .queued by_ data => if by_ = party then some data else none
    | _ => none

def sentBy (party : Party) (events : List (Event α)) : List (Data α) :=
  events.filterMap fun
    | .sent by_ _ data => if by_ = party then some data else none
    | _ => none

/-- The sent values that were queued before. -/
def forwardedBy (party : Party) (events : List (Event α)) : List (Data α) :=
  events.filterMap fun
    | .sent by_ own data => if by_ = party ∧ own = false then some data else none
    | _ => none

/-- The sent values that a task adds to the queued ones. -/
def addedBy (party : Party) (events : List (Event α)) : List (Data α) :=
  events.filterMap fun
    | .sent by_ own data => if by_ = party ∧ own = true then some data else none
    | _ => none

def passedBy (party : Party) (events : List (Event α)) : List (Data α) :=
  events.filterMap fun
    | .passed by_ data => if by_ = party then some data else none
    | _ => none

def answered (events : List (Event α)) : List (Data α) :=
  events.filterMap fun
    | .answered data => some data
    | _ => none

def receivedBy (party : Party) (events : List (Event α)) : List (Data α) :=
  events.filterMap fun
    | .passed by_ data => if by_ = party then some data else none
    | .answered data => if party = .connection then some data else none
    | _ => none

def Event.isIgnored : Event α → Bool
  | .ignored _ _ => true
  | _ => false

def Data.isClickTime : Data α → Bool
  | .clickTime _ => true
  | _ => false

def Data.isClipboardNonFile : Data α → Bool
  | .clipboardNonFile _ => true
  | _ => false

def connectionFraming (json : Json α) : Framing (Data α) Bytes where
  header
    | .fs (.writeBlock id fileNum _ compressed) =>
        json.encode (.fs (.writeBlock id fileNum [] compressed))
    | data => json.encode data
  body
    | .fs (.writeBlock _ _ data _) => some data
    | _ => none

def cmFraming (json : Json α) : Framing (Data α) Bytes where
  header
    | .fileBlockFromCM id fileNum _ compressed connId =>
        json.encode (.fileBlockFromCM id fileNum [] compressed connId)
    | data => json.encode data
  body
    | .fileBlockFromCM _ _ data _ _ => some data
    | _ => none

/-- The payload that a task owes. -/
def Phase.unsent : Phase α → List Bytes
  | .block payload => [payload]
  | _ => []

/-- What a task that waits for a payload does with it. -/
def Phase.pending : Phase α → Option (Bytes → Data α)
  | .attach header => some fun payload => header.withPayload payload
  | _ => none

/-- The phases of the connection, which reads the payloads of blocks only. -/
def Phase.Entered : Phase α → Prop
  | .starting => False
  | .ended => False
  | .attach header => header.isClickTime = false
  | _ => True

/-- What the events of a run add up to, apart from the frames. -/
structure Accounted (windows : Bool) (connectionRx cmRx : List (Data α)) (past : List (Event α)) :
    Prop where
  decoded : ∀ event ∈ past, event.isIgnored = false
  queueOfConnection : queuedBy .connection past = forwardedBy .connection past ++ connectionRx
  queueOfCm : queuedBy .cm past = forwardedBy .cm past ++ cmRx
  passedOn : passedBy .connection past =
    (receivedBy .connection past).filter (!·.isClickTime)
  passedOnByCm : passedBy .cm past = receivedBy .cm past
  answers : (addedBy .connection past).length = (answered past).length
  clickTimes : ∀ data ∈ addedBy .connection past, data.isClickTime = true
  announced : ∀ data ∈ addedBy .cm past, windows = true ∧ data = .clipboardFile .monitorReady
  noRequest : windows = true →
    ∀ data ∈ sentBy .connection past ++ connectionRx, data.isClipboardNonFile = false

/-- What holds in a run whose connection queues no clipboard request on Windows. -/
structure Linked (json : Json α) (windows : Bool) (link : Link α) (past : List (Event α)) : Prop where
  toCm : (connectionFraming json).Underway Data.skipped link.stream.toCm link.connection.phase.unsent
    link.cm.phase.pending (sentBy .connection past) (receivedBy .cm past)
  fromCm : (cmFraming json).Underway id link.stream.fromCm link.cm.phase.unsent
    link.connection.phase.pending (sentBy .cm past) (receivedBy .connection past)
  accounted : Accounted windows link.connection.rx link.cm.rx past
  entered : link.connection.phase.Entered

section Projections

variable (party : Party) (first second : List (Event α))

@[simp] theorem queuedBy_append :
    queuedBy party (first ++ second) = queuedBy party first ++ queuedBy party second :=
  List.filterMap_append

@[simp] theorem sentBy_append :
    sentBy party (first ++ second) = sentBy party first ++ sentBy party second :=
  List.filterMap_append

@[simp] theorem forwardedBy_append :
    forwardedBy party (first ++ second) = forwardedBy party first ++ forwardedBy party second :=
  List.filterMap_append

@[simp] theorem addedBy_append :
    addedBy party (first ++ second) = addedBy party first ++ addedBy party second :=
  List.filterMap_append

@[simp] theorem passedBy_append :
    passedBy party (first ++ second) = passedBy party first ++ passedBy party second :=
  List.filterMap_append

@[simp] theorem answered_append : answered (first ++ second) = answered first ++ answered second :=
  List.filterMap_append

@[simp] theorem receivedBy_append :
    receivedBy party (first ++ second) = receivedBy party first ++ receivedBy party second :=
  List.filterMap_append

end Projections

variable {windows : Bool} {connectionRx cmRx : List (Data α)} {past : List (Event α)}

/-- New events are accounted for by themselves, apart from the queues. -/
theorem Accounted.append (accounted : Accounted windows connectionRx cmRx past)
    {events : List (Event α)} {connectionRest cmRest : List (Data α)}
    (decoded : ∀ event ∈ events, event.isIgnored = false)
    (queueOfConnection : connectionRx ++ queuedBy .connection events =
      forwardedBy .connection events ++ connectionRest)
    (queueOfCm : cmRx ++ queuedBy .cm events = forwardedBy .cm events ++ cmRest)
    (passedOn : passedBy .connection events =
      (receivedBy .connection events).filter (!·.isClickTime))
    (passedOnByCm : passedBy .cm events = receivedBy .cm events)
    (answers : (addedBy .connection events).length = (answered events).length)
    (clickTimes : ∀ data ∈ addedBy .connection events, data.isClickTime = true)
    (announced : ∀ data ∈ addedBy .cm events, windows = true ∧ data = .clipboardFile .monitorReady)
    (noRequest : windows = true → (∀ data ∈ connectionRx, data.isClipboardNonFile = false) →
      ∀ data ∈ sentBy .connection events ++ connectionRest, data.isClipboardNonFile = false) :
    Accounted windows connectionRest cmRest (past ++ events) where
  decoded := List.forall_mem_append.mpr ⟨accounted.decoded, decoded⟩
  queueOfConnection := by
    rw [queuedBy_append, forwardedBy_append, accounted.queueOfConnection, List.append_assoc,
      queueOfConnection, List.append_assoc]
  queueOfCm := by
    rw [queuedBy_append, forwardedBy_append, accounted.queueOfCm, List.append_assoc, queueOfCm,
      List.append_assoc]
  passedOn := by
    rw [passedBy_append, receivedBy_append, List.filter_append, accounted.passedOn, passedOn]
  passedOnByCm := by rw [passedBy_append, receivedBy_append, accounted.passedOnByCm, passedOnByCm]
  answers := by
    rw [addedBy_append, answered_append, List.length_append, List.length_append, accounted.answers,
      answers]
  clickTimes := by
    rw [addedBy_append]
    exact List.forall_mem_append.mpr ⟨accounted.clickTimes, clickTimes⟩
  announced := by
    rw [addedBy_append]
    exact List.forall_mem_append.mpr ⟨accounted.announced, announced⟩
  noRequest := by
    intro onWindows
    have before := List.forall_mem_append.mp (accounted.noRequest onWindows)
    rw [sentBy_append, List.append_assoc]
    exact List.forall_mem_append.mpr ⟨before.1, noRequest onWindows before.2⟩

/-- A value that passes is accounted for. -/
theorem Accounted.passed (accounted : Accounted windows connectionRx cmRx past) (party : Party)
    (data : Data α) (other : party = .connection → data.isClickTime = false) :
    Accounted windows connectionRx cmRx (past ++ [.passed party data]) := by
  refine accounted.append (by simp [Event.isIgnored]) (List.append_nil _) (List.append_nil _) ?_ ?_ rfl
    (by simp [addedBy]) (by simp [addedBy]) (fun _ before => before)
  · cases party with
    | cm => rfl
    | connection => simp [passedBy, receivedBy, other rfl]
  · cases party <;> rfl

/-- An answered click time is accounted for. -/
theorem Accounted.answer (accounted : Accounted windows connectionRx cmRx past) (ms clickTime : Int) :
    Accounted windows connectionRx cmRx
      (past ++ [.answered (.clickTime ms), .sent .connection true (.clickTime clickTime)]) :=
  accounted.append (by simp [Event.isIgnored]) (List.append_nil _) (List.append_nil _) rfl rfl rfl
    (by simp [addedBy, Data.isClickTime]) (by simp [addedBy])
    fun _ before => List.forall_mem_cons.mpr ⟨rfl, before⟩

/-- The first announcement is accounted for. -/
theorem Accounted.announce (accounted : Accounted windows connectionRx cmRx past)
    (onWindows : windows = true) : Accounted windows connectionRx cmRx
      (past ++ [.sent .cm true (.clipboardFile .monitorReady)]) :=
  accounted.append (by simp [Event.isIgnored]) (List.append_nil _) (List.append_nil _) rfl rfl rfl
    (by simp [addedBy]) (by simp [addedBy, onWindows]) fun _ before => before

/-- A value of the connection goes on. -/
theorem Accounted.forwardOfConnection {data : Data α}
    (accounted : Accounted windows (data :: connectionRx) cmRx past) :
    Accounted windows connectionRx cmRx (past ++ [.sent .connection false data]) :=
  accounted.append (by simp [Event.isIgnored]) (List.append_nil _) (List.append_nil _) rfl rfl rfl
    (by simp [addedBy]) (by simp [addedBy]) fun _ before => before

/-- A value of the manager goes on. -/
theorem Accounted.forwardOfCm {data : Data α}
    (accounted : Accounted windows connectionRx (data :: cmRx) past) :
    Accounted windows connectionRx cmRx (past ++ [.sent .cm false data]) :=
  accounted.append (by simp [Event.isIgnored]) (List.append_nil _) (List.append_nil _) rfl rfl rfl
    (by simp [addedBy]) (by simp [addedBy]) fun _ before => before

/-- A value waits for the connection. -/
theorem Accounted.queueForConnection (accounted : Accounted windows connectionRx cmRx past)
    (data : Data α) (other : windows = true → data.isClipboardNonFile = false) :
    Accounted windows (connectionRx ++ [data]) cmRx (past ++ [.queued .connection data]) := by
  refine accounted.append (by simp [Event.isIgnored]) rfl (List.append_nil _) rfl rfl rfl
    (by simp [addedBy]) (by simp [addedBy]) fun onWindows before => ?_
  rw [show sentBy .connection [.queued .connection data] = [] from rfl, List.nil_append]
  exact List.forall_mem_append.mpr ⟨before, List.forall_mem_singleton.mpr (other onWindows)⟩

/-- A value waits for the manager. -/
theorem Accounted.queueForCm (accounted : Accounted windows connectionRx cmRx past) (data : Data α) :
    Accounted windows connectionRx (cmRx ++ [data]) (past ++ [.queued .cm data]) :=
  accounted.append (by simp [Event.isIgnored]) (List.append_nil _) rfl rfl rfl rfl
    (by simp [addedBy]) (by simp [addedBy]) fun _ before => before

section Steps

variable {json : Json α} {link : Link α}

/-- A payload changes no click time. -/
theorem withPayload_isClickTime (data : Data α) (payload : Bytes) :
    (data.withPayload payload).isClickTime = data.isClickTime := by
  cases data with
  | fs fs => cases fs <;> rfl
  | _ => rfl

/-- The connection decodes the header of a value of the connection manager to the value itself, or to
a block without its data. -/
theorem cmFraming_cases (json : Json α) (value : Data α) :
    ((cmFraming json).body value = none ∧
      json.decode ((cmFraming json).header value) = some value ∧
      ∀ id fileNum data compressed connId,
        value ≠ .fileBlockFromCM id fileNum data compressed connId) ∨
    ∃ id fileNum data compressed connId,
      value = .fileBlockFromCM id fileNum data compressed connId ∧
      json.decode ((cmFraming json).header value) =
        some (.fileBlockFromCM id fileNum [] compressed connId) := by
  cases value with
  | fileBlockFromCM id fileNum data compressed connId =>
      exact .inr ⟨id, fileNum, data, compressed, connId, rfl, json.decode_encode _⟩
  | _ => exact .inl ⟨rfl, json.decode_encode _, by simp⟩

/-- A received value goes to the manager. -/
theorem connectionReceive_pass (clickTime : Int) (rx : List (Data α)) (toCm rest : List Bytes)
    (frame : Bytes) (value : Data α) (decoded : json.decode frame = some value)
    (noBlock : ∀ id fileNum data compressed connId,
      value ≠ .fileBlockFromCM id fileNum data compressed connId)
    (other : value.isClickTime = false) :
    connectionReceive json clickTime ⟨rx, .idle⟩ ⟨toCm, frame :: rest⟩ =
      (⟨rx, .idle⟩, ⟨toCm, rest⟩, [.passed .connection value]) := by
  simp only [connectionReceive, decoded]
  cases value with
  | clickTime ms => cases other
  | fileBlockFromCM id fileNum data compressed connId => exact absurd rfl (noBlock _ _ _ _ _)
  | _ => rfl

/-- A receipt keeps the two sides linked. -/
theorem Linked.connectionReceive (linked : Linked json windows link past) (clickTime : Int) :
    Linked json windows
      (link.ofConnection (connectionReceive json clickTime link.connection link.stream)).1
      (past ++
        (link.ofConnection (connectionReceive json clickTime link.connection link.stream)).2) := by
  obtain ⟨⟨rx, phase⟩, cm, ⟨toCm, fromCm⟩⟩ := link
  have same : Linked json windows ⟨⟨rx, phase⟩, cm, ⟨toCm, fromCm⟩⟩ (past ++ []) := by
    rwa [List.append_nil]
  obtain ⟨down, up, accounted, entered⟩ := linked
  dsimp only at down up accounted entered ⊢
  cases phase with
  | starting => cases entered
  | ended => cases entered
  | block payload => exact same
  | attach header =>
      cases fromCm with
      | nil => exact same
      | cons payload rest =>
          change Linked json windows ⟨⟨rx, .idle⟩, cm, ⟨toCm, rest⟩⟩ (past ++ [.passed _ _])
          refine ⟨?_, ?_, accounted.passed .connection _ fun _ => ?_, trivial⟩
          · rw [sentBy_append, receivedBy_append]
            exact down.silent
          · rw [sentBy_append, receivedBy_append]
            exact up.join.sentNothing
          · rw [withPayload_isClickTime]
            exact entered
  | idle =>
      cases fromCm with
      | nil => exact same
      | cons frame rest =>
          obtain ⟨value, -, rfl, reads⟩ := up.read
          obtain ⟨bare, decoded, noBlock⟩ | ⟨id, fileNum, data, compressed, connId, rfl, decoded⟩ :=
            cmFraming_cases json value
          · obtain ⟨-, read⟩ | ⟨some_, -⟩ := reads
            · by_cases click : value.isClickTime = true
              · cases value with
                | clickTime ms =>
                    have written : (connectionFraming json).Underway _
                        (toCm ++ [json.encode (.clickTime clickTime)]) [] _ _ _ :=
                      down.write (.clickTime clickTime)
                    simp only [Link.ofConnection, Ipc.connectionReceive, decoded]
                    refine ⟨?_, ?_, accounted.answer ms clickTime, trivial⟩
                    · rw [sentBy_append, receivedBy_append]
                      exact written.receivedNothing
                    · rw [sentBy_append, receivedBy_append]
                      exact read.sentNothing
                | _ => cases click
              · rw [Bool.not_eq_true] at click
                rw [connectionReceive_pass clickTime rx toCm rest _ value decoded noBlock click]
                refine ⟨?_, ?_, accounted.passed .connection value fun _ => click, trivial⟩
                · rw [sentBy_append, receivedBy_append]
                  exact down.silent
                · rw [sentBy_append, receivedBy_append]
                  exact read.sentNothing
            · rw [bare] at some_
              cases some_
          · obtain ⟨bare, -⟩ | ⟨-, waits⟩ := reads
            · cases bare
            · simp only [Link.ofConnection, Ipc.connectionReceive, decoded, List.append_nil]
              refine ⟨down, waits _ ?_, accounted, rfl⟩
              intro payload same
              cases same
              rfl

theorem connectionSend_cons (rx : List (Data α)) (stream : Stream) (value : Data α) :
    connectionSend json ⟨value :: rx, .idle⟩ stream =
      (⟨rx, ((connectionFraming json).body value).elim .idle .block⟩,
        { stream with toCm := stream.toCm ++ [(connectionFraming json).header value] },
        [.sent .connection false value]) := by
  cases value with
  | fs fs => cases fs <;> rfl
  | _ => rfl

theorem unsent_elim (body : Option Bytes) :
    (body.elim (.idle : Phase α) .block).unsent = body.toList ∧
      (body.elim (.idle : Phase α) .block).pending = none := by
  cases body <;> exact ⟨rfl, rfl⟩

/-- A send keeps the two sides linked. -/
theorem Linked.connectionSend (linked : Linked json windows link past) :
    Linked json windows (link.ofConnection (connectionSend json link.connection link.stream)).1
      (past ++ (link.ofConnection (connectionSend json link.connection link.stream)).2) := by
  obtain ⟨⟨rx, phase⟩, cm, ⟨toCm, fromCm⟩⟩ := link
  have same : Linked json windows ⟨⟨rx, phase⟩, cm, ⟨toCm, fromCm⟩⟩ (past ++ []) := by
    rwa [List.append_nil]
  obtain ⟨down, up, accounted, entered⟩ := linked
  dsimp only at down up accounted entered ⊢
  cases phase with
  | starting => cases entered
  | ended => cases entered
  | attach header => exact same
  | block payload =>
      change Linked json windows ⟨⟨rx, .idle⟩, cm, ⟨toCm ++ [payload], fromCm⟩⟩ (past ++ [])
      rw [List.append_nil]
      exact ⟨down.flush, up, accounted, trivial⟩
  | idle =>
      cases rx with
      | nil => exact same
      | cons value rest =>
          have written := down.write value
          rw [connectionSend_cons]
          obtain ⟨unsent, pending⟩ := unsent_elim (α := α) ((connectionFraming json).body value)
          refine ⟨?_, ?_, accounted.forwardOfConnection, ?_⟩
          · dsimp only [Link.ofConnection]
            rw [unsent, sentBy_append, receivedBy_append]
            exact written.receivedNothing
          · dsimp only [Link.ofConnection]
            rw [pending, sentBy_append, receivedBy_append]
            exact up.silent
          · dsimp only [Link.ofConnection]
            cases (connectionFraming json).body value <;> trivial

/-- The start keeps the two sides linked. -/
theorem Linked.cmStart (linked : Linked json windows link past) (enabled : Bool) :
    Linked json windows (link.ofCm (cmStart json windows enabled link.cm link.stream)).1
      (past ++ (link.ofCm (cmStart json windows enabled link.cm link.stream)).2) := by
  obtain ⟨connection, ⟨rx, phase⟩, ⟨toCm, fromCm⟩⟩ := link
  have same : Linked json windows ⟨connection, ⟨rx, phase⟩, ⟨toCm, fromCm⟩⟩ (past ++ []) := by
    rwa [List.append_nil]
  obtain ⟨down, up, accounted, entered⟩ := linked
  cases phase with
  | starting =>
      unfold Ipc.cmStart
      dsimp only at down up accounted entered ⊢
      split
      next both =>
        rw [Bool.and_eq_true] at both
        have written : (cmFraming json).Underway _
            (fromCm ++ [json.encode (.clipboardFile .monitorReady)]) [] _ _ _ :=
          up.write (.clipboardFile .monitorReady)
        refine ⟨?_, ?_, accounted.announce both.1, entered⟩
        · rw [sentBy_append, receivedBy_append]
          exact down.silent
        · rw [sentBy_append, receivedBy_append]
          exact written.receivedNothing
      next =>
        change Linked json windows ⟨connection, ⟨rx, .idle⟩, ⟨toCm, fromCm⟩⟩ (past ++ [])
        rw [List.append_nil]
        exact ⟨down, up, accounted, entered⟩
  | _ => exact same

theorem cmSend_cons (rx : List (Data α)) (stream : Stream) (value : Data α) :
    cmSend json ⟨value :: rx, .idle⟩ stream =
      (⟨rx, ((cmFraming json).body value).elim .idle .block⟩,
        { stream with fromCm := stream.fromCm ++ [(cmFraming json).header value] },
        [.sent .cm false value]) := by
  cases value <;> rfl

/-- A send of the manager keeps them linked. -/
theorem Linked.cmSend (linked : Linked json windows link past) :
    Linked json windows (link.ofCm (cmSend json link.cm link.stream)).1
      (past ++ (link.ofCm (cmSend json link.cm link.stream)).2) := by
  obtain ⟨connection, ⟨rx, phase⟩, ⟨toCm, fromCm⟩⟩ := link
  have same : Linked json windows ⟨connection, ⟨rx, phase⟩, ⟨toCm, fromCm⟩⟩ (past ++ []) := by
    rwa [List.append_nil]
  obtain ⟨down, up, accounted, entered⟩ := linked
  dsimp only at down up accounted entered ⊢
  cases phase with
  | starting => exact same
  | ended => exact same
  | attach header => exact same
  | block payload =>
      change Linked json windows ⟨connection, ⟨rx, .idle⟩, ⟨toCm, fromCm ++ [payload]⟩⟩ (past ++ [])
      rw [List.append_nil]
      exact ⟨down, up.flush, accounted, entered⟩
  | idle =>
      cases rx with
      | nil => exact same
      | cons value rest =>
          have written := up.write value
          rw [cmSend_cons]
          obtain ⟨unsent, pending⟩ := unsent_elim (α := α) ((cmFraming json).body value)
          refine ⟨?_, ?_, accounted.forwardOfCm, entered⟩
          · dsimp only [Link.ofCm]
            rw [pending, sentBy_append, receivedBy_append]
            exact down.silent
          · dsimp only [Link.ofCm]
            rw [unsent, sentBy_append, receivedBy_append]
            exact written.receivedNothing

/-- The connection manager decodes the header of a value of the connection to what the serialization
keeps of it, or to a block without its data. -/
theorem connectionFraming_cases (json : Json α) (value : Data α) :
    ((connectionFraming json).body value = none ∧
      json.decode ((connectionFraming json).header value) = some value.skipped ∧
      ∀ id fileNum data compressed, value.skipped ≠ .fs (.writeBlock id fileNum data compressed)) ∨
    ∃ id fileNum data compressed, value = .fs (.writeBlock id fileNum data compressed) ∧
      json.decode ((connectionFraming json).header value) =
        some (.fs (.writeBlock id fileNum [] compressed)) := by
  cases value with
  | fs fs =>
      cases fs with
      | writeBlock id fileNum data compressed =>
          exact .inr ⟨id, fileNum, data, compressed, rfl, json.decode_encode _⟩
      | other fs => exact .inl ⟨rfl, json.decode_encode _, by simp [Data.skipped]⟩
  | _ => exact .inl ⟨rfl, json.decode_encode _, by simp [Data.skipped]⟩

theorem skipped_isClipboardNonFile (data : Data α) :
    data.skipped.isClipboardNonFile = data.isClipboardNonFile := by
  cases data <;> rfl

/-- A received value goes to the connection. -/
theorem cmReceive_pass (outcome : Except (List Char) (List Clipboard)) (rx : List (Data α))
    (rest fromCm : List Bytes) (frame : Bytes) (value : Data α)
    (decoded : json.decode frame = some value)
    (noBlock : ∀ id fileNum data compressed, value ≠ .fs (.writeBlock id fileNum data compressed))
    (noRequest : windows = true → value.isClipboardNonFile = false) :
    ∃ phase : Phase α, phase.unsent = [] ∧ phase.pending = none ∧
      cmReceive json windows outcome ⟨rx, .idle⟩ ⟨frame :: rest, fromCm⟩ =
        (⟨rx, phase⟩, ⟨rest, fromCm⟩, [.passed .cm value]) := by
  simp only [cmReceive, decoded]
  cases value with
  | login login => exact ⟨.starting, rfl, rfl, rfl⟩
  | close => exact ⟨.ended, rfl, rfl, rfl⟩
  | disconnected => exact ⟨.ended, rfl, rfl, rfl⟩
  | clipboardNonFile request =>
      cases windows with
      | false => exact ⟨.idle, rfl, rfl, rfl⟩
      | true => cases noRequest rfl
  | fs fs =>
      cases fs with
      | writeBlock id fileNum data compressed => exact absurd rfl (noBlock _ _ _ _)
      | other fs => exact ⟨.idle, rfl, rfl, rfl⟩
  | _ => exact ⟨.idle, rfl, rfl, rfl⟩

/-- A receipt of the manager keeps them linked. -/
theorem Linked.cmReceive (linked : Linked json windows link past)
    (outcome : Except (List Char) (List Clipboard)) :
    Linked json windows (link.ofCm (cmReceive json windows outcome link.cm link.stream)).1
      (past ++ (link.ofCm (cmReceive json windows outcome link.cm link.stream)).2) := by
  obtain ⟨connection, ⟨rx, phase⟩, ⟨toCm, fromCm⟩⟩ := link
  have same : Linked json windows ⟨connection, ⟨rx, phase⟩, ⟨toCm, fromCm⟩⟩ (past ++ []) := by
    rwa [List.append_nil]
  obtain ⟨down, up, accounted, entered⟩ := linked
  dsimp only at down up accounted entered ⊢
  cases phase with
  | starting => exact same
  | ended => exact same
  | block payload => exact same
  | attach header =>
      cases toCm with
      | nil => exact same
      | cons payload rest =>
          change Linked json windows ⟨connection, ⟨rx, .idle⟩, ⟨rest, fromCm⟩⟩ (past ++ [.passed _ _])
          refine ⟨?_, ?_, accounted.passed .cm _ (by simp), entered⟩
          · rw [sentBy_append, receivedBy_append]
            exact down.join.sentNothing
          · rw [sentBy_append, receivedBy_append]
            exact up.silent
  | idle =>
      cases toCm with
      | nil => exact same
      | cons frame rest =>
          obtain ⟨value, member, rfl, reads⟩ := down.read
          obtain ⟨bare, decoded, noBlock⟩ | ⟨id, fileNum, data, compressed, rfl, decoded⟩ :=
            connectionFraming_cases json value
          · obtain ⟨-, read⟩ | ⟨some_, -⟩ := reads
            · have noRequest : windows = true → value.skipped.isClipboardNonFile = false := by
                intro onWindows
                rw [skipped_isClipboardNonFile]
                exact accounted.noRequest onWindows value (List.mem_append_left _ member)
              obtain ⟨phase, unsent, pending, step⟩ :=
                cmReceive_pass outcome rx rest fromCm _ _ decoded noBlock noRequest
              rw [step]
              refine ⟨?_, ?_, accounted.passed .cm _ (by simp), entered⟩
              · dsimp only [Link.ofCm]
                rw [pending, sentBy_append, receivedBy_append]
                exact read.sentNothing
              · dsimp only [Link.ofCm]
                rw [unsent, sentBy_append, receivedBy_append]
                exact up.silent
            · rw [bare] at some_
              cases some_
          · obtain ⟨bare, -⟩ | ⟨-, waits⟩ := reads
            · cases bare
            · simp only [Link.ofCm, Ipc.cmReceive, decoded, List.append_nil]
              refine ⟨waits _ ?_, up, accounted, entered⟩
              intro payload same
              cases same
              rfl

/-- Every step keeps the link in step. -/
theorem Linked.step (linked : Linked json windows link past) (input : LinkInput α)
    (fine : windows = true → ∀ data, input = .queue .connection data → data.isClipboardNonFile = false) :
    Linked json windows ((Ipc.link json windows).step link input).1
      (past ++ ((Ipc.link json windows).step link input).2) := by
  cases input with
  | connectionReceive clickTime => exact linked.connectionReceive clickTime
  | connectionSend => exact linked.connectionSend
  | cmStart enabled => exact linked.cmStart enabled
  | cmReceive outcome => exact linked.cmReceive outcome
  | cmSend => exact linked.cmSend
  | queue party data =>
      obtain ⟨down, up, accounted, entered⟩ := linked
      cases party with
      | connection =>
          refine ⟨?_, ?_, ?_, entered⟩
          · rw [sentBy_append, receivedBy_append]
            exact down.silent
          · rw [sentBy_append, receivedBy_append]
            exact up.silent
          · exact accounted.queueForConnection data fun onWindows => fine onWindows data rfl
      | cm =>
          refine ⟨?_, ?_, accounted.queueForCm data, entered⟩
          · rw [sentBy_append, receivedBy_append]
            exact down.silent
          · rw [sentBy_append, receivedBy_append]
            exact up.silent

/-- At the start the two sides are linked. -/
theorem linked_start : Linked json windows (.start : Link α) [] where
  toCm := Framing.underway_start
  fromCm := Framing.underway_start
  accounted :=
    { decoded := by simp
      queueOfConnection := rfl
      queueOfCm := rfl
      passedOn := rfl
      passedOnByCm := rfl
      answers := rfl
      clickTimes := by simp [addedBy]
      announced := by simp [addedBy]
      noRequest := by simp [sentBy, Link.start] }
  entered := trivial

/-- The connection queues no clipboard request for a connection manager on Windows. -/
def NoClipboardRequest (windows : Bool) (inputs : List (LinkInput α)) : Prop :=
  windows = true → ∀ data, .queue .connection data ∈ inputs → data.isClipboardNonFile = false

/-- In every run the two sides stay linked. -/
theorem linked_run (inputs : List (LinkInput α)) (noRequest : NoClipboardRequest windows inputs) :
    Linked json windows ((Ipc.link json windows).run .start inputs).1
      ((Ipc.link json windows).run .start inputs).2 := by
  refine (Ipc.link json windows).run_invariant
    (fun _ input => windows = true →
      ∀ data, input = .queue .connection data → data.isClipboardNonFile = false)
    (Linked json windows) (fun link past input fine linked => linked.step input fine)
    .start [] inputs linked_start ?_
  apply Machine.guarded_of_forall
  rintro input member onWindows data rfl
  exact noRequest onWindows data member

end Steps

section Settled

variable {json : Json α} {link : Link α}

/-- No task has a step to make. -/
def Settled (json : Json α) (windows : Bool) (link : Link α) : Prop :=
  ∀ input, (∀ party data, input ≠ .queue party data) →
    (Ipc.link json windows).step link input = (link, [])

/-- A receipt takes one frame. -/
theorem connectionReceive_reads (clickTime : Int) (rx : List (Data α)) (toCm rest : List Bytes)
    (frame : Bytes) :
    (connectionReceive json clickTime ⟨rx, .idle⟩ ⟨toCm, frame :: rest⟩).2.1.fromCm = rest := by
  unfold connectionReceive
  dsimp only
  split <;> rfl

theorem cmReceive_reads (outcome : Except (List Char) (List Clipboard)) (rx : List (Data α))
    (rest fromCm : List Bytes) (frame : Bytes) :
    (cmReceive json windows outcome ⟨rx, .idle⟩ ⟨frame :: rest, fromCm⟩).2.1.toCm = rest := by
  unfold cmReceive
  dsimp only
  split
  case h_6 => cases windows <;> rfl
  all_goals rfl

/-- The connection settles between two values, or before a payload that has not been sent. -/
theorem Settled.ofConnection (settled : Settled json windows link)
    (entered : link.connection.phase.Entered) :
    link.connection.phase.unsent = [] ∧ link.stream.fromCm = [] ∧
      (link.connection.phase.pending = none → link.connection.rx = []) := by
  have receive := settled (.connectionReceive 0) (by simp)
  have send := settled .connectionSend (by simp)
  obtain ⟨⟨rx, phase⟩, cm, ⟨toCm, fromCm⟩⟩ := link
  simp only [Ipc.link, Link.ofConnection] at receive send
  cases phase with
  | starting => cases entered
  | ended => cases entered
  | block payload => simp [connectionSend] at send
  | attach header =>
      cases fromCm with
      | nil => exact ⟨rfl, rfl, by simp [Phase.pending]⟩
      | cons frame rest => simp [connectionReceive] at receive
  | idle =>
      refine ⟨rfl, ?_, fun _ => ?_⟩
      · cases fromCm with
        | nil => rfl
        | cons frame rest =>
            have reads := congrArg (·.1.stream.fromCm) receive
            rw [connectionReceive_reads] at reads
            exact absurd reads (by simp)
      · cases rx with
        | nil => rfl
        | cons value rest =>
            rw [connectionSend_cons] at send
            exact absurd (congrArg Prod.snd send) (by simp)

/-- The connection manager settles between two values, or before a payload that has not been sent,
unless it has ended. -/
theorem Settled.ofCm (settled : Settled json windows link) (running : link.cm.phase ≠ .ended) :
    link.cm.phase.unsent = [] ∧ link.stream.toCm = [] ∧
      (link.cm.phase.pending = none → link.cm.rx = []) := by
  have start := settled (.cmStart false) (by simp)
  have receive := settled (.cmReceive (.ok [])) (by simp)
  have send := settled .cmSend (by simp)
  obtain ⟨connection, ⟨rx, phase⟩, ⟨toCm, fromCm⟩⟩ := link
  simp only [Ipc.link, Link.ofCm] at start receive send
  cases phase with
  | starting => simp [cmStart] at start
  | ended => exact absurd rfl running
  | block payload => simp [cmSend] at send
  | attach header =>
      cases toCm with
      | nil => exact ⟨rfl, rfl, by simp [Phase.pending]⟩
      | cons frame rest => simp [cmReceive] at receive
  | idle =>
      refine ⟨rfl, ?_, fun _ => ?_⟩
      · cases toCm with
        | nil => rfl
        | cons frame rest =>
            have reads := congrArg (·.1.stream.toCm) receive
            rw [cmReceive_reads] at reads
            exact absurd reads (by simp)
      · cases rx with
        | nil => rfl
        | cons value rest =>
            rw [cmSend_cons] at send
            exact absurd (congrArg Prod.snd send) (by simp)

end Settled

/-- Each side passes on what the other side has sent, in order and with its payloads. The connection
passes on no click time, and answers each with its own. What is sent are the queued values, these
answers, and on Windows the announcements of the connection manager. -/
structure PassedOn (json : Json α) (windows : Bool) (link : Link α) (events : List (Event α)) :
    Prop where
  toConnection : passedBy .connection events <+: (sentBy .cm events).filter (!·.isClickTime)
  toCm : passedBy .cm events <+: (sentBy .connection events).map Data.skipped
  decoded : ∀ event ∈ events, event.isIgnored = false
  inOrder : ∀ party, forwardedBy party events <+: queuedBy party events
  answers : (addedBy .connection events).length = (answered events).length
  clickTimes : ∀ data ∈ addedBy .connection events, data.isClickTime = true
  announced : ∀ data ∈ addedBy .cm events, windows = true ∧ data = .clipboardFile .monitorReady
  complete : Settled json windows link → link.cm.phase ≠ .ended →
    passedBy .connection events = (sentBy .cm events).filter (!·.isClickTime) ∧
    passedBy .cm events = (sentBy .connection events).map Data.skipped ∧
    ∀ party, forwardedBy party events = queuedBy party events

/-- In a settled state every value was passed. -/
theorem Linked.complete {json : Json α} {link : Link α} (linked : Linked json windows link past)
    (settled : Settled json windows link) (running : link.cm.phase ≠ .ended) :
    passedBy .connection past = (sentBy .cm past).filter (!·.isClickTime) ∧
    passedBy .cm past = (sentBy .connection past).map Data.skipped ∧
    ∀ party, forwardedBy party past = queuedBy party past := by
  obtain ⟨down, up, accounted, entered⟩ := linked
  obtain ⟨unsentDown, emptyUp, rxDown⟩ := settled.ofConnection entered
  obtain ⟨unsentUp, emptyDown, rxUp⟩ := settled.ofCm running
  rw [emptyDown, unsentDown] at down
  rw [emptyUp, unsentUp] at up
  obtain ⟨betweenDown, receivedDown⟩ := down.complete
  obtain ⟨betweenUp, receivedUp⟩ := up.complete
  refine ⟨?_, ?_, fun party => ?_⟩
  · rw [accounted.passedOn, receivedUp, List.map_id]
  · rw [accounted.passedOnByCm, receivedDown]
  · cases party with
    | connection => rw [accounted.queueOfConnection, rxDown betweenUp, List.append_nil]
    | cm => rw [accounted.queueOfCm, rxUp betweenDown, List.append_nil]

/-- In every order of the steps each side passes on exactly what the other side has sent. -/
theorem link_passes_on (json : Json α) (windows : Bool) (inputs : List (LinkInput α))
    (noRequest : NoClipboardRequest windows inputs) :
    PassedOn json windows ((link json windows).run .start inputs).1
      ((link json windows).run .start inputs).2 := by
  have linked : Linked json windows _ _ := linked_run inputs noRequest
  have accounted := linked.accounted
  refine
    { toConnection := ?_
      toCm := ?_
      decoded := accounted.decoded
      inOrder := ?_
      answers := accounted.answers
      clickTimes := accounted.clickTimes
      announced := accounted.announced
      complete := linked.complete }
  · rw [accounted.passedOn]
    have received := linked.fromCm.isPrefix
    rw [List.map_id] at received
    exact received.filter _
  · rw [accounted.passedOnByCm]
    exact linked.toCm.isPrefix
  · intro party
    cases party with
    | connection =>
        rw [accounted.queueOfConnection]
        exact List.prefix_append _ _
    | cm =>
        rw [accounted.queueOfCm]
        exact List.prefix_append _ _

section Numbered

instance encodableByte : Encodable UInt8 :=
  Encodable.ofLeftInverse UInt8.toNat UInt8.ofNat fun byte => by simp

instance encodableChar : Encodable Char := Encodable.ofLeftInverse Char.toNat Char.ofNat fun char => by simp

deriving instance Encodable for FS, ClipboardFile, ClipboardNonFile

deriving instance Encodable for Data

/-- The bytes of a number. -/
def ofNumber (number : Nat) : Bytes := (Nat.digits 256 number).map UInt8.ofNat

def toNumber (bytes : Bytes) : Nat := Nat.ofDigits 256 (bytes.map UInt8.toNat)

theorem toNumber_ofNumber (number : Nat) : toNumber (ofNumber number) = number := by
  unfold toNumber ofNumber
  rw [List.map_map]
  have same : List.map (UInt8.toNat ∘ UInt8.ofNat) (Nat.digits 256 number) =
      Nat.digits 256 number := by
    conv_rhs => rw [← List.map_id (Nat.digits 256 number)]
    refine List.map_congr_left fun digit member => ?_
    have small := Nat.digits_lt_base (by omega) member
    simpa using Nat.mod_eq_of_lt small
  rw [same, Nat.ofDigits_digits]

/-- A serialization of values by numbers. -/
def numbered : Json Nat where
  encode data := ofNumber (Encodable.encode data.skipped)
  decode bytes := Encodable.decode (toNumber bytes)
  decode_encode data := by rw [toNumber_ofNumber, Encodable.encodek]

end Numbered

/-- A block with an empty payload between two other values reaches the connection manager. -/
theorem empty_block_passed :
    PassedOn numbered true
      ((link numbered true).run .start [.queue .connection (.other 1),
        .queue .connection (.fs (.writeBlock 7 0 [] false)), .queue .connection (.other 2),
        .cmStart true, .connectionSend, .connectionSend, .cmReceive (.ok []), .connectionSend]).1
      ((link numbered true).run .start [.queue .connection (.other 1),
        .queue .connection (.fs (.writeBlock 7 0 [] false)), .queue .connection (.other 2),
        .cmStart true, .connectionSend, .connectionSend, .cmReceive (.ok []), .connectionSend]).2 := by
  refine link_passes_on numbered true _ fun _ data member => ?_
  simp only [List.mem_cons, LinkInput.queue.injEq, true_and, reduceCtorEq, List.not_mem_nil,
    or_false] at member
  obtain rfl | rfl | rfl := member <;> rfl

theorem clickTime_run (json : Json α) :
    (link json false).run .start [.cmStart false, .queue .cm (.clickTime 0), .cmSend,
        .connectionReceive 5, .cmReceive (.ok [])] =
      (⟨⟨[], .idle⟩, ⟨[], .idle⟩, ⟨[], []⟩⟩,
        [.queued .cm (.clickTime 0), .sent .cm false (.clickTime 0), .answered (.clickTime 0),
          .sent .connection true (.clickTime 5), .passed .cm (.clickTime 5)]) := by
  simp [Machine.run, link, Link.start, Link.ofCm, Link.ofConnection, cmStart, cmSend,
    connectionReceive, cmReceive, json.decode_encode, Data.skipped]

theorem settled_empty (json : Json α) (windows : Bool) :
    Settled json windows ⟨⟨[], .idle⟩, ⟨[], .idle⟩, ⟨[], []⟩⟩ := by
  intro input noQueue
  cases input with
  | queue party data => exact absurd rfl (noQueue party data)
  | _ => rfl

/-- A click time that the connection manager has queued is not passed on. -/
theorem click_time_not_passed :
    ∃ inputs : List (LinkInput Nat),
      Settled numbered false ((link numbered false).run .start inputs).1 ∧
      queuedBy .cm ((link numbered false).run .start inputs).2 = [.clickTime 0] ∧
      passedBy .connection ((link numbered false).run .start inputs).2 = [] := by
  refine ⟨[.cmStart false, .queue .cm (.clickTime 0), .cmSend, .connectionReceive 5,
    .cmReceive (.ok [])], ?_⟩
  rw [clickTime_run]
  exact ⟨settled_empty numbered false, rfl, rfl⟩

end SubnetDesk.Ipc
