/-
This file defines the three readers of the messages that the user interface sends to a session.
-/

import SubnetDesk.Foundation.Machine

namespace SubnetDesk.Session

/-- The messages with a meaning for a reader. The loop handles every other one in the same way. -/
inductive Data (Payload : Type) where
  | close
  | trustLanDevice
  | rejectLanDevice
  | submitLanCredentials
  | other (payload : Payload)
deriving DecidableEq

/-- Where `io_loop` stands. -/
inductive Stage where
  | starting
  | confirming
  | loggingIn
  | running
  | ended
deriving DecidableEq

structure Remote (Payload : Type) where
  receiver : List (Data Payload)
  pendingUiMessages : List (Data Payload)
  stage : Stage
deriving DecidableEq

/-- What `Client::start` and the trusted devices say about the peer. -/
inductive Peer where
  | unreachable
  | untrusted
  | trusted
  | unknown
deriving DecidableEq

/-- The branch that the main loop selects. A message or a timer of the peer can end the loop. -/
inductive Branch where
  | receiver
  | peer (continues : Bool)
deriving DecidableEq

inductive Event (Payload : Type) where
  | send (data : Data Payload)
  | started (peer : Peer)
  | confirm (saves : Bool)
  | wait
  | hangUp
  | loginReady
  | deadline
  | turn (branch : Branch)
deriving DecidableEq

inductive Output (Payload : Type) where
  | sent (data : Data Payload)
  | handled (data : Data Payload)
deriving DecidableEq

variable {Payload : Type}

/-- The prompt drops what is not an answer. -/
def Remote.confirmLanDevice (remote : Remote Payload) (saves : Bool) : Remote Payload :=
  match remote.receiver with
  | [] => remote
  | data :: rest =>
      { remote with
        receiver := rest
        stage :=
          match data with
          | .trustLanDevice => if saves then .loggingIn else .ended
          | .rejectLanDevice => .ended
          | .close => .ended
          | .submitLanCredentials => .confirming
          | .other _ => .confirming }

/-- The wait for the credential store puts aside what it does not answer. -/
def Remote.waitForLanLogin (remote : Remote Payload) : Remote Payload :=
  match remote.receiver with
  | [] => remote
  | .close :: rest => { remote with receiver := rest, stage := .ended }
  | data :: rest =>
      { remote with receiver := rest, pendingUiMessages := remote.pendingUiMessages ++ [data] }

def Remote.handleMsgFromUi (remote : Remote Payload) (data : Data Payload) :
    Remote Payload × List (Output Payload) :=
  ({ remote with
      stage :=
        match data with
        | .close => .ended
        | .submitLanCredentials => .loggingIn
        | .trustLanDevice => .running
        | .rejectLanDevice => .running
        | .other _ => .running }, [.handled data])

/-- A turn of the main loop handles what was put aside before it selects. -/
def Remote.turn (remote : Remote Payload) (branch : Branch) :
    Remote Payload × List (Output Payload) :=
  match remote.pendingUiMessages with
  | data :: rest => { remote with pendingUiMessages := rest }.handleMsgFromUi data
  | [] =>
      match branch with
      | .receiver =>
          match remote.receiver with
          | data :: rest => { remote with receiver := rest }.handleMsgFromUi data
          | [] => (remote, [])
      | .peer true => (remote, [])
      | .peer false => ({ remote with stage := .ended }, [])

def Remote.step (remote : Remote Payload) (event : Event Payload) :
    Remote Payload × List (Output Payload) :=
  match event, remote.stage with
  | .send data, _ => ({ remote with receiver := remote.receiver ++ [data] }, [.sent data])
  | .started .unreachable, .starting => ({ remote with stage := .ended }, [])
  | .started .untrusted, .starting => ({ remote with stage := .ended }, [])
  | .started .trusted, .starting => ({ remote with stage := .loggingIn }, [])
  | .started .unknown, .starting => ({ remote with stage := .confirming }, [])
  | .confirm saves, .confirming => (remote.confirmLanDevice saves, [])
  | .hangUp, .confirming => ({ remote with stage := .ended }, [])
  | .wait, .loggingIn => (remote.waitForLanLogin, [])
  | .hangUp, .loggingIn => ({ remote with stage := .ended }, [])
  | .loginReady, .loggingIn => ({ remote with stage := .running }, [])
  | .deadline, .loggingIn => ({ remote with stage := .ended }, [])
  | .turn branch, .running => remote.turn branch
  | _, _ => (remote, [])

/-- The interface sends at any time, and the session takes its steps. -/
def machine (Payload : Type) : Machine (Remote Payload) (Event Payload) (Output Payload) where
  step := Remote.step

def Remote.new : Remote Payload := ⟨[], [], .starting⟩

end SubnetDesk.Session
