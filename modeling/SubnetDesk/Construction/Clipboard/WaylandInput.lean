/-
This file defines the records of texts that are injected through the clipboard, and the check that
keeps them out of the clipboard sync.
-/

import SubnetDesk.Foundation.Machine
import SubnetDesk.Foundation.Utf8Strict

namespace SubnetDesk.WaylandInput

inductive ClipboardFormat where
  | text
  | rtf
  | html
  | imageRgba
  | imagePng
  | imageSvg
  | special
  deriving DecidableEq

/-- A format without a name is unknown. -/
structure Clipboard where
  format : Option ClipboardFormat
  compress : Bool
  content : List UInt8
  deriving DecidableEq

inductive Message where
  | clipboard (item : Clipboard)
  | multiClipboards (items : List Clipboard)
  | other
  deriving DecidableEq

def Message.clipboards : Message → List Clipboard
  | .clipboard item => [item]
  | .multiClipboards items => items
  | .other => []

/-- Instants count nanoseconds. -/
structure Record where
  createdAt : Nat
  normalized : List Char
  deriving DecidableEq

def filterWindow : Nat := 1000000000

def maxRecords : Nat := 256

def maxTextChars : Nat := 1024

def skipCheckMaxUtf8Bytes : Nat := maxTextChars * 4

def Record.recent (now : Nat) (record : Record) : Bool := now - record.createdAt ≤ filterWindow

def cleanup (records : List Record) (now : Nat) : List Record :=
  let records := records.filter (Record.recent now)
  records.drop (records.length - maxRecords)

def normalize (text : List Char) : List Char := text.take maxTextChars

def normalizedText (text : List Char) : Option (List Char) :=
  if normalize text = [] then none else some (normalize text)

def record (records : List Record) (text : List Char) (now : Nat) : List Record × Option Record :=
  match normalizedText text with
  | none => (records, none)
  | some normalized =>
      (cleanup records now ++ [⟨now, normalized⟩], some ⟨now, normalized⟩)

/-- The last record that is equal is removed. -/
def rollback (records : List Record) (own : Record) (now : Nat) : List Record :=
  ((cleanup records now).reverse.eraseP fun record => record = own).reverse

def isRecent (records : List Record) (text : List Char) (now : Nat) : Bool × List Record :=
  match normalizedText text with
  | none => (false, records)
  | some normalized =>
      ((cleanup records now).any fun record => record.normalized = normalized, cleanup records now)

def decodeUtf8Prefix (bytes : List UInt8) : Option (List Char) :=
  let slice := bytes.take skipCheckMaxUtf8Bytes
  match Utf8.fromUtf8 slice with
  | .ok text => some text
  | .error e =>
      match e.errorLen with
      | some _ => none
      | none => (Utf8.fromUtf8 (slice.take e.validUpTo)).toOption

section Codec

variable (decompress : List UInt8 → List UInt8)

def decodeTextClipboard (clipboard : Clipboard) : Option (List Char) :=
  if clipboard.format = some .text then
    if clipboard.compress then decodeUtf8Prefix (decompress clipboard.content)
    else decodeUtf8Prefix clipboard.content
  else none

def isRecentWaylandInput (records : List Record) (clipboard : Clipboard) (now : Nat) :
    Bool × List Record :=
  match decodeTextClipboard decompress clipboard with
  | none => (false, records)
  | some text => isRecent records text now

/-- An injection is remembered with its whole text. -/
structure Injection where
  createdAt : Nat
  text : List Char
  rolledBack : Bool := false
  deriving DecidableEq

/-- One item of the message is checked at a time, and the check remembers how many injections came
before it. -/
structure Check where
  msg : Message
  clipboard : Clipboard
  rest : List Clipboard
  start : Nat
  deriving DecidableEq

/-- One injection is under way at a time. -/
structure State where
  records : List Record := []
  injecting : Option (Option Record) := none
  checking : Option Check := none
  history : List Injection := []
  clock : Nat := 0

inductive Input where
  | record (text : List Char) (now : Nat)
  | setClipboardContent (ok : Bool) (now : Nat)
  | check (msg : Message)
  | checkNext (now : Nat)

inductive Output where
  | shouldSkip (msg : Message) (skip : Bool)
  deriving DecidableEq

def Input.now? : Input → Option Nat
  | .record _ now | .setClipboardContent _ now | .checkNext now => some now
  | .check _ => none

def State.record (state : State) (text : List Char) (now : Nat) : State :=
  match state.injecting with
  | some _ => state
  | none =>
      let (records, own) := WaylandInput.record state.records text now
      { state with
        records := records
        injecting := some own
        history := if own.isSome then state.history ++ [⟨now, text, false⟩] else state.history }

/-- A text that does not reach the clipboard loses its record. -/
def State.setClipboardContent (state : State) (ok : Bool) (now : Nat) : State :=
  match state.injecting with
  | none => state
  | some own =>
      let next := { state with injecting := none }
      match own with
      | none => next
      | some own =>
          if ok then next
          else
            { next with
              records := rollback next.records own now
              history := next.history.dropLast ++
                (next.history.getLast?.map fun last => { last with rolledBack := true }).toList }

def State.check (state : State) (msg : Message) : State × List Output :=
  match state.checking, msg.clipboards with
  | some _, _ => (state, [])
  | none, [] => (state, [.shouldSkip msg false])
  | none, clipboard :: rest =>
      ({ state with checking := some ⟨msg, clipboard, rest, state.history.length⟩ }, [])

def State.checkNext (state : State) (now : Nat) : State × List Output :=
  match state.checking with
  | none => (state, [])
  | some check =>
      let (recent, records) := isRecentWaylandInput decompress state.records check.clipboard now
      let state := { state with records := records }
      if recent then ({ state with checking := none }, [.shouldSkip check.msg true])
      else
        match check.rest with
        | [] => ({ state with checking := none }, [.shouldSkip check.msg false])
        | clipboard :: rest =>
            ({ state with checking := some { check with
                clipboard := clipboard
                rest := rest } }, [])

/-- The clock is the last instant that was read. -/
def State.step (state : State) (input : Input) : State × List Output :=
  let state := { state with clock := input.now?.getD state.clock }
  match input with
  | .record text now => (state.record text now, [])
  | .setClipboardContent ok now => (state.setClipboardContent ok now, [])
  | .check msg => state.check msg
  | .checkNext now => state.checkNext decompress now

def waylandInput : Machine State Input Output where
  step := State.step decompress

end Codec

/-- The item is a text, compressed or not. -/
def Clipboard.Holds (compress : List UInt8 → List UInt8) (clipboard : Clipboard)
    (text : List Char) : Prop :=
  clipboard.format = some .text ∧
    clipboard.content =
      if clipboard.compress then compress (Utf8.encode text) else Utf8.encode text

/-- An injection counts at an instant when it is not rolled back, is at most one second old, and has
fewer than 256 injections after it. -/
structure State.Remembers (state : State) (now number : Nat) (injection : Injection) : Prop where
  found : state.history[number]? = some injection
  few : state.history.length - (number + 1) < maxRecords
  kept : injection.rolledBack = false
  recent : now - injection.createdAt ≤ filterWindow

/-- The clock does not go back. -/
def State.Timely (state : State) (input : Input) : Prop :=
  ∀ now ∈ input.now?, state.clock ≤ now

instance decidableTimely (state : State) (input : Input) : Decidable (state.Timely input) :=
  inferInstanceAs (Decidable (∀ now ∈ input.now?, state.clock ≤ now))

end SubnetDesk.WaylandInput
