/-
This file defines the framed transport of the producer, which carries file descriptors beside bytes.
-/

import SubnetDesk.Construction.Drm.Geometry
import SubnetDesk.Foundation.Machine

namespace SubnetDesk.Drm

def maxDrmJsonBytes : Nat := 8 * 1024 * 1024

def maxDrmRawBytes : Nat := 512 * 1024 * 1024

/-- The big endian bytes of the low 32 bits of a number. -/
def u32ToBeBytes (value : Nat) : Bytes :=
  [UInt8.ofNat (value / 2 ^ 24), UInt8.ofNat (value / 2 ^ 16), UInt8.ofNat (value / 2 ^ 8),
    UInt8.ofNat value]

def u32FromBeBytes (bytes : Bytes) : Nat :=
  bytes.foldl (fun value byte => 2 ^ 8 * value + byte.toNat) 0

/-- The messages are coded as JSON outside this repository. -/
structure Codec (Data : Type) where
  encode : Data → Bytes
  decode : Bytes → Option Data

section Sending

variable {Data Fd : Type}

/-- A byte of the stream, with the descriptor of the write that began at it. -/
structure Cell (Fd : Type) where
  byte : UInt8
  fd : Option Fd
deriving DecidableEq

inductive Send (Data Fd : Type) where
  | msg (data : Data) (fd : Option Fd)
  | raw (bytes : Bytes)
deriving DecidableEq

/-- What is left of one `drm_write_all`. -/
structure Piece (Fd : Type) where
  bytes : Bytes
  fd : Option Fd
deriving DecidableEq

/-- The descriptor goes with the length, and a payload that has no length is refused. -/
def drmSendFrame (payload : Bytes) (passFd : Option Fd) : Option (List (Piece Fd)) :=
  if 2 ^ 32 - 1 < payload.length then none
  else some [⟨u32ToBeBytes payload.length, passFd⟩, ⟨payload, none⟩]

def Send.pieces (codec : Codec Data) : Send Data Fd → Option (List (Piece Fd))
  | .msg data fd => drmSendFrame (codec.encode data) fd
  | .raw bytes => drmSendFrame bytes none

/-- The kernel binds a descriptor to the first byte of its write. -/
def cellsOf (fd : Option Fd) : Bytes → List (Cell Fd)
  | [] => []
  | byte :: rest => ⟨byte, fd⟩ :: rest.map fun byte => ⟨byte, none⟩

/-- The kernel accepts some of the bytes, and the descriptor is not sent again. -/
def drmWriteAll (unsent : List (Piece Fd)) (size : Nat) : List (Cell Fd) × List (Piece Fd) :=
  match unsent with
  | [] => ([], [])
  | ⟨[], _⟩ :: rest => ([], rest)
  | ⟨byte :: bytes, fd⟩ :: rest =>
      let accepted := min (max size 1) (bytes.length + 1)
      (cellsOf fd ((byte :: bytes).take accepted), ⟨(byte :: bytes).drop accepted, none⟩ :: rest)

end Sending

/-- A message is received with or without a time limit. -/
inductive RxCall where
  | msg (limited : Bool)
  | raw
deriving DecidableEq

def RxCall.maxBytes : RxCall → Nat
  | .msg _ => maxDrmJsonBytes
  | .raw => maxDrmRawBytes

/-- A receiver waits for the first byte, reads the length, or reads the body. -/
inductive RxPhase (Fd : Type) where
  | idle
  | waiting
  | heading (call : RxCall) (buf : Bytes) (off : Nat) (fd : Option Fd)
  | body (call : RxCall) (len off : Nat) (fd : Option Fd)
  | failed
deriving DecidableEq

def RxPhase.isIdle {Fd : Type} : RxPhase Fd → Bool
  | .idle => true
  | _ => false

def RxPhase.isWaiting {Fd : Type} : RxPhase Fd → Bool
  | .waiting => true
  | _ => false

/-- The numbers of received payloads and of bytes that the current call has eaten are history. -/
structure WireState (Fd : Type) where
  unsent : List (Piece Fd)
  socket : List (Cell Fd)
  readBuf : Bytes
  out : Bytes
  consumed : Bool
  phase : RxPhase Fd
  received : Nat
  eaten : Nat
deriving DecidableEq

inductive WireOutput (Data Fd : Type) where
  | message (data : Data) (fd : Option Fd)
  | rawBody (bytes : Bytes)
  | nothing (eaten : Nat)
  | rejected (call : RxCall) (len eaten : Nat)
  | garbled
  | stalled
deriving DecidableEq

/-- The socket takes and gives some bytes, a call begins, the socket is ready, a time limit expires,
or the socket breaks. -/
inductive WireInput where
  | write (size : Nat)
  | recvMsg
  | recvMsgTimeout2
  | nextRawInto
  | ready
  | read (size : Nat)
  | expire
  | broken
deriving DecidableEq

section Receiving

variable {Data Fd : Type} (codec : Codec Data)

/-- A read does not reach across the beginning of a write with a descriptor. -/
def readable : List (Cell Fd) → Nat
  | [] => 0
  | _ :: rest => (rest.takeWhile (·.fd.isNone)).length + 1

def readSize (socket : List (Cell Fd)) (room size : Nat) : Nat :=
  min (max size 1) (min room (readable socket))

def fillAt (buf : Bytes) (off : Nat) (bytes : Bytes) : Bytes :=
  buf.take off ++ bytes ++ buf.drop (off + bytes.length)

/-- A new call of a message forgets the bytes of the call before it. -/
def WireState.begin_ (state : WireState Fd) (call : RxCall) : WireState Fd :=
  { state with
    consumed := if call = .raw then state.consumed else false
    phase := .heading call [0, 0, 0, 0] 0 none
    eaten := 0 }

def finish (state : WireState Fd) (call : RxCall) (len : Nat) (fd : Option Fd) :
    WireState Fd × List (WireOutput Data Fd) :=
  match call with
  | .raw =>
      ({ state with phase := .idle, received := state.received + 1 }, [.rawBody state.out])
  | .msg _ =>
      match codec.decode (state.readBuf.take len) with
      | some data =>
          ({ state with phase := .idle, received := state.received + 1 }, [.message data fd])
      | none => ({ state with phase := .failed }, [.garbled])

/-- The buffer of messages only grows, and the buffer of raw bodies takes their length. -/
def reserve (state : WireState Fd) (call : RxCall) (len : Nat) : WireState Fd :=
  match call with
  | .raw => { state with out := resize state.out len }
  | .msg _ =>
      if state.readBuf.length < len then { state with readBuf := resize state.readBuf len }
      else state

/-- A length above the cap is rejected. An empty body needs no read. -/
def beginBody (state : WireState Fd) (call : RxCall) (buf : Bytes) (fd : Option Fd) :
    WireState Fd × List (WireOutput Data Fd) :=
  let len := u32FromBeBytes buf
  if call.maxBytes < len then ({ state with phase := .failed }, [.rejected call len state.eaten])
  else if len = 0 then finish codec (reserve state call len) call len fd
  else ({ reserve state call len with phase := .body call len 0 fd }, [])

def storeBody (state : WireState Fd) (call : RxCall) (off : Nat) (bytes : Bytes) :
    WireState Fd :=
  match call with
  | .raw => { state with out := fillAt state.out off bytes }
  | .msg _ => { state with readBuf := fillAt state.readBuf off bytes }

/-- The bytes leave the socket. -/
def eat (state : WireState Fd) (count : Nat) : WireState Fd :=
  { state with
    socket := state.socket.drop count
    consumed := true
    eaten := state.eaten + count }

/-- One read of `drm_read_full`. It looks for a descriptor until it has one. -/
def drmReadFull (state : WireState Fd) (size : Nat) : WireState Fd × List (WireOutput Data Fd) :=
  match state.socket, state.phase with
  | [], _ => (state, [])
  | first :: _, .heading call buf off fd =>
      let count := readSize state.socket (4 - off) size
      let bytes := (state.socket.take count).map (·.byte)
      let got := if fd.isNone then first.fd else fd
      let filled := fillAt buf off bytes
      if off + count < 4 then
        ({ eat state count with phase := .heading call filled (off + count) got }, [])
      else beginBody codec (eat state count) call filled got
  | _ :: _, .body call len off fd =>
      let count := readSize state.socket (len - off) size
      let bytes := (state.socket.take count).map (·.byte)
      let stored := storeBody (eat state count) call off bytes
      if off + count < len then ({ stored with phase := .body call len (off + count) fd }, [])
      else finish codec stored call len fd
  | _ :: _, _ => (state, [])

/-- Only a call with a time limit expires, and nothing is returned for it before its first byte. -/
def expire (state : WireState Fd) : WireState Fd × List (WireOutput Data Fd) :=
  match state.phase with
  | .waiting => ({ state with phase := .idle }, [.nothing state.eaten])
  | .heading (.msg true) _ _ _ | .body (.msg true) _ _ _ =>
      if state.consumed then ({ state with phase := .failed }, [.stalled])
      else ({ state with phase := .idle }, [.nothing state.eaten])
  | .heading .raw _ _ _ | .body .raw _ _ _ => ({ state with phase := .failed }, [.stalled])
  | _ => (state, [])

/-- The sender and the receiver move in any order. -/
def wire : Machine (WireState Fd) WireInput (WireOutput Data Fd) where
  step state
    | .write size =>
        let written := drmWriteAll state.unsent size
        ({ state with unsent := written.2, socket := state.socket ++ written.1 }, [])
    | .recvMsg => (if state.phase.isIdle then state.begin_ (.msg false) else state, [])
    | .recvMsgTimeout2 =>
        (if state.phase.isIdle then { state with phase := .waiting, eaten := 0 } else state, [])
    | .nextRawInto => (if state.phase.isIdle then state.begin_ .raw else state, [])
    | .ready => (if state.phase.isWaiting then state.begin_ (.msg true) else state, [])
    | .read size => drmReadFull codec state size
    | .expire => expire state
    | .broken => ({ state with phase := .failed }, [])

end Receiving

end SubnetDesk.Drm
