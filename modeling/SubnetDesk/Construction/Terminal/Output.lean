/-
This file defines the output of a terminal, its cut into UTF-8 chunks and its history buffer, and the
message protocol between the terminal service and its helper process.
-/

import SubnetDesk.Foundation.Machine
import SubnetDesk.Foundation.Utf8

namespace SubnetDesk.Terminal

abbrev Bytes := List UInt8

def maxOutputBufferSize : Nat := 1024 * 1024

def maxBufferLines : Nat := 10000

/-- The length of the sequence that a lead byte announces. -/
def seqLen (byte : UInt8) : Option Nat :=
  if byte &&& 0xE0 = 0xC0 then some 2
  else if byte &&& 0xF0 = 0xE0 then some 3
  else if byte &&& 0xF8 = 0xF0 then some 4
  else none

/-- The scan looks at the indices below its argument, from the last one down to the start. -/
def scanSplitPoint (buf : Bytes) (start : Nat) : Nat → Nat
  | 0 => buf.length
  | i + 1 =>
      if i < start then buf.length
      else
        let byte := buf.getD i 0
        if byte &&& 0x80 = 0 then buf.length
        else if byte &&& 0xC0 = 0x80 then scanSplitPoint buf start i
        else
          match seqLen byte with
          | none => buf.length
          | some length => if length ≤ buf.length - i then buf.length else i

/-- A buffer that ends inside a character is split before that character. -/
def findUtf8SplitPoint (buf : Bytes) : Nat :=
  if buf = [] then 0 else scanSplitPoint buf (buf.length - 3) buf.length

structure Utf8ChunkAccumulator where
  remainder : Bytes := []
deriving DecidableEq

/-- A candidate incomplete suffix is held back only after bytes that are text already. -/
def Utf8ChunkAccumulator.pushChunk (chunks : Utf8ChunkAccumulator) (data : Bytes) :
    Utf8ChunkAccumulator × Option Bytes :=
  if data = [] then (chunks, none)
  else
    let hadRemainder := chunks.remainder ≠ []
    let combined := chunks.remainder ++ data
    let split := findUtf8SplitPoint combined
    if split = combined.length then ({ remainder := [] }, some combined)
    else if ¬ hadRemainder ∧ 0 < split ∧ ¬ Utf8.Valid (combined.take split) then
      ({ remainder := [] }, some combined)
    else
      ({ remainder := combined.drop split },
        if combined.take split = [] then none else some (combined.take split))

def Utf8ChunkAccumulator.finish (chunks : Utf8ChunkAccumulator) :
    Utf8ChunkAccumulator × Option Bytes :=
  if chunks.remainder = [] then (chunks, none)
  else ({ remainder := [] }, some chunks.remainder)

/-- The accumulator takes the reads one by one and returns its chunks. -/
def chunker : Machine Utf8ChunkAccumulator Bytes Bytes where
  step chunks data := ((chunks.pushChunk data).1, (chunks.pushChunk data).2.toList)

def newline : UInt8 := 10

structure OutputBuffer where
  lines : List Bytes := []
  totalSize : Nat := 0
  lastLineIncomplete : Bool := false
deriving DecidableEq

/-- The last line grows in place. -/
def OutputBuffer.extendLast (buffer : OutputBuffer) (more : Bytes) : OutputBuffer :=
  { buffer with
    lines := buffer.lines.dropLast ++ [buffer.lines.getLast?.getD [] ++ more]
    totalSize := buffer.totalSize + more.length }

/-- The pieces of a split are stored as lines, the last one only when it is not empty. -/
def OutputBuffer.storePieces (endsWithNewline : Bool) : List Bytes → OutputBuffer → OutputBuffer
  | [], buffer => buffer
  | line :: rest, buffer =>
      let flagged :=
        if rest = [] ∧ endsWithNewline = false ∧ line ≠ [] then
          { buffer with lastLineIncomplete := true }
        else buffer
      let stored :=
        if line ≠ [] ∨ rest ≠ [] then
          let lineData := if rest ≠ [] ∨ endsWithNewline then line ++ [newline] else line
          { flagged with
            lines := flagged.lines ++ [lineData]
            totalSize := flagged.totalSize + lineData.length }
        else flagged
      storePieces endsWithNewline rest stored

/-- The oldest lines go while the buffer is over one of its limits. -/
def OutputBuffer.trim (totalSize : Nat) (lastLineIncomplete : Bool) : List Bytes → OutputBuffer
  | [] =>
      if maxOutputBufferSize < totalSize then ⟨[], 0, false⟩
      else ⟨[], totalSize, lastLineIncomplete⟩
  | removed :: rest =>
      if maxOutputBufferSize < totalSize ∨ maxBufferLines < rest.length + 1 then
        OutputBuffer.trim
          (if totalSize < removed.length then (rest.map List.length).sum
            else totalSize - removed.length)
          (if rest = [] then false else lastLineIncomplete) rest
      else ⟨removed :: rest, totalSize, lastLineIncomplete⟩

/-- The remaining data is cut into lines after an unfinished line is settled. -/
def OutputBuffer.appendRemaining (buffer : OutputBuffer) (remaining : Bytes) : OutputBuffer :=
  let stored := buffer.storePieces (remaining.getLast? = some newline)
    (remaining.splitOn newline)
  OutputBuffer.trim stored.totalSize stored.lastLineIncomplete stored.lines

/-- An unfinished last line takes the data up to its first newline, or all of it. -/
def OutputBuffer.append (buffer : OutputBuffer) (data : Bytes) : OutputBuffer :=
  if data = [] then buffer
  else if buffer.lastLineIncomplete ∧ buffer.lines ≠ [] then
    match data.idxOf? newline with
    | some newlinePos =>
        { buffer.extendLast (data.take (newlinePos + 1)) with lastLineIncomplete := false }
          |>.appendRemaining (data.drop (newlinePos + 1))
    | none => buffer.extendLast data
  else buffer.appendRemaining data

/-- At most three continuation bytes are skipped. -/
def skipContinuation (line : Bytes) : Nat → Nat → Nat
  | 0, offset => offset
  | left + 1, offset =>
      if offset < line.length ∧ line.getD offset 0 &&& 0xC0 = 0x80 then
        skipContinuation line left (offset + 1)
      else offset

/-- The newest lines are collected first, and a single long line gives its tail. -/
def collectRecent (maxBytes : Nat) : List Bytes → List Bytes → Nat → List Bytes
  | [], chunks, _ => chunks
  | line :: older, chunks, size =>
      if maxBytes < size + line.length then
        if size = 0 ∧ maxBytes < line.length then
          let offset := skipContinuation line 3 (line.length - maxBytes)
          if offset < line.length then chunks ++ [line.drop offset] else chunks
        else chunks
      else collectRecent maxBytes older (chunks ++ [line]) (size + line.length)

def OutputBuffer.getRecent (buffer : OutputBuffer) (maxBytes : Nat) : Bytes :=
  if maxBytes = 0 then []
  else (collectRecent maxBytes buffer.lines.reverse [] 0).reverse.flatten

/-- The history takes the output of a terminal slice by slice. -/
def history : Machine OutputBuffer Bytes Empty where
  step buffer data := (buffer.append data, [])

def msgTypeData : UInt8 := 0x01

def msgTypeResize : UInt8 := 0x02

def msgHeaderSize : Nat := 5

def maxPayloadSize : Nat := 16 * 1024 * 1024

/-- The little endian bytes of the low 32 bits of a number. -/
def u32ToLeBytes (value : Nat) : Bytes :=
  [UInt8.ofNat value, UInt8.ofNat (value / 2 ^ 8), UInt8.ofNat (value / 2 ^ 16),
    UInt8.ofNat (value / 2 ^ 24)]

def u32FromLeBytes (first second third fourth : UInt8) : Nat :=
  first.toNat + 2 ^ 8 * second.toNat + 2 ^ 16 * third.toNat + 2 ^ 24 * fourth.toNat

def u16ToLeBytes (value : UInt16) : Bytes :=
  [UInt8.ofNat value.toNat, UInt8.ofNat (value.toNat / 2 ^ 8)]

def u16FromLeBytes (first second : UInt8) : UInt16 :=
  UInt16.ofNat (first.toNat + 2 ^ 8 * second.toNat)

def encodeHelperMessage (msgType : UInt8) (payload : Bytes) : Bytes :=
  msgType :: (u32ToLeBytes payload.length ++ payload)

def encodeResizeMessage (rows cols : UInt16) : Bytes :=
  encodeHelperMessage msgTypeResize (u16ToLeBytes rows ++ u16ToLeBytes cols)

/-- The service sends terminal data and size changes. -/
inductive HelperMessage where
  | data (payload : Bytes) (small : payload.length ≤ maxPayloadSize)
  | resize (rows cols : UInt16)
deriving DecidableEq

def HelperMessage.encode : HelperMessage → Bytes
  | .data payload _ => encodeHelperMessage msgTypeData payload
  | .resize rows cols => encodeResizeMessage rows cols

/-- A read returns some bytes, is interrupted or fails, and after the last one the pipe ends. -/
inductive PipeRead where
  | data (first : UInt8) (more : Bytes)
  | interrupted
  | failed
deriving DecidableEq

abbrev Pipe := List PipeRead

/-- The bytes that arrive before the pipe ends or a read fails. -/
def Pipe.bytes : Pipe → Bytes
  | [] => []
  | .data first more :: rest => first :: (more ++ Pipe.bytes rest)
  | .interrupted :: rest => Pipe.bytes rest
  | .failed :: _ => []

inductive ReadEnd where
  | filled
  | eof
  | error
deriving DecidableEq

def storeAt (buf : Bytes) (pos : Nat) (bytes : Bytes) : Bytes :=
  buf.take pos ++ bytes ++ buf.drop (pos + bytes.length)

/-- The first bytes of the buffer are filled by as many reads as it takes. -/
def readExactOrEof (length : Nat) : Pipe → Bytes → Nat → ReadEnd × Bytes × Pipe
  | [], buf, pos => (if length ≤ pos then .filled else .eof, buf, [])
  | .interrupted :: rest, buf, pos =>
      if length ≤ pos then (.filled, buf, .interrupted :: rest)
      else readExactOrEof length rest buf pos
  | .failed :: rest, buf, pos =>
      if length ≤ pos then (.filled, buf, .failed :: rest) else (.error, buf, rest)
  | .data first more :: rest, buf, pos =>
      if length ≤ pos then (.filled, buf, .data first more :: rest)
      else
        let taken := (first :: more).take (length - pos)
        match (first :: more).drop (length - pos) with
        | [] => readExactOrEof length rest (storeAt buf pos taken) (pos + taken.length)
        | next :: later => (.filled, storeAt buf pos taken, .data next later :: rest)

inductive PtyCall where
  | write (bytes : Bytes)
  | resize (rows cols : UInt16)
deriving DecidableEq

/-- The shell may have ended before a turn of the loop, and the write of the turn may fail. -/
structure HelperTurn where
  exiting : Bool := false
  writeFails : Bool := false

/-- The input thread decodes messages and passes them to the terminal. -/
def inputLoop (turns : Nat → HelperTurn) : Nat → Nat → Pipe → Bytes → Bytes → List PtyCall
  | 0, _, _, _, _ => []
  | fuel + 1, index, pipe, headerBuf, payloadBuf =>
      if (turns index).exiting then []
      else
        match readExactOrEof msgHeaderSize pipe headerBuf 0 with
        | (.filled, header, afterHeader) =>
            let msgType := header.getD 0 0
            let payloadLen := u32FromLeBytes (header.getD 1 0) (header.getD 2 0)
              (header.getD 3 0) (header.getD 4 0)
            if maxPayloadSize < payloadLen then []
            else
              let grown :=
                if payloadBuf.length < payloadLen then
                  payloadBuf ++ List.replicate (payloadLen - payloadBuf.length) 0
                else payloadBuf
              let (ended, payload, afterPayload) :=
                if 0 < payloadLen then readExactOrEof payloadLen afterHeader grown 0
                else (.filled, grown, afterHeader)
              if ended ≠ .filled then []
              else if msgType = msgTypeData then
                .write (payload.take payloadLen) ::
                  if (turns index).writeFails then []
                  else inputLoop turns fuel (index + 1) afterPayload header payload
              else if msgType = msgTypeResize then
                let resized :=
                  if 4 ≤ payloadLen then
                    [PtyCall.resize (u16FromLeBytes (payload.getD 0 0) (payload.getD 1 0))
                      (u16FromLeBytes (payload.getD 2 0) (payload.getD 3 0))]
                  else []
                resized ++ inputLoop turns fuel (index + 1) afterPayload header payload
              else []
        | _ => []

/-- Every turn of the loop takes a header, so the bytes of the pipe bound the turns. -/
def inputThread (turns : Nat → HelperTurn) (pipe : Pipe) : List PtyCall :=
  inputLoop turns (pipe.bytes.length + 1) 0 pipe (List.replicate msgHeaderSize 0)
    (List.replicate 4096 0)

end SubnetDesk.Terminal
