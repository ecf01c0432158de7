/-
This file defines how a host chooses the codec for all of its connections.
-/

import SubnetDesk.Construction.Web.Video

namespace SubnetDesk.Codec

open WebClient (ProtocolVideoCodec)

inductive PreferCodec where
  | auto
  | vp9
  | h264
  | h265
  | vp8
  | av1
deriving DecidableEq

/-- A value that is not in the protocol is kept as a number. -/
inductive EnumOrUnknown where
  | known (codec : PreferCodec)
  | unknown (value : Int)
deriving DecidableEq

def EnumOrUnknown.enumValueOrAuto : EnumOrUnknown → PreferCodec
  | .known codec => codec
  | .unknown _ => .auto

structure SupportedDecoding where
  abilityVp9 : Int
  abilityH264 : Int
  abilityH265 : Int
  prefer : EnumOrUnknown
  abilityVp8 : Int
  abilityAv1 : Int
deriving DecidableEq

def SupportedDecoding.default : SupportedDecoding where
  abilityVp9 := 0
  abilityH264 := 0
  abilityH265 := 0
  prefer := .known .auto
  abilityVp8 := 0
  abilityAv1 := 0

inductive CodecFormat where
  | vp8
  | vp9
  | av1
  | h264
  | h265
  | unknown
deriving DecidableEq

structure SupportedEncoding where
  vp8 : Bool
  av1 : Bool
  h264 : Bool
  h265 : Bool
deriving DecidableEq

abbrev Decodings := List (Int × SupportedDecoding)

/-- A hash map is iterated in any order. -/
structure Iteration where
  order : Decodings → Decodings
  perm : ∀ decodings, (order decodings).Perm decodings

/-- What an update finds on the host: its build, its options, its encoders and its memory. -/
structure Environment where
  disableAv1 : Bool
  vram : Bool
  enableVramOption : Bool
  vramAvailable : CodecFormat → Nat
  hwcodec : Bool
  enableHwcodecOption : Bool
  hwTryGet : CodecFormat → Option String
  av1Test : Bool
  totalMemory : Nat
  iteration : Iteration

inductive EncodingUpdate where
  | update (id : Int) (decoding : SupportedDecoding)
  | remove (id : Int)
  | newOnlyVp9 (id : Int)
  | check

structure Negotiation where
  decodings : Decodings
  format : CodecFormat
  usable : Option SupportedEncoding
deriving DecidableEq

def Negotiation.start : Negotiation where
  decodings := []
  format := .vp9
  usable := none

def remove (decodings : Decodings) (id : Int) : Decodings := decodings.filter (·.1 ≠ id)

def insert (decodings : Decodings) (id : Int) (decoding : SupportedDecoding) : Decodings :=
  remove decodings id ++ [(id, decoding)]

def register (decodings : Decodings) : EncodingUpdate → Decodings
  | .update id decoding => insert decodings id decoding
  | .remove id => remove decodings id
  | .newOnlyVp9 id => insert decodings id { SupportedDecoding.default with abilityVp9 := 1 }
  | .check => decodings

/-- Every connection can decode it, and there is one. -/
def allSupport (decodings : Decodings) (ability : SupportedDecoding → Int) : Bool :=
  0 < decodings.length && decodings.all fun entry => 0 < ability entry.2

def Environment.vramEncoding (environment : Environment) (codec : CodecFormat) : Bool :=
  environment.vram && environment.enableVramOption && 0 < environment.vramAvailable codec

def Environment.hwEncoding (environment : Environment) (codec : CodecFormat) : Option String :=
  if environment.hwcodec && environment.enableHwcodecOption then environment.hwTryGet codec else none

structure Useable where
  vp8 : Bool
  av1 : Bool
  h264 : Bool
  h265 : Bool
deriving DecidableEq

def useable (environment : Environment) (decodings : Decodings) : Useable where
  vp8 := allSupport decodings (·.abilityVp8)
  av1 := allSupport decodings (·.abilityAv1) && !environment.disableAv1
  h264 := allSupport decodings (·.abilityH264) &&
    (environment.vramEncoding .h264 || (environment.hwEncoding .h264).isSome)
  h265 := allSupport decodings (·.abilityH265) &&
    (environment.vramEncoding .h265 || (environment.hwEncoding .h265).isSome)

/-- The preference of a connection counts where its codec is useable. The preference for VP9 always
counts. -/
def counted (useable : Useable) (prefer : EnumOrUnknown) : Bool :=
  prefer = .known .vp9 ||
    prefer = .known .vp8 && useable.vp8 ||
    prefer = .known .av1 && useable.av1 ||
    prefer = .known .h264 && useable.h264 ||
    prefer = .known .h265 && useable.h265

def preferences (useable : Useable) (decodings : Decodings) : List EnumOrUnknown :=
  (decodings.filter fun entry => counted useable entry.2.prefer).map (·.2.prefer)

def countPreference (prefer : EnumOrUnknown) :
    List (EnumOrUnknown × Nat) → List (EnumOrUnknown × Nat)
  | [] => [(prefer, 1)]
  | (other, count) :: rest =>
      if other = prefer then (other, count + 1) :: rest
      else (other, count) :: countPreference prefer rest

/-- The first of the most frequent ones. -/
def mostFrequent (preferences : List EnumOrUnknown) : EnumOrUnknown :=
  let counts := preferences.foldl (fun counts prefer => countPreference prefer counts) []
  let maxCount := (counts.map (·.2)).foldl max 0
  ((counts.find? (·.2 = maxCount)).map (·.1)).getD (.known .auto)

def preference (environment : Environment) (decodings : Decodings) : PreferCodec :=
  (mostFrequent (preferences (useable environment decodings)
    (environment.iteration.order decodings))).enumValueOrAuto

def smallMemory : Nat := 4 * 1024 * 1024 * 1024

def autoCodec (environment : Environment) (useable : Useable) : CodecFormat :=
  let auto := if useable.av1 && environment.av1Test then .av1 else .vp9
  let auto := if useable.h264 then .h264 else auto
  let auto := if useable.h265 then .h265 else auto
  if auto = .vp9 ∨ auto = .av1 then
    if useable.vp8 && environment.totalMemory ≤ smallMemory then .vp8 else auto
  else auto

/-- An encoder is looked for where all connections can decode its codec. -/
def encoding (environment : Environment) (all : Bool) (codec : CodecFormat) : Bool :=
  all && (environment.vramEncoding codec || (environment.hwEncoding codec).isSome)

def chooseFormat (environment : Environment) (decodings : Decodings) : CodecFormat :=
  let useable := useable environment decodings
  let auto := autoCodec environment useable
  match preference environment decodings with
  | .vp8 => .vp8
  | .vp9 => .vp9
  | .av1 => .av1
  | .h264 =>
      if encoding environment (allSupport decodings (·.abilityH264)) .h264 then .h264 else auto
  | .h265 =>
      if encoding environment (allSupport decodings (·.abilityH265)) .h265 then .h265 else auto
  | .auto => auto

def update (negotiation : Negotiation) (update : EncodingUpdate) (environment : Environment) :
    Negotiation :=
  let decodings := register negotiation.decodings update
  let useable := useable environment decodings
  { decodings := decodings
    format := chooseFormat environment decodings
    usable := some
      { vp8 := useable.vp8
        av1 := useable.av1
        h264 := useable.h264
        h265 := useable.h265 } }

def encoder : Machine Negotiation (EncodingUpdate × Environment) Empty where
  step negotiation input := (update negotiation input.1 input.2, [])

/-- The codecs that the host can encode. -/
def supportedEncoding (environment : Environment) : CodecFormat → Bool
  | .vp8 => true
  | .vp9 => true
  | .av1 => !environment.disableAv1
  | .h264 => environment.vramEncoding .h264 || (environment.hwEncoding .h264).isSome
  | .h265 => environment.vramEncoding .h265 || (environment.hwEncoding .h265).isSome
  | .unknown => false

/-- What the web client declares when it authenticates with a codec. -/
def webDecoding (codec : ProtocolVideoCodec) : SupportedDecoding :=
  { SupportedDecoding.default with
    abilityVp9 := if codec = .vp9 then 1 else 0
    abilityH264 := if codec = .h264 then 1 else 0
    abilityAv1 := if codec = .av1 then 1 else 0
    prefer := .known (match codec with
      | .h264 => .h264
      | .av1 => .av1
      | .vp9 => .vp9) }

end SubnetDesk.Codec
