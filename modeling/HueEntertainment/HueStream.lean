import HueEntertainment.Const
import HueEntertainment.PyValue

/-! HueStream frames: `parse_huestream_frame` and its two channel loops. Every read of the
datagram can fail the way Python's does, so a read past the end shows as an error. -/

namespace HueEntertainment.HueStream
open HueEntertainment.Const PyValue

abbrev Bytes := List UInt8

/-- Raw 16-bit values: red, green and blue, or CIE x, CIE y and brightness. -/
structure ChannelColor where
  channelId : Nat
  r : Nat
  g : Nat
  b : Nat
  deriving DecidableEq, Repr

structure Frame where
  apiVersion : Nat
  colorSpace : Nat
  channels : List ChannelColor
  deriving DecidableEq, Repr

def v1HeaderSize : Nat := 16
def v1ChannelSize : Nat := 9

def byteAt (data : Bytes) (i : Nat) : Except PyError Nat :=
  match data[i]? with
  | some byte => .ok byte.toNat
  | none => .error .indexError

def slice (data : Bytes) (first last : Nat) : Bytes := (data.take last).drop first

/-- `struct.unpack(">H", field)[0]`. -/
def unpackH : Bytes → Except PyError Nat
  | [high, low] => .ok (256 * high.toNat + low.toNat)
  | _ => .error .structError

/-- The loop of `_parse_v2_channels` from an offset on. -/
def v2ChannelsFrom (data : Bytes) : (fuel offset : Nat) → Except PyError (List ChannelColor)
  | 0, _ => .ok []
  | fuel + 1, offset =>
      if offset + huestreamChannelSize ≤ data.length then do
        let channelId ← byteAt data offset
        let val1 ← unpackH (slice data (offset + 1) (offset + 3))
        let val2 ← unpackH (slice data (offset + 3) (offset + 5))
        let val3 ← unpackH (slice data (offset + 5) (offset + 7))
        let rest ← v2ChannelsFrom data fuel (offset + huestreamChannelSize)
        return ⟨channelId, val1, val2, val3⟩ :: rest
      else .ok []

/-- The loop advances at every turn, so the datagram's length bounds its turns. -/
def parseV2Channels (data : Bytes) : Except PyError (List ChannelColor) :=
  v2ChannelsFrom data data.length huestreamHeaderSize

/-- The loop of `_parse_v1_channels` from an offset on; the type byte at the offset is ignored. -/
def v1ChannelsFrom (data : Bytes) : (fuel offset : Nat) → Except PyError (List ChannelColor)
  | 0, _ => .ok []
  | fuel + 1, offset =>
      if offset + v1ChannelSize ≤ data.length then do
        let lightId ← unpackH (slice data (offset + 1) (offset + 3))
        let val1 ← unpackH (slice data (offset + 3) (offset + 5))
        let val2 ← unpackH (slice data (offset + 5) (offset + 7))
        let val3 ← unpackH (slice data (offset + 7) (offset + 9))
        let rest ← v1ChannelsFrom data fuel (offset + v1ChannelSize)
        return ⟨lightId, val1, val2, val3⟩ :: rest
      else .ok []

def parseV1Channels (data : Bytes) : Except PyError (List ChannelColor) :=
  v1ChannelsFrom data data.length v1HeaderSize

def parseHuestreamFrame (data : Bytes) : Except PyError (Option Frame) :=
  if ¬ huestreamHeader <+: data then .ok none
  else if data.length < 15 then .ok none
  else do
    let apiVersion ← byteAt data 9
    let colorSpace ← byteAt data 14
    if apiVersion = 0x02 then
      if data.length < huestreamHeaderSize then return none
      let channels ← parseV2Channels data
      return some ⟨apiVersion, colorSpace, channels⟩
    else if apiVersion = 0x01 then
      if data.length < v1HeaderSize + v1ChannelSize then return none
      let channels ← parseV1Channels data
      return some ⟨apiVersion, colorSpace, channels⟩
    else return none

end HueEntertainment.HueStream
