import HueEntertainment.HueStream
import HueEntertainment.Records

/-! The layout of HueStream datagrams, and that `parse_huestream_frame` accepts exactly the datagrams in
it and reads them back. -/

namespace HueEntertainment.FrameCodec
open HueEntertainment.Const PyValue HueStream Records

inductive Version where
  | v1 | v2
  deriving DecidableEq, Repr

namespace Version

def number : Version → UInt8
  | v1 => 1
  | v2 => 2

def headerSize : Version → Nat
  | v1 => 16
  | v2 => 52

def channelSize : Version → Nat
  | v1 => 9
  | v2 => 7

/-- The shortest datagram that is accepted: in v1 it has a channel. -/
def minLength : Version → Nat
  | v1 => 25
  | v2 => 52

/-- Light ids of two bytes, channel ids of one. -/
def idBound : Version → Nat
  | v1 => 65536
  | v2 => 256

end Version

/-- A channel on the wire. Only v1 has the type byte, which is ignored. -/
structure WireChannel (version : Version) where
  kind : UInt8
  channelId : Fin version.idBound
  r : UInt16
  g : UInt16
  b : UInt16

def WireChannel.color {version : Version} (channel : WireChannel version) : ChannelColor :=
  ⟨channel.channelId, channel.r.toNat, channel.g.toNat, channel.b.toNat⟩

/-- The header bytes that are neither magic nor version nor colour space. -/
structure Header (version : Version) where
  middle : Vector UInt8 4
  rest : Vector UInt8 (version.headerSize - 15)

def bigEndian (value : Nat) : Bytes := [UInt8.ofNat (value / 256), UInt8.ofNat (value % 256)]

def encodeChannel : (version : Version) → WireChannel version → Bytes
  | .v1, channel =>
      channel.kind :: (bigEndian channel.channelId ++ bigEndian channel.r.toNat ++ bigEndian channel.g.toNat ++
        bigEndian channel.b.toNat)
  | .v2, channel =>
      UInt8.ofNat channel.channelId :: (bigEndian channel.r.toNat ++ bigEndian channel.g.toNat ++
        bigEndian channel.b.toNat)

def encodeHeader (version : Version) (colorSpace : UInt8) (header : Header version) : Bytes :=
  huestreamHeader ++ version.number :: (header.middle.toList ++ colorSpace :: header.rest.toList)

/-- The datagram of a frame. -/
def encode {version : Version} (colorSpace : UInt8) (header : Header version) (channels : List (WireChannel version)) :
    Bytes :=
  encodeHeader version colorSpace header ++ channels.flatMap (encodeChannel version)

theorem unpackH_bigEndian {value : Nat} (small : value < 65536) : unpackH (bigEndian value) = .ok value := by
  have high : value / 256 < 256 := by omega
  have low : value % 256 < 256 := Nat.mod_lt _ (by decide)
  have split := Nat.div_add_mod value 256
  simp only [bigEndian, unpackH, UInt8.toNat_ofNat_of_lt' high, UInt8.toNat_ofNat_of_lt' low, split]

theorem bigEndian_toNat (high low : UInt8) : bigEndian (256 * high.toNat + low.toNat) = [high, low] := by
  have bound := low.toNat_lt
  have first : (256 * high.toNat + low.toNat) / 256 = high.toNat := by omega
  have second : (256 * high.toNat + low.toNat) % 256 = low.toNat := by omega
  rw [bigEndian, first, second, UInt8.ofNat_toNat, UInt8.ofNat_toNat]

theorem bigEndian_surjective (high low : UInt8) : ∃ value : UInt16, bigEndian value.toNat = [high, low] := by
  have bound := high.toNat_lt
  have bound' := low.toNat_lt
  have small : 256 * high.toNat + low.toNat < UInt16.size := by
    change _ < 65536
    omega
  refine ⟨UInt16.ofNat (256 * high.toNat + low.toNat), ?_⟩
  rw [UInt16.toNat_ofNat_of_lt' small, bigEndian_toNat]

theorem encodeChannel_length (version : Version) (channel : WireChannel version) :
    (encodeChannel version channel).length = version.channelSize := by
  cases version with
  | v1 => rfl
  | v2 => rfl

/-- A slice of what stands after a known part. -/
theorem slice_append (before body : Bytes) (first last : Nat) :
    slice (before ++ body) (before.length + first) (before.length + last) = slice body first last := by
  unfold slice
  rw [List.take_append, List.drop_append, List.length_take]
  have whole : before.take (before.length + last) = before := List.take_of_length_le (Nat.le_add_right _ _)
  have gone : before.drop (before.length + first) = [] := List.drop_of_length_le (Nat.le_add_right _ _)
  rw [whole, gone, List.nil_append]
  congr 1
  · omega
  · congr 1
    omega

theorem byteAt_append (before body : Bytes) : byteAt (before ++ body) before.length = byteAt body 0 := by
  unfold byteAt
  rw [List.getElem?_append_right (Nat.le_refl _), Nat.sub_self]

/-- What the loop of `_parse_v1_channels` reads at an offset. -/
def readV1 (data : Bytes) (offset : Nat) : Except PyError ChannelColor := do
  let lightId ← unpackH (slice data (offset + 1) (offset + 3))
  let val1 ← unpackH (slice data (offset + 3) (offset + 5))
  let val2 ← unpackH (slice data (offset + 5) (offset + 7))
  let val3 ← unpackH (slice data (offset + 7) (offset + 9))
  return ⟨lightId, val1, val2, val3⟩

/-- What the loop of `_parse_v2_channels` reads at an offset. -/
def readV2 (data : Bytes) (offset : Nat) : Except PyError ChannelColor := do
  let channelId ← byteAt data offset
  let val1 ← unpackH (slice data (offset + 1) (offset + 3))
  let val2 ← unpackH (slice data (offset + 3) (offset + 5))
  let val3 ← unpackH (slice data (offset + 5) (offset + 7))
  return ⟨channelId, val1, val2, val3⟩

theorem v1ChannelsFrom_eq (data : Bytes) (fuel offset : Nat) :
    v1ChannelsFrom data fuel offset = recordsFrom v1ChannelSize readV1 data fuel offset := by
  induction fuel generalizing offset with
  | zero => rfl
  | succ fuel ih =>
    simp only [v1ChannelsFrom, recordsFrom, readV1, ih, bind_assoc, pure_bind]

theorem v2ChannelsFrom_eq (data : Bytes) (fuel offset : Nat) :
    v2ChannelsFrom data fuel offset = recordsFrom huestreamChannelSize readV2 data fuel offset := by
  induction fuel generalizing offset with
  | zero => rfl
  | succ fuel ih =>
    simp only [v2ChannelsFrom, recordsFrom, readV2, ih, bind_assoc, pure_bind]

theorem readV1_encode (before : Bytes) (channel : WireChannel .v1) (after : Bytes) :
    readV1 (before ++ (encodeChannel .v1 channel ++ after)) before.length = .ok channel.color := by
  have id : slice (encodeChannel .v1 channel ++ after) 1 3 = bigEndian channel.channelId := rfl
  have r : slice (encodeChannel .v1 channel ++ after) 3 5 = bigEndian channel.r.toNat := rfl
  have g : slice (encodeChannel .v1 channel ++ after) 5 7 = bigEndian channel.g.toNat := rfl
  have b : slice (encodeChannel .v1 channel ++ after) 7 9 = bigEndian channel.b.toNat := rfl
  unfold readV1
  simp only [slice_append, id, r, g, b, unpackH_bigEndian channel.channelId.isLt, unpackH_bigEndian channel.r.toNat_lt,
    unpackH_bigEndian channel.g.toNat_lt, unpackH_bigEndian channel.b.toNat_lt]
  rfl

theorem readV2_encode (before : Bytes) (channel : WireChannel .v2) (after : Bytes) :
    readV2 (before ++ (encodeChannel .v2 channel ++ after)) before.length = .ok channel.color := by
  have small : channel.channelId.val < 256 := channel.channelId.isLt
  have id : byteAt (encodeChannel .v2 channel ++ after) 0 = .ok channel.channelId := by
    change Except.ok (UInt8.ofNat channel.channelId).toNat = _
    rw [UInt8.toNat_ofNat_of_lt' small]
  have r : slice (encodeChannel .v2 channel ++ after) 1 3 = bigEndian channel.r.toNat := rfl
  have g : slice (encodeChannel .v2 channel ++ after) 3 5 = bigEndian channel.g.toNat := rfl
  have b : slice (encodeChannel .v2 channel ++ after) 5 7 = bigEndian channel.b.toNat := rfl
  unfold readV2
  simp only [byteAt_append, slice_append, id, r, g, b, unpackH_bigEndian channel.r.toNat_lt,
    unpackH_bigEndian channel.g.toNat_lt, unpackH_bigEndian channel.b.toNat_lt]
  rfl

/-- Any nine bytes are a v1 channel. -/
theorem encodeChannel_total_v1 (body : Bytes) (length : body.length = 9) :
    ∃ channel, encodeChannel .v1 channel = body := by
  match body, length with
  | [kind, id, id', r, r', g, g', b, b'], _ =>
    obtain ⟨red, red_bytes⟩ := bigEndian_surjective r r'
    obtain ⟨green, green_bytes⟩ := bigEndian_surjective g g'
    obtain ⟨blue, blue_bytes⟩ := bigEndian_surjective b b'
    have bound := id.toNat_lt
    have bound' := id'.toNat_lt
    refine ⟨⟨kind, ⟨256 * id.toNat + id'.toNat, ?_⟩, red, green, blue⟩, ?_⟩
    · change _ < 65536
      omega
    · simp only [encodeChannel, bigEndian_toNat, red_bytes, green_bytes, blue_bytes]
      rfl

/-- Any seven bytes are a v2 channel. -/
theorem encodeChannel_total_v2 (body : Bytes) (length : body.length = 7) :
    ∃ channel, encodeChannel .v2 channel = body := by
  match body, length with
  | [id, r, r', g, g', b, b'], _ =>
    obtain ⟨red, red_bytes⟩ := bigEndian_surjective r r'
    obtain ⟨green, green_bytes⟩ := bigEndian_surjective g g'
    obtain ⟨blue, blue_bytes⟩ := bigEndian_surjective b b'
    refine ⟨⟨0, ⟨id.toNat, id.toNat_lt⟩, red, green, blue⟩, ?_⟩
    simp only [encodeChannel, UInt8.ofNat_toNat, red_bytes, green_bytes, blue_bytes]
    rfl

def v1Layout : Layout (WireChannel .v1) ChannelColor UInt8 PyError where
  size := v1ChannelSize
  encode := encodeChannel .v1
  value := WireChannel.color
  read := readV1
  positive := by decide
  encode_length := encodeChannel_length .v1
  read_encode := readV1_encode
  total := encodeChannel_total_v1

def v2Layout : Layout (WireChannel .v2) ChannelColor UInt8 PyError where
  size := huestreamChannelSize
  encode := encodeChannel .v2
  value := WireChannel.color
  read := readV2
  positive := by decide
  encode_length := encodeChannel_length .v2
  read_encode := readV2_encode
  total := encodeChannel_total_v2

theorem encodeHeader_length (version : Version) (colorSpace : UInt8) (header : Header version) :
    (encodeHeader version colorSpace header).length = version.headerSize := by
  have magic : huestreamHeader.length = 9 := rfl
  simp only [encodeHeader, List.length_append, List.length_cons, Vector.length_toList, magic]
  cases version with
  | v1 => rfl
  | v2 => rfl

theorem byteAt_version (version : Version) (colorSpace : UInt8) (header : Header version) (body : Bytes) :
    byteAt (encodeHeader version colorSpace header ++ body) 9 = .ok version.number.toNat := by
  unfold encodeHeader
  rw [List.append_assoc]
  exact byteAt_append huestreamHeader _

theorem byteAt_colorSpace (version : Version) (colorSpace : UInt8) (header : Header version) (body : Bytes) :
    byteAt (encodeHeader version colorSpace header ++ body) 14 = .ok colorSpace.toNat := by
  have length : (huestreamHeader ++ version.number :: header.middle.toList).length = 14 := by
    simp only [List.length_append, List.length_cons, Vector.length_toList]
    rfl
  have split : encodeHeader version colorSpace header ++ body =
      (huestreamHeader ++ version.number :: header.middle.toList) ++ (colorSpace :: (header.rest.toList ++ body)) := by
    simp only [encodeHeader, List.append_assoc, List.cons_append]
  rw [split, ← length, byteAt_append]
  rfl

/-- Data that begins like a datagram of the version and is long enough has its header. -/
theorem exists_encodeHeader {version : Version} {data : Bytes} (magic : huestreamHeader <+: data)
    (number : data[9]? = some version.number) (long : version.headerSize ≤ data.length) :
    ∃ colorSpace header body, data = encodeHeader version colorSpace header ++ body := by
  obtain ⟨tail, rfl⟩ := magic
  have nine : huestreamHeader.length = 9 := rfl
  rw [List.getElem?_append_right (by rw [nine])] at number
  rw [List.length_append, nine] at long
  match tail with
  | [] => cases number
  | first :: tail =>
    obtain rfl : first = version.number := Option.some.inj number
    have atLeast : 16 ≤ version.headerSize := by cases version <;> decide
    rw [List.length_cons] at long
    have four : (tail.take 4).length = 4 := List.length_take_of_le (by omega)
    have five : 5 ≤ tail.length := by omega
    match left : tail.drop 4 with
    | [] =>
      have gone := congrArg List.length left
      rw [List.length_drop, List.length_nil] at gone
      omega
    | colorSpace :: body =>
      have count := congrArg List.length left
      rw [List.length_drop, List.length_cons] at count
      have rest : (body.take (version.headerSize - 15)).length = version.headerSize - 15 :=
        List.length_take_of_le (by omega)
      refine ⟨colorSpace, ⟨⟨(tail.take 4).toArray, four⟩, ⟨(body.take (version.headerSize - 15)).toArray, rest⟩⟩,
        body.drop (version.headerSize - 15), ?_⟩
      simp only [encodeHeader, Vector.toList_mk, List.append_assoc, List.cons_append, List.take_append_drop]
      rw [← left, List.take_append_drop]

def layout : (version : Version) → Layout (WireChannel version) ChannelColor UInt8 PyError
  | .v1 => v1Layout
  | .v2 => v2Layout

theorem layout_encode (version : Version) : (layout version).encode = encodeChannel version := by
  cases version with
  | v1 => rfl
  | v2 => rfl

theorem layout_size (version : Version) : (layout version).size = version.channelSize := by
  cases version with
  | v1 => rfl
  | v2 => rfl

/-- The channels of a datagram of the version. -/
def parseChannels : Version → Bytes → Except PyError (List ChannelColor)
  | .v1 => parseV1Channels
  | .v2 => parseV2Channels

theorem parseChannels_encode {version : Version} (colorSpace : UInt8) (header : Header version)
    (channels : List (WireChannel version)) (trailing : Bytes) (short : trailing.length < version.channelSize) :
    parseChannels version (encode colorSpace header channels ++ trailing) = .ok (channels.map WireChannel.color) := by
  have start := encodeHeader_length version colorSpace header
  have enough : channels.length ≤ (encode colorSpace header channels ++ trailing).length := by
    have total := (layout version).flatMap_length channels
    have each := Nat.le_mul_of_pos_left channels.length (layout version).positive
    rw [layout_encode] at total
    simp only [encode, List.length_append]
    omega
  have read := (layout version).recordsFrom_encode channels (encodeHeader version colorSpace header) trailing
    (encode colorSpace header channels ++ trailing).length (layout_size version ▸ short) enough
  rw [layout_encode, ← List.append_assoc, start] at read
  cases version with
  | v1 => exact (v1ChannelsFrom_eq _ _ _).trans read
  | v2 => exact (v2ChannelsFrom_eq _ _ _).trans read

/-- What comes after the header of a datagram that begins like one of the version. -/
theorem parse_header {version : Version} {colorSpace : UInt8} {header : Header version} {body : Bytes} :
    parseHuestreamFrame (encodeHeader version colorSpace header ++ body) =
      if (encodeHeader version colorSpace header ++ body).length < version.minLength then .ok none
      else do
        let channels ← parseChannels version (encodeHeader version colorSpace header ++ body)
        return some ⟨version.number.toNat, colorSpace.toNat, channels⟩ := by
  have magic : huestreamHeader <+: encodeHeader version colorSpace header ++ body := by
    unfold encodeHeader
    rw [List.append_assoc]
    exact List.prefix_append _ _
  have long : ¬(encodeHeader version colorSpace header ++ body).length < 15 := by
    rw [List.length_append, encodeHeader_length]
    cases version <;> simp only [Version.headerSize] <;> omega
  unfold parseHuestreamFrame
  rw [if_neg (not_not.mpr magic), if_neg long, byteAt_version, byteAt_colorSpace]
  cases version with
  | v1 => rfl
  | v2 => rfl

/-- A datagram of the layout is read back, whatever the bytes that carry nothing. -/
theorem parse_encode {version : Version} (colorSpace : UInt8) (header : Header version)
    (channels : List (WireChannel version)) (trailing : Bytes) (nonempty : version = .v1 → channels ≠ [])
    (short : trailing.length < version.channelSize) :
    parseHuestreamFrame (encode colorSpace header channels ++ trailing) =
      .ok (some ⟨version.number.toNat, colorSpace.toNat, channels.map WireChannel.color⟩) := by
  have read := parseChannels_encode colorSpace header channels trailing short
  have long : ¬(encode colorSpace header channels ++ trailing).length < version.minLength := by
    have total := (layout version).flatMap_length channels
    rw [layout_encode, layout_size] at total
    simp only [encode, List.length_append, encodeHeader_length]
    cases version with
    | v1 =>
      have some := List.length_pos_of_ne_nil (nonempty rfl)
      simp only [Version.headerSize, Version.channelSize, Version.minLength] at total ⊢
      omega
    | v2 =>
      simp only [Version.headerSize, Version.minLength]
      omega
  unfold encode at read long ⊢
  rw [List.append_assoc] at read long ⊢
  rw [parse_header, if_neg long, read]
  rfl

/-- The datagram has the magic, a known version and at least the length that version needs. -/
def Accepted (data : Bytes) : Prop :=
  huestreamHeader <+: data ∧ ∃ version : Version, data[9]? = some version.number ∧ version.minLength ≤ data.length

theorem Version.header_le_min (version : Version) : version.headerSize ≤ version.minLength := by
  cases version <;> decide

/-- An accepted datagram is of the layout, but for a remainder too short to be a channel. -/
theorem Accepted.encoded {data : Bytes} (accepted : Accepted data) :
    ∃ (version : Version) (colorSpace : UInt8) (header : Header version) (channels : List (WireChannel version))
      (trailing : Bytes), data = encode colorSpace header channels ++ trailing ∧
      (version = .v1 → channels ≠ []) ∧ trailing.length < version.channelSize := by
  obtain ⟨magic, version, number, long⟩ := accepted
  obtain ⟨colorSpace, header, body, rfl⟩ :=
    exists_encodeHeader magic number (Nat.le_trans version.header_le_min long)
  obtain ⟨channels, trailing, rfl, short⟩ := (layout version).exists_encode body
  rw [layout_size] at short
  refine ⟨version, colorSpace, header, channels, trailing, ?_, ?_, short⟩
  · unfold encode
    rw [layout_encode, List.append_assoc]
  · rintro rfl rfl
    rw [List.length_append, encodeHeader_length] at long
    simp only [List.flatMap_nil, List.nil_append, Version.headerSize, Version.minLength] at long
    simp only [Version.channelSize] at short
    omega

theorem parse_rejected {data : Bytes} (rejected : ¬Accepted data) : parseHuestreamFrame data = .ok none := by
  by_cases magic : huestreamHeader <+: data
  · by_cases tiny : data.length < 15
    · unfold parseHuestreamFrame
      rw [if_neg (not_not.mpr magic), if_pos tiny]
    · have nine : 9 < data.length := by omega
      have fourteen : 14 < data.length := by omega
      have version : byteAt data 9 = .ok data[9].toNat := by
        unfold byteAt
        rw [List.getElem?_eq_getElem nine]
      have space : byteAt data 14 = .ok data[14].toNat := by
        unfold byteAt
        rw [List.getElem?_eq_getElem fourteen]
      have short : ∀ known : Version, data[9].toNat = known.number.toNat → data.length < known.minLength := by
        intro known same
        by_contra long
        refine rejected ⟨magic, known, ?_, Nat.le_of_not_lt long⟩
        rw [List.getElem?_eq_getElem nine, UInt8.toNat_inj.mp same]
      unfold parseHuestreamFrame
      rw [if_neg (not_not.mpr magic), if_neg tiny, version, space]
      change (if data[9].toNat = 2 then _ else if data[9].toNat = 1 then _ else _) = _
      by_cases second : data[9].toNat = 2
      · have cut : data.length < huestreamHeaderSize := short .v2 second
        rw [if_pos second]
        simp only [if_pos cut]
        rfl
      · by_cases first : data[9].toNat = 1
        · have cut : data.length < v1HeaderSize + v1ChannelSize := short .v1 first
          rw [if_neg second, if_pos first]
          simp only [if_pos cut]
          rfl
        · rw [if_neg second, if_neg first]
          rfl
  · unfold parseHuestreamFrame
    rw [if_pos magic]

/-- The frame of an accepted datagram holds each of its channels, in order. -/
structure Decodes (data : Bytes) (frame : Frame) (version : Version) : Prop where
  apiVersion : frame.apiVersion = version.number.toNat
  colorSpace : byteAt data 14 = .ok frame.colorSpace
  count : frame.channels.length = (data.length - version.headerSize) / version.channelSize
  inRange : ∀ channel ∈ frame.channels, channel.channelId < version.idBound ∧
    channel.r ≤ 65535 ∧ channel.g ≤ 65535 ∧ channel.b ≤ 65535
  inOrder : ∃ (colorSpace : UInt8) (header : Header version) (channels : List (WireChannel version)) (trailing : Bytes),
    data = encode colorSpace header channels ++ trailing ∧ trailing.length < version.channelSize ∧
      frame.channels = channels.map WireChannel.color

theorem WireChannel.color_inRange {version : Version} (channel : WireChannel version) :
    channel.color.channelId < version.idBound ∧ channel.color.r ≤ 65535 ∧ channel.color.g ≤ 65535 ∧
      channel.color.b ≤ 65535 :=
  ⟨channel.channelId.isLt, Nat.le_of_lt_succ channel.r.toNat_lt, Nat.le_of_lt_succ channel.g.toNat_lt,
    Nat.le_of_lt_succ channel.b.toNat_lt⟩

theorem Accepted.decodes {data : Bytes} (accepted : Accepted data) :
    ∃ frame version, parseHuestreamFrame data = .ok (some frame) ∧ Decodes data frame version := by
  obtain ⟨version, colorSpace, header, channels, trailing, rfl, nonempty, short⟩ := accepted.encoded
  refine ⟨_, version, parse_encode colorSpace header channels trailing nonempty short, rfl, ?_, ?_, ?_, ?_⟩
  · unfold encode
    rw [List.append_assoc]
    exact byteAt_colorSpace version colorSpace header _
  · have fits : trailing.length < (layout version).size := layout_size version ▸ short
    have count : channels.length =
        (channels.flatMap (layout version).encode ++ trailing).length / (layout version).size :=
      (layout version).length_eq fits
    rw [layout_encode, layout_size] at count
    unfold encode
    rw [List.length_map, List.append_assoc, List.length_append, encodeHeader_length, Nat.add_sub_cancel_left]
    exact count
  · intro color member
    obtain ⟨channel, _, rfl⟩ := List.mem_map.mp member
    exact channel.color_inRange
  · exact ⟨colorSpace, header, channels, trailing, rfl, short, rfl⟩

/-- Decoding is exact: what is encoded is read back, whatever the bytes that carry nothing and with any
remainder too short to be a channel. Conversely no read is past the end of any datagram, a frame
comes of exactly the accepted datagrams, and it holds all of their channels, in order and in range. -/
theorem parse_exact :
    (∀ (version : Version) (colorSpace : UInt8) (header : Header version) (channels : List (WireChannel version))
      (trailing : Bytes), (version = .v1 → channels ≠ []) → trailing.length < version.channelSize →
      parseHuestreamFrame (encode colorSpace header channels ++ trailing) =
        .ok (some ⟨version.number.toNat, colorSpace.toNat, channels.map WireChannel.color⟩)) ∧
    ∀ data : Bytes, (∃ result, parseHuestreamFrame data = .ok result) ∧
      ((∃ frame, parseHuestreamFrame data = .ok (some frame)) ↔ Accepted data) ∧
      ∀ frame, parseHuestreamFrame data = .ok (some frame) → ∃ version, Decodes data frame version := by
  refine ⟨fun version => parse_encode, fun data => ?_⟩
  by_cases accepted : Accepted data
  · obtain ⟨frame, version, parsed, decodes⟩ := accepted.decodes
    refine ⟨⟨_, parsed⟩, ⟨fun _ => accepted, fun _ => ⟨frame, parsed⟩⟩, ?_⟩
    intro other same
    rw [parsed] at same
    obtain rfl := Option.some.inj (Except.ok.inj same)
    exact ⟨version, decodes⟩
  · have parsed := parse_rejected accepted
    refine ⟨⟨_, parsed⟩, ⟨?_, fun held => absurd held accepted⟩, ?_⟩
    · rintro ⟨frame, same⟩
      rw [parsed] at same
      cases same
    · intro frame same
      rw [parsed] at same
      cases same

end HueEntertainment.FrameCodec
