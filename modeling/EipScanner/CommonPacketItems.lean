/-
This file models the common packet format in general: a count and that many items, each
with its type, its length and its data. The length and the count are written in sixteen
bits whatever they are, so a packet is read back when its items and their number fit.

The decoder stops early where the buffer ends between two items. A packet that was cut
off is therefore read as the items that are complete, if the cut lies right behind one of
them or right behind the count, and it is refused at every other cut.
-/

import EipScanner.CommonPacket
import EipScanner.SelfDelimiting

namespace EipScanner

open SelfDelimiting

/-! ### Items -/

namespace CommonPacketItem

def nullAddress : CommonPacketItem := ⟨CommonPacketItemId.nullAddress, []⟩

def unconnectedData (data : Bytes) : CommonPacketItem :=
  ⟨CommonPacketItemId.unconnectedMessage, data⟩

def connectedData (data : Bytes) : CommonPacketItem :=
  ⟨CommonPacketItemId.connectedTransportPacket, data⟩

def sequencedAddress (connectionId sequenceNumber : UInt32) : CommonPacketItem :=
  ⟨CommonPacketItemId.sequencedAddress, putU32 connectionId ++ putU32 sequenceNumber⟩

def encode (item : CommonPacketItem) : Bytes :=
  putU16 item.typeId.code ++ (putU16 (UInt16.ofNat item.data.length) ++ item.data)

/-- The length field has room for the length of the data. -/
def Fits (item : CommonPacketItem) : Prop := item.data.length < 2 ^ 16

instance (item : CommonPacketItem) : Decidable item.Fits :=
  inferInstanceAs (Decidable (item.data.length < 2 ^ 16))

/-- Decodes one item of a packet. -/
def decode (buf : Bytes) : Except Error (CommonPacketItem × Bytes) := do
  let (typeId, buf) ← tryGetU16 buf
  let (len, buf) ← tryGetU16 buf
  let (data, buf) ← (tryGetVec len.toNat buf).mapError fun _ =>
    .invalidPacket "common packet item is truncated"
  return (⟨⟨typeId⟩, data⟩, buf)

theorem length_encode (item : CommonPacketItem) : item.encode.length = 4 + item.data.length := by
  rw [encode, List.length_append, List.length_append, length_putU16, length_putU16]
  omega

theorem mapError_eq_ok_iff {Value : Type} {result : Except Error Value} {change : Error → Error}
    {value : Value} : result.mapError change = .ok value ↔ result = .ok value := by
  cases result with
  | error refused => exact ⟨nofun, nofun⟩
  | ok other => exact Iff.rfl

/-- An item is decoded from its own encoding and from nothing else. -/
theorem exact : Exact Fits encode decode where
  read_write item rest fits := by
    have length : (UInt16.ofNat item.data.length).toNat = item.data.length :=
      UInt16.toNat_ofNat_of_lt' fits
    rw [encode, List.append_assoc, List.append_assoc, decode, tryGetU16_putU16, ok_bind]
    dsimp only
    rw [tryGetU16_putU16, ok_bind]
    dsimp only
    rw [length, tryGetVec_append]
    rfl
  write_ne_nil item _ := by
    rw [← List.length_pos_iff, length_encode]
    omega
  written input item rest accepted := by
    obtain ⟨⟨code, afterCode⟩, readCode, accepted⟩ := bind_eq_ok_iff.mp accepted
    obtain ⟨⟨len, afterLen⟩, readLen, accepted⟩ := bind_eq_ok_iff.mp accepted
    obtain ⟨⟨data, afterData⟩, readData, accepted⟩ := bind_eq_ok_iff.mp accepted
    obtain ⟨rfl, rfl⟩ := Prod.mk.inj (Except.ok.inj accepted)
    obtain rfl := tryGetU16_eq_ok_iff.mp readCode
    obtain rfl := tryGetU16_eq_ok_iff.mp readLen
    obtain ⟨length, rfl⟩ := tryGetVec_eq_ok_iff.mp (mapError_eq_ok_iff.mp readData)
    refine ⟨?_, ?_⟩
    · rw [Fits, length]
      exact UInt16.toNat_lt len
    · rw [encode, length, UInt16.ofNat_toNat, List.append_assoc, List.append_assoc]

end CommonPacketItem

/-! ### Packets -/

/-- A common packet format item list. -/
structure CommonPacket where
  items : List CommonPacketItem
  deriving DecidableEq, Repr

namespace CommonPacket

def encode (packet : CommonPacket) : Bytes :=
  putU16 (UInt16.ofNat packet.items.length) ++ packet.items.flatMap CommonPacketItem.encode

/-- Decodes up to the item count; trailing bytes after the last item are ignored. -/
def decode (buf : Bytes) : Except Error CommonPacket := do
  let (count, buf) ← tryGetU16 buf
  let (items, _) ← readMany CommonPacketItem.decode count.toNat buf
  return ⟨items⟩

/-- The count field and the length fields have room for what they announce. -/
structure Fits (packet : CommonPacket) : Prop where
  count : packet.items.length < 2 ^ 16
  items : ∀ item ∈ packet.items, item.Fits

/-- Decoding is reading the count and as many items. -/
theorem decode_eq_ok_iff_readMany {buf : Bytes} {packet : CommonPacket} :
    decode buf = .ok packet ↔
      ∃ (count : UInt16) (after rest : Bytes), buf = putU16 count ++ after ∧
        readMany CommonPacketItem.decode count.toNat after = .ok (packet.items, rest) := by
  constructor
  · intro accepted
    obtain ⟨⟨count, after⟩, readCount, accepted⟩ := bind_eq_ok_iff.mp accepted
    obtain ⟨⟨items, rest⟩, readItems, accepted⟩ := bind_eq_ok_iff.mp accepted
    obtain rfl := Except.ok.inj accepted
    exact ⟨count, after, rest, tryGetU16_eq_ok_iff.mp readCount, readItems⟩
  · rintro ⟨count, after, rest, rfl, readItems⟩
    rw [decode, tryGetU16_putU16, ok_bind]
    dsimp only
    rw [readItems, ok_bind]
    rfl

/-- What is decoded: as many items as the count says, and anything after them, or fewer and
nothing after them. -/
theorem decode_eq_ok_iff {buf : Bytes} {packet : CommonPacket} :
    decode buf = .ok packet ↔
      ∃ (count : UInt16) (rest : Bytes),
        buf = putU16 count ++ (packet.items.flatMap CommonPacketItem.encode ++ rest) ∧
          (∀ item ∈ packet.items, item.Fits) ∧
          (packet.items.length = count.toNat ∨ packet.items.length < count.toNat ∧ rest = []) := by
  rw [decode_eq_ok_iff_readMany]
  constructor
  · rintro ⟨count, after, rest, rfl, readItems⟩
    obtain ⟨fits, rfl, ends⟩ := CommonPacketItem.exact.readMany_eq_ok_iff.mp readItems
    exact ⟨count, rest, rfl, fits, ends⟩
  · rintro ⟨count, rest, rfl, fits, ends⟩
    exact ⟨count, _, rest, rfl,
      CommonPacketItem.exact.readMany_eq_ok_iff.mpr ⟨fits, rfl, ends⟩⟩

variable {packet : CommonPacket}

theorem Fits.toNat_count (fits : packet.Fits) :
    (UInt16.ofNat packet.items.length).toNat = packet.items.length :=
  UInt16.toNat_ofNat_of_lt' fits.count

theorem decode_encode_append (fits : packet.Fits) (trailing : Bytes) :
    decode (packet.encode ++ trailing) = .ok packet := by
  rw [decode_eq_ok_iff, encode, List.append_assoc]
  exact ⟨_, trailing, rfl, fits.items, Or.inl fits.toNat_count.symm⟩

theorem decode_encode (fits : packet.Fits) : decode packet.encode = .ok packet := by
  have decoded := decode_encode_append fits []
  rwa [List.append_nil] at decoded

/-! ### Packets that are cut off -/

/-- The bytes of a packet up to the end of some of its items. With no items these are the bytes
of the count. -/
def upTo (packet : CommonPacket) (whole : List CommonPacketItem) : Bytes :=
  putU16 (UInt16.ofNat packet.items.length) ++ whole.flatMap CommonPacketItem.encode

/-- A packet that is cut off is decoded when the cut lies behind an item or behind the count, as
the items in front of the cut. -/
theorem decode_front_iff (fits : packet.Fits) {front back : Bytes}
    (cut : front ++ back = packet.encode) {decoded : CommonPacket} :
    decode front = .ok decoded ↔
      decoded.items <+: packet.items ∧ front = packet.upTo decoded.items := by
  rw [decode_eq_ok_iff_readMany]
  constructor
  · rintro ⟨count, after, rest, rfl, readItems⟩
    rw [encode, List.append_assoc] at cut
    obtain ⟨rfl, afterCut⟩ := putU16_append_inj cut
    obtain ⟨within, rfl, -⟩ := (CommonPacketItem.exact.readMany_front_eq_ok_iff fits.items
      fits.toNat_count.ge afterCut).mp readItems
    exact ⟨within, rfl⟩
  · rintro ⟨within, rfl⟩
    rw [upTo, encode, List.append_assoc] at cut
    have readItems := (CommonPacketItem.exact.readMany_front_eq_ok_iff fits.items
      fits.toNat_count.ge (List.append_cancel_left cut)).mpr ⟨within, rfl, rfl⟩
    exact ⟨_, _, [], rfl, readItems⟩

/-- The codec on every prefix. A packet that fits is decoded from its encoding whatever follows
it. From a proper prefix of the encoding something is decoded only when the prefix ends behind
the count or behind an item, and it is exactly the items that lie in the prefix; every other
prefix is refused. -/
theorem decode_cut (packet : CommonPacket) (few : packet.items.length ≤ 65535)
    (short : ∀ item ∈ packet.items, item.data.length ≤ 65535) :
    (∀ trailing, decode (packet.encode ++ trailing) = .ok packet) ∧
      ∀ front, front <+: packet.encode → front ≠ packet.encode →
        (∀ decoded, decode front = .ok decoded ↔
          decoded.items <+: packet.items ∧ front = packet.upTo decoded.items) ∧
        ((∀ whole, whole <+: packet.items → front ≠ packet.upTo whole) →
          ∃ refused, decode front = .error refused) := by
  have fits : packet.Fits :=
    ⟨Nat.lt_succ_of_le few, fun item member => Nat.lt_succ_of_le (short item member)⟩
  refine ⟨decode_encode_append fits, ?_⟩
  rintro front ⟨back, cut⟩ -
  refine ⟨fun decoded => decode_front_iff fits cut, fun elsewhere => ?_⟩
  cases outcome : decode front with
  | error refused => exact ⟨refused, rfl⟩
  | ok decoded =>
    obtain ⟨within, ends⟩ := (decode_front_iff fits cut).mp outcome
    exact absurd ends (elsewhere decoded.items within)

/-- Two items that are cut behind the first are read as the first. -/
theorem decode_cut_two :
    let packet : CommonPacket := ⟨[.nullAddress, .unconnectedData [0, 2]]⟩
    decode (packet.upTo [.nullAddress]) = .ok ⟨[.nullAddress]⟩ := by
  intro packet
  have short : ∀ item ∈ packet.items, item.data.length ≤ 65535 := by decide
  exact (((decode_cut packet (by decide) short).2 (packet.upTo [.nullAddress])
    ⟨(CommonPacketItem.unconnectedData [0, 2]).encode, rfl⟩ (by decide)).1 _).mpr
      ⟨⟨[.unconnectedData [0, 2]], rfl⟩, rfl⟩

end CommonPacket

end EipScanner
