/-
This file compares the codec of the implicit messages, which works in place, with the
general codec of common packets. The encoder writes the bytes of the two items that the
general one would write. The decoder accepts exactly the buffers that announce two items
or more and begin with a sequenced address item and a connected data item, and it returns
what these hold; what follows the two items does not matter to it.
-/

import EipScanner.CommonPacketItems

namespace EipScanner

/-- The two items of an implicit packet. -/
def ConnectedPacket.items (packet : ConnectedPacket) : List CommonPacketItem :=
  [.sequencedAddress packet.connectionId packet.sequenceNumber, .connectedData packet.data]

theorem ConnectedPacket.fits_items {packet : ConnectedPacket}
    (short : packet.data.length < 2 ^ 16) : ∀ item ∈ packet.items, item.Fits := by
  intro item member
  rcases List.mem_pair.mp member with rfl | rfl
  · show (putU32 packet.connectionId ++ putU32 packet.sequenceNumber).length < 2 ^ 16
    rw [List.length_append, length_putU32, length_putU32]
    decide
  · exact short

/-- The bytes of the two items, field by field. -/
theorem ConnectedPacket.flatMap_items (packet : ConnectedPacket) :
    packet.items.flatMap CommonPacketItem.encode =
      putU16 CommonPacketItemId.sequencedAddress.code ++ (putU16 8 ++
        (putU32 packet.connectionId ++ (putU32 packet.sequenceNumber ++
          (putU16 CommonPacketItemId.connectedTransportPacket.code ++
            (putU16 (UInt16.ofNat packet.data.length) ++ packet.data))))) := by
  have length : (putU32 packet.connectionId ++ putU32 packet.sequenceNumber).length = 8 := by
    rw [List.length_append, length_putU32, length_putU32]
  simp only [items, CommonPacketItem.encode, CommonPacketItem.sequencedAddress,
    CommonPacketItem.connectedData, List.flatMap_cons, List.flatMap_nil, List.append_nil,
    List.append_assoc, length]
  rfl

/-- The head, the data length and the data are the count and the two items. -/
theorem connectedPacketHead_append (packet : ConnectedPacket) (trailing : Bytes) :
    connectedPacketHead packet.connectionId packet.sequenceNumber ++
        (putU16 (UInt16.ofNat packet.data.length) ++ (packet.data ++ trailing)) =
      putU16 2 ++ (packet.items.flatMap CommonPacketItem.encode ++ trailing) := by
  rw [packet.flatMap_items]
  simp only [connectedPacketHead, List.append_assoc]

/-! ### Decoding -/

/-- The decoder of implicit packets accepts a count of two or more and the two items. -/
theorem decodeConnectedPacket_eq_ok_iff {buf : Bytes} {packet : ConnectedPacket} :
    decodeConnectedPacket buf = .ok packet ↔
      ∃ (count : UInt16) (trailing : Bytes), 2 ≤ count ∧ packet.data.length < 2 ^ 16 ∧
        buf = putU16 count ++ (packet.items.flatMap CommonPacketItem.encode ++ trailing) := by
  constructor
  · intro accepted
    obtain ⟨⟨count, afterCount⟩, readCount, accepted⟩ := bind_eq_ok_iff.mp accepted
    dsimp only at accepted
    split at accepted
    · exact absurd accepted nofun
    next twoItems =>
    obtain ⟨⟨addrCode, afterCode⟩, readCode, accepted⟩ := bind_eq_ok_iff.mp accepted
    obtain ⟨⟨addrLen, afterLen⟩, readLen, accepted⟩ := bind_eq_ok_iff.mp accepted
    dsimp only at accepted
    split at accepted
    · exact absurd accepted nofun
    next address =>
    obtain ⟨⟨connectionId, afterId⟩, readId, accepted⟩ := bind_eq_ok_iff.mp accepted
    obtain ⟨⟨sequenceNumber, afterNumber⟩, readNumber, accepted⟩ := bind_eq_ok_iff.mp accepted
    obtain ⟨⟨dataCode, afterDataCode⟩, readDataCode, accepted⟩ := bind_eq_ok_iff.mp accepted
    dsimp only at accepted
    split at accepted
    · exact absurd accepted nofun
    next dataType =>
    obtain ⟨⟨len, afterDataLen⟩, readDataLen, accepted⟩ := bind_eq_ok_iff.mp accepted
    dsimp only at accepted
    split at accepted
    · exact absurd accepted nofun
    next enough =>
    obtain rfl := Except.ok.inj accepted
    obtain ⟨isSequenced, eight⟩ := not_or.mp address
    obtain rfl : addrLen = 8 := not_not.mp eight
    obtain rfl : addrCode = CommonPacketItemId.sequencedAddress.code :=
      congrArg CommonPacketItemId.code (not_not.mp isSequenced)
    obtain rfl : dataCode = CommonPacketItemId.connectedTransportPacket.code :=
      congrArg CommonPacketItemId.code (not_not.mp dataType)
    have length : (afterDataLen.take len.toNat).length = len.toNat :=
      List.length_take_of_le (Nat.le_of_not_lt enough)
    have atCount : buf = putU16 count ++ afterCount := tryGetU16_eq_ok_iff.mp readCount
    have atCode : afterCount = putU16 _ ++ afterCode := tryGetU16_eq_ok_iff.mp readCode
    have atLen : afterCode = putU16 8 ++ afterLen := tryGetU16_eq_ok_iff.mp readLen
    have atId : afterLen = putU32 connectionId ++ afterId := tryGetU32_eq_ok_iff.mp readId
    have atNumber : afterId = putU32 sequenceNumber ++ afterNumber :=
      tryGetU32_eq_ok_iff.mp readNumber
    have atDataCode : afterNumber = putU16 _ ++ afterDataCode :=
      tryGetU16_eq_ok_iff.mp readDataCode
    have atDataLen : afterDataCode = putU16 len ++
        (afterDataLen.take len.toNat ++ afterDataLen.drop len.toNat) := by
      rw [List.take_append_drop]
      exact tryGetU16_eq_ok_iff.mp readDataLen
    refine ⟨count, afterDataLen.drop len.toNat, UInt16.not_lt.mp twoItems, ?_, ?_⟩
    · rw [length]
      exact UInt16.toNat_lt len
    · rw [ConnectedPacket.flatMap_items, length, UInt16.ofNat_toNat, atCount, atCode, atLen, atId,
        atNumber, atDataCode, atDataLen]
      simp only [List.append_assoc]
  · rintro ⟨count, trailing, twoItems, short, rfl⟩
    rw [packet.flatMap_items]
    simp only [List.append_assoc]
    exact decodeConnectedPacket_of_fields twoItems packet.connectionId packet.sequenceNumber short
      trailing

/-! ### Agreement -/

/-- The codec of the implicit messages agrees with the general one. It writes the bytes of the
two items, whatever the buffer held and however the payload is split. On a buffer that announces
two items, it decodes what the general one decodes as exactly these items; on a buffer that
announces more, it returns the first two when the general one accepts them in front of others. -/
theorem connectedPacket_codec_agrees :
    (∀ (out : Bytes) (connectionId sequenceNumber : UInt32) (parts : List Bytes),
      encodeConnectedPacket out connectionId sequenceNumber parts =
        (CommonPacket.mk [.sequencedAddress connectionId sequenceNumber,
          .connectedData parts.flatten]).encode) ∧
    (∀ (buf rest : Bytes), tryGetU16 buf = .ok (2, rest) →
      ∀ (connectionId sequenceNumber : UInt32) (data : Bytes),
        decodeConnectedPacket buf = .ok ⟨connectionId, sequenceNumber, data⟩ ↔
          CommonPacket.decode buf =
            .ok ⟨[.sequencedAddress connectionId sequenceNumber, .connectedData data]⟩) ∧
    ∀ (buf rest : Bytes) (count : UInt16), tryGetU16 buf = .ok (count, rest) → 2 < count →
      ∀ (connectionId sequenceNumber : UInt32) (data : Bytes) (further : List CommonPacketItem),
        CommonPacket.decode buf = .ok ⟨.sequencedAddress connectionId sequenceNumber ::
            .connectedData data :: further⟩ →
          decodeConnectedPacket buf = .ok ⟨connectionId, sequenceNumber, data⟩ := by
  refine ⟨fun out connectionId sequenceNumber parts => ?_,
    fun buf rest readCount connectionId sequenceNumber data => ?_,
    fun buf rest count readCount more connectionId sequenceNumber data further decoded => ?_⟩
  · have split := connectedPacketHead_append ⟨connectionId, sequenceNumber, parts.flatten⟩ []
    rw [List.append_nil, List.append_nil] at split
    rw [encodeConnectedPacket, ← List.length_flatten]
    exact split
  · obtain rfl := tryGetU16_eq_ok_iff.mp readCount
    rw [decodeConnectedPacket_eq_ok_iff, CommonPacket.decode_eq_ok_iff]
    constructor
    · rintro ⟨count, trailing, -, short, same⟩
      obtain ⟨rfl, -⟩ := putU16_append_inj same
      exact ⟨2, trailing, same, ConnectedPacket.fits_items short, Or.inl rfl⟩
    · rintro ⟨count, trailing, same, fits, -⟩
      obtain ⟨rfl, -⟩ := putU16_append_inj same
      have short := fits _ (List.mem_cons_of_mem _ List.mem_cons_self)
      exact ⟨2, trailing, UInt16.le_refl 2, short, same⟩
  · obtain rfl := tryGetU16_eq_ok_iff.mp readCount
    obtain ⟨other, trailing, same, fits, -⟩ := CommonPacket.decode_eq_ok_iff.mp decoded
    obtain ⟨rfl, -⟩ := putU16_append_inj same
    refine decodeConnectedPacket_eq_ok_iff.mpr ⟨count,
      further.flatMap CommonPacketItem.encode ++ trailing, UInt16.le_of_lt more,
      fits _ (List.mem_cons_of_mem _ List.mem_cons_self), ?_⟩
    rw [same, ← List.append_assoc (ConnectedPacket.items _ |>.flatMap _), ← List.flatMap_append]
    rfl

/-- A third item behind the two of an implicit packet is ignored. -/
theorem connectedPacket_codec_agrees_three :
    decodeConnectedPacket (CommonPacket.mk [.sequencedAddress 0x11223344 7,
      .connectedData [1, 0, 0xAA, 0xBB], .nullAddress]).encode =
        .ok ⟨0x11223344, 7, [1, 0, 0xAA, 0xBB]⟩ := by
  have fits : (CommonPacket.mk [.sequencedAddress 0x11223344 7,
      .connectedData [1, 0, 0xAA, 0xBB], .nullAddress]).Fits := ⟨by decide, by decide⟩
  exact connectedPacket_codec_agrees.2.2 _ _ 3 (tryGetU16_putU16 3 _) (by decide) _ _ _ _
    (CommonPacket.decode_encode fits)

end EipScanner
