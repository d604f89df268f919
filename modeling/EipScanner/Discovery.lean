/-
This file models the reading of a ListIdentity reply: an encapsulation header, which is
skipped, and a list of items in the common packet format. Each identity item gives the
address and the identity of one device; items of other types are passed over. What
follows the name of a device in its item is not read.

An identity item is read item by item off its data with checked reads. None of them looks
behind what it reads, so an item that ends before its name does is refused, and with it
the whole reply.
-/

import EipScanner.CommonPacketItems
import EipScanner.Encaps
import EipScanner.ForwardOpen
import EipScanner.Utf8

namespace EipScanner

open SelfDelimiting Text

/-! ### Buffers -/

/-- A string with its length in one byte in front. What is not UTF-8 in it is replaced. -/
def tryGetShortString (buf : Bytes) : Except Error (List Char × Bytes) := do
  let (len, buf) ← tryGetU8 buf
  let (text, buf) ← tryGetVec len.toNat buf
  return (fromUtf8Lossy text, buf)

/-- A socket address off the front of a buffer. -/
def takeSockaddr (buf : Bytes) : Except Error (SocketAddrV4 × Bytes) := do
  let address ← decodeSockaddr buf
  return (address, buf.drop sockaddrSize)

def addressFamilyInet : UInt16 := 2

/-- A socket address as it is sent: family, port and address in big-endian order, and eight bytes
of zero. -/
def encodeSockaddr (address : SocketAddrV4) : Bytes :=
  (putU16 addressFamilyInet).reverse ++ ((putU16 address.port).reverse ++
    ((putU32 address.ip.bits).reverse ++ List.replicate 8 0))

/-! ### Identities -/

/-- Major and minor revision. -/
structure CipRevision where
  major : UInt8
  minor : UInt8
  deriving DecidableEq, Repr

namespace CipRevision

def decode (buf : Bytes) : Except Error (CipRevision × Bytes) := do
  let (major, buf) ← tryGetU8 buf
  let (minor, buf) ← tryGetU8 buf
  return (⟨major, minor⟩, buf)

def encode (revision : CipRevision) : Bytes := putU8 revision.major ++ putU8 revision.minor

end CipRevision

/-- Identity object. -/
structure IdentityObject where
  instanceId : UInt16
  vendorId : UInt16
  deviceType : UInt16
  productCode : UInt16
  revision : CipRevision
  status : UInt16
  serialNumber : UInt32
  productName : List Char
  deriving DecidableEq, Repr

/-- A device that answered ListIdentity. -/
structure IdentityItem where
  identity : IdentityObject
  /-- The device's encapsulation address, as it reports it. -/
  socketAddress : SocketAddrV4
  deriving DecidableEq, Repr

/-- Reads an identity off the front of an item's data, behind the protocol version. -/
def takeIdentity (buf : Bytes) : Except Error (IdentityItem × Bytes) := do
  let (_, buf) ← tryGetU16 buf
  let (socketAddress, buf) ← takeSockaddr buf
  let (vendorId, buf) ← tryGetU16 buf
  let (deviceType, buf) ← tryGetU16 buf
  let (productCode, buf) ← tryGetU16 buf
  let (revision, buf) ← CipRevision.decode buf
  let (status, buf) ← tryGetU16 buf
  let (serialNumber, buf) ← tryGetU32 buf
  let (productName, buf) ← tryGetShortString buf
  return ({
    identity := {
      instanceId := 1, vendorId, deviceType, productCode, revision, status, serialNumber,
      productName }
    socketAddress }, buf)

/-- The identity in one item. -/
def identityItem (item : CommonPacketItem) : Except Error IdentityItem :=
  (takeIdentity item.data).map Prod.fst

/-- Parses a ListIdentity reply: encapsulation header, then one identity for each identity item
of the packet. -/
def parseListIdentityResponse (data : Bytes) : Except Error (List IdentityItem) := do
  let buf ← trySkip headerSize data
  let packet ← CommonPacket.decode buf
  (packet.items.filter fun item => item.typeId = CommonPacketItemId.listIdentity).mapM identityItem

/-! ### What a device announces -/

/-- What a device says of itself in a ListIdentity reply. -/
structure Announcement where
  protocolVersion : UInt16
  address : SocketAddrV4
  vendorId : UInt16
  deviceType : UInt16
  productCode : UInt16
  revision : CipRevision
  status : UInt16
  serialNumber : UInt32
  productName : List Char
  /-- The length of the name fits its length byte. -/
  short : (utf8 productName).length ≤ 255

namespace Announcement

/-- The announcement as it is sent, up to the end of the name. -/
def encode (announced : Announcement) : Bytes :=
  putU16 announced.protocolVersion ++ (encodeSockaddr announced.address ++
    (putU16 announced.vendorId ++ (putU16 announced.deviceType ++ (putU16 announced.productCode ++
      (announced.revision.encode ++ (putU16 announced.status ++ (putU32 announced.serialNumber ++
        (putU8 (UInt8.ofNat (utf8 announced.productName).length) ++
          utf8 announced.productName))))))))

/-- What is known of the device from it. -/
def item (announced : Announcement) : IdentityItem where
  identity := {
    instanceId := 1
    vendorId := announced.vendorId
    deviceType := announced.deviceType
    productCode := announced.productCode
    revision := announced.revision
    status := announced.status
    serialNumber := announced.serialNumber
    productName := announced.productName }
  socketAddress := announced.address

end Announcement

/-! ### Reading an identity -/

theorem length_encodeSockaddr (address : SocketAddrV4) :
    (encodeSockaddr address).length = sockaddrSize := by
  simp only [encodeSockaddr, List.length_append, List.length_reverse, length_putU16,
    length_putU32, List.length_replicate]
  rfl

/-- A socket address is read back from where it was written. -/
theorem takeSockaddr_encodeSockaddr (address : SocketAddrV4) (rest : Bytes) :
    takeSockaddr (encodeSockaddr address ++ rest) = .ok (address, rest) := by
  have whole := length_encodeSockaddr address
  have enough : ¬ (encodeSockaddr address ++ rest).length < sockaddrSize := by
    rw [List.length_append, whole]
    omega
  have behindFamily : (encodeSockaddr address ++ rest).drop 2 =
      (putU16 address.port).reverse ++
        ((putU32 address.ip.bits).reverse ++ (List.replicate 8 0 ++ rest)) := by
    rw [encodeSockaddr, List.append_assoc, List.append_assoc, List.append_assoc]
    exact List.drop_left' rfl
  have behindPort : (encodeSockaddr address ++ rest).drop 4 =
      (putU32 address.ip.bits).reverse ++ (List.replicate 8 0 ++ rest) := by
    rw [show (4 : Nat) = 2 + 2 from rfl, ← List.drop_drop, behindFamily]
    exact List.drop_left' (by rw [List.length_reverse, length_putU16])
  have port : bigEndian (putU16 address.port).reverse = address.port.toNat := by
    rw [bigEndian, List.reverse_reverse, putU16,
      LittleEndian.number_digits_of_lt (UInt16.toNat_lt address.port)]
  have bits : bigEndian (putU32 address.ip.bits).reverse = address.ip.bits.toNat := by
    rw [bigEndian, List.reverse_reverse, putU32,
      LittleEndian.number_digits_of_lt (UInt32.toNat_lt address.ip.bits)]
  rw [takeSockaddr, decodeSockaddr, if_neg enough, ok_bind, behindFamily, behindPort,
    List.take_left' (by rw [List.length_reverse, length_putU32]),
    List.take_left' (by rw [List.length_reverse, length_putU16]), port, bits,
    UInt16.ofNat_toNat, UInt32.ofNat_toNat, List.drop_left' whole]
  rfl

theorem decode_encode_revision (revision : CipRevision) (rest : Bytes) :
    CipRevision.decode (revision.encode ++ rest) = .ok (revision, rest) := by
  rw [CipRevision.encode, List.append_assoc, CipRevision.decode, tryGetU8_putU8, ok_bind]
  dsimp only
  rw [tryGetU8_putU8, ok_bind]
  rfl

/-- A name whose length fits one byte is read back. -/
theorem tryGetShortString_utf8 {name : List Char} (short : (utf8 name).length ≤ 255)
    (rest : Bytes) :
    tryGetShortString (putU8 (UInt8.ofNat (utf8 name).length) ++ (utf8 name ++ rest)) =
      .ok (name, rest) := by
  have length : (UInt8.ofNat (utf8 name).length).toNat = (utf8 name).length :=
    UInt8.toNat_ofNat_of_lt' (Nat.lt_succ_of_le short)
  rw [tryGetShortString, tryGetU8_putU8, ok_bind]
  dsimp only
  rw [length, tryGetVec_append, ok_bind]
  dsimp only
  rw [fromUtf8Lossy_utf8]
  rfl

/-- An announcement is read back, whatever follows it in its item. -/
theorem takeIdentity_encode (announced : Announcement) (trailing : Bytes) :
    takeIdentity (announced.encode ++ trailing) = .ok (announced.item, trailing) := by
  simp only [Announcement.encode, List.append_assoc, takeIdentity, tryGetU16_putU16, ok_bind,
    takeSockaddr_encodeSockaddr, decode_encode_revision, tryGetU32_putU32,
    tryGetShortString_utf8 announced.short]
  rfl

/-! ### No look-ahead -/

theorem local_tryGetInt {Value : Type} (width : Nat) (ofNat : Nat → Value) :
    Local (tryGetInt width ofNat) := by
  intro input value rest more accepted
  rcases Nat.lt_or_ge input.length width with short | enough
  · rw [tryGetInt_of_lt ofNat short] at accepted
    cases accepted
  · have longer : width ≤ (input ++ more).length := by
      rw [List.length_append]
      omega
    rw [tryGetInt_of_le ofNat enough, getInt] at accepted
    obtain ⟨rfl, rfl⟩ := Prod.mk.inj (Except.ok.inj accepted)
    rw [tryGetInt_of_le ofNat longer, getInt, List.take_append_of_le_length enough,
      List.drop_append_of_le_length enough]

theorem local_tryGetVec (length : Nat) : Local (tryGetVec length) := by
  intro input field rest more accepted
  obtain ⟨size, rfl⟩ := tryGetVec_eq_ok_iff.mp accepted
  exact tryGetVec_eq_ok_iff.mpr ⟨size, List.append_assoc _ _ _⟩

theorem local_takeSockaddr : Local takeSockaddr := by
  intro input address rest more accepted
  obtain ⟨found, decoded, taken⟩ := bind_eq_ok_iff.mp accepted
  obtain ⟨rfl, rfl⟩ := Prod.mk.inj (Except.ok.inj taken)
  rw [decodeSockaddr] at decoded
  split at decoded
  · cases decoded
  next enough =>
    have within : sockaddrSize ≤ input.length := Nat.le_of_not_lt enough
    have longer : ¬ (input ++ more).length < sockaddrSize := by
      rw [List.length_append]
      omega
    have fields : ∀ start, start + 2 ≤ 16 → ∀ width, start + width ≤ 16 →
        ((input ++ more).drop start).take width = (input.drop start).take width := by
      intro start _ width inside
      rw [sockaddrSize] at within
      rw [List.drop_append_of_le_length (by omega),
        List.take_append_of_le_length (by rw [List.length_drop]; omega)]
    rw [takeSockaddr, decodeSockaddr, if_neg longer, fields 4 (by decide) 4 (by decide),
      fields 2 (by decide) 2 (by decide), decoded, ok_bind, List.drop_append_of_le_length within]
    rfl

theorem local_decodeRevision : Local CipRevision.decode :=
  (local_tryGetInt 1 UInt8.ofNat).andThen fun _ =>
    (local_tryGetInt 1 UInt8.ofNat).andThen fun _ => Local.done _

theorem local_tryGetShortString : Local tryGetShortString :=
  (local_tryGetInt 1 UInt8.ofNat).andThen fun _ =>
    (local_tryGetVec _).andThen fun _ => Local.done _

/-- Nothing behind the name of a device is read. -/
theorem local_takeIdentity : Local takeIdentity :=
  (local_tryGetInt 2 UInt16.ofNat).andThen fun _ =>
    local_takeSockaddr.andThen fun _ =>
      (local_tryGetInt 2 UInt16.ofNat).andThen fun _ =>
        (local_tryGetInt 2 UInt16.ofNat).andThen fun _ =>
          (local_tryGetInt 2 UInt16.ofNat).andThen fun _ =>
            local_decodeRevision.andThen fun _ =>
              (local_tryGetInt 2 UInt16.ofNat).andThen fun _ =>
                (local_tryGetInt 4 UInt32.ofNat).andThen fun _ =>
                  local_tryGetShortString.andThen fun _ => Local.done _

/-- An announcement that ends before its name does is refused. -/
theorem takeIdentity_cut {announced : Announcement} {front : Bytes}
    (within : front <+: announced.encode) (cut : front ≠ announced.encode) :
    ∃ refused, takeIdentity front = .error refused := by
  obtain ⟨back, whole⟩ := within
  have read := takeIdentity_encode announced []
  rw [List.append_nil, ← whole] at read
  refine local_takeIdentity.refused_of_front read ?_
  rintro rfl
  exact cut (by rw [← whole, List.append_nil])

/-! ### Replies -/

/-- An item of a reply: an announcement with anything behind it, or an item of another type. -/
inductive ReplyItem where
  | identity (announced : Announcement) (trailing : Bytes)
  | other (item : CommonPacketItem) (isOther : item.typeId ≠ CommonPacketItemId.listIdentity)

namespace ReplyItem

/-- The item as it is sent. -/
def sent : ReplyItem → CommonPacketItem
  | identity announced trailing =>
    ⟨CommonPacketItemId.listIdentity, announced.encode ++ trailing⟩
  | other item _ => item

/-- What is known of a device from the item. -/
def announces : ReplyItem → Option IdentityItem
  | identity announced _ => some announced.item
  | other _ _ => none

end ReplyItem

/-- The identity items of a reply are read as the identities of the devices, in order. -/
theorem mapM_identityItem (replies : List ReplyItem) :
    ((replies.map ReplyItem.sent).filter fun item =>
      item.typeId = CommonPacketItemId.listIdentity).mapM identityItem =
        .ok (replies.filterMap ReplyItem.announces) := by
  rw [mapM_eq_ok_iff]
  induction replies with
  | nil => exact List.Forall₂.nil
  | cons first others inductionHypothesis =>
    cases first with
    | identity announced trailing =>
      have announces : identityItem (ReplyItem.identity announced trailing).sent =
          .ok announced.item := by
        rw [identityItem, ReplyItem.sent, takeIdentity_encode]
        rfl
      rw [List.map_cons, List.filter_cons_of_pos (by exact decide_eq_true rfl),
        List.filterMap_cons, ReplyItem.announces]
      exact List.Forall₂.cons announces inductionHypothesis
    | other item isOther =>
      have passedOver : ¬ decide ((ReplyItem.other item isOther).sent.typeId =
          CommonPacketItemId.listIdentity) = true := fun same => isOther (of_decide_eq_true same)
      rw [List.map_cons, List.filter_cons, if_neg passedOver, List.filterMap_cons,
        ReplyItem.announces]
      exact inductionHypothesis

section Replies

variable {header : Bytes} (size : header.length = headerSize)

include size

/-- Where the packet behind the header is refused, so is the reply. -/
theorem refused_of_packet {body : Bytes} {refused : Error}
    (broken : CommonPacket.decode body = .error refused) :
    parseListIdentityResponse (header ++ body) = .error refused := by
  rw [parseListIdentityResponse, ← size, trySkip_append, ok_bind, broken]
  rfl

/-- The reply is what the identity items of its packet are read as. -/
theorem parseListIdentityResponse_of_packet {body : Bytes} {packet : CommonPacket}
    (decoded : CommonPacket.decode body = .ok packet) :
    parseListIdentityResponse (header ++ body) =
      (packet.items.filter fun item =>
        item.typeId = CommonPacketItemId.listIdentity).mapM identityItem := by
  rw [parseListIdentityResponse, ← size, trySkip_append, ok_bind, decoded, ok_bind]

/-- One item that is refused makes the whole reply refused. -/
theorem refused_of_item {body : Bytes} {packet : CommonPacket}
    (decoded : CommonPacket.decode body = .ok packet) {item : CommonPacketItem}
    (member : item ∈ packet.items) (isIdentity : item.typeId = CommonPacketItemId.listIdentity)
    (broken : ∃ refused, takeIdentity item.data = .error refused) :
    ∃ refused, parseListIdentityResponse (header ++ body) = .error refused := by
  obtain ⟨refused, broken⟩ := broken
  have among : item ∈ packet.items.filter fun item =>
      item.typeId = CommonPacketItemId.listIdentity :=
    List.mem_filter.mpr ⟨member, decide_eq_true isIdentity⟩
  have failed : identityItem item = .error refused := by
    rw [identityItem, broken]
    rfl
  rw [parseListIdentityResponse_of_packet size decoded]
  exact mapM_fails among failed

end Replies

/-- A packet that ends inside one of its items is refused. -/
theorem CommonPacket.refused_within {packet : CommonPacket} (fits : packet.Fits)
    {before after : List CommonPacketItem} {item : CommonPacketItem}
    (split : packet.items = before ++ item :: after) {front : Bytes}
    (within : front <+: item.encode) (some : front ≠ []) (cut : front ≠ item.encode) :
    ∃ refused, CommonPacket.decode (packet.upTo before ++ front) = .error refused := by
  obtain ⟨back, whole⟩ := within
  have isFront : packet.upTo before ++ front ++
      (back ++ after.flatMap CommonPacketItem.encode) = packet.encode := by
    rw [CommonPacket.upTo, CommonPacket.encode, split, List.flatMap_append, List.flatMap_cons,
      ← whole]
    simp only [List.append_assoc]
  cases outcome : CommonPacket.decode (packet.upTo before ++ front) with
  | error refused => exact ⟨refused, rfl⟩
  | ok decoded =>
    obtain ⟨isPrefix, ends⟩ := (CommonPacket.decode_front_iff fits isFront).mp outcome
    rw [CommonPacket.upTo, CommonPacket.upTo, List.append_assoc] at ends
    have same := List.append_cancel_left ends
    have before_le : before <+: packet.items := split ▸ List.prefix_append before _
    exfalso
    rcases List.prefix_or_prefix_of_prefix before_le isPrefix with ⟨more, longer⟩ | ⟨missing, rfl⟩
    · -- what is decoded behind the items in front would have to be the item as a whole
      rw [← longer, List.flatMap_append] at same
      have rest := List.append_cancel_left same
      obtain ⟨later, all⟩ := isPrefix
      rw [← longer, split, List.append_assoc] at all
      have items := List.append_cancel_left all
      cases more with
      | nil => exact some rest
      | cons first others =>
        obtain ⟨rfl, -⟩ := List.cons.inj items
        rw [List.flatMap_cons] at rest
        have size := congrArg List.length whole
        rw [rest, List.length_append, List.length_append] at size
        have nothing : others.flatMap CommonPacketItem.encode = [] :=
          List.length_eq_zero_iff.mp (by omega)
        rw [nothing, List.append_nil] at rest
        exact cut rest
    · -- the items in front are decoded, and the piece behind them is more
      rw [List.flatMap_append, List.append_assoc] at same
      have nothing := List.append_right_eq_self.mp same
      exact some (List.append_eq_nil_iff.mp nothing).2

/-- A ListIdentity reply is read as one identity for each identity item, in order, whatever the
header is, which items of other types stand between and what follows a name. It is refused if an
identity item ends before its name does, be it that the item is that short or that the reply ends
inside the item. -/
theorem parse_list_identity_reply (header : Bytes) (size : header.length = headerSize) :
    (∀ (replies : List ReplyItem) (trailing : Bytes),
      (CommonPacket.mk (replies.map ReplyItem.sent)).Fits →
        parseListIdentityResponse
            (header ++ ((CommonPacket.mk (replies.map ReplyItem.sent)).encode ++ trailing)) =
          .ok (replies.filterMap ReplyItem.announces)) ∧
    (∀ (packet : CommonPacket) (trailing : Bytes), packet.Fits →
      ∀ item ∈ packet.items, item.typeId = CommonPacketItemId.listIdentity →
        ∀ announced : Announcement, item.data <+: announced.encode →
          item.data ≠ announced.encode →
            ∃ refused, parseListIdentityResponse (header ++ (packet.encode ++ trailing)) =
              .error refused) ∧
    (∀ packet : CommonPacket, packet.Fits →
      ∀ (before after : List CommonPacketItem) (item : CommonPacketItem),
        packet.items = before ++ item :: after →
          ∀ front, front <+: item.encode → front ≠ [] → front ≠ item.encode →
            ∃ refused, parseListIdentityResponse (header ++ (packet.upTo before ++ front)) =
              .error refused) := by
  refine ⟨fun replies trailing fits => ?_, ?_, ?_⟩
  · rw [parseListIdentityResponse_of_packet size (CommonPacket.decode_encode_append fits trailing)]
    exact mapM_identityItem replies
  · intro packet trailing fits item member isIdentity announced within cut
    exact refused_of_item size (CommonPacket.decode_encode_append fits trailing) member isIdentity
      (takeIdentity_cut within cut)
  · intro packet fits before after item split front within some cut
    obtain ⟨refused, broken⟩ := CommonPacket.refused_within fits split within some cut
    exact ⟨refused, refused_of_packet size broken⟩

/-- A drive that answers with its name and a byte behind it. -/
def sampleAnnouncement : Announcement where
  protocolVersion := 1
  address := ⟨⟨0xC0A8010F⟩, 44818⟩
  vendorId := 1
  deviceType := 0x96
  productCode := 9
  revision := ⟨5, 1⟩
  status := 0x30
  serialNumber := 0x808DE192
  productName := ['5', '2', '5']
  short := by decide

/-- The items of two devices, and an item of another type between them. -/
def sampleItems : List ReplyItem :=
  [.identity sampleAnnouncement [0xFF],
    .other ⟨CommonPacketItemId.unconnectedMessage, [1]⟩ (by decide),
    .identity { sampleAnnouncement with serialNumber := 7 } []]

theorem parse_list_identity_reply_sample :
    let reply : CommonPacket := ⟨sampleItems.map ReplyItem.sent⟩
    let short : CommonPacketItem := ⟨CommonPacketItemId.listIdentity, [1, 0, 0, 2]⟩
    parseListIdentityResponse (List.replicate 24 0xFF ++ (reply.encode ++ [])) =
        .ok [sampleAnnouncement.item,
          { sampleAnnouncement with serialNumber := 7 : Announcement }.item] ∧
      (∃ refused, parseListIdentityResponse
        (List.replicate 24 0xFF ++ ((CommonPacket.mk [short]).encode ++ [])) = .error refused) ∧
      ∃ refused, parseListIdentityResponse
        (List.replicate 24 0xFF ++ (reply.upTo [] ++ [0x0C, 0])) = .error refused := by
  intro reply short
  have fits : reply.Fits := ⟨by decide, by decide⟩
  have parsed := parse_list_identity_reply (List.replicate 24 0xFF) rfl
  exact ⟨parsed.1 sampleItems [] fits,
    parsed.2.1 ⟨[short]⟩ [] ⟨by decide, by decide⟩ short (List.mem_singleton_self _) rfl
      sampleAnnouncement ⟨_, rfl⟩ (by decide),
    parsed.2.2 reply fits [] _ _ rfl [0x0C, 0] ⟨_, rfl⟩ (by decide) (by decide)⟩

end EipScanner
