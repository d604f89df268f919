/-
This file is about the replies to router requests: six bytes, and a common packet with an
address item, an item that holds the encoded response, and any further items.

A reply of this form is decoded to exactly its response. Every other reply is decoded to
something too, or refused: the reads that would panic on a short buffer are made only
when enough bytes remain.
-/

import EipScanner.MessageRouter

namespace EipScanner

/-- A reply to a router request, as a device makes it up. -/
structure RouterReply where
  /-- The interface handle and the timeout. -/
  header : Bytes
  address : CommonPacketItem
  dataType : CommonPacketItemId
  response : MessageRouterResponse
  deriving DecidableEq, Repr

namespace RouterReply

def items (reply : RouterReply) : List CommonPacketItem :=
  reply.address :: ⟨reply.dataType, reply.response.encode⟩ :: reply.response.additionalPacketItems

def payload (reply : RouterReply) : Bytes := reply.header ++ CommonPacket.encode ⟨reply.items⟩

/-- Every part of the reply has the size it must have, or fits the field that announces it. -/
structure Fits (reply : RouterReply) : Prop where
  header : reply.header.length = 6
  words : reply.response.additionalStatus.length ≤ 255
  count : reply.items.length ≤ 65535
  items : ∀ item ∈ reply.items, item.data.length ≤ 65535

variable {reply : RouterReply}

theorem Fits.packet (fits : reply.Fits) : CommonPacket.Fits ⟨reply.items⟩ :=
  ⟨Nat.lt_succ_of_le fits.count, fun item member => Nat.lt_succ_of_le (fits.items item member)⟩

theorem items_payload (fits : reply.Fits) :
    (trySkip 6 reply.payload >>= CommonPacket.decode) = .ok ⟨reply.items⟩ := by
  have skip : trySkip 6 reply.payload = .ok (CommonPacket.encode ⟨reply.items⟩) := by
    rw [payload, ← fits.header]
    exact trySkip_append _ _
  rw [skip, ok_bind]
  exact CommonPacket.decode_encode fits.packet

/-- A reply is decoded to its response. -/
theorem decodeReply_payload (fits : reply.Fits) :
    MessageRouter.decodeReply reply.payload = .ok reply.response := by
  have decoded := MessageRouterResponse.decode_encode reply.response fits.words
  have response : (MessageRouterResponse.decode reply.response.encode).map
      (fun response => { response with
        additionalPacketItems := reply.response.additionalPacketItems }) = .ok reply.response := by
    rw [decoded]
    rfl
  rw [MessageRouter.decodeReply, MessageRouter.decodeReplyWith, items_payload fits]
  exact response

end RouterReply

namespace MessageRouter

/-- No read of the decoder panics, whatever the reply. -/
theorem agrees_decodeReplyWith (data : Bytes) :
    Agrees (decodeReplyWith UncheckedReads.panicking data)
      (decodeReplyWith UncheckedReads.total data) := by
  unfold decodeReplyWith
  split
  · rfl
  next packet _ =>
    cases packet.items.drop 1 with
    | nil => rfl
    | cons dataItem items =>
      refine (MessageRouterResponse.agrees_decodeWith dataItem.data).bind ?_
      exact rfl

variable {State : Type} (session : Session State) (router : MessageRouter)
  (service : ServiceCode) (path : EPath) (data : Bytes) (additionalItems : List CommonPacketItem)
  (state : State)

/-- Response decoding. A reply that fits is returned as exactly its response, with its status
words, its data and its further items; and whatever the session replies, each of the reads that
would panic is made only when enough bytes remain. -/
theorem response_exact :
    (∀ (reply : RouterReply) (packet : EncapsPacket) (next : State), reply.Fits →
      session.sendAndReceive (router.requestPacket service path data additionalItems
        (session.sessionHandle state)) state = (.ok packet, next) →
      packet.data = reply.payload →
        sendRequestWithItems session router service path data additionalItems state =
          (.ok reply.response, next)) ∧
      sendRequestWithItemsOver session router service path data additionalItems
          UncheckedReads.panicking state =
        some (sendRequestWithItems session router service path data additionalItems state) := by
  refine ⟨fun reply packet next fits answered same => ?_, ?_⟩
  · rw [sendRequestWithItems_eq]
    dsimp only
    rw [answered, ok_bind, same, RouterReply.decodeReply_payload fits]
  · unfold sendRequestWithItems sendRequestWithItemsOver
    dsimp only
    split
    · rfl
    next packet next _ =>
      refine (agrees_decodeReplyWith packet.data).bind ?_
      exact rfl

/-- A reply with a status word and a further item. -/
def statusReply : RouterReply where
  header := [0, 0, 0, 0, 0, 0]
  address := .nullAddress
  dataType := .unconnectedMessage
  response := ⟨⟨0x8E⟩, ⟨0x1F⟩, [0x1234], [0xAA], [⟨.t2oSockaddrInfo, [1]⟩]⟩

/-- The session to a device that answers every request with the same data. -/
def constantSession (data : Bytes) : Session Unit where
  sessionHandle _ := 1
  sendAndReceive packet state := (.ok { packet with data }, state)

theorem response_exact_statusReply :
    sendRequestWithItems (constantSession statusReply.payload) new ⟨0x0E⟩ (EPath.ofClass 1) [] []
        () =
      (.ok ⟨⟨0x8E⟩, ⟨0x1F⟩, [0x1234], [0xAA], [⟨.t2oSockaddrInfo, [1]⟩]⟩, ()) :=
  (response_exact (constantSession statusReply.payload) new ⟨0x0E⟩ (EPath.ofClass 1) [] [] ()).1
    statusReply _ () ⟨rfl, by decide, by decide, by decide⟩ rfl rfl

end MessageRouter

end EipScanner
