/-
This file is about requests that must succeed: they are sent through the message router, and any
status but success is an error. The objects of a device are read in requests of this kind.

A device that answers a list of requests in order, each with success and with data in a reply of
any form that fits, gives a program these data; and a session that keeps its packets has kept one
for each request.
-/

import EipScanner.Dialogue
import EipScanner.FaultManager
import EipScanner.FileUpload

namespace EipScanner

namespace ServiceCode

def getAttributeAll : ServiceCode := ⟨0x01⟩

end ServiceCode

namespace MessageRouter

/-- A request, and the data that it is answered with. -/
structure Exchange where
  service : ServiceCode
  path : EPath
  data : Bytes
  answer : Bytes
  deriving DecidableEq, Repr

section
variable {Device : Type} (session : Session Device) (router : MessageRouter)

/-- Sends a request, checks the status of the response, and takes its data. -/
def ask (service : ServiceCode) (path : EPath) (data : Bytes) (context : String) :
    Dialogue Device Error Bytes := do
  let response ← (router.sendRequest session service path data : Dialogue Device Error _)
  let response ← response.check context
  return response.data

/-- The session's device answers the request of an exchange with success and with its data, in a
reply of any form that fits. -/
def Answers (exchange : Exchange) (device next : Device) : Prop :=
  ∃ (packet : EncapsPacket) (reply : RouterReply),
    session.sendAndReceive (router.requestPacket exchange.service exchange.path exchange.data []
        (session.sessionHandle device)) device = (.ok packet, next) ∧
      packet.data = reply.payload ∧ reply.Fits ∧
      reply.response.generalStatus = .success ∧ reply.response.data = exchange.answer

/-- The data of a request packet. The handle of the session is not part of it. -/
def requestData (service : ServiceCode) (path : EPath) (data : Bytes) : Bytes :=
  (router.requestPacket service path data [] 0).data

/-- What is sent in an exchange. -/
def Exchange.sent (exchange : Exchange) : Bytes :=
  router.requestData exchange.service exchange.path exchange.data

/-- The data of the packets that a session was handed. -/
def handedData (device : Device × List EncapsPacket) : List Bytes :=
  device.2.map EncapsPacket.data

end

section
variable {Device : Type} {session : Session Device} {router : MessageRouter}
  {exchange : Exchange} {device next : Device}

theorem Answers.ask (answers : Answers session router exchange device next) (context : String) :
    router.ask session exchange.service exchange.path exchange.data context device =
      (.ok exchange.answer, next) := by
  obtain ⟨packet, reply, replied, payload, fits, success, same⟩ := answers
  have answered : router.sendRequest session exchange.service exchange.path exchange.data device =
      (.ok reply.response, next) := by
    rw [sendRequest, sendRequestWithItems_eq]
    dsimp only
    rw [replied, ok_bind, payload, RouterReply.decodeReply_payload fits]
  have checked : reply.response.check context = .ok reply.response := if_pos success
  rw [MessageRouter.ask, Dialogue.bind_of_ok answered, Dialogue.bind_settled_ok checked, same]
  rfl

/-- A session that keeps its packets answers as the session does, and keeps the request. -/
theorem Answers.recorded (answers : Answers session router exchange device next)
    (log : List EncapsPacket) :
    ∃ packet, Answers session.recorded router exchange (device, log) (next, log ++ [packet]) ∧
      packet.data = exchange.sent router := by
  obtain ⟨packet, reply, replied, rest⟩ := answers
  refine ⟨router.requestPacket exchange.service exchange.path exchange.data []
    (session.sessionHandle device), ⟨packet, reply, ?_, rest⟩, rfl⟩
  simp only [Session.recorded, replied]

/-- A request that was answered to a session that keeps its packets was answered by the session
itself, with success. -/
theorem response_of_ask_recorded {service : ServiceCode} {path : EPath} {data answer : Bytes}
    {context : String} {log : List EncapsPacket} {after : Device × List EncapsPacket}
    (asked : router.ask session.recorded service path data context (device, log) =
      (.ok answer, after)) :
    ∃ response, router.sendRequest session service path data device = (.ok response, after.1) ∧
      response.generalStatus = .success ∧ response.data = answer := by
  obtain ⟨response, answered, replied, checked⟩ := Dialogue.bind_eq_ok_iff.mp asked
  rw [sendRequest, sendRequestWithItems_recorded] at replied
  obtain ⟨same, rfl⟩ := Prod.mk.inj replied
  obtain ⟨other, _, settled, last⟩ := Dialogue.bind_eq_ok_iff.mp checked
  obtain ⟨isOk, rfl⟩ := Dialogue.settled_eq_ok_iff.mp settled
  obtain ⟨data, rfl⟩ := Prod.mk.inj last
  have success : response.generalStatus = .success := by
    by_contra refused
    rw [MessageRouterResponse.check, if_neg refused] at isOk
    cases isOk
  rw [MessageRouterResponse.check, if_pos success] at isOk
  obtain rfl := Except.ok.inj isOk
  exact ⟨response, Prod.ext same rfl, success, Except.ok.inj data⟩

/-- All of a conversation is kept. -/
theorem converses_recorded {exchanges : List Exchange} {device last : Device}
    (talks : Dialogue.Converses (Answers session router) exchanges device last)
    (log : List EncapsPacket) :
    ∃ packets, Dialogue.Converses (Answers session.recorded router) exchanges (device, log)
        (last, log ++ packets) ∧
      packets.map EncapsPacket.data = exchanges.map (Exchange.sent router) := by
  induction exchanges generalizing device log with
  | nil =>
    obtain rfl : device = last := talks
    exact ⟨[], congrArg (device, ·) (List.append_nil log).symm, rfl⟩
  | cons exchange later inductionHypothesis =>
    obtain ⟨next, here, rest⟩ := talks
    obtain ⟨packet, kept, same⟩ := here.recorded log
    obtain ⟨packets, others, data⟩ := inductionHypothesis rest (log ++ [packet])
    refine ⟨packet :: packets, ⟨_, kept, ?_⟩, ?_⟩
    · rwa [List.append_assoc] at others
    · rw [List.map_cons, List.map_cons, same, data]

/-- A request is asked once, whatever comes of it. -/
theorem asks_ask (session : Session Device) (router : MessageRouter) (service : ServiceCode)
    (path : EPath) (data : Bytes) (context : String) :
    Dialogue.Asks handedData [router.requestData service path data]
      (router.ask session.recorded service path data context) := by
  have once : Dialogue.Asks handedData [router.requestData service path data]
      (router.sendRequest session.recorded service path data :
        Dialogue (Device × List EncapsPacket) Error _) := by
    intro state
    refine ⟨[router.requestData service path data], ?_, List.prefix_rfl, fun _ _ => rfl⟩
    rw [sendRequest, sendRequestWithItems_recorded, handedData, handedData, List.map_append]
    rfl
  have checked (response : MessageRouterResponse) :
      Dialogue.Asks handedData [] (do
        let response ← response.check context
        return response.data : Dialogue (Device × List EncapsPacket) Error Bytes) :=
    (Dialogue.asks_settled _).bind fun response => Dialogue.asks_settled (.ok response.data)
  exact once.bind checked

end

/-! ### A session that answers from a queue -/

/-- Answers message router requests from a queue. -/
def mockSession : Session (List Bytes) where
  sessionHandle _ := 1
  sendAndReceive packet replies :=
    match FileObject.requestIn packet, replies with
    | .error refused, replies => (.error refused, replies)
    | .ok _, [] => (.error (.unsupported "mock session has no reply queued"), [])
    | .ok parts, answer :: later =>
      (.ok { packet with data := (FileObject.replyWith parts.service answer).payload }, later)

theorem answers_mockSession (router : MessageRouter) {exchange : Exchange}
    (short : exchange.data.length ≤ 255) (small : exchange.answer.length ≤ 65531)
    (later : List Bytes) :
    Answers mockSession router exchange (exchange.answer :: later) later := by
  refine ⟨{ router.requestPacket exchange.service exchange.path exchange.data [] 1 with
    data := (FileObject.replyWith exchange.service exchange.answer).payload },
    FileObject.replyWith exchange.service exchange.answer, ?_, rfl,
    FileObject.fits_replyWith _ small, rfl, rfl⟩
  simp only [mockSession]
  rw [FileObject.requestIn_of_short router exchange.service exchange.path short]

/-- The answers that are queued are given in order. -/
theorem converses_mockSession (router : MessageRouter) {exchanges : List Exchange}
    (each : ∀ exchange ∈ exchanges,
      exchange.data.length ≤ 255 ∧ exchange.answer.length ≤ 65531) :
    Dialogue.Converses (Answers mockSession router) exchanges
      (exchanges.map Exchange.answer) [] := by
  induction exchanges with
  | nil => rfl
  | cons exchange later inductionHypothesis =>
    obtain ⟨⟨short, small⟩, others⟩ := List.forall_mem_cons.mp each
    exact ⟨_, answers_mockSession router short small _, inductionHypothesis others⟩

end MessageRouter

end EipScanner
