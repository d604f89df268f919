/-
This file is about a device that serves requests to its objects, at the other end of a
session that threads share. The device reads each packet that arrives, layer by layer,
as a service, a path, data and items; carries it out on its state; and sends the
response, within a frame, under the handle that it gave the session.

As long as each write sends nothing or the whole of a packet that fits, every request that
a thread makes is carried out once, as it was made, and in the order in which the requests
took the stream; and a call that read its own answer returns the response to its own
request. A read that times out loses the response, but not the request.
-/

import EipScanner.RemoteCall

namespace EipScanner

/-! ### Requests as a device reads them -/

/-- A request, without the bytes that it was sent in. -/
structure ObjectRequest where
  service : ServiceCode
  path : EPath
  data : Bytes
  additionalItems : List CommonPacketItem
  deriving DecidableEq, Repr

/-- The request in the data of a packet: behind the interface handle and the timeout, it is the
second item, and further items follow it. -/
def ObjectRequest.read (data : Bytes) : Except Error ObjectRequest := do
  let buf ← trySkip 6 data
  let packet ← CommonPacket.decode buf
  match packet.items with
  | _ :: request :: additionalItems => do
    let parts ← MessageRouter.RequestParts.decode request.data
    let path ← EPath.decode parts.path
    return ⟨parts.service, path, parts.data, additionalItems⟩
  | _ => throw (.invalidPacket "SendRRData request has no data item")

def RouterCall.request (call : RouterCall) : ObjectRequest :=
  ⟨call.service, call.path, call.data, call.additionalItems⟩

/-- A request is read as it was made. -/
theorem read_packet {call : RouterCall} (fits : call.Fits) (sessionHandle : UInt32) :
    ObjectRequest.read (call.packet sessionHandle).data = .ok call.request := by
  obtain ⟨buf, skipped, decoded⟩ := bind_eq_ok_iff.mp
    (@MessageRouter.decode_requestPacket call.router call.service call.path call.data
      call.additionalItems fits sessionHandle)
  rw [ObjectRequest.read, RouterCall.packet, skipped, ok_bind, decoded, ok_bind]
  dsimp only [MessageRouter.items, CommonPacketItem.unconnectedData]
  rw [MessageRouter.RequestParts.decode_encodeRequest, ok_bind]
  dsimp only
  rw [EPath.decode_encode, ok_bind]
  rfl

/-! ### The device -/

/-- A response as it is sent. -/
def RouterReply.ofResponse (response : MessageRouterResponse) : RouterReply where
  header := [0, 0, 0, 0, 0, 0]
  address := .nullAddress
  dataType := .unconnectedMessage
  response := response

/-- What a device does with its objects. Every response fits a frame. -/
structure ObjectServer (State : Type) where
  sessionHandle : UInt32
  serve : ObjectRequest → State → MessageRouterResponse × State
  fits : ∀ request state, (RouterReply.ofResponse (serve request state).1).Fits
  short : ∀ request state,
    (RouterReply.ofResponse (serve request state).1).payload.length < 2 ^ 16

namespace ObjectServer

variable {State : Type} (server : ObjectServer State)

def answer (request : ObjectRequest) (state : State) : Frame where
  packet := EncapsPacket.new EncapsCommand.sendRrData server.sessionHandle
    (RouterReply.ofResponse (server.serve request state).1).payload
  fits := server.short request state

def registered : Frame where
  packet := EncapsPacket.new EncapsCommand.registerSession server.sessionHandle [1, 0, 0, 0]
  fits := show 4 < 2 ^ 16 by decide

/-- The answer to what the device does not understand: status 3, invalid format or data. -/
def refusal : Frame where
  packet := { EncapsPacket.new EncapsCommand.sendRrData server.sessionHandle [] with status := ⟨3⟩ }
  fits := show 0 < 2 ^ 16 by decide

/-- The device with the list of the requests that it has carried out. -/
def device : Responder (State × List ObjectRequest) := fun bytes state =>
  match EncapsPacket.decode bytes with
  | .error _ => (server.refusal, state)
  | .ok packet =>
    if packet.command = EncapsCommand.registerSession then (server.registered, state)
    else if packet.command = EncapsCommand.sendRrData ∧
        packet.sessionHandle = server.sessionHandle then
      match ObjectRequest.read packet.data with
      | .error _ => (server.refusal, state)
      | .ok request => (server.answer request state.1,
          (server.serve request state.1).2, state.2 ++ [request])
    else (server.refusal, state)

/-- Requests carried out one after the other. -/
def serveAll : List ObjectRequest → State → List MessageRouterResponse × State
  | [], state => ([], state)
  | request :: later, state =>
    let served := server.serve request state
    let rest := serveAll later served.2
    (served.1 :: rest.1, rest.2)

/-! ### One packet -/

theorem device_register (state : State × List ObjectRequest) :
    server.device EncapsPacket.registerSession.encode state = (server.registered, state) := by
  have decoded : EncapsPacket.decode EncapsPacket.registerSession.encode =
      .ok EncapsPacket.registerSession := rfl
  rw [device, decoded]
  rfl

theorem device_call {call : RouterCall} (fits : call.Fits) (state : State × List ObjectRequest) :
    server.device (call.packet server.sessionHandle).encode state =
      (server.answer call.request state.1,
        (server.serve call.request state.1).2, state.2 ++ [call.request]) := by
  have decoded := EncapsPacket.decode_eq_ok_iff.mpr
    ⟨RouterCall.fits_packet fits server.sessionHandle, rfl⟩
  rw [device, decoded]
  dsimp only
  rw [if_neg (by exact (by decide : EncapsCommand.sendRrData ≠ EncapsCommand.registerSession)),
    if_pos ⟨rfl, rfl⟩, read_packet fits]

theorem device_unregister (sessionHandle : UInt32) (state : State × List ObjectRequest) :
    (server.device (EncapsPacket.unregisterSession sessionHandle).encode state).2 = state := by
  rw [device, EncapsPacket.decode_eq_ok_iff.mpr
    ⟨EncapsPacket.fits_unregisterSession sessionHandle, rfl⟩]
  dsimp only
  rw [if_neg (by
      exact (by decide : EncapsCommand.unRegisterSession ≠ EncapsCommand.registerSession)),
    if_neg fun both => absurd both.1
      (by exact (by decide : EncapsCommand.unRegisterSession ≠ EncapsCommand.sendRrData))]

/-- What a device answers under its own handle with status success passes the checks. -/
theorem checkReply_bytes {frame : Frame} {sessionHandle : UInt32}
    (success : frame.packet.status = EncapsStatus.success)
    (own : sessionHandle = 0 ∨ frame.packet.sessionHandle = sessionHandle) :
    SessionState.checkReply sessionHandle frame.bytes = .ok frame.packet := by
  rw [SessionState.checkReply, frame.decode_bytes]
  dsimp only
  rw [if_neg (not_not.mpr success), if_neg]
  rintro ⟨some, other⟩
  exact own.elim some other

/-- A call on the session that is answered at once returns the response to its request. -/
theorem send_call {call : RouterCall} (fits : call.Fits) (state : State × List ObjectRequest) :
    call.send (server.device.atomicSession server.sessionHandle) state =
      (.ok (server.serve call.request state.1).1,
        (server.serve call.request state.1).2, state.2 ++ [call.request]) := by
  have answered : (server.device.atomicSession server.sessionHandle).sendAndReceive
      (call.packet server.sessionHandle) state =
        (.ok (server.answer call.request state.1).packet,
          (server.serve call.request state.1).2, state.2 ++ [call.request]) := by
    show (let (answer, next) := server.device (call.packet server.sessionHandle).encode state
      (SessionState.checkReply server.sessionHandle answer.bytes, next)) = _
    rw [device_call server fits]
    exact congrArg (·, _) (checkReply_bytes rfl (Or.inr rfl))
  rw [RouterCall.send, MessageRouter.sendRequestWithItems_eq]
  dsimp only
  refine (congrArg (fun answer => (answer.1 >>= fun reply => MessageRouter.decodeReply reply.data,
    answer.2)) answered).trans ?_
  dsimp only
  rw [ok_bind]
  exact congrArg (·, _) (RouterReply.decodeReply_payload (server.fits call.request state.1))

/-! ### All packets -/

theorem sendAll_calls {calls : List RouterCall} (fits : ∀ call ∈ calls, call.Fits)
    (state : State × List ObjectRequest) :
    RouterCall.sendAll (server.device.atomicSession server.sessionHandle) calls state =
      ((server.serveAll (calls.map RouterCall.request) state.1).1.map .ok,
        (server.serveAll (calls.map RouterCall.request) state.1).2,
        state.2 ++ calls.map RouterCall.request) := by
  induction calls generalizing state with
  | nil => exact congrArg (fun log => ([], state.1, log)) (List.append_nil _).symm
  | cons call later inductionHypothesis =>
    obtain ⟨first, rest⟩ := List.forall_mem_cons.mp fits
    rw [RouterCall.sendAll, send_call server first]
    dsimp only
    rw [inductionHypothesis rest, List.append_assoc]
    rfl

/-- The state of the device after calls. -/
theorem after_calls {calls : List RouterCall} (fits : ∀ call ∈ calls, call.Fits)
    (state : State × List ObjectRequest) :
    server.device.after state
        (calls.map fun call => (call.packet server.sessionHandle).encode) =
      ((server.serveAll (calls.map RouterCall.request) state.1).2,
        state.2 ++ calls.map RouterCall.request) := by
  have both := (server.device.sendAll_atomicSession server.sessionHandle calls state).symm.trans
    (server.sendAll_calls fits state)
  exact congrArg Prod.snd both

theorem register_device (state : State × List ObjectRequest) :
    server.device.register state = (.ok server.registered.packet, state) := by
  show (let (answer, next) := server.device EncapsPacket.registerSession.encode state
    (SessionState.checkReply 0 answer.bytes, next)) = _
  rw [device_register]
  exact congrArg (·, state) (checkReply_bytes rfl (Or.inl rfl))

variable {server} {start : State} {remote : RemoteSession (State × List ObjectRequest)}

/-- The packets of a session's beginning and of its end leave the device as it is. -/
theorem after_opening {opening : List EncapsPacket}
    (opens : opening = [] ∨ opening = [EncapsPacket.registerSession])
    (state : State × List ObjectRequest) :
    server.device.after state (opening.map EncapsPacket.encode) = state := by
  rcases opens with rfl | rfl
  · rfl
  · exact congrArg Prod.snd (server.device_register state)

theorem after_closing {closing : List EncapsPacket} {sessionHandle : UInt32} {ended : Prop}
    (closes : closing = [] ∨ ended ∧ closing = [EncapsPacket.unregisterSession sessionHandle])
    (state : State × List ObjectRequest) :
    server.device.after state (closing.map EncapsPacket.encode) = state := by
  rcases closes with rfl | ⟨-, rfl⟩
  · rfl
  · exact server.device_unregister sessionHandle state

/-- A session in use has the handle of its device. -/
theorem handle_eq (follows : remote.Follows server.device (start, []))
    (inUse : remote.session.phase = .registered) :
    remote.session.sessionHandle = server.sessionHandle := by
  obtain ⟨_, reply, given, handle, -⟩ := follows.registered inUse
  rw [register_device] at given
  rw [handle, ← Except.ok.inj given]
  rfl

/-- The device has carried out the requests of all calls. -/
theorem device_eq (follows : remote.Follows server.device (start, [])) :
    remote.device = ((server.serveAll (remote.calls.map fun call => call.2.request) start).2,
      remote.calls.map fun call => call.2.request) := by
  obtain ⟨opening, closing, life⟩ := follows.life
  have ran : server.device.after (start, []) (remote.calls.map fun call =>
      (call.2.packet remote.session.sessionHandle).encode) =
        ((server.serveAll (remote.calls.map fun call => call.2.request) start).2,
          remote.calls.map fun call => call.2.request) := by
    by_cases inUse : remote.session.phase = .registered
    · have served := @after_calls _ server (remote.calls.map Prod.snd)
        (List.forall_mem_map.mpr follows.fits) (start, [])
      rw [List.map_map, List.map_map] at served
      rw [handle_eq follows inUse]
      exact served
    · rw [(life.outside inUse).1]
      rfl
  rw [follows.current, life.received, List.map_append, List.map_append, Responder.after_append,
    Responder.after_append, after_opening life.opens, List.map_map]
  exact (congrArg (server.device.after · _) ran).trans (after_closing life.closes _)

end ObjectServer

/-! ### Every run -/

/-- Every request is carried out exactly once, as it was made, and answered to the thread that made
it. In every run of a session that threads share with a device that serves requests, in which each
write sends nothing or the whole of a packet that fits, whenever bytes arrive, whichever reads time
out and wherever the session ends: the device has carried out the requests of all calls that took
the stream, each once, in that order, and is in the state that this leaves it in; a returned call
that read its own answer has the response to its own request, and without a timeout that is every
returned call. -/
theorem requests_served_once {State : Type} {server : ObjectServer State} {start : State}
    {events : List RemoteEvent} {last : RemoteSession (State × List ObjectRequest)}
    (whole : ∀ event ∈ events, event.Whole)
    (reached : (remoteMachine server.device).run (RemoteSession.connect (start, [])) events =
      some last) :
    last.device = ((server.serveAll (last.calls.map fun call => call.2.request) start).2,
        last.calls.map fun call => call.2.request) ∧
    (∀ (index : Nat) (done : DoneCall), last.session.done[index + 1]? = some done →
      (last.calls[index]?).map Prod.fst = some done.thread ∧
        (last.session.ReadOwn done → ∃ response,
          (server.serveAll (last.calls.map fun call => call.2.request) start).1[index]? =
              some response ∧
            (done.result >>= fun reply => MessageRouter.decodeReply reply.data) = .ok response)) ∧
    ((∀ event ∈ events, event ≠ .stream .timeout) → last.session.AllOwn) := by
  have follows := RemoteSession.follows_run whole reached
  refine ⟨ObjectServer.device_eq follows, fun index done found => ?_, fun prompt =>
    RemoteSession.allOwn_run (fun event member => ⟨whole event member, prompt event member⟩)
      reached⟩
  obtain ⟨thread, own⟩ := follows.results found
  refine ⟨thread, fun read => ?_⟩
  have some : last.calls ≠ [] := by
    rintro none
    rw [none] at thread
    exact absurd thread (by simp)
  have result := own read
  rw [ObjectServer.handle_eq follows (follows.inUse some), ObjectServer.register_device,
    ObjectServer.sendAll_calls server (List.forall_mem_map.mpr follows.fits), List.map_map,
    List.getElem?_map] at result
  obtain ⟨response, here, same⟩ := Option.map_eq_some_iff.mp result
  exact ⟨response, here, same.symm⟩

theorem fits_countReply (count : UInt8) : (countReply count).Fits where
  header := rfl
  words := Nat.zero_le _
  count := show 2 ≤ 65535 by decide
  items item member := by
    simp only [RouterReply.items, countReply, List.mem_cons, List.not_mem_nil, or_false] at member
    rcases member with rfl | rfl
    · exact Nat.zero_le _
    · exact show 5 ≤ 65535 by decide

/-- It keeps one byte, which Set_Attribute_Single replaces, and answers with what it was. -/
def heldByte : ObjectServer UInt8 where
  sessionHandle := 7
  serve request kept :=
    ((countReply kept).response, if request.service.code = 0x10 then request.data.headD 0 else kept)
  fits _ kept := fits_countReply kept
  short _ kept := (length_countReply kept).trans_lt (by decide)

def setAttribute : RouterCall where
  router := MessageRouter.with8bitPathSegments
  service := ⟨0x10⟩
  path := EPath.ofAttribute 1 1 7
  data := [5]
  additionalItems := []

/-- The first thread does not wait for its reply, and a write fails before it has sent anything. -/
def impatient : List RemoteEvent :=
  [.register 0, .stream (.deliver 28), .stream .readHeader, .stream .readData,
    .call 1 setAttribute, .stream (.deliver 30), .stream .readHeader, .stream .timeout,
    .writeFails (setAttribute.packet 7) 0, .call 2 getAttribute, .stream (.deliver 60)]

theorem whole_impatient : ∀ event ∈ impatient, event.Whole := by
  have first : setAttribute.Fits := by
    rw [RouterCall.Fits]
    decide
  have second : getAttribute.Fits := by
    rw [RouterCall.Fits]
    decide
  simp [impatient, RemoteEvent.Whole, first, second]

/-- Its request is carried out all the same, and once. -/
theorem requests_served_once_impatient :
    ∃ last, (remoteMachine heldByte.device).run (RemoteSession.connect (0, [])) impatient =
        some last ∧
      last.device = ((heldByte.serveAll [setAttribute.request, getAttribute.request] 0).2,
        [setAttribute.request, getAttribute.request]) ∧
      last.device.1 = 5 :=
  ⟨_, rfl, (@requests_served_once UInt8 heldByte 0 impatient _ whole_impatient rfl).1, rfl⟩

end EipScanner
