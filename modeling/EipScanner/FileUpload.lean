/-
This file proves that an upload is faithful. A device serves a file in numbered transfers,
each with the next piece of the file, and the number wraps around after 255. Against such
a device an upload comes to an end after as many transfers as the file has pieces, returns
exactly the file, and leaves the object loaded.

After a number of transfers the content collected so far is the front of the file up to
the next piece. This is what the induction over the transfers carries.
-/

import EipScanner.FileObject

namespace EipScanner

/-! ### Files in transfers -/

/-- A file that a device hands out in transfers of a size. -/
structure ServedFile where
  content : Bytes
  transferSize : UInt8
  short : content.length < 2 ^ 32
  positive : 0 < transferSize.toNat

namespace ServedFile

variable (file : ServedFile)

/-- The number of transfers. An empty file takes one too. -/
def transfers : Nat :=
  max 1 ((file.content.length + (file.transferSize.toNat - 1)) / file.transferSize.toNat)

/-- The piece of the file in one transfer. -/
def chunk (index : Nat) : Bytes :=
  (file.content.drop (index * file.transferSize.toNat)).take file.transferSize.toNat

def packetType (index : Nat) : TransferPacketType :=
  if index + 1 < file.transfers then if index = 0 then .first else .middle
  else if index = 0 then .firstAndLast
  else .last

/-- What the device answers when an upload is initiated. -/
def announcement : Bytes :=
  putU32 (UInt32.ofNat file.content.length) ++ putU8 file.transferSize

/-- What follows the piece of a transfer: a checksum in the last one. -/
def trailer (index : Nat) (checksum : UInt16) : Bytes :=
  if index + 1 < file.transfers then [] else putU16 checksum

/-- What the device answers to a transfer. -/
def packet (index : Nat) (checksum : UInt16) : Bytes :=
  putU8 (UInt8.ofNat index) ++
    (putU8 (file.packetType index).code ++ (file.chunk index ++ file.trailer index checksum))

theorem transfers_pos : 0 < file.transfers :=
  Nat.lt_of_lt_of_le Nat.zero_lt_one (Nat.le_max_left _ _)

/-- The file reaches beyond every piece but the last. -/
theorem lt_length {index : Nat} (more : index + 1 < file.transfers) :
    (index + 1) * file.transferSize.toNat < file.content.length := by
  have quotient : index + 1 <
      (file.content.length + (file.transferSize.toNat - 1)) / file.transferSize.toNat := by
    unfold transfers at more
    omega
  have below := (Nat.le_div_iff_mul_le file.positive).mp quotient
  have positive := file.positive
  rw [Nat.succ_mul] at below
  omega

/-- The pieces together are the whole file. -/
theorem length_le : file.content.length ≤ file.transfers * file.transferSize.toNat := by
  have quotient : (file.content.length + (file.transferSize.toNat - 1)) /
      file.transferSize.toNat < file.transfers + 1 :=
    Nat.lt_succ_of_le (Nat.le_max_right _ _)
  have below := (Nat.div_lt_iff_lt_mul file.positive).mp quotient
  have positive := file.positive
  rw [Nat.succ_mul] at below
  omega

theorem length_chunk {index : Nat} (more : index + 1 < file.transfers) :
    (file.chunk index).length = file.transferSize.toNat := by
  have beyond := file.lt_length more
  rw [Nat.succ_mul] at beyond
  rw [chunk, List.length_take_of_le]
  rw [List.length_drop]
  omega

/-- The front of a file grows by one piece. -/
theorem take_append_chunk (index : Nat) :
    file.content.take (index * file.transferSize.toNat) ++ file.chunk index =
      file.content.take ((index + 1) * file.transferSize.toNat) := by
  rw [chunk, ← List.take_add, Nat.succ_mul]

/-- A piece that is not the last has the type of a first or middle packet. -/
theorem packetType_more {index : Nat} (more : index + 1 < file.transfers) :
    file.packetType index = .first ∨ file.packetType index = .middle := by
  rw [packetType, if_pos more]
  split
  · exact Or.inl rfl
  · exact Or.inr rfl

theorem packetType_last {index : Nat} (none : ¬ index + 1 < file.transfers) :
    file.packetType index = .last ∨ file.packetType index = .firstAndLast := by
  rw [packetType, if_neg none]
  split
  · exact Or.inr rfl
  · exact Or.inl rfl

theorem decode_packet (index : Nat) (checksum : UInt16) :
    FileObject.decodeTransfer (file.packet index checksum) =
      .ok ⟨UInt8.ofNat index, file.packetType index,
        file.chunk index ++ file.trailer index checksum⟩ := by
  rw [packet, FileObject.decodeTransfer, tryGetU8_putU8, ok_bind]
  dsimp only
  rw [tryGetU8_putU8, ok_bind]
  rfl

theorem decode_announcement :
    FileObject.decodeAnnouncement file.announcement =
      .ok (UInt32.ofNat file.content.length, file.transferSize) := by
  rw [announcement, FileObject.decodeAnnouncement, tryGetU32_putU32, ok_bind]
  dsimp only
  rw [← List.append_nil (putU8 file.transferSize), tryGetU8_putU8, ok_bind]
  rfl

end ServedFile

/-! ### Devices that serve a file -/

namespace FileObject

variable {Device : Type} {session : Session Device} {object : FileObject}

/-- The session's device answers a request to a file object with success and with the data, in a
reply of any form that fits. -/
def Answers (session : Session Device) (object : FileObject) (service : ServiceCode)
    (data : Bytes) (device : Device) (answer : Bytes) (next : Device) : Prop :=
  ∃ (packet : EncapsPacket) (reply : RouterReply),
    session.sendAndReceive (object.router.requestPacket service
        (EPath.ofInstance classId object.instanceId) data [] (session.sessionHandle device))
        device = (.ok packet, next) ∧
      packet.data = reply.payload ∧ reply.Fits ∧
      reply.response.generalStatus = .success ∧ reply.response.data = answer

/-- The session's device serves a file to the object: where it is ready it announces the file, and
after a number of transfers it answers the next one with the next piece. -/
structure Serves (session : Session Device) (object : FileObject) (file : ServedFile)
    (ready : Device → Prop) (position : Nat → Device → Prop) : Prop where
  initiate : ∀ device, ready device → ∃ next, position 0 next ∧
    Answers session object .initiateUpload [maxTransferSize] device file.announcement next
  transfer : ∀ index < file.transfers, ∀ device, position index device →
    ∃ checksum next, position (index + 1) next ∧
      Answers session object .uploadTransfer [UInt8.ofNat index] device
        (file.packet index checksum) next

/-- The data of a request packet to the object. The handle of the session is not part of it. -/
def requestData (object : FileObject) (service : ServiceCode) (data : Bytes) : Bytes :=
  (object.router.requestPacket service (EPath.ofInstance classId object.instanceId) data [] 0).data

/-- The requests of an upload: it is initiated, and the transfers are requested once each and in
order. -/
def uploadRequests (object : FileObject) (transfers : Nat) : List Bytes :=
  object.requestData .initiateUpload [maxTransferSize] ::
    (List.range transfers).map fun index => object.requestData .uploadTransfer [UInt8.ofNat index]

theorem uploadRequests_succ (object : FileObject) (transfers : Nat) :
    object.uploadRequests (transfers + 1) = object.uploadRequests transfers ++
      [object.requestData .uploadTransfer [UInt8.ofNat transfers]] := by
  rw [uploadRequests, List.range_succ, List.map_append]
  rfl

/-- A request that is answered with success and with data. -/
theorem Answers.answered {service : ServiceCode} {data answer : Bytes} {device next : Device}
    (answers : Answers session object service data device answer next) :
    ∃ response, FileObject.request session object service data device = (.ok response, next) ∧
      response.generalStatus = .success ∧ response.data = answer := by
  obtain ⟨packet, reply, replied, payload, fits, success, same⟩ := answers
  refine ⟨reply.response, ?_, success, same⟩
  rw [FileObject.request, MessageRouter.sendRequest, MessageRouter.sendRequestWithItems_eq]
  dsimp only
  rw [replied, ok_bind, payload, RouterReply.decodeReply_payload fits]

/-- What is recorded of a request that is answered. -/
theorem Answers.request {service : ServiceCode} {data answer : Bytes} {device next : Device}
    (answers : Answers session object service data device answer next) (log : List EncapsPacket) :
    ∃ (response : MessageRouterResponse) (packet : EncapsPacket),
      request session.recorded object service data (device, log) =
          (.ok response, (next, log ++ [packet])) ∧
        packet.data = object.requestData service data ∧
        response.generalStatus = .success ∧ response.data = answer := by
  obtain ⟨response, answered, success, same⟩ := answers.answered
  refine ⟨response, object.router.requestPacket service
    (EPath.ofInstance classId object.instanceId) data [] (session.sessionHandle device), ?_, rfl,
    success, same⟩
  rw [FileObject.request, MessageRouter.sendRequest] at answered ⊢
  rw [MessageRouter.sendRequestWithItems_recorded, answered]

/-! ### The upload -/

/-- Before a transfer: the pieces of the transfers before it are collected, and these transfers
were requested. -/
structure Collected (session : Session Device) (object : FileObject) (file : ServedFile)
    (position : Nat → Device → Prop) (channel index : Nat)
    (upon : Upon (Device × List EncapsPacket)) : Prop where
  upload : upon.object = { object with
    state := .uploadInProgress
      { fileSize := UInt32.ofNat file.content.length
        transferSize := file.transferSize
        transferNumber := UInt8.ofNat index
        content := file.content.take (index * file.transferSize.toNat)
        handler := channel } }
  there : position index upon.device.1
  log : upon.device.2.map EncapsPacket.data = object.uploadRequests index
  sent : upon.sent = []

/-- After the last transfer: the file was sent on the channel, and the object is loaded. -/
structure Uploaded (object : FileObject) (file : ServedFile) (channel : Nat)
    (upon : Upon (Device × List EncapsPacket)) : Prop where
  loaded : upon.object = { object with state := .loaded }
  log : upon.device.2.map EncapsPacket.data = object.uploadRequests file.transfers
  sent : upon.sent = [(channel, .success, file.content)]

variable {file : ServedFile} {ready : Device → Prop} {position : Nat → Device → Prop}
  {channel index : Nat} {upon : Upon (Device × List EncapsPacket)}

/-- What a transfer comes down to: the packet of the device is taken. -/
theorem Collected.takes (serves : Serves session object file ready position)
    (collected : Collected session object file position channel index upon)
    (inFile : index < file.transfers) {upload : Upload}
    (running : upon.object.state = .uploadInProgress upload) :
    ∃ (checksum : UInt16) (device : Device × List EncapsPacket),
      handleTransfers session.recorded upon =
          takePacket upload ⟨UInt8.ofNat index, file.packetType index,
            file.chunk index ++ file.trailer index checksum⟩ { upon with device } ∧
        position (index + 1) device.1 ∧
        device.2.map EncapsPacket.data = object.uploadRequests (index + 1) := by
  obtain ⟨checksum, next, there, answers⟩ := serves.transfer index inFile _ collected.there
  obtain ⟨response, packet, answered, asked, success, data⟩ := answers.request upon.device.2
  have number : upload.transferNumber = UInt8.ofNat index := by
    rw [collected.upload] at running
    obtain rfl := FileState.uploadInProgress.inj running
    rfl
  have answeredHere : FileObject.request session.recorded upon.object .uploadTransfer
      [upload.transferNumber] upon.device =
        (.ok response, (next, upon.device.2 ++ [packet])) := by
    rw [number, collected.upload]
    exact answered
  have decoded := file.decode_packet index checksum
  rw [← data] at decoded
  refine ⟨checksum, _, handleTransfers_of_packet running answeredHere success decoded, there, ?_⟩
  rw [List.map_append, collected.log, List.map_singleton, asked, uploadRequests_succ]

/-- A transfer that is not the last collects one piece more. -/
theorem Collected.goesOn (serves : Serves session object file ready position)
    (collected : Collected session object file position channel index upon)
    (more : index + 1 < file.transfers) :
    ∃ next, handleTransfers session.recorded upon = (.ok true, next) ∧
      Collected session object file position channel (index + 1) next := by
  have running := congrArg FileObject.state collected.upload
  obtain ⟨checksum, device, takes, there, log⟩ :=
    collected.takes serves (Nat.lt_of_succ_lt more) running
  have trailer : file.trailer index checksum = [] := if_pos more
  rw [takePacket_append rfl (file.packetType_more more) (file.length_chunk more) rfl] at takes
  refine ⟨_, takes, ?_, there, log, collected.sent⟩
  have content := file.take_append_chunk index
  have number : UInt8.ofNat index + 1 = UInt8.ofNat (index + 1) := (UInt8.ofNat_add index 1).symm
  simp only [Upon.setState, Upload.extend, collected.upload, content, number]

/-- The last transfer sends the whole file. -/
theorem Collected.stops (serves : Serves session object file ready position)
    (collected : Collected session object file position channel index upon)
    (last : index + 1 = file.transfers) :
    ∃ next, handleTransfers session.recorded upon = (.ok false, next) ∧
      Uploaded object file channel next := by
  have running := congrArg FileObject.state collected.upload
  have none : ¬ index + 1 < file.transfers := Nat.not_lt.mpr last.ge
  obtain ⟨checksum, device, takes, -, log⟩ :=
    collected.takes serves (Nat.lt_of_succ_le last.le) running
  have trailer : (file.trailer index checksum).length = 2 := by
    rw [ServedFile.trailer, if_neg none]
    exact length_putU16 checksum
  rw [takePacket_last rfl (file.packetType_last none) trailer rfl] at takes
  have whole : file.content.take (index * file.transferSize.toNat) ++ file.chunk index =
      file.content := by
    rw [file.take_append_chunk, last]
    exact List.take_of_length_le file.length_le
  have size : (UInt32.ofNat file.content.length).toNat = file.content.length :=
    UInt32.toNat_ofNat_of_lt' file.short
  have finished := @finish_whole _ (({ upon with device }).setState (.uploadInProgress
    { fileSize := UInt32.ofNat file.content.length
      transferSize := file.transferSize
      transferNumber := UInt8.ofNat index
      content := file.content.take (index * file.transferSize.toNat) ++ file.chunk index
      handler := channel })) _ rfl (by rw [whole, size])
  rw [Upload.extend, finished, whole] at takes
  refine ⟨_, takes, ?_, ?_, ?_⟩
  · simp only [Upon.call, Upon.setState, collected.upload]
  · rw [← last]
    exact log
  · simp only [Upon.call, Upon.setState, collected.sent, List.nil_append]

/-- The announcement of the file: nothing is collected yet. -/
theorem Serves.begins (serves : Serves session object file ready position)
    (loaded : object.state = .loaded) {device : Device} (isReady : ready device) (channel : Nat) :
    ∃ upon, beginUpload session.recorded channel ⟨object, (device, []), []⟩ = (.ok (), upon) ∧
      Collected session object file position channel 0 upon := by
  obtain ⟨next, there, answers⟩ := serves.initiate device isReady
  obtain ⟨response, packet, answered, asked, success, data⟩ := answers.request []
  have decoded := file.decode_announcement
  rw [← data] at decoded
  refine ⟨_, @beginUpload_of_announcement _ session.recorded ⟨object, (device, []), []⟩ _ _ _ _
    loaded answered success decoded channel, ?_, there, congrArg (fun first => [first]) asked, rfl⟩
  simp only [Upon.setState, Nat.zero_mul, List.take_zero]
  rfl

/-- The transfers of the file come to an end. -/
theorem Serves.transfers_end (serves : Serves session object file ready position)
    (begun : Collected session object file position channel 0 upon) {transfers : Nat}
    (enough : file.transfers ≤ transfers) :
    ∃ final, FallibleLoop.run (handleTransfers session.recorded) transfers upon = some final ∧
      final.1 = .ok () ∧ Uploaded object file channel final.2 := by
  have pos := file.transfers_pos
  have goesOn : ∀ index < file.transfers - 1, ∀ upon,
      Collected session object file position channel index upon →
        ∃ next, handleTransfers session.recorded upon = (.ok true, next) ∧
          Collected session object file position channel (index + 1) next :=
    fun index inFile upon collected => collected.goesOn serves (by omega)
  have stops : ∀ upon, Collected session object file position channel (file.transfers - 1) upon →
      ∃ outcome next, handleTransfers session.recorded upon = (outcome, next) ∧
        outcome ≠ .ok true ∧ (outcome.map fun _ => ()) = .ok () ∧
          Uploaded object file channel next := by
    intro upon collected
    obtain ⟨next, stopped, uploaded⟩ := collected.stops serves (by omega)
    exact ⟨.ok false, next, stopped, nofun, rfl, uploaded⟩
  exact FallibleLoop.run_of_stages goesOn stops (by omega) begun

/-- An upload from a device that serves a file comes to an end with the file. -/
theorem Serves.uploads (serves : Serves session object file ready position)
    (loaded : object.state = .loaded) {device : Device} (begins : ready device) (channel : Nat)
    {transfers : Nat} (enough : file.transfers ≤ transfers) :
    ∃ upon, upload session.recorded transfers channel object (device, []) =
        some (.ok file.content, upon) ∧
      Uploaded object file channel upon := by
  obtain ⟨begunUpon, begun, start⟩ := serves.begins loaded begins channel
  obtain ⟨⟨outcome, upon⟩, ended, rfl, uploaded⟩ := serves.transfers_end start enough
  have got : received channel upon = .ok file.content := by
    rw [received, uploaded.sent, List.lookup_cons_self]
    exact if_pos rfl
  refine ⟨upon, ?_, uploaded⟩
  unfold upload
  rw [begun]
  dsimp only
  rw [ended, Option.map_some]
  dsimp only
  rw [got]

/-- A faithful upload. Whatever the file, the transfer size and the form of the replies, an upload
from a device that serves the file ends after as many transfers as the file has pieces and returns
exactly the file; it requested the transfers once each and in order; and the object is loaded
again. -/
theorem upload_faithful (serves : Serves session object file ready position)
    (loaded : object.state = .loaded) {device : Device} (begins : ready device) (channel : Nat)
    {transfers : Nat} (enough : file.transfers ≤ transfers) :
    ∃ (next : Device) (log : List EncapsPacket) (sent : List (Nat × GeneralStatusCode × Bytes)),
      upload session.recorded transfers channel object (device, []) =
          some (.ok file.content, ⟨object, (next, log), sent⟩) ∧
        log.map EncapsPacket.data = object.uploadRequests file.transfers := by
  obtain ⟨upon, returned, uploaded⟩ := serves.uploads loaded begins channel enough
  have same : upon.object = object := by
    rw [uploaded.loaded, ← loaded]
  refine ⟨upon.device.1, upon.device.2, upon.sent, ?_, uploaded.log⟩
  rw [returned, ← same]

/-! ### A device that serves a file -/

/-- The request in a packet. -/
def requestIn (packet : EncapsPacket) : Except Error MessageRouter.RequestParts := do
  let cpf ← trySkip 6 packet.data >>= CommonPacket.decode
  match cpf.items with
  | _ :: item :: _ => MessageRouter.RequestParts.decode item.data
  | _ => throw (.invalidPacket "no request")

/-- A reply with the data, and with a service code as the request had it. -/
def replyWith (service : ServiceCode) (data : Bytes) : RouterReply where
  header := [0, 0, 0, 0, 0, 0]
  address := .nullAddress
  dataType := .unconnectedMessage
  response := ⟨⟨service.code ||| 0x80⟩, .success, [], data, []⟩

/-- The session to a device that serves the file. Its state is the number of the next transfer. -/
def serving (file : ServedFile) : Session Nat where
  sessionHandle _ := 1
  sendAndReceive packet index :=
    match requestIn packet with
    | .error refused => (.error refused, index)
    | .ok parts =>
      if parts.service = .initiateUpload then
        (.ok { packet with data := (replyWith parts.service file.announcement).payload }, 0)
      else if parts.data = [UInt8.ofNat index] then
        (.ok { packet with data := (replyWith parts.service (file.packet index 0)).payload },
          index + 1)
      else (.error .io, index)

/-- A request that is short is read back, whatever its path. -/
theorem requestIn_of_short (router : MessageRouter) (service : ServiceCode) (path : EPath)
    {data : Bytes} (small : data.length ≤ 255) (sessionHandle : UInt32) :
    requestIn (router.requestPacket service path data [] sessionHandle) =
      .ok ⟨service, path.encode router.segmentSize, data⟩ := by
  have length := path.length_encode router.segmentSize
  have fits : router.requestSize path data [] ≤ 65535 := by
    unfold MessageRouter.requestSize
    rw [List.map_nil, List.sum_nil]
    omega
  rw [requestIn, MessageRouter.decode_requestPacket fits, ok_bind]
  exact MessageRouter.RequestParts.decode_encodeRequest _ _ _ _

theorem requestIn_requestPacket (object : FileObject) (service : ServiceCode) {data : Bytes}
    (small : data.length ≤ 255) (sessionHandle : UInt32) :
    requestIn (object.router.requestPacket service (EPath.ofInstance classId object.instanceId)
        data [] sessionHandle) =
      .ok ⟨service, (EPath.ofInstance classId object.instanceId).encode object.router.segmentSize,
        data⟩ :=
  requestIn_of_short object.router service _ small sessionHandle

theorem fits_replyWith (service : ServiceCode) {data : Bytes} (small : data.length ≤ 65531) :
    (replyWith service data).Fits where
  header := rfl
  words := Nat.zero_le _
  count := Nat.le_add_left 2 65533
  items := by
    refine List.forall_mem_cons.mpr ⟨Nat.zero_le _, List.forall_mem_cons.mpr ⟨?_, nofun⟩⟩
    simp only [replyWith, MessageRouterResponse.encode, List.length_append, length_putU8,
      List.flatMap_nil, List.length_nil]
    omega

/-- A request that is replied to with success and with data. -/
theorem answers_of_replied {service : ServiceCode} {data answer : Bytes} {device next : Device}
    (small : answer.length ≤ 65531)
    (replied : session.sendAndReceive (object.router.requestPacket service
        (EPath.ofInstance classId object.instanceId) data [] (session.sessionHandle device))
        device =
      (.ok { object.router.requestPacket service (EPath.ofInstance classId object.instanceId) data
        [] (session.sessionHandle device) with
          data := (replyWith service answer).payload }, next)) :
    Answers session object service data device answer next :=
  ⟨_, replyWith service answer, replied, rfl, fits_replyWith _ small, rfl, rfl⟩

theorem length_packet (file : ServedFile) (index : Nat) (checksum : UInt16) :
    (file.packet index checksum).length ≤ 259 := by
  have chunk : (file.chunk index).length ≤ file.transferSize.toNat := List.length_take_le _ _
  have size := file.transferSize.toNat_lt
  have trailer : (file.trailer index checksum).length ≤ 2 := by
    rw [ServedFile.trailer]
    split
    · exact Nat.zero_le _
    · exact (length_putU16 checksum).le
  simp only [ServedFile.packet, List.length_append, length_putU8]
  omega

/-- The device serves its file to every object, from every state. -/
theorem serves_serving (object : FileObject) (file : ServedFile) :
    Serves (serving file) object file (fun _ => True) fun index device => device = index where
  initiate device _ := by
    have small : file.announcement.length ≤ 65531 := by
      rw [ServedFile.announcement, List.length_append, length_putU32, length_putU8]
      decide
    refine ⟨0, rfl, answers_of_replied small ?_⟩
    simp only [serving]
    rw [requestIn_requestPacket object _ (by decide)]
    exact if_pos rfl
  transfer index _ device here := by
    subst here
    have small := length_packet file device 0
    refine ⟨0, device + 1, rfl, answers_of_replied (by omega) ?_⟩
    simp only [serving]
    have short : [UInt8.ofNat device].length ≤ 255 := Nat.le_add_left 1 254
    rw [requestIn_requestPacket object _ short]
    dsimp only
    rw [if_neg (by decide), if_pos rfl]

/-- Seven bytes in transfers of three. -/
def sampleFile : ServedFile := ⟨[97, 98, 99, 100, 101, 102, 103], 3, by decide, by decide⟩

def sampleObject : FileObject := ⟨1, MessageRouter.new, .loaded⟩

theorem upload_faithful_sample :
    ∃ (next : Nat) (log : List EncapsPacket) (sent : List (Nat × GeneralStatusCode × Bytes)),
      upload (serving sampleFile).recorded 3 0 sampleObject (5, []) =
          some (.ok [97, 98, 99, 100, 101, 102, 103], ⟨sampleObject, (next, log), sent⟩) ∧
        log.map EncapsPacket.data = sampleObject.uploadRequests 3 :=
  upload_faithful (serves_serving sampleObject sampleFile) rfl trivial 0 (by decide)

end FileObject

end EipScanner
