/-
This file models the file object of a device: the state a scanner keeps of it, and the
upload of a file from the device in numbered transfers.

An upload is begun, is continued transfer by transfer, and ends by calling the handler
that was given for it. The handler of a blocking upload sends on a channel that this
upload opened, so what it receives is what was sent on that channel and no other.

A transfer has three kinds of end. It goes on to the next one; or it ends the upload and
returns the object to the loaded state; or it is left with an error before anything was
decided, and the upload stays in progress.
-/

import EipScanner.FallibleLoop
import EipScanner.RouterReply

namespace EipScanner

namespace ServiceCode

def initiateUpload : ServiceCode := ⟨0x4B⟩
def uploadTransfer : ServiceCode := ⟨0x4F⟩

end ServiceCode

namespace GeneralStatusCode

def invalidParameter : GeneralStatusCode := ⟨0x20⟩
def invalidReplyReceived : GeneralStatusCode := ⟨0x22⟩

end GeneralStatusCode

structure FileObjectStateCode where
  code : UInt8
  deriving DecidableEq, Repr

namespace FileObjectStateCode

def nonexistent : FileObjectStateCode := ⟨0⟩
def fileEmpty : FileObjectStateCode := ⟨1⟩
def fileLoaded : FileObjectStateCode := ⟨2⟩
def transferUploadInProgress : FileObjectStateCode := ⟨5⟩

def text (code : FileObjectStateCode) : String :=
  wireCodeText "FileObjectStateCode"
    [(0, "NONEXISTENT"), (1, "FILE_EMPTY"), (2, "FILE_LOADED"), (3, "TRANSFER_UPLOAD_INITIATED"),
      (4, "TRANSFER_DOWNLOAD_INITIATED"), (5, "TRANSFER_UPLOAD_IN_PROGRESS"),
      (6, "TRANSFER_DOWNLOAD_IN_PROGRESS"), (255, "UNKNOWN")]
    code.code.toNat

end FileObjectStateCode

structure TransferPacketType where
  code : UInt8
  deriving DecidableEq, Repr

namespace TransferPacketType

def first : TransferPacketType := ⟨0⟩
def middle : TransferPacketType := ⟨1⟩
def last : TransferPacketType := ⟨2⟩
def abort : TransferPacketType := ⟨3⟩
def firstAndLast : TransferPacketType := ⟨4⟩

def text (packetType : TransferPacketType) : String :=
  wireCodeText "TransferPacketType"
    [(0, "FIRST"), (1, "MIDDLE"), (2, "LAST"), (3, "ABORT"), (4, "FIRST_AND_LAST")]
    packetType.code.toNat

end TransferPacketType

/-! ### The object -/

/-- An upload that is in progress, with the channel that its handler sends on. -/
structure Upload where
  fileSize : UInt32
  transferSize : UInt8
  transferNumber : UInt8
  content : Bytes
  handler : Nat
  deriving DecidableEq, Repr

/-- Append to the content of an upload. -/
def Upload.extend (upload : Upload) (data : Bytes) : Upload :=
  { upload with content := upload.content ++ data }

inductive FileState where
  | nonExistent
  | empty
  | loaded
  | uploadInProgress (upload : Upload)
  deriving DecidableEq, Repr

def FileState.code : FileState → FileObjectStateCode
  | .nonExistent => .nonexistent
  | .empty => .fileEmpty
  | .loaded => .fileLoaded
  | .uploadInProgress _ => .transferUploadInProgress

structure FileObject where
  instanceId : UInt16
  router : MessageRouter
  state : FileState
  deriving DecidableEq, Repr

namespace FileObject

def classId : UInt16 := 0x37
def maxTransferSize : UInt8 := 255

/-- What the steps of an upload work on: the object, the state of the session, and what was sent
on which channel. -/
structure Upon (Device : Type) where
  object : FileObject
  device : Device
  sent : List (Nat × GeneralStatusCode × Bytes)
  deriving DecidableEq, Repr

section
variable {Device : Type} (session : Session Device)

/-- A request to the instance of the object. -/
def request (object : FileObject) (service : ServiceCode) (data : Bytes) (device : Device) :
    Except Error MessageRouterResponse × Device :=
  object.router.sendRequest session service (EPath.ofInstance classId object.instanceId) data
    device

/-- The announcement in the reply to an initiated upload: file size and transfer size. -/
def decodeAnnouncement (data : Bytes) : Except Error (UInt32 × UInt8) := do
  let (fileSize, buf) ← tryGetU32 data
  let (transferSize, _) ← tryGetU8 buf
  return (fileSize, transferSize)

/-- Call a handler. -/
def Upon.call (upon : Upon Device) (handler : Nat) (status : GeneralStatusCode) (data : Bytes) :
    Upon Device :=
  { upon with sent := upon.sent ++ [(handler, status, data)] }

def Upon.setState (upon : Upon Device) (state : FileState) : Upon Device :=
  { upon with object := { upon.object with state } }

/-- Starts an upload. Does nothing unless a file is loaded. -/
def beginUpload (handler : Nat) (upon : Upon Device) : Except Error Unit × Upon Device :=
  if upon.object.state ≠ .loaded then (.ok (), upon)
  else
    let (reply, device) := request session upon.object .initiateUpload [maxTransferSize]
      upon.device
    let upon := { upon with device }
    match reply with
    | .error refused => (.error refused, upon)
    | .ok reply =>
      if reply.generalStatus ≠ .success then
        (.ok (), upon.call handler reply.generalStatus [])
      else
        match decodeAnnouncement reply.data with
        | .error refused => (.error refused, upon)
        | .ok (fileSize, transferSize) =>
          (.ok (), upon.setState (.uploadInProgress ⟨fileSize, transferSize, 0, [], handler⟩))

/-- Ends an upload, returning to the loaded state and calling the handler. -/
def finish (status : GeneralStatusCode) (checkSize : Bool) (upon : Upon Device) : Upon Device :=
  match upon.object.state with
  | .uploadInProgress upload =>
    let upon := upon.setState .loaded
    if checkSize ∧ upload.content.length ≠ upload.fileSize.toNat then
      upon.call upload.handler .invalidParameter []
    else if status = .success then upon.call upload.handler status upload.content
    else upon.call upload.handler status []
  | _ => upon.setState .loaded

/-- The packet in the data of a reply to a transfer. -/
structure TransferPacket where
  receivedNumber : UInt8
  packetType : TransferPacketType
  buf : Bytes
  deriving DecidableEq, Repr

def decodeTransfer (data : Bytes) : Except Error TransferPacket := do
  let (receivedNumber, buf) ← tryGetU8 data
  let (packetType, buf) ← tryGetU8 buf
  return ⟨receivedNumber, ⟨packetType⟩, buf⟩

/-- What is done with a packet of an upload. -/
def takePacket (upload : Upload) (packet : TransferPacket) (upon : Upon Device) :
    Except Error Bool × Upon Device :=
  if packet.receivedNumber ≠ upload.transferNumber then
    (.ok false, finish .invalidParameter false upon)
  else if packet.packetType = .first ∨ packet.packetType = .middle then
    match tryGetVec upload.transferSize.toNat packet.buf with
    | .error refused => (.error refused, upon)
    | .ok (data, _) =>
      (.ok true, upon.setState (.uploadInProgress
        { upload.extend data with transferNumber := upload.transferNumber + 1 }))
  else if packet.packetType = .last ∨ packet.packetType = .firstAndLast then
    -- the last packet ends with a 16-bit checksum
    match tryGetVec (packet.buf.length - 2) packet.buf with
    | .error refused => (.error refused, upon)
    | .ok (data, _) =>
      (.ok false, finish .success true (upon.setState (.uploadInProgress (upload.extend data))))
  else
    (.error (.invalidPacket s!"unexpected transfer packet type {packet.packetType.text}"),
      finish .invalidReplyReceived false upon)

/-- Requests the next upload packet. Returns true while more packets remain. -/
def handleTransfers (upon : Upon Device) : Except Error Bool × Upon Device :=
  match upon.object.state with
  | .uploadInProgress upload =>
    let (reply, device) := request session upon.object .uploadTransfer [upload.transferNumber]
      upon.device
    let upon := { upon with device }
    match reply with
    | .error refused => (.error refused, upon)
    | .ok reply =>
      if reply.generalStatus ≠ .success then (.ok false, finish reply.generalStatus false upon)
      else
        match decodeTransfer reply.data with
        | .error refused => (.error refused, upon)
        | .ok packet => takePacket upload packet upon
  | _ => (.ok false, upon)

/-- What is received on a channel after the upload: the first message that was sent on it. -/
def received (channel : Nat) (upon : Upon Device) : Except Error Bytes :=
  match upon.sent.lookup channel with
  | some (status, data) =>
    if status = .success then .ok data
    else .error (.cip s!"upload of file object {upon.object.instanceId}" status [])
  | none =>
    let instanceId := upon.object.instanceId
    .error (.unsupported
      s!"file object {instanceId} is {upon.object.state.code.text} and cannot be uploaded")

/-- Uploads the whole file. Each upload opens a channel of its own. A device that goes on forever
keeps it from coming to an end, so it is given up after a number of transfers. -/
def upload (transfers channel : Nat) (object : FileObject) (device : Device) :
    Option (Except Error Bytes × Upon Device) :=
  match beginUpload session channel ⟨object, device, []⟩ with
  | (.error refused, upon) => some (.error refused, upon)
  | (.ok (), upon) =>
    (FallibleLoop.run (handleTransfers session) transfers upon).map fun
      | (.error refused, upon) => (.error refused, upon)
      | (.ok (), upon) => (received channel upon, upon)

/-! ### What one transfer does -/

variable {session} {upon : Upon Device} {upload : Upload}

@[simp]
theorem finish_object (status : GeneralStatusCode) (checkSize : Bool) (upon : Upon Device) :
    (finish status checkSize upon).object = { upon.object with state := .loaded } := by
  unfold finish
  split
  · split
    · rfl
    · split <;> rfl
  · rfl

/-- A loaded file that the device announces: the upload is in progress. -/
theorem beginUpload_of_announcement {response : MessageRouterResponse} {device : Device}
    {fileSize : UInt32} {transferSize : UInt8} (loaded : upon.object.state = .loaded)
    (answered : request session upon.object .initiateUpload [maxTransferSize] upon.device =
      (.ok response, device))
    (success : response.generalStatus = .success)
    (decoded : decodeAnnouncement response.data = .ok (fileSize, transferSize)) (handler : Nat) :
    beginUpload session handler upon = (.ok (), ({ upon with device }).setState
      (.uploadInProgress ⟨fileSize, transferSize, 0, [], handler⟩)) := by
  unfold beginUpload
  rw [if_neg (not_not.mpr loaded)]
  dsimp only
  rw [answered]
  dsimp only
  rw [if_neg (not_not.mpr success), decoded]

/-- A transfer that is answered with a packet. -/
theorem handleTransfers_of_packet {response : MessageRouterResponse} {device : Device}
    {packet : TransferPacket} (running : upon.object.state = .uploadInProgress upload)
    (answered : request session upon.object .uploadTransfer [upload.transferNumber] upon.device =
      (.ok response, device))
    (success : response.generalStatus = .success)
    (decoded : decodeTransfer response.data = .ok packet) :
    handleTransfers session upon = takePacket upload packet { upon with device } := by
  unfold handleTransfers
  rw [running]
  dsimp only
  rw [answered]
  dsimp only
  rw [if_neg (not_not.mpr success), decoded]

/-- A packet with the awaited number that is not the last is appended. -/
theorem takePacket_append {packet : TransferPacket} {data rest : Bytes}
    (number : packet.receivedNumber = upload.transferNumber)
    (packetType : packet.packetType = .first ∨ packet.packetType = .middle)
    (length : data.length = upload.transferSize.toNat) (buf : packet.buf = data ++ rest) :
    takePacket upload packet upon =
      (.ok true, upon.setState (.uploadInProgress
        { upload.extend data with transferNumber := upload.transferNumber + 1 })) := by
  unfold takePacket
  rw [if_neg (not_not.mpr number), if_pos packetType, buf, ← length, tryGetVec_append]

/-- The last packet with the awaited number is appended without its two last bytes, and ends the
upload. -/
theorem takePacket_last {packet : TransferPacket} {data checksum : Bytes}
    (number : packet.receivedNumber = upload.transferNumber)
    (packetType : packet.packetType = .last ∨ packet.packetType = .firstAndLast)
    (length : checksum.length = 2) (buf : packet.buf = data ++ checksum) :
    takePacket upload packet upon =
      (.ok false,
        finish .success true (upon.setState (.uploadInProgress (upload.extend data)))) := by
  have others : ¬ (packet.packetType = .first ∨ packet.packetType = .middle) := by
    rcases packetType with same | same <;> rw [same] <;> decide
  have front : (data ++ checksum).length - 2 = data.length := by
    rw [List.length_append, length, Nat.add_sub_cancel]
  unfold takePacket
  rw [if_neg (not_not.mpr number), if_neg others, if_pos packetType, buf, front, tryGetVec_append]

/-- An upload that ends with as many bytes as were announced sends them to its handler. -/
theorem finish_whole (running : upon.object.state = .uploadInProgress upload)
    (size : upload.content.length = upload.fileSize.toNat) :
    finish .success true upon =
      (upon.setState .loaded).call upload.handler .success upload.content := by
  unfold finish
  rw [running]
  dsimp only
  rw [if_neg fun wrong => wrong.2 size, if_pos rfl]

end

end FileObject

end EipScanner
