/-
This file models how a file object is opened: its state is read from the device. A device that is
in the middle of an upload is taken to hold a loaded file, so that the upload is started over.

Opening a file and uploading it is what a user of the library does. Whatever state the device
reports, this ends in one of three ways: the whole file is uploaded from its start; the upload ends
without a request, since there is no file; or the object is not opened.
-/

import EipScanner.Exchange
import EipScanner.FileUpload

namespace EipScanner

namespace FileObjectStateCode

def transferUploadInitiated : FileObjectStateCode := ⟨3⟩

end FileObjectStateCode

namespace FileObject

def stateAttribute : UInt16 := 1

/-- The device is in the middle of an upload. -/
def Uploading (code : FileObjectStateCode) : Prop :=
  code = .transferUploadInitiated ∨ code = .transferUploadInProgress

instance (code : FileObjectStateCode) : Decidable (Uploading code) :=
  inferInstanceAs (Decidable (_ ∨ _))

/-- The state that is kept of a file whose device reports a code. -/
def stateOf (code : FileObjectStateCode) : Except Error FileState :=
  if code = .nonexistent then .ok .nonExistent
  else if code = .fileEmpty then .ok .empty
  else if code = .fileLoaded then .ok .loaded
  else if Uploading code then .ok .loaded
  else .error (.unsupported s!"file object state {code.text} is not supported")

/-- Reads the object's state from the device. -/
def new {Device : Type} (session : Session Device) (router : MessageRouter)
    (instanceId : UInt16) : Dialogue Device Error FileObject := do
  let data ← router.ask session .getAttributeSingle
    (EPath.ofAttribute classId instanceId stateAttribute) []
    s!"read state of file object {instanceId.toNat}"
  let (code, _) ← tryGetU8 data
  let state ← stateOf ⟨code⟩
  return { instanceId, router, state }

/-! ### What becomes of a state -/

theorem stateOf_loaded {code : FileObjectStateCode}
    (holds : code = .fileLoaded ∨ Uploading code) : stateOf code = .ok .loaded := by
  rcases holds with rfl | rfl | rfl
  · rfl
  · rfl
  · rfl

theorem stateOf_absent {code : FileObjectStateCode}
    (absent : code = .nonexistent ∨ code = .fileEmpty) :
    ∃ state, stateOf code = .ok state ∧ state ≠ .loaded ∧
      ∀ upload, state ≠ .uploadInProgress upload := by
  rcases absent with rfl | rfl
  · exact ⟨.nonExistent, rfl, by simp, by simp⟩
  · exact ⟨.empty, rfl, by simp, by simp⟩

theorem stateOf_other {code : FileObjectStateCode}
    (other : ¬ (code = .fileLoaded ∨ Uploading code))
    (present : ¬ (code = .nonexistent ∨ code = .fileEmpty)) :
    stateOf code =
      .error (.unsupported s!"file object state {code.text} is not supported") := by
  rw [not_or] at other present
  rw [stateOf, if_neg present.1, if_neg present.2, if_neg other.1, if_neg other.2]

section
variable {Device : Type} {session : Session Device} {router : MessageRouter}
  {instanceId : UInt16} {device opened : Device}

/-- The request for the state of a file, answered with a code and anything behind it. -/
def stateExchange (instanceId : UInt16) (code : FileObjectStateCode) (trailing : Bytes) :
    MessageRouter.Exchange where
  service := .getAttributeSingle
  path := EPath.ofAttribute classId instanceId stateAttribute
  data := []
  answer := putU8 code.code ++ trailing

/-- The file is opened in the state that is kept for the code. -/
theorem new_of_answers {code : FileObjectStateCode} {trailing : Bytes}
    (answers : MessageRouter.Answers session router (stateExchange instanceId code trailing)
      device opened) :
    new session router instanceId device =
      ((stateOf code).map fun state => ⟨instanceId, router, state⟩, opened) := by
  have asked : router.ask session .getAttributeSingle
      (EPath.ofAttribute classId instanceId stateAttribute) []
      s!"read state of file object {instanceId.toNat}" device =
        (.ok (putU8 code.code ++ trailing), opened) := answers.ask _
  have read : tryGetU8 (putU8 code.code ++ trailing) = .ok (code.code, trailing) :=
    tryGetU8_putU8 code.code trailing
  rw [new, Dialogue.bind_of_ok asked, Dialogue.bind_settled_ok read]
  dsimp only
  cases stateOf code with
  | error refused => rfl
  | ok state => rfl

/-- Without a loaded file an upload ends in an error, and nothing is requested. -/
theorem upload_of_absent {object : FileObject} (absent : object.state ≠ .loaded)
    (idle : ∀ upload, object.state ≠ .uploadInProgress upload) (channel : Nat) {transfers : Nat}
    (some : 0 < transfers) (device : Device) :
    upload session transfers channel object device =
      Option.some (.error (.unsupported
        s!"file object {object.instanceId} is {object.state.code.text} and cannot be uploaded"),
        ⟨object, device, []⟩) := by
  have nothing : handleTransfers session ⟨object, device, []⟩ =
      (.ok false, ⟨object, device, []⟩) := by
    unfold handleTransfers
    split
    next upload running => exact absurd running (idle upload)
    · rfl
  obtain ⟨rounds, rfl⟩ := Nat.exists_eq_add_one.mpr some
  have ended := FallibleLoop.run_stops nothing (by simp) rounds
  rw [upload, beginUpload, if_pos absent]
  dsimp only
  rw [ended]
  rfl

/-- Opening a file and uploading it, from a device that reports any state. A device that holds a
file, be it in the middle of an upload or not, gives the whole file, after one request for the
state and the requests of an upload from its start. A device without a file gives an error and is
asked no more, whether it would serve one or not. Any other state is refused. -/
theorem new_then_upload {code : FileObjectStateCode} {trailing : Bytes}
    (answers : MessageRouter.Answers session router (stateExchange instanceId code trailing)
      device opened) (channel : Nat) :
    if code = .fileLoaded ∨ Uploading code then
      ∃ object, new session router instanceId device = (.ok object, opened) ∧
        ∀ (file : ServedFile) (ready : Device → Prop) (position : Nat → Device → Prop),
          Serves session ⟨instanceId, router, .loaded⟩ file ready position → ready opened →
          ∀ transfers, file.transfers ≤ transfers →
            ∃ upon, upload session.recorded transfers channel object (opened, []) =
                some (.ok file.content, upon) ∧
              upon.object = object ∧
              upon.device.2.map EncapsPacket.data = object.uploadRequests file.transfers
    else if code = .nonexistent ∨ code = .fileEmpty then
      ∃ object, new session router instanceId device = (.ok object, opened) ∧
        ∀ transfers, 0 < transfers → upload session.recorded transfers channel object (opened, []) =
          some (.error (.unsupported
            s!"file object {instanceId} is {object.state.code.text} and cannot be uploaded"),
            ⟨object, (opened, []), []⟩)
    else
      new session router instanceId device =
        (.error (.unsupported s!"file object state {code.text} is not supported"), opened) := by
  have known := new_of_answers answers
  split
  next holds =>
    rw [stateOf_loaded holds] at known
    refine ⟨_, known, fun file ready position serves begins transfers enough => ?_⟩
    obtain ⟨upon, uploaded, ends⟩ := serves.uploads rfl begins channel enough
    exact ⟨upon, uploaded, ends.loaded, ends.log⟩
  next other =>
    split
    next absent =>
      obtain ⟨state, same, unloaded, idle⟩ := stateOf_absent absent
      rw [same] at known
      exact ⟨_, known, fun _ some => upload_of_absent unloaded idle channel some (opened, [])⟩
    next present =>
      rw [stateOf_other other present] at known
      exact known

end

/-! ### A device that reports a state -/

/-- The session to a device that serves a file and reports a state for it. -/
def reporting (file : ServedFile) (code : FileObjectStateCode) : Session Nat where
  sessionHandle _ := 1
  sendAndReceive packet index :=
    match requestIn packet with
    | .error refused => (.error refused, index)
    | .ok parts =>
      if parts.service = .getAttributeSingle then
        (.ok { packet with data := (replyWith parts.service (putU8 code.code)).payload }, index)
      else (serving file).sendAndReceive packet index

theorem answers_reporting_state (file : ServedFile) (code : FileObjectStateCode)
    (router : MessageRouter) (instanceId : UInt16) (index : Nat) :
    MessageRouter.Answers (reporting file code) router (stateExchange instanceId code [])
      index index := by
  have small : (putU8 code.code).length ≤ 65531 := Nat.le_add_left 1 65530
  refine ⟨{ router.requestPacket .getAttributeSingle
      (EPath.ofAttribute classId instanceId stateAttribute) [] [] 1 with
    data := (replyWith .getAttributeSingle (putU8 code.code)).payload },
    replyWith .getAttributeSingle (putU8 code.code), ?_, rfl, fits_replyWith _ small, rfl,
    (List.append_nil _).symm⟩
  simp only [reporting, stateExchange]
  rw [requestIn_of_short router _ _ (Nat.zero_le _)]
  exact if_pos rfl

/-- The other requests are answered as by a device that serves the file. -/
theorem answers_reporting {file : ServedFile} {object : FileObject} {service : ServiceCode}
    {data answer : Bytes} {index next : Nat} (code : FileObjectStateCode)
    (other : service ≠ .getAttributeSingle) (small : data.length ≤ 255)
    (answers : Answers (serving file) object service data index answer next) :
    Answers (reporting file code) object service data index answer next := by
  obtain ⟨packet, reply, replied, rest⟩ := answers
  refine ⟨packet, reply, ?_, rest⟩
  rw [← replied]
  simp only [reporting]
  rw [requestIn_requestPacket object service small]
  exact if_neg other

theorem serves_reporting (object : FileObject) (file : ServedFile) (code : FileObjectStateCode) :
    Serves (reporting file code) object file (fun _ => True) fun index device =>
      device = index where
  initiate device isReady := by
    obtain ⟨next, there, answers⟩ := (serves_serving object file).initiate device isReady
    exact ⟨next, there, answers_reporting code (by decide) (by decide) answers⟩
  transfer index inFile device here := by
    obtain ⟨checksum, next, there, answers⟩ :=
      (serves_serving object file).transfer index inFile device here
    exact ⟨checksum, next, there,
      answers_reporting code (by decide) (Nat.le_add_left 1 254) answers⟩

/-- The sample file, on a device that is at its second transfer. -/
theorem new_then_upload_uploading :
    ∃ object, new (reporting sampleFile .transferUploadInProgress) MessageRouter.new 1 1 =
        (.ok object, 1) ∧
      ∃ upon, upload (reporting sampleFile .transferUploadInProgress).recorded 3 0 object
          (1, []) = some (.ok sampleFile.content, upon) ∧
        upon.object = object ∧
        upon.device.2.map EncapsPacket.data = object.uploadRequests sampleFile.transfers := by
  obtain ⟨object, known, uploads⟩ := new_then_upload
    (answers_reporting_state sampleFile .transferUploadInProgress MessageRouter.new 1 1) 0
  exact ⟨object, known, uploads sampleFile _ _
    (serves_reporting ⟨1, MessageRouter.new, .loaded⟩ sampleFile .transferUploadInProgress)
    trivial 3 (by decide)⟩

end FileObject

end EipScanner
