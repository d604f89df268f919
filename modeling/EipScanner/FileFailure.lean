/-
This file says when a failed upload leaves the object usable. A transfer can be left with
an error before the upload is ended: when the request fails, when the reply has less than
the two bytes of a transfer header, and when a packet that is not the last is shorter than
the transfer size. The upload then stays in progress, and the next upload continues it
instead of starting over.

Every other way out ends the upload and returns the object to the loaded state. So the
object can be used again exactly when the device never gave one of these three answers to
a transfer that all transfers before it led up to.
-/

import EipScanner.FileUpload

namespace EipScanner

/-- The state an object has when no upload is in progress any more. -/
def FileState.settled : FileState → FileState
  | .nonExistent => .nonExistent
  | .empty => .empty
  | .loaded | .uploadInProgress _ => .loaded

theorem FileState.settled_code (state : FileState) :
    state.settled.code ≠ .transferUploadInProgress := by
  cases state with
  | nonExistent => exact (by decide : FileObjectStateCode.nonexistent ≠ .transferUploadInProgress)
  | empty => exact (by decide : FileObjectStateCode.fileEmpty ≠ .transferUploadInProgress)
  | loaded => exact (by decide : FileObjectStateCode.fileLoaded ≠ .transferUploadInProgress)
  | uploadInProgress upload =>
    exact (by decide : FileObjectStateCode.fileLoaded ≠ .transferUploadInProgress)

namespace FileObject

/-! ### Answers to a transfer -/

/-- An answer after which the upload goes on: a first or middle packet with the awaited number and
with as many bytes as a transfer has. -/
def Continues (transferSize transferNumber : UInt8) (reply : Except Error MessageRouterResponse) :
    Prop :=
  ∃ (response : MessageRouterResponse) (packet : TransferPacket),
    reply = .ok response ∧ response.generalStatus = .success ∧
      decodeTransfer response.data = .ok packet ∧ packet.receivedNumber = transferNumber ∧
      (packet.packetType = .first ∨ packet.packetType = .middle) ∧
      transferSize.toNat ≤ packet.buf.length

/-- An answer that leaves the upload in progress: none at all, one without a transfer header, or a
first or middle packet with the awaited number that is too short. -/
def Breaks (transferSize transferNumber : UInt8) (reply : Except Error MessageRouterResponse) :
    Prop :=
  (∃ refused, reply = .error refused) ∨
    ∃ response, reply = .ok response ∧ response.generalStatus = .success ∧
      ((∃ refused, decodeTransfer response.data = .error refused) ∨
        ∃ packet, decodeTransfer response.data = .ok packet ∧
          packet.receivedNumber = transferNumber ∧
          (packet.packetType = .first ∨ packet.packetType = .middle) ∧
          packet.buf.length < transferSize.toNat)

section
variable {transferSize transferNumber : UInt8} {response : MessageRouterResponse}

/-- An error status neither goes on nor breaks off. -/
theorem not_of_status (failure : response.generalStatus ≠ .success) :
    ¬ Breaks transferSize transferNumber (.ok response) ∧
      ¬ Continues transferSize transferNumber (.ok response) := by
  refine ⟨?_, ?_⟩
  · rintro (⟨refused, same⟩ | ⟨other, same, success, -⟩)
    · exact absurd same nofun
    · obtain rfl := Except.ok.inj same
      exact failure success
  · rintro ⟨other, packet, same, success, -⟩
    obtain rfl := Except.ok.inj same
    exact failure success

variable {packet : TransferPacket} (success : response.generalStatus = .success)
  (decoded : decodeTransfer response.data = .ok packet)

include success decoded

theorem continues_iff_of_packet :
    Continues transferSize transferNumber (.ok response) ↔
      (packet.receivedNumber = transferNumber ∧
        (packet.packetType = .first ∨ packet.packetType = .middle)) ∧
        transferSize.toNat ≤ packet.buf.length := by
  constructor
  · rintro ⟨other, otherPacket, same, -, otherDecoded, number, packetType, enough⟩
    obtain rfl := Except.ok.inj same
    rw [decoded] at otherDecoded
    obtain rfl := Except.ok.inj otherDecoded
    exact ⟨⟨number, packetType⟩, enough⟩
  · rintro ⟨⟨number, packetType⟩, enough⟩
    exact ⟨response, packet, rfl, success, decoded, number, packetType, enough⟩

theorem breaks_iff_of_packet :
    Breaks transferSize transferNumber (.ok response) ↔
      (packet.receivedNumber = transferNumber ∧
        (packet.packetType = .first ∨ packet.packetType = .middle)) ∧
        packet.buf.length < transferSize.toNat := by
  constructor
  · rintro (⟨refused, same⟩ | ⟨other, same, -, ⟨refused, undecoded⟩ |
      ⟨otherPacket, otherDecoded, number, packetType, short⟩⟩)
    · exact absurd same nofun
    · obtain rfl := Except.ok.inj same
      rw [decoded] at undecoded
      exact absurd undecoded nofun
    · obtain rfl := Except.ok.inj same
      rw [decoded] at otherDecoded
      obtain rfl := Except.ok.inj otherDecoded
      exact ⟨⟨number, packetType⟩, short⟩
  · rintro ⟨⟨number, packetType⟩, short⟩
    exact Or.inr ⟨response, rfl, success, Or.inr ⟨packet, decoded, number, packetType, short⟩⟩

end

/-- An answer after which the upload goes on does not break it off. -/
theorem not_breaks_of_continues {transferSize transferNumber : UInt8}
    {reply : Except Error MessageRouterResponse}
    (continues : Continues transferSize transferNumber reply) :
    ¬ Breaks transferSize transferNumber reply := by
  obtain ⟨response, packet, rfl, success, decoded, -, -, enough⟩ := continues
  rw [breaks_iff_of_packet success decoded]
  exact fun breaks => Nat.not_lt.mpr enough breaks.2

/-- A device breaks an upload off: transfers that are asked for one after another are answered so
that the upload goes on, up to one that is answered so that it stays in progress. -/
inductive BreaksOff {Device : Type}
    (ask : UInt8 → Device → Except Error MessageRouterResponse × Device) (transferSize : UInt8) :
    UInt8 → Device → Prop where
  | here {number : UInt8} {device : Device} :
    Breaks transferSize number (ask number device).1 → BreaksOff ask transferSize number device
  | later {number : UInt8} {device : Device} :
    Continues transferSize number (ask number device).1 →
      BreaksOff ask transferSize (number + 1) (ask number device).2 →
      BreaksOff ask transferSize number device

variable {Device : Type} {session : Session Device} {upon : Upon Device} {upload : Upload}

/-- What is done with a packet: it is too short, or it is appended, or the upload ends. -/
theorem takePacket_cases (upload : Upload) (packet : TransferPacket) (upon : Upon Device) :
    (packet.receivedNumber = upload.transferNumber ∧
        (packet.packetType = .first ∨ packet.packetType = .middle)) ∧
      (packet.buf.length < upload.transferSize.toNat ∧
          (∃ refused, takePacket upload packet upon = (.error refused, upon)) ∨
        upload.transferSize.toNat ≤ packet.buf.length ∧
          ∃ data, takePacket upload packet upon =
            (.ok true, upon.setState (.uploadInProgress
              { upload.extend data with transferNumber := upload.transferNumber + 1 }))) ∨
    ¬ (packet.receivedNumber = upload.transferNumber ∧
        (packet.packetType = .first ∨ packet.packetType = .middle)) ∧
      ∃ outcome next, takePacket upload packet upon = (outcome, next) ∧ outcome ≠ .ok true ∧
        next.object = { upon.object with state := .loaded } := by
  unfold takePacket
  by_cases number : packet.receivedNumber = upload.transferNumber
  · rw [if_neg (not_not.mpr number)]
    by_cases more : packet.packetType = .first ∨ packet.packetType = .middle
    · rw [if_pos more]
      refine Or.inl ⟨⟨number, more⟩, ?_⟩
      rcases Nat.lt_or_ge packet.buf.length upload.transferSize.toNat with short | enough
      · rw [tryGetVec, if_pos short]
        exact Or.inl ⟨short, _, rfl⟩
      · rw [tryGetVec, if_neg (Nat.not_lt.mpr enough)]
        exact Or.inr ⟨enough, _, rfl⟩
    · rw [if_neg more]
      refine Or.inr ⟨fun both => more both.2, ?_⟩
      split
      · -- a last packet is never too short for what is taken of it
        rw [tryGetVec, if_neg (Nat.not_lt.mpr (Nat.sub_le _ _))]
        exact ⟨_, _, rfl, (by simp), finish_object _ _ _⟩
      · exact ⟨_, _, rfl, (by simp), finish_object _ _ _⟩
  · rw [if_pos number]
    exact Or.inr ⟨fun both => number both.1, _, _, rfl, (by simp), finish_object _ _ _⟩

/-- What a transfer does to an upload in progress. -/
theorem handleTransfers_cases (running : upon.object.state = .uploadInProgress upload) :
    let answer := request session upon.object .uploadTransfer [upload.transferNumber] upon.device
    (Breaks upload.transferSize upload.transferNumber answer.1 ∧
      ∃ refused, handleTransfers session upon =
        (.error refused, { upon with device := answer.2 })) ∨
    (Continues upload.transferSize upload.transferNumber answer.1 ∧
      ∃ data, handleTransfers session upon =
        (.ok true, ({ upon with device := answer.2 }).setState (.uploadInProgress
          { upload.extend data with transferNumber := upload.transferNumber + 1 }))) ∨
    (¬ Breaks upload.transferSize upload.transferNumber answer.1 ∧
      ¬ Continues upload.transferSize upload.transferNumber answer.1 ∧
      ∃ outcome next, handleTransfers session upon = (outcome, next) ∧ outcome ≠ .ok true ∧
        next.object = { upon.object with state := .loaded }) := by
  intro answer
  have answered : request session upon.object .uploadTransfer [upload.transferNumber] upon.device =
      answer := rfl
  clear_value answer
  unfold handleTransfers
  rw [running]
  dsimp only
  rw [answered]
  obtain ⟨refused | response, device⟩ := answer
  · exact Or.inl ⟨Or.inl ⟨refused, rfl⟩, refused, rfl⟩
  dsimp only
  by_cases success : response.generalStatus = .success
  · rw [if_neg (not_not.mpr success)]
    cases decoded : decodeTransfer response.data with
    | error refused =>
      exact Or.inl ⟨Or.inr ⟨response, rfl, success, Or.inl ⟨refused, decoded⟩⟩, refused, rfl⟩
    | ok packet =>
      rw [breaks_iff_of_packet success decoded, continues_iff_of_packet success decoded]
      rcases takePacket_cases upload packet { upon with device } with
        ⟨awaited, ⟨short, refused⟩ | ⟨enough, appended⟩⟩ | ⟨other, ends⟩
      · exact Or.inl ⟨⟨awaited, short⟩, refused⟩
      · exact Or.inr (Or.inl ⟨⟨awaited, enough⟩, appended⟩)
      · exact Or.inr (Or.inr ⟨fun breaks => other breaks.1, fun goesOn => other goesOn.1, ends⟩)
  · rw [if_pos success]
    obtain ⟨notBreaks, notContinues⟩ := not_of_status success
    exact Or.inr (Or.inr ⟨notBreaks, notContinues, _, _, rfl, nofun, finish_object _ _ _⟩)

/-- After an answer with which the upload goes on, it is broken off if it is from there. -/
theorem breaksOff_later_iff {ask : UInt8 → Device → Except Error MessageRouterResponse × Device}
    {transferSize number : UInt8} {device : Device}
    (continues : Continues transferSize number (ask number device).1) :
    BreaksOff ask transferSize number device ↔
      BreaksOff ask transferSize (number + 1) (ask number device).2 := by
  constructor
  · intro breaksOff
    cases breaksOff with
    | here breaks => exact absurd breaks (not_breaks_of_continues continues)
    | later _ later => exact later
  · exact BreaksOff.later continues

/-- How an upload in progress ends: it is left in progress when the device breaks it off, and the
object is loaded again when it does not. -/
def EndsAs (session : Session Device) (upon : Upon Device) (upload : Upload) (after : FileObject) :
    Prop :=
  BreaksOff (fun number => request session upon.object .uploadTransfer [number])
        upload.transferSize upload.transferNumber upon.device ∧
      (∃ left, after = { upon.object with state := .uploadInProgress left }) ∨
    ¬ BreaksOff (fun number => request session upon.object .uploadTransfer [number])
        upload.transferSize upload.transferNumber upon.device ∧
      after = { upon.object with state := .loaded }

theorem endsAs_of_stop {next : Upon Device} {outcome : Except Error Bool}
    (running : upon.object.state = .uploadInProgress upload)
    (round : handleTransfers session upon = (outcome, next)) (not : outcome ≠ .ok true) :
    EndsAs session upon upload next.object := by
  rcases handleTransfers_cases running with
    ⟨breaks, refused, left⟩ | ⟨-, data, goesOn⟩ | ⟨notBreaks, notContinues, _, _, ends, -, loaded⟩
  · obtain ⟨-, rfl⟩ := Prod.mk.inj (left.symm.trans round)
    refine Or.inl ⟨BreaksOff.here breaks, upload, ?_⟩
    rw [← running]
  · exact absurd (Prod.mk.inj (goesOn.symm.trans round)).1.symm not
  · obtain ⟨-, rfl⟩ := Prod.mk.inj (ends.symm.trans round)
    refine Or.inr ⟨fun breaksOff => ?_, loaded⟩
    cases breaksOff with
    | here breaks => exact notBreaks breaks
    | later continues _ => exact notContinues continues

/-- The transfers of an upload in progress, however many there are. -/
theorem endsAs_of_run {transfers : Nat} {final : Except Error Unit × Upon Device}
    (running : upon.object.state = .uploadInProgress upload)
    (ended : FallibleLoop.run (handleTransfers session) transfers upon = some final) :
    EndsAs session upon upload final.2.object := by
  let Holds (upon : Upon Device) (final : Except Error Unit × Upon Device) : Prop :=
    ∀ upload, upon.object.state = .uploadInProgress upload →
      EndsAs session upon upload final.2.object
  have goesOn : ∀ upon next final, handleTransfers session upon = (.ok true, next) →
      Holds next final → Holds upon final := by
    intro upon next final round inductionHypothesis upload running
    rcases handleTransfers_cases running with
      ⟨-, refused, left⟩ | ⟨continues, data, goesOn⟩ | ⟨-, -, outcome, _, ends, not, -⟩
    · exact absurd (Prod.mk.inj (left.symm.trans round)).1 nofun
    · obtain ⟨-, rfl⟩ := Prod.mk.inj (goesOn.symm.trans round)
      rw [EndsAs, breaksOff_later_iff continues]
      exact inductionHypothesis _ rfl
    · exact absurd (Prod.mk.inj (ends.symm.trans round)).1 not
  have stops : ∀ upon next outcome, handleTransfers session upon = (outcome, next) →
      outcome ≠ .ok true → Holds upon (outcome.map fun _ => (), next) :=
    fun upon next outcome round not upload running => endsAs_of_stop running round not
  have rule : Holds upon final :=
    @FallibleLoop.run_induction _ _ _ Holds stops goesOn _ _ _ ended
  exact rule upload running

/-! ### Whole uploads -/

/-- A device interrupts an upload of an object: it announces a file, or did so before, and breaks
the transfers off. -/
def Interrupted (session : Session Device) (object : FileObject) (device : Device) : Prop :=
  let ask (number : UInt8) := request session object .uploadTransfer [number]
  match object.state with
  | .loaded =>
    let answer := request session object .initiateUpload [maxTransferSize] device
    ∃ response fileSize transferSize, answer.1 = .ok response ∧ response.generalStatus = .success ∧
      decodeAnnouncement response.data = .ok (fileSize, transferSize) ∧
      BreaksOff ask transferSize 0 answer.2
  | .uploadInProgress upload => BreaksOff ask upload.transferSize upload.transferNumber device
  | .nonExistent | .empty => False

theorem interrupted_of_running {object : FileObject} {device : Device}
    (running : object.state = .uploadInProgress upload) :
    Interrupted session object device ↔
      BreaksOff (fun number => request session object .uploadTransfer [number])
        upload.transferSize upload.transferNumber device := by
  unfold Interrupted
  rw [running]

/-- What the beginning of an upload does to a loaded object: the device announces the file and an
upload is in progress, or nothing changes. -/
theorem beginUpload_cases (loaded : upon.object.state = .loaded) (handler : Nat) :
    let answer := request session upon.object .initiateUpload [maxTransferSize] upon.device
    (∃ response fileSize transferSize, answer.1 = .ok response ∧
      response.generalStatus = .success ∧
      decodeAnnouncement response.data = .ok (fileSize, transferSize) ∧
      beginUpload session handler upon = (.ok (), ({ upon with device := answer.2 }).setState
        (.uploadInProgress ⟨fileSize, transferSize, 0, [], handler⟩))) ∨
    (∀ response fileSize transferSize, answer.1 = .ok response →
      response.generalStatus = .success →
      decodeAnnouncement response.data ≠ .ok (fileSize, transferSize)) ∧
      ∃ outcome next, beginUpload session handler upon = (outcome, next) ∧
        next.object = upon.object := by
  intro answer
  have answered : request session upon.object .initiateUpload [maxTransferSize] upon.device =
      answer := rfl
  clear_value answer
  unfold beginUpload
  rw [if_neg (not_not.mpr loaded)]
  dsimp only
  rw [answered]
  obtain ⟨refused | response, device⟩ := answer
  · exact Or.inr ⟨nofun, _, _, rfl, rfl⟩
  dsimp only
  by_cases success : response.generalStatus = .success
  · rw [if_neg (not_not.mpr success)]
    cases decoded : decodeAnnouncement response.data with
    | error refused =>
      refine Or.inr ⟨?_, _, _, rfl, rfl⟩
      rintro other fileSize transferSize same - announced
      obtain rfl := Except.ok.inj same
      rw [decoded] at announced
      exact absurd announced nofun
    | ok announcement =>
      obtain ⟨fileSize, transferSize⟩ := announcement
      exact Or.inl ⟨response, fileSize, transferSize, rfl, success, decoded, rfl⟩
  · rw [if_pos success]
    refine Or.inr ⟨?_, _, _, rfl, rfl⟩
    rintro other fileSize transferSize same succeeds -
    obtain rfl := Except.ok.inj same
    exact absurd succeeds success

/-- Without an upload in progress there is nothing to transfer. -/
theorem run_idle {transfers : Nat} {final : Except Error Unit × Upon Device}
    (idle : ∀ upload, upon.object.state ≠ .uploadInProgress upload)
    (ended : FallibleLoop.run (handleTransfers session) transfers upon = some final) :
    final.2 = upon := by
  have nothing : handleTransfers session upon = (.ok false, upon) := by
    unfold handleTransfers
    cases state : upon.object.state with
    | uploadInProgress upload => exact absurd state (idle upload)
    | _ => rfl
  cases transfers with
  | zero => exact absurd ended nofun
  | succ transfers =>
    rw [FallibleLoop.run_stops nothing nofun] at ended
    obtain rfl := Option.some.inj ended
    rfl

/-- The two parts of an upload that returned. -/
theorem upload_returned {transfers channel : Nat} {object : FileObject} {device : Device}
    {result : Except Error Bytes} {after : Upon Device}
    (returned : FileObject.upload session transfers channel object device = some (result, after)) :
    ∃ outcome begun, beginUpload session channel ⟨object, device, []⟩ = (outcome, begun) ∧
      (after = begun ∧ outcome ≠ .ok () ∨ outcome = .ok () ∧ ∃ final,
        FallibleLoop.run (handleTransfers session) transfers begun = some final ∧
          after = final.2) := by
  unfold FileObject.upload at returned
  rcases first : beginUpload session channel ⟨object, device, []⟩ with ⟨refused | done, begun⟩
  · rw [first] at returned
    obtain ⟨-, rfl⟩ := Prod.mk.inj (Option.some.inj returned)
    exact ⟨_, _, rfl, Or.inl ⟨rfl, nofun⟩⟩
  · rw [first] at returned
    obtain ⟨⟨outcome, last⟩, ended, same⟩ := Option.map_eq_some_iff.mp returned
    refine ⟨_, _, rfl, Or.inr ⟨rfl, _, ended, ?_⟩⟩
    cases outcome with
    | error refused => exact (Prod.mk.inj same).2.symm
    | ok _ => exact (Prod.mk.inj same).2.symm

section
variable {transfers channel : Nat} {object : FileObject} {device : Device}
  {result : Except Error Bytes} {after : Upon Device}

/-- An upload that returned where none was in progress after its beginning. -/
theorem object_of_idle {begun : Upon Device} {outcome : Except Error Unit}
    (idle : ∀ upload, begun.object.state ≠ .uploadInProgress upload)
    (rest : after = begun ∧ outcome ≠ .ok () ∨ outcome = .ok () ∧ ∃ final,
      FallibleLoop.run (handleTransfers session) transfers begun = some final ∧
        after = final.2) :
    after = begun := by
  rcases rest with ⟨same, -⟩ | ⟨-, final, ended, same⟩
  · exact same
  · exact same.trans (run_idle idle ended)

/-- An upload that returned where one was in progress after its beginning. -/
theorem endsAs_of_running {begun : Upon Device} {outcome : Except Error Unit}
    (running : begun.object.state = .uploadInProgress upload) (begin : outcome = .ok ())
    (rest : after = begun ∧ outcome ≠ .ok () ∨ outcome = .ok () ∧ ∃ final,
      FallibleLoop.run (handleTransfers session) transfers begun = some final ∧
        after = final.2) :
    EndsAs session begun upload after.object := by
  rcases rest with ⟨-, failed⟩ | ⟨-, final, ended, rfl⟩
  · exact absurd begin failed
  · exact endsAs_of_run running ended

/-- The beginning of an upload does nothing to an object that is not loaded. -/
theorem beginUpload_of_other (other : object.state ≠ .loaded) :
    beginUpload session channel ⟨object, device, []⟩ = (.ok (), ⟨object, device, []⟩) :=
  if_pos other

/-- An upload of a loaded object. -/
theorem upload_end_of_loaded (loaded : object.state = .loaded)
    (returned : FileObject.upload session transfers channel object device = some (result, after)) :
    Interrupted session object device ∧
        (∃ left, after.object = { object with state := .uploadInProgress left }) ∨
      ¬ Interrupted session object device ∧ after.object = { object with state := .loaded } := by
  obtain ⟨outcome, begun, began, rest⟩ := upload_returned returned
  unfold Interrupted
  simp only [loaded]
  rcases @beginUpload_cases _ session ⟨object, device, []⟩ loaded channel with
    ⟨response, fileSize, transferSize, replied, success, decoded, same⟩ |
    ⟨refused, other, next, same, unchanged⟩
  · obtain ⟨begin, rfl⟩ := Prod.mk.inj (same.symm.trans began)
    have ends := endsAs_of_running rfl begin.symm rest
    refine ends.imp ?_ ?_
    · rintro ⟨breaksOff, left⟩
      exact ⟨⟨response, fileSize, transferSize, replied, success, decoded, breaksOff⟩, left⟩
    · rintro ⟨notBreaksOff, loadedAgain⟩
      refine ⟨?_, loadedAgain⟩
      rintro ⟨otherResponse, otherFile, otherSize, otherReplied, -, otherDecoded, breaksOff⟩
      obtain rfl := Except.ok.inj (replied.symm.trans otherReplied)
      obtain ⟨-, rfl⟩ := Prod.mk.inj (Except.ok.inj (decoded.symm.trans otherDecoded))
      exact notBreaksOff breaksOff
  · obtain ⟨-, rfl⟩ := Prod.mk.inj (same.symm.trans began)
    have idle : ∀ upload, next.object.state ≠ .uploadInProgress upload := by
      intro upload running
      rw [unchanged] at running
      exact absurd (loaded.symm.trans running) nofun
    refine Or.inr ⟨?_, ?_⟩
    · rintro ⟨response, fileSize, transferSize, replied, success, decoded, -⟩
      exact refused response fileSize transferSize replied success decoded
    · rw [object_of_idle idle rest, unchanged, ← loaded]

/-- An upload of an object without a file. -/
theorem upload_end_of_absent (other : object.state ≠ .loaded)
    (idle : ∀ upload, object.state ≠ .uploadInProgress upload)
    (returned : FileObject.upload session transfers channel object device = some (result, after)) :
    after.object = object := by
  obtain ⟨outcome, begun, began, rest⟩ := upload_returned returned
  obtain ⟨-, rfl⟩ := Prod.mk.inj ((beginUpload_of_other other).symm.trans began)
  rw [object_of_idle idle rest]

/-- How an upload that returns leaves the object. -/
theorem upload_end
    (returned : FileObject.upload session transfers channel object device = some (result, after)) :
    Interrupted session object device ∧
        (∃ left, after.object = { object with state := .uploadInProgress left }) ∨
      ¬ Interrupted session object device ∧
        after.object = { object with state := object.state.settled } := by
  cases state : object.state with
  | loaded => exact upload_end_of_loaded state returned
  | uploadInProgress upload =>
    obtain ⟨outcome, begun, began, rest⟩ := upload_returned returned
    have other : object.state ≠ .loaded := fun loaded => absurd (state.symm.trans loaded) nofun
    obtain ⟨begin, rfl⟩ := Prod.mk.inj ((beginUpload_of_other other).symm.trans began)
    have running : (⟨object, device, []⟩ : Upon Device).object.state = .uploadInProgress upload :=
      state
    have ends := endsAs_of_running running begin.symm rest
    rw [interrupted_of_running state]
    exact ends
  | nonExistent | empty =>
    unfold Interrupted
    simp only [state]
    have same := upload_end_of_absent (fun loaded => absurd (state.symm.trans loaded) nofun)
      (fun upload running => absurd (state.symm.trans running) nofun) returned
    exact Or.inr ⟨not_false, by rw [same, FileState.settled, ← state]⟩

/-- An object can be used after an upload: none is in progress, and if it had a file before, every
following upload from a device that serves a file initiates it again and returns it. -/
def Usable (before after : FileObject) : Prop :=
  after.state.code ≠ .transferUploadInProgress ∧
    (before.state ≠ .nonExistent → before.state ≠ .empty →
      ∀ (Device : Type) (session : Session Device) (file : ServedFile) (ready : Device → Prop)
        (position : Nat → Device → Prop) (device : Device) (channel transfers : Nat),
        Serves session after file ready position → ready device → file.transfers ≤ transfers →
          ∃ upon, FileObject.upload session.recorded transfers channel after (device, []) =
              some (.ok file.content, upon) ∧
            upon.device.2.map EncapsPacket.data = after.uploadRequests file.transfers)

/-- A failed upload. Whatever the session did, an upload that returned, with or without an error,
leaves the object usable exactly when the device did not interrupt it: when it broke no transfer
off that all transfers before it led up to. -/
theorem usable_iff
    (returned : FileObject.upload session transfers channel object device = some (result, after)) :
    Usable object after.object ↔ ¬ Interrupted session object device := by
  rcases upload_end returned with ⟨interrupted, left, same⟩ | ⟨notInterrupted, same⟩
  · refine iff_of_false (fun usable => usable.1 ?_) (not_not.mpr interrupted)
    rw [same]
    rfl
  · refine iff_of_true ⟨?_, ?_⟩ notInterrupted
    · rw [same]
      exact object.state.settled_code
    · intro exists_ notEmpty Device session file ready position device channel transfers serves
        begins enough
      have loaded : after.object.state = .loaded := by
        rw [same]
        cases state : object.state with
        | nonExistent => exact absurd state exists_
        | empty => exact absurd state notEmpty
        | loaded => rfl
        | uploadInProgress upload => rfl
      obtain ⟨upon, uploaded, whole⟩ := serves.uploads loaded begins channel enough
      exact ⟨upon, uploaded, whole.log⟩

end

/-- A session that is cut off after its first request. -/
def cutOff (file : ServedFile) : Session Nat where
  sessionHandle _ := 1
  sendAndReceive packet requests :=
    if requests = 0 then (((serving file).sendAndReceive packet 0).1, 1)
    else (.error .io, requests + 1)

/-- An upload whose first transfer fails leaves the object with the upload in progress. -/
theorem not_usable_cutOff :
    ∃ after, FileObject.upload (cutOff sampleFile) 1 0 sampleObject 0 = some (.error .io, after) ∧
      ¬ Usable sampleObject after.object := by
  refine ⟨_, rfl, fun usable => usable.1 rfl⟩

/-- A session that serves a file for a number of requests, and gives one answer to all after. -/
def servingUntil (file : ServedFile) (count : Nat)
    (late : EncapsPacket → Except Error EncapsPacket) : Session (Nat × Nat) where
  sessionHandle _ := 1
  sendAndReceive packet state :=
    if state.1 < count then
      let (answer, next) := (serving file).sendAndReceive packet state.2
      (answer, (state.1 + 1, next))
    else (late packet, state)

/-- The second transfer is refused with a status. -/
def refusing : Session (Nat × Nat) :=
  servingUntil sampleFile 2 fun packet =>
    .ok { packet with data := MessageRouter.statusReply.payload }

/-- The second transfer is answered without a transfer header. -/
def curtailing : Session (Nat × Nat) :=
  servingUntil sampleFile 2 fun packet =>
    .ok { packet with data := (replyWith ⟨0x4F⟩ [1]).payload }

theorem not_interrupted_refusing : ¬ Interrupted refusing sampleObject (0, 0) := by
  rintro ⟨response, fileSize, transferSize, answered, -, decoded, breaksOff⟩
  obtain rfl := (Except.ok.inj answered)
  obtain ⟨rfl, rfl⟩ := Prod.mk.inj (Except.ok.inj decoded)
  rcases breaksOff with breaks | ⟨-, breaks | ⟨continues, -⟩⟩
  · exact absurd ((breaks_iff_of_packet rfl rfl).mp breaks).2 (by decide)
  · exact (@not_of_status _ _ MessageRouter.statusReply.response (by decide)).1 breaks
  · exact (@not_of_status _ _ MessageRouter.statusReply.response (by decide)).2 continues

/-- After the one the object is left with the upload in progress, after the other it is usable. -/
theorem usable_iff_refusing :
    (∃ refused after, FileObject.upload curtailing 3 0 sampleObject (0, 0) =
        some (.error refused, after) ∧ ¬ Usable sampleObject after.object) ∧
      ∃ refused after, FileObject.upload refusing 3 0 sampleObject (0, 0) =
        some (.error refused, after) ∧ Usable sampleObject after.object := by
  refine ⟨⟨_, _, rfl, fun usable => ?_⟩, _, _, rfl, ?_⟩
  · refine (@usable_iff _ curtailing 3 0 sampleObject (0, 0) _ _ rfl).mp usable
      ⟨_, _, _, rfl, rfl, rfl, .later ?_ (.here ?_)⟩
    · exact (continues_iff_of_packet rfl rfl).mpr (by decide)
    · exact Or.inr ⟨_, rfl, rfl, Or.inl ⟨_, rfl⟩⟩
  · exact (@usable_iff _ refusing 3 0 sampleObject (0, 0) _ _ rfl).mpr not_interrupted_refusing

end FileObject

end EipScanner
