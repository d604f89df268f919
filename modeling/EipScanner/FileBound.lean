/-
This file is about how long an upload takes and how much it collects. A transfer that is
not the last brings as many bytes as a transfer has, so a device that hands out no more
than it announced is finished after as many transfers as fit into the file, and one.

Nothing keeps a device to that. The size of what was collected is looked at once the last
packet has come, so a device that never sends a last packet is asked for ever, and what it
sends is kept. The bounds hold exactly for the devices that do not overflow: they send no
packet for which less is left of the file than it brings, and none that brings nothing
where another has to follow.
-/

import EipScanner.FileFailure

namespace EipScanner

namespace FileObject

/-! ### What a packet adds -/

/-- The bytes that an upload takes from a packet. -/
def payload (transferSize transferNumber : UInt8) (packet : TransferPacket) : Bytes :=
  if packet.receivedNumber ≠ transferNumber then []
  else if packet.packetType = .first ∨ packet.packetType = .middle then
    if packet.buf.length < transferSize.toNat then [] else packet.buf.take transferSize.toNat
  else if packet.packetType = .last ∨ packet.packetType = .firstAndLast then
    packet.buf.take (packet.buf.length - 2)
  else []

/-- An upload with what it takes from a packet. -/
def collect (upload : Upload) (packet : TransferPacket) : Upload :=
  upload.extend (payload upload.transferSize upload.transferNumber packet)

variable {Device : Type} {session : Session Device} {upon : Upon Device} {upload : Upload}

/-- A packet of an upload that is not its last: it has the awaited number and enough bytes. -/
def IsMore (transferSize transferNumber : UInt8) (packet : TransferPacket) : Prop :=
  packet.receivedNumber = transferNumber ∧
    (packet.packetType = .first ∨ packet.packetType = .middle) ∧
      transferSize.toNat ≤ packet.buf.length

/-- A last packet of an upload. -/
def IsLast (transferNumber : UInt8) (packet : TransferPacket) : Prop :=
  packet.receivedNumber = transferNumber ∧
    (packet.packetType = .last ∨ packet.packetType = .firstAndLast)

theorem payload_of_more {transferSize transferNumber : UInt8} {packet : TransferPacket}
    (more : IsMore transferSize transferNumber packet) :
    payload transferSize transferNumber packet = packet.buf.take transferSize.toNat := by
  obtain ⟨number, packetType, enough⟩ := more
  rw [payload, if_neg (not_not.mpr number), if_pos packetType, if_neg (Nat.not_lt.mpr enough)]

theorem length_payload_of_more {transferSize transferNumber : UInt8} {packet : TransferPacket}
    (more : IsMore transferSize transferNumber packet) :
    (payload transferSize transferNumber packet).length = transferSize.toNat := by
  rw [payload_of_more more, List.length_take_of_le more.2.2]

theorem not_first_of_last {packet : TransferPacket}
    (last : packet.packetType = .last ∨ packet.packetType = .firstAndLast) :
    ¬ (packet.packetType = .first ∨ packet.packetType = .middle) := by
  rcases last with same | same <;> rw [same] <;> decide

theorem payload_of_last (transferSize : UInt8) {transferNumber : UInt8} {packet : TransferPacket}
    (last : IsLast transferNumber packet) :
    payload transferSize transferNumber packet = packet.buf.take (packet.buf.length - 2) := by
  rw [payload, if_neg (not_not.mpr last.1), if_neg (not_first_of_last last.2), if_pos last.2]

/-- Any other packet adds nothing. -/
theorem payload_of_other {transferSize transferNumber : UInt8} {packet : TransferPacket}
    (notMore : ¬ IsMore transferSize transferNumber packet)
    (notLast : ¬ IsLast transferNumber packet) :
    payload transferSize transferNumber packet = [] := by
  unfold payload
  by_cases number : packet.receivedNumber = transferNumber
  · rw [if_neg (not_not.mpr number)]
    split
    next packetType =>
      refine if_pos (Nat.lt_of_not_le fun enough => notMore ⟨number, packetType, enough⟩)
    · exact if_neg fun last => notLast ⟨number, last⟩
  · exact if_pos number

/-- What is done with each kind of packet. -/
theorem takePacket_of_more {packet : TransferPacket}
    (more : IsMore upload.transferSize upload.transferNumber packet) :
    takePacket upload packet upon = (.ok true, upon.setState (.uploadInProgress
      { collect upload packet with transferNumber := upload.transferNumber + 1 })) := by
  have taken := length_payload_of_more more
  have split : packet.buf = payload upload.transferSize upload.transferNumber packet ++
      packet.buf.drop upload.transferSize.toNat := by
    rw [payload_of_more more, List.take_append_drop]
  exact takePacket_append more.1 more.2.1 taken split

theorem takePacket_of_last {packet : TransferPacket} (last : IsLast upload.transferNumber packet) :
    takePacket upload packet upon =
      (.ok false, finish .success true
        (upon.setState (.uploadInProgress (collect upload packet)))) := by
  have taken := payload_of_last upload.transferSize last
  unfold takePacket
  rw [if_neg (not_not.mpr last.1), if_neg (not_first_of_last last.2), if_pos last.2, tryGetVec,
    if_neg (Nat.not_lt.mpr (Nat.sub_le _ _)), collect, taken]

/-- The device answers a request for a packet of an upload with this packet. -/
def Hands (ask : UInt8 → Device → Except Error MessageRouterResponse × Device) (number : UInt8)
    (device : Device) (packet : TransferPacket) (next : Device) : Prop :=
  ∃ response, ask number device = (.ok response, next) ∧ response.generalStatus = .success ∧
    decodeTransfer response.data = .ok packet

/-- The requests for packets that an upload of an object makes. -/
def transferRequest (session : Session Device) (object : FileObject) (number : UInt8)
    (device : Device) : Except Error MessageRouterResponse × Device :=
  request session object .uploadTransfer [number] device

/-- What a transfer comes down to. -/
theorem handleTransfers_of_hands {packet : TransferPacket} {device : Device}
    (running : upon.object.state = .uploadInProgress upload)
    (hands : Hands (transferRequest session upon.object) upload.transferNumber upon.device packet
      device) :
    handleTransfers session upon = takePacket upload packet { upon with device } := by
  obtain ⟨response, answered, success, decoded⟩ := hands
  exact handleTransfers_of_packet running answered success decoded

/-- A transfer after which the upload goes on was answered with a packet that is not the last. -/
theorem hands_of_goesOn {next : Upon Device}
    (running : upon.object.state = .uploadInProgress upload)
    (round : handleTransfers session upon = (.ok true, next)) :
    ∃ packet device,
      Hands (transferRequest session upon.object) upload.transferNumber upon.device packet device ∧
        IsMore upload.transferSize upload.transferNumber packet ∧
        next = ({ upon with device }).setState (.uploadInProgress
          { collect upload packet with transferNumber := upload.transferNumber + 1 }) := by
  rcases handleTransfers_cases running with
    ⟨-, refused, left⟩ | ⟨⟨response, packet, replied, success, decoded, more⟩, data, goesOn⟩ |
    ⟨-, -, outcome, _, ends, not, -⟩
  · cases left.symm.trans round
  · have hands : Hands (transferRequest session upon.object) upload.transferNumber upon.device
        packet _ := ⟨response, Prod.ext replied rfl, success, decoded⟩
    rw [handleTransfers_of_hands running hands, takePacket_of_more more] at round
    exact ⟨packet, _, hands, more, (Prod.mk.inj round).2.symm⟩
  · exact absurd (Prod.mk.inj (ends.symm.trans round)).1 not

/-! ### Devices that overflow -/

/-- What an upload collects in the course of its transfers, the last one included. -/
inductive Collects (session : Session Device) : Upon Device → Bytes → Prop where
  | here {upon : Upon Device} {upload : Upload} :
    upon.object.state = .uploadInProgress upload → Collects session upon upload.content
  | taken {upon : Upon Device} {upload : Upload} {packet : TransferPacket} {device : Device} :
    upon.object.state = .uploadInProgress upload →
      Hands (transferRequest session upon.object) upload.transferNumber upon.device packet device →
      Collects session upon (collect upload packet).content
  | later {upon next : Upon Device} {content : Bytes} :
    handleTransfers session upon = (.ok true, next) → Collects session next content →
      Collects session upon content

/-- A packet is more than what is left of the file: it brings more bytes, or it brings none and
yet is not the last. -/
def Exceeds (transferSize transferNumber : UInt8) (left : Nat) (packet : TransferPacket) : Prop :=
  IsMore transferSize transferNumber packet ∧
      (transferSize = 0 ∨ left < transferSize.toNat) ∨
    IsLast transferNumber packet ∧ left < packet.buf.length - 2

/-- A device overflows: after packets that are not the last, which may be none, it hands out a
packet that is more than what is left of the file. -/
inductive Overflows (ask : UInt8 → Device → Except Error MessageRouterResponse × Device)
    (transferSize : UInt8) : UInt8 → Nat → Device → Prop where
  | here {number : UInt8} {left : Nat} {device next : Device} {packet : TransferPacket} :
    Hands ask number device packet next → Exceeds transferSize number left packet →
      Overflows ask transferSize number left device
  | later {number : UInt8} {left : Nat} {device next : Device} {packet : TransferPacket} :
    Hands ask number device packet next → IsMore transferSize number packet →
      Overflows ask transferSize (number + 1) (left - transferSize.toNat) next →
      Overflows ask transferSize number left device

/-- The transfers that a file of a size needs at most. -/
def transferBound (fileSize : Nat) (transferSize : UInt8) : Nat :=
  fileSize / transferSize.toNat + 1

/-- An upload in progress keeps within its file: it comes to an end after at most as many transfers
as are left of the file, and collects at no time more than the file. -/
def KeepsWithin (session : Session Device) (upon : Upon Device) (fileSize left : Nat)
    (transferSize : UInt8) : Prop :=
  (∃ final, FallibleLoop.run (handleTransfers session) (transferBound left transferSize) upon =
      some final) ∧
    ∀ content, Collects session upon content → content.length ≤ fileSize

/-- What is known of an upload in progress from a device that does not overflow. -/
structure Within (session : Session Device) (fileSize : Nat) (transferSize : UInt8)
    (upon : Upon Device) (upload : Upload) : Prop where
  running : upon.object.state = .uploadInProgress upload
  size : upload.transferSize = transferSize
  fits : upload.content.length ≤ fileSize
  notOverflows : ¬ Overflows (transferRequest session upon.object) transferSize
    upload.transferNumber (fileSize - upload.content.length) upon.device

section Bounds

variable {fileSize : Nat} {transferSize : UInt8}

theorem length_collect (upload : Upload) (packet : TransferPacket) :
    (collect upload packet).content.length = upload.content.length +
      (payload upload.transferSize upload.transferNumber packet).length := by
  rw [collect, Upload.extend, List.length_append]

/-- A packet that is not more than what is left fits. -/
theorem Within.length_le (within : Within session fileSize transferSize upon upload)
    {packet : TransferPacket} {device : Device}
    (hands : Hands (transferRequest session upon.object) upload.transferNumber upon.device packet
      device) : (collect upload packet).content.length ≤ fileSize := by
  have fits := within.fits
  have notExceeds : ¬ Exceeds transferSize upload.transferNumber
      (fileSize - upload.content.length) packet :=
    fun exceeds => within.notOverflows (Overflows.here hands exceeds)
  rw [length_collect, within.size]
  by_cases more : IsMore transferSize upload.transferNumber packet
  · have enough := Nat.le_of_not_lt fun less => notExceeds (Or.inl ⟨more, Or.inr less⟩)
    rw [length_payload_of_more more]
    omega
  by_cases last : IsLast upload.transferNumber packet
  · have enough := Nat.le_of_not_lt fun less => notExceeds (Or.inr ⟨last, less⟩)
    rw [payload_of_last _ last, List.length_take_of_le (Nat.sub_le _ _)]
    omega
  · rw [payload_of_other more last]
    exact fits

/-- A transfer after which the upload goes on brings bytes, and they fit. -/
theorem Within.goesOn {next : Upon Device}
    (within : Within session fileSize transferSize upon upload)
    (round : handleTransfers session upon = (.ok true, next)) :
    ∃ more, Within session fileSize transferSize next more ∧ 0 < transferSize.toNat ∧
      more.content.length = upload.content.length + transferSize.toNat := by
  obtain ⟨packet, device, hands, isMore, rfl⟩ := hands_of_goesOn within.running round
  have fits := within.length_le hands
  have length := length_collect upload packet
  rw [length_payload_of_more isMore, within.size] at length
  rw [within.size] at isMore
  have positive : 0 < transferSize.toNat := by
    refine Nat.pos_of_ne_zero fun zero => within.notOverflows (Overflows.here hands ?_)
    exact Or.inl ⟨isMore, Or.inl (UInt8.toNat_inj.mp zero)⟩
  refine ⟨_, ⟨rfl, within.size, fits, fun overflows => within.notOverflows ?_⟩, positive, length⟩
  refine Overflows.later hands isMore ?_
  rw [Nat.sub_sub, ← length]
  exact overflows

/-- The whole transfers that are left of the file of an upload in progress. -/
def roundsLeft (fileSize : Nat) (transferSize : UInt8) (upon : Upon Device) : Nat :=
  match upon.object.state with
  | .uploadInProgress upload => (fileSize - upload.content.length) / transferSize.toNat
  | _ => 0

theorem roundsLeft_of_running (running : upon.object.state = .uploadInProgress upload) :
    roundsLeft fileSize transferSize upon =
      (fileSize - upload.content.length) / transferSize.toNat := by
  rw [roundsLeft, running]

/-- An upload from a device that does not overflow returns in time. -/
theorem Within.returns (within : Within session fileSize transferSize upon upload) :
    ∃ final, FallibleLoop.run (handleTransfers session)
      (transferBound (fileSize - upload.content.length) transferSize) upon = some final := by
  have smaller : ∀ upon next, (∃ upload, Within session fileSize transferSize upon upload) →
      handleTransfers session upon = (.ok true, next) →
        (∃ upload, Within session fileSize transferSize next upload) ∧
          roundsLeft fileSize transferSize next < roundsLeft fileSize transferSize upon := by
    rintro upon next ⟨upload, within⟩ round
    obtain ⟨more, withinNext, positive, length⟩ := within.goesOn round
    have fits := withinNext.fits
    have step := @Nat.div_eq_sub_div transferSize.toNat (fileSize - upload.content.length)
      positive (by omega)
    rw [Nat.sub_sub, ← length] at step
    rw [roundsLeft_of_running within.running, roundsLeft_of_running withinNext.running, step]
    exact ⟨⟨more, withinNext⟩, Nat.lt_succ_self _⟩
  refine FallibleLoop.run_of_measure (roundsLeft fileSize transferSize) smaller ?_
    ⟨upload, within⟩
  rw [roundsLeft_of_running within.running]
  exact Nat.lt_succ_self _

/-- An upload from a device that does not overflow keeps within its file. -/
theorem Within.keepsWithin (within : Within session fileSize transferSize upon upload) :
    KeepsWithin session upon fileSize (fileSize - upload.content.length) transferSize := by
  refine ⟨within.returns, fun content collects => ?_⟩
  induction collects generalizing upload with
  | here running =>
    obtain rfl := FileState.uploadInProgress.inj (within.running.symm.trans running)
    exact within.fits
  | taken running hands =>
    obtain rfl := FileState.uploadInProgress.inj (within.running.symm.trans running)
    exact within.length_le hands
  | later round _ inductionHypothesis =>
    obtain ⟨more, withinNext, -, -⟩ := within.goesOn round
    exact inductionHypothesis withinNext

/-- A round of an upload that keeps within its file goes on only if it brings bytes and more rounds
are left. -/
theorem bound_of_goesOn {left : Nat} {next : Upon Device} {final : Except Error Unit × Upon Device}
    (round : handleTransfers session upon = (.ok true, next))
    (enough : transferSize.toNat ≤ left)
    (ended : FallibleLoop.run (handleTransfers session) (transferBound left transferSize) upon =
      some final) :
    0 < transferSize.toNat ∧ FallibleLoop.run (handleTransfers session)
      (transferBound (left - transferSize.toNat) transferSize) next = some final := by
  rw [transferBound, FallibleLoop.run_goesOn round] at ended
  rcases Nat.eq_zero_or_pos transferSize.toNat with zero | positive
  · rw [zero, Nat.div_zero] at ended
    cases ended
  · rw [Nat.div_eq_sub_div positive enough] at ended
    exact ⟨positive, ended⟩

/-- A device that overflows does not let the upload keep within its file. -/
theorem not_keepsWithin {number : UInt8} {left : Nat} {device : Device} {object : FileObject}
    (overflows : Overflows (transferRequest session object) transferSize number left device) :
    ∀ (upon : Upon Device) (upload : Upload), upon.device = device →
      upon.object = { object with state := .uploadInProgress upload } →
      upload.transferNumber = number → upload.transferSize = transferSize →
      upload.content.length + left = fileSize →
      ¬ KeepsWithin session upon fileSize left transferSize := by
  induction overflows with
  | @here number left device next packet hands exceeds =>
    rintro upon upload rfl same rfl rfl size ⟨⟨final, ended⟩, bounded⟩
    have running := congrArg FileObject.state same
    have handsHere : Hands (transferRequest session upon.object) upload.transferNumber upon.device
        packet next := by
      rw [same]
      exact hands
    have kept := bounded _ (Collects.taken running handsHere)
    rw [length_collect] at kept
    rcases exceeds with ⟨more, nothing | less⟩ | ⟨last, less⟩
    · -- a transfer that brings nothing is not among those that are counted
      have round := (handleTransfers_of_hands running handsHere).trans (takePacket_of_more more)
      have zero : upload.transferSize.toNat = 0 := congrArg UInt8.toNat nothing
      have positive := (bound_of_goesOn round (zero ▸ Nat.zero_le left) ended).1
      omega
    · rw [length_payload_of_more more] at kept
      omega
    · rw [payload_of_last _ last, List.length_take_of_le (Nat.sub_le _ _)] at kept
      omega
  | @later number left device next packet hands more _ inductionHypothesis =>
    rintro upon upload rfl same rfl rfl size ⟨⟨final, ended⟩, bounded⟩
    have running := congrArg FileObject.state same
    have handsHere : Hands (transferRequest session upon.object) upload.transferNumber upon.device
        packet next := by
      rw [same]
      exact hands
    have round := (handleTransfers_of_hands running handsHere).trans (takePacket_of_more more)
    have kept := bounded _ (Collects.taken running handsHere)
    have length := length_collect upload packet
    rw [length_payload_of_more more] at length
    have endedNext := (bound_of_goesOn round (by omega) ended).2
    refine inductionHypothesis _
      { collect upload packet with transferNumber := upload.transferNumber + 1 } rfl ?_ rfl rfl ?_
      ⟨⟨final, endedNext⟩, fun content collects => bounded content (Collects.later round collects)⟩
    · simp only [Upon.setState, same]
    · dsimp only
      omega

/-- An upload in progress keeps within its file exactly when the device does not overflow. -/
theorem keepsWithin_iff (running : upon.object.state = .uploadInProgress upload)
    (fits : upload.content.length ≤ fileSize) :
    KeepsWithin session upon fileSize (fileSize - upload.content.length) upload.transferSize ↔
      ¬ Overflows (transferRequest session upon.object) upload.transferSize upload.transferNumber
        (fileSize - upload.content.length) upon.device := by
  constructor
  · intro keeps overflows
    refine not_keepsWithin overflows upon upload rfl ?_ rfl rfl (Nat.add_sub_of_le fits) keeps
    rw [← running]
  · exact fun notOverflows => Within.keepsWithin ⟨running, rfl, fits, notOverflows⟩

end Bounds

/-! ### Whole uploads -/

/-- An upload terminates within its file: after at most as many transfers as the announced sizes
allow it returns, and what it collects is at no time more than the announced size. -/
def UploadKeepsWithin (session : Session Device) (object : FileObject) (device : Device)
    (channel : Nat) (fileSize : UInt32) (transferSize : UInt8) : Prop :=
  (∃ returned, FileObject.upload session (transferBound fileSize.toNat transferSize) channel object
      device = some returned) ∧
    ∀ content, Collects session (beginUpload session channel ⟨object, device, []⟩).2 content →
      content.length ≤ fileSize.toNat

section Whole

variable {object : FileObject} {device next : Device} {response : MessageRouterResponse}
  {fileSize : UInt32} {transferSize : UInt8}

/-- Once the device has announced a file, an upload returns when its transfers come to an end. -/
theorem upload_returns_iff {channel : Nat} {begun : Upon Device}
    (began : beginUpload session channel ⟨object, device, []⟩ = (.ok (), begun)) (transfers : Nat) :
    (∃ returned, FileObject.upload session transfers channel object device = some returned) ↔
      ∃ final, FallibleLoop.run (handleTransfers session) transfers begun = some final := by
  unfold FileObject.upload
  rw [began]
  dsimp only
  rw [← Option.isSome_iff_exists, ← Option.isSome_iff_exists, Option.isSome_map]

/-- How long an upload takes and what it collects. Whatever the device answers once it has
announced a file size and a transfer size, the upload returns after at most as many transfers as
these sizes allow and collects at no time more than the announced size, exactly when the device
does not overflow: when it never answers a transfer that all transfers before it led up to with a
packet that is more than what is left of the file. -/
theorem upload_keepsWithin_iff (loaded : object.state = .loaded)
    (answered : request session object .initiateUpload [maxTransferSize] device =
      (.ok response, next))
    (success : response.generalStatus = .success)
    (announced : decodeAnnouncement response.data = .ok (fileSize, transferSize)) (channel : Nat) :
    UploadKeepsWithin session object device channel fileSize transferSize ↔
      ¬ Overflows (fun number => request session object .uploadTransfer [number]) transferSize 0
        fileSize.toNat next := by
  have began := @beginUpload_of_announcement _ session ⟨object, device, []⟩ _ _ _ _ loaded answered
    success announced channel
  rw [UploadKeepsWithin, upload_returns_iff began, began]
  exact @keepsWithin_iff _ session _ ⟨fileSize, transferSize, 0, [], channel⟩ fileSize.toNat rfl
    (Nat.zero_le _)

end Whole

/-! ### A device that goes on forever -/

/-- The session to a device that announces five bytes in transfers of three and then answers every
transfer with a middle packet. -/
def endless : Session Unit where
  sessionHandle _ := 1
  sendAndReceive packet _ :=
    match requestIn packet with
    | .error refused => (.error refused, ())
    | .ok parts =>
      if parts.service = .initiateUpload then
        (.ok { packet with data := (replyWith parts.service [5, 0, 0, 0, 3]).payload }, ())
      else
        (.ok { packet with data :=
          (replyWith parts.service (parts.data ++ [1, 97, 98, 99])).payload }, ())

/-- Whatever the transfer, the device has a middle packet for it. -/
theorem endless_hands (object : FileObject) (number : UInt8) :
    Hands (transferRequest endless object) number () ⟨number, .middle, [97, 98, 99]⟩ () := by
  have short : [number].length ≤ 255 := Nat.le_add_left 1 254
  have small : ([number] ++ [1, 97, 98, 99]).length ≤ 65531 := Nat.le_add_left 5 65526
  have answers : Answers endless object .uploadTransfer [number] ()
      ([number] ++ [1, 97, 98, 99]) () := by
    refine answers_of_replied small ?_
    simp only [endless]
    rw [requestIn_requestPacket object _ short]
    exact if_neg (show ServiceCode.uploadTransfer ≠ .initiateUpload by decide)
  obtain ⟨response, answered, success, same⟩ := answers.answered
  refine ⟨response, answered, success, ?_⟩
  rw [same, decodeTransfer, ← putU8_eq, tryGetU8_putU8, ok_bind]
  rfl

/-- An upload of a file from this device is in progress. -/
def Endless (upon : Upon Unit) : Prop :=
  ∃ upload, upon.object.state = .uploadInProgress upload ∧ upload.transferSize = 3

/-- Each transfer brings three bytes, and the upload goes on. -/
theorem endless_goesOn {upon : Upon Unit} {upload : Upload}
    (running : upon.object.state = .uploadInProgress upload) (size : upload.transferSize = 3) :
    Collects endless upon (upload.content ++ [97, 98, 99]) ∧
      handleTransfers endless upon = (.ok true, upon.setState (.uploadInProgress
        { upload.extend [97, 98, 99] with transferNumber := upload.transferNumber + 1 })) := by
  have hands := endless_hands upon.object upload.transferNumber
  have more : IsMore upload.transferSize upload.transferNumber
      ⟨upload.transferNumber, .middle, [97, 98, 99]⟩ := by
    rw [size]
    exact ⟨rfl, Or.inr rfl, Nat.le_refl 3⟩
  have collected : collect upload ⟨upload.transferNumber, .middle, [97, 98, 99]⟩ =
      upload.extend [97, 98, 99] := by
    rw [collect, payload_of_more more, size]
    rfl
  have taken := Collects.taken running hands
  rw [collected] at taken
  refine ⟨taken, ?_⟩
  rw [handleTransfers_of_hands running hands, takePacket_of_more more, collected]

/-- An upload from this device never returns, and it collects more than the device announced. -/
theorem upload_endless :
    (∃ response, request endless sampleObject .initiateUpload [maxTransferSize] () =
        (.ok response, ()) ∧ response.generalStatus = .success ∧
        decodeAnnouncement response.data = .ok (5, 3)) ∧
      (∀ transfers, FileObject.upload endless transfers 0 sampleObject () = none) ∧
      ∃ content, Collects endless (beginUpload endless 0 ⟨sampleObject, (), []⟩).2 content ∧
        5 < content.length := by
  have announced : ∃ response, request endless sampleObject .initiateUpload [maxTransferSize] () =
      (.ok response, ()) ∧ response.generalStatus = .success ∧
        decodeAnnouncement response.data = .ok (5, 3) := ⟨_, rfl, rfl, rfl⟩
  refine ⟨announced, ?_⟩
  obtain ⟨response, answered, success, decoded⟩ := announced
  have began := @beginUpload_of_announcement _ endless ⟨sampleObject, (), []⟩ _ _ _ _ rfl answered
    success decoded 0
  have goesOn : ∀ upon, Endless upon → ∃ next, handleTransfers endless upon = (.ok true, next) ∧
      Endless next := by
    rintro upon ⟨upload, running, size⟩
    exact ⟨_, (endless_goesOn running size).2, _, rfl, size⟩
  refine ⟨fun transfers => ?_, ?_⟩
  · rw [← Option.not_isSome_iff_eq_none, Option.isSome_iff_exists, upload_returns_iff began,
      ← Option.isSome_iff_exists, Option.not_isSome_iff_eq_none]
    exact FallibleLoop.run_endless goesOn ⟨_, rfl, rfl⟩ transfers
  · rw [began]
    have first := (@endless_goesOn (({ (⟨sampleObject, (), []⟩ : Upon Unit) with
      device := () }).setState (.uploadInProgress ⟨5, 3, 0, [], 0⟩)) _ rfl rfl).2
    exact ⟨_, Collects.later first (endless_goesOn rfl rfl).1, by decide⟩

/-- The device that serves seven bytes in transfers of three. -/
theorem upload_keepsWithin_sample :
    UploadKeepsWithin (serving sampleFile) sampleObject 0 0 7 3 ↔
      ¬ Overflows (fun number => request (serving sampleFile) sampleObject .uploadTransfer
        [number]) 3 0 (7 : UInt32).toNat 0 :=
  upload_keepsWithin_iff rfl rfl rfl rfl 0

end FileObject

end EipScanner
