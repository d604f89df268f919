/-
This file says which packets make an upload succeed. They are read with some indulgence.
A first packet is not told from a middle one, and a last packet is not told from one that
is first and last. Of a packet that is not the last as many bytes are taken as a transfer
has, and what it has beyond these is dropped. Of the last packet all but the last two
bytes are taken, which is nothing where it has fewer.

Otherwise the packets are held to their order: they are numbered from zero on, around
after 255, the last one ends the upload, and together they have to have the announced
size. The grammar in which every packet has the type and the length that its place asks
for is a part of what is accepted.
-/

import EipScanner.FileBound

namespace EipScanner

namespace FileObject

/-! ### Sequences of packets -/

/-- The device answers the transfers of an upload from a number on with these packets. -/
inductive HandsAll {Device : Type}
    (ask : UInt8 → Device → Except Error MessageRouterResponse × Device) :
    UInt8 → Device → List TransferPacket → Prop where
  | done {number : UInt8} {device : Device} : HandsAll ask number device []
  | more {number : UInt8} {device next : Device} {packet : TransferPacket}
    {packets : List TransferPacket} :
    Hands ask number device packet next → HandsAll ask (number + 1) next packets →
      HandsAll ask number device (packet :: packets)

/-- The packets are numbered one after the other from a number on. -/
def Numbered (number : UInt8) (packets : List TransferPacket) : Prop :=
  ∀ index packet, packets[index]? = some packet →
    packet.receivedNumber = number + UInt8.ofNat index

/-- What is taken of the last packet: all but its checksum. -/
def lastPayload (packet : TransferPacket) : Bytes := packet.buf.take (packet.buf.length - 2)

/-- The packets that complete an upload of which some content is collected already, and the data
that it returns. -/
def Completes (fileSize : Nat) (transferSize number : UInt8) (content : Bytes)
    (packets : List TransferPacket) (data : Bytes) : Prop :=
  ∃ front final, packets = front ++ [final] ∧ Numbered number packets ∧
    (∀ packet ∈ front, (packet.packetType = .first ∨ packet.packetType = .middle) ∧
      transferSize.toNat ≤ packet.buf.length) ∧
    (final.packetType = .last ∨ final.packetType = .firstAndLast) ∧
    data = content ++ ((front.flatMap fun packet => packet.buf.take transferSize.toNat) ++
      lastPayload final) ∧
    data.length = fileSize

/-- The packets of an upload that returns the data. -/
def Accepted (fileSize : Nat) (transferSize : UInt8) (packets : List TransferPacket)
    (data : Bytes) : Prop :=
  Completes fileSize transferSize 0 [] packets data

/-- The packets as a device is meant to send them: a single packet that is first and last, or a
first packet, middle packets and a last one. Each but the last has as many bytes as a transfer has,
and the last one ends with a checksum of two bytes. -/
def Regular (fileSize : Nat) (transferSize : UInt8) (packets : List TransferPacket)
    (data : Bytes) : Prop :=
  ∃ front final payload checksum, packets = front ++ [final] ∧ Numbered 0 packets ∧
    (front = [] ∧ final.packetType = .firstAndLast ∨
      ∃ head middles, front = head :: middles ∧ head.packetType = .first ∧
        (∀ packet ∈ middles, packet.packetType = .middle) ∧ final.packetType = .last) ∧
    (∀ packet ∈ front, packet.buf.length = transferSize.toNat) ∧
    final.buf = payload ++ checksum ∧ checksum.length = 2 ∧
    data = front.flatMap TransferPacket.buf ++ payload ∧ data.length = fileSize

/-! ### One packet and the others -/

variable {fileSize : Nat} {transferSize number : UInt8} {content data : Bytes}
  {packet : TransferPacket} {packets : List TransferPacket}

theorem numbered_cons_iff :
    Numbered number (packet :: packets) ↔
      packet.receivedNumber = number ∧ Numbered (number + 1) packets := by
  have shift : ∀ index, number + UInt8.ofNat (index + 1) = number + 1 + UInt8.ofNat index := by
    intro index
    rw [UInt8.ofNat_add, UInt8.add_assoc, UInt8.add_comm (UInt8.ofNat index)]
    rfl
  constructor
  · intro numbered
    refine ⟨(numbered 0 packet rfl).trans (UInt8.add_zero _), fun index other there => ?_⟩
    rw [← shift]
    exact numbered (index + 1) other there
  · rintro ⟨here, others⟩ index other there
    cases index with
    | zero =>
      obtain rfl := Option.some.inj there
      exact here.trans (UInt8.add_zero _).symm
    | succ index =>
      rw [shift]
      exact others index other there

theorem not_completes_nil : ¬ Completes fileSize transferSize number content [] data := by
  rintro ⟨front, final, split, -⟩
  exact List.append_ne_nil_of_right_ne_nil front (List.cons_ne_nil final []) split.symm

/-- Packets that complete an upload begin with a last packet and end there, or with a packet that
is not the last and others that complete it from there. -/
theorem completes_cons_iff :
    Completes fileSize transferSize number content (packet :: packets) data ↔
      IsLast number packet ∧ packets = [] ∧ data = content ++ lastPayload packet ∧
          data.length = fileSize ∨
        IsMore transferSize number packet ∧
          Completes fileSize transferSize (number + 1)
            (content ++ packet.buf.take transferSize.toNat) packets data := by
  constructor
  · rintro ⟨front, final, split, numbered, fronts, isLast, rfl, size⟩
    obtain ⟨here, others⟩ := numbered_cons_iff.mp numbered
    cases front with
    | nil =>
      obtain ⟨rfl, rfl⟩ := List.cons.inj split
      exact Or.inl ⟨⟨here, isLast⟩, rfl, rfl, size⟩
    | cons first front =>
      obtain ⟨rfl, rfl⟩ := List.cons.inj split
      obtain ⟨⟨isMore, enough⟩, fronts⟩ := List.forall_mem_cons.mp fronts
      refine Or.inr ⟨⟨here, isMore, enough⟩, front, final, rfl, others, fronts, isLast, ?_, size⟩
      rw [List.flatMap_cons, List.append_assoc, List.append_assoc]
  · rintro (⟨⟨here, isLast⟩, rfl, rfl, size⟩ |
      ⟨⟨here, isMore, enough⟩, front, final, rfl, others, fronts, isLast, rfl, size⟩)
    · refine ⟨[], packet, rfl, numbered_cons_iff.mpr ⟨here, ?_⟩, List.forall_mem_nil _, isLast, rfl,
        size⟩
      intro index other there
      cases there
    · refine ⟨packet :: front, final, rfl, numbered_cons_iff.mpr ⟨here, others⟩,
        List.forall_mem_cons.mpr ⟨⟨isMore, enough⟩, fronts⟩, isLast, ?_, size⟩
      rw [List.flatMap_cons, List.append_assoc, List.append_assoc]

/-- Packets as a device is meant to send them are accepted. -/
theorem Regular.accepted (regular : Regular fileSize transferSize packets data) :
    Accepted fileSize transferSize packets data := by
  obtain ⟨front, final, payload, checksum, rfl, numbered, types, sizes, buf, length, rfl, size⟩ :=
    regular
  have isLast : final.packetType = .last ∨ final.packetType = .firstAndLast := by
    rcases types with ⟨-, single⟩ | ⟨head, middles, -, -, -, last⟩
    · exact Or.inr single
    · exact Or.inl last
  have fronts : ∀ packet ∈ front, packet.packetType = .first ∨ packet.packetType = .middle := by
    rcases types with ⟨rfl, -⟩ | ⟨head, middles, rfl, first, middle, -⟩
    · exact List.forall_mem_nil _
    · exact List.forall_mem_cons.mpr ⟨Or.inl first, fun packet member =>
        Or.inr (middle packet member)⟩
  have taken : lastPayload final = payload := by
    rw [lastPayload, buf, List.length_append, length, Nat.add_sub_cancel, List.take_left]
  have whole : (front.flatMap fun packet => packet.buf.take transferSize.toNat) =
      front.flatMap TransferPacket.buf := by
    refine List.flatMap_congr fun packet member => List.take_of_length_le ?_
    exact (sizes packet member).le
  refine ⟨front, final, rfl, numbered, fun packet member => ⟨fronts packet member,
    (sizes packet member).ge⟩, isLast, ?_, size⟩
  rw [whole, taken, List.nil_append]

/-! ### What an upload returns -/

variable {Device : Type} {session : Session Device} {upon : Upon Device} {upload : Upload}

/-- An upload in progress that nothing was sent for yet. -/
structure Open (upon : Upon Device) (upload : Upload) : Prop where
  running : upon.object.state = .uploadInProgress upload
  silent : upon.sent = []

/-- What is received of an upload that is ended: its content, if it is ended with success and has
the announced size where that is checked. -/
theorem received_finish_eq_ok_iff (opened : Open upon upload) {status : GeneralStatusCode}
    {checkSize : Bool} :
    received upload.handler (finish status checkSize upon) = .ok data ↔
      status = .success ∧ (checkSize = true → upload.content.length = upload.fileSize.toNat) ∧
        data = upload.content := by
  unfold finish
  rw [opened.running]
  dsimp only
  have first : ∀ (status : GeneralStatusCode) (data : Bytes),
      ((upon.setState .loaded).call upload.handler status data).sent.lookup upload.handler =
        some (status, data) := by
    intro status data
    simp only [Upon.call, Upon.setState, opened.silent, List.nil_append, List.lookup_cons_self]
  by_cases wrong : checkSize = true ∧ upload.content.length ≠ upload.fileSize.toNat
  · rw [if_pos wrong, received, first]
    dsimp only
    rw [if_neg (by decide)]
    refine iff_of_false (by simp) fun right => wrong.2 (right.2.1 wrong.1)
  have fits : checkSize = true → upload.content.length = upload.fileSize.toNat :=
    fun checked => not_not.mp fun differs => wrong ⟨checked, differs⟩
  rw [if_neg wrong]
  by_cases success : status = .success
  · rw [if_pos success, received, first]
    dsimp only
    rw [if_pos success]
    exact ⟨fun same => ⟨success, fits, (Except.ok.inj same).symm⟩,
      fun right => congrArg Except.ok right.2.2.symm⟩
  · rw [if_neg success, received, first]
    dsimp only
    rw [if_neg success]
    exact iff_of_false (by simp) fun right => success right.1

/-- A packet that ends an upload with data is its last, and completes it. -/
theorem last_of_takePacket {next : Upon Device} (opened : Open upon upload)
    (taken : takePacket upload packet upon = (.ok false, next))
    (got : received upload.handler next = .ok data) :
    IsLast upload.transferNumber packet ∧ data = upload.content ++ lastPayload packet ∧
      data.length = upload.fileSize.toNat := by
  unfold takePacket at taken
  by_cases number : packet.receivedNumber = upload.transferNumber
  · rw [if_neg (not_not.mpr number)] at taken
    split at taken
    · split at taken
      · cases taken
      · cases taken
    · split at taken
      next isLast =>
        rw [tryGetVec, if_neg (Nat.not_lt.mpr (Nat.sub_le _ _))] at taken
        obtain ⟨-, rfl⟩ := Prod.mk.inj taken
        have openedLast : Open (upon.setState (.uploadInProgress
            (upload.extend (lastPayload packet)))) (upload.extend (lastPayload packet)) :=
          ⟨rfl, opened.silent⟩
        obtain ⟨-, size, rfl⟩ := (received_finish_eq_ok_iff openedLast).mp got
        exact ⟨⟨number, isLast⟩, rfl, size rfl⟩
      · cases taken
  · rw [if_pos number] at taken
    obtain ⟨-, rfl⟩ := Prod.mk.inj taken
    have status := ((received_finish_eq_ok_iff opened).mp got).1
    exact absurd status (by decide)

/-- A transfer that ends an upload with data was answered with a last packet that completes it. -/
theorem hands_of_ended {next : Upon Device} (opened : Open upon upload)
    (round : handleTransfers session upon = (.ok false, next))
    (got : received upload.handler next = .ok data) :
    ∃ packet device,
      Hands (transferRequest session upon.object) upload.transferNumber upon.device packet device ∧
        IsLast upload.transferNumber packet ∧ data = upload.content ++ lastPayload packet ∧
        data.length = upload.fileSize.toNat := by
  unfold handleTransfers at round
  rw [opened.running] at round
  dsimp only at round
  generalize answered : request session upon.object .uploadTransfer [upload.transferNumber]
    upon.device = answer at round
  obtain ⟨refused | response, device⟩ := answer
  · cases round
  have openedNext : Open { upon with device } upload := ⟨opened.running, opened.silent⟩
  dsimp only at round
  by_cases success : response.generalStatus = .success
  · rw [if_neg (not_not.mpr success)] at round
    cases decoded : decodeTransfer response.data with
    | error refused =>
      rw [decoded] at round
      cases round
    | ok packet =>
      rw [decoded] at round
      exact ⟨packet, device, ⟨response, answered, success, decoded⟩,
        last_of_takePacket openedNext round got⟩
  · rw [if_pos success] at round
    obtain ⟨-, rfl⟩ := Prod.mk.inj round
    exact absurd ((received_finish_eq_ok_iff openedNext).mp got).1 success

/-- The transfers of an upload come to an end with data. -/
def Returns (session : Session Device) (upon : Upon Device) (upload : Upload) (data : Bytes) :
    Prop :=
  ∃ transfers final, FallibleLoop.run (handleTransfers session) transfers upon = some final ∧
    final.1 = .ok () ∧ received upload.handler final.2 = .ok data

/-- Packets that complete an upload make it return their data. -/
theorem returns_of_completes {object : FileObject} {device : Device}
    (handsAll : HandsAll (transferRequest session object) number device packets) :
    ∀ (upon : Upon Device) (upload : Upload), Open upon upload → upon.device = device →
      upon.object = { object with state := .uploadInProgress upload } →
      upload.transferNumber = number →
      Completes upload.fileSize.toNat upload.transferSize number upload.content packets data →
      Returns session upon upload data := by
  induction handsAll with
  | done =>
    intro upon upload _ _ _ _ completes
    exact absurd completes not_completes_nil
  | @more number device next packet packets hands _ inductionHypothesis =>
    rintro upon upload opened rfl same rfl completes
    have handsHere : Hands (transferRequest session upon.object) upload.transferNumber upon.device
        packet next := by
      rw [same]
      exact hands
    have takes := handleTransfers_of_hands opened.running handsHere
    rcases completes_cons_iff.mp completes with ⟨isLast, -, rfl, size⟩ | ⟨isMore, others⟩
    · rw [takePacket_of_last isLast, collect, payload_of_last _ isLast] at takes
      have openedLast : Open (({ upon with device := next }).setState
          (.uploadInProgress (upload.extend (lastPayload packet))))
          (upload.extend (lastPayload packet)) := ⟨rfl, opened.silent⟩
      exact ⟨1, _, FallibleLoop.run_stops takes (by simp) 0, rfl,
        (received_finish_eq_ok_iff openedLast).mpr ⟨rfl, fun _ => size, rfl⟩⟩
    · rw [takePacket_of_more isMore, collect, payload_of_more isMore] at takes
      obtain ⟨transfers, final, ended, outcome, got⟩ := inductionHypothesis
        (({ upon with device := next }).setState (.uploadInProgress
          { upload.extend (packet.buf.take upload.transferSize.toNat) with
            transferNumber := upload.transferNumber + 1 }))
        { upload.extend (packet.buf.take upload.transferSize.toNat) with
          transferNumber := upload.transferNumber + 1 }
        ⟨rfl, opened.silent⟩ rfl (by simp only [Upon.setState, same]) rfl others
      exact ⟨transfers + 1, final, (FallibleLoop.run_goesOn takes transfers).trans ended, outcome,
        got⟩

/-- An upload that returns data was completed by the packets that the device handed out. -/
theorem completes_of_returns (opened : Open upon upload)
    (returns : Returns session upon upload data) :
    ∃ packets, HandsAll (transferRequest session upon.object) upload.transferNumber upon.device
        packets ∧
      Completes upload.fileSize.toNat upload.transferSize upload.transferNumber upload.content
        packets data := by
  obtain ⟨transfers, final, ended, outcome, got⟩ := returns
  let Holds (upon : Upon Device) (final : Except Error Unit × Upon Device) : Prop :=
    ∀ upload, Open upon upload → final.1 = .ok () → received upload.handler final.2 = .ok data →
      ∃ packets, HandsAll (transferRequest session upon.object) upload.transferNumber upon.device
          packets ∧
        Completes upload.fileSize.toNat upload.transferSize upload.transferNumber upload.content
          packets data
  have goesOn : ∀ upon next final, handleTransfers session upon = (.ok true, next) →
      Holds next final → Holds upon final := by
    intro upon next final round inductionHypothesis upload opened outcome got
    obtain ⟨packet, device, hands, isMore, rfl⟩ := hands_of_goesOn opened.running round
    obtain ⟨packets, handsAll, completes⟩ := inductionHypothesis
      { collect upload packet with transferNumber := upload.transferNumber + 1 }
      ⟨rfl, opened.silent⟩ outcome got
    refine ⟨packet :: packets, HandsAll.more hands handsAll,
      completes_cons_iff.mpr (Or.inr ⟨isMore, ?_⟩)⟩
    rw [← payload_of_more isMore]
    exact completes
  have stops : ∀ upon next outcome, handleTransfers session upon = (outcome, next) →
      outcome ≠ .ok true → Holds upon (outcome.map fun _ => (), next) := by
    intro upon next outcome round not upload opened ok got
    rcases outcome with refused | _ | _
    · cases ok
    · obtain ⟨packet, device, hands, isLast, rest⟩ := hands_of_ended opened round got
      exact ⟨[packet], HandsAll.more hands HandsAll.done,
        completes_cons_iff.mpr (Or.inl ⟨isLast, rfl, rest⟩)⟩
    · exact absurd rfl not
  have rule : Holds upon final :=
    @FallibleLoop.run_induction _ _ _ Holds stops goesOn _ _ _ ended
  exact rule upload opened outcome got

section Whole

variable {object : FileObject} {device next : Device} {response : MessageRouterResponse}
  {announcedSize : UInt32} {channel : Nat}

/-- An upload of a file that was announced returns data when its transfers come to an end with
it. -/
theorem upload_ok_iff {begun : Upon Device}
    (began : beginUpload session channel ⟨object, device, []⟩ = (.ok (), begun)) :
    (∃ transfers after, FileObject.upload session transfers channel object device =
        some (.ok data, after)) ↔
      ∃ transfers final, FallibleLoop.run (handleTransfers session) transfers begun = some final ∧
        final.1 = .ok () ∧ received channel final.2 = .ok data := by
  unfold FileObject.upload
  rw [began]
  simp only [Option.map_eq_some_iff]
  constructor
  · rintro ⟨transfers, after, ⟨outcome, last⟩, ended, same⟩
    cases outcome with
    | error refused => cases (Prod.mk.inj same).1
    | ok done => exact ⟨transfers, _, ended, rfl, (Prod.mk.inj same).1⟩
  · rintro ⟨transfers, ⟨outcome, last⟩, ended, ok, got⟩
    dsimp only at ok
    subst ok
    exact ⟨transfers, last, _, ended, Prod.ext got rfl⟩

/-- What an upload accepts. Once the device has announced a file, the upload returns data exactly
when the packets that the device hands out are accepted and have these data: first or middle
packets, then one that is last or first and last, numbered from zero on around after 255, each but
the last at least as long as a transfer, and the payloads as long together as was announced. Packets
as a device is meant to send them are accepted with their data. -/
theorem upload_returns_exactly (loaded : object.state = .loaded)
    (answered : request session object .initiateUpload [maxTransferSize] device =
      (.ok response, next))
    (success : response.generalStatus = .success)
    (announced : decodeAnnouncement response.data = .ok (announcedSize, transferSize))
    (channel : Nat) (data : Bytes) :
    ((∃ transfers after, FileObject.upload session transfers channel object device =
        some (.ok data, after)) ↔
      ∃ packets, HandsAll (fun number => request session object .uploadTransfer [number]) 0 next
          packets ∧
        Accepted announcedSize.toNat transferSize packets data) ∧
      ∀ packets, Regular announcedSize.toNat transferSize packets data →
        Accepted announcedSize.toNat transferSize packets data := by
  have began := @beginUpload_of_announcement _ session ⟨object, device, []⟩ _ _ _ _ loaded answered
    success announced channel
  refine ⟨?_, fun packets => Regular.accepted⟩
  rw [upload_ok_iff began]
  constructor
  · exact @completes_of_returns _ _ session _ ⟨announcedSize, transferSize, 0, [], channel⟩
      ⟨rfl, rfl⟩
  · rintro ⟨packets, handsAll, completes⟩
    exact returns_of_completes handsAll _ ⟨announcedSize, transferSize, 0, [], channel⟩
      ⟨rfl, rfl⟩ rfl rfl rfl completes

end Whole

/-! ### Irregular packets -/

/-- The session to a device that announces a file and then hands out the packets of its state. -/
def handing (announcement : Bytes) : Session (List TransferPacket) where
  sessionHandle _ := 1
  sendAndReceive packet packets :=
    match requestIn packet, packets with
    | .error refused, _ => (.error refused, packets)
    | .ok parts, packets =>
      if parts.service = .initiateUpload then
        (.ok { packet with data := (replyWith parts.service announcement).payload }, packets)
      else
        match packets with
        | [] => (.error .io, [])
        | next :: packets =>
          (.ok { packet with data := (replyWith parts.service
            ([next.receivedNumber, next.packetType.code] ++ next.buf)).payload }, packets)

/-- A file of two bytes in a last packet that no first packet came before. -/
def lastOnly : List TransferPacket := [⟨0, .last, [97, 98, 0, 0]⟩]

/-- A file of three bytes in a middle packet with a byte too many, and a last packet with nothing,
not even a checksum. -/
def surplus : List TransferPacket := [⟨0, .middle, [97, 98, 99, 100]⟩, ⟨1, .firstAndLast, []⟩]

theorem not_regular_lastOnly (data : Bytes) : ¬ Regular 2 3 lastOnly data := by
  rintro ⟨front, final, payload, checksum, split, -, types, -⟩
  cases front with
  | nil =>
    obtain ⟨rfl, -⟩ := List.cons.inj split
    rcases types with ⟨-, single⟩ | ⟨head, middles, isFront, -⟩
    · exact absurd single (by decide)
    · cases isFront
  | cons head others =>
    have none := (List.cons.inj split).2
    exact List.append_ne_nil_of_right_ne_nil others (List.cons_ne_nil final []) none.symm

theorem not_regular_surplus (data : Bytes) : ¬ Regular 3 3 surplus data := by
  rintro ⟨front, final, payload, checksum, split, -, -, sizes, -⟩
  cases front with
  | nil => cases (List.cons.inj split).2
  | cons head others =>
    obtain ⟨rfl, -⟩ := List.cons.inj split
    exact absurd (sizes _ List.mem_cons_self) (by decide)

/-- Packets that no device is meant to send, from which an upload returns a file. -/
theorem upload_returns_irregular :
    ((∃ transfers after, FileObject.upload (handing [2, 0, 0, 0, 3]) transfers 0 sampleObject
          lastOnly = some (.ok [97, 98], after)) ∧
        HandsAll (fun number => request (handing [2, 0, 0, 0, 3]) sampleObject .uploadTransfer
          [number]) 0 lastOnly lastOnly ∧
        ¬ Regular 2 3 lastOnly [97, 98]) ∧
      (∃ transfers after, FileObject.upload (handing [3, 0, 0, 0, 3]) transfers 0 sampleObject
          surplus = some (.ok [97, 98, 99], after)) ∧
        HandsAll (fun number => request (handing [3, 0, 0, 0, 3]) sampleObject .uploadTransfer
          [number]) 0 surplus surplus ∧
        ¬ Regular 3 3 surplus [97, 98, 99] := by
  refine ⟨⟨⟨1, _, rfl⟩, ?_, not_regular_lastOnly _⟩, ⟨2, _, rfl⟩, ?_, not_regular_surplus _⟩
  · exact HandsAll.more ⟨_, rfl, rfl, rfl⟩ HandsAll.done
  · exact HandsAll.more ⟨_, rfl, rfl, rfl⟩ (HandsAll.more ⟨_, rfl, rfl, rfl⟩ HandsAll.done)

/-- The file of two bytes. -/
theorem upload_returns_lastOnly :
    ((∃ transfers after, FileObject.upload (handing [2, 0, 0, 0, 3]) transfers 0 sampleObject
        lastOnly = some (.ok [97, 98], after)) ↔
      ∃ packets, HandsAll (fun number => request (handing [2, 0, 0, 0, 3]) sampleObject
          .uploadTransfer [number]) 0 lastOnly packets ∧
        Accepted (2 : UInt32).toNat 3 packets [97, 98]) ∧
      ∀ packets, Regular (2 : UInt32).toNat 3 packets [97, 98] →
        Accepted (2 : UInt32).toNat 3 packets [97, 98] :=
  upload_returns_exactly rfl rfl rfl rfl 0 [97, 98]

end FileObject

end EipScanner
