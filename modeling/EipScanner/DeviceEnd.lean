/-
This file follows the settings of a connection from the EDS of a device to the packets. The scanner
converts an entry of the EDS to its own settings, asks for a connection with them, and runs it with
what the reply grants. The device knows the formats of its data from the same EDS, and reads the
rest in the request. What is lost or changed on the way would leave the two ends with different
settings, and then neither reads what the other sends.

Nothing is, as long as the device can read the request at all: the request asks for options that
the entry offers, for its default intervals and for the sizes that fit, and each end reads every
packet of the other one unchanged.
-/

import EipScanner.EdsSettings
import EipScanner.Target
import EipScanner.VisibleOutput

namespace EipScanner

open IoConnection (headersLength Mirrors)
open EdsConnection (chosenRpi DefaultWithin OffersRpi Offers RpiWithin classPlace priorityPlace
  sizePlace triggerPlace typePlace)

/-! ### The two ends -/

/-- Whether the data of a direction have a run/idle header, by the format that the EDS gives. -/
def EdsConnection.hasHeader (connection : EdsConnection) (shift : UInt32) : Bool :=
  (connection.connectionParams >>> (8 + shift)) &&& 0x7 == formatHeader

/-- The priority of a direction: the first of scheduled and high that the EDS offers, else low. -/
def EdsConnection.priority (connection : EdsConnection) (shift : UInt32) : Priority :=
  if EdsConnection.bit connection.connectionParams (26 + shift) then .scheduled
  else if EdsConnection.bit connection.connectionParams (25 + shift) then .high
  else .low

/-- The kind of size of a direction: fixed if the EDS offers it. -/
def EdsConnection.sizeType (connection : EdsConnection) (fixedBit : UInt32) : SizeType :=
  if EdsConnection.bit connection.connectionParams fixedBit then .fixed else .variable

/-- The data size that a device reads in the parameters of a direction: the size on the wire, less
the headers. -/
def ForwardOpenRequest.dataSize (request : ForwardOpenRequest) (params : NetworkParams)
    (header : Bool) : Nat :=
  params.size.toNat - headersLength request.transport.transportClass.hasSequenceCount header

/-- The settings of the device's end. It sends what the scanner receives. -/
def EdsConnection.deviceConfig (connection : EdsConnection) (request : ForwardOpenRequest)
    (reply : ForwardOpenResponse) (scanner : SocketAddrV4) : IoConnectionConfig where
  o2tId := reply.t2oNetworkConnectionId
  t2oId := reply.o2tNetworkConnectionId
  serialNumber := request.connectionSerialNumber
  o2tApi := fromMicros reply.t2oApi.toNat
  timeout := fromMicros (reply.o2tApi.toNat * (4 <<< request.connectionTimeoutMultiplier.toNat))
  o2tSize := request.dataSize request.t2oParams (connection.hasHeader 4)
  t2oSize := request.dataSize request.o2tParams (connection.hasHeader 0)
  o2tFixed := decide (request.t2oParams.sizeType = .fixed)
  t2oFixed := decide (request.o2tParams.sizeType = .fixed)
  hasSequenceCount := request.transport.transportClass.hasSequenceCount
  o2tRealTimeFormat := connection.hasHeader 4
  t2oRealTimeFormat := connection.hasHeader 0
  destination := scanner
  peerIp := scanner.ip

/-- A direction of a request asks for what an entry says. The connection type is one that the entry
offers, point-to-point where that is one of them; the priority and the kind of size are offered
wherever any is. The interval is the default, and within the limits wherever the entry offers an
interval that is. The data size is the size of the entry, if that fits in a request. -/
structure EdsConnection.DirectionAskedBy (connection : EdsConnection)
    (request : ForwardOpenRequest) (direction : EdsDirection) (shift fixedBit : UInt32)
    (rpi : UInt32) (params : NetworkParams) : Prop where
  connectionType : EdsConnection.bit connection.connectionParams
    (typePlace params.connectionType + shift) = true
  pointToPoint : EdsConnection.bit connection.connectionParams (18 + shift) = true →
    params.connectionType = .pointToPoint
  priority : Offers connection.connectionParams [24 + shift, 25 + shift, 26 + shift] →
    EdsConnection.bit connection.connectionParams (priorityPlace params.priority + shift) = true
  sizeType : Offers connection.connectionParams [fixedBit, 1 + fixedBit] →
    EdsConnection.bit connection.connectionParams (sizePlace params.sizeType + fixedBit) = true
  default : ∀ limits ∈ direction.rpi, ∀ interval ∈ limits.default, rpi = interval
  within : DefaultWithin direction.rpi → OffersRpi direction.rpi →
    RpiWithin direction.rpi (rpi.toNat * 1000)
  size : direction.size < 2 ^ 16 →
    request.dataSize params (connection.hasHeader shift) = direction.size

/-- The request asks for what an entry says: its path, a transport class that it offers, a trigger
that it offers if there is one, and its directions. -/
structure EdsConnection.AskedBy (connection : EdsConnection) (request : ForwardOpenRequest) :
    Prop where
  path : request.path = connection.path.bytes
  transportClass : EdsConnection.bit connection.triggerTransport
    (classPlace request.transport.transportClass) = true
  trigger : Offers connection.triggerTransport [16, 17, 18] →
    EdsConnection.bit connection.triggerTransport (triggerPlace request.transport.trigger) = true
  o2t : connection.DirectionAskedBy request connection.o2t 0 0 request.o2tRpi request.o2tParams
  t2o : connection.DirectionAskedBy request connection.t2o 4 2 request.t2oRpi request.t2oParams

/-- One end reads whatever the other end sends: the output unchanged, with its number and, if there
is a header, its run bit. -/
def Understands (sender receiver : IoConnectionConfig) : Prop :=
  ∀ number run output, (sender.o2tFixed = true → output.length = sender.o2tSize) →
    (connectedData (sender.datagram number run output)).length ≤ 65535 →
      ∃ packet, decodeConnectedPacket (sender.datagram number run output) = .ok packet ∧
        packet.connectionId = receiver.t2oId ∧
        receiver.inputOf packet = some {
          sequenceNumber := UInt32.ofNat number
          sequenceCount := if receiver.hasSequenceCount then UInt16.ofNat number else 0
          runIdleHeader := if receiver.t2oRealTimeFormat then run.toUInt32 else 0
          data := output }

theorem understands_of_mirrors {sender receiver : IoConnectionConfig}
    (mirrors : Mirrors sender receiver) (sameId : receiver.t2oId = sender.o2tId) :
    Understands sender receiver := by
  intro number run output fixed fits
  obtain ⟨packet, decoded, id, input⟩ := inputOf_datagram mirrors number run fixed fits
  refine ⟨packet, decoded, id.trans sameId.symm, ?_⟩
  rw [input, mirrors.sequenceCount, mirrors.realTimeFormat]

/-! ### What the device reads -/

/-- A request that is read to its end has the settings that it was sent with, if its form has room
for the sizes. -/
structure ForwardOpenRequest.SameSettings (read request : ForwardOpenRequest) : Prop where
  path : read.path = request.path
  o2tRpi : read.o2tRpi = request.o2tRpi
  t2oRpi : read.t2oRpi = request.t2oRpi
  o2tParams : read.o2tParams = request.o2tParams
  t2oParams : read.t2oParams = request.t2oParams
  transport : read.transport = request.transport

theorem sameSettings_of_read {request read : ForwardOpenRequest} {large : Bool}
    (ended : ForwardOpenRequest.readBody large (request.encode large) = some (read, []))
    (fits : large = true ∨
      request.o2tParams.size ≤ maxSmallSize ∧ request.t2oParams.size ≤ maxSmallSize) :
    read.SameSettings request := by
  have stands := request.take_drop_encode large
  have path := (readBody_to_end ended).2.1
  simp only [ForwardOpenRequest.readBody, Option.ite_none_left_eq_some, Option.some.injEq,
    Prod.mk.injEq] at ended
  obtain ⟨-, rfl, -⟩ := ended
  exact {
    path
    o2tRpi := ofNat_fieldAt_u32 (stands 9 22 rfl rfl)
    t2oRpi := ofNat_fieldAt_u32 (stands 11 _ rfl (request.length_before_t2oRpi large))
    o2tParams := request.readParams_o2t large (fits.imp_right And.left)
    t2oParams := request.readParams_t2o large (fits.imp_right And.right)
    transport := by
      dsimp only
      rw [ofNat_fieldAt_u8 (stands 13 _ rfl (request.length_before_transport large)),
        TransportTrigger.decode_encode] }

/-- The size of a direction in the request is its size on the wire. -/
theorem size_networkParams (direction : Direction) {wire : Nat} (fits : wire ≤ 65535) :
    (networkParams direction wire).size.toNat = wire :=
  UInt16.toNat_ofNat_of_lt' (Nat.lt_succ_of_le fits)

/-- The form that is chosen for settings has room for their sizes. -/
theorem params_fit {config : ConnectionConfig} (accepted : config.Accepted) :
    config.large = true ∨
      (networkParams config.o2t (config.wireSize config.o2t)).size ≤ maxSmallSize ∧
        (networkParams config.t2o (config.wireSize config.t2o)).size ≤ maxSmallSize := by
  have form : config.large = true ∨
      max (config.wireSize config.o2t) (config.wireSize config.t2o) ≤ maxSmallSize.toNat := by
    rw [ConnectionConfig.large, decide_eq_true_iff, gt_iff_lt]
    exact Nat.lt_or_ge _ _
  rw [UInt16.le_iff_toNat_le, UInt16.le_iff_toNat_le, size_networkParams _ accepted.o2tWire,
    size_networkParams _ accepted.t2oWire]
  exact form.imp_right fun small =>
    ⟨(Nat.le_max_left _ _).trans small, (Nat.le_max_right _ _).trans small⟩

/-- A packet interval of an EDS is asked for as it is. -/
theorem micros_chosenRpi (rpi : Option EdsRpi) : micros ((chosenRpi rpi).toNat * 1000) =
    chosenRpi rpi := by
  have bound := UInt32.toNat_lt (chosenRpi rpi)
  rw [micros, Nat.mul_div_cancel _ (by decide), Nat.min_eq_left (by omega), UInt32.ofNat_toNat]

section
variable {connection : EdsConnection} {config : ConnectionConfig} {counters after : IdCounters}
  {sent : RouterRequest} {request : ForwardOpenRequest}

/-- What the entry gives for a direction of the settings that are made of it. -/
structure EdsConnection.MakesDirection (connection : EdsConnection) (entry : EdsDirection)
    (shift fixedBit : UInt32) (name : String) (made : Direction) : Prop where
  connectionType : connection.connectionType shift name = .ok made.connectionType
  priority : made.priority = connection.priority shift
  sizeType : made.sizeType = connection.sizeType fixedBit
  rpi : made.rpi = (chosenRpi entry.rpi).toNat * 1000
  size : made.size.toNat = entry.size % 2 ^ 16
  header : made.runIdleHeader = connection.hasHeader shift

/-- What the entry gives for the settings that are made of it. -/
structure EdsConnection.Makes (connection : EdsConnection) (config : ConnectionConfig) : Prop where
  path : config.encodedPath = connection.path.bytes
  transportClass : connection.transportClass = .ok config.transportClass
  trigger : config.trigger = connection.trigger
  o2t : connection.MakesDirection connection.o2t 0 0 "O->T" config.o2t
  t2o : connection.MakesDirection connection.t2o 4 2 "T->O" config.t2o

theorem makesDirection_of_converted {shift fixedBit : UInt32} {entry : EdsDirection}
    {name : String} {made : Direction}
    (converted : connection.configDirection shift fixedBit entry name = .ok made) :
    connection.MakesDirection entry shift fixedBit name made := by
  obtain ⟨connectionType, has, rfl⟩ := EdsConnection.configDirection_eq_ok_iff.mp converted
  exact {
    connectionType := has
    priority := rfl
    sizeType := rfl
    rpi := rfl
    size := UInt16.toNat_ofNat'
    header := rfl }

theorem makes_of_converted (converted : connection.toConnectionConfig = .ok config) :
    connection.Makes config := by
  obtain ⟨transportClass, o2t, t2o, hasClass, madeO2t, madeT2o, rfl⟩ :=
    EdsConnection.toConnectionConfig_eq_ok_iff.mp converted
  exact {
    path := rfl
    transportClass := hasClass
    trigger := rfl
    o2t := makesDirection_of_converted madeO2t
    t2o := makesDirection_of_converted madeT2o }

/-- What the device reads is what the settings ask for. -/
theorem sameSettings_of_prepared (prepared : prepareOpen counters config = .ok (sent, after))
    (read : ForwardOpenRequest.readBody sent.large sent.body = some (request, [])) :
    config.Accepted ∧ request.SameSettings (forwardOpenRequest counters config).1 := by
  obtain ⟨accepted, rfl, -⟩ := prepareOpen_ok_iff.mp prepared
  rw [large_routerRequest] at read
  exact ⟨accepted, sameSettings_of_read read (params_fit accepted)⟩

/-- The size behind the headers is the data size that was asked for. -/
theorem dataSize_of_same (accepted : config.Accepted)
    (same : request.SameSettings (forwardOpenRequest counters config).1) :
    request.dataSize request.o2tParams config.o2t.runIdleHeader = config.o2t.size.toNat ∧
      request.dataSize request.t2oParams config.t2o.runIdleHeader = config.t2o.size.toNat := by
  have transport : request.transport.transportClass = config.transportClass :=
    congrArg TransportTrigger.transportClass same.transport
  have o2t : request.o2tParams = networkParams config.o2t (config.wireSize config.o2t) :=
    same.o2tParams
  have t2o : request.t2oParams = networkParams config.t2o (config.wireSize config.t2o) :=
    same.t2oParams
  constructor
  · rw [ForwardOpenRequest.dataSize, o2t, size_networkParams _ accepted.o2tWire, wireSize_eq,
      transport, Nat.add_sub_cancel_left]
  · rw [ForwardOpenRequest.dataSize, t2o, size_networkParams _ accepted.t2oWire, wireSize_eq,
      transport, Nat.add_sub_cancel_left]

theorem directionAskedBy_of_makes {entry : EdsDirection} {shift fixedBit : UInt32}
    {name : String} {made : Direction} {wire : Nat}
    (makes : connection.MakesDirection entry shift fixedBit name made)
    (size : request.dataSize (networkParams made wire) made.runIdleHeader = made.size.toNat) :
    connection.DirectionAskedBy request entry shift fixedBit (micros made.rpi)
      (networkParams made wire) := by
  have interval : micros made.rpi = chosenRpi entry.rpi := by rw [makes.rpi, micros_chosenRpi]
  obtain ⟨offered, preferred⟩ := EdsConnection.connectionType_advertised makes.connectionType
  refine ⟨offered, preferred, ?_, ?_, ?_, ?_, ?_⟩
  · intro some
    rw [networkParams, makes.priority]
    exact EdsConnection.priority_advertised_iff.mpr some
  · intro some
    rw [networkParams, makes.sizeType]
    exact EdsConnection.sizeType_advertised_iff.mpr some
  · rintro limits isLimits default isDefault
    rw [interval, chosenRpi, isLimits, Option.bind_some, isDefault]
    rfl
  · intro defaultWithin offers
    rw [interval]
    exact (EdsConnection.rpiWithin_iff defaultWithin).mpr offers
  · intro fits
    rw [← makes.header, size, makes.size, Nat.mod_eq_of_lt fits]

theorem askedBy_of_same (makes : connection.Makes config) (accepted : config.Accepted)
    (same : request.SameSettings (forwardOpenRequest counters config).1) :
    connection.AskedBy request := by
  obtain ⟨o2tSize, t2oSize⟩ := dataSize_of_same accepted same
  have o2t := same.o2tParams
  have t2o := same.t2oParams
  rw [o2t] at o2tSize
  rw [t2o] at t2oSize
  exact {
    path := same.path.trans makes.path
    transportClass := by
      rw [same.transport]
      exact EdsConnection.transportClass_advertised makes.transportClass
    trigger := by
      intro some
      rw [same.transport, forwardOpenRequest, makes.trigger]
      exact EdsConnection.trigger_advertised_iff.mpr some
    o2t := by
      rw [same.o2tRpi, o2t]
      exact directionAskedBy_of_makes makes.o2t o2tSize
    t2o := by
      rw [same.t2oRpi, t2o]
      exact directionAskedBy_of_makes makes.t2o t2oSize }

/-- The settings of the two ends mirror each other. -/
theorem mirrors_of_same (makes : connection.Makes config) (accepted : config.Accepted)
    (same : request.SameSettings (forwardOpenRequest counters config).1)
    (reply : ForwardOpenResponse) (scanner destination : SocketAddrV4) (peerIp : Ipv4Addr) :
    Mirrors (ioConnectionConfig config reply destination peerIp)
        (connection.deviceConfig request reply scanner) ∧
      Mirrors (connection.deviceConfig request reply scanner)
        (ioConnectionConfig config reply destination peerIp) := by
  obtain ⟨o2tSize, t2oSize⟩ := dataSize_of_same accepted same
  rw [makes.o2t.header] at o2tSize
  rw [makes.t2o.header] at t2oSize
  have count : request.transport.transportClass.hasSequenceCount =
      config.transportClass.hasSequenceCount := by
    rw [same.transport]
    rfl
  have o2tKind : request.o2tParams.sizeType = config.o2t.sizeType := by
    rw [same.o2tParams]
    rfl
  have t2oKind : request.t2oParams.sizeType = config.t2o.sizeType := by
    rw [same.t2oParams]
    rfl
  refine ⟨⟨count, makes.o2t.header.symm, o2tSize, ?_⟩,
    ⟨count.symm, makes.t2o.header, t2oSize.symm, ?_⟩⟩
  · exact congrArg (fun kind => decide (kind = SizeType.fixed)) o2tKind
  · exact congrArg (fun kind => decide (kind = SizeType.fixed)) t2oKind.symm

end

/-- An entry of an EDS is carried to the packets. Whatever entry is converted, and whatever the
device grants: if the device can read the request, it reads what the entry asks for; and the two
ends that then run, the scanner's with its settings and the device's with the formats of its EDS
and what it has read, understand each other in both directions. -/
theorem entry_carried {connection : EdsConnection} {config : ConnectionConfig}
    {counters after : IdCounters} {sent : RouterRequest} {request : ForwardOpenRequest}
    {response : MessageRouterResponse} {reply : ForwardOpenResponse} {peerIp : Ipv4Addr}
    {opened : OpenedConnection}
    (converted : connection.toConnectionConfig = .ok config)
    (prepared : prepareOpen counters config = .ok (sent, after))
    (read : ForwardOpenRequest.readBody sent.large sent.body = some (request, []))
    (granted : ForwardOpenResponse.decode response.data = .ok reply)
    (completed : completeOpen config response peerIp = .ok opened) (scanner : SocketAddrV4) :
    connection.AskedBy request ∧
      Understands opened.ioConfig (connection.deviceConfig request reply scanner) ∧
      Understands (connection.deviceConfig request reply scanner) opened.ioConfig := by
  have makes := makes_of_converted converted
  obtain ⟨accepted, same⟩ := sameSettings_of_prepared prepared read
  obtain ⟨decoded, sockaddr, again, settings, -⟩ := completeOpen_eq_ok completed
  obtain rfl := Except.ok.inj (granted.symm.trans again)
  obtain ⟨there, back⟩ := mirrors_of_same makes accepted same reply scanner
    (o2tDestination sockaddr peerIp) peerIp
  rw [settings]
  exact ⟨askedBy_of_same makes accepted same, understands_of_mirrors there rfl,
    understands_of_mirrors back rfl⟩

/-- An entry with a default interval of 10 ms both ways. -/
def EdsConnection.steadyConnection : EdsConnection :=
  { fastConnection with
    o2t := ⟨some ⟨some 1000, some 50000, some 10000⟩, 4, none⟩
    t2o := ⟨some ⟨some 1000, some 50000, some 10000⟩, 4, none⟩ }

/-- Its device grants what is asked for. -/
theorem entry_carried_steady :
    ∃ config sent after request opened,
      EdsConnection.steadyConnection.toConnectionConfig = .ok config ∧
      prepareOpen ⟨0, 0⟩ config = .ok (sent, after) ∧
      completeOpen config grantedResponse ⟨7⟩ = .ok opened ∧
      request.path = [0x20, 0x04] ∧ request.o2tRpi = 10000 ∧ request.t2oRpi = 10000 ∧
      request.dataSize request.o2tParams true = 4 ∧
      EdsConnection.steadyConnection.AskedBy request ∧
      Understands opened.ioConfig
        (EdsConnection.steadyConnection.deviceConfig request grantedReply ⟨⟨8⟩, 2222⟩) := by
  have carried := @entry_carried EdsConnection.steadyConnection _ ⟨0, 0⟩ _ _ _ grantedResponse
    grantedReply ⟨7⟩ _ rfl rfl rfl rfl rfl ⟨⟨8⟩, 2222⟩
  obtain ⟨asked, understands, -⟩ := carried
  exact ⟨_, _, _, _, _, rfl, rfl, rfl, asked.path, asked.o2t.default _ rfl _ rfl,
    asked.t2o.default _ rfl _ rfl, asked.o2t.size (by decide), asked, understands⟩

end EipScanner
