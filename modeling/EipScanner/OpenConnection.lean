/-
This file models what the connection manager computes when it opens a connection:
the checks on the settings, the request it sends, and the connection it builds from
the reply. Sending the request and handing the connection to the I/O thread belong
to the modules that model the session and the thread.

For settings that pass the checks, the sizes in the request, the sizes of the
packets that are built and the sizes that are accepted are one number for each
direction, as long as the direction has a fixed size. A variable-size direction
stays within that number exactly while its output does. The path announced in the
request is exact for even paths that, with the configuration segment, take at most
255 words.
-/

import EipScanner.ForwardOpen
import EipScanner.IoConnection

namespace EipScanner

/-! ### The checks -/

/-- The checks on the settings, in the order they are made. -/
def checkConfig (config : ConnectionConfig) : Except Error Unit :=
  let o2tWire := config.wireSize config.o2t
  let t2oWire := config.wireSize config.t2o
  let length := config.configData.length
  let multiplier := config.timeoutMultiplier
  let wire := max o2tWire t2oWire
  if length > maxConfigData then
    .error (.unsupported
      s!"configuration data is {length} bytes; at most {maxConfigData} fit in a Forward Open")
  else if multiplier > 7 then
    .error (.unsupported s!"timeout multiplier {multiplier} is above the maximum of 7")
  else if config.transportClass ≠ .class0 ∧ config.transportClass ≠ .class1 then
    .error (.unsupported "only transport classes 0 and 1 are supported for I/O connections")
  else if wire > 65535 then
    .error (.unsupported s!"connection size {wire} is above the maximum of {65535}")
  else .ok ()

/-- The settings that pass the checks. -/
structure ConnectionConfig.Accepted (config : ConnectionConfig) : Prop where
  configData : config.configData.length ≤ maxConfigData
  timeoutMultiplier : config.timeoutMultiplier ≤ 7
  transportClass : config.transportClass = .class0 ∨ config.transportClass = .class1
  o2tWire : config.wireSize config.o2t ≤ 65535
  t2oWire : config.wireSize config.t2o ≤ 65535

theorem checkConfig_ok_iff {config : ConnectionConfig} :
    checkConfig config = .ok () ↔ config.Accepted := by
  have bounds : ¬ max (config.wireSize config.o2t) (config.wireSize config.t2o) > 65535 ↔
      config.wireSize config.o2t ≤ 65535 ∧ config.wireSize config.t2o ≤ 65535 := by
    rw [gt_iff_lt, not_lt, max_le_iff]
  constructor
  · intro passed
    unfold checkConfig at passed
    dsimp only at passed
    split at passed
    · exact absurd passed (by simp)
    next data =>
    split at passed
    · exact absurd passed (by simp)
    next multiplier =>
    split at passed
    · exact absurd passed (by simp)
    next transport =>
    split at passed
    · exact absurd passed (by simp)
    next wire =>
    refine ⟨Nat.le_of_not_lt data, UInt8.not_lt.mp multiplier, ?_, (bounds.mp wire).1,
      (bounds.mp wire).2⟩
    by_contra neither
    exact transport (not_or.mp neither)
  · intro accepted
    unfold checkConfig
    dsimp only
    rw [if_neg (Nat.not_lt.mpr accepted.configData),
      if_neg (UInt8.not_lt.mpr accepted.timeoutMultiplier), if_neg, if_neg]
    · exact bounds.mpr ⟨accepted.o2tWire, accepted.t2oWire⟩
    · rintro ⟨notFirst, notSecond⟩
      exact accepted.transportClass.elim notFirst notSecond

/-! ### The request -/

/-- The counters that connections are numbered from. Both wrap around. -/
structure IdCounters where
  nextSerial : UInt16
  nextConnectionId : UInt32
  deriving DecidableEq, Repr

/-- The next connection ID: one more than the counter held. -/
def IdCounters.nextId (counters : IdCounters) : UInt32 × IdCounters :=
  let id := counters.nextConnectionId + 1
  (id, { counters with nextConnectionId := id })

/-- The next connection ID when a direction asks for one, else zero. -/
def IdCounters.nextIdIf (counters : IdCounters) (asked : Bool) : UInt32 × IdCounters :=
  if asked then counters.nextId else (0, counters)

/-- Use the large form when either direction's size on the wire exceeds the small maximum. -/
def ConnectionConfig.large (config : ConnectionConfig) : Bool :=
  decide (max (config.wireSize config.o2t) (config.wireSize config.t2o) > maxSmallSize.toNat)

def networkParams (direction : Direction) (wire : Nat) : NetworkParams where
  redundantOwner := false
  connectionType := direction.connectionType
  priority := direction.priority
  sizeType := direction.sizeType
  size := UInt16.ofNat wire

/-- A duration in microseconds, at most the largest 32-bit number. -/
def micros (duration : Nat) : UInt32 := UInt32.ofNat (min (duration / 1000) (2 ^ 32 - 1))

/-- The request for a connection, and the counters after it was numbered. -/
def forwardOpenRequest (counters : IdCounters) (config : ConnectionConfig) :
    ForwardOpenRequest × IdCounters :=
  let (o2tConnectionId, counters) :=
    counters.nextIdIf (decide (config.o2t.connectionType = .multicast))
  let (t2oConnectionId, counters) :=
    counters.nextIdIf (decide (config.t2o.connectionType = .pointToPoint))
  ({ priorityTimeTick := 0x0A
     timeoutTicks := 0x05
     o2tConnectionId := o2tConnectionId
     t2oConnectionId := t2oConnectionId
     connectionSerialNumber := counters.nextSerial
     originatorVendorId := config.originatorVendorId
     originatorSerialNumber := config.originatorSerialNumber
     connectionTimeoutMultiplier := config.timeoutMultiplier
     o2tRpi := micros config.o2t.rpi
     o2tParams := networkParams config.o2t (config.wireSize config.o2t)
     t2oRpi := micros config.t2o.rpi
     t2oParams := networkParams config.t2o (config.wireSize config.t2o)
     transport := { transportClass := config.transportClass, trigger := config.trigger,
                    server := false }
     path := config.encodedPath },
    { counters with nextSerial := counters.nextSerial + 1 })

@[simp]
theorem path_forwardOpenRequest (counters : IdCounters) (config : ConnectionConfig) :
    (forwardOpenRequest counters config).1.path = config.encodedPath := rfl

def openService (large : Bool) : ServiceCode :=
  if large then ServiceCode.largeForwardOpen else ServiceCode.forwardOpen

/-- What is handed to the message router: a service and a request body. -/
structure RouterRequest where
  service : ServiceCode
  body : Bytes
  deriving DecidableEq, Repr

def routerRequest (counters : IdCounters) (config : ConnectionConfig) : RouterRequest where
  service := openService config.large
  body := (forwardOpenRequest counters config).1.encode config.large

/-- The first half of opening a connection, up to the request that is sent. -/
def prepareOpen (counters : IdCounters) (config : ConnectionConfig) :
    Except Error (RouterRequest × IdCounters) := do
  checkConfig config
  return (routerRequest counters config, (forwardOpenRequest counters config).2)

/-- The form of a request body, which its service tells. -/
def RouterRequest.large (sent : RouterRequest) : Bool :=
  decide (sent.service = ServiceCode.largeForwardOpen)

theorem large_routerRequest (counters : IdCounters) (config : ConnectionConfig) :
    (routerRequest counters config).large = config.large := by
  cases form : config.large with
  | true => rw [RouterRequest.large, routerRequest, form]; rfl
  | false => rw [RouterRequest.large, routerRequest, form]; rfl

/-- Settings get a request when they pass the checks. -/
theorem prepareOpen_ok_iff {counters after : IdCounters} {config : ConnectionConfig}
    {sent : RouterRequest} :
    prepareOpen counters config = .ok (sent, after) ↔
      config.Accepted ∧ routerRequest counters config = sent ∧
        (forwardOpenRequest counters config).2 = after := by
  rw [prepareOpen, bind_eq_ok_iff, ← checkConfig_ok_iff]
  constructor
  · rintro ⟨⟨⟩, checked, rest⟩
    exact ⟨checked, Prod.mk.inj (Except.ok.inj rest)⟩
  · rintro ⟨checked, rfl, rfl⟩
    exact ⟨(), checked, rfl⟩

/-! ### The path in the request -/

/-- One simple data segment: 0x80, the number of words, and the data padded to whole words. No
data makes no segment. -/
def dataSegment (data : Bytes) : Bytes :=
  if data = [] then []
  else 0x80 :: UInt8.ofNat ((data.length + 1) / 2) :: data ++ List.replicate (data.length % 2) 0

/-- The bytes a data segment takes. -/
def dataSegmentLength (data : Bytes) : Nat :=
  if data = [] then 0 else 2 + 2 * ((data.length + 1) / 2)

theorem dataSegmentLength_of_pos {data : Bytes} (some : 0 < data.length) :
    dataSegmentLength data = 2 + 2 * ((data.length + 1) / 2) :=
  if_neg (List.ne_nil_of_length_pos some)

theorem length_dataSegment (data : Bytes) : (dataSegment data).length = dataSegmentLength data := by
  rw [dataSegment, dataSegmentLength]
  split
  · rfl
  · simp only [List.length_append, List.length_cons, List.length_replicate]
    omega

/-- The path that is sent is the configured one and the data segment. -/
theorem encodedPath_eq {config : ConnectionConfig}
    (fits : config.configData.length ≤ maxConfigData) :
    config.encodedPath = config.path.bytes ++ dataSegment config.configData := by
  rw [ConnectionConfig.encodedPath, dataSegment]
  by_cases none : config.configData = []
  · rw [if_pos none, if_pos (List.isEmpty_iff.mpr none), List.append_nil]
  · have padding : (config.configData.length + 1) / 2 * 2 - config.configData.length =
        config.configData.length % 2 := by omega
    rw [if_neg none, if_neg (fun empty => none (List.isEmpty_iff.mp empty))]
    dsimp only
    rw [Nat.min_eq_left fits, List.take_length, padding]
    simp only [List.append_assoc, List.cons_append, List.nil_append]

/-- The path size of a request announces exactly the path bytes that follow it, and these are the
configured path and the data segment. -/
def RouterRequest.PathExact (sent : RouterRequest) (config : ConnectionConfig) : Prop :=
  bodyPathSize sent.large sent.body * 2 = (bodyPath sent.large sent.body).length ∧
    bodyPath sent.large sent.body = config.path.bytes ++ dataSegment config.configData

section
variable {config : ConnectionConfig} (accepted : config.Accepted) (counters : IdCounters)

include accepted

/-- The bytes that follow the path size are always the right ones. -/
theorem bodyPath_routerRequest :
    bodyPath (routerRequest counters config).large (routerRequest counters config).body =
      config.path.bytes ++ dataSegment config.configData := by
  rw [large_routerRequest, routerRequest, ForwardOpenRequest.bodyPath_encode,
    path_forwardOpenRequest, encodedPath_eq accepted.configData]

/-- The announced size is right for an even path that, with the data segment, takes at most 255
words. -/
theorem bodyPathSize_routerRequest_iff :
    bodyPathSize (routerRequest counters config).large (routerRequest counters config).body * 2 =
        (bodyPath (routerRequest counters config).large
          (routerRequest counters config).body).length ↔
      config.path.bytes.length % 2 = 0 ∧
        config.path.bytes.length + dataSegmentLength config.configData ≤ 510 := by
  have even : dataSegmentLength config.configData % 2 = 0 := by
    unfold dataSegmentLength
    split <;> omega
  rw [large_routerRequest, routerRequest, ForwardOpenRequest.bodyPathSize_exact_iff,
    path_forwardOpenRequest, encodedPath_eq accepted.configData, List.length_append,
    length_dataSegment]
  omega

end

/-- The announced path is exact for even paths that, with the data segment, take at most 255
words, and for no others. -/
theorem prepareOpen_pathExact_iff {counters after : IdCounters} {config : ConnectionConfig}
    {sent : RouterRequest} (prepared : prepareOpen counters config = .ok (sent, after)) :
    sent.PathExact config ↔
      config.path.bytes.length % 2 = 0 ∧
        config.path.bytes.length + dataSegmentLength config.configData ≤ 510 := by
  obtain ⟨accepted, rfl, -⟩ := prepareOpen_ok_iff.mp prepared
  rw [RouterRequest.PathExact, and_iff_left (bodyPath_routerRequest accepted counters),
    bodyPathSize_routerRequest_iff accepted]

/-- The settings of the crate's examples: the assembly instances 151, 150 and 100. -/
def assemblyConfig (configData : Bytes) (sizeType : SizeType) : ConnectionConfig where
  path := ⟨[0x20, 0x04, 0x24, 0x97, 0x2C, 0x96, 0x2C, 0x64]⟩
  configData := configData
  o2t := ⟨2, 10000000, .pointToPoint, .scheduled, sizeType, true⟩
  t2o := ⟨3, 10000000, .pointToPoint, .scheduled, sizeType, false⟩
  transportClass := .class1
  trigger := .cyclic
  timeoutMultiplier := 0
  originatorVendorId := 0
  originatorSerialNumber := 0

theorem assemblyConfig_accepted {configData : Bytes} (sizeType : SizeType)
    (fits : configData.length ≤ maxConfigData) :
    (assemblyConfig configData sizeType).Accepted where
  configData := fits
  timeoutMultiplier := UInt8.zero_le
  transportClass := .inr rfl
  o2tWire := show 8 ≤ 65535 by decide
  t2oWire := show 5 ≤ 65535 by decide

theorem prepareOpen_assemblyConfig {configData : Bytes} (sizeType : SizeType)
    (fits : configData.length ≤ maxConfigData) :
    prepareOpen ⟨0, 0⟩ (assemblyConfig configData sizeType) =
      .ok (routerRequest ⟨0, 0⟩ (assemblyConfig configData sizeType), ⟨1, 1⟩) :=
  prepareOpen_ok_iff.mpr ⟨assemblyConfig_accepted sizeType fits, rfl, rfl⟩

/-- Three bytes of configuration data are announced exactly. -/
theorem prepareOpen_pathExact_iff_assembly :
    (routerRequest ⟨0, 0⟩ (assemblyConfig [1, 2, 3] .fixed)).PathExact
      (assemblyConfig [1, 2, 3] .fixed) :=
  (prepareOpen_pathExact_iff (prepareOpen_assemblyConfig .fixed (by decide))).mpr
    ⟨by decide, by decide⟩

/-- With the most configuration data that is accepted, the path size byte of an assembly
connection wraps around: it announces 4 words, and 260 follow. -/
theorem assemblyConfig_pathSize_wraps {data : Bytes} (length : data.length = 510) :
    ¬ (routerRequest ⟨0, 0⟩ (assemblyConfig data .fixed)).PathExact
      (assemblyConfig data .fixed) := by
  intro exact
  have accepted := assemblyConfig_accepted .fixed length.le
  have short : 8 + dataSegmentLength data ≤ 510 :=
    ((bodyPathSize_routerRequest_iff accepted ⟨0, 0⟩).mp exact.1).2
  rw [dataSegmentLength_of_pos (length ▸ Nat.zero_lt_succ _), length] at short
  omega

theorem prepareOpen_pathSize_wraps :
    prepareOpen ⟨0, 0⟩ (assemblyConfig (List.replicate 510 0) .fixed) =
        .ok (routerRequest ⟨0, 0⟩ (assemblyConfig (List.replicate 510 0) .fixed), ⟨1, 1⟩) ∧
      ¬ (routerRequest ⟨0, 0⟩ (assemblyConfig (List.replicate 510 0) .fixed)).PathExact
        (assemblyConfig (List.replicate 510 0) .fixed) :=
  ⟨prepareOpen_assemblyConfig .fixed List.length_replicate.le,
    assemblyConfig_pathSize_wraps List.length_replicate⟩

/-! ### The connection that the reply makes -/

def defaultImplicitPort : UInt16 := 0x08AE

/-- The first O->T socket address item of a reply, decoded. -/
def findO2tSockaddr (items : List CommonPacketItem) : Except Error (Option SocketAddrV4) :=
  match items.find? fun item => item.typeId = CommonPacketItemId.o2tSockaddrInfo with
  | none => .ok none
  | some item => (decodeSockaddr item.data).map some

/-- Where to send O->T data: the address in the reply, with an unspecified IP or a zero port
replaced by the device's IP or the default port. -/
def o2tDestination (sockaddr : Option SocketAddrV4) (peerIp : Ipv4Addr) : SocketAddrV4 :=
  match sockaddr with
  | none => ⟨peerIp, defaultImplicitPort⟩
  | some addr =>
    let ip := if addr.ip = ⟨0⟩ then peerIp else addr.ip
    let port := if addr.port = 0 then defaultImplicitPort else addr.port
    ⟨ip, port⟩

/-- A number of microseconds as a duration. -/
def fromMicros (count : Nat) : Nat := count * 1000

/-- The settings of a connection, from what was asked for and what the reply granted. -/
def ioConnectionConfig (config : ConnectionConfig) (reply : ForwardOpenResponse)
    (destination : SocketAddrV4) (peerIp : Ipv4Addr) : IoConnectionConfig where
  o2tId := reply.o2tNetworkConnectionId
  t2oId := reply.t2oNetworkConnectionId
  serialNumber := reply.connectionSerialNumber
  o2tApi := fromMicros reply.o2tApi.toNat
  timeout := fromMicros (reply.t2oApi.toNat * (4 <<< config.timeoutMultiplier.toNat))
  o2tSize := config.o2t.size.toNat
  t2oSize := config.t2o.size.toNat
  o2tFixed := decide (config.o2t.sizeType = .fixed)
  t2oFixed := decide (config.t2o.sizeType = .fixed)
  hasSequenceCount := config.transportClass.hasSequenceCount
  o2tRealTimeFormat := config.o2t.runIdleHeader
  t2oRealTimeFormat := config.t2o.runIdleHeader
  destination := destination
  peerIp := peerIp

/-- What an open connection's handle and its I/O thread entry are made from. -/
structure OpenedConnection where
  ioConfig : IoConnectionConfig
  t2oApi : Nat
  closeRequest : ForwardCloseRequest
  deriving DecidableEq, Repr

/-- The second half of opening a connection, from the reply on. -/
def completeOpen (config : ConnectionConfig) (response : MessageRouterResponse)
    (peerIp : Ipv4Addr) : Except Error OpenedConnection := do
  let response ← response.check "forward open"
  let reply ← ForwardOpenResponse.decode response.data
  let o2tSockaddr ← findO2tSockaddr response.additionalPacketItems
  return {
    ioConfig := ioConnectionConfig config reply (o2tDestination o2tSockaddr peerIp) peerIp
    t2oApi := fromMicros reply.t2oApi.toNat
    closeRequest := {
      connectionSerialNumber := reply.connectionSerialNumber
      originatorVendorId := config.originatorVendorId
      originatorSerialNumber := config.originatorSerialNumber
      connectionPath := config.path.bytes } }

theorem completeOpen_ok {config : ConnectionConfig} {response : MessageRouterResponse}
    {peerIp : Ipv4Addr} {opened : OpenedConnection}
    (completed : completeOpen config response peerIp = .ok opened) :
    ∃ reply destination,
      opened.ioConfig = ioConnectionConfig config reply destination peerIp := by
  obtain ⟨checked, -, rest⟩ := bind_eq_ok_iff.mp completed
  obtain ⟨reply, -, rest⟩ := bind_eq_ok_iff.mp rest
  obtain ⟨o2tSockaddr, -, rest⟩ := bind_eq_ok_iff.mp rest
  exact ⟨reply, o2tDestination o2tSockaddr peerIp, congrArg OpenedConnection.ioConfig
    (Except.ok.inj rest).symm⟩

/-- A reply that grants 10 ms both ways, under the IDs 0x100 and 0x200. -/
def grantedResponse : MessageRouterResponse where
  service := ⟨0xD4⟩
  generalStatus := GeneralStatusCode.success
  additionalStatus := []
  data := [0x00, 0x01, 0, 0, 0x00, 0x02, 0, 0, 1, 0, 0, 0, 0, 0, 0, 0, 0x10, 0x27, 0, 0,
    0x10, 0x27, 0, 0, 0, 0]
  additionalPacketItems := []

def grantedReply : ForwardOpenResponse := ⟨0x100, 0x200, 1, 0, 0, 10000, 10000, []⟩

/-- The connection that the reply makes with a device at an address. -/
def grantedConnection (config : ConnectionConfig) (device : Ipv4Addr) : OpenedConnection where
  ioConfig := ioConnectionConfig config grantedReply ⟨device, defaultImplicitPort⟩ device
  t2oApi := 10000000
  closeRequest := ⟨1, config.originatorVendorId, config.originatorSerialNumber, config.path.bytes⟩

theorem completeOpen_granted (config : ConnectionConfig) (device : Ipv4Addr) :
    completeOpen config grantedResponse device = .ok (grantedConnection config device) := rfl

/-! ### Negotiated and exchanged sizes -/

theorem wireSize_eq (config : ConnectionConfig) (direction : Direction) :
    config.wireSize direction =
      IoConnection.headersLength config.transportClass.hasSequenceCount direction.runIdleHeader +
        direction.size.toNat := rfl

/-- The parameters of a direction that is not larger than the form allows are read back with the
size on the wire. -/
theorem readParamsSize_networkParams (direction : Direction) {wire : Nat} {large : Bool}
    (fits : wire ≤ 65535) (form : large = true ∨ wire ≤ maxSmallSize.toNat) :
    readParamsSize large (putParams (networkParams direction wire) large) = wire := by
  have narrowed : (networkParams direction wire).size.toNat = wire :=
    UInt16.toNat_ofNat_of_lt' (Nat.lt_succ_of_le fits)
  rw [readParamsSize_putParams, narrowed]
  refine form.imp_right fun small => ?_
  rw [UInt16.le_iff_toNat_le, narrowed]
  exact small

/-- The request carries the wire size of each direction. -/
theorem bodySizes_prepareOpen {counters after : IdCounters} {config : ConnectionConfig}
    {sent : RouterRequest} (prepared : prepareOpen counters config = .ok (sent, after)) :
    bodyO2tSize sent.large sent.body = config.wireSize config.o2t ∧
      bodyT2oSize sent.large sent.body = config.wireSize config.t2o := by
  obtain ⟨accepted, rfl, -⟩ := prepareOpen_ok_iff.mp prepared
  have form : config.large = true ∨
      max (config.wireSize config.o2t) (config.wireSize config.t2o) ≤ maxSmallSize.toNat := by
    rw [ConnectionConfig.large, decide_eq_true_iff, gt_iff_lt]
    exact Nat.lt_or_ge _ _
  rw [large_routerRequest, routerRequest, bodyO2tSize, bodyT2oSize,
    ForwardOpenRequest.drop_encode_o2tParams, ForwardOpenRequest.drop_encode_t2oParams]
  exact ⟨readParamsSize_networkParams config.o2t accepted.o2tWire
      (form.imp_right (Nat.le_max_left _ _).trans),
    readParamsSize_networkParams config.t2o accepted.t2oWire
      (form.imp_right (Nat.le_max_right _ _).trans)⟩

section
variable {config : ConnectionConfig} {response : MessageRouterResponse} {peerIp : Ipv4Addr}
  {opened : OpenedConnection} (completed : completeOpen config response peerIp = .ok opened)
  {conn : IoConnection} (ofOpened : conn.cfg = opened.ioConfig)

include completed ofOpened

/-- The data item that a connection would build has the size on the wire exactly when the output
has the configured size. -/
theorem o2t_length_of_opened :
    IoConnection.headersLength conn.cfg.hasSequenceCount conn.cfg.o2tRealTimeFormat +
        conn.output.length + config.o2t.size.toNat =
      config.wireSize config.o2t + conn.output.length := by
  obtain ⟨reply, destination, settings⟩ := completeOpen_ok completed
  rw [ofOpened, settings, wireSize_eq, ioConnectionConfig]
  dsimp only
  omega

theorem outputRefused_of_opened :
    conn.outputRefused = false ↔
      (config.o2t.sizeType = .fixed → conn.output.length = config.o2t.size.toNat) := by
  obtain ⟨reply, destination, settings⟩ := completeOpen_ok completed
  rw [IoConnection.outputRefused, ofOpened, settings, ioConnectionConfig]
  cases config.o2t.sizeType <;> simp

/-- A packet is accepted when its data item has the headers of the size on the wire and, in a
fixed-size direction, exactly that size. -/
theorem onReceive_of_opened (packet : ConnectedPacket) (now : Nat)
    (fixed : config.t2o.sizeType = .fixed) :
    (conn.onReceive packet now).2.isSome = true ↔
      packet.data.length = config.wireSize config.t2o := by
  obtain ⟨reply, destination, settings⟩ := completeOpen_ok completed
  rw [IoConnection.onReceive_isSome_iff, ofOpened, settings, wireSize_eq, ioConnectionConfig]
  dsimp only
  rw [decide_eq_true fixed]
  constructor
  · exact fun fits => fits.2 rfl
  · exact fun length => ⟨by omega, fun _ => length⟩

end

/-- For fixed-size directions, what the request negotiates is what is exchanged: the sizes read
back from the request are the sizes on the wire, a packet is built exactly when its data item
has the O->T size, and accepted exactly when it has the T->O size. -/
theorem negotiated_eq_exchanged {counters after : IdCounters} {config : ConnectionConfig}
    {sent : RouterRequest} (prepared : prepareOpen counters config = .ok (sent, after))
    (o2tFixed : config.o2t.sizeType = .fixed) (t2oFixed : config.t2o.sizeType = .fixed) :
    (bodyO2tSize sent.large sent.body = config.wireSize config.o2t ∧
      bodyT2oSize sent.large sent.body = config.wireSize config.t2o) ∧
    ∀ response peerIp opened, completeOpen config response peerIp = .ok opened →
      ∀ conn : IoConnection, conn.cfg = opened.ioConfig → ∀ now,
        (∀ out,
          ((conn.buildPacket now out).2.2 = true ↔
            IoConnection.headersLength conn.cfg.hasSequenceCount conn.cfg.o2tRealTimeFormat +
              conn.output.length = config.wireSize config.o2t) ∧
          ((conn.buildPacket now out).2.2 = true →
            (connectedData (conn.buildPacket now out).2.1).length = config.wireSize config.o2t ∧
            connectedDataLength (conn.buildPacket now out).2.1 = config.wireSize config.o2t)) ∧
        ∀ packet, (conn.onReceive packet now).2.isSome = true ↔
          packet.data.length = config.wireSize config.t2o := by
  refine ⟨bodySizes_prepareOpen prepared, ?_⟩
  intro response peerIp opened completed conn ofOpened now
  obtain ⟨accepted, -, -⟩ := prepareOpen_ok_iff.mp prepared
  have lengths := o2t_length_of_opened completed ofOpened
  have builds : ∀ out, (conn.buildPacket now out).2.2 = true ↔
      IoConnection.headersLength conn.cfg.hasSequenceCount conn.cfg.o2tRealTimeFormat +
        conn.output.length = config.wireSize config.o2t := by
    intro out
    rw [IoConnection.buildPacket_built, Bool.not_eq_true',
      outputRefused_of_opened completed ofOpened, imp_iff_right o2tFixed]
    omega
  refine ⟨fun out => ⟨builds out, fun built => ?_⟩, fun packet =>
    onReceive_of_opened completed ofOpened packet now t2oFixed⟩
  have length : (connectedData (conn.buildPacket now out).2.1).length =
      config.wireSize config.o2t := by
    rw [IoConnection.length_connectedData_buildPacket conn now out built, (builds out).mp built]
  refine ⟨length, ?_⟩
  rw [IoConnection.connectedDataLength_buildPacket conn now out built, length]
  exact Nat.mod_eq_of_lt (Nat.lt_succ_of_le accepted.o2tWire)

/-- The first packet of an assembly connection fills the eight bytes that were negotiated. -/
theorem negotiated_eq_exchanged_assembly :
    let config := assemblyConfig [] .fixed
    let conn := IoConnection.new (grantedConnection config ⟨0⟩).ioConfig 0
    (connectedData (conn.buildPacket 0 []).2.1).length = 8 := by
  intro config conn
  have prepared := @prepareOpen_assemblyConfig [] .fixed (Nat.zero_le maxConfigData)
  have exchanged := (negotiated_eq_exchanged prepared rfl rfl).2 grantedResponse ⟨0⟩ _
    (completeOpen_granted config ⟨0⟩) conn rfl 0
  exact ((exchanged.1 []).2 rfl).1

/-- In a variable-size direction, a packet stays within the negotiated size and announces its
own length exactly when the output stays within the configured size. -/
theorem variable_packet_within_iff {counters after : IdCounters} {config : ConnectionConfig}
    {sent : RouterRequest} {response : MessageRouterResponse} {peerIp : Ipv4Addr}
    {opened : OpenedConnection} {conn : IoConnection}
    (prepared : prepareOpen counters config = .ok (sent, after))
    (o2tVariable : config.o2t.sizeType = .variable)
    (completed : completeOpen config response peerIp = .ok opened)
    (ofOpened : conn.cfg = opened.ioConfig) (now : Nat) (out : Bytes) :
    ((conn.buildPacket now out).2.2 = true →
        (connectedData (conn.buildPacket now out).2.1).length ≤ config.wireSize config.o2t ∧
        connectedDataLength (conn.buildPacket now out).2.1 =
          (connectedData (conn.buildPacket now out).2.1).length) ↔
      conn.output.length ≤ config.o2t.size.toNat := by
  obtain ⟨accepted, -, -⟩ := prepareOpen_ok_iff.mp prepared
  have bound := accepted.o2tWire
  have lengths := o2t_length_of_opened completed ofOpened
  have built : (conn.buildPacket now out).2.2 = true := by
    rw [IoConnection.buildPacket_built, Bool.not_eq_true',
      outputRefused_of_opened completed ofOpened, o2tVariable]
    exact fun fixed => nomatch fixed
  rw [IoConnection.connectedDataLength_buildPacket conn now out built,
    IoConnection.length_connectedData_buildPacket conn now out built]
  constructor
  · intro within
    have := (within built).1
    omega
  · intro short _
    have small : IoConnection.headersLength conn.cfg.hasSequenceCount conn.cfg.o2tRealTimeFormat +
        conn.output.length < 2 ^ 16 := by omega
    exact ⟨by omega, Nat.mod_eq_of_lt small⟩

/-- Two bytes of output stay within the eight bytes that were negotiated. -/
theorem variable_packet_within_iff_assembly :
    let config := assemblyConfig [] .variable
    let conn := (IoConnection.new (grantedConnection config ⟨0⟩).ioConfig 0).setOutput [1, 2]
    (connectedData (conn.buildPacket 0 []).2.1).length ≤ 8 := by
  intro config conn
  have prepared := @prepareOpen_assemblyConfig [] .variable (Nat.zero_le maxConfigData)
  have within := variable_packet_within_iff prepared rfl (completeOpen_granted config ⟨0⟩)
    (show conn.cfg = (grantedConnection config ⟨0⟩).ioConfig from rfl) 0 []
  exact (within.mpr (Nat.le_refl 2) rfl).1

/-- Three bytes of output are sent in a data item longer than what was negotiated. -/
theorem variable_packet_exceeds :
    let config := assemblyConfig [] .variable
    let conn := (IoConnection.new (grantedConnection config ⟨0⟩).ioConfig 0).setOutput [1, 2, 3]
    prepareOpen ⟨0, 0⟩ config = .ok (routerRequest ⟨0, 0⟩ config, ⟨1, 1⟩) ∧
      completeOpen config grantedResponse ⟨0⟩ = .ok (grantedConnection config ⟨0⟩) ∧
      (conn.buildPacket 0 []).2.2 = true ∧
      ¬ (connectedData (conn.buildPacket 0 []).2.1).length ≤ config.wireSize config.o2t :=
  ⟨prepareOpen_assemblyConfig .variable (Nat.zero_le _), completeOpen_granted _ ⟨0⟩, rfl,
    by decide⟩

end EipScanner
