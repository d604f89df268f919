/-
This file proves that reading a parameter is exact. A device that serves a parameter answers the
request for its size, the request for all of its attributes and the requests for its scaling
attributes; what is read is that parameter, whatever follows the attributes in the reply, and these
are the requests that were made, once each and in order.

Whatever a device answers, a parameter that is read holds four values of one size, which is the
size the device announced. So a type fits all of them or none. And attributes that end before
their last byte are refused.
-/

import EipScanner.Parameter

namespace EipScanner

open SelfDelimiting Text

/-! ### Typed values -/

namespace ParameterObject

theorem decode_encode (Value : Type) [CipValue Value] (value : Value) :
    decode Value (CipValue.encode value) = .ok value := by
  rw [decode, if_neg (not_not.mpr (CipValue.length_encode value)), CipValue.decode_encode]

/-- A value has a type exactly when it has its size. -/
theorem isOk_decode_iff (Value : Type) [CipValue Value] (bytes : Bytes) :
    (∃ value, decode Value bytes = .ok value) ↔ bytes.length = CipValue.size Value := by
  unfold decode
  split
  next differs => simp [differs]
  next same => simp [not_not.mp same]

end ParameterObject

/-! ### A parameter that is served -/

/-- A name as it is sent: its length in one byte in front. -/
def shortString (text : List Char) : Bytes :=
  putU8 (UInt8.ofNat (utf8 text).length) ++ utf8 text

/-- A parameter of a device. -/
structure ServedParameter where
  size : UInt8
  value : Bytes
  minValue : Bytes
  maxValue : Bytes
  defaultValue : Bytes
  linkPath : Bytes
  descriptor : UInt16
  dataType : CipDataType
  name : List Char
  units : List Char
  help : List Char
  /-- The scaling attributes and their links, as they are among all attributes. -/
  scaling : Bytes
  precision : UInt8
  multiplier : UInt16
  divisor : UInt16
  base : UInt16
  offset : Int16
  sized : ∀ bytes ∈ [value, minValue, maxValue, defaultValue], bytes.length = size.toNat
  shortPath : linkPath.length ≤ 255
  short : ∀ text ∈ [name, units, help], (utf8 text).length ≤ 255
  scalingSize : scaling.length = 16

namespace ServedParameter

variable (served : ServedParameter)

def isScalable : Bool := served.descriptor &&& ParameterObject.supportsScaling != 0

/-- Value, link path, descriptor and data type, and what is behind them. -/
def description (rest : Bytes) : Bytes :=
  served.value ++ (putU8 (UInt8.ofNat served.linkPath.length) ++ (served.linkPath ++
    (putU16 served.descriptor ++ (putU8 served.dataType.code ++ rest))))

/-- The data size, the texts and the limits, and what is behind them. -/
def full (rest : Bytes) : Bytes :=
  putU8 served.size ++ (shortString served.name ++ (shortString served.units ++
    (shortString served.help ++ (served.minValue ++ (served.maxValue ++
      (served.defaultValue ++ rest))))))

/-- The attributes that are read, up to the last of them. -/
def attributes (fullAttributes : Bool) : Bytes :=
  served.description (if fullAttributes then
    served.full (if served.isScalable then served.scaling ++ putU8 served.precision else [])
  else [])

/-- What is known of the parameter after its description. -/
def described (instanceId : UInt16) (fullAttributes : Bool) : ParameterObject :=
  { ParameterObject.new instanceId fullAttributes served.size.toNat with
    value := served.value
    dataType := served.dataType
    isScalable := served.isScalable
    isReadOnly := served.descriptor &&& ParameterObject.readOnly != 0 }

def withFull (param : ParameterObject) : ParameterObject :=
  { param with
    name := served.name
    units := served.units
    help := served.help
    minValue := served.minValue
    maxValue := served.maxValue
    defaultValue := served.defaultValue }

/-- What is known of the parameter after all of its attributes. -/
def unscaled (instanceId : UInt16) (fullAttributes : Bool) : ParameterObject :=
  if fullAttributes then
    { served.withFull (served.described instanceId true) with
      precision := if served.isScalable then served.precision else 0 }
  else served.described instanceId false

def withScaling (param : ParameterObject) : ParameterObject :=
  { param with
    scalingMultiplier := served.multiplier
    scalingDivisor := served.divisor
    scalingBase := served.base
    scalingOffset := served.offset }

/-- The parameter as it is read. -/
def object (instanceId : UInt16) (fullAttributes : Bool) : ParameterObject :=
  if fullAttributes && served.isScalable then
    served.withScaling (served.unscaled instanceId fullAttributes)
  else served.unscaled instanceId fullAttributes

/-- What the device answers for a scaling attribute. -/
def scalingAnswer (id : UInt16) : Bytes :=
  if id = 13 then putU16 served.multiplier
  else if id = 14 then putU16 served.divisor
  else if id = 15 then putU16 served.base
  else putU16 served.offset.toUInt16

def scalingExchange (instanceId id : UInt16) : MessageRouter.Exchange where
  service := .getAttributeSingle
  path := EPath.ofAttribute ParameterObject.classId instanceId id
  data := []
  answer := served.scalingAnswer id

/-- The first two requests, the second of which is answered with anything. -/
def begins (instanceId : UInt16) (attributes : Bytes) : List MessageRouter.Exchange :=
  [⟨.getAttributeSingle,
      EPath.ofAttribute ParameterObject.classId instanceId ParameterObject.dataSizeAttribute, [],
      putU8 served.size⟩,
    ⟨.getAttributeAll, EPath.ofInstance ParameterObject.classId instanceId, [], attributes⟩]

/-- The requests for the parameter, with their answers. The reply with all attributes goes on
behind those that are read. -/
def exchanges (instanceId : UInt16) (fullAttributes : Bool) (trailing : Bytes) :
    List MessageRouter.Exchange :=
  served.begins instanceId (served.attributes fullAttributes ++ trailing) ++
  if fullAttributes && served.isScalable then
    ParameterObject.scalingAttributes.map (served.scalingExchange instanceId)
  else []

end ServedParameter

/-! ### Reading it -/

theorem tryGetShortString_shortString {text : List Char} (short : (utf8 text).length ≤ 255)
    (rest : Bytes) : tryGetShortString (shortString text ++ rest) = .ok (text, rest) := by
  rw [shortString, List.append_assoc]
  exact tryGetShortString_utf8 short rest

theorem tryGetI16_toUInt16 (value : Int16) (rest : Bytes) :
    tryGetI16 (putU16 value.toUInt16 ++ rest) = .ok (value, rest) := by
  rw [tryGetI16, tryGetU16_putU16, ok_bind]
  dsimp only
  rw [Int16.toInt16_toUInt16]
  rfl

namespace ServedParameter

variable (served : ServedParameter)

theorem takeDescription_description (param : ParameterObject) (rest : Bytes) :
    ParameterObject.takeDescription served.size.toNat param (served.description rest) =
      .ok ({ param with
        value := served.value
        dataType := served.dataType
        isScalable := served.isScalable
        isReadOnly := served.descriptor &&& ParameterObject.readOnly != 0 }, rest) := by
  have size : served.value.length = served.size.toNat := served.sized _ List.mem_cons_self
  have pathSize : (UInt8.ofNat served.linkPath.length).toNat = served.linkPath.length :=
    UInt8.toNat_ofNat_of_lt' (Nat.lt_succ_of_le served.shortPath)
  rw [ParameterObject.takeDescription, description, ← size, tryGetVec_append, ok_bind]
  dsimp only
  rw [tryGetU8_putU8, ok_bind]
  dsimp only
  rw [pathSize, trySkip_append, ok_bind, tryGetU16_putU16, ok_bind]
  dsimp only
  rw [tryGetU8_putU8, ok_bind]
  rfl

theorem takeFull_full (param : ParameterObject) (rest : Bytes) :
    ParameterObject.takeFull served.size.toNat param (served.full rest) =
      .ok (served.withFull param, rest) := by
  obtain ⟨-, ofMin, ofMax, ofDefault, -⟩ : served.value.length = served.size.toNat ∧
      served.minValue.length = served.size.toNat ∧ served.maxValue.length = served.size.toNat ∧
      served.defaultValue.length = served.size.toNat ∧ True := by
    simpa using served.sized
  obtain ⟨name, units, help⟩ : (utf8 served.name).length ≤ 255 ∧
      (utf8 served.units).length ≤ 255 ∧ (utf8 served.help).length ≤ 255 := by
    simpa using served.short
  have skip (rest : Bytes) : trySkip 1 (putU8 served.size ++ rest) = .ok rest :=
    trySkip_append (putU8 served.size) rest
  have limit {bytes : Bytes} (length : bytes.length = served.size.toNat) (rest : Bytes) :
      tryGetVec served.size.toNat (bytes ++ rest) = .ok (bytes, rest) :=
    length ▸ tryGetVec_append bytes rest
  simp only [ParameterObject.takeFull, full, skip, ok_bind, tryGetShortString_shortString name,
    tryGetShortString_shortString units, tryGetShortString_shortString help, limit ofMin,
    limit ofMax, limit ofDefault]
  rfl

/-- All attributes of the parameter are read, and nothing behind them. -/
theorem takeAttributes_attributes (instanceId : UInt16) (fullAttributes : Bool)
    (trailing : Bytes) :
    ParameterObject.takeAttributes fullAttributes served.size.toNat
        (ParameterObject.new instanceId fullAttributes served.size.toNat)
        (served.attributes fullAttributes ++ trailing) =
      .ok (served.unscaled instanceId fullAttributes, trailing) := by
  have behind (rest : Bytes) : served.description rest ++ trailing =
      served.description (rest ++ trailing) := by
    simp only [description, List.append_assoc]
  have behindFull (rest : Bytes) : served.full rest ++ trailing =
      served.full (rest ++ trailing) := by
    simp only [full, List.append_assoc]
  rw [ParameterObject.takeAttributes, attributes, behind, takeDescription_description, ok_bind]
  dsimp only
  cases fullAttributes with
  | false => rfl
  | true =>
    rw [ParameterObject.takeRest, if_pos rfl, if_pos rfl, behindFull, takeFull_full, ok_bind,
      unscaled, if_pos rfl]
    dsimp only [withFull, described]
    cases served.isScalable with
    | false => rfl
    | true =>
      have skip : trySkip 16 (served.scaling ++ (putU8 served.precision ++ trailing)) =
          .ok (putU8 served.precision ++ trailing) := by
        rw [← served.scalingSize]
        exact trySkip_append _ _
      rw [if_pos rfl, if_pos rfl, ParameterObject.takePrecision, List.append_assoc, skip, ok_bind,
        tryGetU8_putU8, ok_bind]
      rfl

theorem isScalable_unscaled (instanceId : UInt16) (fullAttributes : Bool) :
    (served.unscaled instanceId fullAttributes).isScalable = served.isScalable := by
  cases fullAttributes with
  | false => rfl
  | true => rfl

theorem takeScaling_answers (param : ParameterObject) :
    ParameterObject.takeScaling param
        (ParameterObject.scalingAttributes.map served.scalingAnswer).flatten =
      .ok (served.withScaling param) := by
  have answers : (ParameterObject.scalingAttributes.map served.scalingAnswer).flatten =
      putU16 served.multiplier ++ (putU16 served.divisor ++ (putU16 served.base ++
        (putU16 served.offset.toUInt16 ++ []))) := rfl
  rw [answers, ParameterObject.takeScaling, tryGetU16_putU16, ok_bind]
  dsimp only
  rw [tryGetU16_putU16, ok_bind]
  dsimp only
  rw [tryGetU16_putU16, ok_bind]
  dsimp only
  rw [tryGetI16_toUInt16, ok_bind]
  rfl

section
variable {Device : Type} {session : Session Device} {router : MessageRouter} {instanceId : UInt16}
  {device last : Device}

theorem readScaling_of_converses
    (talks : Dialogue.Converses (MessageRouter.Answers session router)
      (ParameterObject.scalingAttributes.map (served.scalingExchange instanceId)) device last) :
    ParameterObject.readScaling session router instanceId device =
      (.ok (ParameterObject.scalingAttributes.map served.scalingAnswer), last) :=
  Dialogue.mapM_of_converses (fun _ _ _ answers => answers.ask _) talks

/-- The parameter is read from a device that answers the requests for it. -/
theorem read_of_converses {fullAttributes : Bool} {trailing : Bytes}
    (talks : Dialogue.Converses (MessageRouter.Answers session router)
      (served.exchanges instanceId fullAttributes trailing) device last) :
    ParameterObject.read session router instanceId fullAttributes device =
      (.ok (served.object instanceId fullAttributes), last) := by
  obtain ⟨sized, sizeAnswers, told, allAnswers, rest⟩ := talks
  have size : tryGetU8 (putU8 served.size) = .ok (served.size, []) := by
    rw [← List.append_nil (putU8 served.size), tryGetU8_putU8]
  have attributes := served.takeAttributes_attributes instanceId fullAttributes trailing
  rw [ParameterObject.read, Dialogue.bind_of_ok (sizeAnswers.ask _),
    Dialogue.bind_settled_ok size]
  dsimp only
  rw [Dialogue.bind_of_ok (allAnswers.ask _), Dialogue.bind_settled_ok attributes]
  dsimp only
  rw [isScalable_unscaled, object]
  cases scaled : fullAttributes && served.isScalable with
  | false =>
    rw [scaled] at rest
    obtain rfl : told = last := rest
    rfl
  | true =>
    rw [scaled] at rest
    rw [if_pos rfl, if_pos rfl, Dialogue.bind_of_ok (served.readScaling_of_converses rest)]
    exact congrArg (·, last) (served.takeScaling_answers _)

/-- The parameter once its value has changed. -/
def withValue (value : Bytes) (size : value.length = served.size.toNat) : ServedParameter :=
  { served with
    value := value
    sized := fun bytes member => by
      rcases List.mem_cons.mp member with rfl | limit
      · exact size
      · exact served.sized bytes (List.mem_cons_of_mem served.value limit) }

def valueExchange (instanceId : UInt16) : MessageRouter.Exchange where
  service := .getAttributeSingle
  path := EPath.ofAttribute ParameterObject.classId instanceId ParameterObject.valueAttribute
  data := []
  answer := served.value

theorem instanceId_object (fullAttributes : Bool) :
    (served.object instanceId fullAttributes).instanceId = instanceId := by
  rw [object]
  split
  · cases fullAttributes with
    | false => rfl
    | true => rfl
  · cases fullAttributes with
    | false => rfl
    | true => rfl

/-- Reading the value again gives what reading the changed parameter anew would give. -/
theorem updateValue_of_answers {fullAttributes : Bool} {value : Bytes}
    (size : value.length = served.size.toNat)
    (answers : MessageRouter.Answers session router
      ((served.withValue value size).valueExchange instanceId) device last) :
    ParameterObject.updateValue session router (served.object instanceId fullAttributes) device =
      (.ok ((served.withValue value size).object instanceId fullAttributes), last) := by
  have asked : router.ask session .getAttributeSingle (EPath.ofAttribute ParameterObject.classId
      instanceId ParameterObject.valueAttribute) [] "read parameter value" device =
        (.ok value, last) := answers.ask _
  rw [ParameterObject.updateValue, instanceId_object, Dialogue.bind_of_ok asked]
  refine congrArg (fun param => (Except.ok param, last)) ?_
  have scalable : (served.withValue value size).isScalable = served.isScalable := rfl
  rw [object, object, scalable]
  split
  · cases fullAttributes with
    | false => rfl
    | true => rfl
  · cases fullAttributes with
    | false => rfl
    | true => rfl

end

end ServedParameter

namespace ParameterObject

section
variable {Device : Type} (session : Session Device) (router : MessageRouter) (instanceId : UInt16)

/-- The most that is asked for a parameter: its size, all of its attributes, and the four scaling
attributes. -/
def requests (fullAttributes : Bool) : List Bytes :=
  [router.requestData .getAttributeSingle
      (EPath.ofAttribute classId instanceId dataSizeAttribute) [],
    router.requestData .getAttributeAll (EPath.ofInstance classId instanceId) []] ++
  if fullAttributes then
    scalingAttributes.map fun id =>
      router.requestData .getAttributeSingle (EPath.ofAttribute classId instanceId id) []
  else []

end

/-- Reading a parameter. From a device that serves it the parameter is read exactly, whatever
follows its attributes in the reply; the requests for it were made once each and in order. -/
theorem read_served {Device : Type} {session : Session Device} {router : MessageRouter}
    (served : ServedParameter) (instanceId : UInt16) (fullAttributes : Bool) (trailing : Bytes)
    {device last : Device}
    (talks : Dialogue.Converses (MessageRouter.Answers session router)
      (served.exchanges instanceId fullAttributes trailing) device last)
    (log : List EncapsPacket) :
    ∃ packets, read session.recorded router instanceId fullAttributes (device, log) =
        (.ok (served.object instanceId fullAttributes), (last, log ++ packets)) ∧
      packets.map EncapsPacket.data = (served.exchanges instanceId fullAttributes trailing).map
        (MessageRouter.Exchange.sent router) := by
  obtain ⟨packets, kept, data⟩ := MessageRouter.converses_recorded talks log
  exact ⟨packets, served.read_of_converses kept, data⟩

/-- A scalable parameter of four bytes. -/
def sampleParameter : ServedParameter where
  size := 4
  value := [1, 0, 0, 0]
  minValue := [0, 0, 0, 0]
  maxValue := [5, 0, 0, 0]
  defaultValue := [3, 0, 0, 0]
  linkPath := [0x20, 0x05, 0x24, 0x02, 0x30, 0x01]
  descriptor := 0x04
  dataType := ⟨0xC8⟩
  name := ['P']
  units := ['M', 'P', 'a']
  help := []
  scaling := [2, 0, 4, 0, 1, 0, 6, 0, 0, 0, 0, 0, 0, 0, 0, 0]
  precision := 1
  multiplier := 2
  divisor := 4
  base := 1
  offset := 6
  sized := by decide
  shortPath := by decide
  short := by decide
  scalingSize := rfl

theorem read_served_sample :
    ∃ packets, read MessageRouter.mockSession.recorded MessageRouter.new 1 true
        ((sampleParameter.exchanges 1 true [0]).map MessageRouter.Exchange.answer, []) =
        (.ok (sampleParameter.object 1 true), ([], [] ++ packets)) ∧
      packets.map EncapsPacket.data = (sampleParameter.exchanges 1 true [0]).map
        (MessageRouter.Exchange.sent MessageRouter.new) :=
  read_served sampleParameter 1 true [0]
    (MessageRouter.converses_mockSession MessageRouter.new (by decide)) []

/-! ### Whatever a device answers -/

/-- The value and its limits have one size. -/
structure Sized (size : Nat) (param : ParameterObject) : Prop where
  value : param.value.length = size
  minValue : param.minValue.length = size
  maxValue : param.maxValue.length = size
  defaultValue : param.defaultValue.length = size

theorem sized_new (instanceId : UInt16) (fullAttributes : Bool) (size : Nat) :
    Sized size (new instanceId fullAttributes size) :=
  ⟨List.length_replicate, List.length_replicate, List.length_replicate, List.length_replicate⟩

variable {size : Nat} {param after : ParameterObject} {buf rest : Bytes} {fullAttributes : Bool}

theorem Sized.takeDescription (sized : Sized size param)
    (taken : takeDescription size param buf = .ok (after, rest)) : Sized size after := by
  unfold ParameterObject.takeDescription at taken
  simp only [bind_eq_ok_iff, Prod.exists] at taken
  obtain ⟨value, buf, read, _, _, _, _, _, _, _, _, _, _, _, same⟩ := taken
  obtain ⟨rfl, -⟩ := Prod.mk.inj (Except.ok.inj same)
  exact { sized with value := (tryGetVec_eq_ok_iff.mp read).1 }

theorem Sized.takeFull (sized : Sized size param)
    (taken : takeFull size param buf = .ok (after, rest)) : Sized size after := by
  unfold ParameterObject.takeFull at taken
  simp only [bind_eq_ok_iff, Prod.exists] at taken
  obtain ⟨_, _, _, _, _, _, _, _, _, _, _, minValue, _, readMin, maxValue, _, readMax,
    defaultValue, _, readDefault, same⟩ := taken
  obtain ⟨rfl, -⟩ := Prod.mk.inj (Except.ok.inj same)
  exact {
    value := sized.value
    minValue := (tryGetVec_eq_ok_iff.mp readMin).1
    maxValue := (tryGetVec_eq_ok_iff.mp readMax).1
    defaultValue := (tryGetVec_eq_ok_iff.mp readDefault).1 }

theorem Sized.takePrecision (sized : Sized size param)
    (taken : takePrecision param buf = .ok (after, rest)) : Sized size after := by
  unfold ParameterObject.takePrecision at taken
  simp only [bind_eq_ok_iff, Prod.exists] at taken
  obtain ⟨_, _, precision, _, _, same⟩ := taken
  obtain ⟨rfl, -⟩ := Prod.mk.inj (Except.ok.inj same)
  exact { sized with }

theorem Sized.takeAttributes (sized : Sized size param)
    (taken : takeAttributes fullAttributes size param buf = .ok (after, rest)) :
    Sized size after := by
  obtain ⟨⟨described, behind⟩, description, taken⟩ := bind_eq_ok_iff.mp taken
  have sizedHere := sized.takeDescription description
  dsimp only at taken
  unfold takeRest at taken
  split at taken
  · obtain ⟨⟨filled, behindFull⟩, full, taken⟩ := bind_eq_ok_iff.mp taken
    have sizedFull := sizedHere.takeFull full
    dsimp only at taken
    split at taken
    · exact sizedFull.takePrecision taken
    · obtain ⟨rfl, -⟩ := Prod.mk.inj (Except.ok.inj taken)
      exact sizedFull
  · obtain ⟨rfl, -⟩ := Prod.mk.inj (Except.ok.inj taken)
    exact sizedHere

theorem Sized.takeScaling (sized : Sized size param)
    (taken : takeScaling param buf = .ok after) : Sized size after := by
  unfold ParameterObject.takeScaling at taken
  simp only [bind_eq_ok_iff, Prod.exists] at taken
  obtain ⟨_, _, _, _, _, _, _, _, _, _, _, _, same⟩ := taken
  obtain rfl := Except.ok.inj same
  exact { sized with }

/-- Each of the four values has a type exactly when the type has their size. -/
theorem Sized.typed (sized : Sized size param) (Value : Type) [CipValue Value] :
    ((∃ value, param.actualValue Value = .ok value) ↔ size = CipValue.size Value) ∧
      ((∃ value, param.minValueAs Value = .ok value) ↔ size = CipValue.size Value) ∧
      ((∃ value, param.maxValueAs Value = .ok value) ↔ size = CipValue.size Value) ∧
      ((∃ value, param.defaultValueAs Value = .ok value) ↔ size = CipValue.size Value) := by
  refine ⟨?_, ?_, ?_, ?_⟩
  · rw [actualValue, isOk_decode_iff, sized.value]
  · rw [minValueAs, isOk_decode_iff, sized.minValue]
  · rw [maxValueAs, isOk_decode_iff, sized.maxValue]
  · rw [defaultValueAs, isOk_decode_iff, sized.defaultValue]

section
variable {Device : Type} (session : Session Device) (router : MessageRouter) (instanceId : UInt16)
  (fullAttributes)

/-- The device answers the request for the data size of a parameter with success and a size. -/
def Announces (device : Device) (size : UInt8) : Prop :=
  ∃ response next rest,
    router.sendRequest session .getAttributeSingle
        (EPath.ofAttribute classId instanceId dataSizeAttribute) [] device = (.ok response, next) ∧
      response.generalStatus = .success ∧ response.data = size :: rest

theorem sized_read {device : Device} {log : List EncapsPacket}
    {last : Device × List EncapsPacket}
    (read : read session.recorded router instanceId fullAttributes (device, log) =
      (.ok param, last)) :
    ∃ size, Announces session router instanceId device size ∧ Sized size.toNat param := by
  unfold ParameterObject.read at read
  obtain ⟨sizeReply, asked, sizeAsked, read⟩ := Dialogue.bind_eq_ok_iff.mp read
  obtain ⟨⟨size, rest⟩, askedSize, sizeTaken, read⟩ := Dialogue.bind_eq_ok_iff.mp read
  obtain ⟨all, askedAll, -, read⟩ := Dialogue.bind_eq_ok_iff.mp read
  obtain ⟨⟨taken, _⟩, afterAll, attributes, read⟩ := Dialogue.bind_eq_ok_iff.mp read
  obtain ⟨attributes, -⟩ := Dialogue.settled_eq_ok_iff.mp attributes
  have announces : Announces session router instanceId device size := by
    obtain ⟨response, replied, success, rfl⟩ := MessageRouter.response_of_ask_recorded sizeAsked
    obtain ⟨front, -⟩ := Dialogue.settled_eq_ok_iff.mp sizeTaken
    refine ⟨response, _, rest, replied, success, ?_⟩
    rw [tryGetU8_eq_ok_iff.mp front, putU8_eq, List.singleton_append]
  have sized := (sized_new instanceId fullAttributes size.toNat).takeAttributes attributes
  dsimp only at read
  refine ⟨size, announces, ?_⟩
  split at read
  · obtain ⟨scaling, scaled, -, read⟩ := Dialogue.bind_eq_ok_iff.mp read
    obtain ⟨read, -⟩ := Dialogue.settled_eq_ok_iff.mp read
    exact sized.takeScaling read
  · obtain ⟨same, -⟩ := Prod.mk.inj read
    obtain rfl := Except.ok.inj same
    exact sized

/-- The requests for a parameter are made in order, up to some place. -/
theorem asksAtMost_read :
    Dialogue.AsksAtMost MessageRouter.handedData (requests router instanceId fullAttributes)
      (read session.recorded router instanceId fullAttributes) := by
  have scaling : Dialogue.Asks MessageRouter.handedData (scalingAttributes.map fun id =>
      router.requestData .getAttributeSingle (EPath.ofAttribute classId instanceId id) [])
      (readScaling session.recorded router instanceId) :=
    Dialogue.asks_mapM (fun id => MessageRouter.asks_ask session router _ _ _ _) scalingAttributes
  have size := MessageRouter.asks_ask session router .getAttributeSingle
    (EPath.ofAttribute classId instanceId dataSizeAttribute) [] "read parameter data size"
  have all := MessageRouter.asks_ask session router .getAttributeAll
    (EPath.ofInstance classId instanceId) [] "read parameter attributes"
  refine size.bindAtMost fun sizeReply => ?_
  refine (Dialogue.asks_settled _).bindAtMost fun dataSize => ?_
  refine all.bindAtMost fun attributes => ?_
  refine (Dialogue.asks_settled _).bindAtMost fun taken => ?_
  dsimp only
  cases fullAttributes with
  | false => exact Dialogue.asksAtMost_settled _ (.ok taken.1)
  | true =>
    split
    · have scaled := scaling.bindAtMost fun values =>
        Dialogue.asksAtMost_settled [] (taken.1.takeScaling values.flatten)
      rwa [List.append_nil] at scaled
    · exact Dialogue.asksAtMost_settled _ (.ok taken.1)

end

/-- Whatever a device answers, and whatever fails: a parameter is read in requests for its size,
for all of its attributes and for the scaling attributes, in this order and no others, up to some
place; and if it is read, a type fits its value and its limits exactly when it has the size that
the device announced. -/
theorem read_disciplined {Device : Type} (session : Session Device) (router : MessageRouter)
    (instanceId : UInt16) (fullAttributes : Bool) (device : Device) :
    ∃ asked, MessageRouter.handedData
        (read session.recorded router instanceId fullAttributes (device, [])).2 = asked ∧
      asked <+: requests router instanceId fullAttributes ∧
      ∀ param, (read session.recorded router instanceId fullAttributes (device, [])).1 =
        .ok param → ∃ size, Announces session router instanceId device size ∧
          param.rawValue.length = size.toNat ∧ ∀ (Value : Type) [CipValue Value],
            ((∃ value, param.actualValue Value = .ok value) ↔
                size.toNat = CipValue.size Value) ∧
              ((∃ value, param.minValueAs Value = .ok value) ↔
                size.toNat = CipValue.size Value) ∧
              ((∃ value, param.maxValueAs Value = .ok value) ↔
                size.toNat = CipValue.size Value) ∧
              ((∃ value, param.defaultValueAs Value = .ok value) ↔
                size.toNat = CipValue.size Value) := by
  obtain ⟨asked, grown, front⟩ :=
    asksAtMost_read fullAttributes session router instanceId (device, [])
  refine ⟨asked, grown, front, fun param same => ?_⟩
  obtain ⟨size, announces, sized⟩ := sized_read fullAttributes session router instanceId
    (Prod.ext same rfl)
  exact ⟨size, announces, sized.value, fun Value _ => sized.typed Value⟩

/-! ### Attributes that are cut -/

theorem local_trySkip {Value : Type} (length : Nat)
    {next : Bytes → Except Error (Value × Bytes)} (isLocal : Local next) :
    Local fun input => trySkip length input >>= next := by
  have behind : Local fun input => (tryGetVec length input).bind fun taken => next taken.2 :=
    (local_tryGetVec length).andThen fun _ => isLocal
  have same : (fun input => trySkip length input >>= next) =
      fun input => (tryGetVec length input).bind fun taken => next taken.2 := by
    funext input
    unfold trySkip tryGetVec
    split
    · rfl
    · rfl
  rwa [same]

theorem local_takeDescription (size : Nat) (param : ParameterObject) :
    Local (takeDescription size param) :=
  (local_tryGetVec size).andThen fun _ =>
    (local_tryGetInt 1 UInt8.ofNat).andThen fun _ =>
      local_trySkip _ <| (local_tryGetInt 2 UInt16.ofNat).andThen fun _ =>
        (local_tryGetInt 1 UInt8.ofNat).andThen fun _ => Local.done _

theorem local_takeFull (size : Nat) (param : ParameterObject) : Local (takeFull size param) :=
  local_trySkip 1 <| local_tryGetShortString.andThen fun _ =>
    local_tryGetShortString.andThen fun _ =>
      local_tryGetShortString.andThen fun _ =>
        (local_tryGetVec size).andThen fun _ =>
          (local_tryGetVec size).andThen fun _ =>
            (local_tryGetVec size).andThen fun _ => Local.done _

theorem local_takePrecision (param : ParameterObject) : Local (takePrecision param) :=
  local_trySkip 16 <| (local_tryGetInt 1 UInt8.ofNat).andThen fun _ => Local.done _

theorem local_takeRest (fullAttributes : Bool) (size : Nat) (param : ParameterObject) :
    Local (takeRest fullAttributes size param) := by
  have precision (param : ParameterObject) : Local fun buf =>
      if param.isScalable then takePrecision param buf else .ok (param, buf) := by
    cases param.isScalable with
    | false => exact Local.done param
    | true => exact local_takePrecision param
  cases fullAttributes with
  | false => exact Local.done param
  | true => exact (local_takeFull size param).andThen precision

/-- Nothing behind the attributes that are read is looked at. -/
theorem local_takeAttributes (fullAttributes : Bool) (size : Nat) (param : ParameterObject) :
    Local (takeAttributes fullAttributes size param) :=
  (local_takeDescription size param).andThen (local_takeRest fullAttributes size)

/-- Attributes that are cut anywhere are refused, and no scaling attribute is asked for. -/
theorem read_cut {Device : Type} {session : Session Device} {router : MessageRouter}
    (served : ServedParameter) (instanceId : UInt16) (fullAttributes : Bool) {front : Bytes}
    (within : front <+: served.attributes fullAttributes)
    (cut : front ≠ served.attributes fullAttributes) {device last : Device}
    (talks : Dialogue.Converses (MessageRouter.Answers session router)
      (served.begins instanceId front) device last) (log : List EncapsPacket) :
    ∃ refused packets, read session.recorded router instanceId fullAttributes (device, log) =
        (.error refused, (last, log ++ packets)) ∧
      packets.map EncapsPacket.data = requests router instanceId false := by
  obtain ⟨back, whole⟩ := within
  have all := served.takeAttributes_attributes instanceId fullAttributes []
  rw [List.append_nil, ← whole] at all
  have missing : back ≠ [] := by
    rintro rfl
    exact cut (by rw [← whole, List.append_nil])
  obtain ⟨refused, failed⟩ := (local_takeAttributes fullAttributes served.size.toNat
    (new instanceId fullAttributes served.size.toNat)).refused_of_front all missing
  obtain ⟨packets, kept, data⟩ := MessageRouter.converses_recorded talks log
  refine ⟨refused, packets, ?_, data⟩
  obtain ⟨sized, sizeAnswers, told, allAnswers, rfl⟩ := kept
  have size : tryGetU8 (putU8 served.size) = .ok (served.size, []) := by
    rw [← List.append_nil (putU8 served.size), tryGetU8_putU8]
  rw [read, Dialogue.bind_of_ok (sizeAnswers.ask _), Dialogue.bind_settled_ok size]
  dsimp only
  rw [Dialogue.bind_of_ok (allAnswers.ask _), Dialogue.bind_settled_error failed]

/-- The sample parameter, cut behind its value. -/
theorem read_cut_sample :
    ∃ refused packets, read MessageRouter.mockSession.recorded MessageRouter.new 1 true
        ((sampleParameter.begins 1 [1, 0, 0, 0]).map MessageRouter.Exchange.answer, []) =
        (.error refused, ([], [] ++ packets)) ∧
      packets.map EncapsPacket.data = requests MessageRouter.new 1 false :=
  read_cut sampleParameter 1 true ⟨(sampleParameter.attributes true).drop 4, by decide⟩ (by decide)
    (MessageRouter.converses_mockSession MessageRouter.new (by decide)) []

end ParameterObject

end EipScanner
