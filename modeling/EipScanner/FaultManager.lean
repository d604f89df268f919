/-
This file models the fault manager of a PowerFlex 525 drive. The drive keeps a queue of ten faults
that is read in parameters: one for the code of each place, and one each for the bus voltage, the
current and the frequency at the time of the fault. The manager reads the places in order until one
is empty, hands each fault to a handler, and then clears the queue if it is configured to.

Each parameter is read in a request of its own, and the queue is cleared in a request of its own.
An error leaves at once, and what was read until then is dropped. A scaled value is a quotient
here, and its rounding to a float is left out.
-/

import EipScanner.RouterReply

namespace EipScanner

namespace ServiceCode

def getAttributeSingle : ServiceCode := ⟨0x0E⟩
def setAttributeSingle : ServiceCode := ⟨0x10⟩

end ServiceCode

/-! ### Fault codes -/

/-- Description of a PowerFlex 525 fault code. -/
structure FaultDescription where
  /-- Fault type as listed in the user manual. -/
  faultType : UInt8
  text : String
  description : String
  deriving DecidableEq, Repr

/-- Sorted by code. -/
def faults : List (UInt16 × FaultDescription) :=
  [(0, ⟨0, "No Fault",
     "No fault present."⟩),
   (2, ⟨1, "Heatsink OvrTmp",
     "Heatsink/Power Module temperature exceeds a predefined value."⟩),
   (3, ⟨2, "Power Loss",
     "Single phase operation detected with excessive load."⟩),
   (4, ⟨1, "UnderVoltage",
     "DC bus voltage fell below the minimum value."⟩),
   (5, ⟨1, "OverVoltage",
     "DC bus voltage exceeded maximum value."⟩),
   (6, ⟨1, "Motor Stalled",
     "Drive is unable to accelerate or decelerate motor."⟩),
   (7, ⟨1, "Motor Overload",
     "Internal electronic overload trip."⟩),
   (8, ⟨1, "Heatsink OvrTmp",
     "Heatsink/Power Module temperature exceeds a predefined value."⟩),
   (9, ⟨1, "CC OvrTmp",
     "Control module temperature exceeds a predefined value."⟩),
   (12, ⟨2, "HW OverCurrent",
     "The drive output current has exceeded the hardware current limit."⟩),
   (13, ⟨1, "Ground Fault",
     "A current path to earth ground has been detected at one or more of the drive " ++
     "output terminals."⟩),
   (15, ⟨2, "Load Loss",
     "The output torque current is below the value programmed in A490 [Load Loss Level] " ++
     "for a time period greater than the time programmed in A491 [Load Loss Time]."⟩),
   (21, ⟨1, "Output Ph Loss",
     "Output Phase Loss (if enabled). Configure with A557 [Output Phas Loss En]"⟩),
   (29, ⟨1, "Analog In Loss",
     "An analog input is configured to fault on signal loss. A signal loss has occurred. " ++
     "Configure with t094 [Anlg In V Loss] or t097 [Anlg In mA Loss]."⟩),
   (33, ⟨2, "Auto Rstrt Tries",
     "Drive unsuccessfully attempted to reset a fault and resume running for the " ++
     "programmed number of A541 [Auto Rstrt Tries]."⟩),
   (38, ⟨2, "Phase U to Gnd",
     "A phase to ground fault has been detected between the drive and motor in this " ++
     "phase."⟩),
   (39, ⟨2, " Phase V to Gnd",
     "A phase to ground fault has been detected between the drive and motor in this " ++
     "phase."⟩),
   (40, ⟨2, " Phase W to Gnd",
     "A phase to ground fault has been detected between the drive and motor in this " ++
     "phase."⟩),
   (41, ⟨2, "Phase UV Short",
     "Excessive current has been detected between these two output terminals"⟩),
   (42, ⟨2, "Phase UW Short",
     "Excessive current has been detected between these two output terminals"⟩),
   (43, ⟨2, "Phase VW Short",
     "Excessive current has been detected between these two output terminals"⟩),
   (48, ⟨1, "Params Defaulted",
     " The drive was commanded to write default values to EEPROM."⟩),
   (59, ⟨1, "Safety Open",
     "Both of the safety inputs (Safety 1, Safety 2) are not enabled. Configure with " ++
     "t105 [Safety Open En]."⟩),
   (63, ⟨1, "SW OverCurrent",
     "Programmed A486, A488 [Shear Pinx Level] has been exceeded for a time period " ++
     "greater than the time programmed in A487, A489 [Shear Pin x Time]."⟩),
   (64, ⟨2, "Drive Overload",
     "Drive overload rating has been exceeded."⟩),
   (70, ⟨2, "Power Unit",
     "Failure has been detected in the drive power section."⟩),
   (71, ⟨2, "DSI Net Loss",
     "Control over the Modbus or DSI communications link has been interrupted."⟩),
   (72, ⟨2, "Opt Net Loss",
     "Control over the network option card’s remote network has been interrupted."⟩),
   (73, ⟨2, "EN Net Loss",
     "Control through the embedded EtherNet/IP adapter has been interrupted."⟩),
   (80, ⟨2, "Autotune Failure",
     "The autotune function was either cancelled by the user or failed."⟩),
   (81, ⟨2, "DSI Comm Loss",
     "Communications between the drive and the Modbus or DSI master device have been " ++
     "interrupted."⟩),
   (82, ⟨2, "Opt Comm Loss",
     "Communications between the drive and the network option card have been " ++
     "interrupted."⟩),
   (83, ⟨2, "EN Comm Loss",
     "Internal communications between the drive and the embedded EtherNet/IP adapter " ++
     "have been interrupted."⟩),
   (91, ⟨2, "Encoder Loss",
     "Requires differential encoder. One of the 2 encoder channel signals is missing"⟩),
   (94, ⟨2, "Function Loss",
     "'Freeze-Fire' (Function Loss) input is inactive, input to the programmed terminal " ++
     "is open."⟩),
   (100, ⟨2, "Parameter Chksum",
     "Drive parameter non-volatile storage is corrupted."⟩),
   (101, ⟨2, "External Storage",
     "External non-volatile storage has failed."⟩),
   (105, ⟨2, "C Connect Err",
     "Control module was disconnected while drive was powered."⟩),
   (106, ⟨2, "Incompat C-P",
     "The PowerFlex 525 control module does not support power modules with 0.25 HP power " ++
     "rating"⟩),
   (107, ⟨2, "Replaced C-P",
     "The control module could not recognize the power module. Hardware failure."⟩),
   (109, ⟨2, "Mismatch C-P",
     "The control module was mounted to a different drive type power module"⟩),
   (110, ⟨2, "Keypad Membrane",
     "Keypad membrane failure / disconnected."⟩),
   (111, ⟨2, "Safety Hardware",
     "Safety input enable hardware malfunction. One of the safety inputs is not enabled."⟩),
   (114, ⟨2, "uC Failure",
     "Microprocessor failure."⟩),
   (122, ⟨2, "I/O Board Fail",
     "Failure has been detected in the drive control and I/O section."⟩),
   (125, ⟨2, "Flash Update Req",
     "The firmware in the drive is corrupt, mismatched, or incompatible with the " ++
     "hardware."⟩),
   (126, ⟨2, "NonRecoverablErr",
     "A non-recoverable firmware or hardware error was detected. The drive was " ++
     "automatically stopped and reset."⟩),
   (127, ⟨2, "DSIFlashUpdatReq",
     "A critical problem with the firmware was detected and the drive is running using " ++
     "backup firmware that only supports DSI communications."⟩)]

/-- Looks up a fault code; `none` if it is not in the table. -/
def faultDescription (code : UInt16) : Option FaultDescription :=
  (faults.find? fun entry => entry.1 == code).map Prod.snd

/-- The table is sorted, so that it has at most one entry for a code. -/
theorem faults_sorted : (faults.map Prod.fst).Pairwise (· < ·) := by decide

/-! ### Parameters of the queue -/

/-- Class of the parameter object. -/
def parameterClassId : UInt16 := 0x0F

/-- Class of the DPI fault object. -/
def dpiFaultClassId : UInt16 := 0x97

/-- Fault queue parameter numbers, index 0 = fault 1. -/
def codeParams : Vector UInt16 10 := #v[7, 8, 9, 604, 605, 606, 607, 608, 609, 610]
def frequencyParams : Vector UInt16 10 := #v[631, 632, 633, 634, 635, 636, 637, 638, 639, 640]
def currentParams : Vector UInt16 10 := #v[641, 642, 643, 644, 645, 646, 647, 648, 649, 650]
def busVoltsParams : Vector UInt16 10 := #v[651, 652, 653, 654, 655, 656, 657, 658, 659, 660]

structure FaultDetails where
  /-- Position in the fault queue, 1-10. -/
  faultNumber : UInt8
  faultCode : UInt16
  /-- Volts; 0 unless details were requested. -/
  busVoltage : ℚ
  /-- Amps; 0 unless details were requested. -/
  current : ℚ
  /-- Hz; 0 unless details were requested. -/
  frequency : ℚ
  deriving DecidableEq, Repr

/-- One entry of the drive's fault queue. -/
structure DpiFaultParameter where
  faultDetails : FaultDetails
  faultDescription : Option FaultDescription
  deriving DecidableEq, Repr

/-- The code of an entry. -/
def DpiFaultParameter.code (fault : DpiFaultParameter) : UInt16 := fault.faultDetails.faultCode

/-- The index of a fault number in the tables. -/
def faultIndex (faultNumber : UInt8) : Option (Fin 10) :=
  if inTable : 1 ≤ faultNumber.toNat ∧ faultNumber.toNat - 1 < 10 then
    some ⟨faultNumber.toNat - 1, inTable.2⟩
  else none

def scale (raw : UInt16) (precision : Nat) : ℚ := raw.toNat / 10 ^ precision

section
variable {Device : Type} (session : Session Device) (router : MessageRouter)

def readParam (parameter : UInt16) (device : Device) : Except Error UInt16 × Device :=
  let (reply, device) := router.sendRequest session .getAttributeSingle
    (EPath.ofAttribute parameterClassId parameter 1) [] device
  (do
    let reply ← reply
    let reply ← reply.check s!"read fault parameter {parameter.toNat}"
    let (value, _) ← tryGetU16 reply.data
    return value, device)

/-- The bus voltage, current, and frequency at the time of a fault. -/
def readDetails (index : Fin 10) (details : FaultDetails) (device : Device) :
    Except Error FaultDetails × Device :=
  match readParam session router (busVoltsParams.get index) device with
  | (.error refused, device) => (.error refused, device)
  | (.ok busVoltage, device) =>
    match readParam session router (currentParams.get index) device with
    | (.error refused, device) => (.error refused, device)
    | (.ok current, device) =>
      match readParam session router (frequencyParams.get index) device with
      | (.error refused, device) => (.error refused, device)
      | (.ok frequency, device) =>
        (.ok { details with
          busVoltage := scale busVoltage 0
          current := scale current 2
          frequency := scale frequency 2 }, device)

/-- Reads a fault of the queue, with its details if they are asked for. -/
def DpiFaultParameter.read (faultNumber : UInt8) (getDetails : Bool) (device : Device) :
    Except Error DpiFaultParameter × Device :=
  match faultIndex faultNumber with
  | none => (.error (.unsupported s!"fault number {faultNumber.toNat} must be 1-10"), device)
  | some index =>
    match readParam session router (codeParams.get index) device with
    | (.error refused, device) => (.error refused, device)
    | (.ok faultCode, device) =>
      let details : FaultDetails := ⟨faultNumber, faultCode, 0, 0, 0⟩
      if faultCode ≠ 0 ∧ getDetails = true then
        match readDetails session router index details device with
        | (.error refused, device) => (.error refused, device)
        | (.ok details, device) =>
          (.ok ⟨details, EipScanner.faultDescription faultCode⟩, device)
      else (.ok ⟨details, EipScanner.faultDescription faultCode⟩, device)

variable {session router} {index : Fin 10} {device next after : Device} {faultNumber : UInt8}
  {getDetails : Bool}

/-- What every read of a parameter keeps, a read of the details keeps. The code stays. -/
theorem readDetails_keeps {Holds : Device → Prop} {details : FaultDetails}
    {result : Except Error FaultDetails}
    (keeps : ∀ {parameter device outcome next}, Holds device →
      readParam session router parameter device = (outcome, next) → Holds next)
    (here : Holds device)
    (returned : readDetails session router index details device = (result, after)) :
    Holds after ∧ ∀ read, result = .ok read → read.faultCode = details.faultCode := by
  have fails : ∀ {refused : Error} {next : Device}, Holds next →
      (Except.error refused, next) = (result, after) →
        Holds after ∧ ∀ read, result = .ok read → read.faultCode = details.faultCode := by
    intro refused next here same
    obtain ⟨rfl, rfl⟩ := Prod.mk.inj same
    exact ⟨here, by simp⟩
  unfold readDetails at returned
  rcases volts : readParam session router (busVoltsParams.get index) device with
    ⟨refused | busVoltage, next⟩
  · rw [volts] at returned
    exact fails (keeps here volts) returned
  have here := keeps here volts
  rw [volts] at returned
  dsimp only at returned
  rcases amps : readParam session router (currentParams.get index) next with
    ⟨refused | current, next⟩
  · rw [amps] at returned
    exact fails (keeps here amps) returned
  have here := keeps here amps
  rw [amps] at returned
  dsimp only at returned
  rcases hertz : readParam session router (frequencyParams.get index) next with
    ⟨refused | frequency, next⟩
  · rw [hertz] at returned
    exact fails (keeps here hertz) returned
  rw [hertz] at returned
  obtain ⟨rfl, rfl⟩ := Prod.mk.inj returned
  refine ⟨keeps here hertz, fun read same => ?_⟩
  obtain rfl := Except.ok.inj same
  rfl

/-- A fault is read in the parameter of its code, and then in those of its details. -/
theorem DpiFaultParameter.read_keeps {Holds : Device → Prop}
    {outcome : Except Error UInt16} {result : Except Error DpiFaultParameter}
    (keeps : ∀ {parameter device outcome next}, Holds device →
      readParam session router parameter device = (outcome, next) → Holds next)
    (isIndex : faultIndex faultNumber = some index)
    (asked : readParam session router (codeParams.get index) device = (outcome, next))
    (here : Holds next)
    (returned : read session router faultNumber getDetails device = (result, after)) :
    Holds after ∧ ∀ fault, result = .ok fault → outcome = .ok fault.code := by
  unfold read at returned
  rw [isIndex] at returned
  dsimp only at returned
  rw [asked] at returned
  rcases outcome with refused | faultCode
  · obtain ⟨rfl, rfl⟩ := Prod.mk.inj returned
    exact ⟨here, by simp⟩
  dsimp only at returned
  split at returned
  · rcases more : readDetails session router index ⟨faultNumber, faultCode, 0, 0, 0⟩ next with
      ⟨refused | details, last⟩
    · rw [more] at returned
      obtain ⟨rfl, rfl⟩ := Prod.mk.inj returned
      exact ⟨(readDetails_keeps keeps here more).1, by simp⟩
    · obtain ⟨kept, sameCode⟩ := readDetails_keeps keeps here more
      rw [more] at returned
      obtain ⟨rfl, rfl⟩ := Prod.mk.inj returned
      refine ⟨kept, fun fault same => ?_⟩
      obtain rfl := Except.ok.inj same
      exact congrArg Except.ok (sameCode details rfl).symm
  · obtain ⟨rfl, rfl⟩ := Prod.mk.inj returned
    refine ⟨here, fun fault same => ?_⟩
    obtain rfl := Except.ok.inj same
    rfl

end

/-! ### The manager -/

/-- Commands written to attribute 3 of the DPI fault object class. -/
structure DpiFaultCommand where
  code : UInt8
  deriving DecidableEq, Repr

namespace DpiFaultCommand

def noOperation : DpiFaultCommand := ⟨0⟩
def clearFault : DpiFaultCommand := ⟨1⟩
def clearFaultQueue : DpiFaultCommand := ⟨2⟩
def resetDevice : DpiFaultCommand := ⟨3⟩

def text (command : DpiFaultCommand) : String :=
  wireCodeText "DpiFaultCommand"
    [(0, "NO_OPERATION"), (1, "CLEAR_FAULT"), (2, "CLEAR_FAULT_QUEUE"), (3, "RESET_DEVICE")]
    command.code.toNat

end DpiFaultCommand

/-- Reads the drive's fault queue and optionally clears it. The handler for new faults changes
what it has seen. -/
structure DpiFaultManager (Seen : Type) where
  clearFaults : Bool
  getFaultDetails : Bool
  onNewFault : Option (DpiFaultParameter → Seen → Seen)

namespace DpiFaultManager

def faultCommandWrite : UInt16 := 3
def maxFaultNumber : UInt8 := 10

section
variable {Seen Device : Type}

def new (clearFaults getFaultDetails : Bool) : DpiFaultManager Seen :=
  ⟨clearFaults, getFaultDetails, none⟩

/-- Clears the queue after reading it; doesn't read fault details. -/
def default : DpiFaultManager Seen := new true false

/-- What was read so far, what the handler has seen of it, and the state of the session. -/
structure Progress (Seen Device : Type) where
  faults : List DpiFaultParameter
  seen : Seen
  device : Device
  deriving DecidableEq, Repr

variable (manager : DpiFaultManager Seen) (session : Session Device) (router : MessageRouter)

def writeCommand (command : DpiFaultCommand) (device : Device) : Except Error Unit × Device :=
  let (reply, device) := router.sendRequest session .setAttributeSingle
    (EPath.ofAttribute dpiFaultClassId 0 faultCommandWrite) [command.code] device
  (do
    let reply ← reply
    let _ ← reply.check s!"write DPI fault command {command.text}"
    return (), device)

/-- A fault was read: the handler is called with it. -/
def Progress.push (progress : Progress Seen Device) (fault : DpiFaultParameter) :
    Progress Seen Device :=
  { progress with
    faults := progress.faults ++ [fault]
    seen := match manager.onNewFault with
      | some handler => handler fault progress.seen
      | none => progress.seen }

/-- Reads the faults with the numbers until an empty entry. -/
def readFaults : List UInt8 → Progress Seen Device → Except Error Unit × Progress Seen Device
  | [], progress => (.ok (), progress)
  | number :: numbers, progress =>
    match DpiFaultParameter.read session router number manager.getFaultDetails progress.device with
    | (.error refused, device) => (.error refused, { progress with device })
    | (.ok fault, device) =>
      if fault.code = 0 then (.ok (), { progress with device })
      else readFaults numbers (Progress.push manager { progress with device } fault)

/-- The numbers of the entries. -/
def faultNumbers : List UInt8 := (List.range' 1 maxFaultNumber.toNat).map UInt8.ofNat

/-- Reads faults 1-10 until an empty entry, calling the new-fault handler for each, then clears the
queue if configured to. Returns the faults. -/
def handleFaultParameters (seen : Seen) (device : Device) :
    Except Error (List DpiFaultParameter) × Seen × Device :=
  match readFaults manager session router faultNumbers ⟨[], seen, device⟩ with
  | (.error refused, progress) => (.error refused, progress.seen, progress.device)
  | (.ok (), progress) =>
    if progress.faults ≠ [] ∧ manager.clearFaults = true then
      match writeCommand session router .clearFaultQueue progress.device with
      | (.error refused, device) => (.error refused, progress.seen, device)
      | (.ok (), device) => (.ok progress.faults, progress.seen, device)
    else (.ok progress.faults, progress.seen, progress.device)

variable {manager session router} {number : UInt8} {numbers : List UInt8}
  {progress : Progress Seen Device} {device : Device}

theorem readFaults_of_error {refused : Error}
    (read : DpiFaultParameter.read session router number manager.getFaultDetails progress.device =
      (.error refused, device)) :
    readFaults manager session router (number :: numbers) progress =
      (.error refused, { progress with device }) := by
  rw [readFaults, read]

theorem readFaults_of_empty {fault : DpiFaultParameter}
    (read : DpiFaultParameter.read session router number manager.getFaultDetails progress.device =
      (.ok fault, device)) (empty : fault.code = 0) :
    readFaults manager session router (number :: numbers) progress =
      (.ok (), { progress with device }) := by
  rw [readFaults, read]
  dsimp only
  rw [if_pos empty]

theorem readFaults_of_fault {fault : DpiFaultParameter}
    (read : DpiFaultParameter.read session router number manager.getFaultDetails progress.device =
      (.ok fault, device)) (present : fault.code ≠ 0) :
    readFaults manager session router (number :: numbers) progress =
      readFaults manager session router numbers
        (Progress.push manager { progress with device } fault) := by
  rw [readFaults, read]
  dsimp only
  rw [if_neg present]

end

end DpiFaultManager

end EipScanner
