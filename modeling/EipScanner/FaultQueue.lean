/-
This file is about a drive whose fault queue changes while the fault manager reads and clears it.
Before each request the drive may record faults, which move the older ones back and the oldest out
of the queue, and the reply to each request may be lost.

A fault that was there when the first place was read is moved towards the places that are still to
be read, and never past the last one that is, unless it leaves the queue. So the manager returns
every such fault that the clearing removes. A fault that is recorded later goes in front of what is
read. The clearing removes it too, and when the reply to the clearing is lost, everything that was
read is dropped.
-/

import EipScanner.FaultManager
import EipScanner.FileUpload
import EipScanner.ShiftedScan

namespace EipScanner

open ShiftedScan

/-! ### The queue of a drive -/

/-- The code of a fault. Zero stands for an empty place. -/
abbrev FaultCode : Type := {code : UInt16 // code ≠ 0}

/-- The fault queue of a drive, newest first. -/
structure FaultQueue where
  faults : List FaultCode
  few : faults.length ≤ 10
  deriving DecidableEq, Repr

namespace FaultQueue

def empty : FaultQueue := ⟨[], Nat.zero_le _⟩

/-- A fault is recorded in front, and the oldest leaves a full queue. -/
def record (queue : FaultQueue) (fault : FaultCode) : FaultQueue :=
  ⟨(fault :: queue.faults).take 10, List.length_take_le _ _⟩

/-- Faults are recorded one after the other. -/
def recordAll (queue : FaultQueue) (recorded : List FaultCode) : FaultQueue :=
  recorded.foldl record queue

/-- The code in a place. -/
def codeAt (queue : FaultQueue) (index : Nat) : UInt16 :=
  match queue.faults[index]? with
  | some fault => fault.val
  | none => 0

theorem faults_recordAll (queue : FaultQueue) (recorded : List FaultCode) :
    (queue.recordAll recorded).faults = (recorded.reverse ++ queue.faults).take 10 := by
  induction recorded generalizing queue with
  | nil => exact (List.take_of_length_le queue.few).symm
  | cons fault recorded inductionHypothesis =>
    calc (recorded.foldl record (queue.record fault)).faults
      _ = (recorded.reverse ++ (fault :: queue.faults).take 10).take 10 :=
        inductionHypothesis (queue.record fault)
      _ = (recorded.reverse ++ fault :: queue.faults).take 10 := take_append_take _ _ _
      _ = ((fault :: recorded).reverse ++ queue.faults).take 10 := by
        rw [List.reverse_cons, List.append_assoc, List.singleton_append]

theorem codeAt_eq_zero_iff {queue : FaultQueue} {index : Nat} :
    queue.codeAt index = 0 ↔ queue.faults.length ≤ index := by
  rw [← List.getElem?_eq_none_iff]
  unfold codeAt
  cases queue.faults[index]? with
  | none => simp
  | some fault => simp [fault.property]

end FaultQueue

/-! ### What happens at the drive -/

/-- What happens around a request: the faults that the drive records before it, in order, and
whether the reply to it is lost. -/
structure Occurrence where
  recorded : List FaultCode
  lost : Bool
  deriving DecidableEq, Repr

/-- A drive, the number of requests it was sent, and the faults that were cleared. -/
structure Drive where
  queue : FaultQueue
  requests : Nat
  removed : List FaultCode
  deriving DecidableEq, Repr

namespace Drive

variable (occurs : Nat → Occurrence) (values : Drive → UInt16 → UInt16)

/-- The drive when the next request gets to it. -/
def arrive (drive : Drive) : Drive :=
  { drive with
    queue := drive.queue.recordAll (occurs drive.requests).recorded
    requests := drive.requests + 1 }

/-- The value of a parameter: a code of the queue, or any value. -/
def parameter (drive : Drive) (number : UInt16) : UInt16 :=
  match codeParams.toList.idxOf? number with
  | some index => drive.queue.codeAt index
  | none => values drive number

/-- The queue is cleared. -/
def clear (drive : Drive) : Drive :=
  { drive with queue := .empty, removed := drive.removed ++ drive.queue.faults }

/-- What the drive answers a request. It reads its parameters and clears its queue. -/
def serve (service : ServiceCode) (path : EPath) (data : Bytes) (drive : Drive) : Bytes × Drive :=
  if service = .setAttributeSingle then
    if path = EPath.ofAttribute dpiFaultClassId 0 DpiFaultManager.faultCommandWrite ∧
        data = [DpiFaultCommand.clearFaultQueue.code] then
      ([], drive.clear)
    else ([], drive)
  else if path.classId = parameterClassId ∧ path.attributeId = some 1 then
    (putU16 (drive.parameter values (path.instanceId.getD 0)), drive)
  else ([], drive)

/-- The session to a drive. -/
def session : Session Drive where
  sessionHandle _ := 1
  sendAndReceive packet drive :=
    match FileObject.requestIn packet with
    | .error refused => (.error refused, drive)
    | .ok parts =>
      match EPath.decode parts.path with
      | .error refused => (.error refused, drive)
      | .ok path =>
        let (answer, next) := (drive.arrive occurs).serve values parts.service path parts.data
        if (occurs drive.requests).lost = true then (.error .io, next)
        else
          (.ok { packet with data := (FileObject.replyWith parts.service answer).payload }, next)

/-! ### The manager's requests -/

variable {occurs values}

/-- An answer is short. -/
theorem length_serve (values : Drive → UInt16 → UInt16) (service : ServiceCode) (path : EPath)
    (data : Bytes) (drive : Drive) : (drive.serve values service path data).1.length ≤ 2 := by
  unfold serve
  split
  · split
    · exact Nat.zero_le _
    · exact Nat.zero_le _
  · split
    · exact (length_putU16 _).le
    · exact Nat.zero_le _

/-- What comes back of a request: the answer of the drive, unless the reply is lost. -/
theorem sendRequest_session (router : MessageRouter) (service : ServiceCode) (path : EPath)
    {data : Bytes} (small : data.length ≤ 255) (drive : Drive) :
    router.sendRequest (session occurs values) service path data drive =
      (if (occurs drive.requests).lost = true then .error .io
        else .ok (FileObject.replyWith service
          ((drive.arrive occurs).serve values service path data).1).response,
        ((drive.arrive occurs).serve values service path data).2) := by
  have short := length_serve values service path data (drive.arrive occurs)
  have fits := FileObject.fits_replyWith service (le_trans short (by decide : 2 ≤ 65531))
  rw [MessageRouter.sendRequest, MessageRouter.sendRequestWithItems_eq]
  simp only [session]
  rw [FileObject.requestIn_of_short router service path small]
  dsimp only
  rw [path.decode_encode]
  dsimp only
  by_cases lost : (occurs drive.requests).lost = true
  · rw [if_pos lost, if_pos lost]
    rfl
  · rw [if_neg lost, if_neg lost]
    dsimp only
    rw [ok_bind, RouterReply.decodeReply_payload fits]

theorem readParam_session (router : MessageRouter) (number : UInt16) (drive : Drive) :
    readParam (session occurs values) router number drive =
      (if (occurs drive.requests).lost = true then .error .io
        else .ok ((drive.arrive occurs).parameter values number), drive.arrive occurs) := by
  have served : (drive.arrive occurs).serve values .getAttributeSingle
      (EPath.ofAttribute parameterClassId number 1) [] =
        (putU16 ((drive.arrive occurs).parameter values number), drive.arrive occurs) := by
    unfold serve
    rw [if_neg (by decide), if_pos ⟨rfl, rfl⟩]
    rfl
  unfold readParam
  rw [sendRequest_session router _ _ (Nat.zero_le _) drive, served]
  dsimp only
  by_cases lost : (occurs drive.requests).lost = true
  · rw [if_pos lost, if_pos lost]
    rfl
  · rw [if_neg lost, if_neg lost, ok_bind]
    have success : (FileObject.replyWith .getAttributeSingle
        (putU16 ((drive.arrive occurs).parameter values number))).response.check
          s!"read fault parameter {number.toNat}" = .ok (FileObject.replyWith .getAttributeSingle
        (putU16 ((drive.arrive occurs).parameter values number))).response := rfl
    rw [success, ok_bind]
    have value : tryGetU16 (FileObject.replyWith .getAttributeSingle
        (putU16 ((drive.arrive occurs).parameter values number))).response.data =
          .ok ((drive.arrive occurs).parameter values number, []) := by
      rw [← tryGetU16_putU16 ((drive.arrive occurs).parameter values number) [], List.append_nil]
      rfl
    rw [value]
    rfl

theorem writeCommand_session (router : MessageRouter) (drive : Drive) :
    DpiFaultManager.writeCommand (session occurs values) router .clearFaultQueue drive =
      (if (occurs drive.requests).lost = true then .error .io else .ok (),
        (drive.arrive occurs).clear) := by
  have served : (drive.arrive occurs).serve values .setAttributeSingle
      (EPath.ofAttribute dpiFaultClassId 0 DpiFaultManager.faultCommandWrite)
      [DpiFaultCommand.clearFaultQueue.code] = ([], (drive.arrive occurs).clear) := by
    unfold serve
    rw [if_pos rfl, if_pos ⟨rfl, rfl⟩]
  have short : [DpiFaultCommand.clearFaultQueue.code].length ≤ 255 := Nat.le_add_left 1 254
  unfold DpiFaultManager.writeCommand
  rw [sendRequest_session router _ _ short drive, served]
  dsimp only
  by_cases lost : (occurs drive.requests).lost = true
  · rw [if_pos lost, if_pos lost]
    rfl
  · rw [if_neg lost, if_neg lost]
    rfl

/-! ### Faults that are recorded meanwhile -/

/-- The faults that are recorded before a number of requests from one on, newest first. -/
def recordedFrom (occurs : Nat → Occurrence) (first : Nat) : Nat → List FaultCode
  | 0 => []
  | count + 1 => (occurs (first + count)).recorded.reverse ++ recordedFrom occurs first count

/-- A number of requests later, none of which clears the queue, it holds what was recorded
meanwhile and the older faults. -/
structure Later (occurs : Nat → Occurrence) (first : Drive) (count : Nat) (drive : Drive) :
    Prop where
  requests : drive.requests = first.requests + count
  removed : drive.removed = first.removed
  faults : drive.queue.faults =
    (recordedFrom occurs first.requests count ++ first.queue.faults).take 10

variable {first drive : Drive} {count index : Nat} {codes : List UInt16}

theorem Later.start (first : Drive) : Later occurs first 0 first :=
  ⟨rfl, rfl, (List.take_of_length_le first.queue.few).symm⟩

theorem Later.arrive (later : Later occurs first count drive) :
    Later occurs first (count + 1) (drive.arrive occurs) where
  requests := congrArg (· + 1) later.requests
  removed := later.removed
  faults := by
    rw [Drive.arrive, FaultQueue.faults_recordAll, later.faults, later.requests, take_append_take,
      recordedFrom, List.append_assoc]

/-- What is in a place was recorded meanwhile, or is one of the older faults, moved back. -/
theorem Later.getElem_faults (later : Later occurs first count drive) (inQueue : index < 10) :
    drive.queue.faults[index]? =
      (recordedFrom occurs first.requests count ++ first.queue.faults)[index]? := by
  rw [later.faults, List.getElem?_take_of_lt inQueue]

/-! ### What the manager reads -/

/-- The faults that have one of the codes. -/
def among (codes : List UInt16) : Set FaultCode := {fault | fault.val ∈ codes}

/-- The places before an index were read, and these codes were in them. -/
structure Scanned (occurs : Nat → Occurrence) (first : Drive) (index : Nat) (codes : List UInt16)
    (count : Nat) (drive : Drive) : Prop where
  later : Later occurs first count drive
  scan : Scan (recordedFrom occurs first.requests count) first.queue.faults index (among codes)

theorem among_append (codes : List UInt16) (fault : FaultCode) :
    among (codes ++ [fault.val]) = insert fault (among codes) := by
  ext other
  rw [Set.mem_insert_iff, Subtype.ext_iff]
  exact (List.mem_append.trans (or_congr_right List.mem_singleton)).trans or_comm

theorem Scanned.start (first : Drive) : Scanned occurs first 0 [] 0 first where
  later := Later.start first
  scan := by
    have nothing : among [] = ∅ := Set.eq_empty_of_forall_notMem fun _ => List.not_mem_nil
    rw [nothing]
    exact Scan.start first.queue.faults

/-- What was read stays read while faults are recorded. -/
theorem Scanned.arrive (scanned : Scanned occurs first index codes count drive) :
    Scanned occurs first index codes (count + 1) (drive.arrive occurs) :=
  ⟨scanned.later.arrive, scanned.scan.grow _⟩

/-- A fault is read in its place. -/
theorem Scanned.push (scanned : Scanned occurs first index codes count drive)
    (inQueue : index < 10) (behind : index = 0 → count = 0)
    (present : drive.queue.codeAt index ≠ 0) :
    Scanned occurs first (index + 1) (codes ++ [drive.queue.codeAt index]) count drive := by
  obtain ⟨here, inPlace⟩ : ∃ fault, drive.queue.faults[index]? = some fault := by
    rw [ne_eq, FaultQueue.codeAt_eq_zero_iff, not_le] at present
    exact ⟨_, List.getElem?_eq_getElem present⟩
  have code : drive.queue.codeAt index = here.val := by
    rw [FaultQueue.codeAt, inPlace]
  have found := (scanned.later.getElem_faults inQueue).symm.trans inPlace
  refine ⟨scanned.later, ?_⟩
  rw [code, among_append]
  refine scanned.scan.read found fun zero => ?_
  rw [behind zero]
  rfl

/-- An empty place: all older faults were read. -/
theorem Scanned.finish (scanned : Scanned occurs first index codes count drive)
    (inQueue : index < 10) (empty : drive.queue.codeAt index = 0) :
    Scanned occurs first 10 codes count drive := by
  refine ⟨scanned.later, scanned.scan.finish ?_ 10⟩
  rw [FaultQueue.codeAt_eq_zero_iff, scanned.later.faults, List.length_take] at empty
  omega

/-! ### A run of the manager -/

theorem parameter_codeParams (place : Fin 10) (drive : Drive) :
    drive.parameter values (codeParams.get place) = drive.queue.codeAt place := by
  have same : codeParams.toList.idxOf? (codeParams.get place) = some place.val := by
    revert place
    decide
  rw [parameter, same]

/-- What reading a fault comes to. What was read stays read, and a fault has the code that is in
its place when the request gets to the drive. -/
theorem Scanned.read {number : UInt8} {place : Fin 10} {getDetails : Bool} {after : Drive}
    {router : MessageRouter} {result : Except Error DpiFaultParameter}
    (scanned : Scanned occurs first index codes count (drive.arrive occurs))
    (isPlace : faultIndex number = some place)
    (returned : DpiFaultParameter.read (session occurs values) router number getDetails drive =
      (result, after)) :
    (∃ more, Scanned occurs first index codes more after) ∧
      ∀ fault, result = .ok fault → fault.code = (drive.arrive occurs).queue.codeAt place := by
  have asked : readParam (session occurs values) router (codeParams.get place) drive = _ :=
    readParam_session router _ drive
  rw [parameter_codeParams] at asked
  have keeps : ∀ {number device outcome next},
      (∃ more, Scanned occurs first index codes more device) →
        readParam (session occurs values) router number device = (outcome, next) →
          ∃ more, Scanned occurs first index codes more next := by
    rintro number device outcome next ⟨more, scanned⟩ read
    rw [readParam_session] at read
    rw [← (Prod.mk.inj read).2]
    exact ⟨more + 1, scanned.arrive⟩
  obtain ⟨kept, read⟩ := DpiFaultParameter.read_keeps keeps isPlace asked ⟨count, scanned⟩ returned
  refine ⟨kept, fun fault same => ?_⟩
  have outcome := read fault same
  split at outcome
  · cases outcome
  · exact (Except.ok.inj outcome).symm

section
variable {Seen : Type} {manager : DpiFaultManager Seen} {router : MessageRouter}
  {progress : DpiFaultManager.Progress Seen Drive} {numbers : List UInt8}

/-- The codes of the faults that were read. -/
def codesOf (faults : List DpiFaultParameter) : List UInt16 := faults.map DpiFaultParameter.code

/-- How the reading of faults ends: with an error, or with all older faults that are still there. -/
def Ends (occurs : Nat → Occurrence) (first : Drive)
    (outcome : Except Error Unit × DpiFaultManager.Progress Seen Drive) : Prop :=
  (∃ refused, outcome.1 = .error refused) ∧ outcome.2.device.removed = first.removed ∨
    outcome.1 = .ok () ∧
      ∃ count, Scanned occurs first 10 (codesOf outcome.2.faults) count outcome.2.device

theorem faultIndex_ofNat (place : Fin 10) :
    faultIndex (UInt8.ofNat (place.val + 1)) = some place := by
  revert place
  decide

/-- The fault in one more place is read. -/
theorem Scanned.readFaults_cons
    (scanned : Scanned occurs first index (codesOf progress.faults) count
      (progress.device.arrive occurs))
    (inQueue : index < 10) (behind : index = 0 → count = 0)
    (rest : ∀ next more, Scanned occurs first (index + 1) (codesOf next.faults) more next.device →
      Ends occurs first (manager.readFaults (session occurs values) router numbers next)) :
    Ends occurs first (manager.readFaults (session occurs values) router
      (UInt8.ofNat (index + 1) :: numbers) progress) := by
  have isPlace := faultIndex_ofNat ⟨index, inQueue⟩
  rcases returned : DpiFaultParameter.read (session occurs values) router
    (UInt8.ofNat (index + 1)) manager.getFaultDetails progress.device with ⟨refused | fault, after⟩
  · obtain ⟨⟨more, kept⟩, -⟩ := scanned.read isPlace returned
    rw [DpiFaultManager.readFaults_of_error returned]
    exact Or.inl ⟨⟨refused, rfl⟩, kept.later.removed⟩
  have code := (scanned.read isPlace returned).2 fault rfl
  by_cases empty : fault.code = 0
  · have finished := scanned.finish inQueue (code.symm.trans empty)
    obtain ⟨⟨more, kept⟩, -⟩ := finished.read isPlace returned
    rw [DpiFaultManager.readFaults_of_empty returned empty]
    exact Or.inr ⟨rfl, more, kept⟩
  · have pushed := scanned.push inQueue behind (code ▸ empty)
    obtain ⟨⟨more, kept⟩, -⟩ := pushed.read isPlace returned
    rw [DpiFaultManager.readFaults_of_fault returned empty]
    refine rest _ more ?_
    rw [DpiFaultManager.Progress.push, codesOf, List.map_append, List.map_singleton, code]
    exact kept

/-- The faults in the remaining places are read. -/
theorem Scanned.readFaults {left : Nat}
    (scanned : Scanned occurs first index (codesOf progress.faults) count progress.device)
    (started : 0 < index) (places : index + left = 10) :
    Ends occurs first (manager.readFaults (session occurs values) router
      ((List.range' (index + 1) left).map UInt8.ofNat) progress) := by
  induction left generalizing index count progress with
  | zero =>
    obtain rfl : index = 10 := places
    exact Or.inr ⟨rfl, count, scanned⟩
  | succ left inductionHypothesis =>
    rw [List.range'_succ, List.map_cons]
    refine scanned.arrive.readFaults_cons (by omega) (fun zero => absurd zero started.ne') ?_
    intro next more scanned
    exact inductionHypothesis scanned (Nat.succ_pos index) (by omega)

theorem ends_readFaults (start : Drive) (seen : Seen) :
    Ends occurs (start.arrive occurs) (manager.readFaults (session occurs values) router
      DpiFaultManager.faultNumbers ⟨[], seen, start⟩) := by
  have numbers : DpiFaultManager.faultNumbers =
      UInt8.ofNat (0 + 1) :: (List.range' (1 + 1) 9).map UInt8.ofNat := rfl
  rw [numbers]
  refine Scanned.readFaults_cons (Scanned.start _) (by decide) (fun _ => rfl) ?_
  intro next more scanned
  exact scanned.readFaults Nat.one_pos rfl

end

/-! ### The clearing -/

section
variable {Seen : Type}

/-- Every fault that was removed has its code among those that are returned. -/
def Reported (result : Except Error (List DpiFaultParameter)) (removed : List FaultCode) : Prop :=
  ∀ fault ∈ removed, ∃ faults, result = .ok faults ∧ fault.val ∈ codesOf faults

/-- A call clears the queue, or removes nothing. -/
theorem handleFaultParameters_cases (manager : DpiFaultManager Seen) (router : MessageRouter)
    (seen : Seen) (start : Drive) {final : Except Error (List DpiFaultParameter) × Seen × Drive}
    (returned : manager.handleFaultParameters (session occurs values) router seen start = final) :
    final.2.2.removed = start.removed ∨
      ∃ faults count drive, Scanned occurs (start.arrive occurs) 10 (codesOf faults) count drive ∧
        final.1 = (if (occurs drive.requests).lost = true then .error .io else .ok faults) ∧
        final.2.2 = (drive.arrive occurs).clear := by
  have ends : Ends occurs (start.arrive occurs) (manager.readFaults (session occurs values) router
      DpiFaultManager.faultNumbers ⟨[], seen, start⟩) := ends_readFaults start seen
  unfold DpiFaultManager.handleFaultParameters at returned
  rcases read : manager.readFaults (session occurs values) router DpiFaultManager.faultNumbers
    ⟨[], seen, start⟩ with ⟨refused | _, progress⟩
  · rw [read] at ends returned
    rcases ends with ⟨-, nothing⟩ | ⟨finished, -⟩
    · rw [← returned]
      exact Or.inl nothing
    · cases finished
  · rw [read] at ends returned
    dsimp only at returned
    rcases ends with ⟨⟨refused, failed⟩, -⟩ | ⟨-, count, scanned⟩
    · cases failed
    · by_cases clears : progress.faults ≠ [] ∧ manager.clearFaults = true
      · rw [if_pos clears, writeCommand_session] at returned
        refine Or.inr ⟨progress.faults, count, progress.device, scanned, ?_⟩
        rw [← returned]
        by_cases lost : (occurs progress.device.requests).lost = true
        · rw [if_pos lost, if_pos lost]
          exact ⟨rfl, rfl⟩
        · rw [if_neg lost, if_neg lost]
          exact ⟨rfl, rfl⟩
      · rw [if_neg clears] at returned
        rw [← returned]
        exact Or.inl scanned.later.removed

/-- Whatever is recorded meanwhile, a fault in the queue was read or is recorded meanwhile. -/
theorem Scanned.read_or_recorded (scanned : Scanned occurs first 10 codes count drive)
    {fault : FaultCode} (member : fault ∈ drive.queue.faults) :
    fault.val ∈ codes ∨ fault ∈ recordedFrom occurs first.requests count := by
  rw [scanned.later.faults] at member
  exact scanned.scan.seen_or_newer member

theorem Later.newest_mem (later : Later occurs first count drive) {newest : FaultCode}
    (isNewest : (recordedFrom occurs first.requests count).head? = some newest) :
    newest ∈ drive.queue.faults := by
  obtain ⟨rest, split⟩ := List.head?_eq_some_iff.mp isNewest
  rw [later.faults, split, List.cons_append, List.take_succ_cons]
  exact List.mem_cons_self ..

/-- No fault is cleared unreported when none is recorded between the first request and the last,
and the last reply gets through. When the clearing removes faults without this, one of them is not
reported, unless an older fault happens to have its code. -/
theorem cleared_reported (manager : DpiFaultManager Seen) (router : MessageRouter)
    (occurs : Nat → Occurrence) (values : Drive → UInt16 → UInt16) (seen : Seen)
    (queue : FaultQueue) :
    let final := manager.handleFaultParameters (session occurs values) router seen ⟨queue, 0, []⟩
    let last := final.2.2.requests - 1
    let recorded := recordedFrom occurs 1 last
    (recorded = [] ∧ (occurs last).lost = false → Reported final.1 final.2.2.removed) ∧
      (final.2.2.removed ≠ [] → Reported final.1 final.2.2.removed →
        (occurs last).lost = false ∧ ∀ newest, recorded.head? = some newest →
          newest ∈ recorded.tail ++ (queue.recordAll (occurs 0).recorded).faults) := by
  intro final last recorded
  rcases handleFaultParameters_cases manager router seen ⟨queue, 0, []⟩ rfl with
    nothing | ⟨faults, count, drive, scanned, returned, cleared⟩
  · refine ⟨fun _ => ?_, fun removes => absurd nothing removes⟩
    rw [show final.2.2.removed = [] from nothing]
    exact List.forall_mem_nil _
  have scanned := scanned.arrive
  have isLast : last = drive.requests := by
    rw [show last = final.2.2.requests - 1 from rfl, cleared]
    rfl
  have sameRecorded : recordedFrom occurs ((⟨queue, 0, []⟩ : Drive).arrive occurs).requests
      (count + 1) = recorded := by
    have requests : drive.requests + 1 = 1 + (count + 1) := scanned.later.requests
    rw [show recorded = recordedFrom occurs 1 last from rfl, isLast,
      show drive.requests = count + 1 by omega]
    rfl
  have removed : final.2.2.removed = (drive.arrive occurs).queue.faults := by
    have before : (drive.arrive occurs).removed = [] := scanned.later.removed
    rw [cleared, Drive.clear, before]
    rfl
  rw [removed, isLast, returned]
  constructor
  · rintro ⟨quiet, arrives⟩ fault member
    rw [arrives, if_neg Bool.false_ne_true]
    refine ⟨faults, rfl, (scanned.read_or_recorded member).resolve_right ?_⟩
    rw [sameRecorded, quiet]
    exact List.not_mem_nil
  · intro removes reported
    have arrives : ¬ (occurs drive.requests).lost = true := by
      obtain ⟨fault, member⟩ := List.exists_mem_of_ne_nil _ removes
      obtain ⟨others, same, -⟩ := reported fault member
      intro lost
      rw [if_pos lost] at same
      cases same
    refine ⟨eq_false_of_ne_true arrives, fun newest isNewest => ?_⟩
    rw [← sameRecorded] at isNewest ⊢
    obtain ⟨others, same, read⟩ := reported newest (scanned.later.newest_mem isNewest)
    rw [if_neg arrives] at same
    obtain rfl := Except.ok.inj same
    exact scanned.scan.known newest read

end

/-! ### A fault in between -/

/-- One thing happens at the drive, around one request. -/
def only (request : Nat) (occurrence : Occurrence) : Nat → Occurrence := fun other =>
  if other = request then occurrence else ⟨[], false⟩

def powerLoss : FaultCode := ⟨3, by decide⟩

def overVoltage : FaultCode := ⟨5, by decide⟩

/-- A call to the drive with one fault. -/
def sampleCall (occurs : Nat → Occurrence) :
    Except Error (List DpiFaultParameter) × Unit × Drive :=
  DpiFaultManager.default.handleFaultParameters (session occurs fun _ _ => 0) MessageRouter.new ()
    ⟨⟨[powerLoss], by decide⟩, 0, []⟩

/-- A second fault is recorded after two reads and is cleared with the first one. And when the
reply to the clearing is lost, the first one is cleared and not returned. -/
theorem cleared_unreported :
    ((sampleCall (only 2 ⟨[overVoltage], false⟩)).1.map codesOf = .ok [3] ∧
        (sampleCall (only 2 ⟨[overVoltage], false⟩)).2.2.removed = [overVoltage, powerLoss] ∧
        ¬ Reported (sampleCall (only 2 ⟨[overVoltage], false⟩)).1
          (sampleCall (only 2 ⟨[overVoltage], false⟩)).2.2.removed) ∧
      (sampleCall (only 2 ⟨[], true⟩)).1 = .error .io ∧
        (sampleCall (only 2 ⟨[], true⟩)).2.2.removed = [powerLoss] ∧
        ¬ Reported (sampleCall (only 2 ⟨[], true⟩)).1
          (sampleCall (only 2 ⟨[], true⟩)).2.2.removed := by
  have returned : (sampleCall (only 2 ⟨[overVoltage], false⟩)).1.map codesOf = .ok [3] := by
    decide +kernel
  have removed : (sampleCall (only 2 ⟨[overVoltage], false⟩)).2.2.removed =
      [overVoltage, powerLoss] := by decide +kernel
  have failed : (sampleCall (only 2 ⟨[], true⟩)).1 = .error .io := by decide +kernel
  have dropped : (sampleCall (only 2 ⟨[], true⟩)).2.2.removed = [powerLoss] := by decide +kernel
  refine ⟨⟨returned, removed, fun reported => ?_⟩, failed, dropped, fun reported => ?_⟩
  · rw [removed] at reported
    obtain ⟨faults, same, among⟩ := reported overVoltage (List.mem_cons_self ..)
    rw [same] at returned
    rw [Except.ok.inj returned] at among
    exact absurd among (by decide)
  · rw [dropped, failed] at reported
    obtain ⟨faults, same, -⟩ := reported powerLoss (List.mem_singleton_self _)
    cases same

/-- Nothing is recorded meanwhile and no reply is lost. -/
theorem cleared_reported_quiet :
    (sampleCall fun _ => ⟨[], false⟩).2.2.removed = [powerLoss] ∧
      Reported (sampleCall fun _ => ⟨[], false⟩).1 (sampleCall fun _ => ⟨[], false⟩).2.2.removed :=
  ⟨by decide +kernel, (cleared_reported DpiFaultManager.default MessageRouter.new
    (fun _ => ⟨[], false⟩) (fun _ _ => 0) () ⟨[powerLoss], by decide⟩).1
      ⟨by decide +kernel, rfl⟩⟩

end Drive

end EipScanner
