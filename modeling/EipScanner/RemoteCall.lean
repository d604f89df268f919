/-
This file puts the two ends of a session together. Threads share the session: each call
takes the stream, writes its request and reads its reply from the bytes that arrive, and
the device answers the packets in the order in which they were written. The other layers
know a session only as something that is handed a packet and answers it at once.

The two agree, as long as each write sends nothing or the whole of a packet that fits its
length field: the device then takes every packet as it was written. Whatever it answers,
it is in the state, and each call that read its own answer has the result, that the same
calls give on a session that answers at once, made one after the other in the order in
which they took the stream. This order does not depend on when bytes arrive, on timeouts
or on what threads do in between. As long as no read times out, every call reads its own
answer.
-/

import EipScanner.RouterReply

namespace EipScanner

open StreamCut

namespace SessionState

/-! ### What was written -/

/-- A packet that was written, its thread, and the number of the write. -/
structure Written where
  thread : Nat
  packet : EncapsPacket
  number : Nat

def written (session : SessionState) : List Written :=
  session.done.map (fun call => ⟨call.thread, call.packet, call.number⟩) ++
    session.active.toList.map fun call => ⟨call.thread, call.packet, call.number⟩

variable {session next : SessionState} {call : ActiveCall}

theorem written_finish (active : session.active = some call) (consumed rest : List StreamByte)
    (result : Except Error EncapsPacket) :
    (session.finish call consumed rest result).written = session.written := by
  have returned : (session.finish call consumed rest result).active = none := rfl
  rw [written, written, finish_done, returned, active, List.map_append]
  exact List.append_nil _

theorem written_of_done {index : Nat} {done : DoneCall} (found : session.done[index]? = some done) :
    session.written[index]? = some ⟨done.thread, done.packet, done.number⟩ := by
  have inside := (List.getElem?_eq_some_iff.mp found).1
  rw [written, List.getElem?_append_left (by rwa [List.length_map]), List.getElem?_map, found]
  rfl

/-- At most one call has not returned. -/
theorem length_written_le : session.written.length ≤ session.done.length + 1 := by
  have one : session.active.toList.length ≤ 1 := by
    cases session.active <;> simp
  rw [written, List.length_append, List.length_map, List.length_map]
  omega

theorem length_written_idle (idle : session.active = none) :
    session.written.length = session.done.length := by
  rw [written, idle, List.length_append, List.length_map]
  rfl

/-- Whether an event is a write. -/
def isWrite : SessionEvent → Bool
  | .write .. | .writeFails .. => true
  | _ => false

/-- Nothing but a write changes what was written and what the device has of it. -/
theorem written_step {event : SessionEvent} (reads : isWrite event = false)
    (moved : session.step event = some next) :
    next.written = session.written ∧ next.served = session.served ∧
      next.pending = session.pending ∧ next.writes = session.writes := by
  cases event with
  | write => exact absurd reads (by simp [isWrite])
  | writeFails => exact absurd reads (by simp [isWrite])
  | deliver =>
    simp only [step, Option.ite_none_right_eq_some, Option.some.injEq] at moved
    obtain ⟨_, rfl⟩ := moved
    exact ⟨rfl, rfl, rfl, rfl⟩
  | readHeader =>
    obtain ⟨call, active, _, _, rfl⟩ := step_readHeader moved
    rw [written, written, active]
    exact ⟨rfl, rfl, rfl, rfl⟩
  | readData =>
    obtain ⟨call, header, active, _, _, rfl⟩ := step_readData moved
    exact ⟨written_finish active _ _ _, rfl, rfl, rfl⟩
  | timeout =>
    obtain ⟨call, active, rfl⟩ := step_timeout moved
    exact ⟨written_finish active _ _ _, rfl, rfl, rfl⟩

/-! ### Whole writes -/

/-- What holds of the stream as long as every write is whole: the device has taken each packet that
was written as one packet, in order, and keeps nothing. -/
structure InOrder (session : SessionState) : Prop where
  pending : session.pending = []
  requests : session.served.map Served.request =
    session.written.map fun sent => sent.packet.stream sent.number
  ascending : session.written.Pairwise fun earlier later => earlier.number < later.number
  known : ∀ sent ∈ session.written, sent.number < session.writes
  current : ∀ call, session.active = some call →
    call.earlier = session.done.length ∧ call.behind = [] ∧ call.packet.Fits

theorem inOrder_connect : InOrder connect where
  pending := rfl
  requests := rfl
  ascending := .nil
  known _ member := absurd member List.not_mem_nil
  current _ active := nomatch active

theorem InOrder.length_served (inOrder : InOrder session) :
    session.served.length = session.written.length := by
  rw [← @List.length_map _ _ session.served Served.request, inOrder.requests, List.length_map]

/-- What a write that is whole does. -/
theorem whole_of_write {thread : Nat} {packet : EncapsPacket} {answers : List Frame}
    (inOrder : InOrder session) (fits : packet.Fits)
    (moved : session.step (.write thread packet answers) = some next) :
    session.active = none ∧ next.phase = session.phase ∧
      next.sessionHandle = session.sessionHandle ∧ next.pending = [] ∧
      next.written = session.written ++ [⟨thread, packet, session.writes⟩] ∧
      ∃ answer, answers = [answer] ∧
        next.served = session.served ++ [⟨packet.stream session.writes, answer⟩] := by
  obtain ⟨idle, sent, new, sends, answered, rfl⟩ := step_write moved
  obtain ⟨kept, answer, rfl⟩ := whole_of_sent sends inOrder.pending fits
  refine ⟨idle, ?_, ?_, kept, ?_, answer, answered.symm, ?_⟩
  · rw [sends.same]
  · rw [sends.same]
  · rw [sends.same, written, written, idle]
    exact congrArg (· ++ _) (List.append_nil _).symm
  · rw [sends.same]

/-- What a write that sends nothing does. -/
theorem nothing_of_writeFails {packet : EncapsPacket} {answers : List Frame}
    (inOrder : InOrder session) (moved : session.step (.writeFails packet 0 answers) = some next) :
    session.active = none ∧ next = { session with
      phase := if session.phase = .connecting then .dropped else session.phase
      writes := session.writes + 1 } := by
  obtain ⟨idle, sent, new, sends, rfl⟩ := step_writeFails moved
  obtain ⟨kept, rfl⟩ := nothing_of_sent sends inOrder.pending
  refine ⟨idle, ?_⟩
  rw [sends.same, kept, inOrder.pending]
  dsimp only [answerStream]
  rw [List.append_nil, List.append_nil]

theorem inOrder_step {event : SessionEvent} (inOrder : InOrder session) (whole : event.Whole)
    (moved : session.step event = some next) : InOrder next := by
  cases reads : isWrite event with
  | false =>
    obtain ⟨written, served, pending, writes⟩ := written_step reads moved
    refine ⟨pending.trans inOrder.pending, ?_, ?_, ?_, fun call active => ?_⟩
    · rw [served, written]
      exact inOrder.requests
    · rw [written]
      exact inOrder.ascending
    · rw [written, writes]
      exact inOrder.known
    · cases event with
      | write => exact absurd reads (by simp [isWrite])
      | writeFails => exact absurd reads (by simp [isWrite])
      | deliver =>
        simp only [step, Option.ite_none_right_eq_some, Option.some.injEq] at moved
        obtain ⟨_, rfl⟩ := moved
        exact inOrder.current call active
      | readHeader =>
        obtain ⟨reader, before, _, _, rfl⟩ := step_readHeader moved
        obtain rfl := Option.some.inj active
        exact inOrder.current reader before
      | readData =>
        obtain ⟨_, _, _, _, _, rfl⟩ := step_readData moved
        exact absurd active.symm (Option.some_ne_none _)
      | timeout =>
        obtain ⟨_, _, rfl⟩ := step_timeout moved
        exact absurd active.symm (Option.some_ne_none _)
  | true =>
    cases event with
    | write thread packet answers =>
      obtain ⟨idle, -, -, kept, written, answer, -, served⟩ := whole_of_write inOrder whole moved
      refine ⟨kept, ?_, ?_, fun sent member => ?_, fun call active => ?_⟩
      · rw [served, written, List.map_append, List.map_append, inOrder.requests]
        rfl
      · rw [written]
        refine List.pairwise_append.mpr ⟨inOrder.ascending, List.pairwise_singleton _ _,
          fun earlier before later last => ?_⟩
        rw [List.mem_singleton.mp last]
        exact inOrder.known earlier before
      · obtain ⟨_, sentState, new, sends, -, rfl⟩ := step_write moved
        have writes := congrArg SessionState.writes sends.same
        rw [written] at member
        refine lt_of_lt_of_eq ?_ writes.symm
        rcases List.mem_append.mp member with before | last
        · exact Nat.lt_succ_of_lt (inOrder.known sent before)
        · rw [List.mem_singleton.mp last]
          exact Nat.lt_succ_self _
      · obtain ⟨_, sentState, new, sends, -, rfl⟩ := step_write moved
        obtain rfl := Option.some.inj active
        refine ⟨?_, inOrder.pending, whole⟩
        have done := congrArg SessionState.done sends.same
        dsimp only at done ⊢
        rw [done, inOrder.length_served, length_written_idle idle]
    | writeFails packet count answers =>
      obtain rfl : count = 0 := whole
      obtain ⟨idle, rfl⟩ := nothing_of_writeFails inOrder moved
      exact ⟨inOrder.pending, inOrder.requests, inOrder.ascending,
        fun sent member => Nat.lt_succ_of_lt (inOrder.known sent member), inOrder.current⟩
    | deliver => exact absurd reads (by simp [isWrite])
    | readHeader => exact absurd reads (by simp [isWrite])
    | readData => exact absurd reads (by simp [isWrite])
    | timeout => exact absurd reads (by simp [isWrite])

/-- Where every write was whole, a call's own answer is the one in its place. -/
theorem InOrder.place (inOrder : InOrder session) {index : Nat} {done : DoneCall} {answer : Frame}
    (found : session.done[index]? = some done) (read : session.ReadAnswer done answer) :
    (session.served[index]?).map Served.answer = some answer := by
  obtain ⟨number, served, _⟩ := read
  have here := written_of_done found
  have place := congrArg (·[number]?) inOrder.requests
  rw [List.getElem?_map, served, List.getElem?_map, Option.map_some] at place
  obtain ⟨other, there, same⟩ := Option.map_eq_some_iff.mp place.symm
  -- the bytes are those of one write, and the writes have different numbers
  have numbers : other.number = done.number := by
    obtain ⟨byte, inside⟩ := other.packet.exists_mem_stream other.number
    rw [← number_of_mem_tagged inside]
    rw [same] at inside
    exact number_of_mem_tagged inside
  obtain ⟨inThere, there⟩ := List.getElem?_eq_some_iff.mp there
  obtain ⟨inHere, here⟩ := List.getElem?_eq_some_iff.mp here
  have ordered := List.pairwise_iff_getElem.mp inOrder.ascending
  have same : number = index := by
    rcases Nat.lt_trichotomy number index with before | same | after
    · have less := ordered number index inThere inHere before
      rw [there, here, numbers] at less
      exact absurd less (Nat.lt_irrefl _)
    · exact same
    · have less := ordered index number inHere inThere after
      rw [there, here, numbers] at less
      exact absurd less (Nat.lt_irrefl _)
  rw [← same, served]
  rfl

/-! ### What calls return -/

/-- The handle that the reply to a call is checked against: none before the registration. -/
def handleAt (session : SessionState) (index : Nat) : UInt32 :=
  if index = 0 then 0 else session.sessionHandle

/-- What holds of the calls of a session in every reachable state: a call that read its own answer
returns what the checks make of that answer, and a session in use has the handle that the device
gave it. -/
structure Answered (session : SessionState) : Prop where
  unregistered : session.phase ≠ .registered → session.sessionHandle = 0
  connecting : session.phase = .connecting → session.done = []
  own : ∀ (index : Nat) (done : DoneCall), session.done[index]? = some done →
    ∀ answer, session.ReadAnswer done answer →
      done.result = checkReply (session.handleAt index) answer.bytes
  registered : session.phase = .registered → ∃ done answer reply, session.done[0]? = some done ∧
    session.ReadAnswer done answer ∧ done.result = .ok reply ∧
      session.sessionHandle = reply.sessionHandle

theorem answered_connect : Answered connect where
  unregistered _ := rfl
  connecting _ := rfl
  own _ _ found := absurd found (by simp [connect])
  registered inUse := absurd inUse (by simp [connect])

section Finish

variable {consumed rest : List StreamByte} {result : Except Error EncapsPacket}

/-- Only the registration sets the handle. -/
theorem finish_inUse (later : session.phase ≠ .connecting) :
    (session.finish call consumed rest result).phase = session.phase ∧
      (session.finish call consumed rest result).sessionHandle = session.sessionHandle := by
  unfold finish
  cases phase : session.phase with
  | connecting => exact absurd phase later
  | registered => exact ⟨rfl, rfl⟩
  | dropped => exact ⟨rfl, rfl⟩

theorem finish_registered {reply : EncapsPacket} (first : session.phase = .connecting) :
    (session.finish call consumed rest (.ok reply)).phase = .registered ∧
      (session.finish call consumed rest (.ok reply)).sessionHandle = reply.sessionHandle := by
  unfold finish
  rw [first]
  exact ⟨rfl, rfl⟩

theorem finish_refused {refused : Error} (first : session.phase = .connecting) :
    (session.finish call consumed rest (.error refused)).phase = .dropped ∧
      (session.finish call consumed rest (.error refused)).sessionHandle =
        session.sessionHandle := by
  unfold finish
  rw [first]
  exact ⟨rfl, rfl⟩

/-- A call that returns keeps what is known of the calls. -/
theorem answered_finish (answered : Answered session)
    (own : ∀ answer, session.ReadAnswer (call.returned consumed result) answer →
      result = checkReply session.sessionHandle answer.bytes)
    (opens : ∀ reply, result = .ok reply → session.done = [] →
      session.ReadOwn (call.returned consumed result)) :
    Answered (session.finish call consumed rest result) := by
  by_cases first : session.phase = .connecting
  · have nothing := answered.connecting first
    have handle := answered.unregistered (by simp [first])
    have done := finish_done session call consumed rest result
    rw [nothing, List.nil_append] at done
    have only : ∀ (index : Nat) (other : DoneCall),
        (session.finish call consumed rest result).done[index]? = some other →
          ∀ answer, (session.finish call consumed rest result).ReadAnswer other answer →
            other.result = checkReply
              ((session.finish call consumed rest result).handleAt index) answer.bytes := by
      intro index other found answer mine
      rw [done, List.getElem?_singleton] at found
      obtain ⟨rfl, same⟩ := (Option.ite_none_right_eq_some.mp found)
      obtain rfl := Option.some.inj same
      rw [handle] at own
      exact own answer mine
    cases result with
    | ok reply =>
      obtain ⟨phase, given⟩ := @finish_registered session call consumed rest reply first
      refine ⟨fun outside => absurd phase outside, fun still => ?_, only, fun _ => ?_⟩
      · rw [phase] at still
        exact absurd still (by decide)
      · obtain ⟨answer, read⟩ := opens reply rfl nothing
        exact ⟨_, answer, reply, by rw [done]; rfl, read, rfl, given⟩
    | error refused =>
      obtain ⟨phase, given⟩ := @finish_refused session call consumed rest refused first
      refine ⟨fun _ => given.trans handle, fun still => ?_, only, fun inUse => ?_⟩
      · rw [phase] at still
        exact absurd still (by decide)
      · rw [phase] at inUse
        exact absurd inUse (by decide)
  · obtain ⟨phase, handle⟩ := @finish_inUse session call consumed rest result first
    have done := finish_done session call consumed rest result
    refine ⟨fun outside => ?_, fun still => ?_, fun index other found answer mine => ?_,
      fun inUse => ?_⟩
    · rw [phase] at outside
      exact handle.trans (answered.unregistered outside)
    · exact absurd (phase.symm.trans still) first
    · rw [done, getElem?_concat] at found
      have same : (session.finish call consumed rest result).handleAt index =
          session.handleAt index := by rw [handleAt, handleAt, handle]
      rw [same]
      split at found
      next last =>
        obtain rfl := Option.some.inj found
        subst last
        refine (own answer mine).trans ?_
        rw [handleAt]
        split
        next none =>
          rw [answered.unregistered fun inUse => ?_]
          obtain ⟨opening, _, _, found, _⟩ := answered.registered inUse
          rw [List.length_eq_zero_iff.mp none] at found
          exact absurd found (by simp)
        next => rfl
      next => exact answered.own index other found answer mine
    · obtain ⟨opening, answer, reply, found, mine, ok, given⟩ :=
        answered.registered (phase.symm.trans inUse)
      refine ⟨opening, answer, reply, ?_, mine, ok, handle.trans given⟩
      rw [done, List.getElem?_append_left (List.getElem?_eq_some_iff.mp found).1]
      exact found

end Finish

theorem late_of_timeout (moved : session.step .timeout = some next)
    (active : session.active = some call) : session.arrived.length < wanted call := by
  simp only [step, active, Option.ite_none_right_eq_some] at moved
  exact moved.1

/-- A call that times out has not read its whole answer. -/
theorem notOwn_timeout (invariant : Invariant session)
    (moved : session.step .timeout = some next) (active : session.active = some call)
    {result : Except Error EncapsPacket} {answer : Frame} :
    ¬ session.ReadAnswer (call.returned (taken call ++ session.arrived) result) answer := by
  intro read
  have reading := invariant.reading call active
  have split : taken call ++ session.arrived ++ session.inFlight = taken call ++ session.unread :=
    List.append_assoc _ _ _
  obtain ⟨number, _, same⟩ := read
  have own : taken call ++ session.arrived = answer.stream number := same
  have late := late_of_timeout moved active
  have length := answer.packet.length_stream number
  rw [← Frame.stream, ← own, List.length_append] at length
  cases present : call.header with
  | none =>
    rw [wanted, present] at late
    rw [taken, present, Option.getD_none, List.length_nil] at length
    dsimp only at late
    omega
  | some header =>
    have size := reading.header header present
    rw [taken, present, Option.getD_some] at own length
    rw [wanted, present] at late
    have front : header = (answer.stream number).take headerSize := by
      rw [← own, ← size, List.take_left]
    have announced : EncapsPacket.lengthFromHeader (streamBytes header) =
        answer.packet.data.length := by
      rw [front, streamBytes_take, Frame.stream, EncapsPacket.stream, streamBytes_tagged]
      exact answer.lengthFromHeader_bytes
    dsimp only at late
    omega

/-- No call returns in a step: what is known of the calls stays. A session that cannot write its
first packet is gone. -/
structure Keeps (session next : SessionState) : Prop where
  done : next.done = session.done
  handle : next.sessionHandle = session.sessionHandle
  phase : next.phase = session.phase ∨ session.phase = .connecting ∧ next.phase = .dropped
  served : ∃ new, next.served = session.served ++ new

/-- A call returns in a step. If it has read its own answer, it returns what the checks make of
that; and without a timeout it has, unless something was in its way. -/
structure Returns (session : SessionState) (event : SessionEvent) (call : ActiveCall)
    (consumed : List StreamByte) (result : Except Error EncapsPacket) : Prop where
  active : session.active = some call
  checked : ∀ answer, session.ReadAnswer (call.returned consumed result) answer →
    result = checkReply session.sessionHandle answer.bytes
  prompt : event ≠ .timeout → call.owed = [] → call.behind = [] → call.packet.Fits →
    session.ReadOwn (call.returned consumed result)
  late : event = .timeout → result = .error .io

/-- All that a step does to the calls. -/
theorem step_cases {event : SessionEvent} (invariant : Invariant session)
    (moved : session.step event = some next) :
    Keeps session next ∨ ∃ call consumed rest result, Returns session event call consumed result ∧
      next = session.finish call consumed rest result := by
  cases event with
  | write =>
    obtain ⟨_, sent, new, sends, -, rfl⟩ := step_write moved
    rw [sends.same]
    exact Or.inl ⟨rfl, rfl, Or.inl rfl, new, rfl⟩
  | writeFails =>
    obtain ⟨_, sent, new, sends, rfl⟩ := step_writeFails moved
    rw [sends.same]
    refine Or.inl ⟨rfl, rfl, ?_, new, rfl⟩
    dsimp only
    split
    next first => exact Or.inr ⟨first, rfl⟩
    next => exact Or.inl rfl
  | deliver =>
    simp only [step, Option.ite_none_right_eq_some, Option.some.injEq] at moved
    obtain ⟨_, rfl⟩ := moved
    exact Or.inl ⟨rfl, rfl, Or.inl rfl, [], (List.append_nil _).symm⟩
  | readHeader =>
    obtain ⟨call, _, _, _, rfl⟩ := step_readHeader moved
    exact Or.inl ⟨rfl, rfl, Or.inl rfl, [], (List.append_nil _).symm⟩
  | readData =>
    obtain ⟨call, header, active, present, enough, rfl⟩ := step_readData moved
    refine Or.inr ⟨call, _, _, _, ⟨active, fun answer read => ?_, fun _ owed behind fits => ?_,
      fun late => ?_⟩, rfl⟩
    · obtain ⟨number, _, own⟩ := read
      have own : header ++ _ = answer.stream number := own
      rw [own, Frame.stream, EncapsPacket.stream, streamBytes_tagged]
      rfl
    · obtain ⟨answer, only, own⟩ := (invariant.reading call active).own present
        (by rw [List.length_take, Nat.min_eq_left enough])
        (split_readData session present _) owed behind fits
      exact ⟨answer, call.earlier, getElem?_of_drop only, own⟩
    · exact absurd late (by simp)
  | timeout =>
    obtain ⟨call, active, rfl⟩ := step_timeout moved
    exact Or.inr ⟨call, _, _, _, ⟨active, fun answer read =>
      absurd read (notOwn_timeout invariant moved active), fun never => absurd rfl never,
      fun _ => rfl⟩, rfl⟩

theorem Keeps.readAnswer_iff (invariant : Invariant session) (keeps : Keeps session next)
    {done : DoneCall} (member : done ∈ session.done) {answer : Frame} :
    next.ReadAnswer done answer ↔ session.ReadAnswer done answer := by
  obtain ⟨new, grown⟩ := keeps.served
  exact readAnswer_append grown (invariant.consumed done member)

theorem answered_keeps (invariant : Invariant session) (answered : Answered session)
    (keeps : Keeps session next) : Answered next where
  unregistered outside := by
    rw [keeps.handle]
    refine answered.unregistered fun inUse => outside ?_
    rcases keeps.phase with same | ⟨first, _⟩
    · exact same.trans inUse
    · exact absurd (first.symm.trans inUse) (by decide)
  connecting still := by
    rw [keeps.done]
    rcases keeps.phase with same | ⟨_, gone⟩
    · exact answered.connecting (same.symm.trans still)
    · exact absurd (gone.symm.trans still) (by decide)
  own index done found answer mine := by
    rw [keeps.done] at found
    rw [handleAt, keeps.handle]
    exact answered.own index done found answer
      ((keeps.readAnswer_iff invariant (List.mem_of_getElem? found)).mp mine)
  registered inUse := by
    have still : session.phase = .registered := by
      rcases keeps.phase with same | ⟨_, gone⟩
      · exact same.symm.trans inUse
      · exact absurd (gone.symm.trans inUse) (by decide)
    obtain ⟨opening, answer, reply, found, mine, ok, given⟩ := answered.registered still
    refine ⟨opening, answer, reply, ?_, ?_, ok, keeps.handle.trans given⟩
    · rw [keeps.done]
      exact found
    · exact (keeps.readAnswer_iff invariant (List.mem_of_getElem? found)).mpr mine

theorem answered_step {event : SessionEvent} (invariant : Invariant session)
    (inOrder : InOrder session) (answered : Answered session)
    (moved : session.step event = some next) : Answered next := by
  rcases step_cases invariant moved with keeps | ⟨call, consumed, rest, result, returns, rfl⟩
  · exact answered_keeps invariant answered keeps
  · refine answered_finish answered returns.checked fun reply accepted first => ?_
    obtain ⟨earlier, behind, fits⟩ := inOrder.current call returns.active
    rw [first] at earlier
    refine returns.prompt (fun late => ?_)
      (List.eq_nil_iff_forall_not_mem.mpr fun byte member => ?_) behind fits
    · rw [returns.late late] at accepted
      cases accepted
    · have before := (invariant.reading call returns.active).owed byte member
      rw [earlier] at before
      exact absurd before (Nat.not_lt_zero _)

/-- Every call has read its own answer. -/
def AllOwn (session : SessionState) : Prop := ∀ done ∈ session.done, session.ReadOwn done

/-- As long as no read times out, every call reads its own answer. -/
theorem allOwn_step {event : SessionEvent} (invariant : Invariant session)
    (inStep : InStep session) (own : AllOwn session) (prompt : event ≠ .timeout)
    (moved : session.step event = some next) : AllOwn next := by
  intro done member
  rcases step_cases invariant moved with keeps | ⟨call, consumed, rest, result, returns, rfl⟩
  · rw [keeps.done] at member
    obtain ⟨answer, read⟩ := own done member
    exact ⟨answer, (keeps.readAnswer_iff invariant member).mpr read⟩
  · rw [finish_done] at member
    rcases List.mem_append.mp member with before | last
    · exact own done before
    · rw [List.mem_singleton.mp last]
      obtain ⟨owed, behind, fits⟩ := inStep.active call returns.active
      exact returns.prompt prompt owed behind fits

/-- Once the registration is over, the session stays as it is. -/
theorem inUse_step {event : SessionEvent} (invariant : Invariant session)
    (later : session.phase ≠ .connecting) (moved : session.step event = some next) :
    next.phase = session.phase ∧ next.sessionHandle = session.sessionHandle := by
  rcases step_cases invariant moved with keeps | ⟨call, consumed, rest, result, _, rfl⟩
  · rcases keeps.phase with same | ⟨first, _⟩
    · exact ⟨same, keeps.handle⟩
    · exact absurd first later
  · exact finish_inUse later

end SessionState

/-! ### A device at the other end -/

/-- A request that a thread makes. -/
structure RouterCall where
  router : MessageRouter
  service : ServiceCode
  path : EPath
  data : Bytes
  additionalItems : List CommonPacketItem

namespace RouterCall

/-- All of it fits the length field of a packet. -/
def Fits (call : RouterCall) : Prop :=
  call.router.requestSize call.path call.data call.additionalItems ≤ 65535

def packet (call : RouterCall) (sessionHandle : UInt32) : EncapsPacket :=
  call.router.requestPacket call.service call.path call.data call.additionalItems sessionHandle

theorem fits_packet {call : RouterCall} (fits : call.Fits) (sessionHandle : UInt32) :
    (call.packet sessionHandle).Fits := by
  have size := MessageRouter.length_requestPacket call.router call.service call.path call.data
    call.additionalItems sessionHandle
  exact (size.trans_le fits).trans_lt (by decide)

/-- The call on any session. -/
def send {State : Type} (session : Session State) (call : RouterCall) (state : State) :
    Except Error MessageRouterResponse × State :=
  MessageRouter.sendRequestWithItems session call.router call.service call.path call.data
    call.additionalItems state

/-- Calls made one after the other. -/
def sendAll {State : Type} (session : Session State) :
    List RouterCall → State → List (Except Error MessageRouterResponse) × State
  | [], state => ([], state)
  | call :: later, state =>
    let sent := call.send session state
    let rest := sendAll session later sent.2
    (sent.1 :: rest.1, rest.2)

end RouterCall

/-- A device: what it answers to the bytes of a packet. -/
abbrev Responder (State : Type) := Bytes → State → Frame × State

namespace Responder

variable {State : Type} (device : Responder State)

/-- The state of a device after packets. -/
def after (state : State) (received : List Bytes) : State :=
  received.foldl (fun state bytes => (device bytes state).2) state

/-- The answers to packets. -/
def answers : State → List Bytes → List Frame
  | _, [] => []
  | state, bytes :: later => (device bytes state).1 :: answers (device bytes state).2 later

/-- The session that is answered at once, under a handle. -/
def atomicSession (sessionHandle : UInt32) : Session State where
  sessionHandle _ := sessionHandle
  sendAndReceive packet state :=
    let (answer, next) := device packet.encode state
    (SessionState.checkReply sessionHandle answer.bytes, next)

/-- What a device makes of the first packet. -/
def register (state : State) : Except Error EncapsPacket × State :=
  (device.atomicSession 0).sendAndReceive EncapsPacket.registerSession state

end Responder

/-- A session with the device at its other end. -/
structure RemoteSession (State : Type) where
  session : SessionState
  device : State
  /-- What the device has taken for packets. -/
  received : List Bytes
  /-- The requests that took the stream and were written, each with its thread. -/
  calls : List (Nat × RouterCall)
  dropped : Bool

inductive RemoteEvent where
  /-- The thread that connects writes Register Session. -/
  | register (thread : Nat)
  /-- A thread takes the stream and writes its request. -/
  | call (thread : Nat) (call : RouterCall)
  /-- A write fails after it has sent a number of the packet's bytes. -/
  | writeFails (packet : EncapsPacket) (count : Nat)
  /-- Anything that happens on the stream but a write. -/
  | stream (event : SessionEvent)
  /-- The last thread drops the session. A number of bytes of Unregister Session are sent. -/
  | drop (count : Nat)

/-- A write sends its packet whole or not at all, and a request fits the length field. -/
def RemoteEvent.Whole : RemoteEvent → Prop
  | .call _ request => request.Fits
  | .writeFails _ count => count = 0
  | _ => True

namespace RemoteSession

variable {State : Type} (device : Responder State)

def connect (state : State) : RemoteSession State := ⟨SessionState.connect, state, [], [], false⟩

/-- What the device takes for packets when bytes are sent. -/
def takes (remote : RemoteSession State) (bytes : Bytes) : List Bytes :=
  (remote.session.cutAfter bytes).1.map streamBytes

/-- The device receives bytes. -/
def receive (remote : RemoteSession State) (bytes : Bytes) : RemoteSession State :=
  { remote with
    device := device.after remote.device (remote.takes bytes)
    received := remote.received ++ remote.takes bytes }

/-- A packet is written, and the device answers what this completes. -/
def write (remote : RemoteSession State) (thread : Nat) (packet : EncapsPacket) :
    Option (RemoteSession State) :=
  (remote.session.step (.write thread packet
    (device.answers remote.device (remote.takes packet.encode)))).map fun session =>
      { remote.receive device packet.encode with session }

/-- A write fails on the way. -/
def writeFails (remote : RemoteSession State) (packet : EncapsPacket) (count : Nat) :
    Option (RemoteSession State) :=
  let bytes := packet.encode.take count
  (remote.session.step (.writeFails packet count
    (device.answers remote.device (remote.takes bytes)))).map fun session =>
      { remote.receive device bytes with session }

def step (remote : RemoteSession State) : RemoteEvent → Option (RemoteSession State)
  | .register thread =>
    if remote.session.phase = .connecting ∧ remote.dropped = false then
      remote.write device thread EncapsPacket.registerSession
    else none
  | .call thread call =>
    if remote.session.phase = .registered ∧ remote.dropped = false then
      (remote.write device thread (call.packet remote.session.sessionHandle)).map fun next =>
        { next with calls := next.calls ++ [(thread, call)] }
    else none
  | .writeFails packet count =>
    if remote.dropped = false then remote.writeFails device packet count else none
  | .stream event =>
    if SessionState.isWrite event = false then
      (remote.session.step event).map fun session => { remote with session }
    else none
  | .drop count =>
    if remote.session.phase ≠ .connecting ∧ remote.session.active.isNone ∧
        remote.dropped = false then
      let last := EncapsPacket.unregisterSession remote.session.sessionHandle
      some { remote.receive device (last.encode.take count) with dropped := true }
    else none

end RemoteSession

/-- A session that threads share, and the device at its other end. -/
def remoteMachine {State : Type} (device : Responder State) :
    Machine (RemoteSession State) RemoteEvent := ⟨RemoteSession.step device⟩

/-! ### One packet after the other -/

namespace Responder

variable {State : Type} (device : Responder State)

theorem after_append (state : State) (first second : List Bytes) :
    device.after state (first ++ second) = device.after (device.after state first) second :=
  List.foldl_append

theorem answers_append (state : State) (first second : List Bytes) :
    device.answers state (first ++ second) =
      device.answers state first ++ device.answers (device.after state first) second := by
  induction first generalizing state with
  | nil => rfl
  | cons bytes later inductionHypothesis =>
    rw [List.cons_append, answers, inductionHypothesis]
    rfl

/-- Calls on the session that is answered at once: what the checks and the decoder make of the
device's answers. -/
theorem sendAll_atomicSession (sessionHandle : UInt32) (calls : List RouterCall) (state : State) :
    RouterCall.sendAll (device.atomicSession sessionHandle) calls state =
      ((device.answers state (calls.map fun call => (call.packet sessionHandle).encode)).map
          fun answer => SessionState.checkReply sessionHandle answer.bytes >>= fun reply =>
            MessageRouter.decodeReply reply.data,
        device.after state (calls.map fun call => (call.packet sessionHandle).encode)) := by
  induction calls generalizing state with
  | nil => rfl
  | cons call later inductionHypothesis =>
    rw [RouterCall.sendAll, RouterCall.send, MessageRouter.sendRequestWithItems_eq]
    dsimp only
    rw [inductionHypothesis]
    rfl

end Responder

/-! ### The invariant of every run -/

namespace SessionState

variable {session next : SessionState}

theorem idle_step {event : SessionEvent} (reads : isWrite event = false)
    (idle : session.active = none) (moved : session.step event = some next) :
    next.active = none := by
  cases event with
  | write => exact absurd reads (by simp [isWrite])
  | writeFails => exact absurd reads (by simp [isWrite])
  | deliver =>
    simp only [step, Option.ite_none_right_eq_some, Option.some.injEq] at moved
    obtain ⟨_, rfl⟩ := moved
    exact idle
  | readHeader =>
    obtain ⟨call, active, _⟩ := step_readHeader moved
    exact absurd (active.symm.trans idle) (by simp)
  | readData =>
    obtain ⟨call, header, active, _⟩ := step_readData moved
    exact absurd (active.symm.trans idle) (by simp)
  | timeout =>
    obtain ⟨call, active, _⟩ := step_timeout moved
    exact absurd (active.symm.trans idle) (by simp)

theorem whole_of_reads {event : SessionEvent} (reads : isWrite event = false) : event.Whole := by
  cases event with
  | write => exact absurd reads (by simp [isWrite])
  | writeFails => exact absurd reads (by simp [isWrite])
  | deliver => trivial
  | readHeader => trivial
  | readData => trivial
  | timeout => trivial

/-- The bytes of the packets that were written. -/
def packets (session : SessionState) : List Bytes :=
  session.written.map fun sent => sent.packet.encode

/-- Where the device keeps nothing, it takes a packet that fits for one packet. -/
theorem cutAfter_whole {packet : EncapsPacket} (kept : session.pending = [])
    (fits : packet.Fits) :
    session.cutAfter packet.encode = ([packet.stream session.writes], []) := by
  rw [cutAfter, kept, List.nil_append]
  exact measures_frontSize.cut_unit (frontSize_stream_iff.mpr fits)

/-- A packet without data that is sent in part is kept. -/
theorem cutAfter_part {packet : EncapsPacket} {count : Nat} (kept : session.pending = [])
    (bare : packet.data = []) (part : count < headerSize) :
    (session.cutAfter (packet.encode.take count)).1 = [] := by
  have short : frontSize (tagged session.writes (packet.encode.take count)) = none := by
    rw [frontSize]
    refine if_neg ?_
    rw [length_tagged, List.length_take, packet.length_encode, bare, List.length_nil]
    omega
  rw [cutAfter, kept, List.nil_append, cut_of_none short]

end SessionState

namespace RemoteSession

variable {State : Type} {device : Responder State} {start : State}
  {remote next : RemoteSession State}

theorem takes_whole {packet : EncapsPacket} (kept : remote.session.pending = [])
    (fits : packet.Fits) : remote.takes packet.encode = [packet.encode] := by
  rw [takes, SessionState.cutAfter_whole kept fits, List.map_singleton, EncapsPacket.stream,
    streamBytes_tagged]

theorem takes_nothing (kept : remote.session.pending = []) : remote.takes [] = [] := by
  rw [takes, SessionState.cutAfter, kept]
  exact congrArg (fun taken => taken.1.map streamBytes) measures_frontSize.cut_nil

/-- What the threads wrote: nothing yet, or Register Session and then the requests, under the
session's handle. -/
inductive Asked (session : SessionState) (calls : List (Nat × RouterCall)) : Prop where
  | nothing (silent : session.written = []) (none : calls = [])
  | requests (thread : Nat) (same : session.written.map (fun sent => (sent.thread, sent.packet)) =
      (thread, EncapsPacket.registerSession) ::
        calls.map fun call => (call.1, call.2.packet session.sessionHandle))

/-- What holds of a session and its device as long as every write is whole: the device answered
what was written, in order, and the session may have told it of its end. -/
structure Follows (device : Responder State) (start : State) (remote : RemoteSession State) :
    Prop where
  stream : remote.session.Invariant
  inOrder : remote.session.InOrder
  answered : remote.session.Answered
  asked : Asked remote.session remote.calls
  inUse : remote.calls ≠ [] → remote.session.phase = .registered
  fits : ∀ call ∈ remote.calls, call.2.Fits
  frames : remote.session.served.map Served.answer =
    device.answers start remote.session.packets
  current : remote.device = device.after start remote.received
  received : ∃ closing, remote.received = remote.session.packets ++ closing ∧
    (closing = [] ∨ remote.dropped = true ∧
      closing = [(EncapsPacket.unregisterSession remote.session.sessionHandle).encode])
  dropped : remote.dropped = true →
    remote.session.active = none ∧ remote.session.phase ≠ .connecting

theorem follows_connect (start : State) : (connect start).Follows device start where
  stream := SessionState.invariant_connect
  inOrder := SessionState.inOrder_connect
  answered := SessionState.answered_connect
  asked := .nothing rfl rfl
  inUse some := absurd rfl some
  fits _ member := absurd member List.not_mem_nil
  frames := rfl
  current := rfl
  received := ⟨[], rfl, Or.inl rfl⟩
  dropped ended := absurd ended (by simp [connect])

/-- As long as the session is there, the device has been sent what was written. -/
theorem Follows.received_eq (follows : remote.Follows device start)
    (alive : remote.dropped = false) : remote.received = remote.session.packets := by
  obtain ⟨closing, received, none | ⟨ended, -⟩⟩ := follows.received
  · rw [received, none, List.append_nil]
  · exact absurd (alive.symm.trans ended) (by simp)

/-- What a write does to a session that is there: it is one packet more, and the device's answer
to it. -/
structure Wrote (device : Responder State) (start : State) (remote next : RemoteSession State)
    (thread : Nat) (packet : EncapsPacket) : Prop where
  idle : remote.session.active = none
  phase : next.session.phase = remote.session.phase
  handle : next.session.sessionHandle = remote.session.sessionHandle
  calls : next.calls = remote.calls
  alive : next.dropped = false
  received : next.received = next.session.packets
  current : next.device = device.after start next.received
  stream : next.session.Invariant
  inOrder : next.session.InOrder
  answered : next.session.Answered
  written : next.session.written.map (fun sent => (sent.thread, sent.packet)) =
    remote.session.written.map (fun sent => (sent.thread, sent.packet)) ++ [(thread, packet)]
  frames : next.session.served.map Served.answer = device.answers start next.session.packets

theorem Follows.write (follows : remote.Follows device start) (alive : remote.dropped = false)
    {thread : Nat} {packet : EncapsPacket} (fits : packet.Fits)
    (moved : remote.write device thread packet = some next) :
    Wrote device start remote next thread packet := by
  obtain ⟨session, step, rfl⟩ := Option.map_eq_some_iff.mp moved
  have taken := takes_whole follows.inOrder.pending fits
  obtain ⟨idle, phase, handle, _, written, answer, answered, served⟩ :=
    SessionState.whole_of_write follows.inOrder fits step
  have packets : session.packets = remote.session.packets ++ [packet.encode] := by
    rw [SessionState.packets, SessionState.packets, written, List.map_append]
    rfl
  have received := follows.received_eq alive
  refine ⟨idle, phase, handle, rfl, alive, ?_, ?_,
    SessionState.invariant_step _ follows.stream step,
    SessionState.inOrder_step follows.inOrder (by exact fits) step,
    SessionState.answered_step follows.stream follows.inOrder follows.answered step, ?_, ?_⟩
  · dsimp only [receive]
    rw [taken, packets, received]
  · dsimp only [receive]
    rw [Responder.after_append, ← follows.current]
  · dsimp only
    rw [written, List.map_append]
    rfl
  · dsimp only
    rw [packets, Responder.answers_append, ← received, ← follows.current, ← taken, answered,
      received, ← follows.frames, served, List.map_append]
    rfl

/-- The threads and packets, out of what was written. -/
theorem map_packets {session : SessionState} {sent : List (Nat × EncapsPacket)}
    (same : session.written.map (fun sent => (sent.thread, sent.packet)) = sent) :
    session.packets = sent.map fun one => one.2.encode := by
  rw [← same, List.map_map]
  rfl

theorem follows_register (follows : remote.Follows device start) {thread : Nat}
    (moved : (remoteMachine device).step remote (.register thread) = some next) :
    next.Follows device start := by
  simp only [remoteMachine, step, Option.ite_none_right_eq_some] at moved
  obtain ⟨⟨first, alive⟩, writes⟩ := moved
  have wrote := follows.write alive EncapsPacket.fits_registerSession writes
  have nothing : remote.session.written = [] := by
    rw [SessionState.written, follows.answered.connecting first, wrote.idle]
    rfl
  have none : remote.calls = [] := by
    by_contra some
    exact absurd (first.symm.trans (follows.inUse some)) (by decide)
  refine ⟨wrote.stream, wrote.inOrder, wrote.answered, .requests thread ?_,
    fun some => absurd (wrote.calls.trans none) some, ?_, wrote.frames, wrote.current,
    ⟨[], wrote.received.trans (List.append_nil _).symm, Or.inl rfl⟩,
    fun ended => absurd (wrote.alive.symm.trans ended) (by simp)⟩
  · rw [wrote.written, nothing, wrote.calls, none]
    rfl
  · rw [wrote.calls]
    exact follows.fits

theorem follows_call (follows : remote.Follows device start) {thread : Nat} {call : RouterCall}
    (fits : call.Fits)
    (moved : (remoteMachine device).step remote (.call thread call) = some next) :
    next.Follows device start := by
  simp only [remoteMachine, step, Option.ite_none_right_eq_some] at moved
  obtain ⟨⟨inUse, alive⟩, writes⟩ := moved
  obtain ⟨sent, write, rfl⟩ := Option.map_eq_some_iff.mp writes
  have wrote := follows.write alive (RouterCall.fits_packet fits _) write
  refine ⟨wrote.stream, wrote.inOrder, wrote.answered, ?_, fun _ => wrote.phase.trans inUse, ?_,
    wrote.frames, wrote.current, ⟨[], wrote.received.trans (List.append_nil _).symm, Or.inl rfl⟩,
    fun ended => absurd (wrote.alive.symm.trans ended) (by simp)⟩
  · rcases follows.asked with ⟨silent, -⟩ | ⟨opener, same⟩
    · obtain ⟨opening, _, _, found, -⟩ := follows.answered.registered inUse
      have present := SessionState.written_of_done found
      rw [silent] at present
      exact absurd present (by simp)
    · refine .requests opener ?_
      dsimp only
      rw [wrote.written, same, wrote.handle, wrote.calls, List.map_append, List.cons_append]
      rfl
  · dsimp only
    rw [wrote.calls]
    exact List.forall_mem_append.mpr ⟨follows.fits, List.forall_mem_singleton.mpr fits⟩

/-- A write that sends nothing changes no more than that the registration may be over. -/
theorem follows_writeFails (follows : remote.Follows device start) {packet : EncapsPacket}
    (moved : (remoteMachine device).step remote (.writeFails packet 0) = some next) :
    next.Follows device start := by
  simp only [remoteMachine, step, Option.ite_none_right_eq_some] at moved
  obtain ⟨alive, moved⟩ := moved
  obtain ⟨session, step, rfl⟩ := Option.map_eq_some_iff.mp moved
  have whole : (SessionEvent.writeFails packet 0
      (device.answers remote.device (remote.takes (packet.encode.take 0)))).Whole := rfl
  obtain ⟨idle, same⟩ := SessionState.nothing_of_writeFails follows.inOrder step
  have received : remote.receive device (packet.encode.take 0) = remote := by
    rw [receive, List.take_zero, takes_nothing follows.inOrder.pending, List.append_nil]
    rfl
  have inOrder := SessionState.inOrder_step follows.inOrder whole step
  have invariant := SessionState.invariant_step _ follows.stream step
  have answered := SessionState.answered_step follows.stream follows.inOrder follows.answered step
  rw [received]
  subst same
  refine ⟨invariant, inOrder, answered, ?_, fun some => ?_, follows.fits, follows.frames,
    follows.current, follows.received, fun ended => absurd (alive.symm.trans ended) (by simp)⟩
  · rcases follows.asked with ⟨silent, none⟩ | ⟨opener, same⟩
    · exact .nothing silent none
    · exact .requests opener same
  · have inUse := follows.inUse some
    dsimp only
    rw [inUse]
    rfl

theorem follows_stream (follows : remote.Follows device start) {event : SessionEvent}
    (moved : (remoteMachine device).step remote (.stream event) = some next) :
    next.Follows device start := by
  simp only [remoteMachine, step, Option.ite_none_right_eq_some] at moved
  obtain ⟨reads, moved⟩ := moved
  obtain ⟨session, step, rfl⟩ := Option.map_eq_some_iff.mp moved
  obtain ⟨written, served, pending, _⟩ := SessionState.written_step reads step
  have packets : session.packets = remote.session.packets := by
    rw [SessionState.packets, written, SessionState.packets]
  have settled (later : remote.session.phase ≠ .connecting) :=
    SessionState.inUse_step follows.stream later step
  refine ⟨SessionState.invariant_step _ follows.stream step,
    SessionState.inOrder_step follows.inOrder (SessionState.whole_of_reads reads) step,
    SessionState.answered_step follows.stream follows.inOrder follows.answered step, ?_,
    fun some => ?_, follows.fits, ?_, follows.current, ?_, fun ended => ?_⟩
  · rcases follows.asked with ⟨silent, none⟩ | ⟨opener, same⟩
    · exact .nothing (written.trans silent) none
    · refine .requests opener ?_
      dsimp only
      rw [written, same]
      by_cases none : remote.calls = []
      · rw [none]
        rfl
      · have inUse := follows.inUse none
        rw [(settled (by simp [inUse])).2]
  · have inUse := follows.inUse some
    exact (settled (by simp [inUse])).1.trans inUse
  · dsimp only
    rw [served, packets]
    exact follows.frames
  · obtain ⟨closing, received, closes⟩ := follows.received
    refine ⟨closing, received.trans (by rw [packets]), closes.imp id ?_⟩
    rintro ⟨ended, told⟩
    refine ⟨ended, told.trans ?_⟩
    rw [(settled (follows.dropped ended).2).2]
  · obtain ⟨idle, later⟩ := follows.dropped ended
    refine ⟨SessionState.idle_step reads idle step, ?_⟩
    rw [(settled later).1]
    exact later

theorem follows_drop (follows : remote.Follows device start) {count : Nat}
    (moved : (remoteMachine device).step remote (.drop count) = some next) :
    next.Follows device start := by
  simp only [remoteMachine, step, Option.ite_none_right_eq_some, Option.some.injEq] at moved
  obtain ⟨⟨later, idle, alive⟩, rfl⟩ := moved
  have free := Option.isNone_iff_eq_none.mp idle
  let last := EncapsPacket.unregisterSession remote.session.sessionHandle
  have bare : last.data = [] := rfl
  have taken : remote.takes (last.encode.take count) = [] ∨
      remote.takes (last.encode.take count) = [last.encode] := by
    rcases Nat.lt_or_ge count headerSize with part | all
    · refine Or.inl ?_
      rw [takes, SessionState.cutAfter_part follows.inOrder.pending bare part, List.map_nil]
    · have size : last.encode.length = headerSize := by
        rw [last.length_encode, bare]
        rfl
      rw [List.take_of_length_le (size.trans_le all)]
      exact Or.inr (takes_whole follows.inOrder.pending (EncapsPacket.fits_unregisterSession _))
  have received := follows.received_eq alive
  refine ⟨follows.stream, follows.inOrder, follows.answered, follows.asked, follows.inUse,
    follows.fits, follows.frames, ?_, ⟨remote.takes (last.encode.take count), ?_,
    taken.imp id fun told => ⟨rfl, told⟩⟩, fun _ => ⟨free, later⟩⟩
  · dsimp only [receive]
    rw [Responder.after_append, ← follows.current]
  · dsimp only [receive]
    rw [received]

theorem follows_step (event : RemoteEvent) (follows : remote.Follows device start)
    (whole : event.Whole) (moved : (remoteMachine device).step remote event = some next) :
    next.Follows device start := by
  cases event with
  | register => exact follows_register follows moved
  | call => exact follows_call follows whole moved
  | writeFails packet count =>
    obtain rfl : count = 0 := whole
    exact follows_writeFails follows moved
  | stream => exact follows_stream follows moved
  | drop => exact follows_drop follows moved

theorem follows_run {events : List RemoteEvent} (whole : ∀ event ∈ events, event.Whole)
    (reached : (remoteMachine device).run (connect start) events = some remote) :
    remote.Follows device start :=
  (remoteMachine device).invariant_of_meets
    (fun _ event _ follows whole moved => follows_step event follows whole moved)
    (follows_connect start) ((remoteMachine device).meets_of_forall_mem whole) reached

/-! ### What calls return -/

/-- A call that has returned was answered in its turn. -/
theorem Follows.answer_of_done (follows : remote.Follows device start) {index : Nat}
    {done : DoneCall} {answer : Frame} (found : remote.session.done[index]? = some done)
    (read : remote.session.ReadAnswer done answer) :
    (device.answers start remote.session.packets)[index]? = some answer := by
  rw [← follows.frames, List.getElem?_map]
  exact follows.inOrder.place found read

/-- A session in use was registered with the handle that the device gave out. -/
theorem Follows.registered (follows : remote.Follows device start)
    (inUse : remote.session.phase = .registered) :
    ∃ thread reply, (device.register start).1 = .ok reply ∧
      remote.session.sessionHandle = reply.sessionHandle ∧
      remote.session.written.map (fun sent => (sent.thread, sent.packet)) =
        (thread, EncapsPacket.registerSession) ::
          remote.calls.map fun call => (call.1, call.2.packet remote.session.sessionHandle) := by
  obtain ⟨opening, answer, reply, found, own, ok, handle⟩ := follows.answered.registered inUse
  rcases follows.asked with ⟨silent, -⟩ | ⟨thread, same⟩
  · have present := SessionState.written_of_done found
    rw [silent] at present
    exact absurd present (by simp)
  · refine ⟨thread, reply, ?_, handle, same⟩
    have place := follows.answer_of_done found own
    rw [map_packets same, List.map_cons, Responder.answers, List.getElem?_cons_zero] at place
    have result := follows.answered.own 0 opening found answer own
    rw [ok, ← Option.some.inj place] at result
    exact result.symm

/-- What the device was sent, over the life of a session. -/
structure Life (device : Responder State) (start : State) (remote : RemoteSession State)
    (opening closing : List EncapsPacket) : Prop where
  received : remote.received = (opening ++
    remote.calls.map (fun call => call.2.packet remote.session.sessionHandle) ++ closing).map
      EncapsPacket.encode
  opens : opening = [] ∨ opening = [EncapsPacket.registerSession]
  closes : closing = [] ∨ remote.dropped = true ∧
    closing = [EncapsPacket.unregisterSession remote.session.sessionHandle]
  inUse : remote.session.phase = .registered → opening = [EncapsPacket.registerSession] ∧
    ∃ reply, (device.register start).1 = .ok reply ∧
      remote.session.sessionHandle = reply.sessionHandle
  outside : remote.session.phase ≠ .registered →
    remote.calls = [] ∧ remote.session.sessionHandle = 0

theorem Follows.life (follows : remote.Follows device start) :
    ∃ opening closing, remote.Life device start opening closing := by
  obtain ⟨last, received, ends⟩ := follows.received
  obtain ⟨closing, rfl, closes⟩ : ∃ closing : List EncapsPacket,
      last = closing.map EncapsPacket.encode ∧ (closing = [] ∨ remote.dropped = true ∧
        closing = [EncapsPacket.unregisterSession remote.session.sessionHandle]) := by
    rcases ends with none | ⟨ended, told⟩
    · exact ⟨[], none, Or.inl rfl⟩
    · exact ⟨[_], told, Or.inr ⟨ended, rfl⟩⟩
  have outside : remote.session.phase ≠ .registered →
      remote.calls = [] ∧ remote.session.sessionHandle = 0 := fun outside =>
    ⟨by_contra fun some => outside (follows.inUse some), follows.answered.unregistered outside⟩
  rcases follows.asked with ⟨silent, none⟩ | ⟨thread, same⟩
  · refine ⟨[], closing, ?_, Or.inl rfl, closes, fun inUse => ?_, outside⟩
    · rw [received, SessionState.packets, silent, none]
      rfl
    · obtain ⟨_, _, -, -, same⟩ := follows.registered inUse
      rw [silent] at same
      exact absurd same (by simp)
  · refine ⟨[EncapsPacket.registerSession], closing, ?_, Or.inr rfl, closes, fun inUse => ⟨rfl, ?_⟩,
      outside⟩
    · rw [received, map_packets same, List.map_cons, List.map_map, List.map_append,
        List.map_append, List.map_map]
      rfl
    · obtain ⟨_, reply, given, handle, -⟩ := follows.registered inUse
      exact ⟨reply, given, handle⟩

/-- The packets of a session in use. -/
theorem Follows.packets (follows : remote.Follows device start) (none : remote.calls ≠ []) :
    remote.session.packets = EncapsPacket.registerSession.encode ::
      remote.calls.map fun call => (call.2.packet remote.session.sessionHandle).encode := by
  obtain ⟨thread, reply, -, -, same⟩ := follows.registered (follows.inUse none)
  rw [map_packets same, List.map_cons, List.map_map]
  rfl

/-- The calls that have returned, next to what they would return on the session that is answered
at once. -/
theorem Follows.results (follows : remote.Follows device start) {index : Nat} {done : DoneCall}
    (found : remote.session.done[index + 1]? = some done) :
    (remote.calls[index]?).map Prod.fst = some done.thread ∧
      (remote.session.ReadOwn done →
        (RouterCall.sendAll (device.atomicSession remote.session.sessionHandle)
            (remote.calls.map Prod.snd) (device.register start).2).1[index]? =
          some (done.result >>= fun reply => MessageRouter.decodeReply reply.data)) := by
  have present := SessionState.written_of_done found
  rcases follows.asked with ⟨silent, -⟩ | ⟨thread, same⟩
  · rw [silent] at present
    exact absurd present (by simp)
  · have place := congrArg (·[index + 1]?) same
    rw [List.getElem?_map, present, List.getElem?_cons_succ, List.getElem?_map] at place
    obtain ⟨call, here, named⟩ := Option.map_eq_some_iff.mp place.symm
    refine ⟨?_, ?_⟩
    · rw [here]
      exact congrArg some (congrArg Prod.fst named)
    · rintro ⟨answer, own⟩
      have turn := follows.answer_of_done found own
      have result := follows.answered.own (index + 1) done found answer own
      rw [map_packets same, List.map_cons, List.map_map, Responder.answers,
        List.getElem?_cons_succ] at turn
      rw [Responder.sendAll_atomicSession, List.map_map, List.getElem?_map]
      refine (congrArg (Option.map _) turn).trans (congrArg some ?_)
      rw [result]
      rfl

/-- A step moves the session by one of its own events, or not at all. -/
theorem session_of_step {event : RemoteEvent} (whole : event.Whole)
    (moved : (remoteMachine device).step remote event = some next) :
    next.session = remote.session ∨ ∃ own, remote.session.step own = some next.session ∧
      own.Whole ∧ (event ≠ .stream .timeout → own ≠ .timeout) := by
  have wrote {thread : Nat} {packet : EncapsPacket} {sent : RemoteSession State}
      (fits : packet.Fits) (write : remote.write device thread packet = some sent) :
      ∃ own, remote.session.step own = some sent.session ∧ own.Whole ∧
        (event ≠ .stream .timeout → own ≠ .timeout) := by
    obtain ⟨session, step, rfl⟩ := Option.map_eq_some_iff.mp write
    exact ⟨_, step, fits, fun _ => by simp⟩
  cases event with
  | register thread =>
    simp only [remoteMachine, step, Option.ite_none_right_eq_some] at moved
    exact Or.inr (wrote EncapsPacket.fits_registerSession moved.2)
  | call thread call =>
    simp only [remoteMachine, step, Option.ite_none_right_eq_some] at moved
    obtain ⟨sent, write, rfl⟩ := Option.map_eq_some_iff.mp moved.2
    have own := wrote (RouterCall.fits_packet whole _) write
    exact Or.inr own
  | writeFails packet count =>
    simp only [remoteMachine, step, Option.ite_none_right_eq_some] at moved
    obtain ⟨session, step, rfl⟩ := Option.map_eq_some_iff.mp moved.2
    exact Or.inr ⟨_, step, whole, fun _ => by simp⟩
  | stream event =>
    simp only [remoteMachine, step, Option.ite_none_right_eq_some] at moved
    obtain ⟨session, step, rfl⟩ := Option.map_eq_some_iff.mp moved.2
    exact Or.inr ⟨event, step, SessionState.whole_of_reads moved.1,
      fun prompt same => prompt (congrArg RemoteEvent.stream same)⟩
  | drop count =>
    simp only [remoteMachine, step, Option.ite_none_right_eq_some, Option.some.injEq] at moved
    obtain ⟨_, rfl⟩ := moved
    exact Or.inl rfl

theorem allOwn_run {events : List RemoteEvent}
    (clean : ∀ event ∈ events, event.Whole ∧ event ≠ .stream .timeout)
    (reached : (remoteMachine device).run (connect start) events = some remote) :
    remote.session.AllOwn := by
  have kept : ∀ (state : RemoteSession State) (event : RemoteEvent) (after : RemoteSession State),
      state.session.Invariant ∧ state.session.InStep ∧ state.session.AllOwn →
        event.Whole ∧ event ≠ .stream .timeout →
          (remoteMachine device).step state event = some after →
            after.session.Invariant ∧ after.session.InStep ∧ after.session.AllOwn := by
    rintro state event after ⟨invariant, inStep, own⟩ ⟨whole, inTime⟩ moved
    rcases session_of_step whole moved with same | ⟨worked, step, also, quick⟩
    · rw [same]
      exact ⟨invariant, inStep, own⟩
    · have never := quick inTime
      exact ⟨SessionState.invariant_step worked invariant step,
        SessionState.inStep_step invariant inStep also never step,
        SessionState.allOwn_step invariant inStep own never step⟩
  refine ((remoteMachine device).invariant_of_meets kept ⟨SessionState.invariant_connect,
    SessionState.inStep_connect, fun done member => ?_⟩
    ((remoteMachine device).meets_of_forall_mem clean) reached).2.2
  exact absurd member List.not_mem_nil

end RemoteSession

/-! ### A device that counts -/

/-- The reply to a request: how many there were before. -/
def countReply (count : UInt8) : RouterReply where
  header := [0, 0, 0, 0, 0, 0]
  address := .nullAddress
  dataType := .unconnectedMessage
  response := ⟨⟨0x8E⟩, ⟨0⟩, [], [count], []⟩

theorem length_countReply (count : UInt8) : (countReply count).payload.length = 21 := rfl

/-- It gives out handle 7, and counts the requests. -/
def counter : Responder Nat := fun bytes count =>
  if (getU16 bytes).1 = EncapsCommand.sendRrData.code then
    (⟨EncapsPacket.new EncapsCommand.sendRrData 7 (countReply (UInt8.ofNat count)).payload,
      (length_countReply _).trans_lt (by decide)⟩, count + 1)
  else (⟨EncapsPacket.new EncapsCommand.registerSession 7 [1, 0, 0, 0], by decide⟩, count)

def getAttribute : RouterCall where
  router := MessageRouter.new
  service := ⟨0x0E⟩
  path := EPath.ofAttribute 1 1 7
  data := []
  additionalItems := []

/-- Two threads that share a session. The first write fails before it has sent anything, and the
bytes of the replies arrive in pieces. -/
def twoThreads : List RemoteEvent :=
  [.register 0, .stream (.deliver 28), .stream .readHeader, .stream .readData,
    .writeFails (getAttribute.packet 7) 0,
    .call 1 getAttribute, .stream (.deliver 30), .stream .readHeader, .stream (.deliver 15),
    .stream .readData,
    .call 2 getAttribute, .stream (.deliver 45), .stream .readHeader, .stream .readData]

theorem whole_twoThreads : ∀ event ∈ twoThreads, event.Whole ∧ event ≠ .stream .timeout := by
  have fits : getAttribute.Fits := by
    rw [RouterCall.Fits]
    decide
  simp [twoThreads, RemoteEvent.Whole, fits]

/-! ### Every run -/

section Runs

variable {State : Type} {device : Responder State} {start : State} {events : List RemoteEvent}
  {last : RemoteSession State}

/-- Calls from any number of threads over a stream are calls on a session that answers at once,
one after the other in the order in which they took the stream. In every run in which each write
sends nothing or the whole of a packet that fits, whatever the device answers, whenever bytes
arrive and whichever reads time out: until the session is dropped, the device is in the state that
these calls leave it in; every returned call that read its own answer has the result that it has
there, under its own thread; and all calls but one have returned. As long as no read times out,
every call reads its own answer. -/
theorem calls_linearize (whole : ∀ event ∈ events, event.Whole)
    (reached : (remoteMachine device).run (RemoteSession.connect start) events = some last) :
    (last.calls ≠ [] →
      (last.dropped = false →
        last.device = (RouterCall.sendAll (device.atomicSession last.session.sessionHandle)
          (last.calls.map Prod.snd) (device.register start).2).2) ∧
      last.calls.length ≤ last.session.done.length) ∧
    (∀ (index : Nat) (done : DoneCall), last.session.done[index + 1]? = some done →
      (last.calls[index]?).map Prod.fst = some done.thread ∧
        (last.session.ReadOwn done →
          (RouterCall.sendAll (device.atomicSession last.session.sessionHandle)
              (last.calls.map Prod.snd) (device.register start).2).1[index]? =
            some (done.result >>= fun reply => MessageRouter.decodeReply reply.data))) ∧
    ((∀ event ∈ events, event ≠ .stream .timeout) → last.session.AllOwn) := by
  have follows := RemoteSession.follows_run whole reached
  refine ⟨fun some => ⟨fun alive => ?_, ?_⟩, fun index done found => follows.results found,
    fun prompt => ?_⟩
  · rw [follows.current, follows.received_eq alive, follows.packets some,
      Responder.sendAll_atomicSession, List.map_map]
    rfl
  · have one := @SessionState.length_written_le last.session
    have packets := congrArg List.length (follows.packets some)
    rw [SessionState.packets, List.length_map, List.length_cons, List.length_map] at packets
    omega
  · exact RemoteSession.allOwn_run (fun event member => ⟨whole event member, prompt event member⟩)
      reached

/-- The second thread is told that there was one request before its own. -/
theorem calls_linearize_twoThreads :
    ∃ last done, (remoteMachine counter).run (RemoteSession.connect 0) twoThreads = some last ∧
      last.session.done[2]? = some done ∧ done.thread = 2 ∧ last.session.ReadOwn done ∧
      (RouterCall.sendAll (counter.atomicSession 7) [getAttribute, getAttribute] 0).1[1]? =
        some (done.result >>= fun reply => MessageRouter.decodeReply reply.data) := by
  obtain ⟨_, results, prompt⟩ := @calls_linearize Nat counter 0 twoThreads _
    (fun event member => (whole_twoThreads event member).1) rfl
  have own := prompt fun event member => (whole_twoThreads event member).2
  refine ⟨_, _, rfl, rfl, rfl, own _ (List.mem_of_getElem? (i := 2) rfl), ?_⟩
  exact (results 1 _ rfl).2 (own _ (List.mem_of_getElem? (i := 2) rfl))

end Runs

end EipScanner
