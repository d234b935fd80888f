import MemoryBridge.Rehearsal.Memory

/-!
# Scripts

A script says in advance how the far end of a stream will behave: which bytes arrive in which
pieces, when a read fails or finds the end, how much of a write is taken. Each part of a script is
played once. When a script is over, a link has nothing pending and takes every write.
-/

namespace MemoryBridge

/-- One part of a script of incoming bytes. -/
inductive Arrival
  | data (bytes : Bytes)
  /-- One read fails. -/
  | fault (kind : FaultKind)
  /-- One read finds the end of the stream. -/
  | ended
  /-- The world is stopped; the same read goes on. -/
  | stop
  /-- The receiver of what is read goes away; the same read goes on. -/
  | hangUp
  deriving DecidableEq, Repr

/-- A piece weighs one more than its bytes, all else one. -/
def Arrival.weight : Arrival → Nat
  | .data bs => bs.length + 1
  | _ => 1

/-- One part of a script of outgoing bytes. -/
inductive Acceptance
  /-- The next bytes, this many, are taken. -/
  | take (count : Nat)
  /-- One write fails. -/
  | fault (kind : FaultKind)
  /-- One write takes nothing. -/
  | refuse
  deriving DecidableEq, Repr

/-- For each call in turn, whether it fails. -/
abbrev FaultQueue := List (Option FaultKind)

namespace Script

/-- A fault that a script asks for. -/
def fault (kind : FaultKind) : Fault := ⟨kind, "scripted fault"⟩

/-! ## Incoming bytes -/

/-- What a read finds next in a script. -/
inductive Due
  | bytes (bytes : Bytes)
  | fault (kind : FaultKind)
  | ended
  /-- The script is over. -/
  | nothing
  deriving DecidableEq, Repr

/-- A script played up to what the next read finds. -/
structure Cue where
  due : Due
  rest : List Arrival
  stop : Bool := false
  hangUp : Bool := false
  deriving DecidableEq, Repr

/-- Plays a script up to the next read. Pieces without bytes are passed over. -/
def cue : List Arrival → Cue
  | [] => { due := .nothing, rest := [] }
  | .data [] :: rest => cue rest
  | .data (b :: bs) :: rest => { due := .bytes (b :: bs), rest }
  | .fault kind :: rest => { due := .fault kind, rest }
  | .ended :: rest => { due := .ended, rest }
  | .stop :: rest => { cue rest with stop := true }
  | .hangUp :: rest => { cue rest with hangUp := true }

/-- Bounds the reads for which a script has an answer. -/
def arrivalWeight : List Arrival → Nat
  | [] => 0
  | a :: rest => a.weight + arrivalWeight rest

def Due.weight : Due → Nat
  | .bytes bs => bs.length + 1
  | .nothing => 0
  | _ => 1

/-- What was found and what is left together weigh no more than the script. -/
theorem cue_weight (script : List Arrival) :
    (cue script).due.weight + arrivalWeight (cue script).rest ≤ arrivalWeight script := by
  induction script with
  | nil => simp [cue, arrivalWeight, Due.weight]
  | cons a rest ih =>
    have hs : arrivalWeight (a :: rest) = a.weight + arrivalWeight rest := rfl
    cases a with
    | data bs =>
      cases bs with
      | nil => simp only [cue]; omega
      | cons b bs => simp [cue, hs, Arrival.weight, Due.weight]
    | fault kind => simp [cue, hs, Arrival.weight, Due.weight]
    | ended => simp [cue, hs, Arrival.weight, Due.weight]
    | stop => simp only [cue]; omega
    | hangUp => simp only [cue]; omega

theorem cue_bytes_ne_nil {script : List Arrival} {bs : Bytes} (h : (cue script).due = .bytes bs) :
    bs ≠ [] := by
  induction script with
  | nil => simp [cue] at h
  | cons a rest ih =>
    cases a with
    | data cs =>
      cases cs with
      | nil => exact ih h
      | cons c cs =>
        simp only [cue, Due.bytes.injEq] at h
        simp [← h]
    | fault kind => simp [cue] at h
    | ended => simp [cue] at h
    | stop => exact ih h
    | hangUp => exact ih h

/-- All bytes of a script. -/
def bytesOf : List Arrival → Bytes
  | [] => []
  | .data bs :: rest => bs ++ bytesOf rest
  | _ :: rest => bytesOf rest

/-- How many bytes a script holds. -/
def dataLength : List Arrival → Nat
  | [] => 0
  | .data bs :: rest => bs.length + dataLength rest
  | _ :: rest => dataLength rest

/-! ## Outgoing bytes -/

/-- How much of a write is taken, and the script after it. -/
def accept : List Acceptance → Bytes → Except FaultKind Nat × List Acceptance
  | [], bs => (.ok bs.length, [])
  | .take 0 :: rest, bs => accept rest bs
  | .take (n + 1) :: rest, bs =>
    let taken := min (n + 1) bs.length
    (.ok taken, .take (n + 1 - taken) :: rest)
  | .fault kind :: rest, _ => (.error kind, rest)
  | .refuse :: rest, _ => (.ok 0, rest)

theorem accept_le_length {script rest : List Acceptance} {bs : Bytes} {n : Nat}
    (h : accept script bs = (.ok n, rest)) : n ≤ bs.length := by
  fun_induction accept script bs with
  | case1 bs => simp_all
  | case2 rest bs ih => exact ih h
  | case3 n rest bs taken =>
    simp only [Prod.mk.injEq, Except.ok.injEq] at h
    omega
  | case4 => simp at h
  | case5 =>
    simp only [Prod.mk.injEq, Except.ok.injEq] at h
    omega

theorem accept_rest_le (script : List Acceptance) (bs : Bytes) :
    (accept script bs).2.length ≤ script.length := by
  fun_induction accept script bs with
  | case1 bs => simp
  | case2 rest bs ih => simp; omega
  | case3 n rest bs taken => simp
  | case4 => simp
  | case5 => simp

theorem accept_error_rest_lt {script rest : List Acceptance} {bs : Bytes} {kind : FaultKind}
    (h : accept script bs = (.error kind, rest)) : rest.length < script.length := by
  fun_induction accept script bs with
  | case1 bs => simp at h
  | case2 r bs ih => have := ih h; simp; omega
  | case3 n r bs taken => simp at h
  | case4 k r bs => simp_all
  | case5 => simp at h

/-- Takes the answer to one call from a queue. -/
def nextFault : FaultQueue → Option FaultKind × FaultQueue
  | [] => (none, [])
  | f :: rest => (f, rest)

end Script

/-! ## A scripted sink -/

/-- A sink that keeps what it takes and follows a script. -/
structure ScriptedSink where
  received : Record UInt8 := {}
  acceptances : List Acceptance := []
  flushFaults : FaultQueue := []
  /-- Flushes so far, failed ones included. -/
  flushes : Nat := 0
  deriving Repr

namespace ScriptedSink

open Script

def write (bs : Bytes) : EStateM Fault ScriptedSink Nat := fun s =>
  match accept s.acceptances bs with
  | (.ok n, rest) => .ok n { s with acceptances := rest, received := s.received.addAll (bs.take n) }
  | (.error kind, rest) => .error (fault kind) { s with acceptances := rest }

def flush : EStateM Fault ScriptedSink Unit := fun s =>
  let (failing, rest) := nextFault s.flushFaults
  let s := { s with flushFaults := rest, flushes := s.flushes + 1 }
  match failing with
  | some kind => .error (fault kind) s
  | none => .ok () s

/-- Bounds the faults that writing can still meet. -/
def weight (s : ScriptedSink) : Nat := s.acceptances.length

theorem write_le_length {bs : Bytes} {s t : ScriptedSink} {n : Nat} (h : write bs s = .ok n t) :
    n ≤ bs.length := by
  unfold write at h
  split at h
  · rename_i k rest ha
    simp only [EStateM.Result.ok.injEq] at h
    exact h.1 ▸ accept_le_length ha
  · simp at h

theorem write_error_weight {bs : Bytes} {s t : ScriptedSink} {f : Fault}
    (h : write bs s = .error f t) : t.weight < s.weight := by
  unfold write at h
  split at h
  · simp at h
  · rename_i kind rest ha
    simp only [EStateM.Result.error.injEq] at h
    rw [← h.2]
    exact accept_error_rest_lt ha

theorem write_weight (bs : Bytes) (s : ScriptedSink) :
    (endState (write bs s)).weight ≤ s.weight := by
  have := accept_rest_le s.acceptances bs
  unfold write
  split <;> rename_i ha <;> rw [ha] at this <;> exact this

theorem flush_weight (s : ScriptedSink) : (endState (flush s)).weight = s.weight := by
  unfold flush
  cases hn : nextFault s.flushFaults with
  | mk failing rest => cases failing <;> rfl

/-- A scripted sink as a sink. -/
def sink : Sink ScriptedSink where
  write := write
  flush := flush
  writePatience := weight
  write_le_length := write_le_length
  write_interrupted := fun h _ => write_error_weight h

end ScriptedSink

/-! ## A scripted reader -/

/-- A source that plays a script and then is at its end for good. -/
structure ScriptedReader where
  arrivals : List Arrival := []
  stopped : Bool := false
  hungUp : Bool := false
  deriving Repr

namespace ScriptedReader

open Script

/-- Plays the script up to the next read. -/
def next (r : ScriptedReader) : Due × ScriptedReader :=
  let c := cue r.arrivals
  (c.due, { arrivals := c.rest, stopped := r.stopped || c.stop, hungUp := r.hungUp || c.hangUp })

def read (n : Nat) : EStateM Fault ScriptedReader Bytes := fun r =>
  match r.next with
  | (.bytes bs, r) => .ok (bs.take n) { r with arrivals := .data (bs.drop n) :: r.arrivals }
  | (.fault kind, r) => .error (fault kind) r
  | (.ended, r) => .ok [] r
  | (.nothing, r) => .ok [] r

def weight (r : ScriptedReader) : Nat := arrivalWeight r.arrivals

theorem next_weight (r : ScriptedReader) : r.next.1.weight + r.next.2.weight ≤ r.weight :=
  cue_weight r.arrivals

theorem read_length_le {n : Nat} {r t : ScriptedReader} {bs : Bytes} (h : read n r = .ok bs t) :
    bs.length ≤ n := by
  unfold read at h
  split at h <;> simp only [EStateM.Result.ok.injEq, reduceCtorEq] at h
  · rw [← h.1]
    exact List.length_take_le _ _
  · simp [← h.1]
  · simp [← h.1]

theorem read_error_weight {n : Nat} {r t : ScriptedReader} {f : Fault} (h : read n r = .error f t) :
    t.weight < r.weight := by
  have hw := next_weight r
  unfold read at h
  split at h <;> simp only [EStateM.Result.error.injEq, reduceCtorEq] at h
  rename_i kind q hn
  rw [hn] at hw
  rw [← h.2]
  simp only [Due.weight] at hw
  omega

/-- A scripted reader as a source. -/
def source : Source ScriptedReader where
  read := read
  readPatience := weight
  read_length_le := read_length_le
  read_interrupted := fun h _ => read_error_weight h

end ScriptedReader

end MemoryBridge
