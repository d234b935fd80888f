import Mathlib
import MemoryBridge.Proofs.Settling.Bytes
import MemoryBridge.Proofs.Simulation.Tick
import MemoryBridge.Serial

/-!
# Commands between two switches of mode

A command switches its link to blocking mode first and to poll mode last, whatever becomes of it,
and in between it only reads, writes and flushes. `Journaled.link` keeps a journal of the calls to a
link, each with the world that it was made in, so that this can be said of every link and every way
in which a command ends (`dispatch_entered`, `dispatch_refused`).

The journal also tells what the world was like during a command: whatever reads, writes and flushes
leave alone is at every one of these calls as the first switch has left it. For a serial port that
is the timeout (`Port.Times`).
-/

namespace MemoryBridge

variable {σ α β : Type}

/-- A call to a link. -/
inductive LinkCall
  | read (size : Nat)
  | write (offered : Bytes)
  | flush
  | setMode (mode : ReadMode)
  deriving DecidableEq, Repr

/-- The call is a switch of mode, so no traffic. -/
def LinkCall.isSwitch : LinkCall → Bool
  | .setMode _ => true
  | _ => false

/-- A world with a journal of the calls to its link, each with the world that it has found. -/
structure Journaled (σ : Type) where
  world : σ
  calls : List (LinkCall × σ) := []

namespace Journaled

/-- Makes a call, also one that fails, and adds it to the journal. -/
def note (call : LinkCall) (act : EStateM Fault σ α) : EStateM Fault (Journaled σ) α := fun s =>
  match act s.world with
  | .ok a w => .ok a ⟨w, s.calls ++ [(call, s.world)]⟩
  | .error f w => .error f ⟨w, s.calls ++ [(call, s.world)]⟩

section

variable {call : LinkCall} {act : EStateM Fault σ α} {s t : Journaled σ}

theorem note_ok {a : α} (h : note call act s = .ok a t) :
    ∃ w, act s.world = .ok a w ∧ t = ⟨w, s.calls ++ [(call, s.world)]⟩ := by
  unfold note at h
  split at h <;> cases h
  exact ⟨_, ‹_›, rfl⟩

theorem note_error {f : Fault} (h : note call act s = .error f t) :
    ∃ w, act s.world = .error f w ∧ t = ⟨w, s.calls ++ [(call, s.world)]⟩ := by
  unfold note at h
  split at h <;> cases h
  exact ⟨_, ‹_›, rfl⟩

theorem note_end (call : LinkCall) (act : EStateM Fault σ α) (s : Journaled σ) :
    endState (note call act s) = ⟨endState (act s.world), s.calls ++ [(call, s.world)]⟩ := by
  unfold note
  cases act s.world <;> rfl

/-- The world without its journal. -/
def Erases (s : Journaled σ) (w : σ) : Prop :=
  s.world = w

theorem note_erases (call : LinkCall) (act : EStateM Fault σ α) :
    Follows Erases (note call act) act := by
  rintro s w rfl
  unfold note
  cases act s.world with
  | ok a v => exact .ok rfl
  | error f v => exact .error rfl

end

/-- The link with a journal of the calls to it. -/
def link (link : Link σ) : Link (Journaled σ) where
  read := fun n => note (.read n) (link.read n)
  write := fun bs => note (.write bs) (link.write bs)
  flush := note .flush link.flush
  setMode := fun mode => note (.setMode mode) (link.setMode mode)
  readPatience := fun s => link.readPatience s.world
  writePatience := fun s => link.writePatience s.world
  read_length_le := fun h => by
    obtain ⟨w, hw, -⟩ := note_ok h
    exact link.read_length_le hw
  read_interrupted := fun h hf => by
    obtain ⟨w, hw, rfl⟩ := note_error h
    exact link.read_interrupted hw hf
  write_le_length := fun h => by
    obtain ⟨w, hw, -⟩ := note_ok h
    exact link.write_le_length hw
  write_interrupted := fun h hf => by
    obtain ⟨w, hw, rfl⟩ := note_error h
    exact link.write_interrupted hw hf

/-- The journal changes nothing. -/
theorem mirrors (link : Link σ) : (Journaled.link link).Mirrors Erases link where
  read n := note_erases (.read n) (link.read n)
  write bs := note_erases (.write bs) (link.write bs)
  flush := note_erases .flush link.flush
  setMode mode := note_erases (.setMode mode) (link.setMode mode)

end Journaled

/-! ## Traffic -/

/-- Reads, writes and flushes of `link` leave alone what `view` shows of the world. -/
structure Link.Spares (view : σ → β) (link : Link σ) : Prop where
  read : ∀ n w, view (endState (link.read n w)) = view w
  write : ∀ bs w, view (endState (link.write bs w)) = view w
  flush : ∀ w, view (endState (link.flush w)) = view w

namespace Journaled

open Serve Session

/-- From `s` to `t` there was only traffic, and all of it has found what `view` shows as it was in
`s` and is in `t`. -/
def Busy (view : σ → β) (s t : Journaled σ) : Prop :=
  view t.world = view s.world ∧
    ∃ traffic, t.calls = s.calls ++ traffic ∧
      ∀ call ∈ traffic, call.1.isSwitch = false ∧ view call.2 = view s.world

theorem busy_durable (view : σ → β) : Durable (Busy view) where
  refl s := ⟨rfl, [], (List.append_nil _).symm, by simp⟩
  trans := by
    rintro s t u ⟨hView, traffic, hCalls, hTraffic⟩ ⟨hView', later, hCalls', hLater⟩
    refine ⟨hView'.trans hView, traffic ++ later, by rw [hCalls', hCalls, List.append_assoc], ?_⟩
    intro call hCall
    rcases List.mem_append.mp hCall with hCall | hCall
    · exact hTraffic call hCall
    · obtain ⟨hSwitch, hFound⟩ := hLater call hCall
      exact ⟨hSwitch, hFound.trans hView⟩

theorem note_busy {view : σ → β} {call : LinkCall} {act : EStateM Fault σ α}
    (hCall : call.isSwitch = false) (hView : ∀ w, view (endState (act w)) = view w) :
    Moves (Busy view) (note call act) := by
  intro s
  rw [note_end]
  refine ⟨hView s.world, [(call, s.world)], rfl, ?_⟩
  intro call' hMem
  rw [List.mem_singleton.mp hMem]
  exact ⟨hCall, rfl⟩

section

variable {view : σ → β} {link : Link σ}

theorem keptBy_busy (h : link.Spares view) :
    KeptBy (Journaled.link link) (WorldRel (Busy view)) where
  durable := (busy_durable view).worldRel
  read n := onLink_moves (note_busy rfl (h.read n))
  write bs := onLink_moves (note_busy rfl (h.write bs))
  flush := onLink_moves (note_busy rfl h.flush)
  touch _ := (busy_durable view).refl _

/-- Between its switches a command makes nothing but traffic. -/
theorem carryOut_busy (h : link.Spares view) (code : UInt8) :
    Moves (WorldRel (Busy view)) (carryOut (Journaled.link link) code) :=
  carryOut_moves (keptBy_busy h) (fun _ => (busy_durable view).refl _)
    (fun _ => (busy_durable view).refl _) code

end

/-! ## The bracket -/

section

variable {link : Link σ} {w v : σ}

theorem setMode_ok {mode : ReadMode} (h : link.setMode mode w = .ok () v)
    (calls : List (LinkCall × σ)) :
    (Journaled.link link).setMode mode ⟨w, calls⟩ = .ok () ⟨v, calls ++ [(.setMode mode, w)]⟩ := by
  show note _ _ _ = _
  unfold note
  rw [h]

theorem setMode_error {mode : ReadMode} {f : Fault} (h : link.setMode mode w = .error f v)
    (calls : List (LinkCall × σ)) :
    (Journaled.link link).setMode mode ⟨w, calls⟩ =
      .error f ⟨v, calls ++ [(.setMode mode, w)]⟩ := by
  show note _ _ _ = _
  unfold note
  rw [h]

theorem leaveBlocking_eq (link : Link σ) (s : Journaled σ) :
    (Journaled.link link).leaveBlocking s = ⟨link.leaveBlocking s.world,
      s.calls ++ [(.setMode .poll, s.world)]⟩ :=
  note_end (.setMode .poll) (link.setMode .poll) s

variable (code : UInt8) (s : Session)

/-- On a link that takes blocking mode a command ends as it does without its switches. -/
theorem dispatch_taken (h : link.setMode .blocking w = .ok () v) :
    let done := carryOut link code ⟨s, v⟩
    toExcept (dispatch link code ⟨s, w⟩) = toExcept done ∧
      (endState (dispatch link code ⟨s, w⟩)).session = (endState done).session ∧
      (endState (dispatch link code ⟨s, w⟩)).world = link.leaveBlocking (endState done).world := by
  have hEnter : link.enterBlocking (⟨s, w⟩ : Serving σ).world = .ok () v := h
  obtain ⟨hOutcome, -, hEnd⟩ : toExcept (dispatch link code ⟨s, w⟩) = _ ∧ _ ∧
      endState (dispatch link code ⟨s, w⟩) = _ :=
    bracket_entered hEnter
  exact ⟨hOutcome, by rw [hEnd], by rw [hEnd]⟩

/-- A link that does not take blocking mode ends the command at once. -/
theorem dispatch_refused {f : Fault} (h : link.setMode .blocking w = .error f v) :
    dispatch link code ⟨s, w⟩ = .error (.transport f) ⟨s, v⟩ := by
  have hEnter : onLink link.enterBlocking ⟨s, w⟩ = _ := onLink_error h
  unfold dispatch bracket
  rw [hEnter]

/-- A link that takes blocking mode is told to leave it as the last thing of all, after
nothing but traffic. -/
theorem dispatch_entered {view : σ → β} (hSpares : link.Spares view)
    (h : link.setMode .blocking w = .ok () v) :
    ∃ traffic u, (endState (dispatch (Journaled.link link) code ⟨s, { world := w }⟩)).world =
        ⟨link.leaveBlocking u, (.setMode .blocking, w) :: (traffic ++ [(.setMode .poll, u)])⟩ ∧
      ∀ call ∈ traffic, call.1.isSwitch = false ∧ view call.2 = view v := by
  obtain ⟨-, -, hWorld⟩ := dispatch_taken code s (setMode_ok h [])
  obtain ⟨-, traffic, hCalls, hTraffic⟩ :=
    carryOut_busy hSpares code ⟨s, ⟨v, [(.setMode .blocking, w)]⟩⟩
  let done := endState (carryOut (Journaled.link link) code ⟨s, ⟨v, [(.setMode .blocking, w)]⟩⟩)
  refine ⟨traffic, done.world.world, hWorld.trans ?_, hTraffic⟩
  show (Journaled.link link).leaveBlocking done.world = _
  rw [leaveBlocking_eq, hCalls]
  rfl

/-- An unknown code makes no traffic. -/
theorem dispatch_unknown {code : UInt8} (hCode : Command.ofCode? code = none)
    (h : link.setMode .blocking w = .ok () v) :
    dispatch (Journaled.link link) code ⟨s, { world := w }⟩ =
      .ok none ⟨s.countUnknown,
        ⟨link.leaveBlocking v, [(.setMode .blocking, w), (.setMode .poll, v)]⟩⟩ := by
  have hEnter : onLink (Journaled.link link).enterBlocking ⟨s, { world := w }⟩ = _ :=
    onLink_ok (setMode_ok h [])
  unfold dispatch bracket
  rw [hEnter]
  simp only [carryOut_unknown hCode, leaveBlocking_eq]
  rfl

/-- What a link does with the switch to poll mode makes no difference to how a command ends. -/
theorem dispatch_heedless (setMode : ReadMode → EStateM Fault σ Unit)
    (h : setMode .blocking w = link.setMode .blocking w) :
    toExcept (dispatch { link with setMode := setMode } code ⟨s, w⟩) =
      toExcept (dispatch link code ⟨s, w⟩) ∧
      (endState (dispatch { link with setMode := setMode } code ⟨s, w⟩)).session =
        (endState (dispatch link code ⟨s, w⟩)).session := by
  have hSame : carryOut { link with setMode := setMode } code = carryOut link code := rfl
  cases hEnter : link.setMode .blocking w with
  | error f v =>
    rw [dispatch_refused code s hEnter]
    have hRefused : dispatch { link with setMode := setMode } code ⟨s, w⟩ =
        .error (.transport f) ⟨s, v⟩ :=
      dispatch_refused code s (h.trans hEnter)
    rw [hRefused]
    exact ⟨rfl, rfl⟩
  | ok u v =>
    obtain ⟨hOutcome, hSession, -⟩ := dispatch_taken code s hEnter
    have hTaken : toExcept (dispatch { link with setMode := setMode } code ⟨s, w⟩) =
          toExcept (carryOut { link with setMode := setMode } code ⟨s, v⟩) ∧
        (endState (dispatch { link with setMode := setMode } code ⟨s, w⟩)).session =
          (endState (carryOut { link with setMode := setMode } code ⟨s, v⟩)).session ∧ _ :=
      dispatch_taken code s (h.trans hEnter)
    rw [hOutcome, hSession, hTaken.1, hTaken.2.1, hSame]
    exact ⟨rfl, rfl⟩

end

end Journaled

/-! ## Serial ports -/

/-- `timeout` is the timeout of the port: what it was last set to. Reads, writes and
flushes leave it alone. -/
structure Port.Times (timeout : σ → Nat) (port : Port σ) : Prop where
  read : ∀ n s, timeout (endState (port.read n s)) = timeout s
  write : ∀ bs s, timeout (endState (port.write bs s)) = timeout s
  flush : ∀ s, timeout (endState (port.flush s)) = timeout s
  set : ∀ {ms s t}, port.setTimeout ms s = .ok () t → timeout t = ms

namespace Port

variable {port : Port σ} {timeouts : SerialTimeouts} {mode : ReadMode} {s t : σ}

/-- A switch of mode sets the timeout of that mode. -/
theorem link_setMode (h : port.setTimeout (timeouts.ofMode mode) s = .ok () t) :
    (port.link timeouts).setMode mode s = .ok () t := by
  show setMode port timeouts mode s = _
  unfold setMode
  rw [h]

/-- Traffic on the link leaves the timeout alone. -/
theorem Times.link_spares {timeout : σ → Nat} (h : port.Times timeout) :
    (port.link timeouts).Spares timeout where
  read := h.read
  write := h.write
  flush := h.flush

end Port

namespace SerialPort

/-- The timeout that was set last. -/
def timeout (p : SerialPort) : Nat :=
  p.timeouts.back?.getD 0

theorem onLine_timeout (act : EStateM Fault MemoryLink α) (p : SerialPort) :
    (endState (onLine act p)).timeout = p.timeout := by
  unfold onLine
  cases act p.line <;> rfl

theorem setTimeout_timeout {ms : Nat} {p q : SerialPort} (h : setTimeout ms p = .ok () q) :
    q.timeout = ms := by
  have hPush : (p.timeouts.push ms).back?.getD 0 = ms := by rw [Array.back?_push, Option.getD_some]
  unfold setTimeout at h
  split at h <;> cases h
  · exact hPush
  · exact hPush

theorem times : port.Times timeout where
  read n := onLine_timeout (MemoryLink.read n)
  write bs := onLine_timeout (MemoryLink.write bs)
  flush := onLine_timeout MemoryLink.flush
  set h := setTimeout_timeout h

end SerialPort

namespace Session

open Serve

/-- **A command is bracketed by its switches of mode.** On every link, with a journal that changes
nothing: if the link does not take blocking mode, that fault is all, after this one call, and the
session is what it was. If it does, then whatever becomes of the command the calls are the switch to
blocking mode, reads, writes and flushes, and the switch to poll mode. An unknown code makes no call
but the two switches. A command does not end at the sink, and how it ends does not hang on what the
link does with the switch to poll mode. On a serial port, of which no more is known than that its
timeout is what it was last set to, the traffic of a command finds the command timeout, and the poll
timeout is set afterwards, if the port takes both. -/
theorem bracketed_by_modes (code : UInt8) (s : Session) :
    (∀ {σ : Type} (link : Link σ) (w : σ),
      let r := dispatch (Journaled.link link) code ⟨s, { world := w }⟩
      Alike (SameSession Journaled.Erases) r (dispatch link code ⟨s, w⟩) ∧
        (∀ f v, link.setMode .blocking w = .error f v →
          r = .error (.transport f) ⟨s, ⟨v, [(.setMode .blocking, w)]⟩⟩) ∧
        (∀ v, link.setMode .blocking w = .ok () v →
          (∃ (traffic : List (LinkCall × σ)) (u : σ),
            (endState r).world.calls =
              (.setMode .blocking, w) :: (traffic ++ [(.setMode .poll, u)]) ∧
            (endState r).world.world = link.leaveBlocking u ∧
            ∀ call ∈ traffic, call.1.isSwitch = false) ∧
          (Command.ofCode? code = none →
            r = .ok none ⟨s.countUnknown,
              ⟨link.leaveBlocking v, [(.setMode .blocking, w), (.setMode .poll, v)]⟩⟩)) ∧
        (∀ f, toExcept r ≠ .error (.sink f)) ∧
        ∀ setMode : ReadMode → EStateM Fault σ Unit,
          setMode .blocking w = link.setMode .blocking w →
          let r' := dispatch { link with setMode := setMode } code ⟨s, w⟩
          toExcept r' = toExcept r ∧ (endState r').session = (endState r).session) ∧
      ∀ {σ : Type} (port : Port σ) (timeout : σ → Nat), port.Times timeout →
        ∀ (timeouts : SerialTimeouts) (w entered : σ),
          port.setTimeout timeouts.command w = .ok () entered →
          let r := dispatch (Journaled.link (port.link timeouts)) code ⟨s, { world := w }⟩
          ∃ (traffic : List (LinkCall × σ)) (last : σ),
            (endState r).world.calls =
              (.setMode .blocking, w) :: (traffic ++ [(.setMode .poll, last)]) ∧
            (∀ call ∈ traffic, call.1.isSwitch = false ∧ timeout call.2 = timeouts.command) ∧
            ∀ left, port.setTimeout timeouts.poll last = .ok () left →
              (endState r).world.world = left ∧ timeout left = timeouts.poll := by
  refine ⟨fun {σ} link w => ?_, fun {σ} port timeout hTimes timeouts w entered hEnter => ?_⟩
  · intro r
    have hPlain : Alike (SameSession Journaled.Erases) r (dispatch link code ⟨s, w⟩) :=
      dispatch_follows (Journaled.mirrors link).follows code _ _ ⟨rfl, rfl⟩
    refine ⟨hPlain, fun f v hRefused => ?_, fun v hEnter => ⟨?_, ?_⟩, ?_, ?_⟩
    · exact Journaled.dispatch_refused code s (Journaled.setMode_error hRefused [])
    · have hSpares : link.Spares fun _ => () := ⟨fun _ _ => rfl, fun _ _ => rfl, fun _ => rfl⟩
      obtain ⟨traffic, u, hWorld, hTraffic⟩ := Journaled.dispatch_entered code s hSpares hEnter
      refine ⟨traffic, u, congrArg Journaled.calls hWorld, congrArg Journaled.world hWorld, ?_⟩
      exact fun call hCall => (hTraffic call hCall).1
    · exact fun hCode => Journaled.dispatch_unknown s hCode hEnter
    · intro f hFails
      cases hRun : r with
      | ok a t =>
        rw [hRun] at hFails
        cases hFails
      | error e t =>
        rw [hRun] at hFails
        cases hFails
        exact dispatch_fails _ code _ _ _ hRun f rfl
    · intro setMode hSame r'
      obtain ⟨hOutcome, hSession⟩ := Journaled.dispatch_heedless code s setMode hSame
      refine ⟨hOutcome.trans (toExcept_of_alike hPlain).symm, hSession.trans hPlain.ends.1.symm⟩
  · intro r
    have hBlocking : (port.link timeouts).setMode .blocking w = .ok () entered :=
      Port.link_setMode hEnter
    obtain ⟨traffic, last, hWorld, hTraffic⟩ :=
      Journaled.dispatch_entered code s hTimes.link_spares hBlocking
    refine ⟨traffic, last, congrArg Journaled.calls hWorld, fun call hCall => ?_,
      fun left hLeave => ?_⟩
    · obtain ⟨hSwitch, hFound⟩ := hTraffic call hCall
      exact ⟨hSwitch, hFound.trans (hTimes.set hEnter)⟩
    · have hPoll : (port.link timeouts).setMode .poll last = .ok () left := Port.link_setMode hLeave
      refine ⟨?_, hTimes.set hLeave⟩
      rw [show (endState r).world = _ from hWorld]
      show endState ((port.link timeouts).setMode .poll last) = left
      rw [hPoll]
      rfl

/-- A port in memory that was claimed in poll mode, and a device that asks for one of two bytes of
input: the answer is read for and written at the command timeout. -/
theorem bracketed_on_a_port_in_memory :
    let timeouts : SerialTimeouts := ⟨10, 2000⟩
    let p : SerialPort := { line := { pending := [1, 0, 0, 0] }, timeouts := #[10] }
    let s : Session := { config := {}, mailbox := ⟨[7, 9]⟩ }
    let r := dispatch (Journaled.link (SerialPort.port.link timeouts)) Command.inputRequest.code
      ⟨s, { world := p }⟩
    SerialPort.port.Times SerialPort.timeout ∧
      (endState r).world.calls.map Prod.fst =
        [.setMode .blocking, .read 4, .write [1, 0, 0, 0], .write [7], .flush, .setMode .poll] ∧
      (∀ call ∈ (endState r).world.calls, call.1.isSwitch = false → call.2.timeout = 2000) ∧
      (endState r).world.world.timeout = 10 := by
  intro timeouts p s r
  obtain ⟨traffic, last, hCalls, hTraffic, hLeft⟩ :=
    (bracketed_by_modes Command.inputRequest.code s).2
      SerialPort.port SerialPort.timeout SerialPort.times timeouts p
        { p with timeouts := #[10, 2000] } rfl
  have hMade : (endState r).world.calls.map Prod.fst =
      [.setMode .blocking, .read 4, .write [1, 0, 0, 0], .write [7], .flush, .setMode .poll] := by
    unfold r
    cbv
  have hHeeds : (endState r).world.calls.getLast?.map (·.2.timeoutFaults) = some [] := by
    unfold r
    cbv
  have hLast : (endState r).world.calls.getLast? = some (.setMode .poll, last) := by
    rw [show (endState r).world.calls = _ from hCalls, List.getLast?_cons, List.getLast?_concat]
    rfl
  rw [hLast, Option.map_some, Option.some.injEq] at hHeeds
  have hSet : SerialPort.port.setTimeout timeouts.poll last =
      .ok () { last with timeouts := last.timeouts.push timeouts.poll } := by
    show SerialPort.setTimeout timeouts.poll last = _
    unfold SerialPort.setTimeout
    rw [hHeeds]
  obtain ⟨hEnd, hTimeout⟩ := hLeft _ hSet
  refine ⟨SerialPort.times, hMade, fun call hCall hSwitch => ?_, ?_⟩
  · rw [show (endState r).world.calls = _ from hCalls, List.mem_cons, List.mem_append,
      List.mem_singleton] at hCall
    rcases hCall with rfl | hCall | rfl
    · cases hSwitch
    · exact (hTraffic call hCall).2
    · cases hSwitch
  · rw [show (endState r).world.world = _ from hEnd, hTimeout]

end Session

end MemoryBridge
