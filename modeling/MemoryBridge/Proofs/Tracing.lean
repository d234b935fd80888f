import MemoryBridge.Proofs.Settling.Bytes
import MemoryBridge.Proofs.Simulation.Update

/-!
# Traced worlds

`Host.traced` is a host that keeps a trace of every single operation with its result: at links, at
the sink, and of attempts to open a link. So a trace tells which fault has come up where, and in
which mode a link was read.

A traced host is no other host than the one that it traces, see `run_untraced`. Links keep their
numbers.
-/

namespace MemoryBridge

variable {σ α : Type}

/-- A single operation and what came of it. -/
inductive Operation
  /-- A read of at most so many bytes, in the mode that the link was last asked for. -/
  | read (link : LinkId) (mode : ReadMode) (size : Nat) (result : Except Fault Bytes)
  | write (link : LinkId) (offered : Bytes) (result : Except Fault Nat)
  | flush (link : LinkId) (result : Except Fault Unit)
  | setMode (link : LinkId) (mode : ReadMode) (result : Except Fault Unit)
  /-- Bytes that were offered to the sink. -/
  | pass (offered : Bytes) (result : Except Fault Nat)
  | passFlush (result : Except Fault Unit)
  | opening (result : Except Fault LinkId)

/-- A world with a trace of what was done to it. -/
structure Traced (σ : Type) where
  world : σ
  /-- The mode that each link was last asked for. -/
  asked : LinkId → ReadMode := fun _ => .poll
  trace : List Operation := []

namespace Traced

/-- Lets an operation act on the world and adds it to the trace. -/
def note (operation : Except Fault α → Operation) (act : EStateM Fault σ α) :
    EStateM Fault (Traced σ) α := fun s =>
  match act s.world with
  | .ok a w => .ok a { s with world := w, trace := s.trace ++ [operation (.ok a)] }
  | .error f w => .error f { s with world := w, trace := s.trace ++ [operation (.error f)] }

/-- The link `k` is asked for a mode. -/
def ask (s : Traced σ) (k : LinkId) (mode : ReadMode) : Traced σ :=
  { s with asked := fun j => if j = k then mode else s.asked j }

section

variable {operation : Except Fault α → Operation} {act : EStateM Fault σ α} {s t : Traced σ}

theorem note_ok {a : α} (h : note operation act s = .ok a t) :
    ∃ w, act s.world = .ok a w ∧
      t = { s with world := w, trace := s.trace ++ [operation (.ok a)] } := by
  unfold note at h
  split at h <;> cases h
  exact ⟨_, ‹_›, rfl⟩

theorem note_error {f : Fault} (h : note operation act s = .error f t) :
    ∃ w, act s.world = .error f w ∧
      t = { s with world := w, trace := s.trace ++ [operation (.error f)] } := by
  unfold note at h
  split at h <;> cases h
  exact ⟨_, ‹_›, rfl⟩

/-- What a traced operation does to the trace. -/
theorem note_end (operation : Except Fault α → Operation) (act : EStateM Fault σ α) (s : Traced σ) :
    (endState (note operation act s)).trace =
      s.trace ++ [operation (toExcept (note operation act s))] ∧
      (endState (note operation act s)).asked = s.asked := by
  unfold note
  cases act s.world with
  | ok a w => exact ⟨rfl, rfl⟩
  | error f w => exact ⟨rfl, rfl⟩

/-- A relation between worlds, of their traces. -/
def Rel (R : σ → σ → Prop) (s t : Traced σ) : Prop :=
  R s.world t.world

theorem note_moves {R : σ → σ → Prop} (h : Moves R act) : Moves (Rel R) (note operation act) := by
  intro s
  have hRun := h s.world
  unfold note Rel
  cases hAct : act s.world <;> simpa [hAct] using hRun

/-- The world without its trace. -/
def Erases (s : Traced σ) (w : σ) : Prop :=
  s.world = w

theorem note_erases {w : σ} (h : Erases s w) : Alike Erases (note operation act s) (act w) := by
  obtain rfl : s.world = w := h
  unfold note
  cases act s.world with
  | ok a w => exact .ok rfl
  | error f w => exact .error rfl

end

/-! ## Links, sinks and hosts -/

def link (host : Host σ) (k : LinkId) : Link (Traced σ) where
  read := fun n s => note (.read k (s.asked k) n) ((host.link k).read n) s
  write := fun bs s => note (.write k bs) ((host.link k).write bs) s
  flush := fun s => note (.flush k) (host.link k).flush s
  setMode := fun mode s => note (.setMode k mode) ((host.link k).setMode mode) (s.ask k mode)
  readPatience := fun s => (host.link k).readPatience s.world
  writePatience := fun s => (host.link k).writePatience s.world
  read_length_le := fun h => by
    obtain ⟨w, hw, -⟩ := note_ok h
    exact (host.link k).read_length_le hw
  read_interrupted := fun h hf => by
    obtain ⟨w, hw, rfl⟩ := note_error h
    exact (host.link k).read_interrupted hw hf
  write_le_length := fun h => by
    obtain ⟨w, hw, -⟩ := note_ok h
    exact (host.link k).write_le_length hw
  write_interrupted := fun h hf => by
    obtain ⟨w, hw, rfl⟩ := note_error h
    exact (host.link k).write_interrupted hw hf

def sink (host : Host σ) : Sink (Traced σ) where
  write := fun bs => note (.pass bs) (host.sink.write bs)
  flush := note .passFlush host.sink.flush
  writePatience := fun s => host.sink.writePatience s.world
  write_le_length := fun h => by
    obtain ⟨w, hw, -⟩ := note_ok h
    exact host.sink.write_le_length hw
  write_interrupted := fun h hf => by
    obtain ⟨w, hw, rfl⟩ := note_error h
    exact host.sink.write_interrupted hw hf

section

variable (host : Host σ) (k : LinkId) (s : Traced σ)

theorem link_read (n : Nat) :
    (link host k).read n s = note (.read k (s.asked k) n) ((host.link k).read n) s := rfl

theorem link_write (bs : Bytes) :
    (link host k).write bs s = note (.write k bs) ((host.link k).write bs) s := rfl

theorem link_flush : (link host k).flush s = note (.flush k) (host.link k).flush s := rfl

theorem link_setMode (mode : ReadMode) :
    (link host k).setMode mode s =
      note (.setMode k mode) ((host.link k).setMode mode) (s.ask k mode) := rfl

theorem sink_write (bs : Bytes) :
    (sink host).write bs s = note (.pass bs) (host.sink.write bs) s := rfl

theorem sink_flush : (sink host).flush s = note .passFlush host.sink.flush s := rfl

end

theorem link_keeps (host : Host σ) (k : LinkId) : (link host k).Keeps (Rel host.After) where
  read n s := by
    rw [link_read]
    exact note_moves ((host.link_keeps k).read n) s
  write bs s := by
    rw [link_write]
    exact note_moves ((host.link_keeps k).write bs) s
  flush s := by
    rw [link_flush]
    exact note_moves (host.link_keeps k).flush s
  setMode mode s := by
    rw [link_setMode]
    exact note_moves ((host.link_keeps k).setMode mode) (s.ask k mode)

theorem sink_keeps (host : Host σ) : (sink host).Keeps (Rel host.After) where
  write bs s := by
    rw [sink_write]
    exact note_moves (host.sink_keeps.write bs) s
  flush s := by
    rw [sink_flush]
    exact note_moves host.sink_keeps.flush s

end Traced

/-- The host with a trace of what is done to it. -/
def Host.traced (host : Host σ) : Host (Traced σ) where
  link := Traced.link host
  sink := Traced.sink host
  tryOpen := Traced.note .opening host.tryOpen
  stopped := fun s => host.stopped s.world
  clock := fun s => host.clock s.world
  pause := fun ms s => { s with world := host.pause ms s.world }
  budget := fun s => host.budget s.world
  link_keeps := Traced.link_keeps host
  sink_keeps := Traced.sink_keeps host
  tryOpen_later := Traced.note_moves host.tryOpen_later
  pause_later := fun ms s => host.pause_later ms s.world
  tryOpen_spends := fun s => by
    have hSpends := host.tryOpen_spends s.world
    show host.stopped _ = true ∨ host.budget _ < _
    unfold Traced.note
    cases hOpen : host.tryOpen s.world with
    | ok k w => simpa [hOpen] using hSpends
    | error f w => simpa [hOpen] using hSpends

namespace Traced

theorem follows (host : Host σ) : host.traced.Follows Erases host where
  link k := {
    read := fun n s w h => by
      show Alike Erases ((link host k).read n s) _
      rw [link_read]
      exact note_erases h
    write := fun bs s w h => by
      show Alike Erases ((link host k).write bs s) _
      rw [link_write]
      exact note_erases h
    flush := fun s w h => by
      show Alike Erases ((link host k).flush s) _
      rw [link_flush]
      exact note_erases h
    setMode := fun mode s w h => by
      have hAsk : Erases (s.ask k mode) w := h
      show Alike Erases ((link host k).setMode mode s) _
      rw [link_setMode]
      exact note_erases hAsk }
  sink := {
    write := fun bs s w h => by
      show Alike Erases ((sink host).write bs s) _
      rw [sink_write]
      exact note_erases h
    flush := fun s w h => by
      show Alike Erases ((sink host).flush s) _
      rw [sink_flush]
      exact note_erases h }
  clock h := congrArg host.clock h
  stopped h := congrArg host.stopped h
  tryOpen s w h := note_erases h
  pause {ms} _ _ h := congrArg (host.pause ms) h

end Traced

/-! ## Runs -/

namespace Connection

/-- A connection without its trace. -/
def untraced (c : Connection (Traced σ)) : Connection σ where
  session := c.session
  world := c.world.world
  timing := c.timing
  link := c.link
  phase := c.phase
  lastRequest := c.lastRequest
  requesting := c.requesting
  reconnects := c.reconnects
  handshakesSent := c.handshakesSent

/-- `d` is `c` without its trace. -/
def Untraced (c : Connection (Traced σ)) (d : Connection σ) : Prop :=
  c.untraced = d

theorem untraced_of_same {c : Connection (Traced σ)} {d : Connection σ}
    (h : SameLinked Traced.Erases c d) : Untraced c d := by
  obtain ⟨⟨⟨hSession, hWorld⟩, hTiming, hPhase, hLast, hRequesting, hReconnects, hSent⟩, hLink⟩ := h
  have hWorld : c.world.world = d.world := hWorld
  unfold Untraced untraced
  rw [hSession, hWorld, hTiming, hLink, hPhase, hLast, hRequesting, hReconnects, hSent]

theorem same_untraced (c : Connection (Traced σ)) : SameLinked Traced.Erases c c.untraced where
  serving := ⟨rfl, rfl⟩
  timing := rfl
  phase := rfl
  lastRequest := rfl
  requesting := rfl
  reconnects := rfl
  handshakesSent := rfl
  link := rfl

theorem alike_untraced {ε α : Type} {r : EStateM.Result ε (Connection (Traced σ)) α}
    {r' : EStateM.Result ε (Connection σ) α} (h : Alike (SameLinked Traced.Erases) r r') :
    Alike Untraced r r' := by
  cases h with
  | ok h => exact .ok (untraced_of_same h)
  | error h => exact .error (untraced_of_same h)

theorem connect_untraced (host : Host σ) (c : Connection (Traced σ)) :
    Alike Untraced (connect host.traced c) (connect host c.untraced) :=
  alike_untraced (connect_follows (Traced.follows host) c c.untraced (same_untraced c))

theorem update_untraced (host : Host σ) (c : Connection (Traced σ)) :
    Alike Untraced (update host.traced c) (update host c.untraced) :=
  alike_untraced (update_follows (Traced.follows host) c c.untraced (same_untraced c))

/-- A call on a traced host. Changes of the world leave the trace alone. -/
def Call.traced : Call σ → Call (Traced σ)
  | .connect => .connect
  | .update => .update
  | .append bytes => .append bytes
  | .drain limit => .drain limit
  | .world change => .world fun s => { s with world := change s.world }

theorem after_untraced (host : Host σ) (c : Connection (Traced σ)) (call : Call σ) :
    (after host.traced c call.traced).untraced = after host c.untraced call := by
  cases call with
  | connect => exact (connect_untraced host c).ends
  | update => exact (update_untraced host c).ends
  | append bytes => rfl
  | drain limit => rfl
  | world change => rfl

/-- A run on a traced host is a run on the host. -/
theorem run_untraced (host : Host σ) (c : Connection (Traced σ)) (calls : List (Call σ)) :
    (run host.traced c (calls.map Call.traced)).untraced = run host c.untraced calls :=
  run_map (after_untraced host) c calls

end Connection

end MemoryBridge
