import MemoryBridge.Proofs.Handoff
import MemoryBridge.Proofs.Simulation.Update

/-!
# Watched worlds

`Host.watched` is a host that keeps a log of all that its world is asked for, and of whether
the world was stopped before and after. A stop may fall into every single deed: into an
opening, a read, a pause, a look into the input channel. The log tells into which one it fell
and what was begun after it.

A watched host is no other host than the one that it watches: `Watched.follows`.

* `Grows`: what is added to the log fits together. A deed begins as the one before it has ended, and
  no deed takes a stop back.
* `pollLoop_follows`: poll loops on hosts that follow each other.
-/

namespace MemoryBridge

variable {σ τ α : Type}

/-- What a world is asked for. -/
inductive Deed
  | read (link : LinkId) (size : Nat)
  | write (link : LinkId) (offered : Bytes)
  | flush (link : LinkId)
  | setMode (link : LinkId) (mode : ReadMode)
  /-- Bytes that are offered to the sink. -/
  | pass (offered : Bytes)
  | passFlush
  /-- An attempt to open a link, and what comes of it. -/
  | opening (result : Except Fault LinkId)
  | pause (ms : Nat)
  /-- A look into the input channel. -/
  | look (found : Received)

namespace Deed

/-- The link that is read from, written to or flushed. A switch of the mode does not use a link. -/
def use? : Deed → Option LinkId
  | .read k _ => some k
  | .write k _ => some k
  | .flush k => some k
  | _ => none

def isOpening : Deed → Bool
  | .opening _ => true
  | _ => false

def isLook : Deed → Bool
  | .look _ => true
  | _ => false

/-- What is asked for to serve the device on the link `k`. -/
def serves (k : LinkId) : Deed → Bool
  | .read j _ => j = k
  | .write j _ => j = k
  | .flush j => j = k
  | .setMode j _ => j = k
  | .pass _ => true
  | .passFlush => true
  | _ => false

end Deed

/-- A deed, and whether the world was stopped when it was begun and when it was done. -/
structure Stamp where
  deed : Deed
  begun : Bool
  done : Bool

namespace Stamp

/-- A deed that serves the device on the link `k`. -/
def serves (k : LinkId) (x : Stamp) : Bool :=
  x.deed.serves k

/-- What is done to get a link. No opening is begun in a stopped world. -/
def connects (x : Stamp) : Bool :=
  match x.deed with
  | .opening _ => !x.begun
  | .setMode _ mode => mode = .poll
  | .pause _ => true
  | _ => false

end Stamp

/-! ## Chains of stamps -/

/-- Every deed begins as the one before has ended, and a stop lasts. -/
inductive Chain : Bool → List Stamp → Bool → Prop
  | nil (b : Bool) : Chain b [] b
  | cons {b b' : Bool} {x : Stamp} {stamps : List Stamp} (begins : x.begun = b)
      (lasts : b = true → x.done = true) (rest : Chain x.done stamps b') : Chain b (x :: stamps) b'

namespace Chain

variable {b b' b'' : Bool} {stamps later : List Stamp}

theorem append (h : Chain b stamps b') (h' : Chain b' later b'') :
    Chain b (stamps ++ later) b'' := by
  induction h with
  | nil b => exact h'
  | cons begins lasts rest ih => exact .cons begins lasts (ih h')

/-- After a stop everything is begun and done in a world that is stopped. -/
theorem stopped (h : Chain b stamps b') (hb : b = true) :
    b' = true ∧ ∀ x ∈ stamps, x.begun = true ∧ x.done = true := by
  induction h with
  | nil b => exact ⟨hb, by simp⟩
  | @cons b b' x stamps begins lasts rest ih =>
    obtain ⟨hEnd, hRest⟩ := ih (lasts hb)
    refine ⟨hEnd, ?_⟩
    intro y hy
    rcases List.mem_cons.mp hy with rfl | hy
    · exact ⟨begins.trans hb, lasts hb⟩
    · exact hRest y hy

/-- What has led to a world that runs was begun and done in a world that runs. -/
theorem running (h : Chain b stamps b') (hb : b' = false) :
    b = false ∧ ∀ x ∈ stamps, x.begun = false ∧ x.done = false := by
  induction h with
  | nil b => exact ⟨hb, by simp⟩
  | @cons b b' x stamps begins lasts rest ih =>
    obtain ⟨hDone, hRest⟩ := ih hb
    have hBegun : b = false := by
      by_contra hStopped
      cases hDone.symm.trans (lasts (by simpa using hStopped))
    refine ⟨hBegun, ?_⟩
    intro y hy
    rcases List.mem_cons.mp hy with rfl | hy
    · exact ⟨begins.trans hBegun, hDone⟩
    · exact hRest y hy

/-- A world runs in the end exactly if it ran in the beginning and no deed has ended in a stopped
world. -/
theorem runs_iff (h : Chain b stamps b') :
    b' = false ↔ b = false ∧ ∀ x ∈ stamps, x.done = false := by
  constructor
  · intro hRuns
    obtain ⟨hBegun, hStamps⟩ := h.running hRuns
    exact ⟨hBegun, fun x hx => (hStamps x hx).2⟩
  · rintro ⟨hBegun, hStamps⟩
    induction h with
    | nil b => exact hBegun
    | @cons b b' x stamps begins lasts rest ih =>
      exact ih (hStamps x (by simp)) fun y hy => hStamps y (by simp [hy])

/-- A deed that ends in a stopped world is followed by such deeds only. -/
theorem lasts {front rest : List Stamp} {x : Stamp} (h : Chain b (front ++ x :: rest) b')
    (hDone : x.done = true) : ∀ y ∈ rest, y.begun = true ∧ y.done = true := by
  induction front generalizing b with
  | nil =>
    cases h with
    | cons begins lasts rest => exact (rest.stopped hDone).2
  | cons z front ih =>
    cases h with
    | cons begins lasts rest => exact ih rest

end Chain

/-! ## The log -/

/-- A world with a log of what was done to it. -/
structure Watched (σ : Type) where
  world : σ
  log : List Stamp := []

namespace Watched

/-- A deed has led to the world `w`. -/
def add (stopped : σ → Bool) (s : Watched σ) (deed : Deed) (w : σ) : Watched σ where
  world := w
  log := s.log ++ [⟨deed, stopped s.world, stopped w⟩]

/-- Lets an operation act on the world and adds it to the log. -/
def note (stopped : σ → Bool) (deed : Except Fault α → Deed) (act : EStateM Fault σ α) :
    EStateM Fault (Watched σ) α :=
  fun s =>
    match act s.world with
    | .ok a w => .ok a (s.add stopped (deed (.ok a)) w)
    | .error f w => .error f (s.add stopped (deed (.error f)) w)

section

variable {stopped : σ → Bool} {deed : Except Fault α → Deed} {act : EStateM Fault σ α}
  {s t : Watched σ}

theorem note_ok {a : α} (h : note stopped deed act s = .ok a t) :
    ∃ w, act s.world = .ok a w ∧ t = s.add stopped (deed (.ok a)) w := by
  unfold note at h
  split at h <;> cases h
  exact ⟨_, ‹_›, rfl⟩

theorem note_error {f : Fault} (h : note stopped deed act s = .error f t) :
    ∃ w, act s.world = .error f w ∧ t = s.add stopped (deed (.error f)) w := by
  unfold note at h
  split at h <;> cases h
  exact ⟨_, ‹_›, rfl⟩

theorem note_end (stopped : σ → Bool) (deed : Except Fault α → Deed) (act : EStateM Fault σ α)
    (s : Watched σ) :
    endState (note stopped deed act s) =
      s.add stopped (deed (toExcept (act s.world))) (endState (act s.world)) := by
  unfold note
  cases act s.world <;> rfl

/-- A relation between worlds, of their logs. -/
def Rel (R : σ → σ → Prop) (s t : Watched σ) : Prop :=
  R s.world t.world

theorem note_moves {R : σ → σ → Prop} (h : Moves R act) :
    Moves (Rel R) (note stopped deed act) := by
  intro s
  rw [note_end]
  exact h s.world

/-- The world without its log. -/
def Erases (s : Watched σ) (w : σ) : Prop :=
  s.world = w

theorem note_erases {w : σ} (h : Erases s w) : Alike Erases (note stopped deed act s) (act w) := by
  obtain rfl : s.world = w := h
  unfold note
  cases act s.world with
  | ok a w => exact .ok rfl
  | error f w => exact .error rfl

end

/-! ## Links, sinks and hosts -/

def link (host : Host σ) (k : LinkId) : Link (Watched σ) where
  read := fun n => note host.stopped (fun _ => .read k n) ((host.link k).read n)
  write := fun bs => note host.stopped (fun _ => .write k bs) ((host.link k).write bs)
  flush := note host.stopped (fun _ => .flush k) (host.link k).flush
  setMode := fun mode => note host.stopped (fun _ => .setMode k mode) ((host.link k).setMode mode)
  readPatience := fun s => (host.link k).readPatience s.world
  writePatience := fun s => (host.link k).writePatience s.world
  read_length_le := fun h => by
    obtain ⟨w, hw, -⟩ := note_ok h
    exact (host.link k).read_length_le hw
  read_interrupted := fun h hf => by
    obtain ⟨w, hw, rfl⟩ := note_error h
    exact (host.link k).read_interrupted hw hf
  write_le_length := fun h => by
    obtain ⟨w, hw, -⟩ := note_ok h
    exact (host.link k).write_le_length hw
  write_interrupted := fun h hf => by
    obtain ⟨w, hw, rfl⟩ := note_error h
    exact (host.link k).write_interrupted hw hf

def sink (host : Host σ) : Sink (Watched σ) where
  write := fun bs => note host.stopped (fun _ => .pass bs) (host.sink.write bs)
  flush := note host.stopped (fun _ => .passFlush) host.sink.flush
  writePatience := fun s => host.sink.writePatience s.world
  write_le_length := fun h => by
    obtain ⟨w, hw, -⟩ := note_ok h
    exact host.sink.write_le_length hw
  write_interrupted := fun h hf => by
    obtain ⟨w, hw, rfl⟩ := note_error h
    exact host.sink.write_interrupted hw hf

section

variable (host : Host σ) (k : LinkId)

theorem link_read (n : Nat) :
    (link host k).read n = note host.stopped (fun _ => .read k n) ((host.link k).read n) := rfl

theorem link_write (bs : Bytes) :
    (link host k).write bs =
      note host.stopped (fun _ => .write k bs) ((host.link k).write bs) := rfl

theorem link_flush :
    (link host k).flush = note host.stopped (fun _ => .flush k) (host.link k).flush := rfl

theorem link_setMode (mode : ReadMode) :
    (link host k).setMode mode =
      note host.stopped (fun _ => .setMode k mode) ((host.link k).setMode mode) := rfl

theorem sink_write (bs : Bytes) :
    (sink host).write bs = note host.stopped (fun _ => .pass bs) (host.sink.write bs) := rfl

theorem sink_flush :
    (sink host).flush = note host.stopped (fun _ => .passFlush) host.sink.flush := rfl

variable {S : Watched σ → Watched σ → Prop}
  (h : ∀ {α : Type} {deed : Deed} {act : EStateM Fault σ α},
  deed.serves k = true → Moves host.After act → Moves S (note host.stopped (fun _ => deed) act))

include h

/-- What holds of every single deed that serves the device holds of the link. -/
theorem link_notes : (link host k).Keeps S where
  read n := by
    rw [link_read]
    exact h (by simp [Deed.serves]) ((host.link_keeps k).read n)
  write bs := by
    rw [link_write]
    exact h (by simp [Deed.serves]) ((host.link_keeps k).write bs)
  flush := by
    rw [link_flush]
    exact h (by simp [Deed.serves]) (host.link_keeps k).flush
  setMode mode := by
    rw [link_setMode]
    exact h (by simp [Deed.serves]) ((host.link_keeps k).setMode mode)

theorem sink_notes : (sink host).Keeps S where
  write bs := by
    rw [sink_write]
    exact h rfl (host.sink_keeps.write bs)
  flush := by
    rw [sink_flush]
    exact h rfl host.sink_keeps.flush

end

end Watched

open Watched in
/-- The host with a log of what its world is asked for. -/
def Host.watched (host : Host σ) : Host (Watched σ) where
  link := Watched.link host
  sink := Watched.sink host
  tryOpen := note host.stopped .opening host.tryOpen
  stopped := fun s => host.stopped s.world
  clock := fun s => host.clock s.world
  pause := fun ms s => s.add host.stopped (.pause ms) (host.pause ms s.world)
  budget := fun s => host.budget s.world
  link_keeps := fun k => link_notes host k fun _ hAct => note_moves hAct
  sink_keeps := sink_notes host 0 fun _ hAct => note_moves hAct
  tryOpen_later := note_moves host.tryOpen_later
  pause_later := fun ms s => host.pause_later ms s.world
  tryOpen_spends := fun s => by
    rw [note_end]
    exact host.tryOpen_spends s.world

/-- The host of a poll loop with such a log. -/
def BridgeHost.watched (host : BridgeHost σ) : BridgeHost (Watched σ) where
  toHost := host.toHost.watched
  receive := fun s => ((host.receive s.world).1,
    s.add host.stopped (.look (host.receive s.world).1) (host.receive s.world).2)
  receive_later := fun s => host.receive_later s.world
  read_spends := fun {k s bs t} h => by
    have hRead : (Watched.link host.toHost k).read 1 s = .ok bs t := h
    rw [Watched.link_read] at hRead
    obtain ⟨w, hw, rfl⟩ := Watched.note_ok hRead
    exact host.read_spends hw
  idle_spends := fun {k s f t} h hf => by
    have hRead : (Watched.link host.toHost k).read 1 s = .error f t := h
    rw [Watched.link_read] at hRead
    obtain ⟨w, hw, rfl⟩ := Watched.note_error hRead
    exact host.idle_spends hw hf

/-! ## How the log grows -/

namespace Watched

/-- From `s` to `t` the log has grown by such stamps, and they follow each other. -/
def Grows (stopped : σ → Bool) (p : Stamp → Bool) (s t : Watched σ) : Prop :=
  ∃ stamps, t.log = s.log ++ stamps ∧ Chain (stopped s.world) stamps (stopped t.world) ∧
    ∀ x ∈ stamps, p x = true

section

variable {stopped : σ → Bool} {p : Stamp → Bool}

theorem grows_durable (stopped : σ → Bool) (p : Stamp → Bool) : Durable (Grows stopped p) where
  refl s := ⟨[], by rw [List.append_nil], .nil _, by simp⟩
  trans := by
    rintro s t u ⟨stamps, hLog, hChain, hStamps⟩ ⟨later, hLog', hChain', hLater⟩
    refine ⟨stamps ++ later, by rw [hLog', hLog, List.append_assoc], hChain.append hChain', ?_⟩
    intro x hx
    rcases List.mem_append.mp hx with hx | hx
    · exact hStamps x hx
    · exact hLater x hx

/-- A single deed. -/
theorem add_grows {s : Watched σ} {deed : Deed} {w : σ}
    (hLater : stopped s.world = true → stopped w = true)
    (h : p ⟨deed, stopped s.world, stopped w⟩ = true) :
    Grows stopped p s (s.add stopped deed w) := by
  refine ⟨_, rfl, .cons rfl hLater (.nil _), ?_⟩
  simpa using h

/-- What is added to the log is what it has grown by. -/
theorem Grows.of_log {s t : Watched σ} {stamps : List Stamp} (h : Grows stopped p s t)
    (hLog : t.log = s.log ++ stamps) :
    Chain (stopped s.world) stamps (stopped t.world) ∧ ∀ x ∈ stamps, p x = true := by
  obtain ⟨stamps', hLog', hChain, hStamps⟩ := h
  obtain rfl : stamps = stamps' := List.append_cancel_left (hLog.symm.trans hLog')
  exact ⟨hChain, hStamps⟩

end

variable (host : Host σ)

theorem note_serves {k : LinkId} {deed : Deed} {act : EStateM Fault σ α}
    (hServes : deed.serves k = true) (hAct : Moves host.After act) :
    Moves (Grows host.stopped (Stamp.serves k)) (note host.stopped (fun _ => deed) act) := by
  intro s
  rw [note_end]
  exact add_grows (hAct s.world).1 hServes

theorem link_serves (k : LinkId) :
    (host.watched.link k).Keeps (Grows host.stopped (Stamp.serves k)) :=
  link_notes host k fun hServes hAct => note_serves host hServes hAct

theorem sink_serves (k : LinkId) : host.watched.sink.Keeps (Grows host.stopped (Stamp.serves k)) :=
  sink_notes host k fun hServes hAct => note_serves host hServes hAct

/-! ## Logs do not matter -/

theorem follows : host.watched.Follows Erases host where
  link k := {
    read := fun n s w h => by
      show Alike Erases ((link host k).read n s) _
      rw [link_read]
      exact note_erases h
    write := fun bs s w h => by
      show Alike Erases ((link host k).write bs s) _
      rw [link_write]
      exact note_erases h
    flush := fun s w h => by
      show Alike Erases ((link host k).flush s) _
      rw [link_flush]
      exact note_erases h
    setMode := fun mode s w h => by
      show Alike Erases ((link host k).setMode mode s) _
      rw [link_setMode]
      exact note_erases h }
  sink := {
    write := fun bs s w h => by
      show Alike Erases ((sink host).write bs s) _
      rw [sink_write]
      exact note_erases h
    flush := fun s w h => by
      show Alike Erases ((sink host).flush s) _
      rw [sink_flush]
      exact note_erases h }
  clock h := congrArg host.clock h
  stopped h := congrArg host.stopped h
  tryOpen _ _ h := note_erases h
  pause {ms} _ _ h := congrArg (host.pause ms) h

end Watched

namespace Connection

/-- A connection in another world. -/
def inWorld (c : Connection σ) (w : τ) : Connection τ where
  session := c.session
  world := w
  timing := c.timing
  link := c.link
  phase := c.phase
  lastRequest := c.lastRequest
  requesting := c.requesting
  reconnects := c.reconnects
  handshakesSent := c.handshakesSent

/-- A connection without its log. -/
def unwatched (c : Connection (Watched σ)) : Connection σ :=
  c.inWorld c.world.world

/-- `d` is `c` without its log. -/
def Unwatched (c : Connection (Watched σ)) (d : Connection σ) : Prop :=
  c.unwatched = d

theorem unwatched_of_same {c : Connection (Watched σ)} {d : Connection σ}
    (h : SameLinked Watched.Erases c d) : Unwatched c d := by
  obtain ⟨⟨⟨hSession, hWorld⟩, hTiming, hPhase, hLast, hRequesting, hReconnects, hSent⟩, hLink⟩ := h
  have hWorld : c.world.world = d.world := hWorld
  unfold Unwatched unwatched inWorld
  rw [hSession, hWorld, hTiming, hLink, hPhase, hLast, hRequesting, hReconnects, hSent]

theorem alike_unwatched {ε α : Type} {r : EStateM.Result ε (Connection (Watched σ)) α}
    {r' : EStateM.Result ε (Connection σ) α} (h : Alike (SameLinked Watched.Erases) r r') :
    Alike Unwatched r r' := by
  cases h with
  | ok h => exact .ok (unwatched_of_same h)
  | error h => exact .error (unwatched_of_same h)

theorem same_unwatched (c : Connection (Watched σ)) : SameLinked Watched.Erases c c.unwatched :=
  ⟨⟨⟨rfl, rfl⟩, rfl, rfl, rfl, rfl, rfl, rfl⟩, rfl⟩

end Connection

namespace Bridge

open Connection

variable {R : σ → τ → Prop} {host : BridgeHost σ} {other : BridgeHost τ}

theorem takeInputIf_follows (hReceive : ∀ {s t}, R s t → (host.receive s).1 = (other.receive t).1 ∧
      R (host.receive s).2 (other.receive t).2) (inputOpen :
        Bool) {c : Connection σ} {d : Connection τ}
    (hcd : SameLinked R c d) :
    (takeInputIf host inputOpen c).1 = (takeInputIf other inputOpen d).1 ∧
      SameLinked R (takeInputIf host inputOpen c).2 (takeInputIf other inputOpen d).2 := by
  obtain ⟨hFound, hWorld⟩ := hReceive hcd.serving.2
  unfold takeInputIf takeInput
  cases inputOpen with
  | false => exact ⟨rfl, hcd⟩
  | true =>
    generalize host.receive c.world = found, other.receive d.world = found' at hFound hWorld
    obtain ⟨r, w⟩ := found
    obtain ⟨r', w'⟩ := found'
    cases hFound
    cases r with
    | chunk bytes =>
      refine ⟨rfl, { hcd with serving := ⟨?_, hWorld⟩ }⟩
      exact congrArg (fun s : Session => { s with mailbox := s.mailbox.append bytes }) hcd.serving.1
    | empty => exact ⟨rfl, { hcd with serving := ⟨hcd.serving.1, hWorld⟩ }⟩
    | disconnected => exact ⟨rfl, { hcd with serving := ⟨hcd.serving.1, hWorld⟩ }⟩

/-- Poll loops on hosts that follow each other. -/
theorem pollLoop_follows (h : host.toHost.Follows R other.toHost)
    (hReceive : ∀ {s t}, R s t →
      (host.receive s).1 = (other.receive t).1 ∧ R (host.receive s).2 (other.receive t).2)
    (inputOpen : Bool) {c : Connection σ} {d : Connection τ} (hcd : SameLinked R c d) :
    Alike (SameLinked R) (pollLoop host inputOpen c) (pollLoop other inputOpen d) := by
  fun_induction pollLoop host inputOpen c generalizing d with
  | case1 inputOpen c hStopped =>
    have hStopped' : other.stopped d.world = true := h.stopped hcd.serving.2 ▸ hStopped
    rw [pollLoop_of_stopped other inputOpen hStopped']
    exact .ok hcd
  | case2 inputOpen c hRuns e hUpdate =>
    have hRuns' : ¬ other.stopped d.world = true := h.stopped hcd.serving.2 ▸ hRuns
    obtain ⟨e', hUpdate', he⟩ := (update_follows h).of_error hcd hUpdate
    rw [pollLoop_of_runs other inputOpen hRuns', hUpdate']
    exact .ok he
  | case3 inputOpen c hRuns f e hUpdate =>
    have hRuns' : ¬ other.stopped d.world = true := h.stopped hcd.serving.2 ▸ hRuns
    obtain ⟨e', hUpdate', he⟩ := (update_follows h).of_error hcd hUpdate
    rw [pollLoop_of_runs other inputOpen hRuns', hUpdate']
    exact .error he
  | case4 inputOpen c hRuns e hUpdate ih =>
    have hRuns' : ¬ other.stopped d.world = true := h.stopped hcd.serving.2 ▸ hRuns
    obtain ⟨e', hUpdate', he⟩ := (update_follows h).of_ok hcd hUpdate
    obtain ⟨hOpen, hTaken⟩ := takeInputIf_follows hReceive inputOpen he
    rw [pollLoop_of_runs other inputOpen hRuns', hUpdate']
    simp only
    rw [← hOpen]
    exact ih hTaken

/-- Whole runs on hosts that follow each other. -/
theorem run_follows (h : host.toHost.Follows R other.toHost)
    (hReceive : ∀ {s t}, R s t →
      (host.receive s).1 = (other.receive t).1 ∧ R (host.receive s).2 (other.receive t).2) :
    Follows (SameLinked R) (run host) (run other) := by
  intro c d hcd
  have hConnect := connect_follows h c d hcd
  unfold run
  generalize connect host.toHost c = r, connect other.toHost d = r' at hConnect
  cases hConnect with
  | ok h' => exact pollLoop_follows h hReceive true h'
  | error h' => exact .ok h'

theorem receive_follows (host : BridgeHost σ) {s : Watched σ} {w : σ} (h : Watched.Erases s w) :
    (host.watched.receive s).1 = (host.receive w).1 ∧
      Watched.Erases (host.watched.receive s).2 (host.receive w).2 := by
  obtain rfl : s.world = w := h
  exact ⟨rfl, rfl⟩

/-- A poll loop on a watched host is a poll loop on the host. -/
theorem pollLoop_unwatched (host : BridgeHost σ) (inputOpen : Bool) (c : Connection (Watched σ)) :
    Alike Unwatched (pollLoop host.watched inputOpen c) (pollLoop host inputOpen c.unwatched) :=
  alike_unwatched (pollLoop_follows (Watched.follows host.toHost) (receive_follows host) inputOpen
    (same_unwatched c))

theorem run_unwatched (host : BridgeHost σ) (c : Connection (Watched σ)) :
    Alike Unwatched (run host.watched c) (run host c.unwatched) :=
  alike_unwatched (run_follows (Watched.follows host.toHost) (receive_follows host) c c.unwatched
    (same_unwatched c))

end Bridge

end MemoryBridge
