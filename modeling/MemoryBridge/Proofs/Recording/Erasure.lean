import MemoryBridge.Connection.Motion
import MemoryBridge.Proofs.Recording
import MemoryBridge.Proofs.Simulation.Tick

/-!
# Records do not matter

A connection on a recorded host does what it would do without the record: same ticks, same failures,
same worlds. So what is read off a record has happened. The one difference is that the record
numbers the links in its own way, and `Connection.plain` gives them back the numbers of the host.
-/

namespace MemoryBridge

variable {σ : Type}

namespace Recorded

/-- The world without its record is `w`, in which the link `k` is the link `id`. -/
def Erases (k id : LinkId) (s : Recorded σ) (w : σ) : Prop :=
  s.world = w ∧ s.target k = id

theorem note_erases {α : Type} {k id : LinkId} (events : Option α → List Entry)
    (act : EStateM Fault σ α) {s : Recorded σ} {w : σ} (h : Erases k id s w) :
    Alike (Erases k id) (note events act s) (act w) := by
  obtain ⟨rfl, hTarget⟩ := h
  unfold note
  cases act s.world with
  | ok a w => exact .ok ⟨rfl, hTarget⟩
  | error f w => exact .error ⟨rfl, hTarget⟩

theorem link_mirrors (host : Host σ) (k id : LinkId) :
    (link host k).Mirrors (Erases k id) (host.link id) where
  read n := by
    intro s w h
    rw [link_read, h.2]
    exact note_erases _ _ h
  write bs := by
    intro s w h
    rw [link_write, h.2]
    exact note_erases _ _ h
  flush := by
    intro s w h
    rw [link_flush, h.2]
    exact note_erases _ _ h
  setMode mode := by
    intro s w h
    have hAsk : Erases k id (s.ask k mode) w := h
    rw [link_setMode, h.2]
    exact note_erases _ _ hAsk

theorem sink_mirrors (host : Host σ) (k id : LinkId) :
    (sink host).Mirrors (Erases k id) host.sink where
  write bs := by
    intro s w h
    rw [sink_write]
    exact note_erases _ _ h
  flush := by
    intro s w h
    rw [sink_flush]
    exact note_erases _ _ h

theorem host_mirrors (host : Host σ) (k id : LinkId) :
    host.recorded.Mirrors (Erases k id) host where
  sink := sink_mirrors host k id
  clock h := congrArg host.clock h.1
  stopped h := congrArg host.stopped h.1

/-! ## Opening links -/

/-- An attempt to get a link, without the record. -/
def plainResult {ε : Type} : EStateM.Result ε (Recorded σ) LinkId → EStateM.Result ε σ LinkId
  | .ok k s => .ok (s.target k) s.world
  | .error e s => .error e s.world

theorem target_handed (s : Recorded σ) (w : σ) (id : LinkId) :
    ({ s with world := w, links := s.links ++ [id] } : Recorded σ).target s.links.length = id := by
  simp [target]

theorem openLink_plain (host : Host σ) (s : Recorded σ) :
    host.openLink s.world = plainResult (host.recorded.openLink s) := by
  unfold Host.openLink
  cases hTry : host.tryOpen s.world with
  | error f w =>
    rw [tryOpen_error hTry]
    rfl
  | ok id w =>
    let handed : Recorded σ := { s with world := w, links := s.links ++ [id] }
    have hRecorded : host.recorded.tryOpen s = .ok s.links.length handed := tryOpen_ok hTry
    have hTarget : handed.target s.links.length = id := target_handed s w id
    have hMode :
        Alike (Erases s.links.length id) ((host.recorded.link s.links.length).setMode .poll handed)
        ((host.link id).setMode .poll w) :=
      (link_mirrors host s.links.length id).setMode .poll handed w ⟨rfl, hTarget⟩
    simp only [hRecorded]
    generalize (host.recorded.link s.links.length).setMode .poll handed = r,
      (host.link id).setMode .poll w = r' at hMode
    cases hMode with
    | ok h =>
      obtain ⟨rfl, rfl⟩ := h
      rfl
    | error h =>
      obtain ⟨rfl, -⟩ := h
      rfl

/-- Waiting is the same, and the record stays as it is. -/
theorem sleep_plain (host : Host σ) (ms : Nat) (s : Recorded σ) :
    host.recorded.sleep ms s =
      ((host.sleep ms s.world).1, { s with world := (host.sleep ms s.world).2 }) := by
  have hStopped : host.recorded.stopped s = host.stopped s.world := rfl
  unfold Host.sleep
  rw [hStopped]
  split
  · rfl
  · split
    · rfl
    · rfl

theorem awaitLink_plain (host : Host σ) (retryDelay : Nat) (s : Recorded σ) :
    host.awaitLink retryDelay s.world = plainResult (host.recorded.awaitLink retryDelay s) := by
  fun_induction host.recorded.awaitLink retryDelay s with
  | case1 s hStopped =>
    have hStopped' : host.stopped s.world = true := hStopped
    rw [Host.awaitLink, if_pos hStopped']
    rfl
  | case2 s hStopped id t ho =>
    have hStopped' : ¬ host.stopped s.world = true := hStopped
    rw [host.awaitLink_open retryDelay hStopped', openLink_plain, ho]
    rfl
  | case3 s hStopped f t ho u hs =>
    have hStopped' : ¬ host.stopped s.world = true := hStopped
    rw [sleep_plain] at hs
    obtain ⟨hAborted, hWorld⟩ := Prod.mk.inj hs
    have hSleep : host.sleep retryDelay t.world = (false, u.world) := by
      rw [← hAborted, ← hWorld]
    rw [host.awaitLink_open retryDelay hStopped', openLink_plain, ho]
    simp only [plainResult, hSleep]
  | case4 s hStopped f t ho u hs ih =>
    have hStopped' : ¬ host.stopped s.world = true := hStopped
    rw [sleep_plain] at hs
    obtain ⟨hCompleted, hWorld⟩ := Prod.mk.inj hs
    have hSleep : host.sleep retryDelay t.world = (true, u.world) := by
      rw [← hCompleted, ← hWorld]
    rw [host.awaitLink_open retryDelay hStopped', openLink_plain, ho]
    simp only [plainResult, hSleep]
    exact ih

end Recorded

/-! ## Connecting and ticking -/

namespace Connection

open Recorded

/-- A connection without its record. -/
def plain (c : Connection (Recorded σ)) : Connection σ where
  session := c.session
  world := c.world.world
  timing := c.timing
  link := c.link.map c.world.target
  phase := c.phase
  lastRequest := c.lastRequest
  requesting := c.requesting
  reconnects := c.reconnects
  handshakesSent := c.handshakesSent

/-- `d` is `c` without its record. -/
def Plain (c : Connection (Recorded σ)) (d : Connection σ) : Prop :=
  c.plain = d

theorem plain_of_same {k id : LinkId} {c : Connection (Recorded σ)} {d : Connection σ}
    (hcd : SameConnection (Erases k id) c d) (hLink : c.link = some k)
    (hPlain : d.link = some id) : Plain c d := by
  obtain ⟨⟨hSession, hWorld, hTarget⟩, hTiming, hPhase, hLast, hRequesting, hReconnects, hSent⟩ :=
    hcd
  have hLinks : c.link.map c.world.target = d.link := by
    rw [hLink, hPlain, Option.map_some, hTarget]
  unfold Plain plain
  rw [hLinks, hSession, hWorld, hTiming, hPhase, hLast, hRequesting, hReconnects, hSent]

theorem connect_plain (host : Host σ) (c : Connection (Recorded σ)) :
    Alike Plain (connect host.recorded c) (connect host c.plain) := by
  have hAwait : host.awaitLink c.plain.dropLink.timing.reconnectDelay c.plain.dropLink.world =
      plainResult (host.recorded.awaitLink c.dropLink.timing.reconnectDelay c.dropLink.world) :=
    awaitLink_plain host _ _
  unfold connect
  simp only [hAwait]
  cases host.recorded.awaitLink c.dropLink.timing.reconnectDelay c.dropLink.world with
  | error e s => exact .error rfl
  | ok k s =>
    have hSleep : host.sleep c.plain.dropLink.timing.settleDelay s.world =
        host.sleep c.dropLink.timing.settleDelay s.world := rfl
    simp only [plainResult, sleep_plain, hSleep]
    generalize host.sleep c.dropLink.timing.settleDelay s.world = slept
    obtain ⟨completed, w⟩ := slept
    cases completed with
    | false => exact .error rfl
    | true => exact .ok rfl

theorem connectInTick_plain (host : Host σ) (c : Connection (Recorded σ)) :
    Alike Plain (connectInTick host.recorded c) (connectInTick host c.plain) := by
  have hConnect := connect_plain host c
  unfold connectInTick
  generalize connect host.recorded c = r, connect host c.plain = r' at hConnect
  cases hConnect with
  | ok h => exact .ok h
  | error h => exact .error h

/-- Reconnecting forgets the link, so the numbers of the old one do not matter. -/
theorem reconnect_plain (host : Host σ) {k id : LinkId} {c : Connection (Recorded σ)}
    {d : Connection σ} (hcd : SameConnection (Erases k id) c d) :
    Alike Plain (reconnect host.recorded c) (reconnect host d) := by
  obtain ⟨⟨hSession, hWorld, -⟩, hTiming, hPhase, hLast, hRequesting, hReconnects, hSent⟩ := hcd
  have hDropped : ({ c with link := none, phase := .disconnected, reconnects := c.reconnects + 1 } :
      Connection (Recorded σ)).plain =
      { d with link := none, phase := .disconnected, reconnects := d.reconnects + 1 } := by
    unfold plain
    simp only [Option.map_none, hSession, hWorld, hTiming, hLast, hRequesting, hReconnects, hSent]
  unfold reconnect
  rw [← hDropped]
  exact connectInTick_plain host _

/-- A tick of a recorded host is a tick of the host. -/
theorem update_plain (host : Host σ) (c : Connection (Recorded σ)) :
    Alike Plain (update host.recorded c) (update host c.plain) := by
  cases hLink : c.link with
  | none =>
    have hPlain : c.plain.link = none := by
      show c.link.map _ = none
      rw [hLink]
      rfl
    unfold update
    simp only [hLink, hPlain]
    exact connectInTick_plain host c
  | some k =>
    have hPlain : c.plain.link = some (c.world.target k) := by
      show c.link.map _ = _
      rw [hLink]
      rfl
    have hSame : SameConnection (Erases k (c.world.target k)) c c.plain :=
      ⟨⟨rfl, rfl, rfl⟩, rfl, rfl, rfl, rfl, rfl, rfl⟩
    have hPoll : Alike (SameConnection (Erases k (c.world.target k)))
        (poll host.recorded (host.recorded.link k) c)
          (poll host (host.link (c.world.target k)) c.plain) :=
      poll_follows (host_mirrors host k _) (link_mirrors host k _) c c.plain hSame
    have hStays := poll_stays host.recorded (host.recorded.link k) c
    have hStays' := poll_stays host (host.link (c.world.target k)) c.plain
    unfold update
    simp only [hLink, hPlain]
    generalize poll host.recorded (host.recorded.link k) c = r,
      poll host (host.link (c.world.target k)) c.plain = r' at hPoll hStays hStays'
    cases hPoll with
    | ok h => exact .ok (plain_of_same h (hStays.1.trans hLink) (hStays'.1.trans hPlain))
    | @error e d d' h =>
      -- A failed tick reconnects, and then neither connection has a link that could differ.
      cases e with
      | sink f => exact .error (plain_of_same h (hStays.1.trans hLink) (hStays'.1.trans hPlain))
      | transport f => exact reconnect_plain host h
      | pool f => exact reconnect_plain host h
      | invalidPoolSize size => exact reconnect_plain host h

end Connection

end MemoryBridge
