import Mathlib
import MemoryBridge.Proofs.Listening
import MemoryBridge.Proofs.Recording.Calls
import MemoryBridge.Proofs.Settling.Bytes
import MemoryBridge.Rehearsal.World

/-!
# What a session keeps

A session holds the pool that the device was lent, the input that waits for it, and whether it
has said `init` on its link. `Holdings.after` says what may happen to these: the link is given
up, input comes in or is taken away by others, or a request of the device is received in full.
`Connection.history` are the events of a run, and `session_kept` says that nothing else
changes what a session holds: no reconnect, no request for a handshake, no fault and no
command that is cut short.

A tick takes its session from byte to byte (`Chained`), and each byte does to it what
`Session.afterByte` says, its counters included. Then the link is kept, or it is given up and the
framing begins anew.
-/

namespace MemoryBridge

/-! ## Holdings -/

/-- What a session holds. All but the first outlives a link. -/
structure Holdings where
  /-- Whether the device has said `init` on the present link. -/
  initialized : Bool
  pool : Option Pool
  mailbox : Bytes

def Session.holdings (s : Session) : Holdings where
  initialized := s.initialized
  pool := s.pool
  mailbox := s.mailbox.bytes

/-- What may happen to what a session holds. -/
inductive Event
  /-- The link was given up for a new one. -/
  | relinked
  /-- Input has come in. -/
  | appended (bytes : Bytes)
  /-- Others have taken input away. -/
  | drained (limit : Nat)
  /-- The device has sent a request, and all of it has come. -/
  | received (request : DeviceRequest)

/-- Holdings after an event. -/
def Holdings.after (s : Holdings) : Event → Holdings
  | .relinked => { s with initialized := false }
  | .appended bytes => { s with mailbox := s.mailbox ++ bytes }
  | .drained limit => { s with mailbox := s.mailbox.drop limit }
  | .received .init => { s with initialized := true, pool := none }
  | .received (.initPool size) =>
    if s.initialized ∧ 0 ≤ size.toInt then { s with pool := some (.zeros size.toInt.toNat) } else s
  | .received (.write index size data _) =>
    { s with pool := s.pool.map fun p =>
        if p.Covers index.toInt size.toInt then p.overlay index.toInt.toNat data else p }
  | .received (.inputRequest limit) =>
    { s with mailbox := s.mailbox.drop (min limit.toInt.toNat s.mailbox.length) }
  | .received (.read _ _) | .received .inputAvailable | .received .inputPeek | .received .ping
  | .received (.unknown _ _) => s

def Event.isRelinked : Event → Bool
  | .relinked => true
  | _ => false

def Event.isInit : Event → Bool
  | .received .init => true
  | _ => false

/-- The events since the link was last given up. -/
def Event.onLink (events : List Event) : List Event :=
  (events.reverse.takeWhile (!·.isRelinked)).reverse

theorem Holdings.after_initialized (s : Holdings) (e : Event) :
    (s.after e).initialized =
      if e.isRelinked then false else if e.isInit then true else s.initialized := by
  cases e with
  | received r =>
    cases r with
    | initPool size =>
      simp only [Holdings.after]
      split <;> rfl
    | _ => rfl
  | _ => rfl

/-- The device counts as initialized if it has said `init` since the link was last given up. -/
theorem Holdings.initialized_iff {s : Holdings} (hs : s.initialized = false) (events : List Event) :
    (events.foldl Holdings.after s).initialized = true ↔
      ∃ e ∈ Event.onLink events, e.isInit = true := by
  unfold Event.onLink
  -- From the last event backwards: it gives the link up, it is an `init`, or it does not matter.
  induction events using List.reverseRecOn with
  | nil => simp [hs]
  | append_singleton events e ih =>
    rw [List.foldl_concat, Holdings.after_initialized, List.reverse_concat, List.takeWhile_cons]
    cases hRelinked : e.isRelinked with
    | true => simp
    | false =>
      cases hInit : e.isInit with
      | true => simp [hInit]
      | false => simpa [hInit] using ih

/-! ## Sessions -/

/-- No counter has gone back. -/
structure SessionCounters.AtMost (a b : SessionCounters) : Prop where
  passthroughBytes : a.passthroughBytes ≤ b.passthroughBytes
  commands : a.commands ≤ b.commands
  unknownCommands : a.unknownCommands ≤ b.unknownCommands
  rejectedCommands : a.rejectedCommands ≤ b.rejectedCommands

theorem SessionCounters.atMost_durable : Durable SessionCounters.AtMost where
  refl _ := ⟨Nat.le_refl _, Nat.le_refl _, Nat.le_refl _, Nat.le_refl _⟩
  trans h h' :=
    ⟨Nat.le_trans h.passthroughBytes h'.passthroughBytes, Nat.le_trans h.commands h'.commands,
      Nat.le_trans h.unknownCommands h'.unknownCommands,
      Nat.le_trans h.rejectedCommands h'.rejectedCommands⟩

namespace Session

open SessionCounters

/-- A session with a request obeyed holds what the request makes of its holdings, if it
admits the request. -/
theorem holdings_effect {s : Session} {r : DeviceRequest} (h : s.Admits r) :
    (s.effect r).holdings = s.holdings.after (.received r) := by
  cases r with
  | initPool size =>
    by_cases hInit : s.initialized = true
    · have hSize : 0 ≤ size.toInt := h hInit
      simp [effect, holdings, Holdings.after, hInit, hSize]
    · simp [effect, holdings, Holdings.after, hInit, countRejected]
  | read index size =>
    simp only [effect]
    split <;> rfl
  | write index size data whole =>
    cases hPool : s.pool with
    | none => simp [effect, holdings, Holdings.after, hPool, countRejected]
    | some p =>
      have hCovers : p.Covers index.toInt size.toInt := h p hPool
      simp [effect, holdings, Holdings.after, hPool, hCovers]
  | inputRequest limit =>
    simp [effect, holdings, Holdings.after]
  | _ => rfl

/-- A request that is not admitted changes nothing. -/
theorem after_of_not_admits {s : Session} {r : DeviceRequest} (h : ¬ s.Admits r) :
    s.holdings.after (.received r) = s.holdings := by
  cases r with
  | initPool size =>
    have hNot : ¬ (s.initialized = true ∧ 0 ≤ size.toInt) := fun hBoth => h fun _ => hBoth.2
    exact if_neg hNot
  | write index size data whole =>
    cases hPool : s.pool with
    | none => exact absurd (fun p hp => by cases hPool.symm.trans hp) h
    | some p =>
      have hNot : ¬ p.Covers index.toInt size.toInt := fun hCovers => h fun q hq => by
        cases hPool.symm.trans hq
        exact hCovers
      simp [holdings, Holdings.after, hPool, hNot]
  | read index size => rfl
  | _ => exact absurd trivial h

/-- A command changes what is held if all of its payload has come, and not otherwise. -/
theorem holdings_settled (s : Session) (command : Command) (payload : Bytes) :
    (s.settled command payload).holdings =
      match DeviceRequest.ofPayload? command payload with
      | some r => s.holdings.after (.received r)
      | none => s.holdings := by
  unfold settled
  cases DeviceRequest.ofPayload? command payload with
  | none =>
    simp only
    split <;> rfl
  | some r =>
    simp only
    by_cases hAdmits : s.Admits r
    · rw [if_pos hAdmits, holdings_effect hAdmits]
    · rw [if_neg hAdmits, after_of_not_admits hAdmits]

theorem countRejected_atMost (s : Session) : s.counters.AtMost s.countRejected.counters :=
  ⟨Nat.le_refl _, Nat.le_refl _, Nat.le_refl _, Nat.le_succ _⟩

theorem countCommand_atMost (s : Session) : s.counters.AtMost s.countCommand.counters :=
  ⟨Nat.le_refl _, Nat.le_succ _, Nat.le_refl _, Nat.le_refl _⟩

theorem effect_atMost (s : Session) (r : DeviceRequest) :
    s.counters.AtMost (s.effect r).counters := by
  have hSame : s.counters.AtMost s.counters := atMost_durable.refl _
  cases r with
  | initPool size =>
    simp only [effect]
    split
    · exact hSame
    · exact s.countRejected_atMost
  | read index size =>
    simp only [effect]
    split
    · exact hSame
    · exact s.countRejected_atMost
  | write index size data whole =>
    simp only [effect]
    split
    · exact hSame
    · exact s.countRejected_atMost
  | _ => exact hSame

theorem settled_atMost (s : Session) (command : Command) (payload : Bytes) :
    s.counters.AtMost (s.settled command payload).counters := by
  unfold settled
  split
  · split
    · exact s.effect_atMost _
    · exact atMost_durable.refl _
  · split
    · exact s.countRejected_atMost
    · exact atMost_durable.refl _

/-- Bytes only ever add to the counters. -/
theorem afterByte_atMost (s : Session) (b : UInt8) (entered : Bool) (payload : Bytes)
    (done : Bool) : s.counters.AtMost (s.afterByte b entered payload done).counters := by
  have hSame : s.counters.AtMost s.counters := atMost_durable.refl _
  unfold afterByte
  split
  · split
    · exact hSame
    · split
      · exact ⟨Nat.le_succ _, Nat.le_refl _, Nat.le_refl _, Nat.le_refl _⟩
      · exact hSame
  · unfold afterCode
    split
    · split
      · exact ⟨Nat.le_refl _, Nat.le_refl _, Nat.le_succ _, Nat.le_refl _⟩
      · rename_i command _
        have hSettled := settled_atMost { s with framing := .idle } command payload
        simp only
        split
        · exact atMost_durable.trans hSettled (countCommand_atMost _)
        · exact hSettled
    · exact hSame

end Session

/-! ## Hearings -/

namespace Recorded

variable {σ : Type}

/-- What commands have read from the link `k`, while it is in blocking mode. -/
def meter (k : LinkId) : Meter (Recorded σ) where
  ready s := s.asked k = .blocking
  fetched s := s.fetched k

theorem meter_still {k : LinkId} {s t : Recorded σ} {pieces : List Bytes}
    (hCarries : Carries k [] pieces s t) (hAsked : t.asked = s.asked) : (meter k).Still s t := by
  intro hReady
  refine ⟨?_, hCarries.fetched⟩
  show t.asked k = .blocking
  rw [hAsked]
  exact hReady

/-- A record measures every link. -/
theorem meters (host : Host σ) (k : LinkId) : host.recorded.Meters k (meter k) where
  link := {
    read_ok := fun hReady hRead => by
      obtain ⟨hCarries, hAsked⟩ := link_read_ok host k hReady hRead
      refine ⟨?_, hCarries.fetched⟩
      show _ = ReadMode.blocking
      rw [hAsked]
      exact hReady
    read_error := fun hReady hRead => by
      obtain ⟨hCarries, hAsked⟩ := link_read_error host k hReady hRead
      exact meter_still hCarries hAsked hReady
    write := fun bs s => by
      show (meter k).Still s (endState ((link host k).write bs s))
      cases hWrite : (link host k).write bs s with
      | ok n t =>
        obtain ⟨hCarries, hAsked⟩ := link_write_ok host k hWrite
        exact meter_still hCarries hAsked
      | error f t =>
        obtain ⟨hCarries, hAsked⟩ := link_write_error host k hWrite
        exact meter_still hCarries hAsked
    flush := fun s => meter_still (link_flush_carries host k s).1 (link_flush_carries host k s).2 }
  enter := fun {w v} hEnter => by
    have hAsked := (link_setMode_tells host k .blocking w).2
    have hSet : (link host k).setMode .blocking w = .ok () v := hEnter
    rw [hSet] at hAsked
    exact hAsked
  setMode mode s := by
    have hFetched := (link_setMode_carries host k mode s).fetched
    rw [List.append_nil] at hFetched
    exact hFetched
  sink := {
    write := fun bs s => by
      show (endState ((sink host).write bs s)).fetched k = s.fetched k
      rw [sink_write]
      unfold note fetched
      cases host.sink.write bs s.world <;> simp [Entry.fetched]
    flush := fun s => by
      show (endState ((sink host).flush s)).fetched k = s.fetched k
      rw [sink_flush]
      unfold note fetched
      cases host.sink.flush s.world <;> simp }

end Recorded

namespace Hearing

variable {σ : Type}

/-- The request that is complete with the byte and what was fetched for it. -/
def request? (host : Host σ) (h : Hearing (Recorded σ)) : Option DeviceRequest :=
  (h.command? host.recorded).bind fun command => DeviceRequest.ofPayload? command (h.payload host)

variable (host : Host σ) (h : Hearing (Recorded σ))

/-- A byte leaves the session that belongs to what was fetched for it. -/
theorem outcome_session : (endState (h.outcome host.recorded)).session =
    h.before.session.afterByte h.byte (h.entered host.recorded) (h.payload host)
      (h.done host.recorded) :=
  (outcome_settles (Recorded.meters host h.link)).session

theorem outcome_atMost :
    h.before.session.counters.AtMost (endState (h.outcome host.recorded)).session.counters := by
  rw [outcome_session]
  exact Session.afterByte_atMost _ _ _ _ _

/-- Only a request that is complete changes what is held. -/
theorem outcome_holdings : (endState (h.outcome host.recorded)).session.holdings =
    match h.request? host with
    | some r => h.before.session.holdings.after (.received r)
    | none => h.before.session.holdings := by
  rw [outcome_session]
  unfold request? command? Session.afterByte
  cases hFraming : h.before.session.framing with
  | idle =>
    simp only [Option.bind_none]
    split
    · rfl
    · split <;> rfl
  | awaitingCommand =>
    simp only
    unfold Session.afterCode entered
    cases (host.recorded.link h.link).enterBlocking h.before.world with
    | error f w => rfl
    | ok u w =>
      simp only [succeeds_ok, if_true]
      cases Command.ofCode? h.byte with
      | none => rfl
      | some command =>
        have hSettled := Session.holdings_settled { h.before.session with framing := .idle } command
          (h.payload host)
        simp only [Option.bind_some]
        split
        · exact hSettled
        · exact hSettled

variable {host h}

/-- A request for bytes of the pool is owed these bytes. -/
theorem owed_of_read {p : Pool} {index size : Int32} (hPool : h.before.session.pool = some p)
    (hCovers : p.Covers index.toInt size.toInt)
    (hRead : h.request? host = some (.read index size)) :
    h.owed host = p.slice ⟨index.toInt.toNat, size.toInt.toNat⟩ := by
  obtain ⟨command, hCommand, hRequest⟩ := Option.bind_eq_some_iff.mp hRead
  obtain ⟨hSame, hPayload⟩ := DeviceRequest.ofPayload?_eq_some_iff.mp hRequest
  have hAdmits : h.before.session.Admits (.read index size) := fun q hq => by
    cases hPool.symm.trans hq
    exact hCovers
  unfold owed
  rw [hCommand]
  simp only
  rw [Session.owed_of_request hSame hPayload, if_pos hAdmits]
  simp only [Session.reply, hPool]

end Hearing

/-- The hearings follow each other: the first one finds the session `s`, every other one what the
one before it has left, and the last one leaves `t`. -/
def Chained {σ : Type} (host : Host σ) : List (Hearing σ) → Session → Session → Prop
  | [], s, t => t = s
  | h :: hs, s, t => h.before.session = s ∧ Chained host hs (endState (h.outcome host)).session t

namespace Chained

variable {σ : Type} {host : Host σ} {hs : List (Hearing (Recorded σ))} {s t : Session}

theorem config {hs : List (Hearing σ)} (h : Chained host hs s t) : t.config = s.config := by
  induction hs generalizing s with
  | nil => exact congrArg Session.config h
  | cons first hs ih =>
    obtain ⟨rfl, hRest⟩ := h
    rw [ih hRest]
    exact Session.processByte_config (host.link first.link) host.sink first.byte first.before

theorem holdings (h : Chained host.recorded hs s t) :
    t.holdings =
      (hs.filterMap fun h => (h.request? host).map .received).foldl Holdings.after s.holdings := by
  induction hs generalizing s with
  | nil => exact congrArg Session.holdings h
  | cons first hs ih =>
    obtain ⟨rfl, hRest⟩ := h
    have hFirst := first.outcome_holdings host
    rw [ih hRest, hFirst]
    cases hRequest : first.request? host with
    | none => simp [hRequest]
    | some r => simp [hRequest]

theorem counters (h : Chained host.recorded hs s t) : s.counters.AtMost t.counters := by
  induction hs generalizing s with
  | nil =>
    cases h
    exact SessionCounters.atMost_durable.refl _
  | cons first hs ih =>
    obtain ⟨rfl, hRest⟩ := h
    exact SessionCounters.atMost_durable.trans (first.outcome_atMost host) (ih hRest)

/-- Input leaves the mailbox with the hearings that pull it. -/
theorem mailbox (h : Chained host.recorded hs s t) :
    s.mailbox.bytes = hs.flatMap (·.pulled host) ++ t.mailbox.bytes := by
  induction hs generalizing s with
  | nil => exact (congrArg (·.mailbox.bytes) h).symm
  | cons first hs ih =>
    obtain ⟨rfl, hRest⟩ := h
    rw [(first.outcome_exchanges host).mailbox, ih hRest, List.flatMap_cons, List.append_assoc]

/-- What the hearings before a hearing leave is what it finds. -/
theorem before {front rest : List (Hearing σ)} {h : Hearing σ}
    (hChained : Chained host (front ++ h :: rest) s t) : Chained host front s h.before.session := by
  induction front generalizing s with
  | nil => exact hChained.1
  | cons first front ih => exact ⟨hChained.1, ih hChained.2⟩

end Chained

/-! ## Ticks -/

namespace Connection

section

variable {σ : Type} (host : Host σ) (k : LinkId)

theorem requestHandshake_session (link : Link σ) (c : Connection σ) :
    (endState (requestHandshake host link c)).session = c.session := by
  by_cases hDue : c.requestDue host = true
  · rw [requestHandshake_due hDue]
    cases link.writeAll c.session.handshakeFrame c.world with
    | error f w => rfl
    | ok u w =>
      simp only
      cases link.flush w <;> rfl
  · unfold requestHandshake
    rw [bind_ok (get_run c), if_neg hDue]
    rfl

theorem pollByte_session (link : Link σ) (c : Connection σ) :
    (endState (pollByte link c)).session = c.session := by
  unfold pollByte
  split
  · rfl
  · split <;> rfl

/-- A byte that is handled leaves what its hearing leaves. -/
theorem handleByte_serving (b : UInt8) (c : Connection σ) :
    (endState (handleByte host (host.link k) b c)).toServing =
      endState (Hearing.outcome host ⟨k, b, c.toServing⟩) := by
  have hOutcome : Hearing.outcome host ⟨k, b, c.toServing⟩ =
      Session.processByte (host.link k) host.sink b c.toServing := rfl
  unfold handleByte
  rw [hOutcome]
  cases hRun : Session.processByte (host.link k) host.sink b c.toServing with
  | error e st =>
    rw [bind_error (serve_error hRun)]
    rfl
  | ok handled st =>
    rw [bind_ok (serve_ok hRun)]
    split <;> rfl

theorem handleByte_session (b : UInt8) (c : Connection σ) :
    (endState (handleByte host (host.link k) b c)).session =
      (endState (Hearing.outcome host ⟨k, b, c.toServing⟩)).session :=
  congrArg Serving.session (handleByte_serving host k b c)

theorem pollBytes_chained (started n : Nat) (c : Connection σ) :
    Chained host (hearings host k started n c) c.session
      (endState (pollBytes host (host.link k) started n c)).session := by
  induction n generalizing c with
  | zero => rfl
  | succ n ih =>
    have hPolled := pollByte_session (host.link k) c
    unfold pollBytes hearings
    cases hPoll : pollByte (host.link k) c with
    | error e d =>
      rw [hPoll] at hPolled
      rw [bind_error hPoll]
      exact hPolled
    | ok polled d =>
      rw [hPoll] at hPolled
      rw [bind_ok hPoll]
      cases polled with
      | none => exact hPolled
      | some b =>
        have hHandled := handleByte_session host k b d
        refine ⟨hPolled, ?_⟩
        rw [← hHandled]
        simp only
        cases hHandle : handleByte host (host.link k) b d with
        | error e u =>
          rw [bind_error hHandle]
          rfl
        | ok v u =>
          rw [bind_ok hHandle, bind_ok (get_run u)]
          simp only
          split
          · rfl
          · exact ih u

/-- A poll takes its session through what it hears. Asking for a handshake and flushing the
sink do not touch it. -/
theorem poll_chained (c : Connection σ) :
    Chained host (heard host k c) c.session (endState (poll host (host.link k) c)).session := by
  have hRequested := requestHandshake_session host (host.link k) c
  unfold poll heard
  cases hRequest : requestHandshake host (host.link k) c with
  | error e d =>
    rw [hRequest] at hRequested
    rw [bind_error hRequest]
    exact hRequested
  | ok u d =>
    rw [hRequest] at hRequested
    have hChained := pollBytes_chained host k (host.clock d.world) maxTickBytes d
    rw [bind_ok hRequest, bind_ok (get_run d)]
    simp only
    rw [show d.session = c.session from hRequested] at hChained
    cases hRun : pollBytes host (host.link k) (host.clock d.world) maxTickBytes d with
    | error e v =>
      rw [hRun] at hChained
      rw [bind_error hRun]
      exact hChained
    | ok u v =>
      rw [hRun] at hChained
      rw [bind_ok hRun]
      have hFlush : (endState (serve (Serve.onSink host.sink.flush) v)).session = v.session := by
        unfold serve Serve.onSink Serve.onWorld
        cases host.sink.flush v.world <;> rfl
      rw [hFlush]
      exact hChained

/-- Connecting forgets what belongs to the link, and nothing else. -/
theorem connect_session (c : Connection σ) :
    (endState (connect host c)).session = c.session.resetLink := by
  rcases connect_cases host c with ⟨w, hEnd⟩ | ⟨k, w, hEnd⟩
  · rw [hEnd]
    rfl
  · rw [hEnd]
    rfl

variable {host k}

/-- A tick on a link keeps the session that polling leaves, or resets it if polling has cost the
link. -/
theorem update_session {c : Connection σ} (hLink : c.link = some k) :
    (endState (update host c)).session =
      if Breaks (poll host (host.link k) c) then
        (endState (poll host (host.link k) c)).session.resetLink
      else (endState (poll host (host.link k) c)).session := by
  rcases (@update_cases _ host c k hLink) with ⟨d, hRun, hUpdate⟩ | ⟨f, d, hRun, hUpdate⟩ |
    ⟨e, d, hRun, hNot, hUpdate⟩
  · rw [hRun, hUpdate, if_neg (not_breaks_ok () d)]
    rfl
  · rw [hRun, hUpdate, if_neg fun h => breaks_error_iff.mp h f rfl]
    rfl
  · rw [hRun, hUpdate, reconnect_end, connect_session, if_pos (breaks_error_iff.mpr hNot)]
    rfl

end

/-! ## Runs -/

variable {σ : Type}

/-- The events of a call. -/
def Call.events (host : Host σ) (c : Connection (Recorded σ)) : Call (Recorded σ) → List Event
  | .connect => [.relinked]
  | .update =>
    match c.link with
    | none => [.relinked]
    | some k =>
      ((heard host.recorded k c).filterMap fun h => (h.request? host).map .received) ++
        if Breaks (poll host.recorded (host.recorded.link k) c) then [.relinked] else []
  | .append bytes => [.appended bytes]
  | .drain limit => [.drained limit]
  | .world _ => []

/-- The events of a run. -/
def history (host : Host σ) : Connection (Recorded σ) → List (Call (Recorded σ)) → List Event
  | _, [] => []
  | c, call :: calls =>
    call.events host c ++ history host (Connection.after host.recorded c call) calls

/-- A call changes what is held by its events. -/
theorem after_holdings (host : Host σ) (c : Connection (Recorded σ)) (call : Call (Recorded σ)) :
    (Connection.after host.recorded c call).session.holdings =
      (call.events host c).foldl Holdings.after c.session.holdings := by
  cases call with
  | connect =>
    show (endState (connect host.recorded c)).session.holdings = _
    rw [connect_session]
    rfl
  | update =>
    show (endState (update host.recorded c)).session.holdings = _
    unfold Call.events
    cases hLink : c.link with
    | none =>
      rw [update_unlinked hLink, connect_session]
      rfl
    | some k =>
      have hHoldings := (poll_chained host.recorded k c).holdings
      simp only
      rw [update_session hLink, List.foldl_append, ← hHoldings]
      split <;> rfl
  | append bytes => rfl
  | drain limit => rfl
  | world change => rfl

theorem after_counters (host : Host σ) (c : Connection (Recorded σ)) (call : Call (Recorded σ)) :
    c.session.counters.AtMost (Connection.after host.recorded c call).session.counters := by
  have hSame : c.session.counters.AtMost c.session.counters := SessionCounters.atMost_durable.refl _
  cases call with
  | connect =>
    show c.session.counters.AtMost (endState (connect host.recorded c)).session.counters
    rw [connect_session]
    exact hSame
  | update =>
    show c.session.counters.AtMost (endState (update host.recorded c)).session.counters
    cases hLink : c.link with
    | none =>
      rw [update_unlinked hLink, connect_session]
      exact hSame
    | some k =>
      have hCounters := (poll_chained host.recorded k c).counters
      rw [update_session hLink]
      split
      · exact hCounters
      · exact hCounters
  | append bytes => exact hSame
  | drain limit => exact hSame
  | world change => exact hSame

/-- Neither a request nor a reconnect is ever taken back. -/
theorem after_counts (host : Host σ) (c : Connection σ) (call : Call σ) :
    c.handshakesSent ≤ (Connection.after host c call).handshakesSent ∧
      c.reconnects ≤ (Connection.after host c call).reconnects := by
  have hConnect : ∀ d : Connection σ,
      (endState (connect host d)).handshakesSent = d.handshakesSent := fun d => by
        rcases connect_cases host d with ⟨w, hEnd⟩ | ⟨k, w, hEnd⟩
        · rw [hEnd]
          rfl
        · rw [hEnd]
          rfl
  cases call with
  | connect => exact ⟨Nat.le_of_eq (hConnect c).symm, Nat.le_of_eq (connect_reconnects host c).symm⟩
  | update =>
    refine ⟨?_, update_reconnects host c⟩
    show c.handshakesSent ≤ (endState (update host c)).handshakesSent
    cases hLink : c.link with
    | none => rw [update_unlinked hLink, hConnect]
    | some k =>
      have hAside : Aside host fun c d => c.handshakesSent ≤ d.handshakesSent :=
        ⟨⟨fun _ => Nat.le_refl _, Nat.le_trans⟩, fun _ _ => Nat.le_refl _, fun _ => Nat.le_succ _,
          fun _ _ => Nat.le_refl _⟩
      have hPoll := poll_keeps hAside (host.link k) c
      rcases (@update_cases _ host c k hLink) with ⟨d, hRun, hUpdate⟩ | ⟨f, d, hRun, hUpdate⟩ |
        ⟨e, d, hRun, -, hUpdate⟩
      · rw [hRun] at hPoll
        rw [hUpdate]
        exact hPoll
      · rw [hRun] at hPoll
        rw [hUpdate]
        exact hPoll
      · rw [hRun] at hPoll
        rw [hUpdate, reconnect_end, hConnect]
        exact hPoll
  | append bytes => exact ⟨Nat.le_refl _, Nat.le_refl _⟩
  | drain limit => exact ⟨Nat.le_refl _, Nat.le_refl _⟩
  | world change => exact ⟨Nat.le_refl _, Nat.le_refl _⟩

theorem after_config (host : Host σ) (c : Connection σ) (call : Call σ) :
    (Connection.after host c call).session.config = c.session.config := by
  cases call with
  | connect =>
    show (endState (connect host c)).session.config = _
    rw [connect_session]
    rfl
  | update =>
    show (endState (update host c)).session.config = _
    cases hLink : c.link with
    | none =>
      rw [update_unlinked hLink, connect_session]
      rfl
    | some k =>
      rw [update_session hLink, ← (poll_chained host k c).config]
      split <;> rfl
  | append bytes => rfl
  | drain limit => rfl
  | world change => rfl

/-- Nothing but the events of a run changes what is held. -/
theorem run_holdings (host : Host σ) (c : Connection (Recorded σ))
    (calls : List (Call (Recorded σ))) :
    (run host.recorded c calls).session.holdings =
      (history host c calls).foldl Holdings.after c.session.holdings := by
  induction calls generalizing c with
  | nil => rfl
  | cons call calls ih =>
    have hRest := ih (Connection.after host.recorded c call)
    rw [history, List.foldl_append, ← after_holdings]
    exact hRest

theorem run_counters (host : Host σ) (c : Connection (Recorded σ))
    (calls : List (Call (Recorded σ))) :
    c.session.counters.AtMost (run host.recorded c calls).session.counters :=
  run_induction (P := fun d => c.session.counters.AtMost d.session.counters)
    (fun d call h => SessionCounters.atMost_durable.trans h (after_counters host d call))
    (SessionCounters.atMost_durable.refl _) calls

theorem run_counts_atMost (host : Host σ) (c : Connection σ) (calls : List (Call σ)) :
    c.handshakesSent ≤ (run host c calls).handshakesSent ∧
      c.reconnects ≤ (run host c calls).reconnects :=
  run_induction (P := fun d => c.handshakesSent ≤ d.handshakesSent ∧ c.reconnects ≤ d.reconnects)
    (fun d call h => ⟨Nat.le_trans h.1 (after_counts host d call).1,
        Nat.le_trans h.2 (after_counts host d call).2⟩)
    ⟨Nat.le_refl _, Nat.le_refl _⟩ calls

theorem run_config (host : Host σ) (c : Connection σ) (calls : List (Call σ)) :
    (run host c calls).session.config = c.session.config :=
  run_induction (P := fun d => d.session.config = c.session.config)
    (fun d call h => (after_config host d call).trans h) rfl calls

/-- A session outlives its links, and only requests that have come in full change what it holds. Let
`c` be the connection after any run, whatever its links, its sink, its clock and its callers do, and
let `events` be what has happened in it.

* The record is one of a run of the host.
* The configuration is the one that the session was made with.
* The session holds what the events make of what it held at first, and the device counts as
  initialized if it has said `init` since the link was last given up.
* No counter ever goes back, neither those of the session nor those of the connection.
* Connecting forgets the framing and that the device has said `init`, and leaves the rest of the
  session as it was, also when it is aborted. So does a tick without a link.
* A tick on a link takes the session through the bytes that it hears, and each of them does to it
  what belongs to it and to what was fetched for it, also when it fails. Then the session stays as
  it is, or it is reset if polling has cost the link.
* What a `read` is answered and what a `write` overwrites is the pool that is held, whether or not
  the device has said `init` on this link.
-/
theorem session_kept (host : Host σ) (config : SessionConfig) (mailbox : Mailbox)
    (timing : Timing) (w : σ) (calls : List (Call σ)) :
    let start := fresh config mailbox timing ({ world := w } : Recorded σ)
    let c := run host.recorded start (calls.map Call.recorded)
    let events := history host start (calls.map Call.recorded)
    c.plain = run host (fresh config mailbox timing w) calls ∧
    c.session.config = config ∧
    c.session.holdings = events.foldl Holdings.after ⟨false, none, mailbox.bytes⟩ ∧
    (c.session.initialized = true ↔ ∃ e ∈ Event.onLink events, e.isInit = true) ∧
    (∀ later : List (Call σ),
      let d := run host.recorded c (later.map Call.recorded)
      c.session.counters.AtMost d.session.counters ∧ c.handshakesSent ≤ d.handshakesSent ∧
        c.reconnects ≤ d.reconnects) ∧
    (endState (connect host.recorded c)).session = c.session.resetLink ∧
    (c.link = none → (endState (update host.recorded c)).session = c.session.resetLink) ∧
    ∀ k, c.link = some k →
      let hs := heard host.recorded k c
      let polled := poll host.recorded (host.recorded.link k) c
      (∃ s, Chained host.recorded hs c.session s ∧
        (endState (update host.recorded c)).session = if Breaks polled then s.resetLink else s) ∧
      ∀ h ∈ hs,
        (endState (h.outcome host.recorded)).session =
          h.before.session.afterByte h.byte (h.entered host.recorded) (h.payload host)
            (h.done host.recorded) ∧
        ∀ p, h.before.session.pool = some p →
          ∀ index size : Int32, p.Covers index.toInt size.toInt →
          (h.request? host = some (.read index size) →
            h.owed host = p.slice ⟨index.toInt.toNat, size.toInt.toNat⟩ ∧
            (Whole (h.owed host) (h.sent host) ∨
              Refused (h.owed host) (h.sent host) ∧ Breaks (h.outcome host.recorded))) ∧
          ∀ data whole, h.request? host = some (.write index size data whole) →
            (endState (h.outcome host.recorded)).session.pool =
              some (p.overlay index.toInt.toNat data) := by
  intro start c events
  have hHoldings : c.session.holdings = events.foldl Holdings.after ⟨false, none, mailbox.bytes⟩ :=
    run_holdings host start (calls.map Call.recorded)
  refine ⟨run_plain host start calls, run_config host.recorded start _, hHoldings, ?_,
    fun later => ⟨run_counters host c _, run_counts_atMost host.recorded c _⟩,
    connect_session host.recorded c, ?_, fun k hLink => ⟨?_, fun h _ => ?_⟩⟩
  · rw [← Holdings.initialized_iff (s := ⟨false, none, mailbox.bytes⟩) rfl events, ← hHoldings]
    rfl
  · intro hLink
    rw [update_unlinked hLink, connect_session]
  · exact ⟨_, poll_chained host.recorded k c, update_session hLink⟩
  · refine ⟨h.outcome_session host,
      fun p hPool index size hCovers => ⟨fun hRead => ?_, fun data whole hWrite => ?_⟩⟩
    · exact ⟨Hearing.owed_of_read hPool hCovers hRead, (h.outcome_exchanges host).taken⟩
    · have hOutcome := congrArg Holdings.pool (h.outcome_holdings host)
      rw [hWrite] at hOutcome
      simpa [Session.holdings, Holdings.after, hPool, hCovers] using hOutcome

/-- A device that is lent a pool, stores two bytes in it and goes away. On the next link
it reads the pool. -/
def returning : World where
  lines := [
    { arrivals := [.data [0xFF, 0, 0xFF, 1, 4, 0, 0, 0, 0xFF, 3, 1, 0, 0, 0, 2, 0, 0, 0, 8, 9],
        .fault .brokenPipe] },
    { arrivals := [.data [0xFF, 2, 0, 0, 0, 0, 4, 0, 0, 0]] }]
  offers := [{}, {}]

/-- It finds there what it has stored, without having said `init` again. -/
example :
    let c :=
      run (World.host fun _ => false).recorded (fresh {} .empty ⟨0, 0, 0⟩ { world := returning })
      (List.map Call.recorded [.connect, .update, .update])
    (c.world.writes 1).flatten = [0xFF, 0] ++ [0, 8, 9, 0] ∧ c.session.initialized = false := by cbv

end Connection

end MemoryBridge
