import Mathlib.Data.List.Basic
import MemoryBridge.Connection.Motion
import MemoryBridge.Proofs.Framing
import MemoryBridge.Proofs.Recording

/-!
# One tick on a recorded host

`Isolated` is the invariant behind `links_isolated`: every link that was handed out has been
a stream of its own. It holds after a tick because a byte that was polled moves the session
as it moves the stream of its link (`processByte_handles`), because a command takes its
payload in blocking mode, where nothing is polled, and because connecting opens links that
are new (`update_sound`).
-/

namespace MemoryBridge

/-! ## One byte on a recorded link -/

namespace Recorded

open Serve Session

variable {σ : Type}

/-- While the link `k` is in blocking mode, nothing is polled from it and nothing passed through.
The stream stands where it stood. -/
def Attends (k : LinkId) (a b : Serving (Recorded σ)) : Prop :=
  (a.world.asked k = .blocking → Quiet k a.world b.world) ∧ b.session.config = a.session.config ∧
    b.session.framing = a.session.framing

theorem attends_durable (k : LinkId) : Durable (@Attends σ k) where
  refl st := ⟨fun _ => (quiet_durable k).refl _, rfl, rfl⟩
  trans := by
    rintro a b c ⟨hQuiet, hConfig, hFraming⟩ ⟨hQuiet', hConfig', hFraming'⟩
    refine ⟨fun hMode => ?_, hConfig'.trans hConfig, hFraming'.trans hFraming⟩
    have hFirst := hQuiet hMode
    exact (quiet_durable k).trans hFirst (hQuiet' (by rw [hFirst.2, hMode]))

theorem keptBy_attends (host : Host σ) (k : LinkId) : KeptBy (link host k) (Attends k) where
  durable := attends_durable k
  read n := onWorld_moves_iff.mpr fun _ _ => ⟨fun hMode => link_read_quiet host hMode n, rfl, rfl⟩
  write bs := onWorld_moves_iff.mpr fun _ w => ⟨fun _ => link_write_quiet host k bs w, rfl, rfl⟩
  flush := onWorld_moves_iff.mpr fun _ w => ⟨fun _ => link_flush_quiet host k w, rfl, rfl⟩
  touch h := ⟨fun _ => (quiet_durable k).refl _, h.config, h.framing⟩

/-- A command is one turn, however it ends. After it the link is in poll mode again, unless it could
not be taken into blocking mode. -/
theorem dispatch_tells (host : Host σ) (k : LinkId) (code : UInt8) (st : Serving (Recorded σ)) :
    Tells k [] [] 1 st.world (endState (dispatch (link host k) code st)).world ∧
      (endState (dispatch (link host k) code st)).session.config = st.session.config ∧
      (endState (dispatch (link host k) code st)).session.framing = st.session.framing ∧
      ∀ command st', dispatch (link host k) code st = .ok command st' →
        st'.world.asked k = .poll := by
  obtain ⟨hEnter, hBlocking⟩ := link_setMode_tells host k .blocking st.world
  rw [if_pos rfl] at hEnter
  unfold dispatch bracket Link.enterBlocking onLink onWorld
  cases hMode : (link host k).setMode .blocking st.world with
  | error f w =>
    rw [hMode] at hEnter
    exact ⟨hEnter, rfl, rfl, fun _ _ h => by cases h⟩
  | ok u w =>
    rw [hMode] at hEnter hBlocking
    obtain ⟨hQuiet, hConfig, hFraming⟩ := carryOut_moves (keptBy_attends host k)
      (fun st => ⟨fun _ => (quiet_durable k).refl _, rfl, rfl⟩)
      (fun st => ⟨fun _ => (quiet_durable k).refl _, rfl, rfl⟩) code { st with world := w }
    have hBody := hEnter.trans (hQuiet hBlocking).1
    simp only
    cases hRun : carryOut (link host k) code { st with world := w } with
    | error e st' =>
      rw [hRun] at hBody hConfig hFraming
      have hLeave := (link_setMode_tells host k .poll st'.world).1
      exact ⟨hBody.trans hLeave, hConfig, hFraming, fun _ _ h => by cases h⟩
    | ok command st' =>
      rw [hRun] at hBody hConfig hFraming
      obtain ⟨hLeave, hPoll⟩ := link_setMode_tells host k .poll st'.world
      refine ⟨hBody.trans hLeave, hConfig, hFraming, fun _ _ h => ?_⟩
      cases h
      exact hPoll

/-- Between `st` and `st'` the byte `b` of the link `k` was handled. -/
structure Handles (k : LinkId) (b : UInt8) (st st' : Serving (Recorded σ)) : Prop where
  tells : Tells k [] (st.session.framing.classify st.session.config.initValue b).1.passed
    (st.session.framing.classify st.session.config.initValue b).1.started.length st.world st'.world
  config : st'.session.config = st.session.config
  framing : st'.session.framing = (st.session.framing.classify st.session.config.initValue b).2

/-- A byte does to the record what its place in the stream says, unless the sink fails. -/
theorem processByte_handles (host : Host σ) (k : LinkId) (b : UInt8) {st : Serving (Recorded σ)}
    (hMode : st.world.asked k = .poll)
    (hSink : ∀ f t, processByte (link host k) (sink host) b st ≠ .error (.sink f) t) :
    Handles k b st (endState (processByte (link host k) (sink host) b st)) ∧
      ∀ handled st', processByte (link host k) (sink host) b st = .ok handled st' →
        st'.world.asked k = .poll := by
  have hSession : session st = .ok st.session st := rfl
  cases hEvent : st.session.framing.classify st.session.config.initValue b with
  | mk event next =>
    let moved : Serving (Recorded σ) := { st with session := { st.session with framing := next } }
    have hUpdate : update (fun s => { s with framing := next }) st = .ok () moved := rfl
    unfold processByte at hSink ⊢
    rw [bind_ok hSession, hEvent] at hSink ⊢
    simp only at hSink ⊢
    rw [bind_ok hUpdate] at hSink ⊢
    cases event with
    | passthrough c =>
      cases hWrite : (sink host).writeAll [c] st.world with
      | error f w =>
        have hFails : onSink ((sink host).writeAll [c]) moved =
            .error (.sink f) { moved with world := w } := by
          simp only [onSink, onWorld, moved, hWrite]
        exact absurd (bind_error hFails) (hSink f _)
      | ok u w =>
        have hPasses : onSink ((sink host).writeAll [c]) moved =
            .ok () { moved with world := w } := by
          simp only [onSink, onWorld, moved, hWrite]
        obtain ⟨hTells, hAsked⟩ := sink_writeAll_tells host k hWrite
        have hTells' : Tells k [] (Framing.Event.passthrough c).passed
            (Framing.Event.passthrough c).started.length
          st.world w := hTells
        simp only
        rw [bind_ok hPasses]
        refine ⟨⟨by rw [hEvent]; exact hTells', rfl, by rw [hEvent]; rfl⟩, fun _ _ h => ?_⟩
        cases h
        exact hAsked.symm ▸ hMode
    | frameStart =>
      refine ⟨⟨by rw [hEvent]; exact Tells.refl k _, rfl, by rw [hEvent]; rfl⟩, fun _ _ h => ?_⟩
      cases h
      exact hMode
    | command code =>
      obtain ⟨hTells, hConfig, hFraming, hPoll⟩ := dispatch_tells host k code moved
      have hHandles : ∀ st', st' = endState (dispatch (link host k) code moved) →
          Handles k b st st' := by
        rintro _ rfl
        exact ⟨by rw [hEvent]; exact hTells, hConfig, by rw [hEvent]; exact hFraming⟩
      simp only
      cases hRun : dispatch (link host k) code moved with
      | error e st' =>
        rw [bind_error hRun]
        exact ⟨hHandles st' (by rw [hRun]; rfl), fun _ _ h => by cases h⟩
      | ok command st' =>
        rw [bind_ok hRun]
        refine ⟨hHandles st' (by rw [hRun]; rfl), fun _ _ h => ?_⟩
        cases h
        exact hPoll command st' hRun

end Recorded

/-! ## One tick on a recorded link -/

namespace Connection

open Recorded

variable {σ : Type} {host : Host σ} {initValue : UInt8} {k : LinkId}

/-- Each link has been a stream of its own: what was passed through in all, and how often each link
was taken into blocking mode, is what the bytes polled from the single links say. The link that is
held is the last one that was handed out, and the session stands where its stream stands. -/
structure Isolated (initValue : UInt8) (c : Connection (Recorded σ)) : Prop where
  initValue_eq : c.session.config.initValue = initValue
  shown : c.world.shown =
    (List.range c.world.links.length).flatMap fun k => Framing.passed initValue (c.world.polled k)
  turns : ∀ k, c.world.turns k = Framing.turns initValue (c.world.polled k)
  unopened : ∀ k, c.world.links.length ≤ k → c.world.polled k = []
  held : ∀ k, c.link = some k → c.world.links.length = k + 1 ∧
    c.session.framing = Framing.after initValue (c.world.polled k)

/-- Isolated, and the link that is held is `k` and in poll mode. -/
structure Attached (initValue : UInt8) (k : LinkId) (c : Connection (Recorded σ)) : Prop where
  isolated : Isolated initValue c
  link : c.link = some k
  mode : c.world.asked k = .poll

theorem Isolated.quiet {c d : Connection (Recorded σ)} (h : Isolated initValue c)
    (hTells : Tells k [] [] 0 c.world d.world) (hLink : d.link = c.link)
    (hConfig : d.session.config = c.session.config)
    (hFraming : d.session.framing = c.session.framing) : Isolated initValue d := by
  have hPolled : ∀ j, d.world.polled j = c.world.polled j := by
    intro j
    rw [hTells.polled]
    split <;> simp
  have hTurns : ∀ j, d.world.turns j = c.world.turns j := by
    intro j
    rw [hTells.turns]
    split <;> rfl
  exact {
    initValue_eq := by rw [hConfig, h.initValue_eq]
    shown := by
      rw [hTells.shown, List.append_nil, h.shown, hTells.links]
      simp only [hPolled]
    turns := fun j => by rw [hTurns, hPolled, h.turns]
    unopened := fun j hj => by rw [hPolled, h.unopened j (hTells.links ▸ hj)]
    held := fun j hj => by
      rw [hTells.links, hFraming, hPolled]
      exact h.held j (hLink ▸ hj) }

/-- One byte more of the link that is held. -/
theorem Isolated.hear {c d : Connection (Recorded σ)} {b : UInt8} (h : Isolated initValue c)
    (hHeld : c.link = some k)
    (hTells : Tells k [b] (c.session.framing.classify initValue b).1.passed
      (c.session.framing.classify initValue b).1.started.length c.world d.world)
    (hLink : d.link = c.link) (hConfig : d.session.config = c.session.config)
    (hFraming : d.session.framing = (c.session.framing.classify initValue b).2) :
    Isolated initValue d := by
  obtain ⟨hNewest, hAfter⟩ := h.held k hHeld
  have hPolled : ∀ j, j ≠ k → d.world.polled j = c.world.polled j := by
    intro j hj
    rw [hTells.polled, if_neg hj, List.append_nil]
  have hHeard : d.world.polled k = c.world.polled k ++ [b] := by
    rw [hTells.polled, if_pos rfl]
  exact {
    initValue_eq := by rw [hConfig, h.initValue_eq]
    -- What the older links have told stays, and `k` is the last of them.
    shown := by
      have hOlder : ((List.range k).flatMap fun j => Framing.passed initValue (d.world.polled j)) =
          (List.range k).flatMap fun j => Framing.passed initValue (c.world.polled j) :=
        List.flatMap_congr fun j hj => by
          rw [hPolled j (Nat.ne_of_lt (List.mem_range.mp hj))]
      rw [hTells.shown, h.shown, hTells.links, hNewest, List.range_succ, List.flatMap_append,
        List.flatMap_append, List.flatMap_singleton, List.flatMap_singleton, hOlder, hHeard,
        Framing.passed_snoc, ← hAfter, List.append_assoc]
    turns := fun j => by
      rw [hTells.turns, h.turns]
      by_cases hj : j = k
      · subst j
        rw [if_pos rfl, hHeard, Framing.turns_snoc, ← hAfter]
      · rw [if_neg hj, hPolled j hj, Nat.add_zero]
    unopened := fun j hj => by
      rw [hTells.links] at hj
      have hLater : k < j := by
        rw [hNewest] at hj
        exact hj
      rw [hPolled j (Nat.ne_of_gt hLater), h.unopened j hj]
    held := fun j hj => by
      rw [hLink, hHeld] at hj
      cases hj
      rw [hTells.links, hFraming, hHeard, Framing.after_snoc, ← hAfter]
      exact ⟨hNewest, rfl⟩ }

/-- What a step may come to on the link `k`: success leaves the connection attached, and a failure
leaves it isolated, unless it is one of the sink. -/
def Kept {α : Type} (initValue : UInt8) (k : LinkId) :
    EStateM.Result ServeError (Connection (Recorded σ)) α → Prop
  | .ok _ d => Attached initValue k d
  | .error (.sink _) _ => True
  | .error _ d => Isolated initValue d

def Safe {α : Type} (initValue : UInt8) (k : LinkId) (act : Tick (Recorded σ) α) : Prop :=
  ∀ c, Attached initValue k c → Kept initValue k (act c)

theorem kept_error {α : Type} {e : ServeError} {d : Connection (Recorded σ)}
    (h : (∀ f, e ≠ .sink f) → Isolated initValue d) :
    Kept initValue k (.error e d : EStateM.Result ServeError (Connection (Recorded σ)) α) := by
  cases e with
  | sink f => trivial
  | transport f => exact h fun _ hf => by cases hf
  | pool f => exact h fun _ hf => by cases hf
  | invalidPoolSize size => exact h fun _ hf => by cases hf

theorem Kept.isolated {α : Type} {r : EStateM.Result ServeError (Connection (Recorded σ)) α}
    (h : Kept initValue k r) (hSink : ∀ f d, r ≠ .error (.sink f) d) :
    Isolated initValue (endState r) := by
  cases r with
  | ok a d => exact Attached.isolated h
  | error e d =>
    cases e with
    | sink f => exact absurd rfl (hSink f d)
    | _ => exact h

theorem Safe.pure {α : Type} (a : α) : Safe initValue k (Pure.pure a : Tick (Recorded σ) α) :=
  fun _ h => h

theorem Kept.bind {α β : Type} {act : Tick (Recorded σ) α} {next : α → Tick (Recorded σ) β}
    {c : Connection (Recorded σ)} (hAct : Kept initValue k (act c))
    (hNext : ∀ a, Safe initValue k (next a)) : Kept initValue k ((act >>= next) c) := by
  cases hRun : act c with
  | ok a d =>
    rw [hRun] at hAct
    rw [bind_ok hRun]
    exact hNext a d hAct
  | error e d =>
    rw [hRun] at hAct
    rw [bind_error hRun]
    exact kept_error fun hSink => hAct.isolated fun f d h => by
      cases h
      exact hSink f rfl

theorem Safe.bind {α β : Type} {act : Tick (Recorded σ) α} {next : α → Tick (Recorded σ) β}
    (hAct : Safe initValue k act) (hNext : ∀ a, Safe initValue k (next a)) :
    Safe initValue k (act >>= next) :=
  fun c h => (hAct c h).bind hNext

/-- A step that leaves the stream and the record alone. -/
theorem safe_of_quiet {α : Type} {act : Tick (Recorded σ) α}
    (h : ∀ c, Quiet k c.world (endState (act c)).world ∧ (endState (act c)).link = c.link ∧
      (endState (act c)).session = c.session) : Safe initValue k act := by
  intro c hAttached
  obtain ⟨⟨hTells, hAsked⟩, hLink, hSession⟩ := h c
  have hIsolated : Isolated initValue (endState (act c)) :=
    hAttached.isolated.quiet hTells hLink (by rw [hSession]) (by rw [hSession])
  cases hRun : act c with
  | ok a d =>
    rw [hRun] at hIsolated hLink hAsked
    exact ⟨hIsolated, hLink.trans hAttached.link, hAsked.symm ▸ hAttached.mode⟩
  | error e d =>
    rw [hRun] at hIsolated
    exact kept_error fun _ => hIsolated

/-! ### Polling -/

theorem serve_onWorld_safe {α : Type} {wrap : Fault → ServeError}
    {act : EStateM Fault (Recorded σ) α} (h : Moves (Quiet k) act) :
    Safe initValue k (serve (Serve.onWorld wrap act)) := by
  refine safe_of_quiet fun c => ?_
  have hQuiet := h c.world
  unfold serve Serve.onWorld
  cases hRun : act c.world with
  | ok a w =>
    rw [hRun] at hQuiet
    exact ⟨hQuiet, rfl, rfl⟩
  | error f w =>
    rw [hRun] at hQuiet
    exact ⟨hQuiet, rfl, rfl⟩

theorem safe_get : Safe initValue k (get : Tick (Recorded σ) (Connection (Recorded σ))) :=
  fun _ h => h

theorem requestHandshake_safe :
    Safe initValue k (requestHandshake host.recorded (Recorded.link host k)) := by
  have hNote : Safe initValue k (modify (noteRequest host.recorded) : Tick (Recorded σ) Unit) :=
    safe_of_quiet fun c => ⟨(quiet_durable k).refl _, rfl, rfl⟩
  refine Safe.bind safe_get fun c => ?_
  split
  · refine Safe.bind (serve_onWorld_safe
        (Sink.writeAll_moves (quiet_durable k) (link_write_quiet host k) _)) fun _ => ?_
    exact Safe.bind (serve_onWorld_safe (link_flush_quiet host k)) fun _ => hNote
  · exact Safe.pure _

theorem handleByte_handles {b : UInt8} {c : Connection (Recorded σ)}
    (hMode : c.world.asked k = .poll)
    (hSink : ∀ f d, handleByte host.recorded (Recorded.link host k) b c ≠ .error (.sink f) d) :
    Handles k b c.toServing
      (endState (handleByte host.recorded (Recorded.link host k) b c)).toServing ∧
      (endState (handleByte host.recorded (Recorded.link host k) b c)).link = c.link ∧
      ∀ d, handleByte host.recorded (Recorded.link host k) b c = .ok () d →
        d.world.asked k = .poll := by
  cases hRun : Session.processByte (Recorded.link host k) (Recorded.sink host) b c.toServing with
  | error e st =>
    have hServe : serve (Session.processByte (Recorded.link host k) host.recorded.sink b) c =
        .error e { c with toServing := st } := serve_error hRun
    unfold handleByte at hSink ⊢
    rw [bind_error hServe] at hSink ⊢
    obtain ⟨hHandles, -⟩ := processByte_handles host k b hMode fun f t h => by
      rw [hRun] at h
      cases h
      exact hSink f _ rfl
    rw [hRun] at hHandles
    exact ⟨hHandles, rfl, fun _ h => by cases h⟩
  | ok handled st =>
    have hServe : serve (Session.processByte (Recorded.link host k) host.recorded.sink b) c =
        .ok handled { c with toServing := st } := serve_ok hRun
    obtain ⟨hHandles, hPoll⟩ := processByte_handles host k b hMode fun f t h => by
      rw [hRun] at h
      cases h
    rw [hRun] at hHandles
    unfold handleByte
    rw [bind_ok hServe]
    split
    · refine ⟨hHandles, rfl, fun _ h => ?_⟩
      cases h
      exact hPoll _ st hRun
    · refine ⟨hHandles, rfl, fun _ h => ?_⟩
      cases h
      exact hPoll _ st hRun

/-- A byte that was polled and is handled. -/
theorem handleByte_kept {b : UInt8} {c d : Connection (Recorded σ)}
    (hAttached : Attached initValue k c) (hRead : Tells k [b] [] 0 c.world d.world)
    (hMode : d.world.asked k = .poll) (hLink : d.link = c.link) (hSession : d.session = c.session) :
    Kept initValue k (handleByte host.recorded (Recorded.link host k) b d) := by
  have key : (∀ f u, handleByte host.recorded (Recorded.link host k) b d ≠ .error (.sink f) u) →
      Isolated initValue (endState (handleByte host.recorded (Recorded.link host k) b d)) ∧
        (endState (handleByte host.recorded (Recorded.link host k) b d)).link = some k ∧
        ∀ u, handleByte host.recorded (Recorded.link host k) b d = .ok () u →
          u.world.asked k = .poll := by
    intro hSink
    obtain ⟨hHandles, hSame, hPoll⟩ := handleByte_handles hMode hSink
    have hTells := hRead.trans hHandles.tells
    rw [hSession, hAttached.isolated.initValue_eq, Nat.zero_add] at hTells
    have hFraming := hHandles.framing
    rw [hSession, hAttached.isolated.initValue_eq] at hFraming
    refine ⟨hAttached.isolated.hear hAttached.link hTells (hSame.trans hLink) ?_ hFraming,
      (hSame.trans hLink).trans hAttached.link, hPoll⟩
    rw [hHandles.config, hSession]
  cases hRun : handleByte host.recorded (Recorded.link host k) b d with
  | ok _ u =>
    rw [hRun] at key
    obtain ⟨hIsolated, hLink, hPoll⟩ := key fun _ _ h => by cases h
    exact ⟨hIsolated, hLink, hPoll u rfl⟩
  | error e u =>
    rw [hRun] at key
    refine kept_error fun hSink => (key fun f _ h => ?_).1
    cases h
    exact hSink f rfl

theorem pollBytes_safe (started n : Nat) :
    Safe initValue k (pollBytes host.recorded (Recorded.link host k) started n) := by
  induction n with
  | zero => exact Safe.pure _
  | succ n ih =>
    intro c hAttached
    unfold pollBytes
    cases hRead : (Recorded.link host k).read 1 c.world with
    | ok bs w =>
      obtain ⟨hTells, hAsked⟩ := link_read_polls host hAttached.mode hRead
      have hPoll : pollByte (Recorded.link host k) c = .ok bs.head? { c with world := w } := by
        simp only [pollByte, hRead]
      rw [bind_ok hPoll]
      cases bs with
      | nil => exact ⟨hAttached.isolated.quiet hTells rfl rfl rfl, hAttached.link,
        hAsked.symm ▸ hAttached.mode⟩
      | cons b rest =>
        have hRest : rest = [] := by
          have := (Recorded.link host k).read_length_le hRead
          cases rest with
          | nil => rfl
          | cons b' rest => simp at this
        subst hRest
        have hKept : Kept initValue k
            (handleByte host.recorded (Recorded.link host k) b { c with world := w }) :=
          handleByte_kept hAttached hTells (hAsked.symm ▸ hAttached.mode) rfl rfl
        refine Kept.bind hKept fun _ => Safe.bind safe_get fun d => ?_
        split
        · exact Safe.pure _
        · exact ih
    | error f w =>
      obtain ⟨hTells, hAsked⟩ := link_read_fails host hAttached.mode hRead
      have hIsolated : Isolated initValue { c with world := w } :=
        hAttached.isolated.quiet hTells rfl rfl rfl
      by_cases hIdle : f.isIdle = true
      · have hPoll : pollByte (Recorded.link host k) c = .ok none { c with world := w } := by
          simp only [pollByte, hRead, hIdle, if_true]
        rw [bind_ok hPoll]
        exact ⟨hIsolated, hAttached.link, hAsked.symm ▸ hAttached.mode⟩
      · have hPoll : pollByte (Recorded.link host k) c =
            .error (.transport f) { c with world := w } := by
          simp only [pollByte, hRead, if_neg hIdle]
        rw [bind_error hPoll]
        exact hIsolated

theorem poll_safe : Safe initValue k (poll host.recorded (Recorded.link host k)) := by
  refine Safe.bind requestHandshake_safe fun _ => Safe.bind safe_get fun c => ?_
  exact Safe.bind (pollBytes_safe _ _) fun _ => serve_onWorld_safe (sink_flush_quiet host k)

/-! ### Connecting -/

/-- Opening links changes nothing that has been told, once the present link is given up. -/
theorem Isolated.opens {c d : Connection (Recorded σ)} (h : Isolated initValue c)
    (hOpens : Opens c.world d.world) (hConfig : d.session.config = c.session.config)
    (hHeld : ∀ k, d.link = some k → d.world.links.length = k + 1 ∧ c.world.links.length ≤ k ∧
      d.session.framing = .idle) : Isolated initValue d where
  initValue_eq := by rw [hConfig, h.initValue_eq]
  shown := by
    obtain ⟨n, hn⟩ := Nat.exists_eq_add_of_le hOpens.1
    have hNew : ((List.range n).map (c.world.links.length + ·)).flatMap
        (fun k => Framing.passed initValue (c.world.polled k)) = [] := by
      rw [List.flatMap_map, List.flatMap_eq_nil_iff]
      intro k _
      rw [h.unopened _ (Nat.le_add_right _ k)]
      rfl
    rw [hOpens.shown, h.shown, hn, List.range_add, List.flatMap_append]
    simp only [hOpens.polled]
    rw [hNew, List.append_nil]
  turns k := by rw [hOpens.turns, hOpens.polled, h.turns]
  unopened k hk := by rw [hOpens.polled, h.unopened k (Nat.le_trans hOpens.1 hk)]
  held k hk := by
    obtain ⟨hNewest, hNew, hIdle⟩ := hHeld k hk
    rw [hIdle, hOpens.polled, h.unopened k hNew]
    exact ⟨hNewest, rfl⟩

/-- What connecting comes to: links were opened, and if one is held it is the newest of them, in
poll mode, and between two frames. -/
theorem connect_opens (c : Connection (Recorded σ)) :
    Opens c.world (endState (connect host.recorded c)).world ∧
      (endState (connect host.recorded c)).session.config = c.session.config ∧
      ∀ k, (endState (connect host.recorded c)).link = some k →
        (endState (connect host.recorded c)).world.links.length = k + 1 ∧ c.world.links.length ≤ k ∧
          (endState (connect host.recorded c)).session.framing = .idle ∧
          (endState (connect host.recorded c)).world.asked k = .poll := by
  have hAwait := @awaitLink_opens σ host c.timing.reconnectDelay c.world
  have hTiming : c.dropLink.timing = c.timing := rfl
  have hWorld : c.dropLink.world = c.world := rfl
  unfold connect
  simp only [hTiming, hWorld]
  cases hRun : host.recorded.awaitLink c.timing.reconnectDelay c.world with
  | error e t =>
    rw [hRun] at hAwait
    exact ⟨hAwait, rfl, fun _ h => by cases h⟩
  | ok k t =>
    rw [hRun] at hAwait
    obtain ⟨hNewest, hMode, hNew⟩ := awaitLink_newest hRun
    obtain ⟨w, hw⟩ := @sleep_world σ host c.timing.settleDelay t
    have hSlept : Opens c.world { t with world := w } :=
      opens_durable.trans hAwait (opens_world t w)
    cases hSleep : host.recorded.sleep c.timing.settleDelay t with
    | mk rested u =>
      rw [hSleep] at hw
      subst hw
      simp only [hSleep]
      cases rested with
      | false => exact ⟨hSlept, rfl, fun _ h => by cases h⟩
      | true =>
        refine ⟨hSlept, rfl, fun j h => ?_⟩
        cases h
        exact ⟨hNewest, hNew, rfl, hMode⟩

/-- After a failed tick the link is given up, and what is held then is new. -/
theorem reconnect_opens (c : Connection (Recorded σ)) :
    Opens c.world (endState (reconnect host.recorded c)).world ∧
      ∀ k, (endState (reconnect host.recorded c)).link = some k → c.world.links.length ≤ k := by
  unfold reconnect
  rw [connectInTick_end]
  obtain ⟨hOpens, -, hHeld⟩ := @connect_opens σ host
    { c with link := none, phase := .disconnected, reconnects := c.reconnects + 1 }
  exact ⟨hOpens, fun k hk => (hHeld k hk).2.1⟩

/-- A connection is isolated, and a link that it holds is in poll mode. -/
structure Sound (initValue : UInt8) (c : Connection (Recorded σ)) : Prop where
  isolated : Isolated initValue c
  mode : ∀ k, c.link = some k → c.world.asked k = .poll

theorem connect_sound {c : Connection (Recorded σ)} (h : Isolated initValue c) :
    Sound initValue (endState (connect host.recorded c)) := by
  obtain ⟨hOpens, hConfig, hHeld⟩ := @connect_opens σ host c
  exact {
    isolated := h.opens hOpens hConfig fun k hk =>
      ⟨(hHeld k hk).1, (hHeld k hk).2.1, (hHeld k hk).2.2.1⟩
    mode := fun k hk => (hHeld k hk).2.2.2 }

theorem reconnect_sound {c : Connection (Recorded σ)} (h : Isolated initValue c) :
    Sound initValue (endState (reconnect host.recorded c)) := by
  unfold reconnect
  rw [connectInTick_end]
  refine connect_sound { h with held := fun k hk => ?_ }
  cases hk

theorem update_sound {c : Connection (Recorded σ)} (h : Sound initValue c)
    (hSink : ∀ f d, update host.recorded c ≠ .error (.sink f) d) :
    Sound initValue (endState (update host.recorded c)) := by
  unfold update at hSink ⊢
  cases hLink : c.link with
  | none =>
    simp only
    rw [connectInTick_end]
    exact connect_sound h.isolated
  | some k =>
    have hKept := @poll_safe σ host initValue k c ⟨h.isolated, hLink, h.mode k hLink⟩
    have hPoll : poll host.recorded (host.recorded.link k) c =
        poll host.recorded (Recorded.link host k) c := rfl
    simp only [hLink, hPoll] at hSink ⊢
    cases hRun : poll host.recorded (Recorded.link host k) c with
    | ok u d =>
      rw [hRun] at hKept
      refine ⟨Attached.isolated hKept, fun j hj => ?_⟩
      cases (Attached.link hKept).symm.trans hj
      exact Attached.mode hKept
    | error e d =>
      rw [hRun] at hKept hSink
      cases e with
      | sink f => exact absurd rfl (hSink f d)
      | transport f => exact reconnect_sound hKept
      | pool f => exact reconnect_sound hKept
      | invalidPoolSize size => exact reconnect_sound hKept

end Connection

end MemoryBridge
