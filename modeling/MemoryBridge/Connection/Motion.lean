import MemoryBridge.Connection

/-!
# What a connection does to its world

* `update_after`: an update never takes time or budget back.
* `connect_spends`: connecting spends some of the budget or finds the world stopped.
-/

namespace MemoryBridge

namespace Connection

variable {σ α : Type} {R : σ → σ → Prop}

theorem serve_ok {act : Serve σ α} {c : Connection σ} {a : α} {st : Serving σ}
    (h : act c.toServing = .ok a st) : serve act c = .ok a { c with toServing := st } := by
  simp only [serve, h]

theorem serve_error {act : Serve σ α} {c : Connection σ} {e : ServeError} {st : Serving σ}
    (h : act c.toServing = .error e st) : serve act c = .error e { c with toServing := st } := by
  simp only [serve, h]

theorem serve_onLink_ok {act : EStateM Fault σ α} {c : Connection σ} {a : α} {w : σ}
    (h : act c.world = .ok a w) : serve (Serve.onLink act) c = .ok a { c with world := w } :=
  serve_ok (Serve.onLink_ok h)

theorem serve_onLink_error {act : EStateM Fault σ α} {c : Connection σ} {f : Fault} {w : σ}
    (h : act c.world = .error f w) :
    serve (Serve.onLink act) c = .error (.transport f) { c with world := w } :=
  serve_error (Serve.onLink_error h)

theorem get_run (c : Connection σ) : (get : Tick σ (Connection σ)) c = .ok c c := rfl

/-- The worlds of two connections are related. -/
def WorldRel (R : σ → σ → Prop) (a b : Connection σ) : Prop :=
  R a.world b.world

theorem worldRel_durable (hR : Durable R) : Durable (WorldRel R) :=
  ⟨fun c => hR.refl c.world, hR.trans⟩

theorem serve_moves {act : Serve σ α} (h : Moves (MemoryBridge.WorldRel R) act) :
    Moves (WorldRel R) (serve act) := by
  intro c
  have := h c.toServing
  unfold serve WorldRel
  unfold MemoryBridge.WorldRel at this
  cases ha : act c.toServing <;> simpa [ha] using this

theorem get_moves (hR : Durable R) : Moves (WorldRel R) (get : Tick σ (Connection σ)) :=
  fun c => hR.refl c.world

theorem modify_moves (hR : Durable R) {f : Connection σ → Connection σ}
    (h : ∀ c, (f c).world = c.world) : Moves (WorldRel R) (modify f : Tick σ Unit) := by
  intro c
  show R c.world (f c).world
  rw [h]
  exact hR.refl _

theorem requestHandshake_moves (hR : Durable R) (host : Host σ) {link : Link σ}
    (hLink : link.Keeps R) : Moves (WorldRel R) (requestHandshake host link) := by
  have hD := worldRel_durable hR
  refine Moves.bind hD (get_moves hR) fun c => ?_
  split
  · refine Moves.bind hD (serve_moves
        (Session.writeAll_moves (Session.keptBy_worldRel hR hLink).toKeptOnLink _)) fun _ => ?_
    refine Moves.bind hD (serve_moves (Serve.onLink_moves hLink.flush)) fun _ => ?_
    exact modify_moves hR fun _ => rfl
  · exact Moves.pure hD _

theorem pollByte_moves {link : Link σ} (hLink : link.Keeps R) :
    Moves (WorldRel R) (pollByte link) := by
  intro c
  have := hLink.read 1 c.world
  unfold pollByte WorldRel
  cases hr : link.read 1 c.world with
  | ok bs w => simpa [hr] using this
  | error f w =>
    rw [hr] at this
    by_cases hf : f.isIdle <;> simpa [hf] using this

theorem handleByte_moves (hR : Durable R) (host : Host σ) {link : Link σ} (hLink : link.Keeps R)
    (hWrite : ∀ bs, Moves R (host.sink.write bs)) (b : UInt8) :
    Moves (WorldRel R) (handleByte host link b) := by
  have hD := worldRel_durable hR
  refine Moves.bind hD (serve_moves (Session.processByte_moves hR hLink hWrite b)) fun handled => ?_
  split
  · exact modify_moves hR fun _ => rfl
  · exact Moves.pure hD _

theorem pollBytes_moves (hR : Durable R) (host : Host σ) {link : Link σ} (hLink : link.Keeps R)
    (hWrite : ∀ bs, Moves R (host.sink.write bs)) (started n : Nat) :
    Moves (WorldRel R) (pollBytes host link started n) := by
  have hD := worldRel_durable hR
  induction n with
  | zero => exact Moves.pure hD _
  | succ n ih =>
    refine Moves.bind hD (pollByte_moves hLink) fun polled => ?_
    split
    · exact Moves.pure hD _
    · refine Moves.bind hD (handleByte_moves hR host hLink hWrite _) fun _ => ?_
      refine Moves.bind hD (get_moves hR) fun c => ?_
      split
      · exact Moves.pure hD _
      · exact ih

theorem flush_moves {host : Host σ} (hSink : host.sink.Keeps R) :
    Moves (WorldRel R) (serve (Serve.onSink host.sink.flush)) :=
  serve_moves (Serve.onSink_moves hSink.flush)

theorem poll_moves (hR : Durable R) (host : Host σ) {link : Link σ} (hLink : link.Keeps R)
    (hSink : host.sink.Keeps R) : Moves (WorldRel R) (poll host link) := by
  have hD := worldRel_durable hR
  refine Moves.bind hD (requestHandshake_moves hR host hLink) fun _ => ?_
  refine Moves.bind hD (get_moves hR) fun c => ?_
  exact Moves.bind hD (pollBytes_moves hR host hLink hSink.write _ _) fun _ => flush_moves hSink

theorem poll_after (host : Host σ) (id : LinkId) :
    Moves (WorldRel host.After) (poll host (host.link id)) :=
  poll_moves host.after_durable host (host.link_keeps id) host.sink_keeps

/-! ## Every operation of a host -/

theorem connect_moves (hR : Durable R) {host : Host σ}
    (hOpen : ∀ s, ¬ host.stopped s = true → R s (endState (host.openLink s)))
    (hSleep : ∀ ms s, R s (host.sleep ms s).2) : Moves (WorldRel R) (connect host) := by
  intro c
  have hAwait :=
    Host.awaitLink_moves hR hOpen hSleep c.dropLink.timing.reconnectDelay c.dropLink.world
  unfold connect WorldRel
  simp only
  cases hRun : host.awaitLink c.dropLink.timing.reconnectDelay c.dropLink.world with
  | error e w =>
    rw [hRun] at hAwait
    exact hAwait
  | ok id w =>
    rw [hRun] at hAwait
    have hSettled := hR.trans hAwait (hSleep c.dropLink.timing.settleDelay w)
    simp only
    cases hSlept : host.sleep c.dropLink.timing.settleDelay w with
    | mk rested v =>
      rw [hSlept] at hSettled
      cases rested <;> exact hSettled

theorem connectInTick_moves (hR : Durable R) {host : Host σ} (h : host.Keeps R) :
    Moves (WorldRel R) (connectInTick host) := by
  intro c
  have hConnect := connect_moves hR (fun s _ => h.openLink hR s) (h.sleep hR) c
  unfold connectInTick
  cases hRun : connect host c with
  | ok u d =>
    rw [hRun] at hConnect
    exact hConnect
  | error e d =>
    rw [hRun] at hConnect
    exact hConnect

theorem update_moves (hR : Durable R) {host : Host σ} (h : host.Keeps R) :
    Moves (WorldRel R) (update host) := by
  intro c
  have hD := worldRel_durable hR
  unfold update
  cases hLink : c.link with
  | none => exact connectInTick_moves hR h c
  | some id =>
    have hPoll := poll_moves hR host (h.link id) h.sink c
    have hReconnect : ∀ d, WorldRel R d (endState (reconnect host d)) := fun d =>
      connectInTick_moves hR h { d with
        link := none, phase := .disconnected, reconnects := d.reconnects + 1 }
    simp only
    cases hRun : poll host (host.link id) c with
    | ok u d =>
      rw [hRun] at hPoll
      exact hPoll
    | error e d =>
      rw [hRun] at hPoll
      cases e with
      | sink f => exact hPoll
      | _ => exact hD.trans hPoll (hReconnect d)

/-! ## Stops -/

section

variable {host : Host σ} {c d : Connection σ}

/-- Connecting is given up in a world that is stopped. -/
theorem connect_stopped {e : Host.Stopped} (h : connect host c = .error e d) :
    host.stopped d.world = true := by
  unfold connect at h
  simp only at h
  cases hAwait : host.awaitLink c.dropLink.timing.reconnectDelay c.dropLink.world with
  | error e w =>
    rw [hAwait] at h
    cases h
    exact host.awaitLink_stopped hAwait
  | ok id w =>
    rw [hAwait] at h
    simp only at h
    cases hSleep : host.sleep c.dropLink.timing.settleDelay w with
    | mk rested v =>
      rw [hSleep] at h
      cases rested with
      | true => cases h
      | false =>
        cases h
        exact host.sleep_stopped hSleep

theorem connectInTick_stopped {e : TickError} (h : connectInTick host c = .error e d) :
    e = .stopped ∧ host.stopped d.world = true := by
  unfold connectInTick at h
  cases hConnect : connect host c with
  | ok u d =>
    rw [hConnect] at h
    cases h
  | error e d =>
    rw [hConnect] at h
    cases h
    exact ⟨rfl, connect_stopped hConnect⟩

/-- A tick that ends for a stop leaves the world stopped. -/
theorem update_stopped (h : update host c = .error .stopped d) : host.stopped d.world = true := by
  unfold update at h
  cases hLink : c.link with
  | none =>
    rw [hLink] at h
    exact (connectInTick_stopped h).2
  | some id =>
    rw [hLink] at h
    simp only at h
    split at h
    · cases h
    · cases h
    · exact (connectInTick_stopped h).2

end

/-! ## What a tick leaves alone -/

/-- Talking over a link, noting a request and noting a command keep `R`. -/
structure Aside (host : Host σ) (R : Connection σ → Connection σ → Prop) : Prop where
  durable : Durable R
  serving : ∀ (c : Connection σ) (st : Serving σ), R c { c with toServing := st }
  request : ∀ c, R c (noteRequest host c)
  command : ∀ command c, R c (noteCommand command c)

section

variable {host : Host σ} {R : Connection σ → Connection σ → Prop} (h : Aside host R)

include h

theorem serve_keeps (act : Serve σ α) : Moves R (serve act) := by
  intro c
  unfold serve
  cases act c.toServing <;> exact h.serving c _

theorem requestHandshake_keeps (link : Link σ) : Moves R (requestHandshake host link) := by
  have hGet : Moves R (get : Tick σ (Connection σ)) := fun c => h.durable.refl c
  have hNote : Moves R (modify (noteRequest host) : Tick σ Unit) := h.request
  refine Moves.bind h.durable hGet fun c => ?_
  split
  · refine Moves.bind h.durable (serve_keeps h _) fun _ => ?_
    exact Moves.bind h.durable (serve_keeps h _) fun _ => hNote
  · exact Moves.pure h.durable _

theorem pollByte_keeps (link : Link σ) : Moves R (pollByte link) := by
  intro c
  have hWorld : ∀ w, R c { c with world := w } := fun w => h.serving c ⟨c.session, w⟩
  unfold pollByte
  split
  · exact hWorld _
  · split <;> exact hWorld _

theorem handleByte_keeps (link : Link σ) (b : UInt8) : Moves R (handleByte host link b) := by
  have hNote : ∀ command, Moves R (modify (noteCommand command) : Tick σ Unit) := h.command
  refine Moves.bind h.durable (serve_keeps h _) fun handled => ?_
  split
  · exact hNote _
  · exact Moves.pure h.durable _

theorem pollBytes_keeps (link : Link σ) (started n : Nat) :
    Moves R (pollBytes host link started n) := by
  have hGet : Moves R (get : Tick σ (Connection σ)) := fun c => h.durable.refl c
  induction n with
  | zero => exact Moves.pure h.durable _
  | succ n ih =>
    refine Moves.bind h.durable (pollByte_keeps h link) fun polled => ?_
    split
    · exact Moves.pure h.durable _
    · refine Moves.bind h.durable (handleByte_keeps h link _) fun _ => ?_
      refine Moves.bind h.durable hGet fun c => ?_
      split
      · exact Moves.pure h.durable _
      · exact ih

theorem poll_keeps (link : Link σ) : Moves R (poll host link) := by
  have hGet : Moves R (get : Tick σ (Connection σ)) := fun c => h.durable.refl c
  refine Moves.bind h.durable (requestHandshake_keeps h link) fun _ => ?_
  refine Moves.bind h.durable hGet fun c => ?_
  exact Moves.bind h.durable (pollBytes_keeps h link _ _) fun _ => serve_keeps h _

end

/-- The same link is held, and no more reconnects were counted. -/
def Stays (c d : Connection σ) : Prop :=
  d.link = c.link ∧ d.reconnects = c.reconnects

theorem stays_durable : Durable (@Stays σ) :=
  ⟨fun _ => ⟨rfl, rfl⟩, fun h h' => ⟨h'.1.trans h.1, h'.2.trans h.2⟩⟩

theorem poll_stays (host : Host σ) (link : Link σ) : Moves Stays (poll host link) :=
  poll_keeps ⟨stays_durable, fun _ _ => ⟨rfl, rfl⟩, fun _ => ⟨rfl, rfl⟩, fun _ _ => ⟨rfl, rfl⟩⟩ link

/-- Handshakes that are no longer asked for are not asked for again by polling. -/
theorem poll_requesting (host : Host σ) (link : Link σ) :
    Moves (fun c d => c.requesting = false → d.requesting = false) (poll host link) := by
  have hAside : Aside host fun c d => c.requesting = false → d.requesting = false :=
    ⟨⟨fun _ => id, fun h h' => h' ∘ h⟩, fun _ _ => id, fun _ => id, fun _ _ _ => rfl⟩
  exact poll_keeps hAside link

theorem connect_reconnects (host : Host σ) (c : Connection σ) :
    (endState (connect host c)).reconnects = c.reconnects := by
  unfold connect
  simp only
  split
  · rfl
  · split <;> rfl

/-! ## Connecting -/

theorem connect_spends (host : Host σ) (c : Connection σ) :
    host.After c.world (endState (connect host c)).world ∧
      (host.stopped (endState (connect host c)).world = true ∨
        host.budget (endState (connect host c)).world < host.budget c.world) := by
  have h := host.awaitLink_spends c.dropLink.timing.reconnectDelay c.dropLink.world
  unfold connect
  cases ha : host.awaitLink c.dropLink.timing.reconnectDelay c.dropLink.world with
  | error e w =>
    rw [ha] at h
    simp only [ha]
    exact h
  | ok id w =>
    rw [ha] at h
    have hs := host.sleep_after c.dropLink.timing.settleDelay w
    have key : host.After c.world (host.sleep c.dropLink.timing.settleDelay w).2 ∧
        (host.stopped (host.sleep c.dropLink.timing.settleDelay w).2 = true ∨
          host.budget (host.sleep c.dropLink.timing.settleDelay w).2 < host.budget c.world) := by
      refine ⟨host.after_durable.trans h.1 hs, ?_⟩
      rcases h.2 with h | h
      · exact Or.inl (hs.1 h)
      · exact Or.inr (Nat.lt_of_le_of_lt hs.2 h)
    cases hp : host.sleep c.dropLink.timing.settleDelay w with
    | mk rested u =>
      rw [hp] at key
      cases rested <;> simpa [ha, hp] using key

theorem connectInTick_end (host : Host σ) (c : Connection σ) :
    endState (connectInTick host c) = endState (connect host c) := by
  unfold connectInTick
  cases connect host c <;> rfl

theorem connectInTick_spends (host : Host σ) (c : Connection σ) :
    host.After c.world (endState (connectInTick host c)).world ∧
      (host.stopped (endState (connectInTick host c)).world = true ∨
        host.budget (endState (connectInTick host c)).world < host.budget c.world) := by
  rw [connectInTick_end]
  exact connect_spends host c

theorem reconnect_reconnects (host : Host σ) (c : Connection σ) :
    (endState (reconnect host c)).reconnects = c.reconnects + 1 := by
  unfold reconnect
  rw [connectInTick_end, connect_reconnects]

theorem reconnect_spends (host : Host σ) (c : Connection σ) :
    host.After c.world (endState (reconnect host c)).world ∧
      (host.stopped (endState (reconnect host c)).world = true ∨
        host.budget (endState (reconnect host c)).world < host.budget c.world) :=
  connectInTick_spends host
    { c with link := none, phase := .disconnected, reconnects := c.reconnects + 1 }

/-- Reconnects are counted and never taken back. -/
theorem update_reconnects (host : Host σ) (c : Connection σ) :
    c.reconnects ≤ (endState (update host c)).reconnects := by
  unfold update
  cases hl : c.link with
  | none =>
    have hKept : (endState (connectInTick host c)).reconnects = c.reconnects := by
      rw [connectInTick_end, connect_reconnects]
    exact Nat.le_of_eq hKept.symm
  | some id =>
    have hStays := (poll_stays host (host.link id) c).2
    simp only
    cases hp : poll host (host.link id) c with
    | ok a d =>
      rw [hp] at hStays
      exact Nat.le_of_eq hStays.symm
    | error e d =>
      rw [hp] at hStays
      cases e with
      | sink f => exact Nat.le_of_eq hStays.symm
      | _ =>
        simp only
        rw [reconnect_reconnects]
        exact Nat.le_succ_of_le (Nat.le_of_eq hStays.symm)

end Connection

end MemoryBridge
