import MemoryBridge.Proofs.Hearing

/-!
# What a tick hears

`Connection.heard` are the hearings of one tick, one for each byte that it polls. `pollBytes_hears`
puts together what they exchange with the device: replies are sent in the order of the hearings, and
only the last reply of a tick can be refused, for a refusal ends the tick and costs the link.

Before its first hearing a tick may ask for a handshake; `requestHandshake_asks` says what that
does to the record.
-/

namespace MemoryBridge.Connection

section

variable {σ : Type} (host : Host σ) (k : LinkId)

/-- The hearings of up to `n` bytes. -/
def hearings (started : Nat) : Nat → Connection σ → List (Hearing σ)
  | 0, _ => []
  | n + 1, c =>
    match pollByte (host.link k) c with
    | .ok (some b) d =>
      ⟨k, b, d.toServing⟩ ::
        match handleByte host (host.link k) b d with
        | .ok () e => if e.tickOver host started then [] else hearings started n e
        | .error _ _ => []
    | _ => []

/-- The request for a handshake that a tick begins with. -/
def requested (c : Connection σ) : Bytes :=
  if c.requestDue host then c.session.handshakeFrame else []

/-- A tick on the link `k` begins with a request that is taken whole and flushed. -/
def requestSent (c : Connection σ) : Bool :=
  c.requestDue host &&
    match (host.link k).writeAll c.session.handshakeFrame c.world with
    | .error _ _ => false
    | .ok () w =>
      match (host.link k).flush w with
      | .error _ _ => false
      | .ok () _ => true

/-- The hearings of a tick on the link `k`. -/
def heard (c : Connection σ) : List (Hearing σ) :=
  match requestHandshake host (host.link k) c with
  | .ok () d => hearings host k (host.clock d.world) maxTickBytes d
  | .error _ _ => []

end

/-! ## Hearings one after the other -/

variable {σ α β : Type} {host : Host σ} {k : LinkId}

/-- From `c` to the end of `r` the hearings `hs` took place on the link `k`, and nothing else
was sent or pulled. -/
structure Hears (host : Host σ) (k : LinkId) (hs : List (Hearing (Recorded σ)))
    (c : Connection (Recorded σ))
    (r : EStateM.Result ServeError (Connection (Recorded σ)) α) : Prop where
  wrote : Recorded.Wrote k (hs.flatMap (·.sent host)) c.world (endState r).world
  taken : (∀ h ∈ hs, Whole (h.owed host) (h.sent host)) ∨
    Breaks r ∧ ∃ front last, hs = front ++ [last] ∧
    (∀ h ∈ front, Whole (h.owed host) (h.sent host)) ∧ Refused (last.owed host) (last.sent host)
  mailbox : c.session.mailbox.bytes =
    hs.flatMap (·.pulled host) ++ (endState r).session.mailbox.bytes
  requesting : ¬ Breaks r →
    ((endState r).requesting = false ↔ c.requesting = false ∨ ∃ h ∈ hs, h.Answered host.recorded)
  silent : ¬ Breaks r → (∀ h ∈ hs, ¬ h.Answered host.recorded) → hs.flatMap (·.owed host) = []
  config : (endState r).session.config = c.session.config
  handshakesSent : (endState r).handshakesSent = c.handshakesSent

section

variable {c d : Connection (Recorded σ)} {hs hs' : List (Hearing (Recorded σ))}
  {r : EStateM.Result ServeError (Connection (Recorded σ)) α}

theorem hears_nothing {w : Recorded σ} (hWrote : Recorded.Wrote k [] c.world w)
    (hEnd : endState r = { c with world := w }) : Hears host k [] c r where
  wrote := by rw [hEnd]; exact hWrote
  taken := Or.inl (by simp)
  mailbox := by rw [hEnd]; rfl
  requesting _ := by simp [hEnd]
  silent _ _ := rfl
  config := by rw [hEnd]
  handshakesSent := by rw [hEnd]

/-- A failure is a failure of all that it is part of. -/
theorem Hears.fails {e : ServeError}
    (h : Hears host k hs c (.error e d : EStateM.Result ServeError _ α)) :
    Hears host k hs c (.error e d : EStateM.Result ServeError _ β) := by
  obtain ⟨hWrote, hTaken, hMailbox, hRequesting, hSilent, hConfig, hCount⟩ := h
  rw [breaks_error_iff] at hTaken hRequesting hSilent
  refine ⟨hWrote, ?_, hMailbox, ?_, ?_, hConfig, hCount⟩
  · rw [breaks_error_iff]
    exact hTaken
  · rw [breaks_error_iff]
    exact hRequesting
  · rw [breaks_error_iff]
    exact hSilent

theorem Hears.append {a : α} {r : EStateM.Result ServeError (Connection (Recorded σ)) β}
    (h : Hears host k hs c (.ok a d)) (h' : Hears host k hs' d r) :
    Hears host k (hs ++ hs') c r where
  wrote := by
    rw [List.flatMap_append]
    exact h.wrote.trans h'.wrote
  taken := by
    have hFirst : ∀ h ∈ hs, Whole (h.owed host) (h.sent host) := by
      rcases h.taken with hAll | ⟨hBreaks, -⟩
      · exact hAll
      · exact absurd hBreaks (not_breaks_ok a d)
    rcases h'.taken with hAll | ⟨hBreaks, front, last, rfl, hFront, hLast⟩
    · refine Or.inl fun x hx => ?_
      rcases List.mem_append.mp hx with hx | hx
      · exact hFirst x hx
      · exact hAll x hx
    · refine Or.inr ⟨hBreaks, hs ++ front, last, by rw [List.append_assoc], fun x hx => ?_, hLast⟩
      rcases List.mem_append.mp hx with hx | hx
      · exact hFirst x hx
      · exact hFront x hx
  mailbox := by
    have hFirst := h.mailbox
    have hLater := h'.mailbox
    simp only [endState_ok] at hFirst
    rw [hFirst, hLater, List.flatMap_append, List.append_assoc]
  requesting hHolds := by
    have hFirst := h.requesting (not_breaks_ok a d)
    have hLater := h'.requesting hHolds
    simp only [endState_ok] at hFirst
    rw [hLater, hFirst, or_assoc]
    simp only [List.mem_append, or_and_right, exists_or]
  silent hHolds hNone := by
    have hFirst := h.silent (not_breaks_ok a d) fun x hx => hNone x (List.mem_append_left _ hx)
    have hLater := h'.silent hHolds fun x hx => hNone x (List.mem_append_right _ hx)
    rw [List.flatMap_append, hFirst, hLater, List.append_nil]
  config := h'.config.trans h.config
  handshakesSent := h'.handshakesSent.trans h.handshakesSent

/-- The replies are taken one after the other. Only the last one can be refused. -/
theorem Hears.sent (h : Hears host k hs c r) :
    ∃ pieces, Recorded.Wrote k pieces c.world (endState r).world ∧
    (Whole (hs.flatMap (·.owed host)) pieces ∨
      Refused (hs.flatMap (·.owed host)) pieces ∧ Breaks r) := by
  refine ⟨_, h.wrote, ?_⟩
  rcases h.taken with hAll | ⟨hBreaks, front, last, rfl, hFront, hLast⟩
  · exact Or.inl (whole_flatMap hAll)
  · refine Or.inr ⟨?_, hBreaks⟩
    simp only [List.flatMap_append, List.flatMap_singleton]
    exact (whole_flatMap hFront).append_refused hLast

end

/-! ## One byte -/

theorem pollByte_hears (host : Host σ) (k : LinkId) (c : Connection (Recorded σ)) :
    Hears host k [] c (pollByte (host.recorded.link k) c) := by
  have hWrote : Recorded.Wrote k [] c.world (endState ((host.recorded.link k).read 1 c.world)) :=
    Recorded.link_read_wrote host k 1 c.world
  unfold pollByte
  cases hRead : (host.recorded.link k).read 1 c.world with
  | ok bs w =>
    rw [hRead] at hWrote
    exact hears_nothing hWrote rfl
  | error f w =>
    rw [hRead] at hWrote
    simp only
    split
    · exact hears_nothing hWrote rfl
    · exact hears_nothing hWrote rfl

theorem hears_one (h : Hearing (Recorded σ)) {c : Connection (Recorded σ)}
    (hBefore : c.toServing = h.before) {r : EStateM.Result ServeError (Connection (Recorded σ)) α}
    (hEnd : (endState r).toServing = endState (h.outcome host.recorded))
    (hBreaks : Breaks (h.outcome host.recorded) ↔ Breaks r)
    (hRequesting : (endState r).requesting = false ↔
      c.requesting = false ∨ h.Answered host.recorded)
    (hCount : (endState r).handshakesSent = c.handshakesSent) : Hears host h.link [h] c r := by
  have hConfig :=
    Session.processByte_config (host.recorded.link h.link) host.recorded.sink h.byte h.before
  obtain ⟨hWrote, hTaken, hMailbox, hSilent⟩ := Hearing.outcome_exchanges host h
  rw [hBreaks] at hTaken hSilent
  rw [← hBefore, ← hEnd] at hWrote hMailbox
  refine ⟨by simpa using hWrote, ?_, ?_, fun _ => ?_, fun hHolds hNone => ?_, ?_, hCount⟩
  · rcases hTaken with hWhole | ⟨hRefused, hBreaks⟩
    · exact Or.inl (by simpa using hWhole)
    · exact Or.inr ⟨hBreaks, [], h, rfl, by simp, hRefused⟩
  · simpa using hMailbox
  · simpa using hRequesting
  · simpa using hSilent (by simpa using hNone) hHolds
  · show (endState r).toServing.session.config = c.toServing.session.config
    rw [hEnd, hBefore]
    exact hConfig

theorem handleByte_hears (host : Host σ) (k : LinkId) (b : UInt8) (c : Connection (Recorded σ)) :
    Hears host k [⟨k, b, c.toServing⟩] c (handleByte host.recorded (host.recorded.link k) b c) := by
  let h : Hearing (Recorded σ) := ⟨k, b, c.toServing⟩
  cases hRun : Session.processByte (host.recorded.link k) host.recorded.sink b c.toServing with
  | error e st =>
    have hOutcome : h.outcome host.recorded = .error e st := hRun
    unfold handleByte
    rw [bind_error (serve_error hRun)]
    refine hears_one h rfl ?_ ?_ ?_ rfl
    · rw [hOutcome]
      rfl
    · rw [hOutcome, breaks_error_iff, breaks_error_iff]
    · have hNot : ¬ h.Answered host.recorded := by
        rintro ⟨command, st', hAnswered⟩
        cases hOutcome.symm.trans hAnswered
      simp [hNot]
  | ok handled st =>
    have hOutcome : h.outcome host.recorded = .ok handled st := hRun
    have hHolds : ¬ Breaks (h.outcome host.recorded) := by
      rw [hOutcome]
      exact not_breaks_ok _ _
    unfold handleByte
    rw [bind_ok (serve_ok hRun)]
    split
    · rename_i command
      have hAnswered : h.Answered host.recorded := ⟨command, st, hOutcome⟩
      refine hears_one h rfl ?_ (iff_of_false hHolds (not_breaks_ok _ _))
        (iff_of_true rfl (Or.inr hAnswered)) rfl
      rw [hOutcome]
      rfl
    · rename_i hOther
      have hNot : ¬ h.Answered host.recorded := by
        rintro ⟨command, st', hAnswered⟩
        cases hOutcome.symm.trans hAnswered
        exact hOther command rfl
      refine hears_one h rfl ?_ (iff_of_false hHolds (not_breaks_ok _ _)) ?_ rfl
      · rw [hOutcome]
        rfl
      · simp [hNot]
        rfl

/-! ## Asking for a handshake -/

/-- From `c` to the end of `r` a tick on the link `k` has asked for a handshake if it was time
to. -/
structure Asks (host : Host σ) (k : LinkId) (c : Connection (Recorded σ))
    (r : EStateM.Result ServeError (Connection (Recorded σ)) Unit) : Prop where
  sent : ∃ pieces, Recorded.Wrote k pieces c.world (endState r).world ∧
    (Whole (c.requested host.recorded) pieces ∨
      Refused (c.requested host.recorded) pieces ∧ Breaks r)
  speaks : Recorded.Speaks k c.world (endState r).world
  idle : c.requestDue host.recorded = false → r = .ok () c
  breaks : ∀ e d, r = .error e d → Breaks r
  same : (endState r).session = c.session ∧ (endState r).requesting = c.requesting
  counted : (endState r).handshakesSent =
    c.handshakesSent + if c.requestSent host.recorded k then 1 else 0

theorem requestHandshake_due {link : Link σ} {c : Connection σ} (h : c.requestDue host = true) :
    requestHandshake host link c =
      match link.writeAll c.session.handshakeFrame c.world with
      | .error f w => .error (.transport f) { c with world := w }
      | .ok () w =>
        match link.flush w with
        | .error f v => .error (.transport f) { c with world := v }
        | .ok () v => .ok () (noteRequest host { c with world := v }) := by
  unfold requestHandshake
  rw [bind_ok (get_run c), if_pos h]
  cases hWrite : link.writeAll c.session.handshakeFrame c.world with
  | error f w => rw [bind_error (serve_onLink_error hWrite)]
  | ok u w =>
    rw [bind_ok (serve_onLink_ok hWrite)]
    cases hFlush : link.flush w with
    | error f v =>
      have hRun : serve (Serve.onLink link.flush) { c with world := w } = _ :=
        serve_onLink_error hFlush
      rw [bind_error hRun]
      simp only [hFlush]
    | ok u v =>
      have hRun : serve (Serve.onLink link.flush) { c with world := w } = _ :=
        serve_onLink_ok hFlush
      rw [bind_ok hRun]
      simp only [hFlush]
      rfl

theorem requestHandshake_idle (host : Host σ) (k : LinkId) {c : Connection (Recorded σ)}
    (hIdle : c.requestDue host.recorded = false) :
    Asks host k c (requestHandshake host.recorded (host.recorded.link k) c) := by
  have hNotDue : ¬ c.requestDue host.recorded = true := by simp [hIdle]
  have hRun : requestHandshake host.recorded (host.recorded.link k) c = .ok () c := by
    unfold requestHandshake
    rw [bind_ok (get_run c), if_neg hNotDue]
    rfl
  have hNothing : c.requested host.recorded = [] := if_neg hNotDue
  have hNotSent : c.requestSent host.recorded k = false := by
    unfold requestSent
    rw [hIdle, Bool.false_and]
  rw [hRun]
  refine ⟨⟨[], Recorded.Wrote.refl k _, Or.inl ?_⟩, (Recorded.speaks_durable k).refl _,
    fun _ => rfl, ?_, ⟨rfl, rfl⟩, ?_⟩
  · rw [hNothing]
    exact whole_nil
  · intro e d h
    cases h
  · simp [hNotSent]

theorem requestHandshake_asks (host : Host σ) (k : LinkId) (c : Connection (Recorded σ)) :
    Asks host k c (requestHandshake host.recorded (host.recorded.link k) c) := by
  by_cases hDue : c.requestDue host.recorded = true
  case neg => exact requestHandshake_idle host k (by simpa using hDue)
  have hFrame : c.requested host.recorded = c.session.handshakeFrame := if_pos hDue
  have hNotIdle : c.requestDue host.recorded ≠ false := by simp [hDue]
  have hTransport : ∀ f d,
      Breaks (.error (.transport f) d : EStateM.Result ServeError (Connection (Recorded σ)) Unit) :=
    fun f d => breaks_error_iff.mpr fun _ h => by cases h
  obtain ⟨pieces, hCarries, -, hTaken⟩ :=
    Recorded.writeAll_pieces host k c.session.handshakeFrame c.world
  have hWrote := hCarries.wrote
  have hSpeaks :=
    Sink.writeAll_moves (Recorded.speaks_durable k) (Recorded.link_write_speaks host k)
      c.session.handshakeFrame c.world
  rw [requestHandshake_due hDue]
  -- The link may fail in the frame or in the flush after it. Only a flushed frame is counted.
  cases hWrite : (Recorded.link host k).writeAll c.session.handshakeFrame c.world with
  | error f w =>
    have hWrite' : (host.recorded.link k).writeAll c.session.handshakeFrame c.world = .error f w :=
      hWrite
    rw [hWrite] at hWrote hTaken hSpeaks
    have hNotSent : c.requestSent host.recorded k = false := by
      simp only [requestSent, hWrite', Bool.and_false]
    simp only [hWrite']
    exact ⟨⟨pieces, hWrote, Or.inr ⟨hFrame ▸ hTaken, hTransport _ _⟩⟩, hSpeaks,
      fun h => absurd h hNotIdle,
      fun _ _ _ => hTransport _ _, ⟨rfl, rfl⟩, by simp [hNotSent]⟩
  | ok u w =>
    have hWrite' : (host.recorded.link k).writeAll c.session.handshakeFrame c.world = .ok () w :=
      hWrite
    have hFlushWrote := (Recorded.link_flush_carries host k w).1.wrote
    have hFlushSpeaks := Recorded.link_flush_speaks host k w
    rw [hWrite] at hWrote hTaken hSpeaks
    have hAllWrote := hWrote.trans hFlushWrote
    have hAllSpeaks := (Recorded.speaks_durable k).trans hSpeaks hFlushSpeaks
    rw [List.append_nil] at hAllWrote
    simp only [hWrite']
    cases hFlush : (Recorded.link host k).flush w with
    | error f v =>
      have hFlush' : (host.recorded.link k).flush w = .error f v := hFlush
      rw [hFlush] at hAllWrote hAllSpeaks
      have hNotSent : c.requestSent host.recorded k = false := by
        simp only [requestSent, hWrite', hFlush', Bool.and_false]
      simp only [hFlush']
      exact ⟨⟨pieces, hAllWrote, Or.inl (hFrame ▸ hTaken)⟩, hAllSpeaks, fun h => absurd h hNotIdle,
        fun _ _ _ => hTransport _ _, ⟨rfl, rfl⟩, by simp [hNotSent]⟩
    | ok u v =>
      have hFlush' : (host.recorded.link k).flush w = .ok () v := hFlush
      rw [hFlush] at hAllWrote hAllSpeaks
      have hSent : c.requestSent host.recorded k = true := by
        simp only [requestSent, hWrite', hFlush', Bool.and_true, hDue]
      simp only [hFlush']
      refine ⟨⟨pieces, hAllWrote, Or.inl (hFrame ▸ hTaken)⟩, hAllSpeaks, fun h => absurd h hNotIdle,
        (fun _ _ h => by cases h), ⟨rfl, rfl⟩, ?_⟩
      rw [hSent]
      rfl

/-! ## One tick -/

theorem pollBytes_hears (host : Host σ) (k : LinkId) (started n : Nat)
    (c : Connection (Recorded σ)) :
    Hears host k (hearings host.recorded k started n c) c
      (pollBytes host.recorded (host.recorded.link k) started n c) := by
  induction n generalizing c with
  | zero => exact hears_nothing (Recorded.Wrote.refl k c.world) rfl
  | succ n ih =>
    have hPolled := pollByte_hears host k c
    unfold pollBytes hearings
    cases hPoll : pollByte (host.recorded.link k) c with
    | error e d =>
      rw [hPoll] at hPolled
      rw [bind_error hPoll]
      exact hPolled.fails
    | ok polled d =>
      rw [hPoll] at hPolled
      rw [bind_ok hPoll]
      cases polled with
      | none =>
        have hEnd : Hears host k [] d (.ok () d : EStateM.Result ServeError _ Unit) :=
          hears_nothing (Recorded.Wrote.refl k d.world) rfl
        exact hPolled.append hEnd
      | some b =>
        have hHandled := handleByte_hears host k b d
        simp only
        cases hHandle : handleByte host.recorded (host.recorded.link k) b d with
        | error e u =>
          rw [hHandle] at hHandled
          rw [bind_error hHandle]
          exact hPolled.append hHandled
        | ok v u =>
          rw [hHandle] at hHandled
          rw [bind_ok hHandle, bind_ok (get_run u)]
          simp only
          split
          · exact hPolled.append hHandled
          · exact (hPolled.append hHandled).append (ih u)

theorem flush_hears (host : Host σ) (k : LinkId) (c : Connection (Recorded σ)) :
    Hears host k [] c (serve (Serve.onSink host.recorded.sink.flush) c) := by
  have hWrote : Recorded.Wrote k [] c.world (endState (host.recorded.sink.flush c.world)) :=
    Recorded.sink_flush_wrote host k c.world
  unfold serve Serve.onSink Serve.onWorld
  cases hFlush : host.recorded.sink.flush c.world with
  | ok u w =>
    rw [hFlush] at hWrote
    exact hears_nothing hWrote rfl
  | error f w =>
    rw [hFlush] at hWrote
    exact hears_nothing hWrote rfl

/-- A tick fails with its request for a handshake, or the rest of it is what it hears. -/
theorem poll_hears (host : Host σ) (k : LinkId) (c : Connection (Recorded σ)) :
    match requestHandshake host.recorded (host.recorded.link k) c with
    | .error e d =>
      poll host.recorded (host.recorded.link k) c = .error e d ∧ heard host.recorded k c = []
    | .ok () d =>
      Hears host k (heard host.recorded k c) d (poll host.recorded (host.recorded.link k) c) := by
  unfold poll heard
  cases hRequest : requestHandshake host.recorded (host.recorded.link k) c with
  | error e d =>
    rw [bind_error hRequest]
    exact ⟨rfl, rfl⟩
  | ok u d =>
    rw [bind_ok hRequest, bind_ok (get_run d)]
    have hHears := pollBytes_hears host k (host.recorded.clock d.world) maxTickBytes d
    simp only
    cases hRun : pollBytes host.recorded (host.recorded.link k)
      (host.recorded.clock d.world) maxTickBytes d with
    | error e v =>
      rw [hRun] at hHears
      rw [bind_error hRun]
      exact hHears
    | ok u v =>
      rw [hRun] at hHears
      rw [bind_ok hRun]
      have hAll := hHears.append (flush_hears host k v)
      rw [List.append_nil] at hAll
      exact hAll

end MemoryBridge.Connection
