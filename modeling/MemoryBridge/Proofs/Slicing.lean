import MemoryBridge.Connection.Motion
import MemoryBridge.Proofs.Message

/-!
# Ticks and pumps

A tick polls a bounded number of bytes and stops early when its time is over, so a burst of the
device is cut into ticks at arbitrary places, also between the two bytes of a frame. `ticks_pump`
says that the cuts cannot be seen: ticks on a link that delivers come to the same as one pump of
everything that is pending. Bytes that a command reads for its payload do not count for a tick.

Excluded are handshake requests: a tick that sends one sends more than the pump.
`noRequest_of_heard` says that none is sent on a link on which the device has sent a command.
Nothing is assumed of the clock, and nothing of the stop flag, which only cuts ticks.
-/

namespace MemoryBridge

/-! ## Pumps over the plain link -/

namespace Channel

open Session

variable {ending : Ending}

/-- A pump may be taken up after any number of bytes. -/
theorem pump_resume {n : Nat} {st st' : Serving Channel} {handled : List Handled}
    (h : pumpFor (supply ending) n st = .ok handled st') :
    (pump (supply ending) st).error = (pump (supply ending) st').error ∧
      (pump (supply ending) st).serving = (pump (supply ending) st').serving := by
  induction n generalizing st handled with
  | zero =>
    cases h
    exact ⟨rfl, rfl⟩
  | succ n ih =>
    obtain ⟨first, mid, rest, hFirst, hRest, rfl⟩ := pumpFor_succ_ok h
    have hMore : (supply ending).more st.world = true := by
      obtain ⟨s, ch⟩ := st
      cases hIn : ch.incoming with
      | nil =>
        rw [pumpByte_nil s hIn] at hFirst
        cases hFirst
      | cons b bs => exact supply_more hIn
    rw [pump_of_ok hMore hFirst]
    exact ih hRest

/-- A byte that cannot be handled ends the pump. -/
theorem pump_fails {n : Nat} {st mid st' : Serving Channel} {handled : List Handled}
    {e : ServeError} (h : pumpFor (supply ending) n st = .ok handled mid)
    (hMore : mid.world.incoming ≠ []) (hFails : pumpByte (supply ending) mid = .error e st') :
    (pump (supply ending) st).error = some e ∧ (pump (supply ending) st).serving = st' := by
  have hMore' : (supply ending).more mid.world = true := by
    obtain ⟨b, bs, hIn⟩ := List.exists_cons_of_ne_nil hMore
    exact supply_more hIn
  obtain ⟨hError, hServing⟩ := pump_resume h
  rw [hError, hServing, pump_of_error hMore' hFails]
  exact ⟨rfl, rfl⟩

/-- Over the plain link nothing fails at the sink. -/
theorem pumpByte_fails : FailsOnly NotAtSink (pumpByte (supply ending)) := by
  have hPass : ∀ bs, FailsOnly NotAtSink (Serve.onSink (sink.writeAll bs)) := by
    rintro bs ⟨s, ch⟩ e t h
    rw [pass_run] at h
    cases h
  refine FailsOnly.bind (onLink_fails _) fun bs => ?_
  split
  · refine FailsOnly.bind session_fails fun s => FailsOnly.bind (update_fails _) fun _ => ?_
    split
    · exact FailsOnly.bind (hPass _) fun _ => FailsOnly.bind (update_fails _) fun _ =>
        FailsOnly.pure _
    · exact FailsOnly.pure _
    · exact FailsOnly.bind (dispatch_fails _ _) fun _ => FailsOnly.pure _
  · exact FailsOnly.throw fun f hf => by cases hf

end Channel

/-- The link `id` hands over what the device has sent without a fault, and then says at once that
nothing is pending. The sink has no faults. -/
structure Delivers {σ : Type} (host : Host σ) (id : LinkId) (ending : Ending)
    (Shows : σ → Channel → Prop) : Prop where
  faultless : Faultless (host.link id) host.sink ending Shows
  silent : ∃ fault lasting, ending = .silent fault lasting ∧ fault.isIdle = true
  uninterrupted : ∀ {s ch f t}, Shows s ch → (host.link id).read 1 s = .error f t →
    f.kind ≠ .interrupted

theorem World.delivers (stopsAt : LinkId → Bool) (id : LinkId) :
    Delivers (World.host stopsAt) id World.silence (World.Plays · id) where
  faultless := World.faultless (stopsAt id) id
  silent := ⟨MemoryLink.noData, _, rfl, rfl⟩
  uninterrupted := fun h hRead => h.not_interrupted (by omega) hRead

namespace Connection

open Session

variable {σ : Type} {host : Host σ} {id : LinkId} {ending : Ending} {Shows : σ → Channel → Prop}

/-! ## One byte -/

/-- A poll finds the next byte, or finds that there is none. -/
theorem pollByte_cases (h : Delivers host id ending Shows) {c : Connection σ} {ch : Channel}
    (hShows : Shows c.world ch) :
    (ch.incoming = [] ∧
      ∃ w, pollByte (host.link id) c = .ok none { c with world := w } ∧ Shows w ch) ∨
      ∃ b rest w, ch.incoming = b :: rest ∧
        pollByte (host.link id) c = .ok (some b) { c with world := w } ∧
        Shows w { ch with incoming := rest } := by
  obtain ⟨fault, lasting, hSilent, hIdle⟩ := h.silent
  unfold pollByte
  cases hRead : (host.link id).read 1 c.world with
  | ok bs w =>
    obtain ⟨rest, hIn, hAfter, hEnd⟩ := h.faultless.read_ok hShows (by omega) hRead
    have hLength := (host.link id).read_length_le hRead
    cases bs with
    | nil =>
      obtain ⟨-, hClosed⟩ := hEnd rfl
      cases hSilent.symm.trans hClosed
    | cons b more =>
      have hMore : more = [] := List.length_eq_zero_iff.mp (by simpa using hLength)
      subst hMore
      exact Or.inr ⟨b, rest, w, hIn, rfl, hAfter⟩
  | error f w =>
    obtain ⟨hAfter, hInterrupted | ⟨hIn, hLasting, hEnd⟩⟩ :=
      h.faultless.read_error hShows (by omega) hRead
    · exact absurd hInterrupted (h.uninterrupted hShows hRead)
    · cases hSilent.symm.trans hEnd
      exact Or.inl ⟨hIn, w, by simp only [hIdle, if_true], hAfter⟩

/-- Handling the byte that was polled is pumping one byte. -/
theorem handleByte_pumps (h : Delivers host id ending Shows) {c : Connection σ} {s : Session}
    {ch : Channel} {b : UInt8} {rest : Bytes} (hIn : ch.incoming = b :: rest)
    (hSession : c.session = s) (hShows : Shows c.world { ch with incoming := rest }) :
    (∃ d handled st, handleByte host (host.link id) b c = .ok () d ∧
        pumpByte (Channel.supply ending) ⟨s, ch⟩ = .ok handled st ∧
        SameSession Shows d.toServing st) ∨
      ∃ e u st, handleByte host (host.link id) b c = .error e u ∧
        pumpByte (Channel.supply ending) ⟨s, ch⟩ = .error e st ∧
        SameSession Shows u.toServing st := by
  have hSame : SameSession Shows c.toServing ⟨s, { ch with incoming := rest }⟩ := ⟨hSession, hShows⟩
  have hRuns := processByte_follows h.faultless.link_follows h.faultless.sink_follows b _ _ hSame
  rw [Channel.pumpByte_cons s hIn]
  unfold handleByte
  generalize hOther : processByte (Channel.link ending) Channel.sink b
    ⟨s, { ch with incoming := rest }⟩ = other at hRuns
  cases hRun : processByte (host.link id) host.sink b c.toServing with
  | ok handled st =>
    rw [hRun] at hRuns
    rw [bind_ok (serve_ok hRun)]
    cases hRuns with
    | ok hEnd =>
      refine Or.inl ?_
      split
      · exact ⟨_, _, _, rfl, rfl, hEnd⟩
      · exact ⟨_, _, _, rfl, rfl, hEnd⟩
  | error e st =>
    rw [hRun] at hRuns
    rw [bind_error (serve_error hRun)]
    cases hRuns with
    | error hEnd => exact Or.inr ⟨_, _, _, rfl, rfl, hEnd⟩

/-! ## One tick -/

/-- Up to `n` bytes of a tick are pumped from the channel. They are fewer only if the channel is
used up, if the tick is over, or if a byte fails. -/
theorem pollBytes_pumps (h : Delivers host id ending Shows) (started n : Nat) {c : Connection σ}
    {st : Serving Channel} (hSame : SameSession Shows c.toServing st) :
    (∃ d m handled st', pollBytes host (host.link id) started n c = .ok () d ∧ m ≤ n ∧
        pumpFor (Channel.supply ending) m st = .ok handled st' ∧
        SameSession Shows d.toServing st' ∧
        (m = n ∨ st'.world.incoming = [] ∨ 0 < m ∧ d.tickOver host started = true)) ∨
      ∃ e u m handled mid st', pollBytes host (host.link id) started n c = .error e u ∧ m < n ∧
        pumpFor (Channel.supply ending) m st = .ok handled mid ∧ mid.world.incoming ≠ [] ∧
        pumpByte (Channel.supply ending) mid = .error e st' ∧
        SameSession Shows u.toServing st' := by
  induction n generalizing c st with
  | zero => exact Or.inl ⟨c, 0, [], st, rfl, Nat.le_refl _, rfl, hSame, Or.inl rfl⟩
  | succ n ih =>
    unfold pollBytes
    rcases pollByte_cases h hSame.2 with ⟨hIn, w, hPoll, hShows⟩ | ⟨b, rest, w, hIn, hPoll, hShows⟩
    · rw [bind_ok hPoll]
      exact Or.inl ⟨_, 0, [], st, rfl, Nat.zero_le _, rfl, ⟨hSame.1, hShows⟩, Or.inr (Or.inl hIn)⟩
    · rw [bind_ok hPoll]
      simp only
      rcases handleByte_pumps h (c := { c with world := w }) hIn hSame.1 hShows with
        ⟨d, handled, st₁, hRun, hPump, hNext⟩ | ⟨e, u, st₁, hRun, hPump, hNext⟩
      · rw [bind_ok hRun, bind_ok (get_run d)]
        by_cases hOver : d.tickOver host started = true
        · rw [if_pos hOver]
          exact Or.inl ⟨d, 1, [handled], st₁, rfl, by omega, pumpFor_succ hPump rfl, hNext,
            Or.inr (Or.inr ⟨by omega, hOver⟩)⟩
        · rw [if_neg hOver]
          rcases ih hNext with ⟨d', m, later, st', hRest, hm, hLater, hEnd, hCut⟩ |
            ⟨e, u, m, later, mid, st', hRest, hm, hLater, hMore, hFails, hEnd⟩
          · refine Or.inl ⟨d', m + 1, handled :: later, st', hRest,
              by omega, pumpFor_succ hPump hLater, hEnd, ?_⟩
            rcases hCut with hAll | hDrained | ⟨hSome, hCut⟩
            · exact Or.inl (by omega)
            · exact Or.inr (Or.inl hDrained)
            · exact Or.inr (Or.inr ⟨by omega, hCut⟩)
          · exact Or.inr ⟨e, u, m + 1, handled :: later, mid, st', hRest,
              by omega, pumpFor_succ hPump hLater,
              hMore, hFails, hEnd⟩
      · rw [bind_error hRun]
        refine Or.inr ⟨e, u, 0, [], st, st₁, rfl, by omega, rfl, ?_, hPump, hNext⟩
        rw [hIn]
        exact List.cons_ne_nil b rest

/-- A tick from `c` to `d` has pumped `m` bytes of the channel and flushed the sink: as
many as a tick may pump, or all there were, or at least one before its time was over or the
world was stopped. -/
structure Slice (host : Host σ) (ending : Ending) (Shows : σ → Channel → Prop)
    (c d : Connection σ) (m : Nat) (st st' : Serving Channel) : Prop where
  bounded : m ≤ maxTickBytes
  pumped : ∃ handled, pumpFor (Channel.supply ending) m st = .ok handled st'
  same : SameSession Shows d.toServing st'
  cut : m = maxTickBytes ∨ st'.world.incoming = [] ∨ 0 < m ∧ ∃ mid : Connection σ,
    mid.tickOver host (host.clock c.world) = true ∧
      serve (Serve.onSink host.sink.flush) mid = .ok () d

/-- A tick on a channel that is not used up takes something. -/
theorem Slice.spends {c d : Connection σ} {m : Nat} {st st' : Serving Channel}
    (h : Slice host ending Shows c d m st st') (hMore : st.world.incoming ≠ []) :
    st'.world.incoming.length < st.world.incoming.length := by
  obtain ⟨handled, hPump⟩ := h.pumped
  have hSpent : st'.world.incoming.length + m ≤ st.world.incoming.length := pumpFor_spends hPump
  have hPositive : 0 < st.world.incoming.length := List.length_pos_iff.mpr hMore
  rcases h.cut with hAll | hDrained | ⟨hSome, -⟩
  · unfold maxTickBytes at hAll
    omega
  · rw [hDrained]
    exact hPositive
  · omega

/-- A tick that has pumped `m` bytes of the channel and has failed at the next one, at `u`. -/
structure Break (ending : Ending) (Shows : σ → Channel → Prop) (u : Connection σ)
    (e : ServeError) (m : Nat) (st st' : Serving Channel) : Prop where
  bounded : m < maxTickBytes
  pumped : ∃ handled mid, pumpFor (Channel.supply ending) m st = .ok handled mid ∧
    mid.world.incoming ≠ [] ∧ pumpByte (Channel.supply ending) mid = .error e st'
  same : SameSession Shows u.toServing st'

/-- One tick that asks for no handshake is a slice of the pump, or breaks where the pump does. -/
theorem poll_pumps (h : Delivers host id ending Shows) {c : Connection σ} {st : Serving Channel}
    (hDue : c.requestDue host = false) (hSame : SameSession Shows c.toServing st) :
    (∃ d m st', poll host (host.link id) c = .ok () d ∧ Slice host ending Shows c d m st st') ∨
      ∃ e u m st', poll host (host.link id) c = .error e u ∧ Break ending Shows u e m st st' := by
  have hRequest : requestHandshake host (host.link id) c = .ok () c := by
    unfold requestHandshake
    rw [bind_ok (get_run c), if_neg (by simp [hDue])]
    rfl
  unfold poll
  rw [bind_ok hRequest, bind_ok (get_run c)]
  rcases pollBytes_pumps h (host.clock c.world) maxTickBytes hSame with
    ⟨mid, m, handled, st', hRun, hm, hPump, hEnd, hCut⟩ | ⟨e, u, m, handled, mid, st', hRun, hm,
      hPump, hMore, hFails, hEnd⟩
  · rw [bind_ok hRun]
    obtain ⟨w, hFlush, hShows⟩ := h.faultless.flush_sink hEnd.2
    have hServe : serve (Serve.onSink host.sink.flush) mid = .ok () { mid with world := w } := by
      simp only [serve, Serve.onSink, Serve.onWorld, hFlush]
    refine Or.inl ⟨_, m, st', hServe, hm, ⟨handled, hPump⟩, ⟨hEnd.1, hShows⟩, ?_⟩
    rcases hCut with hAll | hDrained | ⟨hSome, hOver⟩
    · exact Or.inl hAll
    · exact Or.inr (Or.inl hDrained)
    · exact Or.inr (Or.inr ⟨hSome, mid, hOver, hServe⟩)
  · rw [bind_error hRun]
    exact Or.inr ⟨e, u, m, st', rfl, hm, ⟨handled, mid, hPump, hMore, hFails⟩, hEnd⟩

theorem update_pumps (h : Delivers host id ending Shows) {c : Connection σ} {st : Serving Channel}
    (hHeld : c.link = some id) (hDue : c.requestDue host = false)
    (hSame : SameSession Shows c.toServing st) :
    (∃ d m st', update host c = .ok () d ∧ Stays c d ∧ Slice host ending Shows c d m st st') ∨
      ∃ e u m st', poll host (host.link id) c = .error e u ∧ update host c = reconnect host u ∧
        Stays c u ∧
        Break ending Shows u e m st st' := by
  have hStays := poll_stays host (host.link id) c
  unfold update
  simp only [hHeld]
  rcases poll_pumps h hDue hSame with ⟨d, m, st', hRun, hSlice⟩ | ⟨e, u, m, st', hRun, hBreak⟩
  · rw [hRun] at hStays ⊢
    exact Or.inl ⟨d, m, st', rfl, hStays, hSlice⟩
  · rw [hRun] at hStays ⊢
    obtain ⟨handled, mid, -, -, hFails⟩ := hBreak.pumped
    have hNotSink := Channel.pumpByte_fails _ _ _ hFails
    refine Or.inr ⟨e, u, m, st', rfl, ?_, hStays, hBreak⟩
    cases e with
    | sink f => exact absurd rfl (hNotSink f)
    | _ => rfl

/-! ## Many ticks -/

/-- Some ticks, one after the other. -/
def ticks (host : Host σ) : Nat → EStateM TickError (Connection σ) Unit
  | 0 => pure ()
  | n + 1 => do
    update host
    ticks host n

theorem ticks_succ {c d : Connection σ} (h : update host c = .ok () d) (n : Nat) :
    ticks host (n + 1) c = ticks host n d :=
  bind_ok h

theorem ticks_reconnects {n : Nat} {c d : Connection σ} (h : ticks host n c = .ok () d) :
    c.reconnects ≤ d.reconnects := by
  induction n generalizing c with
  | zero =>
    cases h
    exact Nat.le_refl _
  | succ n ih =>
    obtain ⟨_, mid, hFirst, hRest⟩ := of_bind_ok h
    have hCount := update_reconnects host c
    rw [hFirst] at hCount
    exact Nat.le_trans hCount (ih hRest)

/-- No handshake is asked for by any of the ticks that come before the next reconnect. -/
def NoRequest (host : Host σ) (c : Connection σ) : Prop :=
  ∀ n d, ticks host n c = .ok () d → d.reconnects = c.reconnects → d.requestDue host = false

theorem NoRequest.now {c : Connection σ} (h : NoRequest host c) : c.requestDue host = false :=
  h 0 c rfl rfl

theorem NoRequest.next {c d : Connection σ} (h : NoRequest host c)
    (hTick : update host c = .ok () d) (hCount : d.reconnects = c.reconnects) :
    NoRequest host d := by
  intro n d' hTicks hCount'
  apply h (n + 1) d'
  · rw [ticks_succ hTick]
    exact hTicks
  · exact hCount'.trans hCount

/-- Once the device has sent a command, no handshake is asked for on this link. -/
theorem noRequest_of_heard {c : Connection σ} (hHeld : c.link = some id)
    (hHeard : c.requesting = false) : NoRequest host c := by
  intro n d hTicks hCount
  induction n generalizing c with
  | zero =>
    cases hTicks
    simp [requestDue, hHeard]
  | succ n ih =>
    obtain ⟨_, mid, hFirst, hRest⟩ := of_bind_ok hTicks
    have hStays := poll_stays host (host.link id) c
    have hStill := poll_requesting host (host.link id) c hHeard
    have hMonotone := ticks_reconnects hRest
    have hReconnect : ∀ u, Stays c u → reconnect host u ≠ .ok () mid := by
      intro u hSame hRun
      have hMore := reconnect_reconnects host u
      rw [hRun, hSame.2] at hMore
      simp only [endState_ok] at hMore
      omega
    unfold update at hFirst
    simp only [hHeld] at hFirst
    cases hPoll : poll host (host.link id) c with
    | ok _ d' =>
      rw [hPoll] at hStays hStill hFirst
      cases hFirst
      exact ih (hStays.1.trans hHeld) hStill hRest (hCount.trans hStays.2.symm)
    | error e u =>
      rw [hPoll] at hStays hFirst
      cases e with
      | sink f => cases hFirst
      | _ => exact absurd hFirst (hReconnect u hStays)

/-- After any number of ticks without a reconnect, the connection stands where some number of bytes
of the pump leads. -/
theorem ticks_pumped (h : Delivers host id ending Shows) {c : Connection σ} {st : Serving Channel}
    (hHeld : c.link = some id) (hQuiet : NoRequest host c)
    (hSame : SameSession Shows c.toServing st) {n : Nat} {d : Connection σ}
    (hTicks : ticks host n c = .ok () d) (hCount : d.reconnects = c.reconnects) :
    d.link = some id ∧ NoRequest host d ∧ ∃ m handled st',
      pumpFor (Channel.supply ending) m st = .ok handled st' ∧
        SameSession Shows d.toServing st' := by
  induction n generalizing c st with
  | zero =>
    cases hTicks
    exact ⟨hHeld, hQuiet, 0, [], st, rfl, hSame⟩
  | succ n ih =>
    obtain ⟨_, mid, hFirst, hRest⟩ := of_bind_ok hTicks
    rcases update_pumps h hHeld hQuiet.now hSame with
      ⟨d', m, st', hRun, hStays, hSlice⟩ | ⟨e, u, m, st', -, hRun, hStays, -⟩
    · cases hRun.symm.trans hFirst
      obtain ⟨handled, hPump⟩ := hSlice.pumped
      obtain ⟨hLink, hNext, m', later, st'', hLater, hEnd⟩ := ih (hStays.1.trans hHeld)
        (hQuiet.next hFirst hStays.2) hSlice.same hRest (hCount.trans hStays.2.symm)
      exact ⟨hLink, hNext, m + m', handled ++ later, st'', pumpFor_add hPump hLater, hEnd⟩
    · -- After a reconnect the count is too high.
      have hMore := reconnect_reconnects host u
      rw [← hRun, hFirst, hStays.2] at hMore
      have hLater := ticks_reconnects hRest
      simp only [endState_ok] at hMore
      omega

/-- Enough ticks come to where the pump ends: its channel is used up, or the tick fails at the byte
at which the pump fails. -/
theorem ticks_end (h : Delivers host id ending Shows) {c : Connection σ} {st : Serving Channel}
    (hHeld : c.link = some id) (hQuiet : NoRequest host c)
    (hSame : SameSession Shows c.toServing st) :
    ((pump (Channel.supply ending) st).error = none →
      ∃ n ≤ st.world.incoming.length, ∃ d, ticks host n c = .ok () d ∧ Stays c d ∧
        (pump (Channel.supply ending) st).serving.world.incoming = [] ∧
        SameSession Shows d.toServing (pump (Channel.supply ending) st).serving) ∧
    ∀ e, (pump (Channel.supply ending) st).error = some e →
      ∃ n < st.world.incoming.length, ∃ d u, ticks host n c = .ok () d ∧ Stays c d ∧
        poll host (host.link id) d = .error e u ∧ update host d = reconnect host u ∧
        SameSession Shows u.toServing (pump (Channel.supply ending) st).serving := by
  -- Every tick takes at least one byte, so on the number of bytes that are pending.
  generalize hLength : st.world.incoming.length = length
  induction length using Nat.strongRecOn generalizing c st with
  | ind length ih =>
    by_cases hIn : st.world.incoming = []
    · rw [pump_of_drained (Channel.supply_drained hIn)]
      exact ⟨fun _ => ⟨0, Nat.zero_le _, c, rfl, stays_durable.refl c, hIn, hSame⟩,
        fun e he => by cases he⟩
    · rcases update_pumps h hHeld hQuiet.now hSame with
        ⟨d, m, st', hRun, hStays, hSlice⟩ | ⟨e, u, m, st', hPoll, hRun, hStays, hBreak⟩
      · obtain ⟨handled, hPump⟩ := hSlice.pumped
        have hShorter : st'.world.incoming.length < length := hLength ▸ hSlice.spends hIn
        obtain ⟨hError, hServing⟩ := Channel.pump_resume hPump
        obtain ⟨hDone, hFails⟩ :=
          ih _ hShorter (hStays.1.trans hHeld) (hQuiet.next hRun hStays.2) hSlice.same rfl
        rw [hError, hServing]
        refine ⟨fun hNone => ?_, fun e hSome => ?_⟩
        · obtain ⟨n, hn, d', hLater, hStays', hEnd⟩ := hDone hNone
          exact ⟨n + 1, by omega, d', (ticks_succ hRun
              n).trans hLater, stays_durable.trans hStays hStays', hEnd⟩
        · obtain ⟨n, hn, d', u, hLater, hStays', hEnd⟩ := hFails e hSome
          exact ⟨n + 1, by omega, d', u, (ticks_succ hRun
              n).trans hLater, stays_durable.trans hStays hStays', hEnd⟩
      · obtain ⟨handled, mid, hPump, hMore, hFails⟩ := hBreak.pumped
        obtain ⟨hError, hServing⟩ := Channel.pump_fails hPump hMore hFails
        rw [hError, hServing]
        refine ⟨fun hNone => (by cases hNone), fun e' hSome => ?_⟩
        cases hSome
        have hPositive : 0 < length := hLength ▸ List.length_pos_iff.mpr hIn
        exact ⟨0, hPositive, c, u, rfl, stays_durable.refl c, hPoll, hRun, hBreak.same⟩

/-- Cutting a stream into ticks is invisible. Let a link deliver its bytes, and let no handshake be
asked for. Then, wherever the ticks are cut:

* After any number of them the connection stands where some number of bytes of one pump of the
  channel leads: same session, same bytes passed through, sent and left. The next tick is a slice of
  that pump, or breaks where the pump does.
* If the pump has no error, enough ticks end where the pump ends.
* If the pump fails, some tick fails at the same byte with the same error, and it reconnects from
  the state that the pump has left.
-/
theorem ticks_pump (h : Delivers host id ending Shows) {c : Connection σ} {ch : Channel}
    (hHeld : c.link = some id) (hShows : Shows c.world ch) (hQuiet : NoRequest host c) :
    let supply := Channel.supply ending
    let whole := pump supply ⟨c.session, ch⟩
    (∀ n d, ticks host n c = .ok () d → d.reconnects = c.reconnects → d.link = some id ∧
      ∃ m handled st, pumpFor supply m ⟨c.session, ch⟩ = .ok handled st ∧
        SameSession Shows d.toServing st ∧
        ((∃ d' k st', update host d = .ok () d' ∧ Stays d d' ∧
            Slice host ending Shows d d' k st st') ∨
          ∃ e u k st', poll host (host.link id) d = .error e u ∧ update host d = reconnect host u ∧
            Break ending Shows u e k st st')) ∧
    (whole.error = none → ∃ n ≤ ch.incoming.length, ∃ d, ticks host n c = .ok () d ∧ Stays c d ∧
      whole.serving.world.incoming = [] ∧ SameSession Shows d.toServing whole.serving) ∧
    (∀ e, whole.error = some e →
      ∃ n < ch.incoming.length, ∃ d u, ticks host n c = .ok () d ∧ Stays c d ∧
      poll host (host.link id) d = .error e u ∧ update host d = reconnect host u ∧
      SameSession Shows u.toServing whole.serving) := by
  intro supply whole
  have hSame : SameSession Shows c.toServing ⟨c.session, ch⟩ := ⟨rfl, hShows⟩
  obtain ⟨hDone, hFails⟩ := ticks_end h hHeld hQuiet hSame
  refine ⟨fun n d hTicks hCount => ?_, hDone, hFails⟩
  obtain ⟨hLink, hNext, m, handled, st, hPump, hEnd⟩ :=
    ticks_pumped h hHeld hQuiet hSame hTicks hCount
  refine ⟨hLink, m, handled, st, hPump, hEnd, ?_⟩
  rcases update_pumps h hLink hNext.now hEnd with hSlice | ⟨e, u, k, st', hPoll, hRun, -, hBreak⟩
  · exact Or.inl hSlice
  · exact Or.inr ⟨e, u, k, st', hPoll, hRun, hBreak⟩

/-- Some output and a ping. -/
def burst (count : Nat) : List (Message 0xFF) :=
  List.replicate count (.output 0x41 (by decide)) ++ [.request .ping]

/-- A connection with a burst to poll. -/
def burstConnection (count : Nat) : Connection World where
  session := { config := {} }
  world := { lines := [{ arrivals := [.data ((burst count).flatMap Message.encode)] }] }
  timing := ⟨0, 0, 0⟩
  link := some 0
  phase := .initialized

/-- A burst that fills the first tick up to the first byte of a frame. -/
theorem ticks_pump_across_frame :
    ∃ n d, ticks (World.host fun _ => false) n (burstConnection 4095) = .ok () d ∧
      d.session = (burstConnection 4095).session.hearAll (burst 4095) ∧
      d.world.Plays 0
        ⟨[], (burstConnection 4095).session.replies (burst 4095),
          (burst 4095).flatMap Message.shown⟩ := by
  -- For every count, so that no step has to evaluate this one.
  suffices key : ∀ count,
      ∃ n d, ticks (World.host fun _ => false) n (burstConnection count) = .ok () d ∧
      d.session = (burstConnection count).session.hearAll (burst count) ∧
      d.world.Plays 0
        ⟨[], (burstConnection count).session.replies (burst count),
          (burst count).flatMap Message.shown⟩ from key 4095
  intro count
  have hAdm : (burstConnection count).session.AdmitsAll (burst count) := by
    unfold burst
    generalize (burstConnection count).session = s
    induction count generalizing s with
    | zero => exact ⟨trivial, trivial⟩
    | succ count ih => exact ih _
  have hSome : (burst count).flatMap Message.encode ≠ [] := by
    unfold burst
    rw [List.flatMap_append]
    exact List.append_ne_nil_of_right_ne_nil _ (by decide)
  have hPlain : pump (Channel.supply World.silence)
      ⟨(burstConnection count).session, { incoming := (burst count).flatMap Message.encode }⟩ = _ :=
    pump_plain (burst count) rfl rfl hAdm {}
  obtain ⟨-, hDone, -⟩ :=
    ticks_pump (World.delivers (fun _ => false) 0) (c := burstConnection count) rfl
      (World.plays_data hSome) (noRequest_of_heard rfl rfl)
  obtain ⟨n, -, d, hTicks, -, -, hSession, hShows⟩ := hDone (by rw [hPlain])
  rw [hPlain] at hSession hShows
  exact ⟨n, d, hTicks, hSession, hShows⟩

end Connection

end MemoryBridge
