import MemoryBridge.Proofs.Watching
import MemoryBridge.Signals

/-!
# Stopping

A stop ends a poll loop promptly and cleanly, whatever deed it falls into: an opening, a poll, the
payload of a command, the settling of a new link, a look into the input channel. `stops_promptly`
says so of every loop and of every run that connects first, on every host.

The log of a watched host tells what was begun after the stop. `Prompt` collects what is true of it:
no opening is begun any more, at most one look into the input channel is done, and a link that was
not used before is not used any more. The hearings of the ticks tell which bytes were handled: a
byte after which the world is stopped is the last one.
-/

namespace MemoryBridge

variable {σ : Type}

/-! ## Logs of loops that stop promptly -/

/-- While the world ran the link `k` was used, and no opening came after that. -/
def UsedBefore (k : LinkId) (stamps : List Stamp) : Prop :=
  ∃ before x between, stamps = before ++ x :: between ∧ x.deed.use? = some k ∧ x.begun = false ∧
    ∀ y ∈ between, y.deed.isOpening = false

/-- What a stop leaves to be done, wherever in the log it falls. -/
structure Prompt (stamps : List Stamp) : Prop where
  /-- A stop is not taken back. -/
  lasts : ∀ front x rest, stamps = front ++ x :: rest → x.done = true →
    ∀ y ∈ rest, y.begun = true ∧ y.done = true
  /-- No opening is begun after it. -/
  opens : ∀ x ∈ stamps, x.deed.isOpening = true → x.begun = false
  /-- At most one look into the input channel is done after it. -/
  looks : stamps.countP (fun x => x.deed.isLook && x.done) ≤ 1
  /-- A link that is used after it was used before, since it was opened. -/
  uses : ∀ front x rest k, stamps = front ++ x :: rest → x.deed.use? = some k → x.begun = true →
    UsedBefore k front

/-- An entry of a list of two parts is in one of them. -/
theorem split_append {α : Type} {first second front rest : List α} {x : α}
    (h : first ++ second = front ++ x :: rest) :
    (∃ mid, first = front ++ x :: mid ∧ rest = mid ++ second) ∨
      ∃ mid, front = first ++ mid ∧ second = mid ++ x :: rest := by
  rcases List.append_eq_append_iff.mp h with ⟨mid, hFront, hSecond⟩ | ⟨mid, hFirst, hRest⟩
  · exact Or.inr ⟨mid, hFront, hSecond⟩
  · cases mid with
    | nil =>
      rw [List.append_nil] at hFirst
      exact Or.inr ⟨[], by rw [hFirst, List.append_nil], hRest.symm⟩
    | cons y mid =>
      obtain ⟨rfl, rfl⟩ := List.cons.inj hRest
      exact Or.inl ⟨mid, hFirst, rfl⟩

theorem prompt_nil : Prompt [] where
  lasts front x rest h := by simp at h
  opens := by simp
  looks := Nat.zero_le 1
  uses front x rest k h := by simp at h

/-- What is done before the stop does not matter. -/
theorem Prompt.after_running {early late : List Stamp} (h : Prompt late)
    (hEarly : ∀ x ∈ early, x.begun = false ∧ x.done = false) : Prompt (early ++ late) where
  lasts front x rest hSplit hDone := by
    rcases split_append hSplit with ⟨mid, rfl, -⟩ | ⟨mid, -, hLate⟩
    · cases (hEarly x (by simp)).2.symm.trans hDone
    · exact h.lasts mid x rest hLate hDone
  opens x hx hOpens := by
    rcases List.mem_append.mp hx with hx | hx
    · exact (hEarly x hx).1
    · exact h.opens x hx hOpens
  looks := by
    have hNone : early.countP (fun x => x.deed.isLook && x.done) = 0 := by
      rw [List.countP_eq_zero]
      intro x hx
      simp [(hEarly x hx).2]
    rw [List.countP_append, hNone, Nat.zero_add]
    exact h.looks
  uses front x rest k hSplit hUse hBegun := by
    rcases split_append hSplit with ⟨mid, rfl, -⟩ | ⟨mid, rfl, hLate⟩
    · cases (hEarly x (by simp)).1.symm.trans hBegun
    · obtain ⟨before, y, between, rfl, hUsed⟩ := h.uses mid x rest k hLate hUse hBegun
      exact ⟨early ++ before, y, between, by rw [List.append_assoc], hUsed⟩

/-! ## One tick -/

/-- The stamps of a tick on a link. Its first deed uses the link. -/
def OneTick (stamps : List Stamp) : Prop :=
  ∃ k x rest, stamps = x :: rest ∧ x.deed.use? = some k ∧ ∀ y ∈ stamps, y.serves k = true

/-- What a loop does until it asks again whether the world is stopped: it polls, it connects, and
it looks for input. -/
structure Lap (polled connected looked : List Stamp) : Prop where
  polls : polled = [] ∨ OneTick polled
  connects : ∀ x ∈ connected, x.connects = true
  looks : looked = [] ∨ ∃ x, looked = [x] ∧ x.deed.isLook = true

section

variable {x : Stamp}

theorem Stamp.use?_of_connects (h : x.connects = true) : x.deed.use? = none := by
  unfold Stamp.connects at h
  cases hDeed : x.deed <;> simp [hDeed, Deed.use?] at h ⊢

theorem Stamp.isLook_of_connects (h : x.connects = true) : x.deed.isLook = false := by
  unfold Stamp.connects at h
  cases hDeed : x.deed <;> simp [hDeed, Deed.isLook] at h ⊢

theorem Stamp.begun_of_connects (h : x.connects = true) (hOpens : x.deed.isOpening = true) :
    x.begun = false := by
  unfold Stamp.connects at h
  cases hDeed : x.deed <;> simp [hDeed, Deed.isOpening] at h hOpens ⊢
  exact h

theorem Stamp.of_serves {k : LinkId} (h : x.serves k = true) :
    x.deed.isOpening = false ∧ x.deed.isLook = false ∧ ∀ j, x.deed.use? = some j → j = k := by
  unfold Stamp.serves at h
  cases hDeed : x.deed <;> simp [hDeed, Deed.serves, Deed.isOpening, Deed.isLook, Deed.use?] at h ⊢
  all_goals exact h

theorem Stamp.use?_of_look (h : x.deed.isLook = true) :
    x.deed.use? = none ∧ x.deed.isOpening = false := by
  cases hDeed : x.deed <;> simp [hDeed, Deed.isOpening, Deed.isLook, Deed.use?] at h ⊢

end

namespace Lap

variable {polled connected looked : List Stamp} {b b' : Bool}

/-- Only polling uses a link. -/
theorem unused (h : Lap polled connected looked) {x : Stamp} (hx : x ∈ connected ++ looked) :
    x.deed.use? = none := by
  rcases List.mem_append.mp hx with hx | hx
  · exact Stamp.use?_of_connects (h.connects x hx)
  · rcases h.looks with rfl | ⟨z, rfl, hLook⟩
    · cases hx
    · rw [List.mem_singleton.mp hx]
      exact (Stamp.use?_of_look hLook).1

/-- A lap is prompt if the world runs when it begins to poll. -/
theorem prompt (h : Lap polled connected looked)
    (hChain : Chain b (polled ++ (connected ++ looked)) b') (hRuns : polled = [] ∨ b = false) :
    Prompt (polled ++ (connected ++ looked)) where
  lasts front x rest hSplit hDone := by
    rw [hSplit] at hChain
    exact hChain.lasts hDone
  opens x hx hOpens := by
    rcases List.mem_append.mp hx with hx | hx
    · rcases h.polls with rfl | ⟨k, z, rest, -, -, hServes⟩
      · cases hx
      · cases (Stamp.of_serves (hServes x hx)).1.symm.trans hOpens
    rcases List.mem_append.mp hx with hx | hx
    · exact Stamp.begun_of_connects (h.connects x hx) hOpens
    · rcases h.looks with rfl | ⟨z, rfl, hLook⟩
      · cases hx
      · rw [List.mem_singleton.mp hx] at hOpens
        cases (Stamp.use?_of_look hLook).2.symm.trans hOpens
  looks := by
    have hPolled : polled.countP (fun x => x.deed.isLook && x.done) = 0 := by
      rw [List.countP_eq_zero]
      intro x hx
      rcases h.polls with rfl | ⟨k, z, rest, -, -, hServes⟩
      · cases hx
      · simp [(Stamp.of_serves (hServes x hx)).2.1]
    have hConnected : connected.countP (fun x => x.deed.isLook && x.done) = 0 := by
      rw [List.countP_eq_zero]
      intro x hx
      simp [Stamp.isLook_of_connects (h.connects x hx)]
    rw [List.countP_append, List.countP_append, hPolled, hConnected, Nat.zero_add, Nat.zero_add]
    rcases h.looks with rfl | ⟨z, rfl, -⟩
    · exact Nat.zero_le 1
    · exact List.countP_le_length
  uses front x rest k hSplit hUse hBegun := by
    rcases split_append hSplit with ⟨mid, hPolled, -⟩ | ⟨mid, -, hRest⟩
    case inr =>
      have hAfter : x ∈ connected ++ looked := by
        rw [hRest]
        simp
      cases (h.unused hAfter).symm.trans hUse
    rcases h.polls with rfl | ⟨j, z, later, rfl, hFirst, hServes⟩
    · simp at hPolled
    have hBegins : z.begun = false := by
      rcases hRuns with hNone | rfl
      · cases hNone
      rw [List.cons_append] at hChain
      cases hChain with
      | cons begins lasts rest => exact begins
    cases front with
    | nil =>
      obtain ⟨rfl, -⟩ := List.cons.inj hPolled
      cases hBegins.symm.trans hBegun
    | cons z' front =>
      obtain ⟨rfl, rfl⟩ := List.cons.inj hPolled
      have hSame := (Stamp.of_serves (hServes x (by simp))).2.2 k hUse
      refine ⟨[], z, front, rfl, hSame ▸ hFirst, hBegins, ?_⟩
      intro y hy
      exact (Stamp.of_serves (hServes y (by simp [hy]))).1

end Lap

namespace Watched

/-- From `s` to `t` the log is only added to. -/
def Extends (s t : Watched σ) : Prop :=
  s.log <+: t.log

theorem extends_durable : Durable (@Extends σ) :=
  ⟨fun s => List.prefix_refl s.log, fun h h' => h.trans h'⟩

/-- The first deed between `s` and `t` uses the link `k`. -/
def Uses (k : LinkId) (s t : Watched σ) : Prop :=
  ∃ x, x.deed.use? = some k ∧ s.log ++ [x] <+: t.log

theorem Uses.extends {k : LinkId} {s t u : Watched σ} (h : Uses k s t) (hRest : Extends t u) :
    Uses k s u := by
  obtain ⟨x, hUse, hPrefix⟩ := h
  exact ⟨x, hUse, hPrefix.trans hRest⟩

variable (host : Host σ)

theorem note_extends {α : Type} {deed : Except Fault α → Deed} (act : EStateM Fault σ α) :
    Moves Extends (note host.stopped deed act) := by
  intro s
  rw [note_end]
  exact List.prefix_append _ _

theorem link_extends (k : LinkId) : (host.watched.link k).Keeps Extends :=
  link_notes host k fun _ _ => note_extends host _

theorem sink_extends : host.watched.sink.Keeps Extends :=
  sink_notes host 0 fun _ _ => note_extends host _

theorem note_uses {α : Type} {k : LinkId} {deed : Except Fault α → Deed} (act : EStateM Fault σ α)
    (h : ∀ result, (deed result).use? = some k) : Moves (Uses k) (note host.stopped deed act) := by
  intro s
  rw [note_end]
  exact ⟨_, h _, List.prefix_refl _⟩

/-- Writing anything begins with a write. -/
theorem writeAll_uses (k : LinkId) {bs : Bytes} (h : bs ≠ []) :
    Moves (Uses k) ((host.watched.link k).writeAll bs) := by
  intro s
  have hRest : ∀ bs, Moves Extends ((host.watched.link k).writeAll bs) :=
    Sink.writeAll_moves extends_durable (link_extends host k).write
  cases bs with
  | nil => exact absurd rfl h
  | cons b rest =>
    have hFirst : Uses k s (endState ((host.watched.link k).write (b :: rest) s)) := by
      show Uses k s (endState ((link host k).write (b :: rest) s))
      rw [link_write]
      exact note_uses host _ (fun _ => rfl) s
    rw [Sink.writeAll_write]
    cases hWrite : (host.watched.link k).write (b :: rest) s with
    | ok n t =>
      rw [hWrite] at hFirst
      cases n with
      | zero => exact hFirst
      | succ n => exact hFirst.extends (hRest _ t)
    | error f t =>
      rw [hWrite] at hFirst
      simp only
      by_cases hInterrupted : f.kind = .interrupted
      · rw [if_pos hInterrupted]
        exact hFirst.extends (hRest _ t)
      · rw [if_neg hInterrupted]
        exact hFirst

end Watched

namespace Connection

open Watched

variable (host : Host σ) (k : LinkId)

/-- A request for a handshake uses the link first of all, if it is made. -/
theorem requestHandshake_uses (c : Connection (Watched σ)) :
    requestHandshake host.watched (host.watched.link k) c = .ok () c ∨
      Uses k c.world (endState (requestHandshake host.watched (host.watched.link k) c)).world := by
  by_cases hDue : c.requestDue host.watched = true
  case neg =>
    left
    unfold requestHandshake
    rw [bind_ok (get_run c), if_neg hDue]
    rfl
  right
  have hFlush : Moves (Uses k) (host.watched.link k).flush := by
    show Moves (Uses k) (Watched.link host k).flush
    rw [link_flush]
    exact note_uses host _ fun _ => rfl
  have hWritten :
      Uses k c.world (endState ((host.watched.link k).writeAll c.session.handshakeFrame c.world)) ∨
      c.session.handshakeFrame = [] := by
    by_cases hNil : c.session.handshakeFrame = []
    · exact Or.inr hNil
    · exact Or.inl (writeAll_uses host k hNil c.world)
  rw [requestHandshake_due hDue]
  rcases hWritten with hWritten | hNil
  · cases hWrite : (host.watched.link k).writeAll c.session.handshakeFrame c.world with
    | error f w =>
      rw [hWrite] at hWritten
      exact hWritten
    | ok u w =>
      rw [hWrite] at hWritten
      have hAll := hWritten.extends ((link_extends host k).flush w)
      simp only
      cases hRun : (host.watched.link k).flush w with
      | ok u v => rwa [hRun] at hAll
      | error f v => rwa [hRun] at hAll
  · have hNothing : (host.watched.link k).writeAll [] c.world = .ok () c.world := by
      rw [Sink.writeAll]
    have hFirst := hFlush c.world
    rw [hNil, hNothing]
    simp only
    cases hRun : (host.watched.link k).flush c.world with
    | ok u v => rwa [hRun] at hFirst
    | error f v => rwa [hRun] at hFirst

theorem pollByte_uses (c : Connection (Watched σ)) :
    Uses k c.world (endState (pollByte (host.watched.link k) c)).world := by
  have hRead : Uses k c.world (endState ((host.watched.link k).read 1 c.world)) := by
    show Uses k c.world (endState ((Watched.link host k).read 1 c.world))
    rw [link_read]
    exact note_uses host _ (fun _ => rfl) c.world
  unfold pollByte
  cases hRun : (host.watched.link k).read 1 c.world with
  | ok bs w =>
    rw [hRun] at hRead
    exact hRead
  | error f w =>
    rw [hRun] at hRead
    simp only
    split
    · exact hRead
    · exact hRead

/-- What comes after the first deed does not change it. -/
theorem uses_bind {α β : Type} {act : Tick (Watched σ) α} {next : α → Tick (Watched σ) β}
    {c : Connection (Watched σ)} (hAct : Uses k c.world (endState (act c)).world)
    (hNext : ∀ a, Moves (WorldRel Extends) (next a)) :
    Uses k c.world (endState ((act >>= next) c)).world := by
  cases hRun : act c with
  | error e d =>
    rw [hRun] at hAct
    rw [bind_error hRun]
    exact hAct
  | ok a d =>
    rw [hRun] at hAct
    rw [bind_ok hRun]
    exact hAct.extends (hNext a d)

theorem pollBytes_extends (started n : Nat) :
    Moves (WorldRel Extends) (pollBytes host.watched (host.watched.link k) started n) :=
  pollBytes_moves extends_durable host.watched (link_extends host k)
    (sink_extends host).write started n

theorem pollBytes_uses (started n : Nat) (c : Connection (Watched σ)) :
    Uses k c.world
      (endState (pollBytes host.watched (host.watched.link k) started (n + 1) c)).world := by
  have hD := worldRel_durable (extends_durable (σ := σ))
  refine uses_bind k (pollByte_uses host k c) ?_
  intro polled
  cases polled with
  | none => exact Moves.pure hD _
  | some b =>
    refine Moves.bind hD (handleByte_moves extends_durable _ (link_extends host k)
        (sink_extends host).write b) fun _ => ?_
    refine Moves.bind hD (get_moves extends_durable) fun d => ?_
    split
    · exact Moves.pure hD _
    · exact pollBytes_extends host k started n

/-- A tick on a link uses the link first of all. -/
theorem poll_uses (c : Connection (Watched σ)) :
    Uses k c.world (endState (poll host.watched (host.watched.link k) c)).world := by
  have hD := worldRel_durable (extends_durable (σ := σ))
  have hFlush : Moves (WorldRel Extends) (serve (Serve.onSink host.watched.sink.flush)) :=
    flush_moves (sink_extends host)
  unfold poll
  rcases requestHandshake_uses host k c with hNone | hAsked
  · rw [bind_ok hNone, bind_ok (get_run c)]
    exact uses_bind k (pollBytes_uses host k _ 4095 c) fun _ => hFlush
  · refine uses_bind k hAsked fun _ => ?_
    refine Moves.bind hD (get_moves extends_durable) fun d => ?_
    exact Moves.bind hD (pollBytes_extends host k _ _) fun _ => hFlush

/-- A tick on a link serves the device on it, and nothing else is asked for. -/
theorem poll_laps (c : Connection (Watched σ)) :
    let d := endState (poll host.watched (host.watched.link k) c)
    ∃ polled, d.world.log = c.world.log ++ polled ∧
      Chain (host.stopped c.world.world) polled (host.stopped d.world.world) ∧ OneTick polled := by
  intro d
  have hGrows : Grows host.stopped (Stamp.serves k) c.world d.world :=
    poll_moves (grows_durable _ _) host.watched (link_serves host k) (sink_serves host k) c
  obtain ⟨x, hUse, rest, hLog⟩ := poll_uses host k c
  have hLog : d.world.log = c.world.log ++ (x :: rest) := by
    rw [show d.world.log = _ from hLog.symm, List.append_assoc]
    rfl
  obtain ⟨hChain, hServes⟩ := hGrows.of_log hLog
  exact ⟨x :: rest, hLog, hChain, k, x, rest, rfl, hUse, hServes⟩

/-! ## Connecting -/

/-- One attempt to open a link, in a world that runs. -/
theorem openLink_connects {s : Watched σ} (hRuns : ¬ host.stopped s.world = true) :
    Grows host.stopped Stamp.connects s (endState (host.watched.openLink s)) := by
  have hLater := (host.tryOpen_later s.world).1
  have hOpening : Grows host.stopped Stamp.connects s
      (endState (note host.stopped .opening host.tryOpen s)) := by
    rw [note_end]
    refine add_grows hLater ?_
    simpa [Stamp.connects] using hRuns
  unfold Host.openLink
  cases hTry : host.watched.tryOpen s with
  | error f t =>
    rw [show note host.stopped .opening host.tryOpen s = _ from hTry] at hOpening
    exact hOpening
  | ok k t =>
    rw [show note host.stopped .opening host.tryOpen s = _ from hTry] at hOpening
    have hSwitch :
        Grows host.stopped Stamp.connects t (endState ((host.watched.link k).setMode .poll t)) := by
      show Grows _ _ t (endState ((Watched.link host k).setMode .poll t))
      rw [link_setMode, note_end]
      exact add_grows ((host.link_keeps k).setMode .poll t.world).1 rfl
    have hBoth := (grows_durable _ _).trans hOpening hSwitch
    simp only
    cases hSet : (host.watched.link k).setMode .poll t with
    | error f u => rwa [hSet] at hBoth
    | ok a u => rwa [hSet] at hBoth

theorem sleep_connects (ms : Nat) (s : Watched σ) :
    Grows host.stopped Stamp.connects s (host.watched.sleep ms s).2 := by
  rcases host.watched.sleep_cases ms s with hSame | hPaused
  · rw [hSame]
    exact (grows_durable _ _).refl s
  · rw [hPaused]
    exact add_grows (host.pause_later ms s.world).1 rfl

/-- To connect is to open links, to switch them to poll mode and to pause; no opening is begun
in a stopped world. -/
theorem connect_connects (c : Connection (Watched σ)) :
    Grows host.stopped Stamp.connects c.world (endState (connect host.watched c)).world :=
  connect_moves (grows_durable _ _) (fun _ hRuns => openLink_connects host hRuns)
    (sleep_connects host) c

/-- Connecting succeeds in a world that runs. -/
theorem connect_runs {τ : Type} {host : Host τ} {c d : Connection τ}
    (h : connect host c = .ok () d) : host.stopped d.world = false := by
  unfold connect at h
  simp only at h
  cases hAwait : host.awaitLink c.dropLink.timing.reconnectDelay c.dropLink.world with
  | error e w =>
    rw [hAwait] at h
    cases h
  | ok k w =>
    rw [hAwait] at h
    simp only at h
    cases hSleep : host.sleep c.dropLink.timing.settleDelay w with
    | mk rested v =>
      rw [hSleep] at h
      cases rested with
      | false => cases h
      | true =>
        cases h
        exact host.sleep_not_stopped hSleep

/-- A stop while a link is wanted leaves none, also if one was opened. -/
theorem connect_stopped_iff {τ : Type} (host : Host τ) (c : Connection τ) :
    host.stopped (endState (connect host c)).world = true ↔
      ∃ d, connect host c = .error ⟨⟩ d ∧ d.link = none := by
  constructor
  · intro hStopped
    cases hConnect : connect host c with
    | ok u d =>
      rw [hConnect] at hStopped
      cases (connect_runs hConnect).symm.trans hStopped
    | error e d =>
      refine ⟨d, rfl, ?_⟩
      rcases connect_cases host c with ⟨w, hEnd⟩ | ⟨k, w, hOk⟩
      · rw [hConnect] at hEnd
        rw [show d = _ from hEnd]
        rfl
      · cases hConnect.symm.trans hOk
  · rintro ⟨d, hConnect, -⟩
    rw [hConnect]
    exact connect_stopped hConnect

/-! ## Updates -/

/-- From `s` to `t` there is a lap without a look for input. -/
def Laps (s t : Watched σ) : Prop :=
  ∃ polled connected, t.log = s.log ++ (polled ++ connected) ∧
    Chain (host.stopped s.world) (polled ++ connected) (host.stopped t.world) ∧
    Lap polled connected []

theorem laps_of_connects {s t : Watched σ} (h : Grows host.stopped Stamp.connects s t) :
    Laps host s t := by
  obtain ⟨connected, hLog, hChain, hStamps⟩ := h
  exact ⟨[], connected, hLog, hChain, Or.inl rfl, hStamps, Or.inl rfl⟩

/-- A tick polls a link, or connects, or does one after the other. -/
theorem update_laps (c : Connection (Watched σ)) :
    Laps host c.world (endState (update host.watched c)).world := by
  cases hLink : c.link with
  | none =>
    rw [update_unlinked hLink]
    exact laps_of_connects host (connect_connects host c)
  | some k =>
    obtain ⟨polled, hLog, hChain, hPolls⟩ := poll_laps host k c
    have hPolled :
        Laps host c.world (endState (poll host.watched (host.watched.link k) c)).world := by
      refine ⟨polled, [], ?_, ?_, Or.inr hPolls, by simp, Or.inl rfl⟩
      · rwa [List.append_nil]
      · rwa [List.append_nil]
    rcases (@update_cases _ host.watched c k hLink) with ⟨d, hRun, hEnd⟩ | ⟨f, d, hRun, hEnd⟩ |
      ⟨e, d, hRun, -, hEnd⟩
    · rw [hRun] at hPolled
      rw [hEnd]
      exact hPolled
    · rw [hRun] at hPolled
      rw [hEnd]
      exact hPolled
    · rw [hRun] at hLog hChain
      obtain ⟨connected, hLater, hChain', hStamps⟩ := connect_connects host
        { d with link := none, phase := .disconnected, reconnects := d.reconnects + 1 }
      rw [hEnd, reconnect_end]
      refine ⟨polled, connected, ?_, hChain.append hChain', Or.inr hPolls, hStamps, Or.inl rfl⟩
      rw [hLater, ← List.append_assoc]
      exact congrArg (· ++ connected) hLog

/-! ## The last byte -/

section

variable {τ : Type} (host : Host τ)

/-- The hearings of a tick. Without a link there are none. -/
def hears (c : Connection τ) : List (Hearing τ) :=
  match c.link with
  | none => []
  | some k => heard host k c

/-- A byte after which the world is stopped is the last one of up to `n` bytes. -/
theorem hearings_last (k : LinkId) (started n : Nat) (c : Connection τ)
    {front rest : List (Hearing τ)} {x : Hearing τ}
    (h : hearings host k started n c = front ++ x :: rest)
    (hStopped : host.stopped (endState (x.outcome host)).world = true) :
    rest = [] ∧
      host.stopped (endState (pollBytes host (host.link k) started n c)).world = true := by
  induction n generalizing c front with
  | zero => simp [hearings] at h
  | succ n ih =>
    unfold hearings at h
    unfold pollBytes
    cases hPoll : pollByte (host.link k) c with
    | error e d => simp [hPoll] at h
    | ok polled d =>
      rw [hPoll] at h
      rw [bind_ok hPoll]
      cases polled with
      | none => simp at h
      | some b =>
        have hServing := handleByte_serving host k b d
        simp only at h ⊢
        cases front with
        | nil =>
          obtain ⟨rfl, hRest⟩ := List.cons.inj h
          rw [← hServing] at hStopped
          cases hHandle : handleByte host (host.link k) b d with
          | error e u =>
            rw [hHandle] at hStopped hRest
            rw [bind_error hHandle]
            exact ⟨hRest.symm, hStopped⟩
          | ok v u =>
            rw [hHandle] at hStopped hRest
            have hOver : u.tickOver host started = true := by
              unfold tickOver
              rw [show host.stopped u.world = true from hStopped, Bool.or_true]
            simp only [hOver, if_true] at hRest
            rw [bind_ok hHandle, bind_ok (get_run u)]
            simp only [hOver, if_true]
            exact ⟨hRest.symm, hStopped⟩
        | cons y front =>
          obtain ⟨-, hRest⟩ := List.cons.inj h
          cases hHandle : handleByte host (host.link k) b d with
          | error e u =>
            rw [hHandle] at hRest
            simp at hRest
          | ok v u =>
            rw [hHandle] at hRest
            rw [bind_ok hHandle, bind_ok (get_run u)]
            simp only at hRest ⊢
            by_cases hOver : u.tickOver host started = true
            · simp [hOver] at hRest
            · rw [if_neg hOver] at hRest ⊢
              exact ih u hRest

theorem heard_last (k : LinkId) (c : Connection τ) {front rest : List (Hearing τ)} {x : Hearing τ}
    (h : heard host k c = front ++ x :: rest)
    (hStopped : host.stopped (endState (x.outcome host)).world = true) :
    rest = [] ∧ host.stopped (endState (poll host (host.link k) c)).world = true := by
  unfold heard at h
  unfold poll
  cases hRequest : requestHandshake host (host.link k) c with
  | error e d =>
    rw [hRequest] at h
    simp at h
  | ok u d =>
    rw [hRequest] at h
    obtain ⟨hRest, hEnd⟩ := hearings_last host k _ _ d h hStopped
    refine ⟨hRest, ?_⟩
    rw [bind_ok hRequest, bind_ok (get_run d)]
    cases hRun : pollBytes host (host.link k) (host.clock d.world) maxTickBytes d with
    | error e v =>
      rw [hRun] at hEnd
      rw [bind_error hRun]
      exact hEnd
    | ok u v =>
      rw [hRun] at hEnd
      rw [bind_ok hRun]
      exact (flush_moves host.sink_keeps v).1 hEnd

/-- A byte after which the world is stopped is the last one of its tick, and the tick leaves
the world stopped. -/
theorem hears_last (c : Connection τ) {front rest : List (Hearing τ)} {x : Hearing τ}
    (h : hears host c = front ++ x :: rest)
    (hStopped : host.stopped (endState (x.outcome host)).world = true) :
    rest = [] ∧ host.stopped (endState (update host c)).world = true := by
  unfold hears at h
  cases hLink : c.link with
  | none =>
    rw [hLink] at h
    simp at h
  | some k =>
    rw [hLink] at h
    obtain ⟨hRest, hEnd⟩ := heard_last host k c h hStopped
    refine ⟨hRest, ?_⟩
    rcases (@update_cases _ host c k hLink) with ⟨d, hRun, hUpdate⟩ | ⟨f, d, hRun, hUpdate⟩ |
      ⟨e, d, hRun, -, hUpdate⟩
    · rw [hRun] at hEnd
      rw [hUpdate]
      exact hEnd
    · rw [hRun] at hEnd
      rw [hUpdate]
      exact hEnd
    · rw [hRun] at hEnd
      rw [hUpdate]
      exact (reconnect_spends host d).1.1 hEnd

end

end Connection

/-! ## Poll loops -/

namespace Bridge

open Connection Watched

section

variable (host : BridgeHost σ)

/-- A look into the channel is one deed. -/
theorem takeInputIf_looks (inputOpen : Bool) (c : Connection (Watched σ)) :
    let d := (takeInputIf host.watched inputOpen c).2
    ∃ looked, d.world.log = c.world.log ++ looked ∧
      Chain (host.stopped c.world.world) looked (host.stopped d.world.world) ∧
      (looked = [] ∨ ∃ x, looked = [x] ∧ x.deed.isLook = true) := by
  have hReceive : host.watched.receive c.world = ((host.receive c.world.world).1,
      c.world.add host.stopped (.look (host.receive c.world.world).1)
        (host.receive c.world.world).2) := rfl
  have hLater := (host.receive_later c.world.world).1
  intro d
  cases inputOpen with
  | false => exact ⟨[], (List.append_nil _).symm, .nil _, Or.inl rfl⟩
  | true =>
    have hWorld : d.world = (host.watched.receive c.world).2 := by
      show (takeInput host.watched c).2.world = _
      unfold takeInput
      rw [hReceive]
      cases (host.receive c.world.world).1 <;> rfl
    rw [hReceive] at hWorld
    rw [hWorld]
    exact ⟨[_], rfl, .cons rfl hLater (.nil _), Or.inr ⟨_, rfl, rfl⟩⟩

/-- A tick of a loop begins in a world that runs. -/
theorem tick_laps {c : Connection (Watched σ)} (hRuns : ¬ host.watched.stopped c.world = true)
    {r : EStateM.Result TickError (Connection (Watched σ)) Unit}
    (hUpdate : update host.watched.toHost c = r) :
    ∃ polled connected, (endState r).world.log = c.world.log ++ (polled ++ connected) ∧
      Chain false (polled ++ connected) (host.stopped (endState r).world.world) ∧
      Lap polled connected [] := by
  have hRunning : host.stopped c.world.world = false := Bool.not_eq_true _ ▸ hRuns
  have hLaps : Laps host.toHost c.world (endState r).world := hUpdate ▸ update_laps host.toHost c
  unfold Laps at hLaps
  rwa [hRunning] at hLaps

/-- Whatever a poll loop does after a stop is prompt. -/
theorem pollLoop_prompt (inputOpen : Bool) (c : Connection (Watched σ)) :
    ∃ stamps, (endState (pollLoop host.watched inputOpen c)).world.log = c.world.log ++ stamps ∧
      Prompt stamps := by
  fun_induction pollLoop host.watched inputOpen c with
  | case1 inputOpen c hStopped => exact ⟨[], (List.append_nil _).symm, prompt_nil⟩
  | case2 inputOpen c hRuns d hUpdate =>
    obtain ⟨polled, connected, hLog, hChain, hLap⟩ := tick_laps host hRuns hUpdate
    rw [← List.append_nil connected] at hLog hChain
    exact ⟨_, hLog, hLap.prompt hChain (Or.inr rfl)⟩
  | case3 inputOpen c hRuns f d hUpdate =>
    obtain ⟨polled, connected, hLog, hChain, hLap⟩ := tick_laps host hRuns hUpdate
    rw [← List.append_nil connected] at hLog hChain
    exact ⟨_, hLog, hLap.prompt hChain (Or.inr rfl)⟩
  | case4 inputOpen c hRuns d hUpdate ih =>
    obtain ⟨polled, connected, hLog, hChain, hLap⟩ := tick_laps host hRuns hUpdate
    obtain ⟨looked, hLook, hChain', hLooks⟩ := takeInputIf_looks host inputOpen d
    have hLog : d.world.log = c.world.log ++ (polled ++ connected) := hLog
    have hChain : Chain false (polled ++ connected) (host.stopped d.world.world) := hChain
    have hAll := hChain.append hChain'
    have hTaken : (takeInputIf host.watched inputOpen d).2.world.log =
        c.world.log ++ (polled ++ (connected ++ looked)) := by
      rw [hLook, hLog, List.append_assoc, List.append_assoc]
    rw [List.append_assoc] at hAll
    by_cases hStopped : host.stopped (takeInputIf host.watched inputOpen d).2.world.world = true
    · -- The loop ends here.
      rw [pollLoop_of_stopped host.watched _ hStopped]
      exact ⟨_, hTaken, Lap.prompt ⟨hLap.polls, hLap.connects, hLooks⟩ hAll (Or.inr rfl)⟩
    · obtain ⟨stamps, hRest, hPrompt⟩ := ih
      have hRunning := (hAll.running (by simpa using hStopped)).2
      refine ⟨_, ?_, hPrompt.after_running hRunning⟩
      rw [hRest, hTaken, List.append_assoc]

/-- Whatever a run does after a stop is prompt. -/
theorem run_prompt (c : Connection (Watched σ)) :
    ∃ stamps, (endState (run host.watched c)).world.log = c.world.log ++ stamps ∧
      Prompt stamps := by
  obtain ⟨connected, hLog, hChain, hConnects⟩ := connect_connects host.toHost c
  unfold run
  cases hConnect : connect host.watched.toHost c with
  | error e d =>
    rw [show connect host.toHost.watched c = _ from hConnect] at hLog hChain
    rw [← List.append_nil connected] at hLog hChain
    have hLap : Lap [] connected [] := ⟨Or.inl rfl, hConnects, Or.inl rfl⟩
    exact ⟨_, hLog, hLap.prompt hChain (Or.inl rfl)⟩
  | ok u d =>
    rw [show connect host.toHost.watched c = _ from hConnect] at hLog hChain
    have hRuns : host.stopped d.world.world = false := connect_runs hConnect
    obtain ⟨stamps, hRest, hPrompt⟩ := pollLoop_prompt host true d
    refine ⟨connected ++ stamps, ?_, hPrompt.after_running (hChain.running hRuns).2⟩
    rw [← List.append_assoc]
    exact hRest.trans (congrArg (· ++ stamps) hLog)

end

/-! ## The ticks of a loop -/

section

variable {τ : Type} {host : BridgeHost τ} {start c : Connection τ} {inputOpen : Bool}
  {rounds : List (Round τ)}

/-- The connections that a loop begins its ticks with. It has got to `c` by `rounds`; a further tick
is begun if the world runs. -/
def heads (host : BridgeHost τ) (rounds : List (Round τ)) (c : Connection τ) :
    List (Connection τ) :=
  rounds.map Round.head ++ if host.stopped c.world then [] else [c]

/-- No tick is begun in a stopped world. -/
theorem Loop.heads_run (h : Loop host start inputOpen rounds c) :
    ∀ d ∈ heads host rounds c, host.stopped d.world = false := by
  have hRounds : ∀ r ∈ rounds, host.stopped r.head.world = false := by
    induction h with
    | start => simp
    | @round inputOpen rounds c d before runs ticks ih =>
      intro r hr
      rcases List.mem_append.mp hr with hr | hr
      · exact ih r hr
      · rw [List.mem_singleton.mp hr]
        exact Bool.not_eq_true _ ▸ runs
  intro d hd
  rcases List.mem_append.mp hd with hd | hd
  · obtain ⟨r, hr, rfl⟩ := List.mem_map.mp hd
    exact hRounds r hr
  · by_cases hStopped : host.stopped c.world = true
    · simp [hStopped] at hd
    · rw [if_neg hStopped] at hd
      rw [List.mem_singleton.mp hd]
      exact Bool.not_eq_true _ ▸ hStopped

/-- A byte after which the world is stopped is the last one that the rounds of a loop hear, and the
loop gets no further. -/
theorem Loop.rounds_last (h : Loop host start inputOpen rounds c) {front rest : List (Hearing τ)}
    {x : Hearing τ}
    (hSplit : rounds.flatMap (fun r => hears host.toHost r.head) = front ++ x :: rest)
    (hStopped : host.stopped (endState (x.outcome host.toHost)).world = true) :
    rest = [] ∧ host.stopped c.world = true := by
  induction h generalizing front rest with
  | start => simp at hSplit
  | @round inputOpen rounds c d before runs ticks ih =>
    rw [List.flatMap_append, List.flatMap_singleton] at hSplit
    rcases split_append hSplit with ⟨mid, hBefore, -⟩ | ⟨mid, -, hLast⟩
    · exact absurd (ih hBefore).2 runs
    · obtain ⟨hRest, hEnd⟩ := hears_last host.toHost c hLast hStopped
      rw [ticks] at hEnd
      exact ⟨hRest, (takeInputIf_after host inputOpen d).1 hEnd⟩

/-- A byte after which the world is stopped is the last one that the loop hears. -/
theorem Loop.heads_last (h : Loop host start inputOpen rounds c) {front rest : List (Hearing τ)}
    {x : Hearing τ}
    (hSplit : (heads host rounds c).flatMap (hears host.toHost) = front ++ x :: rest)
    (hStopped : host.stopped (endState (x.outcome host.toHost)).world = true) : rest = [] := by
  unfold heads at hSplit
  rw [List.flatMap_append, List.flatMap_map] at hSplit
  rcases split_append hSplit with ⟨mid, hBefore, hRest⟩ | ⟨mid, -, hLast⟩
  · obtain ⟨hMid, hEnd⟩ := h.rounds_last hBefore hStopped
    rw [hRest, hMid, if_pos hEnd]
    rfl
  · by_cases hEnd : host.stopped c.world = true
    · simp [hEnd] at hLast
    · rw [if_neg hEnd, List.flatMap_singleton] at hLast
      exact (hears_last host.toHost c hLast hStopped).1

end

end Bridge

/-! ## Signals -/

namespace Signals

/-- What may be done with signals. -/
inductive Act
  | new
  | clone (handle : Nat)
  | trigger (handle : Nat)

def act (s : Signals) : Act → Signals
  | .new => s.new
  | .clone handle => s.clone handle
  | .trigger handle => s.trigger handle

theorem isTriggered_iff {s : Signals} {handle : Nat} :
    s.isTriggered handle = true ↔
      ∃ signal, s.handles[handle]? = some signal ∧ s.raised[signal]? = some true := by
  unfold isTriggered
  cases hHandle : s.handles[handle]? with
  | none => simp
  | some signal =>
    simp only [List.getD_eq_getElem?_getD, Option.some.injEq, exists_eq_left']
    cases s.raised[signal]? with
    | none => simp
    | some b => simp

/-- A signal that was raised is raised for ever, by every handle. -/
theorem isTriggered_act {s : Signals} {handle : Nat} (h : s.isTriggered handle = true) (a : Act) :
    (s.act a).isTriggered handle = true := by
  obtain ⟨signal, hHandle, hRaised⟩ := isTriggered_iff.mp h
  have hLength : handle < s.handles.length := (List.getElem?_eq_some_iff.mp hHandle).1
  have hSignal : signal < s.raised.length := (List.getElem?_eq_some_iff.mp hRaised).1
  apply isTriggered_iff.mpr
  cases a with
  | new =>
    refine ⟨signal, ?_, ?_⟩
    · show (s.handles ++ [s.raised.length])[handle]? = _
      rw [List.getElem?_append_left hLength, hHandle]
    · show (s.raised ++ [false])[signal]? = _
      rw [List.getElem?_append_left hSignal, hRaised]
  | clone other =>
    show ∃ signal, (s.clone other).handles[handle]? = some signal ∧
      (s.clone other).raised[signal]? = some true
    unfold clone
    cases s.handles[other]? with
    | none => exact ⟨signal, hHandle, hRaised⟩
    | some shared =>
      refine ⟨signal, ?_, hRaised⟩
      show (s.handles ++ [shared])[handle]? = _
      rw [List.getElem?_append_left hLength, hHandle]
  | trigger other =>
    show ∃ signal, (s.trigger other).handles[handle]? = some signal ∧
      (s.trigger other).raised[signal]? = some true
    unfold trigger
    cases s.handles[other]? with
    | none => exact ⟨signal, hHandle, hRaised⟩
    | some shared =>
      refine ⟨signal, hHandle, ?_⟩
      show (s.raised.set shared true)[signal]? = _
      by_cases hSame : shared = signal
      · subst hSame
        rw [List.getElem?_set_self hSignal]
      · rw [List.getElem?_set_ne hSame, hRaised]

theorem isTriggered_acts {s : Signals} {handle : Nat} (h : s.isTriggered handle = true)
    (acts : List Act) : (acts.foldl act s).isTriggered handle = true := by
  induction acts generalizing s with
  | nil => exact h
  | cons a acts ih => exact ih (isTriggered_act h a)

end Signals

/-! ## The whole loop -/

namespace Bridge

open Connection

/-- A connection without its record and its log. -/
def bare (c : Connection (Recorded (Watched σ))) : Connection σ :=
  c.plain.unwatched

/-- `d` is `c` without its record and its log. -/
def Bare (c : Connection (Recorded (Watched σ))) (d : Connection σ) : Prop :=
  bare c = d

theorem bare_of_plain {ε α : Type} {r : EStateM.Result ε (Connection (Recorded (Watched σ))) α}
    {q : EStateM.Result ε (Connection (Watched σ)) α} {r' : EStateM.Result ε (Connection σ) α}
    (h : Alike Plain r q) (h' : Alike Unwatched q r') : Alike Bare r r' := by
  refine h.comp h' ?_
  rintro s t u hPlain hUnwatched
  obtain rfl := show Connection.plain _ = _ from hPlain
  exact hUnwatched

/-- What a loop or a run with the ticks `heads` comes to, from `start` to the end of `r`. -/
structure Stops (host : BridgeHost σ) (start : Connection (Recorded (Watched σ)))
    (heads : List (Connection (Recorded (Watched σ))))
    (r : EStateM.Result Fault (Connection (Recorded (Watched σ))) Unit) : Prop where
  log : ∃ stamps, (endState r).world.world.log = start.world.world.log ++ stamps ∧ Prompt stamps
  /-- No tick is begun after the stop. -/
  runs : ∀ c ∈ heads, host.stopped c.world.world.world = false
  /-- A byte after which the world is stopped is the last one that is handled. -/
  last : ∀ front x rest, heads.flatMap (hears host.watched.recorded.toHost) = front ++ x :: rest →
    host.stopped (endState (x.outcome host.watched.recorded.toHost)).world.world.world = true →
    rest = []
  /-- Every command sends all of its reply, or the link refuses a part of it and the command
  fails. -/
  whole : ∀ c ∈ heads, ∀ x ∈ hears host.watched.recorded.toHost c, x.Exchanges host.watched.toHost
  /-- The end is no failure, after a stop, or the failure of the sink that the last tick ends
  with. -/
  ends : (∃ d, r = .ok () d ∧ host.stopped d.world.world.world = true) ∨
    ∃ front c f d, heads = front ++ [c] ∧
      update host.watched.recorded.toHost c = .error (.sink f) d ∧ r = .error f d

section

variable (host : BridgeHost σ) (start : Connection (Recorded (Watched σ)))

theorem run_plain (host : BridgeHost σ) (start : Connection (Recorded σ)) :
    Alike Plain (run host.recorded start) (run host start.plain) := by
  have hConnect := connect_plain host.toHost start
  unfold run
  rw [show connect host.recorded.toHost start = connect host.toHost.recorded start from rfl]
  generalize connect host.toHost.recorded start = r,
    connect host.toHost start.plain = r' at hConnect
  cases hConnect with
  | ok h =>
    obtain rfl := show Connection.plain _ = _ from h
    exact pollLoop_plain host true _
  | error h => exact .ok h

/-- What a log is told of, with a record or without. -/
theorem log_of_plain {ε α : Type} {r : EStateM.Result ε (Connection (Recorded (Watched σ))) α}
    {q : EStateM.Result ε (Connection (Watched σ)) α} (h : Alike Plain r q) :
    (endState r).world.world.log = (endState q).world.log :=
  congrArg (fun c => c.world.log) h.ends

theorem pollLoop_bare :
    Alike Bare (pollLoop host.watched.recorded true start) (pollLoop host true (bare start)) :=
  bare_of_plain (pollLoop_plain host.watched true start) (pollLoop_unwatched host true start.plain)

theorem run_bare : Alike Bare (run host.watched.recorded start) (run host (bare start)) :=
  bare_of_plain (run_plain host.watched start) (run_unwatched host start.plain)

/-- A loop that began at `first`, as part of what began at `start`. -/
theorem loop_stops (first : Connection (Recorded (Watched σ))) {stamps : List Stamp}
    (hLog : (endState (pollLoop host.watched.recorded true first)).world.world.log =
      start.world.world.log ++ stamps)
    (hPrompt : Prompt stamps) :
    ∃ inputOpen rounds c, Loop host.watched.recorded first inputOpen rounds c ∧
      Stops host start (heads host.watched.recorded rounds c)
        (pollLoop host.watched.recorded true first) := by
  have hStart : Loop host.watched.recorded first true [] first := .start
  obtain ⟨inputOpen, rounds, c, hLoop, hEnds⟩ := hStart.ends
  refine ⟨inputOpen, rounds, c, hLoop, ?_⟩
  exact {
    log := ⟨stamps, hLog, hPrompt⟩
    runs := hLoop.heads_run
    last := fun front x rest hSplit hStopped => hLoop.heads_last hSplit hStopped
    whole := fun c hc x hx => x.outcome_exchanges host.watched.toHost
    ends := by
      rcases hEnds with ⟨hStopped, hEnd⟩ | ⟨hRuns, ⟨d, -, hStopped, hEnd⟩ | ⟨f, d, hUpdate, hEnd⟩⟩
      · exact Or.inl ⟨c, hEnd, hStopped⟩
      · exact Or.inl ⟨d, hEnd, hStopped⟩
      · refine Or.inr ⟨rounds.map Round.head, c, f, d, ?_, hUpdate, hEnd⟩
        unfold heads
        rw [if_neg hRuns] }

end

/-- **A stop is prompt and clean.** Every poll loop and every run that connects first, on
every host, wherever the stop falls. The connection is watched and recorded, which changes
nothing else about it.

* `Stops`: what is done after the stop, which bytes are still handled, what becomes of their
  commands, and how the loop ends. The loop has begun its ticks with `heads`.
* A run that is stopped before its loop begins ends without a failure and polls nothing.
* If the world is stopped when a connection has tried to get a link, it has failed and holds none,
  also if one was opened.
* A signal that was raised stays raised, whatever is done with signals.
-/
theorem stops_promptly (host : BridgeHost σ) (start : Connection (Recorded (Watched σ))) :
    (Alike Bare (pollLoop host.watched.recorded true start) (pollLoop host true (bare start)) ∧
      Alike Bare (run host.watched.recorded start) (run host (bare start))) ∧
    (∃ inputOpen rounds c, Loop host.watched.recorded start inputOpen rounds c ∧
      Stops host start (heads host.watched.recorded rounds c)
        (pollLoop host.watched.recorded true start)) ∧
    ((∃ d, connect host.watched.recorded.toHost start = .error ⟨⟩ d ∧
      run host.watched.recorded start = .ok () d ∧
        Stops host start [] (run host.watched.recorded start)) ∨
      ∃ first inputOpen rounds c, connect host.watched.recorded.toHost start = .ok () first ∧
        Loop host.watched.recorded first inputOpen rounds c ∧
        Stops host start (heads host.watched.recorded rounds c) (run host.watched.recorded start)) ∧
    (∀ c : Connection (Recorded (Watched σ)),
      host.stopped (endState (connect host.watched.recorded.toHost c)).world.world.world = true ↔
        ∃ d, connect host.watched.recorded.toHost c = .error ⟨⟩ d ∧ d.link = none) ∧
    ∀ (signals : Signals) (handle : Nat) (acts : List Signals.Act),
      signals.isTriggered handle = true →
      (acts.foldl Signals.act signals).isTriggered handle = true := by
  refine ⟨⟨pollLoop_bare host start, run_bare host start⟩, ?_, ?_,
    fun c => connect_stopped_iff host.watched.recorded.toHost c,
    fun _ _ acts h => Signals.isTriggered_acts h acts⟩
  · obtain ⟨stamps, hLog, hPrompt⟩ := pollLoop_prompt host true start.plain
    refine loop_stops host start start ?_ hPrompt
    rw [log_of_plain (pollLoop_plain host.watched true start), hLog]
    rfl
  · obtain ⟨stamps, hLog, hPrompt⟩ := run_prompt host start.plain
    have hLog : (endState (run host.watched.recorded start)).world.world.log =
        start.world.world.log ++ stamps := by
      rw [log_of_plain (run_plain host.watched start), hLog]
      rfl
    cases hConnect : connect host.watched.recorded.toHost start with
    | error e d =>
      have hRun : run host.watched.recorded start = .ok () d := by
        unfold run
        rw [hConnect]
      refine Or.inl ⟨d, rfl, hRun, ?_⟩
      exact {
        log := ⟨stamps, hLog, hPrompt⟩
        runs := by simp
        last := fun front x rest hSplit => by simp at hSplit
        whole := by simp
        ends := Or.inl ⟨d, hRun, connect_stopped hConnect⟩ }
    | ok u first =>
      have hRun : run host.watched.recorded start = pollLoop host.watched.recorded true first := by
        unfold run
        rw [hConnect]
      rw [hRun] at hLog ⊢
      obtain ⟨inputOpen, rounds, c, hLoop, hStops⟩ := loop_stops host start first hLog hPrompt
      exact Or.inr ⟨first, inputOpen, rounds, c, rfl, hLoop, hStops⟩

end Bridge

end MemoryBridge
