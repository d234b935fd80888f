import Mathlib
import MemoryBridge.Proofs.Containment
import MemoryBridge.Rehearsal.World

/-!
# The modes that links are in

A link is in the mode of the last switch that it has taken. A link that is told to go back to poll
mode after a command may refuse, and nobody is told: it is polled in blocking mode then.
`polled_in_blocking_mode` is such a run.

That is the only way in which a link comes to be polled in blocking mode (`polled_as_left`): a
link that is held, or that is polled, was last told to go to poll mode, after every run of calls
and at every place of a tick, and is in poll mode unless it has refused. A link that was just
opened has taken that mode.
-/

namespace MemoryBridge

variable {σ : Type}

/-- The switch of the link `k` that an operation is: the mode that was asked for, and the answer. -/
def Operation.switch? (k : LinkId) : Operation → Option (ReadMode × Except Fault Unit)
  | .setMode j mode result => if j = k then some (mode, result) else none
  | _ => none

/-- The mode of a link after a switch. A link that refuses stays in the mode that it is in. -/
def ReadMode.after (mode : ReadMode) : ReadMode × Except Fault Unit → ReadMode
  | (asked, .ok _) => asked
  | (_, .error _) => mode

namespace Traced

/-- All switches of the link `k`, refused ones included. -/
def switches (k : LinkId) (trace : List Operation) : List (ReadMode × Except Fault Unit) :=
  trace.filterMap (Operation.switch? k)

/-- The mode of the link `k` after the operations of a trace, if it was in the mode `start`
before. -/
def modeAfter (start : ReadMode) (k : LinkId) (trace : List Operation) : ReadMode :=
  (switches k trace).foldl ReadMode.after start

/-- The link `k` was last told to go to poll mode. -/
inductive Returned (start : ReadMode) (k : LinkId) (trace : List Operation) : Prop
  | taken (hLast : (switches k trace).getLast? = some (.poll, .ok ()))
    (hMode : modeAfter start k trace = .poll)
  /-- It has refused, and is still in blocking mode. -/
  | refused {f : Fault} (hLast : (switches k trace).getLast? = some (.poll, .error f))
      (hMode : modeAfter start k trace = .blocking)

/-- The link `k` is where it was left for reads in the given mode. -/
def Fits (start : LinkId → ReadMode) (k : LinkId) (trace : List Operation) : ReadMode → Prop
  | .poll => Returned (start k) k trace
  | .blocking => modeAfter (start k) k trace = .blocking

/-- After the operations `before` it is in order to make this one. -/
def InOrder (start : LinkId → ReadMode) (before : List Operation) : Operation → Prop
  | .read k mode _ _ => Fits start k before mode
  | _ => True

/-- Every link is read where it was left. -/
def Orderly (start : LinkId → ReadMode) (trace : List Operation) : Prop :=
  ∀ before op, before ++ [op] <+: trace → InOrder start before op

section

variable {start : LinkId → ReadMode} {k : LinkId} {trace : List Operation} {op : Operation}
  {mode : ReadMode}

theorem orderly_nil (start : LinkId → ReadMode) : Orderly start [] := by
  intro before op h
  simp at h

theorem orderly_concat (h : Orderly start trace) (hOp : InOrder start trace op) :
    Orderly start (trace ++ [op]) := by
  intro before op' hPrefix
  rcases List.prefix_concat_iff.mp hPrefix with hAll | hFront
  · obtain ⟨rfl, hSame⟩ := List.append_inj' hAll rfl
    cases hSame
    exact hOp
  · exact h before op' hFront

theorem switches_concat (k : LinkId) (trace : List Operation) (op : Operation) :
    switches k (trace ++ [op]) = switches k trace ++ (op.switch? k).toList := by
  unfold switches
  rw [List.filterMap_append]
  cases h : op.switch? k <;> simp [h]

/-- Only switches change the mode of a link. -/
theorem fits_concat (hOp : op.switch? k = none) (h : Fits start k trace mode) :
    Fits start k (trace ++ [op]) mode := by
  have hSame : switches k (trace ++ [op]) = switches k trace := by
    rw [switches_concat, hOp, Option.toList_none, List.append_nil]
  have hMode : modeAfter (start k) k (trace ++ [op]) = modeAfter (start k) k trace := by
    unfold modeAfter
    rw [hSame]
  cases mode with
  | blocking => exact hMode.trans h
  | poll =>
    cases h with
    | taken hLast hNow => exact .taken (by rw [hSame, hLast]) (hMode.trans hNow)
    | refused hLast hNow => exact .refused (by rw [hSame, hLast]) (hMode.trans hNow)

theorem modeAfter_switch (start : ReadMode) (k : LinkId) (trace : List Operation) (asked : ReadMode)
    (result : Except Fault Unit) :
    modeAfter start k (trace ++ [.setMode k asked result]) =
      (modeAfter start k trace).after (asked, result) := by
  unfold modeAfter
  rw [switches_concat]
  simp [Operation.switch?]

theorem last_switch (k : LinkId) (trace : List Operation) (asked : ReadMode)
    (result : Except Fault Unit) :
    (switches k (trace ++ [.setMode k asked result])).getLast? = some (asked, result) := by
  rw [switches_concat]
  simp [Operation.switch?]

/-- A link that takes a mode is in it. -/
theorem fits_taken (start : LinkId → ReadMode) (k : LinkId) (trace : List Operation)
    (mode : ReadMode) :
    Fits start k (trace ++ [.setMode k mode (.ok ())]) mode ∧
      modeAfter (start k) k (trace ++ [.setMode k mode (.ok ())]) = mode := by
  have hMode := modeAfter_switch (start k) k trace mode (.ok ())
  refine ⟨?_, hMode⟩
  cases mode with
  | blocking => exact hMode
  | poll => exact .taken (last_switch k trace .poll (.ok ())) hMode

/-- A link in blocking mode that is told to go to poll mode. -/
theorem fits_left (h : Fits start k trace .blocking) (result : Except Fault Unit) :
    Fits start k (trace ++ [.setMode k .poll result]) .poll := by
  have hMode := modeAfter_switch (start k) k trace .poll result
  have hLast := last_switch k trace .poll result
  cases result with
  | ok u => exact .taken hLast hMode
  | error f => exact .refused hLast (hMode.trans h)

end

/-! ## What keeps a link in order -/

/-- The link `k` was last asked for the given mode and is where it was left for it, and so was every
link that was read. -/
structure Standing (start : LinkId → ReadMode) (k : LinkId) (mode : ReadMode)
    (s : Traced σ) : Prop where
  orderly : Orderly start s.trace
  asked : s.asked k = mode
  fits : Fits start k s.trace mode

/-- From a link that stands in the given mode on, the reads of a run are in order, and the link
stands in that mode again unless it is lost. -/
def Stands {ε τ α : Type} (start : LinkId → ReadMode) (k : LinkId) (mode : ReadMode)
    (lost : ε → Bool) (view : τ → Traced σ) (act : EStateM ε τ α) : Prop :=
  ∀ st, Standing start k mode (view st) →
    Orderly start (view (endState (act st))).trace ∧
      (failsBy lost (act st) = false → Standing start k mode (view (endState (act st))))

/-- A link that stands stays so. -/
def Stay (start : LinkId → ReadMode) (k : LinkId) (mode : ReadMode) (s t : Traced σ) : Prop :=
  Standing start k mode s → Standing start k mode t

theorem stay_durable (start : LinkId → ReadMode) (k : LinkId) (mode : ReadMode) :
    Durable (Stay (σ := σ) start k mode) where
  refl _ h := h
  trans h₁ h₂ h := h₂ (h₁ h)

namespace Stands

variable {ε τ α β : Type} {start : LinkId → ReadMode} {k : LinkId} {mode : ReadMode}
  {lost : ε → Bool} {view : τ → Traced σ}

theorem of_moves {act : EStateM ε τ α}
    (h : Moves (fun s t => Stay start k mode (view s) (view t)) act) :
    Stands start k mode lost view act := by
  intro st hStanding
  have hEnd := h st hStanding
  exact ⟨hEnd.orderly, fun _ => hEnd⟩

theorem still {act : EStateM ε τ α} (h : ∀ st, view (endState (act st)) = view st) :
    Stands start k mode lost view act := by
  refine of_moves fun st hStanding => ?_
  rw [h]
  exact hStanding

theorem bind {act : EStateM ε τ α} {next : α → EStateM ε τ β}
    (hAct : Stands start k mode lost view act)
    (hNext : ∀ a, Stands start k mode lost view (next a)) :
    Stands start k mode lost view (act >>= next) := by
  intro st hStanding
  have hFirst := hAct st hStanding
  cases hRun : act st with
  | error e t =>
    rw [hRun] at hFirst
    rw [bind_error hRun]
    exact hFirst
  | ok a t =>
    rw [hRun] at hFirst
    rw [bind_ok hRun]
    exact hNext a t (hFirst.2 rfl)

end Stands

section

variable {α : Type} {start : LinkId → ReadMode} {k : LinkId} {mode : ReadMode}
  {operation : Except Fault α → Operation} {act : EStateM Fault σ α} {s : Traced σ}

/-- An operation that is no switch. -/
theorem note_stay (hSwitch : ∀ result, (operation result).switch? k = none)
    (hOrder : ∀ result, InOrder start s.trace (operation result)) :
    Stay start k mode s (endState (note operation act s)) := by
  intro h
  obtain ⟨hTrace, hAsked⟩ := note_end operation act s
  refine ⟨?_, (congrFun hAsked k).trans h.asked, ?_⟩
  · rw [hTrace]
    exact orderly_concat h.orderly (hOrder _)
  · rw [hTrace]
    exact fits_concat (hSwitch _) h.fits

end

variable (host : Host σ) (start : LinkId → ReadMode) (k : LinkId)

/-- Reads, writes and flushes of the link. -/
theorem read_stays (mode : ReadMode) (n : Nat) :
    Moves (Stay start k mode) ((link host k).read n) := by
  intro s h
  rw [link_read]
  refine note_stay (fun _ => rfl) (fun result => ?_) h
  show Fits start k s.trace (s.asked k)
  rw [h.asked]
  exact h.fits

theorem write_stays (mode : ReadMode) (bs : Bytes) :
    Moves (Stay start k mode) ((link host k).write bs) := by
  intro s
  rw [link_write]
  exact note_stay (fun _ => rfl) fun _ => trivial

theorem flush_stays (mode : ReadMode) : Moves (Stay start k mode) (link host k).flush := by
  intro s
  rw [link_flush]
  exact note_stay (fun _ => rfl) fun _ => trivial

/-- So the link stands while a command is carried out. -/
theorem link_keptBy (mode : ReadMode) : KeptBy (link host k) (WorldRel (Stay start k mode)) where
  durable := (stay_durable start k mode).worldRel
  read n := Serve.onLink_moves (read_stays host start k mode n)
  write bs := Serve.onLink_moves (write_stays host start k mode bs)
  flush := Serve.onLink_moves (flush_stays host start k mode)
  touch _ h := h

theorem pass_stays (mode : ReadMode) (bs : Bytes) :
    Moves (Stay start k mode) ((sink host).write bs) := by
  intro s
  rw [sink_write]
  exact note_stay (fun _ => rfl) fun _ => trivial

theorem passFlush_stays (mode : ReadMode) : Moves (Stay start k mode) (sink host).flush := by
  intro s
  rw [sink_flush]
  exact note_stay (fun _ => rfl) fun _ => trivial

/-- A switch leaves the reads before it in order. -/
theorem setMode_orderly (mode : ReadMode) {s : Traced σ} (h : Orderly start s.trace) :
    Orderly start (endState ((link host k).setMode mode s)).trace := by
  obtain ⟨hTrace, -⟩ := note_end (.setMode k mode) ((host.link k).setMode mode) (s.ask k mode)
  rw [link_setMode, hTrace]
  exact orderly_concat h trivial

/-- A link that takes a mode stands in it. -/
theorem setMode_standing {mode : ReadMode} {s t : Traced σ} (h : Orderly start s.trace)
    (hSet : (link host k).setMode mode s = .ok () t) :
    Standing start k mode t ∧ modeAfter (start k) k t.trace = mode := by
  rw [link_setMode] at hSet
  obtain ⟨w, -, rfl⟩ := note_ok hSet
  obtain ⟨hFits, hMode⟩ := fits_taken start k s.trace mode
  exact ⟨⟨orderly_concat h trivial, if_pos rfl, hFits⟩, hMode⟩

/-- A link that leaves blocking mode stands in poll mode, whether it takes that mode or not. -/
theorem leaveBlocking_standing {s : Traced σ} (h : Standing start k .blocking s) :
    Standing start k .poll ((link host k).leaveBlocking s) := by
  obtain ⟨result, hTrace, hAsked⟩ := Session.leaveBlocking_end host k s
  refine ⟨?_, hAsked, ?_⟩
  · rw [hTrace]
    exact orderly_concat h.orderly trivial
  · rw [hTrace]
    exact fits_left h.fits result

end Traced

/-! ## Serving -/

namespace Session

open Serve Traced

/-- From a link that stands in poll mode on, a step of serving reads in order and leaves the link
so, unless it is lost. -/
def Stands {α : Type} (start : LinkId → ReadMode) (k : LinkId) (act : Serve (Traced σ) α) : Prop :=
  Traced.Stands start k .poll ServeError.isTransport Serving.world act

variable (host : Host σ) (start : LinkId → ReadMode) (k : LinkId)

/-- A command is carried out in blocking mode, and afterwards the link stands in poll mode. It is
lost only if it does not take blocking mode. -/
theorem dispatch_stands (code : UInt8) :
    Stands start k (dispatch (link host k) code) := by
  intro st h
  unfold dispatch bracket onLink onWorld
  cases hEnter : (link host k).enterBlocking st.world with
  | error f w =>
    have hOrderly := setMode_orderly host start k .blocking h.orderly
    rw [show (link host k).setMode .blocking st.world = .error f w from hEnter] at hOrderly
    exact ⟨hOrderly, fun hHolds => by cases hHolds⟩
  | ok u w =>
    have hBusy : Standing start k .blocking w := (setMode_standing host start k h.orderly hEnter).1
    have hKept := link_keptBy host start k .blocking
    have hBody := carryOut_moves hKept (fun _ h => h) (fun _ h => h) code ⟨st.session, w⟩ hBusy
    simp only
    cases hRun : carryOut (link host k) code ⟨st.session, w⟩ with
    | ok a t =>
      rw [hRun] at hBody
      have hLeft := leaveBlocking_standing host start k hBody
      exact ⟨hLeft.orderly, fun _ => hLeft⟩
    | error e t =>
      rw [hRun] at hBody
      have hLeft := leaveBlocking_standing host start k hBody
      exact ⟨hLeft.orderly, fun _ => hLeft⟩

theorem processByte_stands (b : UInt8) :
    Stands start k (processByte (link host k) (sink host) b) := by
  refine Traced.Stands.bind (Traced.Stands.still fun _ => rfl) fun s => ?_
  refine Traced.Stands.bind (Traced.Stands.still fun _ => rfl) fun _ => ?_
  split
  · have hPass := Sink.writeAll_moves (stay_durable start k .poll) (pass_stays host start k .poll)
    refine Traced.Stands.bind (Traced.Stands.of_moves (onSink_moves (hPass _))) fun _ => ?_
    exact Traced.Stands.bind (Traced.Stands.still fun _ => rfl) fun _ =>
      Traced.Stands.still fun _ => rfl
  · exact Traced.Stands.still fun _ => rfl
  · exact Traced.Stands.bind (dispatch_stands host start k _) fun _ =>
      Traced.Stands.still fun _ => rfl

end Session

/-! ## Ticks -/

namespace Connection

open Traced

/-- The same of a step of a tick. -/
def Stands {α : Type} (start : LinkId → ReadMode) (k : LinkId) (act : Tick (Traced σ) α) : Prop :=
  Traced.Stands start k .poll ServeError.isTransport (fun c => c.world) act

variable (host : Host σ) (start : LinkId → ReadMode) (k : LinkId)

theorem serve_stands {α : Type} {act : Serve (Traced σ) α} (h : Session.Stands start k act) :
    Stands start k (serve act) := by
  intro c hStanding
  have hAct := h c.toServing hStanding
  unfold serve
  cases hRun : act c.toServing with
  | ok a st =>
    rw [hRun] at hAct
    exact hAct
  | error e st =>
    rw [hRun] at hAct
    exact hAct

theorem requestHandshake_stands :
    Stands start k (requestHandshake host.traced (host.traced.link k)) := by
  have hKept := (link_keptBy host start k .poll).toKeptOnLink
  refine Traced.Stands.bind (Traced.Stands.still fun _ => rfl) fun c => ?_
  split
  · refine Traced.Stands.bind
      (serve_stands start k (Traced.Stands.of_moves (Session.writeAll_moves hKept _))) fun _ => ?_
    refine Traced.Stands.bind (serve_stands start k (Traced.Stands.of_moves hKept.flush))
      fun _ => ?_
    exact Traced.Stands.still fun _ => rfl
  · exact Traced.Stands.still fun _ => rfl

theorem pollByte_stands :
    Stands start k (pollByte (host.traced.link k)) := by
  refine Traced.Stands.of_moves fun c h => ?_
  have hRead : Standing start k .poll (endState ((host.traced.link k).read 1 c.world)) :=
    read_stays host start k .poll 1 c.world h
  unfold pollByte
  cases hRun : (host.traced.link k).read 1 c.world with
  | ok bs w =>
    rw [hRun] at hRead
    exact hRead
  | error f w =>
    rw [hRun] at hRead
    simp only
    split
    · exact hRead
    · exact hRead

theorem handleByte_stands (b : UInt8) :
    Stands start k (handleByte host.traced (host.traced.link k) b) := by
  refine Traced.Stands.bind (serve_stands start k (Session.processByte_stands host start k b))
    fun handled => ?_
  split
  · exact Traced.Stands.still fun _ => rfl
  · exact Traced.Stands.still fun _ => rfl

/-- A byte that was handled leaves the link as it has to be for the next poll. -/
theorem pollBytes_stands (started n : Nat) :
    Stands start k (pollBytes host.traced (host.traced.link k) started n) := by
  induction n with
  | zero => exact Traced.Stands.still fun _ => rfl
  | succ n ih =>
    refine Traced.Stands.bind (pollByte_stands host start k) fun polled => ?_
    split
    · exact Traced.Stands.still fun _ => rfl
    · refine Traced.Stands.bind (handleByte_stands host start k _) fun _ => ?_
      refine Traced.Stands.bind (Traced.Stands.still fun _ => rfl) fun c => ?_
      split
      · exact Traced.Stands.still fun _ => rfl
      · exact ih

theorem poll_stands :
    Stands start k (poll host.traced (host.traced.link k)) := by
  refine Traced.Stands.bind (requestHandshake_stands host start k) fun _ => ?_
  refine Traced.Stands.bind (Traced.Stands.still fun _ => rfl) fun c => ?_
  refine Traced.Stands.bind (pollBytes_stands host start k _ _) fun _ => ?_
  exact serve_stands start k
    (Traced.Stands.of_moves (Serve.onSink_moves (passFlush_stays host start k .poll)))

/-- A byte is polled from a link that was told to go to poll mode. -/
theorem hearings_returned (started n : Nat) {c : Connection (Traced σ)}
    (h : Standing start k .poll c.world) :
    ∀ x ∈ hearings host.traced k started n c, Returned (start k) k x.before.world.trace := by
  induction n generalizing c with
  | zero => simp [hearings]
  | succ n ih =>
    have hPolled := pollByte_stands host start k c h
    unfold hearings
    cases hPoll : pollByte (host.traced.link k) c with
    | error e d => simp
    | ok polled d =>
      cases polled with
      | none => simp
      | some b =>
        rw [hPoll] at hPolled
        have hStanding : Standing start k .poll d.world := hPolled.2 rfl
        have hHandled := handleByte_stands host start k b d hStanding
        intro x hx
        rcases List.mem_cons.mp hx with rfl | hx
        · exact hStanding.fits
        · cases hHandle : handleByte host.traced (host.traced.link k) b d with
          | error e u => simp [hHandle] at hx
          | ok v u =>
            rw [hHandle] at hHandled hx
            simp only at hx
            split at hx
            · cases hx
            · exact ih (hHandled.2 rfl) x hx

theorem heard_returned {c : Connection (Traced σ)} (h : Standing start k .poll c.world) :
    ∀ x ∈ heard host.traced k c, Returned (start k) k x.before.world.trace := by
  have hAsked := requestHandshake_stands host start k c h
  unfold heard
  cases hRequest : requestHandshake host.traced (host.traced.link k) c with
  | error e d => simp
  | ok u d =>
    rw [hRequest] at hAsked
    exact hearings_returned host start k _ _ (hAsked.2 rfl)

/-! ## Connecting -/

/-- Reads stay in order. -/
def StayOrderly (s t : Traced σ) : Prop :=
  Orderly start s.trace → Orderly start t.trace

theorem stayOrderly_durable : Durable (StayOrderly (σ := σ) start) where
  refl _ h := h
  trans h₁ h₂ h := h₂ (h₁ h)

theorem tryOpen_orderly : Moves (StayOrderly start) host.traced.tryOpen := by
  intro s h
  have hTrace := (note_end .opening host.tryOpen s).1
  show Orderly start (endState (note .opening host.tryOpen s)).trace
  rw [hTrace]
  exact orderly_concat h trivial

/-- A link that is handed over has taken poll mode. -/
theorem openLink_standing {s : Traced σ} (h : Orderly start s.trace) :
    Orderly start (endState (host.traced.openLink s)).trace ∧
      ∀ j t, host.traced.openLink s = .ok j t →
      Standing start j .poll t ∧ modeAfter (start j) j t.trace = .poll := by
  have hTried := tryOpen_orderly host start s h
  unfold Host.openLink
  cases hTry : host.traced.tryOpen s with
  | error f t =>
    rw [hTry] at hTried
    exact ⟨hTried, fun j v hRun => by cases hRun⟩
  | ok j t =>
    rw [hTry] at hTried
    have hSwitched : Orderly start (endState ((host.traced.link j).setMode .poll t)).trace :=
      setMode_orderly host start j .poll hTried
    simp only
    cases hSet : (host.traced.link j).setMode .poll t with
    | error f u =>
      rw [hSet] at hSwitched
      exact ⟨hSwitched, fun i v hRun => by cases hRun⟩
    | ok u v =>
      have hStands : Standing start j .poll v ∧ modeAfter (start j) j v.trace = .poll :=
        setMode_standing host start j hTried hSet
      refine ⟨hStands.1.orderly, fun i v' hRun => ?_⟩
      cases hRun
      exact hStands

theorem openLink_orderly : Moves (StayOrderly start) host.traced.openLink :=
  fun _ h => (openLink_standing host start h).1

theorem sleep_orderly (ms : Nat) (s : Traced σ) :
    StayOrderly start s (host.traced.sleep ms s).2 := by
  obtain ⟨w, hw⟩ := sleep_traced host ms s
  rw [hw]
  exact fun h => h

/-- Reads are in order, and a link that is held stands in poll mode. -/
structure InMode (c : Connection (Traced σ)) : Prop where
  orderly : Orderly start c.world.trace
  held : ∀ k, c.link = some k → Standing start k .poll c.world

/-- Connecting ends without a link or with one that has taken poll mode. -/
theorem connect_inMode {c : Connection (Traced σ)} (h : Orderly start c.world.trace) :
    InMode start (endState (connect host.traced c)) ∧
      ∀ k, (endState (connect host.traced c)).link = some k →
        modeAfter (start k) k (endState (connect host.traced c)).world.trace = .poll := by
  have hD := stayOrderly_durable (σ := σ) start
  have hOrderly :=
    connect_moves hD (fun s _ => openLink_orderly host start s) (sleep_orderly host start) c h
  suffices hHeld : ∀ k, (endState (connect host.traced c)).link = some k →
      Standing start k .poll (endState (connect host.traced c)).world ∧
        modeAfter (start k) k (endState (connect host.traced c)).world.trace = .poll from
    ⟨⟨hOrderly, fun k hk => (hHeld k hk).1⟩, fun k hk => (hHeld k hk).2⟩
  unfold connect
  simp only
  cases hRun : host.traced.awaitLink c.dropLink.timing.reconnectDelay c.dropLink.world with
  | error e w =>
    intro k hk
    cases hk
  | ok j w =>
    obtain ⟨u, hBefore, hOpen⟩ :=
      Host.awaitLink_ok hD (openLink_orderly host start) (sleep_orderly host start) hRun
    obtain ⟨hStanding, hMode⟩ := (openLink_standing host start (hBefore h)).2 j w hOpen
    obtain ⟨v, hv⟩ := sleep_traced host c.dropLink.timing.settleDelay w
    simp only
    cases hSleep : host.traced.sleep c.dropLink.timing.settleDelay w with
    | mk rested t =>
      rw [hSleep] at hv
      obtain rfl : t = _ := hv
      cases rested with
      | false =>
        intro k hk
        cases hk
      | true =>
        intro k hk
        cases hk
        exact ⟨⟨hStanding.orderly, hStanding.asked, hStanding.fits⟩, hMode⟩

theorem update_inMode {c : Connection (Traced σ)} (h : InMode start c) :
    InMode start (endState (update host.traced c)) := by
  cases hLink : c.link with
  | none =>
    rw [update_unlinked hLink]
    exact (connect_inMode host start h.orderly).1
  | some k =>
    have hPoll := poll_stands host start k c (h.held k hLink)
    have hStays := (poll_stays host.traced (host.traced.link k) c).1
    -- Polling keeps the link, and it stands unless it has failed.
    have hKept : ∀ r : EStateM.Result ServeError (Connection (Traced σ)) Unit,
        poll host.traced (host.traced.link k) c = r → failsBy ServeError.isTransport r = false →
          InMode start (endState r) := by
      rintro r rfl hHolds
      refine ⟨hPoll.1, fun j hj => ?_⟩
      rw [hStays, hLink] at hj
      cases hj
      exact hPoll.2 hHolds
    rcases @update_cases _ host.traced c k hLink with ⟨d, hRun, hEnd⟩ | ⟨f, d, hRun, hEnd⟩ |
      ⟨e, d, hRun, -, hEnd⟩
    · rw [hEnd]
      exact hKept _ hRun rfl
    · rw [hEnd]
      exact hKept _ hRun rfl
    · have hOrderly := hPoll.1
      rw [show poll host.traced (host.traced.link k) c = .error e d from hRun] at hOrderly
      rw [hEnd, reconnect_end]
      refine (connect_inMode host start ?_).1
      exact hOrderly

theorem run_inMode {c : Connection (Traced σ)} (h : InMode start c) (calls : List (Call σ)) :
    InMode start (run host.traced c (calls.map Call.traced)) := by
  induction calls generalizing c with
  | nil => exact h
  | cons call calls ih =>
    refine ih ?_
    cases call with
    | connect => exact (connect_inMode host start h.orderly).1
    | update => exact update_inMode host start h
    | append bytes => exact ⟨h.orderly, h.held⟩
    | drain limit => exact ⟨h.orderly, h.held⟩
    | world change =>
      refine ⟨h.orderly, fun k hk => ?_⟩
      have hStanding := h.held k hk
      exact ⟨hStanding.orderly, hStanding.asked, hStanding.fits⟩

/-- **Links are polled as they were left.** After every run of calls, on every host and from
whatever modes its links start in: a link that is held was last told to go to poll mode, and so was
the link of every byte that the next tick hears. It is in poll mode, unless it has refused; then it
is still in blocking mode. Every read so far has found its link where it was left, and commands read
in blocking mode. A link that was just opened is in poll mode. The connection is traced, which
changes nothing else about it. -/
theorem polled_as_left (host : Host σ) (config : SessionConfig) (mailbox : Mailbox)
    (timing : Timing) (w : σ) (start : LinkId → ReadMode) (calls : List (Call σ)) :
    let c := run host.traced (fresh config mailbox timing { world := w }) (calls.map Call.traced)
    c.untraced = run host (fresh config mailbox timing w) calls ∧
      (∀ k, c.link = some k → Returned (start k) k c.world.trace ∧
        ∀ x ∈ heard host.traced k c, Returned (start k) k x.before.world.trace) ∧
      (∀ before k mode n result, before ++ [.read k mode n result] <+: c.world.trace →
        Fits start k before mode) ∧
      ∀ k, (endState (connect host.traced c)).link = some k →
        modeAfter (start k) k (endState (connect host.traced c)).world.trace = .poll := by
  intro c
  have hInMode : InMode start c :=
    run_inMode host start ⟨orderly_nil start, fun k hk => by cases hk⟩ calls
  refine ⟨run_untraced host _ calls, fun k hk => ?_, ?_, ?_⟩
  · have hStanding := hInMode.held k hk
    exact ⟨hStanding.fits, heard_returned host start k hStanding⟩
  · exact fun before k mode n result hRead => hInMode.orderly before _ hRead
  · exact (connect_inMode host start hInMode.orderly).2

/-- A world with one link. The device sends a `ping` and one byte more, and the link refuses the
switch after the `ping`. -/
def refusingWorld : World where
  lines := [{ arrivals := [.data [0xFF, 0x07, 0x41]], modeFaults := [none, none, some .other] }]
  offers := [{}]

/-- The link of this world is polled in blocking mode. The tick hands the byte on, ends well and
keeps the link, which is still in blocking mode then. -/
theorem polled_in_blocking_mode :
    let host := World.host fun _ => false
    let c := run host.traced (fresh {} .empty ⟨0, 0, 0⟩ { world := refusingWorld }) [.connect]
    let r := update host.traced c
    let done := (endState r).world.trace
    done[10]? = some (.read 0 .poll 1 (.ok [0x41])) ∧ modeAfter .poll 0 (done.take 10) = .blocking ∧
      (endState r).world.world.sink.received.toList = [0x41] ∧ succeeds r = true ∧
      (endState r).link = some 0 ∧
      modeAfter .poll 0 done = .blocking ∧
      (endState r).world.world.lines.map (fun l => l.memory.mode) = [.blocking] := by
  cbv

end Connection

end MemoryBridge
