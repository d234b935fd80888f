import MemoryBridge.Connection.Motion

/-!
# Runs of calls

A connection lives through calls: it is told to connect, it is polled, its mailbox is filled and
drained by others, and in between the world moves on. `Connection.run` leads through any sequence of
them. A call that fails counts like one that succeeds; the state that it has reached is the state in
which the next call finds the connection.
-/

namespace MemoryBridge.Connection

variable {σ : Type}

/-- What may happen to a connection next. -/
inductive Call (σ : Type)
  | connect
  | update
  | append (bytes : Bytes)
  | drain (limit : Nat)
  /-- The world changes on its own. A stop that is asked for is such a change. -/
  | world (change : σ → σ)

/-- A connection that was just made. -/
def fresh (config : SessionConfig) (mailbox : Mailbox) (timing : Timing) (w : σ) :
    Connection σ where
  session := { config, mailbox }
  world := w
  timing := timing

/-- A connection after a call. -/
def after (host : Host σ) (c : Connection σ) : Call σ → Connection σ
  | .connect => endState (connect host c)
  | .update => endState (update host c)
  | .append bytes => { c with session.mailbox := c.session.mailbox.append bytes }
  | .drain limit => { c with session.mailbox := (c.session.mailbox.drain limit).2 }
  | .world change => { c with world := change c.world }

def run (host : Host σ) (c : Connection σ) (calls : List (Call σ)) : Connection σ :=
  calls.foldl (after host) c

theorem run_append (host : Host σ) (c : Connection σ) (calls later : List (Call σ)) :
    run host c (calls ++ later) = run host (run host c calls) later :=
  List.foldl_append

/-- What holds at first and is kept by every call holds after every run. -/
theorem run_induction {host : Host σ} {P : Connection σ → Prop}
    (hStep : ∀ c call, P c → P (after host c call)) {c : Connection σ} (hStart : P c)
    (calls : List (Call σ)) : P (run host c calls) := by
  induction calls generalizing c with
  | nil => exact hStart
  | cons call calls ih => exact ih (hStep c call hStart)

/-- Runs that correspond call by call correspond as a whole. -/
theorem run_map {τ : Type} {host : Host σ} {other : Host τ} {view : Connection τ → Connection σ}
    {lift : Call σ → Call τ}
    (hStep : ∀ c call, view (after other c (lift call)) = after host (view c) call)
    (c : Connection τ) (calls : List (Call σ)) :
    view (run other c (calls.map lift)) = run host (view c) calls := by
  induction calls generalizing c with
  | nil => rfl
  | cons call calls ih =>
    have hRest := ih (after other c (lift call))
    rw [hStep] at hRest
    exact hRest

/-- The connections that a run polls, one for each update. -/
def polls (host : Host σ) : Connection σ → List (Call σ) → List (Connection σ)
  | _, [] => []
  | c, .update :: calls => c :: polls host (after host c .update) calls
  | c, call :: calls => polls host (after host c call) calls

/-- The connection that a call polls. -/
def Call.polled (c : Connection σ) : Call σ → List (Connection σ)
  | .update => [c]
  | _ => []

theorem polls_cons (host : Host σ) (c : Connection σ) (call : Call σ) (calls : List (Call σ)) :
    polls host c (call :: calls) = call.polled c ++ polls host (after host c call) calls := by
  cases call <;> rfl

theorem polls_induction {host : Host σ} {P : Connection σ → Prop}
    (hStep : ∀ c call, P c → P (after host c call)) {c : Connection σ} (hStart : P c)
    (calls : List (Call σ)) : ∀ p ∈ polls host c calls, P p := by
  induction calls generalizing c with
  | nil => simp [polls]
  | cons call calls ih =>
    intro p hp
    rw [polls_cons] at hp
    rcases List.mem_append.mp hp with hp | hp
    · cases call <;> simp [Call.polled] at hp
      rw [hp]
      exact hStart
    · exact ih (hStep c call hStart) p hp

/-! ## One tick -/

section

variable {host : Host σ} {c : Connection σ}

theorem update_unlinked (h : c.link = none) :
    endState (update host c) = endState (connect host c) := by
  unfold update
  rw [h]
  exact connectInTick_end host c

/-- A tick on a link comes to no more than polling does, or polling costs the link and the tick
ends with a reconnect. -/
theorem update_cases {k : LinkId} (h : c.link = some k) :
    (∃ d, poll host (host.link k) c = .ok () d ∧ update host c = .ok () d) ∨
      (∃ f d, poll host (host.link k) c = .error (.sink f) d ∧ update host c = .error (.sink f) d) ∨
      ∃ e d, poll host (host.link k) c = .error e d ∧ Session.NotAtSink e ∧
        update host c = reconnect host d := by
  unfold update
  simp only [h]
  cases poll host (host.link k) c with
  | ok u d => exact Or.inl ⟨d, rfl, rfl⟩
  | error e d =>
    refine Or.inr ?_
    cases e with
    | sink f => exact Or.inl ⟨f, d, rfl, rfl⟩
    | transport f => exact Or.inr ⟨_, d, rfl, (fun g hg => by cases hg), rfl⟩
    | pool f => exact Or.inr ⟨_, d, rfl, (fun g hg => by cases hg), rfl⟩
    | invalidPoolSize size => exact Or.inr ⟨_, d, rfl, (fun g hg => by cases hg), rfl⟩

theorem reconnect_end :
    endState (reconnect host c) = endState (connect host
      { c with link := none, phase := .disconnected, reconnects := c.reconnects + 1 }) := by
  unfold reconnect
  rw [connectInTick_end]

/-- What connecting comes to: no link, or a link in handshake. Neither depends on what was
before. -/
theorem connect_cases (host : Host σ) (c : Connection σ) :
    (∃ w, endState (connect host c) = { c.dropLink with world := w }) ∨
      ∃ k w, connect host c = .ok () { c.dropLink with
        world := w, link := some k, phase := .handshaking, lastRequest := none,
        requesting := true } := by
  unfold connect
  simp only
  cases host.awaitLink c.dropLink.timing.reconnectDelay c.dropLink.world with
  | error e w => exact Or.inl ⟨w, rfl⟩
  | ok k w =>
    simp only
    cases host.sleep c.dropLink.timing.settleDelay w with
    | mk rested v =>
      cases rested with
      | false => exact Or.inl ⟨v, rfl⟩
      | true => exact Or.inr ⟨k, v, rfl⟩

end

end MemoryBridge.Connection
