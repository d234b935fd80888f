import MemoryBridge.Connection.Motion

/-!
# The poll loop

The bridge runs ticks until it is stopped and moves at most one chunk of console input into the
mailbox after each. The loop ends because every tick that completes spends some of the world's
budget, or leaves the world stopped: `Connection.update_spends`.
-/

namespace MemoryBridge

/-- What a look into the input channel finds. -/
inductive Received
  | chunk (bytes : Bytes)
  | empty
  /-- Empty for good: all senders are gone. -/
  | disconnected
  deriving DecidableEq, Repr

/-- A world that also delivers console input, and in which polling does not go on for ever: a poll
read that gets through or finds nothing spends some of the budget or leaves the world stopped. -/
structure BridgeHost (σ : Type) extends Host σ where
  receive : σ → Received × σ
  receive_later : ∀ s, Later stopped budget s (receive s).2
  read_spends : ∀ {id s bs t}, (link id).read 1 s = .ok bs t →
    stopped t = true ∨ budget t < budget s
  idle_spends : ∀ {id s f t}, (link id).read 1 s = .error f t → f.isIdle = true →
    stopped t = true ∨ budget t < budget s

namespace Connection

variable {σ α : Type}

/-- The world of `c` is stopped or has spent some of what `budget` allowed. -/
def Spent (host : Host σ) (budget : Nat) (c : Connection σ) : Prop :=
  host.stopped c.world = true ∨ host.budget c.world < budget

theorem Spent.later {host : Host σ} {budget : Nat} {c d : Connection σ} (h : Spent host budget c)
    (hLater : host.After c.world d.world) : Spent host budget d := by
  rcases h with h | h
  · exact Or.inl (hLater.1 h)
  · exact Or.inr (Nat.lt_of_le_of_lt hLater.2 h)

theorem pollByte_spends (host : BridgeHost σ) (id : LinkId) {c d : Connection σ}
    {polled : Option UInt8} (h : pollByte (host.link id) c = .ok polled d) :
    Spent host.toHost (host.budget c.world) d := by
  unfold pollByte at h
  split at h
  · rename_i bs w hr
    simp only [EStateM.Result.ok.injEq] at h
    rw [← h.2]
    exact host.read_spends hr
  · rename_i f w hr
    split at h
    · rename_i hf
      simp only [EStateM.Result.ok.injEq] at h
      rw [← h.2]
      exact host.idle_spends hr hf
    · simp at h

/-- What follows a step that has spent something has spent it too. -/
theorem spent_of_moves {host : Host σ} {ε : Type} {act : EStateM ε (Connection σ) α} {budget : Nat}
    {c : Connection σ} (hAct : Moves (WorldRel host.After) act) (h : Spent host budget c) :
    Spent host budget (endState (act c)) :=
  h.later (hAct c)

theorem pollBytes_spends (host : BridgeHost σ) (id : LinkId) (started n : Nat) {c d : Connection σ}
    (h : pollBytes host.toHost (host.link id) started (n + 1) c = .ok () d) :
    Spent host.toHost (host.budget c.world) d := by
  have hR := host.toHost.after_durable
  have hD := worldRel_durable hR
  have hLink : (host.link id).Keeps host.toHost.After := host.link_keeps id
  have hSink : host.sink.Keeps host.toHost.After := host.sink_keeps
  unfold pollBytes at h
  simp only [bind, EStateM.bind] at h
  split at h
  · rename_i polled c₁ hp
    have h₁ := pollByte_spends host id hp
    have hEnd : d = endState (EStateM.Result.ok () d : EStateM.Result ServeError _ _) := rfl
    rw [hEnd, ← h]
    refine spent_of_moves ?_ h₁
    cases polled with
    | none => exact Moves.pure hD _
    | some b =>
      refine Moves.bind hD (handleByte_moves hR host.toHost hLink hSink.write b) fun _ => ?_
      refine Moves.bind hD (get_moves hR) fun c => ?_
      split
      · exact Moves.pure hD _
      · exact pollBytes_moves hR host.toHost hLink hSink.write _ _
  · simp at h

theorem poll_spends (host : BridgeHost σ) (id : LinkId) {c d : Connection σ}
    (h : poll host.toHost (host.link id) c = .ok () d) :
    Spent host.toHost (host.budget c.world) d := by
  have hR := host.toHost.after_durable
  have hLink : (host.link id).Keeps host.toHost.After := host.link_keeps id
  have hSink : host.sink.Keeps host.toHost.After := host.sink_keeps
  unfold poll at h
  simp only [bind, EStateM.bind] at h
  split at h
  · rename_i c₁ hReq
    have h₁ := requestHandshake_moves hR host.toHost hLink c
    rw [hReq] at h₁
    split at h
    · rename_i a c₂ hGet
      cases hGet
      split at h
      · rename_i c₃ hPoll
        have h₂ := pollBytes_spends host id _ _ hPoll
        have hEnd : d = endState (EStateM.Result.ok () d : EStateM.Result ServeError _ _) := rfl
        rw [hEnd, ← h]
        refine spent_of_moves (flush_moves hSink) ?_
        rcases h₂ with h₂ | h₂
        · exact Or.inl h₂
        · exact Or.inr (Nat.lt_of_lt_of_le h₂ h₁.2)
      · simp at h
    · simp at h
  · simp at h

/-- A completed tick has spent some of the budget or found the world stopped. -/
theorem update_spends (host : BridgeHost σ) {c d : Connection σ}
    (h : update host.toHost c = .ok () d) : Spent host.toHost (host.budget c.world) d := by
  have hEnd : d = endState (EStateM.Result.ok () d : EStateM.Result TickError _ _) := rfl
  unfold update at h
  split at h
  · rw [hEnd, ← h]
    exact (connectInTick_spends host.toHost c).2
  · rename_i id hl
    have hAfter := poll_after host.toHost id c
    split at h
    · rename_i c₁ hp
      simp only [EStateM.Result.ok.injEq, true_and] at h
      rw [← h]
      exact poll_spends host id hp
    · simp at h
    · rename_i e c₁ _ hp
      rw [hp] at hAfter
      rw [hEnd, ← h]
      rcases (reconnect_spends host.toHost c₁).2 with h₁ | h₁
      · exact Or.inl h₁
      · exact Or.inr (Nat.lt_of_lt_of_le h₁ hAfter.2)

end Connection

namespace Bridge

variable {σ : Type}

def appendInput (bytes : Bytes) (c : Connection σ) : Connection σ :=
  { c with session.mailbox := c.session.mailbox.append bytes }

/-- Moves at most one chunk from the input channel to the mailbox. Answers whether the
channel may deliver more. -/
def takeInput (host : BridgeHost σ) (c : Connection σ) : Bool × Connection σ :=
  match host.receive c.world with
  | (.chunk bytes, w) => (true, appendInput bytes { c with world := w })
  | (.empty, w) => (true, { c with world := w })
  | (.disconnected, w) => (false, { c with world := w })

/-- `takeInput` as long as the channel is open. -/
def takeInputIf (host : BridgeHost σ) (inputOpen : Bool) (c : Connection σ) : Bool × Connection σ :=
  if inputOpen then takeInput host c else (false, c)

theorem takeInputIf_after (host : BridgeHost σ) (inputOpen : Bool) (c : Connection σ) :
    host.toHost.After c.world (takeInputIf host inputOpen c).2.world := by
  unfold takeInputIf
  split
  · have := host.receive_later c.world
    unfold takeInput
    cases hr : host.receive c.world with
    | mk r w =>
      rw [hr] at this
      cases r <;> exact this
  · exact host.toHost.after_durable.refl _

/-- How much the loop may still do. -/
def remaining (host : Host σ) (c : Connection σ) : Nat :=
  if host.stopped c.world then 0 else host.budget c.world + 1

theorem remaining_lt {host : Host σ} {c d : Connection σ} (hRuns : host.stopped c.world = false)
    (h : Connection.Spent host (host.budget c.world) d) : remaining host d < remaining host c := by
  unfold remaining
  rcases h with h | h
  · simp [h, hRuns]
  · by_cases hd : host.stopped d.world <;> simp [hd, hRuns]
    omega

/-- Runs ticks until the world is stopped. Only the passthrough sink can end the loop with a
fault. -/
def pollLoop (host : BridgeHost σ) (inputOpen : Bool) (c : Connection σ) :
    EStateM.Result Fault (Connection σ) Unit :=
  if _hs : host.stopped c.world then .ok () c
  else
    match _hu : c.update host.toHost with
    | .error .stopped d => .ok () d
    | .error (.sink f) d => .error f d
    | .ok () d =>
      pollLoop host (takeInputIf host inputOpen d).1 (takeInputIf host inputOpen d).2
termination_by remaining host.toHost c
decreasing_by
  refine remaining_lt (by simpa using _hs) ?_
  exact (Connection.update_spends host _hu).later (takeInputIf_after host inputOpen d)

/-- Connects and runs the poll loop. A stop while connecting is a clean end. -/
def run (host : BridgeHost σ) : EStateM Fault (Connection σ) Unit := fun c =>
  match c.connect host.toHost with
  | .error _ d => .ok () d
  | .ok () d => pollLoop host true d

end Bridge

end MemoryBridge
