import Mathlib
import MemoryBridge.Proofs.Atomicity
import MemoryBridge.Proofs.Containment
import MemoryBridge.Rehearsal.World

/-!
# When console output is flushed

A tick flushes the sink once, as the last thing that it does on a link that it keeps: whether the
link had nothing more, the bytes or the time of the tick were used up, or the world was stopped. So
all that the sink took in the tick is flushed (`flushed_unless_lost`).

A tick that loses its link does not come to that. What the sink took in it stays unflushed
while the connection waits for another link, and this wait may be a long one;
`shown_and_not_flushed` is such a run.
-/

namespace MemoryBridge

variable {σ : Type}

namespace Operation

/-- A flush of the sink. -/
def isPassFlush : Operation → Bool
  | .passFlush _ => true
  | _ => false

/-- The sink took something. -/
def passes : Operation → Bool
  | .pass _ (.ok n) => 0 < n
  | _ => false

end Operation

namespace Traced

/-- Whatever the sink took was flushed after that. -/
def Flushed (ops : List Operation) : Prop :=
  ∀ front op rest, ops = front ++ op :: rest → op.passes = true →
    ∃ last ∈ rest, last.isPassFlush = true

section

variable {ops : List Operation}

theorem flushed_concat (front : List Operation) (result : Except Fault Unit) :
    Flushed (front ++ [.passFlush result]) := by
  intro before op rest hSplit hPasses
  rcases List.eq_nil_or_concat rest with rfl | ⟨rest, last, rfl⟩
  · obtain ⟨-, hSame⟩ := List.append_inj' hSplit rfl
    cases hSame
    cases hPasses
  · rw [List.concat_eq_append, ← List.cons_append, ← List.append_assoc] at hSplit
    obtain ⟨-, hSame⟩ := List.append_inj' hSplit rfl
    cases hSame
    exact ⟨.passFlush result, by simp, rfl⟩

/-- Without a flush nothing may have been taken. -/
theorem flushed_iff_of_unflushed (h : ∀ op ∈ ops, op.isPassFlush = false) :
    Flushed ops ↔ ∀ op ∈ ops, op.passes = false := by
  constructor
  · intro hFlushed op hOp
    obtain ⟨front, rest, hSplit⟩ := List.append_of_mem hOp
    by_contra hPasses
    obtain ⟨last, hLast, hFlush⟩ := hFlushed front op rest hSplit (by simpa using hPasses)
    have hNot := h last (by simp [hSplit, hLast])
    cases hNot.symm.trans hFlush
  · rintro hNone front op rest rfl hPasses
    have hNot := hNone op (by simp)
    cases hNot.symm.trans hPasses

end

/-- From `s` to `t` the sink was not flushed. -/
def Unflushed : Traced σ → Traced σ → Prop :=
  Adds fun op => op.isPassFlush = false

theorem note_unflushed {α : Type} {operation : Except Fault α → Operation} (act : EStateM Fault σ α)
    (h : ∀ result, (operation result).isPassFlush = false) : Moves Unflushed (note operation act) :=
  note_adds act h

variable (host : Host σ) (k : LinkId)

theorem link_unflushed : (host.traced.link k).Keeps Unflushed where
  read _ s := note_unflushed _ (fun _ => rfl) s
  write _ s := note_unflushed _ (fun _ => rfl) s
  flush s := note_unflushed _ (fun _ => rfl) s
  setMode mode s := note_unflushed _ (fun _ => rfl) (s.ask k mode)

theorem pass_unflushed (bs : Bytes) : Moves Unflushed (host.traced.sink.write bs) :=
  note_unflushed _ fun _ => rfl

end Traced

namespace Connection

open Traced

variable (host : Host σ)

/-- Polling flushes the sink when all else has ended well, and not otherwise. -/
theorem poll_flushes (k : LinkId) (c : Connection (Traced σ)) :
    let r := poll host.traced (host.traced.link k) c
    ∃ front, (∀ op ∈ front, op.isPassFlush = false) ∧
      ((∃ e, toExcept r = .error e) ∧ (endState r).world.trace = c.world.trace ++ front ∨
        ∃ result, toExcept r = result.mapError .sink ∧
          (endState r).world.trace = c.world.trace ++ (front ++ [.passFlush result])) := by
  intro r
  have hD := adds_durable (σ := σ) fun op => op.isPassFlush = false
  have hAsked := requestHandshake_moves hD host.traced (link_unflushed host k) c
  have hRun : r = poll host.traced (host.traced.link k) c := rfl
  unfold poll at hRun
  cases hRequest : requestHandshake host.traced (host.traced.link k) c with
  | error e d =>
    rw [hRequest] at hAsked
    obtain ⟨front, hTrace, hFront⟩ := hAsked
    rw [hRun, bind_error hRequest]
    exact ⟨front, hFront, Or.inl ⟨⟨e, rfl⟩, hTrace⟩⟩
  | ok u d =>
    rw [hRequest] at hAsked
    rw [bind_ok hRequest, bind_ok (get_run d)] at hRun
    have hPolled :=
      hD.trans hAsked (pollBytes_moves hD host.traced (link_unflushed host k) (pass_unflushed host)
        (host.traced.clock d.world) maxTickBytes d)
    cases hBytes : pollBytes host.traced (host.traced.link k)
      (host.traced.clock d.world) maxTickBytes d with
    | error e v =>
      rw [hBytes] at hPolled
      obtain ⟨front, hTrace, hFront⟩ := hPolled
      rw [hRun, bind_error hBytes]
      exact ⟨front, hFront, Or.inl ⟨⟨e, rfl⟩, hTrace⟩⟩
    | ok u v =>
      rw [hBytes] at hPolled
      obtain ⟨front, hTrace, hFront⟩ := hPolled
      have hTrace : v.world.trace = c.world.trace ++ front := hTrace
      rw [hRun, bind_ok hBytes]
      have hFlushed : (endState (host.traced.sink.flush v.world)).trace =
          v.world.trace ++ [.passFlush (toExcept (host.traced.sink.flush v.world))] :=
        (note_end .passFlush host.sink.flush v.world).1
      rw [hTrace, List.append_assoc] at hFlushed
      refine ⟨front, hFront, Or.inr ⟨toExcept (host.traced.sink.flush v.world), ?_⟩⟩
      unfold serve Serve.onSink Serve.onWorld
      cases hFlush : host.traced.sink.flush v.world with
      | ok u w =>
        rw [hFlush] at hFlushed
        exact ⟨rfl, hFlushed⟩
      | error f w =>
        rw [hFlush] at hFlushed
        exact ⟨rfl, hFlushed⟩

/-- A connection with an empty trace. -/
def traced (c : Connection σ) : Connection (Traced σ) where
  session := c.session
  world := { world := c.world }
  timing := c.timing
  link := c.link
  phase := c.phase
  lastRequest := c.lastRequest
  requesting := c.requesting
  reconnects := c.reconnects
  handshakesSent := c.handshakesSent

/-- What a tick does about the sink. Its operations are `tick`, and `later` are those of a
reconnect. -/
structure FlushesOnce (host : Host σ) (c : Connection (Traced σ))
    (tick later : List Operation) : Prop where
  trace : (endState (update host.traced c)).world.trace = c.world.trace ++ (tick ++ later)
  opens : ∀ op ∈ later, op.opens = true
  unlinked : c.link = none → tick = []
  /-- A tick that keeps its link flushes the sink once, in the end, or fails at it. -/
  kept : c.link ≠ none → (endState (update host.traced c)).reconnects = c.reconnects →
    later = [] ∧ ((∃ f, toExcept (update host.traced c) = .error (.sink f)) ∨
      ∃ front, tick = front ++ [.passFlush (.ok ())] ∧ ∀ op ∈ front, op.isPassFlush = false)
  /-- A tick that loses its link does not flush the sink. -/
  lost : (endState (update host.traced c)).reconnects ≠ c.reconnects →
    ∀ op ∈ tick, op.isPassFlush = false

section

variable {host} {c d : Connection (Traced σ)} {k : LinkId}

theorem flushesOnce_of_unlinked (hLink : c.link = none) : ∃ later, FlushesOnce host c [] later := by
  have hEnd : endState (update host.traced c) = endState (connect host.traced c) :=
    update_unlinked hLink
  obtain ⟨later, hTrace, hOpens⟩ := connect_opens_traced host c
  refine ⟨later, ?_, hOpens, fun _ => rfl, fun hHeld => absurd hLink hHeld,
    fun _ op hOp => by cases hOp⟩
  rw [hEnd, List.nil_append]
  exact hTrace

/-- A tick that comes to no more than polling does. -/
theorem flushesOnce_of_kept {tick : List Operation} (hLink : c.link = some k)
    (hPoll : endState (poll host.traced (host.traced.link k) c) = d)
    (hEnd : endState (update host.traced c) = d) (hTrace : d.world.trace = c.world.trace ++ tick)
    (hTick : (∃ f, toExcept (update host.traced c) = .error (.sink f)) ∨
      ∃ front, tick = front ++ [.passFlush (.ok ())] ∧ ∀ op ∈ front, op.isPassFlush = false) :
    FlushesOnce host c tick [] where
  trace := by rw [hEnd, hTrace, List.append_nil]
  opens := by simp
  unlinked hNone := by cases hLink.symm.trans hNone
  kept _ _ := ⟨rfl, hTick⟩
  lost hLost := by
    rw [hEnd, ← hPoll] at hLost
    exact absurd (poll_stays host.traced (host.traced.link k) c).2 hLost

/-- A tick that goes on to connect. -/
theorem flushesOnce_of_lost {e : ServeError} {tick : List Operation} (hLink : c.link = some k)
    (hRun : poll host.traced (host.traced.link k) c = .error e d)
    (hEnd : update host.traced c = reconnect host.traced d)
    (hTrace : d.world.trace = c.world.trace ++ tick) (hTick : ∀ op ∈ tick, op.isPassFlush = false) :
    ∃ later, FlushesOnce host c tick later := by
  let dropped : Connection (Traced σ) :=
    { d with link := none, phase := .disconnected, reconnects := d.reconnects + 1 }
  obtain ⟨later, hLater, hOpens⟩ := connect_opens_traced host dropped
  have hCount : d.reconnects = c.reconnects := by
    have hStays := (poll_stays host.traced (host.traced.link k) c).2
    rwa [hRun] at hStays
  refine ⟨later, ?_, hOpens, fun hNone => ?_, fun _ hKept => ?_, fun _ => hTick⟩
  · rw [hEnd, reconnect_end, hLater, ← List.append_assoc, ← hTrace]
  · cases hLink.symm.trans hNone
  · rw [hEnd, reconnect_reconnects, hCount] at hKept
    omega

theorem update_flushesOnce (host : Host σ) (c : Connection (Traced σ)) :
    ∃ tick later, FlushesOnce host c tick later := by
  cases hLink : c.link with
  | none => exact ⟨[], flushesOnce_of_unlinked hLink⟩
  | some k =>
    obtain ⟨front, hFront, hPolled⟩ := poll_flushes host k c
    rcases @update_cases _ host.traced c k hLink with
      ⟨d, hRun, hEnd⟩ | ⟨f, d, hRun, hEnd⟩ | ⟨e, d, hRun, hNotSink, hEnd⟩
    · rw [hRun] at hPolled
      rcases hPolled with ⟨⟨e, hFails⟩, -⟩ | ⟨result, hResult, hTrace⟩
      · cases hFails
      · cases result with
        | error f => cases hResult
        | ok u =>
          have hFlushes : ∃ before :
              List Operation, front ++ [.passFlush (.ok u)] = before ++ [.passFlush (.ok ())] ∧
              ∀ op ∈ before, op.isPassFlush = false := ⟨front, rfl, hFront⟩
          exact ⟨_, [], flushesOnce_of_kept hLink (congrArg endState hRun)
            (congrArg endState hEnd) hTrace (Or.inr hFlushes)⟩
    · have hFails : ∃ f, toExcept (update host.traced c) = .error (.sink f) :=
        ⟨f, by rw [hEnd]; rfl⟩
      rw [hRun] at hPolled
      rcases hPolled with ⟨-, hTrace⟩ | ⟨result, -, hTrace⟩
      · exact ⟨_, [], flushesOnce_of_kept hLink (congrArg endState hRun)
          (congrArg endState hEnd) hTrace (Or.inl hFails)⟩
      · exact ⟨_, [], flushesOnce_of_kept hLink (congrArg endState hRun)
          (congrArg endState hEnd) hTrace (Or.inl hFails)⟩
    · rw [hRun] at hPolled
      rcases hPolled with ⟨-, hTrace⟩ | ⟨result, hResult, -⟩
      · exact ⟨front, flushesOnce_of_lost hLink hRun hEnd hTrace hFront⟩
      · -- A flush that fails is a failure of the sink, and such a failure does not cost the link.
        cases result with
        | ok u => cases hResult
        | error f =>
          cases hResult
          exact absurd rfl (hNotSink f)

end

/-- **Console output is flushed unless the link is lost.** In every state of a connection, on every
host: a tick that keeps its link flushes the sink once, as the last operation of the tick, or it has
failed at the sink. A tick that loses its link does not flush the sink before it connects anew, and
connecting does not either. So, unless the tick fails at the sink, what the sink took in it has been
flushed exactly if the link was kept, or nothing was taken. The connection is traced, which changes
nothing else about it. -/
theorem flushed_unless_lost (host : Host σ) (c : Connection σ) :
    let r := update host.traced c.traced
    Alike Untraced r (update host c) ∧
      ∃ tick later, FlushesOnce host c.traced tick later ∧
        ((∀ f, toExcept (update host c) ≠ .error (.sink f)) →
          (Flushed tick ↔ ((∃ op ∈ tick, op.passes = true) →
              (endState (update host c)).reconnects = c.reconnects))) := by
  intro r
  have hAlike : Alike Untraced r (update host c) := update_untraced host c.traced
  obtain ⟨tick, later, hOnce⟩ := update_flushesOnce host c.traced
  refine ⟨hAlike, tick, later, hOnce, fun hNotSink => ?_⟩
  have hCount : (endState r).reconnects = (endState (update host c)).reconnects :=
    congrArg Connection.reconnects hAlike.ends
  have hOutcome : toExcept r = toExcept (update host c) := Session.toExcept_of_alike hAlike
  rw [← hCount]
  by_cases hKept : (endState r).reconnects = c.reconnects
  · refine iff_of_true ?_ fun _ => hKept
    by_cases hLink : c.link = none
    · rw [hOnce.unlinked hLink]
      exact (flushed_iff_of_unflushed (by simp)).mpr (by simp)
    · rcases (hOnce.kept hLink hKept).2 with ⟨f, hFails⟩ | ⟨front, rfl, -⟩
      · exact absurd (hOutcome.symm.trans hFails) (hNotSink f)
      · exact flushed_concat front (.ok ())
  · rw [flushed_iff_of_unflushed (hOnce.lost hKept)]
    simp [hKept]

/-- A world with two links. On the first one the device sends a byte of console output, and
then the link fails. -/
def failingWorld : World where
  lines := [{ arrivals := [.data [0x41], .fault .other] }, {}]
  offers := [{}, {}]

/-- The tick passes the byte on, goes on to the second link and ends well. It has not flushed the
sink. -/
theorem shown_and_not_flushed :
    let host := World.host fun _ => false
    let c := endState (connect host (fresh {} .empty ⟨0, 0, 0⟩ failingWorld))
    let r := update host.traced c.traced
    (endState r).world.trace.any Operation.passes = true ∧
      (endState r).world.trace.any Operation.isPassFlush = false ∧
      (endState r).world.world.sink.received.toList = [0x41] ∧ succeeds r = true ∧
      succeeds (update host c) = true ∧
      (endState r).link = some 1 ∧ (endState r).reconnects = 1 := by
  cbv

end Connection

end MemoryBridge
