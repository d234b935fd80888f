import MemoryBridge.Proofs.Calls
import MemoryBridge.Proofs.Hearing
import MemoryBridge.Proofs.Isolation.Tick
import MemoryBridge.Proofs.Recording.Erasure

/-!
# Calls on a recorded host

A run of calls on a recorded host is the same run on the host (`run_plain`). `Opened` is what
connecting does to a record and to its connection, and `update_end` says when a tick connects: if it
has no link, or if polling fails and not at the sink.
-/

namespace MemoryBridge.Connection

open Recorded

variable {σ : Type} {host : Host σ} {k : LinkId}

/-- A call on a recorded host. Changes of the world leave the record alone. -/
def Call.recorded : Call σ → Call (Recorded σ)
  | .connect => .connect
  | .update => .update
  | .append bytes => .append bytes
  | .drain limit => .drain limit
  | .world change => .world fun s => { s with world := change s.world }

theorem after_plain (host : Host σ) (c : Connection (Recorded σ)) (call : Call σ) :
    (after host.recorded c call.recorded).plain = after host c.plain call := by
  cases call with
  | connect => exact (connect_plain host c).ends
  | update => exact (update_plain host c).ends
  | append bytes => rfl
  | drain limit => rfl
  | world change => rfl

/-- A run on a recorded host is a run on the host. -/
theorem run_plain (host : Host σ) (c : Connection (Recorded σ)) (calls : List (Call σ)) :
    (run host.recorded c (calls.map Call.recorded)).plain = run host c.plain calls :=
  run_map (after_plain host) c calls

/-! ## Opening links -/

/-- From `c` to `d` links were opened, and a link that is held then is new and in handshake. -/
structure Opened (c d : Connection (Recorded σ)) : Prop where
  opens : Opens c.world d.world
  config : d.session.config = c.session.config
  mailbox : d.session.mailbox = c.session.mailbox
  handshakesSent : d.handshakesSent = c.handshakesSent
  held : ∀ k, d.link = some k → c.world.links.length ≤ k ∧ d.world.links.length = k + 1
  asking : ∀ k, d.link = some k →
    d.phase = .handshaking ∧ d.requesting = true ∧ d.lastRequest = none

theorem connect_opened (host : Host σ) (c : Connection (Recorded σ)) :
    Opened c (endState (connect host.recorded c)) := by
  obtain ⟨hOpens, hConfig, hHeld⟩ := @connect_opens σ host c
  have hNew : ∀ k, (endState (connect host.recorded c)).link = some k →
      c.world.links.length ≤ k ∧ (endState (connect host.recorded c)).world.links.length = k + 1 :=
    fun k hk => ⟨(hHeld k hk).2.1, (hHeld k hk).1⟩
  rcases connect_cases host.recorded c with ⟨w, hEnd⟩ | ⟨k, w, hEnd⟩
  · refine ⟨hOpens, hConfig, by rw [hEnd]; rfl, by rw [hEnd]; rfl, hNew, fun k hk => ?_⟩
    rw [hEnd] at hk
    cases hk
  · refine ⟨hOpens, hConfig, by rw [hEnd]; rfl, by rw [hEnd]; rfl, hNew, fun k hk => ?_⟩
    rw [hEnd]
    exact ⟨rfl, rfl, rfl⟩

/-- A tick that keeps its link ends where polling ends. A tick that loses it goes on to connect. -/
theorem update_end {c : Connection (Recorded σ)} (hLink : c.link = some k) :
    ¬ Breaks (poll host.recorded (host.recorded.link k) c) ∧
        endState (update host.recorded c) = endState (poll host.recorded (host.recorded.link k) c) ∨
      Breaks (poll host.recorded (host.recorded.link k) c) ∧
        Opened (endState (poll host.recorded (host.recorded.link k) c))
          (endState (update host.recorded c)) := by
  have hReconnect : ∀ d, Opened d (endState (reconnect host.recorded d)) := by
    intro d
    rw [reconnect_end]
    have h := connect_opened host { d with
      link := none, phase := .disconnected, reconnects := d.reconnects + 1 }
    exact ⟨h.opens, h.config, h.mailbox, h.handshakesSent, h.held, h.asking⟩
  rcases (@update_cases _ host.recorded c k hLink) with
    ⟨d, hRun, hUpdate⟩ | ⟨f, d, hRun, hUpdate⟩ | ⟨e, d, hRun, hNot, hUpdate⟩
  · rw [hRun, hUpdate]
    exact Or.inl ⟨not_breaks_ok () d, rfl⟩
  · rw [hRun, hUpdate]
    exact Or.inl ⟨fun h => breaks_error_iff.mp h f rfl, rfl⟩
  · rw [hRun, hUpdate]
    exact Or.inr ⟨breaks_error_iff.mpr hNot, hReconnect d⟩

end MemoryBridge.Connection
