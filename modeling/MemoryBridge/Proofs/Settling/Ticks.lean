import MemoryBridge.Proofs.Listening
import MemoryBridge.Proofs.Settling.Bytes

/-!
# Ticks that the device ends

The device can end a tick without any fault of the link: it asks for bytes outside of its pool, or
for a pool of negative size. `poll_breach_iff` says that a tick fails for this reason exactly if it
hears such a request.
-/

namespace MemoryBridge

/-- With this byte the device has asked for what ends the session. -/
def Hearing.IsBreach {σ : Type} (host : Host σ) (m : Meter σ) (h : Hearing σ) : Prop :=
  h.before.session.BreachByte h.byte (h.fetched host m)

namespace Connection

variable {σ : Type} {host : Host σ} {k : LinkId} {m : Meter σ}

/-- One byte fails in the connection as it fails in the session. -/
theorem handleByte_fails (p : ServeError → Bool) (b : UInt8) (c : Connection σ) :
    failsBy p (handleByte host (host.link k) b c) =
      failsBy p ((⟨k, b, c.toServing⟩ : Hearing σ).outcome host) := by
  unfold handleByte Hearing.outcome
  cases hRun : Session.processByte (host.link k) host.sink b c.toServing with
  | error e st => rw [bind_error (serve_error hRun), failsBy_error, failsBy_error]
  | ok handled st =>
    rw [bind_ok (serve_ok hRun)]
    split <;> rfl

theorem handleByte_breach_iff (hMeters : host.Meters k m) (b : UInt8) (c : Connection σ) :
    failsBy ServeError.isBreach (handleByte host (host.link k) b c) = true ↔
      (⟨k, b, c.toServing⟩ : Hearing σ).IsBreach host m := by
  have hHearing : host.Meters (⟨k, b, c.toServing⟩ : Hearing σ).link m := hMeters
  rw [handleByte_fails, failsBy_iff]
  exact (Hearing.outcome_settles hHearing).breach

/-- A read can fail, but the device asks for nothing by it. -/
theorem pollByte_no_breach (link : Link σ) (c : Connection σ) :
    failsBy ServeError.isBreach (pollByte link c) = false := by
  unfold pollByte
  split
  · rfl
  · split <;> rfl

theorem requestHandshake_no_breach (host : Host σ) (link : Link σ) (c : Connection σ) :
    failsBy ServeError.isBreach (requestHandshake host link c) = false := by
  by_cases hDue : c.requestDue host = true
  · rw [requestHandshake_due hDue]
    split
    · rfl
    · split <;> rfl
  · unfold requestHandshake
    rw [bind_ok (get_run c), if_neg hDue]
    rfl

theorem flush_no_breach (host : Host σ) (c : Connection σ) :
    failsBy ServeError.isBreach (serve (Serve.onSink host.sink.flush) c) = false := by
  unfold serve Serve.onSink Serve.onWorld
  cases host.sink.flush c.world <;> rfl

/-- Of all the bytes that a tick hears the last one may be a breach. -/
theorem pollBytes_breach_iff (hMeters : host.Meters k m) (started n : Nat) (c : Connection σ) :
    failsBy ServeError.isBreach (pollBytes host (host.link k) started n c) = true ↔
      ∃ h ∈ hearings host k started n c, h.IsBreach host m := by
  induction n generalizing c with
  | zero => simp [pollBytes, hearings, pure, EStateM.pure]
  | succ n ih =>
    have hPolled := pollByte_no_breach (host.link k) c
    unfold pollBytes hearings
    cases hPoll : pollByte (host.link k) c with
    | error e d =>
      rw [hPoll] at hPolled
      rw [bind_error hPoll]
      simpa using hPolled
    | ok polled d =>
      rw [bind_ok hPoll]
      cases polled with
      | none => simp [pure, EStateM.pure]
      | some b =>
        have hByte := handleByte_breach_iff hMeters b d
        simp only
        cases hHandle : handleByte host (host.link k) b d with
        | error e u =>
          rw [hHandle] at hByte
          rw [bind_error hHandle]
          simpa using hByte
        | ok v u =>
          have hNone : ¬ (⟨k, b, d.toServing⟩ : Hearing σ).IsBreach host m := by
            rw [hHandle] at hByte
            rw [← hByte]
            simp
          rw [bind_ok hHandle, bind_ok (get_run u)]
          simp only [List.mem_cons, exists_eq_or_imp]
          split
          · simp [pure, EStateM.pure, hNone]
          · simp only [hNone, false_or]
            exact ih u

/-- A tick fails for a breach exactly if it hears one. -/
theorem poll_breach_iff (hMeters : host.Meters k m) (c : Connection σ) :
    failsBy ServeError.isBreach (poll host (host.link k) c) = true ↔
      ∃ h ∈ heard host k c, h.IsBreach host m := by
  have hAsked := requestHandshake_no_breach host (host.link k) c
  unfold poll heard
  cases hRequest : requestHandshake host (host.link k) c with
  | error e d =>
    rw [hRequest] at hAsked
    rw [bind_error hRequest]
    simpa using hAsked
  | ok u d =>
    rw [bind_ok hRequest, bind_ok (get_run d)]
    have hBytes := pollBytes_breach_iff hMeters (host.clock d.world) maxTickBytes d
    simp only
    cases hRun : pollBytes host (host.link k) (host.clock d.world) maxTickBytes d with
    | error e v =>
      rw [hRun] at hBytes
      rw [bind_error hRun]
      exact hBytes
    | ok u v =>
      rw [hRun] at hBytes
      rw [bind_ok hRun, flush_no_breach host v, ← hBytes]
      rfl

end Connection

end MemoryBridge
