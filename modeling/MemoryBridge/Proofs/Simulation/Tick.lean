import MemoryBridge.Connection
import MemoryBridge.Proofs.Simulation

/-!
# Ticks that follow each other

A tick polls single bytes and looks at the clock, so more is asked here than of pumps: every single
operation of one link follows the same operation of the other. Then full reads, skips and full
writes do as well, and so does a whole tick up to a reconnect: `poll_follows`. The links themselves
may have different numbers.
-/

namespace MemoryBridge

variable {σ τ α : Type} {R : σ → τ → Prop}

/-! ## Single operations -/

namespace Source

variable {source : Source σ} {other : Source τ}

theorem readExact_follows (hRead : ∀ n, Follows R (source.read n) (other.read n)) (n : Nat) :
    Follows R (source.readExact n) (other.readExact n) := by
  intro s t hst
  fun_induction source.readExact n s generalizing t with
  | case1 s =>
    rw [readExact, if_pos rfl]
    exact .ok hst
  | case2 n s hn s' hr =>
    obtain ⟨t', hr', h⟩ := (hRead n).of_ok hst hr
    rw [other.readExact_read hn, hr']
    exact .error h
  | case3 n s hn b bs s' hr rest u hu ih =>
    obtain ⟨t', hr', h⟩ := (hRead n).of_ok hst hr
    have hRest := ih t' h
    rw [other.readExact_read hn, hr']
    simp only
    rw [hu] at hRest
    generalize other.readExact (n - (b :: bs).length) t' = r at hRest
    cases hRest with
    | ok h' => exact .ok h'
  | case4 n s hn b bs s' hr f u hu ih =>
    obtain ⟨t', hr', h⟩ := (hRead n).of_ok hst hr
    have hRest := ih t' h
    rw [other.readExact_read hn, hr']
    simp only
    rw [hu] at hRest
    generalize other.readExact (n - (b :: bs).length) t' = r at hRest
    cases hRest with
    | error h' => exact .error h'
  | case5 n s hn f s' hr hf ih =>
    obtain ⟨t', hr', h⟩ := (hRead n).of_error hst hr
    rw [other.readExact_read hn, hr']
    simp only
    rw [if_pos hf]
    exact ih t' h
  | case6 n s hn f s' hr hf =>
    obtain ⟨t', hr', h⟩ := (hRead n).of_error hst hr
    rw [other.readExact_read hn, hr']
    simp only
    rw [if_neg hf]
    exact .error h

theorem discard_follows (hRead : ∀ n, Follows R (source.read n) (other.read n)) (n : Nat) :
    Follows R (source.discard n) (other.discard n) := by
  intro s t hst
  fun_induction source.discard n s generalizing t with
  | case1 s =>
    rw [discard, if_pos rfl]
    exact .ok hst
  | case2 n s hn s' hr =>
    obtain ⟨t', hr', h⟩ := (hRead _).of_ok hst hr
    rw [other.discard_read hn, hr']
    exact .error h
  | case3 n s hn b bs s' hr ih =>
    obtain ⟨t', hr', h⟩ := (hRead _).of_ok hst hr
    rw [other.discard_read hn, hr']
    exact ih t' h
  | case4 n s hn f s' hr hf ih =>
    obtain ⟨t', hr', h⟩ := (hRead _).of_error hst hr
    rw [other.discard_read hn, hr']
    simp only
    rw [if_pos hf]
    exact ih t' h
  | case5 n s hn f s' hr hf =>
    obtain ⟨t', hr', h⟩ := (hRead _).of_error hst hr
    rw [other.discard_read hn, hr']
    simp only
    rw [if_neg hf]
    exact .error h

end Source

namespace Sink

variable {sink : Sink σ} {other : Sink τ}

theorem writeAll_follows (hWrite : ∀ bs, MemoryBridge.Follows R (sink.write bs) (other.write bs))
    (bs : Bytes) : MemoryBridge.Follows R (sink.writeAll bs) (other.writeAll bs) := by
  intro s t hst
  fun_induction sink.writeAll bs s generalizing t with
  | case1 s =>
    rw [writeAll]
    exact .ok hst
  | case2 s b rest s' hw =>
    obtain ⟨t', hw', h⟩ := (hWrite _).of_ok hst hw
    rw [other.writeAll_write, hw']
    exact .error h
  | case3 s b rest n s' hw ih =>
    obtain ⟨t', hw', h⟩ := (hWrite _).of_ok hst hw
    rw [other.writeAll_write, hw']
    exact ih t' h
  | case4 s b rest f s' hw hf ih =>
    obtain ⟨t', hw', h⟩ := (hWrite _).of_error hst hw
    rw [other.writeAll_write, hw']
    simp only
    rw [if_pos hf]
    exact ih t' h
  | case5 s b rest f s' hw hf =>
    obtain ⟨t', hw', h⟩ := (hWrite _).of_error hst hw
    rw [other.writeAll_write, hw']
    simp only
    rw [if_neg hf]
    exact .error h

end Sink

/-- Every single operation of `link` follows that of `other`. -/
structure Link.Mirrors (R : σ → τ → Prop) (link : Link σ) (other : Link τ) : Prop where
  read : ∀ n, MemoryBridge.Follows R (link.read n) (other.read n)
  write : ∀ bs, MemoryBridge.Follows R (link.write bs) (other.write bs)
  flush : MemoryBridge.Follows R link.flush other.flush
  setMode : ∀ mode, MemoryBridge.Follows R (link.setMode mode) (other.setMode mode)

theorem Link.Mirrors.follows {link : Link σ} {other : Link τ} (h : link.Mirrors R other) :
    link.Follows R other where
  readExact := Source.readExact_follows h.read
  discard := Source.discard_follows h.read
  writeAll := Sink.writeAll_follows h.write
  flush := h.flush
  setMode := h.setMode

/-- Every single operation of `sink` follows that of `other`. -/
structure Sink.Mirrors (R : σ → τ → Prop) (sink : Sink σ) (other : Sink τ) : Prop where
  write : ∀ bs, MemoryBridge.Follows R (sink.write bs) (other.write bs)
  flush : MemoryBridge.Follows R sink.flush other.flush

theorem Sink.Mirrors.follows {sink : Sink σ} {other : Sink τ} (h : sink.Mirrors R other) :
    sink.Follows R other where
  writeAll := Sink.writeAll_follows h.write
  flush := h.flush

/-- What a tick sees of the worlds, apart from its link. -/
structure Host.Mirrors (R : σ → τ → Prop) (host : Host σ) (other : Host τ) : Prop where
  sink : host.sink.Mirrors R other.sink
  clock : ∀ {s t}, R s t → host.clock s = other.clock t
  stopped : ∀ {s t}, R s t → host.stopped s = other.stopped t

/-! ## Ticks -/

/-- The same connection in related worlds, whatever the links are. -/
structure SameConnection (R : σ → τ → Prop) (c : Connection σ) (d : Connection τ) : Prop where
  serving : SameSession R c.toServing d.toServing
  timing : c.timing = d.timing
  phase : c.phase = d.phase
  lastRequest : c.lastRequest = d.lastRequest
  requesting : c.requesting = d.requesting
  reconnects : c.reconnects = d.reconnects
  handshakesSent : c.handshakesSent = d.handshakesSent

namespace Connection

variable {link : Link σ} {other : Link τ} {host : Host σ} {otherHost : Host τ}

theorem serve_follows {act : Serve σ α} {otherAct : Serve τ α}
    (h : Follows (SameSession R) act otherAct) :
    Follows (SameConnection R) (serve act) (serve otherAct) := by
  intro c d hcd
  have hRuns := h _ _ hcd.serving
  unfold serve
  generalize act c.toServing = r, otherAct d.toServing = r' at hRuns
  cases hRuns with
  | ok h' => exact .ok { hcd with serving := h' }
  | error h' => exact .error { hcd with serving := h' }

theorem modify_follows {f : Connection σ → Connection σ} {g : Connection τ → Connection τ}
    (h : ∀ {c d}, SameConnection R c d → SameConnection R (f c) (g d)) :
    Follows (SameConnection R) (modify f : Tick σ Unit) (modify g) := by
  intro c d hcd
  exact .ok (h hcd)

/-- What is read off two such connections may be used as if it was the same. -/
theorem get_follows {next : Connection σ → Tick σ α} {otherNext : Connection τ → Tick τ α}
    (h : ∀ {c d}, SameConnection R c d → Follows (SameConnection R) (next c) (otherNext d)) :
    Follows (SameConnection R) (get >>= next) (get >>= otherNext) := by
  intro c d hcd
  exact h hcd c d hcd

theorem requestDue_eq (hHost : host.Mirrors R otherHost) {c : Connection σ} {d : Connection τ}
    (hcd : SameConnection R c d) : c.requestDue host = d.requestDue otherHost := by
  unfold requestDue
  rw [hcd.phase, hcd.requesting, hcd.lastRequest, hcd.timing, hHost.clock hcd.serving.2]

theorem tickOver_eq (hHost : host.Mirrors R otherHost) (started : Nat) {c : Connection σ}
    {d : Connection τ} (hcd : SameConnection R c d) :
    c.tickOver host started = d.tickOver otherHost started := by
  unfold tickOver
  rw [hHost.clock hcd.serving.2, hHost.stopped hcd.serving.2]

theorem noteRequest_same (hHost : host.Mirrors R otherHost) {c : Connection σ} {d : Connection τ}
    (hcd : SameConnection R c d) :
    SameConnection R (noteRequest host c) (noteRequest otherHost d) :=
  { hcd with
    lastRequest := congrArg some (hHost.clock hcd.serving.2)
    handshakesSent := congrArg (· + 1) hcd.handshakesSent }

theorem noteCommand_same (command : Command) {c : Connection σ} {d : Connection τ}
    (hcd : SameConnection R c d) :
    SameConnection R (noteCommand command c) (noteCommand command d) := by
  refine { hcd with phase := ?_, requesting := rfl }
  unfold noteCommand
  rw [hcd.phase]

theorem requestHandshake_follows (hHost : host.Mirrors R otherHost) (hLink : link.Mirrors R other) :
    Follows (SameConnection R) (requestHandshake host link) (requestHandshake otherHost other) := by
  refine get_follows fun {c d} hcd => ?_
  have hSession : c.session = d.session := hcd.serving.1
  rw [requestDue_eq hHost hcd, hSession]
  split
  · refine Follows.bind (serve_follows (Serve.onLink_follows (hLink.follows.writeAll _)))
      fun _ => ?_
    refine Follows.bind (serve_follows (Serve.onLink_follows hLink.follows.flush)) fun _ => ?_
    exact modify_follows (noteRequest_same hHost)
  · exact Follows.pure _

theorem pollByte_follows (hLink : link.Mirrors R other) :
    Follows (SameConnection R) (pollByte link) (pollByte other) := by
  intro c d hcd
  have hRuns := hLink.read 1 _ _ hcd.serving.2
  unfold pollByte
  generalize link.read 1 c.world = r, other.read 1 d.world = r' at hRuns
  cases hRuns with
  | ok h => exact .ok { hcd with serving := ⟨hcd.serving.1, h⟩ }
  | @error f s t h =>
    have hSame : SameConnection R { c with world := s } { d with world := t } :=
      { hcd with serving := ⟨hcd.serving.1, h⟩ }
    simp only
    split
    · exact .ok hSame
    · exact .error hSame

theorem handleByte_follows (hHost : host.Mirrors R otherHost) (hLink : link.Mirrors R other)
    (b : UInt8) :
    Follows (SameConnection R) (handleByte host link b) (handleByte otherHost other b) := by
  have hByte := Session.processByte_follows hLink.follows hHost.sink.follows b
  refine Follows.bind (serve_follows hByte) fun handled => ?_
  split
  · exact modify_follows (noteCommand_same _)
  · exact Follows.pure _

theorem pollBytes_follows (hHost : host.Mirrors R otherHost) (hLink : link.Mirrors R other)
    (started n : Nat) :
    Follows (SameConnection R) (pollBytes host link started n)
      (pollBytes otherHost other started n) := by
  induction n with
  | zero => exact Follows.pure _
  | succ n ih =>
    refine Follows.bind (pollByte_follows hLink) fun polled => ?_
    split
    · exact Follows.pure _
    · refine Follows.bind (handleByte_follows hHost hLink _) fun _ => ?_
      refine get_follows fun {c d} hcd => ?_
      rw [tickOver_eq hHost started hcd]
      split
      · exact Follows.pure _
      · exact ih

theorem poll_follows (hHost : host.Mirrors R otherHost) (hLink : link.Mirrors R other) :
    Follows (SameConnection R) (poll host link) (poll otherHost other) := by
  refine Follows.bind (requestHandshake_follows hHost hLink) fun _ => ?_
  refine get_follows fun {c d} hcd => ?_
  rw [hHost.clock hcd.serving.2]
  refine Follows.bind (pollBytes_follows hHost hLink _ _) fun _ => ?_
  exact serve_follows (Serve.onSink_follows hHost.sink.follows.flush)

end Connection

end MemoryBridge
