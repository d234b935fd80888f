import MemoryBridge.Proofs.Calls
import MemoryBridge.Proofs.Simulation.Tick

/-!
# Updates that follow each other

`poll_follows` speaks of one link. Here every operation of one host follows the same operation of
the other, the number of the link included, and then opening, connecting and whole updates do as
well: `connect_follows`, `update_follows`.
-/

namespace MemoryBridge

variable {σ τ α : Type} {R : σ → τ → Prop}

/-- Every operation of `host` follows that of `other`, and links have the same numbers. -/
structure Host.Follows (R : σ → τ → Prop) (host : Host σ)
    (other : Host τ) : Prop extends host.Mirrors R other where
  link : ∀ id, (host.link id).Mirrors R (other.link id)
  tryOpen : MemoryBridge.Follows R host.tryOpen other.tryOpen
  pause : ∀ {ms s t}, R s t → R (host.pause ms s) (other.pause ms t)

namespace Host.Follows

variable {host : Host σ} {other : Host τ} (h : host.Follows R other)

include h

theorem openLink : MemoryBridge.Follows R host.openLink other.openLink := by
  intro s t hst
  have hTry := h.tryOpen s t hst
  unfold Host.openLink
  generalize host.tryOpen s = r, other.tryOpen t = r' at hTry
  cases hTry with
  | error h' => exact .error h'
  | @ok id s' t' h' =>
    have hMode := (h.link id).setMode .poll s' t' h'
    simp only
    generalize (host.link id).setMode .poll s' = q, (other.link id).setMode .poll t' = q' at hMode
    cases hMode with
    | ok h'' => exact .ok h''
    | error h'' => exact .error h''

theorem sleep (ms : Nat) {s : σ} {t : τ} (hst : R s t) :
    (host.sleep ms s).1 = (other.sleep ms t).1 ∧ R (host.sleep ms s).2 (other.sleep ms t).2 := by
  have hPause : R (host.pause ms s) (other.pause ms t) := h.pause hst
  unfold Host.sleep
  rw [h.stopped hst]
  split
  · exact ⟨rfl, hst⟩
  · split
    · exact ⟨rfl, hst⟩
    · simp only [h.stopped hPause]
      exact ⟨trivial, hPause⟩

theorem awaitLink (retryDelay : Nat) :
    MemoryBridge.Follows R (host.awaitLink retryDelay) (other.awaitLink retryDelay) := by
  intro s t hst
  fun_induction host.awaitLink retryDelay s generalizing t with
  | case1 s hStopped =>
    have hStopped' : other.stopped t = true := h.stopped hst ▸ hStopped
    rw [Host.awaitLink, if_pos hStopped']
    exact .error hst
  | case2 s hStopped id u ho =>
    have hStopped' : ¬ other.stopped t = true := h.stopped hst ▸ hStopped
    obtain ⟨u', ho', h'⟩ := h.openLink.of_ok hst ho
    rw [other.awaitLink_open retryDelay hStopped', ho']
    exact .ok h'
  | case3 s hStopped f u ho v hs =>
    have hStopped' : ¬ other.stopped t = true := h.stopped hst ▸ hStopped
    obtain ⟨u', ho', h'⟩ := h.openLink.of_error hst ho
    obtain ⟨hSame, hLater⟩ := h.sleep retryDelay h'
    rw [hs] at hSame hLater
    rw [other.awaitLink_open retryDelay hStopped', ho']
    simp only
    generalize other.sleep retryDelay u' = slept at hSame hLater
    obtain ⟨completed, v'⟩ := slept
    cases hSame
    exact .error hLater
  | case4 s hStopped f u ho v hs ih =>
    have hStopped' : ¬ other.stopped t = true := h.stopped hst ▸ hStopped
    obtain ⟨u', ho', h'⟩ := h.openLink.of_error hst ho
    obtain ⟨hSame, hLater⟩ := h.sleep retryDelay h'
    rw [hs] at hSame hLater
    rw [other.awaitLink_open retryDelay hStopped', ho']
    simp only
    generalize other.sleep retryDelay u' = slept at hSame hLater
    obtain ⟨completed, v'⟩ := slept
    cases hSame
    exact ih v' hLater

end Host.Follows

/-- The same connection in related worlds, with the same link. -/
structure SameLinked (R : σ → τ → Prop) (c : Connection σ) (d : Connection τ) : Prop extends
    SameConnection R c d where
  link : c.link = d.link

namespace Connection

variable {host : Host σ} {other : Host τ} (h : host.Follows R other)

include h

theorem connect_follows : Follows (SameLinked R) (connect host) (connect other) := by
  intro c d hcd
  have hDropped : SameLinked R c.dropLink d.dropLink := by
    refine { hcd with serving := ⟨?_, hcd.serving.2⟩, phase := rfl, link := rfl }
    exact congrArg Session.resetLink hcd.serving.1
  have hAwait := h.awaitLink c.timing.reconnectDelay c.world d.world hcd.serving.2
  have hTiming : c.dropLink.timing = c.timing ∧ d.dropLink.timing = c.timing :=
    ⟨rfl, hcd.timing.symm⟩
  have hWorld : c.dropLink.world = c.world ∧ d.dropLink.world = d.world := ⟨rfl, rfl⟩
  unfold connect
  simp only [hTiming, hWorld]
  generalize host.awaitLink c.timing.reconnectDelay c.world = r,
    other.awaitLink c.timing.reconnectDelay d.world = r' at hAwait
  cases hAwait with
  | error h' => exact .error { hDropped with serving := ⟨hDropped.serving.1, h'⟩, timing := rfl }
  | @ok id s t h' =>
    obtain ⟨hSame, hLater⟩ := h.sleep c.timing.settleDelay h'
    simp only
    generalize host.sleep c.timing.settleDelay s = slept,
      other.sleep c.timing.settleDelay t = slept' at hSame hLater
    obtain ⟨completed, u⟩ := slept
    obtain ⟨completed', u'⟩ := slept'
    cases hSame
    cases completed with
    | false => exact .error { hDropped with serving := ⟨hDropped.serving.1, hLater⟩, timing := rfl }
    | true =>
      exact .ok { hDropped with
        serving := ⟨hDropped.serving.1, hLater⟩, timing := rfl, phase := rfl, lastRequest := rfl,
        requesting := rfl, link := rfl }

theorem connectInTick_follows :
    Follows (SameLinked R) (connectInTick host) (connectInTick other) := by
  intro c d hcd
  have hConnect := connect_follows h c d hcd
  unfold connectInTick
  generalize connect host c = r, connect other d = r' at hConnect
  cases hConnect with
  | ok h' => exact .ok h'
  | error h' => exact .error h'

theorem reconnect_follows {c : Connection σ} {d : Connection τ} (hcd : SameConnection R c d) :
    Alike (SameLinked R) (reconnect host c) (reconnect other d) := by
  refine connectInTick_follows h _ _ ?_
  exact { hcd with phase := rfl, reconnects := congrArg (· + 1) hcd.reconnects, link := rfl }

theorem update_follows : Follows (SameLinked R) (update host) (update other) := by
  intro c d hcd
  unfold update
  rw [← hcd.link]
  cases hLink : c.link with
  | none => exact connectInTick_follows h c d hcd
  | some k =>
    have hPoll := poll_follows h.toMirrors (h.link k) c d hcd.toSameConnection
    have hStays := (poll_stays host (host.link k) c).1
    have hStays' := (poll_stays other (other.link k) d).1
    simp only
    generalize poll host (host.link k) c = r,
      poll other (other.link k) d = r' at hPoll hStays hStays'
    have hSame : (endState r).link = (endState r').link :=
      hStays.trans (hcd.link.trans hStays'.symm)
    cases hPoll with
    | ok h' => exact .ok { h' with link := hSame }
    | @error e c' d' h' =>
      cases e with
      | sink f => exact .error { h' with link := hSame }
      | transport f => exact reconnect_follows h h'
      | pool f => exact reconnect_follows h h'
      | invalidPoolSize size => exact reconnect_follows h h'

end Connection

end MemoryBridge
