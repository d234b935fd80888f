import Mathlib
import MemoryBridge.Proofs.Listening
import MemoryBridge.Proofs.Recording.Calls
import MemoryBridge.Rehearsal.World

/-!
# Input on its way to the device

Input leaves the mailbox before the reply that carries it is written. `update_input` follows it
through one tick: what the mailbox held before is what was delivered, then what was lost, then what
it holds afterwards. Input is delivered with a reply that the link takes whole, whatever happens
later, and lost with a reply that the link refuses. A tick loses the input of one reply at most, the
last one; a link that fails while it is read, flushed or switched costs nothing.

So the mailbox survives a reconnect, but not always with everything that the device has not
got (`input_lost`).
-/

namespace MemoryBridge

namespace Hearing

variable {σ : Type} {host : Host σ} {h : Hearing (Recorded σ)}

instance : Decidable (h.Accepted host) :=
  inferInstanceAs (Decidable ((h.sent host).flatten = h.owed host))

/-- Input is pulled by a request for it, and owed with its length in front. -/
theorem owed_of_pulled (hPulled : h.pulled host ≠ []) :
    h.command? host.recorded = some .inputRequest ∧
      h.owed host = Wire.encode (Int32.ofNat (h.pulled host).length) ++ h.pulled host := by
  unfold pulled at hPulled ⊢
  unfold owed
  cases hCommand : h.command? host.recorded with
  | none =>
    rw [hCommand] at hPulled
    exact absurd rfl hPulled
  | some command =>
    rw [hCommand] at hPulled
    simp only at hPulled ⊢
    unfold Session.pulled at hPulled ⊢
    unfold Session.owed
    cases hRequest : DeviceRequest.ofPayload? command (h.payload host) with
    | none =>
      rw [hRequest] at hPulled
      exact absurd rfl hPulled
    | some r =>
      rw [hRequest] at hPulled
      cases r with
      | inputRequest limit =>
        obtain ⟨hSame, -⟩ := DeviceRequest.ofPayload?_eq_some_iff.mp hRequest
        exact ⟨hSame.symm, if_pos trivial⟩
      | _ => exact absurd rfl hPulled

end Hearing

namespace Connection

variable {σ : Type} {host : Host σ} {k : LinkId}

/-! ## Delivered and lost -/

section

variable (host : Host σ) (hs : List (Hearing (Recorded σ)))

/-- The input that was pulled with replies that the link took whole. -/
def delivered : Bytes :=
  (hs.filter (·.Accepted host)).flatMap (·.pulled host)

/-- The input that was pulled with replies that the link did not take whole. -/
def lost : Bytes :=
  (hs.filter (¬ ·.Accepted host)).flatMap (·.pulled host)

end

section

variable {hs front : List (Hearing (Recorded σ))} {last : Hearing (Recorded σ)}

theorem delivered_of_accepted (h : ∀ x ∈ hs, x.Accepted host) :
    delivered host hs = hs.flatMap (·.pulled host) := by
  have hAll : hs.filter (·.Accepted host) = hs := List.filter_eq_self.mpr (by simpa using h)
  unfold delivered
  rw [hAll]

theorem lost_of_accepted (h : ∀ x ∈ hs, x.Accepted host) : lost host hs = [] := by
  have hNone : hs.filter (¬ ·.Accepted host) = [] := List.filter_eq_nil_iff.mpr (by simpa using h)
  unfold lost
  rw [hNone]
  rfl

theorem delivered_of_refused (hFront : ∀ x ∈ front, x.Accepted host)
    (hLast : ¬ last.Accepted host) :
    delivered host (front ++ [last]) = front.flatMap (·.pulled host) := by
  rw [← delivered_of_accepted hFront]
  simp [delivered, hLast]

theorem lost_of_refused (hFront : ∀ x ∈ front, x.Accepted host) (hLast : ¬ last.Accepted host) :
    lost host (front ++ [last]) = last.pulled host := by
  have hNone : lost host front = [] := lost_of_accepted hFront
  unfold lost at hNone ⊢
  rw [List.filter_append, List.flatMap_append, hNone]
  simp [hLast]

end

/-- After the hearings `hs` on the link `k` its last write took nothing, and the input of the
last hearing is lost. -/
structure Loses (host : Host σ) (k : LinkId) (hs : List (Hearing (Recorded σ)))
    (w : Recorded σ) : Prop where
  refused : (w.writes k).getLast? = some []
  last : ∃ front last, hs = front ++ [last] ∧ (∀ h ∈ front, h.Accepted host) ∧
    lost host hs = last.pulled host ∧
    Refused (last.owed host) (last.sent host)

/-- The input that hearings pull is delivered first. What is lost is the input of the last one. -/
theorem Hears.input {α : Type} {hs : List (Hearing (Recorded σ))} {c : Connection (Recorded σ)}
    {r : EStateM.Result ServeError (Connection (Recorded σ)) α} (h : Hears host k hs c r) :
    c.session.mailbox.bytes = delivered host hs ++ lost host hs ++
      (endState r).session.mailbox.bytes ∧
      (lost host hs = [] ∨ Breaks r ∧ Loses host k hs (endState r).world) := by
  have hMailbox := h.mailbox
  rcases h.taken with hAll | ⟨hBreaks, front, last, rfl, hFront, hLast⟩
  · have hAccepted : ∀ x ∈ hs, x.Accepted host := fun x hx => (hAll x hx).1
    rw [delivered_of_accepted hAccepted, lost_of_accepted hAccepted, List.append_nil]
    exact ⟨hMailbox, Or.inl rfl⟩
  · have hAccepted : ∀ x ∈ front, x.Accepted host := fun x hx => (hFront x hx).1
    have hRefused : ¬ last.Accepted host := hLast.flatten_ne
    have hWrites := h.wrote k
    rw [if_pos rfl] at hWrites
    have hLost := lost_of_refused hAccepted hRefused
    refine ⟨?_, Or.inr ⟨hBreaks, ?_, front, last, rfl, hAccepted, hLost, hLast⟩⟩
    · rw [delivered_of_refused hAccepted hRefused, hLost, hMailbox, List.flatMap_append,
        List.flatMap_singleton]
    · rw [hWrites, List.flatMap_append, List.flatMap_singleton, List.getLast?_append,
        List.getLast?_append, hLast.2]
      rfl

theorem poll_input (host : Host σ) (k : LinkId) (c : Connection (Recorded σ)) :
    let hs := heard host.recorded k c
    let r := poll host.recorded (host.recorded.link k) c
    c.session.mailbox.bytes = delivered host hs ++ lost host hs ++
      (endState r).session.mailbox.bytes ∧
      (lost host hs = [] ∨ Breaks r ∧ Loses host k hs (endState r).world) := by
  intro hs r
  have hSame := (requestHandshake_asks host k c).same.1
  have hHears := poll_hears host k c
  cases hRun : requestHandshake host.recorded (host.recorded.link k) c with
  | error e d =>
    rw [hRun] at hSame hHears
    obtain ⟨hPoll, hNothing⟩ := hHears
    have hMailbox : (endState r).session.mailbox = c.session.mailbox := by
      show (endState (poll host.recorded (host.recorded.link k) c)).session.mailbox = _
      rw [hPoll]
      exact congrArg Session.mailbox hSame
    have hEmpty : hs = [] := hNothing
    rw [hEmpty, hMailbox]
    exact ⟨rfl, Or.inl rfl⟩
  | ok u d =>
    rw [hRun] at hSame hHears
    have hSession : d.session = c.session := hSame
    rw [← hSession]
    exact hHears.input

/-- A reconnect adds nothing to what was written on the old link, and leaves the mailbox as it
is. -/
theorem update_input {c : Connection (Recorded σ)} (hLink : c.link = some k) :
    let hs := heard host.recorded k c
    let d := endState (update host.recorded c)
    c.session.mailbox.bytes = delivered host hs ++ lost host hs ++ d.session.mailbox.bytes ∧
      (lost host hs = [] ∨
        Breaks (poll host.recorded (host.recorded.link k) c) ∧ Loses host k hs d.world) := by
  intro hs d
  have hPoll := poll_input host k c
  rcases @update_end σ host k c hLink with ⟨-, hEnd⟩ | ⟨-, hOpened⟩
  · have hSame : d = endState (poll host.recorded (host.recorded.link k) c) := hEnd
    rw [hSame]
    exact hPoll
  · obtain ⟨hInput, hLost⟩ := hPoll
    have hMailbox : d.session.mailbox = _ := hOpened.mailbox
    have hWrites : d.world.writes k = _ := hOpened.opens.writes k
    rw [hMailbox]
    refine ⟨hInput, hLost.imp_right fun hLoses => ⟨hLoses.1, ?_, hLoses.2.last⟩⟩
    rw [hWrites]
    exact hLoses.2.refused

/-- Let `c` be the connection after any run, while it holds the link `k`, let `hs` be what the next
tick hears, and let `d` be the connection after that tick, whatever it comes to.

* The record is one of a run of the host and of its next tick.
* What the mailbox held before the tick is what was delivered, then what was lost, then what
  it holds afterwards.
* What was delivered or lost was pulled by requests for input, each of which is owed the number of
  bytes that it has pulled and these bytes.
* If the last write on the link took something, nothing was lost.
* If something was lost, then the tick has cost the link, and it is the input of its last hearing,
  whose reply was taken in part or not at all.
-/
theorem input_delivered_or_lost (host : Host σ) (config : SessionConfig) (mailbox : Mailbox)
    (timing : Timing) (w : σ) (calls : List (Call σ)) {c : Connection (Recorded σ)}
    (hRun : c = run host.recorded (fresh config mailbox timing { world := w })
      (calls.map Call.recorded))
    (hLink : c.link = some k) :
    let hs := heard host.recorded k c
    let d := endState (update host.recorded c)
    (c.plain = run host (fresh config mailbox timing w) calls ∧
      d.plain = endState (update host c.plain)) ∧
    c.session.mailbox.bytes = delivered host hs ++ lost host hs ++ d.session.mailbox.bytes ∧
    (∀ h ∈ hs, h.pulled host ≠ [] → h.command? host.recorded = some .inputRequest ∧
      h.owed host = Wire.encode (Int32.ofNat (h.pulled host).length) ++ h.pulled host) ∧
    ((d.world.writes k).getLast? ≠ some [] →
      c.session.mailbox.bytes = delivered host hs ++ d.session.mailbox.bytes) ∧
    (lost host hs ≠ [] → Breaks (poll host.recorded (host.recorded.link k) c) ∧
      ∃ front last, hs = front ++ [last] ∧ (∀ h ∈ front, h.Accepted host) ∧
        lost host hs = last.pulled host ∧
        Refused (last.owed host) (last.sent host)) := by
  intro hs d
  obtain ⟨hMailbox, hLost⟩ := @update_input σ host k c hLink
  refine ⟨⟨?_, (update_plain host c).ends⟩, hMailbox,
    fun h _ hPulled => Hearing.owed_of_pulled hPulled, ?_, ?_⟩
  · rw [hRun]
    exact run_plain host (fresh config mailbox timing { world := w }) calls
  · intro hTook
    rcases hLost with hNothing | ⟨-, hLoses⟩
    · rw [hNothing, List.append_nil] at hMailbox
      exact hMailbox
    · exact absurd hLoses.refused hTook
  · intro hSome
    rcases hLost with hNothing | ⟨hBreaks, hLoses⟩
    · exact absurd hNothing hSome
    · exact ⟨hBreaks, hLoses.last⟩

/-- The fault with which a link has failed. -/
def linkFault? {α : Type} : EStateM.Result ServeError σ α → Option Fault
  | .error (.transport f) _ => some f
  | _ => none

theorem breaks_of_linkFault? {α : Type} {r : EStateM.Result ServeError σ α} {f : Fault}
    (h : linkFault? r = some f) : Breaks r := by
  cases r with
  | ok a s => cases h
  | error e s =>
    cases e with
    | transport f => exact breaks_error_iff.mpr fun g hg => by cases hg
    | _ => cases h

/-- A device that asks for two bytes of input and goes away, over a link that takes what
`acceptances` say. -/
def pulling (acceptances : List Acceptance) : World where
  lines := [{ arrivals := [.data [0xFF, 5, 2, 0, 0, 0], .fault .brokenPipe], acceptances }, {}]
  offers := [{}, {}]

/-- Nothing stops the world of that device. -/
def pullingHost : Host World :=
  World.host fun _ => false

/-- It is connected, and three bytes of input wait for it. -/
def pulledBy (acceptances : List Acceptance) : Connection (Recorded World) :=
  run pullingHost.recorded (fresh {} .empty ⟨0, 0, 0⟩ { world := pulling acceptances })
    (List.map Call.recorded [.connect, .append [1, 2, 3]])

/-- A link that takes everything delivers two bytes before it fails, and the third byte stays. -/
theorem input_delivered_before_fault :
    (pulledBy []).link = some 0 ∧
      Breaks (poll pullingHost.recorded (pullingHost.recorded.link 0) (pulledBy [])) ∧
      (pulledBy []).session.mailbox.bytes = [1, 2, 3] ∧
      delivered pullingHost (heard pullingHost.recorded 0 (pulledBy [])) = [1, 2] ∧
      (endState (update pullingHost.recorded (pulledBy []))).session.mailbox.bytes = [3] := by
  have hLink : (pulledBy []).link = some 0 := by cbv
  have hBreaks : Breaks (poll pullingHost.recorded (pullingHost.recorded.link 0) (pulledBy [])) :=
    @breaks_of_linkFault? _ _ _ ⟨.brokenPipe, "scripted fault"⟩ (by cbv)
  have hBefore : (pulledBy []).session.mailbox.bytes = [1, 2, 3] := by cbv
  have hDelivered : delivered pullingHost (heard pullingHost.recorded 0 (pulledBy [])) =
      [1, 2] := by cbv
  have hTook : ((endState (update pullingHost.recorded (pulledBy []))).world.writes 0).getLast? ≠
      some [] := by
    have hWrites : (endState (update pullingHost.recorded (pulledBy []))).world.writes 0 =
        [[0xFF, 0], [2, 0, 0, 0], [1, 2]] := by cbv
    rw [hWrites]
    decide
  obtain ⟨-, -, -, hKept, -⟩ := input_delivered_or_lost pullingHost {} .empty ⟨0, 0, 0⟩ (pulling [])
    [.connect, .append [1, 2, 3]] rfl hLink
  have hAfter : (pulledBy []).session.mailbox.bytes =
      delivered pullingHost (heard pullingHost.recorded 0 (pulledBy [])) ++
        (endState (update pullingHost.recorded (pulledBy []))).session.mailbox.bytes := hKept hTook
  rw [hBefore, hDelivered] at hAfter
  exact ⟨hLink, hBreaks, hBefore, hDelivered, by simpa using hAfter.symm⟩

/-- A link that fails in the reply delivers nothing, and the two bytes are gone. -/
theorem input_lost :
    (pulledBy [.take 2, .fault .brokenPipe]).link = some 0 ∧
      Breaks (poll pullingHost.recorded (pullingHost.recorded.link 0)
        (pulledBy [.take 2, .fault .brokenPipe])) ∧
      (pulledBy [.take 2, .fault .brokenPipe]).session.mailbox.bytes ≠
        delivered pullingHost
          (heard pullingHost.recorded 0 (pulledBy [.take 2, .fault .brokenPipe])) ++
          (endState (update pullingHost.recorded
              (pulledBy [.take 2, .fault .brokenPipe]))).session.mailbox.bytes := by
  have hBefore : (pulledBy [.take 2, .fault .brokenPipe]).session.mailbox.bytes =
      [1, 2, 3] := by cbv
  have hDelivered : delivered pullingHost
      (heard pullingHost.recorded 0 (pulledBy [.take 2, .fault .brokenPipe])) = [] := by
    cbv
  have hAfter : (endState (update pullingHost.recorded
        (pulledBy [.take 2, .fault .brokenPipe]))).session.mailbox.bytes =
      [3] := by cbv
  refine ⟨by cbv, @breaks_of_linkFault? _ _ _ ⟨.brokenPipe, "scripted fault"⟩ (by cbv), ?_⟩
  rw [hBefore, hDelivered, hAfter]
  decide

end Connection

end MemoryBridge
