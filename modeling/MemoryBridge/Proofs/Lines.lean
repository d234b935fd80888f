import Mathlib.Data.List.Infix
import MemoryBridge.Lines

/-!
# Lines that are forwarded

`LineHost.Runs` says what happens in a world while lines are forwarded in it: bytes are taken out of
what the reader has read ahead, the reader reports the end of the stream or a fault, the stop is
seen, and chunks are sent and accepted or refused. Nothing is asked of the world for that.
`LineHost.Conveys` and `LineHost.Streams` are what is asked of a channel and of a reader: the
channel keeps what it accepts, in order, and the reader hands over a stream.

A search for the end of a line takes at most one line (`seekLine_looks`). `Progress` is what holds
before every search: all that was taken so far is in the chunks that were accepted and in the line
in progress. Every step keeps it, so that the chunks are the bytes that were taken, cut after the
newlines and at the ends of the stream (`lines_forwarded`).
-/

namespace MemoryBridge

/-! ## Scripts of bytes -/

namespace Script

/-- The bytes that a read finds. -/
def Due.found : Due → Bytes
  | .bytes bs => bs
  | .fault _ | .ended | .nothing => []

theorem cue_bytes (script : List Arrival) :
    (cue script).due.found ++ bytesOf (cue script).rest = bytesOf script := by
  induction script with
  | nil => rfl
  | cons a rest ih =>
    cases a with
    | data bs =>
      cases bs with
      | nil => exact ih
      | cons b bs => rfl
    | fault kind => rfl
    | ended => rfl
    | stop => exact ih
    | hangUp => exact ih

end Script

namespace ScriptedReader

open Script

variable {n : Nat} {r t : ScriptedReader}

theorem read_ok_bytes {bs : Bytes} (h : read n r = .ok bs t) :
    bs ++ bytesOf t.arrivals = bytesOf r.arrivals := by
  have hCue := cue_bytes r.arrivals
  unfold read next at h
  cases hDue : (cue r.arrivals).due <;> rw [hDue] at hCue <;>
    simp only [hDue, EStateM.Result.ok.injEq, reduceCtorEq] at h
  case bytes cs =>
    obtain ⟨rfl, rfl⟩ := h
    calc cs.take n ++ (cs.drop n ++ bytesOf (cue r.arrivals).rest)
        = cs ++ bytesOf (cue r.arrivals).rest := by rw [← List.append_assoc, List.take_append_drop]
      _ = bytesOf r.arrivals := hCue
  case ended =>
    obtain ⟨rfl, rfl⟩ := h
    exact hCue
  case nothing =>
    obtain ⟨rfl, rfl⟩ := h
    exact hCue

theorem read_error_bytes {f : Fault} (h : read n r = .error f t) :
    bytesOf t.arrivals = bytesOf r.arrivals := by
  have hCue := cue_bytes r.arrivals
  unfold read next at h
  cases hDue : (cue r.arrivals).due <;>
    simp only [hDue, EStateM.Result.error.injEq, reduceCtorEq] at h
  rw [hDue] at hCue
  rw [← h.2]
  exact hCue

end ScriptedReader

/-! ## What happens in a forwarding -/

/-- What the reader, the signal to stop and the channel do in a forwarding. -/
inductive LineEvent
  /-- Bytes were taken out of what had been read ahead. -/
  | took (bytes : Bytes)
  /-- The reader reported the end of the stream. -/
  | ended
  | failed (fault : Fault)
  /-- The world was found stopped. -/
  | stopped
  /-- A chunk was sent and accepted. -/
  | accepted (chunk : Bytes)
  /-- A chunk was sent and not accepted. -/
  | refused (chunk : Bytes)

namespace LineEvent

/-- The bytes that were taken. -/
@[simp] def bytes : LineEvent → Bytes
  | took bs => bs
  | _ => []

@[simp] def accepted? : LineEvent → Option Bytes
  | accepted chunk => some chunk
  | _ => none

@[simp] def refused? : LineEvent → Option Bytes
  | refused chunk => some chunk
  | _ => none

/-- All bytes that were taken. -/
def taken (events : List LineEvent) : Bytes :=
  events.flatMap bytes

/-- The chunks that were accepted. -/
def chunks (events : List LineEvent) : List Bytes :=
  events.filterMap accepted?

/-- The chunks that were not accepted. -/
def refusals (events : List LineEvent) : List Bytes :=
  events.filterMap refused?

/-- The reader reported nothing worse than a timeout or an interruption. -/
def Mild (events : List LineEvent) : Prop :=
  ∀ f, failed f ∈ events → f.kind = .timedOut ∨ f.kind = .interrupted

section

variable (event : LineEvent) (events early late : List LineEvent)

@[simp] theorem taken_nil : taken [] = [] := rfl

@[simp] theorem chunks_nil : chunks [] = [] := rfl

@[simp] theorem refusals_nil : refusals [] = [] := rfl

@[simp] theorem taken_cons : taken (event :: events) = event.bytes ++ taken events :=
  List.flatMap_cons

@[simp] theorem chunks_cons :
    chunks (event :: events) = event.accepted?.toList ++ chunks events := by
  cases event <;> rfl

@[simp] theorem refusals_cons :
    refusals (event :: events) = event.refused?.toList ++ refusals events := by
  cases event <;> rfl

@[simp] theorem taken_append : taken (early ++ late) = taken early ++ taken late :=
  List.flatMap_append

@[simp] theorem chunks_append : chunks (early ++ late) = chunks early ++ chunks late :=
  List.filterMap_append

@[simp] theorem refusals_append : refusals (early ++ late) = refusals early ++ refusals late :=
  List.filterMap_append

end

section

variable {events early late : List LineEvent}

theorem Mild.append (hEarly : Mild early) (hLate : Mild late) : Mild (early ++ late) := by
  intro f hMem
  rcases List.mem_append.mp hMem with h | h
  · exact hEarly f h
  · exact hLate f h

/-- What holds of every chunk, and of what has happened before it, holds still when no chunk is
accepted. -/
theorem forall_accepted_append {P : List LineEvent → Bytes → Prop}
    (h : ∀ before chunk, before ++ [accepted chunk] <+: early → P before chunk)
    (hNone : chunks late = []) :
    ∀ before chunk, before ++ [accepted chunk] <+: early ++ late → P before chunk := by
  induction late using List.reverseRecOn with
  | nil => rwa [List.append_nil]
  | append_singleton late event ih =>
    intro before chunk hPrefix
    rw [chunks_append, List.append_eq_nil_iff] at hNone
    rw [← List.append_assoc] at hPrefix
    rcases List.prefix_concat_iff.mp hPrefix with hAll | hBefore
    · obtain ⟨-, hLast⟩ := List.append_inj' hAll rfl
      cases hLast
      cases hNone.2
    · exact ih hNone.1 before chunk hBefore

theorem forall_accepted_concat {P : List LineEvent → Bytes → Prop} {last : Bytes}
    (h : ∀ before chunk, before ++ [accepted chunk] <+: events → P before chunk)
    (hLast : P events last) :
    ∀ before chunk, before ++ [accepted chunk] <+: events ++ [accepted last] → P before chunk := by
  intro before chunk hPrefix
  rcases List.prefix_concat_iff.mp hPrefix with hAll | hBefore
  · obtain ⟨rfl, hSame⟩ := List.append_inj' hAll rfl
    cases hSame
    exact hLast
  · exact h before chunk hBefore

end

end LineEvent

open LineEvent (taken chunks refusals Mild)

variable {σ : Type}

namespace LineHost

/-- The event leads the world from `s` to `t`. -/
inductive Step (host : LineHost σ) : LineEvent → σ → σ → Prop
  | took {s t : σ} {bs rest : Bytes} (hShown : host.fill s = .ok (bs ++ rest) t) (hSome : bs ≠ []) :
      Step host (.took bs) s (host.consume bs.length t)
  | ended {s t : σ} (hShown : host.fill s = .ok [] t) : Step host .ended s (host.consume 0 t)
  | failed {s t : σ} {f : Fault} (hFault : host.fill s = .error f t) : Step host (.failed f) s t
  | stopped {s : σ} (hStopped : host.stopped s = true) : Step host .stopped s s
  | accepted {s t : σ} {chunk : Bytes} (hSent : host.send chunk s = (true, t)) :
      Step host (.accepted chunk) s t
  | refused {s t : σ} {chunk : Bytes} (hSent : host.send chunk s = (false, t)) :
      Step host (.refused chunk) s t

/-- The events lead the world from `s` to `t`, one after the other. -/
inductive Runs (host : LineHost σ) : σ → List LineEvent → σ → Prop
  | done (s : σ) : Runs host s [] s
  | step {s t u : σ} {event : LineEvent} {events : List LineEvent} (hFirst : host.Step event s t)
      (hRest : Runs host t events u) : Runs host s (event :: events) u

variable {host : LineHost σ}

theorem Step.runs {s t : σ} {event : LineEvent} (h : host.Step event s t) :
    host.Runs s [event] t :=
  .step h (.done t)

theorem Runs.trans {s t u : σ} {early late : List LineEvent} (h : host.Runs s early t)
    (hLate : host.Runs t late u) : host.Runs s (early ++ late) u := by
  induction h with
  | done _ => exact hLate
  | step hFirst _ ih => exact .step hFirst (ih hLate)

/-! ## Channels and readers -/

/-- From `s` to `t` nothing is sent, and a receiver that has gone away does not come back. -/
def Leaves (received : σ → List Bytes) (gone : σ → Bool) (s t : σ) : Prop :=
  received t = received s ∧ (gone s = true → gone t = true)

/-- The channel keeps what it accepts, in order: `received` is all that it has accepted so far. It
refuses a chunk only if the receiver has gone away, and accepts none after that. -/
structure Conveys (host : LineHost σ) (received : σ → List Bytes) (gone : σ → Bool) : Prop where
  fill : ∀ s, Leaves received gone s (endState (host.fill s))
  consume : ∀ n s, Leaves received gone s (host.consume n s)
  accepts : ∀ {chunk s t}, host.send chunk s = (true, t) →
    gone s = false ∧ received t = received s ++ [chunk]
  refuses : ∀ {chunk s t}, host.send chunk s = (false, t) → gone t = true ∧ received t = received s

/-- The reader hands over a stream: what is taken is what comes next of it. -/
structure Streams (host : LineHost σ) (pending : σ → Bytes) : Prop where
  takes : ∀ {s bs t n}, host.fill s = .ok bs t → n ≤ bs.length →
    pending s = bs.take n ++ pending (host.consume n t)
  fails : ∀ {s f t}, host.fill s = .error f t → pending t = pending s
  sends : ∀ chunk s, pending (host.send chunk s).2 = pending s

/-- From `s` to `t` the channel has accepted and refused these chunks. -/
structure Posted (received : σ → List Bytes) (gone : σ → Bool) (s : σ)
    (accepted refused : List Bytes) (t : σ) : Prop where
  received_eq : received t = received s ++ accepted
  /-- A receiver that has gone away gets nothing any more. -/
  absent : gone s = true → gone t = true ∧ accepted = []
  refuses : refused ≠ [] → gone t = true

section

variable {received : σ → List Bytes} {gone : σ → Bool} {s t u : σ}

theorem Leaves.posted (h : Leaves received gone s t) : Posted received gone s [] [] t where
  received_eq := by rw [h.1, List.append_nil]
  absent hs := ⟨h.2 hs, rfl⟩
  refuses hSome := absurd rfl hSome

theorem Posted.trans {early early' late late' : List Bytes}
    (h : Posted received gone s early early' t) (hLate : Posted received gone t late late' u) :
    Posted received gone s (early ++ late) (early' ++ late') u where
  received_eq := by rw [hLate.received_eq, h.received_eq, List.append_assoc]
  absent hs := by
    obtain ⟨ht, hEarly⟩ := h.absent hs
    obtain ⟨hu, hRest⟩ := hLate.absent ht
    exact ⟨hu, by rw [hEarly, hRest]; rfl⟩
  refuses hSome := by
    by_cases hRest : late' = []
    · rw [hRest, List.append_nil] at hSome
      exact (hLate.absent (h.refuses hSome)).1
    · exact hLate.refuses hRest

variable (h : host.Conveys received gone)

include h

/-- What is shown and then taken is no business of the channel. -/
theorem Conveys.takes {bs : Bytes} (hShown : host.fill s = .ok bs t) (n : Nat) :
    Leaves received gone s (host.consume n t) := by
  have hFill := h.fill s
  rw [hShown] at hFill
  have hConsume := h.consume n t
  exact ⟨hConsume.1.trans hFill.1, hConsume.2 ∘ hFill.2⟩

theorem Conveys.step {event : LineEvent} (hStep : host.Step event s t) :
    Posted received gone s event.accepted?.toList event.refused?.toList t := by
  cases hStep with
  | took hShown _ => exact (h.takes hShown _).posted
  | ended hShown => exact (h.takes hShown 0).posted
  | failed hFault =>
    have hFill := h.fill s
    rw [hFault] at hFill
    exact hFill.posted
  | stopped _ => exact Leaves.posted ⟨rfl, id⟩
  | accepted hSent =>
    obtain ⟨hThere, hReceived⟩ := h.accepts hSent
    refine ⟨hReceived, fun hs => ?_, fun hSome => absurd rfl hSome⟩
    cases hThere.symm.trans hs
  | refused hSent =>
    obtain ⟨hGone, hReceived⟩ := h.refuses hSent
    exact ⟨by rw [hReceived]; exact (List.append_nil _).symm, fun _ => ⟨hGone, rfl⟩, fun _ => hGone⟩

theorem Conveys.runs {events : List LineEvent} (hRuns : host.Runs s events t) :
    Posted received gone s (chunks events) (refusals events) t := by
  induction hRuns with
  | done s => exact Leaves.posted ⟨rfl, id⟩
  | step hFirst _ ih =>
    rw [LineEvent.chunks_cons, LineEvent.refusals_cons]
    exact (h.step hFirst).trans ih

end

section

variable {pending : σ → Bytes} (h : host.Streams pending) {s t : σ}

include h

theorem Streams.step {event : LineEvent} (hStep : host.Step event s t) :
    pending s = event.bytes ++ pending t := by
  cases hStep with
  | @took _ u bs rest hShown _ =>
    have hTakes := h.takes hShown (n := bs.length) (by simp)
    rwa [List.take_left] at hTakes
  | ended hShown => exact h.takes hShown (Nat.le_refl 0)
  | failed hFault => exact (h.fails hFault).symm
  | stopped _ => rfl
  | @accepted _ _ chunk hSent =>
    have hSends := h.sends chunk s
    rw [hSent] at hSends
    exact hSends.symm
  | @refused _ _ chunk hSent =>
    have hSends := h.sends chunk s
    rw [hSent] at hSends
    exact hSends.symm

/-- No byte is lost or invented on the way through the reader. -/
theorem Streams.runs {events : List LineEvent} (hRuns : host.Runs s events t) :
    pending s = taken events ++ pending t := by
  induction hRuns with
  | done s => rfl
  | step hFirst _ ih => rw [h.step hFirst, ih, LineEvent.taken_cons, List.append_assoc]

end

/-! ## A search for the end of a line -/

theorem splitLine_some {bs line rest : Bytes} (h : splitLine bs = some (line, rest)) :
    ∃ front, line = front ++ [newline] ∧ newline ∉ front := by
  induction bs generalizing line with
  | nil => simp [splitLine] at h
  | cons b bs ih =>
    obtain ⟨rfl, rfl, -⟩ | ⟨hb, tail, hTail, rfl⟩ := splitLine_cons h
    · exact ⟨[], rfl, by simp⟩
    · obtain ⟨front, rfl, hFront⟩ := ih hTail
      exact ⟨b :: front, rfl, List.not_mem_cons_of_ne_of_not_mem hb.symm hFront⟩

theorem splitLine_none {bs : Bytes} (h : splitLine bs = none) : newline ∉ bs := by
  induction bs with
  | nil => simp
  | cons b bs ih =>
    unfold splitLine at h
    by_cases hb : b = newline
    · simp [hb] at h
    · rw [if_neg hb] at h
      simp only [List.mem_cons, not_or]
      exact ⟨fun hSame => hb hSame.symm, ih (by simpa using h)⟩

/-- How a search comes out that leads to the line `found`, and what it leaves in the events. -/
inductive Found (found : Bytes) : Except Fault Nat → List LineEvent → Prop
  | line {n : Nat} {events : List LineEvent} (hAdded : 0 < n) (hOnly : newline ∉ found.dropLast)
      (hLast : found.getLast? = some newline) (hMild : Mild events) : Found found (.ok n) events
  /-- The last bytes before an end of the stream. -/
  | rest {n : Nat} (early : List LineEvent) (hAdded : 0 < n) (hSome : found ≠ [])
      (hNone : newline ∉ found) (hMild : Mild early) : Found found (.ok n) (early ++ [.ended])
  | ended (early : List LineEvent) (hNone : newline ∉ found) (hMild : Mild early) :
      Found found (.ok 0) (early ++ [.ended])
  | failed (early : List LineEvent) {f : Fault} (hNone : newline ∉ found) (hMild : Mild early) :
      Found found (.error f) (early ++ [.failed f])

section

variable {found : Bytes} {answer : Except Fault Nat} {events : List LineEvent}

theorem Found.mild (h : Found found answer events)
    (hPassed : ∀ f, answer = .error f → f.kind = .timedOut ∨ f.kind = .interrupted) :
    Mild events := by
  have hLast : Mild [.ended] := by simp [Mild]
  cases h with
  | line _ _ _ hMild => exact hMild
  | rest _ _ _ _ hMild => exact hMild.append hLast
  | ended _ _ hMild => exact hMild.append hLast
  | @failed _ f _ hMild =>
    refine hMild.append fun g hMem => ?_
    cases List.mem_singleton.mp hMem
    exact hPassed f rfl

/-- Without bytes or with a fault the line is still in progress. -/
theorem Found.unended (h : Found found answer events) (hOther : ∀ n, answer ≠ .ok (n + 1)) :
    newline ∉ found := by
  cases h with
  | @line n _ hAdded => exact absurd (by rw [Nat.sub_add_cancel hAdded]) (hOther (n - 1))
  | @rest n _ hAdded => exact absurd (by rw [Nat.sub_add_cancel hAdded]) (hOther (n - 1))
  | ended _ hNone _ => exact hNone
  | failed _ hNone _ => exact hNone

theorem Found.shape {n : Nat} (h : Found found (.ok (n + 1)) events) :
    found ≠ [] ∧ newline ∉ found.dropLast := by
  cases h with
  | line _ hOnly hLast _ =>
    refine ⟨fun hNil => ?_, hOnly⟩
    rw [hNil] at hLast
    cases hLast
  | rest _ _ hSome hNone _ => exact ⟨hSome, fun hMem => hNone (List.mem_of_mem_dropLast hMem)⟩

theorem Found.cons {event : LineEvent} (hFirst : Mild [event]) (h : Found found answer events) :
    Found found answer (event :: events) := by
  cases h with
  | line hAdded hOnly hLast hMild => exact .line hAdded hOnly hLast (hFirst.append hMild)
  | rest early hAdded hSome hNone hMild =>
    exact Found.rest (event :: early) hAdded hSome hNone (hFirst.append hMild)
  | ended early hNone hMild => exact Found.ended (event :: early) hNone (hFirst.append hMild)
  | failed early hNone hMild => exact Found.failed (event :: early) hNone (hFirst.append hMild)

end

/-- What a search has come to that began with `p`: it has read `events`, and nothing was sent. -/
structure Searched (host : LineHost σ) (p : Gathering σ) (events : List LineEvent)
    (result : EStateM.Result Fault (Gathering σ) Nat) : Prop where
  runs : host.Runs p.world events (endState result).world
  line_eq : (endState result).line = p.line ++ taken events
  found : Found (endState result).line (toExcept result) events
  unsent : chunks events = []
  unrefused : refusals events = []

/-- What comes before a search is searched too. -/
theorem Searched.cons {p : Gathering σ} {event : LineEvent} {bs : Bytes} {w : σ}
    {events : List LineEvent} {result : EStateM.Result Fault (Gathering σ) Nat}
    (hFirst : host.Step event p.world w) (hBytes : event.bytes = bs) (hMild : Mild [event])
    (hUnsent : event.accepted? = none) (hUnrefused : event.refused? = none)
    (h : host.Searched ⟨p.line ++ bs, w⟩ events result) :
    host.Searched p (event :: events) result where
  runs := .step hFirst h.runs
  line_eq := by rw [h.line_eq, LineEvent.taken_cons, hBytes, List.append_assoc]
  found := h.found.cons hMild
  unsent := by rw [LineEvent.chunks_cons, hUnsent, h.unsent]; rfl
  unrefused := by rw [LineEvent.refusals_cons, hUnrefused, h.unrefused]; rfl

/-- A search adds what it takes to the line, and takes nothing beyond the first newline. -/
theorem seekLine_looks (host : LineHost σ) (got : Nat) (p : Gathering σ) (hNone : newline ∉ p.line)
    (hGot : 0 < got → p.line ≠ []) : ∃ events, host.Searched p events (host.seekLine got p) := by
  -- Bytes that were added before leave an end of the stream something to send.
  fun_induction seekLine host got p with
  | case1 got p f t hr hf ih =>
    obtain ⟨events, h⟩ := ih hNone hGot
    have hMild : Mild [.failed f] := fun g hMem => by
      cases List.mem_singleton.mp hMem
      exact Or.inr hf
    have hRest : host.Searched ⟨p.line ++ [], t⟩ events (host.seekLine got ⟨p.line, t⟩) := by
      rwa [List.append_nil]
    exact ⟨.failed f :: events, .cons (.failed hr) rfl hMild rfl rfl hRest⟩
  | case2 got p f t hr hf =>
    exact ⟨[.failed f], (Step.failed hr).runs, (List.append_nil _).symm,
      .failed [] hNone (by simp [Mild]), rfl, rfl⟩
  | case3 got p t hr =>
    refine ⟨[.ended], (Step.ended hr).runs, (List.append_nil _).symm, ?_, rfl, rfl⟩
    by_cases hAdded : 0 < got
    · exact Found.rest [] hAdded (hGot hAdded) hNone (by simp [Mild])
    · obtain rfl : got = 0 := by omega
      exact Found.ended [] hNone (by simp [Mild])
  | case4 got p b bs t hr found rest hs =>
    obtain ⟨front, rfl, hFront⟩ := splitLine_some hs
    have hShown : host.fill p.world = .ok ((front ++ [newline]) ++ rest) t := by
      rw [splitLine_append hs, hr]
    have hShape : p.line ++ (front ++ [newline]) = (p.line ++ front) ++ [newline] :=
      (List.append_assoc ..).symm
    refine ⟨[.took (front ++ [newline])], (Step.took hShown (by simp)).runs,
      by simp [taken, LineEvent.bytes], .line ?_ ?_ ?_ (by simp [Mild]), rfl, rfl⟩
    · simp only [List.length_append, List.length_singleton]
      omega
    · show newline ∉ (p.line ++ (front ++ [newline])).dropLast
      rw [hShape, List.dropLast_concat, List.mem_append]
      exact fun hMem => hMem.elim hNone hFront
    · show (p.line ++ (front ++ [newline])).getLast? = _
      rw [hShape, List.getLast?_concat]
  | case5 got p b bs t hr hs ih =>
    have hNoneHere : newline ∉ p.line ++ b :: bs := by
      rw [List.mem_append]
      exact fun hMem => hMem.elim hNone (splitLine_none hs)
    obtain ⟨events, h⟩ := ih hNoneHere (by simp)
    have hShown : host.fill p.world = .ok ((b :: bs) ++ []) t := by rw [hr, List.append_nil]
    have hTook : host.Step (.took (b :: bs)) p.world (host.consume (b :: bs).length t) :=
      .took hShown (by simp)
    exact ⟨.took (b :: bs) :: events, .cons hTook rfl (by simp [Mild]) rfl rfl h⟩

/-! ## A forwarding -/

/-- A chunk that was accepted after `early` has happened. -/
structure Delivered (early : List LineEvent) (chunk : Bytes) : Prop where
  nonempty : chunk ≠ []
  oneLine : newline ∉ chunk.dropLast
  /-- It goes on where the chunks before it end, up to the last byte that was taken. -/
  taken_eq : taken early = (chunks early).flatten ++ chunk

/-- The chunk has a newline at its end, or the end of the stream was reported right before it was
sent. -/
def Complete (early : List LineEvent) (chunk : Bytes) : Prop :=
  chunk.getLast? = some newline ∨ ∃ before, early = before ++ [.ended]

/-- The world was found stopped right before the chunk was sent, and nothing has happened after
that. -/
def BrokenOff (events early : List LineEvent) (chunk : Bytes) : Prop :=
  (∃ before, early = before ++ [.stopped]) ∧ events = early ++ [.accepted chunk]

/-- The stream has ended, the world was stopped or the receiver has gone away, and no byte was taken
after that. -/
inductive Over : List LineEvent → Prop
  | ended (early : List LineEvent) {late : List LineEvent} (hLate : taken late = []) :
      Over (early ++ .ended :: late)
  | stopped (early : List LineEvent) {late : List LineEvent} (hLate : taken late = []) :
      Over (early ++ .stopped :: late)
  | refused (early : List LineEvent) (chunk : Bytes) : Over (early ++ [.refused chunk])

/-- What has happened in a forwarding that has answered that it has sent `n` chunks. -/
structure Returned (events : List LineEvent) (n : Nat) : Prop where
  /-- The chunks that were accepted are those that it has counted. -/
  count : n = (chunks events).length
  mild : Mild events
  settled : Over events
  /-- All that was taken was sent. -/
  taken_eq : taken events = (chunks events ++ refusals events).flatten
  /-- At most one chunk was refused, as the last thing that has happened. -/
  refused : refusals events = [] ∨
    ∃ early chunk, events = early ++ [.refused chunk] ∧ refusals early = []

/-- What has happened in a forwarding that has answered with a fault. -/
structure Failed (events : List LineEvent) (f : Fault) : Prop where
  hard : f.kind ≠ .timedOut ∧ f.kind ≠ .interrupted
  /-- It is a fault of the reader, and the first that is no timeout and no interruption. -/
  last : ∃ early, events = early ++ [.failed f] ∧ Mild early
  unrefused : refusals events = []
  /-- All that was taken was sent but for the line in progress. -/
  taken_eq : ∃ line, taken events = (chunks events).flatten ++ line ∧ newline ∉ line

/-- How a forwarding that began in `s` comes out, with what has happened in it. -/
structure Outcome (host : LineHost σ) (s : σ) (events : List LineEvent)
    (result : EStateM.Result Fault σ Nat) : Prop where
  runs : host.Runs s events (endState result)
  accepted : ∀ early chunk, early ++ [.accepted chunk] <+: events →
    Delivered early chunk ∧ (Complete early chunk ∨ BrokenOff events early chunk)
  returned : ∀ n t, result = .ok n t → Returned events n
  failed : ∀ f t, result = .error f t → Failed events f

/-- A forwarding that has counted `sent` chunks is at `p`: all that was taken so far is in these
chunks and in the line. -/
structure Account (host : LineHost σ) (s : σ) (events : List LineEvent) (sent : Nat)
    (p : Gathering σ) : Prop where
  runs : host.Runs s events p.world
  count : sent = (chunks events).length
  mild : Mild events
  unrefused : refusals events = []
  taken_eq : taken events = (chunks events).flatten ++ p.line

namespace Account

variable {s t : σ} {past events : List LineEvent} {sent : Nat} {p : Gathering σ}

theorem stops (h : host.Account s past sent p) (hStopped : host.stopped p.world = true) :
    host.Account s (past ++ [.stopped]) sent p where
  runs := h.runs.trans (Step.stopped hStopped).runs
  count := by simp [h.count]
  mild := h.mild.append (by simp [Mild])
  unrefused := by simp [h.unrefused]
  taken_eq := by simp [h.taken_eq]

theorem searched {result : EStateM.Result Fault (Gathering σ) Nat} (h : host.Account s past sent p)
    (hLook : host.Searched p events result) (hMild : Mild events) :
    host.Account s (past ++ events) sent (endState result) where
  runs := h.runs.trans hLook.runs
  count := by simp [h.count, hLook.unsent]
  mild := h.mild.append hMild
  unrefused := by simp [h.unrefused, hLook.unrefused]
  taken_eq := by simp [h.taken_eq, hLook.unsent, hLook.line_eq]

theorem accepts (h : host.Account s past sent p) (hSent : host.send p.line p.world = (true, t)) :
    host.Account s (past ++ [.accepted p.line]) (sent + 1) ⟨[], t⟩ where
  runs := h.runs.trans (Step.accepted hSent).runs
  count := by simp [h.count]
  mild := h.mild.append (by simp [Mild])
  unrefused := by simp [h.unrefused]
  taken_eq := by simp [h.taken_eq]

/-- The receiver is gone, and what is sent goes nowhere. -/
theorem refuses (h : host.Account s past sent p) (hSent : host.send p.line p.world = (false, t))
    (hAccepted : ∀ early chunk, early ++ [.accepted chunk] <+: past →
      Delivered early chunk ∧ Complete early chunk) :
    host.Outcome s (past ++ [.refused p.line]) (.ok sent t) where
  runs := h.runs.trans (Step.refused hSent).runs
  accepted early chunk hPrefix :=
    (LineEvent.forall_accepted_append hAccepted rfl early chunk hPrefix).imp_right Or.inl
  returned n u hResult := by
    cases hResult
    refine ⟨?_, h.mild.append (by simp [Mild]), .refused _ _, ?_, Or.inr ⟨_, _, rfl, h.unrefused⟩⟩
    · simp [h.count]
    · simp [h.taken_eq, h.unrefused]
  failed f u hResult := by cases hResult

/-- Nothing is left to be sent. -/
theorem returned (h : host.Account s past sent p) (hNil : p.line = []) (hOver : Over past) :
    Returned past sent where
  count := h.count
  mild := h.mild
  settled := hOver
  taken_eq := by simp [h.taken_eq, h.unrefused, hNil]
  refused := Or.inl h.unrefused

end Account

/-- What holds of a forwarding before it looks for the end of a line. -/
structure Progress (host : LineHost σ) (s : σ) (events : List LineEvent) (sent : Nat)
    (p : Gathering σ) : Prop extends host.Account s events sent p where
  unended : newline ∉ p.line
  accepted : ∀ early chunk, early ++ [.accepted chunk] <+: events →
    Delivered early chunk ∧ Complete early chunk

theorem Progress.start (host : LineHost σ) (s : σ) : host.Progress s [] 0 ⟨[], s⟩ where
  runs := .done s
  count := rfl
  mild := by simp [Mild]
  unrefused := rfl
  taken_eq := rfl
  unended := by simp
  accepted := by simp

namespace Progress

variable {s t : σ} {past events : List LineEvent} {sent : Nat} {p q : Gathering σ}

/-- The next search continues the line in progress. -/
theorem looks {result : EStateM.Result Fault (Gathering σ) Nat} (h : host.Progress s past sent p)
    (hResult : host.seekLine 0 p = result) : ∃ events, host.Searched p events result := by
  rw [← hResult]
  exact seekLine_looks host 0 p h.unended (by simp)

/-- The world is found stopped. -/
theorem stops (h : host.Progress s past sent p) (hStopped : host.stopped p.world = true) :
    host.Progress s (past ++ [.stopped]) sent p where
  toAccount := h.toAccount.stops hStopped
  unended := h.unended
  accepted := LineEvent.forall_accepted_append h.accepted rfl

/-- A line that is not at its end is kept in progress. -/
theorem kept {result : EStateM.Result Fault (Gathering σ) Nat} (h : host.Progress s past sent p)
    (hLook : host.Searched p events result) (hMild : Mild events)
    (hNone : newline ∉ (endState result).line) :
    host.Progress s (past ++ events) sent (endState result) where
  toAccount := h.searched hLook hMild
  unended := hNone
  accepted := LineEvent.forall_accepted_append h.accepted hLook.unsent

section

variable {n : Nat} (h : host.Progress s past sent p)
  (hLook : host.Searched p events (.ok (n + 1) q))

include h hLook

/-- A search has found a line. -/
theorem account_found : host.Account s (past ++ events) sent q :=
  h.searched hLook (hLook.found.mild (by simp [toExcept]))

theorem sends (hSent : host.send q.line q.world = (true, t)) :
    host.Progress s (past ++ events ++ [.accepted q.line]) (sent + 1) ⟨[], t⟩ where
  toAccount := (h.account_found hLook).accepts hSent
  unended := by simp
  accepted := by
    obtain ⟨hSome, hOne⟩ := hLook.found.shape
    refine LineEvent.forall_accepted_concat
      (LineEvent.forall_accepted_append h.accepted hLook.unsent)
      ⟨⟨hSome, hOne, (h.account_found hLook).taken_eq⟩, ?_⟩
    cases hLook.found with
    | line _ _ hLast _ => exact Or.inl hLast
    | rest early _ _ _ _ => exact Or.inr ⟨past ++ early, (List.append_assoc ..).symm⟩

theorem refuses (hSent : host.send q.line q.world = (false, t)) :
    host.Outcome s (past ++ events ++ [.refused q.line]) (.ok sent t) :=
  (h.account_found hLook).refuses hSent (LineEvent.forall_accepted_append h.accepted hLook.unsent)

end

/-- The reader fails, and the line in progress is lost. -/
theorem fails {f : Fault} (h : host.Progress s past sent p)
    (hLook : host.Searched p events (.error f q))
    (hHard : ¬ (f.kind = .timedOut ∨ f.kind = .interrupted)) :
    host.Outcome s (past ++ events) (.error f q.world) where
  runs := h.runs.trans hLook.runs
  accepted early chunk hPrefix :=
    (LineEvent.forall_accepted_append h.accepted hLook.unsent early chunk hPrefix).imp_right Or.inl
  returned n u hResult := by cases hResult
  failed g u hResult := by
    cases hResult
    have hLine : q.line = p.line ++ taken events := hLook.line_eq
    refine ⟨not_or.mp hHard, ?_, by simp [h.unrefused, hLook.unrefused], q.line, ?_,
      hLook.found.unended (by simp [toExcept])⟩
    · cases hLook.found with
      | failed early _ hMild =>
        exact ⟨past ++ early, (List.append_assoc ..).symm, h.mild.append hMild⟩
    · simp [h.taken_eq, hLook.unsent, hLine]

/-- At the end of the stream, or after a stop, the line in progress is sent as it is. -/
theorem finishes (h : host.Progress s past sent p)
    (hEnd : (∃ before, past = before ++ [.ended]) ∨ ∃ before, past = before ++ [.stopped]) :
    ∃ late, host.Outcome s (past ++ late) (host.finish sent p) := by
  have hOne : newline ∉ p.line.dropLast := fun hMem => h.unended (List.mem_of_mem_dropLast hMem)
  have hOver : ∀ late, taken late = [] → Over (past ++ late) := by
    intro late hLate
    rcases hEnd with ⟨before, rfl⟩ | ⟨before, rfl⟩
    · rw [List.append_assoc]
      exact .ended before hLate
    · rw [List.append_assoc]
      exact .stopped before hLate
  unfold finish
  by_cases hNil : p.line = []
  · rw [if_pos (List.isEmpty_iff.mpr hNil)]
    refine ⟨[], ?_⟩
    have hNow := hOver [] rfl
    rw [List.append_nil] at hNow ⊢
    refine ⟨h.runs, fun early chunk hPrefix => (h.accepted early chunk hPrefix).imp_right Or.inl,
      fun n t hResult => ?_, fun f t hResult => by cases hResult⟩
    cases hResult
    exact h.toAccount.returned hNil hNow
  · rw [if_neg (by simpa using hNil)]
    cases hSent : host.send p.line p.world with
    | mk kept t =>
      cases kept with
      | false => exact ⟨[.refused p.line], h.toAccount.refuses hSent h.accepted⟩
      | true =>
        have hAfter := h.toAccount.accepts hSent
        refine ⟨[.accepted p.line], hAfter.runs, ?_, fun n u hResult => ?_,
          fun f u hResult => by cases hResult⟩
        · refine LineEvent.forall_accepted_concat (fun early chunk hPrefix => ?_)
            ⟨⟨hNil, hOne, h.taken_eq⟩, ?_⟩
          · exact (h.accepted early chunk hPrefix).imp_right Or.inl
          · exact hEnd.imp Or.inr fun hStopped => ⟨hStopped, rfl⟩
        · cases hResult
          exact hAfter.returned rfl (hOver _ rfl)

end Progress

theorem survives_iff {f : Fault} :
    survives f = true ↔ f.kind = .timedOut ∨ f.kind = .interrupted := by
  simp [survives]

/-- What is left of a stream is forwarded from any place in it. -/
theorem forwardFrom_outcome {s : σ} {past : List LineEvent} {sent : Nat} {p : Gathering σ}
    (h : host.Progress s past sent p) :
    ∃ late, host.Outcome s (past ++ late) (host.forwardFrom sent p) := by
  fun_induction forwardFrom host sent p generalizing past with
  | case1 sent p hStop =>
    obtain ⟨late, hOut⟩ := (h.stops hStop).finishes (Or.inr ⟨past, rfl⟩)
    exact ⟨.stopped :: late, by rwa [List.append_assoc] at hOut⟩
  | case2 sent p hStop q hs =>
    obtain ⟨events, hLook⟩ := h.looks hs
    have hNow := h.kept hLook (hLook.found.mild (by simp [toExcept]))
      (hLook.found.unended (by simp [toExcept]))
    cases hLook.found with
    | ended early _ _ =>
      obtain ⟨late, hOut⟩ := hNow.finishes (Or.inl ⟨past ++ early, (List.append_assoc ..).symm⟩)
      exact ⟨early ++ [.ended] ++ late, by rwa [← List.append_assoc]⟩
    | line hAdded => cases hAdded
    | rest _ hAdded => cases hAdded
  | case3 sent p hStop n q hs t ht ih =>
    obtain ⟨events, hLook⟩ := h.looks hs
    obtain ⟨late, hOut⟩ := ih (h.sends hLook ht)
    exact ⟨events ++ .accepted q.line :: late, by simpa using hOut⟩
  | case4 sent p hStop n q hs t ht =>
    obtain ⟨events, hLook⟩ := h.looks hs
    exact ⟨events ++ [.refused q.line], by simpa using h.refuses hLook ht⟩
  | case5 sent p hStop f q hs hSurvives ih =>
    obtain ⟨events, hLook⟩ := h.looks hs
    have hMild := hLook.found.mild fun g hSame => by cases hSame; exact survives_iff.mp hSurvives
    obtain ⟨late, hOut⟩ := ih (h.kept hLook hMild (hLook.found.unended (by simp [toExcept])))
    exact ⟨events ++ late, by rwa [← List.append_assoc]⟩
  | case6 sent p hStop f q hs hSurvives =>
    obtain ⟨events, hLook⟩ := h.looks hs
    exact ⟨events, h.fails hLook (mt survives_iff.mpr hSurvives)⟩

end LineHost

/-! ## Readers in rehearsal -/

namespace LineReader

/-- The receiver has gone away. -/
def gone (r : LineReader) : Bool :=
  r.reader.hungUp

/-- All bytes that are still to come, those that have been read ahead first. -/
def pending (r : LineReader) : Bytes :=
  r.buffer ++ Script.bytesOf r.reader.arrivals

theorem fill_received (r : LineReader) : (endState (fill r)).received = r.received := by
  unfold fill
  split
  · rfl
  · split <;> rfl

theorem playInterlude_received (r : LineReader) : r.playInterlude.received = r.received := by
  unfold playInterlude
  split <;> rfl

theorem playInterlude_pending (r : LineReader) : r.playInterlude.pending = r.pending := by
  unfold playInterlude
  split <;> rfl

theorem conveys : host.Conveys (fun r => r.received.toList) gone where
  fill r := ⟨congrArg Record.toList r.fill_received, r.fill_onward.2⟩
  consume _ _ := ⟨rfl, id⟩
  accepts {chunk r t} h := by
    have hGone : r.gone = true → r.playInterlude.reader.hungUp = true := r.playInterlude_onward.2
    replace h : accept chunk r.playInterlude = (true, t) := h
    unfold accept at h
    split at h <;> cases h
    rename_i hThere
    refine ⟨by simpa using mt hGone hThere, ?_⟩
    rw [Record.toList_add, playInterlude_received]
  refuses {chunk r t} h := by
    replace h : accept chunk r.playInterlude = (false, t) := h
    unfold accept at h
    split at h <;> cases h
    rename_i hGone
    exact ⟨hGone, by rw [playInterlude_received]⟩

theorem streams : host.Streams pending where
  takes {r bs t n} h hShown := by
    replace h : fill r = .ok bs t := h
    have hPending : r.pending = t.pending := by
      unfold fill at h
      split at h
      · cases h
        rfl
      · rename_i hb
        split at h <;> cases h
        rename_i hRead
        rw [pending, hb, List.nil_append]
        exact (ScriptedReader.read_ok_bytes hRead).symm
    have hTaken : t.buffer = bs.take n ++ t.buffer.drop n := by
      rw [(fill_ok h).1, List.take_append_drop]
    calc r.pending = t.buffer ++ Script.bytesOf t.reader.arrivals := hPending
      _ = (bs.take n ++ t.buffer.drop n) ++ Script.bytesOf t.reader.arrivals := by rw [← hTaken]
      _ = bs.take n ++ (consume n t).pending := List.append_assoc ..
  fails {r f t} h := by
    replace h : fill r = .error f t := h
    unfold fill at h
    split at h
    · cases h
    · rename_i hb
      split at h <;> cases h
      rename_i hRead
      simp only [pending, ScriptedReader.read_error_bytes hRead]
  sends chunk r := by
    have hPlay := r.playInterlude_pending
    show (accept chunk r.playInterlude).2.pending = r.pending
    unfold accept
    split <;> exact hPlay

end LineReader

/-! ## Lines -/

namespace LineHost

/-- **Lines are forwarded as they come.** A forwarding neither loses, invents nor reorders bytes,
however the reader cuts them into pieces, and whatever timeouts, interruptions, faults and ends of
the stream come in between, and wherever the world is stopped or the receiver goes away.

* Every chunk that is accepted is one line or the rest of one, that is not empty. It breaks off
  without a newline only where the reader has reported the end of the stream, or as the last chunk
  after a stop.
* A forwarding answers with a number only at an end of the stream, after a stop or when the receiver
  has gone away. The number is that of the chunks that were accepted. They are all that was taken,
  but for the one that found the receiver gone.
* A fault that it answers with is the reader's, no timeout and no interruption. The chunks are then
  all that was taken up to the line in progress.
* The receiver gets these chunks and no others, in this order. If it is there all the time, none is
  refused, and if it was gone before, none is accepted.
* In a world that was stopped before, nothing happens at all.
* What is taken of a stream and what is left of it are what there was before.
-/
theorem lines_forwarded {host : LineHost σ} {received : σ → List Bytes} {gone : σ → Bool}
    (h : host.Conveys received gone) (s : σ) :
    let result := host.forward s
    ∃ events, host.Outcome s events result ∧
      received (endState result) = received s ++ chunks events ∧
      (∀ n t, result = .ok n t → gone t = false → taken events = (chunks events).flatten) ∧
      (gone (endState result) = false → refusals events = []) ∧
      (gone s = true → chunks events = []) ∧
      (host.stopped s = true → result = .ok 0 s) ∧
      ∀ pending, host.Streams pending →
        pending s = taken events ++ pending (endState result) := by
  intro result
  obtain ⟨events, hOut⟩ : ∃ events, host.Outcome s events result :=
    forwardFrom_outcome (Progress.start host s)
  have hPosted := h.runs hOut.runs
  have hThere : gone (endState result) = false → refusals events = [] := by
    intro hAlive
    by_contra hSome
    cases hAlive.symm.trans (hPosted.refuses hSome)
  refine ⟨events, hOut, hPosted.received_eq, fun n t hResult hAlive => ?_, hThere,
    fun hGone => (hPosted.absent hGone).2, fun hStop => ?_, fun pending hStreams => ?_⟩
  · have hNone : refusals events = [] := hThere (by rw [hResult]; exact hAlive)
    rw [(hOut.returned n t hResult).taken_eq, hNone, List.append_nil]
  · show host.forwardFrom 0 ⟨[], s⟩ = _
    rw [forwardFrom, if_pos hStop]
    rfl
  · exact hStreams.runs hOut.runs

/-- A line with a timeout in it, and two lines that are read ahead together with its end. The world
is stopped while the second line is sent, and the third one is left. -/
theorem lines_forwarded_up_to_a_stop :
    let r : LineReader :=
      { reader := { arrivals := [.data [97, 98], .fault .timedOut, .data [10, 99, 10, 100, 10]] }
        interludes := [{}, { stop := true }] }
    let result := LineReader.host.forward r
    LineReader.host.Conveys (fun r => r.received.toList) LineReader.gone ∧
      toExcept result = .ok 2 ∧ (endState result).received.toList = [[97, 98, 10], [99, 10]] ∧
      (endState result).pending = [100, 10] := by
  intro r result
  have hAnswer : toExcept result = .ok 2 := by decide +kernel
  have hReceived : (endState result).received.toList = [[97, 98, 10], [99, 10]] := by decide +kernel
  have hThere : LineReader.gone (endState result) = false := by decide +kernel
  obtain ⟨events, -, hChunks, hAll, -, -, -, hStreams⟩ := lines_forwarded LineReader.conveys r
  have hSent : chunks events = [[97, 98, 10], [99, 10]] := hChunks.symm.trans hReceived
  have hResult : result = .ok 2 (endState result) := by
    cases hRun : result with
    | ok n t =>
      rw [hRun] at hAnswer
      cases hAnswer
      rfl
    | error f t =>
      rw [hRun] at hAnswer
      cases hAnswer
  have hTaken : taken events = [97, 98, 10, 99, 10] := by
    rw [hAll 2 _ hResult hThere, hSent]
    rfl
  have hLeft : r.pending = taken events ++ (endState result).pending :=
    hStreams LineReader.pending LineReader.streams
  rw [hTaken] at hLeft
  have hSame : [97, 98, 10, 99, 10] ++ [100, 10] =
      [97, 98, 10, 99, 10] ++ (endState result).pending := hLeft
  exact ⟨LineReader.conveys, hAnswer, hReceived, (List.append_cancel_left hSame).symm⟩

end LineHost

/-- Of two lines that are read ahead together the second finds the receiver gone. -/
example :
    let r : LineReader :=
      { reader := { arrivals := [.data [97, 10, 98, 10]] }
        interludes := [{}, { hangUp := true }] }
    (r.forward []).sent = some 1 ∧ (r.forward []).chunks = [[97, 10]] := by
  decide +kernel

end MemoryBridge
