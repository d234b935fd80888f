import MemoryBridge.Proofs.Channel
import MemoryBridge.Rehearsal.World

/-!
# Rehearsed links without faults

A scripted link whose script holds nothing but bytes and partial acceptances is faultless, however
the script cuts the bytes into pieces: `World.faultless`, `World.supply_faultless`. Interruptions of
writes are allowed. Interruptions of reads are not, since a link that has only an interruption left
looks as if it had more to read.
-/

namespace MemoryBridge

open Script

/-- A piece of bytes, which is not empty. -/
def Arrival.IsPiece : Arrival → Prop
  | .data bs => bs ≠ []
  | _ => False

/-- A script that lets every write through in the end takes bytes or interrupts. -/
def Acceptance.Yields : Acceptance → Prop
  | .take _ => True
  | .fault kind => kind = .interrupted
  | .refuse => False

namespace Script

theorem bytesOf_eq_nil {script : List Arrival} (h : ∀ a ∈ script, a.IsPiece)
    (hNil : bytesOf script = []) : script = [] := by
  cases script with
  | nil => rfl
  | cons a rest =>
    cases a with
    | data bs =>
      have hne : bs ≠ [] := h _ List.mem_cons_self
      exact absurd (List.append_eq_nil_iff.mp hNil).1 hne
    | _ => exact (h _ List.mem_cons_self).elim

/-- A script of pieces has its first piece ready. -/
theorem cue_pieces {script : List Arrival} (h : ∀ a ∈ script, a.IsPiece) :
    (script = [] ∧ cue script = { due := .nothing, rest := [] }) ∨
      ∃ bs rest, bs ≠ [] ∧ script = .data bs :: rest ∧ cue script = { due := .bytes bs, rest } := by
  cases script with
  | nil => exact Or.inl ⟨rfl, rfl⟩
  | cons a rest =>
    cases a with
    | data bs =>
      cases bs with
      | nil => exact absurd rfl (h _ List.mem_cons_self)
      | cons b bs => exact Or.inr ⟨b :: bs, rest, by simp, rfl, rfl⟩
    | _ => exact (h _ List.mem_cons_self).elim

/-- A script that yields takes some bytes of a write, or interrupts it, and goes on to yield. -/
theorem accept_yields {script : List Acceptance} (h : ∀ a ∈ script, a.Yields) {bs : Bytes}
    (hbs : bs ≠ []) :
    ∃ rest, (∀ a ∈ rest, a.Yields) ∧
      ((∃ n, 0 < n ∧ accept script bs = (.ok n, rest)) ∨
        accept script bs = (.error .interrupted, rest)) := by
  have hLength : 0 < bs.length := List.length_pos_iff.mpr hbs
  fun_induction accept script bs with
  | case1 bs => exact ⟨[], by simp, Or.inl ⟨bs.length, hLength, rfl⟩⟩
  | case2 rest bs ih => exact ih (fun a ha => h a (List.mem_cons_of_mem _ ha)) hbs hLength
  | case3 n rest bs taken =>
    refine ⟨.take (n + 1 - taken) :: rest, ?_, Or.inl ⟨taken, by omega, rfl⟩⟩
    intro a ha
    rcases List.mem_cons.mp ha with rfl | ha
    · trivial
    · exact h a (List.mem_cons_of_mem _ ha)
  | case4 kind rest bs =>
    have hKind : kind = .interrupted := h _ List.mem_cons_self
    exact ⟨rest, fun a ha => h a (List.mem_cons_of_mem _ ha), Or.inr (by rw [hKind])⟩
  | case5 rest bs => exact (h _ List.mem_cons_self).elim

end Script

/-! ## One link -/

namespace MemoryLink

/-- Nothing was injected into the link and it was not closed. -/
structure Intact (m : MemoryLink) : Prop where
  failRead : m.failRead = none
  failMode : m.failMode = none
  closed : m.closed = false

variable {m : MemoryLink}

theorem read_pending (h : m.Intact) {n : Nat} (hn : 0 < n) (hne : m.pending ≠ []) :
    read n m = .ok (m.pending.take n) { m with pending := m.pending.drop n } := by
  have hn' : n ≠ 0 := by omega
  have hPending : ¬ m.pending.isEmpty = true := by simpa using hne
  simp only [read, h.failRead, h.closed, hn', hPending, if_false, Bool.false_eq_true]

theorem read_nothing (h : m.Intact) {n : Nat} (hn : 0 < n) (hNil : m.pending = []) :
    read n m = .error noData m := by
  have hn' : n ≠ 0 := by omega
  simp [read, h.failRead, h.closed, hn', hNil]

theorem write_intact (h : m.Intact) (bs : Bytes) :
    write bs m = .ok bs.length { m with sent := m.sent.addAll bs } := by
  simp [write, h.closed]

theorem flush_intact (h : m.Intact) : flush m = .ok () m := by
  simp [flush, h.closed]

theorem setMode_intact (h : m.Intact) (mode : ReadMode) :
    setMode mode m = .ok () { m with mode := mode, modeSwitches := m.modeSwitches + 1 } := by
  simp [setMode, h.failMode]

end MemoryLink

/-- A link without faults that has `incoming` to read and was sent `sent`. -/
structure ScriptedLink.Plays (l : ScriptedLink) (incoming sent : Bytes) : Prop where
  pieces : ∀ a ∈ l.arrivals, a.IsPiece
  yields : ∀ a ∈ l.acceptances, a.Yields
  flushes : l.flushFaults = []
  modes : l.modeFaults = []
  intact : l.memory.Intact
  incoming_eq : incoming = l.memory.pending ++ bytesOf l.arrivals
  sent_eq : sent = l.memory.sent.toList

namespace ScriptedLink.Plays

variable {l : ScriptedLink} {incoming sent : Bytes}

/-- A read of bytes that are in memory. -/
theorem read_memory (h : l.Plays incoming sent) {n : Nat} (hn : 0 < n)
    (hne : l.memory.pending ≠ []) :
    ∃ bs rest m, bs ≠ [] ∧ incoming = bs ++ rest ∧ onMemory (MemoryLink.read n) l = .ok bs m ∧
      m.Plays rest sent := by
  refine ⟨l.memory.pending.take n, l.memory.pending.drop n ++ bytesOf l.arrivals,
    { l with memory.pending := l.memory.pending.drop n }, ?_, ?_, ?_, ?_⟩
  · intro hNil
    rcases List.take_eq_nil_iff.mp hNil with h0 | h0
    · omega
    · exact hne h0
  · rw [h.incoming_eq, ← List.append_assoc, List.take_append_drop]
  · simp only [onMemory, MemoryLink.read_pending h.intact hn hne]
  · exact { h with
      intact := ⟨h.intact.failRead, h.intact.failMode, h.intact.closed⟩, incoming_eq := rfl }

/-- A read finds the next bytes, or nothing if there are none. -/
theorem read_cases (h : l.Plays incoming sent) (stop : Bool) {n : Nat} (hn : 0 < n) :
    (incoming = [] ∧ l.read stop n = (.error MemoryLink.noData l, stop)) ∨
      ∃ bs rest m, bs ≠ [] ∧ incoming = bs ++ rest ∧ l.read stop n = (.ok bs m, false) ∧
        m.Plays rest sent := by
  unfold read
  by_cases hEmpty : l.memory.pending = []
  · rw [if_pos (by simp [hEmpty])]
    rcases cue_pieces h.pieces with ⟨hNil, hCue⟩ | ⟨bs, rest, hbs, hNext, hCue⟩
    · refine Or.inl ⟨by rw [h.incoming_eq, hEmpty, hNil]; rfl, ?_⟩
      have hSame : { l with arrivals := [] } = l := by rw [← hNil]
      simp only [hCue, hSame, onMemory, MemoryLink.read_nothing h.intact hn hEmpty, Bool.false_or]
    · have hMoved : Plays { l with memory := l.memory.push bs, arrivals := rest } incoming sent :=
        { h with
          pieces := fun a ha => h.pieces a (hNext ▸ List.mem_cons_of_mem _ ha)
          intact := ⟨h.intact.failRead, h.intact.failMode, h.intact.closed⟩
          incoming_eq := by
            rw [h.incoming_eq, hNext]
            simp [MemoryLink.push, bytesOf] }
      obtain ⟨cs, left, m, hcs, hIn, hRead, hPlays⟩ :=
        hMoved.read_memory hn (by simpa [MemoryLink.push, hEmpty] using hbs)
      exact Or.inr ⟨cs, left, m, hcs, hIn, by simp only [hCue, hRead], hPlays⟩
  · rw [if_neg (by simpa using hEmpty)]
    obtain ⟨cs, left, m, hcs, hIn, hRead, hPlays⟩ := h.read_memory hn hEmpty
    exact Or.inr ⟨cs, left, m, hcs, hIn, by rw [hRead], hPlays⟩

/-- A write takes some bytes or is interrupted. -/
theorem write_cases (h : l.Plays incoming sent) {bs : Bytes} (hbs : bs ≠ []) :
    (∃ n m, 0 < n ∧ write bs l = .ok n m ∧ m.Plays incoming (sent ++ bs.take n)) ∨
      ∃ m, write bs l = .error (fault .interrupted) m ∧ m.Plays incoming sent := by
  obtain ⟨rest, hRest, ⟨n, hn, hAccept⟩ | hAccept⟩ := accept_yields h.yields hbs
  · have hle : n ≤ bs.length := accept_le_length hAccept
    obtain ⟨k, rfl⟩ : ∃ k, n = k + 1 := ⟨n - 1, by omega⟩
    have hIntact : MemoryLink.Intact { l with acceptances := rest }.memory := h.intact
    refine Or.inl ⟨k + 1, { l with
      acceptances := rest, memory.sent := l.memory.sent.addAll (bs.take (k + 1)) }, hn, ?_, ?_⟩
    · simp only [write, hAccept, onMemory, MemoryLink.write_intact hIntact, List.length_take,
        Nat.min_eq_left hle]
    · exact { h with
        yields := hRest
        intact := ⟨h.intact.failRead, h.intact.failMode, h.intact.closed⟩
        sent_eq := by rw [h.sent_eq, Record.toList_addAll] }
  · exact Or.inr ⟨{ l with acceptances := rest },
      by simp only [write, hAccept], { h with yields := hRest }⟩

theorem flush_ok (h : l.Plays incoming sent) : flush l = .ok () l := by
  have hSame : { l with flushFaults := [] } = l := by rw [← h.flushes]
  simp only [flush, h.flushes, nextFault, hSame, onMemory, MemoryLink.flush_intact h.intact]

theorem setMode_ok (h : l.Plays incoming sent) (mode : ReadMode) :
    ∃ m, setMode mode l = .ok () m ∧ m.Plays incoming sent := by
  have hIntact :
      MemoryLink.Intact { l with modeCalls := l.modeCalls.add mode, modeFaults := [] }.memory :=
    h.intact
  refine ⟨{ l with
    modeCalls := l.modeCalls.add mode, modeFaults := [], memory.mode := mode
    memory.modeSwitches := l.memory.modeSwitches + 1 }, ?_, ?_⟩
  · simp only [setMode, h.modes, nextFault, onMemory, MemoryLink.setMode_intact hIntact]
  · exact { h with
      modes := rfl
      intact := ⟨h.intact.failRead, h.intact.failMode, h.intact.closed⟩ }

end ScriptedLink.Plays

/-! ## The sink -/

/-- A sink without faults that has received `shown`. -/
structure ScriptedSink.Plays (s : ScriptedSink) (shown : Bytes) : Prop where
  yields : ∀ a ∈ s.acceptances, a.Yields
  flushes : s.flushFaults = []
  shown_eq : shown = s.received.toList

namespace ScriptedSink.Plays

variable {s : ScriptedSink} {shown : Bytes}

theorem write_cases (h : s.Plays shown) {bs : Bytes} (hbs : bs ≠ []) :
    (∃ n t, 0 < n ∧ write bs s = .ok n t ∧ t.Plays (shown ++ bs.take n)) ∨
      ∃ t, write bs s = .error (fault .interrupted) t ∧ t.Plays shown := by
  obtain ⟨rest, hRest, ⟨n, hn, hAccept⟩ | hAccept⟩ := accept_yields h.yields hbs
  · refine Or.inl ⟨n, { s with acceptances := rest, received := s.received.addAll (bs.take n) },
      hn, ?_, ?_⟩
    · simp only [write, hAccept]
    · exact { h with
        yields := hRest
        shown_eq := by rw [h.shown_eq, Record.toList_addAll] }
  · exact Or.inr ⟨{ s with acceptances := rest },
      by simp only [write, hAccept], { h with yields := hRest }⟩

theorem flush_ok (h : s.Plays shown) : ∃ t, flush s = .ok () t ∧ t.Plays shown := by
  refine ⟨{ s with flushFaults := [], flushes := s.flushes + 1 }, ?_, { h with flushes := rfl }⟩
  simp only [flush, h.flushes, nextFault]

end ScriptedSink.Plays

/-! ## The world -/

namespace World

/-- The link `id` and the sink have no faults, and they show `ch`. -/
def Plays (w : World) (id : LinkId) (ch : Channel) : Prop :=
  ∃ l, w.lines[id]? = some l ∧ l.Plays ch.incoming ch.sent ∧ w.sink.Plays ch.shown

/-- How a rehearsed link answers when it has nothing left. -/
def silence : Ending := .silent MemoryLink.noData (by decide)

variable {id : LinkId} {w : World} {ch : Channel} {l m : ScriptedLink}

/-- A world in which the link `id` has changed. -/
theorem Plays.of_line {v : World} {incoming sent : Bytes} (hw : w.lines[id]? = some l)
    (hSink : w.sink.Plays ch.shown) (hm : m.Plays incoming sent)
    (hLines : v.lines = w.lines.set id m) (hSame : v.sink = w.sink) :
    v.Plays id { ch with incoming, sent } := by
  have hlt : id < w.lines.length := (List.getElem?_eq_some_iff.mp hw).1
  exact ⟨m, by rw [hLines, List.getElem?_set_self hlt], hm, hSame ▸ hSink⟩

theorem Plays.read_cases (h : w.Plays id ch) (stop : Bool) {n : Nat} (hn : 0 < n) :
    (ch.incoming = [] ∧ ∃ v, readLine stop id n w = .error MemoryLink.noData v ∧ v.Plays id ch) ∨
      ∃ bs rest v, bs ≠ [] ∧ ch.incoming = bs ++ rest ∧ readLine stop id n w = .ok bs v ∧
        v.Plays id { ch with incoming := rest } := by
  obtain ⟨l, hl, hPlays, hSink⟩ := h
  unfold readLine
  simp only [hl]
  rcases hPlays.read_cases stop hn with ⟨hNil, hRead⟩ | ⟨bs, rest, m, hbs, hIn, hRead, hm⟩
  · exact Or.inl ⟨hNil, { w.setLine id l with stopped := w.stopped || stop }, by simp only [hRead],
      Plays.of_line hl hSink hPlays rfl rfl⟩
  · exact Or.inr ⟨bs, rest, { w.setLine id m with stopped := w.stopped || false }, hbs, hIn,
      by simp only [hRead], Plays.of_line hl hSink hm rfl rfl⟩

theorem Plays.write_cases (h : w.Plays id ch) {bs : Bytes} (hbs : bs ≠ []) :
    (∃ n v, 0 < n ∧ onLine id (ScriptedLink.write bs) w = .ok n v ∧
      v.Plays id (ch.send (bs.take n))) ∨
      ∃ v, onLine id (ScriptedLink.write bs) w = .error (fault .interrupted) v ∧ v.Plays id ch := by
  obtain ⟨l, hl, hPlays, hSink⟩ := h
  unfold onLine
  simp only [hl]
  rcases hPlays.write_cases hbs with ⟨n, m, hn, hWrite, hm⟩ | ⟨m, hWrite, hm⟩
  · exact Or.inl ⟨n, w.setLine id m, hn, by simp only [hWrite], Plays.of_line hl hSink hm rfl rfl⟩
  · exact Or.inr ⟨w.setLine id m, by simp only [hWrite], Plays.of_line hl hSink hm rfl rfl⟩

theorem Plays.pass_cases (h : w.Plays id ch) {bs : Bytes} (hbs : bs ≠ []) :
    (∃ n v, 0 < n ∧ onSink (ScriptedSink.write bs) w = .ok n v ∧ v.Plays id (ch.pass (bs.take n))) ∨
      ∃ v, onSink (ScriptedSink.write bs) w = .error (fault .interrupted) v ∧ v.Plays id ch := by
  obtain ⟨l, hl, hPlays, hSink⟩ := h
  unfold onSink
  rcases hSink.write_cases hbs with ⟨n, t, hn, hWrite, ht⟩ | ⟨t, hWrite, ht⟩
  · exact Or.inl ⟨n, { w with sink := t }, hn, by simp only [hWrite], l, hl, hPlays, ht⟩
  · exact Or.inr ⟨{ w with sink := t }, by simp only [hWrite], l, hl, hPlays, ht⟩

/-- A rehearsed link without faults is faultless, whether or not it stops the world when
it has nothing left. -/
theorem faultless (stop : Bool) (id : LinkId) :
    Faultless (link stop id) passthrough silence (Plays · id) where
  read_ok := by
    intro n w bs v ch h hn hRead
    rcases h.read_cases stop hn with ⟨-, v', hNone, -⟩ | ⟨cs, rest, v', hcs, hIn, hSome, hv⟩
    · cases hNone.symm.trans hRead
    · cases hSome.symm.trans hRead
      exact ⟨rest, hIn, hv, fun hNil => absurd hNil hcs⟩
  read_error := by
    intro n w f v ch h hn hRead
    rcases h.read_cases stop hn with ⟨hNil, v', hNone, hv⟩ | ⟨cs, rest, v', -, -, hSome, -⟩
    · cases hNone.symm.trans hRead
      exact ⟨hv, Or.inr ⟨hNil, _, rfl⟩⟩
    · cases hSome.symm.trans hRead
  write_ok := by
    intro bs w n v ch h hbs hWrite
    rcases h.write_cases hbs with ⟨k, v', hk, hOk, hv⟩ | ⟨v', hError, -⟩
    · cases hOk.symm.trans hWrite
      exact ⟨hk, hv⟩
    · cases hError.symm.trans hWrite
  write_error := by
    intro bs w f v ch h hbs hWrite
    rcases h.write_cases hbs with ⟨k, v', -, hOk, -⟩ | ⟨v', hError, hv⟩
    · cases hOk.symm.trans hWrite
    · cases hError.symm.trans hWrite
      exact ⟨rfl, hv⟩
  flush := by
    rintro w ch ⟨l, hl, hPlays, hSink⟩
    refine ⟨w.setLine id l, ?_, Plays.of_line hl hSink hPlays rfl rfl⟩
    show onLine id ScriptedLink.flush w = _
    unfold onLine
    simp only [hl, hPlays.flush_ok]
  setMode := by
    rintro mode w ch ⟨l, hl, hPlays, hSink⟩
    obtain ⟨m, hMode, hm⟩ := hPlays.setMode_ok mode
    refine ⟨w.setLine id m, ?_, Plays.of_line hl hSink hm rfl rfl⟩
    show onLine id (ScriptedLink.setMode mode) w = _
    unfold onLine
    simp only [hl, hMode]
  pass_ok := by
    intro bs w n v ch h hbs hWrite
    rcases h.pass_cases hbs with ⟨k, v', hk, hOk, hv⟩ | ⟨v', hError, -⟩
    · cases hOk.symm.trans hWrite
      exact ⟨hk, hv⟩
    · cases hError.symm.trans hWrite
  pass_error := by
    intro bs w f v ch h hbs hWrite
    rcases h.pass_cases hbs with ⟨k, v', -, hOk, -⟩ | ⟨v', hError, hv⟩
    · cases hOk.symm.trans hWrite
    · cases hError.symm.trans hWrite
      exact ⟨rfl, hv⟩
  flush_sink := by
    rintro w ch ⟨l, hl, hPlays, hSink⟩
    obtain ⟨t, hFlush, ht⟩ := hSink.flush_ok
    refine ⟨{ w with sink := t }, ?_, l, hl, hPlays, ht⟩
    show onSink ScriptedSink.flush w = _
    unfold onSink
    simp only [hFlush]

/-- A world of one link that has some bytes to hand over at once. -/
theorem plays_data {bs : Bytes} (hbs : bs ≠ []) :
    Plays { lines := [{ arrivals := [.data bs] }] } 0 { incoming := bs } := by
  refine ⟨_, rfl, ⟨?_, by simp, rfl, rfl, ⟨rfl, rfl, rfl⟩, ?_, rfl⟩, ⟨by simp, rfl, rfl⟩⟩
  · intro a ha
    rw [List.mem_singleton.mp ha]
    exact hbs
  · exact (List.append_nil bs).symm

/-- A poll of a rehearsed link without faults is never interrupted. -/
theorem Plays.not_interrupted (h : w.Plays id ch) {stop : Bool} {n : Nat} (hn : 0 < n) {f : Fault}
    {v : World} (hRead : (link stop id).read n w = .error f v) : f.kind ≠ .interrupted := by
  rcases h.read_cases stop hn with ⟨-, v', hNone, -⟩ | ⟨bs, rest, v', -, -, hSome, -⟩
  · cases hNone.symm.trans hRead
    decide
  · cases hSome.symm.trans hRead

theorem supply_faultless (id : LinkId) : (supply id).Faultless silence (Plays · id) where
  streams := faultless false id
  more := by
    rintro w ch ⟨l, hl, hPlays, hSink⟩
    show hasMore id w = _
    unfold hasMore
    simp only [hl, hPlays.incoming_eq]
    cases hScript : l.arrivals with
    | nil => simp [bytesOf]
    | cons a rest =>
      have hne : bytesOf (a :: rest) ≠ [] := by
        intro hNil
        have := bytesOf_eq_nil hPlays.pieces (hScript ▸ hNil)
        simp [hScript] at this
      simp [hne]

end World

end MemoryBridge
