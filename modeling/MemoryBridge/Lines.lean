import MemoryBridge.Host
import MemoryBridge.Rehearsal.Record
import MemoryBridge.Rehearsal.Script

/-!
# Lines of console input

Console input goes to the bridge line by line, the newline included. A line in progress survives a
read that times out; what is left without a newline at the end is sent as it is.

The reader reads ahead, and lines are taken out of what it has read ahead. The receiver is at the
other end of a channel. It may go away at any time, and the world may be stopped at any time: that
happens during some operation of the world, which may be the sending of one of two lines that were
read ahead together.
-/

namespace MemoryBridge

def newline : UInt8 := 10

/-- The bytes up to and with the first newline, if there is one, and the bytes after it. -/
def splitLine : Bytes → Option (Bytes × Bytes)
  | [] => none
  | b :: bs =>
    if b = newline then some ([b], bs)
    else (splitLine bs).map fun (line, rest) => (b :: line, rest)

/-- The first byte is a line by itself, or the line goes on after it. -/
theorem splitLine_cons {b : UInt8} {bs line rest : Bytes}
    (h : splitLine (b :: bs) = some (line, rest)) :
    b = newline ∧ line = [b] ∧ rest = bs ∨
      b ≠ newline ∧ ∃ tail, splitLine bs = some (tail, rest) ∧ line = b :: tail := by
  unfold splitLine at h
  by_cases hb : b = newline
  · rw [if_pos hb] at h
    cases h
    exact Or.inl ⟨hb, rfl, rfl⟩
  · rw [if_neg hb] at h
    obtain ⟨p, hTail, hLine⟩ := Option.map_eq_some_iff.mp h
    cases hLine
    exact Or.inr ⟨hb, p.1, hTail, rfl⟩

theorem splitLine_append {bs line rest : Bytes} (h : splitLine bs = some (line, rest)) :
    line ++ rest = bs := by
  induction bs generalizing line with
  | nil => simp [splitLine] at h
  | cons b bs ih =>
    obtain ⟨-, rfl, rfl⟩ | ⟨-, tail, hTail, rfl⟩ := splitLine_cons h
    · rfl
    · rw [List.cons_append, ih hTail]

theorem splitLine_ne_nil {bs line rest : Bytes} (h : splitLine bs = some (line, rest)) :
    line ≠ [] := by
  cases bs with
  | nil => simp [splitLine] at h
  | cons b bs =>
    obtain ⟨-, rfl, -⟩ | ⟨-, tail, -, rfl⟩ := splitLine_cons h
    · exact List.cons_ne_nil b []
    · exact List.cons_ne_nil b tail

/-! ## Forwarding -/

/-- The world of a forwarding: a reader that reads ahead, a signal to stop and a channel to a
receiver. A stop between a look at the signal and the next operation counts as falling into that
operation. Every byte that is taken and every fault spends some of the budget. -/
structure LineHost (σ : Type) where
  /-- Shows what has been read ahead. If that is nothing, it reads ahead first, and shows nothing at
  the end of the stream. -/
  fill : EStateM Fault σ Bytes
  /-- Takes so many of the bytes that were shown. -/
  consume : Nat → σ → σ
  stopped : σ → Bool
  /-- Sends a chunk. Answers whether it was accepted. -/
  send : Bytes → σ → Bool × σ
  budget : σ → Nat
  fill_later : Moves (Later stopped budget) fill
  consume_later : ∀ n s, Later stopped budget s (consume n s)
  send_later : ∀ chunk s, Later stopped budget s (send chunk s).2
  fill_spends : ∀ {s f t}, fill s = .error f t → budget t < budget s
  consume_spends : ∀ {s bs t n}, fill s = .ok bs t → 0 < n → n ≤ bs.length →
    budget (consume n t) < budget s

/-- A line in progress and the world that it comes from. -/
structure Gathering (σ : Type) where
  line : Bytes
  world : σ

namespace LineHost

variable {σ : Type}

/-- Adds bytes to the line in progress, up to and with the next newline or up to the end of the
stream. Answers how many it has added, with the `got` bytes from before. -/
def seekLine (host : LineHost σ) (got : Nat) (p : Gathering σ) :
    EStateM.Result Fault (Gathering σ) Nat :=
  match _hr : host.fill p.world with
  | .error f t =>
    if _hf : f.kind = .interrupted then host.seekLine got { p with world := t }
    else .error f { p with world := t }
  | .ok [] t => .ok got { p with world := host.consume 0 t }
  | .ok (b :: bs) t =>
    match splitLine (b :: bs) with
    | some (found, _) =>
      .ok (got + found.length) ⟨p.line ++ found, host.consume found.length t⟩
    | none =>
      host.seekLine (got + (b :: bs).length)
        ⟨p.line ++ b :: bs, host.consume (b :: bs).length t⟩
termination_by host.budget p.world
decreasing_by
  · exact host.fill_spends _hr
  · exact host.consume_spends _hr (Nat.succ_pos _) (Nat.le_refl _)

/-- A search spends some of the budget if it adds bytes or fails. -/
theorem seekLine_spends (host : LineHost σ) (got : Nat) (p : Gathering σ) :
    host.budget (endState (host.seekLine got p)).world ≤ host.budget p.world ∧
      (∀ n q, host.seekLine got p = .ok n q → got < n →
        host.budget q.world < host.budget p.world) ∧
      ∀ f q, host.seekLine got p = .error f q → host.budget q.world < host.budget p.world := by
  fun_induction seekLine host got p with
  | case1 got p f t hr hf ih =>
    have hLess : host.budget t < host.budget p.world := host.fill_spends hr
    refine ⟨Nat.le_trans ih.1 (Nat.le_of_lt hLess), fun n q h hn => ?_, fun g q h => ?_⟩
    · exact Nat.lt_trans (ih.2.1 n q h hn) hLess
    · exact Nat.lt_trans (ih.2.2 g q h) hLess
  | case2 got p f t hr hf =>
    have hLess : host.budget t < host.budget p.world := host.fill_spends hr
    refine ⟨Nat.le_of_lt hLess, fun n q h => ?_, fun g q h => ?_⟩
    · cases h
    · cases h
      exact hLess
  | case3 got p t hr =>
    have hFill := (host.fill_later p.world).2
    rw [hr] at hFill
    refine ⟨Nat.le_trans (host.consume_later 0 t).2 hFill, fun n q h hn => ?_, fun g q h => ?_⟩
    · cases h
      exact absurd hn (Nat.lt_irrefl _)
    · cases h
  | case4 got p b bs t hr found rest hs =>
    have hSome : 0 < found.length := List.length_pos_iff.mpr (splitLine_ne_nil hs)
    have hShown : found.length ≤ (b :: bs).length := by
      rw [← splitLine_append hs, List.length_append]
      exact Nat.le_add_right _ _
    have hLess := host.consume_spends hr hSome hShown
    refine ⟨Nat.le_of_lt hLess, fun n q h _ => ?_, fun g q h => ?_⟩
    · cases h
      exact hLess
    · cases h
  | case5 got p b bs t hr hs ih =>
    have hLess := host.consume_spends hr (Nat.succ_pos bs.length) (Nat.le_refl _)
    refine ⟨Nat.le_trans ih.1 (Nat.le_of_lt hLess), fun n q h _ => ?_, fun g q h => ?_⟩
    · have hEnd := ih.1
      rw [h] at hEnd
      exact Nat.lt_of_le_of_lt hEnd hLess
    · exact Nat.lt_trans (ih.2.2 g q h) hLess

/-- Sends what is left of a line. Answers how many chunks have been sent, with the `sent`
chunks from before. -/
def finish (host : LineHost σ) (sent : Nat) (p : Gathering σ) : EStateM.Result Fault σ Nat :=
  if p.line.isEmpty then .ok sent p.world
  else
    match host.send p.line p.world with
    | (true, t) => .ok (sent + 1) t
    | (false, t) => .ok sent t

/-- A fault that forwarding survives. -/
def survives (f : Fault) : Bool :=
  f.kind = .timedOut || f.kind = .interrupted

/-- Sends line after line until the stream ends, the world is stopped or the receiver is gone.
Answers how many chunks have been sent, with the `sent` chunks from before. A fault other than a
timeout or an interruption loses the line in progress and ends the forwarding. -/
def forwardFrom (host : LineHost σ) (sent : Nat) (p : Gathering σ) :
    EStateM.Result Fault σ Nat :=
  if host.stopped p.world then host.finish sent p
  else
    match _hs : host.seekLine 0 p with
    | .ok 0 q => host.finish sent q
    | .ok (_ + 1) q =>
      match _ht : host.send q.line q.world with
      | (true, t) => host.forwardFrom (sent + 1) ⟨[], t⟩
      | (false, t) => .ok sent t
    | .error f q => if survives f then host.forwardFrom sent q else .error f q.world
termination_by host.budget p.world
decreasing_by
  · have hLess := (host.seekLine_spends 0 p).2.1 _ _ _hs (Nat.succ_pos _)
    have hSend := (host.send_later q.line q.world).2
    rw [_ht] at hSend
    exact Nat.lt_of_le_of_lt hSend hLess
  · exact (host.seekLine_spends 0 p).2.2 _ _ _hs

/-- Forwards what the reader has. -/
def forward (host : LineHost σ) (s : σ) : EStateM.Result Fault σ Nat :=
  host.forwardFrom 0 ⟨[], s⟩

end LineHost

/-! ## A reader in rehearsal -/

/-- What happens while a chunk is on its way to the receiver. -/
structure Interlude where
  /-- The receiver goes away before the chunk is there. -/
  hangUp : Bool := false
  stop : Bool := false
  deriving DecidableEq, Repr

/-- A scripted reader with what it has read ahead, and a channel that keeps what it accepts. -/
structure LineReader where
  reader : ScriptedReader := {}
  buffer : Bytes := []
  /-- What happens during each sending in turn. -/
  interludes : List Interlude := []
  received : Record Bytes := {}
  deriving Repr

/-- What has happened to the world and to the receiver is not undone. -/
theorem ScriptedReader.read_onward (n : Nat) (r : ScriptedReader) :
    (r.stopped = true → (endState (ScriptedReader.read n r)).stopped = true) ∧
      (r.hungUp = true → (endState (ScriptedReader.read n r)).hungUp = true) := by
  unfold read next
  split <;> rename_i hNext <;> obtain ⟨-, rfl⟩ := Prod.mk.inj hNext <;> simp +contextual

namespace LineReader

/-- Everything up to the end of a stream, or up to a fault that is no interruption. What the script
does besides happens on the way. -/
def readWhole (arrivals : List Arrival) (r : LineReader) : LineReader :=
  match arrivals with
  | [] => r
  | .data bs :: rest => readWhole rest { r with buffer := r.buffer ++ bs }
  | .fault kind :: rest => if kind = .interrupted then readWhole rest r else r
  | .ended :: _ => r
  | .stop :: rest => readWhole rest { r with reader := { r.reader with stopped := true } }
  | .hangUp :: rest => readWhole rest { r with reader := { r.reader with hungUp := true } }

/-- A reader that has read the whole stream ahead. -/
def ofWhole (r : ScriptedReader) : LineReader :=
  readWhole r.arrivals { reader := { r with arrivals := [] } }

/-- Most bytes that are read ahead at once. -/
def bufferSize : Nat := 8192

/-- Reads ahead if nothing has been read ahead. -/
def fill : EStateM Fault LineReader Bytes := fun r =>
  match r.buffer with
  | b :: bs => .ok (b :: bs) r
  | [] =>
    match ScriptedReader.read bufferSize r.reader with
    | .ok bs t => .ok bs { r with reader := t, buffer := bs }
    | .error f t => .error f { r with reader := t }

def consume (n : Nat) (r : LineReader) : LineReader :=
  { r with buffer := r.buffer.drop n }

/-- The next interlude happens. -/
def playInterlude (r : LineReader) : LineReader :=
  match r.interludes with
  | [] => r
  | i :: rest =>
    { r with
      interludes := rest
      reader.stopped := r.reader.stopped || i.stop
      reader.hungUp := r.reader.hungUp || i.hangUp }

/-- A chunk reaches the end of the channel. -/
def accept (chunk : Bytes) (r : LineReader) : Bool × LineReader :=
  if r.reader.hungUp then (false, r) else (true, { r with received := r.received.add chunk })

def send (chunk : Bytes) (r : LineReader) : Bool × LineReader :=
  accept chunk r.playInterlude

/-- Bounds what reading lines can still use up. -/
def weight (r : LineReader) : Nat := r.reader.weight + r.buffer.length

theorem read_ok_weight {n : Nat} {r t : ScriptedReader} {bs : Bytes}
    (h : ScriptedReader.read n r = .ok bs t) : t.weight + bs.length ≤ r.weight := by
  have hw := r.next_weight
  unfold ScriptedReader.read at h
  split at h <;> rename_i hn <;> rw [hn] at hw <;>
    simp only [EStateM.Result.ok.injEq, reduceCtorEq] at h
  · rename_i cs q
    simp only [Script.Due.weight, ScriptedReader.weight] at hw
    have hSplit : cs.length = (cs.take n).length + (cs.drop n).length := by
      rw [← List.length_append, List.take_append_drop]
    rw [← h.1, ← h.2]
    simp only [ScriptedReader.weight, Script.arrivalWeight, Arrival.weight] at hw ⊢
    omega
  · rw [← h.1, ← h.2]
    simp only [Script.Due.weight] at hw
    simp only [List.length_nil]
    omega
  · rw [← h.1, ← h.2]
    simp only [Script.Due.weight] at hw
    simp only [List.length_nil]
    omega

theorem fill_ok {r t : LineReader} {bs : Bytes} (h : fill r = .ok bs t) :
    t.buffer = bs ∧ t.weight ≤ r.weight := by
  unfold fill at h
  split at h
  · rename_i b cs hb
    cases h
    exact ⟨hb, Nat.le_refl _⟩
  · split at h <;> cases h
    rename_i hRead
    have hWeight := read_ok_weight hRead
    refine ⟨rfl, ?_⟩
    simp only [weight]
    omega

theorem fill_error {r t : LineReader} {f : Fault} (h : fill r = .error f t) :
    t.weight < r.weight := by
  unfold fill at h
  split at h
  · cases h
  · split at h <;> cases h
    rename_i hRead
    have hWeight := ScriptedReader.read_error_weight hRead
    simp only [weight]
    omega

theorem consume_weight (n : Nat) (r : LineReader) : (consume n r).weight ≤ r.weight := by
  simp only [weight, consume, List.length_drop]
  omega

/-- What has happened to the world and to the receiver is not undone. -/
def Onward (r t : LineReader) : Prop :=
  (r.reader.stopped = true → t.reader.stopped = true) ∧
    (r.reader.hungUp = true → t.reader.hungUp = true)

theorem fill_onward (r : LineReader) : Onward r (endState (fill r)) := by
  have hRead := ScriptedReader.read_onward bufferSize r.reader
  unfold fill
  split
  · exact ⟨id, id⟩
  · split <;> rename_i hEnd <;> rw [hEnd] at hRead <;> exact hRead

theorem playInterlude_onward (r : LineReader) : Onward r r.playInterlude := by
  unfold playInterlude
  split
  · exact ⟨id, id⟩
  · exact ⟨fun h => by simp [h], fun h => by simp [h]⟩

theorem playInterlude_weight (r : LineReader) : r.playInterlude.weight = r.weight := by
  unfold playInterlude
  split <;> rfl

theorem send_onward (chunk : Bytes) (r : LineReader) : Onward r (send chunk r).2 := by
  have hPlay := r.playInterlude_onward
  unfold send accept
  split <;> exact hPlay

theorem send_weight (chunk : Bytes) (r : LineReader) : (send chunk r).2.weight = r.weight := by
  have hPlay := r.playInterlude_weight
  unfold send accept
  split <;> exact hPlay

/-- A reader in rehearsal as a world of forwarding. -/
def host : LineHost LineReader where
  fill := fill
  consume := consume
  stopped := fun r => r.reader.stopped
  send := send
  budget := weight
  fill_later := fun r => by
    refine ⟨r.fill_onward.1, ?_⟩
    cases hFill : fill r with
    | ok bs t => exact (fill_ok hFill).2
    | error f t => exact Nat.le_of_lt (fill_error hFill)
  consume_later := fun n r => ⟨id, consume_weight n r⟩
  send_later := fun chunk r => ⟨(send_onward chunk r).1, Nat.le_of_eq (send_weight chunk r)⟩
  fill_spends := fill_error
  consume_spends := fun {r bs t n} h hSome hShown => by
    obtain ⟨hBuffer, hWeight⟩ := fill_ok h
    simp only [weight, consume, hBuffer, List.length_drop] at hWeight ⊢
    omega

end LineReader

/-- What a forwarding in rehearsal came to. -/
structure Forwarded where
  /-- The chunks that were accepted. -/
  chunks : List Bytes
  /-- How many it answers that these were, if it does not answer with a fault. -/
  sent : Option Nat
  fault : Option Fault
  reader : LineReader
  deriving Repr

/-- Forwards what the reader has, with `line` in progress. -/
def LineReader.forward (r : LineReader) (line : Bytes) : Forwarded :=
  match host.forwardFrom 0 ⟨line, r⟩ with
  | .ok n t => { chunks := t.received.toList, sent := some n, fault := none, reader := t }
  | .error f t => { chunks := t.received.toList, sent := none, fault := some f, reader := t }

end MemoryBridge
