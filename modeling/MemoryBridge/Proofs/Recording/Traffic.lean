import MemoryBridge.Proofs.Recording
import MemoryBridge.Session.Motion

/-!
# Traffic on a recorded link

What a record tells of the bytes that were fetched from a link for a command, and of the pieces in
which it took what was written. A full write that succeeds is taken whole; after one that fails, the
last piece is empty and something is left (`writeAll_cases`). A full read that fails has fetched too
little (`readInt_cases`).

Polled bytes are not traffic of a command, and the mode of a link is not traffic at all.
-/

namespace MemoryBridge

/-! ## Pieces -/

/-- The pieces that a link took are all of `due`, and the last write took something. -/
def Whole (due : Bytes) (pieces : List Bytes) : Prop :=
  pieces.flatten = due ∧ pieces.getLast? ≠ some []

/-- The pieces that a link took are not all of `due`, and the last write took nothing. -/
def Refused (due : Bytes) (pieces : List Bytes) : Prop :=
  (∃ left, left ≠ [] ∧ due = pieces.flatten ++ left) ∧ pieces.getLast? = some []

section

variable {due due' : Bytes} {pieces pieces' : List Bytes}

theorem whole_nil : Whole [] [] :=
  ⟨rfl, by simp⟩

theorem Whole.isPrefix (h : Whole due pieces) : pieces.flatten <+: due :=
  h.1 ▸ List.prefix_refl _

theorem Whole.eq_nil (h : Whole [] pieces) : pieces = [] := by
  obtain ⟨hFlatten, hLast⟩ := h
  rcases List.eq_nil_or_concat pieces with hNil | ⟨front, last, rfl⟩
  · exact hNil
  · have hEmpty : last = [] := by
      rw [List.flatten_eq_nil_iff] at hFlatten
      exact hFlatten last (by simp)
    rw [hEmpty] at hLast
    simp at hLast

theorem Whole.append (h : Whole due pieces) (h' : Whole due' pieces') :
    Whole (due ++ due') (pieces ++ pieces') := by
  refine ⟨by rw [List.flatten_append, h.1, h'.1], ?_⟩
  rw [List.getLast?_append]
  cases hLast : pieces'.getLast? with
  | none => simpa using h.2
  | some last =>
    have hNot := h'.2
    rw [hLast] at hNot
    simpa using hNot

theorem whole_flatMap {α : Type} {xs : List α} {f : α → Bytes} {g : α → List Bytes}
    (h : ∀ x ∈ xs, Whole (f x) (g x)) : Whole (xs.flatMap f) (xs.flatMap g) := by
  induction xs with
  | nil => exact whole_nil
  | cons x xs ih => exact (h x (by simp)).append (ih fun y hy => h y (List.mem_cons_of_mem x hy))

theorem Whole.append_refused (h : Whole due pieces) (h' : Refused due' pieces') :
    Refused (due ++ due') (pieces ++ pieces') := by
  obtain ⟨⟨left, hLeft, rfl⟩, hLast⟩ := h'
  refine ⟨⟨left, hLeft, ?_⟩, ?_⟩
  · rw [List.flatten_append, h.1, List.append_assoc]
  · rw [List.getLast?_append, hLast]
    rfl

theorem Refused.append (h : Refused due pieces) (more : Bytes) : Refused (due ++ more) pieces := by
  obtain ⟨⟨left, hLeft, rfl⟩, hLast⟩ := h
  exact ⟨⟨left ++ more, by simp [hLeft], by rw [List.append_assoc]⟩, hLast⟩

theorem Refused.isPrefix (h : Refused due pieces) : pieces.flatten <+: due := by
  obtain ⟨⟨left, -, rfl⟩, -⟩ := h
  exact List.prefix_append _ _

theorem Refused.flatten_ne (h : Refused due pieces) : pieces.flatten ≠ due := by
  obtain ⟨⟨left, hLeft, rfl⟩, -⟩ := h
  simpa using hLeft

/-- A write that took nothing does not matter if it is made again. -/
theorem Whole.retry (hDue : due ≠ []) (h : Whole due pieces) : Whole due ([] :: pieces) := by
  obtain ⟨rfl, hLast⟩ := h
  cases pieces with
  | nil => simp at hDue
  | cons piece pieces => exact ⟨rfl, by rwa [List.getLast?_cons_cons]⟩

theorem Refused.retry (h : Refused due pieces) : Refused due ([] :: pieces) := by
  obtain ⟨hLeft, hLast⟩ := h
  refine ⟨hLeft, ?_⟩
  cases pieces with
  | nil => simp at hLast
  | cons piece pieces => rwa [List.getLast?_cons_cons]

end

namespace Entry

/-- The piece that the link `k` took. -/
def written (k : LinkId) : Entry → List Bytes
  | .wrote j bs => if j = k then [bs] else []
  | _ => []

/-- The bytes that were read from the link `k` in blocking mode. -/
def fetched (k : LinkId) : Entry → Bytes
  | .read j .blocking bs => if j = k then bs else []
  | _ => []

end Entry

namespace Recorded

open Serve

variable {σ α : Type}

/-- The pieces that the link `k` took, one for each write. -/
def writes (s : Recorded σ) (k : LinkId) : List Bytes :=
  s.log.flatMap (Entry.written k)

/-- All bytes that commands have read from the link `k`. -/
def fetched (s : Recorded σ) (k : LinkId) : Bytes :=
  s.log.flatMap (Entry.fetched k)

/-- From `s` to `t` the link `k` took `pieces`, and other links took nothing. -/
def Wrote (k : LinkId) (pieces : List Bytes) (s t : Recorded σ) : Prop :=
  ∀ j, t.writes j = s.writes j ++ if j = k then pieces else []

theorem Wrote.refl (k : LinkId) (s : Recorded σ) : Wrote k [] s s :=
  fun j => by simp

theorem Wrote.trans {k : LinkId} {pieces pieces' : List Bytes} {s t u : Recorded σ}
    (h : Wrote k pieces s t) (h' : Wrote k pieces' t u) : Wrote k (pieces ++ pieces') s u := by
  intro j
  rw [h' j, h j]
  split <;> simp

theorem wrote_durable (k : LinkId) : Durable (@Wrote σ k []) :=
  ⟨Wrote.refl k, Wrote.trans⟩

/-- From `s` to `t` the link `k` was written and flushed, and nothing else was done. -/
def Speaks (k : LinkId) (s t : Recorded σ) : Prop :=
  ∃ new, t.log = s.log ++ new ∧ ∀ e ∈ new, (∃ bs, e = .wrote k bs) ∨ e = .flushed k

theorem speaks_durable (k : LinkId) : Durable (@Speaks σ k) where
  refl s := ⟨[], by simp, by simp⟩
  trans := by
    rintro s t u ⟨new, hLog, hNew⟩ ⟨new', hLog', hNew'⟩
    refine ⟨new ++ new', by rw [hLog', hLog, List.append_assoc], ?_⟩
    intro e he
    rcases List.mem_append.mp he with he | he
    · exact hNew e he
    · exact hNew' e he

/-- From `s` to `t` the record tells that `payload` was fetched from the link `k` and that it took
`pieces`. -/
structure Carries (k : LinkId) (payload : Bytes) (pieces : List Bytes)
    (s t : Recorded σ) : Prop where
  fetched : t.fetched k = s.fetched k ++ payload
  wrote : Wrote k pieces s t

theorem Carries.refl (k : LinkId) (s : Recorded σ) : Carries k [] [] s s :=
  ⟨by simp, Wrote.refl k s⟩

theorem Carries.trans {k : LinkId} {payload payload' : Bytes} {pieces pieces' : List Bytes}
    {s t u : Recorded σ} (h : Carries k payload pieces s t) (h' : Carries k payload' pieces' t u) :
    Carries k (payload ++ payload') (pieces ++ pieces') s u :=
  ⟨by rw [h'.fetched, h.fetched, List.append_assoc], h.wrote.trans h'.wrote⟩

theorem carries_entry {k : LinkId} {e : Entry} (he : ∀ j, e.link? = some j → j = k)
    {s t : Recorded σ} (hLog : t.log = s.log ++ [e]) :
    Carries k (e.fetched k) (e.written k) s t where
  fetched := by
    unfold Recorded.fetched
    rw [hLog, List.flatMap_append, List.flatMap_singleton]
  wrote := by
    intro j
    unfold Recorded.writes
    rw [hLog, List.flatMap_append, List.flatMap_singleton]
    split
    · subst j
      rfl
    · rename_i hj
      cases e with
      | wrote i bs =>
        have hi : i = k := he i rfl
        simp [Entry.written, hi, Ne.symm hj]
      | _ => rfl

theorem written_of_log {k : LinkId} {s t : Recorded σ} {new : List Entry} {pieces : List Bytes}
    (hLog : t.log = s.log ++ new) (hWrites : t.writes k = s.writes k ++ pieces) :
    new.flatMap (Entry.written k) = pieces := by
  have hAll : t.writes k = s.writes k ++ new.flatMap (Entry.written k) := by
    unfold writes
    rw [hLog, List.flatMap_append]
  exact List.append_cancel_left (hAll.symm.trans hWrites)

theorem Opens.writes {s t : Recorded σ} (h : Opens s t) (k : LinkId) : t.writes k = s.writes k := by
  unfold Recorded.writes
  rw [h.2, List.flatMap_append, List.flatMap_map]
  simp [Entry.written]

/-! ## Single operations -/

section

variable (host : Host σ) (k : LinkId)

theorem link_write_ok {s t : Recorded σ} {bs : Bytes} {n : Nat}
    (h : (link host k).write bs s = .ok n t) :
    Carries k [] [bs.take n] s t ∧ t.asked = s.asked := by
  rw [link_write] at h
  obtain ⟨w, -, rfl⟩ := note_ok h
  have hCarries := carries_entry (k := k) (e := .wrote k (bs.take n)) (by simp [Entry.link?])
    (s := s) (t := { s with world := w, log := s.log ++ [.wrote k (bs.take n)] }) rfl
  simp only [Entry.fetched, Entry.written, if_true] at hCarries
  exact ⟨hCarries, rfl⟩

theorem link_write_error {s t : Recorded σ} {bs : Bytes} {f : Fault}
    (h : (link host k).write bs s = .error f t) : Carries k [] [[]] s t ∧ t.asked = s.asked := by
  rw [link_write] at h
  obtain ⟨w, -, rfl⟩ := note_error h
  have hCarries := carries_entry (k := k) (e := .wrote k []) (by simp [Entry.link?])
    (s := s) (t := { s with world := w, log := s.log ++ [.wrote k []] }) rfl
  simp only [Entry.fetched, Entry.written, if_true] at hCarries
  exact ⟨hCarries, rfl⟩

/-- Whatever else is done to a link carries nothing. -/
theorem note_carries {events : Option α → List Entry}
    (hEvents : ∀ r, ∃ e, events r = [e] ∧ (∀ j, e.link? = some j → j = k) ∧ e.fetched k = [] ∧
      e.written k = [])
    (act : EStateM Fault σ α) (s : Recorded σ) :
    Carries k [] [] s (endState (note events act s)) ∧
      (endState (note events act s)).asked = s.asked := by
  have key : ∀ r w, Carries k [] [] s { s with world := w, log := s.log ++ events r } := by
    intro r w
    obtain ⟨e, hEntry, hLink, hFetched, hWritten⟩ := hEvents r
    have hCarries := carries_entry hLink (s := s)
      (t := { s with world := w, log := s.log ++ events r }) (by rw [hEntry])
    rwa [hFetched, hWritten] at hCarries
  unfold note
  cases act s.world with
  | ok a w => exact ⟨key _ w, rfl⟩
  | error f w => exact ⟨key _ w, rfl⟩

theorem link_flush_carries (s : Recorded σ) :
    Carries k [] [] s (endState ((link host k).flush s)) ∧
      (endState ((link host k).flush s)).asked = s.asked := by
  rw [link_flush]
  exact note_carries k (fun r => ⟨_, rfl, by simp [Entry.link?], rfl, rfl⟩) _ s

theorem link_setMode_carries (mode : ReadMode) (s : Recorded σ) :
    Carries k [] [] s (endState ((link host k).setMode mode s)) := by
  have hAsk : Carries k [] [] s (s.ask k mode) := ⟨(Carries.refl k s).fetched, Wrote.refl k s⟩
  rw [link_setMode]
  exact hAsk.trans
    (note_carries k (fun r => ⟨_, rfl, by simp [Entry.link?], rfl, rfl⟩) _ (s.ask k mode)).1

theorem link_write_speaks (bs : Bytes) : Moves (Speaks k) ((link host k).write bs) := by
  intro s
  rw [link_write]
  unfold note
  cases (host.link (s.target k)).write bs s.world with
  | ok n w => exact ⟨_, rfl, by simp⟩
  | error f w => exact ⟨_, rfl, by simp⟩

theorem link_flush_speaks : Moves (Speaks k) (link host k).flush := by
  intro s
  rw [link_flush]
  unfold note
  cases (host.link (s.target k)).flush s.world with
  | ok u w => exact ⟨_, rfl, by simp⟩
  | error f w => exact ⟨_, rfl, by simp⟩

theorem link_read_wrote (n : Nat) : Moves (Wrote k []) ((link host k).read n) := by
  have hEntry : ∀ mode bs w (s : Recorded σ),
      Wrote k [] s { s with world := w, log := s.log ++ [.read k mode bs] } :=
    fun mode bs w s => (carries_entry (e := .read k mode bs) (by simp [Entry.link?]) rfl).wrote
  intro s
  rw [link_read]
  unfold note
  cases (host.link (s.target k)).read n s.world with
  | ok bs w => exact hEntry _ _ w s
  | error f w => exact hEntry _ _ w s

theorem sink_write_wrote (bs : Bytes) : Moves (Wrote k []) ((sink host).write bs) := by
  have hEntry : ∀ shown w (s : Recorded σ),
      Wrote k [] s { s with world := w, log := s.log ++ [.shown shown] } :=
    fun shown w s => (carries_entry (e := .shown shown) (by simp [Entry.link?]) rfl).wrote
  intro s
  rw [sink_write]
  unfold note
  cases host.sink.write bs s.world with
  | ok n w => exact hEntry _ w s
  | error f w => exact hEntry _ w s

theorem sink_flush_wrote : Moves (Wrote k []) (sink host).flush := by
  have hNone : ∀ w (s : Recorded σ), Wrote k [] s { s with world := w, log := s.log ++ [] } := by
    intro w s j
    simp [writes]
  intro s
  rw [sink_flush]
  unfold note
  cases host.sink.flush s.world with
  | ok u w => exact hNone w s
  | error f w => exact hNone w s

theorem link_read_ok {s t : Recorded σ} {n : Nat} {bs : Bytes} (hMode : s.asked k = .blocking)
    (h : (link host k).read n s = .ok bs t) : Carries k bs [] s t ∧ t.asked = s.asked := by
  rw [link_read, hMode] at h
  obtain ⟨w, -, rfl⟩ := note_ok h
  have hCarries := carries_entry (k := k) (e := .read k .blocking bs) (by simp [Entry.link?])
    (s := s) (t := { s with world := w, log := s.log ++ [.read k .blocking bs] }) rfl
  simp only [Entry.fetched, Entry.written, if_true] at hCarries
  exact ⟨hCarries, rfl⟩

theorem link_read_error {s t : Recorded σ} {n : Nat} {f : Fault} (hMode : s.asked k = .blocking)
    (h : (link host k).read n s = .error f t) : Carries k [] [] s t ∧ t.asked = s.asked := by
  rw [link_read, hMode] at h
  obtain ⟨w, -, rfl⟩ := note_error h
  have hCarries := carries_entry (k := k) (e := .read k .blocking []) (by simp [Entry.link?])
    (s := s) (t := { s with world := w, log := s.log ++ [.read k .blocking []] }) rfl
  simp only [Entry.fetched, Entry.written, if_true] at hCarries
  exact ⟨hCarries, rfl⟩

end

/-! ## Full writes and reads -/

section

variable (host : Host σ) (k : LinkId)

theorem writeAll_pieces (bs : Bytes) (s : Recorded σ) :
    ∃ pieces, Carries k [] pieces s (endState ((link host k).writeAll bs s)) ∧
      (endState ((link host k).writeAll bs s)).asked = s.asked ∧
      match (link host k).writeAll bs s with
      | .ok _ _ => Whole bs pieces
      | .error _ _ => Refused bs pieces := by
  -- Nothing is left; a write takes nothing, or some; it is interrupted and made again, or it fails.
  fun_induction Sink.writeAll (link host k).toSink bs s with
  | case1 s => exact ⟨[], Carries.refl k s, rfl, whole_nil⟩
  | case2 s b rest t hw =>
    obtain ⟨hCarries, hAsked⟩ := link_write_ok host k hw
    exact ⟨[[]], hCarries, hAsked, ⟨b :: rest, by simp, rfl⟩, rfl⟩
  | case3 s b rest n t hw ih =>
    obtain ⟨hCarries, hAsked⟩ := link_write_ok host k hw
    obtain ⟨pieces, hLater, hAsked', hTaken⟩ := ih
    have hPiece : Whole (b :: rest.take n) [b :: rest.take n] := ⟨by simp, by simp⟩
    have hSplit : b :: rest = b :: rest.take n ++ rest.drop n := by simp
    have hAll : Carries k [] ([b :: rest.take n] ++ pieces) s _ := hCarries.trans hLater
    refine ⟨_, hAll, hAsked'.trans hAsked, ?_⟩
    split
    · rename_i hRun
      rw [hRun] at hTaken
      rw [hSplit]
      exact hPiece.append hTaken
    · rename_i hRun
      rw [hRun] at hTaken
      rw [hSplit]
      exact hPiece.append_refused hTaken
  | case4 s b rest f t hw hf ih =>
    obtain ⟨hCarries, hAsked⟩ := link_write_error host k hw
    obtain ⟨pieces, hLater, hAsked', hTaken⟩ := ih
    refine ⟨_, hCarries.trans hLater, hAsked'.trans hAsked, ?_⟩
    split
    · rename_i hRun
      rw [hRun] at hTaken
      exact hTaken.retry (by simp)
    · rename_i hRun
      rw [hRun] at hTaken
      exact hTaken.retry
  | case5 s b rest f t hw hf =>
    obtain ⟨hCarries, hAsked⟩ := link_write_error host k hw
    exact ⟨[[]], hCarries, hAsked, ⟨b :: rest, by simp, rfl⟩, rfl⟩

theorem readExact_fetches (n : Nat) {s : Recorded σ} (hMode : s.asked k = .blocking) :
    ∃ payload, Carries k payload [] s (endState ((link host k).readExact n s)) ∧
      (endState ((link host k).readExact n s)).asked = s.asked ∧
      match (link host k).readExact n s with
      | .ok bs _ => bs = payload ∧ payload.length = n
      | .error _ _ => payload.length < n := by
  -- A read leaves the mode alone, so the reads after it are in blocking mode too.
  fun_induction Source.readExact (link host k).toSource n s with
  | case1 s => exact ⟨[], Carries.refl k s, rfl, rfl, rfl⟩
  | case2 n s hn t hr =>
    obtain ⟨hCarries, hAsked⟩ := link_read_ok host k hMode hr
    exact ⟨[], hCarries, hAsked, Nat.pos_of_ne_zero hn⟩
  | case3 n s hn b bs t hr rest u hu ih =>
    have hLength := (link host k).read_length_le hr
    obtain ⟨hCarries, hAsked⟩ := link_read_ok host k hMode hr
    obtain ⟨payload, hLater, hAsked', hTaken⟩ := ih (by rw [hAsked, hMode])
    rw [hu] at hLater hAsked' hTaken
    obtain ⟨rfl, hRest⟩ := hTaken
    refine ⟨_, hCarries.trans hLater, hAsked'.trans hAsked, rfl, ?_⟩
    rw [List.length_append]
    omega
  | case4 n s hn b bs t hr f u hu ih =>
    have hLength := (link host k).read_length_le hr
    obtain ⟨hCarries, hAsked⟩ := link_read_ok host k hMode hr
    obtain ⟨payload, hLater, hAsked', hTaken⟩ := ih (by rw [hAsked, hMode])
    rw [hu] at hLater hAsked' hTaken
    refine ⟨_, hCarries.trans hLater, hAsked'.trans hAsked, ?_⟩
    simp only [List.length_append]
    omega
  | case5 n s hn f t hr hf ih =>
    obtain ⟨hCarries, hAsked⟩ := link_read_error host k hMode hr
    obtain ⟨payload, hLater, hAsked', hTaken⟩ := ih (by rw [hAsked, hMode])
    exact ⟨payload, hCarries.trans hLater, hAsked'.trans hAsked, hTaken⟩
  | case6 n s hn f t hr hf =>
    obtain ⟨hCarries, hAsked⟩ := link_read_error host k hMode hr
    exact ⟨[], hCarries, hAsked, Nat.pos_of_ne_zero hn⟩

/-- From `s` to `t` the link `k` took nothing, and modes stayed as they were. In blocking mode it
may have been read. -/
def Listens (k : LinkId) (s t : Recorded σ) : Prop :=
  s.asked k = .blocking → (∃ payload, Carries k payload [] s t) ∧ t.asked = s.asked

theorem listens_durable : Durable (@Listens σ k) where
  refl s _ := ⟨⟨[], Carries.refl k s⟩, rfl⟩
  trans := by
    intro s t u h h' hMode
    obtain ⟨⟨payload, hCarries⟩, hAsked⟩ := h hMode
    obtain ⟨⟨payload', hCarries'⟩, hAsked'⟩ := h' (by rw [hAsked, hMode])
    exact ⟨⟨_, hCarries.trans hCarries'⟩, hAsked'.trans hAsked⟩

theorem link_read_listens (n : Nat) : Moves (Listens k) ((link host k).read n) := by
  intro s hMode
  cases hRead : (link host k).read n s with
  | ok bs t =>
    obtain ⟨hCarries, hAsked⟩ := link_read_ok host k hMode hRead
    exact ⟨⟨bs, hCarries⟩, hAsked⟩
  | error f t =>
    obtain ⟨hCarries, hAsked⟩ := link_read_error host k hMode hRead
    exact ⟨⟨[], hCarries⟩, hAsked⟩

/-! ## Steps of serving -/

/-- From `w` to the end of `r` the link `k` took what was due; or it refused some of that, and
then `r` is a failure. -/
def Takes (k : LinkId) (due : Bytes) (w : Recorded σ)
    (r : EStateM.Result ServeError (Serving (Recorded σ)) α) : Prop :=
  ∃ pieces, Carries k [] pieces w (endState r).world ∧ (endState r).world.asked = w.asked ∧
    (Whole due pieces ∨ Refused due pieces ∧ ∃ e st, r = .error e st)

variable {k} {w : Recorded σ}

theorem takes_nothing {r : EStateM.Result ServeError (Serving (Recorded σ)) α}
    (h : (endState r).world = w) : Takes k [] w r := by
  rw [← h]
  exact ⟨[], Carries.refl k _, rfl, Or.inl whole_nil⟩

variable (k) (s : Session)

/-- A full write is taken whole, or it fails and is not. -/
theorem writeAll_cases (bs : Bytes) (w : Recorded σ) :
    ∃ pieces t, Carries k [] pieces w t ∧ t.asked = w.asked ∧
      (onLink ((link host k).writeAll bs) ⟨s, w⟩ = .ok () ⟨s, t⟩ ∧ Whole bs pieces ∨
        ∃ f, onLink ((link host k).writeAll bs) ⟨s, w⟩ = .error (.transport f) ⟨s, t⟩ ∧
          Refused bs pieces) := by
  obtain ⟨pieces, hCarries, hAsked, hTaken⟩ := writeAll_pieces host k bs w
  refine ⟨pieces, _, hCarries, hAsked, ?_⟩
  unfold onLink onWorld
  cases hRun : (link host k).writeAll bs w with
  | ok u t =>
    rw [hRun] at hTaken
    exact Or.inl ⟨rfl, hTaken⟩
  | error f t =>
    rw [hRun] at hTaken
    exact Or.inr ⟨f, rfl, hTaken⟩

theorem writeAll_takes (bs : Bytes) (w : Recorded σ) :
    Takes k bs w (onLink ((link host k).writeAll bs) ⟨s, w⟩) := by
  obtain ⟨pieces, t, hCarries, hAsked, ⟨hRun, hWhole⟩ | ⟨f, hRun, hRefused⟩⟩ :=
    writeAll_cases host k s bs w
  · rw [hRun]
    exact ⟨pieces, hCarries, hAsked, Or.inl hWhole⟩
  · rw [hRun]
    exact ⟨pieces, hCarries, hAsked, Or.inr ⟨hRefused, _, _, rfl⟩⟩

/-- Of two full writes the second is made if the first was taken. -/
theorem writeAll_writeAll_takes (bs more : Bytes) (w : Recorded σ) :
    Takes k (bs ++ more) w
      ((do onLink ((link host k).writeAll bs)
           onLink ((link host k).writeAll more) : Serve (Recorded σ) Unit) ⟨s, w⟩) := by
  obtain ⟨pieces, t, hCarries, hAsked, ⟨hRun, hWhole⟩ | ⟨f, hRun, hRefused⟩⟩ :=
    writeAll_cases host k s bs w
  · obtain ⟨pieces', hCarries', hAsked', hTaken⟩ := writeAll_takes host k s more t
    rw [bind_ok hRun]
    refine ⟨_, hCarries.trans hCarries', hAsked'.trans hAsked, ?_⟩
    rcases hTaken with hWhole' | ⟨hRefused', hFails⟩
    · exact Or.inl (hWhole.append hWhole')
    · exact Or.inr ⟨hWhole.append_refused hRefused', hFails⟩
  · rw [bind_error hRun]
    exact ⟨pieces, hCarries, hAsked, Or.inr ⟨hRefused.append more, _, _, rfl⟩⟩

/-- An integer is fetched with all its bytes, or there are too few of them. -/
theorem readInt_cases {w : Recorded σ} (hMode : w.asked k = .blocking) :
    ∃ payload t, Carries k payload [] w t ∧ t.asked = w.asked ∧
      (onLink (Wire.readInt (link host k).toSource) ⟨s, w⟩ = .ok (Wire.decode payload) ⟨s, t⟩ ∧
        payload.length = 4 ∨
        ∃ f, onLink (Wire.readInt (link host k).toSource) ⟨s, w⟩ = .error (.transport f) ⟨s, t⟩ ∧
          payload.length < 4) := by
  obtain ⟨payload, hCarries, hAsked, hTaken⟩ := readExact_fetches host k Wire.intSize hMode
  refine ⟨payload, _, hCarries, hAsked, ?_⟩
  have hRead : Wire.readInt (link host k).toSource w =
      EStateM.map Wire.decode ((link host k).readExact Wire.intSize) w := rfl
  unfold onLink onWorld
  rw [hRead]
  unfold EStateM.map
  cases hRun : (link host k).readExact Wire.intSize w with
  | ok bs t =>
    rw [hRun] at hTaken
    obtain ⟨rfl, hLength⟩ := hTaken
    exact Or.inl ⟨rfl, hLength⟩
  | error f t =>
    rw [hRun] at hTaken
    exact Or.inr ⟨f, rfl, hTaken⟩

end

end Recorded

end MemoryBridge
