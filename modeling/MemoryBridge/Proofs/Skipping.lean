import Mathlib
import MemoryBridge.Proofs.Bracketing
import MemoryBridge.Rehearsal.World

/-!
# Skipped payloads

A payload that nobody wants is skipped: it is copied into nothing, through a limit, in pieces of a
fixed size (`Source.discard_eq_copyOut`). A payload that is wanted is read in one go. The two must
take the same bytes, or the device and its host lose step.

They do on every source that hands its bytes over by pieces, where a read of more finds what a read
of less has found and perhaps more of the same piece. On such a source a full read may begin with a
read of any smaller size (`Source.ByPieces.readExact_more`), so that the pieces of a skip do not
show. Scripted links are such sources, whatever their scripts are (`World.link_byPieces`).
-/

namespace MemoryBridge

variable {σ : Type}

/-! ## Copying up to a limit -/

/-- A world from whose source only so many bytes may still be read. -/
structure Limited (σ : Type) where
  world : σ
  left : Nat

namespace Source

/-- The source up to a limit. At the limit it is at its end and is not asked any more. -/
def limited (source : Source σ) : Source (Limited σ) where
  read := fun n s =>
    if s.left = 0 then .ok [] s
    else
      match source.read (min s.left n) s.world with
      | .ok bs w => .ok bs ⟨w, s.left - bs.length⟩
      | .error f w => .error f ⟨w, s.left⟩
  readPatience := fun s => source.readPatience s.world
  read_length_le := fun h => by
    split at h
    · cases h
      exact Nat.zero_le _
    · split at h <;> cases h
      exact Nat.le_trans (source.read_length_le (by assumption)) (Nat.min_le_right _ _)
  read_interrupted := fun h hf => by
    split at h
    · cases h
    · split at h <;> cases h
      exact source.read_interrupted (by assumption) hf

variable {source : Source σ}

/-- What is read through a limit is read from the source, and the limit comes nearer by it. -/
theorem limited_read_ok {n : Nat} {s t : Limited σ} {b : UInt8} {bs : Bytes}
    (h : source.limited.read n s = .ok (b :: bs) t) : t.left + (b :: bs).length = s.left := by
  simp only [limited] at h
  split at h
  · cases h
  · split at h <;> cases h
    rename_i hRead
    have hLength := Nat.le_trans (source.read_length_le hRead) (Nat.min_le_left _ _)
    exact Nat.sub_add_cancel hLength

theorem limited_read_error {n : Nat} {s t : Limited σ} {f : Fault}
    (h : source.limited.read n s = .error f t) : t.left = s.left := by
  simp only [limited] at h
  split at h
  · cases h
  · split at h <;> cases h
    rfl

/-- Copies the source up to its limit into nothing, in pieces, and counts the bytes. -/
def copyOut (source : Source σ) (s : Limited σ) : EStateM.Result Fault (Limited σ) Nat :=
  match _hr : source.limited.read skipPiece s with
  | .ok [] t => .ok 0 t
  | .ok (b :: bs) t =>
    match source.copyOut t with
    | .ok n u => .ok ((b :: bs).length + n) u
    | .error f u => .error f u
  | .error f t => if _hf : f.kind = .interrupted then source.copyOut t else .error f t
termination_by (s.left, source.readPatience s.world)
decreasing_by
  · have hLeft := limited_read_ok _hr
    exact Prod.Lex.left _ _ (by simp only [List.length_cons] at hLeft; omega)
  · rw [limited_read_error _hr]
    exact Prod.Lex.right _ (source.limited.read_interrupted _hr _hf)

/-- A copy that was to be `n` bytes long must not have come to its end early. -/
def checkCopied (n : Nat) : EStateM.Result Fault (Limited σ) Nat → EStateM.Result Fault σ Unit
  | .ok copied t => if copied < n then .error .payloadCutShort t.world else .ok () t.world
  | .error f t => .error f t.world

/-- A copy by what its first read does. -/
theorem copyOut_read (source : Source σ) (s : Limited σ) :
    source.copyOut s =
      match source.limited.read skipPiece s with
      | .ok [] t => .ok 0 t
      | .ok (b :: bs) t =>
        match source.copyOut t with
        | .ok n u => .ok ((b :: bs).length + n) u
        | .error f u => .error f u
      | .error f t => if f.kind = .interrupted then source.copyOut t else .error f t := by
  rw [copyOut]
  cases source.limited.read skipPiece s with
  | ok bs t => cases bs <;> rfl
  | error f t => rfl

theorem limited_read (source : Source σ) {left : Nat} (hLeft : left ≠ 0) (n : Nat) (s : σ) :
    source.limited.read n ⟨s, left⟩ =
      match source.read (min left n) s with
      | .ok bs t => .ok bs ⟨t, left - bs.length⟩
      | .error f t => .error f ⟨t, left⟩ :=
  if_neg hLeft

/-- A skip copies the payload into nothing and then looks whether it was all there. -/
theorem discard_eq_copyOut (source : Source σ) (n : Nat) (s : σ) :
    source.discard n s = checkCopied n (source.copyOut ⟨s, n⟩) := by
  fun_induction source.discard n s with
  | case1 s =>
    have hLimit : source.limited.read skipPiece ⟨s, 0⟩ = .ok [] ⟨s, 0⟩ := rfl
    rw [copyOut_read, hLimit]
    rfl
  | case2 n s hn t hr =>
    have hNone : 0 < n := Nat.pos_of_ne_zero hn
    rw [copyOut_read, limited_read source hn, hr]
    simp only [checkCopied, if_pos hNone]
  | case3 n s hn b bs t hr ih =>
    rw [copyOut_read, limited_read source hn, hr, ih]
    simp only
    generalize source.copyOut ⟨t, n - (b :: bs).length⟩ = r
    cases r with
    | ok copied u =>
      have hShort : copied < n - (b :: bs).length ↔ (b :: bs).length + copied < n := by omega
      simp only [checkCopied, hShort]
    | error f u => rfl
  | case4 n s hn f t hr hf ih =>
    rw [copyOut_read, limited_read source hn, hr, ih]
    simp only [if_pos hf]
  | case5 n s hn f t hr hf =>
    rw [copyOut_read, limited_read source hn, hr]
    simp only [if_neg hf, checkCopied]

/-! ## Sources by pieces -/

/-- What reads find in the state `s`, however much they ask for: a fault, the end of the stream, or
a piece of which each read takes what it asks for, until nothing is left of it. -/
inductive Finds (source : Source σ) (s : σ) : Prop
  | fault {f : Fault} {t : σ} (h : ∀ n, 0 < n → source.read n s = .error f t) : Finds source s
  | ended {t : σ} (h : ∀ n, 0 < n → source.read n s = .ok [] t) : Finds source s
  | piece {bs : Bytes} (left : Bytes → σ) (hSome : bs ≠ [])
      (hFirst : ∀ n, 0 < n → source.read n s = .ok (bs.take n) (left (bs.drop n)))
      (hLater : ∀ n cs, 0 < n → cs ≠ [] →
        source.read n (left cs) = .ok (cs.take n) (left (cs.drop n))) : Finds source s

/-- The source plays a script of faults, ends and pieces. -/
def ByPieces (source : Source σ) : Prop :=
  ∀ s, source.Finds s

namespace ByPieces

variable (h : source.ByPieces) {k n : Nat} {s t : σ}

include h

/-! A read of more finds what a read of less has found. -/

theorem read_ended (hk : 0 < k) (hn : 0 < n) (hRead : source.read k s = .ok [] t) :
    source.read n s = .ok [] t := by
  cases h s with
  | fault hFault => cases (hFault k hk).symm.trans hRead
  | ended hEnd => rw [hEnd n hn, ← hEnd k hk, hRead]
  | @piece bs left hSome hFirst hLater =>
    obtain ⟨hNone, -⟩ := EStateM.Result.ok.inj ((hFirst k hk).symm.trans hRead)
    rcases List.take_eq_nil_iff.mp hNone with h0 | hNil
    · omega
    · exact absurd hNil hSome

theorem read_failed {f : Fault} (hk : 0 < k) (hn : 0 < n) (hRead : source.read k s = .error f t) :
    source.read n s = .error f t := by
  cases h s with
  | fault hFault => rw [hFault n hn, ← hFault k hk, hRead]
  | ended hEnd => cases (hEnd k hk).symm.trans hRead
  | piece left hSome hFirst hLater => cases (hFirst k hk).symm.trans hRead

/-- Of a piece that was longer than the read it finds more, as much as a second read does. -/
theorem read_more {b : UInt8} {bs : Bytes} (hk : 0 < k) (hkn : k ≤ n)
    (hRead : source.read k s = .ok (b :: bs) t) :
    source.read n s = .ok (b :: bs) t ∨
      ∃ c cs u, source.read (n - (b :: bs).length) t = .ok (c :: cs) u ∧
        source.read n s = .ok (b :: bs ++ c :: cs) u := by
  cases h s with
  | fault hFault => cases (hFault k hk).symm.trans hRead
  | ended hEnd => cases (hEnd k hk).symm.trans hRead
  | @piece piece left hSome hFirst hLater =>
    obtain ⟨hTaken, rfl⟩ := EStateM.Result.ok.inj ((hFirst k hk).symm.trans hRead)
    rw [hFirst n (by omega), ← hTaken]
    by_cases hAll : piece.length ≤ k ∨ k = n
    · refine Or.inl ?_
      rcases hAll with hAll | rfl
      · rw [List.take_of_length_le hAll, List.take_of_length_le (by omega),
          List.drop_of_length_le hAll, List.drop_of_length_le (by omega)]
      · rfl
    · have hLength : (piece.take k).length = k := List.length_take_of_le (by omega)
      have hRest : piece.drop k ≠ [] := by
        simp only [ne_eq, List.drop_eq_nil_iff]
        omega
      have hNext := hLater (n - k) _ (by omega) hRest
      have hParts : piece.take n = piece.take k ++ (piece.drop k).take (n - k) := by
        rw [← List.take_add, Nat.add_sub_cancel' hkn]
      cases hMore : (piece.drop k).take (n - k) with
      | nil =>
        rcases List.take_eq_nil_iff.mp hMore with h0 | hNil
        · omega
        · exact absurd hNil hRest
      | cons c cs =>
        rw [hMore, List.drop_drop, Nat.add_sub_cancel' hkn] at hNext
        exact Or.inr ⟨c, cs, _, by rw [hLength, hNext], by rw [hParts, hMore]⟩

end ByPieces

/-! ## Full reads -/

/-- A full read that was handed these bytes before. -/
def prepend (bs : Bytes) : EStateM.Result Fault σ Bytes → EStateM.Result Fault σ Bytes
  | .ok rest t => .ok (bs ++ rest) t
  | .error f t => .error f t

theorem prepend_prepend (bs cs : Bytes) (r : EStateM.Result Fault σ Bytes) :
    prepend bs (prepend cs r) = prepend (bs ++ cs) r := by
  cases r with
  | ok rest t => exact congrArg (EStateM.Result.ok · t) (List.append_assoc bs cs rest).symm
  | error f t => rfl

theorem readExact_bytes {n : Nat} {s t : σ} {b : UInt8} {bs : Bytes} (hn : n ≠ 0)
    (hRead : source.read n s = .ok (b :: bs) t) :
    source.readExact n s = prepend (b :: bs) (source.readExact (n - (b :: bs).length) t) := by
  rw [readExact_read source hn, hRead]
  rfl

namespace ByPieces

variable (h : source.ByPieces) {k n : Nat} {s t : σ} (hk : 0 < k) (hkn : k ≤ n)

include h hk hkn

/-! A full read may begin with a read of any smaller size. -/

theorem readExact_ended (hRead : source.read k s = .ok [] t) :
    source.readExact n s = .error .endOfStream t := by
  rw [readExact_read source (by omega), h.read_ended hk (by omega) hRead]

theorem readExact_failed {f : Fault} (hRead : source.read k s = .error f t) :
    source.readExact n s = if f.kind = .interrupted then source.readExact n t else .error f t := by
  rw [readExact_read source (by omega), h.read_failed hk (by omega) hRead]

theorem readExact_more {b : UInt8} {bs : Bytes} (hRead : source.read k s = .ok (b :: bs) t) :
    source.readExact n s = prepend (b :: bs) (source.readExact (n - (b :: bs).length) t) := by
  have hn : n ≠ 0 := by omega
  rcases h.read_more hk hkn hRead with hSame | ⟨c, cs, u, hNext, hMore⟩
  · exact readExact_bytes hn hSame
  · -- The piece goes on: the shorter way finds the rest of it by its second read.
    have hNextLe := source.read_length_le hNext
    have hLeft : n - (b :: bs).length ≠ 0 := by
      simp only [List.length_cons] at hNextLe ⊢
      omega
    have hLength : n - (b :: bs ++ c :: cs).length = n - (b :: bs).length - (c :: cs).length := by
      rw [List.length_append]
      omega
    calc source.readExact n s
        = prepend (b :: bs ++ c :: cs) (source.readExact (n - (b :: bs ++ c :: cs).length) u) :=
          readExact_bytes hn hMore
      _ = prepend (b :: bs)
        (prepend (c :: cs) (source.readExact (n - (b :: bs).length - (c :: cs).length) u)) := by
          rw [prepend_prepend, hLength]
      _ = prepend (b :: bs) (source.readExact (n - (b :: bs).length) t) := by
        rw [readExact_bytes hLeft hNext]

end ByPieces

/-! ## What is fetched -/

/-- From `s` to `t` the source was read and has handed over these bytes. Every read found some,
or was interrupted. -/
inductive Fetches (source : Source σ) : σ → Bytes → σ → Prop
  | done (s : σ) : Fetches source s [] s
  | piece {n : Nat} {s t u : σ} {b : UInt8} {bs rest : Bytes}
      (hRead : source.read n s = .ok (b :: bs) t) (hRest : Fetches source t rest u) :
      Fetches source s (b :: bs ++ rest) u
  | interrupted {n : Nat} {s t u : σ} {f : Fault} {bs : Bytes} (hAsked : 0 < n)
      (hRead : source.read n s = .error f t) (hKind : f.kind = .interrupted)
      (hRest : Fetches source t bs u) : Fetches source s bs u

/-- How a full read and a skip of `n` bytes end, both from `s` on and in the same state. -/
inductive Ends (source : Source σ) (n : Nat) (s : σ) :
    EStateM.Result Fault σ Bytes → EStateM.Result Fault σ Unit → Prop
  /-- All bytes are there. -/
  | complete {bs : Bytes} {t : σ} (hFetched : source.Fetches s bs t) (hAll : bs.length = n) :
      Ends source n s (.ok bs t) (.ok () t)
  /-- The stream ends early. -/
  | cutShort {bs : Bytes} {k : Nat} {t u : σ} (hFetched : source.Fetches s bs t)
      (hShort : bs.length < n) (hAsked : 0 < k) (hEnd : source.read k t = .ok [] u) :
      Ends source n s (.error .endOfStream u) (.error .payloadCutShort u)
  /-- A read fails, and not by an interruption. -/
  | failed {bs : Bytes} {k : Nat} {t u : σ} {f : Fault} (hFetched : source.Fetches s bs t)
      (hShort : bs.length < n) (hAsked : 0 < k) (hFault : source.read k t = .error f u)
      (hKind : f.kind ≠ .interrupted) : Ends source n s (.error f u) (.error f u)

namespace Ends

variable {n m : Nat} {s t : σ} {full : EStateM.Result Fault σ Bytes}
  {skip : EStateM.Result Fault σ Unit}

/-- Bytes that were fetched before count towards the whole. -/
theorem after_bytes {k : Nat} {b : UInt8} {bs : Bytes} (hRead : source.read k s = .ok (b :: bs) t)
    (hLength : (b :: bs).length + m = n) (h : source.Ends m t full skip) :
    source.Ends n s (prepend (b :: bs) full) skip := by
  cases h with
  | complete hFetched hAll =>
    refine .complete (.piece hRead hFetched) ?_
    rw [List.length_append, hAll, hLength]
  | cutShort hFetched hShort hAsked hEnd =>
    refine .cutShort (.piece hRead hFetched) ?_ hAsked hEnd
    rw [List.length_append]
    omega
  | failed hFetched hShort hAsked hFault hKind =>
    refine .failed (.piece hRead hFetched) ?_ hAsked hFault hKind
    rw [List.length_append]
    omega

theorem after_interruption {k : Nat} {f : Fault} (hk : 0 < k) (hRead : source.read k s = .error f t)
    (hInt : f.kind = .interrupted) (h : source.Ends n t full skip) : source.Ends n s full skip := by
  cases h with
  | complete hFetched hAll => exact .complete (.interrupted hk hRead hInt hFetched) hAll
  | cutShort hFetched hShort hAsked hEnd =>
    exact .cutShort (.interrupted hk hRead hInt hFetched) hShort hAsked hEnd
  | failed hFetched hShort hAsked hFault hKind =>
    exact .failed (.interrupted hk hRead hInt hFetched) hShort hAsked hFault hKind

theorem succeeds_eq (h : source.Ends n s full skip) : succeeds skip = succeeds full := by
  cases h <;> rfl

theorem same_state (h : source.Ends n s full skip) : endState skip = endState full := by
  cases h <;> rfl

end Ends

/-- On a source by pieces a skip ends like a full read. -/
theorem ByPieces.ends (h : source.ByPieces) (n : Nat) (s : σ) :
    source.Ends n s (source.readExact n s) (source.discard n s) := by
  fun_induction source.discard n s with
  | case1 s =>
    rw [readExact, if_pos rfl]
    exact .complete (.done s) rfl
  | case2 n s hn t hr =>
    rw [h.readExact_ended (skipPiece_pos hn) (Nat.min_le_left _ _) hr]
    exact .cutShort (.done s) (Nat.pos_of_ne_zero hn) (skipPiece_pos hn) hr
  | case3 n s hn b bs t hr ih =>
    have hLength := Nat.le_trans (source.read_length_le hr) (Nat.min_le_left _ _)
    rw [h.readExact_more (skipPiece_pos hn) (Nat.min_le_left _ _) hr]
    exact ih.after_bytes hr (Nat.add_sub_cancel' hLength)
  | case4 n s hn f t hr hf ih =>
    rw [h.readExact_failed (skipPiece_pos hn) (Nat.min_le_left _ _) hr, if_pos hf]
    exact ih.after_interruption (skipPiece_pos hn) hr hf
  | case5 n s hn f t hr hf =>
    rw [h.readExact_failed (skipPiece_pos hn) (Nat.min_le_left _ _) hr, if_neg hf]
    exact .failed (.done s) (Nat.pos_of_ne_zero hn) (skipPiece_pos hn) hr hf

end Source

/-! ## Scripted links -/

namespace MemoryLink

/-- Reads of a link in memory fail, or find the pending bytes, however many these are. -/
theorem read_finds (l : MemoryLink) :
    (∃ f m, ∀ n, 0 < n → read n l = .error f m) ∨
      l.pending ≠ [] ∧ ∀ n cs, 0 < n → cs ≠ [] →
        read n { l with pending := cs } = .ok (cs.take n) { l with pending := cs.drop n } := by
  cases hFail : l.failRead with
  | some kind =>
    refine Or.inl ⟨⟨kind, "injected read failure"⟩, { l with failRead := none }, fun n _ => ?_⟩
    simp only [read, hFail]
  | none =>
    by_cases hClosed : l.closed = true
    · exact Or.inl ⟨closedFault, l, fun n _ => by simp only [read, hFail, hClosed, if_true]⟩
    · by_cases hNone : l.pending = []
      · refine Or.inl ⟨noData, l, fun n hn => ?_⟩
        have hAsked : n ≠ 0 := by omega
        simp [read, hFail, hClosed, hNone, hAsked]
      · refine Or.inr ⟨hNone, fun n cs hn hcs => ?_⟩
        have hAsked : n ≠ 0 := by omega
        simp [read, hClosed, hcs, hAsked]

end MemoryLink

namespace ScriptedLink

variable {stopWhenDrained : Bool}

/-- What reads of a scripted link find, and whether the first of them stops the world. -/
inductive Finds (stopWhenDrained : Bool) (l : ScriptedLink) : Prop
  | fault (f : Fault) (m : ScriptedLink) (stop : Bool) (h : ∀ n, 0 < n →
      l.read stopWhenDrained n = (.error f m, stop)) :
      Finds stopWhenDrained l
  | ended (m : ScriptedLink) (stop : Bool)
      (h : ∀ n, 0 < n → l.read stopWhenDrained n = (.ok [] m, stop)) :
      Finds stopWhenDrained l
  | piece (m : ScriptedLink) (stop : Bool) {bs : Bytes} (hSome : bs ≠ [])
      (hFirst : ∀ n, 0 < n →
        l.read stopWhenDrained n = (.ok (bs.take n) { m with memory.pending := bs.drop n }, stop))
      (hLater : ∀ n cs, 0 < n → cs ≠ [] →
        read stopWhenDrained n { m with memory.pending := cs } =
          (.ok (cs.take n) { m with memory.pending := cs.drop n }, false)) :
      Finds stopWhenDrained l

/-- Pending bytes come before the script. -/
theorem read_pending {l : ScriptedLink} (hSome : l.memory.pending ≠ []) (n : Nat) :
    l.read stopWhenDrained n = (onMemory (MemoryLink.read n) l, false) := by
  unfold read
  rw [if_neg (by simpa using hSome)]

/-- Once the memory link is asked, it decides. -/
theorem finds_of_memory {l m : ScriptedLink} {stop : Bool}
    (hRead : ∀ n, 0 < n → l.read stopWhenDrained n = (onMemory (MemoryLink.read n) m, stop)) :
    Finds stopWhenDrained l := by
  rcases MemoryLink.read_finds m.memory with ⟨f, m', hFault⟩ | ⟨hSome, hBytes⟩
  · refine .fault f { m with memory := m' } stop fun n hn => ?_
    rw [hRead n hn, onMemory, hFault n hn]
  · refine .piece m stop hSome (fun n hn => ?_) fun n cs hn hcs => ?_
    · have hAll := hBytes n m.memory.pending hn hSome
      rw [hRead n hn, onMemory, hAll]
    · rw [read_pending hcs n, onMemory, hBytes n cs hn hcs]

theorem finds (stopWhenDrained : Bool) (l : ScriptedLink) : Finds stopWhenDrained l := by
  by_cases hPending : l.memory.pending = []
  · have hEmpty : l.memory.pending.isEmpty = true := by simpa using hPending
    rcases hCue : Script.cue l.arrivals with ⟨due, rest, stop, hangUp⟩
    cases due with
    | bytes bs => exact finds_of_memory fun n _ => by unfold read; rw [if_pos hEmpty, hCue]
    | fault kind => exact .fault _ _ stop fun n _ => by unfold read; rw [if_pos hEmpty, hCue]
    | ended => exact .ended _ stop fun n _ => by unfold read; rw [if_pos hEmpty, hCue]
    | nothing => exact finds_of_memory fun n _ => by unfold read; rw [if_pos hEmpty, hCue]
  · exact finds_of_memory fun n _ => read_pending hPending n

end ScriptedLink

/-- A scripted link plays its script by pieces. -/
theorem World.link_byPieces (stopWhenDrained : Bool) (id : LinkId) :
    (World.link stopWhenDrained id).ByPieces := by
  intro w
  show Source.Finds _ w
  cases hLine : w.lines[id]? with
  | none => exact .fault fun n _ => by simp only [link, readLine, hLine]; rfl
  | some l =>
    cases l.finds stopWhenDrained with
    | fault f m stop h => exact .fault fun n hn => by simp only [link, readLine, hLine, h n hn]; rfl
    | ended m stop h => exact .ended fun n hn => by simp only [link, readLine, hLine, h n hn]; rfl
    | piece m stop hSome hFirst hLater =>
      have hInside : id < w.lines.length := (List.getElem?_eq_some_iff.mp hLine).1
      refine .piece (fun cs =>
          { w.setLine id { m with memory.pending := cs } with stopped := w.stopped || stop }) hSome
            (fun n hn => by simp only [link, readLine, hLine, hFirst n hn]) fun n cs hn hcs => ?_
      have hNow : (w.lines.set id { m with memory.pending := cs })[id]? =
          some { m with memory.pending := cs } :=
        List.getElem?_set_self hInside
      simp only [link, readLine, setLine, hNow, hLater n cs hn hcs, List.set_set, Bool.or_false]

/-! ## A payload that nobody wants -/

/-- **A skip takes what a full read takes.** Let a link play a script of faults, ends and pieces.
Whatever length a device states for a payload, the link may be asked to skip it or to read it.

* The skip is a copy into nothing through a limit, in pieces, which must not have ended early.
* It succeeds exactly if the full read does, and leaves the same state, so the same bytes
  are left to be read.
* Both fetch the same bytes, all of the payload or the part of it that there is, and nothing beyond
  it. What they fail by is the end of the stream, or the first fault of a read that is no
  interruption, which they pass on as it is.
* Of a payload without a length that is positive, nothing is read, and the skip succeeds.
* The end of the stream is of one kind for both.
-/
theorem payload_skipped_as_read {link : Link σ} (h : link.ByPieces) (size : Int32) (s : σ) :
    let skip := link.discard size.toInt.toNat s
    let full := link.readExact (max size.toInt 0).toNat s
    skip = Source.checkCopied size.toInt.toNat (link.copyOut ⟨s, size.toInt.toNat⟩) ∧
      (succeeds skip = true ↔ succeeds full = true) ∧ endState skip = endState full ∧
      link.Ends (max size.toInt 0).toNat s full skip ∧
      (size.toInt ≤ 0 → (Journaled.link link).discard size.toInt.toNat ⟨s, []⟩ = .ok () ⟨s, []⟩) ∧
      Fault.payloadCutShort.kind = .unexpectedEof ∧ Fault.endOfStream.kind = .unexpectedEof := by
  intro skip full
  have hLength : (max size.toInt 0).toNat = size.toInt.toNat := by omega
  have hEnds : link.Ends (max size.toInt 0).toNat s full skip := by
    simp only [full, skip, hLength]
    exact h.ends _ s
  refine ⟨link.discard_eq_copyOut _ s,
    by rw [hEnds.succeeds_eq], hEnds.same_state, hEnds, fun hNone => ?_, rfl, rfl⟩
  have hZero : size.toInt.toNat = 0 := by omega
  rw [hZero, Source.discard, if_pos rfl]

/-- Four bytes in two pieces with an interruption between them, a fault, and two bytes more. Four
bytes are there; of six the fault is met at the fifth, and the two bytes behind it are left. -/
theorem payload_skipped_as_read_scripted :
    let link := World.link false 0
    let w : World := { lines := [
      { arrivals := [.data [1, 2, 3], .fault .interrupted, .data [4], .fault .other,
          .data [5, 6]] }] }
    link.ByPieces ∧
      toExcept (link.readExact 4 w) = .ok [1, 2, 3, 4] ∧ succeeds (link.discard 4 w) = true ∧
      toExcept (link.readExact 6 w) = .error (Script.fault .other) ∧
      succeeds (link.discard 6 w) = false ∧
      (endState (link.discard 6 w)).lines.map ScriptedLink.pendingBytes = [2] := by
  intro link w
  have hPieces : link.ByPieces := World.link_byPieces false 0
  obtain ⟨-, hFour, -⟩ := payload_skipped_as_read hPieces 4 w
  obtain ⟨-, hSix, hEnd, -⟩ := payload_skipped_as_read hPieces 6 w
  have hWhole : toExcept (link.readExact 4 w) = .ok [1, 2, 3, 4] := by cbv
  have hFault : toExcept (link.readExact 6 w) = .error (Script.fault .other) := by cbv
  have hLeft : (endState (link.readExact 6 w)).lines.map ScriptedLink.pendingBytes = [2] := by cbv
  refine ⟨hPieces, hWhole, hFour.mpr (by cbv), hFault, ?_, ?_⟩
  · refine Bool.eq_false_iff.mpr fun hSkipped => ?_
    have hFull : succeeds (link.readExact 6 w) = true := hSix.mp hSkipped
    cases hRun : link.readExact 6 w with
    | ok bs v => rw [hRun] at hFault; cases hFault
    | error f v => rw [hRun] at hFull; cases hFull
  · have hSame : endState (link.discard 6 w) = endState (link.readExact 6 w) := hEnd
    rw [hSame, hLeft]

end MemoryBridge
