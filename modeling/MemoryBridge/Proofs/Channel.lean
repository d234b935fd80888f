import MemoryBridge.Proofs.Simulation

/-!
# Faultless links

A channel is what serving the device comes to when nothing goes wrong: the bytes that the device has
sent and that were not read yet, the bytes sent to it, and the bytes passed through. A link and a
sink are faultless for a relation between worlds and channels when they do to the channel what their
names say. They may hand over and take the bytes in pieces of any size and may be interrupted in
between; a read of an empty channel ends the stream or fails, always in the same way.

* `Faultless.link_follows`, `Faultless.sink_follows`: a faultless link behaves like the plain link
  of the channel, which hands over and takes everything at once. With `Session.dispatch_follows` and
  its kin, what is proved of the plain link holds of every faultless one.
* `Channel.readExact_eq`, `Channel.discard_eq`, `Channel.writeAll_eq`: what the plain link does.
-/

namespace MemoryBridge

/-- The byte streams between a device, its host and the sink. -/
structure Channel where
  /-- Sent by the device and not read yet. -/
  incoming : Bytes := []
  /-- Sent to the device. -/
  sent : Bytes := []
  /-- Passed through to the sink. -/
  shown : Bytes := []
  deriving DecidableEq, Repr

/-- What a read finds when nothing is left. -/
inductive Ending
  /-- The end of the stream. -/
  | closed
  /-- The same fault each time, which is not an interruption. -/
  | silent (fault : Fault) (lasting : fault.kind ≠ .interrupted)

namespace Ending

/-- The fault of a full read that finds too little. -/
def readFault : Ending → Fault
  | .closed => .endOfStream
  | .silent f _ => f

/-- The fault of a skip that finds too little. -/
def skipFault : Ending → Fault
  | .closed => .payloadCutShort
  | .silent f _ => f

end Ending

/-! ## The plain link -/

namespace Channel

/-- Takes `n` bytes, or all there are and fails. -/
def take (fault : Fault) (n : Nat) : EStateM Fault Channel Bytes := fun ch =>
  if n ≤ ch.incoming.length then
    .ok (ch.incoming.take n) { ch with incoming := ch.incoming.drop n }
  else .error fault { ch with incoming := [] }

/-- Too few bytes are all taken, and it fails. -/
theorem take_short {fault : Fault} {n : Nat} {ch : Channel} (h : ch.incoming.length < n) :
    take fault n ch = .error fault { ch with incoming := [] } := by
  unfold take
  rw [if_neg (Nat.not_le.mpr h)]

/-- Taking a first part and then the others. -/
theorem take_append {fault : Fault} {n : Nat} {ch : Channel} {bs rest : Bytes}
    (hIn : ch.incoming = bs ++ rest) (hle : bs.length ≤ n) :
    take fault n ch =
      match take fault (n - bs.length) { ch with incoming := rest } with
      | .ok more ch' => .ok (bs ++ more) ch'
      | .error f ch' => .error f ch' := by
  have hLength : ch.incoming.length = bs.length + rest.length := by rw [hIn, List.length_append]
  by_cases hEnough : n ≤ ch.incoming.length
  · have hRest : n - bs.length ≤ rest.length := by omega
    unfold take
    rw [if_pos hEnough, if_pos hRest, hIn, List.take_append, List.drop_append,
      List.take_of_length_le hle, List.drop_of_length_le hle, List.nil_append]
  · have hRest : ¬ n - bs.length ≤ rest.length := by omega
    unfold take
    rw [if_neg hEnough, if_neg hRest]

def send (ch : Channel) (bs : Bytes) : Channel := { ch with sent := ch.sent ++ bs }

def pass (ch : Channel) (bs : Bytes) : Channel := { ch with shown := ch.shown ++ bs }

def read (ending : Ending) (n : Nat) : EStateM Fault Channel Bytes := fun ch =>
  match ch.incoming, ending with
  | [], .closed => .ok [] ch
  | [], .silent f _ => .error f ch
  | b :: bs, _ => .ok ((b :: bs).take n) { ch with incoming := (b :: bs).drop n }

theorem read_not_interrupted {ending : Ending} {n : Nat} {ch ch' : Channel} {f : Fault}
    (h : read ending n ch = .error f ch') : f.kind ≠ .interrupted := by
  unfold read at h
  split at h <;> cases h
  assumption

theorem read_length_le {ending : Ending} {n : Nat} {ch ch' : Channel} {bs : Bytes}
    (h : read ending n ch = .ok bs ch') : bs.length ≤ n := by
  unfold read at h
  split at h <;> cases h
  · exact Nat.zero_le n
  · exact List.length_take_le _ _

/-- A link that hands over and takes everything at once. -/
def link (ending : Ending) : Link Channel where
  read := read ending
  write := fun bs ch => .ok bs.length (ch.send bs)
  flush := fun ch => .ok () ch
  setMode := fun _ ch => .ok () ch
  readPatience := fun _ => 0
  writePatience := fun _ => 0
  read_length_le := read_length_le
  read_interrupted := fun h hf => absurd hf (read_not_interrupted h)
  write_le_length := fun h => by
    cases h
    exact Nat.le_refl _
  write_interrupted := fun h => by cases h

/-- A sink that takes everything at once. -/
def sink : Sink Channel where
  write := fun bs ch => .ok bs.length (ch.pass bs)
  flush := fun ch => .ok () ch
  writePatience := fun _ => 0
  write_le_length := fun h => by
    cases h
    exact Nat.le_refl _
  write_interrupted := fun h => by cases h

end Channel

/-! ## Faultless links and sinks -/

/-- `Shows s ch` says that the world `s` shows the channel `ch`. In such a world, `link` and `sink`
do to the channel what their names say. -/
structure Faultless {σ : Type} (link : Link σ) (sink : Sink σ) (ending : Ending)
    (Shows : σ → Channel → Prop) : Prop where
  read_ok : ∀ {n s bs t ch}, Shows s ch → 0 < n → link.read n s = .ok bs t →
    ∃ rest, ch.incoming = bs ++ rest ∧ Shows t { ch with incoming := rest } ∧
      (bs = [] → rest = [] ∧ ending = .closed)
  read_error : ∀ {n s f t ch}, Shows s ch → 0 < n → link.read n s = .error f t →
    Shows t ch ∧ (f.kind = .interrupted ∨ ch.incoming = [] ∧ ∃ h, ending = .silent f h)
  write_ok : ∀ {bs s n t ch}, Shows s ch → bs ≠ [] → link.write bs s = .ok n t →
    0 < n ∧ Shows t (ch.send (bs.take n))
  write_error : ∀ {bs s f t ch}, Shows s ch → bs ≠ [] → link.write bs s = .error f t →
    f.kind = .interrupted ∧ Shows t ch
  flush : ∀ {s ch}, Shows s ch → ∃ t, link.flush s = .ok () t ∧ Shows t ch
  setMode : ∀ {mode s ch}, Shows s ch → ∃ t, link.setMode mode s = .ok () t ∧ Shows t ch
  pass_ok : ∀ {bs s n t ch}, Shows s ch → bs ≠ [] → sink.write bs s = .ok n t →
    0 < n ∧ Shows t (ch.pass (bs.take n))
  pass_error : ∀ {bs s f t ch}, Shows s ch → bs ≠ [] → sink.write bs s = .error f t →
    f.kind = .interrupted ∧ Shows t ch
  flush_sink : ∀ {s ch}, Shows s ch → ∃ t, sink.flush s = .ok () t ∧ Shows t ch

namespace Sink

variable {σ : Type} {sink : Sink σ}

/-- A full write adds all its bytes when each write adds what it takes. `add` says to which
stream. -/
theorem writeAll_adds (Shows : σ → Channel → Prop) (add : Channel → Bytes → Channel)
    (hNil : ∀ ch, add ch [] = ch)
    (hAppend : ∀ ch bs cs, add (add ch bs) cs = add ch (bs ++ cs))
    (hOk : ∀ {bs s n t ch}, Shows s ch → bs ≠ [] → sink.write bs s = .ok n t →
      0 < n ∧ Shows t (add ch (bs.take n)))
    (hError : ∀ {bs s f t ch}, Shows s ch → bs ≠ [] → sink.write bs s = .error f t →
      f.kind = .interrupted ∧ Shows t ch)
    (bs : Bytes) {s : σ} {ch : Channel} (h : Shows s ch) :
    ∃ t, sink.writeAll bs s = .ok () t ∧ Shows t (add ch bs) := by
  fun_induction sink.writeAll bs s generalizing ch with
  | case1 s => exact ⟨s, rfl, by rwa [hNil]⟩
  | case2 s b rest t hw => exact absurd (hOk h (by simp) hw).1 (by omega)
  | case3 s b rest n t hw ih =>
    have h' := (hOk h (by simp) hw).2
    rw [List.take_succ_cons] at h'
    obtain ⟨u, hu, hShows⟩ := ih h'
    refine ⟨u, hu, ?_⟩
    rwa [hAppend, List.cons_append, List.take_append_drop] at hShows
  | case4 s b rest f t hw hf ih => exact ih (hError h (by simp) hw).2
  | case5 s b rest f t hw hf => exact absurd (hError h (by simp) hw).1 hf

end Sink

namespace Faultless

variable {σ : Type} {link : Link σ} {sink : Sink σ} {ending : Ending} {Shows : σ → Channel → Prop}

theorem readExact_take (h : Faultless link sink ending Shows) (n : Nat) :
    Follows Shows (link.readExact n) (Channel.take ending.readFault n) := by
  intro s ch hs
  fun_induction link.readExact n s generalizing ch with
  | case1 s => exact .ok (by simpa [Channel.take] using hs)
  | case2 n s hn t hr =>
    obtain ⟨rest, hIn, hShows, hEnd⟩ := h.read_ok hs (by omega) hr
    obtain ⟨rfl, rfl⟩ := hEnd rfl
    have hNone : ch.incoming.length = 0 := by rw [hIn]; rfl
    rw [Channel.take_short (by omega)]
    exact .error hShows
  | case3 n s hn b bs t hr rest u hu ih =>
    obtain ⟨left, hIn, hShows, -⟩ := h.read_ok hs (by omega) hr
    have hRest := ih _ hShows
    rw [Channel.take_append hIn (link.read_length_le hr)]
    rw [hu] at hRest
    generalize Channel.take ending.readFault (n - (b :: bs).length) { ch with incoming := left } =
      r at hRest
    cases hRest with
    | ok hEnd => exact .ok hEnd
  | case4 n s hn b bs t hr f u hu ih =>
    obtain ⟨left, hIn, hShows, -⟩ := h.read_ok hs (by omega) hr
    have hRest := ih _ hShows
    rw [Channel.take_append hIn (link.read_length_le hr)]
    rw [hu] at hRest
    generalize Channel.take ending.readFault (n - (b :: bs).length) { ch with incoming := left } =
      r at hRest
    cases hRest with
    | error hEnd => exact .error hEnd
  | case5 n s hn f t hr hf ih => exact ih _ (h.read_error hs (by omega) hr).1
  | case6 n s hn f t hr hf =>
    obtain ⟨hShows, hInt | ⟨hIn, hLasting, hEnd⟩⟩ := h.read_error hs (by omega) hr
    · exact absurd hInt hf
    · have hNone : ch.incoming.length = 0 := by rw [hIn]; rfl
      rw [Channel.take_short (by omega), hEnd, ← hIn]
      exact .error hShows

/-- A skip is a full read whose bytes are dropped, with a fault of its own at the end of the
stream. -/
theorem discard_take (h : Faultless link sink ending Shows) (n : Nat) :
    Follows Shows (link.discard n) ((fun _ => ()) <$> Channel.take ending.skipFault n) := by
  intro s ch hs
  show Alike Shows _ (EStateM.map _ _ ch)
  unfold EStateM.map
  fun_induction link.discard n s generalizing ch with
  | case1 s => exact .ok (by simpa [Channel.take] using hs)
  | case2 n s hn t hr =>
    obtain ⟨rest, hIn, hShows, hEnd⟩ := h.read_ok hs (Source.skipPiece_pos hn) hr
    obtain ⟨rfl, rfl⟩ := hEnd rfl
    have hNone : ch.incoming.length = 0 := by rw [hIn]; rfl
    rw [Channel.take_short (by omega)]
    exact .error hShows
  | case3 n s hn b bs t hr ih =>
    obtain ⟨left, hIn, hShows, -⟩ := h.read_ok hs (Source.skipPiece_pos hn) hr
    have hle : (b :: bs).length ≤ n := Nat.le_trans (link.read_length_le hr) (Nat.min_le_left _ _)
    have hRest := ih _ hShows
    rw [Channel.take_append hIn hle]
    generalize Channel.take ending.skipFault (n - (b :: bs).length) { ch with incoming := left } =
      r at hRest
    cases r with
    | ok more ch' => exact hRest
    | error f ch' => exact hRest
  | case4 n s hn f t hr hf ih =>
    exact ih _ (h.read_error hs (Source.skipPiece_pos hn) hr).1
  | case5 n s hn f t hr hf =>
    obtain ⟨hShows, hInt | ⟨hIn, hLasting, hEnd⟩⟩ := h.read_error hs (Source.skipPiece_pos hn) hr
    · exact absurd hInt hf
    · have hNone : ch.incoming.length = 0 := by rw [hIn]; rfl
      rw [Channel.take_short (by omega), hEnd, ← hIn]
      exact .error hShows

end Faultless

/-! ## What the plain link does -/

theorem Alike.eq {ε σ α : Type} {r r' : EStateM.Result ε σ α} (h : Alike Eq r r') : r = r' := by
  cases h with
  | ok h => rw [h]
  | error h => rw [h]

namespace Channel

variable {ending : Ending}

theorem faultless (ending : Ending) : Faultless (link ending) sink ending Eq where
  read_ok := by
    rintro n ch bs ch' _ rfl hn hr
    simp only [link, read] at hr
    split at hr <;> cases hr
    · rename_i hIn
      exact ⟨[], hIn, by rw [← hIn], fun _ => ⟨rfl, rfl⟩⟩
    · rename_i b rest hIn
      refine ⟨_, by rw [hIn, List.take_append_drop], rfl, fun hNil => ?_⟩
      obtain ⟨k, rfl⟩ : ∃ k, n = k + 1 := ⟨n - 1, by omega⟩
      cases hNil
  read_error := by
    rintro n ch f ch' _ rfl hn hr
    simp only [link, read] at hr
    split at hr <;> cases hr
    rename_i hIn hLasting
    exact ⟨rfl, Or.inr ⟨hIn, hLasting, rfl⟩⟩
  write_ok := by
    rintro bs ch n ch' _ rfl hbs hw
    cases hw
    exact ⟨List.length_pos_iff.mpr hbs, by rw [List.take_length]⟩
  write_error := by
    rintro bs ch f ch' _ rfl hbs hw
    cases hw
  flush := fun {ch _} h => ⟨ch, rfl, h⟩
  setMode := fun {_ ch _} h => ⟨ch, rfl, h⟩
  pass_ok := by
    rintro bs ch n ch' _ rfl hbs hw
    cases hw
    exact ⟨List.length_pos_iff.mpr hbs, by rw [List.take_length]⟩
  pass_error := by
    rintro bs ch f ch' _ rfl hbs hw
    cases hw
  flush_sink := fun {ch _} h => ⟨ch, rfl, h⟩

theorem readExact_eq (n : Nat) :
    (link ending).readExact n = take ending.readFault n :=
  funext fun ch => ((faultless ending).readExact_take n ch ch rfl).eq

theorem discard_eq (n : Nat) :
    (link ending).discard n = (fun _ => ()) <$> take ending.skipFault n :=
  funext fun ch => ((faultless ending).discard_take n ch ch rfl).eq

@[simp] theorem send_nil (ch : Channel) : ch.send [] = ch := by simp [send]

@[simp] theorem send_send (ch : Channel) (bs cs : Bytes) :
    (ch.send bs).send cs = ch.send (bs ++ cs) := by
  simp [send]

@[simp] theorem pass_nil (ch : Channel) : ch.pass [] = ch := by simp [pass]

@[simp] theorem pass_pass (ch : Channel) (bs cs : Bytes) :
    (ch.pass bs).pass cs = ch.pass (bs ++ cs) := by
  simp [pass]

end Channel

/-! ## Faultless links behave like the plain one -/

namespace Faultless

variable {σ : Type} {link : Link σ} {sink : Sink σ} {ending : Ending} {Shows : σ → Channel → Prop}

theorem writeAll_send (h : Faultless link sink ending Shows) (bs : Bytes) {s : σ} {ch : Channel}
    (hs : Shows s ch) : ∃ t, link.writeAll bs s = .ok () t ∧ Shows t (ch.send bs) :=
  Sink.writeAll_adds Shows Channel.send Channel.send_nil Channel.send_send h.write_ok h.write_error
    bs hs

theorem writeAll_pass (h : Faultless link sink ending Shows) (bs : Bytes) {s : σ} {ch : Channel}
    (hs : Shows s ch) : ∃ t, sink.writeAll bs s = .ok () t ∧ Shows t (ch.pass bs) :=
  Sink.writeAll_adds Shows Channel.pass Channel.pass_nil Channel.pass_pass h.pass_ok h.pass_error
    bs hs

end Faultless

namespace Channel

variable {ending : Ending}

theorem writeAll_eq (bs : Bytes) (ch : Channel) :
    (link ending).writeAll bs ch = .ok () (ch.send bs) := by
  obtain ⟨t, ht, rfl⟩ := (faultless ending).writeAll_send bs (rfl : ch = ch)
  exact ht

theorem sink_writeAll_eq (bs : Bytes) (ch : Channel) :
    sink.writeAll bs ch = .ok () (ch.pass bs) := by
  obtain ⟨t, ht, rfl⟩ := (faultless .closed).writeAll_pass bs (rfl : ch = ch)
  exact ht

/-- The plain link as a supply of bytes. -/
def supply (ending : Ending) : Supply Channel where
  link := link ending
  sink := sink
  more := fun ch => !ch.incoming.isEmpty
  weight := fun ch => ch.incoming.length
  link_keeps :=
    { read := fun n ch => by
        show (endState (read ending n ch)).incoming.length ≤ _
        unfold read
        split <;> simp_all
      write := fun _ _ => Nat.le_refl _
      flush := fun _ => Nat.le_refl _
      setMode := fun _ _ => Nat.le_refl _ }
  sink_keeps := ⟨fun _ _ => Nat.le_refl _, fun _ => Nat.le_refl _⟩
  read_spends := by
    intro ch b bs ch' hr
    simp only [link, read] at hr
    split at hr <;> cases hr
    simp_all

end Channel

namespace Faultless

variable {σ : Type} {link : Link σ} {sink : Sink σ} {ending : Ending} {Shows : σ → Channel → Prop}

theorem link_follows (h : Faultless link sink ending Shows) :
    link.Follows Shows (Channel.link ending) where
  readExact n := Channel.readExact_eq n ▸ h.readExact_take n
  discard n := Channel.discard_eq n ▸ h.discard_take n
  writeAll bs := by
    intro s ch hs
    obtain ⟨t, ht, hShows⟩ := h.writeAll_send bs hs
    rw [ht, Channel.writeAll_eq]
    exact .ok hShows
  flush := by
    intro s ch hs
    obtain ⟨t, ht, hShows⟩ := h.flush hs
    rw [ht]
    exact .ok hShows
  setMode mode := by
    intro s ch hs
    obtain ⟨t, ht, hShows⟩ : ∃ t, link.setMode mode s = .ok () t ∧ Shows t ch := h.setMode hs
    rw [ht]
    exact .ok hShows

theorem sink_follows (h : Faultless link sink ending Shows) : sink.Follows Shows Channel.sink where
  writeAll bs := by
    intro s ch hs
    obtain ⟨t, ht, hShows⟩ := h.writeAll_pass bs hs
    rw [ht, Channel.sink_writeAll_eq]
    exact .ok hShows
  flush := by
    intro s ch hs
    obtain ⟨t, ht, hShows⟩ := h.flush_sink hs
    rw [ht]
    exact .ok hShows

end Faultless

/-- A supply with a faultless link and sink that knows whether anything is left. -/
structure Supply.Faultless {σ : Type} (supply : Supply σ) (ending : Ending)
    (Shows : σ → Channel → Prop) : Prop where
  streams : MemoryBridge.Faultless supply.link supply.sink ending Shows
  more : ∀ {s ch}, Shows s ch → supply.more s = !ch.incoming.isEmpty

theorem Channel.supply_faultless (ending : Ending) :
    (Channel.supply ending).Faultless ending Eq where
  streams := Channel.faultless ending
  more := fun h => by
    rw [h]
    rfl

theorem Supply.Faultless.follows {σ : Type} {supply : Supply σ} {ending : Ending}
    {Shows : σ → Channel → Prop} (h : supply.Faultless ending Shows) :
    supply.Follows Shows (Channel.supply ending) :=
  ⟨h.streams.link_follows, h.streams.sink_follows, h.more⟩

end MemoryBridge
