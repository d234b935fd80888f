import MemoryBridge.Host

/-!
# Recorded worlds

`Host.recorded` is a host that keeps a log of all that a connection does: which links it was
handed, what was asked of each of them and what came of it, and what the sink took. It numbers
the links in the order in which they are handed out, so that a link which the world hands out
twice counts as two.

Reads of the log are the bytes that were polled from a link, those that were passed through, and how
often a link was taken into blocking mode. The log says nothing of time, of attempts to open a link
that failed, and of flushes of the sink.
-/

namespace MemoryBridge

/-- Something that happened at a link or at the sink. -/
inductive Entry
  /-- The bytes that came, none if the read failed, and the mode that the link was last asked
  for. -/
  | read (link : LinkId) (mode : ReadMode) (bytes : Bytes)
  /-- The bytes that were taken, none if the write failed. -/
  | wrote (link : LinkId) (bytes : Bytes)
  | flushed (link : LinkId)
  /-- The link was asked for a mode, whether or not it took it. -/
  | asked (link : LinkId) (mode : ReadMode)
  /-- The bytes that the sink took. -/
  | shown (bytes : Bytes)
  deriving DecidableEq, Repr

namespace Entry

/-- Where it happened, unless that was the sink. -/
def link? : Entry → Option LinkId
  | .read k _ _ | .wrote k _ | .flushed k | .asked k _ => some k
  | .shown _ => none

/-- Reads, writes and flushes of a link. -/
def isTraffic : Entry → Bool
  | .read _ _ _ | .wrote _ _ | .flushed _ => true
  | .asked _ _ | .shown _ => false

theorem link?_of_isTraffic {e : Entry} (h : e.isTraffic = true) : ∃ k, e.link? = some k := by
  cases e with
  | read k mode bs => exact ⟨k, rfl⟩
  | wrote k bs => exact ⟨k, rfl⟩
  | flushed k => exact ⟨k, rfl⟩
  | asked k mode => cases h
  | shown bs => cases h

/-- The bytes that were read from the link `k` in poll mode. -/
def polled (k : LinkId) : Entry → Bytes
  | .read j .poll bs => if j = k then bs else []
  | _ => []

/-- The bytes that were passed through. -/
def passed : Entry → Bytes
  | .shown bs => bs
  | _ => []

end Entry

/-- A world with a record of what was done to it. -/
structure Recorded (σ : Type) where
  world : σ
  /-- The links that were handed out, oldest first. -/
  links : List LinkId := []
  /-- The mode that each link was last asked for. -/
  asked : LinkId → ReadMode := fun _ => .poll
  log : List Entry := []

namespace Recorded

variable {σ α : Type}

/-- The link of the world that was handed out as number `k`. -/
def target (s : Recorded σ) (k : LinkId) : LinkId :=
  s.links[k]?.getD k

/-- Lets an operation act on the world and logs what came of it. -/
def note (events : Option α → List Entry) (act : EStateM Fault σ α) :
    EStateM Fault (Recorded σ) α := fun s =>
  match act s.world with
  | .ok a w => .ok a { s with world := w, log := s.log ++ events (some a) }
  | .error f w => .error f { s with world := w, log := s.log ++ events none }

/-- The link `k` is asked for a mode. -/
def ask (s : Recorded σ) (k : LinkId) (mode : ReadMode) : Recorded σ :=
  { s with asked := fun j => if j = k then mode else s.asked j }

/-- All bytes polled from the link `k`. -/
def polled (s : Recorded σ) (k : LinkId) : Bytes :=
  s.log.flatMap (Entry.polled k)

/-- All bytes passed through. -/
def shown (s : Recorded σ) : Bytes :=
  s.log.flatMap Entry.passed

/-- How often the link `k` was asked for blocking mode. -/
def turns (s : Recorded σ) (k : LinkId) : Nat :=
  s.log.count (.asked k .blocking)

/-- What `note` does, by what the operation does. -/
theorem note_ok {events : Option α → List Entry} {act : EStateM Fault σ α}
    {s t : Recorded σ} {a : α} (h : note events act s = .ok a t) :
    ∃ w, act s.world = .ok a w ∧ t = { s with world := w, log := s.log ++ events (some a) } := by
  unfold note at h
  split at h <;> cases h
  exact ⟨_, ‹_›, rfl⟩

theorem note_error {events : Option α → List Entry} {act : EStateM Fault σ α} {s t : Recorded σ}
    {f : Fault} (h : note events act s = .error f t) :
    ∃ w, act s.world = .error f w ∧ t = { s with world := w, log := s.log ++ events none } := by
  unfold note at h
  split at h <;> cases h
  exact ⟨_, ‹_›, rfl⟩

/-- A relation between worlds, of their records. -/
def Rel (R : σ → σ → Prop) (s t : Recorded σ) : Prop :=
  R s.world t.world

theorem note_moves {R : σ → σ → Prop} {events : Option α → List Entry} {act : EStateM Fault σ α}
    (h : Moves R act) : Moves (Rel R) (note events act) := by
  intro s
  have := h s.world
  unfold note Rel
  cases hAct : act s.world <;> simpa [hAct] using this

/-! ## Links and sinks -/

/-- The link that was handed out as number `k`. -/
def link (host : Host σ) (k : LinkId) : Link (Recorded σ) where
  read := fun n s =>
    note (fun bs => [.read k (s.asked k) (bs.getD [])]) ((host.link (s.target k)).read n) s
  write := fun bs s =>
    note (fun n => [.wrote k (bs.take (n.getD 0))]) ((host.link (s.target k)).write bs) s
  flush := fun s => note (fun _ => [.flushed k]) (host.link (s.target k)).flush s
  setMode := fun mode s =>
    note (fun _ => [.asked k mode]) ((host.link (s.target k)).setMode mode) (s.ask k mode)
  readPatience := fun s => (host.link (s.target k)).readPatience s.world
  writePatience := fun s => (host.link (s.target k)).writePatience s.world
  read_length_le := fun h => by
    obtain ⟨w, hw, -⟩ := note_ok h
    exact (host.link _).read_length_le hw
  read_interrupted := fun h hf => by
    obtain ⟨w, hw, rfl⟩ := note_error h
    exact (host.link _).read_interrupted hw hf
  write_le_length := fun h => by
    obtain ⟨w, hw, -⟩ := note_ok h
    exact (host.link _).write_le_length hw
  write_interrupted := fun h hf => by
    obtain ⟨w, hw, rfl⟩ := note_error h
    exact (host.link _).write_interrupted hw hf

def sink (host : Host σ) : Sink (Recorded σ) where
  write := fun bs => note (fun n => [.shown (bs.take (n.getD 0))]) (host.sink.write bs)
  flush := note (fun _ => []) host.sink.flush
  writePatience := fun s => host.sink.writePatience s.world
  write_le_length := fun h => by
    obtain ⟨w, hw, -⟩ := note_ok h
    exact host.sink.write_le_length hw
  write_interrupted := fun h hf => by
    obtain ⟨w, hw, rfl⟩ := note_error h
    exact host.sink.write_interrupted hw hf

section

variable (host : Host σ) (k : LinkId) (s : Recorded σ)

theorem link_read (n : Nat) : (link host k).read n s =
    note (fun bs => [.read k (s.asked k) (bs.getD [])]) ((host.link (s.target k)).read n) s := rfl

theorem link_write (bs : Bytes) : (link host k).write bs s =
    note (fun n => [.wrote k (bs.take (n.getD 0))]) ((host.link (s.target k)).write bs) s := rfl

theorem link_flush : (link host k).flush s =
    note (fun _ => [.flushed k]) (host.link (s.target k)).flush s := rfl

theorem link_setMode (mode : ReadMode) : (link host k).setMode mode s =
    note (fun _ => [.asked k mode]) ((host.link (s.target k)).setMode mode) (s.ask k mode) := rfl

theorem sink_write (bs : Bytes) :
    (sink host).write bs s =
      note (fun n => [.shown (bs.take (n.getD 0))]) (host.sink.write bs) s := rfl

theorem sink_flush : (sink host).flush s = note (fun _ => []) host.sink.flush s := rfl

end

/-- What every link of the host keeps, every recorded link keeps. -/
theorem link_keeps {host : Host σ} {R : σ → σ → Prop} (h : ∀ id, (host.link id).Keeps R)
    (k : LinkId) : (link host k).Keeps (Rel R) where
  read n s := by
    rw [link_read]
    exact note_moves ((h _).read n) s
  write bs s := by
    rw [link_write]
    exact note_moves ((h _).write bs) s
  flush s := by
    rw [link_flush]
    exact note_moves (h _).flush s
  setMode mode s := by
    rw [link_setMode]
    exact note_moves ((h _).setMode mode) (s.ask k mode)

theorem sink_keeps {host : Host σ} {R : σ → σ → Prop} (h : host.sink.Keeps R) :
    (sink host).Keeps (Rel R) where
  write bs s := by
    rw [sink_write]
    exact note_moves (h.write bs) s
  flush s := by
    rw [sink_flush]
    exact note_moves h.flush s

/-- An attempt to open a link. It gets the next number. -/
def tryOpen (host : Host σ) : EStateM Fault (Recorded σ) LinkId := fun s =>
  match host.tryOpen s.world with
  | .ok id w => .ok s.links.length { s with world := w, links := s.links ++ [id] }
  | .error f w => .error f { s with world := w }

theorem tryOpen_world (host : Host σ) (s : Recorded σ) :
    (endState (tryOpen host s)).world = endState (host.tryOpen s.world) := by
  unfold tryOpen
  cases host.tryOpen s.world <;> rfl

/-! ## What a record tells -/

/-- From `s` to `t` nothing but the link `k` and the sink was used. -/
def Serves (k : LinkId) (s t : Recorded σ) : Prop :=
  t.links = s.links ∧ ∃ new, t.log = s.log ++ new ∧ ∀ e ∈ new, ∀ j, e.link? = some j → j = k

theorem serves_durable (k : LinkId) : Durable (@Serves σ k) where
  refl s := ⟨rfl, [], by simp, by simp⟩
  trans := by
    rintro s t u ⟨hLinks, new, hLog, hNew⟩ ⟨hLinks', new', hLog', hNew'⟩
    refine ⟨hLinks'.trans hLinks, new ++ new', by rw [hLog', hLog, List.append_assoc], ?_⟩
    intro e he
    rcases List.mem_append.mp he with he | he
    · exact hNew e he
    · exact hNew' e he

theorem note_serves {k : LinkId} {events : Option α → List Entry}
    (hEvents : ∀ r, ∀ e ∈ events r, ∀ j, e.link? = some j → j = k) (act : EStateM Fault σ α) :
    Moves (Serves k) (note events act) := by
  intro s
  unfold note
  cases act s.world with
  | ok a w => exact ⟨rfl, _, rfl, hEvents _⟩
  | error f w => exact ⟨rfl, _, rfl, hEvents _⟩

theorem link_serves (host : Host σ) (k : LinkId) : (link host k).Keeps (Serves k) where
  read n s := by
    rw [link_read]
    exact note_serves (by simp [Entry.link?]) _ s
  write bs s := by
    rw [link_write]
    exact note_serves (by simp [Entry.link?]) _ s
  flush s := by
    rw [link_flush]
    exact note_serves (by simp [Entry.link?]) _ s
  setMode mode s := by
    rw [link_setMode]
    exact note_serves (by simp [Entry.link?]) _ (s.ask k mode)

theorem sink_serves (host : Host σ) (k : LinkId) : (sink host).Keeps (Serves k) where
  write bs s := by
    rw [sink_write]
    exact note_serves (by simp [Entry.link?]) _ s
  flush s := by
    rw [sink_flush]
    exact note_serves (by simp) _ s

/-- From `s` to `t` the record tells that `polled` was polled from the link `k`, that
`passed` was passed through, and that the link was asked for blocking mode `turns` times.
Other links were left alone. -/
structure Tells (k : LinkId) (polled passed : Bytes) (turns : Nat) (s t : Recorded σ) : Prop where
  links : t.links = s.links
  polled : ∀ j, t.polled j = s.polled j ++ if j = k then polled else []
  shown : t.shown = s.shown ++ passed
  turns : ∀ j, t.turns j = s.turns j + if j = k then turns else 0

theorem Tells.refl (k : LinkId) (s : Recorded σ) : Tells k [] [] 0 s s where
  links := rfl
  polled j := by simp
  shown := by simp
  turns j := by simp

theorem Tells.trans {k : LinkId} {polled polled' passed passed' : Bytes} {turns turns' : Nat}
    {s t u : Recorded σ} (h : Tells k polled passed turns s t)
    (h' : Tells k polled' passed' turns' t u) :
    Tells k (polled ++ polled') (passed ++ passed') (turns + turns') s u where
  links := h'.links.trans h.links
  polled j := by
    rw [h'.polled, h.polled]
    split <;> simp
  shown := by rw [h'.shown, h.shown, List.append_assoc]
  turns j := by
    rw [h'.turns, h.turns]
    split <;> omega

/-- What a single entry tells. -/
theorem tells_entry {k : LinkId} {e : Entry} (he : ∀ j, e.link? = some j → j = k) {s t : Recorded σ}
    (hLinks : t.links = s.links) (hLog : t.log = s.log ++ [e]) :
    Tells k (e.polled k) e.passed ([e].count (.asked k .blocking)) s t where
  links := hLinks
  polled j := by
    unfold Recorded.polled
    rw [hLog, List.flatMap_append, List.flatMap_singleton]
    split
    · subst j
      rfl
    · rename_i hj
      cases e with
      | read i mode bs =>
        have hi : i = k := he i rfl
        cases mode <;> simp [Entry.polled, hi, Ne.symm hj]
      | _ => rfl
  shown := by
    unfold Recorded.shown
    rw [hLog, List.flatMap_append, List.flatMap_singleton]
  turns j := by
    unfold Recorded.turns
    rw [hLog, List.count_append]
    split
    · subst j
      rfl
    · rename_i hj
      have hNot : e ≠ .asked j .blocking := by
        rintro rfl
        exact hj (he j rfl)
      simp [hNot]

/-- From `s` to `t` nothing was polled from the link `k`, nothing passed through, and no mode asked
for. -/
def Quiet (k : LinkId) (s t : Recorded σ) : Prop :=
  Tells k [] [] 0 s t ∧ t.asked = s.asked

theorem quiet_durable (k : LinkId) : Durable (@Quiet σ k) :=
  ⟨fun s => ⟨Tells.refl k s, rfl⟩, fun h h' => ⟨h.1.trans h'.1, h'.2.trans h.2⟩⟩

theorem note_quiet {k : LinkId} {events : Option α → List Entry}
    (hEvents : ∀ r, ∃ e, events r = [e] ∧ (∀ j, e.link? = some j → j = k) ∧ e.polled k = [] ∧
      e.passed = [] ∧
      e ≠ .asked k .blocking) (act : EStateM Fault σ α) : Moves (Quiet k) (note events act) := by
  have key : ∀ r w (s : Recorded σ), Quiet k s { s with world := w, log := s.log ++ events r } := by
    intro r w s
    obtain ⟨e, hEntry, hLink, hPolled, hPassed, hMode⟩ := hEvents r
    have hTells : Tells k (e.polled k) e.passed ([e].count (.asked k .blocking)) s
        { s with world := w, log := s.log ++ events r } := tells_entry hLink rfl (by rw [hEntry])
    rw [hPolled, hPassed, List.count_singleton, if_neg (by simpa using hMode)] at hTells
    exact ⟨hTells, rfl⟩
  intro s
  unfold note
  cases act s.world with
  | ok a w => exact key _ w s
  | error f w => exact key _ w s

theorem link_write_quiet (host : Host σ) (k : LinkId) (bs : Bytes) :
    Moves (Quiet k) ((link host k).write bs) := by
  intro s
  rw [link_write]
  exact note_quiet (fun r => ⟨_, rfl, by simp [Entry.link?], rfl, rfl, by simp⟩) _ s

theorem link_flush_quiet (host : Host σ) (k : LinkId) : Moves (Quiet k) (link host k).flush := by
  intro s
  rw [link_flush]
  exact note_quiet (fun r => ⟨_, rfl, by simp [Entry.link?], rfl, rfl, by simp⟩) _ s

/-- A read in blocking mode is no poll. -/
theorem link_read_quiet (host : Host σ) {k : LinkId} {s : Recorded σ}
    (hMode : s.asked k = .blocking) (n : Nat) : Quiet k s (endState ((link host k).read n s)) := by
  rw [link_read, hMode]
  exact note_quiet (fun r => ⟨_, rfl, by simp [Entry.link?], rfl, rfl, by simp⟩) _ s

theorem link_read_polls (host : Host σ) {k : LinkId} {s t : Recorded σ} {n : Nat} {bs : Bytes}
    (hMode : s.asked k = .poll) (h : (link host k).read n s = .ok bs t) :
    Tells k bs [] 0 s t ∧ t.asked = s.asked := by
  rw [link_read, hMode] at h
  obtain ⟨w, -, rfl⟩ := note_ok h
  have hTells : Tells k ((Entry.read k .poll bs).polled k) [] 0 s
      { s with world := w, log := s.log ++ [.read k .poll bs] } :=
    tells_entry (by simp [Entry.link?]) rfl rfl
  rw [Entry.polled, if_pos rfl] at hTells
  exact ⟨hTells, rfl⟩

theorem link_read_fails (host : Host σ) {k : LinkId} {s t : Recorded σ} {n : Nat} {f : Fault}
    (hMode : s.asked k = .poll) (h : (link host k).read n s = .error f t) : Quiet k s t := by
  rw [link_read, hMode] at h
  obtain ⟨w, -, rfl⟩ := note_error h
  have hTells : Tells k ((Entry.read k .poll []).polled k) [] 0 s
      { s with world := w, log := s.log ++ [.read k .poll []] } :=
    tells_entry (by simp [Entry.link?]) rfl rfl
  rw [Entry.polled, if_pos rfl] at hTells
  exact ⟨hTells, rfl⟩

/-- A switch of mode is one turn if it is a switch to blocking mode. -/
theorem link_setMode_tells (host : Host σ) (k : LinkId) (mode : ReadMode) (s : Recorded σ) :
    Tells k [] [] (if mode = .blocking then 1 else 0) s (endState ((link host k).setMode mode s)) ∧
      (endState ((link host k).setMode mode s)).asked k = mode := by
  have key : ∀ w, Tells k [] [] (if mode = .blocking then 1 else 0) s
      { s.ask k mode with world := w, log := s.log ++ [.asked k mode] } := by
    intro w
    have hTells : Tells k [] [] ([Entry.asked k mode].count (.asked k .blocking)) s
        { s.ask k mode with world := w, log := s.log ++ [.asked k mode] } :=
      tells_entry (e := .asked k mode) (by simp [Entry.link?]) rfl rfl
    cases mode with
    | poll => simpa using hTells
    | blocking => simpa using hTells
  have hAsked : (s.ask k mode).asked k = mode := if_pos rfl
  cases hRun : (link host k).setMode mode s with
  | ok a t =>
    rw [link_setMode] at hRun
    obtain ⟨w, -, rfl⟩ := note_ok hRun
    exact ⟨key w, hAsked⟩
  | error f t =>
    rw [link_setMode] at hRun
    obtain ⟨w, -, rfl⟩ := note_error hRun
    exact ⟨key w, hAsked⟩

theorem sink_write_tells (host : Host σ) (k : LinkId) {s t : Recorded σ} {bs : Bytes} {n : Nat}
    (h : (sink host).write bs s = .ok n t) : Tells k [] (bs.take n) 0 s t ∧ t.asked = s.asked := by
  rw [sink_write] at h
  obtain ⟨w, -, rfl⟩ := note_ok h
  exact ⟨tells_entry (e := .shown (bs.take n)) (by simp [Entry.link?]) rfl rfl, rfl⟩

theorem sink_write_fails (host : Host σ) (k : LinkId) {s t : Recorded σ} {bs : Bytes} {f : Fault}
    (h : (sink host).write bs s = .error f t) : Quiet k s t := by
  rw [sink_write] at h
  obtain ⟨w, -, rfl⟩ := note_error h
  exact ⟨tells_entry (e := .shown []) (by simp [Entry.link?]) rfl rfl, rfl⟩

/-- A full write that succeeds passes all its bytes through. -/
theorem sink_writeAll_tells (host : Host σ) (k : LinkId) {s t : Recorded σ} {bs : Bytes}
    (h : (sink host).writeAll bs s = .ok () t) : Tells k [] bs 0 s t ∧ t.asked = s.asked := by
  fun_induction Sink.writeAll (sink host) bs s with
  | case1 s =>
    cases h
    exact (quiet_durable k).refl _
  | case2 => cases h
  | case3 s b rest n u hw ih =>
    obtain ⟨hFirst, hAsked⟩ := sink_write_tells host k hw
    obtain ⟨hLater, hAsked'⟩ := ih h
    have hAll := hFirst.trans hLater
    rw [List.take_succ_cons, List.cons_append, List.take_append_drop] at hAll
    exact ⟨hAll, hAsked'.trans hAsked⟩
  | case4 s b rest f u hw hf ih =>
    obtain ⟨hFirst, hAsked⟩ := sink_write_fails host k hw
    obtain ⟨hLater, hAsked'⟩ := ih h
    exact ⟨hFirst.trans hLater, hAsked'.trans hAsked⟩
  | case5 => cases h

theorem sink_flush_quiet (host : Host σ) (k : LinkId) : Moves (Quiet k) (sink host).flush := by
  have key : ∀ w (s : Recorded σ), Quiet k s { s with world := w, log := s.log ++ [] } := by
    intro w s
    rw [List.append_nil]
    exact ⟨⟨rfl, fun j => by simp [polled], by simp [shown], fun j => by simp [turns]⟩, rfl⟩
  intro s
  rw [sink_flush]
  unfold note
  cases host.sink.flush s.world with
  | ok a w => exact key w s
  | error f w => exact key w s

end Recorded

/-- The host with a record of what is done to it. -/
def Host.recorded {σ : Type} (host : Host σ) : Host (Recorded σ) where
  link := Recorded.link host
  sink := Recorded.sink host
  tryOpen := Recorded.tryOpen host
  stopped := fun s => host.stopped s.world
  clock := fun s => host.clock s.world
  pause := fun ms s => { s with world := host.pause ms s.world }
  budget := fun s => host.budget s.world
  link_keeps := Recorded.link_keeps host.link_keeps
  sink_keeps := Recorded.sink_keeps host.sink_keeps
  tryOpen_later := fun s => by
    show Later host.stopped host.budget s.world _
    rw [Recorded.tryOpen_world]
    exact host.tryOpen_later s.world
  pause_later := fun ms s => host.pause_later ms s.world
  tryOpen_spends := fun s => by
    show host.stopped _ = true ∨ host.budget _ < _
    rw [Recorded.tryOpen_world]
    exact host.tryOpen_spends s.world

/-! ## Opening links -/

namespace Recorded

variable {σ : Type}

/-- From `s` to `t` links were handed out, each was asked for poll mode once, and nothing else
happened. -/
def Opens (s t : Recorded σ) : Prop :=
  s.links.length ≤ t.links.length ∧
    t.log = s.log ++
      (List.range' s.links.length (t.links.length - s.links.length)).map (.asked · .poll)

theorem opens_world (s : Recorded σ) (w : σ) : Opens s { s with world := w } :=
  ⟨Nat.le_refl _, by simp⟩

theorem opens_durable : Durable (@Opens σ) where
  refl s := opens_world s s.world
  trans := by
    rintro s t u ⟨hLength, hLog⟩ ⟨hLength', hLog'⟩
    refine ⟨Nat.le_trans hLength hLength', ?_⟩
    obtain ⟨n, hn⟩ := Nat.exists_eq_add_of_le hLength
    obtain ⟨m, hm⟩ := Nat.exists_eq_add_of_le hLength'
    have hSum : u.links.length - s.links.length = n + m := by omega
    rw [hLog', hLog, hSum, hm, hn, Nat.add_sub_cancel_left, Nat.add_sub_cancel_left,
      List.append_assoc, ← List.map_append, List.range'_append_1]

variable {host : Host σ}

theorem tryOpen_ok {s : Recorded σ} {w : σ} {id : LinkId} (h : host.tryOpen s.world = .ok id w) :
    host.recorded.tryOpen s =
      .ok s.links.length { s with world := w, links := s.links ++ [id] } := by
  show tryOpen host s = _
  simp only [tryOpen, h]

theorem tryOpen_error {s : Recorded σ} {w : σ} {f : Fault} (h : host.tryOpen s.world = .error f w) :
    host.recorded.tryOpen s = .error f { s with world := w } := by
  show tryOpen host s = _
  simp only [tryOpen, h]

/-- A link is handed out, asked for poll mode, and handed over if it takes it. -/
theorem openLink_cases (s : Recorded σ) :
    (∃ f w, host.recorded.openLink s = .error f { s with world := w }) ∨
      ∃ t, Opens s t ∧ t.links.length = s.links.length + 1 ∧ t.asked s.links.length = .poll ∧
        ((∃ f, host.recorded.openLink s = .error f t) ∨
          host.recorded.openLink s = .ok s.links.length t) := by
  unfold Host.openLink
  cases hTry : host.tryOpen s.world with
  | error f w => exact Or.inl ⟨f, w, by simp only [tryOpen_error hTry]⟩
  | ok id w =>
    let handed : Recorded σ := { s with world := w, links := s.links ++ [id] }
    have hRecorded : host.recorded.tryOpen s = .ok s.links.length handed := tryOpen_ok hTry
    have hLength : handed.links.length = s.links.length + 1 := by simp [handed]
    have key : ∀ v, Opens s { handed.ask s.links.length .poll with
        world := v, log := handed.log ++ [.asked s.links.length .poll] } := by
      intro v
      refine ⟨?_, ?_⟩
      · show s.links.length ≤ handed.links.length
        omega
      · show handed.log ++ _ = s.log ++ List.map _ (List.range' _ (handed.links.length - _))
        rw [hLength, Nat.add_sub_cancel_left]
        rfl
    refine Or.inr ?_
    simp only [hRecorded]
    cases hMode : (link host s.links.length).setMode .poll handed with
    | error f t =>
      have hMode' : (host.recorded.link s.links.length).setMode .poll handed = .error f t := hMode
      rw [link_setMode] at hMode
      obtain ⟨v, -, rfl⟩ := note_error hMode
      exact ⟨_, key v, hLength, if_pos rfl, Or.inl ⟨f, by simp only [hMode']; rfl⟩⟩
    | ok u t =>
      have hMode' : (host.recorded.link s.links.length).setMode .poll handed = .ok u t := hMode
      rw [link_setMode] at hMode
      obtain ⟨v, -, rfl⟩ := note_ok hMode
      exact ⟨_, key v, hLength, if_pos rfl, Or.inr (by simp only [hMode']; rfl)⟩

theorem openLink_opens : Moves Opens host.recorded.openLink := by
  intro s
  rcases openLink_cases s with ⟨f, w, hRun⟩ | ⟨t, hOpens, -, -, ⟨f, hRun⟩ | hRun⟩
  · rw [hRun]
    exact opens_world s w
  · rw [hRun]
    exact hOpens
  · rw [hRun]
    exact hOpens

/-- Waiting leaves the record alone. -/
theorem sleep_world (ms : Nat) (s : Recorded σ) :
    ∃ w, (host.recorded.sleep ms s).2 = { s with world := w } := by
  rcases host.recorded.sleep_cases ms s with h | h
  · exact ⟨s.world, h⟩
  · exact ⟨host.pause ms s.world, h⟩

theorem sleep_opens (ms : Nat) (s : Recorded σ) : Opens s (host.recorded.sleep ms s).2 := by
  obtain ⟨w, hw⟩ := @sleep_world σ host ms s
  rw [hw]
  exact opens_world s w

theorem awaitLink_opens (retryDelay : Nat) : Moves Opens (host.recorded.awaitLink retryDelay) :=
  Host.awaitLink_moves opens_durable (fun s _ => openLink_opens s) sleep_opens retryDelay

/-- The link that is handed over is the last one that was handed out, it is in poll mode, and it is
new. -/
theorem awaitLink_newest {retryDelay : Nat} {s t : Recorded σ} {k : LinkId}
    (h : host.recorded.awaitLink retryDelay s = .ok k t) :
    t.links.length = k + 1 ∧ t.asked k = .poll ∧ s.links.length ≤ k := by
  obtain ⟨u, hBefore, hOpen⟩ := Host.awaitLink_ok opens_durable openLink_opens sleep_opens h
  rcases openLink_cases u with ⟨f, w, hRun⟩ | ⟨t', -, hLength, hMode, ⟨f, hRun⟩ | hRun⟩
  · cases hRun.symm.trans hOpen
  · cases hRun.symm.trans hOpen
  · cases hRun.symm.trans hOpen
    exact ⟨hLength, hMode, hBefore.1⟩

theorem Opens.polled {s t : Recorded σ} (h : Opens s t) (k : LinkId) : t.polled k = s.polled k := by
  unfold Recorded.polled
  rw [h.2, List.flatMap_append, List.flatMap_map]
  simp [Entry.polled]

theorem Opens.shown {s t : Recorded σ} (h : Opens s t) : t.shown = s.shown := by
  unfold Recorded.shown
  rw [h.2, List.flatMap_append, List.flatMap_map]
  simp [Entry.passed]

theorem Opens.turns {s t : Recorded σ} (h : Opens s t) (k : LinkId) : t.turns k = s.turns k := by
  unfold Recorded.turns
  rw [h.2, List.count_append]
  simp [List.count_eq_zero]

end Recorded

end MemoryBridge
