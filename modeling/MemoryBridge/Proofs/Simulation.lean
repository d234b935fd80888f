import MemoryBridge.Session.Pump

/-!
# Runs that follow each other

Serving the device touches the world only through full reads, skips, full writes, flushes and
switches of mode. So when these operations of one link follow those of another, that is, lead from
related worlds to related worlds with the same answer or the same fault, then every command, every
byte and every pump does: `dispatch_follows`, `processByte_follows`, `pump_follows`.

Nothing is asked of single reads and writes. How many of them make up a full read or a
full write may differ.
-/

namespace MemoryBridge

variable {ε σ τ α β : Type}

/-- Two runs end alike: in related states, with the same answer or the same failure. -/
inductive Alike (R : σ → τ → Prop) : EStateM.Result ε σ α → EStateM.Result ε τ α → Prop
  | ok {a : α} {s : σ} {t : τ} (h : R s t) : Alike R (.ok a s) (.ok a t)
  | error {e : ε} {s : σ} {t : τ} (h : R s t) : Alike R (.error e s) (.error e t)

theorem Alike.ends {R : σ → τ → Prop} {r : EStateM.Result ε σ α} {r' : EStateM.Result ε τ α}
    (h : Alike R r r') : R (endState r) (endState r') := by
  cases h with
  | ok h => exact h
  | error h => exact h

/-- Three runs of which each ends like the next one. -/
theorem Alike.comp {υ : Type} {R : σ → τ → Prop} {S : τ → υ → Prop} {T : σ → υ → Prop}
    {r : EStateM.Result ε σ α} {r' : EStateM.Result ε τ α} {r'' : EStateM.Result ε υ α}
    (h : Alike R r r') (h' : Alike S r' r'') (hT : ∀ {s t u}, R s t → S t u → T s u) :
    Alike T r r'' := by
  cases h with
  | ok h =>
    cases h' with
    | ok h' => exact .ok (hT h h')
  | error h =>
    cases h' with
    | error h' => exact .error (hT h h')

/-- From related states, `act` and `other` end alike. -/
def Follows (R : σ → τ → Prop) (act : EStateM ε σ α) (other : EStateM ε τ α) : Prop :=
  ∀ s t, R s t → Alike R (act s) (other t)

theorem Follows.of_ok {R : σ → τ → Prop} {act : EStateM ε σ α} {other : EStateM ε τ α}
    (h : Follows R act other) {s s' : σ} {t : τ} {a : α} (hst : R s t) (hRun : act s = .ok a s') :
    ∃ t', other t = .ok a t' ∧ R s' t' := by
  have hRuns := h s t hst
  rw [hRun] at hRuns
  generalize other t = r at hRuns
  cases hRuns with
  | ok h' => exact ⟨_, rfl, h'⟩

theorem Follows.of_error {R : σ → τ → Prop} {act : EStateM ε σ α} {other : EStateM ε τ α}
    (h : Follows R act other) {s s' : σ} {t : τ} {e : ε} (hst : R s t)
    (hRun : act s = .error e s') : ∃ t', other t = .error e t' ∧ R s' t' := by
  have hRuns := h s t hst
  rw [hRun] at hRuns
  generalize other t = r at hRuns
  cases hRuns with
  | error h' => exact ⟨_, rfl, h'⟩

namespace Follows

variable {R : σ → τ → Prop}

theorem pure (a : α) : Follows R (Pure.pure a : EStateM ε σ α) (Pure.pure a) :=
  fun _ _ h => .ok h

theorem throw (e : ε) : Follows R (MonadExcept.throw e : EStateM ε σ α) (MonadExcept.throw e) :=
  fun _ _ h => .error h

theorem bind {act : EStateM ε σ α} {other : EStateM ε τ α} {next : α → EStateM ε σ β}
    {otherNext : α → EStateM ε τ β} (hAct : Follows R act other)
    (hNext : ∀ a, Follows R (next a) (otherNext a)) :
    Follows R (act >>= next) (other >>= otherNext) := by
  intro s t h
  show Alike R (EStateM.bind act next s) (EStateM.bind other otherNext t)
  unfold EStateM.bind
  have hRuns := hAct s t h
  generalize act s = r, other t = r' at hRuns
  cases hRuns with
  | ok h' => exact hNext _ _ _ h'
  | error h' => exact .error h'

theorem map {act : EStateM ε σ α} {other : EStateM ε τ α} (f : α → β) (hAct : Follows R act other) :
    Follows R (f <$> act) (f <$> other) := by
  intro s t h
  show Alike R (EStateM.map f act s) (EStateM.map f other t)
  unfold EStateM.map
  have hRuns := hAct s t h
  generalize act s = r, other t = r' at hRuns
  cases hRuns with
  | ok h' => exact .ok h'
  | error h' => exact .error h'

end Follows

/-! ## Links, sinks and supplies -/

/-- The operations of `link` that serving uses follow those of `other`. -/
structure Link.Follows (R : σ → τ → Prop) (link : Link σ) (other : Link τ) : Prop where
  readExact : ∀ n, MemoryBridge.Follows R (link.readExact n) (other.readExact n)
  discard : ∀ n, MemoryBridge.Follows R (link.discard n) (other.discard n)
  writeAll : ∀ bs, MemoryBridge.Follows R (link.writeAll bs) (other.writeAll bs)
  flush : MemoryBridge.Follows R link.flush other.flush
  setMode : ∀ mode, MemoryBridge.Follows R (link.setMode mode) (other.setMode mode)

/-- The operations of `sink` that serving uses follow those of `other`. -/
structure Sink.Follows (R : σ → τ → Prop) (sink : Sink σ) (other : Sink τ) : Prop where
  writeAll : ∀ bs, MemoryBridge.Follows R (sink.writeAll bs) (other.writeAll bs)
  flush : MemoryBridge.Follows R sink.flush other.flush

/-- `supply` follows `other` and has something left whenever `other` has. -/
structure Supply.Follows (R : σ → τ → Prop) (supply : Supply σ) (other : Supply τ) : Prop where
  link : supply.link.Follows R other.link
  sink : supply.sink.Follows R other.sink
  more : ∀ {s t}, R s t → supply.more s = other.more t

/-- The same session in related worlds. -/
def SameSession (R : σ → τ → Prop) (a : Serving σ) (b : Serving τ) : Prop :=
  a.session = b.session ∧ R a.world b.world

namespace Serve

variable {R : σ → τ → Prop}

theorem onWorld_follows {wrap : Fault → ServeError} {act : EStateM Fault σ α}
    {other : EStateM Fault τ α} (h : Follows R act other) :
    Follows (SameSession R) (onWorld wrap act) (onWorld wrap other) := by
  intro a b hab
  have hRuns := h _ _ hab.2
  unfold onWorld
  generalize act a.world = r, other b.world = r' at hRuns
  cases hRuns with
  | ok h' => exact .ok ⟨hab.1, h'⟩
  | error h' => exact .error ⟨hab.1, h'⟩

theorem onLink_follows {act : EStateM Fault σ α} {other : EStateM Fault τ α}
    (h : Follows R act other) : Follows (SameSession R) (onLink act) (onLink other) :=
  onWorld_follows h

theorem onSink_follows {act : EStateM Fault σ α} {other : EStateM Fault τ α}
    (h : Follows R act other) : Follows (SameSession R) (onSink act) (onSink other) :=
  onWorld_follows h

theorem session_follows : Follows (SameSession R) (session : Serve σ Session) session := by
  intro a b hab
  unfold session
  rw [hab.1]
  exact .ok hab

theorem update_follows (f : Session → Session) :
    Follows (SameSession R) (update f : Serve σ Unit) (update f) :=
  fun _ _ hab => .ok ⟨congrArg f hab.1, hab.2⟩

theorem check_follows {ε' : Type} (wrap : ε' → ServeError) (r : Except ε' α) :
    Follows (SameSession R) (check wrap r : Serve σ α) (check wrap r) := by
  cases r with
  | ok a => exact Follows.pure a
  | error e => exact Follows.throw (wrap e)

theorem bracket_follows {link : Link σ} {other : Link τ} (hLink : link.Follows R other)
    {body : Serve σ α} {otherBody : Serve τ α} (hBody : Follows (SameSession R) body otherBody) :
    Follows (SameSession R) (bracket link body) (bracket other otherBody) := by
  have hLeave : ∀ {s t}, R s t → R (link.leaveBlocking s) (other.leaveBlocking t) := by
    intro s t h
    have hRuns := hLink.setMode .poll _ _ h
    unfold Link.leaveBlocking
    generalize link.setMode .poll s = r, other.setMode .poll t = r' at hRuns
    cases hRuns with
    | ok h' => exact h'
    | error h' => exact h'
  intro a b hab
  have hEnter := onLink_follows (hLink.setMode .blocking) _ _ hab
  unfold bracket Link.enterBlocking
  generalize onLink (link.setMode .blocking) a = r,
    onLink (other.setMode .blocking) b = r' at hEnter
  cases hEnter with
  | error h' => exact .error h'
  | @ok u c d h' =>
    have hRuns := hBody _ _ h'
    simp only
    generalize body c = r, otherBody d = r' at hRuns
    cases hRuns with
    | ok h'' => exact .ok ⟨h''.1, hLeave h''.2⟩
    | error h'' => exact .error ⟨h''.1, hLeave h''.2⟩

end Serve

namespace Session

open Serve

variable {R : σ → τ → Prop}

theorem toExcept_of_alike {r : EStateM.Result ε σ α} {r' : EStateM.Result ε τ α}
    (h : Alike R r r') : toExcept r = toExcept r' := by
  cases h with
  | ok h => rfl
  | error h => rfl

/-! ## Commands -/

section Commands

variable {link : Link σ} {other : Link τ} (hLink : link.Follows R other)

include hLink

theorem readInt_follows : Follows (SameSession R) (onLink (Wire.readInt link.toSource))
    (onLink (Wire.readInt other.toSource)) :=
  onLink_follows (Follows.map _ (hLink.readExact _))

theorem writeInt_follows (v : Int32) :
    Follows (SameSession R) (onLink (Wire.writeInt link.toSink v))
    (onLink (Wire.writeInt other.toSink v)) :=
  onLink_follows (hLink.writeAll _)

theorem handleInit_follows : Follows (SameSession R) (handleInit link) (handleInit other) := by
  refine Follows.bind (update_follows _) fun _ => ?_
  refine Follows.bind session_follows fun s => ?_
  split
  · exact onLink_follows (hLink.writeAll _)
  · exact Follows.pure _

theorem handleInitPool_follows :
    Follows (SameSession R) (handleInitPool link) (handleInitPool other) := by
  refine Follows.bind (readInt_follows hLink) fun size => ?_
  refine Follows.bind session_follows fun s => ?_
  split
  · split
    · exact update_follows _
    · exact Follows.throw _
  · exact update_follows _

theorem handleRead_follows : Follows (SameSession R) (handleRead link) (handleRead other) := by
  refine Follows.bind (readInt_follows hLink) fun index => ?_
  refine Follows.bind (readInt_follows hLink) fun size => ?_
  refine Follows.bind session_follows fun s => ?_
  split
  · exact update_follows _
  · exact Follows.bind (check_follows _ _) fun data => onLink_follows (hLink.writeAll data)

theorem handleWrite_follows : Follows (SameSession R) (handleWrite link) (handleWrite other) := by
  refine Follows.bind (readInt_follows hLink) fun index => ?_
  refine Follows.bind (readInt_follows hLink) fun size => ?_
  refine Follows.bind session_follows fun s => ?_
  split
  · exact Follows.bind (update_follows _) fun _ => onLink_follows (hLink.discard _)
  · refine Follows.bind (check_follows _ _) fun range => ?_
    refine Follows.bind (onLink_follows (hLink.readExact _)) fun data => ?_
    exact Follows.bind (check_follows _ _) fun written => update_follows _

theorem handleInputAvailable_follows :
    Follows (SameSession R) (handleInputAvailable link) (handleInputAvailable other) :=
  Follows.bind session_follows fun _ => writeInt_follows hLink _

theorem handleInputRequest_follows :
    Follows (SameSession R) (handleInputRequest link) (handleInputRequest other) := by
  refine Follows.bind (readInt_follows hLink) fun requested => ?_
  refine Follows.bind session_follows fun s => ?_
  refine Follows.bind (update_follows _) fun _ => ?_
  exact Follows.bind (writeInt_follows hLink _) fun _ => onLink_follows (hLink.writeAll _)

theorem handleInputPeek_follows :
    Follows (SameSession R) (handleInputPeek link) (handleInputPeek other) := by
  refine Follows.bind session_follows fun s => ?_
  split <;> exact onLink_follows (hLink.writeAll _)

theorem handlePing_follows : Follows (SameSession R) (handlePing link) (handlePing other) :=
  Follows.bind session_follows fun _ => onLink_follows (hLink.writeAll _)

theorem handle_follows (command : Command) :
    Follows (SameSession R) (handle link command) (handle other command) := by
  cases command with
  | init => exact handleInit_follows hLink
  | initPool => exact handleInitPool_follows hLink
  | read => exact handleRead_follows hLink
  | write => exact handleWrite_follows hLink
  | inputAvailable => exact handleInputAvailable_follows hLink
  | inputRequest => exact handleInputRequest_follows hLink
  | inputPeek => exact handleInputPeek_follows hLink
  | ping => exact handlePing_follows hLink

theorem dispatch_follows (code : UInt8) :
    Follows (SameSession R) (dispatch link code) (dispatch other code) := by
  refine bracket_follows hLink ?_
  unfold carryOut
  split
  · exact Follows.bind (update_follows _) fun _ => Follows.pure _
  · refine Follows.bind (handle_follows hLink _) fun _ => ?_
    refine Follows.bind (onLink_follows hLink.flush) fun _ => ?_
    exact Follows.bind (update_follows _) fun _ => Follows.pure _

/-! ## Bytes and pumps -/

theorem processByte_follows {sink : Sink σ} {otherSink : Sink τ} (hSink : sink.Follows R otherSink)
    (b : UInt8) :
    Follows (SameSession R) (processByte link sink b) (processByte other otherSink b) := by
  refine Follows.bind session_follows fun s => ?_
  refine Follows.bind (update_follows _) fun _ => ?_
  split
  · refine Follows.bind (onSink_follows (hSink.writeAll _)) fun _ => ?_
    exact Follows.bind (update_follows _) fun _ => Follows.pure _
  · exact Follows.pure _
  · exact Follows.bind (dispatch_follows hLink _) fun _ => Follows.pure _

end Commands

theorem pumpByte_follows {supply : Supply σ} {other : Supply τ} (h : supply.Follows R other) :
    Follows (SameSession R) (pumpByte supply) (pumpByte other) := by
  refine Follows.bind (onLink_follows (h.link.readExact 1)) fun bs => ?_
  split
  · exact processByte_follows h.link h.sink _
  · exact Follows.throw _

theorem pumpFor_follows {supply : Supply σ} {other : Supply τ} (h : supply.Follows R other)
    (n : Nat) : Follows (SameSession R) (pumpFor supply n) (pumpFor other n) := by
  induction n with
  | zero => exact Follows.pure _
  | succ n ih =>
    refine Follows.bind (pumpByte_follows h) fun handled => ?_
    exact Follows.bind ih fun rest => Follows.pure _

/-- A pump of a supply that follows another comes to the same. -/
theorem pump_follows {supply : Supply σ} {other : Supply τ} (h : supply.Follows R other)
    {a : Serving σ} {b : Serving τ} (hab : SameSession R a b) :
    (pump supply a).handled = (pump other b).handled ∧
      (pump supply a).error = (pump other b).error ∧
      SameSession R (pump supply a).serving (pump other b).serving := by
  induction a using pump.induct supply generalizing b with
  | case1 a hMore e a' hp =>
    have hRuns := pumpByte_follows h _ _ hab
    have hMore' : other.more b.world = true := h.more hab.2 ▸ hMore
    rw [hp] at hRuns
    generalize hq : pumpByte other b = r at hRuns
    cases hRuns with
    | error h' =>
      rw [pump_of_error hMore hp, pump_of_error hMore' hq]
      exact ⟨rfl, rfl, h'⟩
  | case2 a hMore handled a' hp ih =>
    have hRuns := pumpByte_follows h _ _ hab
    have hMore' : other.more b.world = true := h.more hab.2 ▸ hMore
    rw [hp] at hRuns
    generalize hq : pumpByte other b = r at hRuns
    cases hRuns with
    | ok h' =>
      obtain ⟨h₁, h₂, h₃⟩ := ih h'
      rw [pump_of_ok hMore hp, pump_of_ok hMore' hq]
      exact ⟨congrArg _ h₁, h₂, h₃⟩
  | case3 a hMore =>
    have hDone : supply.more a.world = false := by simpa using hMore
    rw [pump_of_drained hDone, pump_of_drained (h.more hab.2 ▸ hDone)]
    exact ⟨rfl, rfl, hab⟩

end Session

end MemoryBridge
