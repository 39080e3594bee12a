import OpenFlow.Session.Controller
import OpenFlow.Proofs.Faults

/-!
# Message handlers

The steps that handle a message from the switch share a few properties, collected in
`Session.Handler p m`: the step reads no input and does not look at the log (`framed`), it
only adds to what is written, it never ends the session, it fails on a working link only with
errors satisfying `p`, and on a link that refuses writes it goes exactly as on a working one
until its first write, where it fails with a broken pipe (`sameUntilWrite`, `failsAtWrite`).

The rules build the property of a whole handler from its parts: `Handler.bind`,
`Handler.current_bind` for a step that reads the session, `Handler.check_bind` for a step
that goes on from a decoded value, and one rule for each primitive step (`Handler.change`,
`Handler.log`, `Handler.hook`, `Handler.send`). `Handler.run_congr` is what the framing buys:
two sessions that differ only in their log and unread input are handled alike.
-/

namespace OpenFlow

namespace Session

variable {σ α β : Type}

/-! ### Views of a session -/

/-- The session with `older` log records after its own and `pending` as its unread input. -/
def withIO (s : Session) (older : List LogLine) (pending : List UInt8) : Session :=
  { s with journal := s.journal ++ older, link := { s.link with pending := pending } }

/-- The session without its log and its unread input. -/
def clear (s : Session) : Session :=
  { s with journal := [], link := { s.link with pending := [] } }

/-- The session on a link that refuses writes. -/
def failing (s : Session) : Session :=
  { s with link := { s.link with writeFails := true } }

/-- The session on a link that accepts writes. -/
def working (s : Session) : Session :=
  { s with link := { s.link with writeFails := false } }

@[simp] theorem withIO_version (s : Session) (older : List LogLine) (pending : List UInt8) :
    (s.withIO older pending).version = s.version := rfl

@[simp] theorem withIO_link_writeFails (s : Session) (older : List LogLine)
    (pending : List UInt8) : (s.withIO older pending).link.writeFails = s.link.writeFails := rfl

@[simp] theorem withIO_link_sentRev (s : Session) (older : List LogLine) (pending : List UInt8) :
    (s.withIO older pending).link.sentRev = s.link.sentRev := rfl

@[simp] theorem clear_withIO (s : Session) (older : List LogLine) (pending : List UInt8) :
    (s.withIO older pending).clear = s.clear := rfl

theorem clear_withIO_self (s : Session) : s.clear.withIO s.journal s.link.pending = s := by
  obtain ⟨_, _, _, _, ⟨_, _, _⟩, _⟩ := s
  rfl

@[simp] theorem clear_state (s : Session) : s.clear.state = s.state := rfl

@[simp] theorem failing_version (s : Session) : s.failing.version = s.version := rfl

@[simp] theorem failing_link_sentRev (s : Session) : s.failing.link.sentRev = s.link.sentRev :=
  rfl

theorem working_eq_self {s : Session} (h : s.link.writeFails = false) : s.working = s := by
  obtain ⟨_, _, _, _, ⟨_, _, _⟩, _⟩ := s
  simp_all [working]

theorem failing_working {s : Session} (h : s.link.writeFails = true) : s.working.failing = s := by
  obtain ⟨_, _, _, _, ⟨_, _, _⟩, _⟩ := s
  simp_all [working, failing]

/-! ### Running steps -/

theorem run_bind_ok {m : SessionM σ α} {k : α → SessionM σ β} {c c' : Session × σ} {a : α}
    (h : m.run.run c = (.ok a, c')) : (m >>= k).run.run c = (k a).run.run c' := by
  simp only [ExceptT.run_bind, StateT.run_bind, h]
  rfl

theorem run_bind_error {m : SessionM σ α} {k : α → SessionM σ β} {c c' : Session × σ}
    {e : WireError} (h : m.run.run c = (.error e, c')) : (m >>= k).run.run c = (.error e, c') := by
  simp only [ExceptT.run_bind, StateT.run_bind, h]
  rfl

theorem run_current_bind (k : Session → SessionM σ α) (s : Session) (w : σ) :
    (current >>= k).run.run (s, w) = (k s).run.run (s, w) :=
  rfl

theorem run_hook (f : σ → σ × List LogLine × α) (s : Session) (w : σ) :
    (hook f).run.run (s, w) =
      (.ok (f w).2.2, ({ s with journal := (f w).2.1.reverse ++ s.journal }, (f w).1)) :=
  rfl

/-- Sending: a message that cannot be written fails the step and changes nothing; one that can
is logged, and then written unless the link refuses writes. -/
theorem run_send (xid : UInt32) (m : Message) (s : Session) (w : σ) :
    (send xid m).run.run (s, w) =
      match Message.encode s.version xid m with
      | .error e => (.error e, (s, w))
      | .ok bytes =>
        let logged := { s with journal :=
          ⟨.trace, "Write " ++ m.code.name ++ ":\n" ++ Text.hexDump bytes⟩ :: s.journal }
        if s.link.writeFails then (.error (.transportFailure .brokenPipe), (logged, w))
        else (.ok (), ({ logged with link := logged.link.write bytes }, w)) := by
  rw [send, run_current_bind]
  rcases Message.encode s.version xid m with e | bytes
  · rfl
  · cases s.link.writeFails <;> rfl

/-! ### Handlers -/

/-- A step of message handling whose failures on a working link satisfy `p`. Run after older
log records and with other bytes pending, it does the same and leaves them as they were; it
only adds to what is written, keeps the link's failure flag and never ends the session; and on
a link that refuses writes it goes as on a working one until its first write, which fails. -/
structure Handler (p : WireError → Prop) (m : SessionM σ α) : Prop where
  framed : ∀ s w older pending, m.run.run (s.withIO older pending, w) =
    ((m.run.run (s, w)).1, (m.run.run (s, w)).2.1.withIO older pending, (m.run.run (s, w)).2.2)
  keepsWriteFails : ∀ c, (m.run.run c).2.1.link.writeFails = c.1.link.writeFails
  onlyAppends : ∀ c, c.1.link.sentRev <:+ (m.run.run c).2.1.link.sentRev
  neverTerminates : ∀ c, (m.run.run c).2.1.state = .terminated → c.1.state = .terminated
  faults : ∀ c, c.1.link.writeFails = false → ∀ e, (m.run.run c).1 = .error e → p e
  sameUntilWrite : ∀ s w, s.link.writeFails = false →
    (m.run.run (s, w)).2.1.link.sentRev = s.link.sentRev →
    m.run.run (s.failing, w) = ((m.run.run (s, w)).1, (m.run.run (s, w)).2.1.failing,
      (m.run.run (s, w)).2.2)
  failsAtWrite : ∀ s w, s.link.writeFails = false →
    (m.run.run (s, w)).2.1.link.sentRev ≠ s.link.sentRev →
    (m.run.run (s.failing, w)).1 = .error (.transportFailure .brokenPipe)

/-- A list between a list and one of its suffixes that is the list itself is the list. -/
theorem suffix_squeeze {l₁ l₂ l₃ : List α} (h₁ : l₁ <:+ l₂) (h₂ : l₂ <:+ l₃) (h : l₃ = l₁) :
    l₂ = l₁ := by
  subst h
  exact (h₁.eq_of_length (Nat.le_antisymm h₁.length_le h₂.length_le)).symm

namespace Handler

variable {p q : WireError → Prop}

/-- Two sessions that differ only in their log and unread input are handled alike. -/
theorem run_congr {m : SessionM σ α} (hm : Handler p m) {s s' : Session} (w : σ)
    (hs : s.clear = s'.clear) :
    (m.run.run (s, w)).1 = (m.run.run (s', w)).1 ∧
      (m.run.run (s, w)).2.1.clear = (m.run.run (s', w)).2.1.clear ∧
      (m.run.run (s, w)).2.2 = (m.run.run (s', w)).2.2 := by
  rw [← clear_withIO_self s, ← clear_withIO_self s', hm.framed, hm.framed, hs]
  exact ⟨rfl, by rw [clear_withIO, clear_withIO], rfl⟩

/-- A handler leaves the unread input as it found it. -/
theorem keepsPending {m : SessionM σ α} (hm : Handler p m) (c : Session × σ) :
    (m.run.run c).2.1.link.pending = c.1.link.pending := by
  obtain ⟨s, w⟩ := c
  rw [← clear_withIO_self s, hm.framed]
  rfl

theorem mono (hpq : ∀ e, p e → q e) {m : SessionM σ α} (hm : Handler p m) : Handler q m where
  framed := hm.framed
  keepsWriteFails := hm.keepsWriteFails
  onlyAppends := hm.onlyAppends
  neverTerminates := hm.neverTerminates
  faults c hc e he := hpq e (hm.faults c hc e he)
  sameUntilWrite := hm.sameUntilWrite
  failsAtWrite := hm.failsAtWrite

theorem pure (a : α) : Handler p (Pure.pure a : SessionM σ α) where
  framed _ _ _ _ := rfl
  keepsWriteFails _ := rfl
  onlyAppends _ := List.suffix_refl _
  neverTerminates _ h := h
  faults _ _ _ h := nomatch h
  sameUntilWrite _ _ _ _ := rfl
  failsAtWrite _ _ _ h := absurd rfl h

theorem throw {e : WireError} (he : p e) : Handler p (MonadExcept.throw e : SessionM σ α) where
  framed _ _ _ _ := rfl
  keepsWriteFails _ := rfl
  onlyAppends _ := List.suffix_refl _
  neverTerminates _ h := h
  faults _ _ _ h := by cases h; exact he
  sameUntilWrite _ _ _ _ := rfl
  failsAtWrite _ _ _ h := absurd rfl h

/-- What follows a failure is never run. -/
theorem throw_bind {e : WireError} (he : p e) (k : α → SessionM σ β) :
    Handler p (MonadExcept.throw e >>= k) where
  framed _ _ _ _ := rfl
  keepsWriteFails _ := rfl
  onlyAppends _ := List.suffix_refl _
  neverTerminates _ h := h
  faults _ _ _ h := by cases h; exact he
  sameUntilWrite _ _ _ _ := rfl
  failsAtWrite _ _ _ h := absurd rfl h

theorem bind {m : SessionM σ α} {k : α → SessionM σ β} (hm : Handler p m)
    (hk : ∀ a, Handler p (k a)) : Handler p (m >>= k) where
  framed s w older pending := by
    have hframed := hm.framed s w older pending
    rcases hr : m.run.run (s, w) with ⟨_ | a, s₁, w₁⟩ <;> rw [hr] at hframed
    · rw [run_bind_error hframed, run_bind_error hr]
    · rw [run_bind_ok hframed, run_bind_ok hr, (hk a).framed]
  keepsWriteFails c := by
    have hkeep := hm.keepsWriteFails c
    rcases hr : m.run.run c with ⟨_ | a, c₁⟩ <;> rw [hr] at hkeep
    · rw [run_bind_error hr]
      exact hkeep
    · rw [run_bind_ok hr]
      exact ((hk a).keepsWriteFails c₁).trans hkeep
  onlyAppends c := by
    have happ := hm.onlyAppends c
    rcases hr : m.run.run c with ⟨_ | a, c₁⟩ <;> rw [hr] at happ
    · rw [run_bind_error hr]
      exact happ
    · rw [run_bind_ok hr]
      exact happ.trans ((hk a).onlyAppends c₁)
  neverTerminates c hend := by
    have hlive := hm.neverTerminates c
    rcases hr : m.run.run c with ⟨_ | a, c₁⟩ <;> rw [hr] at hlive
    · rw [run_bind_error hr] at hend
      exact hlive hend
    · rw [run_bind_ok hr] at hend
      exact hlive ((hk a).neverTerminates c₁ hend)
  faults c hc e he := by
    have hkeep := hm.keepsWriteFails c
    have hfault := hm.faults c hc
    rcases hr : m.run.run c with ⟨_ | a, c₁⟩ <;> rw [hr] at hkeep hfault
    · rw [run_bind_error hr] at he
      obtain rfl := Except.error.inj he
      exact hfault _ rfl
    · rw [run_bind_ok hr] at he
      exact (hk a).faults c₁ (hkeep.trans hc) e he
  sameUntilWrite s w hs hsame := by
    have hkeep := hm.keepsWriteFails (s, w)
    have happ := hm.onlyAppends (s, w)
    have hm_same := hm.sameUntilWrite s w hs
    rcases hr : m.run.run (s, w) with ⟨_ | a, s₁, w₁⟩ <;> rw [hr] at hkeep happ hm_same
    · rw [run_bind_error hr] at hsame ⊢
      rw [run_bind_error (hm_same hsame)]
    · rw [run_bind_ok hr] at hsame ⊢
      have hfirst : s₁.link.sentRev = s.link.sentRev :=
        suffix_squeeze happ ((hk a).onlyAppends (s₁, w₁)) hsame
      rw [run_bind_ok (hm_same hfirst)]
      exact (hk a).sameUntilWrite s₁ w₁ (hkeep.trans hs) (hsame.trans hfirst.symm)
  failsAtWrite s w hs hwrote := by
    have hkeep := hm.keepsWriteFails (s, w)
    have hm_same := hm.sameUntilWrite s w hs
    have hm_fails := hm.failsAtWrite s w hs
    have hfirst_fails : (m.run.run (s, w)).2.1.link.sentRev ≠ s.link.sentRev →
        (m >>= k).run.run (s.failing, w) =
          (.error (.transportFailure .brokenPipe), (m.run.run (s.failing, w)).2) := by
      intro hne
      rcases hf : m.run.run (s.failing, w) with ⟨_ | a', c'⟩ <;> rw [hf] at hm_fails
      · obtain rfl := Except.error.inj (hm_fails hne)
        rw [run_bind_error hf]
      · cases hm_fails hne
    rcases hr : m.run.run (s, w) with ⟨_ | a, s₁, w₁⟩ <;> rw [hr] at hkeep hm_same hfirst_fails
    · rw [run_bind_error hr] at hwrote
      rw [hfirst_fails hwrote]
    · rw [run_bind_ok hr] at hwrote
      by_cases hfirst : s₁.link.sentRev = s.link.sentRev
      · rw [run_bind_ok (hm_same hfirst)]
        exact (hk a).failsAtWrite s₁ w₁ (hkeep.trans hs) (hfirst ▸ hwrote)
      · rw [hfirst_fails hfirst]

/-- A change of the session that keeps its link and never ends it, and that commutes with the
log, the unread input and the link's failure flag. -/
theorem change {f : Session → Session}
    (hio : ∀ s older pending, f (s.withIO older pending) = (f s).withIO older pending)
    (hlink : ∀ s, (f s).link = s.link) (hfail : ∀ s, f s.failing = (f s).failing)
    (hlive : ∀ s, (f s).state = .terminated → s.state = .terminated) :
    Handler p (Session.change f : SessionM σ Unit) where
  framed s w older pending := by
    show (_, (f (s.withIO older pending), w)) = _
    rw [hio]
    rfl
  keepsWriteFails c := congrArg Link.writeFails (hlink c.1)
  onlyAppends c := (congrArg Link.sentRev (hlink c.1)).symm ▸ List.suffix_refl _
  neverTerminates c := hlive c.1
  faults _ _ _ h := nomatch h
  sameUntilWrite s w _ _ := by
    show (_, (f s.failing, w)) = (Except.ok (), ((f s).failing, w))
    rw [hfail]
  failsAtWrite s w _ h := absurd (congrArg Link.sentRev (hlink s)) h

theorem log (level : Level) (text : String) :
    Handler p (Session.log level text : SessionM σ Unit) :=
  change (fun _ _ _ => rfl) (fun _ => rfl) (fun _ => rfl) (fun _ h => h)

theorem logAll (lines : List LogLine) : Handler p (Session.logAll lines : SessionM σ Unit) :=
  change (fun _ _ _ => by simp [withIO]) (fun _ => rfl) (fun _ => rfl) (fun _ h => h)

/-- Reading the session is harmless when what follows reads neither the log, nor the unread
input, nor the link's failure flag. -/
theorem current_bind {k : Session → SessionM σ α} (hk : ∀ s, Handler p (k s))
    (hio : ∀ s older pending, k (s.withIO older pending) = k s)
    (hfail : ∀ s, k s.failing = k s) : Handler p (current >>= k) where
  framed s w older pending := by
    rw [run_current_bind, run_current_bind, hio]
    exact (hk s).framed s w older pending
  keepsWriteFails c := (hk c.1).keepsWriteFails c
  onlyAppends c := (hk c.1).onlyAppends c
  neverTerminates c := (hk c.1).neverTerminates c
  faults c := (hk c.1).faults c
  sameUntilWrite s w hs h := by
    show (k s.failing).run.run _ = _
    rw [hfail]
    exact (hk s).sameUntilWrite s w hs h
  failsAtWrite s w hs h := by
    show ((k s.failing).run.run _).1 = _
    rw [hfail]
    exact (hk s).failsAtWrite s w hs h

/-- Going on from a decoded value: a failure of the decoding satisfies `p`, and every value it
gives is handled. -/
theorem check_bind {r : Except WireError α} {k : α → SessionM σ β}
    (hr : ∀ e, r = .error e → p e) (hk : ∀ a, r = .ok a → Handler p (k a)) :
    Handler p (Session.check r >>= k) := by
  cases r with
  | ok a =>
    rw [show Session.check (.ok a) = (Pure.pure a : SessionM σ α) from rfl, pure_bind]
    exact hk a rfl
  | error e => exact throw_bind (hr e rfl) k

theorem hook (f : σ → σ × List LogLine × α) : Handler p (Session.hook f) where
  framed s w older pending := by
    rw [run_hook, run_hook]
    simp [withIO]
  keepsWriteFails _ := rfl
  onlyAppends _ := List.suffix_refl _
  neverTerminates _ h := h
  faults _ _ _ h := nomatch h
  sameUntilWrite _ _ _ _ := rfl
  failsAtWrite _ _ _ h := absurd rfl h

/-- Sending fails on a working link only for a message too long to write. -/
theorem send (xid : UInt32) (m : Message) (hp : ∀ what reason, p (.malformed what reason)) :
    Handler p (Session.send xid m : SessionM σ Unit) where
  framed s w older pending := by
    rw [run_send, run_send, withIO_version, withIO_link_writeFails]
    rcases Message.encode s.version xid m with e | bytes
    · rfl
    · cases s.link.writeFails <;> simp [withIO, Link.write]
  keepsWriteFails c := by
    obtain ⟨s, w⟩ := c
    rw [run_send]
    rcases Message.encode s.version xid m with e | bytes
    · rfl
    · by_cases hwf : s.link.writeFails <;> simp [hwf, Link.write]
  onlyAppends c := by
    obtain ⟨s, w⟩ := c
    rw [run_send]
    rcases Message.encode s.version xid m with e | bytes
    · exact List.suffix_refl _
    · cases s.link.writeFails
      · exact List.suffix_cons _ _
      · exact List.suffix_refl _
  neverTerminates c hend := by
    obtain ⟨s, w⟩ := c
    rw [run_send] at hend
    rcases hencode : Message.encode s.version xid m with e | bytes <;> rw [hencode] at hend
    · exact hend
    · by_cases hwf : s.link.writeFails <;> simpa [hwf] using hend
  faults c hc e he := by
    obtain ⟨s, w⟩ := c
    rw [run_send] at he
    rcases hencode : Message.encode s.version xid m with e' | bytes <;> rw [hencode] at he
    · obtain rfl := Except.error.inj he
      obtain ⟨what, reason, rfl⟩ := Message.encode_error hencode
      exact hp what reason
    · have hworks : s.link.writeFails = false := hc
      simp [hworks] at he
  sameUntilWrite s w hs hsame := by
    rw [run_send] at hsame
    rw [run_send, run_send, failing_version]
    rcases hencode : Message.encode s.version xid m with e | bytes
    · rfl
    · rw [hencode] at hsame
      simp [hs, Link.write] at hsame
  failsAtWrite s w hs hwrote := by
    rw [run_send] at hwrote
    rw [run_send, failing_version]
    rcases hencode : Message.encode s.version xid m with e | bytes
    · rw [hencode] at hwrote
      exact absurd rfl hwrote
    · rfl

end Handler

end Session

end OpenFlow
