import OpenFlow.Proofs.Dispatch

/-!
# A session run as a loop over messages

The bytes a switch sends are cut into messages (`splitMessages`): each is a header and then the
body its length field announces, one after another from the start of the input
(`splitMessages_eq_append`, `splitMessages_length_field`), until a header whose length is
shorter than the header itself or an input that ends inside a message. That error is always
fatal (`splitMessages_stop_isFatal`), and there is at most one message for every eight bytes
(`splitMessages_length_mul_le`).

`Session.dispatchAll` handles such messages one after another, each on the session the one
before left, dropping those whose errors are not fatal. The main statement,
`Session.run_follows_splitMessages`, says that a new session on a working link greets the
switch and then does exactly that: the run ends alike (`Session.EndAlike`: same result, same
session but for its log and unread input, same state of the variant) with `dispatchAll` over
the input's messages from the greeted session. So the run always fails with a fatal error and
ends the session; on a link that refuses writes it fails at the hello with a broken pipe.

The proof reads one message at a time (`Session.readMessage_run`), handles it alike on both
sides by the framing of handlers (`Session.Handler.run_congr`), and goes by induction on the
rounds the run is given (`Session.runFrom_endAlike`), which are more than the messages.
-/

namespace OpenFlow

/-! ### Messages of a byte stream -/

@[simp] theorem Header.encode_length (h : Header) : h.encode.length = Header.size := rfl

/-- The body a header announces, split off the bytes after the header. -/
def splitBody (h : Header) (rest : List UInt8) :
    Except WireError ((Header × List UInt8) × List UInt8) :=
  if h.length.toNat < Header.size then
    .error (.protocolViolation ("header length " ++ toString h.length.toNat ++
      " is shorter than the header"))
  else if rest.length < h.bodyLength then .error (.transportFailure .inputEnded)
  else .ok ((h, rest.take h.bodyLength), rest.drop h.bodyLength)

/-- The first message of a byte stream, a header and its body, with the bytes after it; an
input shorter than a header has ended. -/
def splitMessage : List UInt8 → Except WireError ((Header × List UInt8) × List UInt8)
  | v :: t :: l₀ :: l₁ :: x₀ :: x₁ :: x₂ :: x₃ :: rest =>
    splitBody ⟨v, t, word16 l₀ l₁, word32 x₀ x₁ x₂ x₃⟩ rest
  | _ => .error (.transportFailure .inputEnded)

theorem splitMessage_of_length_lt {bs : List UInt8} (h : bs.length < Header.size) :
    splitMessage bs = .error (.transportFailure .inputEnded) := by
  unfold splitMessage
  split
  · simp only [List.length_cons, Header.size] at h
    omega
  · rfl

/-- Eight bytes or more begin with the eight of a header. -/
theorem exists_eq_header_cons {bs : List UInt8} (h : Header.size ≤ bs.length) :
    ∃ v t l₀ l₁ x₀ x₁ x₂ x₃ rest, bs = v :: t :: l₀ :: l₁ :: x₀ :: x₁ :: x₂ :: x₃ :: rest := by
  match bs, h with
  | v :: t :: l₀ :: l₁ :: x₀ :: x₁ :: x₂ :: x₃ :: rest, _ =>
    exact ⟨v, t, l₀, l₁, x₀, x₁, x₂, x₃, rest, rfl⟩
  | [], h | [_], h | [_, _], h | [_, _, _], h | [_, _, _, _], h | [_, _, _, _, _], h
  | [_, _, _, _, _, _], h | [_, _, _, _, _, _, _], h => simp [Header.size] at h

/-- A message split off the input is its header's bytes and then its body, and the header's
length field counts both. -/
theorem splitMessage_eq_ok {bs rest : List UInt8} {m : Header × List UInt8}
    (h : splitMessage bs = .ok (m, rest)) :
    bs = m.1.encode ++ m.2 ++ rest ∧ m.1.length.toNat = Header.size + m.2.length := by
  unfold splitMessage splitBody at h
  split at h
  · split at h
    · cases h
    split at h
    · cases h
    rename_i hshort hlen
    cases h
    simp only [Header.bodyLength] at hshort hlen
    simp only [Header.encode, be16_word16, be32_word32, List.cons_append, List.nil_append,
      List.take_append_drop, List.length_take, Header.bodyLength, true_and]
    omega
  · cases h

theorem splitMessage_length_lt {bs rest : List UInt8} {m : Header × List UInt8}
    (h : splitMessage bs = .ok (m, rest)) : rest.length < bs.length := by
  rw [(splitMessage_eq_ok h).1]
  simp [Header.size]
  omega

/-- Every reason a message cannot be split off ends a session. -/
theorem splitMessage_error_isFatal {bs : List UInt8} {e : WireError}
    (h : splitMessage bs = .error e) : e.isFatal := by
  unfold splitMessage splitBody at h
  split at h
  · split at h
    · cases h
      rfl
    split at h
    · cases h
      rfl
    · cases h
  · cases h
    rfl

/-- The messages of a byte stream in order, and the error that stops reading them. -/
def splitMessages (bs : List UInt8) : List (Header × List UInt8) × WireError :=
  match h : splitMessage bs with
  | .ok (m, rest) =>
    have : rest.length < bs.length := splitMessage_length_lt h
    let after := splitMessages rest
    (m :: after.1, after.2)
  | .error e => ([], e)
termination_by bs.length

theorem splitMessages_eq (bs : List UInt8) :
    splitMessages bs = match splitMessage bs with
      | .ok (m, rest) => (m :: (splitMessages rest).1, (splitMessages rest).2)
      | .error e => ([], e) := by
  rw [splitMessages]
  split <;> rename_i heq <;> simp only [heq]

theorem splitMessages_of_ok {bs rest : List UInt8} {m : Header × List UInt8}
    (h : splitMessage bs = .ok (m, rest)) :
    splitMessages bs = (m :: (splitMessages rest).1, (splitMessages rest).2) := by
  rw [splitMessages_eq, h]

theorem splitMessages_of_error {bs : List UInt8} {e : WireError}
    (h : splitMessage bs = .error e) : splitMessages bs = ([], e) := by
  rw [splitMessages_eq, h]

theorem splitMessages_stop_isFatal (bs : List UInt8) : (splitMessages bs).2.isFatal := by
  fun_induction splitMessages bs with
  | case1 bs m rest h _ after ih => exact ih
  | case2 bs e h => exact splitMessage_error_isFatal h

/-- Each message takes at least a header's bytes. -/
theorem splitMessages_length_mul_le (bs : List UInt8) :
    (splitMessages bs).1.length * Header.size ≤ bs.length := by
  fun_induction splitMessages bs with
  | case1 bs m rest h _ after ih =>
    have hbs := congrArg List.length (splitMessage_eq_ok h).1
    simp only [List.length_append, Header.encode_length] at hbs
    show ((splitMessages rest).1.length + 1) * Header.size ≤ bs.length
    rw [Nat.succ_mul]
    omega
  | case2 => simp

/-- The input is its messages one after another, followed by bytes from which no further
message can be split, for the reason the split ends with. -/
theorem splitMessages_eq_append (bs : List UInt8) :
    ∃ rest, bs = ((splitMessages bs).1.flatMap fun m => m.1.encode ++ m.2) ++ rest ∧
      splitMessage rest = .error (splitMessages bs).2 := by
  fun_induction splitMessages bs with
  | case1 bs m rest h _ after ih =>
    obtain ⟨rest', hrest, hstop⟩ := ih
    refine ⟨rest', ?_, hstop⟩
    calc bs = m.1.encode ++ m.2 ++ rest := (splitMessage_eq_ok h).1
      _ = m.1.encode ++ m.2 ++
          (((splitMessages rest).1.flatMap fun m => m.1.encode ++ m.2) ++ rest') := by
        rw [← hrest]
      _ = ((m :: (splitMessages rest).1).flatMap fun m => m.1.encode ++ m.2) ++ rest' := by
        simp
  | case2 bs e h => exact ⟨bs, by simp, h⟩

/-- The length field of each message counts its header and its body. -/
theorem splitMessages_length_field (bs : List UInt8) :
    ∀ m ∈ (splitMessages bs).1, m.1.length.toNat = Header.size + m.2.length := by
  fun_induction splitMessages bs with
  | case1 bs m rest h _ after ih =>
    intro m' hm'
    rcases List.mem_cons.1 hm' with rfl | hmem
    · exact (splitMessage_eq_ok h).2
    · exact ih m' hmem
  | case2 => simp

/-! ### Reading a message -/

theorem takeExact_eq (n : Nat) (bs acc : List UInt8) :
    takeExact n bs acc =
      if n ≤ bs.length then some (acc.reverse ++ bs.take n, bs.drop n) else none := by
  induction n generalizing bs acc with
  | zero => simp [takeExact]
  | succ n ih =>
    cases bs with
    | nil => simp [takeExact]
    | cons b bs =>
      rw [takeExact, ih]
      simp

namespace Session

variable {σ : Type}

theorem readExact_run_of_le {n : Nat} {s : Session} (w : σ) (h : n ≤ s.link.pending.length) :
    (readExact n).run.run (s, w) = (.ok (s.link.pending.take n),
      ({ s with link := { s.link with pending := s.link.pending.drop n } }, w)) := by
  rw [readExact, run_current_bind, takeExact_eq, if_pos h]
  rfl

theorem readExact_run_of_lt {n : Nat} {s : Session} (w : σ) (h : s.link.pending.length < n) :
    (readExact n).run.run (s, w) = (.error (.transportFailure .inputEnded),
      ({ s with link := { s.link with pending := [] } }, w)) := by
  rw [readExact, run_current_bind, takeExact_eq, if_neg (by omega)]
  rfl

theorem readExact_run_append {n : Nat} {s : Session} (w : σ) (got rest : List UInt8)
    (hp : s.link.pending = got ++ rest) (hn : got.length = n) :
    (readExact n).run.run (s, w) =
      (.ok got, ({ s with link := { s.link with pending := rest } }, w)) := by
  rw [readExact_run_of_le w (by simp [hp, hn]), hp, List.take_left' hn, List.drop_left' hn]

theorem run_log (level : Level) (text : String) (s : Session) (w : σ) :
    (log level text : SessionM σ Unit).run.run (s, w) =
      (.ok (), ({ s with journal := ⟨level, text⟩ :: s.journal }, w)) :=
  rfl

theorem run_check_ok_bind {α β : Type} (a : α) (k : α → SessionM σ β) (c : Session × σ) :
    (check (.ok a) >>= k).run.run c = (k a).run.run c :=
  rfl

/-- Reading a message gives what `splitMessage` splits off the unread input, or fails as it
does, and changes nothing but the log and the unread input, which is then what follows the
message. -/
theorem readMessage_run (s : Session) (w : σ) :
    ∃ s', (readMessage : SessionM σ _).run.run (s, w) =
        ((splitMessage s.link.pending).map Prod.fst, (s', w)) ∧ s'.clear = s.clear ∧
      ∀ m rest, splitMessage s.link.pending = .ok (m, rest) → s'.link.pending = rest := by
  by_cases hlt : s.link.pending.length < Header.size
  · refine ⟨{ s with link := { s.link with pending := [] } }, ?_, rfl, ?_⟩
    · rw [readMessage, run_bind_error (readExact_run_of_lt w hlt), splitMessage_of_length_lt hlt]
      rfl
    · intro m rest h
      rw [splitMessage_of_length_lt hlt] at h
      cases h
  obtain ⟨v, t, l₀, l₁, x₀, x₁, x₂, x₃, body, hp⟩ := exists_eq_header_cons (Nat.le_of_not_lt hlt)
  have hheader : s.link.pending = [v, t, l₀, l₁, x₀, x₁, x₂, x₃] ++ body := hp
  have hdecode : Header.decode [v, t, l₀, l₁, x₀, x₁, x₂, x₃] =
      .ok ⟨v, t, word16 l₀ l₁, word32 x₀ x₁ x₂ x₃⟩ := rfl
  rw [hp, splitMessage, splitBody, readMessage,
    run_bind_ok (readExact_run_append w _ _ hheader (rfl : _ = Header.size)), hdecode,
    run_check_ok_bind, run_bind_ok (run_log _ _ _ _)]
  dsimp only
  by_cases hshort : (word16 l₀ l₁).toNat < Header.size
  · rw [if_pos hshort, if_pos hshort]
    exact ⟨_, rfl, rfl, fun _ _ h => nomatch h⟩
  rw [if_neg hshort, if_neg hshort]
  by_cases hbody : body.length < Header.bodyLength ⟨v, t, word16 l₀ l₁, word32 x₀ x₁ x₂ x₃⟩
  · rw [if_pos hbody, run_bind_error (readExact_run_of_lt w ?_)]
    · exact ⟨_, rfl, rfl, fun _ _ h => nomatch h⟩
    · exact hbody
  · rw [if_neg hbody, run_bind_ok (readExact_run_append w (body.take _) (body.drop _) ?_ ?_),
      run_bind_ok (run_log _ _ _ _)]
    · exact ⟨_, rfl, rfl, fun _ _ h => by cases h; rfl⟩
    · exact (List.take_append_drop _ body).symm
    · rw [List.length_take]
      omega

/-! ### Handling the messages in order -/

/-- Handles messages one after another, each on the session the one before left: an error
that is not fatal drops the message, and the first fatal error, or `stop` once the messages are
used up, ends the session. -/
def dispatchAll (v : Variant σ) : List (Header × List UInt8) → WireError → Session × σ →
    Except WireError Unit × (Session × σ)
  | [], stop, (s, w) => (.error stop, ({ s with state := .terminated }, w))
  | (h, body) :: msgs, stop, c =>
    match (dispatch v h body).run.run c with
    | (.ok (), c') => dispatchAll v msgs stop c'
    | (.error e, (s', w')) =>
      if e.isFatal then (.error e, ({ s' with state := .terminated }, w'))
      else dispatchAll v msgs stop (s', w')

/-- Handling messages that end in a fatal error always fails with a fatal error and ends the
session. -/
theorem dispatchAll_fatal (v : Variant σ) (msgs : List (Header × List UInt8)) {stop : WireError}
    (hstop : stop.isFatal) (c : Session × σ) :
    ∃ e, (dispatchAll v msgs stop c).1 = .error e ∧ e.isFatal ∧
      (dispatchAll v msgs stop c).2.1.state = .terminated := by
  induction msgs generalizing c with
  | nil => exact ⟨stop, rfl, hstop, rfl⟩
  | cons m msgs ih =>
    obtain ⟨h, body⟩ := m
    rw [dispatchAll]
    rcases (dispatch v h body).run.run c with ⟨_ | ⟨⟩, s', w'⟩
    · dsimp only
      split
      · exact ⟨_, rfl, ‹_›, rfl⟩
      · exact ih _
    · exact ih _

/-- Two runs end alike: with the same result, in sessions equal but for their log and unread
input, and with the same state of the variant. -/
def EndAlike (r r' : Except WireError Unit × (Session × σ)) : Prop :=
  r.1 = r'.1 ∧ r.2.1.clear = r'.2.1.clear ∧ r.2.2 = r'.2.2

theorem endAlike_terminate {s t : Session} (w : σ) (e : WireError) (hst : s.clear = t.clear) :
    EndAlike ((do terminate e; throw e : SessionM σ Unit).run.run (s, w))
      (.error e, ({ t with state := .terminated }, w)) := by
  refine ⟨rfl, ?_, rfl⟩
  show { s.clear with state := .terminated } = { t.clear with state := .terminated }
  rw [hst]

/-- Given more rounds than the unread input holds messages, the run from a live session ends
alike with handling those messages from any session equal to it but for its log and unread
input. -/
theorem runFrom_endAlike (v : Variant σ) (fuel : Nat) (s t : Session) (w : σ) {bs : List UInt8}
    (hlive : s.state ≠ .terminated) (hst : s.clear = t.clear) (hpending : s.link.pending = bs)
    (hfuel : (splitMessages bs).1.length < fuel) :
    EndAlike (runFrom v fuel (s, w))
      (dispatchAll v (splitMessages bs).1 (splitMessages bs).2 (t, w)) := by
  induction fuel generalizing s t w bs with
  | zero => omega
  | succ n ih =>
    obtain ⟨s₁, hread, hclear₁, hpending₁⟩ := readMessage_run (σ := σ) s w
    rw [hpending] at hread hpending₁
    rw [runFrom, if_neg hlive, processNext]
    rcases hsplit : splitMessage bs with e | ⟨⟨h, body⟩, rest⟩
    · rw [hsplit] at hread
      rw [run_bind_error hread, splitMessages_of_error hsplit]
      dsimp only
      rw [if_pos (splitMessage_error_isFatal hsplit)]
      exact endAlike_terminate w e (hclear₁.trans hst)
    rw [hsplit] at hread
    rw [splitMessages_of_ok hsplit] at hfuel ⊢
    rw [run_bind_ok hread, dispatchAll]
    dsimp only
    have H := Handler.dispatch v h body
    have hcongr := H.run_congr w (hclear₁.trans hst)
    have hkeep := H.keepsPending (s₁, w)
    have hnever := H.neverTerminates (s₁, w)
    rcases hd₁ : (dispatch v h body).run.run (s₁, w) with ⟨r, s₂, w₂⟩
    rcases hd₂ : (dispatch v h body).run.run (t, w) with ⟨r', t₂, w₂'⟩
    rw [hd₁, hd₂] at hcongr
    rw [hd₁] at hkeep hnever
    obtain ⟨rfl, hclear₂, rfl⟩ := hcongr
    have hlive₂ : s₂.state ≠ .terminated := fun hend =>
      hlive ((congrArg Session.state hclear₁).symm.trans (hnever hend))
    have hpending₂ : s₂.link.pending = rest := hkeep.trans (hpending₁ _ _ hsplit)
    have hfuel₂ : (splitMessages rest).1.length < n := by
      simp only [List.length_cons] at hfuel
      omega
    rcases r with e | ⟨⟩
    · dsimp only
      by_cases hfatal : e.isFatal
      · rw [if_pos hfatal, if_pos hfatal]
        exact endAlike_terminate w₂ e hclear₂
      · rw [if_neg hfatal, if_neg hfatal]
        exact ih _ t₂ w₂ hlive₂ hclear₂ hpending₂ hfuel₂
    · exact ih s₂ t₂ w₂ hlive₂ hclear₂ hpending₂ hfuel₂

/-! ### The whole run -/

theorem run_get_bind {α : Type} (k : Session × σ → SessionM σ α) (c : Session × σ) :
    (get >>= k).run.run c = (k c).run.run c :=
  rfl

theorem run_tryCatch_ok {α : Type} {m : SessionM σ α} {h : WireError → SessionM σ α}
    {c c' : Session × σ} {a : α} (hm : m.run.run c = (.ok a, c')) :
    (tryCatch m h).run.run c = (.ok a, c') := by
  have hm' : StateT.run m c = (.ok a, c') := hm
  show StateT.run (ExceptT.tryCatch m h) c = _
  simp only [ExceptT.tryCatch, ExceptT.mk, StateT.run_bind, hm']
  rfl

/-- A new session after its greeting: a hello and a features request written with version 1
and transaction id 0, and the switch's features awaited. -/
def greeted : Session :=
  { state := .awaitingFeatures,
    link := { sentRev := [Header.encode ⟨1, 5, 8, 0⟩, Header.encode ⟨1, 0, 8, 0⟩] } }

theorem handshake_run (input : List UInt8) (w : σ) :
    ∃ s₀, (handshake : SessionM σ Unit).run.run ({ link := { pending := input } }, w) =
      (.ok (), (s₀, w)) ∧ s₀.clear = greeted ∧ s₀.link.pending = input :=
  ⟨_, rfl, rfl, rfl⟩

/-- A new session's run greets the switch and then takes one round more than there are bytes
to read. -/
theorem run_eq_runFrom (v : Variant σ) (input : List UInt8) (w : σ) :
    ∃ s₀, s₀.clear = greeted ∧ s₀.link.pending = input ∧
      (run v).run.run ({ link := { pending := input } }, w) =
        runFrom v (input.length + 1) (s₀, w) := by
  obtain ⟨s₀, hrun, hclear, hpending⟩ := handshake_run (σ := σ) input w
  refine ⟨s₀, hclear, hpending, ?_⟩
  rw [run, run_current_bind, if_pos rfl, run_bind_ok (run_tryCatch_ok hrun)]
  dsimp only
  rw [run_get_bind]
  dsimp only
  rw [hpending]
  generalize runFrom v (input.length + 1) (s₀, w) = r
  obtain ⟨_ | ⟨⟩, c⟩ := r <;> rfl

theorem run_endAlike (v : Variant σ) (input : List UInt8) (w : σ) :
    EndAlike ((run v).run.run ({ link := { pending := input } }, w))
      (dispatchAll v (splitMessages input).1 (splitMessages input).2 (greeted, w)) := by
  obtain ⟨s₀, hclear, hpending, hrun⟩ := run_eq_runFrom v input w
  rw [hrun]
  refine runFrom_endAlike v _ s₀ greeted w ?_ hclear hpending ?_
  · rw [← clear_state, hclear]
    decide
  · have hbound := splitMessages_length_mul_le input
    unfold Header.size at hbound
    omega

theorem run_fails_fatally (v : Variant σ) (input : List UInt8) (w : σ) :
    (∃ e, ((run v).run.run ({ link := { pending := input } }, w)).1 = .error e ∧ e.isFatal) ∧
      ((run v).run.run ({ link := { pending := input } }, w)).2.1.state = .terminated := by
  obtain ⟨hresult, hclear, -⟩ := run_endAlike v input w
  obtain ⟨e, he, hfatal, hend⟩ :=
    dispatchAll_fatal v (splitMessages input).1 (splitMessages_stop_isFatal input) (greeted, w)
  refine ⟨⟨e, hresult.trans he, hfatal⟩, ?_⟩
  rw [← clear_state, hclear, clear_state, hend]

/-- On a link that refuses writes the run fails at its first write, the hello, with a broken
pipe, having read and written nothing and left the variant's state alone. -/
theorem run_of_writeFails (v : Variant σ) (input : List UInt8) (w : σ) :
    ((run v).run.run ({ link := { pending := input, writeFails := true } }, w)).1 =
        .error (.transportFailure .brokenPipe) ∧
      ((run v).run.run ({ link := { pending := input, writeFails := true } }, w)).2.1.link =
        { pending := input, writeFails := true } ∧
      ((run v).run.run ({ link := { pending := input, writeFails := true } }, w)).2.1.state =
        .terminated ∧
      ((run v).run.run ({ link := { pending := input, writeFails := true } }, w)).2.2 = w :=
  ⟨rfl, rfl, rfl, rfl⟩

/-- A new session on a link whose writes succeed greets the switch, then handles the input's
messages in order, each once, on the session the message before left, dropping those whose
errors are not fatal: its run ends alike with `dispatchAll` from the greeted session. The
messages follow one another from the start of the input, each a header and the body its length
field announces, at most one for every eight bytes, until bytes that hold no further message.
The run always fails with a fatal error and ends the session. On a link that refuses writes it
fails at the hello with a broken pipe. -/
theorem run_follows_splitMessages (v : Variant σ) (input : List UInt8) (w : σ) :
    EndAlike ((run v).run.run ({ link := { pending := input } }, w))
        (dispatchAll v (splitMessages input).1 (splitMessages input).2 (greeted, w)) ∧
      (∃ rest, input = ((splitMessages input).1.flatMap fun m => m.1.encode ++ m.2) ++ rest ∧
        splitMessage rest = .error (splitMessages input).2) ∧
      (∀ m ∈ (splitMessages input).1, m.1.length.toNat = Header.size + m.2.length) ∧
      (splitMessages input).1.length ≤ input.length / Header.size ∧
      ((∃ e, ((run v).run.run ({ link := { pending := input } }, w)).1 = .error e ∧ e.isFatal) ∧
        ((run v).run.run ({ link := { pending := input } }, w)).2.1.state = .terminated) ∧
      (((run v).run.run ({ link := { pending := input, writeFails := true } }, w)).1 =
          .error (.transportFailure .brokenPipe) ∧
        ((run v).run.run ({ link := { pending := input, writeFails := true } }, w)).2.1.link =
          { pending := input, writeFails := true } ∧
        ((run v).run.run ({ link := { pending := input, writeFails := true } }, w)).2.1.state =
          .terminated ∧
        ((run v).run.run ({ link := { pending := input, writeFails := true } }, w)).2.2 = w) :=
  ⟨run_endAlike v input w, splitMessages_eq_append input, splitMessages_length_field input,
    (Nat.le_div_iff_mul_le (by decide)).2 (splitMessages_length_mul_le input),
    run_fails_fatally v input w, run_of_writeFails v input w⟩

end Session

end OpenFlow
