import OpenFlow.Proofs.Effects

/-!
# The lifecycle of a session

A session goes through its states in one order (`SessionState.rank`): connecting, then awaiting
the switch's features once it greeted the switch, established from the first features reply it
takes, and terminated at the end. Its features are those of the last features reply it took,
each replacing the one before (`lastFeaturesReply`), and the variant hears of each.

The run goes round by round (`Session.runFrom`); the points of the run are the sessions after
`k` rounds. One round reads a message and handles it (`Session.round_of_split`) or ends the
session (`Session.round_of_split_error`). While the session is live after `k` rounds it has
handled the first `k` messages of its input (`Session.Handled`), and `Session.Handled.round`
carries that from one round to the next. The main statement is `Session.run_lifecycle`.
-/

namespace OpenFlow

/-- The place of a state in the order a session goes through them. -/
def SessionState.rank : SessionState → Nat
  | .connecting => 0
  | .awaitingFeatures => 1
  | .established => 2
  | .terminated => 3

theorem SessionState.rank_le_terminated (st : SessionState) : st.rank ≤ 3 := by
  cases st <;> decide

/-- The features known after a message: a features reply's own, else those known before. -/
def featuresAfter (known : Option SwitchFeatures) (m : Header × List UInt8) :
    Option SwitchFeatures :=
  match Message.parse m.1 m.2 with
  | .ok (.featuresReply f) => some f
  | _ => known

/-- The features of the last features reply among some messages, if there is one. -/
def lastFeaturesReply (msgs : List (Header × List UInt8)) : Option SwitchFeatures :=
  msgs.foldl featuresAfter none

theorem featuresAfter_of_reply {known : Option SwitchFeatures} {m : Header × List UInt8}
    {f : SwitchFeatures} (h : Message.parse m.1 m.2 = .ok (.featuresReply f)) :
    featuresAfter known m = some f := by
  rw [featuresAfter, h]

theorem featuresAfter_of_not_reply {known : Option SwitchFeatures} {m : Header × List UInt8}
    (h : ∀ f, Message.parse m.1 m.2 ≠ .ok (.featuresReply f)) :
    featuresAfter known m = known := by
  unfold featuresAfter
  split
  · rename_i f hf
    exact absurd hf (h f)
  · rfl

theorem lastFeaturesReply_take_succ {msgs : List (Header × List UInt8)} {k : Nat}
    {m : Header × List UInt8} (h : msgs[k]? = some m) :
    lastFeaturesReply (msgs.take (k + 1)) = featuresAfter (lastFeaturesReply (msgs.take k)) m := by
  rw [lastFeaturesReply, List.take_add_one, h, Option.toList_some, List.foldl_append]
  rfl

namespace Session

variable {σ : Type} (v : Variant σ)

/-! ### Rounds -/

theorem runFrom_terminated {c : Session × σ} (h : c.1.state = .terminated) (n : Nat) :
    runFrom v n c = (.ok (), c) := by
  cases n with
  | zero => rfl
  | succ n => rw [runFrom, if_pos h]

theorem runFrom_succ (n : Nat) (c : Session × σ) :
    (runFrom v (n + 1) c).2 = (runFrom v n (runFrom v 1 c).2).2 := by
  by_cases hend : c.1.state = .terminated
  · rw [runFrom_terminated v hend, runFrom_terminated v hend, runFrom_terminated v hend]
  rw [runFrom, runFrom, if_neg hend, if_neg hend]
  rcases (processNext v).run.run c with ⟨_ | ⟨⟩, c'⟩
  · dsimp only
    split
    · rw [runFrom_terminated v rfl]
    · rfl
  · rfl

/-- The run's points: `m + n` rounds go as `m` rounds and then `n` more. -/
theorem runFrom_add (m n : Nat) (c : Session × σ) :
    (runFrom v (m + n) c).2 = (runFrom v n (runFrom v m c).2).2 := by
  induction m generalizing c with
  | zero => rw [Nat.zero_add]; rfl
  | succ m ih => rw [Nat.succ_add, runFrom_succ, ih, ← runFrom_succ]

/-- A round that cannot read a message ends the session, keeping where else it stood and the
variant's state. -/
theorem round_of_split_error {s : Session} (w : σ) (hlive : s.state ≠ .terminated)
    {e : WireError} (hsplit : splitMessage s.link.pending = .error e) :
    (runFrom v 1 (s, w)).2.1.standing = (.terminated, s.version, s.features) ∧
      (runFrom v 1 (s, w)).2.2 = w := by
  obtain ⟨s₁, hread, hclear, -⟩ := readMessage_run (σ := σ) s w
  rw [hsplit] at hread
  rw [runFrom, if_neg hlive, processNext, run_bind_error hread]
  dsimp only
  rw [if_pos (splitMessage_error_isFatal hsplit)]
  have hversion : s₁.version = s.version := by rw [← clear_version, hclear, clear_version]
  have hfeatures : s₁.features = s.features := by rw [← clear_features, hclear, clear_features]
  exact ⟨by rw [← hversion, ← hfeatures]; rfl, rfl⟩

/-- A round that reads a message handles it on the session with the rest of the input unread,
and ends the session if handling fails fatally; the features and the variant's state are those
handling left. -/
theorem round_of_split {s : Session} (w : σ) (hlive : s.state ≠ .terminated) {h : Header}
    {body rest : List UInt8} (hsplit : splitMessage s.link.pending = .ok ((h, body), rest)) :
    ∃ s₁, s₁.clear = s.clear ∧ s₁.link.pending = rest ∧
      (runFrom v 1 (s, w)).2.1.link.pending = rest ∧
      (runFrom v 1 (s, w)).2.1.features = ((dispatch v h body).run.run (s₁, w)).2.1.features ∧
      (runFrom v 1 (s, w)).2.2 = ((dispatch v h body).run.run (s₁, w)).2.2 ∧
      ((runFrom v 1 (s, w)).2.1.state = .terminated ∨
        (runFrom v 1 (s, w)).2.1.state = ((dispatch v h body).run.run (s₁, w)).2.1.state) ∧
      (((dispatch v h body).run.run (s₁, w)).1 = .ok () →
        (runFrom v 1 (s, w)).2.1.state = ((dispatch v h body).run.run (s₁, w)).2.1.state) := by
  obtain ⟨s₁, hread, hclear, hpending⟩ := readMessage_run (σ := σ) s w
  rw [hsplit] at hread
  have hkeep := (Handler.dispatch v h body).keepsPending (s₁, w)
  refine ⟨s₁, hclear, hpending _ _ hsplit, ?_⟩
  rw [runFrom, if_neg hlive, processNext, run_bind_ok hread]
  dsimp only
  rcases hd : (dispatch v h body).run.run (s₁, w) with ⟨r, s₂, w₂⟩
  rw [hd] at hkeep
  have hrest : s₂.link.pending = rest := hkeep.trans (hpending _ _ hsplit)
  rcases r with e | ⟨⟩
  · dsimp only
    split
    · exact ⟨hrest, rfl, rfl, .inl rfl, fun h => by cases h⟩
    · exact ⟨hrest, rfl, rfl, .inr rfl, fun h => by cases h⟩
  · exact ⟨hrest, rfl, rfl, .inr rfl, fun _ => rfl⟩

/-- A round never takes the session back to an earlier state. -/
theorem round_rank_le (c : Session × σ) :
    c.1.state.rank ≤ (runFrom v 1 c).2.1.state.rank := by
  obtain ⟨s, w⟩ := c
  by_cases hend : s.state = .terminated
  · exact Nat.le_of_eq (by rw [runFrom_terminated v hend])
  rcases hsplit : splitMessage s.link.pending with e | ⟨⟨h, body⟩, rest⟩
  · rw [show (runFrom v 1 (s, w)).2.1.state = .terminated from
      congrArg Prod.fst (round_of_split_error v w hend hsplit).1]
    exact SessionState.rank_le_terminated _
  obtain ⟨s₁, hclear, -, -, -, -, hstate, -⟩ := round_of_split v w hend hsplit
  have hs₁ : s₁.state = s.state := by rw [← clear_state, hclear, clear_state]
  rcases hstate with hterm | hsame
  · rw [hterm]
    exact SessionState.rank_le_terminated _
  rw [hsame]
  rcases dispatch_standing v s₁ w h body with
    hkeep | ⟨-, -, hkeep⟩ | ⟨f, -, hconn, -, hkeep, -⟩
  all_goals simp only [standing, Prod.mk.injEq] at hkeep
  · exact Nat.le_of_eq (by rw [hkeep.1, hs₁])
  · exact Nat.le_of_eq (by rw [hkeep.1, hs₁])
  · rw [hkeep.1]
    rw [hs₁] at hconn
    cases hst : s.state <;> simp_all [SessionState.rank]

/-- A round that handles a features reply after the greeting records its features, establishes
the session and hands the reply to the variant. -/
theorem round_featuresReply {s : Session} (w : σ) (hlive : s.state ≠ .terminated)
    (hgreeted : s.state ≠ .connecting) {h : Header} {body rest : List UInt8}
    (hsplit : splitMessage s.link.pending = .ok ((h, body), rest)) {f : SwitchFeatures}
    (hparse : Message.parse h body = .ok (.featuresReply f)) :
    (runFrom v 1 (s, w)).2.1.features = some f ∧
      (runFrom v 1 (s, w)).2.1.state = .established ∧
      (runFrom v 1 (s, w)).2.2 = (v.featuresKnown f w).1 := by
  obtain ⟨s₁, hclear, -, -, hfeatures, hvariant, -, hok⟩ := round_of_split v w hlive hsplit
  have hs₁ : s₁.state ≠ .connecting := by
    rw [← clear_state, hclear, clear_state]
    exact hgreeted
  obtain ⟨j, hrun⟩ := dispatch_run_featuresReply v s₁ w hparse hs₁
  rw [hrun] at hfeatures hvariant hok
  exact ⟨hfeatures, hok rfl, hvariant⟩

/-- A features reply read before the session greeted the switch is dropped: reading and handling
it changes nothing but the log and the unread input. -/
theorem processNext_featuresReply_early (s : Session) (w : σ) (hs : s.state = .connecting)
    {h : Header} {body rest : List UInt8}
    (hsplit : splitMessage s.link.pending = .ok ((h, body), rest)) {f : SwitchFeatures}
    (hparse : Message.parse h body = .ok (.featuresReply f)) :
    ∃ s', (processNext v).run.run (s, w) = (.ok (), (s', w)) ∧ s'.clear = s.clear ∧
      s'.link.pending = rest := by
  obtain ⟨s₁, hread, hclear, hpending⟩ := readMessage_run (σ := σ) s w
  rw [hsplit] at hread
  have hs₁ : s₁.state = .connecting := by rw [← clear_state, hclear, clear_state, hs]
  rw [processNext, run_bind_ok hread]
  dsimp only
  rw [dispatch_run_featuresReply_early v s₁ w hparse hs₁]
  exact ⟨_, rfl, hclear, hpending _ _ hsplit⟩

/-! ### Handled messages -/

/-- A live session that has handled the first `k` messages of its input: the input after them
is still unread, its features are those of the last features reply among them, and it is
established exactly when it knows features. -/
structure Handled (input : List UInt8) (k : Nat) (s : Session) : Prop where
  unread : (splitMessages s.link.pending).1 = (splitMessages input).1.drop k
  features : s.features = lastFeaturesReply ((splitMessages input).1.take k)
  greeted : s.state = .awaitingFeatures ∨ s.state = .established
  established : s.state = .established ↔ s.features.isSome

theorem Handled.live {input : List UInt8} {k : Nat} {s : Session} (hs : Handled input k s) :
    s.state ≠ .terminated := by
  rcases hs.greeted with h | h <;> rw [h] <;> decide

/-- The message a live session handles next is the next message of its input. -/
theorem Handled.split {input : List UInt8} {k : Nat} {s : Session} (hs : Handled input k s)
    {m : Header × List UInt8} (hm : (splitMessages input).1[k]? = some m) :
    ∃ rest, splitMessage s.link.pending = .ok (m, rest) ∧
      (splitMessages rest).1 = (splitMessages input).1.drop (k + 1) := by
  obtain ⟨hk, hget⟩ := List.getElem?_eq_some_iff.1 hm
  have hdrop : (splitMessages input).1.drop k = m :: (splitMessages input).1.drop (k + 1) := by
    rw [List.drop_eq_getElem_cons hk, hget]
  rcases hsplit : splitMessage s.link.pending with e | ⟨m', rest⟩
  · have hnone := hs.unread
    rw [splitMessages_of_error hsplit, hdrop] at hnone
    cases hnone
  · have hsome := hs.unread
    rw [splitMessages_of_ok hsplit, hdrop] at hsome
    obtain ⟨rfl, hrest⟩ := List.cons.inj hsome
    exact ⟨rest, rfl, hrest⟩

/-- One round from a session that handled `k` messages either ends it, keeping its features,
or handles the next message. -/
theorem Handled.round {input : List UInt8} {k : Nat} {s : Session} (hs : Handled input k s)
    (w : σ) :
    ((runFrom v 1 (s, w)).2.1.state = .terminated ∧
        (runFrom v 1 (s, w)).2.1.features = s.features) ∨
      Handled input (k + 1) (runFrom v 1 (s, w)).2.1 := by
  rcases hm : (splitMessages input).1[k]? with _ | ⟨h, body⟩
  · have hnone : (splitMessages s.link.pending).1 = [] := by
      rw [hs.unread, List.drop_eq_nil_iff]
      exact List.getElem?_eq_none_iff.1 hm
    rcases hsplit : splitMessage s.link.pending with e | ⟨m, rest⟩
    · have hend := round_of_split_error v w hs.live hsplit
      exact .inl ⟨congrArg Prod.fst hend.1, congrArg (fun t => t.2.2) hend.1⟩
    · rw [splitMessages_of_ok hsplit] at hnone
      cases hnone
  obtain ⟨rest, hsplit, hrest⟩ := hs.split hm
  obtain ⟨s₁, hclear, -, hpending, hfeatures, -, hstate, hok⟩ :=
    round_of_split v w hs.live hsplit
  have hs₁ : s₁.standing = s.standing := standing_eq_of_clear hclear
  have hlast : lastFeaturesReply ((splitMessages input).1.take (k + 1)) =
      featuresAfter s.features (h, body) := by
    rw [lastFeaturesReply_take_succ hm, hs.features]
  by_cases hreply : ∃ f, Message.parse h body = .ok (.featuresReply f)
  · obtain ⟨f, hparse⟩ := hreply
    have hgreeted : s.state ≠ .connecting := by rcases hs.greeted with h | h <;> rw [h] <;> decide
    obtain ⟨hf, hest, -⟩ := round_featuresReply v w hs.live hgreeted hsplit hparse
    refine .inr ⟨?_, ?_, .inr hest, ?_⟩
    · rw [hpending, hrest]
    · rw [hf, hlast, featuresAfter_of_reply hparse]
    · simp [hf, hest]
  · have hnot : ∀ f, Message.parse h body ≠ .ok (.featuresReply f) :=
      fun f hf => hreply ⟨f, hf⟩
    have hkeep : ((dispatch v h body).run.run (s₁, w)).2.1.state = s.state ∧
        ((dispatch v h body).run.run (s₁, w)).2.1.features = s.features := by
      simp only [standing, Prod.mk.injEq] at hs₁
      rcases dispatch_standing v s₁ w h body with hk | ⟨-, -, hk⟩ | ⟨f, hparse, -⟩
      · simp only [standing, Prod.mk.injEq] at hk
        exact ⟨hk.1.trans hs₁.1, hk.2.2.trans hs₁.2.2⟩
      · simp only [standing, Prod.mk.injEq] at hk
        exact ⟨hk.1.trans hs₁.1, hk.2.2.trans hs₁.2.2⟩
      · exact absurd hparse (hnot f)
    rw [hkeep.2] at hfeatures
    rcases hstate with hterm | hsame
    · exact .inl ⟨hterm, hfeatures⟩
    rw [hkeep.1] at hsame
    refine .inr ⟨?_, ?_, ?_, ?_⟩
    · rw [hpending, hrest]
    · rw [hfeatures, hlast, featuresAfter_of_not_reply hnot]
    · rw [hsame]
      exact hs.greeted
    · rw [hsame, hfeatures]
      exact hs.established

/-! ### Along the run -/

/-- The greeted session has handled no message and awaits the switch's features. -/
theorem handled_zero {input : List UInt8} {s₀ : Session} (hclear : s₀.clear = greeted)
    (hpending : s₀.link.pending = input) : Handled input 0 s₀ where
  unread := by rw [hpending, List.drop_zero]
  features := by rw [← clear_features, hclear]; rfl
  greeted := .inl (by rw [← clear_state, hclear]; rfl)
  established := by rw [← clear_state, ← clear_features, hclear]; decide

/-- Every live point of a run from a session that handled no message has handled one message
per round. -/
theorem runFrom_handled (w : σ) {input : List UInt8} {s₀ : Session} (h₀ : Handled input 0 s₀)
    (k : Nat) (hlive : (runFrom v k (s₀, w)).2.1.state ≠ .terminated) :
    Handled input k (runFrom v k (s₀, w)).2.1 := by
  induction k with
  | zero => exact h₀
  | succ k ih =>
    rw [runFrom_add v k 1] at hlive ⊢
    have hk : (runFrom v k (s₀, w)).2.1.state ≠ .terminated := fun hend => by
      rw [runFrom_terminated v hend] at hlive
      exact hlive hend
    rcases (ih hk).round v (runFrom v k (s₀, w)).2.2 with ⟨hend, -⟩ | hnext
    · exact absurd hend hlive
    · exact hnext

/-- The lifecycle of a session's run. On a link whose writes succeed the run greets the switch,
writing a hello and a features request, and then goes round by round from a session awaiting the
switch's features. Along the rounds the state only moves forward, and it ends terminated. At
every point where the session is live it has handled the first messages of its input, one a
round: its features are those of the last features reply among them, each reply replacing the
one before whole, and it is established exactly when there was one. The round that handles a
features reply hands it to the variant, and the round that ends the session keeps its features.
On a link that refuses writes the session goes from connecting straight to terminated, knowing
no features. Handling a packet-in while awaiting the features only logs it, and a features reply
read before the greeting is dropped. -/
theorem run_lifecycle (v : Variant σ) (input : List UInt8) (w : σ) :
    (∃ s₀ : Session, s₀.clear = greeted ∧ s₀.state = .awaitingFeatures ∧
      s₀.features = none ∧ s₀.link.pending = input ∧
      (run v).run.run ({ link := { pending := input } }, w) =
        runFrom v (input.length + 1) (s₀, w) ∧
      (∀ k, (runFrom v k (s₀, w)).2.1.state.rank ≤
        (runFrom v (k + 1) (s₀, w)).2.1.state.rank) ∧
      (runFrom v (input.length + 1) (s₀, w)).2.1.state = .terminated ∧
      (∀ k, (runFrom v k (s₀, w)).2.1.state ≠ .terminated →
        (runFrom v k (s₀, w)).2.1.features =
          lastFeaturesReply ((splitMessages input).1.take k) ∧
        ((runFrom v k (s₀, w)).2.1.state = .established ↔
          (runFrom v k (s₀, w)).2.1.features.isSome)) ∧
      (∀ k h body f, (runFrom v k (s₀, w)).2.1.state ≠ .terminated →
        (splitMessages input).1[k]? = some (h, body) →
        Message.parse h body = .ok (.featuresReply f) →
        (runFrom v (k + 1) (s₀, w)).2.2 = (v.featuresKnown f (runFrom v k (s₀, w)).2.2).1) ∧
      (∀ k, (runFrom v k (s₀, w)).2.1.state ≠ .terminated →
        (runFrom v (k + 1) (s₀, w)).2.1.state = .terminated →
        (runFrom v (k + 1) (s₀, w)).2.1.features = (runFrom v k (s₀, w)).2.1.features)) ∧
    ((run v).run.run ({ link := { pending := input, writeFails := true } }, w)).2.1.state =
      .terminated ∧
    ((run v).run.run ({ link := { pending := input, writeFails := true } }, w)).2.1.features =
      none ∧
    (∀ (s : Session) (w' : σ) h body p, s.state = .awaitingFeatures →
      Message.parse h body = .ok (.packetIn p) →
      (dispatch v h body).run.run (s, w') = (.ok (), ({ s with journal :=
        ⟨.warn, "Packet-in before features reply, dropped"⟩ :: s.journal }, w'))) ∧
    (∀ (s : Session) (w' : σ) h body rest f, s.state = .connecting →
      splitMessage s.link.pending = .ok ((h, body), rest) →
      Message.parse h body = .ok (.featuresReply f) →
      ∃ s', (processNext v).run.run (s, w') = (.ok (), (s', w')) ∧ s'.clear = s.clear ∧
        s'.link.pending = rest) := by
  refine ⟨?_, rfl, rfl, fun s w' h body p hs hparse => ?_,
    fun s w' h body rest f hs hsplit hparse => ?_⟩
  · obtain ⟨s₀, hclear, hpending, hrun⟩ := run_eq_runFrom v input w
    have hpoints := runFrom_handled v w (handled_zero hclear hpending)
    have hstate : s₀.state = .awaitingFeatures := by rw [← clear_state, hclear]; rfl
    have hfeatures : s₀.features = none := by rw [← clear_features, hclear]; rfl
    refine ⟨s₀, hclear, hstate, hfeatures, hpending, hrun, fun k => ?_, ?_,
      fun k hk => ⟨(hpoints k hk).features, (hpoints k hk).established⟩,
      fun k h body f hk hm hparse => ?_, fun k hk hend => ?_⟩
    · rw [runFrom_add v k 1]
      exact round_rank_le v _
    · rw [← hrun]
      exact (run_fails_fatally v input w).2
    · obtain ⟨rest, hsplit, -⟩ := (hpoints k hk).split hm
      have hgreeted : (runFrom v k (s₀, w)).2.1.state ≠ .connecting := by
        rcases (hpoints k hk).greeted with hst | hst <;> rw [hst] <;> decide
      rw [runFrom_add v k 1]
      exact (round_featuresReply v _ (hpoints k hk).live hgreeted hsplit hparse).2.2
    · rw [runFrom_add v k 1] at hend ⊢
      rcases (hpoints k hk).round v (runFrom v k (s₀, w)).2.2 with ⟨-, hkeep⟩ | hnext
      · exact hkeep
      · exact absurd hend hnext.live
  · exact dispatch_run_packetIn_early v s w' hparse (by rw [hs]; decide)
  · exact processNext_featuresReply_early v s w' hs hsplit hparse

end Session

end OpenFlow
