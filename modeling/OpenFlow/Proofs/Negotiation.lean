import OpenFlow.Proofs.Lifecycle

/-!
# The version a session speaks

A session starts out speaking version 1. A hello from the switch lowers the version to the
hello's own when that is older, and no other message changes it (`versionAfter`), so after some
messages the session speaks the least of 1 and the versions of the hellos among them
(`negotiatedVersion`). Every message it writes carries the version it speaks in its first byte:
a step that writes only messages stamped so, and keeps the version, is `Session.Stamps`, a
property closed under binding like `Session.Handler`.

A round of the run says what handling the message it reads says (`Session.round_voice`). Along
the run (`Session.run_version_negotiation`), the version at each live point is the negotiated
version of the messages handled so far, each round stamps what it writes with the version of the
point before it, and so the version bytes of everything written (`Link.versionBytes`) start with
the greeting's two ones and never rise (`Session.VersionsFall`).
-/

namespace OpenFlow

/-! ### Negotiated versions -/

/-- Whether a message is a hello, by its type byte. -/
def isHello (m : Header × List UInt8) : Bool :=
  m.1.typeCode == MsgCode.hello.toByte

/-- The version a session speaks after a message: a hello's own when that is older, else the
one it spoke before. -/
def versionAfter (v : UInt8) (m : Header × List UInt8) : UInt8 :=
  if isHello m then min v m.1.version else v

/-- The version a session speaks after some messages: the least of version 1 and the versions
of the hellos among them. -/
def negotiatedVersion (msgs : List (Header × List UInt8)) : UInt8 :=
  ((msgs.filter isHello).map (·.1.version)).foldl min protocolVersion

theorem versionAfter_le (v : UInt8) (m : Header × List UInt8) : versionAfter v m ≤ v := by
  unfold versionAfter
  split
  · exact Std.min_le_left
  · exact UInt8.le_refl v

theorem versionAfter_of_not_hello {m : Header × List UInt8} (h : isHello m = false) (v : UInt8) :
    versionAfter v m = v := by
  rw [versionAfter, h, if_neg Bool.false_ne_true]

theorem foldl_min_le_init (a : UInt8) (l : List UInt8) : l.foldl min a ≤ a := by
  induction l generalizing a with
  | nil => exact UInt8.le_refl a
  | cons x l ih => exact UInt8.le_trans (ih (min a x)) Std.min_le_left

theorem foldl_min_le_of_mem {x : UInt8} {l : List UInt8} (hx : x ∈ l) (a : UInt8) :
    l.foldl min a ≤ x := by
  induction l generalizing a with
  | nil => cases hx
  | cons y l ih =>
    rw [List.foldl_cons]
    rcases List.mem_cons.1 hx with rfl | hx
    · exact UInt8.le_trans (foldl_min_le_init _ l) Std.min_le_right
    · exact ih hx _

theorem negotiatedVersion_le (msgs : List (Header × List UInt8)) :
    negotiatedVersion msgs ≤ protocolVersion :=
  foldl_min_le_init _ _

/-- The negotiated version is no newer than any hello among the messages. -/
theorem negotiatedVersion_le_of_hello {msgs : List (Header × List UInt8)}
    {m : Header × List UInt8} (hm : m ∈ msgs) (hello : isHello m) :
    negotiatedVersion msgs ≤ m.1.version :=
  foldl_min_le_of_mem (List.mem_map_of_mem (List.mem_filter.2 ⟨hm, hello⟩)) _

theorem negotiatedVersion_append_singleton (msgs : List (Header × List UInt8))
    (m : Header × List UInt8) :
    negotiatedVersion (msgs ++ [m]) = versionAfter (negotiatedVersion msgs) m := by
  unfold negotiatedVersion versionAfter
  rw [List.filter_append, List.map_append, List.foldl_append]
  by_cases h : isHello m <;> simp [h]

theorem negotiatedVersion_take_succ {msgs : List (Header × List UInt8)} {k : Nat}
    {m : Header × List UInt8} (h : msgs[k]? = some m) :
    negotiatedVersion (msgs.take (k + 1)) = versionAfter (negotiatedVersion (msgs.take k)) m := by
  rw [List.take_add_one, h, Option.toList_some, negotiatedVersion_append_singleton]

/-- A body read under a header is a hello exactly when the header's type byte is a hello's. -/
theorem Message.parse_eq_hello_iff (h : Header) (body : List UInt8) :
    Message.parse h body = .ok .hello ↔ isHello (h, body) := by
  simp only [isHello, beq_iff_eq]
  constructor
  · intro hparse
    rcases hcode : h.code with e | c
    · rw [Message.parse, hcode] at hparse
      cases hparse
    · have hc : c = .hello := by
        rw [Message.parse, hcode, except_ok_bind] at hparse
        cases c
        case hello => rfl
        case error | featuresReply | packetIn | packetOut | flowMod =>
          obtain ⟨_, -, hk⟩ := except_ok_of_bind hparse
          cases hk
        all_goals cases hparse
      rw [Header.code, hc, MsgCode.ofByte_eq_ok] at hcode
      exact hcode.symm
  · intro htype
    have hcode : h.code = .ok .hello := by rw [Header.code, htype]; rfl
    rw [Message.parse, hcode]
    rfl

/-! ### Steps that stamp what they write -/

namespace Session

variable {σ α β : Type}

/-- A step that keeps the version the session speaks and writes only messages whose first byte
is that version. -/
def Stamps (m : SessionM σ α) : Prop :=
  ∀ c, (m.run.run c).2.1.version = c.1.version ∧
    ∃ new, (m.run.run c).2.1.link.sentRev = new ++ c.1.link.sentRev ∧
      ∀ b ∈ new, b.head? = some c.1.version

namespace Stamps

theorem of_voice {m : SessionM σ α}
    (h : ∀ c, (m.run.run c).2.1.version = c.1.version ∧
      (m.run.run c).2.1.link.sentRev = c.1.link.sentRev) : Stamps m :=
  fun c => ⟨(h c).1, [], (h c).2, by simp⟩

theorem pure (a : α) : Stamps (Pure.pure a : SessionM σ α) :=
  of_voice fun _ => ⟨rfl, rfl⟩

theorem bind {m : SessionM σ α} {k : α → SessionM σ β} (hm : Stamps m)
    (hk : ∀ a, Stamps (k a)) : Stamps (m >>= k) := by
  intro c
  obtain ⟨hver, new, hsent, hnew⟩ := hm c
  rcases hr : m.run.run c with ⟨_ | a, c₁⟩ <;> rw [hr] at hver hsent
  · rw [run_bind_error hr]
    exact ⟨hver, new, hsent, hnew⟩
  · rw [run_bind_ok hr]
    obtain ⟨hver', new', hsent', hnew'⟩ := hk a c₁
    refine ⟨hver'.trans hver, new' ++ new, by rw [hsent', hsent, List.append_assoc], ?_⟩
    intro b hb
    rcases List.mem_append.1 hb with hb | hb
    · rw [hnew' b hb, hver]
    · exact hnew b hb

theorem log (level : Level) (text : String) :
    Stamps (Session.log level text : SessionM σ Unit) :=
  of_voice fun _ => ⟨rfl, rfl⟩

theorem hook (f : σ → σ × List LogLine × α) : Stamps (Session.hook f) :=
  of_voice fun ⟨s, w⟩ => by rw [run_hook]; exact ⟨rfl, rfl⟩

/-- A written message starts with its header, whose first byte is the session's version. -/
theorem send (xid : UInt32) (m : Message) : Stamps (Session.send xid m : SessionM σ Unit) := by
  rintro ⟨s, w⟩
  rw [run_send]
  rcases hencode : Message.encode s.version xid m with e | bytes
  · exact ⟨rfl, [], rfl, by simp⟩
  · obtain ⟨-, body, -, rfl⟩ := Message.encode_ok hencode
    cases hwf : s.link.writeFails
    · refine ⟨rfl, [_], rfl, ?_⟩
      simp [Header.encode]
    · exact ⟨rfl, [], rfl, by simp⟩

theorem inject (v : Variant σ) : Stamps (Session.inject v) := by
  unfold Session.inject
  refine (hook _).bind fun injection => ?_
  split
  · exact (log _ _).bind fun _ => send _ _
  · exact pure ()

theorem packetIn (v : Variant σ) (xid : UInt32) (p : PacketIn) : Stamps (packetIn v xid p) := by
  rintro ⟨s, w⟩
  rcases hflow : flowOf? xid p with e | flow?
  · rw [packetIn_run_of_error v xid p hflow]
    exact ⟨rfl, [], rfl, by simp⟩
  · obtain ⟨j, hrun⟩ := packetIn_run_of_ok v xid p hflow s w
    rw [hrun]
    exact ((send _ _).bind fun _ => inject v) _

end Stamps

/-! ### Handling a message -/

section Dispatch

variable (v : Variant σ)

/-- Handling anything but a hello keeps the version and stamps what it writes with it. -/
theorem stamps_dispatch {h : Header} {body : List UInt8} (hne : isHello (h, body) = false) :
    Stamps (dispatch v h body) := by
  rintro ⟨s, w⟩
  rcases hparse : Message.parse h body with e | m
  · rw [dispatch_run_of_parse_error v h body hparse]
    exact ⟨rfl, [], rfl, by simp⟩
  cases m with
  | hello =>
    rw [Message.parse_eq_hello_iff, hne] at hparse
    cases hparse
  | error r =>
    rw [dispatch_run_of_errorReport v h body hparse]
    exact ⟨rfl, [], rfl, by simp⟩
  | echoRequest d =>
    rw [dispatch_run_echoRequest v s w hparse]
    exact Stamps.send _ _ _
  | featuresReply f =>
    by_cases hs : s.state = .connecting
    · rw [dispatch_run_featuresReply_early v s w hparse hs]
      exact ⟨rfl, [], rfl, by simp⟩
    · obtain ⟨j, hrun⟩ := dispatch_run_featuresReply v s w hparse hs
      rw [hrun]
      exact ⟨rfl, [], rfl, by simp⟩
  | packetIn p =>
    by_cases hs : s.state = .established
    · rw [dispatch_run_packetIn v s w hparse hs]
      exact Stamps.packetIn v _ p _
    · rw [dispatch_run_packetIn_early v s w hparse hs]
      exact ⟨rfl, [], rfl, by simp⟩
  | _ =>
    rw [dispatch_run_of_not_handled v s w hparse rfl]
    exact ⟨rfl, [], rfl, by simp⟩

/-- Handling a message leaves the version `versionAfter` gives, and stamps whatever it writes
with the version spoken before: a hello writes nothing. -/
theorem dispatch_stamps (h : Header) (body : List UInt8) (s : Session) (w : σ) :
    ((dispatch v h body).run.run (s, w)).2.1.version = versionAfter s.version (h, body) ∧
      ∃ new, ((dispatch v h body).run.run (s, w)).2.1.link.sentRev = new ++ s.link.sentRev ∧
        ∀ b ∈ new, b.head? = some s.version := by
  cases hhello : isHello (h, body)
  · obtain ⟨hver, hnew⟩ := stamps_dispatch v hhello (s, w)
    exact ⟨hver.trans (versionAfter_of_not_hello hhello _).symm, hnew⟩
  · obtain ⟨j, hrun⟩ := dispatch_run_hello v s w ((Message.parse_eq_hello_iff h body).2 hhello)
    rw [hrun]
    refine ⟨?_, [], rfl, by simp⟩
    show (if h.version < s.version then h.version else s.version) = versionAfter s.version (h, body)
    rw [versionAfter, hhello, if_pos rfl, Std.min_eq_if]
    by_cases hlt : h.version < s.version
    · rw [if_pos hlt, if_neg (UInt8.not_le.2 hlt)]
    · rw [if_neg hlt, if_pos (UInt8.not_lt.1 hlt)]

end Dispatch

/-! ### Rounds -/

/-- What a session tells the switch: the version it speaks and the messages it wrote. -/
def voice (s : Session) : UInt8 × List (List UInt8) :=
  (s.version, s.link.sentRev)

@[simp] theorem voice_clear (s : Session) : s.clear.voice = s.voice := rfl

theorem voice_eq_of_clear {s t : Session} (h : s.clear = t.clear) : s.voice = t.voice := by
  rw [← voice_clear s, h, voice_clear]

variable (v : Variant σ)

/-- A round of a live session says what handling the message it reads says, and nothing new
when no message can be read: reading, ending the session and dropping a message only log. -/
theorem round_voice {s : Session} (w : σ) (hlive : s.state ≠ .terminated) :
    (runFrom v 1 (s, w)).2.1.voice = match splitMessage s.link.pending with
      | .ok ((h, body), _) => ((dispatch v h body).run.run (s, w)).2.1.voice
      | .error _ => s.voice := by
  obtain ⟨s₁, hread, hclear, -⟩ := readMessage_run (σ := σ) s w
  rw [runFrom, if_neg hlive, processNext]
  rcases hsplit : splitMessage s.link.pending with e | ⟨⟨h, body⟩, rest⟩ <;>
    rw [hsplit] at hread
  · rw [run_bind_error hread]
    dsimp only
    rw [if_pos (splitMessage_error_isFatal hsplit)]
    exact (rfl : _ = s₁.voice).trans (voice_eq_of_clear hclear)
  · rw [run_bind_ok hread]
    dsimp only
    have hsame := voice_eq_of_clear ((Handler.dispatch v h body).run_congr w hclear).2.1
    rcases hd : (dispatch v h body).run.run (s₁, w) with ⟨r, s₂, w₂⟩
    rw [hd] at hsame
    rcases r with e | ⟨⟩
    · dsimp only
      split
      · exact hsame
      · exact hsame
    · exact hsame

/-- A round stamps what it writes with the version of the session before it, and leaves a
version no newer. -/
theorem round_stamps (s : Session) (w : σ) :
    (runFrom v 1 (s, w)).2.1.version ≤ s.version ∧
      ∃ new, (runFrom v 1 (s, w)).2.1.link.sentRev = new ++ s.link.sentRev ∧
        ∀ b ∈ new, b.head? = some s.version := by
  by_cases hend : s.state = .terminated
  · rw [runFrom_terminated v hend]
    exact ⟨UInt8.le_refl _, [], rfl, by simp⟩
  have hvoice := round_voice v w hend
  rcases hsplit : splitMessage s.link.pending with e | ⟨⟨h, body⟩, rest⟩ <;>
    rw [hsplit] at hvoice <;> simp only [voice, Prod.mk.injEq] at hvoice <;> rw [hvoice.1, hvoice.2]
  · exact ⟨UInt8.le_refl _, [], rfl, by simp⟩
  · obtain ⟨hver, hnew⟩ := dispatch_stamps v h body s w
    exact ⟨hver ▸ versionAfter_le _ _, hnew⟩

/-- From a live session that handled `k` messages speaking their negotiated version, a round
leaves the negotiated version of one message more: the next message's, or the same when the
input holds no further message. -/
theorem Handled.version_succ {input : List UInt8} {k : Nat} {s : Session}
    (hs : Handled input k s) (hver : s.version = negotiatedVersion ((splitMessages input).1.take k))
    (w : σ) :
    (runFrom v 1 (s, w)).2.1.version =
      negotiatedVersion ((splitMessages input).1.take (k + 1)) := by
  have hvoice := congrArg Prod.fst (round_voice v w hs.live)
  rcases hm : (splitMessages input).1[k]? with _ | ⟨h, body⟩
  · have hlen : (splitMessages input).1.length ≤ k := List.getElem?_eq_none_iff.1 hm
    rw [List.take_of_length_le (Nat.le_succ_of_le hlen), ← List.take_of_length_le hlen, ← hver]
    rcases hsplit : splitMessage s.link.pending with e | ⟨m, rest⟩
    · rw [hsplit] at hvoice
      exact hvoice
    · have hnone := hs.unread
      rw [splitMessages_of_ok hsplit, List.drop_eq_nil_of_le hlen] at hnone
      cases hnone
  · obtain ⟨rest, hsplit, -⟩ := hs.split hm
    rw [hsplit] at hvoice
    rw [negotiatedVersion_take_succ hm, ← hver]
    exact hvoice.trans (dispatch_stamps v h body s w).1

/-- At every live point of a run from a session that handled no message and speaks version 1,
the session speaks the negotiated version of the messages handled so far. -/
theorem runFrom_version (w : σ) {input : List UInt8} {s₀ : Session} (h₀ : Handled input 0 s₀)
    (hv₀ : s₀.version = protocolVersion) (k : Nat)
    (hlive : (runFrom v k (s₀, w)).2.1.state ≠ .terminated) :
    (runFrom v k (s₀, w)).2.1.version = negotiatedVersion ((splitMessages input).1.take k) := by
  induction k with
  | zero => exact hv₀
  | succ k ih =>
    have hk : (runFrom v k (s₀, w)).2.1.state ≠ .terminated := fun hend => by
      rw [runFrom_add v k 1, runFrom_terminated v hend] at hlive
      exact hlive hend
    rw [runFrom_add v k 1]
    exact (runFrom_handled v w h₀ k hk).version_succ v (ih hk) _

/-! ### The version bytes of the output -/

/-- What a session has written: messages that each begin with a version byte, those bytes never
rising from an older message to a newer one, and none below the version it speaks now. -/
structure VersionsFall (s : Session) : Prop where
  stamped : ∀ b ∈ s.link.sentRev, ∃ x, b.head? = some x
  falling : (s.link.sentRev.filterMap List.head?).Pairwise (· ≤ ·)
  above : ∀ x ∈ s.link.sentRev.filterMap List.head?, s.version ≤ x

theorem mem_filterMap_head_of_stamped {new : List (List UInt8)} {v x : UInt8}
    (hnew : ∀ b ∈ new, b.head? = some v) (hx : x ∈ new.filterMap List.head?) : x = v := by
  obtain ⟨b, hb, hbx⟩ := List.mem_filterMap.1 hx
  rw [hnew b hb] at hbx
  exact (Option.some.inj hbx).symm

/-- A round keeps the versions written falling: it writes at the session's version, which no
older message is below, and never raises the version. -/
theorem VersionsFall.round {s : Session} (hs : VersionsFall s) (w : σ) :
    VersionsFall (runFrom v 1 (s, w)).2.1 := by
  obtain ⟨hle, new, hsent, hnew⟩ := round_stamps v s w
  have hold : ∀ x ∈ new.filterMap List.head?, x = s.version :=
    fun x hx => mem_filterMap_head_of_stamped hnew hx
  refine ⟨fun b hb => ?_, ?_, fun x hx => ?_⟩
  · rw [hsent] at hb
    rcases List.mem_append.1 hb with hb | hb
    · exact ⟨_, hnew b hb⟩
    · exact hs.stamped b hb
  · rw [hsent, List.filterMap_append, List.pairwise_append]
    refine ⟨?_, hs.falling, fun x hx y hy => ?_⟩
    · refine List.Pairwise.imp_of_mem ?_ (List.pairwise_of_forall fun _ _ => UInt8.le_refl s.version)
      intro a b ha hb _
      rw [hold a ha, hold b hb]
      exact UInt8.le_refl _
    · rw [hold x hx]
      exact hs.above y hy
  · rw [hsent, List.filterMap_append] at hx
    rcases List.mem_append.1 hx with hx | hx
    · rw [hold x hx]
      exact hle
    · exact UInt8.le_trans hle (hs.above x hx)

theorem runFrom_versionsFall (w : σ) {s₀ : Session} (h₀ : VersionsFall s₀) (k : Nat) :
    VersionsFall (runFrom v k (s₀, w)).2.1 := by
  induction k with
  | zero => exact h₀
  | succ k ih =>
    rw [runFrom_add v k 1]
    exact ih.round v _

theorem greeted_versionsFall {s₀ : Session} (hclear : s₀.clear = greeted) : VersionsFall s₀ := by
  have hsent : s₀.link.sentRev = greeted.link.sentRev := congrArg (·.link.sentRev) hclear
  have hver : s₀.version = greeted.version := by rw [← clear_version, hclear]
  refine ⟨fun b hb => ?_, ?_, fun x hx => ?_⟩
  · rw [hsent] at hb
    simp only [greeted, List.mem_cons, List.not_mem_nil, or_false] at hb
    rcases hb with rfl | rfl <;> exact ⟨_, rfl⟩
  · rw [hsent]
    decide
  · rw [hsent] at hx
    rw [hver]
    simp only [greeted, Header.encode, List.filterMap_cons, List.head?_cons, List.filterMap_nil,
      List.mem_cons, List.not_mem_nil, or_false] at hx
    rcases hx with rfl | rfl <;> decide

end Session

/-- The version bytes of the messages written since the link was last collected, oldest
first. -/
def Link.versionBytes (l : Link) : List UInt8 :=
  l.sentRev.reverse.filterMap List.head?

namespace Session

variable {σ : Type}

/-- The version a run speaks and writes with. A new session on a link whose writes succeed
greets the switch at version 1 and then goes round by round. At every live point it speaks the
least of 1 and the versions of the hellos it handled so far, and so no newer version than any of
them; the round after such a point writes only messages whose first byte is the version of that
point, and leaves the negotiated version of one message more, also when it ends the session,
after which nothing changes. So the version bytes of all that the run writes begin with the
greeting's two ones and never rise. Handling a message changes the version only for a hello,
to the hello's own when that is older. On a link that refuses writes the run writes nothing and
speaks version 1. -/
theorem run_version_negotiation (v : Variant σ) (input : List UInt8) (w : σ) :
    (∃ s₀ : Session, s₀.clear = greeted ∧ s₀.version = protocolVersion ∧
      s₀.link.pending = input ∧
      (run v).run.run ({ link := { pending := input } }, w) =
        runFrom v (input.length + 1) (s₀, w) ∧
      (∀ k, (runFrom v k (s₀, w)).2.1.state ≠ .terminated →
        (runFrom v k (s₀, w)).2.1.version =
          negotiatedVersion ((splitMessages input).1.take k) ∧
        (∀ m ∈ (splitMessages input).1.take k, isHello m →
          (runFrom v k (s₀, w)).2.1.version ≤ m.1.version) ∧
        (runFrom v (k + 1) (s₀, w)).2.1.version =
          negotiatedVersion ((splitMessages input).1.take (k + 1)) ∧
        ∃ new, (runFrom v (k + 1) (s₀, w)).2.1.link.sentRev =
            new ++ (runFrom v k (s₀, w)).2.1.link.sentRev ∧
          ∀ b ∈ new, b.head? = some (runFrom v k (s₀, w)).2.1.version) ∧
      (∀ k, (runFrom v k (s₀, w)).2.1.state = .terminated →
        (runFrom v (k + 1) (s₀, w)).2 = (runFrom v k (s₀, w)).2)) ∧
    (∃ rest, ((run v).run.run ({ link := { pending := input } }, w)).2.1.link.versionBytes =
      protocolVersion :: protocolVersion :: rest) ∧
    ((run v).run.run ({ link := { pending := input } }, w)).2.1.link.versionBytes.Pairwise
      (· ≥ ·) ∧
    (∀ b ∈ ((run v).run.run ({ link := { pending := input } }, w)).2.1.link.sentRev, b ≠ []) ∧
    (∀ (s : Session) (w' : σ) h body,
      ((dispatch v h body).run.run (s, w')).2.1.version = versionAfter s.version (h, body)) ∧
    ((run v).run.run ({ link := { pending := input, writeFails := true } }, w)).2.1.version =
      protocolVersion ∧
    ((run v).run.run ({ link := { pending := input, writeFails := true } }, w)).2.1.link.sentRev =
      [] := by
  obtain ⟨s₀, hclear, hpending, hrun⟩ := run_eq_runFrom v input w
  have h₀ := handled_zero hclear hpending
  have hv₀ : s₀.version = protocolVersion := by rw [← clear_version, hclear]; rfl
  have hfall := runFrom_versionsFall v w (greeted_versionsFall hclear) (input.length + 1)
  rw [← hrun] at hfall
  have hgreeting : ∃ new, ((run v).run.run ({ link := { pending := input } }, w)).2.1.link.sentRev =
      new ++ greeted.link.sentRev := by
    have happ : ∀ k, ∃ new, (runFrom v k (s₀, w)).2.1.link.sentRev = new ++ s₀.link.sentRev := by
      intro k
      induction k with
      | zero => exact ⟨[], rfl⟩
      | succ k ih =>
        obtain ⟨new, hnew⟩ := ih
        obtain ⟨-, new', hnew', -⟩ := round_stamps v (runFrom v k (s₀, w)).2.1
          (runFrom v k (s₀, w)).2.2
        rw [runFrom_add v k 1]
        exact ⟨new' ++ new, by rw [hnew', hnew, List.append_assoc]⟩
    rw [hrun, ← congrArg (·.link.sentRev) hclear]
    exact happ _
  refine ⟨⟨s₀, hclear, hv₀, hpending, hrun, fun k hk => ?_, fun k hk => ?_⟩, ?_, ?_, ?_,
    fun s w' h body => (dispatch_stamps v h body s w').1, rfl, rfl⟩
  · have hver := runFrom_version v w h₀ hv₀ k hk
    obtain ⟨-, new, hnew, hstamp⟩ := round_stamps v (runFrom v k (s₀, w)).2.1
      (runFrom v k (s₀, w)).2.2
    refine ⟨hver, fun m hm hello => hver ▸ negotiatedVersion_le_of_hello hm hello, ?_, new, ?_,
      hstamp⟩
    · rw [runFrom_add v k 1]
      exact (runFrom_handled v w h₀ k hk).version_succ v hver _
    · rw [runFrom_add v k 1]
      exact hnew
  · rw [runFrom_add v k 1, runFrom_terminated v hk]
  · obtain ⟨new, hnew⟩ := hgreeting
    refine ⟨new.reverse.filterMap List.head?, ?_⟩
    rw [Link.versionBytes, hnew, List.reverse_append, List.filterMap_append]
    rfl
  · rw [Link.versionBytes, List.filterMap_reverse, List.pairwise_reverse]
    exact hfall.falling
  · intro b hb hnil
    obtain ⟨x, hx⟩ := hfall.stamped b hb
    rw [hnil] at hx
    cases hx

end Session

end OpenFlow
