import OpenFlow.Endpoint
import OpenFlow.Proofs.IpText

/-!
# Connection strings read back

`Endpoint.text` writes an endpoint as its scheme, a colon and its target (`toList_text`), and
`Endpoint.parse` splits a string at its first colon and the target at its first colon again
(`splitColon`). A listening endpoint is written port first (`ptcp:PORT:IP`), so its target
splits at the colon after the port, and it reads back for every address. A connecting endpoint
is written address first (`tcp:IP:PORT`): an IPv4 address has no colon and reads back, but an
IPv6 address is cut at its own first colon, and what is left before it is no address
(`parse_text_tcp_v6`). The string has no place for an IPv6 socket address's flow label and scope
id, so a listening endpoint reads back with both zero (`parse_text_passiveTcp`). A local socket
reads back when its path is not empty.

Whatever string an endpoint is read from starts with its scheme and a colon (`parse_scheme`),
so the endpoint listens exactly when the string starts with `ptcp:` or `punix:`.

Main statement: `text_parse_round_trip`.
-/

namespace OpenFlow.SocketAddr

/-- A socket address is made from its address and port alone exactly when it carries no flow
label and no scope id. -/
theorem new_ip_port_eq_iff (a : SocketAddr) :
    SocketAddr.new a.ip a.port = a ↔ ∀ g p fl sc, a = .v6 g p fl sc → fl = 0 ∧ sc = 0 := by
  cases a with
  | v4 b p => exact ⟨(fun _ _ _ _ _ h => nomatch h), fun _ => rfl⟩
  | v6 g p fl sc =>
    simp only [SocketAddr.new, SocketAddr.ip, SocketAddr.port, v6.injEq, true_and]
    constructor
    · rintro ⟨rfl, rfl⟩ _ _ _ _ ⟨-, -, rfl, rfl⟩
      exact ⟨rfl, rfl⟩
    · intro h
      obtain ⟨hfl, hsc⟩ := h g p fl sc ⟨rfl, rfl, rfl, rfl⟩
      exact ⟨hfl.symm, hsc.symm⟩

end OpenFlow.SocketAddr

namespace OpenFlow.Endpoint

/-- The text before the first colon of an endpoint's connection string. -/
def scheme : Endpoint → String
  | .tcp _ => "tcp"
  | .passiveTcp _ => "ptcp"
  | .unix _ => "unix"
  | .passiveUnix _ => "punix"

/-- The text after the first colon of an endpoint's connection string. -/
def target : Endpoint → String
  | .tcp a => a.ip.text ++ ":" ++ toString a.port
  | .passiveTcp a => toString a.port ++ ":" ++ a.ip.text
  | .unix path => path
  | .passiveUnix path => path

/-! ### The first colon -/

theorem colon_not_mem_takeWhile (cs : List Char) : ':' ∉ cs.takeWhile (· ≠ ':') := by
  intro h
  have := List.all_eq_true.mp List.all_takeWhile ':' h
  simp at this

/-- Text with a colon is the text before its first colon, the colon and the rest. -/
theorem eq_takeWhile_colon {cs : List Char} (h : (cs.takeWhile (· ≠ ':')).length ≠ cs.length) :
    cs = cs.takeWhile (· ≠ ':') ++ ':' :: cs.drop ((cs.takeWhile (· ≠ ':')).length + 1) := by
  induction cs with
  | nil => simp at h
  | cons c cs ih =>
    by_cases hc : c = ':'
    · subst hc
      simp
    · rw [List.takeWhile_cons_of_pos (by simpa using hc)] at h ⊢
      simp only [List.length_cons, ne_eq, Nat.add_right_cancel_iff] at h
      simp only [List.length_cons, List.cons_append, List.drop_succ_cons]
      exact congrArg (c :: ·) (ih h)

theorem takeWhile_colon_of_not_mem {a : List Char} (b : List Char) (ha : ':' ∉ a) :
    (a ++ ':' :: b).takeWhile (· ≠ ':') = a := by
  induction a with
  | nil => simp
  | cons c a ih =>
    have hc : c ≠ ':' := fun h => ha (h ▸ List.mem_cons_self)
    rw [List.cons_append, List.takeWhile_cons_of_pos (by simpa using hc),
      ih (fun h => ha (List.mem_cons_of_mem c h))]

/-- Text that goes on with a colon after a colon-free part splits there. -/
theorem splitColon_eq {s a b : String} (hs : s.toList = a.toList ++ ':' :: b.toList)
    (ha : ':' ∉ a.toList) : splitColon s = some (a, b) := by
  simp only [splitColon, hs, takeWhile_colon_of_not_mem _ ha]
  rw [if_neg (by simp)]
  simp

/-- A split at the first colon gives back the text around that colon. -/
theorem splitColon_eq_some {conn first rest : String}
    (h : splitColon conn = some (first, rest)) :
    conn.toList = first.toList ++ ':' :: rest.toList ∧ ':' ∉ first.toList := by
  simp only [splitColon] at h
  split at h
  · cases h
  · rename_i hlen
    simp only [Option.some.injEq, Prod.mk.injEq] at h
    obtain ⟨rfl, rfl⟩ := h
    simp only [String.toList_ofList]
    exact ⟨eq_takeWhile_colon hlen, colon_not_mem_takeWhile _⟩

/-- Text with a colon splits. -/
theorem splitColon_of_mem {s : String} (h : ':' ∈ s.toList) :
    ∃ first rest, splitColon s = some (first, rest) := by
  have hlen : (s.toList.takeWhile (· ≠ ':')).length ≠ s.toList.length := by
    intro hlen
    have hall := (List.takeWhile_prefix (· ≠ ':')).eq_of_length hlen
    have h' : ':' ∈ s.toList.takeWhile (· ≠ ':') := by
      rw [hall]
      exact h
    exact colon_not_mem_takeWhile s.toList h'
  simp only [splitColon]
  rw [if_neg hlen]
  exact ⟨_, _, rfl⟩

/-! ### Ports and addresses -/

theorem isEmpty_of_toList_ne {s : String} (h : s.toList ≠ []) : s.isEmpty = false :=
  String.isEmpty_eq_false_iff.mpr fun he => h (String.toList_eq_nil_iff.mpr he)

theorem toList_toString (p : UInt16) : (toString p).toList = Nat.toDigits 10 p.toNat := by
  show (toString p.toNat).toList = _
  simp

/-- A character that is no decimal digit is not in a port's text. -/
theorem not_mem_toString {c : Char} (hc : c.isDigit = false) (p : UInt16) :
    c ∉ (toString p).toList := by
  rw [toList_toString]
  exact IpAddr.not_mem_toDigits hc p.toNat

/-- Leading zeros add nothing to a decimal value. -/
theorem foldl_dropWhile_zero (ds : List Char) :
    (ds.dropWhile (· = '0')).foldl (fun acc c => acc * 10 + (c.toNat - 48)) 0 =
      ds.foldl (fun acc c => acc * 10 + (c.toNat - 48)) 0 := by
  induction ds with
  | nil => rfl
  | cons c ds ih =>
    by_cases hc : c = '0'
    · subst hc
      simp [ih]
    · simp [hc]

/-- A port is read back from its decimal text. -/
theorem parseUInt16?_toString (p : UInt16) : parseUInt16? (toString p) = some p := by
  have hne : Nat.toDigits 10 p.toNat ≠ [] := Nat.toDigits_ne_nil
  have hdig : (Nat.toDigits 10 p.toNat).all Char.isDigit = true :=
    List.all_eq_true.mpr fun c hc => Nat.isDigit_of_mem_toDigits (by decide) (by decide) hc
  have hlen : (Nat.toDigits 10 p.toNat).length ≤ 5 :=
    (Nat.length_toDigits_le_iff (by decide) (by decide)).mpr (by have := p.toNat_lt; omega)
  have hval : (Nat.toDigits 10 p.toNat).foldl (fun acc c => acc * 10 + (c.toNat - 48)) 0 =
      p.toNat :=
    IpAddr.foldl_toDigits p.toNat
  obtain ⟨c, rest, hcr⟩ := List.exists_cons_of_ne_nil hne
  have hc : c ≠ '+' := by
    intro h
    rw [hcr, h] at hdig
    simp at hdig
  rw [hcr] at hdig hlen hval
  have hdrop : ((c :: rest).dropWhile (· = '0')).length ≤ 5 :=
    Nat.le_trans (List.dropWhile_suffix _).length_le hlen
  simp only [parseUInt16?, toList_toString, hcr]
  simp [hc, hdig, hdrop, foldl_dropWhile_zero, hval, p.toNat_lt]

theorem port_toString (p : UInt16) : port (toString p) = .ok p := by
  have hne : (toString p).isEmpty = false := by
    apply isEmpty_of_toList_ne
    rw [toList_toString]
    exact Nat.toDigits_ne_nil
  simp [port, hne, parseUInt16?_toString]

theorem address_text (ip : IpAddr) : address ip.text = .ok ip := by
  simp [address, IpAddr.parse?_text]

theorem isEmpty_text (ip : IpAddr) : ip.text.isEmpty = false := by
  apply String.isEmpty_eq_false_iff.mpr
  intro h
  have hparse := IpAddr.parse?_text ip
  rw [h] at hparse
  cases hparse

/-! ### Connection strings -/

theorem toString_string (s : String) : toString s = s := rfl

theorem toList_text (e : Endpoint) : e.text.toList = e.scheme.toList ++ ':' :: e.target.toList := by
  cases e <;> simp [text, scheme, target, toString_string]

/-- Every connection string splits into its scheme and its target. -/
theorem splitColon_text (e : Endpoint) : splitColon e.text = some (e.scheme, e.target) :=
  splitColon_eq (toList_text e) (by cases e <;> simp [scheme])

theorem parse_text_tcp {a : SocketAddr} (hip : ':' ∉ a.ip.text.toList) :
    parse (text (.tcp a)) = .ok (.tcp (.new a.ip a.port)) := by
  have htarget : splitColon (a.ip.text ++ ":" ++ toString a.port) =
      some (a.ip.text, toString a.port) :=
    splitColon_eq (by simp) hip
  simp [parse, splitColon_text, scheme, target, htarget, isEmpty_text, address_text, port_toString]

/-- A listening endpoint reads back with its address and port, and no flow label or scope id. -/
theorem parse_text_passiveTcp (a : SocketAddr) :
    parse (text (.passiveTcp a)) = .ok (.passiveTcp (.new a.ip a.port)) := by
  have htarget : splitColon (toString a.port ++ ":" ++ a.ip.text) =
      some (toString a.port, a.ip.text) :=
    splitColon_eq (by simp) (not_mem_toString (by decide) a.port)
  simp [parse, splitColon_text, scheme, target, htarget, isEmpty_text, address_text, port_toString]

theorem parse_text_unix {path : String} (h : path ≠ "") :
    parse (text (.unix path)) = .ok (.unix path) := by
  simp [parse, splitColon_text, scheme, target, h]

theorem parse_text_passiveUnix {path : String} (h : path ≠ "") :
    parse (text (.passiveUnix path)) = .ok (.passiveUnix path) := by
  simp [parse, splitColon_text, scheme, target, h]

/-- An IPv6 address is written with colons, so the first of them is taken for the end of the
address: the connection string names no endpoint. -/
theorem parse_text_tcp_v6 (g : Vector UInt16 8) (p : UInt16) (fl sc : UInt32) :
    ∃ err, parse (text (.tcp (.v6 g p fl sc))) = .error err := by
  have hmem : ':' ∈ (target (.tcp (.v6 g p fl sc))).toList := by simp [target, SocketAddr.ip]
  obtain ⟨first, second, hsplit⟩ := splitColon_of_mem hmem
  obtain ⟨hcs, hcolon⟩ := splitColon_eq_some hsplit
  have hfirst : first.toList = ((IpAddr.text (.v6 g)).toList ++ ':' :: (toString p).toList).takeWhile
      (· ≠ ':') := by
    rw [← takeWhile_colon_of_not_mem second.toList hcolon, ← hcs]
    simp [target, SocketAddr.ip, SocketAddr.port]
  have hdot : '.' ∉ first.toList := by
    rw [hfirst]
    exact IpAddr.dot_not_mem_takeWhile_text_v6 g (not_mem_toString (by decide) p)
  have hbad : address first = .error (.badAddress first) := by
    simp [address, IpAddr.parse?_of_not_mem hcolon hdot]
  rcases hempty : first.isEmpty
  · refine ⟨.badAddress first, ?_⟩
    simp [parse, splitColon_text, scheme, hsplit, hempty, hbad]
    rfl
  · exact ⟨.missingTarget (text (.tcp (.v6 g p fl sc))),
      by simp [parse, splitColon_text, scheme, hsplit, hempty]⟩

/-- The loopback address written as a connecting endpoint leaves nothing before its first colon. -/
example : parse "tcp:::1:6633" = .error (.missingTarget "tcp:::1:6633") := rfl

/-- A connection string that names an endpoint starts with the endpoint's scheme and a colon. -/
theorem parse_scheme {s : String} {e : Endpoint} (h : parse s = .ok e) :
    ∃ rest, splitColon s = some (e.scheme, rest) := by
  unfold parse at h
  rcases hs : splitColon s with _ | ⟨sch, tgt⟩
  · rw [hs] at h
    cases h
  · rw [hs] at h
    refine ⟨tgt, ?_⟩
    rcases hsecond : splitColon tgt with _ | ⟨a, b⟩ <;> simp only [hsecond] at h
    all_goals
      split at h
      · rename_i htcp
        split at h
        · cases h
        · obtain ⟨ip, -, h⟩ := except_ok_of_bind h
          obtain ⟨p, -, h⟩ := except_ok_of_bind h
          cases h
          rw [htcp]
          rfl
      · split at h
        · rename_i hptcp
          obtain ⟨p, -, h⟩ := except_ok_of_bind h
          repeat' split at h
          all_goals
            obtain ⟨ip, -, h⟩ := except_ok_of_bind h
            cases h
            rw [hptcp]
            rfl
        · split at h
          · rename_i hlocal
            split at h
            · cases h
            · split at h
              · rename_i hunix
                cases h
                rw [hunix]
                rfl
              · rename_i hunix
                cases h
                have hpunix : sch = "punix" := by simpa [hunix] using hlocal
                rw [hpunix]
                rfl
          · cases h

theorem parse_text_unix_empty : parse (text (.unix "")) = .error (.missingTarget (text (.unix ""))) := by
  simp [parse, splitColon_text, scheme, target]

theorem parse_text_passiveUnix_empty :
    parse (text (.passiveUnix "")) = .error (.missingTarget (text (.passiveUnix ""))) := by
  simp [parse, splitColon_text, scheme, target]

/-- An endpoint listens exactly when the string it was read from starts with `ptcp:` or
`punix:`. -/
theorem isPassive_iff_prefix {s : String} {e : Endpoint} (h : parse s = .ok e) :
    e.isPassive = true ↔ "ptcp:".toList <+: s.toList ∨ "punix:".toList <+: s.toList := by
  obtain ⟨rest, hsplit⟩ := parse_scheme h
  rw [(splitColon_eq_some hsplit).1]
  cases e <;> simp [scheme, isPassive]

/-- The connection string of an endpoint reads back as the endpoint, except for a connecting
endpoint with an IPv6 address, which reads as no endpoint at all, a listening endpoint with an
IPv6 flow label or scope id, which reads back without them, and a local socket with an empty
path. An endpoint read from any string listens exactly when the string starts with `ptcp:` or
`punix:`. -/
theorem text_parse_round_trip (e : Endpoint) (s : String) :
    (parse e.text = .ok e ↔
      (∀ g p fl sc, e ≠ .tcp (.v6 g p fl sc)) ∧
      (∀ g p fl sc, e = .passiveTcp (.v6 g p fl sc) → fl = 0 ∧ sc = 0) ∧
      e ≠ .unix "" ∧ e ≠ .passiveUnix "") ∧
    ((∃ g p fl sc, e = .tcp (.v6 g p fl sc)) → ∃ err, parse e.text = .error err) ∧
    (∀ a, e = .passiveTcp a → parse e.text = .ok (.passiveTcp (.new a.ip a.port))) ∧
    (parse s = .ok e →
      (e.isPassive = true ↔ "ptcp:".toList <+: s.toList ∨ "punix:".toList <+: s.toList)) := by
  refine ⟨⟨fun h => ?_, fun h => ?_⟩, ?_, fun a he => he ▸ parse_text_passiveTcp a,
    isPassive_iff_prefix⟩
  · refine ⟨fun g p fl sc he => ?_, fun g p fl sc he => ?_, fun he => ?_, fun he => ?_⟩
    · subst he
      obtain ⟨err, herr⟩ := parse_text_tcp_v6 g p fl sc
      rw [herr] at h
      cases h
    · subst he
      rw [parse_text_passiveTcp] at h
      simp only [SocketAddr.new, SocketAddr.ip, SocketAddr.port, Except.ok.injEq,
        passiveTcp.injEq, SocketAddr.v6.injEq, true_and] at h
      exact ⟨h.1.symm, h.2.symm⟩
    · subst he
      rw [parse_text_unix_empty] at h
      cases h
    · subst he
      rw [parse_text_passiveUnix_empty] at h
      cases h
  · obtain ⟨hv6, hplain, hunix, hpunix⟩ := h
    cases e with
    | tcp a =>
      cases a with
      | v4 ip p => exact parse_text_tcp (IpAddr.colon_not_mem_dottedQuad ip)
      | v6 g p fl sc => exact absurd rfl (hv6 g p fl sc)
    | passiveTcp a =>
      rw [parse_text_passiveTcp, (SocketAddr.new_ip_port_eq_iff a).2
        (fun g p fl sc ha => hplain g p fl sc (by rw [ha]))]
    | unix path => exact parse_text_unix (fun hp => hunix (by rw [hp]))
    | passiveUnix path => exact parse_text_passiveUnix (fun hp => hpunix (by rw [hp]))
  · rintro ⟨g, p, fl, sc, rfl⟩
    exact parse_text_tcp_v6 g p fl sc

/-- The IPv6 loopback address with no flow label or scope id reads back as a listening endpoint;
as a connecting endpoint it does not. -/
theorem loopback_listen_reads_back :
    parse (text (.passiveTcp (.v6 ⟨#[0, 0, 0, 0, 0, 0, 0, 1], rfl⟩ 6633 0 0))) =
      .ok (.passiveTcp (.v6 ⟨#[0, 0, 0, 0, 0, 0, 0, 1], rfl⟩ 6633 0 0)) ∧
    ∃ err, parse (text (.tcp (.v6 ⟨#[0, 0, 0, 0, 0, 0, 0, 1], rfl⟩ 6633 0 0))) = .error err :=
  ⟨(text_parse_round_trip (.passiveTcp (.v6 ⟨#[0, 0, 0, 0, 0, 0, 0, 1], rfl⟩ 6633 0 0)) "").1.2
      ⟨(fun _ _ _ _ h => nomatch h), (fun _ _ _ _ h => by cases h; exact ⟨rfl, rfl⟩),
        by decide, by decide⟩,
    (text_parse_round_trip (.tcp (.v6 ⟨#[0, 0, 0, 0, 0, 0, 0, 1], rfl⟩ 6633 0 0)) "").2.1
      ⟨_, _, _, _, rfl⟩⟩

end OpenFlow.Endpoint
