import Mathlib.Data.Finset.Card
import OpenFlow.Proofs.FrameLayout

/-!
# The law of the learning table

Callers hand the table addresses as raw bytes. A run of learn calls (`LearningTable.learnAll`)
skips every call whose address is not six bytes long, and the table after it is described by
the calls alone: an address is sent to the port of its most recent learn
(`LearningTable.lastPort`), or flooded when it was never learned; the table holds one entry per
distinct address learned, and its text lists them in ascending byte order.

The proof keeps one invariant, `LearningTable.Sorted` (entries strictly ascending by address),
and one step fact, `find?_learnStep`; the run lemmas follow by induction over the calls.

Main statement: `LearningTable.learnAll_law`.
-/

namespace OpenFlow

namespace MacAddr

theorem toList_length (m : MacAddr) : m.toList.length = 6 := rfl

theorem ofList?_toList (m : MacAddr) : ofList? m.toList = some m := rfl

theorem ofList?_of_length_ne {bs : List UInt8} (h : bs.length ≠ 6) : ofList? bs = none := by
  unfold ofList?
  split
  · simp at h
  · rfl

theorem exists_toList_eq {bs : List UInt8} (h : bs.length = 6) : ∃ m : MacAddr, m.toList = bs := by
  rcases bs with _ | ⟨a, _ | ⟨b, _ | ⟨c, _ | ⟨d, _ | ⟨e, _ | ⟨f, _ | ⟨g, rest⟩⟩⟩⟩⟩⟩⟩
  all_goals simp at h
  exact ⟨⟨a, b, c, d, e, f⟩, rfl⟩

/-- The order of keys is the order of the bytes, first byte first. -/
theorem key_lt_iff (a b : MacAddr) : a.key < b.key ↔ a.toList < b.toList := by
  obtain ⟨a0, a1, a2, a3, a4, a5⟩ := a
  obtain ⟨b0, b1, b2, b3, b4, b5⟩ := b
  simp only [key, toList, List.foldl_cons, List.foldl_nil, List.cons_lt_cons_iff,
    List.not_lt_nil, and_false, or_false, UInt8.lt_iff_toNat_lt, ← UInt8.toNat_inj]
  have := UInt8.toNat_lt_size a0; have := UInt8.toNat_lt_size a1
  have := UInt8.toNat_lt_size a2; have := UInt8.toNat_lt_size a3
  have := UInt8.toNat_lt_size a4; have := UInt8.toNat_lt_size a5
  have := UInt8.toNat_lt_size b0; have := UInt8.toNat_lt_size b1
  have := UInt8.toNat_lt_size b2; have := UInt8.toNat_lt_size b3
  have := UInt8.toNat_lt_size b4; have := UInt8.toNat_lt_size b5
  simp only [UInt8.size] at *
  omega

end MacAddr

namespace LearningTable

/-! ### Addresses as bytes -/

theorem macOf_of_length_ne {bs : List UInt8} (h : bs.length ≠ 6) :
    macOf bs = .error (.invalidAddressLength bs.length) := by
  simp [macOf, MacAddr.ofList?_of_length_ne h]

theorem macOf_toList (m : MacAddr) : macOf m.toList = .ok m := by
  simp [macOf, MacAddr.ofList?_toList]

theorem learnBytes_of_length_ne (t : LearningTable) {mac : List UInt8} (port : UInt16)
    (h : mac.length ≠ 6) : t.learnBytes mac port = .error (.invalidAddressLength mac.length) := by
  simp [learnBytes, macOf_of_length_ne h, bind, Except.bind]

theorem learnBytes_toList (t : LearningTable) (m : MacAddr) (port : UInt16) :
    t.learnBytes m.toList port = .ok (t.learn m port) := by
  simp [learnBytes, macOf_toList]

theorem lookupBytes_of_length_ne (t : LearningTable) {mac : List UInt8} (h : mac.length ≠ 6) :
    t.lookupBytes mac = .error (.invalidAddressLength mac.length) := by
  simp [lookupBytes, macOf_of_length_ne h, bind, Except.bind]

theorem lookupBytes_toList (t : LearningTable) (m : MacAddr) :
    t.lookupBytes m.toList = .ok (t.lookup m) := by
  simp [lookupBytes, macOf_toList]

theorem lookup_eq_elim (t : LearningTable) (m : MacAddr) :
    t.lookup m = (t.find? m).elim .flood .physical := by
  unfold lookup
  rcases t.find? m with _ | p <;> rfl

/-- Comparing fails on the first address that is not six bytes long. -/
theorem macEqBytes_error_iff (a b : List UInt8) :
    (∃ e, macEqBytes a b = .error e) ↔ (a.length ≠ 6 ∨ b.length ≠ 6) := by
  by_cases ha : a.length = 6
  · obtain ⟨x, rfl⟩ := MacAddr.exists_toList_eq ha
    by_cases hb : b.length = 6
    · obtain ⟨y, rfl⟩ := MacAddr.exists_toList_eq hb
      simp [macEqBytes, macOf_toList, MacAddr.toList_length]
    · simp [macEqBytes, macOf_toList, macOf_of_length_ne hb, bind, Except.bind, hb]
  · simp [macEqBytes, macOf_of_length_ne ha, bind, Except.bind, ha]

theorem macEqBytes_toList (x y : MacAddr) :
    macEqBytes x.toList y.toList = .ok (Decidable.decide (x.toList = y.toList)) := by
  by_cases hxy : x = y
  · subst hxy
    simp [macEqBytes, macOf_toList]
  · have hne : x.toList ≠ y.toList := fun h => hxy (MacAddr.toList_inj h)
    simp [macEqBytes, macOf_toList, hxy, hne]

/-! ### Runs of learn calls -/

/-- One learn call with an address given as bytes; a refused call leaves the table as it was. -/
def learnStep (t : LearningTable) (call : List UInt8 × UInt16) : LearningTable :=
  match t.learnBytes call.1 call.2 with
  | .ok r => r.1
  | .error _ => t

/-- The table after a run of learn calls. -/
def learnAll (t : LearningTable) (calls : List (List UInt8 × UInt16)) : LearningTable :=
  calls.foldl learnStep t

/-- The port of the most recent call that learned `mac`, if any did. -/
def lastPort (mac : List UInt8) (calls : List (List UInt8 × UInt16)) : Option UInt16 :=
  (calls.reverse.find? (·.1 == mac)).map Prod.snd

theorem lastPort_cons (mac : List UInt8) (c : List UInt8 × UInt16)
    (calls : List (List UInt8 × UInt16)) :
    lastPort mac (c :: calls) = (lastPort mac calls).or (if c.1 = mac then some c.2 else none) := by
  by_cases hc : c.1 = mac <;> simp [lastPort, List.find?_append, hc]

theorem lastPort_isSome {mac : List UInt8} {calls : List (List UInt8 × UInt16)} :
    (lastPort mac calls).isSome ↔ mac ∈ calls.map Prod.fst := by
  simp only [lastPort, Option.isSome_map, List.find?_isSome, List.mem_reverse, beq_iff_eq,
    List.mem_map]

theorem learnStep_of_length_ne (t : LearningTable) (call : List UInt8 × UInt16)
    (h : call.1.length ≠ 6) : learnStep t call = t := by
  simp [learnStep, learnBytes_of_length_ne t call.2 h]

theorem learnStep_of_toList (t : LearningTable) (m : MacAddr) (port : UInt16) :
    learnStep t (m.toList, port) = ⟨insertSorted m port t.entries⟩ := by
  simp [learnStep, learnBytes_toList, learn_fst]

/-- A call sets the port of its own address when it is six bytes long and changes nothing else. -/
theorem find?_learnStep (t : LearningTable) (call : List UInt8 × UInt16) (m : MacAddr) :
    (learnStep t call).find? m = if call.1 = m.toList then some call.2 else t.find? m := by
  obtain ⟨bs, port⟩ := call
  by_cases hlen : bs.length = 6
  · obtain ⟨m', rfl⟩ := MacAddr.exists_toList_eq hlen
    rw [learnStep_of_toList, find?_insertSorted]
    by_cases hm : m = m'
    · subst hm
      simp
    · have hbytes : m'.toList ≠ m.toList := fun h => hm (MacAddr.toList_inj h).symm
      simp [hm, hbytes]
  · have hbytes : bs ≠ m.toList := fun h => hlen (h ▸ m.toList_length)
    simp [learnStep_of_length_ne t (bs, port) hlen, hbytes]

/-- After a run, an address is sent where its most recent learn put it, else where it was. -/
theorem find?_learnAll (t : LearningTable) (calls : List (List UInt8 × UInt16)) (m : MacAddr) :
    (learnAll t calls).find? m = (lastPort m.toList calls).or (t.find? m) := by
  induction calls generalizing t with
  | nil => simp [learnAll, lastPort]
  | cons c rest ih =>
    rw [learnAll, List.foldl_cons, ← learnAll, ih, find?_learnStep, lastPort_cons, Option.or_assoc]
    by_cases hc : c.1 = m.toList <;> simp [hc]

/-! ### Entries in address order -/

/-- Entries strictly ascending by address, so no address has two. -/
def Sorted (t : LearningTable) : Prop :=
  t.entries.Pairwise (fun a b => a.1.key < b.1.key)

theorem insertSorted_pairwise (mac : MacAddr) (port : UInt16) {es : List (MacAddr × UInt16)}
    (h : es.Pairwise (fun a b => a.1.key < b.1.key)) :
    (insertSorted mac port es).Pairwise (fun a b => a.1.key < b.1.key) := by
  fun_induction insertSorted mac port es with
  | case1 => simp
  | case2 m p rest hlt =>
    refine List.pairwise_cons.mpr ⟨?_, h⟩
    intro e he
    rcases List.mem_cons.mp he with rfl | he
    · exact hlt
    · exact Nat.lt_trans hlt ((List.pairwise_cons.mp h).1 e he)
  | case3 m p rest _ heq =>
    obtain ⟨hrest, hs⟩ := List.pairwise_cons.mp h
    refine List.pairwise_cons.mpr ⟨fun e he => ?_, hs⟩
    show mac.key < e.1.key
    rw [heq]
    exact hrest e he
  | case4 m p rest hlt hne ih =>
    obtain ⟨hrest, hs⟩ := List.pairwise_cons.mp h
    refine List.pairwise_cons.mpr ⟨?_, ih hs⟩
    intro e he
    rcases mem_insertSorted he with rfl | he
    · show m.key < mac.key
      omega
    · exact hrest e he

theorem Sorted.learnStep {t : LearningTable} (ht : t.Sorted) (call : List UInt8 × UInt16) :
    (t.learnStep call).Sorted := by
  obtain ⟨bs, port⟩ := call
  by_cases hlen : bs.length = 6
  · obtain ⟨m, rfl⟩ := MacAddr.exists_toList_eq hlen
    rw [LearningTable.learnStep_of_toList]
    exact insertSorted_pairwise m port ht
  · rwa [learnStep_of_length_ne t (bs, port) hlen]

theorem Sorted.learnAll {t : LearningTable} (ht : t.Sorted) (calls : List (List UInt8 × UInt16)) :
    (t.learnAll calls).Sorted := by
  induction calls generalizing t with
  | nil => exact ht
  | cons c rest ih => exact ih (ht.learnStep c)

/-- In a sorted table an entry is exactly what looking its address up finds. -/
theorem Sorted.mem_iff {t : LearningTable} (ht : t.Sorted) (m : MacAddr) (p : UInt16) :
    (m, p) ∈ t.entries ↔ t.find? m = some p := by
  obtain ⟨es⟩ := t
  induction es with
  | nil => simp [find?]
  | cons e rest ih =>
    obtain ⟨hrest, hs⟩ := List.pairwise_cons.mp ht
    rw [find?_cons, List.mem_cons]
    by_cases he : e.1 = m
    · obtain ⟨m', p'⟩ := e
      simp only at he
      subst he
      have hnot : (m', p) ∉ rest := fun hm => Nat.lt_irrefl _ (hrest (m', p) hm)
      simp [hnot, eq_comm]
    · have hne : (m, p) ≠ e := fun h => he (h ▸ rfl)
      rw [if_neg he, ← ih hs]
      simp [hne]

theorem sorted_empty : empty.Sorted := List.Pairwise.nil

theorem Sorted.pairwise_bytes {t : LearningTable} (ht : t.Sorted) :
    t.entries.Pairwise (fun e f => e.1.toList < f.1.toList) :=
  ht.imp fun hlt => (MacAddr.key_lt_iff _ _).mp hlt

/-! ### Runs from the empty table -/

theorem find?_learnAll_empty (calls : List (List UInt8 × UInt16)) (m : MacAddr) :
    (learnAll empty calls).find? m = lastPort m.toList calls := by
  rw [find?_learnAll]
  rcases lastPort m.toList calls with _ | p <;> rfl

/-- After a run from the empty table, the entries are the learned addresses, each with the port
of its most recent learn. -/
theorem mem_learnAll_empty (calls : List (List UInt8 × UInt16)) (m : MacAddr) (p : UInt16) :
    (m, p) ∈ (learnAll empty calls).entries ↔ lastPort m.toList calls = some p := by
  rw [(sorted_empty.learnAll calls).mem_iff, find?_learnAll_empty]

/-- The table counts each address learned once, however often it was seen. -/
theorem size_learnAll_empty (calls : List (List UInt8 × UInt16)) :
    (learnAll empty calls).size = ((calls.map Prod.fst).filter (·.length = 6)).toFinset.card := by
  have hnodup : ((learnAll empty calls).entries.map (·.1.toList)).Nodup := by
    apply List.pairwise_map.mpr
    exact (sorted_empty.learnAll calls).imp fun hlt heq =>
      Nat.ne_of_lt hlt (congrArg MacAddr.key (MacAddr.toList_inj heq))
  have hmem : ∀ bs, bs ∈ (learnAll empty calls).entries.map (·.1.toList) ↔
      bs ∈ (calls.map Prod.fst).filter (·.length = 6) := by
    intro bs
    rw [List.mem_filter, decide_eq_true_eq, List.mem_map]
    constructor
    · rintro ⟨⟨m, p⟩, he, rfl⟩
      have hlast := (mem_learnAll_empty calls m p).mp he
      exact ⟨lastPort_isSome.mp (by simp [hlast]), m.toList_length⟩
    · rintro ⟨hbs, hlen⟩
      obtain ⟨m, rfl⟩ := MacAddr.exists_toList_eq hlen
      obtain ⟨p, hp⟩ := Option.isSome_iff_exists.mp (lastPort_isSome.mpr hbs)
      exact ⟨(m, p), (mem_learnAll_empty calls m p).mpr hp, rfl⟩
  calc (learnAll empty calls).size
      = ((learnAll empty calls).entries.map (·.1.toList)).length := by simp [size]
    _ = ((learnAll empty calls).entries.map (·.1.toList)).toFinset.card :=
      (List.toFinset_card_of_nodup hnodup).symm
    _ = ((calls.map Prod.fst).filter (·.length = 6)).toFinset.card := by
      congr 1
      ext bs
      simp only [List.mem_toFinset, hmem]

/-- Two hosts seen six times, one three-byte address among them: two entries, latest ports. -/
example : (learnAll empty [([0xaa, 0xbb, 0xcc, 0xdd, 0xee, 1], 1), ([0xaa, 0xbb, 0xcc, 0xdd, 0xee, 2], 2),
    ([0xaa, 0xbb, 0xcc, 0xdd, 0xee, 1], 4), ([1, 2, 3], 9), ([0xaa, 0xbb, 0xcc, 0xdd, 0xee, 2], 7),
    ([0xaa, 0xbb, 0xcc, 0xdd, 0xee, 1], 2)]).entries =
    [(⟨0xaa, 0xbb, 0xcc, 0xdd, 0xee, 1⟩, 2), (⟨0xaa, 0xbb, 0xcc, 0xdd, 0xee, 2⟩, 7)] := by decide

/-! ### The law -/

/-- A run of learn calls from the empty table: a call is refused, changing nothing, exactly
when its address is not six bytes long, and so is a lookup; a six-byte address is sent to the
port of its most recent learn or flooded; the table counts each address learned once, and its
text lists one entry per address, ascending by bytes, with that address's latest port. Comparing
two addresses fails exactly when one is not six bytes long, and is byte equality otherwise. -/
theorem learnAll_law (calls : List (List UInt8 × UInt16)) (mac a b : List UInt8) (port : UInt16) :
    let t := learnAll empty calls
    (mac.length ≠ 6 → t.learnBytes mac port = .error (.invalidAddressLength mac.length) ∧
      learnStep t (mac, port) = t ∧
      t.lookupBytes mac = .error (.invalidAddressLength mac.length)) ∧
    (mac.length = 6 → (∃ r, t.learnBytes mac port = .ok r) ∧
      t.lookupBytes mac = .ok ((lastPort mac calls).elim .flood .physical)) ∧
    t.size = ((calls.map Prod.fst).filter (·.length = 6)).toFinset.card ∧
    (∃ es : List (MacAddr × UInt16),
      t.text = "Known Hosts:" ++
        String.join (es.map fun e => " " ++ e.1.text ++ "@" ++ toString e.2.toNat) ∧
      es.Pairwise (fun e f => e.1.toList < f.1.toList) ∧
      ∀ m q, (m, q) ∈ es ↔ lastPort m.toList calls = some q) ∧
    ((∃ e, macEqBytes a b = .error e) ↔ (a.length ≠ 6 ∨ b.length ≠ 6)) ∧
    (a.length = 6 → b.length = 6 → macEqBytes a b = .ok (Decidable.decide (a = b))) := by
  intro t
  refine ⟨fun hlen => ⟨learnBytes_of_length_ne t port hlen, learnStep_of_length_ne t (mac, port) hlen,
      lookupBytes_of_length_ne t hlen⟩, fun hlen => ?_, size_learnAll_empty calls,
    ⟨t.entries, rfl, (sorted_empty.learnAll calls).pairwise_bytes, mem_learnAll_empty calls⟩,
    macEqBytes_error_iff a b, fun ha hb => ?_⟩
  · obtain ⟨m, rfl⟩ := MacAddr.exists_toList_eq hlen
    refine ⟨⟨_, learnBytes_toList t m port⟩, ?_⟩
    rw [lookupBytes_toList, lookup_eq_elim, find?_learnAll_empty]
  · obtain ⟨x, rfl⟩ := MacAddr.exists_toList_eq ha
    obtain ⟨y, rfl⟩ := MacAddr.exists_toList_eq hb
    exact macEqBytes_toList x y

end LearningTable

end OpenFlow
