import OpenFlow.Net.Ip
import OpenFlow.Proofs.Words

/-!
# IP addresses read back from their text

`IpAddr.text` writes an address and `IpAddr.parse?` reads one; every address reads back as
itself (`IpAddr.parse?_text`). The reading is built from runs of digits (`digitRun`, `number`),
so the first part shows that the digits of a number, decimal (`Nat.toDigits`) or hexadecimal
(`Text.hexDigits`), are read back as the number when a character that is no digit follows them
(`number_toDigits`, `number_hexDigits`). Then a dotted quad is read back
(`ipv4Prefix_dottedQuad`), a list of groups joined by colons (`groups_groupsText`), and the
three forms of an IPv6 address: all eight groups, the short form whose `::` stands for the run
of zero groups `longestZeroRun` finds (`longestZeroRun_spec`), and an IPv4-mapped address.

Text with neither a colon nor a dot is no address (`parse?_of_not_mem`); this is what a
connection string meets when an IPv6 address in it is cut at its first colon.
-/

namespace OpenFlow.IpAddr

/-! ### Runs of digits -/

/-- A character that is a digit of the radix. -/
def IsDigit (radix : Nat) (c : Char) : Prop :=
  (digitValue radix c).isSome

/-- Text that does not go on with a digit of the radix. -/
def Stops (radix : Nat) (rest : List Char) : Prop :=
  ∀ c r, rest = c :: r → digitValue radix c = none

/-- The value of a digit, zero for a character that is none. -/
def valueOf (radix : Nat) (c : Char) : Nat :=
  (digitValue radix c).getD 0

/-- The number a list of digits spells, most significant first. -/
def spell (radix : Nat) (ds : List Char) : Nat :=
  (ds.map (valueOf radix)).foldl (fun acc d => acc * radix + d) 0

theorem stops_nil (radix : Nat) : Stops radix [] := by
  intro c r h
  cases h

theorem digitRun_append (radix : Nat) {k : Nat} {ds : List Char} (rest : List Char)
    (hds : ∀ c ∈ ds, IsDigit radix c) (hk : ds.length < k) (hstop : Stops radix rest) :
    digitRun radix k (ds ++ rest) = (ds.map (valueOf radix), rest) := by
  induction ds generalizing k with
  | nil =>
    obtain ⟨k, rfl⟩ : ∃ k', k = k' + 1 := ⟨k - 1, by simp at hk; omega⟩
    rcases rest with _ | ⟨c, r⟩
    · rfl
    · simp [digitRun, hstop c r rfl]
  | cons c ds ih =>
    obtain ⟨k, rfl⟩ : ∃ k', k = k' + 1 := ⟨k - 1, by simp at hk; omega⟩
    obtain ⟨d, hd⟩ := Option.isSome_iff_exists.mp (hds c (by simp))
    have hrest := ih (fun x hx => hds x (by simp [hx])) (by simp at hk; omega)
    simp [digitRun, hd, hrest, valueOf]

/-- A run of at most `maxDigits` digits below the limit, with no leading zero where none is
allowed, is read as the number it spells. -/
theorem number_append {radix maxDigits limit : Nat} {zeroPrefix : Bool} {ds : List Char}
    (rest : List Char) (hds : ∀ c ∈ ds, IsDigit radix c) (hne : ds ≠ [])
    (hlen : ds.length ≤ maxDigits) (hstop : Stops radix rest) (hlimit : spell radix ds < limit)
    (hzero : zeroPrefix = true ∨ ds.length = 1 ∨ ∀ c, ds.head? = some c → valueOf radix c ≠ 0) :
    number radix maxDigits limit zeroPrefix (ds ++ rest) = some (spell radix ds, rest) := by
  have hrun := digitRun_append radix rest hds (Nat.lt_succ_of_le hlen) hstop
  have hlimit' : ¬ (ds.map (valueOf radix)).foldl (fun acc d => acc * radix + d) 0 ≥ limit :=
    Nat.not_le_of_lt hlimit
  have hprefix : ¬ (!zeroPrefix && decide ((ds.map (valueOf radix)).length > 1) &&
      decide ((ds.map (valueOf radix)).head? = some 0)) = true := by
    rcases hzero with h | h | h
    · simp [h]
    · simp [h]
    · cases ds with
      | nil => exact absurd rfl hne
      | cons c ds => simp [h c rfl]
  simp only [number, hrun, spell]
  rw [if_neg (by simp [hne, hlen]; omega), if_neg hprefix]

/-! ### Decimal numbers -/

theorem digitValue_of_isDigit (radix : Nat) {c : Char} (h : c.isDigit = true) :
    digitValue radix c = some (c.toNat - 48) := by
  simp [digitValue, h]

/-- The decimal digits of `n` make `n` again. -/
theorem foldl_toDigits (n : Nat) :
    (Nat.toDigits 10 n).foldl (fun acc c => acc * 10 + (c.toNat - 48)) 0 = n := by
  have key : Nat.ofDigitChars 10 (Nat.toDigits 10 n) 0 = n := Nat.ofDigitChars_ten_toDigits
  rw [Nat.ofDigitChars_eq_foldl] at key
  simpa [Nat.mul_comm] using key

/-- The decimal digits of `n` spell `n`. -/
theorem spell_toDigits (n : Nat) : spell 10 (Nat.toDigits 10 n) = n := by
  have hmap : ∀ c ∈ Nat.toDigits 10 n, valueOf 10 c = c.toNat - 48 := by
    intro c hc
    simp [valueOf, digitValue_of_isDigit 10 (Nat.isDigit_of_mem_toDigits (by decide) (by decide) hc)]
  rw [spell, List.map_congr_left hmap, List.foldl_map]
  exact foldl_toDigits n

/-- The decimal digits of a number of two or more digits do not start with zero. -/
theorem toDigits_head_ne_zero {n : Nat} (hn : 10 ≤ n) : (Nat.toDigits 10 n).head? ≠ some '0' := by
  induction n using Nat.strongRecOn with
  | ind n ih =>
    rw [Nat.toDigits_of_base_le (by decide) hn, List.head?_append]
    by_cases hsmall : n / 10 < 10
    · rw [Nat.toDigits_of_lt_base hsmall]
      have hpos : n / 10 ≠ 0 := by omega
      simp [hpos]
    · have hne : Nat.toDigits 10 (n / 10) ≠ [] := Nat.toDigits_ne_nil
      obtain ⟨c, l, hc⟩ := List.exists_cons_of_ne_nil hne
      have := ih (n / 10) (by omega) (by omega)
      rw [hc] at this ⊢
      simpa using this

/-- A decimal number is read back from its digits when no digit follows them. -/
theorem number_toDigits {maxDigits limit : Nat} (zeroPrefix : Bool) {n : Nat} (rest : List Char)
    (hn : n < limit) (hdigits : n < 10 ^ maxDigits) (hmax : 0 < maxDigits) (hstop : Stops 10 rest) :
    number 10 maxDigits limit zeroPrefix (Nat.toDigits 10 n ++ rest) = some (n, rest) := by
  have hds : ∀ c ∈ Nat.toDigits 10 n, IsDigit 10 c := by
    intro c hc
    simp [IsDigit, digitValue_of_isDigit 10 (Nat.isDigit_of_mem_toDigits (by decide) (by decide) hc)]
  have hlen : (Nat.toDigits 10 n).length ≤ maxDigits :=
    (Nat.length_toDigits_le_iff (by decide) hmax).mpr hdigits
  have hzero : zeroPrefix = true ∨ (Nat.toDigits 10 n).length = 1 ∨
      ∀ c, (Nat.toDigits 10 n).head? = some c → valueOf 10 c ≠ 0 := by
    by_cases hsmall : n < 10
    · exact .inr (.inl (by simp [Nat.toDigits_of_lt_base hsmall]))
    · have h10 : 10 ≤ n := by omega
      refine .inr (.inr fun c hc hzero => toDigits_head_ne_zero h10 ?_)
      have hmem : c ∈ Nat.toDigits 10 n := List.mem_of_head? hc
      have hdig := Nat.isDigit_of_mem_toDigits (by decide) (by decide) hmem
      have hval : c.toNat - 48 = 0 := by
        simpa [valueOf, digitValue_of_isDigit 10 hdig] using hzero
      have hbounds := Char.isDigit_iff_toNat.mp hdig
      rw [hc]
      congr 1
      apply Char.toNat_inj.mp
      simp only [Char.reduceToNat] at hbounds ⊢
      omega
  rw [number_append rest hds Nat.toDigits_ne_nil hlen hstop (by rw [spell_toDigits]; exact hn) hzero,
    spell_toDigits]

/-- A character that is no decimal digit is not among the digits of a number. -/
theorem not_mem_toDigits {c : Char} (hc : c.isDigit = false) (n : Nat) : c ∉ Nat.toDigits 10 n := by
  intro h
  rw [Nat.isDigit_of_mem_toDigits (by decide) (by decide) h] at hc
  cases hc

theorem spell_append_singleton (radix : Nat) (ds : List Char) (c : Char) :
    spell radix (ds ++ [c]) = spell radix ds * radix + valueOf radix c := by
  simp [spell, List.foldl_append]

/-! ### Hexadecimal groups -/

theorem digitValue_hexDigit : ∀ d, d < 16 → digitValue 16 (Text.hexDigit d) = some d := by
  decide

theorem hexDigits_isDigit (n : Nat) : ∀ c ∈ Text.hexDigits n, IsDigit 16 c := by
  fun_induction Text.hexDigits n with
  | case1 n hn =>
    intro c hc
    simp only [List.mem_singleton] at hc
    simp [hc, IsDigit, digitValue_hexDigit n hn]
  | case2 n hn ih =>
    intro c hc
    rcases List.mem_append.mp hc with hc | hc
    · exact ih c hc
    · simp only [List.mem_singleton] at hc
      simp [hc, IsDigit, digitValue_hexDigit (n % 16) (Nat.mod_lt _ (by decide))]

/-- The hexadecimal digits of `n` spell `n`. -/
theorem spell_hexDigits (n : Nat) : spell 16 (Text.hexDigits n) = n := by
  fun_induction Text.hexDigits n with
  | case1 n hn => simp [spell, valueOf, digitValue_hexDigit n hn]
  | case2 n hn ih =>
    rw [spell_append_singleton, ih, valueOf, digitValue_hexDigit (n % 16) (Nat.mod_lt _ (by decide))]
    simp only [Option.getD_some]
    omega

theorem length_hexDigits {n k : Nat} (hn : n < 16 ^ k) (hk : 0 < k) : (Text.hexDigits n).length ≤ k := by
  fun_induction Text.hexDigits n generalizing k with
  | case1 n _ =>
    simp only [List.length_singleton]
    omega
  | case2 n hn' ih =>
    obtain ⟨k, rfl⟩ : ∃ k', k = k' + 1 := ⟨k - 1, by omega⟩
    have hk' : 0 < k := by
      rcases Nat.eq_zero_or_pos k with rfl | h
      · simp at hn; omega
      · exact h
    have hdiv : n / 16 < 16 ^ k := by
      rw [Nat.pow_succ] at hn
      omega
    simpa using ih hdiv hk'

theorem hexDigits_ne_nil (n : Nat) : Text.hexDigits n ≠ [] := by
  rw [Text.hexDigits]
  split <;> simp

/-- A group of four hexadecimal digits at most is read back when no digit follows it. -/
theorem number_hexDigits {n : Nat} (rest : List Char) (hn : n < 65536) (hstop : Stops 16 rest) :
    number 16 4 65536 true (Text.hexDigits n ++ rest) = some (n, rest) := by
  rw [number_append rest (hexDigits_isDigit n) (hexDigits_ne_nil n)
    (length_hexDigits (show n < 16 ^ 4 from hn) (by decide)) hstop (by rw [spell_hexDigits]; exact hn) (.inl rfl),
    spell_hexDigits]

/-! ### Dotted quads -/

theorem digitValue_dot (radix : Nat) : digitValue radix '.' = none := by
  simp [digitValue]

theorem digitValue_colon (radix : Nat) : digitValue radix ':' = none := by
  simp [digitValue]

theorem stops_dot (radix : Nat) (r : List Char) : Stops radix ('.' :: r) := by
  intro c r' h
  cases h
  exact digitValue_dot radix

theorem stops_colon (radix : Nat) (r : List Char) : Stops radix (':' :: r) := by
  intro c r' h
  cases h
  exact digitValue_colon radix

/-- A dotted quad is the four bytes of the address in decimal, joined by dots. -/
theorem toList_dottedQuad (a : UInt32) :
    (dottedQuad a).toList = Nat.toDigits 10 (a >>> 24).toUInt8.toNat ++ '.' ::
      (Nat.toDigits 10 (a >>> 16).toUInt8.toNat ++ '.' ::
        (Nat.toDigits 10 (a >>> 8).toUInt8.toNat ++ '.' :: Nat.toDigits 10 a.toUInt8.toNat)) := by
  simp [dottedQuad, be32]

theorem colon_not_mem_dottedQuad (a : UInt32) : ':' ∉ (dottedQuad a).toList := by
  simp [toList_dottedQuad, not_mem_toDigits (show ':'.isDigit = false by decide)]

theorem number_octet (b : UInt8) (rest : List Char) (hstop : Stops 10 rest) :
    number 10 3 256 false (Nat.toDigits 10 b.toNat ++ rest) = some (b.toNat, rest) :=
  number_toDigits false rest b.toNat_lt (by have := b.toNat_lt; omega) (by decide) hstop

/-- The four bytes of a word, most significant first, make the word again. -/
theorem octets_value (a : UInt32) :
    ((((a >>> 24).toUInt8.toNat * 256 + (a >>> 16).toUInt8.toNat) * 256 +
      (a >>> 8).toUInt8.toNat) * 256 + a.toUInt8.toNat).toUInt32 = a := by
  have h := word32_toNat (a >>> 24).toUInt8 (a >>> 16).toUInt8 (a >>> 8).toUInt8 a.toUInt8
  rw [word32_bytes] at h
  rw [show (((a >>> 24).toUInt8.toNat * 256 + (a >>> 16).toUInt8.toNat) * 256 +
      (a >>> 8).toUInt8.toNat) * 256 + a.toUInt8.toNat = a.toNat by omega]
  exact UInt32.ofNat_toNat

/-- A dotted quad is read back as its address when no digit follows it. -/
theorem ipv4Prefix_dottedQuad (a : UInt32) (rest : List Char) (hstop : Stops 10 rest) :
    ipv4Prefix ((dottedQuad a).toList ++ rest) = some (a, rest) := by
  rw [toList_dottedQuad]
  simp only [ipv4Prefix, List.append_assoc, List.cons_append, number_octet _ _ (stops_dot 10 _),
    number_octet _ _ hstop, Option.bind_eq_bind, Option.bind_some, octets_value]
  rfl

theorem digitRun_suffix (radix k : Nat) (cs : List Char) : (digitRun radix k cs).2 <:+ cs := by
  induction cs generalizing k with
  | nil => cases k <;> exact List.suffix_refl []
  | cons c cs ih =>
    cases k with
    | zero => exact List.suffix_refl _
    | succ k =>
      rcases hd : digitValue radix c with _ | d
      · simp only [digitRun, hd]
        exact List.suffix_refl _
      · simp only [digitRun, hd]
        exact (ih k).trans (List.suffix_cons c cs)

/-- What is left after a number is what follows its digits. -/
theorem number_suffix {radix maxDigits limit : Nat} {zeroPrefix : Bool} {cs r : List Char} {v : Nat}
    (h : number radix maxDigits limit zeroPrefix cs = some (v, r)) : r <:+ cs := by
  have hsuf := digitRun_suffix radix (maxDigits + 1) cs
  rcases hrun : digitRun radix (maxDigits + 1) cs with ⟨ds, rest⟩
  rw [hrun] at hsuf
  simp only [number, hrun] at h
  split at h
  · cases h
  · split at h
    · cases h
    · cases h
      exact hsuf

/-- Reading an IPv4 address takes a dot. -/
theorem dot_mem_of_ipv4Prefix {cs : List Char} {a : UInt32} {r : List Char}
    (h : ipv4Prefix cs = some (a, r)) : '.' ∈ cs := by
  simp only [ipv4Prefix, Option.bind_eq_bind, Option.bind_eq_some_iff] at h
  obtain ⟨⟨a1, r1⟩, h1, h⟩ := h
  have hsuf := number_suffix h1
  rcases r1 with _ | ⟨c, r1⟩
  · simp at h
  · by_cases hc : c = '.'
    · subst hc
      exact hsuf.subset (List.mem_cons_self)
    · simp [hc] at h

/-! ### Groups joined by colons -/

/-- The hexadecimal digits of a group. -/
def hexChars (g : UInt16) : List Char :=
  Text.hexDigits g.toNat

/-- Groups, each after a colon. -/
def colonGroups (gs : List UInt16) : List Char :=
  gs.flatMap fun g => ':' :: hexChars g

/-- Where a run of groups ends: at the end of the text or at a `::`. -/
def Ends (rest : List Char) : Prop :=
  rest = [] ∨ ∃ r, rest = ':' :: ':' :: r

theorem colonGroups_cons (g : UInt16) (gs : List UInt16) :
    colonGroups (g :: gs) = ':' :: (hexChars g ++ colonGroups gs) := by
  simp [colonGroups]

theorem intercalate_colon (x : List Char) (xs : List (List Char)) :
    [':'].intercalate (x :: xs) = x ++ xs.flatMap (':' :: ·) := by
  induction xs generalizing x with
  | nil => simp
  | cons y ys ih =>
    rw [List.intercalate_cons_cons, ih y]
    simp

theorem toList_groupsText_cons (g : UInt16) (gs : List UInt16) :
    (groupsText (g :: gs)).toList = hexChars g ++ colonGroups gs := by
  simp only [groupsText, String.toList_intercalate, List.map_cons, List.map_map]
  rw [show ":".toList = [':'] from rfl, intercalate_colon]
  simp [hexChars, Text.hex, colonGroups, List.flatMap_map, Function.comp_def]

theorem toList_groupsText_nil : (groupsText []).toList = [] := rfl

theorem dot_not_mem_hexChars (g : UInt16) : '.' ∉ hexChars g := by
  intro h
  have := hexDigits_isDigit g.toNat '.' h
  simp [IsDigit, digitValue_dot] at this

theorem dot_not_mem_colonGroups (gs : List UInt16) : '.' ∉ colonGroups gs := by
  simp only [colonGroups, List.mem_flatMap, List.mem_cons, not_exists, not_and]
  intro g _ h
  rcases h with h | h
  · cases h
  · exact dot_not_mem_hexChars g h

theorem ipv4Prefix_of_dot_not_mem {cs : List Char} (h : '.' ∉ cs) : ipv4Prefix cs = none := by
  rcases hv : ipv4Prefix cs with _ | ⟨a, r⟩
  · rfl
  · exact absurd (dot_mem_of_ipv4Prefix hv) h

theorem number_colon (radix maxDigits limit : Nat) (zeroPrefix : Bool) (r : List Char) :
    number radix maxDigits limit zeroPrefix (':' :: r) = none := by
  simp [number, digitRun, digitValue_colon]

theorem ipv4Prefix_colon (r : List Char) : ipv4Prefix (':' :: r) = none := by
  simp [ipv4Prefix, number_colon]

theorem stops_colonGroups_append (gs : List UInt16) {rest : List Char} (hend : Ends rest) :
    Stops 16 (colonGroups gs ++ rest) := by
  cases gs with
  | nil =>
    rcases hend with rfl | ⟨r, rfl⟩
    · exact stops_nil 16
    · exact stops_colon 16 _
  | cons g gs => exact stops_colon 16 _

/-- Reading stops where the groups end. -/
theorem groups_of_ends (limit : Nat) (first : Bool) {rest : List Char} (hend : Ends rest) :
    groups limit first rest = ([], false, rest) := by
  cases limit with
  | zero => rfl
  | succ limit =>
    rcases hend with rfl | ⟨r, rfl⟩
    · cases first <;> simp [groups, afterSeparator, ipv4Prefix, number, digitRun]
    · cases first <;> simp [groups, afterSeparator, ipv4Prefix_colon, number_colon]

theorem toUInt16_toNat (g : UInt16) : g.toNat.toUInt16 = g := UInt16.ofNat_toNat

/-- A number read at the front, where no IPv4 address is, is a group, and reading goes on
after it. -/
theorem groups_succ_of_number (first : Bool) (limit : Nat) {cs r : List Char} {n : Nat}
    (hv4 : (afterSeparator first cs).bind ipv4Prefix = none)
    (hnum : (afterSeparator first cs).bind (number 16 4 65536 true) = some (n, r)) :
    groups (limit + 1) first cs =
      (n.toUInt16 :: (groups limit false r).1, (groups limit false r).2.1,
        (groups limit false r).2.2) := by
  have hv4' : (if limit ≥ 1 then (afterSeparator first cs).bind ipv4Prefix else none) = none := by
    split <;> simp [hv4]
  simp only [groups]
  rw [hv4']
  simp only [hnum]

/-- A group at the front is read, and reading goes on after it. -/
theorem groups_succ_of_group (first : Bool) (g : UInt16) (limit : Nat) {cs after : List Char}
    (hcs : afterSeparator first cs = some (hexChars g ++ after)) (hdot : '.' ∉ hexChars g ++ after)
    (hstop : Stops 16 after) :
    groups (limit + 1) first cs =
      (g :: (groups limit false after).1, (groups limit false after).2.1,
        (groups limit false after).2.2) := by
  have hnum : number 16 4 65536 true (hexChars g ++ after) = some (g.toNat, after) :=
    number_hexDigits after g.toNat_lt hstop
  rw [groups_succ_of_number first limit (by simp [hcs, ipv4Prefix_of_dot_not_mem hdot])
    (by rw [hcs]; exact hnum), toUInt16_toNat]

/-- Groups after colons are read back, each as itself. -/
theorem groups_colonGroups (gs : List UInt16) {limit : Nat} {rest : List Char}
    (hlen : gs.length ≤ limit) (hdot : '.' ∉ rest) (hend : Ends rest) :
    groups limit false (colonGroups gs ++ rest) = (gs, false, rest) := by
  induction gs generalizing limit with
  | nil => exact groups_of_ends limit false hend
  | cons g gs ih =>
    obtain ⟨limit, rfl⟩ : ∃ l, limit = l + 1 := ⟨limit - 1, by simp at hlen; omega⟩
    have hnodot : '.' ∉ hexChars g ++ (colonGroups gs ++ rest) := by
      simp [dot_not_mem_hexChars, dot_not_mem_colonGroups, hdot]
    rw [colonGroups_cons, List.cons_append, List.append_assoc,
      groups_succ_of_group false g limit rfl hnodot (stops_colonGroups_append gs hend),
      ih (by simp at hlen; omega)]

/-- Groups joined by colons are read back when the text ends after them or goes on with `::`. -/
theorem groups_groupsText (gs : List UInt16) {limit : Nat} {rest : List Char}
    (hlen : gs.length ≤ limit) (hdot : '.' ∉ rest) (hend : Ends rest) :
    groups limit true ((groupsText gs).toList ++ rest) = (gs, false, rest) := by
  cases gs with
  | nil => exact groups_of_ends limit true hend
  | cons g gs =>
    obtain ⟨limit, rfl⟩ : ∃ l, limit = l + 1 := ⟨limit - 1, by simp at hlen; omega⟩
    have hnodot : '.' ∉ hexChars g ++ (colonGroups gs ++ rest) := by
      simp [dot_not_mem_hexChars, dot_not_mem_colonGroups, hdot]
    rw [toList_groupsText_cons, List.append_assoc,
      groups_succ_of_group true g limit rfl hnodot (stops_colonGroups_append gs hend),
      groups_colonGroups gs (by simp at hlen; omega) hdot hend]

/-! ### The run of zero groups -/

/-- One group seen by `longestZeroRun`: the best run so far, the current run of zeros and the
position. -/
def zeroRunStep (acc : (Nat × Nat) × (Nat × Nat) × Nat) (g : UInt16) :
    (Nat × Nat) × (Nat × Nat) × Nat :=
  let ((bestStart, bestLen), (curStart, curLen), i) := acc
  if g = 0 then
    let cur := if curLen = 0 then (i, 1) else (curStart, curLen + 1)
    let best := if cur.2 > bestLen then cur else (bestStart, bestLen)
    (best, cur, i + 1)
  else ((bestStart, bestLen), (0, 0), i + 1)

theorem longestZeroRun_eq (gs : List UInt16) :
    longestZeroRun gs = (gs.foldl zeroRunStep ((0, 0), (0, 0), 0)).1 := rfl

/-- A run of zero groups: it lies inside the groups and holds only zeros. -/
def ZeroRun (gs : List UInt16) (run : Nat × Nat) : Prop :=
  run.1 + run.2 ≤ gs.length ∧ ∀ j, run.1 ≤ j → j < run.1 + run.2 → gs[j]? = some 0

/-- What `longestZeroRun` keeps after the groups `pre`: the best run and the current run are
runs of zeros, the current one ending at the position, which counts the groups seen. -/
def RunState (pre : List UInt16) (acc : (Nat × Nat) × (Nat × Nat) × Nat) : Prop :=
  acc.2.2 = pre.length ∧ ZeroRun pre acc.1 ∧ ZeroRun pre acc.2.1 ∧
    (0 < acc.2.1.2 → acc.2.1.1 + acc.2.1.2 = pre.length)

theorem ZeroRun.append {pre : List UInt16} {run : Nat × Nat} (h : ZeroRun pre run) (g : UInt16) :
    ZeroRun (pre ++ [g]) run := by
  have hbound := h.1
  refine ⟨by simp; omega, fun j hlo hhi => ?_⟩
  rw [List.getElem?_append_left (by omega)]
  exact h.2 j hlo hhi

theorem zeroRun_empty (pre : List UInt16) {start : Nat} (h : start ≤ pre.length) :
    ZeroRun pre (start, 0) :=
  ⟨h, fun j hlo hhi => absurd hhi (by omega)⟩

/-- A run that reaches the end grows by a zero put after it. -/
theorem ZeroRun.extend {pre : List UInt16} {start len : Nat} (h : ZeroRun pre (start, len))
    (hend : start + len = pre.length) : ZeroRun (pre ++ [0]) (start, len + 1) := by
  refine ⟨by simp; omega, fun j hlo hhi => ?_⟩
  by_cases hj : j < pre.length
  · rw [List.getElem?_append_left hj]
    exact h.2 j hlo (by omega)
  · have : j = pre.length := by omega
    subst this
    simp

/-- After a zero, the current run is the best one if it is longer. -/
theorem RunState.of_zero {pre : List UInt16} {bs bl i : Nat} {cur : Nat × Nat}
    (hi : i = pre.length) (hbest : ZeroRun pre (bs, bl)) (hcur : ZeroRun (pre ++ [0]) cur)
    (hend : cur.1 + cur.2 = pre.length + 1) :
    RunState (pre ++ [0]) (if cur.2 > bl then cur else (bs, bl), cur, i + 1) := by
  refine ⟨by simp [hi], ?_, hcur, fun _ => by simpa using hend⟩
  split
  · exact hcur
  · exact hbest.append 0

theorem RunState.step {pre : List UInt16} {acc : (Nat × Nat) × (Nat × Nat) × Nat}
    (h : RunState pre acc) (g : UInt16) : RunState (pre ++ [g]) (zeroRunStep acc g) := by
  obtain ⟨⟨bs, bl⟩, ⟨cs, cl⟩, i⟩ := acc
  obtain ⟨hi, hbest, hcur, hend⟩ := h
  simp only at hi hend
  by_cases hg : g = 0
  · subst hg
    by_cases hcl : cl = 0
    · simp only [zeroRunStep, hcl, ↓reduceIte]
      exact RunState.of_zero hi hbest ((zeroRun_empty pre (by omega)).extend (by omega))
        (by simp; omega)
    · simp only [zeroRunStep, hcl, ↓reduceIte]
      exact RunState.of_zero hi hbest (hcur.extend (hend (by omega))) (by simp; omega)
  · refine ⟨by simp [zeroRunStep, hg, hi], ?_, ?_, ?_⟩
    · simp only [zeroRunStep, hg, ↓reduceIte]
      exact hbest.append g
    · simp only [zeroRunStep, hg, ↓reduceIte]
      exact zeroRun_empty _ (by simp)
    · simp [zeroRunStep, hg]

theorem RunState.foldl {pre : List UInt16} {acc : (Nat × Nat) × (Nat × Nat) × Nat}
    (h : RunState pre acc) (gs : List UInt16) : RunState (pre ++ gs) (gs.foldl zeroRunStep acc) := by
  induction gs generalizing pre acc with
  | nil => simpa using h
  | cons g gs ih =>
    have := ih (h.step g)
    simpa using this

/-- The run `longestZeroRun` finds lies inside the groups and holds only zeros. -/
theorem longestZeroRun_spec (gs : List UInt16) : ZeroRun gs (longestZeroRun gs) := by
  have h0 : RunState [] ((0, 0), (0, 0), 0) :=
    ⟨rfl, zeroRun_empty [] (Nat.le_refl 0), zeroRun_empty [] (Nat.le_refl 0),
      fun h => absurd h (Nat.lt_irrefl 0)⟩
  rw [longestZeroRun_eq]
  simpa using (h0.foldl gs).2.1

theorem hi_of_join (hi lo : UInt16) : (((hi.toUInt32 <<< 16) ||| lo.toUInt32) >>> 16).toUInt16 = hi := by
  apply UInt16.toBitVec_inj.mp
  apply BitVec.eq_of_getLsbD_eq
  intro i hi
  simp [hi, show 16 + i < 32 by omega, show i < 32 by omega]

theorem lo_of_join (hi lo : UInt16) : ((hi.toUInt32 <<< 16) ||| lo.toUInt32).toUInt16 = lo := by
  apply UInt16.toBitVec_inj.mp
  simp

theorem take_replicate_drop {gs : List UInt16} {s len : Nat} (h : ZeroRun gs (s, len)) :
    gs.take s ++ List.replicate len 0 ++ gs.drop (s + len) = gs := by
  obtain ⟨hle, hzero⟩ := h
  simp only at hle hzero
  apply List.ext_getElem?
  intro j
  by_cases hj : j < s
  · rw [List.append_assoc, List.getElem?_append_left (by simp; omega), List.getElem?_take_of_lt hj]
  · by_cases hj' : j < s + len
    · rw [List.append_assoc, List.getElem?_append_right (by simp; omega),
        List.getElem?_append_left (by simp; omega), hzero j (by omega) hj']
      rw [List.length_take, List.getElem?_replicate, if_pos (by omega)]
    · rw [List.getElem?_append_right (by simp; omega), List.getElem?_drop]
      congr 1
      simp; omega

/-! ### IPv6 addresses -/

theorem dot_not_mem_groupsText (gs : List UInt16) : '.' ∉ (groupsText gs).toList := by
  cases gs with
  | nil => simp [toList_groupsText_nil]
  | cons g gs =>
    rw [toList_groupsText_cons]
    simp [dot_not_mem_hexChars, dot_not_mem_colonGroups]

/-- Eight groups written in full are read back. -/
theorem ipv6Prefix_groupsText {gs : List UInt16} (hlen : gs.length = 8) :
    ipv6Prefix (groupsText gs).toList = some (gs, []) := by
  have h := groups_groupsText gs (Nat.le_of_eq hlen) List.not_mem_nil (.inl rfl)
  rw [List.append_nil] at h
  simp [ipv6Prefix, h, hlen]

/-- Groups with a run of zeros shortened to a double colon are read back with the run in
place. -/
theorem ipv6Prefix_short {gs : List UInt16} {s len : Nat} (hlen : gs.length = 8)
    (hrun : ZeroRun gs (s, len)) (hl : 1 < len) :
    ipv6Prefix ((groupsText (gs.take s)).toList ++ ':' :: ':' ::
      (groupsText (gs.drop (s + len))).toList) = some (gs, []) := by
  have hle : s + len ≤ gs.length := hrun.1
  have hhead : groups 8 true ((groupsText (gs.take s)).toList ++ ':' :: ':' ::
      (groupsText (gs.drop (s + len))).toList) =
      (gs.take s, false, ':' :: ':' :: (groupsText (gs.drop (s + len))).toList) :=
    groups_groupsText _ (by simp; omega) (by simp [dot_not_mem_groupsText]) (.inr ⟨_, rfl⟩)
  have htail : groups (8 - ((gs.take s).length + 1)) true (groupsText (gs.drop (s + len))).toList =
      (gs.drop (s + len), false, []) := by
    have h := groups_groupsText (gs.drop (s + len)) (show (gs.drop (s + len)).length ≤
      8 - ((gs.take s).length + 1) by simp; omega) List.not_mem_nil (.inl rfl)
    rwa [List.append_nil] at h
  have hcount : 8 - (gs.take s).length - (gs.drop (s + len)).length = len := by simp; omega
  simp only [ipv6Prefix, hhead, htail, hcount]
  rw [if_neg (by simp; omega), take_replicate_drop hrun]
  rfl

theorem hexDigits_ffff : Text.hexDigits 0xffff = ['f', 'f', 'f', 'f'] := by
  simp [Text.hexDigits, Text.hexDigit]

theorem ipv4Prefix_hexLetter (r : List Char) : ipv4Prefix ('f' :: r) = none := by
  simp [ipv4Prefix, number, digitRun, digitValue]

/-- An IPv4-mapped address is read as five zero groups, 0xffff and the two halves of the
IPv4 address. -/
theorem ipv6Prefix_mapped (a : UInt32) :
    ipv6Prefix ("::ffff:" ++ dottedQuad a).toList =
      some (([0, 0, 0, 0, 0, 0xffff, (a >>> 16).toUInt16, a.toUInt16] : List UInt16), []) := by
  have hv4 : ipv4Prefix (dottedQuad a).toList = some (a, []) := by
    simpa using ipv4Prefix_dottedQuad a [] (stops_nil 10)
  have hffff : number 16 4 65536 true ('f' :: 'f' :: 'f' :: 'f' :: ':' :: (dottedQuad a).toList) =
      some (0xffff, ':' :: (dottedQuad a).toList) := by
    have h := number_hexDigits (':' :: (dottedQuad a).toList) (show 0xffff < 65536 by decide)
      (stops_colon 16 _)
    rwa [hexDigits_ffff] at h
  have htail : groups 7 true ('f' :: 'f' :: 'f' :: 'f' :: ':' :: (dottedQuad a).toList) =
      (([0xffff, (a >>> 16).toUInt16, a.toUInt16] : List UInt16), true, []) := by
    simp [groups, afterSeparator, ipv4Prefix_hexLetter, hffff, hv4]
  have hhead : groups 8 true (':' :: ':' :: 'f' :: 'f' :: 'f' :: 'f' :: ':' :: (dottedQuad a).toList) =
      ([], false, ':' :: ':' :: 'f' :: 'f' :: 'f' :: 'f' :: ':' :: (dottedQuad a).toList) :=
    groups_of_ends 8 true (.inr ⟨_, rfl⟩)
  rw [String.toList_append, show "::ffff:".toList = [':', ':', 'f', 'f', 'f', 'f', ':'] from rfl]
  simp only [List.cons_append, List.nil_append, ipv6Prefix, hhead]
  simp [htail]

/-! ### Every address read back -/

theorem parse?_of_ipv6Prefix {s : String} {g : Vector UInt16 8} (h4 : ipv4Prefix s.toList = none)
    (h6 : ipv6Prefix s.toList = some (g.toList, [])) : parse? s = some (.v6 g) := by
  simp only [parse?, h4, h6, Vector.length_toList, dite_true]
  rfl

theorem parse?_text_v6 (g : Vector UInt16 8) : parse? (text (.v6 g)) = some (.v6 g) := by
  have hlen : g.toList.length = 8 := by simp
  simp only [text]
  split
  · rename_i hi lo hg
    apply parse?_of_ipv6Prefix
    · rw [String.toList_append]
      exact ipv4Prefix_colon _
    · rw [ipv6Prefix_mapped, hi_of_join, lo_of_join, hg]
  · have hrun := longestZeroRun_spec g.toList
    split
    · rename_i hl
      apply parse?_of_ipv6Prefix
      · apply ipv4Prefix_of_dot_not_mem
        simp [dot_not_mem_groupsText]
      · rw [String.toList_append, String.toList_append, show "::".toList = [':', ':'] from rfl]
        simp only [List.append_assoc, List.cons_append, List.nil_append]
        exact ipv6Prefix_short hlen hrun hl
    · exact parse?_of_ipv6Prefix (ipv4Prefix_of_dot_not_mem (dot_not_mem_groupsText _))
        (ipv6Prefix_groupsText hlen)

/-- Every address is read back from its text. -/
theorem parse?_text (a : IpAddr) : parse? a.text = some a := by
  cases a with
  | v4 a =>
    have h : ipv4Prefix (dottedQuad a).toList = some (a, []) := by
      simpa using ipv4Prefix_dottedQuad a [] (stops_nil 10)
    simp [parse?, text, h]
  | v6 g => exact parse?_text_v6 g

/-! ### Text without a separator -/

/-- Reading stops at once where no colon follows. -/
theorem groups_of_not_colon (limit : Nat) {r : List Char} (hr : ':' ∉ r) :
    groups limit false r = ([], false, r) := by
  cases limit with
  | zero => rfl
  | succ limit =>
    have hsep : afterSeparator false r = none := by
      rcases r with _ | ⟨c, r⟩
      · rfl
      · have hc : c ≠ ':' := fun h => hr (h ▸ List.mem_cons_self)
        simp [afterSeparator, hc]
    simp [groups, hsep]

/-- Fewer than eight groups, with no IPv4 address among them and no double colon after them,
are no IPv6 address. `hr` is the side condition of the last branch of `ipv6Prefix`'s match. -/
theorem ipv6Prefix_of_groups {cs r : List Char} {gs : List UInt16}
    (hgroups : groups 8 true cs = (gs, false, r)) (hlen : gs.length ≠ 8)
    (hr : ∀ t, r ≠ ':' :: ':' :: t) : ipv6Prefix cs = none := by
  simp only [ipv6Prefix, hgroups]
  rw [if_neg hlen, if_neg (by simp)]

/-- Text with neither a colon nor a dot is no address. -/
theorem parse?_of_not_mem {s : String} (hcolon : ':' ∉ s.toList) (hdot : '.' ∉ s.toList) :
    parse? s = none := by
  have hv4 := ipv4Prefix_of_dot_not_mem hdot
  have hnodouble : ∀ r, r <:+ s.toList → ∀ t, r ≠ ':' :: ':' :: t :=
    fun r hr t heq => hcolon (hr.subset (by simp [heq]))
  have hv6 : ipv6Prefix s.toList = none := by
    rcases hnum : number 16 4 65536 true s.toList with _ | ⟨g, r⟩
    · have hgroups : groups 8 true s.toList = ([], false, s.toList) := by
        simp [groups, afterSeparator, hv4, hnum]
      exact ipv6Prefix_of_groups hgroups (by simp) (hnodouble _ (List.suffix_refl _))
    · have hsuf := number_suffix hnum
      have hrest := groups_of_not_colon 7 (fun hm => hcolon (hsuf.subset hm))
      have hgroups : groups 8 true s.toList = ([g.toUInt16], false, r) := by
        rw [groups_succ_of_number true 7 (by simp [afterSeparator, hv4]) hnum, hrest]
      exact ipv6Prefix_of_groups hgroups (by simp) (hnodouble _ hsuf)
  simp [parse?, hv4, hv6]

/-- Before its first colon, the text of an IPv6 address has no dot, whatever follows it. -/
theorem dot_not_mem_takeWhile_text_v6 (g : Vector UInt16 8) {r : List Char} (hr : '.' ∉ r) :
    '.' ∉ ((text (.v6 g)).toList ++ ':' :: r).takeWhile (· ≠ ':') := by
  simp only [text]
  split
  · simp [String.toList_append]
  · intro h
    have hmem := List.takeWhile_subset _ h
    split at hmem <;> simp [dot_not_mem_groupsText, hr] at hmem

end OpenFlow.IpAddr
