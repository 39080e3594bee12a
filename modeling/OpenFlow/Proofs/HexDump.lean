import OpenFlow.Text.Hex

/-!
# Rows of the hex dump

The dump of a buffer is written one byte at a time, and the only place rows appear is the test
that breaks the line after a byte: its index in the whole dump closes a group of eight, and it is
not the last byte. This module shows that this test lays the buffer out in rows:

* the rows of a buffer are its consecutive groups of eight bytes, the last one possibly shorter,
  one per started group (`rows`), and a row shows each byte as its two upper-case hexadecimal
  digits and a space (`rowText`);
* the dump is its rows joined by single newlines (`hexDump_eq_rows`), so it ends in the space
  after the last byte and never in a newline (`hexDump_getLast?`);
* a message dumped as a header and a body reads as the dump of the whole message, wherever the
  two are cut apart (`hexDumpMessage_eq_hexDump`).
-/

namespace OpenFlow.Text

/-! ### What a row shows -/

/-- The upper-case hexadecimal digit of a value below sixteen. -/
def upperDigit (n : Nat) : Char :=
  (Nat.digitChar n).toUpper

/-- A byte as a row shows it: its two upper-case hexadecimal digits and a space. -/
def byteCell (b : UInt8) : String :=
  String.ofList [upperDigit (b.toNat / 16), upperDigit (b.toNat % 16), ' ']

/-- The text of a row of bytes. -/
def rowText (r : List UInt8) : String :=
  String.join (r.map byteCell)

/-- Row `k` of a buffer: the next at most eight bytes from index `8 * k` on. -/
def row (buf : List UInt8) (k : Nat) : List UInt8 :=
  (buf.drop (8 * k)).take 8

/-- The rows of a buffer, one per started group of eight bytes. -/
def rows (buf : List UInt8) : List (List UInt8) :=
  (List.range ((buf.length + 7) / 8)).map (row buf)

theorem hexDigitUpper_eq_upperDigit {n : Nat} (h : n < 16) : hexDigitUpper n = upperDigit n := by
  revert n
  decide

theorem byteHexUpper_append_space (b : UInt8) : byteHexUpper b ++ " " = byteCell b := by
  have hhigh : b.toNat / 16 < 16 := by
    have := b.toNat_lt
    omega
  rw [byteHexUpper, byteCell, hexDigitUpper_eq_upperDigit hhigh,
    hexDigitUpper_eq_upperDigit (Nat.mod_lt _ (by decide)), String.ext_iff]
  simp

@[simp]
theorem rowText_nil : rowText [] = "" := rfl

@[simp]
theorem rowText_cons (b : UInt8) (r : List UInt8) :
    rowText (b :: r) = byteCell b ++ rowText r :=
  String.join_cons

theorem rowText_append (r r' : List UInt8) : rowText (r ++ r') = rowText r ++ rowText r' := by
  induction r with
  | nil => simp
  | cons b r ih => simp [ih, String.append_assoc]

/-! ### One byte, one row -/

/-- One step of the dump: the byte's cell, then the newline when the byte closes a group of eight
and is not the last. -/
theorem dumpByte_eq (len : Nat) (out : String) (b : UInt8) (i : Nat) :
    dumpByte len out (b, i) =
      out ++ byteCell b ++ (if i % 8 = 7 ∧ i + 1 ≠ len then "\n" else "") := by
  rw [dumpByte, String.append_assoc, byteHexUpper_append_space]
  split
  · rw [String.push_eq_append]
    rfl
  · rw [String.append_empty]

/-- The last byte is written after all the others, with its index after theirs. -/
theorem foldl_dumpByte_concat (len : Nat) (r : List UInt8) (b : UInt8) (k : Nat) (out : String) :
    ((r ++ [b]).zipIdx k).foldl (dumpByte len) out =
      dumpByte len ((r.zipIdx k).foldl (dumpByte len) out) (b, k + r.length) := by
  rw [List.zipIdx_append, List.foldl_append, List.zipIdx_cons, List.zipIdx_nil, List.foldl_cons,
    List.foldl_nil]

/-- Bytes that close no group of eight are written as their cells, with no newline. -/
theorem foldl_dumpByte_within (len : Nat) (r : List UInt8) (k : Nat) (out : String)
    (h : k % 8 + r.length ≤ 7) :
    (r.zipIdx k).foldl (dumpByte len) out = out ++ rowText r := by
  induction r generalizing k out with
  | nil => simp
  | cons b r ih =>
    have hk : k % 8 ≠ 7 := by simp only [List.length_cons] at h; omega
    have hnext : (k + 1) % 8 + r.length ≤ 7 := by simp only [List.length_cons] at h; omega
    rw [List.zipIdx_cons, List.foldl_cons, dumpByte_eq, if_neg (fun hc => hk hc.1), ih _ _ hnext]
    simp [String.append_assoc]

/-- A row starting a group of eight is written as its text, followed by a newline when it is a
whole group and more bytes follow. -/
theorem foldl_dumpByte_row (len : Nat) (r : List UInt8) (k : Nat) (out : String)
    (hk : k % 8 = 0) (hr : r.length ≤ 8) :
    (r.zipIdx k).foldl (dumpByte len) out =
      out ++ rowText r ++ (if r.length = 8 ∧ k + 8 ≠ len then "\n" else "") := by
  by_cases h8 : r.length = 8
  · obtain ⟨init, b, rfl⟩ : ∃ init b, r = init ++ [b] := by
      rcases List.eq_nil_or_concat r with h | ⟨init, b, h⟩
      · simp [h] at h8
      · exact ⟨init, b, by rw [h, List.concat_eq_append]⟩
    have hinit : init.length = 7 := by simpa using h8
    rw [foldl_dumpByte_concat, foldl_dumpByte_within len init k out (by omega), dumpByte_eq,
      rowText_append, hinit]
    have hidx : (k + 7) % 8 = 7 := by omega
    simp [hidx, h8, String.append_assoc]
  · rw [foldl_dumpByte_within len r k out (by omega), if_neg (fun hc => h8 hc.1),
      String.append_empty]

/-! ### The whole dump -/

theorem rows_nil : rows [] = [] := rfl

theorem rows_ne_nil {buf : List UInt8} (h : buf ≠ []) : rows buf ≠ [] := by
  have hlen : 0 < buf.length := List.length_pos_iff.2 h
  simp only [rows, ne_eq, List.map_eq_nil_iff, List.range_eq_nil]
  omega

/-- A buffer of at most eight bytes is one row. -/
theorem rows_of_le {buf : List UInt8} (h₀ : buf ≠ []) (h : buf.length ≤ 8) : rows buf = [buf] := by
  have hlen : 0 < buf.length := List.length_pos_iff.2 h₀
  have hone : (buf.length + 7) / 8 = 1 := by omega
  simp [rows, hone, row, List.take_of_length_le h]

/-- A longer buffer is its first eight bytes and then the rows of the rest. -/
theorem rows_of_lt {buf : List UInt8} (h : 8 < buf.length) :
    rows buf = buf.take 8 :: rows (buf.drop 8) := by
  have hcount : (buf.length + 7) / 8 = ((buf.drop 8).length + 7) / 8 + 1 := by
    rw [List.length_drop]
    omega
  rw [rows, hcount, List.range_succ_eq_map, List.map_cons, List.map_map, rows]
  congr 1
  apply List.map_congr_left
  intro m _
  rw [Function.comp_apply, row, row, List.drop_drop]
  congr 2
  omega

/-- From the start of a group of eight, the rest of a dump is the rows of the bytes left, joined
by newlines. The induction is on the number of rows. -/
theorem foldl_dumpByte_rows (n : Nat) (buf : List UInt8) (k : Nat) (out : String)
    (hn : (buf.length + 7) / 8 = n) (hk : k % 8 = 0) :
    (buf.zipIdx k).foldl (dumpByte (k + buf.length)) out =
      out ++ "\n".intercalate ((rows buf).map rowText) := by
  induction n generalizing buf k out with
  | zero =>
    have : buf = [] := List.eq_nil_of_length_eq_zero (by omega)
    subst this
    simp [rows_nil]
  | succ n ih =>
    by_cases h : buf.length ≤ 8
    · have h₀ : buf ≠ [] := by
        rintro rfl
        simp at hn
      rw [foldl_dumpByte_row _ buf k out hk h, rows_of_le h₀ h, if_neg (by omega)]
      simp
    · have hrest : ((buf.drop 8).length + 7) / 8 = n := by
        rw [List.length_drop]
        omega
      have hsplit : buf.zipIdx k = (buf.take 8).zipIdx k ++ (buf.drop 8).zipIdx (k + 8) := by
        conv => lhs; rw [← List.take_append_drop 8 buf]
        rw [List.zipIdx_append, List.length_take, Nat.min_eq_left (by omega)]
      have hlen : k + buf.length = k + 8 + (buf.drop 8).length := by
        rw [List.length_drop]
        omega
      have hfirst : (buf.take 8).length = 8 := by
        rw [List.length_take]
        omega
      have hrows : rows buf = buf.take 8 :: rows (buf.drop 8) := rows_of_lt (by omega)
      have hmore : (rows (buf.drop 8)).map rowText ≠ [] := by
        rw [ne_eq, List.map_eq_nil_iff]
        apply rows_ne_nil
        rw [← List.length_pos_iff, List.length_drop]
        omega
      rw [hsplit, List.foldl_append, foldl_dumpByte_row _ _ k out hk (by omega),
        if_pos ⟨hfirst, by omega⟩, hlen, ih _ _ _ hrest (by omega), hrows, List.map_cons,
        String.intercalate_cons_of_ne_nil hmore]
      simp only [String.append_assoc]

/-- The dump of a buffer is its rows joined by newlines. -/
theorem hexDump_eq_rows (buf : List UInt8) :
    hexDump buf = "\n".intercalate ((rows buf).map rowText) := by
  have h := foldl_dumpByte_rows _ buf 0 "" rfl rfl
  rw [Nat.zero_add, String.empty_append] at h
  exact h

example : hexDump [0, 1, 2, 3, 4, 5, 6, 7, 0xff] = "00 01 02 03 04 05 06 07 \nFF " := by decide

/-- The dump ends in the space after the last byte, never in a newline; an empty buffer gives an
empty dump. -/
theorem hexDump_getLast? (buf : List UInt8) :
    (hexDump buf).toList.getLast? = if buf = [] then none else some ' ' := by
  rcases List.eq_nil_or_concat buf with rfl | ⟨init, b, rfl⟩
  · rfl
  · rw [hexDump, dumpRows, List.concat_eq_append, foldl_dumpByte_concat, dumpByte_eq,
      if_neg (by simp)]
    simp [byteCell]

/-- Dumping a header and a body is dumping the message they make up. -/
theorem hexDumpMessage_eq_hexDump (header body : List UInt8) :
    hexDumpMessage header body = hexDump (header ++ body) := by
  rw [hexDumpMessage, hexDump, List.length_append]

example : hexDumpMessage [1, 10, 0, 11, 0, 0, 0, 1] [] = "01 0A 00 0B 00 00 00 01 " := by decide

/-- The dump of a buffer is its rows of eight joined by single newlines; it ends in the space
after the last byte and never in a newline; and a header and a body cut from the buffer anywhere
dump to it. -/
theorem hexDump_layout (buf : List UInt8) :
    hexDump buf = "\n".intercalate ((rows buf).map rowText) ∧
      (hexDump buf).toList.getLast? = (if buf = [] then none else some ' ') ∧
      ∀ n, hexDumpMessage (buf.take n) (buf.drop n) = hexDump buf := by
  refine ⟨hexDump_eq_rows buf, hexDump_getLast? buf, fun n => ?_⟩
  rw [hexDumpMessage_eq_hexDump, List.take_append_drop]

end OpenFlow.Text
