import RecordFix.Files

/-!
# Text that is written in UTF-8 is read back

The bytes of a character lead the decoder from its start back to its start, and yield the character
(`Utf8.run_char`). So the bytes of a text are decoded to this text, and a file that holds them reads
as this text (`Files.readText_of_toUTF8`).
-/

namespace RecordFix

namespace Encoding.Utf8

theorem toList_loop (bytes : ByteArray) (i : Nat) (seen : List UInt8) :
    ByteArray.toList.loop bytes i seen = seen.reverse ++ bytes.data.toList.drop i := by
  fun_induction ByteArray.toList.loop bytes i seen with
  | case1 i seen hlt ih =>
    have hdrop : bytes.data.toList.drop i = bytes.get! i :: bytes.data.toList.drop (i + 1) := by
      rw [List.drop_eq_getElem_cons (by simpa using hlt)]
      congr 1
      exact (getElem!_pos bytes.data i hlt).symm
    rw [ih, hdrop, List.reverse_cons, List.append_assoc]
    rfl
  | case2 i seen hlt =>
    rw [List.drop_eq_nil_of_le (by simpa using Nat.le_of_not_lt hlt), List.append_nil]

/-- The bytes of a text are those of its characters. -/
theorem toList_toUTF8 (s : String) :
    s.toUTF8.toList = s.toList.flatMap String.utf8EncodeChar := by
  have hbytes : s.toUTF8 = s.toList.utf8Encode := String.utf8Encode_toList.symm
  rw [ByteArray.toList, toList_loop, hbytes, List.utf8Encode]
  simp

theorem charOf_toNat (c : Char) : charOf c.val.toNat = some c := by
  rw [charOf, if_pos c.valid]
  exact congrArg some (Char.ofNat_toNat c)

/-! ## The bytes of one character -/

variable {bits lower upper n : Nat} {rest : List UInt8}

theorem first_of_two (h : 0xc2 ≤ n ∧ n < 0xe0) : first n = (⟨1, n - 0xc0, 0x80, 0xbf⟩, []) := by
  rw [first, if_neg (by omega), if_neg (by omega), if_pos h.2]

theorem first_of_three (h : 0xe0 ≤ n ∧ n < 0xf0) :
    first n = (⟨2, n - 0xe0, if n = 0xe0 then 0xa0 else 0x80,
      if n = 0xed then 0x9f else 0xbf⟩, []) := by
  rw [first, if_neg (by omega), if_neg (by omega), if_neg (by omega), if_pos h.2]

theorem first_of_four (h : 0xf0 ≤ n ∧ n < 0xf5) :
    first n = (⟨3, n - 0xf0, if n = 0xf0 then 0x90 else 0x80,
      if n = 0xf4 then 0x8f else 0xbf⟩, []) := by
  rw [first, if_neg (by omega), if_neg (by omega), if_neg (by omega), if_neg (by omega), if_pos h.2]

theorem run_ascii (hn : n < 0x80) :
    run step finish {} (UInt8.ofNat n :: rest) = charOf n :: run step finish {} rest := by
  have hbyte : (UInt8.ofNat n).toNat = n := by
    simpa using Nat.lt_trans hn (by decide : 0x80 < 256)
  have hstep : step {} (UInt8.ofNat n) = ({}, [charOf n]) := by
    change first (UInt8.ofNat n).toNat = _
    rw [hbyte, first, if_pos hn]
  rw [run, hstep]
  rfl

theorem run_first {s : Utf8} (hn : n < 256) (h : first n = (s, [])) :
    run step finish {} (UInt8.ofNat n :: rest) = run step finish s rest := by
  have hbyte : (UInt8.ofNat n).toNat = n := by simpa using hn
  have hstep : step {} (UInt8.ofNat n) = (s, []) := by
    change first (UInt8.ofNat n).toNat = _
    rw [hbyte, h]
  rw [run, hstep]
  rfl

theorem run_next {missing : Nat} (hn : n < 256) (hlower : lower ≤ n) (hupper : n ≤ upper) :
    run step finish ⟨missing + 2, bits, lower, upper⟩ (UInt8.ofNat n :: rest) =
      run step finish ⟨missing + 1, bits * 64 + (n - 0x80), 0x80, 0xbf⟩ rest := by
  have hbyte : (UInt8.ofNat n).toNat = n := by simpa using hn
  rw [run, step, hbyte]
  simp [hlower, hupper]

theorem run_last (hn : n < 256) (hlower : lower ≤ n) (hupper : n ≤ upper) :
    run step finish ⟨1, bits, lower, upper⟩ (UInt8.ofNat n :: rest) =
      charOf (bits * 64 + (n - 0x80)) :: run step finish {} rest := by
  have hbyte : (UInt8.ofNat n).toNat = n := by simpa using hn
  rw [run, step, hbyte]
  simp [hlower, hupper]

/-- The bytes of a character yield the character, and leave the decoder at its start. -/
theorem run_char (c : Char) (rest : List UInt8) :
    run step finish {} (String.utf8EncodeChar c ++ rest) = some c :: run step finish {} rest := by
  have hvalid : c.val.toNat < 0xd800 ∨ 0xdfff < c.val.toNat ∧ c.val.toNat < 0x110000 := c.valid
  rw [← charOf_toNat c]
  unfold String.utf8EncodeChar
  generalize c.val.toNat = v at hvalid
  dsimp only
  -- One to four bytes; the bounds of the second byte keep out what is no character.
  split
  · next hone => exact run_ascii (by omega)
  · split
    · next htwo =>
      have hbits : (v / 64 % 32 + 192 - 0xc0) * 64 + (v % 64 + 128 - 0x80) = v := by omega
      simp only [List.cons_append, List.nil_append]
      rw [run_first (by omega) (first_of_two (by omega)),
        run_last (by omega) (by omega) (by omega), hbits]
    · split
      · next hthree =>
        have hbits : ((v / 4096 % 16 + 224 - 0xe0) * 64 + (v / 64 % 64 + 128 - 0x80)) * 64 +
            (v % 64 + 128 - 0x80) = v := by omega
        simp only [List.cons_append, List.nil_append]
        rw [run_first (by omega) (first_of_three (by omega)),
          run_next (by omega) (by split <;> omega) (by split <;> omega),
          run_last (by omega) (by omega) (by omega), hbits]
      · next hfour =>
        have hbits : (((v / 262144 % 8 + 240 - 0xf0) * 64 + (v / 4096 % 64 + 128 - 0x80)) * 64 +
            (v / 64 % 64 + 128 - 0x80)) * 64 + (v % 64 + 128 - 0x80) = v := by omega
        simp only [List.cons_append, List.nil_append]
        rw [run_first (by omega) (first_of_four (by omega)),
          run_next (by omega) (by split <;> omega) (by split <;> omega),
          run_next (by omega) (by omega) (by omega),
          run_last (by omega) (by omega) (by omega), hbits]

theorem decode_toUTF8 (s : String) : decode s.toUTF8.toList = s.toList.map some := by
  rw [toList_toUTF8, decode]
  induction s.toList with
  | nil => rfl
  | cons c rest ih => rw [List.flatMap_cons, run_char, ih, List.map_cons]

theorem text?_toUTF8 (s : String) : text? s.toUTF8.toList = some s.toList := by
  rw [text?, decode_toUTF8]
  induction s.toList with
  | nil => rfl
  | cons c rest ih => simp [ih]

end Encoding.Utf8

/-- A file that holds the bytes of a text reads as this text. -/
theorem Files.readText_of_toUTF8 {files : Files} {path s : String}
    (h : files path = .file s.toUTF8.toList) : files.readText path = .ok s := by
  rw [readText, h]
  simp only [Encoding.Utf8.text?_toUTF8, String.ofList_toList]

end RecordFix
