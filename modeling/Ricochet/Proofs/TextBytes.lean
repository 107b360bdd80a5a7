import Ricochet.Text.Utf8

set_option autoImplicit false

/-! # Texts and their bytes

The bytes of a string determine it (`bytes_injective`), and reading them gives it back
(`chars_bytes_append`). For characters below 128, which take one byte each, the way there and back
is told outright: `bytes_ofList_of_ascii` writes them, `chars_cons` reads one. No other bytes are
read as such a character (`exists_of_chars_eq_append`, `mem_of_mem_chars`), so a text that shows
plain characters at its start has their bytes there.
-/

namespace Ricochet.Utf8

/-! ## Bytes of strings -/

/-- Reading bytes from a place on gives the rest of them, after what was read before. -/
theorem toList_loop_eq (bs : ByteArray) (i : Nat) (read : List UInt8) :
    ByteArray.toList.loop bs i read = read.reverse ++ bs.data.toList.drop i := by
  fun_induction ByteArray.toList.loop bs i read with
  | case1 i read hi ih =>
      have hdata : i < bs.data.toList.length := by simpa using hi
      have hget : bs.get! i = bs.data.toList[i] := by
        rw [Array.getElem_toList]
        exact getElem!_pos bs.data i hi
      rw [ih, List.drop_eq_getElem_cons hdata, hget, List.reverse_cons, List.append_assoc]
      rfl
  | case2 i read hi =>
      have hdata : bs.data.toList.length ≤ i := by simpa using Nat.le_of_not_lt hi
      rw [List.drop_eq_nil_of_le hdata, List.append_nil]

theorem bytes_eq (s : String) : bytes s = s.toUTF8.data.toList := by
  rw [bytes, ByteArray.toList, toList_loop_eq]
  rfl

/-- Different texts have different bytes. -/
theorem bytes_injective {s t : String} (h : bytes s = bytes t) : s = t := by
  rw [bytes_eq, bytes_eq] at h
  have harray : s.toUTF8 = t.toUTF8 := ByteArray.ext (Array.toList_inj.mp h)
  exact String.toByteArray_inj.mp harray

theorem bytes_empty : bytes "" = [] := by
  rw [bytes_eq]
  rfl

theorem bytes_ofList (cs : List Char) :
    bytes (String.ofList cs) = cs.flatMap String.utf8EncodeChar := by
  rw [bytes_eq, String.toUTF8, String.toByteArray_ofList, List.utf8Encode, List.data_toByteArray]

theorem bytes_eq_flatMap (s : String) : bytes s = s.toList.flatMap String.utf8EncodeChar := by
  rw [← bytes_ofList, String.ofList_toList]

/-! ## Characters below 128 -/

/-- Whether a character takes one byte. -/
def IsAscii (c : Char) : Prop := c.toNat < 128

instance (c : Char) : Decidable (IsAscii c) := inferInstanceAs (Decidable (_ < _))

/-- The byte of a character that takes one. -/
def asciiByte (c : Char) : UInt8 := c.toNat.toUInt8

variable {c : Char} {cs : List Char}

theorem toNat_ofNat {n : Nat} (h : n.isValidChar) : (Char.ofNat n).toNat = n := by
  rw [Char.ofNat, dif_pos h]
  rfl

theorem toNat_asciiByte (h : IsAscii c) : (asciiByte c).toNat = c.toNat := by
  have hc : c.toNat < 128 := h
  simp only [asciiByte, Nat.toUInt8, UInt8.toNat_ofNat']
  omega

theorem utf8EncodeChar_of_ascii (h : IsAscii c) : String.utf8EncodeChar c = [asciiByte c] := by
  have hval : c.val.toNat ≤ 0x7f := Nat.lt_succ_iff.mp h
  simp only [String.utf8EncodeChar]
  rw [if_pos hval]
  rfl

theorem bytes_ofList_of_ascii (h : ∀ c ∈ cs, IsAscii c) :
    bytes (String.ofList cs) = cs.map asciiByte := by
  rw [bytes_ofList]
  induction cs with
  | nil => rfl
  | cons c cs ih =>
      rw [List.flatMap_cons, utf8EncodeChar_of_ascii (h c List.mem_cons_self),
        ih fun d hd => h d (List.mem_cons_of_mem _ hd)]
      rfl

/-! ## Reading them back -/

variable {a : UInt8} {rest : List UInt8}

theorem tail?_eq_some {lo hi n : Nat} {b : UInt8} (h : tail? lo hi b = some n) :
    lo ≤ b.toNat ∧ b.toNat ≤ hi ∧ n = b.toNat - 0x80 := by
  unfold tail? at h
  split at h
  · rename_i hrange
    exact ⟨hrange.1, hrange.2, (Option.some.inj h).symm⟩
  · cases h

theorem anyTail?_eq_some {n : Nat} {b : UInt8} (h : anyTail? b = some n) : n ≤ 0x3F := by
  obtain ⟨hlo, hhi, hn⟩ := tail?_eq_some h
  omega

theorem not_isAscii_ofNat {n : Nat} (hn : 128 ≤ n) (hvalid : n.isValidChar) :
    ¬ IsAscii (Char.ofNat n) := by
  rw [IsAscii, toNat_ofNat hvalid]
  omega

theorem not_isAscii_replacement : ¬ IsAscii replacement := by decide

/-- A byte from 128 on begins a character from 128 on, if any: the range of the second byte excludes
the long forms of what is below. -/
theorem not_isAscii_of_lead? {n : Nat} (ha : 128 ≤ a.toNat) :
    lead? a rest = some (c, n) → ¬ IsAscii c := by
  fun_cases lead? a rest with
  | case1 _ hascii => omega
  | case2 _ _ b tail hlead =>
      -- two bytes
      simp only [Option.bind_eq_bind, Option.bind_eq_some_iff, Option.some.injEq, Prod.mk.injEq]
      rintro ⟨m, hm, rfl, -⟩
      have := anyTail?_eq_some hm
      exact not_isAscii_ofNat (by omega) (.inl (by omega))
  | case3 _ _ b _ d tail hlead =>
      -- three bytes, without the surrogates
      simp only [Option.bind_eq_bind, Option.bind_eq_some_iff, Option.some.injEq, Prod.mk.injEq]
      rintro ⟨m, hm, k, hk, rfl, -⟩
      obtain ⟨hlo, hhi, hpayload⟩ := tail?_eq_some hm
      have := anyTail?_eq_some hk
      refine not_isAscii_ofNat ?_ ?_
      · split at hlo <;> omega
      · rw [Nat.isValidChar]
        split at hhi <;> omega
  | case4 _ _ b _ d _ e tail hlead =>
      -- four bytes, up to the last code point
      simp only [Option.bind_eq_bind, Option.bind_eq_some_iff, Option.some.injEq, Prod.mk.injEq]
      rintro ⟨m, hm, k, hk, l, hl, rfl, -⟩
      obtain ⟨hlo, hhi, hpayload⟩ := tail?_eq_some hm
      have := anyTail?_eq_some hk
      have := anyTail?_eq_some hl
      refine not_isAscii_ofNat ?_ (.inr ?_)
      · split at hlo <;> omega
      · split at hhi <;> split at hlo <;> omega
  | case5 => nofun
  | case6 => nofun
  | case7 => nofun
  | case8 => nofun

theorem lead?_of_lt (ha : a.toNat < 128) (rest : List UInt8) :
    lead? a rest = some (Char.ofNat a.toNat, 0) := by
  unfold lead?
  simp only [if_pos ha]

/-- A byte below 128 is a character by itself. -/
theorem chars_cons (ha : a.toNat < 128) (rest : List UInt8) :
    chars (a :: rest) = Char.ofNat a.toNat :: chars rest := by
  simp only [chars]
  rw [decode, lead?_of_lt ha]
  rfl

theorem chars_eq_map {text : List UInt8} (h : ∀ b ∈ text, b.toNat < 128) :
    chars text = text.map fun b => Char.ofNat b.toNat := by
  induction text with
  | nil => simp [chars, decode]
  | cons a rest ih =>
      rw [chars_cons (h a List.mem_cons_self), ih fun b hb => h b (List.mem_cons_of_mem _ hb)]
      rfl

/-- Characters below 128 are read back from their bytes. -/
theorem chars_map_asciiByte (h : ∀ c ∈ cs, IsAscii c) : chars (cs.map asciiByte) = cs := by
  have hbytes : ∀ b ∈ cs.map asciiByte, b.toNat < 128 := by
    intro b hb
    obtain ⟨c, hc, rfl⟩ := List.mem_map.mp hb
    rw [toNat_asciiByte (h c hc)]
    exact h c hc
  calc chars (cs.map asciiByte)
      = cs.map fun c => Char.ofNat (asciiByte c).toNat := by
        rw [chars_eq_map hbytes, List.map_map]
        rfl
    _ = cs.map id := by
        apply List.map_congr_left
        intro c hc
        rw [toNat_asciiByte (h c hc), Char.ofNat_toNat, id]
    _ = cs := List.map_id cs

theorem asciiByte_ofNat (ha : a.toNat < 128) : asciiByte (Char.ofNat a.toNat) = a := by
  have hvalue : (Char.ofNat a.toNat).toNat = a.toNat := toNat_ofNat (.inl (by omega))
  have hascii : IsAscii (Char.ofNat a.toNat) := by
    rw [IsAscii, hvalue]
    exact ha
  apply UInt8.toNat_inj.mp
  rw [toNat_asciiByte hascii, hvalue]

/-- Only its own byte is read as a character below 128. -/
theorem exists_of_chars_eq_cons (hc : IsAscii c) {text : List UInt8} (h : chars text = c :: cs) :
    ∃ rest, text = asciiByte c :: rest ∧ chars rest = cs := by
  cases text with
  | nil => simp [chars, decode] at h
  | cons a rest =>
      by_cases ha : a.toNat < 128
      · rw [chars_cons ha, List.cons.injEq] at h
        obtain ⟨rfl, h⟩ := h
        exact ⟨rest, by rw [asciiByte_ofNat ha], h⟩
      · exfalso
        simp only [chars] at h
        rw [decode] at h
        cases hlead : lead? a rest with
        | none =>
            rw [hlead] at h
            obtain ⟨rfl, -⟩ := List.cons.inj h
            exact not_isAscii_replacement hc
        | some piece =>
            rw [hlead] at h
            obtain ⟨rfl, -⟩ := List.cons.inj h
            exact not_isAscii_of_lead? (by omega) hlead hc

theorem exists_of_chars_eq_append {start : List Char} (hstart : ∀ c ∈ start, IsAscii c)
    {text : List UInt8} (h : chars text = start ++ cs) :
    ∃ rest, text = start.map asciiByte ++ rest ∧ chars rest = cs := by
  induction start generalizing text with
  | nil => exact ⟨text, rfl, h⟩
  | cons c start ih =>
      obtain ⟨rest, rfl, hrest⟩ := exists_of_chars_eq_cons (hstart c List.mem_cons_self) h
      obtain ⟨rest', rfl, hrest'⟩ := ih (fun d hd => hstart d (List.mem_cons_of_mem _ hd)) hrest
      exact ⟨rest', rfl, hrest'⟩

/-! ## Reading any text back

What `lead?` asks of the second byte is what every character's bytes satisfy, so no character is
taken for stray bytes.
-/

theorem lead?_two {a b : UInt8} (rest : List UInt8) (ha : 0xC2 ≤ a.toNat ∧ a.toNat ≤ 0xDF)
    (hb : 0x80 ≤ b.toNat ∧ b.toNat ≤ 0xBF) :
    lead? a (b :: rest)
      = some (Char.ofNat ((a.toNat - 0xC0) * 64 + (b.toNat - 0x80)), 1) := by
  have hnot : ¬ a.toNat < 0x80 := by omega
  simp only [lead?, if_neg hnot, if_pos ha, anyTail?, tail?, if_pos hb, Option.bind_eq_bind,
    Option.bind_some]

theorem lead?_three {a b d : UInt8} (rest : List UInt8) (ha : 0xE0 ≤ a.toNat ∧ a.toNat ≤ 0xEF)
    (hb : (if a.toNat = 0xE0 then 0xA0 else 0x80) ≤ b.toNat
      ∧ b.toNat ≤ (if a.toNat = 0xED then 0x9F else 0xBF))
    (hd : 0x80 ≤ d.toNat ∧ d.toNat ≤ 0xBF) :
    lead? a (b :: d :: rest)
      = some
        (Char.ofNat (((a.toNat - 0xE0) * 64 + (b.toNat - 0x80)) * 64 + (d.toNat - 0x80)), 2) := by
  have hnot : ¬ a.toNat < 0x80 := by omega
  have hnot' : ¬ (0xC2 ≤ a.toNat ∧ a.toNat ≤ 0xDF) := by omega
  simp only [lead?, if_neg hnot, if_neg hnot', if_pos ha, anyTail?, tail?, if_pos hb, if_pos hd,
    Option.bind_eq_bind, Option.bind_some]

theorem lead?_four {a b d e : UInt8} (rest : List UInt8) (ha : 0xF0 ≤ a.toNat ∧ a.toNat ≤ 0xF4)
    (hb : (if a.toNat = 0xF0 then 0x90 else 0x80) ≤ b.toNat
      ∧ b.toNat ≤ (if a.toNat = 0xF4 then 0x8F else 0xBF))
    (hd : 0x80 ≤ d.toNat ∧ d.toNat ≤ 0xBF) (he : 0x80 ≤ e.toNat ∧ e.toNat ≤ 0xBF) :
    lead? a (b :: d :: e :: rest)
      = some (Char.ofNat ((((a.toNat - 0xF0) * 64 + (b.toNat - 0x80)) * 64 + (d.toNat - 0x80)) * 64
        + (e.toNat - 0x80)), 3) := by
  have hnot : ¬ a.toNat < 0x80 := by omega
  have hnot' : ¬ (0xC2 ≤ a.toNat ∧ a.toNat ≤ 0xDF) := by omega
  have hnot'' : ¬ (0xE0 ≤ a.toNat ∧ a.toNat ≤ 0xEF) := by omega
  simp only [lead?, if_neg hnot, if_neg hnot', if_neg hnot'', if_pos ha, anyTail?, tail?, if_pos hb,
    if_pos hd, if_pos he, Option.bind_eq_bind, Option.bind_some]

theorem toNat_ofNat_byte {n : Nat} (h : n < 256) : (UInt8.ofNat n).toNat = n := by
  rw [UInt8.toNat_ofNat', Nat.mod_eq_of_lt h]

theorem ofNat_eq {n : Nat} (h : n = c.toNat) : Char.ofNat n = c := by
  rw [h, Char.ofNat_toNat]

theorem decode_of_lead? {a : UInt8} {tail rest : List UInt8}
    (h : lead? a (tail ++ rest) = some (c, tail.length)) :
    decode (a :: tail ++ rest) = .char c :: decode rest := by
  rw [List.cons_append, decode, h]
  simp only [List.drop_left]

/-- A character is read back from its bytes, whatever follows. -/
theorem decode_utf8EncodeChar (c : Char) (rest : List UInt8) :
    decode (String.utf8EncodeChar c ++ rest) = .char c :: decode rest := by
  have hvalid : c.toNat < 0xD800 ∨ 0xDFFF < c.toNat ∧ c.toNat < 0x110000 := c.valid
  have hval : c.val.toNat = c.toNat := rfl
  simp only [String.utf8EncodeChar, hval]
  split
  · apply decode_of_lead?
    have ha : (UInt8.ofNat c.toNat).toNat = c.toNat := toNat_ofNat_byte (by omega)
    rw [lead?_of_lt (by omega), ofNat_eq (c := c) (by omega)]
    rfl
  · split
    · apply decode_of_lead?
      have ha : (UInt8.ofNat (c.toNat / 64 % 32 + 192)).toNat = c.toNat / 64 + 192 := by
        rw [toNat_ofNat_byte] <;> omega
      have hb : (UInt8.ofNat (c.toNat % 64 + 128)).toNat = c.toNat % 64 + 128 :=
        toNat_ofNat_byte (by omega)
      rw [List.cons_append, lead?_two _ (by omega) (by omega), ofNat_eq (c := c) (by omega)]
      rfl
    · split
      · apply decode_of_lead?
        have ha : (UInt8.ofNat (c.toNat / 4096 % 16 + 224)).toNat = c.toNat / 4096 + 224 := by
          rw [toNat_ofNat_byte] <;> omega
        have hb : (UInt8.ofNat (c.toNat / 64 % 64 + 128)).toNat = c.toNat / 64 % 64 + 128 :=
          toNat_ofNat_byte (by omega)
        have hd : (UInt8.ofNat (c.toNat % 64 + 128)).toNat = c.toNat % 64 + 128 :=
          toNat_ofNat_byte (by omega)
        rw [List.cons_append, List.cons_append, lead?_three _ (by omega) ?_ (by omega),
          ofNat_eq (c := c) (by omega)]
        · rfl
        · split <;> split <;> omega
      · apply decode_of_lead?
        have ha : (UInt8.ofNat (c.toNat / 262144 % 8 + 240)).toNat = c.toNat / 262144 + 240 := by
          rw [toNat_ofNat_byte] <;> omega
        have hb : (UInt8.ofNat (c.toNat / 4096 % 64 + 128)).toNat = c.toNat / 4096 % 64 + 128 :=
          toNat_ofNat_byte (by omega)
        have hd : (UInt8.ofNat (c.toNat / 64 % 64 + 128)).toNat = c.toNat / 64 % 64 + 128 :=
          toNat_ofNat_byte (by omega)
        have he : (UInt8.ofNat (c.toNat % 64 + 128)).toNat = c.toNat % 64 + 128 :=
          toNat_ofNat_byte (by omega)
        rw [List.cons_append, List.cons_append, List.cons_append,
          lead?_four _ (by omega) ?_ (by omega) (by omega), ofNat_eq (c := c) (by omega)]
        · rfl
        · split <;> split <;> omega

/-- A text is read back from its bytes, whatever follows. -/
theorem chars_bytes_append (s : String) (rest : List UInt8) :
    chars (bytes s ++ rest) = s.toList ++ chars rest := by
  have hread : ∀ cs : List Char,
      decode (cs.flatMap String.utf8EncodeChar ++ rest) = cs.map .char ++ decode rest := by
    intro cs
    induction cs with
    | nil => rfl
    | cons c cs ih =>
        rw [List.flatMap_cons, List.append_assoc, decode_utf8EncodeChar, ih]
        rfl
  rw [chars, bytes_eq_flatMap, hread, List.map_append, List.map_map]
  congr 1
  exact List.map_id _

theorem chars_bytes (s : String) : chars (bytes s) = s.toList := by
  have hread := chars_bytes_append s []
  rwa [List.append_nil, show chars [] = [] by simp [chars, decode], List.append_nil] at hread

/-- A character below 128 is read only where its own byte is. -/
theorem mem_of_mem_chars (hc : IsAscii c) {text : List UInt8} (h : c ∈ chars text) :
    asciiByte c ∈ text := by
  unfold chars at h
  fun_induction decode text with
  | case1 => cases h
  | case2 a rest d n hlead ih =>
      rcases List.mem_cons.mp h with rfl | h
      · by_cases ha : a.toNat < 128
        · rw [lead?_of_lt ha] at hlead
          obtain ⟨rfl, -⟩ := Prod.mk.inj (Option.some.inj hlead)
          show asciiByte (Char.ofNat a.toNat) ∈ a :: rest
          rw [asciiByte_ofNat ha]
          exact List.mem_cons_self
        · exact absurd hc (not_isAscii_of_lead? (by omega) hlead)
      · exact List.mem_cons_of_mem _ (List.mem_of_mem_drop (ih h))
  | case3 a rest hlead ih =>
      rcases List.mem_cons.mp h with rfl | h
      · exact absurd hc not_isAscii_replacement
      · exact List.mem_cons_of_mem _ (ih h)

/-- A byte below 128 is in no character but its own. -/
theorem eq_of_mem_utf8EncodeChar {d : Char} (hc : IsAscii c)
    (h : asciiByte c ∈ String.utf8EncodeChar d) : d = c := by
  have hlt : c.toNat < 128 := hc
  have hbyte : ∀ n, n < 256 → asciiByte c = UInt8.ofNat n → c.toNat = n := by
    intro n hn heq
    rw [← toNat_asciiByte hc, heq, toNat_ofNat_byte hn]
  have hlong : ∀ n, 128 ≤ n → n < 256 → asciiByte c ≠ UInt8.ofNat n := by
    intro n hlo hhi heq
    have := hbyte n hhi heq
    omega
  have hval : d.val.toNat = d.toNat := rfl
  simp only [String.utf8EncodeChar, hval] at h
  -- Only a character of one byte has a byte below 128: longer ones begin at 192 and go on at 128.
  repeat' split at h
  · rw [List.mem_singleton] at h
    exact Char.toNat_inj.mp (hbyte _ (by omega) h).symm
  all_goals
    simp only [List.mem_cons, List.not_mem_nil, or_false] at h
    exfalso
  · rcases h with h | h <;> exact hlong _ (by omega) (by omega) h
  · rcases h with h | h | h <;> exact hlong _ (by omega) (by omega) h
  · rcases h with h | h | h | h <;> exact hlong _ (by omega) (by omega) h

theorem mem_bytes_iff (hc : IsAscii c) (s : String) : asciiByte c ∈ bytes s ↔ c ∈ s.toList := by
  rw [bytes_eq_flatMap, List.mem_flatMap]
  constructor
  · rintro ⟨d, hd, hbyte⟩
    rwa [← eq_of_mem_utf8EncodeChar hc hbyte]
  · intro h
    exact ⟨c, h, by rw [utf8EncodeChar_of_ascii hc]; exact List.mem_singleton_self _⟩

end Ricochet.Utf8
