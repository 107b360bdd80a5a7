import Ricochet.Color.Hex
import Ricochet.Proofs.TextBytes

set_option autoImplicit false

/-! # Which texts name a colour

The documented names of colours are `rrggbb` and `#rrggbb` (`Color.IsHexName`). Reading goes by
channels: the text after the `#` has six bytes, and from its characters three channels are taken one
after the other. A channel (`Color.Channel`) may have white space before it and may be a single
digit, and nothing is asked of what follows the third one. So more texts are read than are
documented: the documented names are those whose channels are plain pairs of digits
(`Color.isHexName_iff`).

* `Color.readChannel_eq_ok_iff`, `Color.readChannels_eq_ok_iff`: reading follows the grammar.
* `Color.reading_follows_channels`: which texts are read, which of them are documented, and what
  comes back for the others.
-/

namespace Ricochet

open Decimal (hexDigit? digitChar)

/-! ## Hexadecimal digits -/

/-- A hexadecimal digit has its value by its place among the digits of its kind. -/
theorem hexDigit?_eq_some_iff {c : Char} {d : Nat} :
    hexDigit? c = some d ↔
      (48 ≤ c.toNat ∧ c.toNat ≤ 57 ∧ d = c.toNat - 48)
      ∨ (97 ≤ c.toNat ∧ c.toNat ≤ 102 ∧ d = c.toNat - 87)
      ∨ (65 ≤ c.toNat ∧ c.toNat ≤ 70 ∧ d = c.toNat - 55) := by
  have hdecimal : ('0' ≤ c ∧ c ≤ '9') ↔ 48 ≤ c.toNat ∧ c.toNat ≤ 57 := Iff.rfl
  have hlower : ('a' ≤ c ∧ c ≤ 'f') ↔ 97 ≤ c.toNat ∧ c.toNat ≤ 102 := Iff.rfl
  have hupper : ('A' ≤ c ∧ c ≤ 'F') ↔ 65 ≤ c.toNat ∧ c.toNat ≤ 70 := Iff.rfl
  unfold hexDigit?
  simp only [hdecimal, hlower, hupper]
  split
  · rw [Option.some.injEq]
    omega
  · split
    · rw [Option.some.injEq]
      omega
    · split
      · rw [Option.some.injEq]
        omega
      · constructor
        · intro h
          cases h
        · omega

/-- Whether a character is a hexadecimal digit of either case. -/
def IsHexDigit (c : Char) : Prop :=
  ('0' ≤ c ∧ c ≤ '9') ∨ ('A' ≤ c ∧ c ≤ 'F') ∨ ('a' ≤ c ∧ c ≤ 'f')

instance (c : Char) : Decidable (IsHexDigit c) := inferInstanceAs (Decidable (_ ∨ _))

theorem isHexDigit_iff {c : Char} : IsHexDigit c ↔
    (48 ≤ c.toNat ∧ c.toNat ≤ 57) ∨ (65 ≤ c.toNat ∧ c.toNat ≤ 70)
      ∨ (97 ≤ c.toNat ∧ c.toNat ≤ 102) := Iff.rfl

theorem exists_hexDigit?_iff {c : Char} : (∃ d, hexDigit? c = some d) ↔ IsHexDigit c := by
  simp only [hexDigit?_eq_some_iff, isHexDigit_iff]
  constructor
  · rintro ⟨d, h⟩
    omega
  · rintro (h | h | h)
    · exact ⟨_, .inl ⟨h.1, h.2, rfl⟩⟩
    · exact ⟨_, .inr (.inr ⟨h.1, h.2, rfl⟩)⟩
    · exact ⟨_, .inr (.inl ⟨h.1, h.2, rfl⟩)⟩

theorem isAscii_of_isHexDigit {c : Char} (h : IsHexDigit c) : Utf8.IsAscii c := by
  rw [isHexDigit_iff] at h
  rw [Utf8.IsAscii]
  omega

theorem lt_of_hexDigit? {c : Char} {d : Nat} (h : hexDigit? c = some d) : d < 16 := by
  have hc := hexDigit?_eq_some_iff.mp h
  omega

theorem toNat_toLower (c : Char) :
    c.toLower.toNat = if 65 ≤ c.toNat ∧ c.toNat ≤ 90 then c.toNat + 32 else c.toNat := by
  have hupper : (c.val ≥ 'A'.val ∧ c.val ≤ 'Z'.val) ↔ 65 ≤ c.toNat ∧ c.toNat ≤ 90 := Iff.rfl
  unfold Char.toLower
  by_cases h : 65 ≤ c.toNat ∧ c.toNat ≤ 90
  · rw [dif_pos (hupper.mpr h), if_pos h]
    show (c.val + ('a'.val - 'A'.val)).toNat = c.val.toNat + 32
    have hc : c.val.toNat ≤ 90 := h.2
    have hshift : ('a'.val - 'A'.val).toNat = 32 := rfl
    rw [UInt32.toNat_add]
    omega
  · rw [dif_neg (mt hupper.mp h), if_neg h]

theorem toNat_digitChar {d : Nat} (h : d < 16) :
    (digitChar d).toNat = if d < 10 then 48 + d else 87 + d := by
  unfold digitChar
  split
  · exact Utf8.toNat_ofNat (.inl (by omega))
  · exact Utf8.toNat_ofNat (.inl (by omega))

theorem hexDigit?_digitChar {d : Nat} (h : d < 16) : hexDigit? (digitChar d) = some d := by
  rw [hexDigit?_eq_some_iff, toNat_digitChar h]
  split <;> omega

/-- A digit is written back in lower case. -/
theorem digitChar_of_hexDigit? {c : Char} {d : Nat} (h : hexDigit? c = some d) :
    digitChar d = c.toLower := by
  have hc := hexDigit?_eq_some_iff.mp h
  rw [← Char.toNat_inj, toNat_digitChar (lt_of_hexDigit? h), toNat_toLower]
  split <;> split <;> omega

/-- White space is no digit. -/
theorem hexDigit?_of_space {c : Char} (h : isChannelSpace c = true) : hexDigit? c = none := by
  cases hd : hexDigit? c with
  | none => rfl
  | some d =>
      have hc := hexDigit?_eq_some_iff.mp hd
      simp only [isChannelSpace, Bool.or_eq_true, Bool.and_eq_true, decide_eq_true_eq] at h
      omega

namespace Color

/-- The digits of a channel made of two digits. -/
theorem channelChars_pair {high low : Nat} (hhigh : high < 16) (hlow : low < 16) :
    channelChars (high * 16 + low).toUInt8 = [digitChar high, digitChar low] := by
  have hvalue : (high * 16 + low).toUInt8.toNat = high * 16 + low := by
    simp only [Nat.toUInt8, UInt8.toNat_ofNat']
    omega
  have hdiv : (high * 16 + low) / 16 = high := by omega
  have hmod : (high * 16 + low) % 16 = low := by omega
  rw [channelChars, hvalue, hdiv, hmod]

/-! ## Channels -/

/-- A channel at the start of a text, with its value and the text after it: white space, then two
digits, or one digit that no other follows. -/
inductive Channel : List Char → UInt8 → List Char → Prop
  | space {c : Char} {cs rest : List Char} {v : UInt8} :
      isChannelSpace c = true → Channel cs v rest → Channel (c :: cs) v rest
  | pair {c d : Char} {high low : Nat} (rest : List Char) :
      hexDigit? c = some high → hexDigit? d = some low →
        Channel (c :: d :: rest) (high * 16 + low).toUInt8 rest
  | single {c : Char} {digit : Nat} {rest : List Char} :
      hexDigit? c = some digit → (∀ d ∈ rest.head?, hexDigit? d = none) →
        Channel (c :: rest) digit.toUInt8 rest

variable {c d : Char} {cs rest : List Char} {v : UInt8}

theorem readChannel_space (h : isChannelSpace c = true) :
    readChannel (c :: cs) = readChannel cs := by
  have hline : c ≠ '\n' := by
    rintro rfl
    exact absurd h (by decide)
  simp only [readChannel, skipSpace, if_neg hline, if_pos h]

theorem not_space_of_hexDigit? {high : Nat} (h : hexDigit? c = some high) :
    c ≠ '\n' ∧ ¬ isChannelSpace c = true := by
  constructor
  · rintro rfl
    have hnone : hexDigit? '\n' = none := by decide
    rw [hnone] at h
    cases h
  · intro hspace
    rw [hexDigit?_of_space hspace] at h
    cases h

theorem readChannel_pair {high low : Nat} (hc : hexDigit? c = some high)
    (hd : hexDigit? d = some low) :
    readChannel (c :: d :: rest) = .ok ((high * 16 + low).toUInt8, rest) := by
  obtain ⟨hline, hspace⟩ := not_space_of_hexDigit? hc
  simp only [readChannel, skipSpace, if_neg hline, if_neg hspace, bind, Except.bind, hc, hd]

theorem readChannel_single {digit : Nat} (hc : hexDigit? c = some digit)
    (hrest : ∀ d ∈ rest.head?, hexDigit? d = none) :
    readChannel (c :: rest) = .ok (digit.toUInt8, rest) := by
  obtain ⟨hline, hspace⟩ := not_space_of_hexDigit? hc
  simp only [readChannel, skipSpace, if_neg hline, if_neg hspace, bind, Except.bind, hc]
  cases rest with
  | nil => rfl
  | cons d rest =>
      have hd : hexDigit? d = none := hrest d rfl
      simp only [hd]

/-- What is neither white space nor a digit begins no channel, the end of a line included. -/
theorem readChannel_no_digit (hspace : ¬ isChannelSpace c = true) (hc : hexDigit? c = none) :
    readChannel (c :: cs) = .error (if c = '\n' then .newline else .noDigit) := by
  by_cases hline : c = '\n'
  · subst hline
    rfl
  · simp only [readChannel, skipSpace, if_neg hline, if_neg hspace, bind, Except.bind, hc]

/-- **Reading a channel follows the grammar.** -/
theorem readChannel_eq_ok_iff : readChannel cs = .ok (v, rest) ↔ Channel cs v rest := by
  constructor
  · intro h
    -- White space is passed over one character at a time; then at most two characters decide.
    induction cs with
    | nil => cases h
    | cons c cs ih =>
        by_cases hspace : isChannelSpace c = true
        · rw [readChannel_space hspace] at h
          exact .space hspace (ih h)
        cases hc : hexDigit? c with
        | none =>
            rw [readChannel_no_digit hspace hc] at h
            cases h
        | some high =>
            by_cases hnext : ∃ d tail low, cs = d :: tail ∧ hexDigit? d = some low
            · obtain ⟨d, tail, low, rfl, hd⟩ := hnext
              rw [readChannel_pair hc hd] at h
              cases h
              exact .pair _ hc hd
            · have halone : ∀ d ∈ cs.head?, hexDigit? d = none := by
                intro d hd
                cases hdigit : hexDigit? d with
                | none => rfl
                | some low =>
                    obtain ⟨tail, rfl⟩ := List.head?_eq_some_iff.mp hd
                    exact absurd ⟨d, tail, low, rfl, hdigit⟩ hnext
              rw [readChannel_single hc halone] at h
              cases h
              exact .single hc halone
  · intro h
    induction h with
    | space hspace _ ih => rw [readChannel_space hspace, ih]
    | pair rest hc hd => exact readChannel_pair hc hd
    | single hc hrest => exact readChannel_single hc hrest

/-- Three channels of some kind one after the other, at the start of a text, and their colour. -/
def Spelled (channel : List Char → UInt8 → List Char → Prop) (cs : List Char) (c : Color) : Prop :=
  ∃ red green blue cs₁ cs₂ rest,
    channel cs red cs₁ ∧ channel cs₁ green cs₂ ∧ channel cs₂ blue rest ∧ c = rgb red green blue

theorem bind_eq_ok_iff {ε β γ : Type} {x : Except ε β} {f : β → Except ε γ} {out : γ} :
    (x >>= f) = .ok out ↔ ∃ b, x = .ok b ∧ f b = .ok out := by
  constructor
  · intro h
    cases x with
    | error e => cases h
    | ok b => exact ⟨b, rfl, h⟩
  · rintro ⟨b, rfl, h⟩
    exact h

theorem readChannels_eq_ok_iff {color : Color} :
    readChannels cs = .ok color ↔ Spelled Channel cs color := by
  simp only [readChannels, bind_eq_ok_iff, Prod.exists, readChannel_eq_ok_iff]
  constructor
  · rintro ⟨red, cs₁, hred, green, cs₂, hgreen, blue, rest, hblue, h⟩
    exact ⟨red, green, blue, cs₁, cs₂, rest, hred, hgreen, hblue, (Except.ok.inj h).symm⟩
  · rintro ⟨red, green, blue, cs₁, cs₂, rest, hred, hgreen, hblue, rfl⟩
    exact ⟨red, cs₁, hred, green, cs₂, hgreen, blue, rest, hblue, rfl⟩

/-! ## Documented names -/

/-- Whether a text is six hexadecimal digits. -/
def IsSixDigits (text : List UInt8) : Prop :=
  text.length = 6 ∧ ∀ b ∈ text, IsHexDigit (Char.ofNat b.toNat)

/-- Whether a text is `rrggbb` or `#rrggbb`. -/
def IsHexName (text : List UInt8) : Prop :=
  IsSixDigits text ∨ (text.head? = some 35 ∧ IsSixDigits text.tail)

instance (text : List UInt8) : Decidable (IsSixDigits text) :=
  @instDecidableAnd _ _ (instDecidableEqNat _ _) (List.decidableBAll _ text)

instance (text : List UInt8) : Decidable (IsHexName text) := inferInstanceAs (Decidable (_ ∨ _))

/-- A plain channel: two digits, with nothing before them. -/
def DigitPair (cs : List Char) (v : UInt8) (rest : List Char) : Prop :=
  ∃ c d high low, cs = c :: d :: rest ∧ hexDigit? c = some high ∧ hexDigit? d = some low
    ∧ v = (high * 16 + low).toUInt8

theorem DigitPair.channel (h : DigitPair cs v rest) : Channel cs v rest := by
  obtain ⟨c, d, high, low, rfl, hc, hd, rfl⟩ := h
  exact .pair rest hc hd

theorem Spelled.mono {channel channel' : List Char → UInt8 → List Char → Prop}
    (hsub : ∀ {cs v rest}, channel cs v rest → channel' cs v rest) {color : Color}
    (h : Spelled channel cs color) : Spelled channel' cs color := by
  obtain ⟨red, green, blue, cs₁, cs₂, rest, hred, hgreen, hblue, hcolor⟩ := h
  exact ⟨red, green, blue, cs₁, cs₂, rest, hsub hred, hsub hgreen, hsub hblue, hcolor⟩

/-- Two digits are a plain channel, and the channel is written as these digits in lower case. -/
theorem exists_digitPair (hc : IsHexDigit c) (hd : IsHexDigit d) (rest : List Char) :
    ∃ v, DigitPair (c :: d :: rest) v rest ∧ channelChars v = [c.toLower, d.toLower] := by
  obtain ⟨high, hhigh⟩ := exists_hexDigit?_iff.mpr hc
  obtain ⟨low, hlow⟩ := exists_hexDigit?_iff.mpr hd
  refine ⟨_, ⟨c, d, high, low, rfl, hhigh, hlow, rfl⟩, ?_⟩
  rw [channelChars_pair (lt_of_hexDigit? hhigh) (lt_of_hexDigit? hlow),
    digitChar_of_hexDigit? hhigh, digitChar_of_hexDigit? hlow]

theorem exists_eq_six {β : Type} {items : List β} (h : items.length = 6) :
    ∃ a b c d e f, items = [a, b, c, d, e, f] := by
  rcases items with _ | ⟨a, _ | ⟨b, _ | ⟨c, _ | ⟨d, _ | ⟨e, _ | ⟨f, _ | ⟨g, items⟩⟩⟩⟩⟩⟩⟩
  case cons.cons.cons.cons.cons.cons.nil => exact ⟨a, b, c, d, e, f, rfl⟩
  all_goals simp at h

/-- Six digits spell a colour, which is written with the same digits in lower case. -/
theorem exists_spelled {digits : List Char} (hlength : digits.length = 6)
    (hdigits : ∀ d ∈ digits, IsHexDigit d) :
    ∃ color, Spelled DigitPair digits color
      ∧ color.hexChars = '#' :: digits.map Char.toLower := by
  obtain ⟨a, b, c, d, e, f, rfl⟩ := exists_eq_six hlength
  simp only [List.forall_mem_cons] at hdigits
  obtain ⟨ha, hb, hc, hd, he, hf, -⟩ := hdigits
  obtain ⟨red, hred, hreds⟩ := exists_digitPair ha hb [c, d, e, f]
  obtain ⟨green, hgreen, hgreens⟩ := exists_digitPair hc hd [e, f]
  obtain ⟨blue, hblue, hblues⟩ := exists_digitPair he hf []
  refine ⟨rgb red green blue, ⟨red, green, blue, _, _, _, hred, hgreen, hblue, rfl⟩, ?_⟩
  simp [hexChars, rgb, hreds, hgreens, hblues]

/-- Three pairs in six bytes leave room for nothing else. -/
theorem isSixDigits_of_spelled {body : List UInt8} {color : Color} (hlength : body.length = 6)
    (h : Spelled DigitPair (Utf8.chars body) color) : IsSixDigits body := by
  obtain ⟨_, _, _, _, _, rest, ⟨a, b, _, _, hchars, ha, hb, -⟩, ⟨c, d, _, _, rfl, hc, hd, -⟩,
    ⟨e, f, _, _, rfl, he, hf, -⟩, -⟩ := h
  have hdigits : ∀ x ∈ [a, b, c, d, e, f], IsHexDigit x := by
    simp only [List.forall_mem_cons, ← exists_hexDigit?_iff]
    exact ⟨⟨_, ha⟩, ⟨_, hb⟩, ⟨_, hc⟩, ⟨_, hd⟩, ⟨_, he⟩, ⟨_, hf⟩, nofun⟩
  have hascii := fun x hx => isAscii_of_isHexDigit (hdigits x hx)
  -- The six characters take six bytes, which are all there are.
  obtain ⟨tail, rfl, -⟩ := Utf8.exists_of_chars_eq_append hascii
    (hchars : Utf8.chars body = [a, b, c, d, e, f] ++ rest)
  obtain rfl : tail = [] := by
    apply List.eq_nil_of_length_eq_zero
    simpa using hlength
  refine ⟨rfl, fun x hx => ?_⟩
  rw [List.append_nil] at hx
  obtain ⟨y, hy, rfl⟩ := List.mem_map.mp hx
  rw [Utf8.toNat_asciiByte (hascii y hy), Char.ofNat_toNat]
  exact hdigits y hy

theorem chars_of_isSixDigits {body : List UInt8} (h : IsSixDigits body) :
    Utf8.chars body = body.map fun b => Char.ofNat b.toNat := by
  apply Utf8.chars_eq_map
  intro b hb
  have hbyte : b.toNat < 256 := b.toNat_lt
  have hdigit := isHexDigit_iff.mp (h.2 b hb)
  rw [Utf8.toNat_ofNat (.inl (by omega))] at hdigit
  omega

theorem isSixDigits_iff {body : List UInt8} :
    IsSixDigits body ↔ body.length = 6 ∧ ∃ color, Spelled DigitPair (Utf8.chars body) color := by
  constructor
  · intro h
    refine ⟨h.1, ?_⟩
    rw [chars_of_isSixDigits h]
    have hlength : (body.map fun b => Char.ofNat b.toNat).length = 6 := by rw [List.length_map, h.1]
    obtain ⟨color, hcolor, -⟩ := exists_spelled hlength (by simpa using h.2)
    exact ⟨color, hcolor⟩
  · rintro ⟨hlength, color, h⟩
    exact isSixDigits_of_spelled hlength h

theorem isHexName_iff_dropHash {text : List UInt8} :
    IsHexName text ↔ IsSixDigits (dropHash text) := by
  unfold IsHexName
  cases text with
  | nil => simp [dropHash]
  | cons b bs =>
      by_cases hb : b = 35
      · subst hb
        have hhash : ¬ IsSixDigits (35 :: bs) :=
          fun h => absurd (h.2 35 List.mem_cons_self) (by decide)
        simp [dropHash, hhash]
      · simp [dropHash, hb]

/-- **The documented names are those whose three channels are plain pairs of digits.** -/
theorem isHexName_iff {text : List UInt8} :
    IsHexName text ↔ (dropHash text).length = 6
      ∧ ∃ color, Spelled DigitPair (Utf8.chars (dropHash text)) color := by
  rw [isHexName_iff_dropHash, isSixDigits_iff]

/-! ## What reading gives back -/

theorem parseBytes_eq_ok_iff {text : List UInt8} {color : Color} :
    parseBytes text = .ok color ↔ (dropHash text).length = 6
      ∧ Spelled Channel (Utf8.chars (dropHash text)) color := by
  rw [← readChannels_eq_ok_iff]
  unfold parseBytes
  by_cases hlength : (dropHash text).length = 6
  · simp only [hlength, true_and]
    cases readChannels (Utf8.chars (dropHash text)) with
    | error fault => simp
    | ok c => simp
  · simp [hlength]

theorem parseBytes_eq_error {text : List UInt8} {e : ColorError} (h : parseBytes text = .error e) :
    e.text = dropHash text ∧ (e.fault = none ↔ (dropHash text).length ≠ 6) := by
  unfold parseBytes at h
  by_cases hlength : (dropHash text).length = 6
  · simp only [if_pos hlength] at h
    cases hread : readChannels (Utf8.chars (dropHash text)) with
    | error fault =>
        rw [hread] at h
        obtain rfl := Except.error.inj h
        simp [hlength]
    | ok c =>
        rw [hread] at h
        cases h
  · simp only [if_neg hlength] at h
    obtain rfl := Except.error.inj h
    simp [hlength]

theorem reading_eq_none_iff {text : List UInt8} {color : Color} :
    reading text = (color, none) ↔ parseBytes text = .ok color := by
  unfold reading
  cases parseBytes text with
  | error e => simp
  | ok c => simp

theorem reading_eq_some_iff {text : List UInt8} {color : Color} {e : ColorError} :
    reading text = (color, some e) ↔ color = Color.default ∧ parseBytes text = .error e := by
  unfold reading
  cases parseBytes text with
  | error e' => simp [eq_comm]
  | ok c => simp

/-- **Which texts are read as colours.** A text is read if after the `#` it has six bytes that begin
with three channels, each after white space or not and of one digit or two. It is a documented name
if besides each channel is two digits and nothing else. Every documented name is read. A text that
is not read comes back with the terminal's own foreground and an error that shows what stands after
the `#`, and the error has no fault of a channel exactly if the length is to blame. -/
theorem reading_follows_channels (text : List UInt8) :
    let body := dropHash text
    (∀ color, reading text = (color, none) ↔
        body.length = 6 ∧ Spelled Channel (Utf8.chars body) color)
    ∧ (∀ color, IsHexName text ∧ reading text = (color, none) ↔
        body.length = 6 ∧ Spelled DigitPair (Utf8.chars body) color)
    ∧ (IsHexName text → ∃ color, reading text = (color, none))
    ∧ ((∃ color, reading text = (color, none)) ∨ ∃ e, reading text = (Color.default, some e)
        ∧ e.text = body ∧ (e.fault = none ↔ body.length ≠ 6)) := by
  intro body
  have hread : ∀ color, reading text = (color, none) ↔
      body.length = 6 ∧ Spelled Channel (Utf8.chars body) color :=
    fun color => reading_eq_none_iff.trans parseBytes_eq_ok_iff
  refine ⟨hread, fun color => ⟨?_, ?_⟩, ?_, ?_⟩
  · rintro ⟨hname, hcolor⟩
    obtain ⟨hlength, plain, hplain⟩ := isHexName_iff.mp hname
    -- A text is read as one colour only.
    have hsame : (color, none) = (plain, none) :=
      hcolor.symm.trans ((hread plain).mpr ⟨hlength, hplain.mono DigitPair.channel⟩)
    rw [Prod.mk.injEq] at hsame
    exact ⟨hlength, hsame.1 ▸ hplain⟩
  · rintro ⟨hlength, hplain⟩
    exact ⟨isHexName_iff.mpr ⟨hlength, color, hplain⟩,
      (hread color).mpr ⟨hlength, hplain.mono DigitPair.channel⟩⟩
  · intro hname
    obtain ⟨hlength, plain, hplain⟩ := isHexName_iff.mp hname
    exact ⟨plain, (hread plain).mpr ⟨hlength, hplain.mono DigitPair.channel⟩⟩
  · cases hparse : parseBytes text with
    | ok color => exact .inl ⟨color, reading_eq_none_iff.mpr hparse⟩
    | error e =>
        exact .inr ⟨e, reading_eq_some_iff.mpr ⟨rfl, hparse⟩, parseBytes_eq_error hparse⟩

/-- A documented name in both cases of letters: `#0a0B0c`. -/
theorem reading_follows_channels_mixed :
    IsHexName [35, 48, 97, 48, 66, 48, 99]
      ∧ ∃ color, reading [35, 48, 97, 48, 66, 48, 99] = (color, none) := by
  have hname : IsHexName [35, 48, 97, 48, 66, 48, 99] := by decide
  obtain ⟨-, -, hread, -⟩ := reading_follows_channels [35, 48, 97, 48, 66, 48, 99]
  exact ⟨hname, hread hname⟩

/-- **Colours without a documented name.** A text of white space and single digits is read, and so
is one whose last character is no digit: ` 1 2 3` and `12345g`. -/
theorem undocumented_names_read :
    (¬ IsHexName [32, 49, 32, 50, 32, 51] ∧ reading [32, 49, 32, 50, 32, 51] = (rgb 1 2 3, none))
    ∧ ¬ IsHexName [49, 50, 51, 52, 53, 103]
      ∧ reading [49, 50, 51, 52, 53, 103] = (rgb 0x12 0x34 5, none) := by
  refine ⟨⟨by decide, ?_⟩, by decide, ?_⟩
  · decide +kernel
  · decide +kernel

end Color

end Ricochet
