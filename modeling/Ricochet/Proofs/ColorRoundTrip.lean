import Ricochet.Proofs.ColorNames
import Ricochet.Proofs.FirstMistake

set_option autoImplicit false

/-! # Colours there and back

A colour is written as `#` and six digits, and what is written is one of the documented names. So a
colour that is set is read back as it was (`Color.parse_hex`), and a documented name that is read is
written back in lower case (`Color.exists_parse_digits`). Both go through the pairs of digits of
which a name is made: a channel is written as one (`Color.digitPair_channelChars`), and a name is
read by them (`Color.parse_of_spelled`).

* `Color.colors_survive_text`: both ways, for single colours and for the balls of settings.
-/

namespace Ricochet

open Decimal (hexDigit? digitChar)

namespace Color

/-! ## Reading names -/

theorem isHexDigit_digitChar {d : Nat} (h : d < 16) : IsHexDigit (digitChar d) :=
  exists_hexDigit?_iff.mp ⟨d, hexDigit?_digitChar h⟩

/-- Six digits are read by their pairs, after a `#` or without one. -/
theorem parse_of_spelled {digits : List Char} {color : Color} (hlength : digits.length = 6)
    (hdigits : ∀ d ∈ digits, IsHexDigit d) (h : Spelled DigitPair digits color) :
    parse (String.ofList digits) = .ok color
      ∧ parse (String.ofList ('#' :: digits)) = .ok color := by
  have hascii : ∀ d ∈ digits, Utf8.IsAscii d := fun d hd => isAscii_of_isHexDigit (hdigits d hd)
  have hplain : Utf8.bytes (String.ofList digits) = digits.map Utf8.asciiByte :=
    Utf8.bytes_ofList_of_ascii hascii
  have hhash : Utf8.bytes (String.ofList ('#' :: digits)) = 35 :: digits.map Utf8.asciiByte := by
    rw [Utf8.bytes_ofList_of_ascii (List.forall_mem_cons.mpr ⟨by decide, hascii⟩)]
    rfl
  have hbody : ∀ text, dropHash text = digits.map Utf8.asciiByte →
      parseBytes text = .ok color := by
    intro text htext
    rw [parseBytes_eq_ok_iff, htext, List.length_map, Utf8.chars_map_asciiByte hascii]
    exact ⟨hlength, h.mono DigitPair.channel⟩
  refine ⟨hbody _ ?_, hbody _ ?_⟩
  · -- The first digit is no `#`.
    rw [hplain]
    cases digits with
    | nil => rfl
    | cons d rest =>
        have hd := isHexDigit_iff.mp (hdigits d List.mem_cons_self)
        have hbyte : Utf8.asciiByte d ≠ 35 := by
          intro heq
          have hnat := Utf8.toNat_asciiByte (hascii d List.mem_cons_self)
          rw [heq] at hnat
          have hhash : (35 : UInt8).toNat = 35 := rfl
          omega
        rw [List.map_cons, dropHash, if_neg hbyte]
  · rw [hhash]
    rfl

/-- A name of six digits is read, with or without `#`, and written back in lower case. -/
theorem exists_parse_digits {digits : List Char} (hlength : digits.length = 6)
    (hdigits : ∀ d ∈ digits, IsHexDigit d) :
    ∃ color, parse (String.ofList digits) = .ok color
      ∧ parse (String.ofList ('#' :: digits)) = .ok color
      ∧ color.hex = String.ofList ('#' :: digits.map Char.toLower) := by
  obtain ⟨color, hspelled, hhex⟩ := exists_spelled hlength hdigits
  obtain ⟨hplain, hhash⟩ := parse_of_spelled hlength hdigits hspelled
  exact ⟨color, hplain, hhash, by rw [hex, hhex]⟩

/-! ## Writing names -/

/-- The digits of the three channels. -/
def digits (c : Color) : List Char :=
  channelChars c.red ++ channelChars c.green ++ channelChars c.blue

theorem hex_of_set {c : Color} (h : c.set = true) : c.hex = String.ofList ('#' :: c.digits) := by
  rw [hex, hexChars, if_pos h]
  rfl

theorem hex_of_not_set {c : Color} (h : c.set = false) : c.hex = "" := by
  rw [hex, hexChars, h]
  rfl

theorem isHexDigit_of_mem_channelChars {v : UInt8} {d : Char} (h : d ∈ channelChars v) :
    IsHexDigit d := by
  have hv : v.toNat < 256 := v.toNat_lt
  simp only [channelChars, List.mem_cons, List.not_mem_nil, or_false] at h
  rcases h with rfl | rfl
  · exact isHexDigit_digitChar (by omega)
  · exact isHexDigit_digitChar (by omega)

/-- A channel is written as a pair of digits that is read as the channel. -/
theorem digitPair_channelChars (v : UInt8) (rest : List Char) :
    DigitPair (channelChars v ++ rest) v rest := by
  have hv : v.toNat < 256 := v.toNat_lt
  refine ⟨_, _, v.toNat / 16, v.toNat % 16, rfl, hexDigit?_digitChar (by omega),
    hexDigit?_digitChar (by omega), ?_⟩
  have hwhole : v.toNat / 16 * 16 + v.toNat % 16 = v.toNat := by omega
  rw [hwhole]
  exact (UInt8.ofNat_toNat).symm

theorem spelled_digits {c : Color} (h : c.set = true) : Spelled DigitPair c.digits c := by
  refine ⟨c.red, c.green, c.blue, _, _, [], ?_, digitPair_channelChars c.green _,
    digitPair_channelChars c.blue [], ?_⟩
  · rw [digits, List.append_nil, List.append_assoc]
    exact digitPair_channelChars c.red _
  · rw [rgb, ← h]

theorem isHexDigit_of_mem_digits {c : Color} {d : Char} (h : d ∈ c.digits) : IsHexDigit d := by
  simp only [digits, List.mem_append] at h
  rcases h with (h | h) | h
  · exact isHexDigit_of_mem_channelChars h
  · exact isHexDigit_of_mem_channelChars h
  · exact isHexDigit_of_mem_channelChars h

/-- **A colour that is set is read back from its name.** -/
theorem parse_hex {c : Color} (h : c.set = true) : parse c.hex = .ok c := by
  rw [hex_of_set h]
  exact (parse_of_spelled rfl (fun _ => isHexDigit_of_mem_digits) (spelled_digits h)).2

theorem hex_injective {c d : Color} (hc : c.set = true) (hd : d.set = true) (h : c.hex = d.hex) :
    c = d := by
  have hread := parse_hex hc
  rw [h, parse_hex hd] at hread
  exact (Except.ok.inj hread).symm

theorem hex_ne_empty {c : Color} (h : c.set = true) : c.hex ≠ "" := by
  rw [hex_of_set h]
  intro hempty
  have hnil : '#' :: c.digits = [] := by
    simpa using congrArg String.toList hempty
  cases hnil

/-! ## The balls of settings -/

section Settings

variable {α : Type} {b : BallSpec α} {c : Color}

/-- A ball that is listed with the name of a colour can be read, set or not. -/
theorem readable_of_hex (h : b.color = Utf8.bytes c.hex) : b.Readable := by
  cases hset : c.set with
  | false =>
      rw [hex_of_not_set hset, Utf8.bytes_empty] at h
      exact .inl h
  | true =>
      refine .inr ⟨c, ?_⟩
      rw [h]
      exact parse_hex hset

theorem shownColor_of_hex (hset : c.set = true) (h : b.color = Utf8.bytes c.hex) :
    b.shownColor = c := by
  have hnamed : b.color ≠ [] := by
    intro hnone
    rw [h, ← Utf8.bytes_empty] at hnone
    exact hex_ne_empty hset (Utf8.bytes_injective hnone)
  have hshown := (readable_of_hex h).shownColor_eq.2 hnamed
  rw [h] at hshown
  exact Except.ok.inj (hshown.symm.trans (parse_hex hset))

variable {s : Settings α} {i : Nat}

theorem getElem?_initialBalls (hb : s.specs[i]? = some b) (hset : c.set = true)
    (h : b.color = Utf8.bytes c.hex) {balls : List (Ball α)} (hballs : s.initialBalls = .ok balls) :
    balls[i]? = some (b.toBall c) := by
  have hall := Settings.initialBalls_of_readable (Settings.readable_of_initialBalls hballs)
  rw [hballs] at hall
  obtain rfl := Except.ok.inj hall
  rw [List.getElem?_map, hb, Option.map_some, shownColor_of_hex hset h]

/-- A ball with the name of a colour is not the one that is blamed. -/
theorem initialBalls_blames_other (hb : s.specs[i]? = some b) (h : b.color = Utf8.bytes c.hex)
    {e : SettingsError α} (he : s.initialBalls = .error e) :
    ∃ j fault, j ≠ i ∧ e = .color j fault := by
  obtain ⟨j, bad, fault, hfirst, -, rfl⟩ := Settings.initialBalls_eq_error_iff.mp he
  refine ⟨j, fault, ?_, rfl⟩
  rintro rfl
  have hsame : b = bad := Option.some.inj (hb.symm.trans hfirst.here)
  exact hfirst.bad (hsame ▸ readable_of_hex h)

end Settings

/-- **Colours survive their names.** A colour that is set is read back as it was. Six digits in any
mix of cases, after a `#` or not, are read, and written back as `#` and the digits in lower case. So
a ball that is listed with the name of a colour that is set gets this colour, unless the list is
refused for another ball, and a list of balls that all have names of colours is not refused.
Different colours that are set have different names, and none of these is the empty name of a colour
that is not set. -/
theorem colors_survive_text (α : Type) :
    (∀ c : Color, c.set = true → parse c.hex = .ok c)
    ∧ (∀ digits : List Char, digits.length = 6 → (∀ d ∈ digits, IsHexDigit d) →
        ∃ c, parse (String.ofList digits) = .ok c ∧ parse (String.ofList ('#' :: digits)) = .ok c
          ∧ c.hex = String.ofList ('#' :: digits.map Char.toLower))
    ∧ (∀ (s : Settings α) (i : Nat) (b : BallSpec α) (c : Color), s.specs[i]? = some b →
        c.set = true → b.color = Utf8.bytes c.hex →
          (∀ balls, s.initialBalls = .ok balls → balls[i]? = some (b.toBall c))
          ∧ ∀ e, s.initialBalls = .error e → ∃ j fault, j ≠ i ∧ e = .color j fault)
    ∧ (∀ s : Settings α, (∀ b ∈ s.specs, ∃ c : Color, b.color = Utf8.bytes c.hex) →
        ∃ balls, s.initialBalls = .ok balls)
    ∧ (∀ c d : Color, c.set = true → d.set = true → c.hex = d.hex → c = d)
    ∧ ∀ c d : Color, c.set = true → d.set = false → d.hex = "" ∧ c.hex ≠ d.hex := by
  refine ⟨fun c hc => parse_hex hc, fun digits => exists_parse_digits, ?_, ?_,
    fun c d hc hd h => hex_injective hc hd h, ?_⟩
  · intro s i b c hb hset h
    exact ⟨fun balls hballs => getElem?_initialBalls hb hset h hballs,
      fun e he => initialBalls_blames_other hb h he⟩
  · intro s hnames
    refine ⟨_, Settings.initialBalls_of_readable fun b hb => ?_⟩
    obtain ⟨c, hc⟩ := hnames b hb
    exact readable_of_hex hc
  · intro c d hc hd
    have hempty := hex_of_not_set hd
    exact ⟨hempty, fun h => hex_ne_empty hc (h.trans hempty)⟩

/-- Two balls, of which the first is listed with the name of orange and the second with no
colour. -/
def orangeAndPlain : Settings Float :=
  { Settings.zero with
    initial := some [{ BallSpec.zero with color := Utf8.bytes orange.hex }, BallSpec.zero] }

/-- Orange, a name in both cases of letters, and two balls of which one has no colour. -/
theorem colors_survive_text_orange :
    parse orange.hex = .ok orange
    ∧ (∃ c, parse "0a0B0c" = .ok c ∧ c.hex = "#0a0b0c")
    ∧ ∃ balls, orangeAndPlain.initialBalls = .ok balls
      ∧ balls[0]? = some (BallSpec.zero.toBall orange) := by
  obtain ⟨hset, hdigits, hlisted, hnames, -, -⟩ := colors_survive_text Float
  refine ⟨hset orange rfl, ?_, ?_⟩
  · obtain ⟨c, hplain, -, hhex⟩ := hdigits ['0', 'a', '0', 'B', '0', 'c'] rfl
      (by simp [isHexDigit_iff])
    exact ⟨c, hplain, hhex⟩
  · obtain ⟨balls, hballs⟩ := hnames orangeAndPlain <| by
      simp only [orangeAndPlain, Settings.specs, Option.getD_some, List.forall_mem_cons]
      exact ⟨⟨orange, rfl⟩, ⟨Color.default, Utf8.bytes_empty.symm⟩, nofun⟩
    exact ⟨balls, hballs, (hlisted orangeAndPlain 0 _ orange rfl rfl rfl).1 balls hballs⟩

end Color

end Ricochet
