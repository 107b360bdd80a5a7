import Mathlib.Data.List.Basic
import Ricochet.Proofs.TextBytes
import Ricochet.Terminal.Help

set_option autoImplicit false

/-! # Lines and escape sequences of styled text

What a terminal is sent has as many lines as the text that was styled, whatever bytes the text
consists of and whatever the terminal can show (`count_renderBytes`). So the line of help is one
line (`oneLine_helpLine`).

A text of one line, without tabs, comes out of styling as it went in, between what selects the style
and what ends it (`toList_render`). Both are escape sequences (`IsEscape`), which
`withoutEscapes` takes away.
-/

namespace Ricochet.Terminal

/-! ## Lines -/

/-- The lines of a text. -/
def textLines (s : String) : List (List Char) := s.toList.splitOn '\n'

/-- Whether a text is a single line. -/
def OneLine (s : String) : Prop := '\n' ∉ s.toList

instance (s : String) : Decidable (OneLine s) := inferInstanceAs (Decidable (¬ _))

theorem OneLine.append {s t : String} (hs : OneLine s) (ht : OneLine t) : OneLine (s ++ t) := by
  unfold OneLine at *
  rw [String.toList_append, List.mem_append]
  exact not_or.mpr ⟨hs, ht⟩

theorem OneLine.ite {s t : String} (hs : OneLine s) (ht : OneLine t) (P : Prop) [Decidable P] :
    OneLine (if P then s else t) := by
  split
  · exact hs
  · exact ht

theorem oneLine_blanks (n : Nat) : OneLine (String.ofList (List.replicate n ' ')) := by
  intro h
  rw [String.toList_ofList] at h
  cases List.eq_of_mem_replicate h

theorem OneLine.textLines_eq {s : String} (h : OneLine s) : textLines s = [s.toList] :=
  List.splitOn_eq_singleton h

theorem length_splitOn {α : Type} [BEq α] [LawfulBEq α] (a : α) (l : List α) :
    (l.splitOn a).length = l.count a + 1 := by
  induction l with
  | nil => rfl
  | cons b l ih =>
      rw [List.splitOn_cons_eq_if_modifyHead, List.count_cons]
      split
      · rw [List.length_cons, ih]
      · rw [List.length_modifyHead, ih]

theorem not_mem_of_mem_splitOn {α : Type} [BEq α] [LawfulBEq α] {a : α} {l line : List α}
    (h : line ∈ l.splitOn a) : a ∉ line := by
  induction l generalizing line with
  | nil =>
      rw [List.splitOn_nil, List.mem_singleton] at h
      simp [h]
  | cons b l ih =>
      rw [List.splitOn_cons_eq_if_modifyHead] at h
      split at h
      · rcases List.mem_cons.mp h with rfl | h
        · exact List.not_mem_nil
        · exact ih h
      · rename_i hb
        cases hlines : l.splitOn a with
        | nil => exact absurd hlines (List.splitOn_ne_nil a l)
        | cons first lines =>
            rw [hlines] at h ih
            rcases List.mem_cons.mp h with rfl | h
            · intro ha
              rcases List.mem_cons.mp ha with rfl | ha
              · exact hb (beq_self_eq_true a)
              · exact ih List.mem_cons_self ha
            · exact ih (List.mem_cons_of_mem _ h)

theorem length_textLines (s : String) : (textLines s).length = s.toList.count '\n' + 1 :=
  length_splitOn '\n' s.toList

theorem textLines_append_newline (s t : String) :
    textLines (s ++ "\n" ++ t) = textLines s ++ textLines t := by
  unfold textLines
  rw [String.toList_append, String.toList_append, List.append_assoc]
  exact List.splitOn_append_cons_self _ _

theorem textLines_intercalate {lines : List String} (hne : lines ≠ [])
    (h : ∀ line ∈ lines, OneLine line) :
    textLines ("\n".intercalate lines) = lines.map String.toList := by
  unfold textLines
  rw [String.toList_intercalate]
  apply List.splitOn_intercalate
  · intro l hl
    obtain ⟨line, hline, rfl⟩ := List.mem_map.mp hl
    exact h line hline
  · simpa using hne

theorem linesOf_eq_splitOn (text : List UInt8) : linesOf text = text.splitOn 0x0A := by
  fun_induction linesOf text with
  | case1 => rfl
  | case2 rest ih =>
      rw [List.splitOn_cons_eq_if_modifyHead, ih]
      rfl
  | case3 b rest hb hlines ih =>
      -- There is always a line, so this case does not arise.
      rw [ih] at hlines
      exact absurd hlines (List.splitOn_ne_nil _ _)
  | case4 b rest hb line lines hlines ih =>
      have hb' : (b == 0x0A) = false := beq_eq_false_iff_ne.mpr hb
      rw [List.splitOn_cons_eq_if_modifyHead, hb', if_neg Bool.false_ne_true, ← ih, hlines]
      rfl

theorem count_settled (text : List UInt8) : (settled text).count 0x0A = text.count 0x0A := by
  fun_induction settled text with
  | case1 => rfl
  | case2 rest ih => simp [ih]
  | case3 rest ih => simp [ih]
  | case4 b rest _ _ ih => rw [List.count_cons, List.count_cons, ih]

theorem settled_of_not_mem {text : List UInt8} (htab : 0x09 ∉ text) (hreturn : 0x0D ∉ text) :
    settled text = text := by
  fun_induction settled text with
  | case1 => rfl
  | case2 rest ih => simp at htab
  | case3 rest ih => simp at hreturn
  | case4 b rest _ _ ih =>
      rw [ih (fun h => htab (List.mem_cons_of_mem _ h)) fun h => hreturn (List.mem_cons_of_mem _ h)]

/-! ## Escape sequences -/

/-- Whether a text is one escape sequence: it begins with the escape character, the first `m` ends
it, and it is on one line. -/
def IsEscape (text : List Char) : Prop :=
  ∃ body, text = '\x1b' :: body ++ ['m'] ∧ 'm' ∉ body ∧ '\n' ∉ body

/-- A text without its escape sequences; `inside` tells whether it begins within one. -/
def withoutEscapes (inside : Bool) : List Char → List Char
  | [] => []
  | c :: rest =>
      if inside then withoutEscapes (c != 'm') rest
      else if c = '\x1b' then withoutEscapes true rest
      else c :: withoutEscapes false rest

theorem withoutEscapes_cons {c : Char} (hc : c ≠ '\x1b') (rest : List Char) :
    withoutEscapes false (c :: rest) = c :: withoutEscapes false rest := by
  rw [withoutEscapes, if_neg Bool.false_ne_true, if_neg hc]

/-- Within a sequence, everything goes up to the first `m`. -/
theorem withoutEscapes_inside {body : List Char} (hbody : 'm' ∉ body) (rest : List Char) :
    withoutEscapes true (body ++ 'm' :: rest) = withoutEscapes false rest := by
  induction body with
  | nil => rfl
  | cons c body ih =>
      have hc : (c != 'm') = true := bne_iff_ne.mpr fun h => hbody (h ▸ List.mem_cons_self)
      rw [List.cons_append, withoutEscapes, if_pos rfl, hc]
      exact ih fun h => hbody (List.mem_cons_of_mem _ h)

theorem IsEscape.withoutEscapes_append {text : List Char} (h : IsEscape text) (rest : List Char) :
    withoutEscapes false (text ++ rest) = withoutEscapes false rest := by
  obtain ⟨body, rfl, hm, -⟩ := h
  rw [List.append_assoc, List.cons_append, withoutEscapes, if_neg Bool.false_ne_true, if_pos rfl]
  exact withoutEscapes_inside hm rest

theorem IsEscape.not_mem {text : List Char} (h : IsEscape text) : '\n' ∉ text := by
  obtain ⟨body, rfl, -, hbody⟩ := h
  simp [hbody]

theorem mem_intercalate {α : Type} {a b : α} {parts : List (List α)}
    (h : a ∈ [b].intercalate parts) : a = b ∨ ∃ part ∈ parts, a ∈ part := by
  induction parts with
  | nil => cases h
  | cons part parts ih =>
      cases parts with
      | nil => exact .inr ⟨part, List.mem_cons_self, by simpa using h⟩
      | cons next parts =>
          rw [List.intercalate_cons_cons, List.mem_append, List.mem_append] at h
          rcases h with (h | h) | h
          · exact .inr ⟨part, List.mem_cons_self, h⟩
          · exact .inl (List.mem_singleton.mp h)
          · rcases ih h with h | ⟨other, hother, h⟩
            · exact .inl h
            · exact .inr ⟨other, List.mem_cons_of_mem _ hother, h⟩

theorem mem_intText {n : Int} {c : Char} (h : c ∈ (Decimal.intText n).toList) :
    c = '-' ∨ c.isDigit = true := by
  cases n with
  | ofNat k =>
      rw [Decimal.intText, String.toList_ofList] at h
      exact .inr (Nat.isDigit_of_mem_toDigits (by decide) (by decide) h)
  | negSucc k =>
      rw [Decimal.intText, String.toList_ofList] at h
      rcases List.mem_cons.mp h with h | h
      · exact .inl h
      · exact .inr (Nat.isDigit_of_mem_toDigits (by decide) (by decide) h)

theorem oneLine_intText (n : Int) : OneLine (Decimal.intText n) := by
  intro h
  have := mem_intText h
  revert this
  decide

/-- What selects a style is an escape sequence: numbers and semicolons hold no `m`. -/
theorem isEscape_opening (s : Style) : IsEscape s.opening.toList := by
  let numbers := [';'].intercalate ((s.codes.map Decimal.intText).map String.toList)
  have hnumbers : ∀ c ∈ numbers, c = ';' ∨ c = '-' ∨ c.isDigit = true := by
    intro c hc
    rcases mem_intercalate hc with h | ⟨part, hpart, h⟩
    · exact .inl h
    · rw [List.map_map] at hpart
      obtain ⟨n, -, rfl⟩ := List.mem_map.mp hpart
      exact .inr (mem_intText h)
  have hnot : ∀ c, c ≠ '[' → ¬ (c = ';' ∨ c = '-' ∨ c.isDigit = true) → c ∉ '[' :: numbers := by
    intro c hbracket hother hc
    rcases List.mem_cons.mp hc with hc | hc
    · exact hbracket hc
    · exact hother (hnumbers c hc)
  refine ⟨'[' :: numbers, ?_, hnot 'm' (by decide) (by decide), hnot '\n' (by decide) (by decide)⟩
  rw [Style.opening, String.toList_append, String.toList_append, String.toList_intercalate]
  rfl

theorem isEscape_styleEnd : IsEscape styleEnd.toList :=
  ⟨['[', '0'], by decide, by decide, by decide⟩

/-! ## Styling -/

/-- What styling puts before a line. -/
def Style.before (s : Style) : Profile → List Char
  | .plain => []
  | .trueColor => s.opening.toList

/-- What styling puts after a line. -/
def styleAfter : Profile → List Char
  | .plain => []
  | .trueColor => styleEnd.toList

/-- The bytes of a newline are in a line only if they are in the text. -/
theorem not_mem_line (s : Style) (p : Profile) {text : List UInt8} (h : 0x0A ∉ text) :
    0x0A ∉ s.line p text := by
  have hnewline : Utf8.IsAscii '\n' := by decide
  cases p with
  | plain => exact h
  | trueColor =>
      have hopening := mt (Utf8.mem_bytes_iff hnewline _).mp (isEscape_opening s).not_mem
      have hend := mt (Utf8.mem_bytes_iff hnewline _).mp isEscape_styleEnd.not_mem
      rw [Style.line, List.mem_append, List.mem_append]
      rintro ((hmem | hmem) | hmem)
      · exact hopening hmem
      · exact h hmem
      · exact hend hmem

/-- **Styling keeps the number of lines.** -/
theorem count_renderBytes (s : Style) (p : Profile) (text : List UInt8) :
    (s.renderBytes p text).toList.count '\n' = text.count 0x0A := by
  -- A newline is read only where its byte is, and no line has that byte, with or without a style.
  have hlines : ∀ line ∈ linesOf (settled text), OneLine (Utf8.toString (s.line p line)) := by
    intro line hline hmem
    rw [linesOf_eq_splitOn] at hline
    rw [Utf8.toString, String.toList_ofList] at hmem
    exact not_mem_line s p (not_mem_of_mem_splitOn hline)
      (Utf8.mem_of_mem_chars (by decide) hmem)
  have hcount : (linesOf (settled text)).length = text.count 0x0A + 1 := by
    rw [linesOf_eq_splitOn, length_splitOn, count_settled]
  have hlength : (textLines (s.renderBytes p text)).length = (linesOf (settled text)).length := by
    unfold Style.renderBytes
    rw [textLines_intercalate]
    · simp only [List.length_map]
    · intro hnil
      rw [List.map_eq_nil_iff, List.map_eq_nil_iff] at hnil
      rw [hnil] at hcount
      cases hcount
    · intro padded hpadded
      obtain ⟨styled, hstyled, rfl⟩ := List.mem_map.mp hpadded
      obtain ⟨line, hline, rfl⟩ := List.mem_map.mp hstyled
      exact (hlines line hline).append (oneLine_blanks _)
  rw [length_textLines, hcount] at hlength
  exact Nat.succ.inj hlength

/-- A text of one line has no byte of a newline. -/
theorem OneLine.count_bytes {text : String} (h : OneLine text) :
    (Utf8.bytes text).count 0x0A = 0 := by
  have hbytes : Utf8.asciiByte '\n' ∉ Utf8.bytes text :=
    mt (Utf8.mem_bytes_iff (by decide) text).mp h
  exact List.count_eq_zero.mpr hbytes

theorem OneLine.render {text : String} (h : OneLine text) (s : Style) (p : Profile) :
    OneLine (s.render p text) := by
  rw [OneLine, Style.render, ← List.count_eq_zero, count_renderBytes]
  exact h.count_bytes

/-- Whether styling leaves a character as it is: tabs are spread, and line ends are where a text is
taken apart. -/
def IsInline (c : Char) : Prop := c ≠ '\t' ∧ c ≠ '\r' ∧ c ≠ '\n'

instance (c : Char) : Decidable (IsInline c) := inferInstanceAs (Decidable (_ ∧ _))

/-- A single line is not padded. -/
theorem renderBytes_of_line (s : Style) (p : Profile) {text : List UInt8} (htab : 0x09 ∉ text)
    (hreturn : 0x0D ∉ text) (hnewline : 0x0A ∉ text) :
    s.renderBytes p text = Utf8.toString (s.line p text) := by
  have hlines : linesOf (settled text) = [text] := by
    rw [settled_of_not_mem htab hreturn, linesOf_eq_splitOn, List.splitOn_eq_singleton hnewline]
  simp [Style.renderBytes, hlines]

/-- **Styling puts something around a line, and changes nothing else.** -/
theorem toList_render (s : Style) (p : Profile) {text : List Char} (h : ∀ c ∈ text, IsInline c) :
    (s.render p (String.ofList text)).toList = s.before p ++ text ++ styleAfter p := by
  have hnot : ∀ c : Char, Utf8.IsAscii c → ¬ IsInline c →
      Utf8.asciiByte c ∉ Utf8.bytes (String.ofList text) := by
    intro c hc hinline hmem
    rw [Utf8.mem_bytes_iff hc, String.toList_ofList] at hmem
    exact hinline (h c hmem)
  rw [Style.render, renderBytes_of_line s p (hnot '\t' (by decide) (by decide))
    (hnot '\r' (by decide) (by decide)) (hnot '\n' (by decide) (by decide)), Utf8.toString,
    String.toList_ofList]
  cases p with
  | plain =>
      show Utf8.chars (Utf8.bytes (String.ofList text)) = [] ++ text ++ []
      rw [Utf8.chars_bytes, String.toList_ofList, List.nil_append, List.append_nil]
  | trueColor =>
      show Utf8.chars (Utf8.bytes s.opening ++ Utf8.bytes (String.ofList text)
        ++ Utf8.bytes styleEnd) = s.opening.toList ++ text ++ styleEnd.toList
      rw [List.append_assoc, Utf8.chars_bytes_append, Utf8.chars_bytes_append, Utf8.chars_bytes,
        String.toList_ofList, List.append_assoc]

/-! ## The line of help -/

theorem oneLine_helpTail (p : Profile) (limit : Int) (used : Nat) :
    OneLine (helpTail p limit used) := by
  have hmark : OneLine (helpMarkStyle.render p "…") := OneLine.render (by decide) _ p
  have hblank : OneLine " " := by decide
  exact (hblank.append hmark).ite (by decide) _

/-- Explanations of one line make a line, however many of them fit. -/
theorem oneLine_helpFrom (p : Profile) (limit : Int) (used : Nat) {bs : List Binding}
    (h : ∀ b ∈ bs, OneLine b.helpKey ∧ OneLine b.helpText) :
    OneLine (helpFrom p limit used bs) := by
  induction bs generalizing used with
  | nil => exact List.not_mem_nil
  | cons b bs ih =>
      obtain ⟨hkey, htext⟩ := h b List.mem_cons_self
      have hblank : OneLine " " := by decide
      have hexplained : OneLine (b.explained p) :=
        ((hkey.render _ p).append hblank).append (htext.render _ p)
      have hmark : OneLine (helpMarkStyle.render p helpSeparator) := OneLine.render (by decide) _ p
      have hseparator : OneLine (if used = 0 then "" else helpMarkStyle.render p helpSeparator) :=
        OneLine.ite (by decide) hmark _
      have hrest := fun used => ih used fun b hb => h b (List.mem_cons_of_mem _ hb)
      exact (oneLine_helpTail p limit used).ite ((hseparator.append hexplained).append (hrest _)) _

theorem oneLine_helpLine (p : Profile) (limit : Int) : OneLine (helpLine p limit DemoKeys.help) :=
  oneLine_helpFrom p limit 0 (by decide)

end Ricochet.Terminal
