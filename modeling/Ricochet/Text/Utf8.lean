set_option autoImplicit false

/-! # Text as bytes

Most texts are `String`s, but colour names, preset names and drawn text may come in as arbitrary
bytes. `Utf8.decode` splits bytes into characters and stray bytes: a byte that begins no well-formed
character stands alone, and reading goes on with the next byte.
-/

namespace Ricochet.Utf8

/-- A character, or a byte that is part of none. -/
inductive Piece where
  | char (c : Char)
  | stray (b : UInt8)
  deriving DecidableEq, Repr

/-- The six payload bits of a continuation byte in the range `lo … hi`. -/
def tail? (lo hi : Nat) (b : UInt8) : Option Nat :=
  if lo ≤ b.toNat ∧ b.toNat ≤ hi then some (b.toNat - 0x80) else none

/-- The continuation byte in the full range. -/
def anyTail? (b : UInt8) : Option Nat := tail? 0x80 0xBF b

/-- The character that byte `a` begins, with the number of bytes after `a` that belong to it. The
range of the second byte excludes long forms, surrogates and code points above the last. -/
def lead? (a : UInt8) (rest : List UInt8) : Option (Char × Nat) :=
  let a := a.toNat
  if a < 0x80 then some (Char.ofNat a, 0)
  else
    match rest with
    | b :: rest =>
        if 0xC2 ≤ a ∧ a ≤ 0xDF then do
          let b ← anyTail? b
          some (Char.ofNat ((a - 0xC0) * 64 + b), 1)
        else
          match rest with
          | c :: rest =>
              if 0xE0 ≤ a ∧ a ≤ 0xEF then do
                let b ← tail? (if a = 0xE0 then 0xA0 else 0x80) (if a = 0xED then 0x9F else 0xBF) b
                let c ← anyTail? c
                some (Char.ofNat (((a - 0xE0) * 64 + b) * 64 + c), 2)
              else
                match rest with
                | d :: _ =>
                    if 0xF0 ≤ a ∧ a ≤ 0xF4 then do
                      let b ←
                        tail? (if a = 0xF0 then 0x90 else 0x80) (if a = 0xF4 then 0x8F else 0xBF) b
                      let c ← anyTail? c
                      let d ← anyTail? d
                      some (Char.ofNat ((((a - 0xF0) * 64 + b) * 64 + c) * 64 + d), 3)
                    else none
                | [] => none
          | [] => none
    | [] => none

/-- Bytes as characters and stray bytes, in order. -/
def decode : List UInt8 → List Piece
  | [] => []
  | a :: rest =>
      match lead? a rest with
      | some (c, n) => .char c :: decode (rest.drop n)
      | none => .stray a :: decode rest
termination_by bytes => bytes.length
decreasing_by
  · simp only [List.length_drop, List.length_cons]; omega
  · simp

/-- The bytes of a string. -/
def bytes (s : String) : List UInt8 := s.toUTF8.toList

/-- The character shown for what is no character. -/
def replacement : Char := Char.ofNat 0xFFFD

/-- The character that a piece is shown as. -/
def Piece.shown : Piece → Char
  | .char c => c
  | .stray _ => replacement

/-- The characters of a text, with the replacement character for each stray byte. -/
def chars (text : List UInt8) : List Char := (decode text).map Piece.shown

/-- The text as a string, with the replacement character for each stray byte. -/
def toString (text : List UInt8) : String := String.ofList (chars text)

end Ricochet.Utf8
