import DefOut.Bytes

set_option autoImplicit false

/-!
Reading UTF-8 out of arbitrary bytes. A byte that starts no well-formed character is a symbol
of its own, so every text has symbols.
-/
namespace DefOut.Text

/-- A symbol of a text: a character with its code point, or a stray byte without one. -/
structure Symbol where
  code : Option Nat
  raw : Bytes
  deriving DecidableEq, Repr

def isContinuation (b : UInt8) : Bool :=
  decide (0x80 ≤ b ∧ b ≤ 0xBF)

def continuationBits (b : UInt8) : Nat :=
  b.toNat - 0x80

/-- The code point of the character that starts with `first`, and how many bytes of `rest`
belong to it. Overlong forms, surrogates and points above `10FFFF` are no characters. -/
def decodeAt (first : UInt8) (rest : Bytes) : Option (Nat × Nat) :=
  if first < 0x80 then some (first.toNat, 0)
  else
    match rest with
    | b :: rest =>
      if !isContinuation b then none
      else if 0xC2 ≤ first ∧ first ≤ 0xDF then
        some ((first.toNat - 0xC0) * 64 + continuationBits b, 1)
      else
        match rest with
        | c :: rest =>
          if !isContinuation c then none
          else if 0xE0 ≤ first ∧ first ≤ 0xEF then
            if (first = 0xE0 ∧ b < 0xA0) ∨ (first = 0xED ∧ 0xA0 ≤ b) then none
            else some (((first.toNat - 0xE0) * 64 + continuationBits b) * 64
              + continuationBits c, 2)
          else
            match rest with
            | d :: _ =>
              if !isContinuation d then none
              else if 0xF0 ≤ first ∧ first ≤ 0xF4 then
                if (first = 0xF0 ∧ b < 0x90) ∨ (first = 0xF4 ∧ 0x90 ≤ b) then none
                else some ((((first.toNat - 0xF0) * 64 + continuationBits b) * 64
                  + continuationBits c) * 64 + continuationBits d, 3)
              else none
            | [] => none
        | [] => none
    | [] => none

/-- The number of bytes of the character that a text starts with, judged by its first byte and
by how many following bytes there are. -/
def characterSize? : Bytes → Option Nat
  | [] => none
  | c :: s =>
    let follows (n : Nat) : Option Nat :=
      if (s.take n).length = n ∧ (s.take n).all isContinuation then some (n + 1) else none
    if c < 0x80 then some 1
    else if 0xC0 ≤ c ∧ c ≤ 0xDF then follows 1
    else if 0xE0 ≤ c ∧ c ≤ 0xEF then follows 2
    else if 0xF0 ≤ c ∧ c ≤ 0xF7 then follows 3
    else none

def formSize (c : UInt8) : Nat :=
  if c < 0x80 then 1 else if c < 0xE0 then 2 else if c < 0xF0 then 3 else 4

def formNumber (s : Bytes) : Nat :=
  s.foldl (fun n c => n * 256 + c.toNat) 0

/-- The symbols after `skip` more bytes of the current one. -/
def symbolsFrom : Nat → Bytes → List Symbol
  | _, [] => []
  | skip + 1, _ :: s => symbolsFrom skip s
  | 0, c :: s =>
    match decodeAt c s with
    | some (code, more) => ⟨some code, c :: s.take more⟩ :: symbolsFrom more s
    | none => ⟨none, [c]⟩ :: symbolsFrom 0 s

def symbols (s : Bytes) : List Symbol :=
  symbolsFrom 0 s

def symbolCount (s : Bytes) : Nat :=
  (symbols s).length

def encode (c : Nat) : Bytes :=
  if c < 0x80 then [c.toUInt8]
  else if c < 0x800 then [(0xC0 + c / 64).toUInt8, (0x80 + c % 64).toUInt8]
  else if c < 0x10000 then
    [(0xE0 + c / 4096).toUInt8, (0x80 + c / 64 % 64).toUInt8, (0x80 + c % 64).toUInt8]
  else
    [(0xF0 + c / 262144).toUInt8, (0x80 + c / 4096 % 64).toUInt8,
      (0x80 + c / 64 % 64).toUInt8, (0x80 + c % 64).toUInt8]

end DefOut.Text
