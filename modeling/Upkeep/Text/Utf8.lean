/-! Texts as bytes in UTF-8. Bytes that are no UTF-8 can be refused, or read with a
replacement character for every sequence that breaks off. -/
namespace Upkeep.Utf8

def encode (s : String) : List UInt8 := s.toUTF8.data.toList

/-- A character that has begun: its bits so far, how many bytes follow, and the bounds of the
next one. -/
structure Begun where
  bits : Nat
  owed : Nat
  low : Nat := 0x80
  high : Nat := 0xBF

/-- What a byte does that starts a character: it is one, begins one, or is wrong. -/
def start (b : Nat) : Option (Char ⊕ Begun) :=
  if b < 0x80 then some (.inl (Char.ofNat b))
  else if b < 0xC2 then none
  else if b < 0xE0 then some (.inr { bits := b - 0xC0, owed := 1 })
  else if b = 0xE0 then some (.inr { bits := 0, owed := 2, low := 0xA0 })
  else if b = 0xED then some (.inr { bits := 13, owed := 2, high := 0x9F })
  else if b < 0xF0 then some (.inr { bits := b - 0xE0, owed := 2 })
  else if b = 0xF0 then some (.inr { bits := 0, owed := 3, low := 0x90 })
  else if b < 0xF4 then some (.inr { bits := b - 0xF0, owed := 3 })
  else if b = 0xF4 then some (.inr { bits := 4, owed := 3, high := 0x8F })
  else none

/-- The byte as the start of a character, after what has been read before it. -/
def startAfter (before : List (Option Char)) (b : Nat) : List (Option Char) × Option Begun :=
  match start b with
  | some (.inl c) => (before ++ [some c], none)
  | some (.inr s) => (before, some s)
  | none => (before ++ [none], none)

/-- The characters that end with a byte, none for a sequence that is wrong, and the character
that is open after it. -/
def next (s : Option Begun) (b : Nat) : List (Option Char) × Option Begun :=
  match s with
  | none => startAfter [] b
  | some s =>
    if s.low ≤ b ∧ b ≤ s.high then
      let bits := s.bits * 64 + (b - 0x80)
      if s.owed = 1 then ([some (Char.ofNat bits)], none)
      else ([], some { bits, owed := s.owed - 1 })
    else startAfter [none] b

def parts (s : Option Begun) : List UInt8 → List (Option Char)
  | [] => if s.isSome then [none] else []
  | b :: bs =>
    let (cs, s) := next s b.toNat
    cs ++ parts s bs

/-- The text of bytes that are UTF-8 throughout. -/
def decode? (bs : List UInt8) : Option String := ((parts none bs).mapM id).map String.ofList

/-- The text of any bytes. -/
def decode (bs : List UInt8) : String :=
  String.ofList ((parts none bs).map (·.getD (Char.ofNat 0xFFFD)))

end Upkeep.Utf8
