/-! White space. A blank is a character with the Unicode property White_Space;
trimming removes blanks from both ends of a text and nothing else. -/
namespace Upkeep.Text

def isBlank (c : Char) : Bool :=
  let n := c.toNat
  (9 ≤ n && n ≤ 13) || n == 0x20 || n == 0x85 || n == 0xA0 || n == 0x1680 ||
    (0x2000 ≤ n && n ≤ 0x200A) || n == 0x2028 || n == 0x2029 || n == 0x202F ||
    n == 0x205F || n == 0x3000

def trimChars (cs : List Char) : List Char :=
  ((cs.dropWhile isBlank).reverse.dropWhile isBlank).reverse

def trim (s : String) : String := String.ofList (trimChars s.toList)

/-- A text is blank when every character of it is. -/
def allBlank (s : String) : Bool := s.toList.all isBlank

/-- ASCII letters lose their case; every other character is kept. -/
def lowerAscii (c : Char) : Char :=
  if 'A' ≤ c ∧ c ≤ 'Z' then Char.ofNat (c.toNat + 32) else c

/-- Two texts are one word when they differ in the case of ASCII letters only. -/
def sameWord (s t : String) : Bool := s.toList.map lowerAscii == t.toList.map lowerAscii

/-- The number of bytes of a text in UTF-8. -/
def width (cs : List Char) : Nat := cs.foldr (fun c n => c.utf8Size + n) 0

/-- The parts of a list between the items that satisfy `p`; one more than there are such items. -/
def splitOn (p : Char → Bool) : List Char → List (List Char)
  | [] => [[]]
  | c :: cs =>
    if p c then [] :: splitOn p cs
    else match splitOn p cs with
      | [] => [[c]]
      | part :: parts => (c :: part) :: parts

/-- The text before the first `sep`, and the text after it. -/
def splitOnce (sep : Char) : List Char → Option (List Char × List Char)
  | [] => none
  | c :: cs =>
    if c = sep then some ([], cs)
    else (splitOnce sep cs).map fun (l, r) => (c :: l, r)

theorem splitOnce_join {sep : Char} {cs l r : List Char} (h : splitOnce sep cs = some (l, r)) :
    cs = l ++ sep :: r := by
  induction cs generalizing l r with
  | nil => simp [splitOnce] at h
  | cons c cs ih =>
    rw [splitOnce] at h
    split at h
    · cases h; simp_all
    · obtain ⟨⟨l', r'⟩, h', e⟩ := Option.map_eq_some_iff.1 h
      cases e
      simp [ih h']

end Upkeep.Text
