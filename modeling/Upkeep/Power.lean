/-! Powers of the two bases of numerals. -/
namespace Upkeep

/-- Two to the `n`. -/
abbrev twoTo (n : Nat) : Nat := Nat.pow 2 n

/-- Ten to the `n`. -/
abbrev tenTo (n : Nat) : Nat := Nat.pow 10 n

end Upkeep
