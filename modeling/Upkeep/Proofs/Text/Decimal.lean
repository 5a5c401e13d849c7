import Upkeep.Text.Blank
import Upkeep.Text.Decimal

/-! Decimal numerals there and back: the digits of a number stand for it, no other number has
them, and they are read as the number within any bound that it keeps. -/
namespace Upkeep

/-- What goes on in a text differently is not taken. -/
theorem Text.takeWhile_apart {p : Char → Bool} {cs rest : List Char} (all : ∀ c ∈ cs, p c = true)
    (apart : ∀ c ∈ rest.head?, p c = false) :
    (cs ++ rest).takeWhile p = cs ∧ (cs ++ rest).dropWhile p = rest := by
  rw [List.takeWhile_append_of_pos all, List.dropWhile_append_of_pos all]
  cases rest with
  | nil => exact ⟨List.append_nil cs, rfl⟩
  | cons c rest =>
      have last := apart c rfl
      rw [List.takeWhile_cons_of_neg (by simp [last]), List.dropWhile_cons_of_neg (by simp [last])]
      exact ⟨List.append_nil cs, rfl⟩

/-- What is read part by part. -/
theorem Text.read_next {α β : Type} {o : Option α} {f : α → Option β} {a : α} {b : β} (here : o = some a)
    (rest : f a = some b) : (o >>= f) = some b := by
  rw [here]
  exact rest

theorem Text.lt_cons (c : Char) {cs ds : List Char} : c :: cs < c :: ds ↔ cs < ds := by
  simp only [List.cons_lt_cons_iff, Char.lt_irrefl, true_and, false_or]

theorem Text.not_blank {c : Char} (low : 33 ≤ c.toNat) (high : c.toNat ≤ 122) : isBlank c = false := by
  simp [isBlank]
  omega

/-- Of two texts whose first parts are of one length, the first parts decide unless they are the same. -/
theorem Text.lt_append {as bs cs ds : List Char} (same : as.length = bs.length) :
    as ++ cs < bs ++ ds ↔ as < bs ∨ as = bs ∧ cs < ds := by
  induction as generalizing bs with
  | nil =>
      cases List.length_eq_zero_iff.1 same.symm
      simp only [List.nil_append, List.lt_irrefl, true_and, false_or]
  | cons a as ih =>
      cases bs with
      | nil => cases same
      | cons b bs =>
          simp only [List.cons_append, List.cons_lt_cons_iff, ih (Nat.succ.inj same), List.cons.injEq]
          grind

namespace Decimal

theorem digit_toNat {c : Char} (digit : isDigit c = true) : 48 ≤ c.toNat ∧ c.toNat ≤ 57 := by
  simpa [isDigit, Char.le_def, UInt32.le_iff_toNat_le] using digit

theorem isDigit_digit {n : Nat} (small : n < 10) : isDigit (digit n) = true := by
  revert n
  decide

theorem value_digit {n : Nat} (small : n < 10) : value (digit n) = n := by
  revert n
  decide

theorem digit_ne_zero {n : Nat} (small : n < 10) (positive : 0 < n) : digit n ≠ '0' := by
  revert n
  decide

/-- Digits are told by the last one and the ones before it. -/
theorem digits_step {n : Nat} (large : 10 ≤ n) : digits n = digits (n / 10) ++ [digit (n % 10)] := by
  rw [digits, if_neg (Nat.not_lt.2 large)]

theorem digits_small {n : Nat} (small : n < 10) : digits n = [digit n] := by
  rw [digits, if_pos small]

theorem digits_ne_nil (n : Nat) : digits n ≠ [] := by
  rw [digits]
  split
  · exact List.cons_ne_nil _ _
  · exact List.append_ne_nil_of_right_ne_nil _ (List.cons_ne_nil _ _)

theorem digits_all (n : Nat) : (digits n).all isDigit = true := by
  induction n using Nat.strongRecOn with
  | ind n ih =>
      rcases Nat.lt_or_ge n 10 with small | large
      · rw [digits_small small, List.all_cons, isDigit_digit small]
        rfl
      · have last := isDigit_digit (Nat.mod_lt n (by decide : 0 < 10))
        rw [digits_step large, List.all_append, ih (n / 10) (by omega), List.all_cons, last]
        rfl

theorem number_digits (n : Nat) : number (digits n) = n := by
  induction n using Nat.strongRecOn with
  | ind n ih =>
      rcases Nat.lt_or_ge n 10 with small | large
      · rw [digits_small small]
        simp [number, value_digit small]
      · have front := ih (n / 10) (by omega)
        unfold number at front
        rw [digits_step large]
        simp only [number, List.foldl_append, front, List.foldl_cons, List.foldl_nil,
          value_digit (Nat.mod_lt n (by decide : 0 < 10))]
        omega

theorem digits_inj {m n : Nat} (same : digits m = digits n) : m = n := by
  rw [← number_digits m, same, number_digits]

theorem text_inj {m n : Nat} (same : text m = text n) : m = n :=
  digits_inj (String.ofList_injective same)

/-- No number but zero begins with a zero. -/
theorem head_digits {n : Nat} (positive : 0 < n) : ∃ c cs, digits n = c :: cs ∧ c ≠ '0' := by
  induction n using Nat.strongRecOn with
  | ind n ih =>
      rcases Nat.lt_or_ge n 10 with small | large
      · exact ⟨digit n, [], digits_small small, digit_ne_zero small positive⟩
      · obtain ⟨c, cs, front, nonzero⟩ := ih (n / 10) (by omega) (by omega)
        exact ⟨c, cs ++ [digit (n % 10)], by rw [digits_step large, front]; rfl, nonzero⟩

theorem readFrom_append {max n : Nat} {cs ds : List Char} {m : Nat}
    (front : readFrom max n cs = .ok m) : readFrom max n (cs ++ ds) = readFrom max m ds := by
  induction cs generalizing n with
  | nil =>
      cases front
      rfl
  | cons c cs ih =>
      simp only [List.cons_append, readFrom] at front ⊢
      split at front
      · next digit =>
        split at front
        · next within =>
          rw [if_pos digit, if_pos within]
          exact ih front
        · cases front
      · cases front

theorem readFrom_digits {max n : Nat} (within : n ≤ max) : readFrom max 0 (digits n) = .ok n := by
  induction n using Nat.strongRecOn with
  | ind n ih =>
      rcases Nat.lt_or_ge n 10 with small | large
      · rw [digits_small small]
        simp [readFrom, isDigit_digit small, value_digit small, within]
      · have last := Nat.mod_lt n (by decide : 0 < 10)
        rw [digits_step large, readFrom_append (ih (n / 10) (by omega) (by omega))]
        have whole : 10 * (n / 10) + n % 10 = n := Nat.div_add_mod n 10
        simp [readFrom, isDigit_digit last, value_digit last, whole, within]

theorem read_digits {max n : Nat} (within : n ≤ max) : read max (digits n) = .ok n := by
  obtain ⟨c, cs, spelled⟩ := List.exists_cons_of_ne_nil (digits_ne_nil n)
  have digit : isDigit c = true := by
    have all := digits_all n
    rw [spelled, List.all_cons, Bool.and_eq_true] at all
    exact all.1
  have unsigned : c ≠ '+' := by
    rintro rfl
    cases digit
  have readFrom := readFrom_digits within
  rw [spelled] at readFrom ⊢
  unfold read
  split
  · next empty => cases empty
  · next sign => cases sign; exact absurd rfl unsigned
  · next sign => cases sign; exact absurd rfl unsigned
  · exact readFrom

theorem readWord_text {bits n : Nat} (within : n < twoTo bits) : readWord bits (text n) = .ok n := by
  unfold readWord text
  rw [String.toList_ofList]
  exact read_digits (Nat.le_sub_one_of_lt within)

/-- Digits end where something else comes. -/
theorem takeWhile_digits {ds : List Char} (all : ds.all isDigit = true) {c : Char} (other : isDigit c = false)
    (rest : List Char) : (ds ++ c :: rest).takeWhile isDigit = ds :=
  (Text.takeWhile_apart (List.all_eq_true.1 all) (by rintro _ ⟨⟩; exact other)).1

theorem number_append (cs ds : List Char) :
    number (cs ++ ds) = ds.foldl (fun n c => 10 * n + value c) (number cs) :=
  List.foldl_append

theorem length_padded (k n : Nat) : (padded k n).length = k := by
  induction k generalizing n with
  | zero => rfl
  | succ k ih => simp only [padded, List.length_append, ih, List.length_singleton]

theorem padded_all (k n : Nat) : (padded k n).all isDigit = true := by
  induction k generalizing n with
  | zero => rfl
  | succ k ih =>
      have last := isDigit_digit (Nat.mod_lt n (by decide : 0 < 10))
      simp only [padded, List.all_append, ih, List.all_cons, last, List.all_nil, Bool.and_self]

/-- Padding keeps what the number has in its last places. -/
theorem number_padded (k n : Nat) : number (padded k n) = n % tenTo k := by
  induction k generalizing n with
  | zero => exact (Nat.mod_one n).symm
  | succ k ih =>
      have split : n % tenTo (k + 1) = n % 10 + 10 * (n / 10 % tenTo k) := by
        rw [show tenTo (k + 1) = 10 * tenTo k from Nat.pow_succ', Nat.mod_mul]
      rw [padded, number_append, ih, split]
      simp only [List.foldl_cons, List.foldl_nil, value_digit (Nat.mod_lt n (by decide : 0 < 10))]
      omega

theorem number_zeros (k : Nat) (cs : List Char) : number (List.replicate k '0' ++ cs) = number cs := by
  have zeros : number (List.replicate k '0') = 0 := by
    induction k with
    | zero => rfl
    | succ k ih =>
        rw [List.replicate_succ', number_append, ih]
        rfl
  rw [number_append, zeros]
  rfl

theorem padded_inj {k m n : Nat} (smallM : m < tenTo k) (smallN : n < tenTo k) :
    padded k m = padded k n ↔ m = n := by
  refine ⟨fun same => ?_, congrArg _⟩
  have number := congrArg number same
  rwa [number_padded, number_padded, Nat.mod_eq_of_lt smallM, Nat.mod_eq_of_lt smallN] at number

theorem digit_lt_digit : ∀ m < 10, ∀ n < 10, digit m < digit n ↔ m < n := by
  decide

/-- Numbers padded to one width are in order as their texts are. -/
theorem padded_lt_padded {k m n : Nat} (smallM : m < tenTo k) (smallN : n < tenTo k) :
    padded k m < padded k n ↔ m < n := by
  induction k generalizing m n with
  | zero =>
      rw [Nat.lt_one_iff.1 smallM, Nat.lt_one_iff.1 smallN]
      exact ⟨fun before => absurd before (List.lt_irrefl _), fun before => absurd before (Nat.lt_irrefl _)⟩
  | succ k ih =>
      have power : tenTo (k + 1) = 10 * tenTo k := Nat.pow_succ'
      have frontM : m / 10 < tenTo k := by omega
      have frontN : n / 10 < tenTo k := by omega
      have lengths : (padded k (m / 10)).length = (padded k (n / 10)).length := by rw [length_padded, length_padded]
      have last := digit_lt_digit (m % 10) (Nat.mod_lt m (by decide)) (n % 10) (Nat.mod_lt n (by decide))
      simp only [padded, Text.lt_append lengths, ih frontM frontN, padded_inj frontM frontN, List.cons_lt_cons_iff,
        last, List.lt_irrefl, and_false, or_false]
      omega

theorem padded_append_lt {k m n : Nat} {cs ds : List Char} (smallM : m < tenTo k) (smallN : n < tenTo k) :
    padded k m ++ cs < padded k n ++ ds ↔ m < n ∨ m = n ∧ cs < ds := by
  rw [Text.lt_append (by rw [length_padded, length_padded]), padded_lt_padded smallM smallN,
    padded_inj smallM smallN]

end Decimal
end Upkeep
