import Upkeep.Proofs.Cache.Keys
import Upkeep.Proofs.Json.Record

/-! What the commands of a shared cache do to the cells of its server, command by command. A
generation is kept as a counter that does not expire, an item as the text of its record. -/
namespace Upkeep

namespace Inquiry
variable {q : Inquiry}

def json : (q : Inquiry) → q.Item → Json
  | .one _ => Schedule.json
  | .page _ => Shared.pageJson

def ofJson? : (q : Inquiry) → Json → Option q.Item
  | .one _ => Schedule.ofJson?
  | .page _ => Shared.pageOfJson?

/-- If the text of an item can be read at all, the item is what is read of it. -/
theorem ofJson_read {a b : q.Item} (h : (Json.read (q.json a).write).bind q.ofJson? = some b) :
    b = a := by
  cases q with
  | one id =>
      have text : Json.read (Schedule.json a).write = some (Schedule.json a) :=
        Json.read_write (Schedule.clean_json a).legible
      have found : (Json.read (Schedule.json a).write).bind Schedule.ofJson? = some b := h
      rw [text, Option.bind_some, Schedule.ofJson_json] at found
      exact (Option.some.inj found).symm
  | page key => exact Shared.pageOfJson_read h

end Inquiry

namespace Server
variable {s : Server} {now seconds : Nat} {key value : String}

theorem find?_of_cell? {cell : String × Option Nat} (h : s.cell? now key = some cell) :
    s.cells.find? key = some cell :=
  (Option.filter_eq_some_iff.1 h).1

theorem cell?_lasting {text : String} (h : s.cells.find? key = some (text, none)) :
    s.cell? now key = some (text, none) := by
  unfold cell?
  rw [h]
  rfl

theorem cell?_missing (h : s.cells.find? key = none) : s.cell? now key = none := by
  unfold cell?
  rw [h]
  rfl

theorem command_cases {α : Type} (s : Server) (name key : String)
    (f : Server → Except ServerFault α × Server) :
    s.command name key f = (.error .refused, s.note name key) ∨
      s.command name key f = f (s.note name key) := by
  unfold command
  dsimp only
  split
  · exact Or.inl rfl
  · exact Or.inr rfl

theorem get_cases (s : Server) (now : Nat) (key : String) :
    s.get now key = (.error .refused, s.note "GET" key) ∨
      s.get now key = (.ok ((s.cell? now key).map (·.1)), s.note "GET" key) :=
  command_cases s "GET" key _

theorem cells_setFor : (s.setFor now key seconds value).2.cells = s.cells ∨
    (s.setFor now key seconds value).2.cells = s.cells.insert key (value, some (now + seconds * 1000)) := by
  unfold setFor
  rcases command_cases s "SETEX" key _ with refused | done
  · rw [refused]
    exact Or.inl rfl
  · rw [done]
    split
    · exact Or.inl rfl
    · exact Or.inr rfl

theorem cells_delete : (s.delete key).2.cells = s.cells ∨
    (s.delete key).2.cells = s.cells.erase key := by
  unfold delete
  rcases command_cases s "DEL" key _ with refused | done
  · rw [refused]
    exact Or.inl rfl
  · rw [done]
    exact Or.inr rfl

theorem increment_cases (s : Server) (now : Nat) (key : String) :
    (∃ e, (s.increment now key).1 = .error e) ∧ (s.increment now key).2.cells = s.cells ∨
    ∃ n, counter? (((s.cell? now key).map (·.1)).getD "0") = some n ∧ n + 1 < twoTo 63 ∧
      (s.increment now key).1 = .ok (n + 1) ∧ (s.increment now key).2.cells =
        s.cells.insert key (Decimal.integer (n + 1), (s.cell? now key).bind (·.2)) := by
  unfold increment
  rcases command_cases s "INCRBY" key _ with refused | done
  · rw [refused]
    exact Or.inl ⟨⟨_, rfl⟩, rfl⟩
  · rw [done]
    dsimp only
    split
    · exact Or.inl ⟨⟨_, rfl⟩, rfl⟩
    · next n counted =>
      split
      · next small => exact Or.inr ⟨n, counted, small, rfl, rfl⟩
      · exact Or.inl ⟨⟨_, rfl⟩, rfl⟩

theorem counter?_text {n : Nat} (small : n < twoTo 63) : counter? (Decimal.text n) = some
    (n : Int) := by
  have read := Decimal.read_digits (Nat.le_sub_one_of_lt small)
  have digits := Decimal.digits_all n
  unfold counter? Decimal.text
  rw [String.toList_ofList]
  split
  · next c cs spelled =>
    rw [spelled] at digits
    cases digits
  · rw [read]
    rfl

/-- The cell of a counter that was raised so many times. -/
def counter (n : Nat) : Option (String × Option Nat) :=
  if n = 0 then none else some (Decimal.text n, none)

theorem cell?_counter {n : Nat} (h : s.cells.find? key = counter n) :
    s.cell? now key = counter n := by
  by_cases zero : n = 0
  · rw [counter, if_pos zero] at h ⊢
    exact cell?_missing h
  · rw [counter, if_neg zero] at h ⊢
    exact cell?_lasting h

theorem counter_read {n : Nat} (small : n < twoTo 63) :
    counter? (((counter n).map (·.1)).getD "0") = some (n : Int) := by
  by_cases zero : n = 0
  · subst zero
    have none_yet : Decimal.text 0 = "0" := by
      rw [Decimal.text, Decimal.digits_small (by decide)]
      rfl
    have read := counter?_text small
    rw [none_yet] at read
    exact read
  · rw [counter, if_neg zero]
    exact counter?_text small

theorem counter_lasting (n : Nat) : (counter n).bind (·.2) = none := by
  unfold counter
  split <;> rfl

/-- To raise a counter makes it the next one, or fails and leaves all as it is. -/
theorem increment_counter (now : Nat) {n : Nat} (small : n < twoTo 63)
    (h : s.cells.find? key = counter n) :
    (∃ e, (s.increment now key).1 = .error e) ∧ (s.increment now key).2.cells = s.cells ∨
    n + 1 < twoTo 63 ∧ (s.increment now key).1 = .ok ((n + 1 : Nat) : Int) ∧
      (s.increment now key).2.cells = s.cells.insert key (Decimal.text (n + 1), none) := by
  rcases increment_cases s now key with failed | ⟨m, counted, within, raised, cells⟩
  · exact Or.inl failed
  · rw [cell?_counter h] at counted cells
    rw [counter_read small] at counted
    cases counted
    rw [counter_lasting] at cells
    exact Or.inr ⟨by omega, raised, cells⟩

end Server

namespace Shared
variable {set : SharedSettings} {s : Server} {now : Nat} {tenant key : String}

theorem cells_generation (set : SharedSettings) (now : Nat) (tenant : String) (s : Server) :
    (generation set now tenant s).2.cells = s.cells := by
  unfold generation
  rcases Server.get_cases s now (generationKey set.stem tenant) with refused | got
  · rw [refused]
    rfl
  · rw [got]
    split <;> next h => rw [← (Prod.mk.inj h).2]; rfl

/-- The generation that is seen is the number of times that the counter was raised. -/
theorem generation_counter {n : Nat} (small : n < twoTo 63)
    (h : s.cells.find? (generationKey set.stem tenant) = Server.counter n) {g : UInt64}
    (seen : (generation set now tenant s).1 = some g) : g.toNat = n := by
  unfold generation at seen
  rcases Server.get_cases s now (generationKey set.stem tenant) with refused | got
  · rw [refused] at seen
    cases seen
  · rw [got, Server.cell?_counter h] at seen
    by_cases zero : n = 0
    · rw [Server.counter, if_pos zero] at seen
      cases seen
      exact zero.symm
    · have large : n < twoTo 64 := Nat.lt_trans small (by decide)
      rw [Server.counter, if_neg zero] at seen
      simp only [Option.map_some, Decimal.readWord_text large] at seen
      cases seen
      exact UInt64.toNat_ofNat_of_lt large

theorem cells_entry {α : Type} {read : Json → Option α} :
    (entry read now key s).2.cells = s.cells := by
  unfold entry
  rcases Server.get_cases s now key with refused | got
  · rw [refused]
    rfl
  · rw [got]
    rfl

theorem entry_found {α : Type} {read : Json → Option α} {a : α}
    (h : (entry read now key s).1 = some a) :
    ∃ cell, s.cells.find? key = some cell ∧ (Json.read cell.1).bind read = some a := by
  unfold entry at h
  rcases Server.get_cases s now key with refused | got
  · rw [refused] at h
    cases h
  · rw [got] at h
    obtain ⟨j, parsed, record⟩ := Option.bind_eq_some_iff.1 h
    obtain ⟨text, got, written⟩ := Option.bind_eq_some_iff.1 parsed
    obtain ⟨cell, found, rfl⟩ := Option.map_eq_some_iff.1 got
    exact ⟨cell, Server.find?_of_cell? found, by rw [written]; exact record⟩

theorem cells_keep {value : Json} : (keep set now key value s).cells = s.cells ∨
    ∃ expiry, (keep set now key value s).cells = s.cells.insert key (value.write, expiry) :=
  Server.cells_setFor.imp id fun cells => ⟨_, cells⟩

end Shared
end Upkeep
