import Mathlib.Logic.Function.Defs
import Upkeep.Config.Check

/-! The rules that settings must keep, each for itself, beside the sections that look at several of
them at once. Settings pass exactly if they break none. What they are told otherwise is one fault
for each broken rule, in order, but one rule is not looked at while another is broken. -/
namespace Upkeep

namespace ConfigFault

/-- What comes of a check, one by one. -/
def told (f : Option ConfigFault) : List ConfigFault := (f.map parts).getD []

theorem collect_eq_none {fs : List ConfigFault} : collect fs = none ↔ fs = [] := by
  match fs with
  | [] | [_] | _ :: _ :: _ => simp only [collect, reduceCtorEq]

/-- To collect faults loses none of them and adds none. A fault that stands for others would be
taken for them where it is alone. -/
theorem told_collect {fs : List ConfigFault} (single : ∀ f ∈ fs, f.parts = [f]) :
    told (collect fs) = fs := by
  match fs with
  | [] => rfl
  | [f] => exact single f (List.mem_singleton.2 rfl)
  | _ :: _ :: _ => rfl

end ConfigFault

namespace Config
open ConfigFault (told)

inductive Rule where
  | address
  | stem
  | pageSize
  | pageBound
  | port
  deriving DecidableEq

namespace Rule
variable {c : Config} {r : Rule}

/-- In the order in which they are told. -/
def all : List Rule := [.address, .stem, .pageSize, .pageBound, .port]

def IsBroken (c : Config) : Rule → Prop
  | address => c.cache.kind = .redis ∧ (c.redis.url = none ∨ c.redis.url = some "")
  | stem => c.cache.stem = ""
  | pageSize => c.api.pageSize = 0
  | pageBound => c.api.maxPageSize < c.api.pageSize
  | port => c.server.port = 0

instance (c : Config) : DecidablePred (IsBroken c)
  | address => inferInstanceAs (Decidable (_ ∧ (_ ∨ _)))
  | stem => inferInstanceAs (Decidable (c.cache.stem = ""))
  | pageSize | port => inferInstanceAs (Decidable (_ = 0))
  | pageBound => inferInstanceAs (Decidable (c.api.maxPageSize < c.api.pageSize))

/-- What tells that a rule is broken, and how to mend it. -/
def fault (c : Config) : Rule → ConfigFault
  | address => .missing "redis.url" "the Redis schedule cache (cache.backend = redis)"
      "REDIS_URL or INFRA__REDIS__URL"
  | stem => .invalid "cache.key_prefix is empty" "Set INFRA__CACHE__KEY_PREFIX, e.g. infra:sched"
  | pageSize => .invalid "api.default_page_size is 0" "Set INFRA__API__DEFAULT_PAGE_SIZE to at least 1"
  | pageBound => .incompatible ("api.default_page_size=" ++ Decimal.text c.api.pageSize)
      ("api.max_page_size=" ++ Decimal.text c.api.maxPageSize)
      "The default page size must not exceed the maximum page size."
  | port => .invalid "server.port is 0" "Set INFRA__SERVER__PORT or pass --port"

theorem mem_all (r : Rule) : r ∈ all := by cases r <;> decide

theorem parts_fault (c : Config) (r : Rule) : (r.fault c).parts = [r.fault c] := by cases r <;> rfl

/-- A fault tells which rule is broken. -/
theorem fault_injective (c : Config) : Function.Injective (fault c) := by
  intro r s same
  cases r <;> cases s <;> simp [fault] at same ⊢

/-- The rules that settings break. -/
def broken (c : Config) : List Rule := all.filter (IsBroken c)

theorem mem_broken : r ∈ broken c ↔ r.IsBroken c := by
  simp only [broken, List.mem_filter, mem_all, true_and, decide_eq_true_eq]

/-- The stem of the keys is not looked at as long as the server they are for has no address. -/
def IsHidden (c : Config) (r : Rule) : Prop := r = .stem ∧ IsBroken c .address

instance (c : Config) : DecidablePred (IsHidden c) := fun _ => inferInstanceAs (Decidable (_ ∧ _))

/-- What is told of some of the rules. -/
def faults (c : Config) (rules : List Rule) : List ConfigFault :=
  ((rules.filter (IsBroken c)).filter fun r => ¬ r.IsHidden c).map (fault c)

theorem faults_nil (c : Config) : faults c [] = [] := rfl

theorem faults_cons (c : Config) (r : Rule) (rules : List Rule) :
    faults c (r :: rules) =
      (if r.IsBroken c ∧ ¬ r.IsHidden c then [r.fault c] else []) ++ faults c rules := by
  by_cases broken : r.IsBroken c <;> by_cases hidden : r.IsHidden c <;>
    simp [faults, broken, hidden]

theorem faults_append (c : Config) (rules others : List Rule) :
    faults c (rules ++ others) = faults c rules ++ faults c others := by
  simp only [faults, List.filter_append, List.map_append]

theorem told_collect_faults (c : Config) (rules : List Rule) :
    told (ConfigFault.collect (faults c rules)) = faults c rules := by
  apply ConfigFault.told_collect
  intro f member
  obtain ⟨r, -, rfl⟩ := List.mem_map.1 member
  exact r.parts_fault c

end Rule

section
open Rule ConfigFault
variable (c : Config)

/-- The stem is hidden just where the section is done with before it comes to the stem. -/
theorem checkCache_eq : c.checkCache = collect (faults c [.address, .stem]) := by
  have address : IsBroken c .address ↔ c.cache.kind = .redis ∧ c.redis.url.getD "" = "" := by
    cases url : c.redis.url <;> simp [IsBroken, url]
  have stem : IsBroken c .stem ↔ c.cache.stem = "" := .rfl
  simp only [checkCache, ← address, ← stem, faults_cons, faults_nil, IsHidden]
  by_cases missing : IsBroken c .address <;> by_cases empty : IsBroken c .stem <;>
    simp [missing, empty, collect, fault]

theorem checkPages_eq : c.checkPages = collect (faults c [.pageSize, .pageBound]) := by
  simp [checkPages, faults_cons, faults_nil, IsHidden, IsBroken, fault]

theorem checkServer_eq : c.checkServer = collect (faults c [.port]) := by
  by_cases closed : c.server.port = 0 <;>
    simp [checkServer, faults_cons, faults_nil, IsHidden, IsBroken, fault, collect, closed]

/-- What a section tells comes to the whole list as it is, be it one fault or several. -/
theorem check_eq : c.check = collect (faults c all) := by
  have sections : all = [.address, .stem] ++ [.pageSize, .pageBound] ++ [.port] := rfl
  have whole : c.check = collect (told c.checkCache ++ told c.checkPages ++ told c.checkServer) := by
    simp only [check, List.flatMap_cons, List.flatMap_nil, List.append_nil, List.append_assoc, told]
  rw [whole, checkCache_eq, checkPages_eq, checkServer_eq, sections, faults_append, faults_append]
  simp only [told_collect_faults]

theorem told_check : told c.check = ((broken c).filter fun r => ¬ r.IsHidden c).map (fault c) :=
  c.check_eq ▸ told_collect_faults c all

theorem count_check : c.check.elim 0 count = (told c.check).length := by
  cases c.check with
  | none => rfl
  | some f => rfl

theorem check_eq_none : c.check = none ↔ ∀ r, ¬ IsBroken c r := by
  rw [check_eq, collect_eq_none, faults, List.map_eq_nil_iff, List.filter_eq_nil_iff]
  constructor
  · -- A hidden rule is not the only one that is broken: what hides it is told.
    intro none r here
    have hidden (r : Rule) (here : IsBroken c r) : r.IsHidden c := by
      simpa using none r (mem_broken.2 here)
    obtain ⟨-, address⟩ := hidden r here
    exact absurd (hidden .address address).1 (by decide)
  · intro none r member
    exact absurd (mem_broken.1 member) (none r)

/-- All broken rules are told exactly if none of them is hidden. -/
theorem all_told : (told c.check).length = (broken c).length ↔
    ¬ (IsBroken c .address ∧ IsBroken c .stem) := by
  rw [told_check, List.length_map, List.length_filter_eq_length_iff]
  constructor
  · rintro every ⟨address, stem⟩
    exact absurd ⟨rfl, address⟩ (of_decide_eq_true (every .stem (mem_broken.2 stem)))
  · rintro apart r member
    apply decide_eq_true
    rintro ⟨rfl, address⟩
    exact apart ⟨address, mem_broken.1 member⟩

/-- Settings pass exactly if no rule is broken. Otherwise each broken rule is told once, by a fault of
its own, save that of an empty stem where there is no address to go to. So as many faults are told
as rules are broken, unless both of these are. -/
theorem rules_told : (c.check = none ↔ ∀ r, ¬ IsBroken c r) ∧
    told c.check = ((broken c).filter fun r => ¬ r.IsHidden c).map (fault c) ∧
      Function.Injective (fault c) ∧
      (c.check.elim 0 count = (broken c).length ↔ ¬ (IsBroken c .address ∧ IsBroken c .stem)) :=
  ⟨c.check_eq_none, c.told_check, fault_injective c, c.count_check ▸ c.all_told⟩

example : ({} : Config).check = none := rfl

end

/-- A cache on a server that has no address, with keys that have no stem. -/
def adrift : Config := { cache := { kind := .redis, stem := "" } }

theorem stem_untold : Rule.broken adrift = [.address, .stem] ∧
    adrift.check.elim 0 ConfigFault.count = 1 ∧ told adrift.check = [Rule.fault adrift .address] :=
  ⟨by decide, rfl, rfl⟩

end Config
end Upkeep
