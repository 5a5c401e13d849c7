import Upkeep.Proofs.Cache.Distant

/-! What calls come to in a deployment for a caller who is let in: an inquiry is answered from
the cache in memory or from the inventory, and a write does what the inventory does. -/
namespace Upkeep

namespace Deployment
variable {d : Deployment} {ctx : Context} {tenant : String} {limits : CacheLimits} {m : Memory}

def seek (ctx : Context) (tenant : String) : (q : Inquiry) → Action Deployment q.Item
  | .one id => schedule ctx tenant id
  | .page key => page ctx tenant key.offset key.limit key.criteria

/-- To seek is to inquire where no time passes on the way. -/
theorem inquire_none (q : Inquiry) : inquire {} ctx tenant q = seek ctx tenant q := by
  unfold inquire
  rw [distant_none]
  cases q <;> rfl

theorem seek_hit (cached : d.cache = .memory limits m) {q : Inquiry} {a : q.Item}
    (known : m.known? limits d.now tenant q = some a) :
    (seek ctx tenant q).result d = (.ok a, d) := by
  rw [← inquire_none]
  exact inquire_hit cached known

theorem seek_miss (cached : d.cache = .memory limits m) {q : Inquiry}
    (unknown : m.known? limits d.now tenant q = none) :
    (seek ctx tenant q).result d = match d.caller ctx >>= fun tenant => d.inventory.answer tenant q with
      | .ok a => (.ok a, d.filed limits m tenant q a)
      | .error e => (.error e, d) := by
  rw [← inquire_none]
  exact inquire_miss cached unknown

theorem create_result {r : Resource} {a : Answer Resource} {next : Inventory} {rest : Ids}
    (admitted : d.caller ctx = .ok tenant)
    (done : d.inventory.create d.ids d.time tenant r = (a, next, rest)) :
    (create ctx r).result d = (a, { d with inventory := next, ids := rest }) := by
  unfold create
  rw [entered_result, admitted]
  dsimp only
  rw [Action.result_of, done]

theorem update_result {id : String} {mask : List String} {r : Resource} {a : Answer Resource}
    {next : Inventory} (admitted : d.caller ctx = .ok tenant)
    (done : d.inventory.update d.time tenant id mask r = (a, next)) :
    (update ctx id mask r).result d = (a, { d with inventory := next }) := by
  unfold update
  rw [entered_result, admitted]
  dsimp only
  rw [Action.result_of, done]

theorem delete_result {id : String} {a : Answer Unit} {next : Inventory}
    (admitted : d.caller ctx = .ok tenant) (done : d.inventory.delete tenant id = (a, next)) :
    (delete ctx id).result d = (a, { d with inventory := next }) := by
  unfold delete
  rw [entered_result, admitted]
  dsimp only
  rw [Action.result_of, done]

end Deployment
end Upkeep
