import Upkeep.Proofs.Cache.Fresh
import Upkeep.Proofs.Cache.Seek
import Upkeep.Proofs.Service.Alike

/-! Two deployments of which only one has a cache. While its cache is fresh they do everything
alike, and it stays fresh, whatever the service does and whichever hosts, sites and regions
come and go in the inventory itself. -/
namespace Upkeep
open Upkeep.Action (Ends Alike)

namespace Deployment
variable {d e : Deployment} {ctx : Context} {tenant : String} {limits : CacheLimits} {m : Memory}

/-- A deployment that always loads. Its cache is neither asked nor told. -/
def uncached : Backend Deployment where
  check := check
  store := store
  schedule ctx _ id := store.loadSchedule ctx id
  page ctx _ offset limit c := store.loadPage ctx offset limit c
  invalidate _ _ _ := id

/-- Of two deployments with equal inventories the first has a fresh cache in memory. -/
structure Mirrors (d e : Deployment) : Prop where
  inventory : e.inventory = d.inventory
  ids : e.ids = d.ids
  now : e.now = d.now
  cancelled : e.cancelled = d.cancelled
  sound : d.inventory.Sound
  fresh : ∃ limits m, d.cache = .memory limits m ∧ m.Fresh d.inventory

def Live (ctx : Context) (d e : Deployment) : Prop :=
  Mirrors d e ∧ ctx.check d.cancelled d.now = .ok ()

theorem Mirrors.caller (h : Mirrors d e) (ctx : Context) : e.caller ctx = d.caller ctx := by
  unfold Deployment.caller
  rw [h.now, h.cancelled]

theorem Mirrors.time (h : Mirrors d e) : e.time = d.time := by
  unfold Deployment.time
  rw [h.now]

theorem Mirrors.create (h : Mirrors d e) {r : Resource} :
    e.inventory.create e.ids e.time tenant r = d.inventory.create d.ids d.time tenant r := by
  rw [h.inventory, h.ids, h.time]

theorem Mirrors.update (h : Mirrors d e) {id : String} {mask : List String} {r : Resource} :
    e.inventory.update e.time tenant id mask r = d.inventory.update d.time tenant id mask r := by
  rw [h.inventory, h.time]

theorem Mirrors.delete (h : Mirrors d e) {id : String} :
    e.inventory.delete tenant id = d.inventory.delete tenant id := by
  rw [h.inventory]

theorem Live.caller (live : Live ctx d e) (required : ctx.requireTenant = .ok tenant) :
    d.caller ctx = .ok tenant :=
  Answer.after_ok.2 ⟨live.2, required⟩

theorem Mirrors.filed (h : Mirrors d e) {q : Inquiry} {a : q.Item} (fresh : m.Fresh d.inventory)
    (loaded : d.inventory.answer tenant q = .ok a) :
    Mirrors (d.filed limits m tenant q a) e :=
  ⟨h.inventory, h.ids, h.now, h.cancelled, h.sound, _, _, rfl, fresh.file loaded⟩

/-- The cache has been told of a change that was made. -/
theorem Mirrors.told (h : Mirrors d e) {next : Inventory} {rest left : Ids} {id : String} {c : Change}
    (ids : left = rest) (sound : next.Sound)
    (others : ∀ other, other ≠ tenant → next.partition other = d.inventory.partition other)
    (beside : Partition.Beside id (d.inventory.partition tenant) (next.partition tenant))
    (new : c.dropsEntry = false → (d.inventory.partition tenant).find? id = none) :
    Mirrors (invalidate tenant id c { d with inventory := next, ids := rest })
      { e with inventory := next, ids := left } := by
  obtain ⟨limits, m, cached, fresh⟩ := h.fresh
  refine ⟨rfl, ids, h.now, h.cancelled, sound, limits, m.invalidate tenant id c, ?_, ?_⟩
  · simp only [invalidate, changeCache, cached, Cache.invalidate]
  · exact fresh.told others beside new

/-- The cache need not be told of a change that touches no answer. -/
theorem Mirrors.untold (h : Mirrors d e) {next : Inventory} {rest left : Ids} (ids : left = rest)
    (sound : next.Sound)
    (others : ∀ other, other ≠ tenant → next.partition other = d.inventory.partition other)
    (lasting : ∀ q a, d.inventory.answer tenant q = .ok a → next.answer tenant q = .ok a) :
    Mirrors { d with inventory := next, ids := rest } { e with inventory := next, ids := left } := by
  obtain ⟨limits, m, cached, fresh⟩ := h.fresh
  exact ⟨rfl, ids, h.now, h.cancelled, sound, limits, m, cached, fresh.lasting others lasting⟩

/-- A creation that is let in is refused by both, or done by both. -/
theorem Mirrors.created (h : Mirrors d e) (admitted : d.caller ctx = .ok tenant) {r : Resource}
    {Q : Resource → Deployment → Deployment → Prop}
    (done : ∀ filed rest, Inventory.Created d.inventory d.ids d.time tenant r filed rest →
      Q (((d.inventory.put tenant filed.id filed).partition tenant).view filed)
        { d with inventory := d.inventory.put tenant filed.id filed, ids := rest }
        { e with inventory := d.inventory.put tenant filed.id filed, ids := rest }) :
    Ends Mirrors Q ((Deployment.create ctx r).result d) ((Deployment.create ctx r).result e) := by
  have again : e.caller ctx = .ok tenant := (h.caller ctx).trans admitted
  obtain ⟨f, rest, failed⟩ | ⟨filed, rest, created, made⟩ :=
    Inventory.create_cases d.inventory d.ids d.time tenant r
  · rw [create_result admitted failed, create_result again (h.create.trans failed)]
    exact .error ⟨rfl, rfl, h.now, h.cancelled, h.sound, h.fresh⟩
  · rw [create_result admitted made, create_result again (h.create.trans made)]
    exact .ok (done filed rest created)

/-- A deletion that is let in is refused by both, or done by both. -/
theorem Mirrors.deleted (h : Mirrors d e) (admitted : d.caller ctx = .ok tenant) {id : String}
    {Q : Unit → Deployment → Deployment → Prop}
    (done : (d.inventory.partition tenant).targeting? id = none →
      let next := d.inventory.setPartition tenant ((d.inventory.partition tenant).erase id)
      Q () { d with inventory := next } { e with inventory := next }) :
    Ends Mirrors Q ((Deployment.delete ctx id).result d) ((Deployment.delete ctx id).result e) := by
  have again : e.caller ctx = .ok tenant := (h.caller ctx).trans admitted
  obtain ⟨f, failed⟩ | ⟨old, -, free, made⟩ := Inventory.delete_cases d.inventory tenant id
  · rw [delete_result admitted failed, delete_result again (h.delete.trans failed)]
    exact .error ⟨rfl, h.ids, h.now, h.cancelled, h.sound, h.fresh⟩
  · rw [delete_result admitted made, delete_result again (h.delete.trans made)]
    exact .ok (done free)

theorem check_alike (ctx : Context) : Alike Mirrors Mirrors (check ctx)
    (check ctx) fun _ => Live ctx := by
  intro d e h
  have checked (d : Deployment) : (check ctx).result d = (ctx.check d.cancelled d.now, d) := rfl
  rw [checked, checked, h.now, h.cancelled]
  cases live : ctx.check d.cancelled d.now with
  | error e => exact .error h
  | ok u => exact .ok ⟨h, live⟩

theorem seek_alike (required : ctx.requireTenant = .ok tenant) (q : Inquiry) :
    Alike Mirrors (Live ctx) (seek ctx tenant q) (load ctx q) fun _ => Mirrors := by
  intro d e live
  have h := live.1
  have admitted := live.caller required
  obtain ⟨limits, m, cached, fresh⟩ := h.fresh
  have given : (d.caller ctx >>= fun tenant => d.inventory.answer tenant q) =
      d.inventory.answer tenant q := by
    rw [admitted]
    rfl
  have loads : (load ctx q).result e = (d.inventory.answer tenant q, e) := by
    rw [load_result, h.caller, h.inventory, given]
  rw [loads]
  cases known : m.known? limits d.now tenant q with
  | some a =>
      rw [seek_hit cached known, fresh tenant q a (Memory.holds_of_known? known)]
      exact .ok h
  | none =>
      rw [seek_miss cached known, given]
      cases loaded : d.inventory.answer tenant q with
      | error e => exact .error h
      | ok a => exact .ok (h.filed fresh loaded)

theorem create_alike (required : ctx.requireTenant = .ok tenant) (s : Schedule) :
    Alike Mirrors (Live ctx) (create ctx (.schedule s)) (create ctx (.schedule s)) fun r d e =>
      ∃ made, r = .schedule made ∧ Mirrors (invalidate tenant made.id .created d) e := by
  intro d e live
  have h := live.1
  apply h.created (live.caller required)
  intro filed rest created
  have free := (Partition.newId_ok created.named).1
  obtain ⟨kept, rfl⟩ := Resource.eq_schedule (Partition.prepare_ok created.prepared).2.1
  refine ⟨_, rfl, ?_⟩
  refine h.told rfl (h.sound.put_created created) (fun other => Inventory.partition_put_ne) ?_ fun _ => free
  rw [Inventory.partition_put]
  exact (h.sound tenant).beside_insert (fun r found => by cases free.symm.trans found) _

theorem update_alike (required : ctx.requireTenant = .ok tenant) (id : String) (mask : List String)
    (s : Schedule) :
    Alike Mirrors (Live ctx) (update ctx id mask (.schedule s)) (update ctx id mask (.schedule s))
      fun r d e => ∃ made, r = .schedule made ∧ Mirrors (invalidate tenant id .updated d) e := by
  intro d e live
  have h := live.1
  have admitted := live.caller required
  have again : e.caller ctx = .ok tenant := (h.caller ctx).trans admitted
  obtain ⟨f, failed⟩ | ⟨current, incoming, updated, found, -, revised, done⟩ :=
    Inventory.update_cases d.inventory d.time tenant id mask (.schedule s)
  · rw [update_result admitted failed, update_result again (h.update.trans failed)]
    exact .error ⟨rfl, h.ids, h.now, h.cancelled, h.sound, h.fresh⟩
  · rw [update_result admitted done, update_result again (h.update.trans done)]
    refine .ok ⟨_, rfl, ?_⟩
    refine h.told h.ids (h.sound.put_revised found revised).2 (fun other => Inventory.partition_put_ne)
      ?_ fun kept => by cases kept
    rw [Inventory.partition_put]
    refine (h.sound tenant).beside_insert (fun r there => ?_) _
    cases found.symm.trans there
    rfl

theorem delete_alike (required : ctx.requireTenant = .ok tenant) (id : String) :
    Alike Mirrors (Live ctx) (delete ctx id) (delete ctx id) fun _ d e =>
      Mirrors (invalidate tenant id .deleted d) e := by
  intro d e live
  have h := live.1
  apply h.deleted (live.caller required)
  intro free next
  have part := (h.sound tenant).erase free
  refine h.told h.ids (h.sound.setPartition part)
    (fun other => Inventory.partition_setPartition_ne) ?_ fun kept => by cases kept
  rw [Inventory.partition_setPartition_self]
  exact (h.sound tenant).beside_erase free

theorem backend_alike (ctx : Context) : Service.AlikeFor Mirrors (Live ctx) backend uncached ctx :=
  fun _ required =>
    { check := check_alike ctx
      schedule := fun id => seek_alike required (.one id)
      page := fun offset limit criteria => seek_alike required (.page ⟨offset, limit, criteria⟩)
      create := fun s => create_alike required s
      update := fun id mask s _ => update_alike required id mask s
      delete := fun id _ => delete_alike required id }

theorem plant_alike (ctx : Context) (t : Target) :
    Alike Mirrors Mirrors (create ctx t.resource) (create ctx t.resource) fun _ => Mirrors := by
  intro d e h
  cases admitted : d.caller ctx with
  | error f =>
      unfold create
      rw [entered_result, entered_result, h.caller, admitted]
      exact .error h
  | ok tenant =>
      apply h.created admitted
      intro filed rest created
      have free := (Partition.newId_ok created.named).1
      have kind : filed.kind ≠ .schedule := by
        rw [(Partition.prepare_ok created.prepared).2.1, Target.kind_resource]
        exact t.kind_ne_schedule
      refine h.untold rfl (h.sound.put_created created) (fun other => Inventory.partition_put_ne) fun q a => ?_
      have beside := (h.sound tenant).beside_insert (fun r found => by cases free.symm.trans found) filed
      rw [← Inventory.partition_put] at beside
      apply Inventory.lasting_outside (h.sound tenant).ordered beside
      · intro r found
        cases free.symm.trans found
      · rw [Inventory.partition_put]
        exact Table.filter_values_insert (by simpa using kind) fun r found => by
          cases free.symm.trans found

theorem uproot_alike (ctx : Context) (id : String) (outside : Kind.schedule.isId id = false) :
    Alike Mirrors Mirrors (delete ctx id) (delete ctx id) fun _ => Mirrors := by
  intro d e h
  cases admitted : d.caller ctx with
  | error f =>
      unfold delete
      rw [entered_result, entered_result, h.caller, admitted]
      exact .error h
  | ok tenant =>
      apply h.deleted admitted
      intro free next
      have kind : ∀ r, (d.inventory.partition tenant).find? id = some r → r.kind ≠ .schedule := by
        intro r there same
        have named := (h.sound tenant).named id r there
        rw [same, outside] at named
        cases named
      refine h.untold h.ids (h.sound.setPartition ((h.sound tenant).erase free))
        (fun other => Inventory.partition_setPartition_ne) fun q a => ?_
      have beside := (h.sound tenant).beside_erase free
      have part := Inventory.partition_setPartition_self d.inventory tenant
      rw [← part (Table.erase _ id)] at beside
      apply Inventory.lasting_outside (h.sound tenant).ordered beside
      · exact kind
      · rw [part]
        exact (h.sound tenant).ordered.filter_values_erase fun r there => by simpa using kind r there

end Deployment
end Upkeep
