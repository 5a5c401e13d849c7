import Upkeep.Gateway.Basic
import Upkeep.Proofs.Json.Legible
import Upkeep.Proofs.Schedule.Mask
import Upkeep.Proofs.Service.Write

/-! Patches never widen. A patch names fields, in the mask of its query or else by the keys of its
body, and of the schedule it is for it changes none that it does not name, as long as it names
any, be they known or not. Only a patch that names nothing at all is taken for a replacement. No
other schedule is touched. -/
namespace Upkeep

namespace Gateway
variable {c : Config} {r : HttpRequest} {d : Deployment} {fields : List (String × Json)}

/-- The mask in a query. -/
def maskOf (r : HttpRequest) : Answer (Option String) :=
  queryField (Address.ofText r.address).query "field_mask"

/-- Whether a patch names a field: in its mask, between commas, or else as a key of its body. -/
def Names (fields : List (String × Json)) (field : String) : Option String → Prop
  | some mask => field ≠ "" ∧
      ∃ part ∈ Text.splitOn (· = ',') mask.toList, String.ofList (Text.trimChars part) = field
  | none => ∃ j, (field, j) ∈ fields

theorem patchMask_eq (mask : Option String) (fields : List (String × Json)) :
    ∃ names, (∀ field, field ∈ names ↔ Names fields field mask) ∧
      patchMask mask (.obj fields) = if names.isEmpty then none else some names := by
  cases mask with
  | none =>
      refine ⟨fields.map (·.1), fun field => ?_, rfl⟩
      simp only [List.mem_map, Names, Prod.exists, exists_and_right, exists_eq_right]
  | some mask =>
      refine ⟨_, fun field => ?_, rfl⟩
      simp only [List.mem_map, List.mem_filter, Names, decide_eq_true_eq]
      constructor
      · rintro ⟨_, ⟨⟨part, there, rfl⟩, given⟩, rfl⟩
        exact ⟨fun empty => given (by simpa using empty), part, there, rfl⟩
      · rintro ⟨given, part, there, rfl⟩
        exact ⟨_, ⟨⟨part, there, rfl⟩, fun empty => given (by simp [empty])⟩, rfl⟩

/-- A patch is served as the service's, or else it is refused and nothing is done. -/
theorem patch_served (c : Config) (d : Deployment) (ctx : Context) (query : List (String × String))
    (id : String) (body : bodyValue r = .ok (.obj fields)) :
    ((patch c ctx r query id).result d).2 = d ∨ ∃ mask w, queryField query "field_mask" = .ok mask ∧
      Wire.Schedule.ofJson? (.obj fields) = some w ∧
      ((patch c ctx r query id).result d).2 = ((Service.serve Deployment.backend (settingsOf c) ctx
        (.patch id w (patchMask mask (.obj fields)))).result d).2 := by
  unfold patch
  rw [Action.result_bind, Action.result_answer]
  cases asked : queryField query "field_mask" with
  | error e => exact .inl rfl
  | ok mask =>
      dsimp only
      rw [Action.result_bind, Action.result_answer, body]
      dsimp only
      cases sent : Wire.Schedule.ofJson? (.obj fields) with
      | none => exact .inl rfl
      | some w =>
          refine .inr ⟨mask, w, rfl, rfl, ?_⟩
          dsimp only
          rw [Action.result_map]
          exact (congrArg Prod.snd (Action.result_map Service.Reply.schedule _ d)).symm

theorem responseOf_state (a : Action Deployment Json) (d : Deployment) :
    (responseOf a d).2 = (a.result d).2 := by
  unfold responseOf
  rcases a.result d with ⟨e | j, after⟩
  · rfl
  · rfl

theorem handle_at (tenant : Option String) {e : Endpoint} {id : String} {a : Action Deployment Json}
    (caller : tenantOf? Token.validate c.gateway (d.now / 1000 : Nat) r = some tenant)
    (method : r.method ≠ "HEAD" ∧ r.method ≠ "OPTIONS")
    (endpoint : Endpoint.ofSegments? (Address.ofText r.address).segments = some e)
    (decoded : e.id? = some id)
    (handler : handler? c { tenant, deadline := some (d.now + c.server.timeout * 1000) } r
      (Address.ofText r.address).query id e r.method = some a) :
    handle c r d = responseOf a d := by
  unfold handle handleBy
  rw [caller]
  unfold serve
  dsimp only
  rw [if_neg method.1, if_neg method.2, endpoint]
  dsimp only
  rw [decoded, Option.getD_some, handler]
  dsimp only
  rw [if_neg nofun, if_neg method.1]

/-- The schedule that a request is for: the caller's, under the ID in the address. -/
structure Concerns (c : Config) (d : Deployment) (r : HttpRequest) (tenant id : String) : Prop where
  caller : tenantOf? Token.validate c.gateway (d.now / 1000 : Nat) r = some (some tenant)
  place : ∃ project segment,
    Endpoint.ofSegments? (Address.ofText r.address).segments = some (.schedule project segment) ∧
      (Endpoint.schedule project segment).id? = some id

theorem handle_patch (c : Config) (d : Deployment) (method : r.method = "PATCH") : (handle c r d).2 = d ∨
    ∃ ctx id, (∀ tenant, ctx.tenant = some tenant → Concerns c d r tenant id) ∧
      (handle c r d).2 = ((patch c ctx r (Address.ofText r.address).query id).result d).2 := by
  unfold handle handleBy
  cases caller : tenantOf? Token.validate c.gateway (d.now / 1000 : Nat) r with
  | none => exact .inl rfl
  | some tenant =>
      unfold serve
      dsimp only
      rw [method, if_neg (by decide), if_neg (by decide)]
      cases place : Endpoint.ofSegments? (Address.ofText r.address).segments with
      | none => exact .inl rfl
      | some e =>
          dsimp only
          cases e with
          | health => exact .inl rfl
          | schedules project => exact .inl rfl
          | schedule project segment =>
              cases decoded : (Endpoint.schedule project segment).id? with
              | none => exact .inl rfl
              | some id =>
                  let ctx : Context := { tenant, deadline := some (d.now + c.server.timeout * 1000) }
                  refine .inr ⟨ctx, id, ?_, responseOf_state _ d⟩
                  rintro _ rfl
                  exact ⟨caller, project, segment, place, decoded⟩

/-- A patch names a field in the mask of its query or else, where there is none, in its body. -/
def NamedBy (r : HttpRequest) (fields : List (String × Json)) (field : String) : Prop :=
  ∃ mask, maskOf r = .ok mask ∧ Names fields field mask

/-- What a patch revises is kept but for the fields that it names, as long as it names any. -/
theorem revise_named {p : Partition} {now : String} {strict : Bool} {mask : Option String}
    {paths : List String} {current incoming updated : Schedule} (asked : maskOf r = .ok mask)
    (translated : Mask.translate (patchMask mask (.obj fields)) strict = .ok paths)
    (revised : p.revise now paths current incoming = .ok updated) :
    Schedule.Kept (fun f => NamedBy r fields f.field) current updated ∨
      (∀ field, ¬ Names fields field mask) ∧ Schedule.Replaced incoming updated := by
  obtain ⟨names, named, eq⟩ := patchMask_eq mask fields
  rw [eq] at translated
  by_cases none : names = []
  · subst none
    cases translated
    exact .inr ⟨fun field listed => List.not_mem_nil ((named field).2 listed),
      Partition.revise_replaced (.inl rfl) revised⟩
  · rw [if_neg (by simpa using none)] at translated
    obtain ⟨given, each⟩ := Mask.translate_ok none translated
    refine .inl ((Partition.revise_kept given revised).widen fun f listed => ?_)
    exact ⟨mask, asked, (named _).1 (Mask.path_mem_named.1 ((each _).1 listed))⟩

/-- A patch moves nothing, or revises the schedule that it is for with what is in its body. -/
theorem handle_patch_cases (c : Config) (d : Deployment) (method : r.method = "PATCH")
    (body : bodyValue r = .ok (.obj fields)) :
    let next := (handle c r d).2.inventory
    next = d.inventory ∨ ∃ mask w stored paths tenant id current updated, Concerns c d r tenant id ∧
      maskOf r = .ok mask ∧ Wire.Schedule.ofJson? (.obj fields) = some w ∧ w.toStored = .ok stored ∧
      Mask.translate (patchMask mask (.obj fields)) c.api.strictMask = .ok paths ∧
      (d.inventory.partition tenant).find? id = some (.schedule current) ∧
      (d.inventory.partition tenant).revise d.time paths current stored = .ok updated ∧
      next = d.inventory.put tenant id (.schedule updated) := by
  obtain none | ⟨ctx, id, concerns, handled⟩ := handle_patch c d method
  · exact .inl (congrArg _ none)
  obtain none | ⟨mask, w, asked, sent, served⟩ := patch_served c d ctx _ id body
  · exact .inl (congrArg _ (handled.trans none))
  rw [handled, served]
  refine Deployment.patch_cases.imp (fun ⟨_, _, unmoved⟩ => unmoved.inventory) ?_
  rintro ⟨tenant, stored, paths, current, updated, caller, converted, translated, found, revised, next⟩
  exact ⟨mask, w, stored, paths, tenant, id, current, updated, concerns tenant caller, asked, sent, converted,
    translated, found, revised, next⟩

/-- After a patch every schedule is there still, and all but the one that the patch is for are as they were. That
one has kept what the patch does not name; if the patch names nothing at all, it may have been replaced by what the
patch holds. -/
theorem patch_never_widens (c : Config) (d : Deployment) (method : r.method = "PATCH")
    (body : bodyValue r = .ok (.obj fields)) (tenant id : String) {before : Schedule}
    (found : (d.inventory.partition tenant).find? id = some (.schedule before)) :
    ∃ after, ((handle c r d).2.inventory.partition tenant).find? id = some (.schedule after) ∧
      (¬ Concerns c d r tenant id → after = before) ∧
      (Schedule.Kept (fun f => NamedBy r fields f.field) before after ∨
        Concerns c d r tenant id ∧ (∃ mask, maskOf r = .ok mask ∧ ∀ field, ¬ Names fields field mask) ∧
        ∃ w stored, Wire.Schedule.ofJson? (.obj fields) = some w ∧ w.toStored = .ok stored ∧
          Schedule.Replaced stored after) := by
  obtain next | ⟨mask, w, stored, paths, owner, named, current, updated, concerns, asked, sent, converted, translated,
    there, revised, next⟩ := handle_patch_cases c d method body
  · rw [next]
    exact ⟨before, found, fun _ => rfl, .inl (.refl _ before)⟩
  rw [next, Inventory.find?_put]
  by_cases same : tenant = owner ∧ id = named
  · obtain ⟨rfl, rfl⟩ := same
    cases there.symm.trans found
    rw [if_pos ⟨rfl, rfl⟩]
    refine ⟨updated, rfl, fun other => absurd concerns other,
      (revise_named asked translated revised).imp (fun kept => kept) ?_⟩
    exact fun ⟨nothing, replaced⟩ => ⟨concerns, ⟨mask, asked, nothing⟩, w, stored, sent, converted, replaced⟩
  · rw [if_neg same]
    exact ⟨before, found, fun _ => rfl, .inl (.refl _ before)⟩

/-- A patch of tenant `a` for the schedule in `housed`. -/
def patching (body : String) : HttpRequest where
  method := "PATCH"
  address := "/v1/projects/demo/schedules/single/singlesche-f0000000"
  headers := [("ActiveProjectID", "a"), ("content-type", "application/json")]
  body := some body

theorem address_patching : Address.ofText (patching "").address =
    { segments := ["", "v1", "projects", "demo", "schedules", "single", "singlesche-f0000000"].map String.toList,
      query := [] } := rfl

theorem maskOf_patching (body : String) : maskOf (patching body) = .ok none := by
  unfold maskOf
  rw [show (patching body).address = (patching "").address from rfl, address_patching]
  rfl

theorem handle_patching (body : String) : (handle {} (patching body) .housed).2 =
    ((patch {} { tenant := some "a", deadline := some 30000 } (patching body) []
      "singlesche-f0000000").result .housed).2 := by
  have address : Address.ofText (patching body).address = _ := address_patching
  have endpoint : Endpoint.ofSegments? (Address.ofText (patching body).address).segments =
      some (.schedule "demo".toList "singlesche-f0000000".toList) := by
    rw [address]
    simp [Endpoint.ofSegments?]
  have decoded : (Endpoint.schedule "demo".toList "singlesche-f0000000".toList).id? =
      some "singlesche-f0000000" := by decide +kernel
  rw [handle_at (some "a") rfl ⟨by simp [patching], by simp [patching]⟩ endpoint decoded rfl,
    responseOf_state, address]
  rfl

theorem bodyValue_patching {j k : Json} {body : String} (clean : j.Clean) (value : j.plain = some k)
    (text : j.write = body) : bodyValue (patching body) = .ok k := by
  subst text
  unfold bodyValue Json.readPlain
  refine Answer.bind_ok.2 ⟨j.write, rfl, ?_⟩
  rw [Json.read_write clean.legible, Option.bind_some, value]

/-- A new name leaves the hours and the host as they are. -/
theorem patch_never_widens_named :
    let r := patching "\x7b\"name\":\"weekly\"\x7d"
    let fields := [("name", .str "weekly")]
    r.method = "PATCH" ∧ bodyValue r = .ok (.obj fields) ∧ ∃ before after,
      (Deployment.housed.inventory.partition "a").find? "singlesche-f0000000" = some (.schedule before) ∧
      ((handle {} r .housed).2.inventory.partition "a").find? "singlesche-f0000000" = some (.schedule after) ∧
      Schedule.Kept (fun f => NamedBy r fields f.field) before after := by
  intro r fields
  have clean : (Json.obj fields).Clean := .obj (by simp [fields, Json.Clean.str])
  have body : bodyValue r = .ok (.obj fields) := bodyValue_patching clean rfl rfl
  obtain ⟨after, found, -, kept | ⟨-, ⟨mask, asked, nothing⟩, -⟩⟩ :=
    patch_never_widens {} .housed rfl body "a" "singlesche-f0000000" rfl
  · exact ⟨rfl, body, _, after, rfl, found, kept⟩
  · cases (maskOf_patching _).symm.trans asked
    exact absurd ⟨_, List.mem_cons_self⟩ (nothing "name")

/-- The patch with an empty body names nothing, and takes the name away. -/
theorem patch_widens_unnamed : ¬ ∀ (c : Config) (r : HttpRequest) (d : Deployment)
    (fields : List (String × Json)) (tenant id : String) (before : Schedule),
    d.Reached → r.method = "PATCH" → bodyValue r = .ok (.obj fields) →
    (d.inventory.partition tenant).find? id = some (.schedule before) →
    ∃ after, ((handle c r d).2.inventory.partition tenant).find? id = some (.schedule after) ∧
      Schedule.Kept (fun f => NamedBy r fields f.field) before after := by
  intro always
  have clean : (Json.obj []).Clean := .obj nofun
  have body : bodyValue (patching "\x7b\x7d") = .ok (.obj []) := bodyValue_patching clean rfl rfl
  obtain ⟨after, found, kept⟩ := always {} (patching "\x7b\x7d") .housed [] "a" "singlesche-f0000000" _
    Deployment.housed_reached rfl body rfl
  have unnamed : ¬ NamedBy (patching "\x7b\x7d") [] "name" := by
    rintro ⟨mask, asked, listed⟩
    cases (maskOf_patching _).symm.trans asked
    obtain ⟨j, member⟩ := listed
    cases member
  have same : after.name = "nightly" := kept.name unnamed
  have reset : after.name = "" := by
    rw [handle_patching] at found
    unfold patch at found
    rw [Action.result_bind, Action.result_answer] at found
    dsimp only [queryField, List.filter] at found
    rw [Action.result_bind, Action.result_answer, body] at found
    cases found
    rfl
  exact absurd (same.symm.trans reset) (by decide)

end Gateway
end Upkeep
