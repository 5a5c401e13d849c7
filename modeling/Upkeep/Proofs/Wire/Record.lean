import Upkeep.Proofs.Calendar.Stamp
import Upkeep.Proofs.Json.Fields
import Upkeep.Wire.Record

/-! What callers see, there and back. A schedule is read from its JSON text as it was, with its
target and all times, although empty texts and absent records are not written. -/
namespace Upkeep.Wire
open Calendar (Instant)
open Json (present textCell Clean clean_present cleanCell_some cleanCell_textCell cleanCell_map
  fields_present fieldOr_text fieldOr_textCell fieldOr_held fieldOr_optional)
open Text (read_next)
open Reader (fieldOr)

theorem instantOfJson_json (t : Instant) : instantOfJson? (instantJson t) = some t.normal := by
  simp only [instantOfJson?, instantJson, Json.text?, Option.bind_some, Calendar.readInstant_text]

namespace Times

/-- The same instants, with less than a second of nanoseconds. -/
def normal (t : Times) : Times := ⟨t.createdAt.map Instant.normal, t.updatedAt.map Instant.normal⟩

def cells (t : Times) : List (String × Option Json) :=
  [("created_at", t.createdAt.map instantJson), ("updated_at", t.updatedAt.map instantJson)]

variable (t : Times)

theorem json_cells : t.json = .obj (present t.cells) := by
  simp only [json, cells, Json.ifSome_eq, ← Json.present_append, List.cons_append, List.nil_append]

theorem distinct : (t.cells.map (·.1)).Nodup := by
  simp [cells]

theorem ofJson_json : ofJson? t.json = some t.normal := by
  have fields : Json.fields ["created_at", "updated_at"] t.json = _ := t.json_cells ▸ fields_present t.distinct
  have created := fieldOr_optional t.distinct t.createdAt instantOfJson_json (fun _ => rfl)
    (by simp [cells] : ("created_at", _) ∈ t.cells)
  have updated := fieldOr_optional t.distinct t.updatedAt instantOfJson_json (fun _ => rfl)
    (by simp [cells] : ("updated_at", _) ∈ t.cells)
  exact read_next fields <| read_next created <| read_next updated rfl

theorem clean_json : Clean t.json := by
  have instants := cleanCell_map fun t : Instant => Clean.str t.text
  rw [json_cells]
  apply clean_present
  simp only [cells, List.forall_mem_cons]
  exact ⟨instants _, instants _, nofun⟩

end Times

namespace Host

def normal (h : Host) : Host := { h with times := h.times.map Times.normal }

def cells (h : Host) : List (String × Option Json) :=
  [("resource_id", some (.str h.id)), ("name", some (.str h.name)), ("uuid", textCell h.uuid),
    ("site_id", textCell h.siteId), ("hostID", textCell h.hostId), ("timestamps", h.times.map Times.json)]

variable (h : Host)

theorem json_cells : h.json = .obj (present h.cells) := by
  simp only [json, cells, Json.ifSome_eq, Json.unlessEmpty_eq, ← Json.present_append, Json.cons_present,
    List.cons_append, List.nil_append]

theorem distinct : (h.cells.map (·.1)).Nodup := by
  simp [cells]

theorem ofJson_json : ofJson? h.json = some h.normal := by
  have fields : Json.fields ["resource_id", "name", "uuid", "site_id", "hostID", "timestamps"] h.json = _ :=
    h.json_cells ▸ fields_present h.distinct
  have id := fieldOr_text h.distinct (by simp [cells] : ("resource_id", some (.str h.id)) ∈ h.cells)
  have name := fieldOr_text h.distinct (by simp [cells] : ("name", some (.str h.name)) ∈ h.cells)
  have uuid := fieldOr_textCell h.distinct (by simp [cells] : ("uuid", textCell h.uuid) ∈ h.cells)
  have site := fieldOr_textCell h.distinct (by simp [cells] : ("site_id", textCell h.siteId) ∈ h.cells)
  have host := fieldOr_textCell h.distinct (by simp [cells] : ("hostID", textCell h.hostId) ∈ h.cells)
  have times := fieldOr_optional h.distinct h.times Times.ofJson_json (fun _ => rfl)
    (by simp [cells] : ("timestamps", _) ∈ h.cells)
  exact read_next fields <| read_next id <| read_next name <| read_next uuid <| read_next site <|
    read_next host <| read_next times rfl

theorem clean_json : Clean h.json := by
  rw [json_cells]
  apply clean_present
  simp only [cells, List.forall_mem_cons]
  exact ⟨cleanCell_some (.str _), cleanCell_some (.str _), cleanCell_textCell _, cleanCell_textCell _,
    cleanCell_textCell _, cleanCell_map Times.clean_json _, nofun⟩

end Host

namespace Site

def normal (s : Site) : Site := { s with times := s.times.map Times.normal }

def cells (s : Site) : List (String × Option Json) :=
  [("resource_id", some (.str s.id)), ("name", some (.str s.name)), ("region_id", textCell s.regionId),
    ("address", textCell s.address), ("siteID", textCell s.siteId), ("timestamps", s.times.map Times.json)]

variable (s : Site)

theorem json_cells : s.json = .obj (present s.cells) := by
  simp only [json, cells, Json.ifSome_eq, Json.unlessEmpty_eq, ← Json.present_append, Json.cons_present,
    List.cons_append, List.nil_append]

theorem distinct : (s.cells.map (·.1)).Nodup := by
  simp [cells]

theorem ofJson_json : ofJson? s.json = some s.normal := by
  have fields : Json.fields ["resource_id", "name", "region_id", "address", "siteID", "timestamps"] s.json = _ :=
    s.json_cells ▸ fields_present s.distinct
  have id := fieldOr_text s.distinct (by simp [cells] : ("resource_id", some (.str s.id)) ∈ s.cells)
  have name := fieldOr_text s.distinct (by simp [cells] : ("name", some (.str s.name)) ∈ s.cells)
  have region := fieldOr_textCell s.distinct (by simp [cells] : ("region_id", textCell s.regionId) ∈ s.cells)
  have address := fieldOr_textCell s.distinct (by simp [cells] : ("address", textCell s.address) ∈ s.cells)
  have site := fieldOr_textCell s.distinct (by simp [cells] : ("siteID", textCell s.siteId) ∈ s.cells)
  have times := fieldOr_optional s.distinct s.times Times.ofJson_json (fun _ => rfl)
    (by simp [cells] : ("timestamps", _) ∈ s.cells)
  exact read_next fields <| read_next id <| read_next name <| read_next region <| read_next address <|
    read_next site <| read_next times rfl

theorem clean_json : Clean s.json := by
  rw [json_cells]
  apply clean_present
  simp only [cells, List.forall_mem_cons]
  exact ⟨cleanCell_some (.str _), cleanCell_some (.str _), cleanCell_textCell _, cleanCell_textCell _,
    cleanCell_textCell _, cleanCell_map Times.clean_json _, nofun⟩

end Site

namespace Region

def normal (r : Region) : Region := { r with times := r.times.map Times.normal }

def cells (r : Region) : List (String × Option Json) :=
  [("resource_id", some (.str r.id)), ("name", some (.str r.name)), ("parent_id", textCell r.parentId),
    ("regionID", textCell r.regionId), ("timestamps", r.times.map Times.json)]

variable (r : Region)

theorem json_cells : r.json = .obj (present r.cells) := by
  simp only [json, cells, Json.ifSome_eq, Json.unlessEmpty_eq, ← Json.present_append, Json.cons_present,
    List.cons_append, List.nil_append]

theorem distinct : (r.cells.map (·.1)).Nodup := by
  simp [cells]

theorem ofJson_json : ofJson? r.json = some r.normal := by
  have fields : Json.fields ["resource_id", "name", "parent_id", "regionID", "timestamps"] r.json = _ :=
    r.json_cells ▸ fields_present r.distinct
  have id := fieldOr_text r.distinct (by simp [cells] : ("resource_id", some (.str r.id)) ∈ r.cells)
  have name := fieldOr_text r.distinct (by simp [cells] : ("name", some (.str r.name)) ∈ r.cells)
  have parent := fieldOr_textCell r.distinct (by simp [cells] : ("parent_id", textCell r.parentId) ∈ r.cells)
  have region := fieldOr_textCell r.distinct (by simp [cells] : ("regionID", textCell r.regionId) ∈ r.cells)
  have times := fieldOr_optional r.distinct r.times Times.ofJson_json (fun _ => rfl)
    (by simp [cells] : ("timestamps", _) ∈ r.cells)
  exact read_next fields <| read_next id <| read_next name <| read_next parent <| read_next region <|
    read_next times rfl

theorem clean_json : Clean r.json := by
  rw [json_cells]
  apply clean_present
  simp only [cells, List.forall_mem_cons]
  exact ⟨cleanCell_some (.str _), cleanCell_some (.str _), cleanCell_textCell _, cleanCell_textCell _,
    cleanCell_map Times.clean_json _, nofun⟩

end Region

theorem status_tag (s : Status) : Json.choice? Status.all Status.tag (.str s.tag) = some s := by
  cases s <;> rfl

namespace Schedule

/-- The same schedule, and in its times less than a second of nanoseconds. -/
def normal (s : Schedule) : Schedule :=
  { s with
    site := s.site.map Site.normal, host := s.host.map Host.normal, region := s.region.map Region.normal
    times := s.times.map Times.normal }

def cells (s : Schedule) : List (String × Option Json) :=
  [("resource_id", textCell s.id), ("schedule_status", some (.str s.status.tag)),
    ("name", some (.str s.name)), ("target_site", s.site.map Site.json), ("target_host", s.host.map Host.json),
    ("target_region", s.region.map Region.json), ("start_seconds", some (.ofNat s.start.toNat)),
    ("end_seconds", some (.ofNat s.finish.toNat)), ("single_scheduleID", textCell s.scheduleId),
    ("target_host_id", textCell s.hostId), ("target_site_id", textCell s.siteId),
    ("target_region_id", textCell s.regionId), ("timestamps", s.times.map Times.json)]

variable (s : Schedule)

theorem json_cells : s.json = .obj (present s.cells) := by
  simp only [json, cells, Json.ifSome_eq, Json.unlessEmpty_eq, List.append_assoc, ← Json.present_append,
    Json.cons_present, List.cons_append, List.nil_append]

theorem distinct : (s.cells.map (·.1)).Nodup := by
  simp [cells]

theorem ofJson_json : ofJson? s.json = some s.normal := by
  have fields : Json.fields fieldNames s.json = _ := s.json_cells ▸ fields_present s.distinct
  have id := fieldOr_textCell s.distinct (by simp [cells] : ("resource_id", textCell s.id) ∈ s.cells)
  have status : fieldOr (Json.choice? Status.all Status.tag) .unspecified (present s.cells) "schedule_status" = _ :=
    (fieldOr_held s.distinct (by simp [cells] : (_, some (.str s.status.tag)) ∈ s.cells)).trans
      (status_tag s.status)
  have name := fieldOr_text s.distinct (by simp [cells] : ("name", some (.str s.name)) ∈ s.cells)
  have site := fieldOr_optional s.distinct s.site Site.ofJson_json (fun _ => rfl)
    (by simp [cells] : ("target_site", _) ∈ s.cells)
  have host := fieldOr_optional s.distinct s.host Host.ofJson_json (fun _ => rfl)
    (by simp [cells] : ("target_host", _) ∈ s.cells)
  have region := fieldOr_optional s.distinct s.region Region.ofJson_json (fun _ => rfl)
    (by simp [cells] : ("target_region", _) ∈ s.cells)
  have start : fieldOr Json.word32? 0 (present s.cells) "start_seconds" = _ :=
    (fieldOr_held s.distinct (by simp [cells] : (_, some (.ofNat s.start.toNat)) ∈ s.cells)).trans
      (Json.word32_ofNat s.start)
  have finish : fieldOr Json.word32? 0 (present s.cells) "end_seconds" = _ :=
    (fieldOr_held s.distinct (by simp [cells] : (_, some (.ofNat s.finish.toNat)) ∈ s.cells)).trans
      (Json.word32_ofNat s.finish)
  have again := fieldOr_textCell s.distinct (by simp [cells] : ("single_scheduleID", textCell s.scheduleId) ∈ s.cells)
  have hostId := fieldOr_textCell s.distinct (by simp [cells] : ("target_host_id", textCell s.hostId) ∈ s.cells)
  have siteId := fieldOr_textCell s.distinct (by simp [cells] : ("target_site_id", textCell s.siteId) ∈ s.cells)
  have regionId := fieldOr_textCell s.distinct
    (by simp [cells] : ("target_region_id", textCell s.regionId) ∈ s.cells)
  have times := fieldOr_optional s.distinct s.times Times.ofJson_json (fun _ => rfl)
    (by simp [cells] : ("timestamps", _) ∈ s.cells)
  exact read_next fields <| read_next id <| read_next status <| read_next name <| read_next site <|
    read_next host <| read_next region <| read_next start <| read_next finish <| read_next again <|
    read_next hostId <| read_next siteId <| read_next regionId <| read_next times rfl

theorem clean_json : Clean s.json := by
  have word (w : UInt32) : Clean (.ofNat w.toNat) := .nat (Nat.lt_trans w.toNat_lt (by decide))
  rw [json_cells]
  apply clean_present
  simp only [cells, List.forall_mem_cons]
  exact ⟨cleanCell_textCell _, cleanCell_some (.str _), cleanCell_some (.str _),
    cleanCell_map Site.clean_json _, cleanCell_map Host.clean_json _, cleanCell_map Region.clean_json _,
    cleanCell_some (word _), cleanCell_some (word _), cleanCell_textCell _, cleanCell_textCell _,
    cleanCell_textCell _, cleanCell_textCell _, cleanCell_map Times.clean_json _, nofun⟩

/-- The text that is written of a schedule is read as the schedule. -/
theorem read_write : (Json.read s.json.write).bind ofJson? = some s.normal := by
  rw [Json.read_write s.clean_json.legible, Option.bind_some, s.ofJson_json]

end Schedule
end Upkeep.Wire
