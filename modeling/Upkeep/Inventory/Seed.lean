import Upkeep.Document.Record
import Upkeep.Inventory.Record

/-! Seeds: the regions, sites and hosts of every tenant that are in an inventory from the
start. A seed is planted whole or not at all. -/
namespace Upkeep

structure TenantSeed where
  regions : List Region := []
  sites : List Site := []
  hosts : List Host := []

structure Seed where
  tenants : Table TenantSeed := {}

namespace TenantSeed

/-- What others refer to comes before what refers to it. -/
def resources (s : TenantSeed) : List Resource :=
  s.regions.map .region ++ s.sites.map .site ++ s.hosts.map .host

def ofDocument? (d : Document) : Option TenantSeed := do
  let fs ← Document.fieldsFrom 0 ["regions", "sites", "hosts"] d
  return {
    regions := ← Reader.fieldOr (Document.list? (Region.read Document.reader)) [] fs "regions"
    sites := ← Reader.fieldOr (Document.list? (Site.read Document.reader)) [] fs "sites"
    hosts := ← Reader.fieldOr (Document.list? (Host.read Document.reader)) [] fs "hosts" }

end TenantSeed

/-- The seed that a document holds at its root, which must be a table. -/
def Seed.ofDocument? : Document → Option Seed
  | .table fs => do
    return { tenants := ← Reader.fieldOr (Document.table? TenantSeed.ofDocument?) {} fs "tenants" }
  | _ => none

namespace Inventory

/-- Creates the resources one after the other. -/
def createAll (now tenant : String) :
    List Resource → Inventory × Ids → Answer (Inventory × Ids)
  | [], s => .ok s
  | r :: rs, (inv, ids) => do
    let (made, inv, ids) := inv.create ids now tenant r
    let _ ← made
    createAll now tenant rs (inv, ids)

/-- Plants the seeds of tenants, and tells how many resources they held. -/
def plant (now : String) : List (String × TenantSeed) → Inventory × Ids →
    Answer (Nat × Inventory × Ids)
  | [], s => .ok (0, s)
  | (tenant, seed) :: seeds, s => do
    let s ← (createAll now tenant seed.resources s).during ("seeding tenant " ++ tenant)
    let (count, s) ← plant now seeds s
    return (seed.resources.length + count, s)

end Inventory

end Upkeep
