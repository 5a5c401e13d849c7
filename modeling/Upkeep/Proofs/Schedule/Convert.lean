import Upkeep.Proofs.Schedule.Narrow

/-! Schedules on their way out and back in. What a caller is shown of a schedule is taken for the
schedule again, with the stub of its target and without what only the inventory gives; and what a caller
sends is shown again as it was sent, with its target in full. -/
namespace Upkeep

namespace Window

/-- A bound that fits comes back as it was. -/
theorem narrow_widen {field : String} {n : UInt64} {m : UInt32} (done : narrow field n = .ok m) :
    m.toUInt64 = n := by
  unfold narrow at done
  split at done
  · next small =>
    cases done
    apply UInt64.toNat_inj.1
    rw [UInt32.toNat_toUInt64, UInt64.toNat_toUInt32, Nat.mod_eq_of_lt small]
  · cases done

/-- Bounds that fit come back as they were. -/
theorem widen_toWords {w : Window} {start finish : UInt32} (words : w.toWords = .ok (start, finish)) :
    widen start finish = w := by
  obtain ⟨low, first, words⟩ := Answer.bind_ok.1 words
  obtain ⟨high, second, words⟩ := Answer.bind_ok.1 words
  cases words
  unfold widen
  rw [narrow_widen first, narrow_widen second]

theorem widen_inj {start finish first last : UInt32} (same : widen start finish = widen first last) :
    start = first ∧ finish = last := by
  obtain ⟨low, high⟩ := Window.mk.inj same
  exact ⟨UInt32.toUInt64_inj.1 low, UInt32.toUInt64_inj.1 high⟩

theorem ofWords_toWords {w : Window} {start finish : UInt32} (valid : w.valid = true)
    (words : w.toWords = .ok (start, finish)) : ofWords start finish = .ok w := by
  unfold ofWords
  rw [widen_toWords words]
  exact Answer.after_ok.2 ⟨check_ok.2 valid, rfl⟩

end Window

namespace Target

theorem id_stub (t : Target) : t.stub.id = t.id := by cases t <;> rfl

theorem kind_stub (t : Target) : t.stub.kind = t.kind := by cases t <;> rfl

/-- The target that three IDs name, of which one at most is given. -/
inductive Named : (hostId siteId regionId : String) → Option Target → Prop
  | none : Named "" "" "" none
  | host {id : String} : id ≠ "" → Named id "" "" (some (.host { id }))
  | site {id : String} : id ≠ "" → Named "" id "" (some (.site { id }))
  | region {id : String} : id ≠ "" → Named "" "" id (some (.region { id }))

theorem ofIds_ok {hostId siteId regionId : String} {target : Option Target} :
    ofIds hostId siteId regionId = .ok target ↔ Named hostId siteId regionId target := by
  constructor
  · intro done
    unfold ofIds at done
    split at done
    · cases done
    · next few =>
      -- with two IDs given, `few` is false
      by_cases host : hostId = "" <;> by_cases site : siteId = "" <;> by_cases region : regionId = ""
      all_goals simp [host, site, region] at few done
      all_goals subst done
      · rw [host, site, region]
        exact .none
      · rw [host, site]
        exact .region region
      · rw [host, region]
        exact .site site
      · rw [site, region]
        exact .host host
  · intro named
    cases named with
    | none => rfl
    | host given => simp [ofIds, given]
    | site given => simp [ofIds, given]
    | region given => simp [ofIds, given]

/-- What callers see of a target among the IDs of a kind. -/
def shownId (target : Option Target) (k : Kind) : String :=
  ((target.filter (·.kind = k)).map Target.id).getD ""

theorem Named.shownId {hostId siteId regionId : String} {target : Option Target}
    (named : Named hostId siteId regionId target) :
    shownId target .host = hostId ∧ shownId target .site = siteId ∧ shownId target .region = regionId := by
  cases named <;> exact ⟨rfl, rfl, rfl⟩

end Target

/-- What callers have to say of a schedule. -/
def Schedule.own (s : Schedule) : Schedule where
  status := s.status
  name := s.name
  target := s.target.map Target.stub
  start := s.start
  finish := s.finish

namespace Wire.Schedule

/-- What is stored for a schedule that a caller sends. -/
structure StoredAs (sent : Schedule) (stored : Upkeep.Schedule) : Prop where
  status : stored.status.number = sent.status.number
  name : stored.name = sent.name
  start : stored.start = sent.start.toUInt64
  finish : stored.finish = sent.finish.toUInt64
  target : Target.Named sent.hostId sent.siteId sent.regionId stored.target
  checked : stored.check = .ok ()

theorem toStored_ok {sent : Schedule} {stored : Upkeep.Schedule} (done : sent.toStored = .ok stored) :
    StoredAs sent stored := by
  obtain ⟨target, named, done⟩ := Answer.bind_ok.1 done
  obtain ⟨window, bounded, done⟩ := Answer.bind_ok.1 done
  obtain ⟨status, known, done⟩ := Answer.bind_ok.1 done
  obtain ⟨checked, done⟩ := Answer.after_ok.1 done
  obtain ⟨-, widened⟩ := Answer.after_ok.1 bounded
  cases widened
  cases done
  exact ⟨Status.toStored_eq_ok.1 known, rfl, rfl, rfl, Target.ofIds_ok.1 named, checked⟩

/-- A target adds nothing to the rest of what is shown. -/
theorem withTarget_own (seen : Wire.Schedule) (target : Option Target) :
    (seen.withTarget target).status = seen.status ∧ (seen.withTarget target).name = seen.name ∧
      (seen.withTarget target).start = seen.start ∧ (seen.withTarget target).finish = seen.finish := by
  rcases target with _ | (h | s | r) <;> exact ⟨rfl, rfl, rfl, rfl⟩

/-- The one ID that is shown of a target names it. -/
theorem ofIds_withTarget {seen : Wire.Schedule} {target : Option Target}
    (bare : seen.hostId = "" ∧ seen.siteId = "" ∧ seen.regionId = "")
    (named : ∀ t, target = some t → t.id ≠ "") :
    let shown := seen.withTarget target
    Target.ofIds shown.hostId shown.siteId shown.regionId = .ok (target.map Target.stub) := by
  obtain ⟨host, site, region⟩ := bare
  rcases target with _ | (h | s | r)
  · simp [withTarget, Target.ofIds, host, site, region]
  · have given : h.id ≠ "" := named _ rfl
    simp [withTarget, Target.ofIds, site, region, given, Target.stub]
  · have given : s.id ≠ "" := named _ rfl
    simp [withTarget, Target.ofIds, host, region, given, Target.stub]
  · have given : r.id ≠ "" := named _ rfl
    simp [withTarget, Target.ofIds, host, site, given, Target.stub]

/-- What is shown of a schedule, but for its target. -/
def untargeted (s : Upkeep.Schedule) (status : Status) (start finish : UInt32) : Schedule :=
  { id := s.id, scheduleId := s.id, status, name := s.name, start, finish,
    times := some (.ofStamps s.createdAt s.updatedAt) }

theorem ofStored_seen {s : Upkeep.Schedule} {seen : Schedule} (seenAs : ofStored s = .ok seen) :
    ∃ status start finish, Status.ofStored s.status = .ok status ∧ s.window.toWords = .ok (start, finish) ∧
      seen = (untargeted s status start finish).withTarget s.target := by
  obtain ⟨⟨start, finish⟩, words, done⟩ := Answer.bind_ok.1 seenAs
  obtain ⟨status, known, done⟩ := Answer.bind_ok.1 done
  cases done
  exact ⟨status, start, finish, known, words, rfl⟩

/-- What is shown of a good schedule can be stored, and says of it what callers have to say. -/
theorem toStored_ofStored {s : Upkeep.Schedule} {seen : Wire.Schedule} (checked : s.check = .ok ())
    (seenAs : ofStored s = .ok seen) : seen.toStored = .ok s.own := by
  obtain ⟨-, titled, targeted, timed⟩ := Schedule.check_ok.1 checked
  obtain ⟨seenStatus, start, finish, known, words, rfl⟩ := ofStored_seen seenAs
  obtain ⟨status, name, first, last⟩ := withTarget_own (untargeted s seenStatus start finish) s.target
  refine Answer.bind_ok.2 ⟨_, ofIds_withTarget ⟨rfl, rfl, rfl⟩ ?_, ?_⟩
  · intro t target
    exact Kind.isId_ne_empty (targeted t target)
  · rw [first, last, status, name]
    refine Answer.bind_ok.2 ⟨s.window, Window.ofWords_toWords timed words, ?_⟩
    refine Answer.bind_ok.2 ⟨s.status, Status.toStored_of_shown known, ?_⟩
    refine Answer.after_ok.2 ⟨Schedule.check_ok.2 ⟨fun named => absurd rfl named, titled, ?_, timed⟩, rfl⟩
    intro t target
    obtain ⟨u, whole, rfl⟩ := Option.map_eq_some_iff.1 target
    rw [Target.kind_stub, Target.id_stub]
    exact targeted u whole

/-- Of a target its ID is shown, and the target itself where there is one. -/
theorem withTarget_shown (seen : Wire.Schedule) {target : Option Target}
    (bare : seen.hostId = "" ∧ seen.siteId = "" ∧ seen.regionId = "")
    (alone : seen.host = none ∧ seen.site = none ∧ seen.region = none)
    (named : ∀ t, target = some t → t.id ≠ "") :
    let shown := seen.withTarget target
    (shown.hostId = Target.shownId target .host ∧ shown.siteId = Target.shownId target .site ∧
      shown.regionId = Target.shownId target .region) ∧
    shown.host.map (·.id) = (if shown.hostId = "" then none else some shown.hostId) ∧
    shown.site.map (·.id) = (if shown.siteId = "" then none else some shown.siteId) ∧
    shown.region.map (·.id) = if shown.regionId = "" then none else some shown.regionId := by
  obtain ⟨hostId, siteId, regionId⟩ := bare
  obtain ⟨host, site, region⟩ := alone
  rcases target with _ | t
  · simp [withTarget, Target.shownId, hostId, siteId, regionId, host, site, region]
  · have given : t.id ≠ "" := named t rfl
    rcases t with h | s | r <;>
      simp_all [withTarget, Target.shownId, Option.filter_some, Target.kind, Target.id, Host.ofStored,
        Site.ofStored, Region.ofStored]

/-- An answer that repeats what a caller has said of a schedule, and shows the target that was named. -/
structure Echoes (sent shown : Schedule) : Prop where
  name : shown.name = sent.name
  status : shown.status = sent.status
  start : shown.start = sent.start
  finish : shown.finish = sent.finish
  hostId : shown.hostId = sent.hostId
  siteId : shown.siteId = sent.siteId
  regionId : shown.regionId = sent.regionId
  host : shown.host.map (·.id) = if sent.hostId = "" then none else some sent.hostId
  site : shown.site.map (·.id) = if sent.siteId = "" then none else some sent.siteId
  region : shown.region.map (·.id) = if sent.regionId = "" then none else some sent.regionId

/-- What was stored for a caller is shown again as it was sent. -/
theorem ofStored_toStored {sent : Schedule} {stored : Upkeep.Schedule} (done : sent.toStored = .ok stored) :
    ∃ shown, ofStored stored = .ok shown ∧ Echoes sent shown := by
  have filed := toStored_ok done
  obtain ⟨-, -, targeted, -⟩ := Schedule.check_ok.1 filed.checked
  obtain ⟨shown, seenAs⟩ := ofStored_ok (toStored_narrow done)
  refine ⟨shown, seenAs, ?_⟩
  obtain ⟨seenStatus, start, finish, known, words, rfl⟩ := ofStored_seen seenAs
  -- Both have the number of the status that is stored.
  have echoed : seenStatus = sent.status :=
    Status.number_inj ((Status.ofStored_eq_ok.1 known).trans filed.status)
  have bounds : Window.widen start finish = Window.widen sent.start sent.finish := by
    rw [Window.widen_toWords words, Schedule.window, filed.start, filed.finish]
    rfl
  obtain ⟨rfl, rfl⟩ := Window.widen_inj bounds
  obtain ⟨status, name, first, last⟩ := withTarget_own (untargeted stored seenStatus sent.start sent.finish) stored.target
  obtain ⟨hostId, siteId, regionId⟩ := filed.target.shownId
  obtain ⟨ids, host, site, region⟩ := withTarget_shown (untargeted stored seenStatus sent.start sent.finish)
    ⟨rfl, rfl, rfl⟩ ⟨rfl, rfl, rfl⟩ fun t target => Kind.isId_ne_empty (targeted t target)
  rw [hostId, siteId, regionId] at ids
  obtain ⟨hostId, siteId, regionId⟩ := ids
  rw [hostId] at host
  rw [siteId] at site
  rw [regionId] at region
  exact ⟨name.trans filed.name, status.trans echoed, first, last, hostId, siteId, regionId, host, site, region⟩

/-- Nothing that counts is lost on the way in or on the way out. What a caller sends is stored so that it is
shown as it was sent, with its target; and what is stored is shown so that it can be stored again as it is,
but for what is the inventory's own. -/
theorem lossless :
    (∀ (sent : Schedule) (stored : Upkeep.Schedule), sent.toStored = .ok stored →
      ∃ shown, ofStored stored = .ok shown ∧ Echoes sent shown) ∧
    ∀ s : Upkeep.Schedule, s.check = .ok () → s.start.toNat < twoTo 32 → s.finish.toNat < twoTo 32 →
      ∃ shown, ofStored s = .ok shown ∧ shown.toStored = .ok
        { s with
          id := "", tenant := "", createdAt := "", updatedAt := ""
          target := s.target.map Target.stub } := by
  constructor
  · intro sent stored done
    exact ofStored_toStored done
  · intro s checked start finish
    obtain ⟨shown, seenAs⟩ := ofStored_ok ⟨start, finish⟩
    exact ⟨shown, seenAs, toStored_ofStored checked seenAs⟩

/-- A schedule for a site, as a caller sends it. -/
def siteBound : Schedule := { name := "weekly", start := 5, finish := 4294967295, siteId := "site-00000002" }

/-- A schedule for a host, as it is kept and shown with the host. -/
def hostBound : Upkeep.Schedule where
  id := "singlesche-00000003"
  name := "nightly"
  target := some (.host { id := "host-00000001", name := "h", tenant := "a" })
  start := 4294967295
  tenant := "a"
  createdAt := "1970-01-01T00:00:00.000Z"

theorem lossless_targeted :
    (∃ stored shown, siteBound.toStored = .ok stored ∧ ofStored stored = .ok shown ∧ Echoes siteBound shown) ∧
      hostBound.check = .ok () ∧ ∃ shown, ofStored hostBound = .ok shown ∧ shown.toStored = .ok
        { name := "nightly", target := some (.host { id := "host-00000001" }), start := 4294967295 } := by
  have checked : hostBound.check = .ok () := rfl
  obtain ⟨shown, seenAs, echoes⟩ := lossless.1 siteBound _ rfl
  exact ⟨⟨_, shown, rfl, seenAs, echoes⟩, checked, lossless.2 hostBound checked (by decide) (by decide)⟩

end Wire.Schedule
end Upkeep
