import Upkeep.Proofs.Cache.Inquiry
import Upkeep.Proofs.Inventory.Naming
import Upkeep.Proofs.Text.Decimal

/-! The keys of a shared cache. A key is taken apart from its end, where no part can hold the
colon that stands before it; what is left in the front is the tenant, whatever its name is. -/
namespace Upkeep

/-- There is one way to cut two texts alike at the last of a character. -/
theorem Text.cut_last {sep : Char} (front back : String) {x y u v : String}
    (front_ends : front.toList.getLast? = some sep) (back_ends : back.toList.getLast? = some sep)
    (not_in_u : sep ∉ u.toList) (not_in_v : sep ∉ v.toList)
    (same : x ++ front ++ u = y ++ back ++ v) : x ++ front = y ++ back ∧ u = v := by
  obtain ⟨fs, front_last⟩ := List.getLast?_eq_some_iff.1 front_ends
  obtain ⟨bs, back_last⟩ := List.getLast?_eq_some_iff.1 back_ends
  have chars := congrArg String.toList same
  simp only [String.toList_append, front_last, back_last, List.append_assoc,
    List.singleton_append] at chars
  rw [← List.append_assoc, ← List.append_assoc] at chars
  have part : u = v := by
    rcases List.append_eq_append_iff.1 chars with ⟨zs, -, right⟩ | ⟨zs, -, right⟩
    · cases zs with
      | nil => exact String.toList_inj.1 (List.cons.inj right).2
      | cons z zs =>
          have inside : sep ∈ u.toList := by simp [(List.cons.inj right).2]
          exact absurd inside not_in_u
    · cases zs with
      | nil => exact String.toList_inj.1 (List.cons.inj right).2.symm
      | cons z zs =>
          have inside : sep ∈ v.toList := by simp [(List.cons.inj right).2]
          exact absurd inside not_in_v
  subst part
  exact ⟨(String.append_left_inj u).1 same, rfl⟩

theorem Text.cut_same {sep : Char} (mark : String) {x y u v : String}
    (ends : mark.toList.getLast? = some sep) (not_in_u : sep ∉ u.toList) (not_in_v : sep ∉ v.toList)
    (same : x ++ mark ++ u = y ++ mark ++ v) : x = y ∧ u = v :=
  (cut_last mark mark ends ends not_in_u not_in_v same).imp (String.append_left_inj mark).1 id

/-- A text that holds nothing of what stands before the parts of a key. -/
structure Text.IsPart (s : String) : Prop where
  colon : ':' ∉ s.toList
  equals : '=' ∉ s.toList

theorem Text.isPart_empty : IsPart "" := ⟨List.not_mem_nil, List.not_mem_nil⟩

theorem Decimal.isPart_text (n : Nat) : Text.IsPart (text n) := by
  have alien (c : Char) (h : isDigit c = false) : c ∉ (text n).toList := by
    intro member
    rw [text, String.toList_ofList] at member
    rw [List.all_eq_true.1 (digits_all n) c member] at h
    cases h
  exact ⟨alien ':' rfl, alien '=' rfl⟩

theorem Kind.isPart_id {k : Kind} {id : String} (valid : k.isId id = true) : Text.IsPart id := by
  obtain ⟨digits, spelled, -, hex⟩ := isId_iff.1 valid
  have alien (c : Char) (stem : ∀ k ∈ Kind.all, c ∉ k.idStem.toList ++ ['-'])
      (digit : Hex.isLower c = false) : c ∉ id.toList := by
    intro member
    rw [spelled, ← List.singleton_append, ← List.append_assoc] at member
    rcases List.mem_append.1 member with front | back
    · exact stem k (by cases k <;> decide) front
    · rw [List.all_eq_true.1 hex c back] at digit
      cases digit
  exact ⟨alien ':' (by decide) rfl, alien '=' (by decide) rfl⟩

namespace Criteria
variable {c d : Criteria}

/-- The IDs of the criteria are IDs of their kinds. -/
def isValid (c : Criteria) : Bool :=
  c.hostId.all Kind.host.isId && c.siteId.all Kind.site.isId && c.regionId.all Kind.region.isId

theorem readId_ok {k : Kind} {s id : Option String} (h : readId k s = .ok id) :
    id.all k.isId = true := by
  unfold readId at h
  cases found : given s with
  | none =>
      rw [found] at h
      cases h
      rfl
  | some text =>
      rw [found] at h
      cases valid : k.checkId text with
      | error e => simp [valid, bind, Except.bind] at h
      | ok u =>
          simp [valid, bind, Except.bind, pure, Except.pure] at h
          subst h
          exact Kind.checkId_ok.1 valid

/-- Whatever a caller lists by, the criteria that come of it are valid. -/
theorem isValid_of_read {hostId siteId regionId epoch : Option String}
    (h : read hostId siteId regionId epoch = .ok c) : c.isValid = true := by
  unfold read at h
  cases time : readEpoch epoch with
  | error e => simp [time, bind, Except.bind] at h
  | ok e =>
  cases host : readId .host hostId with
  | error e => simp [time, host, bind, Except.bind] at h
  | ok hostId =>
  cases site : readId .site siteId with
  | error e => simp [time, host, site, bind, Except.bind] at h
  | ok siteId =>
  cases region : readId .region regionId with
  | error e => simp [time, host, site, region, bind, Except.bind] at h
  | ok regionId =>
      simp [time, host, site, region, bind, Except.bind, pure, Except.pure] at h
      subst h
      simp only [isValid, readId_ok host, readId_ok site, readId_ok region, Bool.and_self]

theorem getD_inj {k : Kind} {s t : Option String} (hs : s.all k.isId = true)
    (ht : t.all k.isId = true) (same : s.getD "" = t.getD "") : s = t := by
  cases s with
  | none =>
      cases t with
      | none => rfl
      | some id => exact absurd same.symm (Kind.isId_ne_empty ht)
  | some id =>
      cases t with
      | none => exact absurd same (Kind.isId_ne_empty hs)
      | some other => exact congrArg some same

theorem isPart_getD {k : Kind} {s : Option String} (valid : s.all k.isId = true) :
    Text.IsPart (s.getD "") := by
  cases s with
  | none => exact Text.isPart_empty
  | some id => exact Kind.isPart_id valid

def epochText (epoch : Option UInt64) : String := (epoch.map fun e => Decimal.text e.toNat).getD ""

theorem isPart_epoch (epoch : Option UInt64) : Text.IsPart (epochText epoch) := by
  cases epoch with
  | none => exact Text.isPart_empty
  | some e => exact Decimal.isPart_text e.toNat

theorem epoch_inj {s t : Option UInt64} (same : epochText s = epochText t) : s = t := by
  have shown (e : UInt64) : Decimal.text e.toNat ≠ "" := fun empty =>
    Decimal.digits_ne_nil _ (String.ofList_injective empty)
  cases s with
  | none =>
      cases t with
      | none => rfl
      | some e => exact absurd same.symm (shown e)
  | some e =>
      cases t with
      | none => exact absurd same (shown e)
      | some f => exact congrArg some (UInt64.toNat_inj.1 (Decimal.text_inj same))

theorem isValid_iff : c.isValid = true ↔ c.hostId.all Kind.host.isId = true ∧
    c.siteId.all Kind.site.isId = true ∧ c.regionId.all Kind.region.isId = true := by
  simp only [isValid, Bool.and_eq_true, and_assoc]

theorem colon_not_mem_key (valid : c.isValid = true) : ':' ∉ c.key.toList := by
  obtain ⟨host, site, region⟩ := isValid_iff.1 valid
  have epoch : ':' ∉ (epochText c.epoch).toList := (isPart_epoch c.epoch).colon
  simp only [key, String.toList_append, List.mem_append, not_or]
  exact ⟨⟨⟨⟨⟨⟨⟨by decide, (isPart_getD host).colon⟩, by decide⟩, (isPart_getD site).colon⟩,
    by decide⟩, (isPart_getD region).colon⟩, by decide⟩, epoch⟩

theorem equals_mem_key (c : Criteria) : '=' ∈ c.key.toList := by
  have front : '=' ∈ "h=".toList := by decide
  simp only [key, String.toList_append, List.mem_append, front, true_or]

theorem key_inj (hc : c.isValid = true) (hd : d.isValid = true) (same : c.key = d.key) : c = d := by
  obtain ⟨c_host, c_site, c_region⟩ := isValid_iff.1 hc
  obtain ⟨d_host, d_site, d_region⟩ := isValid_iff.1 hd
  obtain ⟨front, epoch⟩ := Text.cut_same ";e=" rfl (isPart_epoch c.epoch).equals
    (isPart_epoch d.epoch).equals same
  obtain ⟨front, region⟩ := Text.cut_same ";r=" rfl (isPart_getD c_region).equals
    (isPart_getD d_region).equals front
  obtain ⟨front, site⟩ := Text.cut_same ";s=" rfl (isPart_getD c_site).equals
    (isPart_getD d_site).equals front
  have host := getD_inj c_host d_host ((String.append_right_inj "h=").1 front)
  have site := getD_inj c_site d_site site
  have region := getD_inj c_region d_region region
  have epoch := epoch_inj epoch
  cases c
  cases d
  simp only at host site region epoch
  rw [host, site, region, epoch]

end Criteria

namespace Shared
variable {stem tenant other : String} {g h : UInt64}

theorem generationKey_inj (same : generationKey stem tenant = generationKey stem other) :
    tenant = other := by
  unfold generationKey at same
  rw [String.append_left_inj, String.append_right_inj] at same
  exact same

theorem front_inj (same : generationKey stem tenant ++ ":" ++ Decimal.text g.toNat =
    generationKey stem other ++ ":" ++ Decimal.text h.toNat) : tenant = other ∧ g = h := by
  obtain ⟨tenants, generations⟩ := Text.cut_same ":" rfl (Decimal.isPart_text _).colon
    (Decimal.isPart_text _).colon same
  exact ⟨generationKey_inj tenants, UInt64.toNat_inj.1 (Decimal.text_inj generations)⟩

theorem generationKey_ends (stem tenant : String) :
    generationKey stem tenant = stem ++ ":" ++ tenant ++ ":" ++ "gen" := by
  have parts : ":gen" = ":" ++ "gen" := rfl
  rw [generationKey, parts, ← String.append_assoc]

end Shared

namespace Inquiry
variable {q r : Inquiry} {stem tenant other : String} {g h : UInt64}

/-- The IDs in an inquiry are IDs of their kinds; the service lets no other through. -/
def isValid : Inquiry → Bool
  | .one id => Kind.schedule.isId id
  | .page key => key.criteria.isValid

def key (stem tenant : String) (g : UInt64) : Inquiry → String
  | .one id => Shared.scheduleKey stem tenant g id
  | .page key => Shared.pageKey stem tenant g key.offset key.limit key.criteria

theorem key_ne_generationKey (valid : q.isValid = true) :
    q.key stem tenant g ≠ Shared.generationKey stem other := by
  intro same
  rw [Shared.generationKey_ends] at same
  cases q with
  | one id =>
      have ends := (Text.cut_last ":id:" ":" rfl rfl (Kind.isPart_id valid).colon
        (by decide) same).2
      subst ends
      cases valid
  | page key =>
      have ends := (Text.cut_last ":" ":" rfl rfl
        (Criteria.colon_not_mem_key valid) (by decide) same).2
      have equals := Criteria.equals_mem_key key.criteria
      rw [ends] at equals
      exact absurd equals (by decide)

theorem one_ne_page {id : String} {key : PageKey} (valid : Kind.schedule.isId id = true)
    (page_valid : key.criteria.isValid = true) :
    Inquiry.key stem tenant g (.one id) ≠ Inquiry.key stem other h (.page key) := by
  intro same
  have ends := (Text.cut_last ":id:" ":" rfl rfl (Kind.isPart_id valid).colon
    (Criteria.colon_not_mem_key page_valid) same).2
  exact (Kind.isPart_id valid).equals (ends ▸ Criteria.equals_mem_key key.criteria)

/-- A key tells all that it was made for: the tenant, the generation and the inquiry. -/
theorem key_inj (hq : q.isValid = true) (hr : r.isValid = true)
    (same : q.key stem tenant g = r.key stem other h) : tenant = other ∧ g = h ∧ q = r := by
  cases q with
  | one id =>
      cases r with
      | one other =>
          obtain ⟨front, ids⟩ := Text.cut_same ":id:" rfl (Kind.isPart_id hq).colon
            (Kind.isPart_id hr).colon same
          obtain ⟨tenants, generations⟩ := Shared.front_inj front
          exact ⟨tenants, generations, congrArg Inquiry.one ids⟩
      | page key => exact absurd same (one_ne_page hq hr)
  | page key =>
      cases r with
      | one id => exact absurd same.symm (one_ne_page hr hq)
      | page other =>
          have part := Decimal.isPart_text
          obtain ⟨front, criteria⟩ := Text.cut_same ":" rfl (Criteria.colon_not_mem_key hq)
            (Criteria.colon_not_mem_key hr) same
          obtain ⟨front, limits⟩ := Text.cut_same ":" rfl (part _).colon (part _).colon front
          obtain ⟨front, offsets⟩ := Text.cut_same ":list:" rfl (part _).colon (part _).colon front
          obtain ⟨tenants, generations⟩ := Shared.front_inj front
          refine ⟨tenants, generations, ?_⟩
          have criteria := Criteria.key_inj hq hr criteria
          have limits := Decimal.text_inj limits
          have offsets := Decimal.text_inj offsets
          cases key
          cases other
          simp only at criteria limits offsets
          rw [criteria, limits, offsets]

/-- What the service asks a cache for: one schedule by what passes for the ID of a schedule, or a
page by criteria that were read. -/
def Admitted : Inquiry → Prop
  | .one id => Kind.schedule.checkId id = .ok ()
  | .page key => ∃ hostId siteId regionId epoch,
      Criteria.read hostId siteId regionId epoch = .ok key.criteria

theorem Admitted.isValid (admitted : q.Admitted) : q.isValid = true := by
  cases q with
  | one id => exact Kind.checkId_ok.1 admitted
  | page key =>
      obtain ⟨hostId, siteId, regionId, epoch, read⟩ := admitted
      exact Criteria.isValid_of_read read

end Inquiry

namespace Shared

/-- What a key of the server is made of. -/
inductive Key where
  | generation (tenant : String)
  | entry (tenant : String) (generation : UInt64) (inquiry : Inquiry)
  deriving DecidableEq

namespace Key

def text (stem : String) : Key → String
  | generation tenant => generationKey stem tenant
  | entry tenant g (.one id) => scheduleKey stem tenant g id
  | entry tenant g (.page key) => pageKey stem tenant g key.offset key.limit key.criteria

theorem text_entry (stem tenant : String) (g : UInt64) (q : Inquiry) :
    (entry tenant g q).text stem = q.key stem tenant g := by
  cases q <;> rfl

def Admitted : Key → Prop
  | generation _ => True
  | entry _ _ inquiry => inquiry.Admitted

/-- Under one stem the text of a key tells all that the key is made of, whatever the tenants are
called, and be it that one tenant's name goes on like a key of another's. -/
theorem text_eq_iff {k l : Key} (stem : String) (hk : k.Admitted) (hl : l.Admitted) :
    k.text stem = l.text stem ↔ k = l := by
  refine ⟨fun same => ?_, congrArg (text stem)⟩
  cases k with
  | generation tenant =>
      cases l with
      | generation other => exact congrArg generation (generationKey_inj same)
      | entry other h r =>
          rw [text_entry] at same
          exact absurd same.symm (Inquiry.key_ne_generationKey hl.isValid)
  | entry tenant g q =>
      rw [text_entry] at same
      cases l with
      | generation other => exact absurd same (Inquiry.key_ne_generationKey hk.isValid)
      | entry other h r =>
          rw [text_entry] at same
          obtain ⟨rfl, rfl, rfl⟩ := Inquiry.key_inj hk.isValid hl.isValid same
          rfl

/-- A page of tenant `a`, and a tenant who is named like the key of it. -/
theorem text_eq_iff_imitated :
    let page := entry "a" 7 (.page ⟨0, 20, { hostId := some "host-87654321", epoch := some 5000 }⟩)
    let other := entry "a:gen:7:list:0:20:h=host-87654321;s=;r=;e=5000" 7 (.one "singlesche-0a1b2c3d")
    page.Admitted ∧ other.Admitted ∧ page ≠ other ∧
      (page.text "infra:sched" = other.text "infra:sched" ↔ page = other) := by
  intro page other
  have read : page.Admitted := ⟨some "host-87654321", none, some "", some " 5000", rfl⟩
  have named : other.Admitted := by rfl
  exact ⟨read, named, by decide, text_eq_iff "infra:sched" read named⟩

/-- An ID that is not checked could go on like the key of a generation. -/
example : (entry "a" 7 (.one "x:gen")).text "infra" = (generation "a:gen:7:id:x").text "infra" := by cbv

end Key
end Shared
end Upkeep
