import Upkeep.Proofs.Gateway.Errand

/-! Requests to the schedules of projects. The project stands in their addresses and leads nowhere else,
so two requests that differ in it, and in a header that is not read, come to the same. -/
namespace Upkeep

namespace Text
variable {p : Char → Bool} {part : List Char} {sep : Char}

/-- A part without separators is cut off at the separator after it. -/
theorem splitOn_part (plain : ∀ c ∈ part, p c = false) (cut : p sep = true) (rest : List Char) :
    splitOn p (part ++ sep :: rest) = part :: splitOn p rest := by
  induction part with
  | nil => simp only [List.nil_append, splitOn, if_pos cut]
  | cons c part ih =>
      have first : ¬ p c = true := by simp [plain c List.mem_cons_self]
      rw [List.cons_append, splitOn, if_neg first, ih fun d later => plain d (List.mem_cons_of_mem _ later)]

theorem splitOn_plain (plain : ∀ c ∈ part, p c = false) : splitOn p part = [part] := by
  induction part with
  | nil => rfl
  | cons c part ih =>
      have first : ¬ p c = true := by simp [plain c List.mem_cons_self]
      rw [splitOn, if_neg first, ih fun d later => plain d (List.mem_cons_of_mem _ later)]

end Text

namespace Gateway
section Place

/-- A name of a project, as it may stand in an address. -/
structure IsProject (name : List Char) : Prop where
  named : name ≠ []
  plain : ∀ c ∈ name, c ≠ '/' ∧ c ≠ '?' ∧ c ≠ '#'
  legible : (decodeSegment? name).isSome

/-- An address of schedules in a project; what comes after may be an ID, a query or anything else. -/
def scheduleAddress (project : List Char) (rest : String) : String :=
  "/v1/projects/" ++ String.ofList project ++ "/schedules/single" ++ rest

variable {project other : List Char}

theorem before_append {sep : Char} {front : List Char} (plain : ∀ c ∈ front, c ≠ sep) (rest : List Char) :
    before sep (front ++ rest) = front ++ before sep rest :=
  List.takeWhile_append_of_pos (by simpa using plain)

/-- Of such an address only one segment depends on the project. -/
theorem ofText_scheduleAddress (rest : String) : ∃ last query, ∀ project, IsProject project →
    Address.ofText (scheduleAddress project rest) =
      ⟨[] :: "v1".toList :: "projects".toList :: project :: "schedules".toList :: last, query⟩ := by
  let place := "single".toList ++ rest.toList
  refine ⟨Text.splitOn (· = '/') (before '?' (before '#' place)),
    queryFields ((before '#' place).drop ((before '?' (before '#' place)).length + 1)), ?_⟩
  intro project good
  let front := "/v1/projects/".toList ++ project ++ "/schedules/".toList
  have whole : (scheduleAddress project rest).toList = front ++ place := by
    have cut : "/schedules/single".toList = "/schedules/".toList ++ "single".toList := by decide
    unfold scheduleAddress
    rw [String.toList_append, String.toList_append, String.toList_append, @String.toList_ofList project, cut]
    simp only [front, place, List.append_assoc]
  have unmarked {sep : Char} (apart : ∀ c ∈ project, c ≠ sep) (first : sep ∉ "/v1/projects/".toList)
      (second : sep ∉ "/schedules/".toList) : ∀ c ∈ front, c ≠ sep := by
    rintro c member rfl
    rcases List.mem_append.1 member with early | late
    · exact (List.mem_append.1 early).elim first fun own => apart c own rfl
    · exact second late
  have path : before '?' (front ++ before '#' place) = front ++ before '?' (before '#' place) :=
    before_append (unmarked (fun c own => (good.plain c own).2.1) (by decide) (by decide)) _
  have cut (rest : List Char) : Text.splitOn (· = '/') (front ++ rest) =
      [] :: "v1".toList :: "projects".toList :: project :: "schedules".toList ::
        Text.splitOn (· = '/') rest := by
    have parts : front ++ rest = [] ++ '/' :: ("v1".toList ++ '/' :: ("projects".toList ++ '/' ::
        (project ++ '/' :: ("schedules".toList ++ '/' :: rest)))) := by
      have first : "/v1/projects/".toList = '/' :: ("v1".toList ++ '/' :: ("projects".toList ++ ['/'])) := by decide
      have second : "/schedules/".toList = '/' :: ("schedules".toList ++ ['/']) := by decide
      simp only [front, first, second, List.cons_append, List.append_assoc, List.nil_append]
    have own : ∀ c ∈ project, decide (c = '/') = false := fun c member =>
      decide_eq_false (good.plain c member).1
    rw [parts, Text.splitOn_part (by simp) rfl, Text.splitOn_part (by simp) rfl,
      Text.splitOn_part (by simp) rfl, Text.splitOn_part own rfl, Text.splitOn_part (by simp) rfl]
  unfold Address.ofText
  rw [whole, before_append (unmarked (fun c own => (good.plain c own).2.2) (by decide) (by decide))]
  dsimp only
  rw [path, cut, List.length_append, Nat.add_assoc, List.drop_length_add_append]

/-- What such an address leads to, whatever the project: nothing, its schedules, or one of them. -/
inductive Place : Option (List Char → Endpoint) → Prop
  | nowhere : Place none
  | schedules : Place (some .schedules)
  | schedule (id : List Char) : Place (some fun project => .schedule project id)

theorem ofSegments?_place (last : List (List Char)) : ∃ place, Place place ∧ ∀ project, project ≠ [] →
    Endpoint.ofSegments? ([] :: "v1".toList :: "projects".toList :: project :: "schedules".toList :: last) =
      place.map fun within => within project := by
  rcases last with _ | ⟨single, _ | ⟨id, _ | ⟨more, last⟩⟩⟩
  · exact ⟨none, .nowhere, fun _ _ => rfl⟩
  · by_cases spelt : String.ofList single = "single"
    · refine ⟨some .schedules, .schedules, fun project given => ?_⟩
      simp [Endpoint.ofSegments?, spelt, given]
    · refine ⟨none, .nowhere, fun project given => ?_⟩
      simp [Endpoint.ofSegments?, spelt]
  · by_cases spelt : String.ofList single = "single" ∧ String.ofList id ≠ ""
    · refine ⟨some fun project => .schedule project id, .schedule id, fun project given => ?_⟩
      have one : id ≠ [] := by simpa using spelt.2
      simp [Endpoint.ofSegments?, spelt.1, given, one]
    · refine ⟨none, .nowhere, fun project given => ?_⟩
      by_cases word : String.ofList single = "single"
      · have none : id = [] := by simpa [word] using spelt
        simp [Endpoint.ofSegments?, word, none]
      · simp [Endpoint.ofSegments?, word]
  · refine ⟨none, .nowhere, fun project given => ?_⟩
    simp [Endpoint.ofSegments?]

end Place

section Headers
variable {header name : String}

/-- All headers but those of a name. -/
def HttpRequest.headersBut (r : HttpRequest) (header : String) : List (String × String) :=
  r.headers.filter fun h => !Text.sameWord h.1 header

/-- Another header is found whatever is done to those of a name. -/
theorem header?_but (r : HttpRequest) (unread : Text.sameWord header name = false) :
    r.header? name = { r with headers := r.headersBut header }.header? name := by
  have kept : (fun h : String × String => decide ((!Text.sameWord h.1 header) = true ∧ Text.sameWord h.1 name = true)) =
      fun h => Text.sameWord h.1 name := by
    funext h
    cases found : Text.sameWord h.1 name with
    | false => simp
    | true =>
        have other : Text.sameWord h.1 header = false := by
          simp only [Text.sameWord, beq_iff_eq, beq_eq_false_iff_ne] at found unread ⊢
          exact fun same => unread (same.symm.trans found)
        simp [other]
  unfold HttpRequest.header? HttpRequest.headersBut
  dsimp only
  rw [List.find?_filter, kept]

end Headers

/-- The headers that are read where a secret is set. -/
structure Unread (header : String) : Prop where
  token : Text.sameWord header "authorization" = false
  type : Text.sameWord header "content-type" = false

/-- Requests to the schedules of projects that differ in a header and in the project at most. -/
structure Alike (header : String) (r s : HttpRequest) : Prop where
  method : s.method = r.method
  body : s.body = r.body
  headers : s.headersBut header = r.headersBut header
  address : ∃ project other rest, IsProject project ∧ IsProject other ∧
    r.address = scheduleAddress project rest ∧ s.address = scheduleAddress other rest

namespace Alike
variable {header : String} {r s : HttpRequest}

theorem header? (alike : Alike header r s) {name : String} (unread : Text.sameWord header name = false) :
    s.header? name = r.header? name := by
  rw [header?_but s unread, header?_but r unread, alike.headers]
  rfl

theorem bodyText (alike : Alike header r s) (unread : Unread header) : bodyText s = bodyText r := by
  unfold Gateway.bodyText
  rw [alike.header? unread.type, alike.body]

theorem request? (alike : Alike header r s) (unread : Unread header) (query : List (String × String))
    (id : String) (e : Endpoint) (method : String) :
    request? s query id e method = request? r query id e method := by
  unfold Gateway.request? patchRequest bodySchedule bodyValue
  rw [alike.bodyText unread]

theorem tenantOf? (alike : Alike header r s) (unread : Unread header) {g : Config.GatewaySection}
    {secret : String} (signed : g.jwtSecret = some secret) (validate : Validator) (now : Int) :
    tenantOf? validate g now s = tenantOf? validate g now r := by
  unfold Gateway.tenantOf? bearerToken?
  rw [signed, alike.header? unread.token]

theorem wholeMethod (alike : Alike header r s) : wholeMethod s = wholeMethod r := by
  unfold Gateway.wholeMethod
  rw [alike.method]

theorem answered (alike : Alike header r s) (a : Answer Json) : answered s a = answered r a := by
  unfold Gateway.answered sent
  rw [alike.method]

end Alike

section Errands
variable {header : String} {r s : HttpRequest} (c : Config)

theorem request?_place {place : List Char → Endpoint} (there : Place (some place)) (r : HttpRequest)
    (query : List (String × String)) (id : String) (project other : List Char) (method : String) :
    request? r query id (place other) method = request? r query id (place project) method := by
  cases there with
  | schedules =>
      unfold request?
      split <;> simp_all
  | schedule id =>
      unfold request?
      split <;> simp_all

theorem id?_place {place : List Char → Endpoint} (there : Place (some place)) {project other : List Char}
    (mine : IsProject project) (yours : IsProject other) : (place other).id? = (place project).id? := by
  obtain ⟨p, decoded⟩ := Option.isSome_iff_exists.1 mine.legible
  obtain ⟨q, alsoDecoded⟩ := Option.isSome_iff_exists.1 yours.legible
  cases there with
  | schedules => simp only [Endpoint.id?, decoded, alsoDecoded, Option.map_some]
  | schedule id => simp only [Endpoint.id?, decoded, alsoDecoded, Option.bind_some]

theorem Place.ne_health {place : List Char → Endpoint} (there : Place (some place)) (project : List Char) :
    place project ≠ .health := by
  cases there with
  | schedules => exact Endpoint.noConfusion
  | schedule id => exact Endpoint.noConfusion

theorem errandAt_same (alike : Alike header r s) (unread : Unread header) (query : List (String × String))
    {place : List Char → Endpoint} (there : Place (some place)) {project other : List Char}
    (mine : IsProject project) (yours : IsProject other) :
    errandAt c s query (place other) = errandAt c r query (place project) := by
  rw [errandAt_asked c s query (there.ne_health other), errandAt_asked c r query (there.ne_health project),
    alike.request? unread, alike.wholeMethod, id?_place there mine yours,
    request?_place there r query _ project other]

/-- What is made of a request to the schedules of a project, by where its address leads. -/
theorem errand_place (rest : String) : ∃ query place, Place place ∧ ∀ (r : HttpRequest) (project : List Char),
    IsProject project → r.address = scheduleAddress project rest →
      errand c r = if r.method = "OPTIONS" then .settled { status := 200 }
        else match place with
          | none => .settled { status := 404 }
          | some within => errandAt c r query (within project) := by
  obtain ⟨last, query, leads⟩ := ofText_scheduleAddress rest
  obtain ⟨place, known, found⟩ := ofSegments?_place last
  refine ⟨query, place, known, ?_⟩
  intro r project good here
  unfold errand
  rw [here, leads project good]
  dsimp only
  rw [found project good.named]
  cases place with
  | none => rfl
  | some within => rfl

/-- What is made of a request depends on no header but those that are read, and on no project. -/
theorem errand_same (alike : Alike header r s) (unread : Unread header) : errand c s = errand c r := by
  obtain ⟨project, other, rest, mine, yours, here, there⟩ := alike.address
  obtain ⟨query, place, known, leads⟩ := errand_place c rest
  rw [leads r project mine here, leads s other yours there, alike.method]
  cases place with
  | none => rfl
  | some within =>
      dsimp only
      rw [errandAt_same c alike unread query known mine yours]

/-- What the gateway settles by itself there are refusals. -/
theorem errand_settled (alike : Alike header r s) (method : r.method ≠ "OPTIONS") {response : HttpResponse}
    (settled : errand c r = .settled response) : 400 ≤ response.status := by
  obtain ⟨project, -, rest, mine, -, here, -⟩ := alike.address
  obtain ⟨query, place, known, leads⟩ := errand_place c rest
  rw [leads r project mine here, if_neg method] at settled
  cases place with
  | none =>
      cases settled
      decide
  | some within =>
      dsimp only at settled
      rw [errandAt_asked c r query (known.ne_health project)] at settled
      split at settled
      · cases settled
        decide
      · split at settled
        · cases settled
          decide
        · cases settled

end Errands

end Gateway
end Upkeep
