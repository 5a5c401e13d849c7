import Upkeep.Proofs.Gateway.Place
import Upkeep.Proofs.Json.Legible
import Upkeep.Proofs.Service.Watched

/-! Whose request it is. Where a secret is set, a request to the schedules is its token's tenant's.
What else it says of a tenant, in the header for that or by the project in its address, is not read; and
without a token that counts and names a tenant, nobody is called for it. -/
namespace Upkeep.Gateway
open Service (Contact Watched)

/-- What the gateway does in a deployment that is watched. -/
def watch (validate : Validator) (c : Config) (r : HttpRequest) (d : Deployment) :
    HttpResponse × Watched Deployment :=
  handleWith Deployment.watched d.now c validate r ⟨d, []⟩

variable {validate : Validator}

section Watch
variable {c : Config} {r : HttpRequest} {d : Deployment} {now : Nat}

theorem run_watched (tenant : Option String) (w : Watched Deployment) (e : Errand) :
    (run Deployment.watched now c tenant r w e).1 = (run Deployment.backend now c tenant r w.state e).1 ∧
      (run Deployment.watched now c tenant r w e).2.state =
        (run Deployment.backend now c tenant r w.state e).2 := by
  cases e with
  | settled response => exact ⟨rfl, rfl⟩
  | ask asked =>
      cases asked with
      | error e => exact ⟨rfl, rfl⟩
      | ok request =>
          obtain ⟨same, state⟩ :=
            Deployment.serve_watched (settingsOf c) (contextOf now c tenant) request w
          simp only [run, ask_ok, Action.result_map]
          rw [same, state]
          exact ⟨rfl, rfl⟩

theorem watch_eq (validate : Validator) (c : Config) (r : HttpRequest) (d : Deployment) :
    watch validate c r d =
      ((handleBy validate c r d).1, ⟨(handleBy validate c r d).2, (watch validate c r d).2.contacts⟩) := by
  have same : (watch validate c r d).1 = (handleBy validate c r d).1 ∧
      (watch validate c r d).2.state = (handleBy validate c r d).2 := by
    rw [handleBy_eq]
    unfold watch handleWith
    cases tenantOf? validate c.gateway (d.now / 1000 : Nat) r with
    | none => exact ⟨rfl, rfl⟩
    | some tenant => exact run_watched tenant ⟨d, []⟩ (errand c r)
  obtain ⟨response, state⟩ := same
  rw [← response, ← state]

theorem run_under (tenant : String) (e : Errand) :
    ∀ m ∈ (run Deployment.watched now c (some tenant) r ⟨d, []⟩ e).2.contacts, m.Under tenant := by
  have nothing : Deployment.Noted (Contact.Under tenant) ⟨d, []⟩ := fun _ none => nomatch none
  cases e with
  | settled response => exact nothing
  | ask asked =>
      cases asked with
      | error e => exact nothing
      | ok request =>
          have caller : (contextOf now c (some tenant)).tenant = some tenant := rfl
          have kept := Deployment.serve_under caller (settingsOf c) request ⟨d, []⟩ nothing
          simp only [run, ask_ok, Action.result_map]
          exact kept

theorem status_failed (e : Failure) : 400 ≤ (failureResponse e).status := by
  have codes : ∀ code : Code, 400 ≤ code.httpStatus := by
    intro code
    cases code <;> decide
  exact codes e.code

theorem status_sent (response : HttpResponse) : (sent r response).status = response.status := by
  unfold sent
  split
  · rfl
  · rfl

/-- Where the tenant is not known, nothing is done and nothing succeeds. -/
theorem run_nobody {σ : Type} (b : Backend σ) (s : σ) (asked : Answer Service.Request) :
    (run b now c none r s (.ask asked)).2 = s ∧ 400 ≤ (run b now c none r s (.ask asked)).1.status := by
  have refused (e : Failure) : 400 ≤ (answered r (.error e)).status :=
    (status_sent (failureResponse e)).symm ▸ status_failed e
  cases asked with
  | error e => exact ⟨rfl, refused e⟩
  | ok request =>
      obtain ⟨e, failed⟩ := Service.serve_nobody b (settingsOf c)
        (show (contextOf now c none).tenant = none from rfl) request s
      simp only [run, ask_ok, Action.result_map, failed]
      exact ⟨trivial, refused e⟩

theorem run_same {header : String} {s : HttpRequest} (alike : Alike header r s) {σ : Type} (b : Backend σ)
    (tenant : Option String) (t : σ) (e : Errand) : run b now c tenant s t e = run b now c tenant r t e := by
  cases e with
  | settled response => rfl
  | ask asked => simp only [run, alike.answered]

end Watch

/-- Whether a request has a token that counts and names the tenant. -/
def Credited (validate : Validator) (secret : String) (now : Int) (r : HttpRequest) (tenant : String) : Prop :=
  ∃ token claims, bearerToken? r = some token ∧ validate secret now token = some claims ∧
    claims.tenant = some tenant ∧ tenant ≠ ""

/-- With a secret, a tenant is known exactly if a token names it. -/
theorem tenantOf?_credited {g : Config.GatewaySection} {secret : String} (signed : g.jwtSecret = some secret)
    (now : Int) (r : HttpRequest) (tenant : String) :
    tenantOf? validate g now r = some (some tenant) ↔ Credited validate secret now r tenant := by
  unfold tenantOf? Credited
  rw [signed]
  dsimp only
  cases bearerToken? r with
  | none => simp
  | some token =>
      cases validate secret now token with
      | none => simp
      | some claims => simp [Option.filter_eq_some_iff]

/-- Where no token names a tenant, nobody is called and the answer is a refusal. -/
theorem handleWith_uncredited {σ : Type} (b : Backend σ) (now : Nat) {c : Config} {secret header : String}
    {r s : HttpRequest} (signed : c.gateway.jwtSecret = some secret) (alike : Alike header r s)
    (method : r.method ≠ "OPTIONS") (uncredited : ∀ tenant, ¬ Credited validate secret (now / 1000 : Nat) r tenant)
    (t : σ) : (handleWith b now c validate r t).2 = t ∧ 400 ≤ (handleWith b now c validate r t).1.status := by
  unfold handleWith
  rcases known : tenantOf? validate c.gateway (now / 1000 : Nat) r with _ | _ | tenant
  · exact ⟨rfl, show 400 ≤ refusal.status by decide⟩
  · dsimp only
    cases made : errand c r with
    | settled response => exact ⟨rfl, errand_settled c alike method made⟩
    | ask asked => exact run_nobody b t asked
  · exact absurd ((tenantOf?_credited signed _ r tenant).1 known) (uncredited tenant)

/-- With a secret set, and whichever tokens are believed, two requests to the schedules that differ only in
the header that could name a tenant and in the project of the address are answered alike and do alike. A
request whose token does not count, or names no tenant, fails before anyone is called; and all calls for any
other are under the tenant that its token names. -/
theorem tenant_of_token (validate : Validator) (c : Config) (d : Deployment) (secret : String) (r s : HttpRequest)
    (signed : c.gateway.jwtSecret = some secret) (unread : Unread c.gateway.tenantHeader)
    (alike : Alike c.gateway.tenantHeader r s) (method : r.method ≠ "OPTIONS") :
    let handled := handleBy validate c r d
    handleBy validate c s d = handled ∧
    ∃ contacts, watch validate c r d = (handled.1, ⟨handled.2, contacts⟩) ∧
      ((∀ tenant, ¬ Credited validate secret (d.now / 1000 : Nat) r tenant) →
        contacts = [] ∧ 400 ≤ handled.1.status) ∧
      ∀ tenant, Credited validate secret (d.now / 1000 : Nat) r tenant → ∀ m ∈ contacts, m.Under tenant := by
  refine ⟨?_, (watch validate c r d).2.contacts, watch_eq validate c r d, ?_, ?_⟩
  · rw [handleBy_eq, handleBy_eq]
    unfold handleWith
    rw [alike.tenantOf? unread signed, errand_same c alike unread]
    cases tenantOf? validate c.gateway (d.now / 1000 : Nat) r with
    | none => rfl
    | some tenant => exact run_same alike _ tenant d (errand c r)
  · intro uncredited
    rw [handleBy_eq]
    exact ⟨congrArg Watched.contacts (handleWith_uncredited _ _ signed alike method uncredited _).1,
      (handleWith_uncredited _ _ signed alike method uncredited d).2⟩
  · intro tenant credited
    unfold watch handleWith
    rw [(tenantOf?_credited signed _ r tenant).2 credited]
    exact run_under tenant (errand c r)

theorem isShowable_bearer {cs : List Char}
    (plain : ∀ c ∈ cs, (c == '\t' || (32 ≤ c.toNat && c.toNat < 127)) = true) :
    isShowable ("Bearer " ++ String.ofList cs) = true := by
  unfold isShowable
  rw [String.toList_append, @String.toList_ofList cs, List.all_append, List.all_eq_true.2 plain]
  rfl

/-- Three parts without full stops are what a token is split into. -/
theorem split_joined {header claims code : List Char} (plain : ∀ c ∈ header ++ (claims ++ code), c ≠ '.') :
    Token.split (String.ofList (header ++ '.' :: (claims ++ '.' :: code))) = some (header, claims, code) := by
  have apart {part : List Char} (within : ∀ c ∈ part, c ∈ header ++ (claims ++ code)) :
      ∀ c ∈ part, decide (c = '.') = false := fun c member => decide_eq_false (plain c (within c member))
  unfold Token.split
  rw [String.toList_ofList, Text.splitOn_part (apart (by simp +contextual)) rfl,
    Text.splitOn_part (apart (by simp +contextual)) rfl, Text.splitOn_plain (apart (by simp +contextual))]

theorem bearerToken?_header {r : HttpRequest} {token : String}
    (given : r.header? "authorization" = some ("Bearer " ++ token)) : bearerToken? r = some token := by
  have stem : bearerStem.isPrefixOf ("Bearer " ++ token).toList = true := by
    rw [String.toList_append]
    exact List.isPrefixOf_iff_prefix.2 (List.prefix_append _ _)
  unfold bearerToken?
  rw [given, Option.bind_some, if_pos stem, String.toList_append]
  exact congrArg some String.ofList_toList

/-- What a part of a token holds if it is in text form what was written. -/
theorem content?_written {cs : List Char} {bytes : List UInt8} {j : Json} (clean : j.Clean)
    (decoded : Base64.decode? cs = some bytes) (text : Utf8.decode? bytes = some j.write) :
    Token.content? cs = some j := by
  unfold Token.content?
  rw [decoded, Option.bind_some, text, Option.bind_some, Json.read_write clean.legible]

/-- What it takes for a token to be believed. -/
theorem validate_sealed {secret token : String} {now : Int} {header claims code : List Char} {method terms : Json}
    {c : Claims} (parts : Token.split token = some (header, claims, code))
    (sealed : Base64.decode? code = some (Token.sealOf secret (header ++ '.' :: claims)))
    (headed : Token.content? header = some method) (ours : Token.isOurHeader method = true)
    (held : Token.content? claims = some terms) (read : Claims.ofJson? terms = some c)
    (good : Token.inForce now terms c = true) : Token.validate secret now token = some c := by
  unfold Token.validate
  simp only [parts, sealed, headed, held, read, ours, good, Option.bind_eq_bind, Option.bind_some, and_self,
    if_true]

namespace Signed

/-- The parts of a token for the tenant `t1`, with a seal for the secret `k`. -/
def header : List Char := "eyJhbGciOiJIUzI1NiJ9".toList

def claims : List Char := "eyJzdWIiOiIiLCJleHAiOjAsImlhdCI6MCwidGVuYW50X2lkIjoidDEifQ".toList

def code : List Char := "fJvSByAkzt612KYnKXAPbTGy9o_8WMlBBA0uVrQI6W8".toList

def token : String := String.ofList (header ++ '.' :: (claims ++ '.' :: code))

def method : Json := .obj [("alg", .str "HS256")]

def terms : Claims where
  subject := ""
  expires := 0
  issued := 0
  tenant := some "t1"

theorem plain_token : ∀ c ∈ header ++ (claims ++ code), c ≠ '.' ∧ (c == '\t' || (32 ≤ c.toNat && c.toNat < 127)) = true := by
  have plain : (header ++ (claims ++ code)).all
      (fun c => decide (c ≠ '.' ∧ (c == '\t' || (32 ≤ c.toNat && c.toNat < 127)) = true)) = true := by decide +kernel
  simpa only [List.all_eq_true, decide_eq_true_eq] using plain

theorem split_token : Token.split token = some (header, claims, code) :=
  split_joined fun c member => (plain_token c member).1

theorem content_header : Token.content? header = some method := by
  have clean : method.Clean := by
    apply Json.Clean.obj
    simp [Json.Clean.str]
  have decoded : Base64.decode? header = some (Utf8.encode method.write) := by decide +kernel
  exact content?_written clean decoded (by decide +kernel)

theorem content_claims : Token.content? claims = some terms.json := by
  have zero : (Json.int 0).Clean := @Json.Clean.nat 0 (by decide)
  have clean : terms.json.Clean := by
    apply Json.Clean.obj
    simp [Json.Clean.str, zero, Json.ifSome, terms]
  have decoded : Base64.decode? claims = some (Utf8.encode terms.json.write) := by decide +kernel
  exact content?_written clean decoded (by decide +kernel)

theorem sealed : Base64.decode? code = some (Token.sealOf "k" (header ++ '.' :: claims)) := by
  decide +kernel

theorem validate_token : Token.validate "k" 0 token = some terms :=
  validate_sealed split_token sealed content_header (by decide +kernel) content_claims (by decide +kernel)
    (by decide +kernel)

/-- Schedules are asked for in a project, with the token and with a tenant in the header for that. -/
def asking (project tenant : String) : HttpRequest where
  address := scheduleAddress project.toList "?page_size=5"
  headers := [("Authorization", "Bearer " ++ token), ("ActiveProjectID", tenant)]

theorem bearerToken?_asking (project tenant : String) : bearerToken? (asking project tenant) = some token := by
  have same : Text.sameWord "Authorization" "authorization" = true := by decide
  have showable : isShowable ("Bearer " ++ token) = true := by
    apply isShowable_bearer
    intro c member
    obtain rfl | within : c = '.' ∨ c ∈ header ++ (claims ++ code) := by
      simpa [or_assoc, or_left_comm] using member
    · rfl
    · exact (plain_token c within).2
  apply bearerToken?_header
  simp [HttpRequest.header?, asking, same, Option.filter_some, showable]

theorem headersBut_asking (project tenant : String) :
    (asking project tenant).headersBut "ActiveProjectID" = [("Authorization", "Bearer " ++ token)] := by
  have other : Text.sameWord "Authorization" "ActiveProjectID" = false := by decide
  have same : Text.sameWord "ActiveProjectID" "ActiveProjectID" = true := by decide
  simp [HttpRequest.headersBut, asking, other, same]

theorem isProject_plain : IsProject "demo".toList := ⟨by decide, by simp, by decide +kernel⟩

theorem isProject_encoded : IsProject "%64%C3%A9".toList := ⟨by decide, by simp, by decide +kernel⟩

end Signed

/-- The tenant `t1` of the token is called for, whichever of the others the header names. -/
theorem tenant_of_token_signed :
    let c : Config := { gateway := { jwtSecret := some "k" } }
    let d : Deployment := { cache := .memory ⟨1000, 10⟩ {} }
    let r := Signed.asking "demo" "t2"
    let s := Signed.asking "%64%C3%A9" "t3"
    handle c s d = handle c r d ∧
      ∃ contacts, watch Token.validate c r d = ((handle c r d).1, ⟨(handle c r d).2, contacts⟩) ∧
        ∀ m ∈ contacts, m.Under "t1" := by
  intro c d r s
  have unread : Unread c.gateway.tenantHeader := ⟨by decide, by decide⟩
  have headers : s.headersBut c.gateway.tenantHeader = r.headersBut c.gateway.tenantHeader :=
    (Signed.headersBut_asking _ _).trans (Signed.headersBut_asking _ _).symm
  have alike : Alike c.gateway.tenantHeader r s :=
    ⟨rfl, rfl, headers, _, _, _, Signed.isProject_plain, Signed.isProject_encoded, rfl, rfl⟩
  have now : ((d.now / 1000 : Nat) : Int) = 0 := by decide
  have credited : Credited Token.validate "k" (d.now / 1000 : Nat) r "t1" := by
    rw [now]
    exact ⟨Signed.token, Signed.terms, Signed.bearerToken?_asking _ _, Signed.validate_token, rfl, by decide⟩
  have method : r.method ≠ "OPTIONS" := show "GET" ≠ "OPTIONS" by decide
  obtain ⟨same, contacts, watched, -, under⟩ := tenant_of_token Token.validate c d "k" r s rfl unread alike method
  exact ⟨same, contacts, watched, under "t1" credited⟩

end Upkeep.Gateway
