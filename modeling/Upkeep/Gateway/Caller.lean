import Upkeep.Config.Basic
import Upkeep.Gateway.Exchange
import Upkeep.Sign.Token

/-! For whom a request is made. With a secret, the tenant is the one that a valid token names,
and headers count for nothing; without one, a header names the tenant. -/
namespace Upkeep.Gateway

def bearerStem : List Char := "Bearer ".toList

/-- The token that a request presents. -/
def bearerToken? (r : HttpRequest) : Option String :=
  (r.header? "authorization").bind fun h =>
    if bearerStem.isPrefixOf h.toList then some (String.ofList (h.toList.drop bearerStem.length))
    else none

/-- The tenant that a header names; one of blanks only names none. -/
def headerTenant? (name : String) (r : HttpRequest) : Option String :=
  ((r.header? name).map Text.trim).filter (· ≠ "")

/-- What a token claims, if it is to be believed with a secret at a time in seconds. -/
abbrev Validator := String → Int → String → Option Claims

/-- The tenant, if any; or nothing at all where a token is refused. -/
def tenantOf? (validate : Validator) (g : Config.GatewaySection) (now : Int) (r : HttpRequest) :
    Option (Option String) :=
  match g.jwtSecret with
  | none => some (headerTenant? g.tenantHeader r)
  | some secret =>
    match bearerToken? r with
    | none => some none
    | some token => (validate secret now token).map fun c => c.tenant.filter (· ≠ "")

def refusal : HttpResponse where
  status := 401
  body := some (.obj [("error", .str "invalid_token"),
    ("message", .str "JWT validation failed: the token does not count")])

end Upkeep.Gateway
