import Upkeep.Json.Reader
import Upkeep.Json.Record
import Upkeep.Json.Writer
import Upkeep.Sign.Base64
import Upkeep.Sign.Sha256
import Upkeep.Text.Blank

/-! Signed tokens. A token is a header, claims and a seal over both, each in text form and
joined by full stops. It is believed if its seal is right for the secret, it names the one
method of sealing that we use, and it has not been out of date for more than a minute. -/
namespace Upkeep

structure Claims where
  subject : String
  /-- Seconds since the start of 1970. -/
  expires : Int
  issued : Int
  tenant : Option String := none
  deriving DecidableEq

namespace Claims

def json (c : Claims) : Json :=
  .obj ([("sub", .str c.subject), ("exp", .int c.expires), ("iat", .int c.issued)] ++
    Json.ifSome "tenant_id" Json.str c.tenant)

def int64? : Json → Option Int := Json.intWithin? (-twoTo 63) (twoTo 63 - 1)

/-- Only the tenant may be left out. -/
def ofJson? (j : Json) : Option Claims := do
  let fs ← Json.fields ["sub", "exp", "iat", "tenant_id"] j
  return {
    subject := ← (Table.look "sub" fs).bind Json.text?
    expires := ← (Table.look "exp" fs).bind int64?
    issued := ← (Table.look "iat" fs).bind int64?
    tenant := ← Reader.fieldOr (Json.optional? Json.text?) none fs "tenant_id" }

end Claims

namespace Token

/-- How long after its end a token is still believed, in seconds. -/
def grace : Int := 60

def header : Json := .obj [("typ", .str "JWT"), ("alg", .str "HS256")]

def part (j : Json) : List Char := Base64.encode (Utf8.encode j.write)

def sealOf (secret : String) (message : List Char) : List UInt8 :=
  Sha256.keyed (Utf8.encode secret) (Utf8.encode (String.ofList message))

/-- A token for the claims. -/
def issue (secret : String) (c : Claims) : String :=
  let message := part header ++ '.' :: part c.json
  String.ofList (message ++ '.' :: Base64.encode (sealOf secret message))

/-- The JSON tree that a part of a token holds. -/
def content? (cs : List Char) : Option Json :=
  ((Base64.decode? cs).bind Utf8.decode?).bind Json.read

/-- A header must name our method; of the fields that it may hold besides, most are texts. -/
def headerTexts : List String := ["typ", "cty", "jku", "kid", "x5u", "x5t", "x5t#S256"]

def isOurHeader (j : Json) : Bool :=
  match j with
  | .obj _ => ((do
    let fs ← Json.fields ("alg" :: headerTexts) j
    let method ← (Table.look "alg" fs).bind (Json.choice? ["HS256"] id)
    let _ ← headerTexts.mapM (Reader.fieldOr (Json.optional? Json.text?) none fs)
    return method : Option String)).isSome
  | _ => false

/-- Whether the claims name others for whom the token was made. -/
def namesAudience (j : Json) : Bool :=
  match j.field? "aud" with
  | some (.str _) => true
  | some (.arr (j :: js)) => (Json.list? Json.text? (.arr (j :: js))).isSome
  | _ => false

/-- The fields that say whether a token counts; they have names, and none stands twice. -/
def plainTerms (j : Json) : Bool :=
  match j with
  | .obj _ => (Json.fields ["exp", "nbf", "sub", "iss", "aud"] j).isSome
  | _ => false

/-- Claims count until their end and a little longer, and only if they are made for us. -/
def inForce (now : Int) (j : Json) (c : Claims) : Bool :=
  plainTerms j && !namesAudience j && 0 ≤ c.expires && now ≤ c.expires + grace

/-- The parts of a token: header, claims, seal. -/
def split (token : String) : Option (List Char × List Char × List Char) :=
  match Text.splitOn (· = '.') token.toList with
  | [header, claims, code] => some (header, claims, code)
  | _ => none

/-- The claims of a token that is to be believed at a time in seconds. -/
def validate (secret : String) (now : Int) (token : String) : Option Claims := do
  let (header, claims, code) ← split token
  let code ← Base64.decode? code
  let header' ← content? header
  let j ← content? claims
  let c ← Claims.ofJson? j
  if isOurHeader header' ∧ code = sealOf secret (header ++ '.' :: claims) ∧ inForce now j c then
    some c
  else none

end Token

end Upkeep
