import Upkeep.Json.Basic
import Upkeep.Text.Blank

/-! What a gateway gets and gives. -/
namespace Upkeep.Gateway

structure HttpRequest where
  method : String := "GET"
  address : String := ""
  headers : List (String × String) := []
  body : Option String := none

structure HttpResponse where
  status : Nat
  body : Option Json := none

/-- A header that can be shown has ASCII characters and tabs only. -/
def isShowable (s : String) : Bool :=
  s.toList.all fun c => c == '\t' || (32 ≤ c.toNat && c.toNat < 127)

/-- The first header of a name, in whatever case, if it can be shown. -/
def HttpRequest.header? (r : HttpRequest) (name : String) : Option String :=
  ((r.headers.find? fun h => Text.sameWord h.1 name).map (·.2)).filter isShowable

end Upkeep.Gateway
