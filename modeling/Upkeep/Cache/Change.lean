/-! What happened to a resource of which a cache has to be told. -/
namespace Upkeep

inductive Change where
  | created
  | updated
  | deleted
  deriving DecidableEq

namespace Change

def all : List Change := [.created, .updated, .deleted]

def tag : Change → String
  | .created => "CREATED"
  | .updated => "UPDATED"
  | .deleted => "DELETED"

/-- A cache can hold no entry of a resource that is new. -/
def dropsEntry : Change → Bool
  | .created => false
  | .updated | .deleted => true

end Change

end Upkeep
