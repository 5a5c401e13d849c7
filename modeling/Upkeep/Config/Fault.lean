import Upkeep.Text.Decimal

/-! What can be wrong with settings. Every fault says how to mend it. -/
namespace Upkeep

inductive ConfigFault where
  | invalid (message hint : String)
  | incompatible (setting other reason : String)
  | missing (setting purpose source : String)
  | connectionFailed (service endpoint error advice : String)
  | multiple (faults : List ConfigFault)

namespace ConfigFault

mutual

def message : ConfigFault → String
  | .invalid message hint => "Invalid configuration: " ++ message ++ "\n\nHow to fix: " ++ hint
  | .incompatible setting other reason =>
    "Incompatible settings: " ++ setting ++ " cannot be used with " ++ other ++
      "\n\nReason: " ++ reason
  | .missing setting purpose source =>
    "Missing required configuration: " ++ setting ++ "\n\nRequired for: " ++ purpose ++
      "\nSet via: " ++ source
  | .connectionFailed service endpoint error advice =>
    "Connection failed: " ++ service ++ "\n\nEndpoint: " ++ endpoint ++ "\nError: " ++ error ++
      "\n\nCheck: " ++ advice
  | .multiple faults => "Multiple configuration errors:\n" ++ numbered 1 faults

/-- Faults one by one, numbered from `n`. -/
def numbered (n : Nat) : List ConfigFault → String
  | [] => ""
  | f :: fs => "\n" ++ Decimal.text n ++ ". " ++ f.message ++ "\n" ++ numbered (n + 1) fs

end

/-- The faults that one fault stands for. -/
def parts : ConfigFault → List ConfigFault
  | .multiple faults => faults
  | f => [f]

def count (f : ConfigFault) : Nat := f.parts.length

/-- One fault for a list of them, if there are any. -/
def collect : List ConfigFault → Option ConfigFault
  | [] => none
  | [f] => some f
  | fs => some (.multiple fs)

end ConfigFault

end Upkeep
