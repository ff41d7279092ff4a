import TokenAudit.Pattern.Basic

/-!
# Privileged roles

A capability is the owner's when its name and the owner's gate share a line, in either order. Each
capability has a fixed description, and the descriptions are listed in a fixed order.
-/

set_option autoImplicit false

namespace TokenAudit

/-- A capability that a contract may keep for its owner, and how it is described. -/
structure Capability where
  name : String
  description : String
  deriving DecidableEq

/-- The capabilities that are looked for, in the order in which they are described. -/
def capabilities : List Capability :=
  [ ⟨"mint", "Owner can mint new tokens"⟩,
    ⟨"pause", "Owner can pause trading"⟩,
    ⟨"excludeFromFee", "Owner can exclude addresses from fees"⟩,
    ⟨"setFee", "Owner can modify fees"⟩,
    ⟨"withdraw", "Owner can withdraw funds"⟩,
    ⟨"blacklist", "Owner can blacklist addresses"⟩,
    ⟨"maxTx", "Owner can set maximum transaction amount"⟩ ]

/-- The gate that lets only the owner pass. -/
def ownerGate : String := "onlyOwner"

/-- Capability and gate on one line, in either order. -/
def Capability.ownerGated (c : Capability) : Pattern :=
  [ .plain (Step.word c.name ++ Step.sameLine ++ Step.word ownerGate),
    .plain (Step.word ownerGate ++ Step.sameLine ++ Step.word c.name) ]

/-- The descriptions of what the owner can do. -/
def privilegedRoles (text : List Char) : List String :=
  (capabilities.filter fun c => c.ownerGated.occursIn text).map (·.description)

end TokenAudit
