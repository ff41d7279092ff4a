import TokenAudit.Rule.Basic

/-!
# The built-in catalog

Ten rules for risky constructs in token contracts, in the order in which their findings are
reported. A phrase stays on its line unless white space in it may cross a line feed.
-/

set_option autoImplicit false

namespace TokenAudit

open Step

/-- Braces with anything but a closing brace or a line feed between them. -/
def braces : List Step :=
  word "\x7b" ++ [many (.except ['\x7d', '\n'])] ++ word "\x7d"

/-- Parentheses with anything but a closing one or a line feed between them. -/
def parentheses : List Step :=
  word "(" ++ [many (.except [')', '\n'])] ++ word ")"

/-- An external call that passes value or gas. -/
def spacedCall : List Step :=
  word "." ++ blanks ++ word "call" ++ blanks ++ braces ++ blanks ++ parentheses

/-- An amount set to zero, later on the line or after white space that leaves it. -/
def amountCleared : List Step :=
  sameLine ++ someBlanks ++ word "_amount" ++ blanks ++ word "=" ++ blanks ++ word "0"

/-- An external call written without white space. -/
def tightCall : List Step :=
  word ".call" ++ braces ++ parentheses

/-- A check that only the owner passes. -/
def ownerCheck : List Step :=
  word "require(" ++ blanks ++ word "msg.sender" ++ blanks ++ word "==" ++ blanks ++
    word "owner" ++ blanks ++ word ")"

/-- An address given by its forty hexadecimal digits. -/
def literalAddress : List Step :=
  word "address" ++ blanks ++ word "(" ++ blanks ++ word "0x" ++
    List.replicate 40 (one .hexDigit) ++ blanks ++ word ")"

/-- The built-in rules. -/
def builtinRules : List Rule :=
  [ { key := "reentrancy"
      probe := .pattern [{ body := spacedCall, guards := [amountCleared] }]
      severity := .high
      description := "Potential reentrancy vulnerability. External call is made before state " ++
        "variables are updated."
      solution := "Follow the checks-effects-interactions pattern: update state variables " ++
        "before making external calls." },
    { key := "tx_origin"
      probe := .pattern (.literal "tx.origin")
      severity := .high
      description := "Usage of tx.origin for authorization which is unsafe and vulnerable to " ++
        "phishing attacks."
      solution := "Use msg.sender instead of tx.origin for authorization." },
    { key := "unchecked_call_return"
      probe := .pattern [{
        body := tightCall
        guards := [sameLine ++ word "require(", word "." ++ blanks ++ word "transfer",
          word "." ++ blanks ++ word "send"] }]
      severity := .medium
      description := "Unchecked return value from low-level call. This could lead to silent " ++
        "failures."
      solution := "Always check the return value of low-level calls or use the SafeERC20 " ++
        "library." },
    { key := "owner_privileges"
      probe := .pattern (Pattern.anyWord ["onlyOwner", "Ownable"] ++ [.plain ownerCheck])
      severity := .medium
      description := "Owner has high privileges in the contract. This could be risky if the " ++
        "owner is malicious or compromised."
      solution := "Consider implementing a multi-signature mechanism for sensitive operations " ++
        "or removing/renouncing ownership." },
    { key := "transfer_ownership"
      probe := .pattern (.literal "transferOwnership")
      severity := .low
      description := "Contract allows ownership transfer which could be exploited if not " ++
        "properly secured."
      solution := "Ensure ownership transfers have proper security mechanisms like multi-sig or " ++
        "timelock delays." },
    { key := "hardcoded_address"
      probe := .pattern [.plain literalAddress]
      severity := .low
      description := "Hardcoded addresses in the contract can cause issues if those addresses " ++
        "need to change."
      solution := "Use state variables that can be updated by governance or admin functions " ++
        "instead of hardcoded addresses." },
    { key := "pausable_tokens"
      probe := .pattern (.anyWord ["pause", "pausable", "whenNotPaused"])
      severity := .medium
      description := "Contract includes functions to pause operations, giving owners " ++
        "significant control."
      solution := "If pausability is required, implement proper governance around the pause " ++
        "functionality." },
    { key := "blacklist_feature"
      probe := .pattern (.anyWord ["blacklist", "blocklist", "banned", "exclude"])
      severity := .medium
      description := "Contract has ability to blacklist/block addresses from transacting."
      solution := "Blacklist functionality should be transparent and ideally governed by " ++
        "community voting." },
    { key := "minting_function"
      probe := .pattern [
        { body := word "mint", guards := [sameLine ++ word "burn"] },
        .plain (word "function" ++ someBlanks ++ word "mint")]
      severity := .high
      description := "Contract can mint new tokens which may lead to supply inflation."
      solution := "Implement minting caps, timelock periods, or community governance for " ++
        "minting operations." },
    { key := "self_destruct"
      probe := .pattern (.anyWord ["selfdestruct", "suicide"])
      severity := .high
      description := "Contract can be self-destructed, which could lead to loss of funds and " ++
        "contract state."
      solution := "Remove self-destruct functionality or implement strong access controls and " ++
        "time delays." } ]

/-- The built-in catalog. -/
def builtinCatalog : Catalog :=
  { rules := builtinRules, distinct := by decide }

end TokenAudit
