import BuyAnAnswer.Core.Text

/-!
# Chains and accounts

The escrow deployments that the app knows, and what a component sees of the
wallet: the account and the chain at its last render.
-/

namespace BuyAnAnswer.Web

structure EscrowDeployment where
  chainId : ℕ
  address : Option Text
  usdc : Text
  deriving DecidableEq, Repr

def BASE_SEPOLIA_CHAIN_ID : ℕ := 84532

def BASE_CHAIN_ID : ℕ := 8453

def BASE_SEPOLIA_USDC : Text := "0x036CbD53842c5426634e7929541eC2318f3dCF7e".toList

def BASE_USDC : Text := "0x833589fCD6eDb6E08f4c7C32D4f71b54bdA02913".toList

def escrowDeployments : List EscrowDeployment := [
  { chainId := BASE_SEPOLIA_CHAIN_ID
    address := "0x40A4bfEc9441752BcABBd4b3939503671c8724dB".toList
    usdc := BASE_SEPOLIA_USDC },
  { chainId := BASE_CHAIN_ID
    address := "0x04a814daa6421D5B0C7f3758476f0150D48198b6".toList
    usdc := BASE_USDC }]

def getEscrowDeployment (chainId : ℕ) : Option EscrowDeployment :=
  escrowDeployments.find? fun deployment => deployment.chainId = chainId

def escrowAddressFor (chainId : Option ℕ) : Option Text := do
  (← getEscrowDeployment (← chainId)).address

def usdcAddressFor (chainId : Option ℕ) : Option Text := do
  return (← getEscrowDeployment (← chainId)).usdc

def canAskOn (chainId : Option ℕ) : Bool :=
  (escrowAddressFor chainId).isSome && (usdcAddressFor chainId).isSome

/-- An escrow is deployed on one chain. -/
theorem escrowAddressFor_inj {left right : ℕ} {escrow : Text}
    (hleft : escrowAddressFor (some left) = some escrow)
    (hright : escrowAddressFor (some right) = some escrow) : left = right := by
  have hknown {chainId : ℕ} (hescrow : escrowAddressFor (some chainId) = some escrow) :
      chainId = BASE_SEPOLIA_CHAIN_ID ∨ chainId = BASE_CHAIN_ID := by
    cases hfound : getEscrowDeployment chainId with
    | none => simp [escrowAddressFor, hfound] at hescrow
    | some deployment =>
        have hmem := List.mem_of_find?_eq_some hfound
        have hfits := List.find?_some hfound
        have hchain := of_decide_eq_true hfits
        simp only [escrowDeployments, List.mem_cons, List.not_mem_nil, or_false] at hmem
        obtain rfl | rfl := hmem
        · exact .inl hchain.symm
        · exact .inr hchain.symm
  obtain rfl | rfl := hknown hleft
  · obtain rfl | rfl := hknown hright
    · rfl
    · exact absurd (hleft.trans hright.symm) (by decide)
  · obtain rfl | rfl := hknown hright
    · exact absurd (hleft.trans hright.symm) (by decide)
    · rfl

/-- What `useAccount` and `usePublicClient` give. -/
structure Account where
  address : Option Text
  chainId : Option ℕ
  publicClient : Bool
  deriving DecidableEq, Repr

/-- A failed call: whether the wallet reports that the user declined, and the
message the error is mapped to. -/
structure TxError where
  isUserRejection : Bool
  message : String
  deriving DecidableEq, Repr

end BuyAnAnswer.Web
