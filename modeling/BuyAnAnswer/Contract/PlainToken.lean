import BuyAnAnswer.Contract.Execution

/-!
# A token that behaves as documented

Balances and allowances, with transfers that move exactly the requested amount
or revert.  It shows that the standard-token hypothesis can be met, and an
escrow deployed with it serves as the concrete case of the results below.
-/

namespace BuyAnAnswer.Contract

structure PlainToken where
  balance : Address → Uint 256
  allowance : Address → Address → Uint 256

namespace PlainToken

/-- Debit the source, then credit the destination. -/
def move (source destination : Address) (amount : Uint 256)
    (storage : PlainToken) : Except Error PlainToken :=
  match checkedSub (storage.balance source) amount with
  | .error _ => .error .tokenFailure
  | .ok rest =>
    let debited := Function.update storage.balance source rest
    match checkedAdd (debited destination) amount with
    | .error _ => .error .tokenFailure
    | .ok sum =>
      .ok { storage with balance := Function.update debited destination sum }

/-- Spend an allowance, then move. -/
def spend (spender source destination : Address) (amount : Uint 256)
    (storage : PlainToken) : Except Error PlainToken :=
  match checkedSub (storage.allowance source spender) amount with
  | .error _ => .error .tokenFailure
  | .ok rest =>
    let granted := Function.update (storage.allowance source) spender rest
    move source destination amount { storage with
      allowance := Function.update storage.allowance source granted }

theorem move_ok {source destination : Address} {amount : Uint 256}
    {storage after : PlainToken}
    (hmove : move source destination amount storage = .ok after) :
    Moved storage.balance after.balance source destination amount := by
  rw [move] at hmove
  cases hdebit : checkedSub (storage.balance source) amount with
  | error failure =>
      rw [hdebit] at hmove
      cases hmove
  | ok rest =>
      rw [hdebit] at hmove
      simp only at hmove
      have hrest := checkedSub_eq_ok.mp hdebit
      cases hcredit : checkedAdd
          (Function.update storage.balance source rest destination) amount with
      | error failure =>
          rw [hcredit] at hmove
          cases hmove
      | ok sum =>
          rw [hcredit] at hmove
          cases hmove
          have hsum := checkedAdd_eq_ok.mp hcredit
          refine ⟨Fin.le_def.mpr (by omega), ?_⟩
          intro account
          dsimp only
          by_cases hdestination : account = destination
          · subst hdestination
            rw [Function.update_self, hsum, if_pos rfl]
            by_cases hsource : account = source
            · subst hsource
              rw [Function.update_self, if_pos rfl]
              omega
            · rw [Function.update_of_ne hsource, if_neg hsource, add_zero]
          · rw [Function.update_of_ne hdestination, if_neg hdestination]
            by_cases hsource : account = source
            · subst hsource
              rw [Function.update_self, if_pos rfl]
              omega
            · rw [Function.update_of_ne hsource, if_neg hsource]

theorem spend_ok {spender source destination : Address} {amount : Uint 256}
    {storage after : PlainToken}
    (hspend : spend spender source destination amount storage = .ok after) :
    Moved storage.balance after.balance source destination amount := by
  rw [spend] at hspend
  cases hallowance : checkedSub (storage.allowance source spender) amount with
  | error failure =>
      rw [hallowance] at hspend
      cases hspend
  | ok rest =>
      rw [hallowance] at hspend
      simp only at hspend
      have hmoved := move_ok hspend
      exact hmoved

end PlainToken

/-- The plain token; it accepts no permit signature. -/
def ERC20.plain : ERC20 where
  Storage := PlainToken
  balanceOf storage account := storage.balance account
  transfer sender destination amount storage :=
    storage.move sender destination amount
  transferFrom sender source destination amount storage :=
    storage.spend sender source destination amount
  permit _ _ _ _ _ _ _ _ _ := .error .tokenFailure

theorem ERC20.plain_standard : ERC20.plain.Standard where
  transfer_ok htransfer := PlainToken.move_ok htransfer
  transferFrom_ok htransfer := PlainToken.spend_ok htransfer
  permit_ok hpermit := by cases hpermit

/-! ## A deployment -/

namespace Sample

/-- Address of the deployed escrow. -/
def escrow : Address := 100

def owner : Account escrow := ⟨1, by decide⟩

def asker : Account escrow := ⟨3, by decide⟩

def answerer : Account escrow := ⟨4, by decide⟩

def args : ConstructorArgs :=
  { usdc := 99, owner := owner.1, feeAddress := 2, answerFeeBps := 420,
    cancelFeeBps := 100, answerWindow := 604800 }

/-- The asker holds 1000 units and has approved the escrow for all of them. -/
def token : PlainToken where
  balance := Function.update (fun _ => 0) asker.1 1000
  allowance :=
    Function.update (fun _ _ => 0) asker.1
      (Function.update (fun _ => 0) escrow 1000)

def storage : Storage .plain where
  feeAddress := 2
  answerWindow := 604800
  answerFeeBps := 420
  cancelFeeBps := 100
  nextId := 1
  questions := fun _ => .unwritten
  questionRef := fun _ => 0
  withdrawable := fun _ => 0
  ownable := (owner.1, 0)
  pausable := false
  lock := false

theorem construct_args : construct .plain args = .ok storage := rfl

def deployed : System .plain .plain where
  world := { escrow := storage, token, log := [] }
  now := 0
  sentIn := 0

theorem deploy_args : deploy .plain escrow args token 0 = .ok deployed := rfl

/-- One question for 500 units, asked 10 seconds after deployment. -/
def ask : Action .plain escrow :=
  .call asker 10 (.askQuestion 7 answerer.1 500)

/-- The system with that question open. -/
def asked : System .plain .plain := deployed.run .plain escrow [ask]

theorem asked_reachable : Reachable .plain escrow asked :=
  ⟨args, token, 0, deployed, [ask], deploy_args, rfl⟩

/-- The same question answered 10 seconds later. -/
def answer : Action .plain escrow :=
  .call answerer 10 (.answerQuestion 1)

def answered : System .plain .plain := deployed.run .plain escrow [ask, answer]

theorem answered_reachable : Reachable .plain escrow answered :=
  ⟨args, token, 0, deployed, [ask, answer], deploy_args, rfl⟩

example : answered.world.escrow.withdrawable answerer.1 = 479 ∧
    answered.world.escrow.withdrawable 2 = 21 := by decide

end Sample

end BuyAnAnswer.Contract
