import BuyAnAnswer.Platform.AnswerPage
import BuyAnAnswer.Web.Forms

/-!
# What the forms let through is taken

A form is filled in on a page that the API has rendered and sent to the same API, while
everyone else goes on.  What the form accepts is never refused as invalid, what it was
about is still there, and a profile that is opened for editing can be saved.
-/

namespace BuyAnAnswer.Platform

open Text Shared Indexer Api Web Workers BuyAnAnswer.Transaction

/-! ## Submissions -/

/-- A form with what it was rendered for and what was filled in. -/
inductive Submission where
  | ask (creator : PublicCreator) (draft : AskDraft) (balance : Option ℕ) (chainId : ℕ)
  | claim (draft : ClaimDraft)
  | save (draft : ProfileDraft)
  | answer (question : Question) (text : Text)
  | publish (question : Question)

namespace Submission

/-- The request that the form sends. -/
def Sends (runtime : Runtime) : Submission → Request → Prop
  | .ask creator draft balance chainId, .createQuestion _ body _ =>
    canAskOn (some chainId) = true ∧ ∃ input,
      AskComposer.onSubmit creator draft balance = .ok (some input) ∧
        input.amount < 10 ^ 39 ∧ body = .object (postQuestion input chainId)
  | .claim draft, .claim body =>
    ∃ fields, ClaimHandleForm draft = .ok fields ∧ body = .object fields
  | .save draft, .profile body => draft.Typed ∧ ∃ patch,
    draft.onSubmit runtime = .ok (some patch) ∧ body = .object (Web.putProfile patch)
  | .answer question text, .answer id body =>
    textError text = none ∧ Request.answer id body = saveDraft question.id text
  | .publish question, .publish id => id = question.id
  | _, _ => False

/-- The text that goes into the database. -/
def text : Submission → Text
  | .ask _ draft _ _ => trim draft.body
  | .claim draft => trim draft.displayName
  | .save draft => trim draft.displayName
  | .answer _ text => trim text
  | .publish _ => []

/-- What a submission can fail with: nobody is signed in, someone was faster, or the
creator asks for more than the amount, unless `cap` is a cap on the prices. -/
def Fails (cap : Text → ℕ) (context : RequestContext) (submission : Submission) :
    Failure → Prop
  | .api error =>
    (error.code = "unauthorized" ∧ context.wallet = none) ∨
    match submission with
    | .ask creator draft _ _ => error.code = "amount_below_min" ∧
      ∃ amount : ℕ, parseUsdc draft.amount = .ok (some (decimal amount)) ∧
        amount < cap creator.wallet
    | .claim _ => error.code = "handle_taken" ∨ error.code = "already_claimed"
    | .answer _ _ => error.code = "answer_locked"
    | .save _ | .publish _ => False
  | .validation _ => False
  | .rateLimited _ => True
  | .internal => True

end Submission

/-! ## What was shown -/

/-- What is still right of a response. -/
def Holds (runtime : Runtime) (cloud : Cloud) : Request → View → Prop
  | .board _, .board creator =>
    HANDLE_RE creator.handle = true ∧ IsPrice creator.minPriceUsdc ∧
      Tables.Owns cloud.database.toTables creator.wallet creator.handle
  | .me, .me wallet (some creator) =>
    Presentable runtime creator ∧
      Tables.Owns cloud.database.toTables wallet creator.handle
  | .claim _, .claimed creator => Presentable runtime creator
  | .profile _, .profile creator => Presentable runtime creator
  | .avatar _, .avatar _ creator => Presentable runtime creator
  | .detail _, .detail question _ => question.status ≠ .pendingPayment →
    ∃ row ∈ (cloud.record question.id).question, RowKept question row
  | _, _ => True

/-- No profile costs more than its cap. -/
def Capped (cap : Text → ℕ) (cloud : Cloud) : Prop :=
  ∀ row ∈ cloud.database.creators, digitsValue row.minPriceUsdc ≤ cap row.wallet

instance decidableCapped (cap : Text → ℕ) : DecidablePred (Capped cap) := fun cloud =>
  inferInstanceAs (Decidable (∀ row ∈ cloud.database.creators, _))

/-- What the forms rely on. -/
def formsProtocol (runtime : Runtime) (cap : Text → ℕ) : Protocol workers Cloud where
  Invariant := fun cloud => AllPresentable runtime cloud.database.toTables
  Rely := stayProtocol.Rely
  Allowed := fun _ => Capped cap
  refl := stayProtocol.refl
  trans := stayProtocol.trans

variable {network : Network} {runtime : Runtime} {cap : Text → ℕ}
variable {context : RequestContext} {request : Request} {cloud later : Cloud}
variable {wallet id : Text}

theorem Holds.stays {view : View} (hholds : Holds runtime cloud request view)
    (hlater : (formsProtocol runtime cap).Rely cloud later) :
    Holds runtime later request view := by
  unfold Holds at hholds ⊢
  split at hholds
  · exact ⟨hholds.1, hholds.2.1, hholds.2.2.stays hlater.1⟩
  · exact ⟨hholds.1, hholds.2.stays hlater.1⟩
  · exact hholds
  · exact hholds
  · exact hholds
  · intro hpaid
    obtain ⟨row, hrow, hkept⟩ := hholds hpaid
    obtain ⟨new, hnew, hnext⟩ := (hlater.2 _).question row hrow hkept.paid
    exact ⟨new, hnew, hkept.trans hnext⟩
  · exact trivial

section Handlers

variable {A : Type} {post : Except Failure A → Cloud → Prop}

/-- What is right of a successful outcome. -/
def Serves (runtime : Runtime) (request : Request) :
    Except Failure View → Cloud → Prop :=
  fun outcome cloud => ∀ view, outcome = .ok view → Holds runtime cloud request view

end Handlers

/-! ## What submissions fail with -/

section Submissions

variable {A : Type} {submission : Submission}

/-- The postcondition of a submission. -/
abbrev EndsWell (cap : Text → ℕ) (context : RequestContext) (submission : Submission)
    {A : Type} : Except Failure A → Cloud → Prop :=
  System.FailsOnly (submission.Fails cap context)

/-- What the page of a submission was rendered from is still right. -/
def Grounded (runtime : Runtime) (context : RequestContext) (cloud : Cloud) :
    Submission → Prop
  | .ask creator _ _ _ => Holds runtime cloud (.board []) (.board creator)
  | .claim _ => True
  | .save _ => ∃ handle, ∀ wallet ∈ context.wallet,
    Tables.Owns cloud.database.toTables wallet handle
  | .answer question _ => question.status = .open ∧
    context.wallet = some question.answererWallet ∧
      Holds runtime cloud (.detail []) (.detail question none)
  | .publish question => question.status = .answered ∧
    context.wallet = some question.answererWallet ∧
      Holds runtime cloud (.detail []) (.detail question none)

theorem Grounded.stays (hgrounded : Grounded runtime context cloud submission)
    (hlater : (formsProtocol runtime cap).Rely cloud later) :
    Grounded runtime context later submission := by
  cases submission with
  | ask creator draft balance chainId =>
      have hholds : Holds runtime cloud (.board []) (.board creator) := hgrounded
      exact hholds.stays hlater
  | claim => exact trivial
  | save =>
      obtain ⟨handle, howns⟩ := hgrounded
      exact ⟨handle, fun wallet hwallet => (howns wallet hwallet).stays hlater.1⟩
  | answer | publish =>
      exact ⟨hgrounded.1, hgrounded.2.1, Holds.stays hgrounded.2.2 hlater⟩

/-- The creator that was shown has a handle and a price. -/
def Submission.Genuine : Submission → Prop
  | .ask creator _ _ _ => HANDLE_RE creator.handle = true ∧ IsPrice creator.minPriceUsdc
  | _ => True

end Submissions

/-- The workers, with the forms that requests were sent by. -/
abbrev submitted (network : Network) (runtime : Runtime) :=
  (system network runtime).tagging (Option Submission)

abbrev FormPool :=
  System.TaggedPool workers Cloud (Option Submission) Label.Failure Label.Result

abbrev FormSchedule := Schedule (Label × Option Submission) NodeAnswer Event

/-- What a finished request tells of the forms. -/
def ToldForm (runtime : Runtime) (cap : Text → ℕ) :
    (label : Label × Option Submission) →
      Except label.1.Failure label.1.Result → Cloud → Prop
  | (.request context request, tag), .ok response, cloud =>
    Serves runtime request response.outcome cloud ∧
      ∀ submission ∈ tag, submission.Sends runtime request ∧ submission.Genuine ∧
        EndsWell cap context submission response.outcome cloud
  | _, _, _ => True

theorem ToldForm.stays {label : Label × Option Submission}
    {result : Except label.1.Failure label.1.Result}
    (htold : ToldForm runtime cap label result cloud)
    (hlater : (formsProtocol runtime cap).Rely cloud later) :
    ToldForm runtime cap label result later := by
  obtain ⟨label, tag⟩ := label
  cases label with
  | reconcile | sweep => exact trivial
  | request context request =>
      cases result with
      | error failure => exact trivial
      | ok response =>
          refine ⟨fun view hview => (htold.1 view hview).stays hlater, ?_⟩
          intro submission htag
          obtain ⟨hsends, hgenuine, hends⟩ := htold.2 submission htag
          refine ⟨hsends, hgenuine, ?_⟩
          cases houtcome : response.outcome with
          | ok view => exact trivial
          | error failure =>
              rw [houtcome] at hends
              exact hends

variable {pool : FormPool}

/-- The same, as a condition on the state alone. -/
def Sound (runtime : Runtime) (cap : Text → ℕ) (pool : FormPool) (action : FormSchedule) :
    Prop :=
  Capped cap pool.state ∧ ∀ context request submission,
    action = .launch (.request context request, some submission) →
      submission.Sends runtime request ∧ Grounded runtime context pool.state submission

namespace Sample

def askInput : AskInput where
  handle := "alice".toList
  body := "Why?".toList
  amount := 1000000
  answerer := Workers.Sample.creator.wallet

end Sample

end BuyAnAnswer.Platform
