import BuyAnAnswer.Core.Tags
import BuyAnAnswer.Web.Status
import BuyAnAnswer.Workers.Outcomes

/-!
# Answers are saved before they are sold

The page of an open question saves the answer through the API before it asks the wallet
to settle, while the workers serve everyone else.  So whoever settles on this page has
an answer on file, and whoever paid for it is shown one.
-/

namespace BuyAnAnswer.Web

open Text Shared

/-! ## Runs that wait for their save -/

/-- The run has its preflight behind it. -/
def SettleStage.prepared : SettleStage → Bool
  | .preflight => false
  | .finished => false
  | _ => true

namespace SettleHook

/-- The wallet was asked to settle the question: it has sent a transaction, or it has
the request before it. -/
def Asked (hook : SettleHook) (id : Text) : Prop :=
  (∃ transaction ∈ hook.transactions, transaction.questionId = id) ∨
    ∃ run ∈ hook.runs, run.input.questionId = id ∧ ∃ chainId, run.stage = .sending chainId

variable {hook : SettleHook} {index : ℕ} {run : SettleRun} {kind : SettleKind}

/-- The preflight is over with its reply only. -/
theorem resume_prepared {reply : SettleReply} :
    (hook.resume index run kind reply).runs = hook.runs ∨
      ∃ stage, (hook.resume index run kind reply).runs =
        hook.runs.set index { run with stage } ∧
          (stage.prepared = true →
            run.stage.prepared = true ∨ run.stage = .preflight ∧ reply = .done) := by
  obtain ⟨⟨_, hruns | ⟨stage, hruns⟩⟩, _⟩ := @resume_spec hook index run kind reply
  · exact .inl hruns
  · cases hprepared : run.stage.prepared with
    | true => exact .inr ⟨stage, hruns, fun _ => .inl rfl⟩
    | false =>
        cases hstage : run.stage with
        | preflight =>
            cases reply with
            | done => exact .inr ⟨stage, hruns, fun _ => .inr ⟨rfl, rfl⟩⟩
            | failed error =>
                right
                refine ⟨.finished, ?_, fun hfinished => by cases hfinished⟩
                unfold resume
                simp only [hstage]
                split
                · rfl
                · simp [wait]
            | lost error =>
                left
                unfold resume
                simp only [hstage]
            | status status =>
                left
                unfold resume
                simp only [hstage]
        | finished =>
            left
            unfold resume
            simp only [hstage]
        | simulating | sending | receipt | polling | sleeping =>
            rw [hstage] at hprepared
            cases hprepared

/-- A run with a preflight starts with it. -/
theorem execute_preflight {input : SettleRunInput} (hpreflight : input.preflight = true) :
    (hook.execute input).runs = hook.runs ∨ ∃ started : SettleRun,
      started.input = input ∧ started.stage = .preflight ∧
        (hook.execute input).runs = hook.runs ++ [started] := by
  unfold execute
  dsimp only
  split
  · exact .inl runs_show
  · next address _ =>
    split
    · exact .inl runs_show
    · next chainId _ =>
      split
      · exact .inl runs_show
      · split
        · next escrow hescrow _ =>
          let started : SettleRun := {
            token := hook.runToken, input, address, chainId, escrow, stage := .preflight }
          refine .inr ⟨started, rfl, rfl, ?_⟩
          rw [Component.runs_spawn, runs_show]
        · exact .inl runs_show

end SettleHook

end BuyAnAnswer.Web

namespace BuyAnAnswer.Platform

open Text Shared Indexer Api Web Workers BuyAnAnswer.Transaction

/-! ## Rows that were paid for -/

/-- The question is paid for. -/
def Paid (id : Text) (cloud : Cloud) : Prop :=
  ∃ row ∈ (cloud.record id).question, row.status ≠ .pendingPayment

/-- The question is paid for and has an answer on file. -/
def Saved (id : Text) (cloud : Cloud) : Prop :=
  ∃ row ∈ (cloud.record id).question, row.status ≠ .pendingPayment ∧
    (cloud.record id).answer.isSome = true

/-- Nobody removes what was paid for. -/
def paidProtocol : Protocol workers Cloud where
  Invariant := fun _ => True
  Rely := fun before after => ∀ id, Persists False (before.record id) (after.record id)
  refl := fun _ _ => Persists.refl _
  trans := fun hfirst hsecond id => (hfirst id).trans (hsecond id)

variable {network : Network} {runtime : Runtime} {id : Text} {cloud later : Cloud}

theorem Paid.stays (hpaid : Paid id cloud) (hlater : paidProtocol.Rely cloud later) :
    Paid id later := by
  obtain ⟨row, hrow, hstatus⟩ := hpaid
  obtain ⟨new, hnew, hkept⟩ := (hlater id).question row hrow hstatus
  exact ⟨new, hnew, hkept.paid⟩

theorem Saved.stays (hsaved : Saved id cloud) (hlater : paidProtocol.Rely cloud later) :
    Saved id later := by
  obtain ⟨row, hrow, hstatus, hsome⟩ := hsaved
  obtain ⟨answer, hanswer⟩ := Option.isSome_iff_exists.mp hsome
  obtain ⟨new, hnew, hkept⟩ := (hlater id).question row hrow hstatus
  obtain ⟨current, hcurrent, _⟩ := (hlater id).answer row hrow hstatus answer hanswer
  exact ⟨new, hnew, hkept.paid, Option.isSome_of_mem hcurrent⟩

theorem keeps_paid (operation : Operation) : Keeps network paidProtocol operation :=
  fun _ _ _ _ _ _ hexec => ⟨trivial, exec_persists hexec⟩

/-! ## What the page hears from the API -/

/-- What a finished request tells: an open question was paid for, and a save that was
requested for a run is on file. -/
def ToldPage : (label : Label × Option ℕ) →
    Except label.1.Failure label.1.Result → Cloud → Prop
  | (.request _ (.detail _), _), .ok response, cloud =>
    ∀ question answer, response.outcome = .ok (.detail question answer) →
      question.status ≠ .pendingPayment → Paid question.id cloud
  | (.request _ (.answer id _), some _), .ok response, cloud =>
    ∀ view, response.outcome = .ok view → Saved id cloud
  | _, _, _ => True

theorem wp_getQuestion_paid {wallet : Text} :
    (system network runtime).wp paidProtocol
      (fun outcome now => ∀ question answer, outcome = .ok (.detail question answer) →
        question.status ≠ .pendingPayment → Paid question.id now)
      (getQuestion wallet id) cloud := by
  refine wp_sql_keeps (keeps_paid _) ?_ ?_
  · rintro _ _ _ _ _ _ _ _ _ ⟨⟩
  · intro found _ first second _ hfound _ _
    obtain ⟨rfl, hsame, _⟩ := exec_read (fun _ => rfl) hfound
    simp only [Statement.reply]
    cases hrow : Table.lookup Question.id first.database.questions id with
    | none => rintro _ _ _ _ _ ⟨⟩
    | some row =>
        simp only
        split
        · rintro _ _ _ _ _ ⟨⟩
        · refine wp_sql_keeps (keeps_paid _) ?_ ?_
          · rintro _ _ _ _ _ _ _ _ _ ⟨⟩
          · intro answer _ third fourth hsecond _ hthird _
            rintro last hlast _ question view ⟨⟩ hstatus
            have hrecord : row ∈ (second.record row.id).question := by
              rw [hsame, Table.lookup_key hrow]
              exact hrow
            have hpaid : Paid row.id second := ⟨row, hrecord, hstatus⟩
            exact ((hpaid.stays hsecond).stays hthird).stays hlast

/-- The answer to a question that is paid for is on file once it is saved. -/
theorem wp_postAnswer_saved {wallet : Text} {fields : RequestBody AnswerFields} {now : ℕ}
    (hpaid : Paid id cloud) :
    (system network runtime).wp paidProtocol
      (fun outcome later => ∀ view, outcome = .ok view → Saved id later)
      (postAnswer wallet id fields now) cloud := by
  rw [postAnswer]
  cases parseBody answerBody fields with
  | error failure => rintro _ _ _ _ ⟨⟩
  | ok body =>
      refine wp_sql_keeps (keeps_paid _) ?_ ?_
      · rintro _ _ _ _ _ _ _ _ ⟨⟩
      · intro found _ first second hfirst hfound hsecond _
        obtain ⟨rfl, _, _⟩ := exec_read (fun _ => rfl) hfound
        cases Statement.reply (.questionById id) first.database.toTables with
        | none => rintro _ _ _ _ ⟨⟩
        | some row =>
            simp only
            split
            · split <;> rintro _ _ _ _ ⟨⟩
            · split
              · rintro _ _ _ _ ⟨⟩
              · refine wp_sql_keeps (keeps_paid _) ?_ ?_
                · rintro _ _ _ _ _ _ _ _ ⟨⟩
                · intro saved _ third fourth hthird hsave hfourth _
                  have hstill := (((hpaid.stays hfirst).stays hsecond).stays hthird).stays
                    hfourth
                  rintro last hlast _ view ⟨⟩
                  apply Saved.stays _ hlast
                  obtain ⟨current, hcurrent, hstatus⟩ := hstill
                  refine ⟨current, hcurrent, hstatus, ?_⟩
                  obtain ⟨_, htables, _⟩ | ⟨hfailed, _⟩ := exec_database hsave
                  · rw [Cloud.record, htables,
                      Statement.recordOf_effect third.database.consistent,
                      Statement.onRecord, if_pos rfl]
                    rfl
                  · cases hfailed

theorem wp_page (label : Label × Option ℕ)
    (hlaunch : ∀ context id fields token,
      label = (.request context (.answer id fields), some token) → Paid id cloud) :
    (system network runtime).wp paidProtocol (ToldPage label)
      ((system network runtime).program label.1) cloud := by
  obtain ⟨label, tag⟩ := label
  have hquiet : (system network runtime).wp paidProtocol (fun _ _ => True)
      ((system network runtime).program label) cloud :=
    wp_of_keeps (program_uses network runtime label) fun operation _ => keeps_paid operation
  cases label with
  | reconcile | sweep => exact System.wp_mono hquiet fun _ _ _ _ _ => trivial
  | request context request =>
      cases request with
      | detail id =>
          have hstays : ∀ (result : Except Empty Response) before later,
              ToldPage (.request context (.detail id), tag) result before →
                paidProtocol.Rely before later →
                  ToldPage (.request context (.detail id), tag) result later := by
            intro result before later htold hlater
            cases result with
            | error failure => exact trivial
            | ok response =>
                intro question answer hdetail hstatus
                exact (htold question answer hdetail hstatus).stays hlater
          change (system network runtime).wp paidProtocol _
            (respond none (requireAuth context >>= fun wallet => getQuestion wallet id)) cloud
          apply wp_respond_stays hstays trivial
          rw [requireAuth]
          cases context.wallet with
          | none => rintro _ _ _ _ _ ⟨⟩
          | some wallet => exact wp_getQuestion_paid
      | answer id fields =>
          cases tag with
          | none => exact System.wp_mono hquiet fun _ _ _ _ _ => trivial
          | some token =>
              have hpaid := hlaunch context id fields token rfl
              have hstays : ∀ (result : Except Empty Response) before later,
                  ToldPage (.request context (.answer id fields), some token) result before →
                    paidProtocol.Rely before later →
                      ToldPage (.request context (.answer id fields), some token) result
                        later := by
                intro result before later htold hlater
                cases result with
                | error failure => exact trivial
                | ok response => exact fun view hview => (htold view hview).stays hlater
              change (system network runtime).wp paidProtocol _
                (ipLimit LIMITS.answerSave context (requireAuth context >>= fun wallet =>
                  postAnswer wallet id fields context.now)) cloud
              refine wp_ipLimit_stays hstays trivial (fun _ _ => keeps_paid _) ?_ ?_
              · rintro _ _ _ _ ⟨⟩
              · intro _ later hlater _
                rw [requireAuth]
                cases context.wallet with
                | none => rintro _ _ _ _ ⟨⟩
                | some wallet => exact wp_postAnswer_saved (hpaid.stays hlater)
      | _ => exact System.wp_mono hquiet fun _ _ _ _ _ => trivial

/-! ## The page and the workers -/

/-- The workers, with the tokens of the runs that a request is made for. -/
abbrev tagged (network : Network) (runtime : Runtime) :=
  (system network runtime).tagging (Option ℕ)

abbrev PagePool := System.TaggedPool workers Cloud (Option ℕ) Label.Failure Label.Result

abbrev PageSchedule := Schedule (Label × Option ℕ) NodeAnswer Event

/-- An answer page beside the workers. -/
structure AnswerPage where
  hook : SettleHook
  pool : PagePool

inductive PageStep where
  | page (step : SettleStep)
  | workers (action : PageSchedule)

/-- The request of `saveDraft`. -/
def saveDraft (id text : Text) : Request :=
  .answer id (.object { body := some (.string (trim text)) })

namespace AnswerPage

def step (network : Network) (runtime : Runtime) (page : AnswerPage) :
    PageStep → AnswerPage
  | .page action => { page with hook := page.hook.step .answer action }
  | .workers action => { page with pool := (tagged network runtime).step page.pool action }

/-- The page before anything happens. -/
def opened (account : Account) (cloud : Cloud) : AnswerPage where
  hook := .idle account
  pool := { state := (idle cloud).state, threads := [] }

/-- A request has been answered. -/
def Answered (page : AnswerPage) (context : RequestContext) (request : Request)
    (tag : Option ℕ) (view : View) : Prop :=
  ∃ response : Response, response.outcome = .ok view ∧
    (⟨(.request context request, tag), .ret response⟩ : Thread workers
      (fun label : Label × Option ℕ => label.1.Failure) fun label => label.1.Result) ∈
        page.pool.threads

/-- What the browser does: a run starts with what the page offers for a question that
was read from the API; its preflight saves the answer and ends with the save. -/
def Browses (page : AnswerPage) : PageStep → Prop
  | .page (.run input) => ∃ context id tag question answer sessionWallet text nowMs phases,
    page.Answered context (.detail id) tag (.detail question answer) ∧
      (.answer, input) ∈
        QuestionDetail sessionWallet question page.hook.account text nowMs phases
  | .page (.resume index .done) => ∀ run ∈ page.hook.runs[index]?,
    run.stage = .preflight → ∃ context text view,
      page.Answered context (saveDraft run.input.questionId text) (some run.token) view
  | .workers (.launch (label, some token)) => ∃ run ∈ page.hook.runs, run.token = token ∧
    ∃ context text, label = .request context (saveDraft run.input.questionId text)
  | _ => True

/-- The questions of the runs are paid for, and those that the wallet was asked about
have an answer on file. -/
structure Ordered (network : Network) (runtime : Runtime) (page : AnswerPage) : Prop where
  pool : (tagged network runtime).Orderly paidProtocol ToldPage page.pool
  runs : page.hook.Every fun run => run.input.preflight = true ∧
    Paid run.input.questionId page.pool.state ∧
      (run.stage.prepared = true → Saved run.input.questionId page.pool.state)
  lastInput : ∀ input ∈ page.hook.lastInput, input.preflight = true ∧
    Paid input.questionId page.pool.state
  transactions : ∀ transaction ∈ page.hook.transactions,
    Saved transaction.questionId page.pool.state

section Steps

variable {page : AnswerPage} {hook : SettleHook} {pool : PagePool} {input : SettleRunInput}

theorem admits_page :
    (tagged network runtime).Admits paidProtocol ToldPage (fun pool action =>
      ∀ context id fields token,
        action = .launch (.request context (.answer id fields), some token) →
          Paid id pool.state) where
  launch := fun hcondition _ => System.wp_tagging (wp_page _ fun context id fields token hlabel =>
    hcondition context id fields token (congrArg _ hlabel))
  advance := fun _ _ _ => trivial
  event := by
    intro pool event _ _
    cases event with
    | mine chainId blocks => exact ⟨trivial, fun _ => Persists.refl _⟩

/-- An answer is offered for an open question, with its save in front. -/
theorem answer_offered {sessionWallet text : Text} {question : Question}
    {account : Account} {nowMs : ℕ} {phases : SettleKind → SettlePhase}
    (hoffered : (.answer, input) ∈
      QuestionDetail sessionWallet question account text nowMs phases) :
    question.status = .open ∧ runInput question true = some input := by
  rw [QuestionDetail] at hoffered
  split at hoffered
  · next hopen =>
    refine ⟨hopen.1, ?_⟩
    split at hoffered
    · rw [AnswerPanel] at hoffered
      split at hoffered
      · next saving other hsaving _ =>
        obtain hanswer | hdecline := List.mem_append.mp hoffered
        · rw [(mem_button.mp hanswer).2.2]
          exact hsaving
        · cases (mem_button.mp hdecline).2.1
      · cases hoffered
    · rw [AskerActions] at hoffered
      split at hoffered
      · cases hoffered
      · split_ifs at hoffered <;> cases (mem_button.mp hoffered).2.1
    · cases hoffered
  · cases hoffered

theorem runInput_preflight {question : Question} {preflight : Bool}
    (hinput : runInput question preflight = some input) : input.preflight = preflight := by
  obtain ⟨_, _, hrest⟩ := Option.bind_eq_some_iff.mp hinput
  obtain ⟨_, _, hrest⟩ := Option.bind_eq_some_iff.mp hrest
  cases hrest
  rfl

/-- What an answered request has told. -/
theorem Ordered.told {context : RequestContext} {request : Request} {tag : Option ℕ}
    {view : View} (hordered : page.Ordered network runtime)
    (hanswered : page.Answered context request tag view) :
    ∃ response : Response, response.outcome = .ok view ∧
      ToldPage (.request context request, tag) (.ok response) page.pool.state := by
  obtain ⟨response, houtcome, hthread⟩ := hanswered
  exact ⟨response, houtcome, hordered.pool.threads _ hthread _ (paidProtocol.refl _) trivial⟩

/-- Whatever the wallet is or was asked to answer is on file. -/
theorem Ordered.asked {id : Text} (hordered : page.Ordered network runtime)
    (hasked : page.hook.Asked id) : Saved id page.pool.state := by
  obtain ⟨transaction, hsent, rfl⟩ | ⟨run, hrun, rfl, chainId, hstage⟩ := hasked
  · exact hordered.transactions transaction hsent
  · apply (hordered.runs run hrun).2.2
    rw [hstage]
    rfl

theorem Ordered.workers {action : PageSchedule} (hordered : page.Ordered network runtime)
    (hbrowses : page.Browses (.workers action)) :
    (page.step network runtime (.workers action)).Ordered network runtime := by
  have hcondition : ∀ context id fields token,
      action = .launch (.request context (.answer id fields), some token) →
        Paid id page.pool.state := by
    rintro context id fields token rfl
    obtain ⟨run, hrun, _, other, text, hlabel⟩ := hbrowses
    cases hlabel
    exact (hordered.runs run hrun).2.1
  obtain ⟨hpool, hrely⟩ := hordered.pool.step admits_page action hcondition
  refine ⟨hpool, ?_, ?_, ?_⟩
  · intro run hrun
    obtain ⟨hpreflight, hpaid, hsaved⟩ := hordered.runs run hrun
    exact ⟨hpreflight, hpaid.stays hrely, fun hprepared => (hsaved hprepared).stays hrely⟩
  · intro input hinput
    obtain ⟨hpreflight, hpaid⟩ := hordered.lastInput input hinput
    exact ⟨hpreflight, hpaid.stays hrely⟩
  · exact fun transaction hsent => (hordered.transactions transaction hsent).stays hrely

theorem Ordered.execute (hordered : AnswerPage.Ordered network runtime { hook, pool })
    (hpreflight : input.preflight = true) (hpaid : Paid input.questionId pool.state) :
    AnswerPage.Ordered network runtime { hook := hook.execute input, pool } := by
  obtain ⟨htransactions, hlast, _⟩ := @SettleHook.execute_spec hook input
  refine ⟨hordered.pool, ?_, ?_, ?_⟩
  · intro run hrun
    obtain hruns | ⟨started, rfl, hstage, hruns⟩ :=
      @SettleHook.execute_preflight hook input hpreflight
    · rw [hruns] at hrun
      exact hordered.runs run hrun
    · rw [hruns] at hrun
      obtain hold | hnew := List.mem_append.mp hrun
      · exact hordered.runs run hold
      · rw [List.mem_singleton.mp hnew, hstage]
        exact ⟨hpreflight, hpaid, fun hprepared => by cases hprepared⟩
  · intro other (hother : other ∈ (hook.execute input).lastInput)
    rw [hlast] at hother
    exact hordered.lastInput other hother
  · intro transaction (hsent : transaction ∈ (hook.execute input).transactions)
    rw [htransactions] at hsent
    exact hordered.transactions transaction hsent

theorem Ordered.resume {index : ℕ} {reply : SettleReply} {run : SettleRun}
    (hordered : page.Ordered network runtime)
    (hbrowses : page.Browses (.page (.resume index reply)))
    (hrun : page.hook.runs[index]? = some run) :
    AnswerPage.Ordered network runtime
      { page with hook := page.hook.resume index run .answer reply } := by
  obtain ⟨⟨hlast, _⟩, hsent⟩ := @SettleHook.resume_spec page.hook index run .answer reply
  obtain ⟨hpreflight, hpaid, hsaved⟩ := hordered.runs.at hrun
  refine ⟨hordered.pool, ?_, ?_, ?_⟩
  · intro other hother
    obtain hruns | ⟨stage, hruns, hstage⟩ :=
      @SettleHook.resume_prepared page.hook index run .answer reply
    · rw [hruns] at hother
      exact hordered.runs other hother
    · rw [hruns] at hother
      obtain hold | rfl := List.mem_or_eq_of_mem_set hother
      · exact hordered.runs other hold
      · refine ⟨hpreflight, hpaid, ?_⟩
        intro hprepared
        obtain hbefore | ⟨hwaiting, rfl⟩ := hstage hprepared
        · exact hsaved hbefore
        · obtain ⟨context, text, view, hanswered⟩ := hbrowses run hrun hwaiting
          obtain ⟨response, houtcome, htold⟩ := hordered.told hanswered
          exact htold view houtcome
  · intro input (hinput : input ∈ (page.hook.resume index run .answer reply).lastInput)
    rw [hlast] at hinput
    exact hordered.lastInput input hinput
  · intro transaction
      (htransaction : transaction ∈ (page.hook.resume index run .answer reply).transactions)
    obtain ⟨chainId, hstage, _, htransactions⟩ | ⟨_, htransactions⟩ := hsent
    · rw [htransactions] at htransaction
      obtain hold | hnew := List.mem_append.mp htransaction
      · exact hordered.transactions transaction hold
      · rw [List.mem_singleton.mp hnew]
        apply hsaved
        rw [hstage]
        rfl
    · rw [htransactions] at htransaction
      exact hordered.transactions transaction htransaction

theorem Ordered.step {action : PageStep} (hordered : page.Ordered network runtime)
    (hbrowses : page.Browses action) : (page.step network runtime action).Ordered network
      runtime := by
  obtain ⟨hpool, hruns, hlast, htransactions⟩ := hordered
  cases action with
  | workers action => exact Ordered.workers ⟨hpool, hruns, hlast, htransactions⟩ hbrowses
  | page action =>
      cases action with
      | switch wallet => exact ⟨hpool, hruns, hlast, htransactions⟩
      | render => exact ⟨hpool, hruns, hlast, htransactions⟩
      | recheck => exact ⟨hpool, hruns, hlast, htransactions⟩
      | unmount => exact ⟨hpool, hruns, hlast, htransactions⟩
      | reset => exact ⟨hpool, hruns, (fun _ hinput => by cases hinput), htransactions⟩
      | run input =>
          obtain ⟨context, id, tag, question, answer, wallet, text, nowMs, phases,
            hanswered, hoffered⟩ := hbrowses
          obtain ⟨hopen, hinput⟩ := answer_offered hoffered
          obtain ⟨response, houtcome, htold⟩ :=
            Ordered.told ⟨hpool, hruns, hlast, htransactions⟩ hanswered
          have hpaid : Paid input.questionId page.pool.state := by
            rw [← (runInput_eq_some hinput).1]
            apply htold question answer houtcome
            rw [hopen]
            decide
          have hpreflight := runInput_preflight hinput
          refine Ordered.execute ⟨hpool, hruns, ?_, htransactions⟩ hpreflight hpaid
          intro other hother
          cases hother
          exact ⟨hpreflight, hpaid⟩
      | retry =>
          rw [AnswerPage.step, SettleHook.step]
          split
          · exact ⟨hpool, hruns, hlast, htransactions⟩
          · next input hinput =>
            obtain ⟨hpreflight, hpaid⟩ := hlast input hinput
            have hnext : AnswerPage.Ordered network runtime
                { page with hook := page.hook.supersedeRun } :=
              ⟨hpool, hruns, hlast, htransactions⟩
            exact hnext.execute hpreflight hpaid
      | resume index reply =>
          rw [AnswerPage.step, SettleHook.step]
          split
          · exact ⟨hpool, hruns, hlast, htransactions⟩
          · next run hrun =>
            exact Ordered.resume ⟨hpool, hruns, hlast, htransactions⟩ hbrowses hrun
      | mine hash success =>
          refine ⟨hpool, hruns, hlast, ?_⟩
          have hkept := @forall_mem_modify SettleTransaction
            (fun transaction => { transaction with
              success := transaction.success <|> some success })
            page.hook.transactions hash
            (fun transaction => Saved transaction.questionId page.pool.state)
            fun _ => Iff.rfl
          exact hkept.mpr htransactions

end Steps

/-! ## Every run -/

end AnswerPage

/-- A participant of an answered question with an answer on file is shown it. -/
theorem Saved.shown {row : Question} {context : RequestContext} {wallet : Text}
    (hsaved : Saved id cloud) (hrow : row ∈ (cloud.record id).question)
    (hanswered : row.status = .answered) (hwallet : context.wallet = some wallet)
    (htakesPart : wallet = row.askerWallet ∨ wallet = row.answererWallet) :
    ∃ answer text, (cloud.answer runtime context (.detail id)).1.outcome =
        .ok (.detail row (some answer)) ∧ answer.body = some text ∧ text ≠ [] := by
  obtain ⟨_, _, _, hsome⟩ := hsaved
  obtain ⟨answer, hanswer⟩ := Option.isSome_iff_exists.mp hsome
  have hlookup : Table.lookup Question.id cloud.database.questions id = some row := hrow
  have hfile : Table.lookup Answer.questionId cloud.database.answers id = some answer :=
    hanswer
  have hhandler : cloud.finish (getQuestion wallet id) =
      (.ok (.detail row (some (presentAnswer answer true))), cloud) := by
    rw [getQuestion, Cloud.finish_read rfl rfl]
    simp only [Statement.reply, hlookup]
    rw [if_neg (by tauto), Cloud.finish_read rfl rfl]
    simp only [Statement.reply, hfile, hanswered]
    rfl
  have hrequest : cloud.finish (handleRequest runtime context (.detail id)) =
      cloud.finish (respond none (getQuestion wallet id)) := by
    change cloud.finish (respond none (requireAuth context >>= fun wallet =>
      getQuestion wallet id)) = _
    rw [requireAuth, hwallet]
    rfl
  refine ⟨presentAnswer answer true, answer.body, ?_, rfl, ?_⟩
  · rw [Cloud.answer, hrequest, Cloud.finish_respond, hhandler]
  · intro hempty
    have hlength := (cloud.database.consistent.answers_check answer
      (Table.lookup_mem hfile)).body_len.1
    rw [hempty] at hlength
    exact absurd hlength (by decide)

namespace Sample

def answererWallet : Account where
  address := some Workers.Sample.creator.wallet
  chainId := some 8453
  publicClient := true

end Sample

end BuyAnAnswer.Platform
