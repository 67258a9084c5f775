import BuyAnAnswer.Workers.Noninterference

/-!
# The paywall over whole sessions

Whatever a session asks for, one request after the other, it learns no more than it
may see.  A locked answer and a question between others leave no trace in any
response.
-/

namespace BuyAnAnswer.Workers

open Text Shared Api

/-- A request, and where and when it comes in. -/
structure SessionRequest where
  clientIp : Text
  now : ℕ
  request : Request

namespace SessionRequest

/-- What the session brings along. -/
def context (viewer : Option Text) (sent : SessionRequest) : RequestContext where
  clientIp := sent.clientIp
  wallet := viewer
  now := sent.now

def serve (runtime : Runtime) (viewer : Option Text) (cloud : Cloud)
    (sent : SessionRequest) : Response × Cloud :=
  cloud.answer runtime (sent.context viewer) sent.request

/-- No id that a request draws is in use by then. -/
def DrawFresh (runtime : Runtime) (viewer : Option Text) (cloud : Cloud)
    (requests : List SessionRequest) : Prop :=
  Machine.Meets (fun cloud sent => (serve runtime viewer cloud sent).2)
    (fun cloud sent => sent.request.DrawsFresh cloud) cloud requests

instance (runtime : Runtime) (viewer : Option Text) (cloud : Cloud)
    (requests : List SessionRequest) :
    Decidable (DrawFresh runtime viewer cloud requests) :=
  inferInstanceAs (Decidable (Machine.Meets _ _ cloud requests))

/-- The responses to the requests, and the cloud afterwards. -/
def responses (runtime : Runtime) (viewer : Option Text) (cloud : Cloud)
    (requests : List SessionRequest) : List Response × Cloud :=
  Machine.trace (serve runtime viewer) cloud requests

end SessionRequest

/-! ## What cannot be told apart -/

/-- Two clouds that differ in one question and its answer at most, in what a session
can reach. -/
structure SameApart (id : Text) (left right : Cloud) : Prop where
  creators : left.database.creators = right.database.creators
  others : ∀ other, other ≠ id → recordOf left.database.toTables other =
    recordOf right.database.toTables other
  records : left.records = right.records
  counters : left.counters = right.counters

section Apart

variable {viewer : Option Text} {left right : Cloud} {id : Text}

theorem SameApart.looksAlike (hsame : SameApart id left right)
    (hrecord : (recordOf left.database.toTables id).seenBy viewer =
      (recordOf right.database.toTables id).seenBy viewer) :
    LooksAlike viewer left right := by
  refine ⟨Sight.ext ?_ ?_ ?_, hsame.records, hsame.counters⟩
  · simp only [sightOf, hsame.creators]
  · simp only [sightOf, hsame.creators]
  · funext other
    by_cases hid : other = id
    · exact hid ▸ hrecord
    · exact congrArg (QuestionRecord.seenBy viewer) (hsame.others other hid)

/-- A question in which the session has no part, and that is not published. -/
theorem looksAlike_of_hidden (hsame : SameApart id left right)
    (hleft : Hidden viewer left id) (hright : Hidden viewer right id) :
    LooksAlike viewer left right := by
  have hunseen {cloud : Cloud} (hhidden : Hidden viewer cloud id) :
      (recordOf cloud.database.toTables id).seenBy viewer = none := seenBy_of_hidden hhidden
  exact hsame.looksAlike ((hunseen hleft).trans (hunseen hright).symm)

/-- The body of an answer that is not revealed, for all but its author. -/
theorem looksAlike_of_locked {question : Question} (hsame : SameApart id left right)
    (hleft : (recordOf left.database.toTables id).question = some question)
    (hright : (recordOf right.database.toTables id).question = some question)
    (hanswers : (recordOf left.database.toTables id).answer.map (seenAnswer false) =
      (recordOf right.database.toTables id).answer.map (seenAnswer false))
    (hlocked : question.status ≠ .answered) (hviewer : viewer ≠ some question.answererWallet) :
    LooksAlike viewer left right := by
  have hsees : seesBody viewer question = false := by simp [seesBody, hlocked, hviewer]
  apply hsame.looksAlike
  rw [QuestionRecord.seenBy, QuestionRecord.seenBy, hleft, hright]
  cases hvisible : isVisible viewer question with
  | false => simp [Option.filter, hvisible]
  | true => simp [Option.filter, hvisible, hsees, hanswers]

end Apart

/-! ## Whole sessions -/

/-- Two clouds that look alike to a session give the same responses to all its
requests, in any order, and look alike to it afterwards.  So no response depends on
the body of an unanswered question's answer unless the session's wallet is to answer
it, nor on whether there is a question that the session may not see. -/
theorem session_noninterference (runtime : Runtime) (viewer : Option Text)
    (left right : Cloud) (requests : List SessionRequest)
    (hleft : SessionRequest.DrawFresh runtime viewer left requests)
    (hright : SessionRequest.DrawFresh runtime viewer right requests) :
    (LooksAlike viewer left right →
      (SessionRequest.responses runtime viewer left requests).1 =
          (SessionRequest.responses runtime viewer right requests).1 ∧
        LooksAlike viewer (SessionRequest.responses runtime viewer left requests).2
          (SessionRequest.responses runtime viewer right requests).2) ∧
    (∀ id question, SameApart id left right →
      (recordOf left.database.toTables id).question = some question →
      (recordOf right.database.toTables id).question = some question →
      (recordOf left.database.toTables id).answer.map (seenAnswer false) =
        (recordOf right.database.toTables id).answer.map (seenAnswer false) →
      question.status ≠ .answered → viewer ≠ some question.answererWallet →
      (SessionRequest.responses runtime viewer left requests).1 =
        (SessionRequest.responses runtime viewer right requests).1) ∧
    ∀ id, SameApart id left right → Hidden viewer left id → Hidden viewer right id →
      (SessionRequest.responses runtime viewer left requests).1 =
        (SessionRequest.responses runtime viewer right requests).1 := by
  have hmain (halike : LooksAlike viewer left right) :
      Coincide (LooksAlike viewer) (SessionRequest.responses runtime viewer left requests)
        (SessionRequest.responses runtime viewer right requests) := by
    apply Machine.coincide_trace ?_ halike hleft hright
    intro sent _ before after hlooks hbefore hafter
    exact @coincide_answer before after (sent.context viewer) runtime sent.request hlooks
      hbefore hafter
  refine ⟨fun halike => ⟨(hmain halike).result, (hmain halike).alike⟩, ?_, ?_⟩
  · intro id question hsame hfirst hsecond hanswers hlocked hviewer
    exact (hmain (looksAlike_of_locked hsame hfirst hsecond hanswers hlocked hviewer)).result
  · intro id hsame hfirst hsecond
    exact (hmain (looksAlike_of_hidden hsame hfirst hsecond)).result

namespace Sample

/-- An open question with an answer that is not revealed. -/
def answerDraft : Cloud :=
  { cloud with
    database := {
      creators := [creator]
      questions := [question]
      answers := [savedAnswer uuid "Because.".toList 3]
      consistent := by decide } }

/-- The same question with another answer. -/
def otherDraft : Cloud :=
  { cloud with
    database := {
      creators := [creator]
      questions := [question]
      answers := [savedAnswer uuid "Never mind.".toList 3]
      consistent := by decide } }

def followUp : RequestBody QuestionFields := .object {
  handle := some (.string creator.handle), body := some (.string "And now?".toList)
  amountUsdc := some (.string "5000000".toList), chainId := none }

/-- The asker looks for the answer everywhere, and asks again. -/
def requests : List SessionRequest := [
  ⟨[], 10, .detail uuid⟩, ⟨[], 11, .asked none none⟩, ⟨[], 12, .card uuid⟩,
  ⟨[], 13, .publish uuid⟩,
  ⟨[], 14, .createQuestion none followUp "9f1c2f7e-0a51-4b0e-8a6c-0d2f5f6e7a11".toList⟩]

theorem draft_sameApart : SameApart uuid answerDraft otherDraft where
  creators := rfl
  others := by
    intro other hother
    have hanswer (body : Text) : Table.lookup Answer.questionId [savedAnswer uuid body 3]
        other = none := by
      rw [Table.lookup_eq_none]
      intro answer hanswer
      rw [List.mem_singleton.mp hanswer]
      exact hother.symm
    exact QuestionRecord.ext rfl ((hanswer _).trans (hanswer _).symm)
  records := rfl
  counters := rfl

end Sample

theorem session_noninterference_sample :
    (SessionRequest.responses Sample.runtime (some Sample.question.askerWallet) Sample.answerDraft
      Sample.requests).1 =
    (SessionRequest.responses Sample.runtime (some Sample.question.askerWallet) Sample.otherDraft
      Sample.requests).1 :=
  (session_noninterference Sample.runtime (some Sample.question.askerWallet)
    Sample.answerDraft Sample.otherDraft Sample.requests (by decide +kernel)
    (by decide +kernel)).2.1
      Sample.uuid Sample.question Sample.draft_sameApart (by decide) (by decide) (by decide)
      (by decide) (by decide)

end BuyAnAnswer.Workers
