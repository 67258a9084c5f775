import BuyAnAnswer.Core.Unwinding
import BuyAnAnswer.Web.QuestionList
import BuyAnAnswer.Workers.Validation

/-!
# What a session may see

A session sees its own profile, what is public of all creators, the questions in
which its wallet takes part and the published ones.  Of an answer to such a question
it sees that it is there and when it was written, and its body once the question is
answered; an answerer always sees the body.
-/

namespace BuyAnAnswer.Workers

open Text Shared Api

/-- The session's wallet asked the question or is to answer it. -/
def takesPart (viewer : Option Text) (question : Question) : Bool :=
  viewer = some question.askerWallet || viewer = some question.answererWallet

/-- The question is an answered one that its answerer published. -/
def isPublished (question : Question) : Bool :=
  question.isPublic && question.status = .answered

def isVisible (viewer : Option Text) (question : Question) : Bool :=
  takesPart viewer question || isPublished question

/-- The paywall: the body of an answer is for its author until it is revealed. -/
def seesBody (viewer : Option Text) (question : Question) : Bool :=
  question.status = .answered || viewer = some question.answererWallet

structure AnswerSight where
  submittedAt : ℕ
  revealedAt : Option ℕ
  updatedAt : ℕ
  body : Option Text
  deriving DecidableEq, Repr

def seenAnswer (withBody : Bool) (answer : Answer) : AnswerSight where
  submittedAt := answer.submittedAt
  revealedAt := answer.revealedAt
  updatedAt := answer.updatedAt
  body := if withBody then some answer.body else none

/-- What is seen of a question and its answer. -/
def QuestionRecord.seenBy (viewer : Option Text) (record : QuestionRecord) :
    Option (Question × Option AnswerSight) :=
  (record.question.filter (isVisible viewer)).map fun question =>
    (question, record.answer.map (seenAnswer (seesBody viewer question)))

@[ext]
structure Sight where
  profile : Option Creator
  creators : Text → Option PublicCreator
  questions : Text → Option (Question × Option AnswerSight)

def sightOf (viewer : Option Text) (tables : Tables) : Sight where
  profile := viewer.bind (Table.lookup Creator.wallet tables.creators)
  creators := fun wallet =>
    (Table.lookup Creator.wallet tables.creators wallet).map presentPublicCreator
  questions := fun id => (recordOf tables id).seenBy viewer

/-- The session sees the same, and the key-value store is the same. -/
structure LooksAlike (viewer : Option Text) (left right : Cloud) : Prop where
  sight : sightOf viewer left.database.toTables = sightOf viewer right.database.toTables
  records : left.records = right.records
  counters : left.counters = right.counters

theorem LooksAlike.symm {viewer : Option Text} {left right : Cloud}
    (halike : LooksAlike viewer left right) : LooksAlike viewer right left :=
  ⟨halike.sight.symm, halike.records.symm, halike.counters.symm⟩

/-! ## Answers and records that are seen alike -/

section Records

variable {viewer : Option Text} {left right record : QuestionRecord} {question : Question}
variable {withBody : Bool} {id : Text}

/-- The presenter shows no more than what is seen. -/
theorem presented_eq {first second : Option Answer}
    (hseen : first.map (seenAnswer withBody) = second.map (seenAnswer withBody)) :
    (first.map fun answer => presentAnswer answer withBody) =
      second.map fun answer => presentAnswer answer withBody := by
  have hpresent (answer : Answer) : presentAnswer answer withBody =
      { submittedAt := (seenAnswer withBody answer).submittedAt
        updatedAt := (seenAnswer withBody answer).updatedAt
        revealedAt := (seenAnswer withBody answer).revealedAt
        body := (seenAnswer withBody answer).body, locked := !withBody } := rfl
  have hshown := congrArg (Option.map fun seen : AnswerSight => ({
    submittedAt := seen.submittedAt, updatedAt := seen.updatedAt
    revealedAt := seen.revealedAt, body := seen.body, locked := !withBody } : AnswerView))
    hseen
  simpa only [Option.map_map, Function.comp_def, ← hpresent] using hshown

/-- With its body, all of an answer is seen. -/
theorem eq_of_seenAnswer {first second : Answer} (hid : first.questionId = second.questionId)
    (hseen : seenAnswer true first = seenAnswer true second) : first = second := by
  cases first
  cases second
  simp_all [seenAnswer]

theorem answers_eq {first second : Option Answer}
    (hfirst : ∀ answer ∈ first, answer.questionId = id)
    (hsecond : ∀ answer ∈ second, answer.questionId = id)
    (hseen : first.map (seenAnswer true) = second.map (seenAnswer true)) :
    first = second := by
  cases first with
  | none =>
      cases second with
      | none => rfl
      | some other => cases hseen
  | some answer =>
      cases second with
      | none => cases hseen
      | some other =>
          have hid := (hfirst answer rfl).trans (hsecond other rfl).symm
          rw [eq_of_seenAnswer hid (Option.some_inj.mp hseen)]

theorem seenBy_of_hidden (hhidden : ∀ question ∈ record.question,
    isVisible viewer question = false) : record.seenBy viewer = none := by
  rw [QuestionRecord.seenBy, Option.map_eq_none_iff, Option.filter_eq_none_iff]
  intro question hquestion
  rw [hhidden question hquestion]
  exact Bool.false_ne_true

theorem seenBy_of_visible (hquestion : record.question = some question)
    (hvisible : isVisible viewer question = true) :
    record.seenBy viewer =
      some (question, record.answer.map (seenAnswer (seesBody viewer question))) := by
  rw [QuestionRecord.seenBy, hquestion, Option.filter_some_pos hvisible]
  rfl

/-- Two records that are seen alike: neither is seen, or they hold the same question. -/
theorem seenBy_cases (hseen : left.seenBy viewer = right.seenBy viewer) :
    ((∀ question ∈ left.question, isVisible viewer question = false) ∧
      ∀ question ∈ right.question, isVisible viewer question = false) ∨
    ∃ question, isVisible viewer question = true ∧ left.question = some question ∧
      right.question = some question ∧
        left.answer.map (seenAnswer (seesBody viewer question)) =
          right.answer.map (seenAnswer (seesBody viewer question)) := by
  have hnone {record : QuestionRecord} (hunseen : record.seenBy viewer = none) :
      ∀ question ∈ record.question, isVisible viewer question = false := by
    intro question hquestion
    rw [Bool.eq_false_iff]
    intro hvisible
    rw [seenBy_of_visible hquestion hvisible] at hunseen
    cases hunseen
  have hsome {record : QuestionRecord} {seen : Question × Option AnswerSight}
      (hrecord : record.seenBy viewer = some seen) : record.question = some seen.1 ∧
        isVisible viewer seen.1 = true ∧
          record.answer.map (seenAnswer (seesBody viewer seen.1)) = seen.2 := by
    obtain ⟨question, hfound, rfl⟩ := Option.map_eq_some_iff.mp hrecord
    obtain ⟨hquestion, hvisible⟩ := Option.filter_eq_some_iff.mp hfound
    exact ⟨hquestion, hvisible, rfl⟩
  cases hleft : left.seenBy viewer with
  | none => exact .inl ⟨hnone hleft, hnone (hseen ▸ hleft)⟩
  | some seen =>
      obtain ⟨hquestion, hvisible, hanswer⟩ := hsome hleft
      obtain ⟨hother, -, hotherAnswer⟩ := hsome (hseen.symm.trans hleft)
      exact .inr ⟨seen.1, hvisible, hquestion, hother, hanswer.trans hotherAnswer.symm⟩

end Records

/-! ## Tables that are seen alike -/

section Tables

variable {viewer : Option Text} {wallet : Text} {left right : Cloud}
variable {question : Question} {id : Text}

theorem isVisible_of_takesPart (htakes : takesPart viewer question = true) :
    isVisible viewer question = true := by
  rw [isVisible, htakes, Bool.true_or]

theorem LooksAlike.profile (halike : LooksAlike (some wallet) left right) :
    Table.lookup Creator.wallet left.database.creators wallet =
      Table.lookup Creator.wallet right.database.creators wallet :=
  congrArg Sight.profile halike.sight

theorem LooksAlike.creator (halike : LooksAlike viewer left right) (key : Text) :
    (Table.lookup Creator.wallet left.database.creators key).map presentPublicCreator =
      (Table.lookup Creator.wallet right.database.creators key).map presentPublicCreator :=
  congrFun (congrArg Sight.creators halike.sight) key

theorem LooksAlike.record (halike : LooksAlike viewer left right) (id : Text) :
    (recordOf left.database.toTables id).seenBy viewer =
      (recordOf right.database.toTables id).seenBy viewer :=
  congrFun (congrArg Sight.questions halike.sight) id

/-- A handle is public, so that a creator is found by it in both. -/
theorem LooksAlike.handle (halike : LooksAlike viewer left right) (handle : Text) :
    (Table.lookup Creator.handle left.database.creators handle).map presentPublicCreator =
      (Table.lookup Creator.handle right.database.creators handle).map
        presentPublicCreator := by
  have hkept {before after : Cloud} (hlooks : LooksAlike viewer before after)
      {seen : PublicCreator} (hfound : (Table.lookup Creator.handle before.database.creators
        handle).map presentPublicCreator = some seen) :
      (Table.lookup Creator.handle after.database.creators handle).map
        presentPublicCreator = some seen := by
    obtain ⟨creator, hcreator, rfl⟩ := Option.map_eq_some_iff.mp hfound
    have hwallet : Table.lookup Creator.wallet before.database.creators creator.wallet =
        some creator :=
      (Table.lookup_eq_some before.database.consistent.creators_primary).mpr
        ⟨Table.lookup_mem hcreator, rfl⟩
    have hpublic := hlooks.creator creator.wallet
    rw [hwallet] at hpublic
    obtain ⟨other, hother, hsame⟩ := Option.map_eq_some_iff.mp hpublic.symm
    have hkey : creator.handle = handle := Table.lookup_key hcreator
    have hhandle : other.handle = handle :=
      (congrArg PublicCreator.handle hsame).trans hkey
    rw [(Table.lookup_eq_some after.database.consistent.creators_handle_unique).mpr
      ⟨Table.lookup_mem hother, hhandle⟩]
    exact congrArg some hsame
  ext seen
  exact ⟨hkept halike, hkept halike.symm⟩

theorem none_iff_of_map {A B : Type} {first second : Option A} {view : A → B}
    (hmap : first.map view = second.map view) : first = none ↔ second = none := by
  rw [← Option.map_eq_none_iff, hmap, Option.map_eq_none_iff]

theorem LooksAlike.freeHandle (halike : LooksAlike viewer left right) (handle : Text) :
    Table.lookup Creator.handle left.database.creators handle = none ↔
      Table.lookup Creator.handle right.database.creators handle = none :=
  none_iff_of_map (halike.handle handle)

theorem lookup_of_mem {cloud : Cloud} (hquestion : question ∈ cloud.database.questions) :
    (recordOf cloud.database.toTables question.id).question = some question :=
  (Table.lookup_eq_some cloud.database.consistent.questions_primary).mpr ⟨hquestion, rfl⟩

/-- The lists of the session's own questions are the same. -/
theorem LooksAlike.ownRows (halike : LooksAlike (some wallet) left right)
    (column : WalletColumn) :
    Web.ownRows left.database.toTables column wallet =
      Web.ownRows right.database.toTables column wallet := by
  have hkept {before after : Cloud} (hlooks : LooksAlike (some wallet) before after)
      {row : Question × Bool}
      (hrow : row ∈ Web.ownRows before.database.toTables column wallet) :
      row ∈ Web.ownRows after.database.toTables column wallet := by
    rw [Web.ownRows, List.mem_insertionSort, List.mem_map] at hrow ⊢
    obtain ⟨question, hmem, rfl⟩ := hrow
    obtain ⟨hquestion, hown⟩ := List.mem_filter.mp hmem
    have hvisible : isVisible (some wallet) question = true := by
      apply isVisible_of_takesPart
      have hwallet := of_decide_eq_true hown
      subst hwallet
      cases column <;> simp [takesPart, WalletColumn.of]
    obtain ⟨hhidden, -⟩ | ⟨other, -, hbefore, hafter, hanswer⟩ :=
      seenBy_cases (hlooks.record question.id)
    · exact absurd (hhidden question (lookup_of_mem hquestion)) (by simp [hvisible])
    · obtain rfl : question = other :=
        Option.some_inj.mp ((lookup_of_mem hquestion).symm.trans hbefore)
      refine ⟨question, List.mem_filter.mpr ⟨Table.lookup_mem hafter, hown⟩, ?_⟩
      have hsome := congrArg Option.isSome hanswer
      simp only [Option.isSome_map] at hsome
      exact congrArg (Prod.mk question) hsome.symm
  have hnodup (cloud : Cloud) :
      (Web.ownRows cloud.database.toTables column wallet).Nodup :=
    (Web.ownRows_nodup cloud.database.consistent).of_map _
  have hperm := (List.perm_ext_iff_of_nodup (hnodup left) (hnodup right)).mpr
    fun row => ⟨hkept halike, hkept halike.symm⟩
  apply hperm.eq_of_pairwise ?_ (Web.ownRows_pairwise left.database.consistent)
    (Web.ownRows_pairwise right.database.consistent)
  -- newest first is a strict order
  intro first second _ _ hfirst hsecond
  obtain hlater | ⟨htie, hid⟩ := hfirst
  · obtain hearlier | ⟨hsame, -⟩ := hsecond
    · exact absurd hearlier (lt_asymm hlater)
    · exact absurd hlater (by omega)
  · obtain hearlier | ⟨-, hother⟩ := hsecond
    · exact absurd hearlier (by omega)
    · exact absurd hother (lt_asymm hid)

end Tables

end BuyAnAnswer.Workers
