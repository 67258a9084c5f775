import BuyAnAnswer.Workers.Acceptance
import BuyAnAnswer.Workers.Sight

/-!
# Responses depend on what the session may see

Two clouds that look alike to a session answer its requests alike, and look alike
again afterwards.  A route reads more than it shows; what it reads beyond the
session's view decides between refusals that are the same.
-/

namespace BuyAnAnswer.Workers

open Text Shared WorkerKit Api BuyAnAnswer.Transaction

/-! ## Statements -/

section Statements

variable {viewer : Option Text} {wallet : Text} {left right : Cloud}
variable {statement : Statement} {A : Type}

/-- A statement about questions and answers, told record by record. -/
theorem LooksAlike.effect (halike : LooksAlike viewer left right)
    (hcreators : ∀ tables, (statement.effect tables).creators = tables.creators)
    (hrecords : ∀ id,
      (statement.onRecord id (recordOf left.database.toTables id)).seenBy viewer =
        (statement.onRecord id (recordOf right.database.toTables id)).seenBy viewer) :
    sightOf viewer (statement.effect left.database.toTables) =
      sightOf viewer (statement.effect right.database.toTables) := by
  have hprofile := congrArg Sight.profile halike.sight
  have hpublic := congrArg Sight.creators halike.sight
  apply Sight.ext
  · simpa only [sightOf, hcreators] using hprofile
  · simpa only [sightOf, hcreators] using hpublic
  · funext id
    simp only [sightOf]
    rw [Statement.recordOf_effect left.database.consistent,
      Statement.recordOf_effect right.database.consistent]
    exact hrecords id

/-- A writing statement goes through in both or in neither. -/
theorem coincide_database {next : Except SqlError statement.Reply → Handler A}
    (halike : LooksAlike viewer left right)
    (hconsistent : (statement.effect left.database.toTables).Consistent ↔
      (statement.effect right.database.toTables).Consistent)
    (hreply : statement.reply left.database.toTables =
      statement.reply right.database.toTables)
    (hsight : sightOf viewer (statement.effect left.database.toTables) =
      sightOf viewer (statement.effect right.database.toTables))
    (hnext : ∀ result before after, LooksAlike viewer before after →
      Coincide (LooksAlike viewer) (Cloud.finish before (next result))
        (Cloud.finish after (next result))) :
    Coincide (LooksAlike viewer) (left.finish (.await (.database statement) next))
      (right.finish (.await (.database statement) next)) := by
  rw [Cloud.finish_database, Cloud.finish_database]
  cases hrange : statement.inRange with
  | false =>
      rw [Cloud.execute_refused hrange, Cloud.execute_refused hrange]
      exact hnext _ _ _ halike
  | true =>
      obtain ⟨database, hleft, htables⟩ | ⟨hleft, hbroken⟩ := execute_cases left statement
      · obtain ⟨other, hright, hothers⟩ | ⟨hright, hbroken⟩ :=
          execute_cases right statement
        · rw [hleft, hright, hreply]
          refine hnext _ _ _ ⟨?_, halike.records, halike.counters⟩
          change sightOf viewer database.toTables = sightOf viewer other.toTables
          rw [htables, hothers, hsight]
        · exact absurd (hconsistent.mp (htables ▸ database.consistent)) (hbroken hrange)
      · obtain ⟨other, hright, hothers⟩ | ⟨hright, -⟩ := execute_cases right statement
        · exact absurd (hconsistent.mpr (hothers ▸ other.consistent)) (hbroken hrange)
        · rw [hleft, hright]
          exact hnext _ _ _ halike

theorem coincide_query {next : statement.Reply → Handler A}
    (halike : LooksAlike viewer left right)
    (hconsistent : (statement.effect left.database.toTables).Consistent ↔
      (statement.effect right.database.toTables).Consistent)
    (hreply : statement.reply left.database.toTables =
      statement.reply right.database.toTables)
    (hsight : sightOf viewer (statement.effect left.database.toTables) =
      sightOf viewer (statement.effect right.database.toTables))
    (hnext : ∀ value before after, LooksAlike viewer before after →
      Coincide (LooksAlike viewer) (Cloud.finish before (next value))
        (Cloud.finish after (next value))) :
    Coincide (LooksAlike viewer) (left.finish (query statement >>= next))
      (right.finish (query statement >>= next)) := by
  apply coincide_database halike hconsistent hreply hsight
  intro result before after hlooks
  cases result with
  | ok value => exact hnext value before after hlooks
  | error failure => exact coincide_same hlooks _

theorem coincide_refuse (halike : LooksAlike viewer left right) (status : ℕ)
    (code message : String) :
    Coincide (LooksAlike viewer) (left.finish (refuse status code message : Handler A))
      (right.finish (refuse status code message : Handler A)) :=
  coincide_same halike _

theorem coincide_ofExcept {B : Type} {result : Except Failure B} {next : B → Handler A}
    (halike : LooksAlike viewer left right)
    (hnext : ∀ value, result = .ok value →
      Coincide (LooksAlike viewer) (left.finish (next value)) (right.finish (next value))) :
    Coincide (LooksAlike viewer) (left.finish (.ofExcept result >>= next))
      (right.finish (.ofExcept result >>= next)) := by
  cases result with
  | error failure => exact coincide_same halike _
  | ok value => exact hnext value rfl

/-- A read whose reply the session may see. -/
theorem coincide_read {next : statement.Reply → Handler A}
    (halike : LooksAlike viewer left right)
    (hread : ∀ tables, statement.effect tables = tables)
    (hreply : statement.reply left.database.toTables =
      statement.reply right.database.toTables)
    (hnext : Coincide (LooksAlike viewer)
      (left.finish (next (statement.reply right.database.toTables)))
      (right.finish (next (statement.reply right.database.toTables)))) :
    Coincide (LooksAlike viewer) (left.finish (query statement >>= next))
      (right.finish (query statement >>= next)) := by
  cases hrange : statement.inRange with
  | false =>
      rw [Cloud.finish_query_error (Cloud.execute_refused hrange),
        Cloud.finish_query_error (Cloud.execute_refused hrange)]
      exact coincide_same halike _
  | true =>
      rw [Cloud.finish_read (hread _) hrange, Cloud.finish_read (hread _) hrange, hreply]
      exact hnext

end Statements

/-! ## The constraints -/

theorem publish_consistent {tables : Tables} (hconsistent : tables.Consistent) (id : Text)
    (now : ℕ) : ((Statement.publishQuestion id now).effect tables).Consistent := by
  refine hconsistent.updateQuestions (fun _ => rfl) (fun _ => rfl) (fun _ => rfl) ?_ ?_
  · intro row hrow _
    have hvalid := hconsistent.questions_check row hrow
    exact ⟨hvalid.asker_addr, hvalid.answerer_addr, hvalid.chain_id,
      hvalid.onchain_id, hvalid.amount, hvalid.body_len⟩
  · intro row hrow hhits
    obtain hnull | hdiffer := Classical.em (row.onchainId = none)
    · exact .inl hnull
    · right
      intro other hother hne
      have hid : row.id = id := of_decide_eq_true hhits
      exact ⟨decide_eq_false (hid ▸ hne),
        (onchain_distinct hconsistent hrow hother hne).resolve_left hdiffer⟩

/-- A new profile breaks a `CHECK`, or its handle is taken. -/
theorem insertCreator_consistent_iff {cloud : Cloud} {row : Creator}
    (hnew : Table.lookup Creator.wallet cloud.database.creators row.wallet = none) :
    ((Statement.insertCreator row).effect cloud.database.toTables).Consistent ↔
      row.Valid ∧
        Table.lookup Creator.handle cloud.database.creators row.handle = none := by
  have hconsistent := cloud.database.consistent
  have hnodup {key : Creator → Text} (hkeys : (cloud.database.creators.map key).Nodup) :
      ((cloud.database.creators ++ [row]).map key).Nodup ↔
        Table.lookup key cloud.database.creators (key row) = none := by
    rw [List.map_append, List.map_singleton, ← List.concat_eq_append, List.nodup_concat,
      and_iff_left hkeys, Table.lookup_eq_none]
    simp
  constructor
  · intro hafter
    exact ⟨hafter.creators_check row (by simp [Statement.effect]),
      (hnodup hconsistent.creators_handle_unique).mp hafter.creators_handle_unique⟩
  · rintro ⟨hvalid, hfree⟩
    refine { hconsistent with
      creators_check := ?_
      creators_primary := (hnodup hconsistent.creators_primary).mpr hnew
      creators_handle_unique := (hnodup hconsistent.creators_handle_unique).mpr hfree
      questions_answerer := ?_ }
    · intro other hother
      obtain hold | hlast := List.mem_append.mp hother
      · exact hconsistent.creators_check other hold
      · rw [List.mem_singleton.mp hlast]
        exact hvalid
    · intro question hquestion
      change question.answererWallet ∈ (cloud.database.creators ++ [row]).map Creator.wallet
      rw [List.map_append]
      exact List.mem_append_left _ (hconsistent.questions_answerer question hquestion)

/-! ## Reading questions -/

section Questions

variable {viewer : Option Text} {wallet : Text} {left right cloud : Cloud}
variable {question : Question} {id : Text} {now : ℕ}

/-- A question that the session may not see. -/
def Hidden (viewer : Option Text) (cloud : Cloud) (id : Text) : Prop :=
  ∀ question ∈ Table.lookup Question.id cloud.database.questions id,
    isVisible viewer question = false

theorem isVisible_eq_false : isVisible (some wallet) question = false ↔
    (wallet ≠ question.askerWallet ∧ wallet ≠ question.answererWallet) ∧
      isPublished question = false := by
  simp [isVisible, takesPart]

/-- A hidden question is not found. -/
theorem finish_getQuestion_hidden (hhidden : Hidden (some wallet) cloud id) :
    cloud.finish (getQuestion wallet id) = cloud.finish notFound := by
  rw [getQuestion, Cloud.finish_read rfl rfl]
  simp only [Statement.reply]
  cases hquestion : Table.lookup Question.id cloud.database.questions id with
  | none => rfl
  | some question =>
      have hothers := (isVisible_eq_false.mp (hhidden question hquestion)).1
      simp only
      rw [if_pos hothers]

theorem finish_publishQuestion_hidden (hhidden : Hidden (some wallet) cloud id) :
    cloud.finish (publishQuestion wallet id now) = cloud.finish notFound := by
  rw [publishQuestion, Cloud.finish_read rfl rfl]
  simp only [Statement.reply]
  cases hquestion : Table.lookup Question.id cloud.database.questions id with
  | none => rfl
  | some question =>
      obtain ⟨hasker, hanswerer⟩ := (isVisible_eq_false.mp (hhidden question hquestion)).1
      simp only
      rw [if_pos hanswerer, if_neg hasker]

theorem finish_postAnswer_hidden {fields : RequestBody AnswerFields} {body : Text}
    (hok : parseBody answerBody fields = .ok body) (hhidden : Hidden (some wallet) cloud id) :
    cloud.finish (postAnswer wallet id fields now) = cloud.finish notFound := by
  rw [postAnswer, hok, Program.ofExcept, Program.ret_bind, Cloud.finish_read rfl rfl]
  simp only [Statement.reply]
  cases hquestion : Table.lookup Question.id cloud.database.questions id with
  | none => rfl
  | some question =>
      obtain ⟨hasker, hanswerer⟩ := (isVisible_eq_false.mp (hhidden question hquestion)).1
      simp only
      rw [if_pos hanswerer, if_neg hasker]

theorem finish_getCard_hidden (hhidden : Hidden viewer cloud id) :
    cloud.finish (getCard id) = cloud.finish notFound := by
  rw [getCard, Cloud.finish_read rfl rfl]
  simp only [Statement.reply]
  cases hquestion : Table.lookup Question.id cloud.database.questions id with
  | none => rfl
  | some question =>
      have hunpublished : question.isPublic = false ∨ question.status ≠ .answered := by
        have hhidden := hhidden question hquestion
        rw [isVisible, Bool.or_eq_false_iff, isPublished, Bool.and_eq_false_iff,
          decide_eq_false_iff_not] at hhidden
        exact hhidden.2
      simp only
      rw [if_pos hunpublished]

/-- `GET /questions/:id` shows what is seen of a question. -/
theorem coincide_getQuestion (halike : LooksAlike (some wallet) left right) (id : Text) :
    Coincide (LooksAlike (some wallet)) (left.finish (getQuestion wallet id))
      (right.finish (getQuestion wallet id)) := by
  obtain ⟨hleft, hright⟩ | ⟨question, -, hleft, hright, hanswer⟩ :=
    seenBy_cases (halike.record id)
  · rw [finish_getQuestion_hidden hleft, finish_getQuestion_hidden hright]
    exact coincide_same halike _
  · have hshown := presented_eq hanswer
    have hsees : seesBody (some wallet) question =
        decide (question.status = .answered ∨ wallet = question.answererWallet) := by
      simp [seesBody]
    rw [hsees] at hshown
    simp only [recordOf] at hleft hright hshown
    rw [getQuestion, Cloud.finish_read rfl rfl, Cloud.finish_read rfl rfl]
    simp only [Statement.reply, hleft, hright]
    split
    · exact coincide_same halike _
    · rw [Cloud.finish_read rfl rfl, Cloud.finish_read rfl rfl]
      simp only [Statement.reply]
      rw [hshown]
      exact coincide_same halike _

/-- The lists show the session's own questions. -/
theorem coincide_listQuestions (halike : LooksAlike (some wallet) left right)
    (runtime : Runtime) (column : WalletColumn) (limit offset : Option Text) :
    Coincide (LooksAlike (some wallet))
      (left.finish (listQuestions runtime wallet column limit offset))
      (right.finish (listQuestions runtime wallet column limit offset)) := by
  rw [listQuestions]
  apply coincide_ofExcept halike
  intro parameters _
  apply coincide_read halike fun _ => rfl
  · exact congrArg (fun rows => (rows.drop parameters.offset).take (parameters.limit + 1))
      (halike.ownRows column)
  · exact coincide_same halike _

/-- A card shows a published question, its answer and what is public of its creator. -/
theorem coincide_getCard (halike : LooksAlike viewer left right) (id : Text) :
    Coincide (LooksAlike viewer) (left.finish (getCard id)) (right.finish (getCard id)) := by
  obtain ⟨hleft, hright⟩ | ⟨question, -, hleft, hright, hanswer⟩ :=
    seenBy_cases (halike.record id)
  · rw [finish_getCard_hidden hleft, finish_getCard_hidden hright]
    exact coincide_same halike _
  · rw [getCard, Cloud.finish_read rfl rfl, Cloud.finish_read rfl rfl]
    simp only [recordOf] at hleft hright
    simp only [Statement.reply, hleft, hright]
    split
    · exact coincide_same halike _
    · next hpublished =>
      have hsees : seesBody viewer question = true := by
        have hstatus := (not_or.mp hpublished).2
        simp [seesBody, not_not.mp hstatus]
      rw [hsees] at hanswer
      have hsame := answers_eq (fun _ => recordOf_questionId) (fun _ => recordOf_questionId)
        hanswer
      refine @coincide_read viewer left right (.answerFor id) View _ halike
        (fun _ => rfl) hsame ?_
      rw [Cloud.finish_read rfl rfl, Cloud.finish_read rfl rfl]
      simp only [Statement.reply]
      rw [halike.creator question.answererWallet]
      exact coincide_same halike _

/-! ## Writing questions -/

theorem isVisible_of_answerer (hanswerer : wallet = question.answererWallet) :
    isVisible (some wallet) question = true := by
  apply isVisible_of_takesPart
  simp [takesPart, hanswerer]

/-- Publishing shows the answerer nothing new. -/
theorem LooksAlike.publish (halike : LooksAlike (some wallet) left right)
    (hleft : (recordOf left.database.toTables id).question = some question)
    (hright : (recordOf right.database.toTables id).question = some question)
    (hanswerer : wallet = question.answererWallet) :
    sightOf (some wallet) ((Statement.publishQuestion id now).effect left.database.toTables) =
      sightOf (some wallet)
        ((Statement.publishQuestion id now).effect right.database.toTables) := by
  have hanswer : (recordOf left.database.toTables id).answer.map
      (seenAnswer (seesBody (some wallet) question)) =
      (recordOf right.database.toTables id).answer.map
        (seenAnswer (seesBody (some wallet) question)) := by
    obtain ⟨hhidden, -⟩ | ⟨other, -, hother, -, hanswer⟩ := seenBy_cases (halike.record id)
    · exact absurd (hhidden question hleft) (by simp [isVisible_of_answerer hanswerer])
    · obtain rfl := Option.some_inj.mp (hleft.symm.trans hother)
      exact hanswer
  apply halike.effect (fun _ => rfl)
  intro target
  by_cases htarget : target = id
  · subst htarget
    have hvisible : isVisible (some wallet) (Statement.publish now question) = true :=
      isVisible_of_answerer hanswerer
    have hpublished : Statement.publish now question =
        if question.id = target then Statement.publish now question else question :=
      (if_pos (recordOf_id hleft)).symm
    rw [Statement.onRecord, Statement.onRecord, hleft, hright, Option.map_some,
      ← hpublished, seenBy_of_visible rfl hvisible, seenBy_of_visible rfl hvisible]
    exact congrArg (fun seen => some (_, seen)) hanswer
  · have hkept (cloud : Cloud) : (Statement.publishQuestion id now).onRecord target
        (recordOf cloud.database.toTables target) =
          recordOf cloud.database.toTables target := by
      rw [Statement.onRecord]
      cases hrow : (recordOf cloud.database.toTables target).question with
      | none => exact QuestionRecord.ext hrow.symm rfl
      | some row => rw [Option.map_some, recordOf_id hrow, if_neg htarget, ← hrow]
    rw [hkept, hkept]
    exact halike.record target

theorem coincide_publishQuestion (halike : LooksAlike (some wallet) left right) (id : Text)
    (now : ℕ) :
    Coincide (LooksAlike (some wallet)) (left.finish (publishQuestion wallet id now))
      (right.finish (publishQuestion wallet id now)) := by
  obtain ⟨hleft, hright⟩ | ⟨question, -, hleft, hright, -⟩ :=
    seenBy_cases (halike.record id)
  · rw [finish_publishQuestion_hidden hleft, finish_publishQuestion_hidden hright]
    exact coincide_same halike _
  · rw [publishQuestion, Cloud.finish_read rfl rfl, Cloud.finish_read rfl rfl]
    have hfound : Table.lookup Question.id left.database.questions id = some question := hleft
    have hother : Table.lookup Question.id right.database.questions id = some question := hright
    simp only [Statement.reply, hfound, hother]
    by_cases hanswerer : wallet = question.answererWallet
    · rw [if_neg (not_not.mpr hanswerer)]
      split
      · exact coincide_refuse halike _ _ _
      · apply coincide_query halike
        · exact ⟨fun _ => publish_consistent right.database.consistent id now,
            fun _ => publish_consistent left.database.consistent id now⟩
        · simp only [Statement.reply, hfound, hother]
        · exact halike.publish hleft hright hanswerer
        · intro updated before after hlooks
          cases updated with
          | none => exact coincide_same hlooks _
          | some updated => exact coincide_same hlooks _
    · rw [if_pos hanswerer]
      split
      · exact coincide_refuse halike _ _ _
      · exact coincide_same halike _

/-- The answerer of a question sees the whole answer. -/
theorem LooksAlike.answer (halike : LooksAlike (some wallet) left right)
    (hleft : (recordOf left.database.toTables id).question = some question)
    (hanswerer : wallet = question.answererWallet) :
    (recordOf left.database.toTables id).answer =
      (recordOf right.database.toTables id).answer := by
  obtain ⟨hhidden, -⟩ | ⟨other, -, hother, -, hanswer⟩ := seenBy_cases (halike.record id)
  · exact absurd (hhidden question hleft) (by simp [isVisible_of_answerer hanswerer])
  · obtain rfl := Option.some_inj.mp (hleft.symm.trans hother)
    have hsees : seesBody (some wallet) question = true := by simp [seesBody, hanswerer]
    rw [hsees] at hanswer
    exact answers_eq (fun _ => recordOf_questionId) (fun _ => recordOf_questionId) hanswer

/-- What is saved over an answer that is seen is seen. -/
theorem LooksAlike.save (halike : LooksAlike (some wallet) left right) {saved : Answer}
    (hleft : (recordOf left.database.toTables saved.questionId).question = some question)
    (hright : (recordOf right.database.toTables saved.questionId).question = some question)
    (hanswerer : wallet = question.answererWallet) :
    sightOf (some wallet) ((Statement.upsertAnswer saved).effect left.database.toTables) =
      sightOf (some wallet)
        ((Statement.upsertAnswer saved).effect right.database.toTables) := by
  apply halike.effect (fun _ => rfl)
  intro target
  rw [Statement.onRecord, Statement.onRecord]
  split
  · next htarget =>
    subst htarget
    rw [hleft, hright, halike.answer hleft hanswerer]
  · exact halike.record target

theorem coincide_postAnswer (halike : LooksAlike (some wallet) left right) (id : Text)
    (fields : RequestBody AnswerFields) (now : ℕ) :
    Coincide (LooksAlike (some wallet)) (left.finish (postAnswer wallet id fields now))
      (right.finish (postAnswer wallet id fields now)) := by
  cases hok : parseBody answerBody fields with
  | error failure =>
      rw [postAnswer, hok]
      exact coincide_same halike _
  | ok body =>
      obtain ⟨hleft, hright⟩ | ⟨question, -, hleft, hright, -⟩ :=
        seenBy_cases (halike.record id)
      · rw [finish_postAnswer_hidden hok hleft, finish_postAnswer_hidden hok hright]
        exact coincide_same halike _
      · rw [postAnswer, hok, Program.ofExcept, Program.ret_bind, Cloud.finish_read rfl rfl,
          Cloud.finish_read rfl rfl]
        have hfound : Table.lookup Question.id left.database.questions id = some question :=
          hleft
        have hother : Table.lookup Question.id right.database.questions id = some question :=
          hright
        simp only [Statement.reply, hfound, hother]
        by_cases hanswerer : wallet = question.answererWallet
        · rw [if_neg (not_not.mpr hanswerer)]
          split
          · exact coincide_refuse halike _ _ _
          · have hknown {cloud : Cloud}
                (hrow : (recordOf cloud.database.toTables id).question = some question) :
                id ∈ cloud.database.questions.map Question.id :=
              List.mem_map.mpr ⟨question, Table.lookup_mem hrow, recordOf_id hrow⟩
            have hanswer : Table.lookup Answer.questionId left.database.answers id =
                Table.lookup Answer.questionId right.database.answers id :=
              halike.answer hleft hanswerer
            change Coincide _ (left.finish (query (.upsertAnswer (savedAnswer id body now))
              >>= _)) (right.finish (query (.upsertAnswer (savedAnswer id body now)) >>= _))
            apply coincide_query halike
            · rw [upsertAnswer_consistent_iff (hknown hleft),
                upsertAnswer_consistent_iff (hknown hright)]
            · simp only [Statement.reply, savedAnswer, hanswer]
            · exact halike.save hleft hright hanswerer
            · intro saved before after hlooks
              exact coincide_same hlooks _
        · rw [if_pos hanswerer]
          split
          · exact coincide_refuse halike _ _ _
          · exact coincide_same halike _

end Questions

/-! ## Profiles -/

section Profiles

variable {viewer : Option Text} {wallet : Text} {left right : Cloud}

theorem LooksAlike.claim (halike : LooksAlike (some wallet) left right) (row : Creator) :
    sightOf (some wallet) ((Statement.insertCreator row).effect left.database.toTables) =
      sightOf (some wallet)
        ((Statement.insertCreator row).effect right.database.toTables) := by
  have hquestions := congrArg Sight.questions halike.sight
  apply Sight.ext
  · change Table.lookup Creator.wallet (left.database.creators ++ [row]) wallet =
      Table.lookup Creator.wallet (right.database.creators ++ [row]) wallet
    rw [Table.lookup_append, Table.lookup_append, halike.profile]
  · funext key
    change (Table.lookup Creator.wallet (left.database.creators ++ [row]) key).map _ =
      (Table.lookup Creator.wallet (right.database.creators ++ [row]) key).map _
    rw [Table.lookup_append, Table.lookup_append, Option.map_or, Option.map_or,
      halike.creator key]
  · exact hquestions

theorem LooksAlike.edit (halike : LooksAlike (some wallet) left right)
    (patch : CreatorPatch) :
    sightOf (some wallet)
        ((Statement.updateCreator wallet patch).effect left.database.toTables) =
      sightOf (some wallet)
        ((Statement.updateCreator wallet patch).effect right.database.toTables) := by
  have hquestions := congrArg Sight.questions halike.sight
  have hkeeps (row : Creator) : (patch.apply row).wallet = row.wallet := rfl
  have hown : Table.lookup Creator.wallet (Table.update (fun row => row.wallet = wallet)
      patch.apply left.database.creators) wallet =
      Table.lookup Creator.wallet (Table.update (fun row => row.wallet = wallet)
        patch.apply right.database.creators) wallet := by
    rw [Table.lookup_update hkeeps, Table.lookup_update hkeeps, halike.profile]
  have hothers (cloud : Cloud) {key : Text} (hkey : key ≠ wallet) :
      Table.lookup Creator.wallet (Table.update (fun row => row.wallet = wallet)
        patch.apply cloud.database.creators) key =
      Table.lookup Creator.wallet cloud.database.creators key := by
    rw [Table.lookup_update hkeeps]
    cases hrow : Table.lookup Creator.wallet cloud.database.creators key with
    | none => rfl
    | some row => simp [Table.lookup_key hrow, hkey]
  apply Sight.ext
  · exact hown
  · funext key
    simp only [sightOf, Statement.effect]
    by_cases hkey : key = wallet
    · rw [hkey, hown]
    · rw [hothers left hkey, hothers right hkey, halike.creator key]
  · exact hquestions

theorem coincide_claimHandle (halike : LooksAlike (some wallet) left right)
    (fields : RequestBody ClaimFields) (now : ℕ) :
    Coincide (LooksAlike (some wallet)) (left.finish (claimHandle wallet fields now))
      (right.finish (claimHandle wallet fields now)) := by
  rw [claimHandle]
  apply coincide_ofExcept halike
  intro body _
  split
  · exact coincide_refuse halike _ _ _
  · refine @coincide_read _ left right (.creatorByWallet wallet) View _ halike
      (fun _ => rfl) halike.profile ?_
    simp only [Statement.reply]
    cases hnew : Table.lookup Creator.wallet right.database.creators wallet with
    | some existing => exact coincide_refuse halike _ _ _
    | none =>
        have hother : Table.lookup Creator.wallet left.database.creators wallet = none :=
          halike.profile.trans hnew
        apply coincide_database halike
        · rw [insertCreator_consistent_iff hother, insertCreator_consistent_iff hnew,
            halike.freeHandle]
        · rfl
        · exact halike.claim _
        · intro result before after hlooks
          cases result with
          | ok created => exact coincide_same hlooks _
          | error failure =>
              cases failure with
              | «unique» => exact coincide_refuse hlooks _ _ _
              | constraint | mismatch => exact coincide_same hlooks _

theorem coincide_ownProfile {A : Type} {next : Creator → Handler A}
    (halike : LooksAlike (some wallet) left right)
    (hnext : ∀ row,
      Table.lookup Creator.wallet left.database.creators wallet = some row →
      Table.lookup Creator.wallet right.database.creators wallet = some row →
      Coincide (LooksAlike (some wallet)) (left.finish (next row)) (right.finish (next row))) :
    Coincide (LooksAlike (some wallet)) (left.finish (ownProfile wallet >>= next))
      (right.finish (ownProfile wallet >>= next)) := by
  rw [Cloud.finish_ownProfile, Cloud.finish_ownProfile, halike.profile]
  cases hrow : Table.lookup Creator.wallet right.database.creators wallet with
  | none => exact coincide_same halike _
  | some row => exact hnext row (halike.profile.trans hrow) hrow

/-- Changing one's own profile. -/
theorem coincide_updateProfile {A : Type} {patch : CreatorPatch} {row : Creator}
    {next : Creator → Handler A} (halike : LooksAlike (some wallet) left right)
    (hleft : Table.lookup Creator.wallet left.database.creators wallet = some row)
    (hright : Table.lookup Creator.wallet right.database.creators wallet = some row)
    (hnext : ∀ updated before after, LooksAlike (some wallet) before after →
      Coincide (LooksAlike (some wallet)) (Cloud.finish before (next updated))
        (Cloud.finish after (next updated))) :
    Coincide (LooksAlike (some wallet))
      (left.finish (updateProfile wallet patch >>= next))
      (right.finish (updateProfile wallet patch >>= next)) := by
  simp only [updateProfile, bind_assoc]
  apply coincide_query halike
  · rw [updateCreator_consistent_iff hleft, updateCreator_consistent_iff hright]
  · simp only [Statement.reply, hleft, hright]
  · exact halike.edit patch
  · intro updated before after hlooks
    cases updated with
    | none => exact coincide_same hlooks _
    | some updated => exact hnext (presentOwnerCreator updated) before after hlooks

theorem coincide_putProfile (halike : LooksAlike (some wallet) left right)
    (runtime : Runtime) (fields : RequestBody ProfileFields) (now : ℕ) :
    Coincide (LooksAlike (some wallet))
      (left.finish (putProfile runtime wallet fields now))
      (right.finish (putProfile runtime wallet fields now)) := by
  rw [putProfile]
  apply coincide_ofExcept halike
  intro body _
  apply coincide_ownProfile halike
  intro row hleft hright
  apply coincide_updateProfile halike hleft hright
  exact fun updated before after hlooks => coincide_same hlooks _

theorem coincide_postAvatar (halike : LooksAlike (some wallet) left right)
    (upload : AvatarUpload) (now : ℕ) :
    Coincide (LooksAlike (some wallet)) (left.finish (postAvatar wallet upload now))
      (right.finish (postAvatar wallet upload now)) := by
  rw [postAvatar]
  simp only
  split
  · exact coincide_refuse halike _ _ _
  · split
    · exact coincide_refuse halike _ _ _
    · split
      · exact coincide_refuse halike _ _ _
      · split
        · exact coincide_refuse halike _ _ _
        · apply coincide_ownProfile halike
          intro row hleft hright
          rw [Cloud.finish_call_bind, Cloud.finish_call_bind]
          apply coincide_updateProfile halike hleft hright
          exact fun updated before after hlooks => coincide_same hlooks _

theorem coincide_getMe (halike : LooksAlike (some wallet) left right) :
    Coincide (LooksAlike (some wallet)) (left.finish (getMe wallet))
      (right.finish (getMe wallet)) := by
  refine @coincide_read _ left right (.creatorByWallet wallet) View _ halike
    (fun _ => rfl) halike.profile ?_
  exact coincide_same halike _

/-- A board shows what is public of a creator. -/
theorem coincide_getBoard (halike : LooksAlike viewer left right) (raw : Text) :
    Coincide (LooksAlike viewer) (left.finish (getBoard raw)) (right.finish (getBoard raw)) := by
  rw [getBoard]
  split
  · exact coincide_same halike _
  · have hpublic := halike.handle (normalizeHandle raw)
    rw [Cloud.finish_read rfl rfl, Cloud.finish_read rfl rfl]
    simp only [Statement.reply]
    cases hleft : Table.lookup Creator.handle left.database.creators (normalizeHandle raw) with
    | none =>
        rw [(halike.freeHandle _).mp hleft]
        exact coincide_same halike _
    | some creator =>
        rw [hleft, Option.map_some] at hpublic
        obtain ⟨other, hright, hsame⟩ := Option.map_eq_some_iff.mp hpublic.symm
        rw [hright]
        simp only [hsame]
        exact coincide_same halike _

end Profiles

/-! ## Asking -/

section Asking

variable {viewer : Option Text} {left right : Cloud} {request : QuestionRequest}
variable {row : Question}

/-- The price and the wallet of a creator are public. -/
theorem judge_congr {body : CreateQuestionBody} {first second : Option Creator}
    (hpublic : first.map presentPublicCreator = second.map presentPublicCreator) :
    judge request body first = judge request body second := by
  cases first with
  | none =>
      rw [(none_iff_of_map hpublic).mp rfl]
  | some creator =>
      obtain ⟨other, rfl, hsame⟩ := Option.map_eq_some_iff.mp hpublic.symm
      have hwallet : other.wallet = creator.wallet := congrArg PublicCreator.wallet hsame
      have hprice : other.minPriceUsdc = creator.minPriceUsdc :=
        congrArg PublicCreator.minPriceUsdc hsame
      simp only [judge, QuestionRequest.draft, hwallet, hprice]

theorem LooksAlike.compose (halike : LooksAlike viewer left right) :
    request.compose left.database.creators = request.compose right.database.creators := by
  cases hbody : parseBody createQuestionBody request.body with
  | error failure => rw [compose_of_error hbody, compose_of_error hbody]
  | ok body =>
      rw [compose_of_body hbody, compose_of_body hbody,
        judge_congr (halike.handle body.handle)]

/-- Of an id that is not in use there are no rows. -/
theorem recordOf_fresh {cloud : Cloud} {id : Text}
    (hfresh : id ∉ cloud.database.questions.map Question.id) :
    recordOf cloud.database.toTables id = ⟨none, none⟩ := by
  apply QuestionRecord.ext
  · exact Table.lookup_eq_none.mpr fun row hrow hid =>
      hfresh (hid ▸ List.mem_map_of_mem hrow)
  · exact Table.lookup_eq_none.mpr fun answer hanswer hid =>
      hfresh (hid ▸ cloud.database.consistent.answers_question answer hanswer)

theorem LooksAlike.ask (halike : LooksAlike viewer left right)
    (hleft : row.id ∉ left.database.questions.map Question.id)
    (hright : row.id ∉ right.database.questions.map Question.id) :
    sightOf viewer ((Statement.insertQuestion row).effect left.database.toTables) =
      sightOf viewer ((Statement.insertQuestion row).effect right.database.toTables) := by
  apply halike.effect (fun _ => rfl)
  intro id
  rw [Statement.onRecord, Statement.onRecord]
  by_cases hid : row.id = id
  · subst hid
    rw [recordOf_fresh hleft, recordOf_fresh hright]
  · rw [if_neg hid, Option.or_none, Option.or_none]
    exact halike.record id

/-- Minting a question whose id is new to both. -/
theorem coincide_mint {A : Type} {next : Text → Handler A}
    (halike : LooksAlike viewer left right) (honchain : row.onchainId = none)
    (hleft : row.id ∉ left.database.questions.map Question.id)
    (hright : row.id ∉ right.database.questions.map Question.id)
    (hcreator : row.answererWallet ∈ left.database.creators.map Creator.wallet ∧
      row.answererWallet ∈ right.database.creators.map Creator.wallet)
    (hnext : ∀ id before after, LooksAlike viewer before after →
      Coincide (LooksAlike viewer) (Cloud.finish before (next id))
        (Cloud.finish after (next id))) :
    Coincide (LooksAlike viewer) (left.finish (mint row >>= next))
      (right.finish (mint row >>= next)) := by
  simp only [mint, bind_assoc]
  apply coincide_query halike
  · rw [insertQuestion_consistent_iff hleft honchain hcreator.1,
      insertQuestion_consistent_iff hright honchain hcreator.2]
  · rfl
  · exact halike.ask hleft hright
  · exact fun created before after hlooks => hnext created.id before after hlooks

theorem coincide_postQuestions (halike : LooksAlike viewer left right)
    (hleft : request.uuid ∉ left.database.questions.map Question.id)
    (hright : request.uuid ∉ right.database.questions.map Question.id) :
    Coincide (LooksAlike viewer) (left.finish (postQuestions request))
      (right.finish (postQuestions request)) := by
  rw [postQuestions_eq, finish_composeRow, finish_composeRow, halike.compose]
  cases hcompose : request.compose right.database.creators with
  | error failure => exact coincide_same halike _
  | ok row =>
      have hother := halike.compose.trans hcompose
      obtain ⟨body, creator, -, -, hcreator, hrow⟩ := compose_spec hother
      obtain ⟨_, other, -, -, hotherCreator, hsame⟩ := compose_spec hcompose
      have hcreators : row.answererWallet ∈ left.database.creators.map Creator.wallet ∧
          row.answererWallet ∈ right.database.creators.map Creator.wallet := by
        constructor
        · rw [hrow]
          exact List.mem_map_of_mem hcreator
        · rw [hsame]
          exact List.mem_map_of_mem hotherCreator
      have hid : row.id = request.uuid := by rw [hrow]; rfl
      have honchain : row.onchainId = none := by rw [hrow]; rfl
      rw [← hid] at hleft hright
      simp only
      rw [mintOnce]
      cases parseIdempotencyKey request.idempotencyKey with
      | none =>
          apply coincide_mint halike honchain hleft hright hcreators
          exact fun id before after hlooks => coincide_same hlooks _
      | some key =>
          simp only [withIdempotency]
          rw [Cloud.finish_call_bind, Cloud.finish_call_bind]
          simp only [Cloud.serve, halike.records]
          cases (right.records.get request.now (storeKey request.asker key)).join with
          | some value => exact coincide_same halike _
          | none =>
              apply coincide_mint halike honchain hleft hright hcreators
              intro id before after hlooks
              exact ⟨rfl, hlooks.sight, congrArg (fun records : Kv Text =>
                records.put request.now (storeKey request.asker key) id
                  IDEMPOTENCY_TTL_SECONDS) hlooks.records, hlooks.counters⟩

end Asking

/-! ## Requests -/

section Requests

variable {viewer : Option Text} {left right : Cloud} {context : RequestContext}

/-- The id that a request draws, if it is used at all, is not in use. -/
def Request.DrawsFresh (cloud : Cloud) : Request → Prop
  | .createQuestion _ _ uuid => uuid ∉ cloud.database.questions.map Question.id
  | _ => True

instance (cloud : Cloud) : (request : Request) → Decidable (request.DrawsFresh cloud)
  | .createQuestion _ _ uuid =>
    inferInstanceAs (Decidable (uuid ∉ cloud.database.questions.map Question.id))
  | .received _ _ | .asked _ _ | .detail _ | .publish _ | .card _ | .answer _ _ | .board _
  | .me | .claim _ | .profile _ | .avatar _ => isTrue trivial

theorem coincide_auth {A : Type} {next : Text → Handler A}
    (halike : LooksAlike context.wallet left right)
    (hnext : ∀ wallet, LooksAlike (some wallet) left right →
      Coincide (LooksAlike (some wallet)) (left.finish (next wallet))
        (right.finish (next wallet))) :
    Coincide (LooksAlike context.wallet) (left.finish (requireAuth context >>= next))
      (right.finish (requireAuth context >>= next)) := by
  rw [requireAuth]
  cases hwallet : context.wallet with
  | none => exact coincide_same (hwallet ▸ halike) _
  | some wallet => exact hnext wallet (hwallet ▸ halike)

theorem coincide_handler (runtime : Runtime) (request : Request)
    (halike : LooksAlike context.wallet left right) (hleft : request.DrawsFresh left)
    (hright : request.DrawsFresh right) :
    Coincide (LooksAlike context.wallet) (left.finish (handler runtime context request))
      (right.finish (handler runtime context request)) := by
  cases request with
  | createQuestion idempotencyKey body uuid =>
      apply coincide_auth halike
      intro wallet hlooks
      have hasked := @coincide_postQuestions (some wallet) left right {
        asker := wallet, idempotencyKey, body, uuid, now := context.now } hlooks hleft hright
      apply Program.coincide_bind hasked
      exact fun created before after hlooks => coincide_same hlooks _
  | received limit offset =>
      exact coincide_auth halike fun wallet hlooks =>
        coincide_listQuestions hlooks runtime _ limit offset
  | asked limit offset =>
      exact coincide_auth halike fun wallet hlooks =>
        coincide_listQuestions hlooks runtime _ limit offset
  | detail id =>
      exact coincide_auth halike fun wallet hlooks => coincide_getQuestion hlooks id
  | publish id =>
      exact coincide_auth halike fun wallet hlooks =>
        coincide_publishQuestion hlooks id context.now
  | card id => exact coincide_getCard halike id
  | answer id body =>
      exact coincide_auth halike fun wallet hlooks =>
        coincide_postAnswer hlooks id body context.now
  | board handle => exact coincide_getBoard halike handle
  | me => exact coincide_auth halike fun wallet hlooks => coincide_getMe hlooks
  | claim body =>
      exact coincide_auth halike fun wallet hlooks =>
        coincide_claimHandle hlooks body context.now
  | profile body =>
      exact coincide_auth halike fun wallet hlooks =>
        coincide_putProfile hlooks runtime body context.now
  | avatar upload =>
      exact coincide_auth halike fun wallet hlooks =>
        coincide_postAvatar hlooks upload context.now

theorem coincide_respond (rateLimit : Option RateLimitResult) {code : Handler View}
    (hcode : Coincide (LooksAlike viewer) (left.finish code) (right.finish code)) :
    Coincide (LooksAlike viewer) (left.finish (respond rateLimit code))
      (right.finish (respond rateLimit code)) := by
  rw [Cloud.finish_respond, Cloud.finish_respond, hcode.result]
  exact coincide_same hcode.alike _

/-- The limiter counts in the store, which is the same. -/
theorem coincide_consume {A : Type} (policy : RateLimitPolicy) (id : Text) (now : ℕ)
    {next : RateLimitResult → Program workers Empty A}
    (halike : LooksAlike viewer left right)
    (hnext : ∀ result before after, LooksAlike viewer before after →
      before.database = left.database → after.database = right.database →
      Coincide (LooksAlike viewer) (Cloud.finish before (next result))
        (Cloud.finish after (next result))) :
    Coincide (LooksAlike viewer) (left.finish (consume policy id now >>= next))
      (right.finish (consume policy id now >>= next)) := by
  obtain ⟨database, cursors, records, counters, height, journal⟩ := left
  obtain ⟨other, _, _, otherCounters, _, _⟩ := right
  obtain rfl : counters = otherCounters := halike.counters
  exact hnext _ _ _ ⟨halike.sight, halike.records, rfl⟩ rfl rfl

theorem coincide_handleRequest (runtime : Runtime) (request : Request)
    (halike : LooksAlike context.wallet left right) (hleft : request.DrawsFresh left)
    (hright : request.DrawsFresh right) :
    Coincide (LooksAlike context.wallet) (left.finish (handleRequest runtime context request))
      (right.finish (handleRequest runtime context request)) := by
  rw [handleRequest]
  cases limitOf request with
  | none => exact coincide_respond none (coincide_handler runtime request halike hleft hright)
  | some policy =>
      simp only [ipLimit]
      apply coincide_consume policy context.clientIp context.now halike
      intro result before after hlooks hbefore hafter
      have hfresh {cloud other : Cloud} (hsame : other.database = cloud.database)
          (hdraws : request.DrawsFresh cloud) : request.DrawsFresh other := by
        cases request with
        | createQuestion idempotencyKey body uuid =>
            rw [Request.DrawsFresh, hsame]
            exact hdraws
        | _ => exact trivial
      split
      · exact coincide_respond _ (coincide_handler runtime request hlooks
          (hfresh hbefore hleft) (hfresh hafter hright))
      · exact coincide_respond _ (coincide_same hlooks _)

theorem coincide_answer (runtime : Runtime) (request : Request)
    (halike : LooksAlike context.wallet left right) (hleft : request.DrawsFresh left)
    (hright : request.DrawsFresh right) :
    Coincide (LooksAlike context.wallet) (left.answer runtime context request)
      (right.answer runtime context request) := by
  have hhandled := coincide_handleRequest runtime request halike hleft hright
  rw [Cloud.answer, Cloud.answer]
  generalize left.finish (handleRequest runtime context request) = first at hhandled
  generalize right.finish (handleRequest runtime context request) = second at hhandled
  obtain ⟨result, before⟩ := first
  obtain ⟨other, after⟩ := second
  obtain rfl : result = other := hhandled.result
  cases result with
  | ok response => exact coincide_same hhandled.alike response
  | error impossible => exact impossible.elim

end Requests

end BuyAnAnswer.Workers
