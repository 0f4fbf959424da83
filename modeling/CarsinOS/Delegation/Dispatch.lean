import Mathlib.Data.List.ReduceOption
import CarsinOS.Delegation.Attempts
import CarsinOS.Delegation.Available

/-! The attempts of an effect over whole runs: an effect is dispatched again only after the recorder
has signed that the dispatch before it left nothing. -/
namespace CarsinOS.Delegation
open CarsinOS.Lib CarsinOS.Integrity CarsinOS.Receipt

/-- The evidence a result stands on. -/
def ResultProven (s : Store) (a : ProviderAttemptRow) : Prop :=
  ∀ state ∈ a.status.effect,
    (∀ kind ∈ executionKind state, AttemptProven s .execution kind a) ∧
      ∀ kind ∈ reconciledKind state, AttemptProven s .reconciliation kind a

/-- What holds of the attempts of a store. -/
structure AttemptsSound (s : Store) : Prop where
  ledger : Ledger ProviderAttemptRow.logicalEffectId ProviderAttemptRow.attemptNumber
    (fun a => a.status = .failed) s.providerAttempts.rows
  owned : ∀ a ∈ s.providerAttempts.rows, ∃ e ∈ s.logicalEffects.rows,
    e.logicalEffectId = a.logicalEffectId ∧ e.delegationId = a.delegationId
  proven : ∀ a ∈ s.providerAttempts.rows, ResultProven s a
  unobserved : ∀ a ∈ s.providerAttempts.rows, attemptIsTerminal a.status = false →
    ∀ evidence ∈ s.recorderEvidence.rows, evidence.attemptId ≠ a.attemptId
  named : ∀ evidence ∈ s.recorderEvidence.rows, ∃ a ∈ s.providerAttempts.rows,
    a.attemptId = evidence.attemptId

theorem initial_attempts : AttemptsSound Store.initial where
  ledger := ledger_empty
  owned _ member := (List.not_mem_nil member).elim
  proven _ member := (List.not_mem_nil member).elim
  unobserved _ member := (List.not_mem_nil member).elim
  named _ member := (List.not_mem_nil member).elim

/-! A result and its evidence. -/

def ProviderAttemptStatus.isDefinite : ProviderAttemptStatus → Bool
  | .succeeded | .failed | .reconciledAbsent | .reconciledPresent => true
  | _ => false

theorem attemptProven_mono {s s' : Store} {source : RecorderObservationSource}
    {kind : RecorderEvidenceResult} {a : ProviderAttemptRow}
    (grown : s.recorderEvidence.rows ⊆ s'.recorderEvidence.rows)
    (proven : AttemptProven s source kind a) : AttemptProven s' source kind a := by
  obtain ⟨evidence, member, rest⟩ := proven
  exact ⟨evidence, grown member, rest⟩

theorem resultProven_mono {s s' : Store} {a : ProviderAttemptRow}
    (grown : s.recorderEvidence.rows ⊆ s'.recorderEvidence.rows) (proven : ResultProven s a) :
    ResultProven s' a := fun state here =>
  ⟨fun kind known => attemptProven_mono grown ((proven state here).1 kind known),
    fun kind known => attemptProven_mono grown ((proven state here).2 kind known)⟩

/-- A result that is proven has its time. -/
theorem resultProven_finished {s : Store} {a : ProviderAttemptRow} (proven : ResultProven s a)
    (terminal : attemptIsTerminal a.status = true) : a.finishedAt ≠ none := by
  have evidence : ∃ source kind, AttemptProven s source kind a := by
    cases status : a.status <;> rw [status] at terminal <;> try cases terminal
    case succeeded => exact ⟨_, _, (proven .succeeded (by rw [status]; rfl)).1 .present rfl⟩
    case failed => exact ⟨_, _, (proven .failed (by rw [status]; rfl)).1 .absent rfl⟩
    case outcomeUnknown => exact ⟨_, _, (proven .outcomeUnknown (by rw [status]; rfl)).1 .unknown rfl⟩
    case reconciledAbsent =>
      exact ⟨_, _, (proven .reconciledAbsent (by rw [status]; rfl)).2 .absent rfl⟩
    case reconciledPresent =>
      exact ⟨_, _, (proven .reconciledPresent (by rw [status]; rfl)).2 .present rfl⟩
  obtain ⟨_, _, row, -, -, -, -, -, -, -, -, finished⟩ := evidence
  rw [← finished]
  simp

/-- The status changes of an attempt that has a result after them. -/
theorem moves_status {s : Store} {old new : ProviderAttemptRow} (moves : AttemptMoves s old new)
    (terminal : attemptIsTerminal new.status = true) :
    new.status = old.status ∧ attemptIsTerminal old.status = true ∨
      old.status = .invoking ∧ new.status ∈ [.succeeded, .failed, .outcomeUnknown] ∨
      old.status = .outcomeUnknown ∧ new.status ∈ [.reconciledAbsent, .reconciledPresent] := by
  have next := moves.1
  cases before : old.status <;> rw [before] at next <;>
    simp only [ProviderAttemptStatus.next, List.mem_cons, List.not_mem_nil, or_false] at next
  case prepared => rcases next with same | same <;> rw [same] at terminal <;> cases terminal
  case invoking =>
    rcases next with same | rest
    · rw [same] at terminal
      cases terminal
    · exact .inr (.inl ⟨rfl, by simpa using rest⟩)
  case outcomeUnknown =>
    rcases next with same | rest
    · exact .inl ⟨same, rfl⟩
    · exact .inr (.inr ⟨rfl, by simpa using rest⟩)
  all_goals exact .inl ⟨next, rfl⟩

/-- An attempt that keeps its status keeps its result. -/
theorem moves_kept {s s' : Store} {old new : ProviderAttemptRow} (proven : ResultProven s old)
    (same : SameAttempt old new) (moves : AttemptMoves s' old new)
    (kept : new.status = old.status) (terminal : attemptIsTerminal old.status = true) :
    new = old := by
  obtain changed | ⟨response, errorClass, remote, finished⟩ :=
    moves.2.2.2 (resultProven_finished proven terminal)
  · exact absurd kept changed
  · rw [SameAttempt, kept, response, errorClass, remote, finished] at same
    exact same

theorem moves_proven {s s' : Store} {old new : ProviderAttemptRow}
    (grown : s.recorderEvidence.rows ⊆ s'.recorderEvidence.rows) (proven : ResultProven s old)
    (same : SameAttempt old new) (moves : AttemptMoves s' old new)
    (terminal : attemptIsTerminal new.status = true) : ResultProven s' new := by
  have executed := moves.2.1
  have reconciled := moves.2.2.1
  rcases moves_status moves terminal with ⟨kept, before⟩ | ⟨before, result⟩ | ⟨before, result⟩
  · rw [moves_kept proven same moves kept before]
    exact resultProven_mono grown proven
  · refine fun state here => ⟨executed before state here, ?_⟩
    simp only [List.mem_cons, List.not_mem_nil, or_false] at result
    rcases result with same | same | same <;> rw [same] at here <;> cases here <;>
      exact fun kind none => nomatch none
  · refine fun state here => ⟨?_, reconciled before state here⟩
    simp only [List.mem_cons, List.not_mem_nil, or_false] at result
    rcases result with same | same <;> rw [same] at here <;> cases here <;>
      exact fun kind none => nomatch none

/-! The next attempt. -/

/-- The latest attempt is the last of its effect. -/
theorem latestAttempt_last {s : Store} (sound : AttemptsSound s) (id : Text) :
    match (triesOf ProviderAttemptRow.logicalEffectId id s.providerAttempts.rows).getLast? with
    | none => s.latestAttempt id = none
    | some row => ∃ existing, s.latestAttempt id = some existing ∧ existing.status = row.status ∧
        existing.attemptNumber = row.attemptNumber := by
  have highest := highest_last (sound.ledger.numbered id)
  have latest : s.latestAttempt id = ((triesOf ProviderAttemptRow.logicalEffectId id
      s.providerAttempts.rows).getLast?).bind fun row => s.attemptById row.attemptId := by
    rw [← highest]
    rfl
  rw [latest]
  split
  · rename_i none
    rw [none]
    rfl
  · rename_i row found
    obtain ⟨member, subject⟩ := mem_tries.mp (List.mem_of_getLast? found)
    obtain ⟨e, stored, key, owner⟩ := sound.owned row member
    have effect : s.logicalEffects.find? row.logicalEffectId = some e := by
      rw [← key]
      exact Table.find?_of_mem stored
    rw [found, Option.bind_some, Store.attemptById, Table.find?_of_mem member, Option.bind_some,
      Store.attemptRecord, effect]
    simp [Option.filter, owner]

theorem mayTry_next {s : Store} {row : ProviderAttemptRow} (sound : AttemptsSound s)
    (next : MayTry (s.latestAttempt row.logicalEffectId) row.attemptNumber) :
    NextTry ProviderAttemptRow.logicalEffectId ProviderAttemptRow.attemptNumber
      (fun a => a.status = .failed) s.providerAttempts.rows row := by
  have last := latestAttempt_last sound row.logicalEffectId
  unfold NextTry
  split at last
  · rename_i none
    rw [none]
    rw [last] at next
    exact next
  · rename_i before found
    obtain ⟨existing, latest, status, number⟩ := last
    rw [found]
    rw [latest] at next
    exact ⟨status.symm.trans next.1, number ▸ next.2⟩

/-! What a write keeps. -/

/-- No result comes without an import: an attempt that has none has no evidence. -/
theorem no_reports {s s' : Store} {p : ProviderAttemptRow → Bool}
    {f : ProviderAttemptRow → ProviderAttemptRow} (sound : AttemptsSound s) :
    ¬Reports s s' p f := by
  rintro ⟨⟨same, moves, terminal⟩, ⟨row, member, hit, invoking⟩, -⟩
  have id : (f row).attemptId = row.attemptId := by
    rw [same row hit]
  have unseen := sound.unobserved row member (by rw [invoking]; rfl)
  have proven : ∃ kind, AttemptProven s .execution kind (f row) := by
    rcases moves_status (moves row member hit) (terminal row hit) with
      ⟨-, before⟩ | ⟨-, result⟩ | ⟨before, -⟩
    · rw [invoking] at before
      cases before
    · have executed := (moves row member hit).2.1 invoking
      simp only [List.mem_cons, List.not_mem_nil, or_false] at result
      rcases result with same | same | same <;> rw [same] at executed
      · exact ⟨_, executed .succeeded rfl .present rfl⟩
      · exact ⟨_, executed .failed rfl .absent rfl⟩
      · exact ⟨_, executed .outcomeUnknown rfl .unknown rfl⟩
    · rw [invoking] at before
      cases before
  obtain ⟨_, evidence, inside, names, -⟩ := proven
  exact unseen evidence inside (names.trans id)

theorem besideAttempts_sound {s s' : Store} (beside : BesideAttempts s s') (sound : AttemptsSound s) :
    AttemptsSound s' := by
  obtain ⟨attempts, evidence, effects⟩ := beside
  constructor
  · rw [attempts]
    exact sound.ledger
  · rw [attempts]
    intro a member
    obtain ⟨e, stored, key, owner⟩ := sound.owned a member
    obtain ⟨e', stored', key', owner'⟩ := effects e stored
    exact ⟨e', stored', key'.trans key, owner'.trans owner⟩
  · rw [attempts]
    exact fun a member => resultProven_mono (by rw [evidence]; exact fun _ h => h)
      (sound.proven a member)
  · rw [attempts, evidence]
    exact sound.unobserved
  · rw [attempts, evidence]
    exact sound.named

theorem create_sound {s s' : Store} {row : ProviderAttemptRow} (prepared : row.status = .prepared)
    (next : MayTry (s.latestAttempt row.logicalEffectId) row.attemptNumber)
    (done : s.insertAttempt row = .ok s') (sound : AttemptsSound s) : AttemptsSound s' := by
  obtain ⟨providerAttempts, inserted, bound, -, rfl⟩ := insertAttempt_ok done
  have rows : providerAttempts.rows = s.providerAttempts.rows ++ [row] :=
    Table.insert?_rows inserted
  have fresh : ∀ a ∈ s.providerAttempts.rows, a.attemptId ≠ row.attemptId := by
    intro a member same
    have distinct := providerAttempts.distinct
    rw [rows, List.map_append, List.nodup_append] at distinct
    exact distinct.2.2 a.attemptId (List.mem_map_of_mem member) row.attemptId (by simp) same
  have each {P : ProviderAttemptRow → Prop} (old : ∀ a ∈ s.providerAttempts.rows, P a)
      (new : P row) : ∀ a ∈ providerAttempts.rows, P a := by
    intro a member
    rw [rows] at member
    rcases List.mem_append.mp member with early | late
    · exact old a early
    · cases List.mem_singleton.mp late
      exact new
  constructor
  · simp only [rows]
    exact ledger_append sound.ledger (mayTry_next sound next)
  · refine each sound.owned ?_
    obtain ⟨h, -, -, -, -, -, -, -, -, -, -, -, e, stored, key, owner, -⟩ := bound
    exact ⟨e, stored, key, owner⟩
  · refine each sound.proven fun state here => ?_
    rw [prepared] at here
    cases here
  · refine each sound.unobserved fun _ evidence inside names => ?_
    obtain ⟨a, member, same⟩ := sound.named evidence inside
    exact fresh a member (same.trans names)
  · intro evidence inside
    obtain ⟨a, member, same⟩ := sound.named evidence inside
    refine ⟨a, ?_, same⟩
    rw [rows]
    exact List.mem_append_left _ member

theorem imported_sound {s s' : Store} {row : RecorderEvidenceRow} {p : ProviderAttemptRow → Bool}
    {f : ProviderAttemptRow → ProviderAttemptRow} (imports : Imports s s' row p f)
    (sound : AttemptsSound s) : AttemptsSound s' := by
  obtain ⟨admitted, evidence, ⟨same, moves, terminal⟩, named, attempts, settled, effects⟩ := imports
  have grown : s.recorderEvidence.rows ⊆ s'.recorderEvidence.rows := by
    rw [evidence]
    exact List.subset_append_left _ _
  have identity (a : ProviderAttemptRow) : (if p a then f a else a).attemptId = a.attemptId ∧
      (if p a then f a else a).logicalEffectId = a.logicalEffectId ∧
      (if p a then f a else a).attemptNumber = a.attemptNumber ∧
      (if p a then f a else a).delegationId = a.delegationId := by
    split
    · rename_i hit
      rw [same a hit]
      exact ⟨rfl, rfl, rfl, rfl⟩
    · exact ⟨rfl, rfl, rfl, rfl⟩
  have changed : ∀ a ∈ s.providerAttempts.rows, p a = true → a.status = .failed → f a = a := by
    intro a member hit failed
    rcases moves_status (moves a member hit) (terminal a hit) with
      ⟨kept, before⟩ | ⟨before, -⟩ | ⟨before, -⟩
    · exact moves_kept (sound.proven a member) (same a hit) (moves a member hit) kept before
    · rw [failed] at before
      cases before
    · rw [failed] at before
      cases before
  constructor
  · rw [attempts]
    refine ledger_map sound.ledger (fun a => (identity a).2.1) (fun a => (identity a).2.2.1) ?_
    intro a member failed
    split
    · rename_i hit
      rw [changed a member hit failed]
      exact failed
    · exact failed
  · rw [attempts]
    intro a' member
    obtain ⟨a, inside, rfl⟩ := List.mem_map.mp member
    obtain ⟨e, stored, key, owner⟩ := sound.owned a inside
    obtain ⟨e', stored', key', owner'⟩ := effects e stored
    obtain ⟨-, subject, -, delegation⟩ := identity a
    exact ⟨e', stored', (key'.trans key).trans subject.symm,
      (owner'.trans owner).trans delegation.symm⟩
  · rw [attempts]
    intro a' member
    obtain ⟨a, inside, rfl⟩ := List.mem_map.mp member
    split
    · rename_i hit
      exact moves_proven grown (sound.proven a inside) (same a hit) (moves a inside hit)
        (terminal a hit)
    · exact resultProven_mono grown (sound.proven a inside)
  · intro a' member opened seen inside names
    rw [evidence] at inside
    rcases List.mem_append.mp inside with early | late
    · rw [attempts] at member
      obtain ⟨a, present, rfl⟩ := List.mem_map.mp member
      rw [(identity a).1] at names
      refine sound.unobserved a present ?_ seen early names
      split at opened
      · rename_i hit
        rw [terminal a hit] at opened
        cases opened
      · exact opened
    · cases List.mem_singleton.mp late
      rw [settled a' member names.symm] at opened
      cases opened
  · intro seen inside
    rw [evidence] at inside
    have known : ∃ a ∈ s.providerAttempts.rows, a.attemptId = seen.attemptId := by
      rcases List.mem_append.mp inside with early | late
      · exact sound.named seen early
      · cases List.mem_singleton.mp late
        obtain ⟨a, member, key, -⟩ := admitted
        exact ⟨a, member, key⟩
    obtain ⟨a, member, key⟩ := known
    refine ⟨_, ?_, (identity a).1.trans key⟩
    rw [attempts]
    exact List.mem_map_of_mem member

theorem attemptWrite_sound {s s' : Store} (write : AttemptWrite s s') (sound : AttemptsSound s) :
    AttemptsSound s' := by
  cases write with
  | beside other => exact besideAttempts_sound other sound
  | create prepared next done => exact create_sound prepared next done sound
  | report reports => exact absurd reports (no_reports sound)
  | imported imports => exact imported_sound imports sound

theorem invokeAttempt_same (attemptId : Text) :
    (∀ a, (invokeAttempt attemptId a).attemptId = a.attemptId) ∧
      ∀ a, (invokeAttempt attemptId a).logicalEffectId = a.logicalEffectId := by
  constructor <;>
  · intro a
    unfold invokeAttempt
    split <;> rfl

theorem begins_sound {s s' : Store} {attempt : ProviderAttemptRecord}
    (begins : Begins s s' attempt) (sound : AttemptsSound s) : AttemptsSound s' := by
  obtain ⟨⟨row, member, key, -, prepared⟩, attempts, evidence, effects⟩ := begins
  obtain ⟨ids, subjects⟩ := invokeAttempt_same attempt.attemptId
  have hit {a : ProviderAttemptRow} (inside : a ∈ s.providerAttempts.rows)
      (same : a.attemptId = attempt.attemptId) : a.status = .prepared := by
    rw [Table.eq_of_key inside member (same.trans key.symm)]
    exact prepared
  constructor
  · rw [attempts]
    refine ledger_map sound.ledger subjects (fun a => ?_) fun a inside failed => ?_
    · unfold invokeAttempt
      split <;> rfl
    · unfold invokeAttempt
      split
      · rename_i same
        rw [hit inside same] at failed
        cases failed
      · exact failed
  · rw [attempts]
    intro a' inside
    obtain ⟨a, old, rfl⟩ := List.mem_map.mp inside
    obtain ⟨e, stored, subject, owner⟩ := sound.owned a old
    obtain ⟨e', stored', subject', owner'⟩ := effects e stored
    refine ⟨e', stored', (subject'.trans subject).trans (subjects a).symm, ?_⟩
    rw [owner', owner, invokeAttempt]
    split <;> rfl
  · rw [attempts]
    intro a' inside
    obtain ⟨a, old, rfl⟩ := List.mem_map.mp inside
    unfold invokeAttempt
    split
    · intro state here
      cases here
      exact ⟨fun _ kind => (by cases kind), fun _ kind => by cases kind⟩
    · exact resultProven_mono (by rw [evidence]; exact fun _ h => h) (sound.proven a old)
  · rw [attempts, evidence]
    intro a' inside opened
    obtain ⟨a, old, rfl⟩ := List.mem_map.mp inside
    rw [ids]
    by_cases same : a.attemptId = attempt.attemptId
    · exact sound.unobserved a old (by rw [hit old same]; rfl)
    · rw [invokeAttempt, if_neg same] at opened
      exact sound.unobserved a old opened
  · rw [evidence, attempts]
    intro seen inside
    obtain ⟨a, old, same⟩ := sound.named seen inside
    exact ⟨_, List.mem_map_of_mem old, (ids a).trans same⟩

/-! The runs. -/

/-- A command that may touch attempts, with what it finds in other tables. -/
inductive AttemptCommand where
  | work (command : WorkCommand)
  | recordResult (command : RecordProviderAttemptResultCommand)
  | recover (J : Coordinator) (planned : Anyhow RecoveryFacts) (payload : Text)
      (command : ProviderRecoveryCommand)

section Run
variable (K : FenceCrates) (setDigest : ReservationSetDigest)

def AttemptCommand.run (s : Store) : AttemptCommand → Anyhow Store
  | .work command => command.run K setDigest s
  | .recordResult command => Prod.snd <$> recordProviderAttemptResult K setDigest command s
  | .recover J planned payload command =>
    Prod.snd <$> applyProviderRecovery K J planned payload command s

/-- The attempt whose invocation a command authorises: the provider is called after this alone. -/
def AttemptCommand.dispatched (s : Store) : AttemptCommand → Option ProviderAttemptRecord
  | .work (.beginAttempt command) =>
    match beginProviderAttemptInvocation K setDigest command s with
    | .ok (.began attempt, _) => some attempt
    | _ => none
  | _ => none

/-- A step of a run. The label is the attempt it dispatches, if any. -/
inductive AttemptStep : Store → Option ProviderAttemptRecord → Store → Prop where
  | command {s s' : Store} {c : AttemptCommand} (done : c.run K setDigest s = .ok s') :
      AttemptStep s (c.dispatched K setDigest s) s'
  | other {s s' : Store} (beside : BesideAttempts s s') : AttemptStep s none s'

end Run

/-- A step dispatches an attempt, or it only writes. -/
theorem attemptStep_cases {K : FenceCrates} {setDigest : ReservationSetDigest} {s s' : Store}
    {label : Option ProviderAttemptRecord} (step : AttemptStep K setDigest s label s') :
    label = none ∧ AttemptWrites s s' ∨ ∃ attempt, label = some attempt ∧ Begins s s' attempt := by
  cases step with
  | other beside => exact .inl ⟨rfl, beside.writes⟩
  | command done =>
    rename_i c
    cases c with
    | recordResult command =>
      simp only [AttemptCommand.run, map_snd_ok] at done
      obtain ⟨outcome, done⟩ := done
      refine .inl ⟨rfl, ?_⟩
      rcases recordResult_cases done with ⟨rfl, -⟩ | ⟨t, p, f, reports, beside⟩
      · exact .refl
      · exact (Relation.ReflTransGen.single (.report reports)).tail (.beside beside)
    | recover J planned payload command =>
      simp only [AttemptCommand.run, map_snd_ok] at done
      obtain ⟨outcome, done⟩ := done
      exact .inl ⟨rfl, (applyProviderRecovery_beside done).writes⟩
    | work command =>
      cases command <;>
        simp only [AttemptCommand.run, WorkCommand.run, map_snd_ok] at done <;>
        obtain ⟨outcome, done⟩ := done
      case claim => exact .inl ⟨rfl, (claimContinuation_beside done).writes⟩
      case preDispatch => exact .inl ⟨rfl, (preDispatch_beside done).writes⟩
      case prepareAttempt => exact .inl ⟨rfl, prepareAttempt_attempts done⟩
      case settle => exact .inl ⟨rfl, (settleContinuation_beside done).writes⟩
      case resolve => exact .inl ⟨rfl, resolveResources_attempts done⟩
      case importEvidence => exact .inl ⟨rfl, importEvidence_attempts done⟩
      case beginAttempt command =>
        rcases beginAttempt_cases done with ⟨rfl, refused⟩ | ⟨attempt, rfl, begins⟩
        · refine .inl ⟨?_, .refl⟩
          simp only [AttemptCommand.dispatched, done]
          split
          · rename_i began
            cases began
            exact absurd rfl (refused _)
          · rfl
        · refine .inr ⟨attempt, ?_, begins⟩
          simp only [AttemptCommand.dispatched, done]

theorem attemptStep_sound {K : FenceCrates} {setDigest : ReservationSetDigest} {s s' : Store}
    {label : Option ProviderAttemptRecord} (step : AttemptStep K setDigest s label s')
    (sound : AttemptsSound s) : AttemptsSound s' := by
  rcases attemptStep_cases step with ⟨-, writes⟩ | ⟨_, -, begins⟩
  · exact attemptWrites_keep (fun _ _ => attemptWrite_sound) writes sound
  · exact begins_sound begins sound

/-- In every store a run reaches, the attempts of an effect are numbered from one on without gaps,
all but the latest have failed, and every result stands on signed evidence of its kind, which an
attempt without a result has none of. -/
theorem attempts_sound {K : FenceCrates} {setDigest : ReservationSetDigest}
    {labels : List (Option ProviderAttemptRecord)} {s : Store}
    (reached : Run (AttemptStep K setDigest) Store.initial labels s) : AttemptsSound s := by
  refine run_invariant (fun u label v sound step => ?_) initial_attempts reached
  exact attemptStep_sound step sound

/-! The dispatches. -/

/-- The attempts of an effect that were dispatched, in the order of their dispatch. -/
def dispatchesOf (labels : List (Option ProviderAttemptRecord)) (id : Text) : List Text :=
  (labels.reduceOption.filter fun a => decide (a.dispatch.logicalEffectId = id)).map (·.attemptId)

/-- The attempts of an effect that are past their preparation. -/
def Store.begunOf (s : Store) (id : Text) : List Text :=
  ((triesOf ProviderAttemptRow.logicalEffectId id s.providerAttempts.rows).filter fun a =>
    decide (a.status ≠ .prepared)).map (·.attemptId)

/-- A change of rows that prepares none and undoes no preparation. -/
theorem begunOf_map {s s' : Store} {g : ProviderAttemptRow → ProviderAttemptRow}
    (rows : s'.providerAttempts.rows = s.providerAttempts.rows.map g)
    (subjects : ∀ a, (g a).logicalEffectId = a.logicalEffectId)
    (ids : ∀ a, (g a).attemptId = a.attemptId)
    (begun : ∀ a ∈ s.providerAttempts.rows, (g a).status = .prepared ↔ a.status = .prepared)
    (id : Text) : s'.begunOf id = s.begunOf id := by
  unfold Store.begunOf
  rw [rows, tries_map subjects, List.filter_map, List.map_map]
  have same : (triesOf ProviderAttemptRow.logicalEffectId id s.providerAttempts.rows).filter
      ((fun a => decide (a.status ≠ .prepared)) ∘ g) =
      (triesOf ProviderAttemptRow.logicalEffectId id s.providerAttempts.rows).filter fun a =>
        decide (a.status ≠ .prepared) := by
    apply List.filter_congr
    intro a member
    exact decide_eq_decide.mpr (not_congr (begun a (mem_tries.mp member).1))
  rw [same]
  exact List.map_congr_left fun a _ => ids a

theorem attemptWrite_begun {s s' : Store} (write : AttemptWrite s s') (sound : AttemptsSound s)
    (id : Text) : s'.begunOf id = s.begunOf id := by
  cases write with
  | beside other => rw [Store.begunOf, other.attempts, Store.begunOf]
  | report reports => exact absurd reports (no_reports sound)
  | create prepared next done =>
    obtain ⟨providerAttempts, inserted, -, -, rfl⟩ := insertAttempt_ok done
    simp only [Store.begunOf, Table.insert?_rows inserted, tries_append, List.filter_append,
      List.map_append]
    split <;> simp [prepared]
  | imported imports =>
    obtain ⟨-, -, ⟨same, moves, terminal⟩, -, attempts, -, -⟩ := imports
    refine begunOf_map attempts (fun a => ?_) (fun a => ?_) (fun a member => ?_) id
    · split
      · rename_i hit
        rw [same a hit]
      · rfl
    · split
      · rename_i hit
        rw [same a hit]
      · rfl
    · split
      · rename_i hit
        have ended := terminal a hit
        constructor
        · intro prepared
          rw [prepared] at ended
          cases ended
        · intro prepared
          rcases moves_status (moves a member hit) ended with ⟨-, before⟩ | ⟨before, -⟩ | ⟨before, -⟩
            <;> rw [prepared] at before <;> cases before
      · rfl

theorem begins_begun {s s' : Store} {attempt : ProviderAttemptRecord}
    (begins : Begins s s' attempt) (sound : AttemptsSound s) (id : Text) :
    s'.begunOf id = s.begunOf id ++
      if attempt.dispatch.logicalEffectId = id then [attempt.attemptId] else [] := by
  obtain ⟨⟨row, member, key, subject, prepared⟩, attempts, -, -⟩ := begins
  -- the begun attempt is the only row that changes
  have others {a : ProviderAttemptRow} (inside : a ∈ s.providerAttempts.rows) (other : a ≠ row) :
      invokeAttempt attempt.attemptId a = a :=
    if_neg fun same => other (Table.eq_of_key inside member (same.trans key.symm))
  unfold Store.begunOf
  rw [attempts, tries_map (invokeAttempt_same attempt.attemptId).2]
  by_cases same : attempt.dispatch.logicalEffectId = id
  · obtain ⟨before, split⟩ := ledger_open sound.ledger member (by rw [prepared]; decide)
    have order := sound.ledger.settled row.logicalEffectId
    have kept : before.map (invokeAttempt attempt.attemptId) = before := by
      refine (List.map_congr_left fun a early => ?_).trans (List.map_id before)
      have inside : a ∈ triesOf ProviderAttemptRow.logicalEffectId row.logicalEffectId
          s.providerAttempts.rows := by
        rw [split]
        exact List.mem_append_left _ early
      refine others (mem_tries.mp inside).1 ?_
      rintro rfl
      rw [split] at order
      have failed := (List.pairwise_append.mp order).2.2 a early a (List.mem_singleton_self a)
      rw [prepared] at failed
      cases failed
    rw [if_pos same, ← same, ← subject, split]
    simp [kept, invokeAttempt, key, prepared, List.filter_append]
  · have kept : (triesOf ProviderAttemptRow.logicalEffectId id s.providerAttempts.rows).map
        (invokeAttempt attempt.attemptId) =
        triesOf ProviderAttemptRow.logicalEffectId id s.providerAttempts.rows := by
      refine (List.map_congr_left fun a inside => ?_).trans (List.map_id _)
      obtain ⟨stored, mine⟩ := mem_tries.mp inside
      refine others stored ?_
      rintro rfl
      exact same (subject.symm.trans mine)
    rw [kept, if_neg same, List.append_nil]

/-- The dispatches of a run are the attempts past their preparation, in their order. -/
theorem dispatches_begun {K : FenceCrates} {setDigest : ReservationSetDigest}
    {labels : List (Option ProviderAttemptRecord)} {s : Store}
    (reached : Run (AttemptStep K setDigest) Store.initial labels s) (id : Text) :
    dispatchesOf labels id = s.begunOf id := by
  have both : AttemptsSound s ∧ dispatchesOf labels id = s.begunOf id := by
    refine @run_history _ _ _ (fun ls u => AttemptsSound u ∧ dispatchesOf ls id = u.begunOf id)
      ?_ _ _ _ ⟨initial_attempts, rfl⟩ reached
    rintro ls u label v ⟨sound, same⟩ step
    refine ⟨attemptStep_sound step sound, ?_⟩
    rcases attemptStep_cases step with ⟨rfl, writes⟩ | ⟨attempt, rfl, begins⟩
    · have kept : AttemptsSound v ∧ v.begunOf id = u.begunOf id := by
        refine attemptWrites_keep (P := fun w => AttemptsSound w ∧ w.begunOf id = u.begunOf id)
          (fun w w' write held => ?_) writes ⟨sound, rfl⟩
        exact ⟨attemptWrite_sound write held.1, (attemptWrite_begun write held.1 id).trans held.2⟩
      rw [kept.2, ← same]
      simp [dispatchesOf, List.reduceOption_append]
    · rw [begins_begun begins sound id, ← same]
      by_cases mine : attempt.dispatch.logicalEffectId = id <;>
        simp [dispatchesOf, List.reduceOption_append, mine]
  exact both.2

/-- No attempt is dispatched twice, and an effect is dispatched again only after the recorder has
signed, for every dispatch of it before, that it left nothing. -/
theorem dispatched_again_after_absence {K : FenceCrates} {setDigest : ReservationSetDigest}
    {labels : List (Option ProviderAttemptRecord)} {s : Store}
    (reached : Run (AttemptStep K setDigest) Store.initial labels s) (id : Text) :
    (dispatchesOf labels id).Nodup ∧ ∀ attemptId ∈ (dispatchesOf labels id).dropLast,
      ∃ evidence ∈ s.recorderEvidence.rows, evidence.attemptId = attemptId ∧
        evidence.logicalEffectId = id ∧ evidence.journalSource = .execution ∧
        evidence.journalKind = .absent := by
  have sound := attempts_sound reached
  rw [dispatches_begun reached id]
  constructor
  · have distinct := s.providerAttempts.distinct
    exact distinct.sublist ((List.filter_sublist.trans List.filter_sublist).map _)
  · intro attemptId inside
    rw [Store.begunOf, ← List.map_dropLast] at inside
    obtain ⟨a, early, rfl⟩ := List.mem_map.mp inside
    have order := (sound.ledger.settled id).filter fun a => decide (a.status ≠ .prepared)
    have failed : a.status = .failed := pairwise_dropLast order a early
    obtain ⟨stored, subject⟩ := mem_tries.mp (List.mem_filter.mp (List.mem_of_mem_dropLast early)).1
    obtain ⟨evidence, seen, names, effect, source, kind, -⟩ :=
      (sound.proven a stored .failed (by rw [failed]; rfl)).1 .absent rfl
    exact ⟨evidence, seen, names, effect.trans subject, source, kind⟩

/-! The results. -/

/-- The direct report of a result writes nothing: the evidence it would need is only there once the
attempt has its result. -/
theorem record_result_closed {K : FenceCrates} {setDigest : ReservationSetDigest}
    {labels : List (Option ProviderAttemptRecord)} {s s' : Store}
    (reached : Run (AttemptStep K setDigest) Store.initial labels s)
    {command : RecordProviderAttemptResultCommand} {outcome : RecordProviderAttemptResultOutcome}
    (done : recordProviderAttemptResult K setDigest command s = .ok (outcome, s')) :
    s' = s ∧ ∀ attempt, outcome ≠ .recorded attempt := by
  rcases recordResult_cases done with unchanged | ⟨t, p, f, reports, -⟩
  · exact unchanged
  · exact absurd reports (no_reports (attempts_sound reached))

/-- Definite results stay as they are, and an unknown outcome changes to what a signed
reconciliation says alone. -/
structure ResultsStay (s t : Store) : Prop where
  definite : ∀ a ∈ s.providerAttempts.rows, a.status.isDefinite = true →
    a ∈ t.providerAttempts.rows
  unknown : ∀ a ∈ s.providerAttempts.rows, a.status = .outcomeUnknown →
    ∃ a' ∈ t.providerAttempts.rows, a'.attemptId = a.attemptId ∧ (a' = a ∨
      a'.status = .reconciledAbsent ∧ AttemptProven t .reconciliation .absent a' ∨
      a'.status = .reconciledPresent ∧ AttemptProven t .reconciliation .present a')

theorem ResultsStay.refl (s : Store) : ResultsStay s s :=
  ⟨fun _ member _ => member, fun a member _ => ⟨a, member, rfl, .inl rfl⟩⟩

/-- A reconciled result is proven where it stands. -/
theorem reconciled_proven {t : Store} (sound : AttemptsSound t) {a : ProviderAttemptRow}
    (member : a ∈ t.providerAttempts.rows) :
    (a.status = .reconciledAbsent → AttemptProven t .reconciliation .absent a) ∧
      (a.status = .reconciledPresent → AttemptProven t .reconciliation .present a) :=
  ⟨fun status => (sound.proven a member .reconciledAbsent (by rw [status]; rfl)).2 .absent rfl,
    fun status => (sound.proven a member .reconciledPresent (by rw [status]; rfl)).2 .present rfl⟩

theorem ResultsStay.trans {s t u : Store} (sound : AttemptsSound u) (first : ResultsStay s t)
    (second : ResultsStay t u) : ResultsStay s u := by
  refine ⟨fun a member definite => ?_, fun a member unknown => ?_⟩
  · exact second.definite a (first.definite a member definite) definite
  · obtain ⟨a', member', id, same | ⟨status, -⟩ | ⟨status, -⟩⟩ := first.unknown a member unknown
    · subst same
      exact second.unknown a' member' unknown
    · have stays := second.definite a' member' (by rw [status]; rfl)
      exact ⟨a', stays, id, .inr (.inl ⟨status, (reconciled_proven sound stays).1 status⟩)⟩
    · have stays := second.definite a' member' (by rw [status]; rfl)
      exact ⟨a', stays, id, .inr (.inr ⟨status, (reconciled_proven sound stays).2 status⟩)⟩

/-- A change of rows that leaves every result. -/
theorem resultsStay_map {s s' : Store} {g : ProviderAttemptRow → ProviderAttemptRow}
    (rows : s'.providerAttempts.rows = s.providerAttempts.rows.map g)
    (kept : ∀ a ∈ s.providerAttempts.rows, attemptIsTerminal a.status = true → g a = a) :
    ResultsStay s s' := by
  have stays : ∀ a ∈ s.providerAttempts.rows, attemptIsTerminal a.status = true →
      a ∈ s'.providerAttempts.rows := by
    intro a member terminal
    rw [rows]
    exact List.mem_map.mpr ⟨a, member, kept a member terminal⟩
  refine ⟨fun a member definite => stays a member ?_, fun a member unknown =>
    ⟨a, stays a member (by rw [unknown]; rfl), rfl, .inl rfl⟩⟩
  cases status : a.status <;> rw [status] at definite <;> first | rfl | cases definite

theorem imports_stay {s s' : Store} {row : RecorderEvidenceRow} {p : ProviderAttemptRow → Bool}
    {f : ProviderAttemptRow → ProviderAttemptRow} (imports : Imports s s' row p f)
    (sound : AttemptsSound s) : ResultsStay s s' := by
  have sound' := imported_sound imports sound
  obtain ⟨-, -, ⟨same, moves, terminal⟩, -, attempts, -, -⟩ := imports
  have there {a : ProviderAttemptRow} (member : a ∈ s.providerAttempts.rows) :
      (if p a then f a else a) ∈ s'.providerAttempts.rows := by
    rw [attempts]
    exact List.mem_map_of_mem member
  -- a result that keeps its status is kept whole
  have kept {a : ProviderAttemptRow} (member : a ∈ s.providerAttempts.rows) (hit : p a = true)
      (status : (f a).status = a.status) (before : attemptIsTerminal a.status = true) : f a = a :=
    moves_kept (sound.proven a member) (same a hit) (moves a member hit) status before
  refine ⟨fun a member definite => ?_, fun a member unknown => ?_⟩
  · have stays := there member
    split at stays
    · rename_i hit
      rcases moves_status (moves a member hit) (terminal a hit) with
        ⟨status, before⟩ | ⟨before, -⟩ | ⟨before, -⟩
      · rwa [kept member hit status before] at stays
      · rw [before] at definite
        cases definite
      · rw [before] at definite
        cases definite
    · exact stays
  · have stays := there member
    split at stays
    · rename_i hit
      refine ⟨f a, stays, by rw [same a hit], ?_⟩
      rcases moves_status (moves a member hit) (terminal a hit) with
        ⟨status, before⟩ | ⟨before, -⟩ | ⟨-, result⟩
      · exact .inl (kept member hit status before)
      · rw [unknown] at before
        cases before
      · obtain ⟨absent, present⟩ := reconciled_proven sound' stays
        simp only [List.mem_cons, List.not_mem_nil, or_false] at result
        rcases result with status | status
        · exact .inr (.inl ⟨status, absent status⟩)
        · exact .inr (.inr ⟨status, present status⟩)
    · exact ⟨a, stays, rfl, .inl rfl⟩

theorem attemptWrite_stay {s s' : Store} (write : AttemptWrite s s') (sound : AttemptsSound s) :
    ResultsStay s s' := by
  cases write with
  | report reports => exact absurd reports (no_reports sound)
  | imported imports => exact imports_stay imports sound
  | beside other =>
    refine resultsStay_map (g := id) ?_ fun _ _ _ => rfl
    rw [other.attempts, List.map_id]
  | create prepared next done =>
    obtain ⟨providerAttempts, inserted, -, -, rfl⟩ := insertAttempt_ok done
    have stays : ∀ a ∈ s.providerAttempts.rows, a ∈ providerAttempts.rows := by
      intro a member
      rw [Table.insert?_rows inserted]
      exact List.mem_append_left _ member
    exact ⟨fun a member _ => stays a member, fun a member _ => ⟨a, stays a member, rfl, .inl rfl⟩⟩

theorem attemptStep_stay {K : FenceCrates} {setDigest : ReservationSetDigest} {s s' : Store}
    {label : Option ProviderAttemptRecord} (step : AttemptStep K setDigest s label s')
    (sound : AttemptsSound s) : ResultsStay s s' := by
  rcases attemptStep_cases step with ⟨-, writes⟩ | ⟨attempt, -, begins⟩
  · have both : AttemptsSound s' ∧ ResultsStay s s' := by
      refine attemptWrites_keep (P := fun w => AttemptsSound w ∧ ResultsStay s w)
        (fun w w' write held => ?_) writes ⟨sound, .refl s⟩
      have after := attemptWrite_sound write held.1
      exact ⟨after, held.2.trans after (attemptWrite_stay write held.1)⟩
    exact both.2
  · obtain ⟨⟨row, member, key, -, prepared⟩, attempts, -, -⟩ := begins
    refine resultsStay_map attempts fun a inside terminal => if_neg fun same => ?_
    rw [Table.eq_of_key inside member (same.trans key.symm), prepared] at terminal
    cases terminal

/-- Over every run a definite result is final, and an unknown outcome ends only by a signed
reconciliation of its kind. -/
theorem results_stay {K : FenceCrates} {setDigest : ReservationSetDigest}
    {labels more : List (Option ProviderAttemptRecord)} {s t : Store}
    (reached : Run (AttemptStep K setDigest) Store.initial labels s)
    (later : Run (AttemptStep K setDigest) s more t) : ResultsStay s t := by
  have both : AttemptsSound t ∧ ResultsStay s t := by
    refine @run_invariant _ _ _ (fun u => AttemptsSound u ∧ ResultsStay s u) ?_ _ _ _
      ⟨attempts_sound reached, .refl s⟩ later
    rintro u label v ⟨sound, stays⟩ step
    have after := attemptStep_sound step sound
    exact ⟨after, stays.trans after (attemptStep_stay step sound)⟩
  exact both.2

/-! A dispatch whose absence is signed. -/

/-- The absence the recorder signs for an attempt. -/
def sampleAbsence (identity : ContinuationClaimIdentity) (attempt : ProviderAttemptRecord) :
    ReconcileRecorderEvidenceCommand :=
  { sampleImport .absent identity attempt with
    verifiedEvidence := ⟨{ sampleObservation .absent attempt with
      providerErrorClass := some "permanent".toList }, [], [], 10⟩ }

/-- The direct report of the same failure. -/
def sampleReport (identity : ContinuationClaimIdentity) (attempt : ProviderAttemptRecord) :
    RecordProviderAttemptResultCommand :=
  ⟨attempt.attemptId, identity, 10, .failed, "response".toList, none, 10⟩

def begunAttempt : BeginProviderAttemptInvocationOutcome → Option ProviderAttemptRecord
  | .began attempt => some attempt
  | _ => none

/-- An effect is claimed and dispatched, and the recorder reports that it never happened. -/
def failedDispatch : Anyhow Unit := do
  let s ← runAll trustingCrates sampleDigest confirmedEffect Store.initial
  let s ← s.insertQuotaEntry sampleQuota
  ensure (s.providerAttempts.rows = [] ∧ s.recorderEvidence.rows.length = 0) ""
  let (claimed, s) ← claimContinuation trustingCrates sampleCoordinator effectClaimOutside
    effectClaim s
  let identity ← required "" (claimedIdentity claimed)
  let (prepared, s) ← prepareProviderAttempt trustingCrates sampleDigest ⟨identity, 8, none⟩ s
  let attempt ← required "" (preparedAttempt prepared)
  let (outcome, s) ← beginProviderAttemptInvocation trustingCrates sampleDigest
    ⟨identity, attempt.attemptId, 9⟩ s
  let began ← required "" (begunAttempt outcome)
  let (_, s) ← reconcileRecorderEvidence trustingCrates sampleCoordinator sampleDigest
    ⟨granted, granted, true⟩ (sampleAbsence identity began) s
  ensure (∃ a ∈ s.providerAttempts.rows, a.status = .failed) ""
  let _ ← recordProviderAttemptResult trustingCrates sampleDigest (sampleReport identity began) s
  .ok ()

theorem failed_dispatch_run : ∃ attempt identity begun s outcome t,
    Run (AttemptStep trustingCrates sampleDigest) Store.initial [none, none, none, some attempt]
      begun ∧
    AttemptStep trustingCrates sampleDigest begun none s ∧
    (∃ a ∈ s.providerAttempts.rows, a.status = .failed) ∧
    recordProviderAttemptResult trustingCrates sampleDigest (sampleReport identity attempt) s =
      .ok (outcome, t) := by
  have run : failedDispatch = .ok () := by
    rw [failedDispatch, trustingCrates, effectClaim, effectClaimOutside, sampleClaim, sampleDigest,
      sampleCrates_fast]
    decide +kernel
  simp only [failedDispatch, bind_ok, ensure_ok, required_ok] at run
  obtain ⟨s₀, -, s₁, -, -, ⟨attempts, evidence⟩, ⟨_, s₂⟩, claims, identity, -, ⟨_, s₃⟩, prepares,
    _, -, ⟨outcome, s₄⟩, begins, began, isBegun, ⟨_, s₅⟩, imports, -, failed, ⟨reported, t⟩,
    reports, -⟩ := run
  have founded : BesideAttempts Store.initial s₁ :=
    ⟨Table.ext_rows attempts, Table.ext_rows (List.length_eq_zero_iff.mp evidence),
      fun e none => (List.not_mem_nil none).elim⟩
  have founding : Run (AttemptStep trustingCrates sampleDigest) Store.initial [none] s₁ :=
    Run.snoc (.nil _) (.other founded)
  have claimed := founding.snoc
    (.command (c := .work (.claim ..)) (map_snd_ok.mpr ⟨_, claims⟩))
  have prepared := claimed.snoc
    (.command (c := .work (.prepareAttempt _)) (map_snd_ok.mpr ⟨_, prepares⟩))
  have dispatched := prepared.snoc
    (.command (c := .work (.beginAttempt _)) (map_snd_ok.mpr ⟨_, begins⟩))
  cases outcome <;> cases isBegun
  simp only [AttemptCommand.dispatched, begins, List.nil_append, List.cons_append] at dispatched
  exact ⟨began, identity, s₄, s₅, reported, t, dispatched,
    .command (c := .work (.importEvidence ..)) (map_snd_ok.mpr ⟨_, imports⟩), failed, reports⟩

theorem attempts_sound_sample : ∃ labels s,
    Run (AttemptStep trustingCrates sampleDigest) Store.initial labels s ∧
      (∃ a ∈ s.providerAttempts.rows, a.status = .failed) ∧ AttemptsSound s := by
  obtain ⟨attempt, -, begun, s, -, -, reached, step, failed, -⟩ := failed_dispatch_run
  exact ⟨_, s, reached.snoc step, failed, attempts_sound (reached.snoc step)⟩

theorem dispatched_again_sample : ∃ labels s id,
    Run (AttemptStep trustingCrates sampleDigest) Store.initial labels s ∧
      dispatchesOf labels id ≠ [] ∧ (dispatchesOf labels id).Nodup := by
  obtain ⟨attempt, -, begun, s, -, -, reached, step, -, -⟩ := failed_dispatch_run
  refine ⟨_, s, attempt.dispatch.logicalEffectId, reached.snoc step, ?_,
    (dispatched_again_after_absence (reached.snoc step) _).1⟩
  simp [dispatchesOf, List.reduceOption]

theorem record_result_closed_sample : ∃ labels s s' identity attempt outcome,
    Run (AttemptStep trustingCrates sampleDigest) Store.initial labels s ∧
      recordProviderAttemptResult trustingCrates sampleDigest (sampleReport identity attempt) s =
        .ok (outcome, s') ∧ s' = s := by
  obtain ⟨attempt, identity, begun, s, outcome, t, reached, step, -, reports⟩ := failed_dispatch_run
  exact ⟨_, s, t, identity, attempt, outcome, reached.snoc step, reports,
    (record_result_closed (reached.snoc step) reports).1⟩

theorem results_stay_sample : ∃ labels more s t,
    Run (AttemptStep trustingCrates sampleDigest) Store.initial labels s ∧
      Run (AttemptStep trustingCrates sampleDigest) s more t ∧ more ≠ [] ∧
      (∃ a ∈ s.providerAttempts.rows, a.status = .failed) ∧ ResultsStay s t := by
  obtain ⟨attempt, -, begun, s, -, -, reached, step, failed, -⟩ := failed_dispatch_run
  have later : Run (AttemptStep trustingCrates sampleDigest) s [none] s :=
    Run.snoc (.nil s) (.other (.refl s))
  exact ⟨_, [none], s, s, reached.snoc step, later, List.cons_ne_nil _ _, failed,
    results_stay (reached.snoc step) later⟩

end CarsinOS.Delegation
