import LittleBaby.FeishuPipelineRuns
import LittleBaby.FeishuService

/-!
# Deliveries and their deduplication

The part of the service that the guard of `handleMessage` depends on: the
clock, the three deduplication structures and the calls that got past the
guard.
-/

namespace LittleBaby.Feishu

open LabelledMachine JsString Arena HandlerState Dedupe InsertionSet

/-- The call of `handleMessage` has not come to its `finally`. -/
def HandlerState.isOpen : HandlerState → Bool
  | .returned | .threw => false
  | .parsing | .recording _ _ | .recorded _ _ => true

structure Intake where
  now : ℕ
  dedupe : Dedupe
  deliveries : Arena Delivery

def Service.intake (service : Service) : Intake :=
  ⟨service.dispatch.now, service.dedupe, service.deliveries⟩

namespace Intake

/-- One change of the intake; `saving` is what is known whenever the state
files are saved. -/
inductive Step (saving : Intake → Prop) (intake : Intake) : Intake → Prop
  | wait (ms : ℕ) : Step saving intake { intake with now := intake.now + ms }
  | enter (event : FeishuMessageEvent)
      (hguard : intake.dedupe.guards (trim event.messageId) = false) :
      Step saving intake { intake with
          dedupe := intake.dedupe.enter (trim event.messageId) intake.now
          deliveries := intake.deliveries.push ⟨event, trim event.messageId, intake.now, .parsing⟩ }
  | proceed (index : ℕ) (delivery : Delivery) (progress : HandlerState)
      (hget : intake.deliveries.get? index = some delivery)
      (hopen : delivery.progress.isOpen = true)
      (hprogress : progress.isOpen = true) :
      Step saving intake { intake with
          deliveries := intake.deliveries.put index { delivery with progress := progress } }
  | finish (index : ℕ) (delivery : Delivery) (hget : intake.deliveries.get? index = some delivery)
      (hopen : delivery.progress.isOpen = true) :
      Step saving intake { intake with
          dedupe := (intake.dedupe.markProcessed delivery.messageId).leave delivery.messageId
          deliveries := intake.deliveries.put index { delivery with progress := .returned } }
  | fail (index : ℕ) (delivery : Delivery) (hget : intake.deliveries.get? index = some delivery)
      (hopen : delivery.progress.isOpen = true) :
      Step saving intake { intake with
          dedupe := intake.dedupe.leave delivery.messageId
          deliveries := intake.deliveries.put index { delivery with progress := .threw } }
  | save (hsaving : saving intake) :
      Step saving intake { intake with dedupe := intake.dedupe.saveStateFiles }

end Intake

namespace Service

variable {env : ServiceEnv} {service next : Service} {saving : Intake → Prop}

def Saves (saving : Intake → Prop) (service : Service) : Action → Prop
  | .saveStateFiles => saving service.intake
  | _ => True

theorem waits {dispatch after : Dispatch} {action : Dispatch.Action}
    (hstep : Dispatch.step env dispatch action = some after)
    (dedupe : Dedupe) (deliveries : Arena Delivery) :
    Intake.Step saving ⟨dispatch.now, dedupe, deliveries⟩ ⟨after.now, dedupe, deliveries⟩ := by
  obtain ⟨ms, hms⟩ := Dispatch.now_step hstep
  rw [hms]
  exact Intake.Step.wait ms

theorem intake_onDispatch {action : Dispatch.Action}
    (hstep : service.onDispatch env action = some next) :
    Intake.Step saving service.intake next.intake := by
  obtain ⟨dispatch, hdispatch, rfl⟩ := onDispatch_eq_some hstep
  exact waits hdispatch service.dedupe service.deliveries

theorem intake_deliver (env : ServiceEnv) (service : Service) (event : FeishuMessageEvent) :
    Relation.ReflTransGen (Intake.Step saving) service.intake
      (service.deliver env event).intake := by
  unfold deliver
  simp only
  split_ifs with hguard hignores
  · exact Relation.ReflTransGen.refl
  · have henter : Intake.Step saving service.intake _ :=
      Intake.Step.enter event (Bool.eq_false_iff.mpr hguard)
    exact (Relation.ReflTransGen.single henter).tail (Intake.Step.finish _ _ (get?_push_size _) rfl)
  · exact Relation.ReflTransGen.single (Intake.Step.enter event (Bool.eq_false_iff.mpr hguard))

theorem intake_userRecorded {index : ℕ} {delivery : Delivery}
    {route : Route} {message : ParsedMessage} {ref : Option DbMessageRef}
    (hget : service.deliveries.get? index = some delivery)
    (hopen : delivery.progress.isOpen = true)
    (hstep : service.userRecorded env index delivery route message ref = some next) :
    Relation.ReflTransGen (Intake.Step saving) service.intake next.intake := by
  obtain ⟨dispatch, hdispatch, rfl⟩ := userRecorded_eq_some hstep
  have hwait : Relation.ReflTransGen (Intake.Step saving) service.intake
      ⟨dispatch.now, service.dedupe, service.deliveries⟩ := by
    rcases hdispatch with ⟨-, rfl⟩ | ⟨action, -, hstep⟩
    · exact Relation.ReflTransGen.refl
    · exact Relation.ReflTransGen.single (waits hstep _ _)
  exact hwait.tail (Intake.Step.finish index delivery hget hopen)

theorem intake_step {action : Action} (hsaves : service.Saves saving action)
    (hstep : step env service action = some next) :
    Relation.ReflTransGen (Intake.Step saving) service.intake next.intake := by
  cases action with
  | tick ms | timerFired key | cleanupIdle | timeOut index | settle index
    | apologised index =>
      exact Relation.ReflTransGen.single (intake_onDispatch hstep)
  | deliver event =>
    simp only [step] at hstep
    split_ifs at hstep
    rw [← Option.some.inj hstep]
    exact intake_deliver env service event
  | parsed index downloads =>
    simp only [step] at hstep
    split at hstep
    case h_2 => simp at hstep
    case h_1 delivery hget =>
        split_ifs at hstep with hparsing
        have hopen : delivery.progress.isOpen = true := by
          rw [hparsing]
          rfl
        rw [← Option.some.inj hstep]
        unfold parsed
        split_ifs
        · exact Relation.ReflTransGen.single (Intake.Step.finish index delivery hget hopen)
        · exact Relation.ReflTransGen.single (Intake.Step.proceed index delivery _ hget hopen rfl)
  | parseFailed index =>
    simp only [step] at hstep
    split at hstep
    case h_2 => simp at hstep
    case h_1 delivery hget =>
        split_ifs at hstep with hparsing
        have hopen : delivery.progress.isOpen = true := by
          rw [hparsing]
          rfl
        rw [← Option.some.inj hstep]
        exact Relation.ReflTransGen.single (Intake.Step.fail index delivery hget hopen)
  | userRowWritten index outcome =>
    simp only [step] at hstep
    split at hstep
    case h_2 => simp at hstep
    case h_1 delivery hget =>
        split at hstep
        case h_2 => simp at hstep
        case h_1 route message hrecording hmemory =>
            have hopen : delivery.progress.isOpen = true := by
              rw [hrecording]
              rfl
            rw [← Option.some.inj hstep]
            exact Relation.ReflTransGen.single (Intake.Step.proceed index delivery _ hget hopen rfl)
  | userRecorded index ref =>
    simp only [step] at hstep
    split at hstep
    case h_2 => simp at hstep
    case h_1 delivery hget =>
        split at hstep
        case h_3 => simp at hstep
        all_goals
          rename_i hprogress
          exact intake_userRecorded hget (by rw [hprogress]; rfl) hstep
  | shutdown =>
    simp only [step, Option.ite_none_left_eq_some, Option.map_eq_some_iff] at hstep
    obtain ⟨-, flushed, hflushed, rfl⟩ := hstep
    have hwait : Intake.Step saving service.intake flushed.intake := intake_onDispatch hflushed
    exact Relation.ReflTransGen.single hwait
  | saveStateFiles =>
    rw [← Option.some.inj hstep]
    exact Relation.ReflTransGen.single (Intake.Step.save hsaves)
  | resume index answer =>
    simp only [step, Option.map_eq_some_iff, Prod.exists] at hstep
    obtain ⟨pipeline, events, -, rfl⟩ := hstep
    exact Relation.ReflTransGen.refl

theorem intake_run {start final : Service} {actions : List Action}
    (hsaves : Guarded (step env) (Saves saving) start actions)
    (hrun : run (step env) start actions = some final) :
    Relation.ReflTransGen (Intake.Step saving) start.intake final.intake :=
  run_guarded_invariant (fun service => Relation.ReflTransGen (Intake.Step saving) start.intake
      service.intake)
    (fun hreach hguard hstep => hreach.trans (intake_step hguard hstep))
    Relation.ReflTransGen.refl hsaves hrun

end Service

namespace Intake

structure Deduped (messageId : JsString) (intake : Intake) : Prop where
  past : ∀ index delivery, intake.deliveries.get? index = some delivery →
    delivery.startedAt ≤ intake.now
  processing : ∀ index delivery, intake.deliveries.get? index = some delivery →
      delivery.messageId = messageId → delivery.progress.isOpen = true →
        messageId ∈ intake.dedupe.processing.elements
  single : ∀ index other delivery rival, intake.deliveries.get? index = some delivery →
      intake.deliveries.get? other = some rival →
        delivery.messageId = messageId → rival.messageId = messageId →
          delivery.progress.isOpen = true → rival.progress.isOpen = true → index = other
  stamped : ∀ ts, intake.dedupe.timestamps.get? messageId = some ts →
    ∀ index delivery, intake.deliveries.get? index = some delivery →
      delivery.messageId = messageId → delivery.startedAt ≤ ts
  processed : ∀ index delivery, intake.deliveries.get? index = some delivery →
      delivery.messageId = messageId → delivery.progress = .returned →
        intake.now ≤ delivery.startedAt + dedupTtlMs → messageId ∈ intake.dedupe.processed.elements
  apart : ∀ index other delivery rival, index < other →
    intake.deliveries.get? index = some delivery → intake.deliveries.get? other = some rival →
        delivery.messageId = messageId → rival.messageId = messageId →
          delivery.progress ≠ .threw → delivery.startedAt + dedupTtlMs < rival.startedAt

/-- As long as an id has to be remembered, fewer ids than the state files keep
were recorded after it. -/
def Recent (messageId : JsString) (intake : Intake) : Prop :=
  ∀ index delivery, intake.deliveries.get? index = some delivery →
    delivery.messageId = messageId → delivery.progress = .returned →
      intake.now ≤ delivery.startedAt + dedupTtlMs →
        (intake.dedupe.processed.insertedAfter messageId).length < savedIds

namespace Deduped

variable {messageId : JsString} {intake next : Intake}

section

variable (hdeduped : intake.Deduped messageId)
include hdeduped

theorem put {index : ℕ} {delivery : Delivery} {progress : HandlerState} {dedupe : Dedupe}
    (hget : intake.deliveries.get? index = some delivery)
    (hopen : delivery.progress.isOpen = true)
    (hprocessing : messageId ∈ intake.dedupe.processing.elements →
      (delivery.messageId = messageId → progress.isOpen = true) →
        messageId ∈ dedupe.processing.elements)
    (htimestamps : dedupe.timestamps = intake.dedupe.timestamps)
    (hprocessed : messageId ∈ intake.dedupe.processed.elements →
      messageId ∈ dedupe.processed.elements)
    (hreturned : progress = .returned → delivery.messageId = messageId →
      messageId ∈ dedupe.processed.elements) :
    Deduped messageId { intake with
        dedupe := dedupe
        deliveries := intake.deliveries.put index { delivery with progress := progress } } := by
  have hthrew : delivery.progress ≠ .threw := by
    intro hthrew
    simp [hthrew, isOpen] at hopen
  have hold : ∀ other found, (intake.deliveries.put index
        { delivery with progress := progress }).get? other = some found →
      ∃ old, intake.deliveries.get? other = some old ∧ found.messageId = old.messageId ∧
        found.startedAt = old.startedAt ∧
        (other = index ∧ old = delivery ∧ found.progress = progress ∨
          other ≠ index ∧ found = old) := by
    intro other found hfound
    rcases (get?_put_eq_some hget).mp hfound with
      ⟨rfl, rfl⟩ | ⟨hne, hfound⟩
    · exact ⟨delivery, hget, rfl, rfl, .inl ⟨rfl, rfl, rfl⟩⟩
    · exact ⟨found, hfound, rfl, rfl, .inr ⟨hne, rfl⟩⟩
  have hopened : ∀ other found, (intake.deliveries.put index
        { delivery with progress := progress }).get? other = some found →
      found.progress.isOpen = true → ∃ old, intake.deliveries.get? other = some old ∧
          found.messageId = old.messageId ∧ old.progress.isOpen = true := by
    intro other found hfound hfoundOpen
    obtain ⟨old, hgetOld, hid, -, ⟨-, rfl, -⟩ | ⟨-, rfl⟩⟩ := hold other found hfound
    · exact ⟨_, hgetOld, hid, hopen⟩
    · exact ⟨_, hgetOld, hid, hfoundOpen⟩
  refine ⟨?_, ?_, ?_, ?_, ?_, ?_⟩
  · intro other found hfound
    obtain ⟨old, hgetOld, -, hstarted, -⟩ := hold other found hfound
    rw [hstarted]
    exact hdeduped.past other old hgetOld
  · intro other found hfound hid hfoundOpen
    obtain ⟨old, hgetOld, hsame, -, hcase⟩ := hold other found hfound
    obtain ⟨old', hgetOld', -, holdOpen⟩ := hopened other found hfound hfoundOpen
    rw [hgetOld] at hgetOld'
    cases hgetOld'
    rw [hsame] at hid
    refine hprocessing (hdeduped.processing other old hgetOld hid holdOpen) fun hmine => ?_
    have hindex := hdeduped.single index other delivery old hget hgetOld hmine hid hopen holdOpen
    rcases hcase with ⟨-, -, hprogress⟩ | ⟨hne, -⟩
    · rw [← hprogress]
      exact hfoundOpen
    · exact absurd hindex.symm hne
  · intro first second found rival hfound hrival hid hid' hfoundOpen hrivalOpen
    obtain ⟨old, hgetOld, hsame, hopenOld⟩ := hopened first found hfound hfoundOpen
    obtain ⟨old', hgetOld', hsame', hopenOld'⟩ := hopened second rival hrival hrivalOpen
    exact hdeduped.single first second old old' hgetOld hgetOld'
      (hsame.symm.trans hid) (hsame'.symm.trans hid') hopenOld hopenOld'
  · intro ts hts other found hfound hid
    rw [htimestamps] at hts
    obtain ⟨old, hgetOld, hsame, hstarted, -⟩ := hold other found hfound
    rw [hstarted]
    exact hdeduped.stamped ts hts other old hgetOld (hsame.symm.trans hid)
  · intro other found hfound hid hprogress hsoon
    obtain ⟨old, hgetOld, hsame, hstarted, hcase⟩ := hold other found hfound
    rcases hcase with ⟨-, rfl, hnew⟩ | ⟨-, rfl⟩
    · exact hreturned (hnew.symm.trans hprogress) (hsame.symm.trans hid)
    · exact hprocessed (hdeduped.processed other _ hgetOld hid hprogress hsoon)
  · intro first second found rival hlt hfound hrival hid hid' hprogress
    obtain ⟨old, hgetOld, hsame, hstarted, hcase⟩ := hold first found hfound
    obtain ⟨old', hgetOld', hsame', hstarted', -⟩ := hold second rival hrival
    rw [hstarted, hstarted']
    refine hdeduped.apart first second old old' hlt hgetOld hgetOld'
      (hsame.symm.trans hid) (hsame'.symm.trans hid') ?_
    rcases hcase with ⟨-, rfl, -⟩ | ⟨-, rfl⟩
    · exact hthrew
    · exact hprogress

theorem enter (event : FeishuMessageEvent)
    (hguard : intake.dedupe.guards (trim event.messageId) = false) :
    Deduped messageId { intake with
        dedupe := intake.dedupe.enter (trim event.messageId) intake.now
        deliveries := intake.deliveries.push
          ⟨event, trim event.messageId, intake.now, .parsing⟩ } := by
  obtain ⟨hprocessed, hprocessing⟩ := guards_eq_false hguard
  have hnew : ∀ index delivery, intake.deliveries.get? index = some delivery →
        delivery.messageId = messageId → trim event.messageId = messageId →
          delivery.progress.isOpen = false ∧ (delivery.progress = .returned →
              delivery.startedAt + dedupTtlMs < intake.now) := by
    rintro index delivery hget hid rfl
    refine ⟨?_, fun hreturned => ?_⟩
    · by_contra hopen
      exact hprocessing (hdeduped.processing index delivery hget hid (Bool.not_eq_false _ ▸ hopen))
    · by_contra hsoon
      exact hprocessed (hdeduped.processed index delivery hget hid hreturned (by omega))
  refine ⟨?_, ?_, ?_, ?_, ?_, ?_⟩
  · intro index delivery hget
    rcases get?_push_eq_some.mp hget with ⟨-, rfl⟩ | hold
    · exact le_rfl
    · exact hdeduped.past index delivery hold
  · intro index delivery hget hid hopen
    rw [mem_processing_enter]
    rcases get?_push_eq_some.mp hget with ⟨-, rfl⟩ | hold
    · exact .inr hid.symm
    · exact .inl (hdeduped.processing index delivery hold hid hopen)
  · intro index other delivery rival hget hrival hid hid' hopen hopen'
    rcases get?_push_eq_some.mp hget with ⟨hindex, rfl⟩ | hold <;>
      rcases get?_push_eq_some.mp hrival with ⟨hother, rfl⟩ | hold'
    · exact hindex.trans hother.symm
    · rw [(hnew other rival hold' hid' hid).1] at hopen'
      exact absurd hopen' (by simp)
    · rw [(hnew index delivery hold hid hid').1] at hopen
      exact absurd hopen (by simp)
    · exact hdeduped.single index other delivery rival hold hold' hid hid' hopen hopen'
  · intro ts hts index delivery hget hid
    rcases get?_enter hts with ⟨-, rfl⟩ | ⟨hne, hts⟩
    · rcases get?_push_eq_some.mp hget with ⟨-, rfl⟩ | hold
      · exact le_rfl
      · exact hdeduped.past index delivery hold
    · rcases get?_push_eq_some.mp hget with ⟨-, rfl⟩ | hold
      · exact absurd hid.symm hne
      · exact hdeduped.stamped ts hts index delivery hold hid
  · intro index delivery hget hid hreturned hsoon
    rcases get?_push_eq_some.mp hget with ⟨-, rfl⟩ | hold
    · exact absurd hreturned (by simp)
    · have hne : messageId ≠ trim event.messageId := by
        intro hsame
        have hlate := (hnew index delivery hold hid hsame.symm).2 hreturned
        simp only at hsoon
        omega
      refine mem_processed_enter hne (hdeduped.processed index delivery hold hid hreturned hsoon) ?_
      intro ts hts
      have hle := hdeduped.stamped ts hts index delivery hold hid
      simp only at hsoon
      omega
  · intro index other delivery rival hlt hget hrival hid hid' hprogress
    rcases get?_push_eq_some.mp hget with ⟨hindex, rfl⟩ | hold
    · have hlater : other < (intake.deliveries.push
          ⟨event, trim event.messageId, intake.now, .parsing⟩).size :=
        lt_size_of_get? hrival
      rw [size_push] at hlater
      omega
    · rcases get?_push_eq_some.mp hrival with ⟨-, rfl⟩ | hold'
      · obtain ⟨hclosed, hreturned⟩ := hnew index delivery hold hid hid'
        refine hreturned ?_
        cases hcase : delivery.progress with
        | returned => rfl
        | threw => exact absurd hcase hprogress
        | parsing | recording | recorded =>
          simp [hcase, isOpen] at hclosed
      · exact hdeduped.apart index other delivery rival hlt hold hold' hid hid' hprogress

theorem step (hstep : Intake.Step (Recent messageId) intake next) : next.Deduped messageId := by
  cases hstep with
  | wait ms =>
    exact { hdeduped with
      past := fun index delivery hget =>
        (hdeduped.past index delivery hget).trans (Nat.le_add_right _ _)
      processed := fun index delivery hget hid hreturned hsoon =>
        hdeduped.processed index delivery hget hid hreturned ((Nat.le_add_right _ _).trans hsoon) }
  | enter event hguard => exact hdeduped.enter event hguard
  | proceed index delivery progress hget hopen hprogress =>
    refine hdeduped.put hget hopen (fun hmem _ => hmem) rfl id ?_
    rintro rfl
    exact absurd hprogress (by simp [isOpen])
  | finish index delivery hget hopen =>
    refine hdeduped.put hget hopen (fun hmem hopen' => ?_) rfl (fun hmem => mem_add.mpr (.inl hmem))
      (fun _ hid => mem_add.mpr (.inr hid.symm))
    refine mem_delete.mpr ⟨hmem, fun hid => ?_⟩
    exact absurd (hopen' hid.symm) (by simp [isOpen])
  | fail index delivery hget hopen =>
    refine hdeduped.put hget hopen (fun hmem hopen' => ?_) rfl id (by simp)
    refine mem_delete.mpr ⟨hmem, fun hid => ?_⟩
    exact absurd (hopen' hid.symm) (by simp [isOpen])
  | save hsaving =>
    refine ⟨hdeduped.past, hdeduped.processing, hdeduped.single,
      hdeduped.stamped, fun index delivery hget hid hreturned hsoon => ?_,
      hdeduped.apart⟩
    have hmem := hdeduped.processed index delivery hget hid hreturned hsoon
    exact mem_processed_saveStateFiles.mpr ⟨hmem, hsaving index delivery hget hid hreturned hsoon⟩

theorem reach (hreach : Relation.ReflTransGen (Intake.Step (Recent messageId)) intake
      next) : next.Deduped messageId := by
  induction hreach with
  | refl => exact hdeduped
  | tail _ hstep ih => exact ih.step hstep

end

end Deduped

end Intake

namespace Service

theorem boot_deduped (messageId : JsString) (processed : InsertionSet JsString) :
    (boot processed).intake.Deduped messageId where
  past := by simp [boot, intake]
  processing := by simp [boot, intake]
  single := by simp [boot, intake]
  stamped := by simp [boot, intake]
  processed := by simp [boot, intake]
  apart := by simp [boot, intake]

/-- A delivery that has not thrown keeps every later delivery of its id out
for the time to live, provided that whenever the state files are saved in that
time the id is among the last 2000 processed ones. -/
theorem handled_at_most_once {env : ServiceEnv}
    {processed : InsertionSet JsString} {actions : List Action}
    {final : Service} {messageId : JsString}
    (hsaves : Guarded (step env) (Saves (Intake.Recent messageId)) (boot processed) actions)
    (hrun : run (step env) (boot processed) actions = some final)
    {first later : ℕ} {delivery rival : Delivery} (hlt : first < later)
    (hget : final.deliveries.get? first = some delivery)
    (hrival : final.deliveries.get? later = some rival)
    (hid : delivery.messageId = messageId)
    (hid' : rival.messageId = messageId)
    (hthrew : delivery.progress ≠ .threw) :
    delivery.startedAt + dedupTtlMs < rival.startedAt := by
  have hdeduped : final.intake.Deduped messageId :=
    Intake.Deduped.reach (boot_deduped messageId processed) (intake_run hsaves hrun)
  exact hdeduped.apart first later delivery rival hlt hget hrival hid hid' hthrew

instance (messageId : JsString) (intake : Intake) : Decidable (intake.Recent messageId) :=
  decidable_of_iff (∀ delivery ∈ intake.deliveries.cells,
      delivery.messageId = messageId → delivery.progress = .returned →
        intake.now ≤ delivery.startedAt + dedupTtlMs →
          (intake.dedupe.processed.insertedAfter messageId).length < savedIds)
    forall_mem_cells

instance (saving : Intake → Prop) [DecidablePred saving]
    (service : Service) : ∀ action, Decidable (service.Saves saving action)
  | .saveStateFiles => inferInstanceAs (Decidable (saving service.intake))
  | .tick _ | .deliver _ | .parsed _ _ | .parseFailed _ | .userRowWritten _ _
    | .userRecorded _ _ | .timerFired _ | .shutdown | .cleanupIdle
    | .resume _ _ | .timeOut _ | .settle _ | .apologised _ => isTrue trivial

/-- A message of another bot, which is processed without an `await`. -/
def appMessage (messageId : JsString) : FeishuMessageEvent :=
  { textMessage messageId (js "oc_group") .group (js "ping") with
    senderType := some (js "app") }

theorem handled_at_most_once_redelivered : ∃ final first later,
    run (step (plainEnv false)) (boot .empty)
        [.deliver (appMessage (js "m1")), .saveStateFiles, .tick 300001,
          .deliver (appMessage (js "m2")), .deliver (appMessage (js "m1"))] =
        some final ∧
      final.deliveries.get? 0 = some first ∧
      final.deliveries.get? 2 = some later ∧
      first.startedAt + dedupTtlMs < later.startedAt := by
  let actions : List Action := [.deliver (appMessage (js "m1")), .saveStateFiles, .tick 300001,
    .deliver (appMessage (js "m2")), .deliver (appMessage (js "m1"))]
  have hguarded : Guarded (step (plainEnv false)) (Saves (Intake.Recent (js "m1"))) (boot .empty)
      actions := by
    unfold actions
    decide
  have hview : (run (step (plainEnv false)) (boot .empty) actions).map (fun final =>
      ((final.deliveries.get? 0).map fun delivery => (delivery.messageId, delivery.progress),
        (final.deliveries.get? 2).map Delivery.messageId)) =
      some (some (js "m1", .returned), some (js "m1")) := by rfl
  simp only [Option.map_eq_some_iff, Prod.mk.injEq] at hview
  obtain ⟨final, hrun, ⟨first, hget, hid, hreturned⟩, later, hget', hid'⟩ := hview
  exact ⟨final, first, later, hrun, hget, hget',
    handled_at_most_once hguarded hrun (by decide) hget hget' hid hid' (by simp [hreturned])⟩

variable {service : Service}

structure Processed (service : Service) (ids : List JsString) : Prop where
  now : service.dispatch.now = 0
  open_ : service.shutdownRequested = false
  processing : service.dedupe.processing.elements = []
  processed : service.dedupe.processed.elements = ids
  timestamps : ∀ id ts, service.dedupe.timestamps.get? id = some ts → ts = 0
  deliveries : service.deliveries.cells.map
      (fun delivery => (delivery.messageId, delivery.startedAt, delivery.progress)) =
    ids.map fun id => (id, 0, .returned)

theorem boot_processed : (boot .empty).Processed [] where
  now := rfl
  open_ := rfl
  processing := rfl
  processed := rfl
  timestamps := by simp [boot]
  deliveries := rfl

theorem deliver_appMessage (env : ServiceEnv) (service : Service) {messageId : JsString}
    (hguard : service.dedupe.guards messageId = false)
    (htrim : trim messageId = messageId) :
    service.deliver env (appMessage messageId) = { service with
        dedupe := ((service.dedupe.enter messageId
          service.dispatch.now).markProcessed messageId).leave messageId
        deliveries := (service.deliveries.push
            ⟨appMessage messageId, messageId, service.dispatch.now,
              .parsing⟩).put service.deliveries.size
          ⟨appMessage messageId, messageId, service.dispatch.now, .returned⟩ } := by
  have hid : trim (appMessage messageId).messageId = messageId := htrim
  have hignores : ignores env (appMessage messageId) = true := by
    simp [ignores, appMessage]
  simp only [Service.deliver, hid, hguard, hignores, Bool.false_eq_true, if_false, if_true]
  rfl

theorem Processed.deliver {ids : List JsString} {messageId : JsString}
    (hprocessed : service.Processed ids) (env : ServiceEnv)
    (hnew : messageId ∉ ids)
    (hne : messageId ≠ []) (htrim : trim messageId = messageId) :
    ∃ next, step env service (.deliver (appMessage messageId)) = some next ∧
      next.Processed (ids ++ [messageId]) := by
  have hguard : service.dedupe.guards messageId = false := by
    simp [Dedupe.guards, InsertionSet.has, hprocessed.processed, hprocessed.processing, hnew, hne]
  refine ⟨service.deliver env (appMessage messageId), by simp [step, hprocessed.open_], ?_⟩
  rw [deliver_appMessage env service hguard htrim, hprocessed.now]
  refine ⟨hprocessed.now, hprocessed.open_, ?_, ?_, ?_, ?_⟩
  · simp [Dedupe.leave, Dedupe.markProcessed, Dedupe.enter,
      Dedupe.cleanupDedupeSet, InsertionSet.delete, InsertionSet.add,
      hprocessed.processing]
  · have hkept := Dedupe.processed_enter_zero service.dedupe messageId
    simp only [Dedupe.leave, Dedupe.markProcessed, hkept]
    rw [InsertionSet.elements_add_of_not_mem (hprocessed.processed ▸ hnew), hprocessed.processed]
  · intro id ts hts
    rcases Dedupe.get?_enter hts with ⟨-, rfl⟩ | ⟨-, hts⟩
    · rfl
    · exact hprocessed.timestamps id ts hts
  · simp [Arena.push, Arena.put, Arena.size, hprocessed.deliveries]

theorem Processed.run {ids new : List JsString}
    (hprocessed : service.Processed ids) (env : ServiceEnv)
    (hnodup : (ids ++ new).Nodup)
    (hnew : ∀ id ∈ new, id ≠ [] ∧ trim id = id) :
    ∃ final, run (step env) service (new.map fun id => .deliver (appMessage id)) = some final ∧
      final.Processed (ids ++ new) := by
  induction new generalizing service ids with
  | nil => exact ⟨service, rfl, by simpa using hprocessed⟩
  | cons id rest ih =>
    have hid : id ∉ ids := fun hmem =>
      List.disjoint_of_nodup_append hnodup hmem List.mem_cons_self
    obtain ⟨hne, htrim⟩ := hnew id List.mem_cons_self
    obtain ⟨next, hstep, hnext⟩ := hprocessed.deliver env hid hne htrim
    rw [List.append_cons] at hnodup
    obtain ⟨final, hrun, hfinal⟩ := ih hnext hnodup fun other hmem =>
      hnew other (List.mem_cons_of_mem id hmem)
    refine ⟨final, run_cons_eq_some.mpr ⟨next, hstep, hrun⟩, ?_⟩
    simpa using hfinal

def floodIds : List JsString :=
  (List.range savedIds).map fun count => List.replicate (count + 1) 0x78

def flood : List Action :=
  (js "m" :: floodIds).map (fun id => .deliver (appMessage id)) ++
    [.saveStateFiles, .deliver (appMessage (js "m"))]

theorem floodIds_ne_nil {id : JsString} (hmem : id ∈ floodIds) :
    id ≠ [] ∧ trim id = id ∧ js "m" ≠ id := by
  obtain ⟨count, -, rfl⟩ := List.mem_map.mp hmem
  refine ⟨by simp, ?_, ?_⟩
  · exact trim_eq_self fun unit hunit => by
      rw [List.eq_of_mem_replicate hunit]
      decide
  · intro heq
    have hmem : (0x6D : UInt16) ∈ List.replicate (count + 1) 0x78 := heq ▸ by decide
    exact absurd (List.eq_of_mem_replicate hmem) (by decide)

theorem nodup_floodIds : (js "m" :: floodIds).Nodup := by
  refine List.nodup_cons.mpr ⟨fun hmem => (floodIds_ne_nil hmem).2.2 rfl, ?_⟩
  refine List.Nodup.map (fun first second heq => ?_) List.nodup_range
  simpa using congrArg List.length heq

theorem redelivered_within_ttl : ∃ final first second,
    run (step (plainEnv false)) (boot .empty) flood = some final ∧
      final.deliveries.get? 0 = some first ∧
      final.deliveries.get? (savedIds + 1) = some second ∧
      first.messageId = js "m" ∧ second.messageId = js "m" ∧
      first.progress = .returned ∧
      second.startedAt ≤ first.startedAt + dedupTtlMs := by
  obtain ⟨full, hfull, hprocessed⟩ :=
    boot_processed.run (plainEnv false) nodup_floodIds fun id hmem => by
        rcases List.mem_cons.mp hmem with rfl | hmem
        · decide
        · exact ⟨(floodIds_ne_nil hmem).1, (floodIds_ne_nil hmem).2.1⟩
  have hafter : (full.dedupe.processed.insertedAfter (js "m")).length =
      savedIds := by
    simp [insertedAfter, hprocessed.processed, floodIds]
  have hguard : full.dedupe.saveStateFiles.guards (js "m") = false := by
    have hdropped : js "m" ∉ full.dedupe.saveStateFiles.processed.elements :=
      fun hmem => absurd (mem_processed_saveStateFiles.mp hmem).2 (by omega)
    have hprocessing : js "m" ∉
        full.dedupe.saveStateFiles.processing.elements := by
      simp [saveStateFiles, hprocessed.processing]
    simp only [guards, Bool.or_eq_false_iff, has_eq_false]
    exact ⟨⟨by decide, hdropped⟩, hprocessing⟩
  have hsize : full.deliveries.size = savedIds + 1 := by
    have hlength := congrArg List.length hprocessed.deliveries
    simpa [floodIds, size] using hlength
  obtain ⟨first, hfirst, hview⟩ : ∃ first, full.deliveries.get? 0 = some first ∧
        (first.messageId, first.startedAt, first.progress) = (js "m", 0, .returned) := by
    have hhead := congrArg (·[0]?) hprocessed.deliveries
    simpa [get?] using hhead
  simp only [Prod.mk.injEq] at hview
  have hdeliver := deliver_appMessage (plainEnv false)
    { full with dedupe := full.dedupe.saveStateFiles } hguard (by decide)
  refine ⟨Service.deliver (plainEnv false) { full with dedupe := full.dedupe.saveStateFiles }
      (appMessage (js "m")), first,
    ⟨appMessage (js "m"), js "m", full.dispatch.now, .returned⟩, ?_, ?_, ?_,
    hview.1, rfl, hview.2.2, ?_⟩
  · rw [flood, run_append, hfull, Option.bind_some, run_cons_eq_some]
    refine ⟨_, rfl, run_cons_eq_some.mpr ⟨_, ?_, rfl⟩⟩
    simp [step, hprocessed.open_]
  · have hne : ¬0 = full.deliveries.size := by omega
    rw [hdeliver, get?_put (get?_push_size _), if_neg hne]
    exact get?_push_of_get? _ hfirst
  · rw [hdeliver, get?_put (get?_push_size _), if_pos hsize.symm]
  · simp [hprocessed.now]

end Service

end LittleBaby.Feishu
