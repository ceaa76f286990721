import LittleBaby.ExecApprovalManager
import LittleBaby.RunHistory

/-!
# Single use of approvals

A decision is for the record that was registered, a permission for one use is
used once, and an expired record is never allowed.  A registration under an
identifier that is taken joins the entry that is there, whatever it was for.
-/

namespace LittleBaby.ExecApprovals

open JsString ExecApprovalManager LabelledMachine

variable {TPayload : Type} {manager next : ExecApprovalManager TPayload}
  {action : Action TPayload} {index : ℕ}

/-! ## What a step does to a record -/

inductive ApprovalEvent
  | decided (record : ℕ) (decision : ExecApprovalDecision)
  | expired (record : ℕ)
  | consumed (record : ℕ)
  deriving DecidableEq

def ExecApprovalManager.recordAt (manager : ExecApprovalManager TPayload)
    (recordId : JsString) : Option ℕ :=
  (manager.find recordId).map fun found => found.2.1.record

/-- What finishing an approval with `true` means for its record. -/
def finishEvent (manager : ExecApprovalManager TPayload) (recordId : JsString)
    (decision : Option ExecApprovalDecision) (resolvedBy : Option JsString)
    (now : ℤ) : Option ApprovalEvent :=
  if (manager.finish recordId decision resolvedBy now).2 then
    (manager.recordAt recordId).map fun record =>
      match decision with
      | some decision => .decided record decision
      | none => .expired record
  else none

/-- What a call that answers `true` does, and to which record. -/
def event (manager : ExecApprovalManager TPayload) : Action TPayload → Option ApprovalEvent
  | .resolve recordId decision resolvedBy now =>
    finishEvent manager recordId (some decision) resolvedBy now
  | .expire recordId resolvedBy now =>
    finishEvent manager recordId none resolvedBy now
  | .timerFires index now =>
    (disarm manager index).bind fun (disarmed, recordId) =>
      finishEvent disarmed recordId none none now
  | .consumeAllowOnce recordId =>
    if (manager.consumeAllowOnce recordId).2 then
      (manager.recordAt recordId).map .consumed
    else none
  | _ => none

inductive RecordStep (event : Option ApprovalEvent) (index : ℕ)
    (record : ExecApprovalRecord TPayload) :
    ExecApprovalRecord TPayload → Prop
  | kept (hdecided : ∀ decision, event ≠ some (.decided index decision))
      (hexpired : event ≠ some (.expired index))
      (hconsumed : event ≠ some (.consumed index)) :
      RecordStep event index record record
  | decided (decision : ExecApprovalDecision) (resolvedBy : Option JsString)
      (now : ℤ) (hevent : event = some (.decided index decision))
      (hopen : record.resolvedAtMs = none) :
      RecordStep event index record { record with
          resolvedAtMs := some now
          decision := some decision
          resolvedBy := resolvedBy }
  | expired (resolvedBy : Option JsString) (now : ℤ) (hevent : event = some (.expired index))
      (hopen : record.resolvedAtMs = none) :
      RecordStep event index record { record with
          resolvedAtMs := some now
          decision := none
          resolvedBy := resolvedBy }
  | consumed (hevent : event = some (.consumed index))
      (hallowed : record.decision = some .allowOnce) :
      RecordStep event index record { record with decision := none }

theorem RecordStep.of_none {record : ExecApprovalRecord TPayload} :
    RecordStep none index record record :=
  .kept (by simp) (by simp) (by simp)

variable {recordId : JsString} {entry : PendingEntry}

theorem find_eq_some {record : ExecApprovalRecord TPayload} :
    manager.find recordId = some (index, entry, record) ↔
      manager.pending.lookup recordId = some index ∧ manager.entries.get? index = some entry ∧
        manager.records.get? entry.record = some record := by
  unfold find
  constructor
  · intro hfind
    obtain ⟨found, hlookup, hfind⟩ := Option.bind_eq_some_iff.mp hfind
    obtain ⟨stored, hentry, hfind⟩ := Option.bind_eq_some_iff.mp hfind
    obtain ⟨kept, hrecord, heq⟩ := Option.map_eq_some_iff.mp hfind
    obtain ⟨rfl, rfl, rfl⟩ := heq
    exact ⟨hlookup, hentry, hrecord⟩
  · rintro ⟨hlookup, hentry, hrecord⟩
    simp [hlookup, hentry, hrecord]

theorem finish_cases (manager : ExecApprovalManager TPayload)
    (recordId : JsString) (decision : Option ExecApprovalDecision)
    (resolvedBy : Option JsString) (now : ℤ) :
    manager.finish recordId decision resolvedBy now = (manager, false) ∨
      ∃ index entry record, manager.find recordId = some (index, entry, record) ∧
        record.resolvedAtMs = none ∧
        manager.finish recordId decision resolvedBy now =
          (manager.settle recordId index entry record decision resolvedBy now, true) := by
  cases hfind : manager.find recordId with
  | none => exact .inl (by simp only [finish, hfind])
  | some found =>
    obtain ⟨index, entry, record⟩ := found
    cases hopen : record.resolvedAtMs with
    | some time =>
      left
      simp [finish, hfind, hopen]
    | none =>
      right
      refine ⟨index, entry, record, rfl, hopen, ?_⟩
      simp [finish, hfind, hopen]

theorem consumeAllowOnce_cases (manager : ExecApprovalManager TPayload) (recordId : JsString) :
    manager.consumeAllowOnce recordId = (manager, false) ∨
      ∃ index entry record, manager.find recordId = some (index, entry, record) ∧
        record.decision = some .allowOnce ∧
        manager.consumeAllowOnce recordId = ({ manager with
            records := manager.records.put entry.record
              { record with decision := none } }, true) := by
  cases hfind : manager.find recordId with
  | none => exact .inl (by simp only [consumeAllowOnce, hfind])
  | some found =>
    obtain ⟨index, entry, record⟩ := found
    by_cases hallowed : record.decision = some .allowOnce
    · right
      refine ⟨index, entry, record, rfl, hallowed, ?_⟩
      simp [consumeAllowOnce, hfind, hallowed]
    · left
      simp [consumeAllowOnce, hfind, hallowed]

theorem disarm_eq_some {disarmed : ExecApprovalManager TPayload}
    (hdisarm : disarm manager index = some (disarmed, recordId)) :
    ∃ entry, manager.entries.get? index = some entry ∧ disarmed = { manager with
        entries := manager.entries.put index { entry with timer := false } } := by
  obtain ⟨entry, hentry, hfound⟩ := Option.bind_eq_some_iff.mp hdisarm
  rw [Option.ite_none_right_eq_some] at hfound
  obtain ⟨record, -, heq⟩ := Option.map_eq_some_iff.mp hfound.2
  exact ⟨entry, hentry, (Prod.mk.inj heq).1.symm⟩

theorem recordStep_finish {record : ExecApprovalRecord TPayload}
    (hrecord : manager.records.get? index = some record) (recordId : JsString)
    (decision : Option ExecApprovalDecision) (resolvedBy : Option JsString)
    (now : ℤ) :
    ∃ later, (manager.finish recordId decision resolvedBy now).1.records.get? index = some later ∧
      RecordStep (finishEvent manager recordId decision resolvedBy now) index record
        later := by
  rcases finish_cases manager recordId decision resolvedBy now with hfinish |
    ⟨found, entry, stored, hfind, hopen, hfinish⟩
  · refine ⟨record, by rw [hfinish]; exact hrecord, ?_⟩
    simp only [finishEvent, hfinish, Bool.false_eq_true, if_false]
    exact RecordStep.of_none
  · have hstored := (find_eq_some.mp hfind).2.2
    simp only [finishEvent, hfinish, if_true, recordAt, hfind, Option.map_some, settle]
    rw [Arena.get?_put hstored]
    split_ifs with hsame
    · subst hsame
      cases hrecord.symm.trans hstored
      refine ⟨_, rfl, ?_⟩
      cases decision with
      | some decision => exact .decided decision resolvedBy now rfl hopen
      | none => exact .expired resolvedBy now rfl hopen
    · refine ⟨record, hrecord, ?_⟩
      cases decision with
      | some decision =>
        apply RecordStep.kept
        · simp [Ne.symm hsame]
        · simp
        · simp
      | none =>
        apply RecordStep.kept
        · simp
        · simp [Ne.symm hsame]
        · simp

theorem recordStep_of_step (hstep : step manager action = some next)
    {record : ExecApprovalRecord TPayload}
    (hrecord : manager.records.get? index = some record) :
    ∃ later, next.records.get? index = some later ∧
      RecordStep (event manager action) index record later := by
  have hsame : next.records = manager.records → event manager action = none →
      ∃ later, next.records.get? index = some later ∧
        RecordStep (event manager action) index record later := by
    intro hrecords hevent
    refine ⟨record, hrecords ▸ hrecord, ?_⟩
    rw [hevent]
    exact RecordStep.of_none
  cases action with
  | create request timeoutMs id now randomUUID =>
    cases hstep
    exact ⟨record, Arena.get?_push_of_get? _ hrecord, RecordStep.of_none⟩
  | register recordIndex =>
    cases hstep
    apply hsame _ rfl
    unfold register
    split
    · rfl
    · split
      · split_ifs <;> rfl
      · rfl
  | resolve recordId decision resolvedBy now =>
    cases hstep
    exact recordStep_finish hrecord recordId (some decision) resolvedBy now
  | expire recordId resolvedBy now =>
    cases hstep
    exact recordStep_finish hrecord recordId none resolvedBy now
  | timerFires entry now =>
    obtain ⟨⟨disarmed, recordId⟩, hdisarm, rfl⟩ := Option.map_eq_some_iff.mp hstep
    obtain ⟨stored, -, hdisarmed⟩ := disarm_eq_some hdisarm
    have hkept : disarmed.records.get? index = some record := by
      rw [hdisarmed]
      exact hrecord
    simp only [event, hdisarm, Option.bind_some]
    exact recordStep_finish hkept recordId none none now
  | graceTimerFires timer =>
    obtain ⟨found, -, rfl⟩ := Option.map_eq_some_iff.mp hstep
    exact hsame rfl rfl
  | awaitDecision recordId =>
    cases hstep
    exact hsame rfl rfl
  | consumeAllowOnce recordId =>
    cases hstep
    rcases consumeAllowOnce_cases manager recordId with hconsume |
      ⟨found, entry, stored, hfind, hallowed, hconsume⟩
    · simp only [event, hconsume, Bool.false_eq_true, if_false]
      exact ⟨record, hrecord, RecordStep.of_none⟩
    · have hstored := (find_eq_some.mp hfind).2.2
      simp only [event, hconsume, if_true, recordAt, hfind, Option.map_some]
      rw [Arena.get?_put hstored]
      split_ifs with hindex
      · subst hindex
        cases hrecord.symm.trans hstored
        exact ⟨_, rfl, .consumed rfl hallowed⟩
      · refine ⟨record, hrecord, .kept (by simp) (by simp) ?_⟩
        simp [Ne.symm hindex]

def ExecApprovalManager.promise (manager : ExecApprovalManager TPayload)
    (index : ℕ) : Option (Option ExecApprovalDecision) :=
  (manager.entries.get? index).bind PendingEntry.promise

/-- An entry keeps its record, and its promise if that has settled; a decision
comes from a call of `resolve`. -/
structure EntryStep (manager : ExecApprovalManager TPayload)
    (action : Action TPayload) (index : ℕ) (entry later : PendingEntry) :
    Prop where
  record : later.record = entry.record
  settled : ∀ value, entry.promise = some value → later.promise = some value
  given : ∀ decision, later.promise = some (some decision) → entry.promise = some (some decision) ∨
      ∃ recordId resolvedBy now, action = .resolve recordId decision resolvedBy now ∧
        (manager.resolve recordId decision resolvedBy now).2 = true ∧
        manager.pending.lookup recordId = some index

theorem EntryStep.of_same {later : PendingEntry} (hrecord : later.record = entry.record)
    (hpromise : later.promise = entry.promise) :
    EntryStep manager action index entry later where
  record := hrecord
  settled := fun _ hvalue => hpromise.trans hvalue
  given := fun _ hdecision => .inl (hpromise.symm.trans hdecision)

theorem entryStep_finish (hentry : manager.entries.get? index = some entry) (recordId : JsString)
    (decision : Option ExecApprovalDecision) (resolvedBy : Option JsString)
    (now : ℤ) :
    ∃ later, (manager.finish recordId decision resolvedBy now).1.entries.get? index =
        some later ∧ later.record = entry.record ∧
      (later.promise = entry.promise ∨ entry.promise = none ∧ later.promise = some decision ∧
          (manager.finish recordId decision resolvedBy now).2 = true ∧
          manager.pending.lookup recordId = some index) := by
  rcases finish_cases manager recordId decision resolvedBy now with hfinish |
    ⟨found, stored, record, hfind, hopen, hfinish⟩
  · rw [hfinish]
    exact ⟨entry, hentry, rfl, .inl rfl⟩
  · obtain ⟨hlookup, hstored, -⟩ := find_eq_some.mp hfind
    simp only [hfinish, settle]
    rw [Arena.get?_put hstored]
    split_ifs with hsame
    · subst hsame
      cases hentry.symm.trans hstored
      refine ⟨_, rfl, rfl, ?_⟩
      cases hpromise : entry.promise with
      | some value => exact .inl rfl
      | none => exact .inr ⟨by trivial, by rfl, by trivial, hlookup⟩
    · exact ⟨entry, hentry, rfl, .inl rfl⟩

theorem EntryStep.of_expire {later : PendingEntry} (hrecord : later.record = entry.record)
    (hpromise : later.promise = entry.promise ∨ entry.promise = none ∧ later.promise = some none) :
    EntryStep manager action index entry later := by
  rcases hpromise with hsame | ⟨hopen, hnone⟩
  · exact EntryStep.of_same hrecord hsame
  · refine ⟨hrecord, fun value hvalue => ?_, fun decision hdecision => ?_⟩
    · rw [hopen] at hvalue
      contradiction
    · rw [hnone] at hdecision
      simp at hdecision

theorem entryStep_of_step (hstep : step manager action = some next)
    (hentry : manager.entries.get? index = some entry) :
    ∃ later, next.entries.get? index = some later ∧ EntryStep manager action index entry later := by
  have hsame : next.entries = manager.entries → ∃ later, next.entries.get? index = some later ∧
        EntryStep manager action index entry later :=
    fun hentries => ⟨entry, hentries ▸ hentry, EntryStep.of_same rfl rfl⟩
  cases action with
  | create request timeoutMs id now randomUUID | awaitDecision recordId =>
    cases hstep
    exact hsame rfl
  | register recordIndex =>
    cases hstep
    unfold register at hsame ⊢
    split
    · exact ⟨entry, hentry, EntryStep.of_same rfl rfl⟩
    · split
      · split_ifs
        · exact ⟨entry, hentry, EntryStep.of_same rfl rfl⟩
        · exact ⟨entry, hentry, EntryStep.of_same rfl rfl⟩
      · exact ⟨entry, Arena.get?_push_of_get? _ hentry, EntryStep.of_same rfl rfl⟩
  | resolve recordId decision resolvedBy now =>
    cases hstep
    obtain ⟨later, hlater, hrecord, hpromise⟩ :=
      entryStep_finish hentry recordId (some decision) resolvedBy now
    refine ⟨later, hlater, ?_⟩
    rcases hpromise with hkept | ⟨hopen, hsettled, htrue, hlookup⟩
    · exact EntryStep.of_same hrecord hkept
    · refine ⟨hrecord, fun value hvalue => ?_, fun given hgiven => ?_⟩
      · rw [hopen] at hvalue
        contradiction
      · rw [hsettled] at hgiven
        cases Option.some.inj hgiven
        exact .inr ⟨recordId, resolvedBy, now, rfl, htrue, hlookup⟩
  | expire recordId resolvedBy now =>
    cases hstep
    obtain ⟨later, hlater, hrecord, hpromise⟩ :=
      entryStep_finish hentry recordId none resolvedBy now
    exact ⟨later, hlater, EntryStep.of_expire hrecord
      (hpromise.imp_right fun hsettled => ⟨hsettled.1, hsettled.2.1⟩)⟩
  | timerFires timer now =>
    obtain ⟨⟨disarmed, recordId⟩, hdisarm, rfl⟩ := Option.map_eq_some_iff.mp hstep
    obtain ⟨found, hfound, rfl⟩ := disarm_eq_some hdisarm
    have hmiddle : ∃ middle, (manager.entries.put timer
        { found with timer := false }).get? index = some middle ∧
        middle.record = entry.record ∧ middle.promise = entry.promise := by
      rw [Arena.get?_put hfound]
      split_ifs with hindex
      · subst hindex
        cases hentry.symm.trans hfound
        exact ⟨_, rfl, rfl, rfl⟩
      · exact ⟨entry, hentry, rfl, rfl⟩
    obtain ⟨middle, hmiddle, hmiddleRecord, hmiddlePromise⟩ := hmiddle
    obtain ⟨later, hlater, hrecord, hpromise⟩ :=
      @entryStep_finish _ { manager with
        entries := manager.entries.put timer { found with timer := false } }
        index middle hmiddle recordId none none now
    rw [hmiddlePromise] at hpromise
    exact ⟨later, hlater, EntryStep.of_expire (hrecord.trans hmiddleRecord)
      (hpromise.imp_right fun hsettled => ⟨hsettled.1, hsettled.2.1⟩)⟩
  | graceTimerFires timer =>
    obtain ⟨found, -, rfl⟩ := Option.map_eq_some_iff.mp hstep
    exact hsame rfl
  | consumeAllowOnce recordId =>
    cases hstep
    rcases consumeAllowOnce_cases manager recordId with hconsume |
      ⟨found, stored, record, -, -, hconsume⟩
    · rw [hconsume]
      exact ⟨entry, hentry, EntryStep.of_same rfl rfl⟩
    · rw [hconsume]
      exact ⟨entry, hentry, EntryStep.of_same rfl rfl⟩

def ExecApprovalManager.withEntry (manager : ExecApprovalManager TPayload)
    (recordIndex : ℕ) (recordId : JsString) : ExecApprovalManager TPayload :=
  { manager with
    entries := manager.entries.push ⟨recordIndex, true, none⟩
    pending := Entries.set recordId manager.entries.size manager.pending }

theorem register_cases (manager : ExecApprovalManager TPayload) (recordIndex : ℕ) :
    (∃ error, manager.register recordIndex = (manager, .error error)) ∨
      (∃ record found entry existing, manager.records.get? recordIndex = some record ∧
        manager.find record.id = some (found, entry, existing) ∧
        existing.resolvedAtMs = none ∧
        manager.register recordIndex = (manager, .ok found)) ∨
      ∃ record, manager.records.get? recordIndex = some record ∧ manager.find record.id = none ∧
        manager.register recordIndex =
          (manager.withEntry recordIndex record.id, .ok manager.entries.size) := by
  cases hrecord : manager.records.get? recordIndex with
  | none =>
    exact .inl ⟨_, by simp only [register, hrecord]; rfl⟩
  | some record =>
    cases hfind : manager.find record.id with
    | none =>
      refine .inr (.inr ⟨record, rfl, hfind, ?_⟩)
      simp only [register, hrecord, hfind]
      rfl
    | some found =>
      obtain ⟨index, entry, existing⟩ := found
      cases hopen : existing.resolvedAtMs with
      | none =>
        refine .inr (.inl ⟨record, index, entry, existing, rfl, hfind, hopen, ?_⟩)
        simp [register, hrecord, hfind, hopen]
      | some time =>
        refine .inl ⟨.alreadyResolved, ?_⟩
        simp [register, hrecord, hfind, hopen]

theorem sizes_finish (manager : ExecApprovalManager TPayload) (recordId : JsString)
    (decision : Option ExecApprovalDecision) (resolvedBy : Option JsString)
    (now : ℤ) :
    (manager.finish recordId decision resolvedBy now).1.entries.size = manager.entries.size ∧
      (manager.finish recordId decision resolvedBy now).1.records.size = manager.records.size ∧
      ∀ searched index, (manager.finish recordId decision resolvedBy now).1.pending.lookup
        searched = some index → manager.pending.lookup searched = some index := by
  rcases finish_cases manager recordId decision resolvedBy now with hfinish |
    ⟨found, stored, record, hfind, hopen, hfinish⟩
  · rw [hfinish]
    exact ⟨rfl, rfl, fun _ _ => id⟩
  · rw [hfinish]
    exact ⟨Arena.size_put .., Arena.size_put .., fun _ _ => id⟩

theorem step_shape (hstep : step manager action = some next) :
    (next.entries.size = manager.entries.size ∧ next.records.size = manager.records.size ∧
        ∀ recordId index, next.pending.lookup recordId = some index →
          manager.pending.lookup recordId = some index) ∨
      (∃ record, record.decision = none ∧
        next = { manager with records := manager.records.push record }) ∨
      ∃ recordIndex record, manager.records.get? recordIndex = some record ∧
        next = manager.withEntry recordIndex record.id := by
  cases action with
  | create =>
    cases hstep
    exact .inr (.inl ⟨_, rfl, rfl⟩)
  | awaitDecision =>
    cases hstep
    exact .inl ⟨rfl, rfl, fun _ _ => id⟩
  | register recordIndex =>
    cases hstep
    rcases register_cases manager recordIndex with ⟨error, hregister⟩ |
      ⟨record, found, entry, existing, -, -, -, hregister⟩ |
      ⟨record, hrecord, -, hregister⟩
    · rw [hregister]
      exact .inl ⟨rfl, rfl, fun _ _ => id⟩
    · rw [hregister]
      exact .inl ⟨rfl, rfl, fun _ _ => id⟩
    · rw [hregister]
      exact .inr (.inr ⟨recordIndex, record, hrecord, rfl⟩)
  | resolve recordId decision resolvedBy now =>
    cases hstep
    exact .inl (sizes_finish manager recordId (some decision) resolvedBy now)
  | expire recordId resolvedBy now =>
    cases hstep
    exact .inl (sizes_finish manager recordId none resolvedBy now)
  | timerFires timer now =>
    obtain ⟨⟨disarmed, recordId⟩, hdisarm, rfl⟩ := Option.map_eq_some_iff.mp hstep
    obtain ⟨entry, -, rfl⟩ := disarm_eq_some hdisarm
    obtain ⟨hentries, hrest⟩ := sizes_finish { manager with
      entries := manager.entries.put timer { entry with timer := false } }
      recordId none none now
    exact .inl ⟨hentries.trans (Arena.size_put ..), hrest⟩
  | graceTimerFires timer =>
    obtain ⟨⟨recordId, index⟩, -, rfl⟩ := Option.map_eq_some_iff.mp hstep
    refine .inl ⟨rfl, rfl, fun searched found hlookup => ?_⟩
    simp only at hlookup
    split_ifs at hlookup
    · by_cases hsame : searched = recordId
      · subst hsame
        simp at hlookup
      · rwa [Entries.lookup_erase_of_ne hsame] at hlookup
    · exact hlookup
  | consumeAllowOnce recordId =>
    cases hstep
    rcases consumeAllowOnce_cases manager recordId with hconsume |
      ⟨found, stored, record, -, -, hconsume⟩
    · rw [hconsume]
      exact .inl ⟨rfl, rfl, fun _ _ => id⟩
    · rw [hconsume]
      exact .inl ⟨rfl, Arena.size_put .., fun _ _ => id⟩

theorem entries_of_step (hstep : step manager action = some next) :
    (next.entries.size = manager.entries.size ∧
        ∀ recordId index, next.pending.lookup recordId = some index →
          manager.pending.lookup recordId = some index) ∨
      ∃ recordIndex record, manager.records.get? recordIndex = some record ∧
        next = manager.withEntry recordIndex record.id := by
  rcases step_shape hstep with ⟨hentries, -, hpending⟩ | ⟨record, -, rfl⟩ | hregistered
  · exact .inl ⟨hentries, hpending⟩
  · exact .inl ⟨rfl, fun _ _ => id⟩
  · exact .inr hregistered

theorem records_of_step (hstep : step manager action = some next)
    {record : ExecApprovalRecord TPayload}
    (hrecord : next.records.get? index = some record) :
    (∃ earlier, manager.records.get? index = some earlier) ∨ record.decision = none := by
  rcases step_shape hstep with ⟨-, hrecords, -⟩ | ⟨created, hopen, rfl⟩ | ⟨_, _, -, rfl⟩
  · exact .inl (Arena.get?_of_lt_size (hrecords ▸ Arena.lt_size_of_get? hrecord))
  · rcases Arena.get?_push_eq_some.mp hrecord with ⟨-, rfl⟩ | hold
    · exact .inr hopen
    · exact .inl ⟨record, hold⟩
  · exact .inl ⟨record, hrecord⟩

/-! ## Decisions and their records -/

def ExecApprovalManager.identity (manager : ExecApprovalManager TPayload)
    (index : ℕ) : Option (JsString × TPayload) :=
  (manager.recordOf index).map fun record => (record.id, record.request)

variable (past : List (ExecApprovalManager TPayload × Action TPayload))

def events : List ApprovalEvent := past.filterMap fun taken => event taken.1 taken.2

theorem RecordStep.same {happened : Option ApprovalEvent}
    {record later : ExecApprovalRecord TPayload}
    (hrecord : RecordStep happened index record later) :
    later.id = record.id ∧ later.request = record.request := by
  cases hrecord with
  | kept | decided | expired | consumed => exact ⟨rfl, rfl⟩

theorem recordOf_of_step (hstep : step manager action = some next)
    {record : ExecApprovalRecord TPayload}
    (hrecord : manager.recordOf index = some record) :
    ∃ later, next.recordOf index = some later ∧ later.id = record.id ∧
      later.request = record.request := by
  obtain ⟨entry, hentry, hstored⟩ := Option.bind_eq_some_iff.mp hrecord
  obtain ⟨later, hlater, hentryStep⟩ := entryStep_of_step hstep hentry
  obtain ⟨kept, hkept, hrecordStep⟩ := recordStep_of_step hstep hstored
  refine ⟨kept, ?_, hrecordStep.same⟩
  simp [recordOf, hlater, hentryStep.record, hkept]

theorem identity_of_step (hstep : step manager action = some next) {identity : JsString × TPayload}
    (hidentity : manager.identity index = some identity) :
    next.identity index = some identity := by
  obtain ⟨record, hrecord, rfl⟩ := Option.map_eq_some_iff.mp hidentity
  obtain ⟨later, hlater, hid, hrequest⟩ := recordOf_of_step hstep hrecord
  simp [identity, hlater, hid, hrequest]

structure Bound (manager : ExecApprovalManager TPayload) : Prop where
  stored : ∀ index entry, manager.entries.get? index = some entry →
    ∃ record, manager.recordOf index = some record
  named : ∀ recordId index, manager.pending.lookup recordId = some index →
    ∃ record, manager.recordOf index = some record ∧ record.id = recordId

theorem bound_empty : Bound (empty : ExecApprovalManager TPayload) := by
  constructor
  · intro index entry hentry
    simp [empty] at hentry
  · intro recordId index hlookup
    simp [empty] at hlookup

theorem recordOf_withEntry {recordIndex : ℕ} {record : ExecApprovalRecord TPayload}
    (hrecord : manager.records.get? recordIndex = some record) :
    (manager.withEntry recordIndex record.id).recordOf index =
      if index = manager.entries.size then some record
      else manager.recordOf index := by
  unfold recordOf withEntry
  simp only [Arena.get?_push]
  split_ifs
  · exact hrecord
  · rfl

theorem bound_step (hbound : Bound manager)
    (hstep : step manager action = some next) : Bound next := by
  rcases entries_of_step hstep with ⟨hsize, hpending⟩ | ⟨recordIndex, record, hrecord, rfl⟩
  · constructor
    · intro index entry hentry
      obtain ⟨old, hold⟩ := Arena.get?_of_lt_size (hsize ▸ Arena.lt_size_of_get? hentry)
      obtain ⟨record, hrecord⟩ := hbound.stored index old hold
      obtain ⟨later, hlater, -⟩ := recordOf_of_step hstep hrecord
      exact ⟨later, hlater⟩
    · intro recordId index hlookup
      obtain ⟨record, hrecord, hid⟩ := hbound.named recordId index (hpending recordId index hlookup)
      obtain ⟨later, hlater, hlaterId, -⟩ := recordOf_of_step hstep hrecord
      exact ⟨later, hlater, hlaterId.trans hid⟩
  · constructor
    · intro index entry hentry
      rw [recordOf_withEntry hrecord]
      split_ifs with hnew
      · exact ⟨record, rfl⟩
      · simp only [withEntry, Arena.get?_push, if_neg hnew] at hentry
        exact hbound.stored index entry hentry
    · intro recordId index hlookup
      rw [recordOf_withEntry hrecord]
      simp only [withEntry] at hlookup
      by_cases hsame : recordId = record.id
      · subst hsame
        rw [Entries.lookup_set_self, Option.some.injEq] at hlookup
        exact ⟨record, if_pos hlookup.symm, rfl⟩
      · rw [Entries.lookup_set_of_ne hsame] at hlookup
        obtain ⟨found, hfound, hid⟩ := hbound.named recordId index hlookup
        obtain ⟨entry, hentry, -⟩ := Option.bind_eq_some_iff.mp hfound
        rw [if_neg (Nat.ne_of_lt (Arena.lt_size_of_get? hentry))]
        exact ⟨found, hfound, hid⟩

/-- A promise that has settled with a decision owes it to a call of `resolve`
that found its entry. -/
def Given (manager : ExecApprovalManager TPayload) : Prop :=
  ∀ index decision, manager.promise index = some (some decision) →
    ∃ earlier recordId resolvedBy now, (earlier, .resolve recordId decision resolvedBy now) ∈ past ∧
      (earlier.resolve recordId decision resolvedBy now).2 = true ∧
      earlier.pending.lookup recordId = some index ∧
      ∃ request, earlier.identity index = some (recordId, request) ∧
        manager.identity index = some (recordId, request)

theorem given_empty : Given [] (empty : ExecApprovalManager TPayload) := by
  intro index decision hpromise
  simp [promise, empty] at hpromise

theorem given_step {past : List (ExecApprovalManager TPayload × Action TPayload)}
    (hbound : Bound manager) (hgiven : Given past manager)
    (hstep : step manager action = some next) :
    Given (past ++ [(manager, action)]) next := by
  intro index decision hpromise
  obtain ⟨later, hlater, hsettled⟩ := Option.bind_eq_some_iff.mp hpromise
  have hfound : ∃ entry, manager.entries.get? index = some entry := by
    rcases entries_of_step hstep with ⟨hsize, -⟩ | ⟨recordIndex, record, -, rfl⟩
    · exact Arena.get?_of_lt_size (hsize ▸ Arena.lt_size_of_get? hlater)
    · rcases Arena.get?_push_eq_some.mp hlater with ⟨-, rfl⟩ | hold
      · contradiction
      · exact ⟨later, hold⟩
  obtain ⟨entry, hentry⟩ := hfound
  obtain ⟨found, hfound, hentryStep⟩ := entryStep_of_step hstep hentry
  cases hlater.symm.trans hfound
  rcases hentryStep.given decision hsettled with hold |
    ⟨recordId, resolvedBy, now, rfl, htrue, hlookup⟩
  · have hpromise : manager.promise index = some (some decision) := by
      simp [promise, hentry, hold]
    obtain ⟨earlier, recordId, resolvedBy, now, hmem, htrue, hlookup, request,
      hidentity, hnow⟩ := hgiven index decision hpromise
    exact ⟨earlier, recordId, resolvedBy, now, List.mem_append_left _ hmem, htrue,
      hlookup, request, hidentity, identity_of_step hstep hnow⟩
  · obtain ⟨record, hrecord, rfl⟩ := hbound.named recordId index hlookup
    have hidentity : manager.identity index = some (record.id, record.request) := by
      simp [identity, hrecord]
    exact ⟨manager, record.id, resolvedBy, now,
      List.mem_append_right _ (List.mem_singleton.mpr rfl), htrue, hlookup,
      record.request, hidentity, identity_of_step hstep hidentity⟩

/-! ## Uses of a decision -/

def MayFollow : ApprovalEvent → ApprovalEvent → Prop
  | .consumed first, .consumed second => first ≠ second
  | .expired first, .decided second _ => first ≠ second
  | .expired first, .consumed second => first ≠ second
  | _, _ => True

def Permitted (happened : List ApprovalEvent) : Prop :=
  ∀ position record : ℕ, happened[position]? = some (ApprovalEvent.consumed record) →
      ∃ earlier : ℕ, earlier < position ∧
        happened[earlier]? = some (ApprovalEvent.decided record .allowOnce)

structure Spent (happened : List ApprovalEvent)
    (manager : ExecApprovalManager TPayload) : Prop where
  /-- a permission that is left was given and was not used -/
  allowed : ∀ index record, manager.records.get? index = some record →
    record.decision = some .allowOnce → record.resolvedAtMs.isSome = true ∧
      ApprovalEvent.decided index .allowOnce ∈ happened ∧
      ApprovalEvent.consumed index ∉ happened
  consumed : ∀ index, ApprovalEvent.consumed index ∈ happened →
    ∃ record, manager.records.get? index = some record ∧ record.resolvedAtMs.isSome = true
  expired : ∀ index, ApprovalEvent.expired index ∈ happened →
    ∃ record, manager.records.get? index = some record ∧
      record.resolvedAtMs.isSome = true ∧ record.decision = none
  ordered : happened.Pairwise MayFollow
  permitted : Permitted happened

theorem spent_empty : Spent [] (empty : ExecApprovalManager TPayload) where
  allowed := by simp [empty]
  consumed := by simp
  expired := by simp
  ordered := List.Pairwise.nil
  permitted := by simp [Permitted]

def ApprovalEvent.record : ApprovalEvent → ℕ
  | .decided record _ => record
  | .expired record => record
  | .consumed record => record

theorem exists_of_recordAt (hat : manager.recordAt recordId = some index) :
    ∃ record, manager.records.get? index = some record := by
  obtain ⟨⟨found, entry, record⟩, hfind, rfl⟩ := Option.map_eq_some_iff.mp hat
  exact ⟨record, (find_eq_some.mp hfind).2.2⟩

theorem exists_of_finishEvent {happened : ApprovalEvent} {recordId : JsString}
    {decision : Option ExecApprovalDecision} {resolvedBy : Option JsString}
    {now : ℤ} (hevent : finishEvent manager recordId decision resolvedBy now = some happened) :
    ∃ record, manager.records.get? happened.record = some record := by
  unfold finishEvent at hevent
  rw [Option.ite_none_right_eq_some] at hevent
  obtain ⟨found, hat, rfl⟩ := Option.map_eq_some_iff.mp hevent.2
  cases decision with
  | some decision | none =>
    exact exists_of_recordAt hat

theorem exists_of_event {happened : ApprovalEvent} (hevent : event manager action = some happened) :
    ∃ record, manager.records.get? happened.record = some record := by
  cases action with
  | resolve | expire => exact exists_of_finishEvent hevent
  | timerFires timer now =>
    obtain ⟨⟨disarmed, recordId⟩, hdisarm, hevent⟩ := Option.bind_eq_some_iff.mp hevent
    obtain ⟨stored, -, hdisarmed⟩ := disarm_eq_some hdisarm
    have hfinish : finishEvent disarmed recordId none none now = some happened := hevent
    obtain ⟨record, hrecord⟩ := exists_of_finishEvent hfinish
    rw [hdisarmed] at hrecord
    exact ⟨record, hrecord⟩
  | consumeAllowOnce recordId =>
    unfold event at hevent
    rw [Option.ite_none_right_eq_some] at hevent
    obtain ⟨found, hat, rfl⟩ := Option.map_eq_some_iff.mp hevent.2
    exact exists_of_recordAt hat
  | create | register | graceTimerFires | awaitDecision => contradiction

variable {happened : List ApprovalEvent}

theorem Permitted.append (hpermitted : Permitted happened) {added : List ApprovalEvent}
    (hadded : ∀ record, ApprovalEvent.consumed record ∈ added →
      ApprovalEvent.decided record .allowOnce ∈ happened) :
    Permitted (happened ++ added) := by
  intro position record hposition
  rw [List.getElem?_append] at hposition
  split_ifs at hposition with hlt
  · obtain ⟨earlier, hearlier, hdecided⟩ := hpermitted position record hposition
    refine ⟨earlier, hearlier, ?_⟩
    rwa [List.getElem?_append_left (hearlier.trans hlt)]
  · have hmem := List.mem_of_getElem? hposition
    obtain ⟨earlier, hdecided⟩ := List.mem_iff_getElem?.mp (hadded record hmem)
    have hearlier := (List.getElem?_eq_some_iff.mp hdecided).1
    refine ⟨earlier, by omega, ?_⟩
    rwa [List.getElem?_append_left hearlier]

theorem records_of_event (hstep : step manager action = some next) {event' : ApprovalEvent}
    (hevent : event manager action = some event') :
    ∃ record later, manager.records.get? event'.record = some record ∧
      next.records.get? event'.record = some later ∧
      match event' with
      | .decided .. => record.resolvedAtMs = none
      | .expired _ =>
        record.resolvedAtMs = none ∧ later.resolvedAtMs.isSome = true ∧ later.decision = none
      | .consumed _ => record.decision = some .allowOnce := by
  obtain ⟨record, hrecord⟩ := exists_of_event hevent
  obtain ⟨later, hlater, hrecordStep⟩ := recordStep_of_step hstep hrecord
  refine ⟨record, later, hrecord, hlater, ?_⟩
  cases event' <;> cases hrecordStep <;> simp_all [ApprovalEvent.record]

section

variable (hspent : Spent happened manager) (hstep : step manager action = some next)
include hspent hstep

theorem mayFollow_of_step {earlier later : ApprovalEvent}
    (hearlier : earlier ∈ happened) (hlater : event manager action = some later) :
    MayFollow earlier later := by
  obtain ⟨record, _, hrecord, -, hmeaning⟩ := records_of_event hstep hlater
  cases earlier with
  | decided => trivial
  | expired first =>
    obtain ⟨found, hfound, hsome, hnone⟩ := hspent.expired first hearlier
    cases later with
    | decided second decision =>
      rintro rfl
      cases hfound.symm.trans hrecord
      rw [hmeaning] at hsome
      contradiction
    | expired => trivial
    | consumed second =>
      rintro rfl
      cases hfound.symm.trans hrecord
      rw [hmeaning] at hnone
      contradiction
  | consumed first =>
    cases later with
    | decided | expired => trivial
    | consumed second =>
      rintro rfl
      exact (hspent.allowed first record hrecord hmeaning).2.2 hearlier

theorem spent_step : Spent (happened ++ (event manager action).toList) next := by
  have hstays : ∀ index, (∃ record, manager.records.get? index = some record ∧
      record.resolvedAtMs.isSome = true) → ∃ record,
        next.records.get? index = some record ∧ record.resolvedAtMs.isSome = true := by
    rintro index ⟨record, hrecord, hsome⟩
    obtain ⟨later, hlater, hrecordStep⟩ := recordStep_of_step hstep hrecord
    refine ⟨later, hlater, ?_⟩
    cases hrecordStep with
    | kept | consumed => exact hsome
    | decided | expired => rfl
  constructor
  · intro index later hlater hallowed
    rcases records_of_step hstep hlater with ⟨record, hrecord⟩ | hnone
    · obtain ⟨changed, hchanged, hrecordStep⟩ := recordStep_of_step hstep hrecord
      cases hlater.symm.trans hchanged
      cases hrecordStep with
      | kept _ _ hconsumed =>
        obtain ⟨hsome, hdecided, hunused⟩ := hspent.allowed index later hrecord hallowed
        refine ⟨hsome, List.mem_append_left _ hdecided, ?_⟩
        simp [hunused, hconsumed]
      | decided decision resolvedBy now hevent hopen =>
        obtain rfl : decision = .allowOnce := Option.some.inj hallowed
        refine ⟨rfl, by simp [hevent], ?_⟩
        simp only [hevent, Option.toList_some, List.mem_append, List.mem_singleton, not_or]
        refine ⟨fun hconsumed => ?_, by simp⟩
        obtain ⟨found, hfound, hsome⟩ := hspent.consumed index hconsumed
        cases hrecord.symm.trans hfound
        rw [hopen] at hsome
        contradiction
      | expired => contradiction
      | consumed => contradiction
    · rw [hnone] at hallowed
      contradiction
  · intro index hconsumed
    rcases List.mem_append.mp hconsumed with hold | hnew
    · exact hstays index (hspent.consumed index hold)
    · obtain ⟨record, _, hrecord, -, hallowed⟩ := @records_of_event _ _ _ _ hstep (.consumed index)
        (by simpa using hnew)
      exact hstays index ⟨record, hrecord, (hspent.allowed index record hrecord hallowed).1⟩
  · intro index hexpired
    rcases List.mem_append.mp hexpired with hold | hnew
    · obtain ⟨record, hrecord, hsome, hnone⟩ := hspent.expired index hold
      obtain ⟨later, hlater, hrecordStep⟩ := recordStep_of_step hstep hrecord
      refine ⟨later, hlater, ?_⟩
      cases hrecordStep with
      | kept => exact ⟨hsome, hnone⟩
      | decided _ _ _ _ hopen | expired _ _ _ hopen =>
        rw [hopen] at hsome
        contradiction
      | consumed => exact ⟨hsome, rfl⟩
    · obtain ⟨-, later, -, hlater, -, hclosed⟩ := @records_of_event _ _ _ _ hstep (.expired index)
        (by simpa using hnew)
      exact ⟨later, hlater, hclosed⟩
  · apply List.pairwise_append.mpr
    refine ⟨hspent.ordered, ?_, ?_⟩
    · cases event manager action with
      | none => exact List.Pairwise.nil
      | some later => exact List.pairwise_singleton ..
    · intro earlier hearlier later hlater
      exact mayFollow_of_step hspent hstep hearlier (by simpa using hlater)
  · apply hspent.permitted.append
    intro index hnew
    obtain ⟨record, _, hrecord, -, hallowed⟩ := @records_of_event _ _ _ _ hstep (.consumed index)
      (by simpa using hnew)
    exact (hspent.allowed index record hrecord hallowed).2.1

end

def joinsSame [DecidableEq TPayload] (manager : ExecApprovalManager TPayload) :
    Action TPayload → Bool
  | .register recordIndex =>
    (manager.records.get? recordIndex).all fun record =>
      (manager.find record.id).all fun found =>
        found.2.2.resolvedAtMs.isSome || found.2.2.request = record.request
  | _ => true

/-- The entry whose promise a registration returned is for the same identifier
and the same request. -/
def Registered (manager : ExecApprovalManager TPayload) : Prop :=
  ∀ earlier recordIndex index record, (earlier, .register recordIndex) ∈ past →
    (earlier.register recordIndex).2 = .ok index →
    earlier.records.get? recordIndex = some record →
      manager.identity index = some (record.id, record.request)

theorem registered_empty : Registered [] (empty : ExecApprovalManager TPayload) := by
  intro earlier recordIndex index record hmem
  contradiction

theorem registered_step [DecidableEq TPayload]
    {past : List (ExecApprovalManager TPayload × Action TPayload)}
    (hbound : Bound manager) (hregistered : Registered past manager)
    (hjoins : joinsSame manager action = true)
    (hstep : step manager action = some next) :
    Registered (past ++ [(manager, action)]) next := by
  intro earlier recordIndex index record hmem hok hrecord
  rcases List.mem_append.mp hmem with hold | hnew
  · exact identity_of_step hstep (hregistered earlier recordIndex index record hold hok hrecord)
  · simp only [List.mem_singleton, Prod.mk.injEq] at hnew
    obtain ⟨rfl, rfl⟩ := hnew
    rcases register_cases earlier recordIndex with ⟨error, hregister⟩ |
      ⟨stored, found, entry, existing, hstored, hfind, hopen, hregister⟩ |
      ⟨stored, hstored, -, hregister⟩
    · rw [hregister] at hok
      contradiction
    · rw [hregister] at hok
      obtain rfl := Except.ok.inj hok
      obtain rfl := Option.some.inj (hrecord.symm.trans hstored)
      obtain ⟨hlookup, hentry, hexisting⟩ := find_eq_some.mp hfind
      have hof : earlier.recordOf found = some existing := by
        simp [recordOf, hentry, hexisting]
      obtain ⟨named, hnamed, hid⟩ := hbound.named record.id found hlookup
      obtain rfl := Option.some.inj (hof.symm.trans hnamed)
      have hrequest : existing.request = record.request := by
        simpa [joinsSame, hrecord, hfind, hopen] using hjoins
      apply identity_of_step hstep
      simp [identity, hof, hid, hrequest]
    · rw [hregister] at hok
      obtain rfl := Except.ok.inj hok
      obtain rfl := Option.some.inj (hrecord.symm.trans hstored)
      have hnext : next = earlier.withEntry recordIndex record.id := by
        rw [← Option.some.inj hstep, hregister]
      rw [hnext, identity, recordOf_withEntry hrecord, if_pos rfl, Option.map_some]

/-! ## Runs -/

theorem promise_of_step (hstep : step manager action = some next)
    {value : Option ExecApprovalDecision}
    (hpromise : manager.promise index = some value) :
    next.promise index = some value := by
  obtain ⟨entry, hentry, hsettled⟩ := Option.bind_eq_some_iff.mp hpromise
  obtain ⟨later, hlater, hentryStep⟩ := entryStep_of_step hstep hentry
  simp [promise, hlater, hentryStep.settled value hsettled]

theorem count_consumed_le (hordered : happened.Pairwise MayFollow) (record : ℕ) :
    happened.count (.consumed record) ≤ 1 := by
  by_contra hcount
  have htwo : List.Sublist (List.replicate 2 (ApprovalEvent.consumed record))
      happened := List.replicate_sublist_iff.mpr (by omega)
  have hpair := hordered.sublist htwo
  simp [List.replicate, MayFollow] at hpair

theorem not_mem_of_expired (hordered : happened.Pairwise MayFollow) {record : ℕ}
    {earlier later : List ApprovalEvent}
    (hsplit : happened = earlier ++ .expired record :: later) :
    (∀ decision, ApprovalEvent.decided record decision ∉ later) ∧
      ApprovalEvent.consumed record ∉ later := by
  rw [hsplit] at hordered
  have hafter := (List.pairwise_cons.mp (List.pairwise_append.mp hordered).2.1).1
  constructor
  · exact fun decision hmem => hafter _ hmem rfl
  · exact fun hmem => hafter _ hmem rfl

/-- What holds after every run of the manager; that a decision is for the
request that was registered needs that no registration joins another request. -/
theorem approvals_single_use [DecidableEq TPayload]
    {actions : List (Action TPayload)} {final : ExecApprovalManager TPayload}
    (hrun : run step empty actions = some final) :
    (LabelledMachine.Guarded step (fun manager action => joinsSame manager action = true)
        empty actions →
      ∀ earlier recordIndex record index decision, (earlier, .register recordIndex) ∈
          history step empty actions →
        earlier.records.get? recordIndex = some record →
        (earlier.register recordIndex).2 = .ok index →
        final.promise index = some (some decision) →
        ∃ resolver resolvedBy now, (resolver, .resolve record.id decision resolvedBy now) ∈
            history step empty actions ∧
          (resolver.resolve record.id decision resolvedBy now).2 = true ∧
          ∃ found registered, resolver.pending.lookup record.id = some found ∧
            resolver.recordOf found = some registered ∧
            registered.request = record.request) ∧
      (∀ more last index value, run step final more = some last →
        final.promise index = some value → last.promise index = some value) ∧
      (∀ record, (events (history step empty actions)).count (.consumed record) ≤ 1) ∧
      Permitted (events (history step empty actions)) ∧
      ∀ record earlier later, events (history step empty actions) =
          earlier ++ .expired record :: later →
        (∀ decision, ApprovalEvent.decided record decision ∉ later) ∧
          ApprovalEvent.consumed record ∉ later := by
  have hall : Bound final ∧ Given (history step empty actions) final ∧
      Spent (events (history step empty actions)) final := by
    have hkeep : ∀ {past : List (ExecApprovalManager TPayload × Action TPayload)}
        {manager next : ExecApprovalManager TPayload} {action : Action TPayload},
        (Bound manager ∧ Given past manager ∧ Spent (events past) manager) →
        True → step manager action = some next →
          Bound next ∧ Given (past ++ [(manager, action)]) next ∧
            Spent (events (past ++ [(manager, action)])) next := by
      rintro past manager next action ⟨hbound, hgiven, hspent⟩ - hstep
      refine ⟨bound_step hbound hstep, given_step hbound hgiven hstep, ?_⟩
      have hevents : events (past ++ [(manager, action)]) =
          events past ++ (event manager action).toList := by
        simp only [events, List.filterMap_append]
        cases hevent : event manager action <;> simp [hevent]
      rw [hevents]
      exact spent_step hspent hstep
    exact history_invariant
      (fun past manager => Bound manager ∧ Given past manager ∧ Spent (events past) manager) hkeep
      ⟨bound_empty, given_empty, spent_empty⟩
      (guarded_of_forall (fun _ _ => trivial) _ _) hrun
  obtain ⟨-, hgiven, hspent⟩ := hall
  refine ⟨?_, ?_, count_consumed_le hspent.ordered, hspent.permitted,
    fun record earlier later => not_mem_of_expired hspent.ordered⟩
  · intro hguarded earlier recordIndex record index decision hmem hrecord hok hpromise
    have hregistered : Bound final ∧ Registered (history step empty actions) final := by
      have hkeep : ∀ {past : List (ExecApprovalManager TPayload × Action TPayload)}
          {manager next : ExecApprovalManager TPayload} {action : Action TPayload},
          (Bound manager ∧ Registered past manager) →
          joinsSame manager action = true → step manager action = some next →
            Bound next ∧ Registered (past ++ [(manager, action)]) next :=
        fun hpast hjoins hstep => ⟨bound_step hpast.1 hstep,
          registered_step hpast.1 hpast.2 hjoins hstep⟩
      exact history_invariant (fun past manager => Bound manager ∧ Registered past manager) hkeep
        ⟨bound_empty, registered_empty⟩ hguarded hrun
    have hidentity := hregistered.2 earlier recordIndex index record hmem hok hrecord
    obtain ⟨resolver, recordId, resolvedBy, now, hresolve, htrue, hlookup, request,
      hthen, hnow⟩ := hgiven index decision hpromise
    rw [hidentity, Option.some.injEq, Prod.mk.injEq] at hnow
    obtain ⟨rfl, rfl⟩ := hnow
    obtain ⟨registered, hof, heq⟩ := Option.map_eq_some_iff.mp hthen
    exact ⟨resolver, resolvedBy, now, hresolve, htrue, index, registered, hlookup,
      hof, (Prod.mk.inj heq).2⟩
  · intro more last index value hmore hpromise
    exact run_invariant (fun manager => manager.promise index = some value)
      (fun hsettled hstep => promise_of_step hstep hsettled) hpromise hmore

def singleUse : List (Action ℕ) :=
  [.create 7 1000 none 0 (js "first"), .register 0,
    .resolve (js "first") .allowOnce none 5, .consumeAllowOnce (js "first"),
    .consumeAllowOnce (js "first")]

theorem singleUse_runs : (run step empty singleUse).isSome = true := by
  decide

theorem singleUse_approved : ∃ resolver resolvedBy now,
      (resolver, .resolve (js "first") .allowOnce resolvedBy now) ∈ history step empty singleUse ∧
      ∃ found registered, resolver.pending.lookup (js "first") = some found ∧
        resolver.recordOf found = some registered ∧ registered.request = 7 := by
  have hguarded : LabelledMachine.Guarded step (fun (manager : ExecApprovalManager ℕ) action =>
        joinsSame manager action = true) empty singleUse := by
    decide
  obtain ⟨hdecided, -⟩ := approvals_single_use (Option.eq_some_of_isSome singleUse_runs)
  obtain ⟨resolver, resolvedBy, now, hresolve, -, hfound⟩ := hdecided hguarded
    (empty.create 7 1000 none 0 (js "first")) 0
    ⟨js "first", 7, 0, 1000, none, none, none⟩ 0 .allowOnce
    (List.mem_cons_of_mem _ List.mem_cons_self) (by rfl) (by rfl) (by rfl)
  exact ⟨resolver, resolvedBy, now, hresolve, hfound⟩

def joined : List (Action ℕ) :=
  [.create 7 1000 (some (js "shared")) 0 (js "first"), .register 0,
    .create 8 1000 (some (js "shared")) 0 (js "second"), .register 1,
    .resolve (js "shared") .allowOnce none 5]

theorem joined_runs : (run step empty joined).isSome = true := by
  decide

theorem joined_decides_other_request :
    ¬ ∀ (actions : List (Action ℕ)) (final : ExecApprovalManager ℕ),
      run step empty actions = some final →
      ∀ earlier recordIndex record index decision, (earlier, .register recordIndex) ∈
          history step empty actions →
        earlier.records.get? recordIndex = some record →
        (earlier.register recordIndex).2 = .ok index →
        final.promise index = some (some decision) →
        ∃ resolver resolvedBy now, (resolver, .resolve record.id decision resolvedBy now) ∈
            history step empty actions ∧
          ∃ found registered, resolver.pending.lookup record.id = some found ∧
            resolver.recordOf found = some registered ∧
            registered.request = record.request := by
  intro hall
  obtain ⟨resolver, resolvedBy, now, hmem, found, registered, hlookup, hof,
    hrequest⟩ := hall joined _ (Option.eq_some_of_isSome joined_runs) _ 1
      ⟨js "shared", 8, 0, 1000, none, none, none⟩ 0 .allowOnce
      (.tail _ (.tail _ (.tail _ (.head _)))) (by rfl) (by rfl) (by rfl)
  have hfirst : (history step (empty : ExecApprovalManager ℕ) joined).all fun taken =>
        ((taken.1.pending.lookup (js "shared")).bind taken.1.recordOf).all
          fun record => record.request = 7 := by
    decide
  have hseven := List.all_eq_true.mp hfirst _ hmem
  simp only [hlookup, Option.bind_some, hof, Option.all_some, decide_eq_true_eq] at hseven
  rw [hseven] at hrequest
  contradiction

end LittleBaby.ExecApprovals
