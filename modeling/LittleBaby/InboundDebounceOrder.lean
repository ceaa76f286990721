import LittleBaby.InboundDebounceSound

/-!
# Order and overlap of the debounced flushes

What was passed to `onFlush` for a key, followed by what its slots still hold,
is what was enqueued for the key.
-/

namespace LittleBaby.InboundDebounce

open JsString KeyedChains LabelledMachine

variable {Item : Type*} {params : InboundDebounceCreateParams Item}
  {state next : Debouncer Item} {index : ℕ} {slot : Slot}

def Accounted (params : InboundDebounceCreateParams Item) (state : Debouncer Item) : Prop :=
  ∀ key, flushed key state ++ waiting state key = enqueued params key state.items

theorem enqueued_concat (key : Option JsString) (items : List Item) (item : Item) :
    enqueued params key (items ++ [item]) = enqueued params key items ++
      if params.keyOf item = key then [items.length] else [] := by
  simp [enqueued, List.zipIdx_append]

theorem flushed_push (key : Option JsString) (call : FlushCall)
    (hcalls : next.calls = state.calls.push call) :
    flushed key next = flushed key state ++
      if call.key = key then call.items else [] := by
  unfold flushed
  rw [hcalls]
  simp [Arena.push]

@[simp] theorem waiting_none : waiting state none = [] := rfl

@[simp] theorem waiting_some (key : JsString) :
    waiting state (some key) = held holding key state.keyChains := rfl

theorem flushed_congr (key : Option JsString)
    (hcalls : next.calls = state.calls) : flushed key next = flushed key state := by
  unfold flushed
  rw [hcalls]

variable {key : JsString}

theorem Sound.waiting_of_forgotten (hsound : Sound state)
    (hforgotten : state.keyChains.tails.lookup key = none) :
    waiting state (some key) = [] := by
  rw [waiting_some, held, List.flatMap_eq_nil_iff, Arena.forall_mem_cells]
  intro index slot hget
  split_ifs with hkey
  · have hsettled := hsound.serial.forgotten key hforgotten index slot hget (eq_of_beq hkey)
    simp [holding, (hsound.slots index slot hget).settled hsettled]
  · rfl

variable {changed : Slot}

theorem waiting_put (hget : state.keyChains.links.get? index = some slot)
    (hlinks : next.keyChains.links = state.keyChains.links.put index changed)
    (hkey : changed.key = slot.key) (hholding : holding changed = holding slot)
    (key : Option JsString) : waiting next key = waiting state key := by
  cases key with
  | none => rfl
  | some key =>
    rw [waiting_some, waiting_some, ← held_put_same hget hkey
      (fun _ => hholding) next.keyChains.tails, ← hlinks]

section

variable (haccounted : Accounted params state)
include haccounted

theorem Accounted.put (hget : state.keyChains.links.get? index = some slot) {changed : Slot}
    (hlinks : next.keyChains.links = state.keyChains.links.put index changed)
    (hkey : changed.key = slot.key) (hholding : holding changed = holding slot)
    (hcalls : next.calls = state.calls) (hitems : next.items = state.items) :
    Accounted params next := by
  intro key
  rw [flushed_congr key hcalls, waiting_put hget hlinks hkey hholding, hitems]
  exact haccounted key

theorem Accounted.passTask (hsound : Sound state)
    (hget : state.keyChains.links.get? index = some slot)
    (hstep : passTask index slot state = some next) : Accounted params next := by
  simp only [InboundDebounce.passTask, Bool.and_eq_true, Bool.not_eq_true',
    decide_eq_true_eq, Option.ite_none_right_eq_some] at hstep
  obtain ⟨⟨⟨hrunning, hpending⟩, -⟩, hstep⟩ := hstep
  split_ifs at hstep with hempty
  · cases hstep
    apply haccounted.put hget
    · rfl
    · rfl
    · simp [holding, hempty]
    · rfl
    · rfl
  · cases hstep
    intro key
    rw [flushed_push key _ rfl]
    by_cases hkey : key = some slot.key
    · subst hkey
      -- the slots of the key before this one have passed on what they held
      have hbefore : ∀ earlier other, earlier < index →
          state.keyChains.links.get? earlier = some other →
            (other.key == slot.key) = true → holding other = [] := by
        intro earlier other hlt hother hsame
        have hsettled := hsound.serial.started index slot hget
          (by simp [hrunning]) earlier other hlt hother (eq_of_beq hsame)
        simp [holding, (hsound.slots earlier other hother).settled hsettled]
      obtain ⟨rest, hold, hnew⟩ := @held_put_first _ _ _ state.keyChains index slot _ holding hget
        { slot with task := { slot.task with passed := true, call := some state.calls.size } }
        rfl (beq_self_eq_true _) hbefore state.keyChains.tails
      have hheld : holding slot = slot.task.source.items := by
        simp [holding, hpending]
      have hkeep := haccounted (some slot.key)
      change flushed (some slot.key) state ++ held holding slot.key _ = _ at hkeep
      change _ ++ held holding slot.key ⟨state.keyChains.links.put index _, _⟩ =
        enqueued params (some slot.key) state.items
      rw [hnew, if_pos rfl]
      rw [hold, hheld] at hkeep
      simpa [holding] using hkeep
    · rw [if_neg (Ne.symm hkey), List.append_nil]
      have hsame : waiting (putTask index slot
            { slot.task with passed := true, call := some state.calls.size }
            state) key = waiting state key := by
        cases key with
        | none => rfl
        | some key =>
          have hne : (slot.key == key) = true → False :=
            fun heq => hkey (congrArg some (eq_of_beq heq).symm)
          exact @held_put_same _ _ _ state.keyChains index slot _ holding hget { slot with task :=
              { slot.task with
                passed := true
                call := some state.calls.size } }
            rfl key (fun heq => absurd heq hne) state.keyChains.tails
      exact (congrArg (flushed key state ++ ·) hsame).trans (haccounted key)

theorem Accounted.flushBuffer {buffer : DebounceBuffer}
    (hget : state.keyChains.links.get? index = some slot)
    (hsource : slot.task.source = .buffer buffer) (key : JsString) :
    Accounted params (flushBuffer key index slot buffer state) := by
  apply haccounted.put hget
  · rfl
  · rfl
  · simp [holding, hsource, FlushSource.items]
  · rfl
  · rfl

theorem Accounted.flushKey (hsound : Sound state) (key : JsString) :
    Accounted params (flushKey key state) := by
  rcases hsound.flushKey_cases key with
    ⟨-, hsame⟩ | ⟨index, slot, buffer, -, hget, -, hsource, hflush⟩
  · rw [hsame]
    exact haccounted
  · rw [hflush]
    exact haccounted.flushBuffer hget hsource key

end

variable {item : Item}

theorem Accounted.append (haccounted : Accounted params state) (hkey : params.keyOf item = some key)
    {task : SlotTask} (hchains : next.keyChains = state.keyChains.append key task)
    (hpassed : task.passed = false)
    (hsource : task.source.items = [state.items.length])
    (hcalls : next.calls = state.calls)
    (hitems : next.items = state.items ++ [item]) : Accounted params next := by
  intro searched
  rw [flushed_congr searched hcalls, hitems, enqueued_concat, hkey,
    ← haccounted searched, List.append_assoc]
  congr 1
  cases searched with
  | none => simp
  | some searched =>
    rw [waiting_some, waiting_some, hchains, held_append]
    by_cases hsame : key = searched
    · subst hsame
      simp [holding, hpassed, hsource]
    · have hne : (key == searched) = false := by simpa using hsame
      simp [hne, hsame]

variable {call : FlushCall}

theorem Accounted.direct (haccounted : Accounted params state)
    (hwaiting : waiting state (params.keyOf item) = [])
    (hchains : next.keyChains = state.keyChains)
    (hcall : call.key = params.keyOf item)
    (hcallItems : call.items = [state.items.length])
    (hcalls : next.calls = state.calls.push call)
    (hitems : next.items = state.items ++ [item]) : Accounted params next := by
  intro searched
  have hkept : waiting next searched = waiting state searched := by
    cases searched with
    | none => rfl
    | some key => rw [waiting_some, waiting_some, hchains]
  rw [flushed_push searched call hcalls, hkept, hitems, enqueued_concat, hcall,
    hcallItems, ← haccounted searched]
  by_cases hsame : params.keyOf item = searched
  · subst hsame
    simp [hwaiting]
  · simp [hsame]

theorem Accounted.pushItem (haccounted : Accounted params state) (hsound : Sound state)
    (hkey : params.keyOf item = some key)
    (hlookup : state.buffers.lookup key = some index)
    (hget : state.keyChains.links.get? index = some slot)
    (hslotKey : slot.key = key) {buffer : DebounceBuffer}
    (hsource : slot.task.source = .buffer buffer)
    (hopen : slot.task.released = false) {task : SlotTask}
    (hpassed : task.passed = slot.task.passed)
    (hitems : task.source.items = buffer.items ++ [state.items.length]) :
    Accounted params (putTask index slot task { state with items := state.items ++ [item] }) := by
  subst hslotKey
  intro searched
  change flushed searched state ++ _ = enqueued params searched (state.items ++ [item])
  rw [enqueued_concat, hkey, ← haccounted searched, List.append_assoc]
  congr 1
  have hok := hsound.slots index slot hget
  have hpending : slot.task.passed = false := by
    by_contra hnot
    have hreleased := hok.released (by simpa using hnot)
      (hok.buffer buffer hsource).1
    rw [hopen] at hreleased
    contradiction
  cases searched with
  | none => simp
  | some searched =>
    change held holding searched ⟨state.keyChains.links.put index _, _⟩ =
      held holding searched state.keyChains ++ _
    by_cases hsame : slot.key = searched
    · subst hsame
      -- the pending buffer is the last slot of its key
      have hlast : ∀ later other, state.keyChains.links.get? later = some other →
            (other.key == slot.key) = true → later ≤ index :=
        fun later other hother heq =>
          (hsound.serial.last slot.key index
            (hsound.buffers slot.key index hlookup).1).2 later other hother
            (eq_of_beq heq)
      obtain ⟨front, hold, hnew⟩ := @held_put_last _ _ _ state.keyChains index
        slot _ holding hget { slot with task := task } rfl
        (beq_self_eq_true _) hlast state.keyChains.tails
      have hbuffer : slot.task.source.items = buffer.items := by
        rw [hsource]
        rfl
      rw [hold, hnew]
      simp [holding, hpassed, hpending, hitems, hbuffer]
    · have hne : (slot.key == searched) = true → False := fun heq => hsame (eq_of_beq heq)
      rw [@held_put_same _ _ _ state.keyChains index slot _ holding hget
        { slot with task := task } rfl searched
        (fun heq => absurd heq hne) state.keyChains.tails]
      simp [hsame]

theorem flushKey_received (key : JsString) (items : List Item) :
    flushKey key { state with items := items } = { flushKey key state with items := items } := by
  have hsame : ∀ index, bufferAt index { state with items := items } =
      bufferAt index state := fun _ => rfl
  simp only [flushKey, hsame]
  cases state.buffers.lookup key with
  | none => rfl
  | some index =>
    simp only
    cases bufferAt index state with
    | none => rfl
    | some found => rfl

@[simp] theorem flushKey_items (key : JsString) : (flushKey key state).items = state.items := by
  unfold flushKey
  cases state.buffers.lookup key with
  | none => rfl
  | some index =>
    simp only
    cases bufferAt index state with
    | none => rfl
    | some found => rfl

section

variable (haccounted : Accounted params state) (hsound : Sound state)
include haccounted hsound

theorem Accounted.enqueueImmediate (hkey : params.keyOf item = some key) :
    Accounted params (enqueueImmediate key state.items.length
      { state with items := state.items ++ [item] }) := by
  have hreceived := hsound.received (state.items ++ [item])
  unfold InboundDebounce.enqueueImmediate
  cases hlookup : state.buffers.lookup key with
  | some buffered =>
    simp only
    rw [hreceived.flushKey_reserved, flushKey_received]
    have hflushed := haccounted.flushKey hsound key
    apply hflushed.append hkey
    · rfl
    · rfl
    · rw [flushKey_items]
      rfl
    · rfl
    · rw [flushKey_items]
      rfl
  | none =>
    split_ifs with hchain
    · exact haccounted.append hkey rfl rfl rfl rfl rfl
    · have hwaiting : waiting state (params.keyOf item) = [] := by
        rw [hkey]
        exact hsound.waiting_of_forgotten (Option.not_isSome_iff_eq_none.mp hchain)
      exact haccounted.direct hwaiting rfl hkey.symm rfl rfl rfl

theorem Accounted.enqueueDebounced (hkey : params.keyOf item = some key) (debounceMs : ℤ) :
    Accounted params (enqueueDebounced params key state.items.length debounceMs
      { state with items := state.items ++ [item] }) := by
  unfold InboundDebounce.enqueueDebounced
  cases hlookup : state.buffers.lookup key with
  | some index =>
    obtain ⟨-, slot, buffer, hget, hslotKey, hsource, hopen⟩ := hsound.buffers key index hlookup
    have hfound : bufferAt index { state with items := state.items ++ [item] } =
        some (slot, buffer) := bufferAt_eq_some.mpr ⟨hget, hsource⟩
    simp only [hfound]
    exact haccounted.pushItem hsound hkey hlookup hget hslotKey hsource hopen rfl rfl
  | none =>
    split_ifs
    · exact haccounted.append hkey rfl rfl rfl rfl rfl
    · exact haccounted.append hkey rfl rfl rfl rfl rfl

theorem Accounted.enqueue (item : Item) : Accounted params (enqueue params item state) := by
  unfold InboundDebounce.enqueue
  cases hkey : params.keyOf item with
  | none => exact haccounted.direct (hkey ▸ rfl) rfl hkey.symm rfl rfl rfl
  | some key =>
    split_ifs
    · exact haccounted.enqueueDebounced hsound hkey (params.debounceMsOf item)
    · exact haccounted.enqueueImmediate hsound hkey

end

theorem Accounted.flushSettles (haccounted : Accounted params state)
    (hget : state.calls.get? index = some call) :
    Accounted params { state with
      calls := state.calls.put index { call with inProgress := false } } := by
  intro key
  have hsame : flushed key { state with
      calls := state.calls.put index { call with inProgress := false } } = flushed key state := by
    obtain ⟨before, after, hcells, hlength⟩ := exists_split hget
    unfold flushed Arena.put
    rw [hcells, ← hlength, List.set_append_right _ _ (Nat.le_refl _),
      Nat.sub_self, List.set_cons_zero]
    simp
  rw [hsame]
  exact haccounted key

theorem step_accounted {action : Action Item} (hinv : Sound state ∧ Accounted params state)
    (hstep : step params state action = some next) :
    Sound next ∧ Accounted params next := by
  obtain ⟨hsound, haccounted⟩ := hinv
  refine ⟨step_sound hsound hstep, ?_⟩
  cases action with
  | enqueue item =>
    cases hstep
    exact haccounted.enqueue hsound item
  | flushKey key =>
    cases hstep
    exact haccounted.flushKey hsound key
  | timerFires index =>
    obtain ⟨⟨slot, buffer⟩, hfound, hstep⟩ := Option.bind_eq_some_iff.mp hstep
    obtain ⟨hget, hsource⟩ := bufferAt_eq_some.mp hfound
    simp only [Option.ite_none_right_eq_some, Option.some.injEq] at hstep
    exact hstep.2 ▸ haccounted.flushBuffer hget hsource slot.key
  | startTask index | settleTask index | cleanup index =>
    obtain ⟨slot, hget, hstep⟩ := Option.bind_eq_some_iff.mp hstep
    simp only [startTask, settleTask, cleanup, Option.ite_none_right_eq_some,
      Option.some.injEq] at hstep
    obtain ⟨-, rfl⟩ := hstep
    exact haccounted.put hget rfl rfl rfl rfl rfl
  | passTask index =>
    obtain ⟨slot, hget, hstep⟩ := Option.bind_eq_some_iff.mp hstep
    exact haccounted.passTask hsound hget hstep
  | releaseTask index =>
    obtain ⟨slot, hget, hstep⟩ := Option.bind_eq_some_iff.mp hstep
    obtain ⟨after, -, hstep⟩ := Option.bind_eq_some_iff.mp hstep
    simp only [Option.ite_none_right_eq_some, Option.some.injEq] at hstep
    obtain ⟨-, rfl⟩ := hstep
    exact haccounted.put hget rfl rfl rfl rfl rfl
  | flushSettles index =>
    obtain ⟨call, hget, hstep⟩ := Option.bind_eq_some_iff.mp hstep
    simp only [Option.ite_none_right_eq_some, Option.some.injEq] at hstep
    exact hstep.2 ▸ haccounted.flushSettles hget

theorem Sound.call_unique (hsound : Sound state) {first second : ℕ}
    {other : FlushCall} (hfirst : state.calls.get? first = some call)
    (hsecond : state.calls.get? second = some other)
    (hprogress : call.inProgress = true) (hother : other.inProgress = true)
    (hkey : call.key = other.key) (hslot : call.slot ≠ none)
    (hotherSlot : other.slot ≠ none) : first = second := by
  obtain ⟨made, hmade⟩ := Option.ne_none_iff_exists'.mp hslot
  obtain ⟨otherMade, hotherMade⟩ := Option.ne_none_iff_exists'.mp hotherSlot
  obtain ⟨slot, hget, hslotKey, hrunning, hcall⟩ :=
    hsound.calls first call made hfirst hprogress hmade
  obtain ⟨otherSlot, hgetOther, hotherKey, hotherRunning, hotherCall⟩ :=
    hsound.calls second other otherMade hsecond hother hotherMade
  have hsame : slot.key = otherSlot.key := by
    rw [hslotKey, hotherKey] at hkey
    exact Option.some.inj hkey
  obtain rfl := hsound.serial.running_unique hget hgetOther hsame hrunning hotherRunning
  cases hget.symm.trans hgetOther
  exact Option.some.inj (hcall.symm.trans hotherCall)

theorem Quiescent.settled (hquiescent : Quiescent params state) (hsound : Sound state) :
    ∀ index slot, state.keyChains.links.get? index = some slot →
      slot.phase.isSettled = true ∨ state.buffers.lookup slot.key = some index := by
  intro index
  induction index using Nat.strongRecOn with
  | ind index ih =>
    intro slot hget
    by_cases hpending : state.buffers.lookup slot.key = some index
    · exact .inr hpending
    left
    have hearlier : ∀ earlier other, earlier < index →
        state.keyChains.links.get? earlier = some other →
          other.key = slot.key → state.keyChains.isSettled earlier = true := by
      intro earlier other hlt hother hkey
      rcases ih earlier hlt other hother with hsettled | hlookup
      · simp [isSettled, hother, hsettled]
      · -- a pending buffer is the last slot of its key
        have hle := (hsound.serial.last slot.key earlier
          (hsound.buffers slot.key earlier (hkey ▸ hlookup)).1).2 index slot
          hget rfl
        omega
    have hdisabled := fun action hinternal =>
      hquiescent.1 (action : Action Item) hinternal
    cases hphase : slot.phase with
    | settled | cleaned => rfl
    | waiting =>
      have hfree : state.keyChains.isFree slot = true := by
        unfold isFree
        cases hprevious : slot.previous with
        | none => rfl
        | some previous =>
          obtain ⟨⟨other, hother, hkey⟩, hlt, -⟩ :=
            hsound.serial.behind index slot previous hget hprevious
          exact hearlier previous other hlt hother hkey
      have hstart := hdisabled (.startTask index) rfl
      simp [step, hget, startTask, hphase, hfree] at hstart
    | running =>
      have hpassed : slot.task.passed = true := by
        by_contra hnot
        have hpass := hdisabled (.passTask index) rfl
        have hready : (!slot.task.reserved || slot.task.released) = true := by
          by_contra hclosed
          simp only [Bool.or_eq_true, Bool.not_eq_true', not_or,
            Bool.not_eq_false, Bool.not_eq_true] at hclosed
          obtain ⟨hreserved, hreleased⟩ := hclosed
          cases hsource : slot.task.source with
          | buffer buffer =>
            exact hpending (hsound.pending index slot buffer hget hsource hreleased)
          | item item =>
            obtain ⟨after, other, hafter, hlt, hother, hkey⟩ :=
              hsound.awaited index slot item hget hsource hreserved hreleased
            have hrelease := hdisabled (.releaseTask index) rfl
            simp [step, hget, releaseTask, hafter, hearlier after other hlt hother hkey] at hrelease
        simp only [Bool.not_eq_true] at hnot
        simp only [step, hget, passTask, hphase, hnot, hready, Option.bind_some] at hpass
        split_ifs at hpass
        simp_all
      have hended : callEnded slot.task state = true := by
        unfold callEnded
        cases hcall : slot.task.call.bind fun made =>
            state.calls.get? made with
        | none => rfl
        | some call =>
          obtain ⟨made, -, hmade⟩ := Option.bind_eq_some_iff.mp hcall
          simp [hquiescent.2 made call hmade]
      have hsettle := hdisabled (.settleTask index) rfl
      simp [step, hget, settleTask, hphase, hpassed, hended] at hsettle

theorem Quiescent.waiting_eq (hquiescent : Quiescent params state)
    (hsound : Sound state) (key : JsString) :
    waiting state (some key) = buffered key state := by
  have hnothing : ∀ other second, state.keyChains.links.get? other = some second →
        state.buffers.lookup second.key ≠ some other → holding second = [] := by
    intro other second hget hne
    rcases hquiescent.settled hsound other second hget with hsettled | hlookup
    · simp [holding, (hsound.slots other second hget).settled hsettled]
    · exact absurd hlookup hne
  rw [waiting_some]
  unfold buffered
  cases hlookup : state.buffers.lookup key with
  | none =>
    simp only [Option.bind_none]
    unfold held
    rw [List.flatMap_eq_nil_iff, Arena.forall_mem_cells]
    intro other second hget
    split_ifs with hkey
    · apply hnothing other second hget
      rw [eq_of_beq hkey, hlookup]
      simp
    · rfl
  | some index =>
    obtain ⟨-, slot, buffer, hget, rfl, hsource, hopen⟩ := hsound.buffers key index hlookup
    obtain ⟨hreserved, htimeout, -⟩ := (hsound.slots index slot hget).buffer buffer hsource
    have hpending : slot.task.passed = false := by
      by_contra hnot
      rw [(hsound.slots index slot hget).released (by simpa using hnot)
        hreserved] at hopen
      contradiction
    rw [hopen] at htimeout
    have halone : ∀ other second, state.keyChains.links.get? other = some second →
          (second.key == slot.key) = true → other ≠ index → holding second = [] := by
      intro other second hother hsame hne
      apply hnothing other second hother
      rw [eq_of_beq hsame, hlookup]
      simpa using Ne.symm hne
    rw [held_of_alone hget (beq_self_eq_true slot.key) halone]
    simp [holding, hpending, hsource, FlushSource.items,
      bufferAt_eq_some.mpr ⟨hget, hsource⟩, htimeout]

def phaseRemaining : Phase → ℕ
  | .waiting => 3
  | .running => 2
  | .settled => 1
  | .cleaned => 0

def slotRemaining (slot : Slot) : ℕ :=
  phaseRemaining slot.phase + (if slot.task.passed then 0 else 1) +
    (if slot.task.releaseAfter.isSome then 1 else 0)

def slotsRemaining : List Slot → ℕ
  | [] => 0
  | slot :: rest => slotRemaining slot + slotsRemaining rest

theorem slotsRemaining_append (first second : List Slot) :
    slotsRemaining (first ++ second) = slotsRemaining first + slotsRemaining second := by
  induction first with
  | nil => simp [slotsRemaining]
  | cons slot rest ih =>
    simp only [List.cons_append, slotsRemaining, ih]
    omega

def remaining (state : Debouncer Item) : ℕ := slotsRemaining state.keyChains.links.cells

theorem remaining_put (hget : state.keyChains.links.get? index = some slot)
    (hlinks : next.keyChains.links = state.keyChains.links.put index changed)
    (hlt : slotRemaining changed < slotRemaining slot) :
    remaining next < remaining state := by
  obtain ⟨before, after, hcells, hlength⟩ := exists_split hget
  unfold remaining
  rw [hlinks, Arena.put, hcells, ← hlength, List.set_append_right _ _ (Nat.le_refl _), Nat.sub_self,
    List.set_cons_zero, slotsRemaining_append, slotsRemaining_append]
  simp only [slotsRemaining]
  omega

theorem remaining_lt_of_internal {action : Action Item} (hinternal : action.isInternal = true)
    (hstep : step params state action = some next) :
    remaining next < remaining state := by
  cases action with
  | enqueue | flushKey | timerFires | flushSettles =>
    simp [Action.isInternal] at hinternal
  | startTask index =>
    obtain ⟨slot, hget, hstep⟩ := Option.bind_eq_some_iff.mp hstep
    simp only [startTask, Bool.and_eq_true, decide_eq_true_eq,
      Option.ite_none_right_eq_some, Option.some.injEq] at hstep
    obtain ⟨⟨hwaiting, -⟩, rfl⟩ := hstep
    apply remaining_put hget rfl
    simp [slotRemaining, hwaiting, phaseRemaining]
  | passTask index =>
    obtain ⟨slot, hget, hstep⟩ := Option.bind_eq_some_iff.mp hstep
    simp only [passTask, Bool.and_eq_true, Bool.not_eq_true',
      decide_eq_true_eq, Option.ite_none_right_eq_some] at hstep
    obtain ⟨⟨⟨-, hpending⟩, -⟩, hstep⟩ := hstep
    split_ifs at hstep
    all_goals
      cases hstep
      apply remaining_put hget rfl
      simp [slotRemaining, hpending]
  | settleTask index =>
    obtain ⟨slot, hget, hstep⟩ := Option.bind_eq_some_iff.mp hstep
    simp only [settleTask, Bool.and_eq_true, decide_eq_true_eq,
      Option.ite_none_right_eq_some, Option.some.injEq] at hstep
    obtain ⟨⟨⟨hrunning, -⟩, -⟩, rfl⟩ := hstep
    apply remaining_put hget rfl
    simp [slotRemaining, hrunning, phaseRemaining]
  | cleanup index =>
    obtain ⟨slot, hget, hstep⟩ := Option.bind_eq_some_iff.mp hstep
    simp only [cleanup, Option.ite_none_right_eq_some, Option.some.injEq] at hstep
    obtain ⟨hsettled, rfl⟩ := hstep
    apply remaining_put hget rfl
    simp [slotRemaining, hsettled, phaseRemaining]
  | releaseTask index =>
    obtain ⟨slot, hget, hstep⟩ := Option.bind_eq_some_iff.mp hstep
    obtain ⟨after, hafter, hstep⟩ := Option.bind_eq_some_iff.mp hstep
    simp only [Option.ite_none_right_eq_some, Option.some.injEq] at hstep
    obtain ⟨-, rfl⟩ := hstep
    apply remaining_put hget rfl
    simp [slotRemaining, hafter]

theorem enqueued_ascending (key : Option JsString) (items : List Item) :
    (enqueued params key items).Pairwise (· < ·) := by
  induction items using List.reverseRecOn with
  | nil => simp [enqueued]
  | append_singleton items item ih =>
    rw [enqueued_concat, List.pairwise_append]
    refine ⟨ih, by split_ifs <;> simp, ?_⟩
    intro first hfirst second hsecond
    have hlt : first < items.length := by
      simp only [enqueued, List.mem_flatMap] at hfirst
      obtain ⟨⟨other, place⟩, hmem, hplace⟩ := hfirst
      have hbound := (List.mk_mem_zipIdx_iff_getElem?.mp hmem)
      split_ifs at hplace
      · simp only [List.mem_singleton] at hplace
        exact hplace ▸ (List.getElem?_eq_some_iff.mp hbound).1
      · simp at hplace
    split_ifs at hsecond
    · simp only [List.mem_singleton] at hsecond
      omega
    · simp at hsecond

/-- In every run the items of a key are passed to `onFlush` once each and in
the order they were enqueued, what is left when nothing can move on is the
pending buffer, such a state is reached after finitely many steps, and calls
for one key that were not made directly do not overlap. -/
theorem passes_in_order (params : InboundDebounceCreateParams Item)
    {actions : List (Action Item)} {final : Debouncer Item}
    (hrun : run (step params) createInboundDebouncer actions = some final) :
    (∀ key, flushed key final ++ waiting final key = enqueued params key final.items ∧
      (enqueued params key final.items).Pairwise (· < ·)) ∧
    (Quiescent params final → ∀ key, waiting final (some key) = buffered key final) ∧
    (∀ rest later, (∀ action ∈ rest, action.isInternal = true) →
      run (step params) final rest = some later → rest.length ≤ remaining final) ∧
    ∀ first second call other, final.calls.get? first = some call →
      final.calls.get? second = some other → call.inProgress = true →
        other.inProgress = true → call.key = other.key → call.slot ≠ none →
          other.slot ≠ none → first = second := by
  have hstart : Sound (createInboundDebouncer : Debouncer Item) ∧
      Accounted params (createInboundDebouncer : Debouncer Item) := by
    refine ⟨sound_create, fun key => ?_⟩
    cases key <;> rfl
  obtain ⟨hsound, haccounted⟩ := run_invariant
    (fun state => Sound state ∧ Accounted params state) step_accounted hstart hrun
  refine ⟨fun key => ⟨haccounted key, enqueued_ascending key final.items⟩, ?_, ?_, ?_⟩
  · exact fun hquiescent key => hquiescent.waiting_eq hsound key
  · exact fun rest later hinternal hrest =>
      length_le_of_decreasing remaining remaining_lt_of_internal hinternal hrest
  · exact fun first second call other hfirst hsecond hprogress hother hkey =>
      hsound.call_unique hfirst hsecond hprogress hother hkey

/-- Everything has the key `a`; items are debounced if the time is positive. -/
def oneKey (debounceMs : ℤ) : InboundDebounceCreateParams Unit where
  debounceMs := debounceMs
  maxTrackedKeys := none
  buildKey := fun _ => some [97]
  shouldDebounce := none
  resolveDebounceMs := none

def burst : List (Action Unit) :=
  [.enqueue (), .enqueue (), .timerFires 0, .startTask 0, .passTask 0]

def burstEnd : Debouncer Unit where
  items := [(), ()]
  buffers := []
  keyChains :=
    { links := ⟨[⟨[97], none,
        { source := .buffer ⟨[0, 1], false, 100⟩
          reserved := true
          released := true
          releaseAfter := none
          passed := true
          call := some 0 }, .running⟩]⟩
      tails := [([97], 0)] }
  calls := ⟨[⟨some [97], [0, 1], some 0, true⟩]⟩

theorem burst_passed : flushed (some [97]) burstEnd = [0, 1] ∧
      flushed (some [97]) burstEnd ++ waiting burstEnd (some [97]) =
        enqueued (oneKey 100) (some [97]) burstEnd.items := by
  have hall := @passes_in_order Unit (oneKey 100) burst burstEnd rfl
  exact ⟨rfl, (hall.1 (some [97])).1⟩

def directEnd : Debouncer Unit where
  items := [(), ()]
  buffers := []
  keyChains := KeyedChains.empty
  calls := ⟨[⟨some [97], [0], none, true⟩, ⟨some [97], [1], none, true⟩]⟩

theorem direct_calls_overlap : ¬ ∀ (params : InboundDebounceCreateParams Unit)
      (actions : List (Action Unit)) (final : Debouncer Unit),
      run (step params) createInboundDebouncer actions = some final →
      ∀ first second call other, final.calls.get? first = some call →
        final.calls.get? second = some other → call.inProgress = true →
          other.inProgress = true → call.key ≠ none → call.key = other.key → first = second := by
  intro hclaim
  have hsame := hclaim (oneKey 0) [.enqueue (), .enqueue ()] directEnd rfl 0 1
    _ _ rfl rfl rfl rfl (by simp) rfl
  contradiction

end LittleBaby.InboundDebounce
