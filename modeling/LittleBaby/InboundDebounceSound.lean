import LittleBaby.InboundDebounce

/-!
# The slots of the inbound debouncer

The slots of a key run one after the other, a buffer that is not released is
the pending one of its key, and a call in progress that a slot has made is the
call of a running slot.
-/

namespace LittleBaby.InboundDebounce

open JsString KeyedChains Arena InboundDebounce

variable {Item : Type*}

structure SlotOk (slot : Slot) : Prop where
  started : slot.task.passed = true → slot.phase ≠ .waiting
  settled : slot.phase.isSettled = true → slot.task.passed = true
  called : slot.task.passed = false → slot.task.call = none
  released : slot.task.passed = true → slot.task.reserved = true → slot.task.released = true
  buffer : ∀ buffer, slot.task.source = .buffer buffer →
    slot.task.reserved = true ∧ buffer.timeout = !slot.task.released ∧ slot.task.releaseAfter = none

structure Sound (state : Debouncer Item) : Prop where
  serial : state.keyChains.Serial
  slots : ∀ index slot, state.keyChains.links.get? index = some slot → SlotOk slot
  /-- a buffer that is not released is the pending one of its key -/
  pending : ∀ index slot buffer, state.keyChains.links.get? index = some slot →
    slot.task.source = .buffer buffer → slot.task.released = false →
      state.buffers.lookup slot.key = some index
  /-- an item that awaits its release is behind the slot that brings it -/
  awaited : ∀ index slot item, state.keyChains.links.get? index = some slot →
    slot.task.source = .item item → slot.task.reserved = true →
      slot.task.released = false → ∃ after other,
        slot.task.releaseAfter = some after ∧ after < index ∧
          state.keyChains.links.get? after = some other ∧ other.key = slot.key
  buffers : ∀ key index, state.buffers.lookup key = some index →
    state.keyChains.tails.lookup key = some index ∧ ∃ slot buffer,
      state.keyChains.links.get? index = some slot ∧ slot.key = key ∧
        slot.task.source = .buffer buffer ∧ slot.task.released = false
  calls : ∀ index call made, state.calls.get? index = some call →
    call.inProgress = true → call.slot = some made → ∃ slot,
      state.keyChains.links.get? made = some slot ∧ call.key = some slot.key ∧
        slot.phase = .running ∧ slot.task.call = some index

theorem sound_create : Sound (createInboundDebouncer : Debouncer Item) := by
  constructor <;> simp [createInboundDebouncer, KeyedChains.empty]
  exact serial_empty

variable {state next : Debouncer Item} {index : ℕ} {slot changed : Slot}

structure SlotMoves (slot changed : Slot) : Prop where
  key : changed.key = slot.key
  reserved : changed.task.reserved = slot.task.reserved
  item : ∀ item, changed.task.source = .item item → slot.task.source = .item item
  buffer : ∀ buffer, changed.task.source = .buffer buffer → ∃ old, slot.task.source = .buffer old
  isBuffer : ∀ buffer, slot.task.source = .buffer buffer → ∃ new, changed.task.source = .buffer new
  released : changed.task.released = false → slot.task.released = false
  releaseAfter : changed.task.released = false → changed.task.releaseAfter = slot.task.releaseAfter

section

variable (hsound : Sound state) (hget : state.keyChains.links.get? index = some slot)

include hsound hget

theorem Sound.put (hlinks : next.keyChains.links = state.keyChains.links.put index changed)
    (hserial : next.keyChains.Serial) (hok : SlotOk changed)
    (hmoves : SlotMoves slot changed)
    (hkeep : ∀ key found, next.buffers.lookup key = some found →
      state.buffers.lookup key = some found ∧ next.keyChains.tails.lookup key = some found ∧
          (found = index → changed.task.released = false))
    (hpend : ∀ key found, state.buffers.lookup key = some found →
      (found = index → changed.task.released = false) → next.buffers.lookup key = some found)
    (hcalls : ∀ made call found, next.calls.get? made = some call →
      call.inProgress = true → call.slot = some found →
        (found = index ∧ call.key = some slot.key ∧ changed.phase = .running ∧
            changed.task.call = some made) ∨
          (found ≠ index ∧ state.calls.get? made = some call)) :
    Sound next := by
  have hnext : ∀ found, next.keyChains.links.get? found = if found = index then some changed
      else state.keyChains.links.get? found := by
    intro found
    rw [hlinks, get?_put hget]
  have hkept : ∀ found old, state.keyChains.links.get? found = some old →
      ∃ other, next.keyChains.links.get? found = some other ∧ other.key = old.key := by
    intro found old hold
    rw [hnext]
    split_ifs with hindex
    · subst hindex
      cases hget.symm.trans hold
      exact ⟨changed, rfl, hmoves.key⟩
    · exact ⟨old, hold, rfl⟩
  constructor
  · exact hserial
  · intro found other hother
    rw [hnext] at hother
    split_ifs at hother with hindex
    · exact Option.some.inj hother ▸ hok
    · exact hsound.slots found other hother
  · intro found other buffer hother hsource hopen
    rw [hnext] at hother
    split_ifs at hother with hindex
    · subst hindex
      cases hother
      obtain ⟨old, hold⟩ := hmoves.buffer buffer hsource
      apply hpend
      · rw [hmoves.key]
        exact hsound.pending found slot old hget hold (hmoves.released hopen)
      · exact fun _ => hopen
    · exact hpend _ _ (hsound.pending found other buffer hother hsource hopen)
        fun heq => absurd heq hindex
  · intro found other item hother hsource hreserved hopen
    have hold : ∃ old, state.keyChains.links.get? found = some old ∧
        old.task.source = .item item ∧ old.task.reserved = true ∧
          old.task.released = false ∧ other.key = old.key ∧
            other.task.releaseAfter = old.task.releaseAfter := by
      rw [hnext] at hother
      split_ifs at hother with hindex
      · subst hindex
        cases hother
        exact ⟨slot, hget, hmoves.item item hsource,
          hmoves.reserved ▸ hreserved, hmoves.released hopen, hmoves.key,
          hmoves.releaseAfter hopen⟩
      · exact ⟨other, hother, hsource, hreserved, hopen, rfl, rfl⟩
    obtain ⟨old, holdget, holdsource, holdreserved, holdopen, hkey, hafter⟩ := hold
    obtain ⟨after, third, hreleaseAfter, hlt, hthird, hthirdkey⟩ :=
      hsound.awaited found old item holdget holdsource holdreserved holdopen
    obtain ⟨kept, hkeptget, hkeptkey⟩ := hkept after third hthird
    refine ⟨after, kept, hafter.trans hreleaseAfter, hlt, hkeptget, ?_⟩
    rw [hkeptkey, hthirdkey, hkey]
  · intro key found hlookup
    obtain ⟨hbefore, htail, hopen⟩ := hkeep key found hlookup
    obtain ⟨-, old, buffer, hold, hkey, hsource, hreleased⟩ := hsound.buffers key found hbefore
    refine ⟨htail, ?_⟩
    rw [hnext]
    split_ifs with hindex
    · subst hindex
      cases hget.symm.trans hold
      obtain ⟨new, hnew⟩ := hmoves.isBuffer buffer hsource
      exact ⟨changed, new, rfl, hmoves.key.trans hkey, hnew, hopen rfl⟩
    · exact ⟨old, buffer, hold, hkey, hsource, hreleased⟩
  · intro made call found hcall hprogress hslot
    rw [hnext]
    rcases hcalls made call found hcall hprogress hslot with
      ⟨rfl, hkey, hrunning, hmade⟩ | ⟨hindex, hbefore⟩
    · rw [if_pos rfl]
      exact ⟨changed, rfl, hmoves.key ▸ hkey, hrunning, hmade⟩
    · rw [if_neg hindex]
      exact hsound.calls made call found hbefore hprogress hslot

theorem Sound.calls_of_running (hrunning : slot.phase = .running → changed.phase = .running)
    (hcall : changed.task.call = slot.task.call) :
    ∀ made call found, state.calls.get? made = some call →
      call.inProgress = true → call.slot = some found →
        (found = index ∧ call.key = some slot.key ∧ changed.phase = .running ∧
            changed.task.call = some made) ∨
          (found ≠ index ∧ state.calls.get? made = some call) := by
  intro made call found hget' hprogress hslot
  by_cases hindex : found = index
  · subst hindex
    obtain ⟨other, hother, hkey, hphase, hmade⟩ :=
      hsound.calls made call found hget' hprogress hslot
    cases hget.symm.trans hother
    exact .inl ⟨rfl, hkey, hrunning hphase, hcall.trans hmade⟩
  · exact .inr ⟨hindex, hget'⟩

theorem Sound.buffers_kept (hreleased : slot.task.released = false → changed.task.released = false)
    (key : JsString) (found : ℕ) (hlookup : state.buffers.lookup key = some found) :
    state.buffers.lookup key = some found ∧ state.keyChains.tails.lookup key = some found ∧
        (found = index → changed.task.released = false) := by
  obtain ⟨htail, other, buffer, hother, -, -, hopen⟩ := hsound.buffers key found hlookup
  refine ⟨hlookup, htail, ?_⟩
  rintro rfl
  cases hget.symm.trans hother
  exact hreleased hopen

end

section

variable (hsound : Sound state) (hget : state.keyChains.links.get? index = some slot)

include hsound hget

theorem Sound.startTask (hstep : startTask index slot state = some next) : Sound next := by
  simp only [InboundDebounce.startTask, Bool.and_eq_true, decide_eq_true_eq,
    Option.ite_none_right_eq_some, Option.some.injEq] at hstep
  obtain ⟨⟨hwaiting, hfree⟩, rfl⟩ := hstep
  have hok := hsound.slots index slot hget
  have hadvances : Advances state.keyChains slot { slot with phase := .running } :=
    ⟨rfl, rfl, by simp [hwaiting, Phase.isSettled], fun _ => Or.inr hfree⟩
  apply hsound.put hget rfl (hsound.serial.put hget hadvances)
  · exact ⟨fun _ => by simp, by simp [Phase.isSettled], hok.called, hok.released, hok.buffer⟩
  · exact ⟨rfl, rfl, fun _ => id, fun buffer hsource => ⟨buffer, hsource⟩,
      fun buffer hsource => ⟨buffer, hsource⟩, id, fun _ => rfl⟩
  · exact hsound.buffers_kept hget id
  · exact fun _ _ hlookup _ => hlookup
  · exact hsound.calls_of_running hget (fun _ => rfl) rfl

theorem Sound.settleTask (hstep : settleTask index slot state = some next) : Sound next := by
  simp only [InboundDebounce.settleTask, Bool.and_eq_true, decide_eq_true_eq,
    Option.ite_none_right_eq_some, Option.some.injEq] at hstep
  obtain ⟨⟨⟨hrunning, hpassed⟩, hended⟩, rfl⟩ := hstep
  have hok := hsound.slots index slot hget
  have hadvances : Advances state.keyChains slot { slot with phase := .settled } :=
    ⟨rfl, rfl, fun _ => rfl, fun _ => Or.inl (by simp [hrunning])⟩
  apply hsound.put hget rfl (hsound.serial.put hget hadvances)
  · exact ⟨fun _ => by simp, fun _ => hpassed, hok.called, hok.released, hok.buffer⟩
  · exact ⟨rfl, rfl, fun _ => id, fun buffer hsource => ⟨buffer, hsource⟩,
      fun buffer hsource => ⟨buffer, hsource⟩, id, fun _ => rfl⟩
  · exact hsound.buffers_kept hget id
  · exact fun _ _ hlookup _ => hlookup
  · intro made call found hmade hprogress hslot
    refine Or.inr ⟨?_, hmade⟩
    -- the call of a slot that settles has ended
    rintro rfl
    obtain ⟨other, hother, -, -, hcall⟩ := hsound.calls made call found hmade hprogress hslot
    cases hget.symm.trans hother
    simp [callEnded, hcall, hmade, hprogress] at hended

theorem Sound.cleanup (hstep : cleanup index slot state = some next) : Sound next := by
  simp only [InboundDebounce.cleanup, Option.ite_none_right_eq_some, Option.some.injEq] at hstep
  obtain ⟨hphase, rfl⟩ := hstep
  have hsettled : slot.phase.isSettled = true := by simp [hphase, Phase.isSettled]
  have hok := hsound.slots index slot hget
  apply @Sound.put _ _ _ _ _ { slot with phase := .cleaned } hsound hget rfl
    (hsound.serial.cleanUp hget hsettled)
  · exact ⟨fun _ => by simp, fun _ => hok.settled hsettled, hok.called, hok.released, hok.buffer⟩
  · exact ⟨rfl, rfl, fun _ => id, fun buffer hsource => ⟨buffer, hsource⟩,
      fun buffer hsource => ⟨buffer, hsource⟩, id, fun _ => rfl⟩
  · intro key found hlookup
    obtain ⟨hbefore, htail, hopen⟩ := @Sound.buffers_kept _ state index slot slot
      hsound hget id key found hlookup
    obtain ⟨-, other, buffer, hother, hkey, hsource, hreleased⟩ := hsound.buffers key found hlookup
    refine ⟨hbefore, ?_, hopen⟩
    have hne : found ≠ index := by
      rintro rfl
      cases hget.symm.trans hother
      have hreserved := (hok.buffer buffer hsource).1
      rw [hok.released (hok.settled hsettled) hreserved] at hreleased
      contradiction
    change (if _ then _ else _ : List (JsString × ℕ)).lookup key = _
    split_ifs with hlast
    · have hkeys : key ≠ slot.key := by
        rintro rfl
        rw [htail, Option.some.injEq] at hlast
        exact hne hlast
      rw [Entries.lookup_erase_of_ne hkeys]
      exact htail
    · exact htail
  · exact fun _ _ hlookup _ => hlookup
  · intro made call found hmade hprogress hslot
    refine Or.inr ⟨?_, hmade⟩
    rintro rfl
    obtain ⟨other, hother, -, hrunning, -⟩ := hsound.calls made call found hmade hprogress hslot
    cases hget.symm.trans hother
    rw [hphase] at hrunning
    contradiction

theorem Sound.releaseTask (hstep : releaseTask index slot state = some next) : Sound next := by
  obtain ⟨after, hafter, hstep⟩ := Option.bind_eq_some_iff.mp hstep
  simp only [Option.ite_none_right_eq_some, Option.some.injEq] at hstep
  obtain ⟨-, rfl⟩ := hstep
  have hok := hsound.slots index slot hget
  have hitem : ∀ buffer, slot.task.source ≠ .buffer buffer := by
    intro buffer hsource
    rw [(hok.buffer buffer hsource).2.2] at hafter
    contradiction
  have hadvances : Advances state.keyChains slot { slot with task :=
        { slot.task with released := true, releaseAfter := none } } :=
    ⟨rfl, rfl, id, .inl⟩
  apply hsound.put hget rfl (hsound.serial.put hget hadvances)
  · exact ⟨hok.started, hok.settled, hok.called, fun _ _ => rfl,
      fun buffer hsource => absurd hsource (hitem buffer)⟩
  · exact ⟨rfl, rfl, fun _ => id, fun buffer hsource => ⟨buffer, hsource⟩,
      fun buffer hsource => ⟨buffer, hsource⟩, fun hopen => by simp at hopen,
      fun hopen => by simp at hopen⟩
  · intro key found hlookup
    obtain ⟨htail, other, buffer, hother, -, hsource, -⟩ := hsound.buffers key found hlookup
    refine ⟨hlookup, htail, ?_⟩
    rintro rfl
    cases hget.symm.trans hother
    exact absurd hsource (hitem buffer)
  · exact fun _ _ hlookup _ => hlookup
  · exact hsound.calls_of_running hget id rfl

theorem Sound.passTask (hstep : passTask index slot state = some next) : Sound next := by
  simp only [InboundDebounce.passTask, Bool.and_eq_true, Bool.or_eq_true,
    Bool.not_eq_true', decide_eq_true_eq, Option.ite_none_right_eq_some] at hstep
  obtain ⟨⟨⟨hrunning, hpending⟩, hready⟩, hstep⟩ := hstep
  have hok := hsound.slots index slot hget
  have hreleased : slot.task.reserved = true → slot.task.released = true := by
    intro hreserved
    rcases hready with hnot | hreleased
    · rw [hreserved] at hnot
      contradiction
    · exact hreleased
  have hadvances : ∀ task, Advances state.keyChains slot
      { slot with task := task } := fun task => ⟨rfl, rfl, id, Or.inl⟩
  have hlocal : ∀ call, SlotOk
      { slot with task := { slot.task with passed := true, call := call } } :=
    fun call => ⟨fun _ => by simp [hrunning], fun _ => rfl,
      fun hnot => by simp at hnot, fun _ => hreleased, hok.buffer⟩
  have hmoves : ∀ call, SlotMoves slot
      { slot with task := { slot.task with passed := true, call := call } } :=
    fun call => ⟨rfl, rfl, fun _ => id, fun buffer hsource => ⟨buffer, hsource⟩,
      fun buffer hsource => ⟨buffer, hsource⟩, id, fun _ => rfl⟩
  -- nobody waits for a call that has not been made
  have hnone : ∀ made call, state.calls.get? made = some call →
      call.inProgress = true → call.slot = some index → False := by
    intro made call hmade hprogress hslot
    obtain ⟨other, hother, -, -, hcall⟩ := hsound.calls made call index hmade hprogress hslot
    cases hget.symm.trans hother
    rw [hok.called hpending] at hcall
    contradiction
  split_ifs at hstep with hempty
  · cases hstep
    apply hsound.put hget rfl (hsound.serial.put hget (hadvances _))
      (hlocal slot.task.call) (hmoves slot.task.call)
    · exact hsound.buffers_kept hget id
    · exact fun _ _ hlookup _ => hlookup
    · exact hsound.calls_of_running hget id rfl
  · cases hstep
    apply hsound.put hget rfl (hsound.serial.put hget (hadvances _))
      (hlocal (some state.calls.size)) (hmoves (some state.calls.size))
    · exact hsound.buffers_kept hget id
    · exact fun _ _ hlookup _ => hlookup
    · intro made call found hmade hprogress hslot
      rcases Arena.get?_push_eq_some.mp hmade with ⟨rfl, rfl⟩ | hbefore
      · cases hslot
        exact Or.inl ⟨rfl, rfl, hrunning, rfl⟩
      · refine Or.inr ⟨?_, hbefore⟩
        rintro rfl
        exact hnone made call hbefore hprogress hslot

end

variable {buffer : DebounceBuffer}

theorem bufferAt_eq_some : bufferAt index state = some (slot, buffer) ↔
      state.keyChains.links.get? index = some slot ∧ slot.task.source = .buffer buffer := by
  unfold bufferAt
  rw [Option.bind_eq_some_iff]
  constructor
  · rintro ⟨found, hget, hfound⟩
    cases hsource : found.task.source with
    | item item => simp [hsource] at hfound
    | buffer old =>
      simp only [hsource, Option.some.injEq, Prod.mk.injEq] at hfound
      exact ⟨hfound.1 ▸ hget, hfound.1 ▸ hfound.2 ▸ hsource⟩
  · rintro ⟨hget, hsource⟩
    exact ⟨slot, hget, by simp [hsource]⟩

section

variable (hsound : Sound state)
include hsound

theorem Sound.flushBuffer (hget : state.keyChains.links.get? index = some slot)
    (hsource : slot.task.source = .buffer buffer) :
    Sound (flushBuffer slot.key index slot buffer state) := by
  have hok := hsound.slots index slot hget
  obtain ⟨hreserved, -, hafter⟩ := hok.buffer buffer hsource
  have hadvances : Advances state.keyChains slot { slot with task :=
        { slot.task with
          source := .buffer { buffer with timeout := false }
          released := true } } := ⟨rfl, rfl, id, .inl⟩
  apply hsound.put hget rfl (hsound.serial.put hget hadvances)
  · refine ⟨hok.started, hok.settled, hok.called, fun _ _ => rfl, ?_⟩
    intro other hother
    cases hother
    exact ⟨hreserved, rfl, hafter⟩
  · exact ⟨rfl, rfl, fun item hitem => by simp at hitem,
      fun _ _ => ⟨buffer, hsource⟩, fun _ _ => ⟨_, rfl⟩,
      fun hopen => by simp at hopen, fun hopen => by simp at hopen⟩
  · intro key found hlookup
    change (if _ then _ else _ : List (JsString × ℕ)).lookup key = _ at hlookup
    have hbefore : state.buffers.lookup key = some found ∧ found ≠ index := by
      split_ifs at hlookup with hpending
      · have hne : key ≠ slot.key := by
          rintro rfl
          simp at hlookup
        rw [Entries.lookup_erase_of_ne hne] at hlookup
        refine ⟨hlookup, ?_⟩
        rintro rfl
        obtain ⟨-, other, -, hother, hkey, -⟩ := hsound.buffers key found hlookup
        cases hget.symm.trans hother
        exact hne hkey.symm
      · refine ⟨hlookup, ?_⟩
        rintro rfl
        obtain ⟨-, other, -, hother, hkey, -⟩ := hsound.buffers key found hlookup
        cases hget.symm.trans hother
        exact hpending (hkey ▸ hlookup)
    exact ⟨hbefore.1, (hsound.buffers key found hbefore.1).1, fun heq => absurd heq hbefore.2⟩
  · intro key found hlookup hopen
    have hne : found ≠ index := fun heq => by simpa using hopen heq
    change (if _ then _ else _ : List (JsString × ℕ)).lookup key = _
    split_ifs with hpending
    · have hkeys : key ≠ slot.key := by
        rintro rfl
        rw [hlookup, Option.some.injEq] at hpending
        exact hne hpending
      rw [Entries.lookup_erase_of_ne hkeys]
      exact hlookup
    · exact hlookup
  · exact hsound.calls_of_running hget id rfl

theorem Sound.flushKey_cases (key : JsString) :
    (state.buffers.lookup key = none ∧ InboundDebounce.flushKey key state = state) ∨
      ∃ index slot buffer, state.buffers.lookup key = some index ∧
        state.keyChains.links.get? index = some slot ∧ slot.key = key ∧
        slot.task.source = .buffer buffer ∧
        InboundDebounce.flushKey key state =
          InboundDebounce.flushBuffer key index slot buffer state := by
  cases hlookup : state.buffers.lookup key with
  | none => exact Or.inl ⟨rfl, by simp [InboundDebounce.flushKey, hlookup]⟩
  | some index =>
    obtain ⟨-, slot, buffer, hget, hkey, hsource, -⟩ := hsound.buffers key index hlookup
    have hfound := bufferAt_eq_some.mpr ⟨hget, hsource⟩
    exact Or.inr ⟨index, slot, buffer, rfl, hget, hkey, hsource,
      by simp [InboundDebounce.flushKey, hlookup, hfound]⟩

theorem Sound.flushKey (key : JsString) : Sound (InboundDebounce.flushKey key state) := by
  rcases hsound.flushKey_cases key with
    ⟨-, hsame⟩ | ⟨index, slot, buffer, -, hget, rfl, hsource, hflush⟩
  · rw [hsame]
    exact hsound
  · rw [hflush]
    exact hsound.flushBuffer hget hsource

theorem Sound.lookup_flushKey (key : JsString) :
    (InboundDebounce.flushKey key state).buffers.lookup key = none := by
  rcases hsound.flushKey_cases key with
    ⟨hnone, hsame⟩ | ⟨index, slot, buffer, hlookup, -, -, -, hflush⟩
  · rw [hsame]
    exact hnone
  · rw [hflush]
    simp [InboundDebounce.flushBuffer, putTask, hlookup]

end

variable {key : JsString}

theorem Sound.append (hsound : Sound state)
    (hfree : state.buffers.lookup key = none) {task : SlotTask}
    (hchains : next.keyChains = state.keyChains.append key task)
    (hcalls : next.calls = state.calls)
    (hok : SlotOk ⟨key, state.keyChains.tails.lookup key, task, .waiting⟩)
    (hothers : ∀ other, other ≠ key → next.buffers.lookup other = state.buffers.lookup other)
    (hpend : ∀ buffer, task.source = .buffer buffer → task.released = false ∧
        next.buffers.lookup key = some state.keyChains.links.size)
    (hitem : ∀ item, task.source = .item item →
      next.buffers.lookup key = none ∧ (task.reserved = true →
        ∃ after other, task.releaseAfter = some after ∧
          state.keyChains.links.get? after = some other ∧ other.key = key)) :
    Sound next := by
  have hget : ∀ index slot, next.keyChains.links.get? index = some slot ↔
      index = state.keyChains.links.size ∧
        ⟨key, state.keyChains.tails.lookup key, task, .waiting⟩ = slot ∨
      state.keyChains.links.get? index = some slot := by
    intro index slot
    rw [hchains]
    exact get?_push_eq_some
  have hold : ∀ index slot, state.keyChains.links.get? index = some slot →
      next.keyChains.links.get? index = some slot :=
    fun index slot hfound => (hget index slot).mpr (.inr hfound)
  constructor
  · rw [hchains]
    exact hsound.serial.append key task
  · intro index slot hfound
    rcases (hget index slot).mp hfound with ⟨-, rfl⟩ | hbefore
    · exact hok
    · exact hsound.slots index slot hbefore
  · intro index slot buffer hfound hsource hopen
    rcases (hget index slot).mp hfound with ⟨rfl, rfl⟩ | hbefore
    · exact (hpend buffer hsource).2
    · have hlookup := hsound.pending index slot buffer hbefore hsource hopen
      have hne : slot.key ≠ key := by
        intro heq
        rw [heq, hfree] at hlookup
        contradiction
      rw [hothers _ hne]
      exact hlookup
  · intro index slot item hfound hsource hreserved hopen
    rcases (hget index slot).mp hfound with ⟨rfl, rfl⟩ | hbefore
    · obtain ⟨after, other, hafter, hother, hkey⟩ := (hitem item hsource).2 hreserved
      exact ⟨after, other, hafter, lt_size_of_get? hother, hold _ _ hother, hkey⟩
    · obtain ⟨after, other, hafter, hlt, hother, hkey⟩ :=
        hsound.awaited index slot item hbefore hsource hreserved hopen
      exact ⟨after, other, hafter, hlt, hold _ _ hother, hkey⟩
  · intro other index hlookup
    by_cases hkey : other = key
    · subst hkey
      cases hsource : task.source with
      | item item =>
        rw [(hitem item hsource).1] at hlookup
        contradiction
      | buffer buffer =>
        obtain ⟨hreleased, hnew⟩ := hpend buffer hsource
        cases hnew.symm.trans hlookup
        refine ⟨?_, _, buffer, (hget _ _).mpr (.inl ⟨rfl, rfl⟩), rfl, hsource, hreleased⟩
        rw [hchains]
        exact Entries.lookup_set_self
    · rw [hothers other hkey] at hlookup
      obtain ⟨htail, slot, buffer, hfound, hrest⟩ := hsound.buffers other index hlookup
      refine ⟨?_, slot, buffer, hold _ _ hfound, hrest⟩
      rw [hchains]
      exact (Entries.lookup_set_of_ne hkey).trans htail
  · intro index call made hcall hprogress hslot
    rw [hcalls] at hcall
    obtain ⟨slot, hfound, hrest⟩ := hsound.calls index call made hcall hprogress hslot
    exact ⟨slot, hold _ _ hfound, hrest⟩

theorem Sound.flushKey_reserved (hsound : Sound state) (key : JsString)
    (source : FlushSource) (releaseAfter : Option ℕ) :
    InboundDebounce.flushKey key (enqueueReservedKeyTask key source releaseAfter state) =
      enqueueReservedKeyTask key source releaseAfter (InboundDebounce.flushKey key state) := by
  rcases hsound.flushKey_cases key with
    ⟨hnone, hsame⟩ | ⟨index, slot, buffer, hlookup, hget, -, hsource, hflush⟩
  · rw [hsame]
    simp [InboundDebounce.flushKey, enqueueReservedKeyTask, hnone]
  · rw [hflush]
    have hlt := Arena.lt_size_of_get? hget
    have hfound : bufferAt index (enqueueReservedKeyTask key source releaseAfter state) =
          some (slot, buffer) :=
      bufferAt_eq_some.mpr ⟨Arena.get?_push_of_get? _ hget, hsource⟩
    have hpending : (enqueueReservedKeyTask key source releaseAfter state).buffers.lookup key =
          some index := hlookup
    simp only [InboundDebounce.flushKey, hpending, hfound]
    simp [InboundDebounce.flushBuffer, enqueueReservedKeyTask, putTask,
      KeyedChains.append, KeyedChains.put, Arena.push, Arena.put, Arena.size,
      List.set_append_left _ _ hlt, hlookup]

theorem slotOk_item {previous : Option ℕ} {item : ℕ} {reserved : Bool} {releaseAfter : Option ℕ} :
    SlotOk ⟨key, previous, ⟨.item item, reserved, false, releaseAfter, false, none⟩, .waiting⟩ := by
  constructor <;> simp [Phase.isSettled]

section

variable (hsound : Sound state)

include hsound

theorem Sound.enqueueKeyTask (hfree : state.buffers.lookup key = none) (item : ℕ) :
    Sound (enqueueKeyTask key item state) :=
  hsound.append hfree rfl rfl slotOk_item (fun _ _ => rfl)
    (fun buffer hsource => by simp at hsource)
    fun _ _ => ⟨hfree, fun hreserved => by simp at hreserved⟩

theorem Sound.runFlush (key : Option JsString) (item : ℕ) : Sound (runFlush key item state) := by
  refine ⟨hsound.serial, hsound.slots, hsound.pending, hsound.awaited, hsound.buffers, ?_⟩
  intro index call made hcall hprogress hslot
  rcases get?_push_eq_some.mp hcall with ⟨-, rfl⟩ | hbefore
  · simp at hslot
  · exact hsound.calls index call made hbefore hprogress hslot

theorem Sound.enqueueImmediate (key : JsString)
    (item : ℕ) : Sound (enqueueImmediate key item state) := by
  unfold InboundDebounce.enqueueImmediate
  cases hlookup : state.buffers.lookup key with
  | none =>
    split_ifs
    · exact hsound.enqueueKeyTask hlookup item
    · exact hsound.runFlush (some key) item
  | some buffered =>
    simp only
    rw [hsound.flushKey_reserved]
    have hflushed := hsound.flushKey key
    have hfree := hsound.lookup_flushKey key
    apply hflushed.append hfree
    · rfl
    · rfl
    · exact slotOk_item
    · exact fun _ _ => rfl
    · intro buffer hsource
      simp at hsource
    · intro _ _
      refine ⟨hfree, fun _ => ?_⟩
      -- the slot that was forced out is still there
      rcases hsound.flushKey_cases key with
        ⟨hnone, -⟩ | ⟨index, slot, buffer, hpending, hget, hkey, -, hflush⟩
      · rw [hnone] at hlookup
        contradiction
      · cases hlookup.symm.trans hpending
        have hkept : ∀ changed, (state.keyChains.links.put buffered changed).get? buffered =
              some changed :=
          fun changed => (Arena.get?_put_eq_some hget).mpr (Or.inl ⟨rfl, rfl⟩)
        rw [hflush]
        exact ⟨buffered, _, rfl, hkept _, hkey⟩

theorem Sound.pushItem (hlookup : state.buffers.lookup key = some index)
    (hget : state.keyChains.links.get? index = some slot)
    (hsource : slot.task.source = .buffer buffer) (items : List ℕ)
    (debounceMs : ℤ) :
    Sound (putTask index slot { slot.task with
        source := .buffer { items := items, timeout := true, debounceMs := debounceMs } }
      state) := by
  have hok := hsound.slots index slot hget
  obtain ⟨hreserved, -, hafter⟩ := hok.buffer buffer hsource
  have hopen : slot.task.released = false := by
    obtain ⟨-, other, -, hother, -, -, hreleased⟩ := hsound.buffers key index hlookup
    cases hget.symm.trans hother
    exact hreleased
  have hadvances : Advances state.keyChains slot { slot with task :=
        { slot.task with
          source := .buffer { items := items, timeout := true, debounceMs := debounceMs } } } :=
    ⟨rfl, rfl, id, .inl⟩
  apply hsound.put hget rfl (hsound.serial.put hget hadvances)
  · refine ⟨hok.started, hok.settled, hok.called, hok.released, ?_⟩
    intro other hother
    cases hother
    exact ⟨hreserved, by simp [hopen], hafter⟩
  · exact ⟨rfl, rfl, fun item hitem => by simp at hitem,
      fun _ _ => ⟨buffer, hsource⟩, fun _ _ => ⟨_, rfl⟩, id, fun _ => rfl⟩
  · exact hsound.buffers_kept hget id
  · exact fun _ _ hfound _ => hfound
  · exact hsound.calls_of_running hget id rfl

theorem Sound.enqueueDebounced
    (params : InboundDebounceCreateParams Item) (key : JsString) (item : ℕ)
    (debounceMs : ℤ) :
    Sound (enqueueDebounced params key item debounceMs state) := by
  unfold InboundDebounce.enqueueDebounced
  cases hlookup : state.buffers.lookup key with
  | some index =>
    obtain ⟨-, slot, buffer, hget, -, hsource, -⟩ := hsound.buffers key index hlookup
    simp only [bufferAt_eq_some.mpr ⟨hget, hsource⟩]
    exact hsound.pushItem hlookup hget hsource _ debounceMs
  | none =>
    split_ifs
    · apply hsound.append hlookup
      · rfl
      · rfl
      · constructor <;> simp [Phase.isSettled]
      · exact fun other hne => Entries.lookup_set_of_ne hne
      · exact fun _ _ => ⟨rfl, Entries.lookup_set_self⟩
      · intro _ hsource
        simp at hsource
    · exact hsound.enqueueKeyTask hlookup item

theorem Sound.received (items : List Item) : Sound { state with items := items } :=
  ⟨hsound.serial, hsound.slots, hsound.pending, hsound.awaited, hsound.buffers, hsound.calls⟩

theorem Sound.enqueue (params : InboundDebounceCreateParams Item) (item : Item) :
    Sound (enqueue params item state) := by
  have hreceived := hsound.received (state.items ++ [item])
  unfold InboundDebounce.enqueue
  cases params.keyOf item with
  | none => exact hreceived.runFlush none state.items.length
  | some key =>
    split_ifs
    · exact hreceived.enqueueDebounced params key state.items.length (params.debounceMsOf item)
    · exact hreceived.enqueueImmediate key state.items.length

theorem Sound.flushSettles {call : FlushCall} (hget : state.calls.get? index = some call) :
    Sound { state with
      calls := state.calls.put index { call with inProgress := false } } := by
  refine ⟨hsound.serial, hsound.slots, hsound.pending, hsound.awaited, hsound.buffers, ?_⟩
  intro other found made hfound hprogress hslot
  rcases (get?_put_eq_some hget).mp hfound with ⟨-, rfl⟩ | ⟨-, hbefore⟩
  · simp at hprogress
  · exact hsound.calls other found made hbefore hprogress hslot

end

theorem step_sound {params : InboundDebounceCreateParams Item}
    {action : Action Item} (hsound : Sound state)
    (hstep : step params state action = some next) : Sound next := by
  cases action with
  | enqueue item =>
    cases hstep
    exact hsound.enqueue params item
  | flushKey key =>
    cases hstep
    exact hsound.flushKey key
  | timerFires index =>
    obtain ⟨⟨slot, buffer⟩, hfound, hstep⟩ := Option.bind_eq_some_iff.mp hstep
    obtain ⟨hget, hsource⟩ := bufferAt_eq_some.mp hfound
    simp only [Option.ite_none_right_eq_some, Option.some.injEq] at hstep
    exact hstep.2 ▸ hsound.flushBuffer hget hsource
  | startTask index =>
    obtain ⟨slot, hget, hstep⟩ := Option.bind_eq_some_iff.mp hstep
    exact hsound.startTask hget hstep
  | passTask index =>
    obtain ⟨slot, hget, hstep⟩ := Option.bind_eq_some_iff.mp hstep
    exact hsound.passTask hget hstep
  | settleTask index =>
    obtain ⟨slot, hget, hstep⟩ := Option.bind_eq_some_iff.mp hstep
    exact hsound.settleTask hget hstep
  | cleanup index =>
    obtain ⟨slot, hget, hstep⟩ := Option.bind_eq_some_iff.mp hstep
    exact hsound.cleanup hget hstep
  | releaseTask index =>
    obtain ⟨slot, hget, hstep⟩ := Option.bind_eq_some_iff.mp hstep
    exact hsound.releaseTask hget hstep
  | flushSettles index =>
    obtain ⟨call, hget, hstep⟩ := Option.bind_eq_some_iff.mp hstep
    simp only [Option.ite_none_right_eq_some, Option.some.injEq] at hstep
    exact hstep.2 ▸ hsound.flushSettles hget

end LittleBaby.InboundDebounce
