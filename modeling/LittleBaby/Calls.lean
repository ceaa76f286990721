import Mathlib.Logic.Basic

/-!
# Calls on shared state

A call reads and writes a state and then returns or throws; what it has
written before a throw stays written.  `Meets` is the triple of a call, with a
condition for the return and one for the throw, and `Keeps` is the special
case of an invariant.
-/

def Call (State Failure Value : Type) := State → Except Failure Value × State

namespace Call

open Call

variable {State Failure Value Result Item : Type}

instance : Monad (Call State Failure) where
  pure value := fun state => (.ok value, state)
  bind call continuation := fun state =>
    match call state with
    | (.ok value, next) => continuation value next
    | (.error failure, next) => (.error failure, next)

def read (view : State → Value) : Call State Failure Value := fun state => (.ok (view state), state)

def change (update : State → State) : Call State Failure Unit := fun state => (.ok (), update state)

def fail (failure : Failure) : Call State Failure Value := fun state => (.error failure, state)

def rescue (call : Call State Failure Value)
    (handler : Failure → Call State Failure Value) : Call State Failure Value :=
  fun state =>
    match call state with
    | (.ok value, next) => (.ok value, next)
    | (.error failure, next) => handler failure next

def attempt (call : Call State Failure Value) : Call State Failure Unit :=
  rescue (call >>= fun _ => pure ()) fun _ => pure ()

def forEach (body : Item → Call State Failure Unit) : List Item → Call State Failure Unit
  | [] => pure ()
  | item :: rest => do
      body item
      forEach body rest

def leaves (call : Call State Failure Value) (state : State) : State := (call state).2

/-- Started where `before` holds, the call returns where `returned` holds or
throws where `thrown` holds. -/
def Meets (before : State → Prop) (call : Call State Failure Value)
    (returned : Value → State → Prop) (thrown : State → Prop) : Prop :=
  ∀ state, before state → match call state with
    | (.ok value, next) => returned value next
    | (.error _, next) => thrown next

def Keeps (invariant : State → Prop) (call : Call State Failure Value) : Prop :=
  Meets invariant call (fun _ => invariant) invariant

def EndsIn (condition : State → Prop) (call : Call State Failure Value) (state : State) : Prop :=
  condition (call.leaves state)

variable {before invariant thrown : State → Prop}
  {returned : Value → State → Prop} {call : Call State Failure Value}

namespace Meets

theorem consequence (hcall : Meets before call returned thrown)
    {stronger weakerThrown : State → Prop} {weaker : Value → State → Prop}
    (hbefore : ∀ state, stronger state → before state)
    (hreturned : ∀ value state, returned value state → weaker value state)
    (hthrown : ∀ state, thrown state → weakerThrown state) :
    Meets stronger call weaker weakerThrown := by
  intro state hstronger
  have hmeets := hcall state (hbefore state hstronger)
  rcases hcalled : call state with ⟨value | value, next⟩
  · rw [hcalled] at hmeets
    exact hthrown next hmeets
  · rw [hcalled] at hmeets
    exact hreturned value next hmeets

theorem bind (hcall : Meets before call returned thrown)
    {continuation : Value → Call State Failure Result}
    {after : Result → State → Prop}
    (hcontinuation : ∀ value, Meets (returned value) (continuation value) after thrown) :
    Meets before (call >>= continuation) after thrown := by
  intro state hbefore
  have hmeets := hcall state hbefore
  change match (match call state with
    | (.ok value, next) => continuation value next
    | (.error failure, next) => (.error failure, next)) with
    | (.ok result, next) => after result next
    | (.error _, next) => thrown next
  rcases hcalled : call state with ⟨value | value, next⟩
  · rw [hcalled] at hmeets
    exact hmeets
  · rw [hcalled] at hmeets
    exact hcontinuation value next hmeets

theorem rescue {middle : State → Prop} (hcall : Meets before call returned middle)
    {handler : Failure → Call State Failure Value}
    (hhandler : ∀ failure, Meets middle (handler failure) returned thrown) :
    Meets before (rescue call handler) returned thrown := by
  intro state hbefore
  have hmeets := hcall state hbefore
  unfold Call.rescue
  rcases hcalled : call state with ⟨failure | value, next⟩
  · rw [hcalled] at hmeets
    exact hhandler failure next hmeets
  · rw [hcalled] at hmeets
    exact hmeets

theorem attempt {after : State → Prop} (hcall : Meets before call (fun _ => after) after) :
    Meets before (Call.attempt call) (fun _ => after) thrown := by
  intro state hbefore
  have hmeets := hcall state hbefore
  unfold Call.attempt Call.rescue
  rcases hcalled : call state with ⟨failure | value, next⟩
  · rw [hcalled] at hmeets
    simpa [Bind.bind, Pure.pure, hcalled] using hmeets
  · rw [hcalled] at hmeets
    simpa [Bind.bind, Pure.pure, hcalled] using hmeets

theorem pure {value : Value} (hreturned : ∀ state, before state → returned value state) :
    Meets before (Pure.pure value : Call State Failure Value) returned thrown :=
  hreturned

theorem read {view : State → Value} : Meets before (read view : Call State Failure Value)
      (fun value state => before state ∧ view state = value) thrown :=
  fun _ hbefore => ⟨hbefore, rfl⟩

theorem change {update : State → State} {after : Unit → State → Prop}
    (hafter : ∀ state, before state → after () (update state)) :
    Meets before (change update : Call State Failure Unit) after thrown :=
  hafter

theorem leaves (hcall : Meets before call returned thrown) {state : State}
    (hbefore : before state) :
    (∃ value, returned value (call.leaves state)) ∨ thrown (call.leaves state) := by
  have hmeets := hcall state hbefore
  unfold Call.leaves
  rcases hcalled : call state with ⟨failure | value, next⟩
  · rw [hcalled] at hmeets
    exact Or.inr hmeets
  · rw [hcalled] at hmeets
    exact Or.inl ⟨value, hmeets⟩

end Meets

namespace Keeps

theorem pure (value : Value) : Keeps invariant (Pure.pure value : Call State Failure Value) :=
  fun _ hinvariant => hinvariant

theorem read (view : State → Value) : Keeps invariant (read view : Call State Failure Value) :=
  fun _ hinvariant => hinvariant

theorem fail (failure : Failure) : Keeps invariant (fail failure : Call State Failure Value) :=
  fun _ hinvariant => hinvariant

theorem change {update : State → State}
    (hkeep : ∀ state, invariant state → invariant (update state)) :
    Keeps invariant (change update : Call State Failure Unit) :=
  hkeep

theorem bind (hcall : Keeps invariant call) {continuation : Value → Call State Failure Result}
    (hcontinuation : ∀ value, Keeps invariant (continuation value)) :
    Keeps invariant (call >>= continuation) :=
  Meets.bind hcall hcontinuation

theorem rescue (hcall : Keeps invariant call) {handler : Failure → Call State Failure Value}
    (hhandler : ∀ failure, Keeps invariant (handler failure)) :
    Keeps invariant (rescue call handler) :=
  Meets.rescue hcall hhandler

theorem attempt (hcall : Keeps invariant call) : Keeps invariant (attempt call) :=
  Meets.attempt hcall

theorem forEach {body : Item → Call State Failure Unit} {items : List Item}
    (hbody : ∀ item ∈ items, Keeps invariant (body item)) :
    Keeps invariant (forEach body items) := by
  induction items with
  | nil => exact pure ()
  | cons item rest ih =>
    exact bind (hbody item List.mem_cons_self) fun _ =>
      ih fun other hmem => hbody other (List.mem_cons_of_mem _ hmem)

theorem leaves (hcall : Keeps invariant call) {state : State}
    (hinvariant : invariant state) : invariant (call.leaves state) := by
  rcases Meets.leaves hcall hinvariant with ⟨-, hnext⟩ | hnext
  · exact hnext
  · exact hnext

end Keeps

theorem leaves_attempt (call : Call State Failure Value) (state : State) :
    (attempt call).leaves state = call.leaves state := by
  rcases hcalled : call state with ⟨failure | value, next⟩
  · simp [leaves, attempt, rescue, Bind.bind, Pure.pure, hcalled]
  · simp [leaves, attempt, rescue, Bind.bind, Pure.pure, hcalled]

theorem read_bind_eq (view : State → Value)
    (continuation : Value → Call State Failure Result) (state : State) :
    (read view >>= continuation) state = continuation (view state) state := rfl

theorem change_bind_eq (update : State → State)
    (continuation : Unit → Call State Failure Result) (state : State) :
    (change update >>= continuation) state = continuation () (update state) :=
  rfl

variable {state next : State} {failure : Failure}

theorem attempt_ne_error {call : Call State Failure Value} : attempt call state ≠ (.error failure, next) := by
  rcases hcalled : call state with ⟨thrown | value, after⟩
  · simp [attempt, rescue, Bind.bind, Pure.pure, hcalled]
  · simp [attempt, rescue, Bind.bind, Pure.pure, hcalled]

variable {continuation : Value → Call State Failure Result}

theorem bind_eq_error (hcall : (call >>= continuation) state = (.error failure, next)) :
    call state = (.error failure, next) ∨ ∃ value middle, call state = (.ok value, middle) ∧
        continuation value middle = (.error failure, next) := by
  rcases hcalled : call state with ⟨thrown | value, middle⟩
  · left
    simpa [Bind.bind, hcalled] using hcall
  · right
    exact ⟨value, middle, rfl, by simpa [Bind.bind, hcalled] using hcall⟩

namespace EndsIn

variable {condition : State → Prop} {state : State}

theorem of_keeps (hcall : Keeps condition call) (hstate : condition state) :
    EndsIn condition call state :=
  hcall.leaves hstate

theorem read_bind {view : State → Value}
    (hcontinuation : EndsIn condition (continuation (view state)) state) :
    EndsIn condition (read view >>= continuation) state :=
  hcontinuation

theorem bind_of_ok {value : Value} (hcall : call state = (.ok value, next))
    (hcontinuation : EndsIn condition (continuation value) next) :
    EndsIn condition (call >>= continuation) state := by
  unfold EndsIn leaves at *
  simpa [Bind.bind, hcall] using hcontinuation

theorem bind_of_error (hcall : call state = (.error failure, next)) (hnext : condition next) :
    EndsIn condition (call >>= continuation) state := by
  unfold EndsIn leaves
  simpa [Bind.bind, hcall] using hnext

theorem change_bind {update : State → State} {continuation : Unit → Call State Failure Result}
    (hcontinuation : EndsIn condition (continuation ()) (update state)) :
    EndsIn condition (change update >>= continuation) state :=
  hcontinuation

theorem bind (hcall : EndsIn condition call state)
    (hcontinuation : ∀ value, Keeps condition (continuation value)) :
    EndsIn condition (call >>= continuation) state := by
  unfold EndsIn leaves at hcall
  rcases hcalled : call state with ⟨failure | value, next⟩
  · rw [hcalled] at hcall
    exact bind_of_error hcalled hcall
  · rw [hcalled] at hcall
    exact bind_of_ok hcalled ((hcontinuation value).leaves hcall)

theorem attempt (hcall : EndsIn condition call state) : EndsIn condition (attempt call) state := by
  unfold EndsIn at *
  rw [leaves_attempt]
  exact hcall

end EndsIn

theorem Meets.endsIn {condition : State → Prop}
    (hcall : Meets before call (fun _ => condition) condition)
    (hbefore : before state) : EndsIn condition call state := by
  rcases hcall.leaves hbefore with ⟨-, hnext⟩ | hnext
  · exact hnext
  · exact hnext

end Call
