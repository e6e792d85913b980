import Wallie.Ledger.RunInvariant
import Wallie.Lib.TraceRefinement
import Wallie.StreamContract.Script

/-!
# The contract refines its book

Seen from outside, the contract is a machine that creates, changes and closes
streams, hands out ids and receives tokens. Every run shows as a run of that
machine, in which each call that succeeds has taken actions of its kind, and a
call that fails none.
-/

namespace Wallie.StreamContract

open ClockedSystem (Explains TraceRefinement)

variable {address : Address} {permitted : State → Env → Call → Prop} {now id : ℕ} {s : State}
  {past : List (State × Input address)} {book book' : Book} {action : Action}

/-! ## The book as a machine -/

/-- The machine starts with a blank book and takes one action at a time. -/
abbrev Book.machine : ClockedSystem Book (ℕ × Action) ℕ :=
  ClockedSystem.machine (fun _ => Book.Blank) Book.Steps

/-- A trace of the machine: its actions, the latest first, with the books they found. -/
abbrev Book.Trace := List (Book × (ℕ × Action))

/-- The stream that an action is about. -/
def Action.subject : Action → Option ℕ
  | create id _ | change id _ | close id => some id
  | _ => none

/-- The actions of a trace on the stream `id`. -/
def Book.Trace.on (trace : Book.Trace) (id : ℕ) : List Action :=
  (trace.map fun entry => entry.2.2).filter fun action => action.subject = some id

theorem Book.Trace.on_cons (entry : Book × (ℕ × Action)) (trace : Book.Trace) (id : ℕ) :
    Book.Trace.on (entry :: trace) id =
      if entry.2.2.subject = some id then entry.2.2 :: trace.on id else trace.on id := by
  simp only [Book.Trace.on, List.map_cons, List.filter_cons, decide_eq_true_eq]

/-- The life of the stream `id` so far, the latest action first, and whether it is stored. -/
inductive Lives (id : ℕ) : List Action → Bool → Prop where
  | unborn : Lives id [] false
  | created (deposit : ℤ) : Lives id [.create id deposit] true
  | changed {life : List Action} (lives : Lives id life true) (move : Move) :
      Lives id (.change id move :: life) true
  | closed {life : List Action} (lives : Lives id life true) : Lives id (.close id :: life) false

/-- What a trace has done to a stream is its life, and it has used its id. -/
structure Book.Trace.Records (trace : Book.Trace) (book : Book) (id : ℕ) : Prop where
  lives : Lives id (trace.on id) (book.streams id).isSome
  used : trace.on id ≠ [] → ¬ book.Fresh id

theorem Book.Trace.Records.next {trace : Book.Trace} (records : trace.Records book id)
    (formed : book.WellFormed now) (step : book.Steps now action book') :
    Book.Trace.Records ((book, (now, action)) :: trace) book' id := by
  have used : trace.on id ≠ [] → ¬ book'.Fresh id :=
    fun lived fresh => records.used lived (step.fresh formed.reserves fresh)
  have lives := records.lives
  -- An action on another stream, or on none, leaves the record alone.
  have elsewhere : action.subject ≠ some id → book'.streams id = book.streams id →
      Book.Trace.Records ((book, (now, action)) :: trace) book' id := by
    intro other same
    constructor
    · rw [Book.Trace.on_cons, if_neg other, same]
      exact lives
    · rw [Book.Trace.on_cons, if_neg other]
      exact used
  -- An action on the stream `id` that starts or continues its life.
  have here : action.subject = some id →
      Lives id (action :: trace.on id) (book'.streams id).isSome → ¬ book'.Fresh id →
      Book.Trace.Records ((book, (now, action)) :: trace) book' id := by
    intro subject lives used
    constructor
    · rw [Book.Trace.on_cons, if_pos subject]
      exact lives
    · exact fun _ => used
  cases step with
  | @create sender params key _ _ vault allocates _ _ =>
      rcases eq_or_ne key id with rfl | other
      · have fresh := allocates.fresh formed.reserves
        have unborn : trace.on key = [] := by
          by_contra lived
          exact records.used lived fresh
        refine here rfl ?_ ?_
        · rw [unborn]
          simp only [Book.created, newStream, Function.update_self, Option.isSome_some]
          exact .created _
        · exact fun fresh => (allocates.fresh_of_fresh formed.reserves fresh).2 rfl
      · refine elsewhere (by simpa [Action.subject] using other) ?_
        exact Function.update_of_ne other.symm _ _
  | @change key stream stream' move _ stored _ _ _ =>
      rcases eq_or_ne key id with rfl | other
      · rw [stored] at lives
        refine here rfl ?_ ?_
        · simp only [Book.moved, Function.update_self, Option.isSome_some]
          exact lives.changed move
        · exact formed.not_fresh stored
      · refine elsewhere (by simpa [Action.subject] using other) ?_
        exact Function.update_of_ne other.symm _ _
  | @close key stream stored _ =>
      rcases eq_or_ne key id with rfl | other
      · rw [stored] at lives
        refine here rfl ?_ ?_
        · simp only [Function.update_self, Option.isSome_none]
          exact lives.closed
        · exact formed.not_fresh stored
      · refine elsewhere (by simpa [Action.subject] using other) ?_
        exact Function.update_of_ne other.symm _ _
  | reserve _ | release | reclaim _ _ | sweep _ _ | receive _ =>
      exact elsewhere (by simp [Action.subject]) rfl

/-- In a run of the machine the book is well formed and every stream has lived one life at most. -/
theorem Book.machine_records {trace : Book.Trace}
    (recorded : Book.machine.Recorded (fun _ _ => True) trace now book) :
    book.WellFormed now ∧ ∀ id, trace.Records book id := by
  induction recorded with
  | @start instant book blank =>
      refine ⟨blank.wellFormed instant, fun id => ⟨?_, fun lived => absurd rfl lived⟩⟩
      have absent : book.streams id = none := by rw [blank.streams]
      rw [absent]
      exact .unborn
  | tick _ order ih => exact ⟨ih.1.mono order, ih.2⟩
  | @move _ instant book next entry _ order _ moved ih =>
      rcases entry with ⟨instant', action⟩
      have formed : book.WellFormed instant' := ih.1.mono order
      have step : book.Steps instant' action next := moved
      exact ⟨step.wellFormed formed, fun id => (ih.2 id).next formed step⟩

/-! ## The contract -/

/-- The actions an input takes on the book: those of a successful call, each on the record the call
found, or the arrival of tokens. -/
def Input.Takes (s : State) : Input address → Book → Action → Prop
  | .invoke invocation, book, action => invocation.Takes s book action
  | .token _, _, action => action = .receive

/-- The book shows every step of the contract as a run of actions. -/
def bookRefinement (address : Address) (permitted : State → Env → Call → Prop) :
    TraceRefinement (system address) (onCalls permitted) (fun _ => Book.Blank) Book.Steps where
  view := fun s => s.book address
  takes := Input.Takes
  start := fun _ _ fresh => fresh.blank
  move := by
    intro instant s input s' reached order allowed step
    cases input with
    | invoke invocation =>
        have formed := Reachable.book_wellFormed reached
        exact invocation.runs step (formed.mono order)
    | token activity =>
        rcases step with ⟨funded, rfl⟩
        exact LabelledRun.Run.single rfl (Book.Steps.receive funded)

/-- Every run of the contract, whatever anyone calls, shows on the book as a run of the machine. The
calls that succeeded account for the actions in their order, each for actions of its kind at its
own time, and the calls that failed for none. Every stream was created at most once, was changed
only between its creation and its closing, and is stored if it was created and not closed. -/
theorem contract_refines_book (recorded : Recorded address permitted past now s) :
    ∃ trace : Book.Trace, Book.machine.Recorded (fun _ _ => True) trace now (s.book address) ∧
      Explains Input.clock Input.Takes past trace ∧
      ∀ id, Lives id (trace.on id) (s.streams id).isSome := by
  rcases (bookRefinement address permitted).recorded recorded with ⟨trace, shown, explained⟩
  exact ⟨trace, shown, explained, fun id => ((Book.machine_records shown).2 id).lives⟩

namespace Sample

/-- The drawn stream is closed, in vain a second time; the other one stays. -/
def retired : List (Invocation contract) :=
  drained ++
    [invocation 3 110 2 (.closeCompletedStream 0) (Eq.refl true),
      invocation 3 110 2 (.closeCompletedStream 0) (Eq.refl true)]

end Sample

theorem contract_refines_book_retired :
    let s := Script.run Sample.retired Sample.genesis
    ∃ trace : Book.Trace, Book.machine.Recorded (fun _ _ => True) trace 110
        (s.book Sample.contract) ∧
      Explains Input.clock Input.Takes (Script.past Sample.retired Sample.genesis) trace ∧
      Lives 0 (trace.on 0) false ∧ Lives 1 (trace.on 1) true := by
  intro s
  have ordered : Script.Ordered Sample.retired 0 :=
    ⟨by decide, by decide, by decide, by decide, by decide, trivial⟩
  have recorded : Recorded Sample.contract anyCall
      (Script.past Sample.retired Sample.genesis ++ []) 110 s :=
    Script.recorded_run ordered (Script.permits_anyCall _ _) (.start Sample.fresh_genesis)
  rw [List.append_nil] at recorded
  rcases contract_refines_book recorded with ⟨trace, shown, explained, lives⟩
  have removed : (s.streams 0).isSome = false := by decide +kernel
  have stays : (s.streams 1).isSome = true := by decide +kernel
  exact ⟨trace, shown, explained, removed ▸ lives 0, stays ▸ lives 1⟩

end Wallie.StreamContract
