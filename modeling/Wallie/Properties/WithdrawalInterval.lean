import Wallie.Ledger.Emissions
import Wallie.Ledger.Payments
import Wallie.Ledger.RunInvariant
import Wallie.StreamContract.EntrypointWrites
import Wallie.StreamContract.Script

/-!
# The interval between withdrawals

Three of the six payment entrypoints compare the ledger with that of the last
withdrawal and note it. The other three do neither, so that their payments come
in the same ledger as others. The payments of a stream are apart on the runs in
which no successful call comes to draw on a stream that was just drawn on, unless
the check of the contract sees it.
-/

namespace Wallie.StreamContract

open Fallible

variable {address : Address} {now : ℕ} {s s' : State} {env : Env} {call : Call}
  {past : List (State × Input address)} {path : PayoutPath} {id : ℕ} {stream : Stream}
  {destination : Address} {amount : ℤ}

namespace State

/-- The payments to the recipient of a stream, in order. -/
def drawnFrom (s : State) (id : ℕ) : List Payout :=
  s.recipientPayouts.filter fun payout => payout.streamId = id

/-- The payments of every stream are apart. -/
def Spaced (s : State) : Prop :=
  ∀ id, (s.drawnFrom id).Pairwise fun earlier later =>
    earlier.sequence + minWithdrawIntervalLedgers ≤ later.sequence

/-- The stream was drawn on so recently that it may not be drawn on at `ledger`. -/
def JustDrawn (s : State) (id ledger : ℕ) : Prop :=
  ∃ payout ∈ s.drawnFrom id, ledger < payout.sequence + minWithdrawIntervalLedgers

/-- If the stream was just drawn on, then the path looks at the record, and the record says so. -/
def SeesDrawn (s : State) (path : PayoutPath) (id ledger : ℕ) : Prop :=
  s.JustDrawn id ledger → path.spaced = true ∧ ∀ stream, s.streams id = some stream →
    ledger < stream.lastWithdrawLedger + minWithdrawIntervalLedgers

/-- The recipient of the stream has earned more than was drawn. -/
def Due (s : State) (id instant : ℕ) : Prop :=
  ∃ stream, s.streams id = some stream ∧ stream.withdrawnAmount < stream.entitlement instant

end State

/-- No payment entrypoint is called on a stream that was just drawn on and has more to pay, unless
the check of the contract sees it. -/
def seesDrawn : State → Env → Call → Prop :=
  fun s env call => ∀ path ids, call.payments = some (path, ids) →
    ∀ id ∈ ids, s.Due id env.timestamp → s.SeesDrawn path id env.sequence

/-! ## Steps -/

theorem PaysThrough.recipientPayouts
    (pays : PaysThrough env path id stream destination amount s s') :
    ∃ payout, payout.streamId = id ∧ payout.amount = amount ∧ payout.sequence = env.sequence ∧
      s'.recipientPayouts = s.recipientPayouts ++ [payout] := by
  rcases pays.result with ⟨noted, lock, rfl⟩
  refine ⟨⟨id, path.kind, destination, amount, env.sequence, Function.update s.streams
    stream.streamId (some (stream.paid path amount env.sequence)) id⟩, rfl, rfl, rfl, ?_⟩
  rw [State.recipientPayouts, State.paid, List.filter_append, State.recipientPayouts]
  cases path <;> rfl

theorem PaysThrough.due (pays : PaysThrough env path id stream destination amount s s') :
    s.Due id env.timestamp := by
  have positive := pays.positive
  have earned := pays.earned
  exact ⟨stream, pays.stored, by omega⟩

/-- A payment does not touch what is drawn from the other streams, nor their records. -/
theorem PaysThrough.seesDrawn_other {other : ℕ}
    (pays : PaysThrough env path id stream destination amount s s')
    (keyed : stream.streamId = id) (distinct : other ≠ id)
    (sees : s.Due other env.timestamp → s.SeesDrawn path other env.sequence) :
    s'.Due other env.timestamp → s'.SeesDrawn path other env.sequence := by
  rcases pays.recipientPayouts with ⟨payout, drawn, _, _, payouts⟩
  have same : s'.drawnFrom other = s.drawnFrom other := by
    rw [State.drawnFrom, payouts, List.filter_append, State.drawnFrom]
    simp [drawn, distinct.symm]
  have record : s'.streams other = s.streams other := by
    rw [pays.streams, keyed, Function.update_of_ne distinct]
  unfold State.SeesDrawn State.JustDrawn State.Due
  rwa [same, record]

/-- A payment that the check lets through is apart from the earlier ones. -/
theorem PaysThrough.keepsSpaced (pays : PaysThrough env path id stream destination amount s s')
    (sees : s.SeesDrawn path id env.sequence) (spaced : s.Spaced) : s'.Spaced := by
  rcases pays.recipientPayouts with ⟨payout, drawn, _, ledger, payouts⟩
  intro other
  rw [State.drawnFrom, payouts, List.filter_append]
  rcases eq_or_ne other id with rfl | distinct
  · have apart : ∀ earlier ∈ s.drawnFrom other,
        earlier.sequence + minWithdrawIntervalLedgers ≤ payout.sequence := by
      intro earlier member
      by_contra near
      rcases sees ⟨earlier, member, by omega⟩ with ⟨checks, noted⟩
      have checked := pays.spaced checks
      have seen := noted stream pays.stored
      omega
    have last : [payout].filter (fun payout => payout.streamId = other) = [payout] := by
      simp [drawn]
    rw [last, List.pairwise_append]
    refine ⟨spaced other, List.pairwise_singleton _ _, ?_⟩
    intro earlier member later new
    rw [List.mem_singleton.mp new]
    exact apart earlier member
  · have none : [payout].filter (fun payout => payout.streamId = other) = [] := by
      simp [drawn, distinct.symm]
    rw [none, List.append_nil]
    exact spaced other

/-- The payments of a call stay apart when its checks see what was just drawn. -/
theorem PaymentsOf.keepsSpaced {entries : List (ℕ × Option Address)}
    (payments : PaymentsOf env path entries s s')
    (keyed : ∀ id stream, s.streams id = some stream → stream.streamId = id)
    (nodup : (entries.map Prod.fst).Nodup)
    (sees : ∀ id ∈ entries.map Prod.fst,
      s.Due id env.timestamp → s.SeesDrawn path id env.sequence)
    (spaced : s.Spaced) : s'.Spaced := by
  induction payments with
  | nil => exact spaced
  | skip rest ih =>
      exact ih keyed (List.nodup_cons.mp nodup).2
        (fun id member => sees id (List.mem_cons_of_mem _ member)) spaced
  | @pay s middle s' id stream chosen amount entries pays rest ih =>
      rcases List.nodup_cons.mp nodup with ⟨absent, nodup⟩
      have sees' := sees id List.mem_cons_self pays.due
      refine ih (pays.keyed keyed) nodup ?_ (pays.keepsSpaced sees' spaced)
      intro other member
      have distinct : other ≠ id := fun same => absent (same ▸ member)
      exact pays.seesDrawn_other (keyed id stream pays.stored) distinct
        (sees other (List.mem_cons_of_mem _ member))

theorem spaced_of_same (same : s'.recipientPayouts = s.recipientPayouts) (spaced : s.Spaced) :
    s'.Spaced := by
  intro id
  rw [State.drawnFrom, same]
  exact spaced id

theorem unpaid_of_payments (unpaying : call.payments = none) :
    .recipientPayouts ∉ call.writes := by
  cases call <;> simp_all [Call.payments, Call.writes]

theorem keepsSpaced_of_runs (run : Runs call.run env s () s') (sees : seesDrawn s env call)
    (formed : (s.book address).WellFormed now) (spaced : s.Spaced) : s'.Spaced := by
  cases paying : call.payments with
  | none =>
      have unwritten := unpaid_of_payments paying
      exact spaced_of_same ((call.onlyWrites run).recipientPayouts unwritten) spaced
  | some drawn =>
      rcases drawn with ⟨path, ids⟩
      have pays := call.paysStreams run paying formed.records
      rcases pays.payments with ⟨entries, s₀, rfl, ⟨noted, rfl⟩, payments⟩
      have keyed : ∀ id stream, s.streams id = some stream → stream.streamId = id :=
        fun id stream stored => (formed.records id stream stored).streamId
      exact payments.keepsSpaced keyed pays.nodup (sees path _ paying) spaced

/-- In every run whose successful calls come to no stream that was just drawn on and has more to
pay, unless the contract checks and sees it, any two payments to the recipient of a stream are at
least the interval apart. -/
theorem withdrawals_spaced (reached : Reachable address (onSuccess seesDrawn) now s) :
    ∀ id, (s.drawnFrom id).Pairwise fun earlier later =>
      earlier.sequence + minWithdrawIntervalLedgers ≤ later.sequence := by
  refine reached.runs_invariant State.Spaced ?_ ?_ ?_
  · intro instant s fresh id
    rcases fresh.eq_deployed with ⟨balances, allowances, config, rfl⟩
    exact List.Pairwise.nil
  · exact fun _ _ spaced => spaced
  · intro instant s invocation s' reached _ sees run spaced
    exact keepsSpaced_of_runs run (sees ⟨s', run⟩) reached.book_wellFormed spaced

/-! ## The noted ledger -/

namespace State

/-- The ledger a record notes is that of a payment, unless none was noted. -/
def NotesPayments (s : State) : Prop :=
  ∀ id stream, s.streams id = some stream → stream.lastWithdrawLedger = 0 ∨
    ∃ payout ∈ s.drawnFrom id, payout.sequence = stream.lastWithdrawLedger

end State

theorem PaysThrough.keepsNoting (pays : PaysThrough env path id stream destination amount s s')
    (keyed : stream.streamId = id) (notes : s.NotesPayments) : s'.NotesPayments := by
  rcases pays.recipientPayouts with ⟨payout, drawn, _, ledger, payouts⟩
  have later : ∀ other, s'.drawnFrom other =
      s.drawnFrom other ++ [payout].filter fun payout => payout.streamId = other := by
    intro other
    rw [State.drawnFrom, payouts, List.filter_append, State.drawnFrom]
  intro other record stored
  rw [pays.streams, keyed] at stored
  rw [later]
  rcases eq_or_ne other id with rfl | distinct
  · rw [Function.update_self, Option.some.injEq] at stored
    subst stored
    cases checks : path.spaced with
    | true =>
        refine Or.inr ⟨payout, ?_, ?_⟩
        · simp [drawn]
        · simp [Stream.paid, Stream.notedAt, checks, ledger]
    | false =>
        have same : (stream.paid path amount env.sequence).lastWithdrawLedger =
            stream.lastWithdrawLedger := by
          simp [Stream.paid, Stream.notedAt, checks]
        rw [same]
        refine (notes other stream pays.stored).imp_right ?_
        rintro ⟨earlier, member, noted⟩
        exact ⟨earlier, List.mem_append_left _ member, noted⟩
  · rw [Function.update_of_ne distinct] at stored
    refine (notes other record stored).imp_right ?_
    rintro ⟨earlier, member, noted⟩
    exact ⟨earlier, List.mem_append_left _ member, noted⟩

theorem PaymentsOf.keepsNoting {entries : List (ℕ × Option Address)}
    (payments : PaymentsOf env path entries s s')
    (keyed : ∀ id stream, s.streams id = some stream → stream.streamId = id)
    (notes : s.NotesPayments) : s'.NotesPayments := by
  induction payments with
  | nil => exact notes
  | skip rest ih => exact ih keyed notes
  | pay pays rest ih =>
      exact ih (pays.keyed keyed) (pays.keepsNoting (keyed _ _ pays.stored) notes)

/-- Only a withdrawal notes a ledger. -/
theorem Stream.Moves.noted {stream' : Stream} {move : Move} (moves : stream.Moves now move stream')
    (others : ∀ path amount, move ≠ .withdraw path amount) :
    stream'.streamId = stream.streamId ∧
      stream'.lastWithdrawLedger = stream.lastWithdrawLedger := by
  cases moves with
  | withdraw _ _ _ _ _ _ => exact absurd rfl (others _ _)
  | topUp _ _ _ _ _ | raiseRate _ _ _ _ | lowerRate _ _ _ _ _ _ _ | reprice _ _
  | shorten _ _ _ _ _ _ _ _ | extend _ _ _ _ _ | pause _ _ | resume _ _ | cancel _ _
  | settle _ _ _ | keeperCancel _ _ _ _ | rotate => exact ⟨rfl, rfl⟩

theorem Call.Changing.pays {held : ℤ} {path : PayoutPath}
    (changing : call.Changing held id (.withdraw path amount)) : call.payments ≠ none := by
  cases changing with
  | withdraw _ | withdrawTo _ | batchWithdraw _ _ | batchWithdrawTo _ _ _ | delegatedWithdraw _
  | triggerAutoClaim _ => exact Option.some_ne_none _

/-- In every reachable state the ledger a record notes is that of a payment to its recipient. -/
theorem Reachable.notesPayments {permitted : State → Env → Call → Prop}
    (reached : Reachable address permitted now s) : s.NotesPayments := by
  refine reached.runs_invariant State.NotesPayments ?_ (fun _ _ notes => notes) ?_
  · intro instant s fresh id stream stored
    rcases fresh.eq_deployed with ⟨balances, allowances, config, rfl⟩
    cases stored
  · intro instant s invocation s' reached order allowed run notes
    have formed := reached.book_wellFormed.mono order
    have formed' := (reached.after order allowed run).book_wellFormed
    cases paying : invocation.call.payments with
    | none =>
        have unwritten := unpaid_of_payments paying
        have same := (invocation.call.onlyWrites run).recipientPayouts unwritten
        -- No payment is made, so that the records move otherwise, and note nothing.
        have kept : ∀ id stream, s'.streams id = some stream → stream.lastWithdrawLedger = 0 ∨
            ∃ payout ∈ s.drawnFrom stream.streamId,
              payout.sequence = stream.lastWithdrawLedger := by
          refine invocation.forall_stored run formed ?_ ?_ ?_
          · intro id stream stored
            rw [(formed.records id stream stored).streamId]
            exact notes id stream stored
          · exact fun _ _ _ _ => Or.inl rfl
          · intro id move stream stream' makes _ moves noted
            have unpaid : ∀ path amount, move ≠ .withdraw path amount := by
              rintro path amount rfl
              exact makes.emits.changing.pays paying
            rcases moves.noted unpaid with ⟨sameId, sameLedger⟩
            rw [sameId, sameLedger]
            exact noted
        intro id stream stored
        have noted := kept id stream stored
        rw [(formed'.records id stream stored).streamId] at noted
        rw [State.drawnFrom, same]
        exact noted
    | some drawn =>
        rcases drawn with ⟨path, ids⟩
        rcases (invocation.call.paysStreams run paying formed.records).payments with
          ⟨entries, s₀, -, ⟨noted, rfl⟩, payments⟩
        have keyed : ∀ id stream, s.streams id = some stream → stream.streamId = id :=
          fun id stream stored => (formed.records id stream stored).streamId
        exact payments.keepsNoting keyed notes

namespace Sample

/-- The stream is drawn on in ledger 5, and again in the ledger `sequence` by the path that does
not look. -/
def drawnTwice (sequence : ℕ)
    (valid : decide (u64.Contains (60 : ℕ) ∧ u32.Contains sequence ∧
      (Call.withdrawTo 0 (.account 4)).WellTyped) = true) : List (Invocation contract) :=
  oneCreation 1000 10 0 0 (Eq.refl true) ++
    [invocation 2 50 5 (.withdraw 0) (Eq.refl true),
      invocation 2 60 sequence (.withdrawTo 0 (.account 4)) valid]

end Sample

/-- The second withdrawal is a ledger later. -/
theorem withdrawals_spaced_later :
    let s := Script.run (Sample.drawnTwice 6 (Eq.refl true)) Sample.genesis
    (s.drawnFrom 0).map Payout.amount = [500, 100] ∧
      (s.drawnFrom 0).Pairwise fun earlier later =>
        earlier.sequence + minWithdrawIntervalLedgers ≤ later.sequence := by
  intro s
  have ordered : Script.Ordered (Sample.drawnTwice 6 (Eq.refl true)) 0 :=
    ⟨by decide, by decide, by decide, trivial⟩
  have reached : Reachable Sample.contract (onSuccess seesDrawn) 60 s := by
    refine Script.reachable_run ordered ⟨?_, ?_, ?_, trivial⟩ (Sample.reachable_genesis _)
    · rintro _ path ids ⟨⟩
    · rintro _ path ids ⟨⟩ id member _ ⟨payout, drawn, _⟩
      rw [List.mem_singleton.mp member] at drawn
      exact absurd drawn List.not_mem_nil
    · rintro _ path ids ⟨⟩ id member _ ⟨payout, drawn, near⟩
      rw [List.mem_singleton.mp member] at drawn
      have ledger : payout.sequence ∈ [5] := List.mem_map_of_mem drawn
      rw [List.mem_singleton.mp ledger] at near
      exact absurd near (by decide)
  exact ⟨by decide, withdrawals_spaced reached 0⟩

/-- The ledger of a call. -/
def Input.ledger : Input address → Option ℕ
  | invoke invocation => some invocation.env.sequence
  | token _ => none

/-- The ledgers of the calls of a run, the latest first. -/
def ledgers (past : List (State × Input address)) : List ℕ :=
  past.filterMap fun entry => entry.2.ledger

/-- The ledgers of a run do not go back. -/
def LedgersOrdered (past : List (State × Input address)) : Prop :=
  (ledgers past).Pairwise (· ≥ ·)

/-- Both withdrawals come in the same ledger. -/
theorem not_always_withdrawals_spaced :
    ¬ ∀ past now s, Recorded Sample.contract anyCall past now s → LedgersOrdered past →
      ∀ id, (s.drawnFrom id).Pairwise fun earlier later =>
        earlier.sequence + minWithdrawIntervalLedgers ≤ later.sequence := by
  intro always
  let script := Sample.drawnTwice 5 (Eq.refl true)
  have ordered : Script.Ordered script 0 := ⟨by decide, by decide, by decide, trivial⟩
  have recorded := Script.recorded_run ordered (Script.permits_anyCall _ _)
    (.start Sample.fresh_genesis)
  have ledgers : LedgersOrdered (Script.past script Sample.genesis ++ []) := by
    change List.Pairwise (· ≥ ·) [5, 5, 0]
    decide
  have spaced := always _ _ _ recorded ledgers 0
  have sequences : ((Script.run script Sample.genesis).drawnFrom 0).map Payout.sequence =
      [5, 5] := by
    decide
  have apart : List.Pairwise (fun earlier later => earlier + minWithdrawIntervalLedgers ≤ later)
      [5, 5] := by
    rw [← sequences]
    exact List.pairwise_map.mpr spaced
  exact absurd apart (by decide)

end Wallie.StreamContract
