import Wallie.Deployment.Parts
import Wallie.Deployment.Script
import Wallie.Properties.BatchIds
import Wallie.Properties.FactoryPolicy
import Wallie.Properties.FixedTerms
import Wallie.Properties.StreamIds

/-!
# The streams of the factory

What the factory lists as created on the stream contract was created there, in
the same transaction, for the sender that the factory authorised and on terms
that its policy admitted. The stream contract keeps these terms.
-/

namespace Wallie.StreamContract

open Fallible

variable {env : Env} {s s' : State} {address sender : Address} {id : ℕ} {ids : List ℕ}
  {params : CreateStreamParams} {streams : List CreateStreamParams}

/-- The entries of the log of creations for new streams of one sender. -/
def creationsOf (sender : Address) (ids : List ℕ) : List (ℕ × Address) :=
  ids.map fun id => (id, sender)

theorem persistNewStream_logged (run : Runs (persistNewStream sender params) env s id s') :
    s'.creations = s.creations ++ [(id, sender)] := by
  rcases (runs_persistNewStream sender).mp run with ⟨_, _, _, _, _, rfl⟩
  simp [State.creations, State.withIndex, State.persisted, createdEvent, newStream]

theorem persistEach_logged (run : Runs (persistEach sender streams) env s ids s') :
    s'.creations = s.creations ++ creationsOf sender ids := by
  induction streams generalizing s ids with
  | nil =>
      rcases runs_pure.mp run with ⟨rfl, rfl⟩
      exact (List.append_nil _).symm
  | cons params rest ih =>
      rcases runs_persistEach_cons.mp run with ⟨id, middle, others, persisted, each, rfl⟩
      rw [ih each, persistNewStream_logged persisted, List.append_assoc]
      rfl

theorem createStreams_logged (run : Runs (createStreams sender streams) env s ids s') :
    s'.creations = s.creations ++ creationsOf sender ids := by
  rcases runs_createStreams.mp run with ⟨_, ⟨rfl, rfl, rfl⟩ | ⟨_, _, _, _, _, each⟩⟩
  · exact (List.append_nil _).symm
  · have logged := persistEach_logged each
    exact logged

theorem createStream_logged (run : Runs (createStream sender params) env s id s') :
    s'.creations = s.creations ++ creationsOf sender [id] := by
  rcases runs_createStream.mp run with ⟨_, _, _, _, persisted⟩
  have logged := persistNewStream_logged persisted
  exact logged

theorem createStream_stored (run : Runs (createStream sender params) env s id s') :
    StoredAs s' sender [id] [params] := by
  rcases runs_createStream.mp run with ⟨_, _, _, _, persisted⟩
  rcases (runs_persistNewStream sender).mp persisted with ⟨_, _, _, _, _, rfl⟩
  exact .cons (Function.update_self _ _ _) .nil

/-- The log of creations only grows. -/
theorem Call.log_grows {call : Call} (run : Runs call.run env s () s') :
    s.creations <+: s'.creations := by
  by_cases creates : .creations ∈ call.writes
  · rcases Call.createsBy creates run (.contract 0) with ⟨_, created⟩
    exact created.log_grows
  · have same := (call.onlyWrites run).creations creates
    exact same ▸ List.prefix_rfl

end Wallie.StreamContract

namespace Wallie.Factory

open Fallible
open StreamContract (Address CreateStreamParams)

variable {env : Env} {s s' : State} {call : Call}

/-- The stream contract grants the request that a call forwards. -/
inductive Grants (env : Env) (streamContract : Address) : Call → Creation → Prop where
  | single {sender : Address} {params : CreateStreamParams} {streamId : ℕ}
      (replied : env.createStream streamContract sender params = .created streamId) :
      Grants env streamContract (.createStream sender params)
        { streamContract, sender, streams := [params], streamIds := [streamId] }
  | batch {sender : Address} {streams : List CreateStreamParams} {streamIds : List ℕ}
      (nonempty : streams ≠ [])
      (replied : env.createStreams streamContract sender streams = some streamIds) :
      Grants env streamContract (.createStreams sender streams)
        { streamContract, sender, streams, streamIds }

/-- A call forwards nothing and lists nothing, or it lists the request that was granted. -/
theorem Call.grants (run : Runs call.run env s () s') :
    (call.request = none ∧ s'.creations = s.creations) ∨
      ∃ creation policy, s.policy = some policy ∧ policy.Permits s.allowlist creation ∧
        Grants env policy.streamContract call creation ∧
        s'.creations = s.creations ++ [creation] := by
  cases call with
  | init _ _ _ _ | setAdmin _ | setStreamContract _ | setAllowlist _ _ | setCap _
  | setMinDuration _ | setBatchCapEnforcement _ | setRateBounds _ _ | setFactoryPaused _ =>
      left
      have effect := Call.effect run
      cases effect
      exact ⟨rfl, rfl⟩
  | createStream sender params =>
      right
      simp only [Call.run, runs_bind, runs_pure] at run
      rcases run with ⟨streamId, _, run, _, rfl⟩
      rcases runs_createStream.mp run with ⟨policy, loaded, unpaused, admitted, _, replied, rfl⟩
      refine ⟨_, policy, loaded, ⟨rfl, unpaused, ?_, fun _ => ?_⟩, .single replied, rfl⟩
      · intro other member
        rw [List.mem_singleton.mp member]
        exact admitted
      · rw [StreamContract.totalDeposit_cons, StreamContract.totalDeposit_nil, add_zero]
        exact admitted.capped
  | createStreams sender streams =>
      simp only [Call.run, runs_bind, runs_pure] at run
      rcases run with ⟨streamIds, _, run, _, rfl⟩
      rcases runs_createStreams.mp run with ⟨policy, loaded, _, unpaused, admitted, sums,
        ⟨rfl, _, rfl⟩ | ⟨nonempty, replied, rfl⟩⟩
      · exact Or.inl ⟨rfl, rfl⟩
      · refine Or.inr ⟨_, policy, loaded, ⟨rfl, unpaused, admitted, fun enforced => ?_⟩,
          .batch nonempty replied, rfl⟩
        have total := (sums enforced).total_le nonempty
        rwa [zero_add] at total

/-- The contract of the policy is the one that is stored. -/
theorem streamContract_of_policy {policy : FactoryPolicy} (loaded : s.policy = some policy) :
    s.streamContract = some policy.streamContract := by
  simp only [State.policy, Option.bind_eq_bind, Option.bind_eq_some_iff, Option.pure_def,
    Option.some.injEq] at loaded
  rcases loaded with ⟨streamContract, stored, _, _, _, _, _, _, rfl⟩
  exact stored

end Wallie.Factory

namespace Wallie.Deployment

open Fallible
open StreamContract (Address StoredAs creationsOf)

variable {contracts : Contracts} {tx : Transaction contracts} {auth : Address → Bool} {now : ℕ}
  {s s' : State} {past : List (State × Input contracts)}

/-- What a call of the factory lists: nothing on the stream contract, or streams that were created
there by this call. -/
inductive Lists (contracts : Contracts) (s s' : State) : Prop where
  | nothing (factory : s'.factory.creations = s.factory.creations)
      (stream : s.stream.creations <+: s'.stream.creations)
  | elsewhere {creation : Factory.Creation}
      (other : creation.streamContract ≠ contracts.stream)
      (factory : s'.factory.creations = s.factory.creations ++ [creation])
      (stream : s'.stream = s.stream)
  | created {creation : Factory.Creation} {policy : Factory.FactoryPolicy}
      (here : creation.streamContract = contracts.stream)
      (loaded : s.factory.policy = some policy)
      (permits : policy.Permits s.factory.allowlist creation)
      (factory : s'.factory.creations = s.factory.creations ++ [creation])
      (stream : s'.stream.creations =
        s.stream.creations ++ creationsOf creation.sender creation.streamIds)
      (stored : StoredAs s'.stream creation.sender creation.streamIds creation.streams)

/-- What the factory was told is what the stream contract did. -/
theorem lists_of_creates {call : Factory.Call} {creation : Factory.Creation}
    {policy : Factory.FactoryPolicy} {request : StreamContract.Call}
    {factory : Factory.State} {stream : StreamContract.State}
    (reserves : (s.stream.book contracts.stream).Reserves)
    (loaded : s.factory.policy = some policy)
    (permits : policy.Permits s.factory.allowlist creation)
    (grants : Factory.Grants (s.factoryEnv tx auth) policy.streamContract call creation)
    (added : factory.creations = s.factory.creations ++ [creation])
    (asked : call.request = some request) (here : policy.streamContract = contracts.stream)
    (granted : Runs request.run (tx.streamEnv (tx.calledBy contracts.factory)) s.stream () stream) :
    Lists contracts s { s with factory, stream } := by
  have target : creation.streamContract = contracts.stream := permits.target.trans here
  cases grants with
  | @single sender params streamId replied =>
      cases asked
      rcases StreamContract.runs_effect.mp granted with ⟨created, run⟩
      simp only [State.factoryEnv, if_pos here, State.replyToStream] at replied
      have same : created = streamId := by
        rw [Runs] at run
        rw [run] at replied
        exact Factory.Reply.created.inj replied
      subst same
      exact .created target loaded permits added (StreamContract.createStream_logged run)
        (StreamContract.createStream_stored run)
  | @batch sender streams streamIds nonempty replied =>
      simp only [Factory.Call.request, if_neg nonempty, Option.some.injEq] at asked
      subst asked
      rcases StreamContract.runs_effect.mp granted with ⟨created, run⟩
      simp only [State.factoryEnv, if_pos here, State.replyToStreams] at replied
      have same : created = streamIds := by
        rw [Runs] at run
        rw [run] at replied
        exact Option.some.inj replied
      subst same
      exact .created target loaded permits added (StreamContract.createStreams_logged run)
        (StreamContract.createStreams_ids reserves run).2

theorem FactoryStep.lists {call : Factory.Call} (did : FactoryStep tx auth s call s')
    (reserves : (s.stream.book contracts.stream).Reserves) : Lists contracts s s' := by
  cases did with
  | alone run unasked =>
      rcases Factory.Call.grants run with ⟨_, same⟩ |
        ⟨creation, policy, loaded, permits, grants, added⟩
      · exact .nothing same List.prefix_rfl
      · refine .elsewhere ?_ added rfl
        intro here
        have stored := Factory.streamContract_of_policy loaded
        rw [← permits.target, here] at stored
        cases grants with
        | single _ => exact unasked _ rfl stored
        | batch nonempty _ => exact unasked _ (if_neg nonempty) stored
  | creates run asked here granted =>
      rcases Factory.Call.grants run with ⟨unasked, _⟩ |
        ⟨creation, policy, loaded, permits, grants, added⟩
      · rw [unasked] at asked
        cases asked
      · have stored := Factory.streamContract_of_policy loaded
        rw [here, Option.some.injEq] at stored
        exact lists_of_creates reserves loaded permits grants added asked stored.symm granted

theorem Step.lists {call : Call} (step : Step tx s call s')
    (reserves : (s.stream.book contracts.stream).Reserves) : Lists contracts s s' := by
  cases step with
  | stream run => exact .nothing rfl (StreamContract.Call.log_grows run)
  | factory did => exact did.lists reserves
  | governance _ _ => exact .nothing rfl List.prefix_rfl
  | onStream _ _ _ _ _ changed => exact .nothing rfl (StreamContract.Call.log_grows changed)
  | onFactory _ _ _ _ asked changed =>
      rcases Factory.Call.grants changed with ⟨_, same⟩ | ⟨_, _, _, _, grants, _⟩
      · exact .nothing same List.prefix_rfl
      · have unasked := request_of_factoryCall asked
        cases grants with
        | single _ => cases unasked
        | batch nonempty _ =>
            rw [Factory.Call.request, if_neg nonempty] at unasked
            cases unasked

/-! ## Runs -/

/-- The streams that the factory lists on the stream contract, with their senders. -/
def State.listed (contracts : Contracts) (s : State) : List (ℕ × Address) :=
  (s.factory.creations.filter fun creation => creation.streamContract = contracts.stream).flatMap
    fun creation => creationsOf creation.sender creation.streamIds

/-- What the factory lists and what the stream contract has agree. -/
structure State.Linked (contracts : Contracts) (past : List (State × Input contracts)) (s : State) :
    Prop where
  sublist : (s.listed contracts).Sublist s.stream.creations
  /-- Every request was granted in a transaction of the run, under the policy that it found. -/
  granted : ∀ creation ∈ s.factory.creations, creation.streamContract = contracts.stream →
    ∃ found invocation policy, (found, Input.invoke invocation) ∈ past ∧
      found.factory.policy = some policy ∧ policy.Permits found.factory.allowlist creation ∧
      StoredAs (invocation.next found).stream creation.sender creation.streamIds creation.streams
  kept : ∀ creation ∈ s.factory.creations, creation.streamContract = contracts.stream →
    ∀ entry ∈ creation.streamIds.zip creation.streams, ∀ stream,
      s.stream.streams entry.1 = some stream →
      stream.fixedTerms =
        (StreamContract.newStream entry.1 creation.sender entry.2).fixedTerms

theorem mem_listed {creation : Factory.Creation} {id : ℕ} (member : creation ∈ s.factory.creations)
    (here : creation.streamContract = contracts.stream) (listed : id ∈ creation.streamIds) :
    (id, creation.sender) ∈ s.listed contracts :=
  List.mem_flatMap.mpr ⟨creation, List.mem_filter.mpr ⟨member, decide_eq_true here⟩,
    List.mem_map.mpr ⟨id, listed, rfl⟩⟩

theorem listed_append {factory : Factory.State} {creation : Factory.Creation}
    (added : factory.creations = s.factory.creations ++ [creation]) (same : s'.factory = factory) :
    s'.listed contracts = s.listed contracts ++
      if creation.streamContract = contracts.stream then
        creationsOf creation.sender creation.streamIds else [] := by
  rw [State.listed, same, added, List.filter_append, List.flatMap_append]
  congr 1
  by_cases here : creation.streamContract = contracts.stream
  · simp [here]
  · simp [here]

theorem Initial.linked {instant : ℕ} (isInitial : Initial contracts instant s) :
    s.Linked contracts [] where
  sublist := by
    have none_listed : s.listed contracts = [] := by
      rw [State.listed, List.flatMap_eq_nil_iff]
      intro creation member
      rcases List.mem_filter.mp member with ⟨member, here⟩
      exact absurd (of_decide_eq_true here) (isInitial.uncreated creation member)
    rw [none_listed]
    exact List.nil_sublist _
  granted := fun creation member here => absurd here (isInitial.uncreated creation member)
  kept := fun creation member here => absurd here (isInitial.uncreated creation member)

theorem Reachable.stream (reached : Reachable contracts now s) :
    StreamContract.Reachable contracts.stream StreamContract.anyCall now s.stream :=
  (streamPart contracts).reachable reached

namespace State.Linked

variable {input : Input contracts}

/-- The streams listed so far keep their terms in a step. -/
theorem older (linked : s.Linked contracts past) (reached : Reachable contracts now s)
    (order : now ≤ input.clock) (moved : input.Steps s s') {creation : Factory.Creation}
    (member : creation ∈ s.factory.creations) (here : creation.streamContract = contracts.stream)
    {entry : ℕ × StreamContract.CreateStreamParams}
    (listed : entry ∈ creation.streamIds.zip creation.streams) {stream' : StreamContract.Stream}
    (stored' : s'.stream.streams entry.1 = some stream') :
    stream'.fixedTerms =
      (StreamContract.newStream entry.1 creation.sender entry.2).fixedTerms := by
  have kept := linked.kept creation member here entry listed
  rcases (streamPart contracts).step s input s' trivial moved with same | ⟨made, clock, _, step⟩
  · change s'.stream = s.stream at same
    rw [same] at stored'
    exact kept stream' stored'
  · have reached' : StreamContract.Reachable contracts.stream StreamContract.anyCall now s.stream :=
      Reachable.stream reached
    have created := linked.sublist.subset
      (mem_listed member here (List.of_mem_zip (a := entry.1) (b := entry.2) listed).1)
    have used := reached'.registrySound.used _ created
    have order' : now ≤ made.clock := by
      change made.clock = input.clock at clock
      rw [clock]
      exact order
    rcases reached'.fixedTerms_step order' step used stored' with ⟨stream, stored, same⟩
    exact same.trans (kept stream stored)

/-- What was granted before stays granted when the past grows. -/
theorem earlier (linked : s.Linked contracts past) (latest : State × Input contracts)
    {creation : Factory.Creation} (member : creation ∈ s.factory.creations)
    (here : creation.streamContract = contracts.stream) :
    ∃ found invocation policy, (found, Input.invoke invocation) ∈ latest :: past ∧
      found.factory.policy = some policy ∧ policy.Permits found.factory.allowlist creation ∧
      StoredAs (invocation.next found).stream creation.sender creation.streamIds
        creation.streams := by
  rcases linked.granted creation member here with ⟨found, invocation, policy, before, rest⟩
  exact ⟨found, invocation, policy, List.mem_cons_of_mem _ before, rest⟩

/-- A step that lists nothing new on the stream contract. -/
theorem unlisted (linked : s.Linked contracts past) (reached : Reachable contracts now s)
    (order : now ≤ input.clock) (moved : input.Steps s s')
    (stream : s.stream.creations <+: s'.stream.creations)
    (factory : ∀ creation ∈ s'.factory.creations, creation.streamContract = contracts.stream →
      creation ∈ s.factory.creations)
    (same : s'.listed contracts = s.listed contracts) :
    s'.Linked contracts ((s, input) :: past) where
  sublist := by
    rw [same]
    exact linked.sublist.trans stream.sublist
  granted := fun creation member here => linked.earlier _ (factory creation member here) here
  kept := fun creation member here _ listed _ stored' =>
    linked.older reached order moved (factory creation member here) here listed stored'

/-- A step keeps the agreement. -/
theorem next (linked : s.Linked contracts past) (reached : Reachable contracts now s)
    (invocation : Invocation contracts) (order : now ≤ invocation.tx.timestamp)
    (lists : Lists contracts s (invocation.next s)) :
    (invocation.next s).Linked contracts ((s, .invoke invocation) :: past) := by
  have order : now ≤ (Input.invoke invocation).clock := order
  have moved : (Input.invoke invocation).Steps s (invocation.next s) := rfl
  cases lists with
  | nothing factory stream =>
      refine linked.unlisted reached order moved stream (fun creation member _ => ?_) ?_
      · rwa [factory] at member
      · rw [State.listed, factory]
        rfl
  | @elsewhere creation other factory stream =>
      refine linked.unlisted reached order moved ?_ (fun listed member here => ?_) ?_
      · exact stream ▸ List.prefix_rfl
      · rw [factory, List.mem_append, List.mem_singleton] at member
        rcases member with member | rfl
        · exact member
        · exact absurd here other
      · rw [listed_append factory rfl, if_neg other, List.append_nil]
  | @created creation policy here loaded permits factory stream stored =>
      have cases_of : ∀ listed ∈ (invocation.next s).factory.creations,
          listed ∈ s.factory.creations ∨ listed = creation := by
        intro listed member
        rw [factory, List.mem_append, List.mem_singleton] at member
        exact member
      refine ⟨?_, fun listed member here' => ?_, fun listed member here' entry zipped record
        stored' => ?_⟩
      · rw [listed_append factory rfl, if_pos here, stream]
        exact linked.sublist.append (List.Sublist.refl _)
      · rcases cases_of listed member with before | rfl
        · exact linked.earlier _ before here'
        · exact ⟨s, invocation, policy, List.mem_cons_self, loaded, permits, stored⟩
      · rcases cases_of listed member with before | rfl
        · exact linked.older reached order moved before here' zipped stored'
        · have new := (List.forall₂_iff_zip.mp stored).2 zipped
          rw [new, Option.some.injEq] at stored'
          rw [← stored']
          rfl

end State.Linked

theorem Recorded.linked (recorded : Recorded contracts past now s) : s.Linked contracts past := by
  induction recorded with
  | start isInitial => exact isInitial.linked
  | tick _ _ ih => exact ih
  | @move past now s s' input recorded order _ moved ih =>
      have reached : Reachable contracts now s := ClockedSystem.Recorded.reachable recorded
      cases input with
      | invoke invocation =>
          change s' = invocation.next s at moved
          subst moved
          refine ih.next reached invocation order ?_
          rcases invocation.next_cases s with step | ⟨_, failed⟩
          · have formed := (Reachable.stream reached).book_wellFormed
            exact step.lists formed.reserves
          · rw [failed]
            exact .nothing rfl List.prefix_rfl
      | token activity =>
          rcases moved with ⟨grows, rfl⟩
          have moved : (Input.token activity).Steps s { s with
              stream := { s.stream with
                balances := activity.balances, allowances := activity.allowances } } :=
            ⟨grows, rfl⟩
          exact ih.unlisted reached order moved List.prefix_rfl (fun _ member _ => member) rfl

/-- In every run of the three contracts: the streams that the factory lists on the stream contract
are, in this order, among those the stream contract created, each for the sender of the request,
and none twice. Each request was granted in a transaction that found the factory with a policy and
an allowlist that permit it, and that left the streams of the request stored on its terms; a
listed stream that is stored still has the sender, the start, the cliff, the kind, the memo and
the smallest payment that were asked for. -/
theorem factory_streams_created (recorded : Recorded contracts past now s) :
    (s.listed contracts).Sublist s.stream.creations ∧
      ((s.listed contracts).map Prod.fst).Nodup ∧
      ∀ creation ∈ s.factory.creations, creation.streamContract = contracts.stream →
        (∃ found invocation policy, (found, Input.invoke invocation) ∈ past ∧
          found.factory.policy = some policy ∧
          policy.Permits found.factory.allowlist creation ∧
          StoredAs (invocation.next found).stream creation.sender creation.streamIds
            creation.streams) ∧
        ∀ entry ∈ creation.streamIds.zip creation.streams, ∀ stream,
          s.stream.streams entry.1 = some stream →
          stream.fixedTerms =
            (StreamContract.newStream entry.1 creation.sender entry.2).fixedTerms := by
  have linked : s.Linked contracts past := Recorded.linked recorded
  have reached : Reachable contracts now s := ClockedSystem.Recorded.reachable recorded
  have distinct := (Reachable.stream reached).registrySound.distinct
  exact ⟨linked.sublist, distinct.sublist (linked.sublist.map _), fun creation member here =>
    ⟨linked.granted creation member here, linked.kept creation member here⟩⟩

/-- Of two streams the factory lists the one that was created through it. -/
theorem factory_streams_created_streaming :
    let s := Script.run Sample.streaming Sample.genesis
    s.stream.creations = [(0, StreamContract.Sample.sender), (1, StreamContract.Sample.sender)] ∧
      s.listed Sample.addresses = [(0, StreamContract.Sample.sender)] ∧
      ((s.listed Sample.addresses).map Prod.fst).Nodup ∧
      (s.listed Sample.addresses).Sublist s.stream.creations := by
  intro s
  have recorded := Script.recorded_run Sample.ordered_streaming (.start Sample.initial_genesis)
  rcases factory_streams_created recorded with ⟨sublist, distinct, _⟩
  exact ⟨by decide +kernel, by decide +kernel, distinct, sublist⟩

end Wallie.Deployment
