import Wallie.Ledger.RunInvariant
import Wallie.Ledger.StreamRegistry
import Wallie.Lib.KeyedCount
import Wallie.StreamContract.Script

/-!
# The registry of templates

A template is kept in its record, in the list of its owner and in the number of
all templates. Owners register and delete templates in any order; the three
agree after every call, and an id stands for one template forever.
-/

namespace Wallie.StreamContract

open Fallible

variable {address owner : Address} {permitted : State → Env → Call → Prop} {env : Env}
  {s s' : State} {now later id : ℕ} {template : StreamScheduleTemplate} {done : Unit}

namespace TemplateRegistry

variable {registry registry' : TemplateRegistry}

/-- The registry after a registration. -/
def register (registry : TemplateRegistry) (template : StreamScheduleTemplate) :
    TemplateRegistry where
  streamTemplate := Function.update registry.streamTemplate template.templateId (some template)
  ownerTemplateIds := Function.update registry.ownerTemplateIds template.owner
    (registry.ownerTemplateIds template.owner ++ [template.templateId])
  activeTemplateCount := registry.activeTemplateCount + 1
  nextTemplateId := template.templateId + 1
  defined := registry.defined ++ [template]

/-- The registry after the deletion of a template. -/
def delete (registry : TemplateRegistry) (template : StreamScheduleTemplate) :
    TemplateRegistry where
  streamTemplate := Function.update registry.streamTemplate template.templateId none
  ownerTemplateIds := Function.update registry.ownerTemplateIds template.owner
    ((registry.ownerTemplateIds template.owner).erase template.templateId)
  activeTemplateCount := registry.activeTemplateCount - 1
  nextTemplateId := registry.nextTemplateId
  defined := registry.defined

/-- The ids of the stored templates. -/
def stored (registry : TemplateRegistry) : Set ℕ :=
  KeyedCount.keys (fun _ => True) registry.streamTemplate

/-- The records, the lists of the owners, the number of templates and the log of the definitions
agree. -/
structure Exact (registry : TemplateRegistry) : Prop where
  ascending : ∀ owner, (registry.ownerTemplateIds owner).Pairwise (· < ·)
  mem_iff : ∀ owner id, id ∈ registry.ownerTemplateIds owner ↔
    ∃ template, registry.streamTemplate id = some template ∧ template.owner = owner
  owner_limit : ∀ owner, (registry.ownerTemplateIds owner).length ≤ maxTemplatesPerOwner
  counted : registry.activeTemplateCount = registry.stored.ncard
  global_limit : registry.activeTemplateCount ≤ maxGlobalTemplates
  /-- Every stored template was defined under its id. -/
  logged : ∀ id template, registry.streamTemplate id = some template →
    template.templateId = id ∧ template ∈ registry.defined
  used : ∀ template ∈ registry.defined, template.templateId < registry.nextTemplateId
  distinct : (registry.defined.map StreamScheduleTemplate.templateId).Pairwise (· < ·)

namespace Exact

theorem below (exact_ : registry.Exact)
    (found : registry.streamTemplate id = some template) : id < registry.nextTemplateId := by
  rcases exact_.logged id template found with ⟨rfl, logged⟩
  exact exact_.used template logged

theorem finite_stored (exact_ : registry.Exact) : registry.stored.Finite :=
  KeyedCount.finite_keys fun _ _ => exact_.below

theorem absent (exact_ : registry.Exact) (fresh : registry.nextTemplateId ≤ id) :
    registry.streamTemplate id = none := by
  cases found : registry.streamTemplate id with
  | none => rfl
  | some template => exact absurd (exact_.below found) (not_lt.mpr fresh)

theorem register (exact_ : registry.Exact) (fresh : template.templateId = registry.nextTemplateId)
    (owner_limit :
      (registry.ownerTemplateIds template.owner).length < maxTemplatesPerOwner)
    (global_limit : registry.activeTemplateCount < maxGlobalTemplates) :
    (registry.register template).Exact where
  ascending := by
    intro owner
    rcases eq_or_ne owner template.owner with rfl | other
    · simp only [TemplateRegistry.register, Function.update_self]
      refine List.pairwise_append.mpr ⟨exact_.ascending _, List.pairwise_singleton _ _, ?_⟩
      intro id member _ new
      rcases (exact_.mem_iff _ id).mp member with ⟨old, found, _⟩
      rw [List.mem_singleton.mp new, fresh]
      exact exact_.below found
    · simpa [TemplateRegistry.register, other] using exact_.ascending owner
  mem_iff := by
    intro owner id
    have absent := exact_.absent fresh.ge
    have member := exact_.mem_iff owner id
    rcases eq_or_ne owner template.owner with rfl | other <;>
      rcases eq_or_ne id template.templateId with rfl | distinct
    · simp [TemplateRegistry.register]
    · simpa [TemplateRegistry.register, distinct] using member
    · simpa [TemplateRegistry.register, other, other.symm, absent] using member
    · simpa [TemplateRegistry.register, other, distinct] using member
  owner_limit := by
    intro owner
    rcases eq_or_ne owner template.owner with rfl | other
    · simpa [TemplateRegistry.register] using owner_limit
    · simpa [TemplateRegistry.register, other] using exact_.owner_limit owner
  counted := by
    have absent : template.templateId ∉ registry.stored :=
      KeyedCount.not_mem_keys_of_absent (exact_.absent fresh.ge)
    have entered : (registry.register template).stored.ncard = registry.stored.ncard + 1 :=
      KeyedCount.ncard_keys_update_of_enters exact_.finite_stored absent trivial
    rw [entered, ← exact_.counted, TemplateRegistry.register]
  global_limit := global_limit
  logged := by
    intro id record found
    rcases eq_or_ne id template.templateId with rfl | distinct
    · simp only [TemplateRegistry.register, Function.update_self, Option.some.injEq] at found
      subst found
      exact ⟨rfl, List.mem_append_right _ (List.mem_singleton_self _)⟩
    · simp only [TemplateRegistry.register, Function.update_of_ne distinct] at found
      rcases exact_.logged id record found with ⟨same, logged⟩
      exact ⟨same, List.mem_append_left _ logged⟩
  used := by
    intro record member
    simp only [TemplateRegistry.register]
    rcases List.mem_append.mp member with old | new
    · have below := exact_.used record old
      omega
    · rw [List.mem_singleton.mp new]
      exact Nat.lt_succ_self _
  distinct := by
    simp only [TemplateRegistry.register, List.map_append, List.map_cons, List.map_nil]
    refine List.pairwise_append.mpr ⟨exact_.distinct, List.pairwise_singleton _ _, ?_⟩
    intro id member _ new
    rcases List.mem_map.mp member with ⟨record, logged, rfl⟩
    rw [List.mem_singleton.mp new, fresh]
    exact exact_.used record logged

theorem delete (exact_ : registry.Exact)
    (found : registry.streamTemplate template.templateId = some template) :
    (registry.delete template).Exact where
  ascending := by
    intro owner
    rcases eq_or_ne owner template.owner with rfl | other
    · simpa [TemplateRegistry.delete] using (exact_.ascending _).erase template.templateId
    · simpa [TemplateRegistry.delete, other] using exact_.ascending owner
  mem_iff := by
    intro owner id
    have member := exact_.mem_iff owner id
    have nodup := (exact_.ascending owner).nodup
    rcases eq_or_ne owner template.owner with rfl | other <;>
      rcases eq_or_ne id template.templateId with rfl | distinct
    · simp [TemplateRegistry.delete, nodup.mem_erase_iff]
    · simpa [TemplateRegistry.delete, nodup.mem_erase_iff, distinct] using member
    · simpa [TemplateRegistry.delete, other, found, other.symm] using member
    · simpa [TemplateRegistry.delete, other, distinct] using member
  owner_limit := by
    intro owner
    rcases eq_or_ne owner template.owner with rfl | other
    · simp only [TemplateRegistry.delete, Function.update_self]
      exact (List.length_erase_le).trans (exact_.owner_limit _)
    · simpa [TemplateRegistry.delete, other] using exact_.owner_limit owner
  counted := by
    have left : (registry.delete template).stored.ncard + 1 = registry.stored.ncard :=
      KeyedCount.ncard_keys_update_of_leaves exact_.finite_stored ⟨template, found, trivial⟩
        (by simp)
    have counted := exact_.counted
    change registry.activeTemplateCount - 1 = _
    omega
  global_limit := (Nat.sub_le _ _).trans exact_.global_limit
  logged := by
    intro id record found
    rcases eq_or_ne id template.templateId with rfl | distinct
    · simp [TemplateRegistry.delete] at found
    · exact exact_.logged id record (by simpa [TemplateRegistry.delete, distinct] using found)
  used := exact_.used
  distinct := exact_.distinct

end Exact

/-- Ids that were used stay used, and no template comes back under such an id. -/
structure Forgets (registry registry' : TemplateRegistry) : Prop where
  next_le : registry.nextTemplateId ≤ registry'.nextTemplateId
  gone : ∀ id < registry.nextTemplateId, registry.streamTemplate id = none →
    registry'.streamTemplate id = none

namespace Forgets

theorem refl (registry : TemplateRegistry) : registry.Forgets registry :=
  ⟨le_rfl, fun _ _ gone => gone⟩

theorem trans {registry'' : TemplateRegistry} (first : registry.Forgets registry')
    (second : registry'.Forgets registry'') : registry.Forgets registry'' where
  next_le := first.next_le.trans second.next_le
  gone := fun id used gone =>
    second.gone id (used.trans_le first.next_le) (first.gone id used gone)

theorem register (fresh : template.templateId = registry.nextTemplateId) :
    registry.Forgets (registry.register template) where
  next_le := by
    simp only [TemplateRegistry.register]
    omega
  gone := by
    intro id used gone
    have other : id ≠ template.templateId := by omega
    simpa [TemplateRegistry.register, other] using gone

theorem delete (template : StreamScheduleTemplate) :
    registry.Forgets (registry.delete template) where
  next_le := le_rfl
  gone := by
    intro id used gone
    rcases eq_or_ne id template.templateId with rfl | other
    · simp [TemplateRegistry.delete]
    · simpa [TemplateRegistry.delete, other] using gone

end Forgets

end TemplateRegistry

/-! ## The two entrypoints -/

/-- What a registration checks and does. -/
theorem registers_of_registerStreamTemplate {startDelay cliffDelay duration : ℕ}
    (run : Runs (registerStreamTemplate owner startDelay cliffDelay duration) env s id s') :
    ∃ template : StreamScheduleTemplate, template.templateId = s.nextTemplateId ∧
      (s.ownerTemplateIds template.owner).length < maxTemplatesPerOwner ∧
      s.activeTemplateCount < maxGlobalTemplates ∧
      s'.templateRegistry = s.templateRegistry.register template := by
  simp only [registerStreamTemplate, validateTemplateDelays, saveStreamTemplate,
    saveOwnerTemplateIds, setNextTemplateId, setActiveTemplateCount, runs_bind, runs_requireAuth,
    runs_rejectIf, runs_ask, runs_checkedAddU64, runs_peek, runs_update, runs_plainAddU64,
    runs_publish, runs_pure, and_assoc, exists_and_left, exists_eq_left, exists_const,
    not_le] at run
  rcases run with ⟨-, -, -, -, -, -, -, owner_limit, global_limit, -, -, rfl, rfl⟩
  refine ⟨{ templateId := s.nextTemplateId, owner, startDelay, cliffDelay, duration }, rfl,
    owner_limit, global_limit, ?_⟩
  simp [State.templateRegistry, TemplateRegistry.register]

theorem runs_removeTemplateIdForOwner :
    Runs (removeTemplateIdForOwner owner id) env s done s' ↔
      ∃ position, binarySearch (s.ownerTemplateIds owner) id = .ok position ∧
        s' = { s with
          ownerTemplateIds := Function.update s.ownerTemplateIds owner
            ((s.ownerTemplateIds owner).eraseIdx position) } := by
  simp only [removeTemplateIdForOwner, runs_bind, runs_peek, and_assoc, exists_and_left,
    exists_eq_left]
  cases binarySearch (s.ownerTemplateIds owner) id with
  | ok position => simp [saveOwnerTemplateIds]
  | error _ => simp

/-- What a deletion checks and does. -/
theorem runs_deleteStreamTemplate :
    Runs (deleteStreamTemplate owner id) env s done s' ↔
      env.auth owner = true ∧ ∃ template position,
        (s.streamTemplate id = some template ∧ template.owner = owner ∧
          binarySearch (s.ownerTemplateIds owner) id = .ok position) ∧
        s' = { s with
          streamTemplate := Function.update s.streamTemplate id none
          ownerTemplateIds := Function.update s.ownerTemplateIds owner
            ((s.ownerTemplateIds owner).eraseIdx position)
          activeTemplateCount := s.activeTemplateCount - 1 } := by
  simp only [deleteStreamTemplate, saveStreamTemplate, setActiveTemplateCount, runs_bind,
    runs_requireAuth, runs_peek, runs_getOrReject, runs_rejectIf, runs_update,
    runs_removeTemplateIdForOwner, and_assoc, exists_and_left, exists_eq_left, exists_const,
    not_not]
  constructor
  · rintro ⟨authorised, template, found, owned, _, ⟨position, searched, rfl⟩, rfl⟩
    exact ⟨authorised, template, found, owned, position, searched, rfl⟩
  · rintro ⟨authorised, template, found, owned, position, searched, rfl⟩
    exact ⟨authorised, template, found, owned, _, ⟨position, searched, rfl⟩, rfl⟩

theorem TemplateRegistry.Exact.deletes (exact_ : s.templateRegistry.Exact)
    (run : Runs (deleteStreamTemplate owner id) env s done s') :
    ∃ template, s.streamTemplate template.templateId = some template ∧
      s'.templateRegistry = s.templateRegistry.delete template := by
  rcases runs_deleteStreamTemplate.mp run with
    ⟨-, template, position, ⟨found, rfl, searched⟩, rfl⟩
  rcases exact_.logged id template found with ⟨rfl, _⟩
  have ascending := exact_.ascending template.owner
  have member := (exact_.mem_iff template.owner template.templateId).mpr ⟨template, found, rfl⟩
  have placed := searched.symm.trans (binarySearch_of_mem ascending member)
  rw [Except.ok.injEq] at placed
  subst placed
  refine ⟨template, found, ?_⟩
  have erased := eraseIdx_of_mem ascending member
  simp only [State.templateRegistry] at erased
  simp [State.templateRegistry, TemplateRegistry.delete, erased]

/-- The owner of a stored template can delete it. -/
theorem TemplateRegistry.Exact.deletable (exact_ : s.templateRegistry.Exact)
    (found : s.streamTemplate id = some template) (authorised : env.auth template.owner = true) :
    (Call.deleteStreamTemplate template.owner id).Succeeds env s := by
  have member := (exact_.mem_iff template.owner id).mpr ⟨template, found, rfl⟩
  have searched := binarySearch_of_mem (exact_.ascending template.owner) member
  exact ⟨_, runs_deleteStreamTemplate.mpr
    ⟨authorised, template, _, ⟨found, rfl, searched⟩, rfl⟩⟩

/-- The calls that write the templates. -/
theorem Call.template_cases {call : Call} (writes : .templates ∈ call.writes) :
    (∃ token admin, call = .init token admin) ∨
      (∃ owner startDelay cliffDelay duration,
        call = .registerStreamTemplate owner startDelay cliffDelay duration) ∨
      ∃ owner id, call = .deleteStreamTemplate owner id := by
  cases call <;> simp_all [Call.writes]

/-- What a call does to the registry. -/
theorem TemplateRegistry.Exact.runs {call : Call} (exact_ : s.templateRegistry.Exact)
    (initialised : s.config.isSome = true) (run : Runs call.run env s () s') :
    s'.templateRegistry.Exact ∧ s.templateRegistry.Forgets s'.templateRegistry := by
  by_cases writes : .templates ∈ call.writes
  · rcases Call.template_cases writes with
      ⟨token, admin, rfl⟩ | ⟨owner, startDelay, cliffDelay, duration, rfl⟩ | ⟨owner, id, rfl⟩
    · exact absurd run (not_runs_init initialised)
    · rcases runs_effect.mp run with ⟨id, run⟩
      rcases registers_of_registerStreamTemplate run with
        ⟨template, fresh, owner_limit, global_limit, same⟩
      rw [same]
      exact ⟨exact_.register fresh owner_limit global_limit, .register fresh⟩
    · rcases exact_.deletes run with ⟨template, found, same⟩
      rw [same]
      exact ⟨exact_.delete found, .delete template⟩
  · have same := (call.onlyWrites run).templateRegistry writes
    rw [same]
    exact ⟨exact_, .refl _⟩

/-! ## Runs -/

theorem Reachable.templates_exact (reached : Reachable address permitted now s) :
    s.templateRegistry.Exact := by
  refine reached.runs_invariant (fun s => s.templateRegistry.Exact) ?_ ?_ ?_
  · intro instant s fresh
    rcases fresh.eq_deployed with ⟨balances, allowances, config, rfl⟩
    constructor <;> simp [State.templateRegistry, State.deployed, TemplateRegistry.stored,
      KeyedCount.keys]
  · exact fun _ _ exact_ => exact_
  · intro instant s invocation s' reached _ _ run exact_
    exact (exact_.runs reached.book_wellFormed.initialised run).1

/-- A run goes on without bringing back a template. -/
theorem Reachable.templates_forget (reached : Reachable address permitted now s)
    (continued : (system address).Continues (onCalls permitted) now s later s') :
    s.templateRegistry.Forgets s'.templateRegistry := by
  induction continued with
  | here => exact .refl _
  | tick _ _ ih => exact ih
  | @move middle current next input continued order allowed moved ih =>
      have reached' : Reachable address permitted middle current := continued.reachable reached
      refine ih.trans ?_
      cases input with
      | token activity =>
          rcases moved with ⟨_, rfl⟩
          exact .refl _
      | invoke invocation =>
          rcases Input.Steps.invoke_cases moved with run | ⟨_, rfl⟩
          · exact (reached'.templates_exact.runs reached'.book_wellFormed.initialised run).2
          · exact .refl _

/-- In every reachable state the ids listed for an owner are those of its templates, ascending and
within the limit, the number of templates is counted, each definition had an id above all earlier
ones, an id that was used and is no longer stored stays so, and an owner can delete its template. -/
theorem template_registry_exact (reached : Reachable address anyCall now s) :
    (∀ owner, (s.ownerTemplateIds owner).Pairwise (· < ·) ∧
      (∀ id, id ∈ s.ownerTemplateIds owner ↔
        ∃ template, s.streamTemplate id = some template ∧ template.owner = owner) ∧
      (s.ownerTemplateIds owner).length ≤ maxTemplatesPerOwner) ∧
    ({id | ∃ template, s.streamTemplate id = some template}.Finite ∧
      s.activeTemplateCount = {id | ∃ template, s.streamTemplate id = some template}.ncard ∧
      s.activeTemplateCount ≤ maxGlobalTemplates) ∧
    (((s.events.filterMap Event.template).map StreamScheduleTemplate.templateId).Pairwise
        (· < ·) ∧
      (∀ id template, s.streamTemplate id = some template →
        template.templateId = id ∧ template ∈ s.events.filterMap Event.template) ∧
      ∀ template ∈ s.events.filterMap Event.template,
        s.streamTemplate template.templateId = none → ∀ later s',
          (system address).Continues (onCalls anyCall) now s later s' →
            s'.streamTemplate template.templateId = none) ∧
    ∀ env id template, s.streamTemplate id = some template → env.auth template.owner = true →
      (Call.deleteStreamTemplate template.owner id).Succeeds env s := by
  have exact_ := reached.templates_exact
  have stored : s.templateRegistry.stored =
      {id | ∃ template, s.streamTemplate id = some template} := by
    simp [TemplateRegistry.stored, KeyedCount.keys, State.templateRegistry]
  refine ⟨?_, ⟨?_, ?_, exact_.global_limit⟩, ⟨exact_.distinct, exact_.logged, ?_⟩, ?_⟩
  · exact fun owner => ⟨exact_.ascending owner, exact_.mem_iff owner, exact_.owner_limit owner⟩
  · exact stored ▸ exact_.finite_stored
  · exact stored ▸ exact_.counted
  · intro template logged gone later s' continued
    exact (reached.templates_forget continued).gone _ (exact_.used template logged) gone
  · exact fun env id template found authorised => exact_.deletable found authorised

/-- Two templates are registered, the first is deleted, and a third is registered. -/
def Sample.templates : List (Invocation Sample.contract) :=
  [Sample.invocation 1 0 0 (.registerStreamTemplate Sample.sender 0 0 100) (Eq.refl true),
    Sample.invocation 1 0 0 (.registerStreamTemplate Sample.sender 10 20 100) (Eq.refl true),
    Sample.invocation 1 0 0 (.deleteStreamTemplate Sample.sender 0) (Eq.refl true),
    Sample.invocation 1 0 0 (.registerStreamTemplate Sample.sender 0 0 50) (Eq.refl true)]

theorem template_registry_exact_deleted :
    let s := Script.run Sample.templates Sample.genesis
    s.ownerTemplateIds Sample.sender = [1, 2] ∧ s.activeTemplateCount = 2 ∧
      s.activeTemplateCount = {id | ∃ template, s.streamTemplate id = some template}.ncard := by
  intro s
  have ordered : Script.Ordered Sample.templates 0 :=
    ⟨le_rfl, le_rfl, le_rfl, le_rfl, trivial⟩
  have reached : Reachable Sample.contract anyCall 0 s :=
    Sample.reachable_run ordered
  exact ⟨by decide, by decide, (template_registry_exact reached).2.1.2.1⟩

end Wallie.StreamContract
