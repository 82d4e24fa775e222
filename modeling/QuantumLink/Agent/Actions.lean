import QuantumLink.Foundation.Run
import QuantumLink.Foundation.Table

/-! # Reversible agent actions

`MvpActionExecutor` keeps a state for each target and, for each target, one state to go back to.
`AgentRuntime` applies a plan that its policy and an approval allow, and rolls it back in reverse
order. Of the audit log only that each action is written to it matters here, and it is left out.
-/

namespace QuantumLink.Agent

open List

inductive Capability where
  | inspect
  | diagnose
  | retryCandidateGathering
  | rotateStalePeerRecord
  | clearExpiredDiagnosticCache
  | trustPeer
  | changeRoutePolicy
  | changeDnsPolicy
  | changeRelayPolicy
  | exportDiagnostics
  | clearQuarantine
  | unknown (name : String)
deriving DecidableEq

structure PlannedAction where
  capability : Capability
  target : String
  expectedState : String

structure ActionResult where
  success : Bool
  actualState : String
  rollbackStatus : Option String

structure MvpActionExecutor where
  states : Table String String
  previous : Table String String

namespace MvpActionExecutor

variable (self : MvpActionExecutor)

def state (target : String) : Option String := self.states.lookup target

def supported : Capability → Bool
  | .retryCandidateGathering | .rotateStalePeerRecord | .clearExpiredDiagnosticCache => true
  | _ => false

variable (action : PlannedAction)

def apply : ActionResult × MvpActionExecutor :=
  if supported action.capability then
    let old := (self.states.lookup action.target).getD "initial"
    (⟨true, action.expectedState, some "available"⟩,
      ⟨self.states.insert action.target action.expectedState,
        self.previous.insert action.target old⟩)
  else (⟨false, "unchanged", none⟩, self)

def rollback :
    ActionResult × MvpActionExecutor :=
  match self.previous.lookup action.target with
  | some old =>
    (⟨true, old, some "completed"⟩,
      ⟨self.states.insert action.target old, self.previous.erase action.target⟩)
  | none => (⟨false, "unchanged", some "not_available"⟩, self)

end MvpActionExecutor

inductive PolicyOutcome where
  | allow
  | deny
  | approvalRequired
  | forbidden
deriving DecidableEq

structure AgentPolicy where
  version : String
  allowRelayFallback : Bool
  allowRawDiagnosticsExport : Bool
  preapprovedLowRiskActions : Bool

def AgentPolicy.evaluate (self : AgentPolicy) : Capability → PolicyOutcome
  | .unknown _ => .forbidden
  | .inspect | .diagnose => .allow
  | .retryCandidateGathering | .rotateStalePeerRecord | .clearExpiredDiagnosticCache =>
    if self.preapprovedLowRiskActions then .allow else .approvalRequired
  | .exportDiagnostics => if self.allowRawDiagnosticsExport then .approvalRequired else .forbidden
  | .changeRelayPolicy => if self.allowRelayFallback then .approvalRequired else .forbidden
  | .trustPeer | .changeRoutePolicy | .changeDnsPolicy | .clearQuarantine => .approvalRequired

structure ActionPlan where
  version : String
  planId : Nat
  requestId : Nat
  policyVersion : String
  actions : List PlannedAction

structure ApprovalRecord where
  planId : Nat
  planDigest : String
  policyVersion : String
  approvedAtUnix : Nat
  expiresAtUnix : Nat
  scope : List Capability

variable (digest : ActionPlan → String)

def ApprovalRecord.authorizes (self : ApprovalRecord) (plan : ActionPlan) (now : Nat) : Bool :=
  self.planId = plan.planId && self.policyVersion = plan.policyVersion &&
    self.approvedAtUnix ≤ now && now < self.expiresAtUnix && digest plan = self.planDigest &&
    plan.actions.all fun action => action.capability ∈ self.scope

structure AgentRuntime where
  policy : AgentPolicy
  executor : MvpActionExecutor

def contractVersion : String := "v1"

namespace AgentRuntime

open MvpActionExecutor

/-- The results of the actions come with the runtime in which they were all executed. -/
def apply (digest : ActionPlan → String) (self : AgentRuntime) (requestId : Nat) (plan : ActionPlan)
    (approval : Option ApprovalRecord) (now : Nat) :
    Except String (List ActionResult × AgentRuntime) :=
  let decisions := plan.actions.map fun action => self.policy.evaluate action.capability
  if plan.version ≠ contractVersion then .error ("unsupported contract version: " ++ plan.version)
  else if plan.requestId ≠ requestId then .error "plan request mismatch"
  else if plan.policyVersion ≠ self.policy.version then .error "policy version mismatch"
  else if decisions.any fun outcome => outcome = .deny || outcome = .forbidden then
    .error "policy denied action plan"
  else if decisions.any (· = .approvalRequired) &&
      !(approval.any fun record => record.authorizes digest plan now) then
    .error "valid approval required"
  else .ok ((trace MvpActionExecutor.apply self.executor plan.actions).map Prod.snd,
    { self with executor := run MvpActionExecutor.apply self.executor plan.actions })

def rollback (self : AgentRuntime) (plan : ActionPlan) : List ActionResult × AgentRuntime :=
  ((trace MvpActionExecutor.rollback self.executor plan.actions.reverse).map Prod.snd,
    { self with executor := run MvpActionExecutor.rollback self.executor plan.actions.reverse })

end AgentRuntime

namespace MvpActionExecutor

/-- The supported actions on a target, the last one first. -/
def applied (actions : List PlannedAction) (target : String) : List PlannedAction :=
  (actions.filter fun action => supported action.capability && action.target = target).reverse

/-- The state a target can go back to after the actions: the one before the last supported action
on it, if there is one. -/
def kept (self : MvpActionExecutor) (actions : List PlannedAction) (target : String) :
    Option String :=
  match applied actions target with
  | [] => self.previous.lookup target
  | [_] => some ((self.state target).getD "initial")
  | _ :: action :: _ => some action.expectedState

variable (s : MvpActionExecutor)

variable (a : List PlannedAction)

theorem lookup_run_apply (target : String) : (run apply s a).state target =
        ((applied a target).head?.map PlannedAction.expectedState).or (s.state target) ∧
      (run apply s a).previous.lookup target = s.kept a target := by
  induction a using reverseRecOn with
  | nil => exact ⟨rfl, rfl⟩
  | append_singleton a ac ih =>
    rw [run_concat]
    by_cases hs : supported ac.capability = true ∧ ac.target = target
    · obtain ⟨hs, rfl⟩ := hs
      have ha : applied (a ++ [ac]) ac.target = ac :: applied a ac.target := by simp [applied, hs]
      have hl := ih.1
      rw [kept, ha]
      simp only [state, apply, hs, if_true, Finmap.lookup_insert] at hl ⊢
      rw [hl]
      refine ⟨rfl, ?_⟩
      cases applied a ac.target <;> rfl
    · have ha : applied (a ++ [ac]) target = applied a target := by
        simpa [applied] using hs
      rw [kept, ha, ← kept, ← ih.1, ← ih.2]
      rw [apply]
      split_ifs with hc
      · have ht : target ≠ ac.target := fun ht => hs ⟨hc, ht.symm⟩
        exact ⟨Finmap.lookup_insert_of_ne _ ht, Finmap.lookup_insert_of_ne _ ht⟩
      · exact ⟨rfl, rfl⟩

theorem applied_eq_nil {a : List PlannedAction}
    (h : target ∉ a.map PlannedAction.target) : applied a target = [] := by
  rw [applied, reverse_eq_nil_iff, filter_eq_nil_iff]
  intro ac hm
  have ht : ac.target ≠ target := fun ht => h (mem_map.mpr ⟨ac, hm, ht⟩)
  simp [ht]

theorem applied_eq_nil_of_kept {s : MvpActionExecutor}
    (h : s.kept actions target = none) : applied actions target = [] := by
  unfold kept at h
  split at h
  · assumption
  · contradiction
  · contradiction

theorem state_run_rollback (target : String) : (run rollback s a).state target =
      if target ∈ a.map PlannedAction.target then
        (s.previous.lookup target).or (s.state target) else s.state target := by
  induction a generalizing s with
  | nil => rfl
  | cons ac a ih =>
    rw [run_cons, ih, rollback]
    by_cases ht : target = ac.target
    · subst ht
      cases hp : s.previous.lookup ac.target with
      | none => simp [hp]
      | some old => simp [state]
    · cases hp : s.previous.lookup ac.target with
      | none => simp [ht]
      | some old => simp [state, ht, Finmap.lookup_erase_ne ht]

end MvpActionExecutor

open MvpActionExecutor

/-- A plan that was applied is undone by its rollback exactly if every target it names keeps its
state of before, or none at all. -/
theorem rollback_restores_iff (runtime : AgentRuntime) (requestId : Nat) (plan : ActionPlan)
    (approval : Option ApprovalRecord) (now : Nat) (results : List ActionResult)
    (after : AgentRuntime)
    (happly : runtime.apply digest requestId plan approval now = .ok (results, after)) :
    (∀ target, (after.rollback plan).2.executor.state target = runtime.executor.state target) ↔
      ∀ action ∈ plan.actions, ∀ old ∈ runtime.executor.kept plan.actions action.target,
        runtime.executor.state action.target = some old := by
  have he : after.executor = run apply runtime.executor plan.actions := by
    unfold AgentRuntime.apply at happly
    dsimp only at happly
    split_ifs at happly
    rw [← (Prod.mk.inj (Except.ok.inj happly)).2]
  have hs : ∀ target, (after.rollback plan).2.executor.state target =
      if target ∈ plan.actions.map PlannedAction.target then
        (runtime.executor.kept plan.actions target).or
          (((applied plan.actions target).head?.map PlannedAction.expectedState).or
            (runtime.executor.state target))
      else runtime.executor.state target := by
    intro target
    obtain ⟨ha, hp⟩ := lookup_run_apply runtime.executor plan.actions target
    show (run rollback after.executor plan.actions.reverse).state target = _
    rw [state_run_rollback, he, hp, ha]
    by_cases ht : target ∈ plan.actions.map PlannedAction.target
    · rw [if_pos ht, if_pos (by simpa using ht)]
    · rw [if_neg ht, if_neg (by simpa using ht), applied_eq_nil ht]
      rfl
  constructor
  · intro hr action hm old ho
    have ht := hr action.target
    rw [hs, if_pos (mem_map_of_mem hm), Option.mem_def.mp ho] at ht
    exact ht.symm
  · intro hk target
    rw [hs]
    split_ifs with ht
    · obtain ⟨action, hm, rfl⟩ := mem_map.mp ht
      cases hc : runtime.executor.kept plan.actions action.target with
      | some old => exact (hk action hm old hc).symm
      | none => rw [applied_eq_nil_of_kept hc]; rfl
    · rfl

/-- One action on a target that has no state yet. -/
def firstPlan : ActionPlan :=
  ⟨contractVersion, 0, 0, "mvp-v1", [⟨.retryCandidateGathering, "agent", "retried"⟩]⟩

def preapproved : AgentRuntime := ⟨⟨"mvp-v1", true, false, true⟩, ⟨∅, ∅⟩⟩

def settled : AgentRuntime := { preapproved with executor := ⟨(∅ : Table _ _).insert "agent" "idle", ∅⟩ }

theorem firstPlan_undone :
    ∃ results after, settled.apply (fun _ => "") 0 firstPlan none 0 = .ok (results, after) ∧
      ∀ target, (after.rollback firstPlan).2.executor.state target =
        settled.executor.state target := by
  refine ⟨_, _, rfl, (rollback_restores_iff (fun _ => "") settled 0 firstPlan none 0 _ _ rfl).mpr ?_⟩
  decide

theorem rollback_invents_a_state :
    ((preapproved.apply (fun _ => "") 0 firstPlan none 0).toOption.map fun applied =>
        (applied.2.rollback firstPlan).2.executor.state "agent") = some (some "initial") ∧
      preapproved.executor.state "agent" = none := by
  decide

end QuantumLink.Agent
