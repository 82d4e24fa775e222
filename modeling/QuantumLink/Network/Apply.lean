import QuantumLink.Foundation.Triple
import QuantumLink.Network.Host

/-! # Applying and undoing a plan

`apply_with_rollback` and `deactivate` of `qlink-linux`, on a machine whose tools and files may
fail at any call and which may stop at any call. A call that fails changes nothing. An undone
operation whose object is gone counts as undone, as in `is_absent_network_revert_error`.
-/

namespace QuantumLink.Network

open Op LinuxNetworkPlan NftablesPlan
open List

def networkOwnershipSchemaVersion : UInt8 := 1

structure NetworkOwnershipRecord where
  schemaVersion : UInt8
  interfaceName : String
  routeMode : RouteMode
  protectedCidr : String
  fwmark : UInt32
  routeTable : UInt32
  nftFamily : String
  nftTable : String
  activatedAtUnixSeconds : UInt64

namespace NetworkOwnershipRecord

def fromConfig (config : DaemonConfig) (now : UInt64) : NetworkOwnershipRecord where
  schemaVersion := networkOwnershipSchemaVersion
  interfaceName := config.interfaceName
  routeMode := config.routeMode
  protectedCidr := protectedCidrForRouteMode config
  fwmark := qlinkFwmark
  routeTable := qlinkRouteTable
  nftFamily := Network.nftFamily
  nftTable := Network.nftTable
  activatedAtUnixSeconds := now

def runtimePlan (record : NetworkOwnershipRecord) : LinuxRuntimePlan where
  network := .fromOperations [.createTun record.interfaceName,
    .addRule record.fwmark record.routeTable,
    .addRoute record.protectedCidr record.interfaceName record.routeTable]
  nftables := .fromOperations [.addTable record.nftFamily record.nftTable]
  protectedCidr := record.protectedCidr
  gameUdpPorts := []

end NetworkOwnershipRecord

/-- What becomes of one call to a tool or to the file system. -/
inductive Fate where
  | proceed
  | fail (message : String)
  | crash
deriving DecidableEq

inductive Crash where
  | crash

/-- The host, the stored record, and what becomes of the next calls of each kind. Where a list
has ended, calls proceed. -/
structure Machine where
  host : Host
  record : Option NetworkOwnershipRecord
  applies : List Fate
  reverts : List Fate
  files : List Fate

namespace Machine

/-- The text of a refused command, on which nothing depends. -/
def refused : String := "refused"

def apply (operation : Operation) : Op Machine Crash (Except String Unit) := fun machine =>
  let next := { machine with applies := machine.applies.tail }
  match machine.applies.headD .proceed with
  | .crash => (.error .crash, next)
  | .fail message => (.ok (.error message), next)
  | .proceed =>
    match machine.host.perform operation with
    | some host => (.ok (.ok ()), { next with host })
    | none => (.ok (.error refused), next)

def revert (operation : Operation) : Op Machine Crash (Except String Unit) := fun machine =>
  let next := { machine with reverts := machine.reverts.tail }
  match machine.reverts.headD .proceed with
  | .crash => (.error .crash, next)
  | .fail message => (.ok (.error message), next)
  | .proceed => (.ok (.ok ()), { next with host := machine.host.undo operation })

/-- The `for` loop over the operations of one executor: what was completed, and the error that
ended the loop. -/
def applyAll {ι : Type} (toOperation : ι → Operation) (completed : List ι) :
    List ι → Op Machine Crash (List ι × Option String)
  | [] => pure (completed, none)
  | operation :: rest => do
      match ← apply (toOperation operation) with
      | .ok () => applyAll toOperation (completed ++ [operation]) rest
      | .error error => pure (completed, some error)

/-- The errors of the reverts, each of which is tried. -/
def revertAll : List Operation → Op Machine Crash (List String)
  | [] => pure []
  | operation :: rest => do
      match ← revert operation with
      | .ok () => revertAll rest
      | .error error => do
          let errors ← revertAll rest
          pure (error :: errors)

def revertOperationsWith (operations : List Operation) : Op Machine Crash (Except String Unit) := do
  let errors ← revertAll operations
  pure (if errors = [] then .ok () else .error (String.intercalate "; " errors))

end Machine

open Machine

namespace LinuxNetworkPlan

def revertOperationsWith (operations : List NetworkOperation) :
    Op Machine Crash (Except String Unit) :=
  Machine.revertOperationsWith ((revertOperationsFor operations).map .network)

end LinuxNetworkPlan

namespace NftablesPlan

def revertOperationsWith (operations : List NftablesOperation) :
    Op Machine Crash (Except String Unit) :=
  Machine.revertOperationsWith ((revertOperationsFor operations).map .nftables)

end NftablesPlan

/-- The error of a result, as a suffix to a message. -/
def suffixOf (text : String) : Except String Unit → String
  | .ok () => ""
  | .error error => text ++ error

def errorsOf (results : List (Except String Unit)) : List String :=
  results.filterMap fun
    | .ok () => none
    | .error error => some error

namespace LinuxRuntimePlan

def rollbackError (original : String) (completedNetwork : List NetworkOperation)
    (completedNftables : List NftablesOperation) : Op Machine Crash String := do
  let nftables ← revertOperationsWith completedNftables
  let network ← revertOperationsWith completedNetwork
  pure ("runtime apply failed: " ++ original ++
    suffixOf "; rollback nftables revert failed: " nftables ++
    suffixOf "; rollback network revert failed: " network)

def applyWithRollback (plan : LinuxRuntimePlan) : Op Machine Crash (Except String Unit) := do
  let (completedNetwork, failure) ← applyAll .network [] plan.network.operations
  match failure with
  | some error =>
    let message ← rollbackError ("network apply failed: " ++ error) completedNetwork []
    pure (.error message)
  | none =>
    let (completedNftables, failure) ← applyAll .nftables [] plan.nftables.operations
    match failure with
    | some error =>
      let message ←
        rollbackError ("nftables apply failed: " ++ error) completedNetwork completedNftables
      pure (.error message)
    | none => pure (.ok ())

def deactivate (plan : LinuxRuntimePlan) : Op Machine Crash (Except String Unit) := do
  let nftables ← revertOperationsWith plan.nftables.operations
  let network ← revertOperationsWith plan.network.operations
  let errors := errorsOf [nftables, network]
  pure (if errors = [] then .ok ()
    else .error ("runtime deactivate failed: " ++ String.intercalate "; " errors))

end LinuxRuntimePlan

/-! ## What the calls do -/

namespace Machine

theorem apply_cases (operation : Operation) (machine : Machine) :
    (machine.applies.head? = some .crash ∧
      apply operation machine = (.error .crash, { machine with applies := machine.applies.tail })) ∨
      (∃ message, apply operation machine =
        (.ok (.error message), { machine with applies := machine.applies.tail })) ∨
      ∃ host, machine.host.perform operation = some host ∧
        apply operation machine =
          (.ok (.ok ()), { machine with host, applies := machine.applies.tail }) := by
  unfold apply
  rw [headD_eq_head?_getD]
  rcases hh : machine.applies.head? with _ | _ | message | _
  · cases hp : machine.host.perform operation with
    | none => exact .inr (.inl ⟨refused, rfl⟩)
    | some host => exact .inr (.inr ⟨host, rfl, rfl⟩)
  · cases hp : machine.host.perform operation with
    | none => exact .inr (.inl ⟨refused, rfl⟩)
    | some host => exact .inr (.inr ⟨host, rfl, rfl⟩)
  · exact .inr (.inl ⟨message, rfl⟩)
  · exact .inl ⟨rfl, rfl⟩

/-- No revert fails. -/
def Calm (machine : Machine) : Prop := ∀ fate ∈ machine.reverts, fate = .proceed

variable {machine : Machine}

theorem Calm.of_suffix {machine' : Machine} (h : machine.Calm)
    (hs : machine'.reverts <:+ machine.reverts) : machine'.Calm :=
  fun f hf => h f (hs.subset hf)

theorem revert_of_calm (h : machine.Calm) (operation : Operation) :
    revert operation machine = (.ok (.ok ()),
      { machine with host := machine.host.undo operation, reverts := machine.reverts.tail }) := by
  have hh : machine.reverts.headD .proceed = .proceed := by
    cases hr : machine.reverts with
    | nil => rfl
    | cons f r => exact h f (hr ▸ mem_cons_self)
  simp only [revert, hh]

theorem revertAll_of_calm (h : machine.Calm) (operations : List Operation) :
    revertAll operations machine = (.ok [], { machine with
        host := machine.host.undoAll operations
        reverts := machine.reverts.drop operations.length }) := by
  induction operations generalizing machine with
  | nil => rfl
  | cons o r ih =>
    rw [revertAll, bind_of_ok (revert_of_calm h o)]
    simp only
    rw [ih (h.of_suffix (tail_suffix machine.reverts))]
    simp only [drop_tail]
    rfl

theorem revertOperationsWith_of_calm (h : machine.Calm) (operations : List Operation) :
    revertOperationsWith operations machine = (.ok (.ok ()), { machine with
        host := machine.host.undoAll operations
        reverts := machine.reverts.drop operations.length }) := by
  rw [revertOperationsWith, bind_of_ok (revertAll_of_calm h operations)]
  rfl

/-- This host, and the record as it was. -/
structure At (start : Machine) (host : Host) (machine : Machine) : Prop where
  host : machine.host = host
  record : machine.record = start.record

/-- No object was added and the record is as it was. -/
structure Within (start machine : Machine) : Prop where
  has : ∀ object, machine.host.Has object → start.host.Has object
  record : machine.record = start.record

variable {start : Machine} {host : Host}

theorem At.within (h : At start host machine)
    (hha : ∀ object, host.Has object → start.host.Has object) : Within start machine :=
  ⟨h.host ▸ hha, h.record⟩

theorem meets_revert (start : Machine) (host : Host) (operation : Operation) :
    Meets (At start host) (revert operation) (fun result => match result with
        | .ok () => At start (host.undo operation)
        | .error _ => At start host)
      (fun _ => At start host) := by
  intro m hm
  have hu : m.host.undo operation = host.undo operation := by rw [hm.host]
  unfold revert
  rw [headD_eq_head?_getD]
  rcases m.reverts.head? with _ | _ | me | _
  · exact ⟨hu, hm.record⟩
  · exact ⟨hu, hm.record⟩
  · exact ⟨hm.host, hm.record⟩
  · exact ⟨hm.host, hm.record⟩

section

variable {operations : List Operation}
  (hcr : ∀ operation ∈ operations, operation.creates = none)
  (hha : ∀ object, host.Has object → start.host.Has object)
include hcr hha

/-- Whatever becomes of the reverts, they create nothing and touch no file; and if none of them
fails, all of them were done. -/
theorem meets_revertAll : Meets (At start host) (revertAll operations)
      (fun errors machine => Within start machine ∧
        (errors = [] → At start (host.undoAll operations) machine))
      (fun _ => Within start) := by
  induction operations generalizing host with
  | nil => exact meets_pure _ fun machine hm => ⟨hm.within hha, fun _ => hm⟩
  | cons o re ih =>
    have hr : ∀ ot ∈ re, ot.creates = none := fun ot ht => hcr ot (mem_cons_of_mem _ ht)
    have he := (meets_revert start host o).of_stopped
      fun _ machine hm => hm.within hha
    apply meets_bind he
    intro r
    cases r with
    | ok _ =>
      exact ih hr fun ob ho =>
        hha ob (Host.has_of_undo (hcr o mem_cons_self) ho)
    | error error =>
      apply meets_bind (ih hr hha)
      intro errors
      apply meets_pure
      intro machine hm
      exact ⟨hm.1, fun hn => absurd hn (cons_ne_nil _ _)⟩

theorem meets_revertOperationsWith : Meets (At start host) (revertOperationsWith operations)
      (fun result machine => Within start machine ∧
        (result = .ok () → At start (host.undoAll operations) machine))
      (fun _ => Within start) := by
  apply meets_bind (meets_revertAll hcr hha)
  intro e
  apply meets_pure
  intro machine hm
  refine ⟨hm.1, fun hk => hm.2 ?_⟩
  by_contra hn
  rw [if_neg hn] at hk
  contradiction
end

end Machine

namespace LinuxRuntimePlan

def operations (plan : LinuxRuntimePlan) : List Operation :=
  plan.network.operations.map .network ++ plan.nftables.operations.map .nftables

theorem revertsOf_network (operations : List NetworkOperation) :
    revertsOf (operations.map .network) =
      (LinuxNetworkPlan.revertOperationsFor operations).map .network := by
  simp only [revertsOf, LinuxNetworkPlan.revertOperationsFor, map_filterMap,
    ← map_reverse, filterMap_map]
  rfl

theorem revertsOf_nftables (operations : List NftablesOperation) :
    revertsOf (operations.map .nftables) =
      (NftablesPlan.revertOperationsFor operations).map .nftables := by
  simp only [revertsOf, NftablesPlan.revertOperationsFor, map_filterMap,
    ← map_reverse, filterMap_map]
  rfl

/-- Undoing nftables first and the network after it undoes the operations from the last on. -/
theorem undoAll_revertsOf (host : Host) (ne : List NetworkOperation) (n : List NftablesOperation) :
    (host.undoAll ((revertOperationsFor n).map .nftables)).undoAll
        ((revertOperationsFor ne).map .network) =
      host.undoAll (revertsOf (ne.map .network ++ n.map .nftables)) := by
  rw [revertsOf_append, revertsOf_network, revertsOf_nftables, Host.undoAll_append]

variable {machine : Machine}

/-- Without failing reverts, undoing completed operations succeeds and undoes them all. -/
theorem undo_of_calm (h : machine.Calm) (ne : List NetworkOperation) (n : List NftablesOperation) :
    ∃ middle last, revertOperationsWith n machine = (.ok (.ok ()), middle) ∧
      revertOperationsWith ne middle = (.ok (.ok ()), last) ∧
      ∃ reverts, reverts <:+ machine.reverts ∧ last = { machine with
          host := machine.host.undoAll (revertsOf (ne.map .network ++ n.map .nftables))
          reverts } := by
  have hn := revertOperationsWith_of_calm h
    ((revertOperationsFor n).map .nftables)
  have hc : Calm { machine with
      host := machine.host.undoAll ((revertOperationsFor n).map .nftables)
      reverts := machine.reverts.drop ((revertOperationsFor n).map Operation.nftables).length } :=
    h.of_suffix (drop_suffix _ _)
  have hne := revertOperationsWith_of_calm hc
    ((revertOperationsFor ne).map .network)
  have hs : (machine.reverts.drop
        ((revertOperationsFor n).map Operation.nftables).length).drop
        ((revertOperationsFor ne).map Operation.network).length <:+
      machine.reverts := (drop_suffix _ _).trans (drop_suffix _ _)
  refine ⟨_, _, hn, hne, _, hs, ?_⟩
  rw [← undoAll_revertsOf]

theorem rollbackError_of_calm (h : machine.Calm) (o : String)
    (ne : List NetworkOperation) (n : List NftablesOperation) :
    ∃ reverts, reverts <:+ machine.reverts ∧ rollbackError o ne n machine =
        (.ok ("runtime apply failed: " ++ o), { machine with
            host := machine.host.undoAll (revertsOf (ne.map .network ++ n.map .nftables))
            reverts }) := by
  obtain ⟨m, l, hn, hne, reverts, hs, hl⟩ := undo_of_calm h ne n
  refine ⟨reverts, hs, ?_⟩
  rw [rollbackError, bind_of_ok hn, bind_of_ok hne, ← hl]
  simp [suffixOf]

theorem deactivate_of_calm (h : machine.Calm) (p : LinuxRuntimePlan) :
    ∃ reverts, reverts <:+ machine.reverts ∧ p.deactivate machine = (.ok (.ok ()),
        { machine with host := machine.host.undoAll (revertsOf p.operations), reverts }) := by
  obtain ⟨m, l, hn, hne, reverts, hs, hl⟩ :=
    undo_of_calm h p.network.operations p.nftables.operations
  refine ⟨reverts, hs, ?_⟩
  rw [deactivate, bind_of_ok hn, bind_of_ok hne, operations, ← hl]
  rfl

theorem creates_of_mem_network {operations : List NetworkOperation} {r : Operation}
    (h : r ∈ (revertOperationsFor operations).map .network) :
    r.creates = none := by
  rw [← revertsOf_network] at h
  exact creates_of_mem_revertsOf h

theorem creates_of_mem_nftables {operations : List NftablesOperation} {r : Operation}
    (h : r ∈ (revertOperationsFor operations).map .nftables) :
    r.creates = none := by
  rw [← revertsOf_nftables] at h
  exact creates_of_mem_revertsOf h

/-- Whatever becomes of the reverts, a deactivation creates nothing; and one that succeeds has
undone every operation. -/
theorem meets_deactivate (p : LinuxRuntimePlan) (start : Machine) :
    Meets (At start start.host) p.deactivate (fun result machine => Within start machine ∧
        (result = .ok () → At start (start.host.undoAll (revertsOf p.operations)) machine))
      (fun _ => Within start) := by
  apply meets_bind
    (meets_revertOperationsWith (fun _ => creates_of_mem_nftables) fun _ ho => ho)
  intro nf machine hm
  obtain ⟨hw, hn⟩ := hm
  refine meets_bind (meets_revertOperationsWith (fun _ => creates_of_mem_network) hw.has) ?_
    machine ⟨rfl, hw.record⟩
  intro n
  apply meets_pure
  intro l hl
  refine ⟨hl.1, fun hk => ?_⟩
  cases nf with
  | error error => cases n <;> contradiction
  | ok _ =>
    cases n with
    | error error => contradiction
    | ok _ =>
      have hu := hl.2 rfl
      rw [(hn rfl).host, undoAll_revertsOf] at hu
      exact hu

end LinuxRuntimePlan

namespace Machine

/-- Only these operations were done since the start, all of them within the footprint. -/
structure Partway (start : Machine) (footprint : Footprint) (completed : List Operation)
    (machine : Machine) : Prop where
  since : Host.Since start.host completed machine.host
  outside : machine.host.outside footprint = start.host.outside footprint
  record : machine.record = start.record
  reverts : machine.reverts = start.reverts
  files : machine.files = start.files

/-- Every call of the loop so far completed. -/
structure OnTrack (start : Machine) (footprint : Footprint) (completed : List Operation)
    (machine : Machine) : Prop extends Partway start footprint completed machine where
  applies : machine.applies = start.applies.drop completed.length

theorem OnTrack.refl (start : Machine) (footprint : Footprint) : OnTrack start footprint [] start where
  since := Host.Since.refl start.host []
  outside := rfl
  record := rfl
  reverts := rfl
  files := rfl
  applies := rfl

section
variable {start : Machine} {footprint : Footprint}

/-- A machine that stops at no call but the first has done nothing when it stops. -/
theorem OnTrack.within_of_crash
    (h : OnTrack start footprint completed machine) (hl : .crash ∉ start.applies.tail)
    (hc : machine.applies.head? = some .crash) :
    Within start machine ∧ .crash ∈ start.applies := by
  rw [h.applies] at hc
  have hm := mem_of_mem_head? hc
  cases completed with
  | nil =>
    refine ⟨⟨fun ob hb => ?_, h.record⟩, hm⟩
    obtain hh | ⟨o, ho, -⟩ := h.since ob hb
    · exact hh
    · exact absurd ho not_mem_nil
  | cons o r =>
    rw [length_cons, ← drop_tail] at hm
    exact absurd (mem_of_mem_drop hm) hl

theorem meets_apply (hl : .crash ∉ start.applies.tail) {operation : Operation}
    (hw : operation.Within footprint) (c : List Operation) :
    Meets (OnTrack start footprint c) (apply operation) (fun result machine => match result with
        | .ok () => OnTrack start footprint (c ++ [operation]) machine
        | .error _ => Partway start footprint c machine)
      (fun _ machine => Within start machine ∧ .crash ∈ start.applies) := by
  intro machine hm
  obtain ⟨hc, hr⟩ | ⟨m, hr⟩ | ⟨ho, hp, hr⟩ := apply_cases operation machine
  · rw [hr]
    obtain ⟨hs, he⟩ := hm.within_of_crash hl hc
    exact ⟨⟨hs.has, hs.record⟩, he⟩
  · rw [hr]
    exact ⟨hm.since, hm.outside, hm.record, hm.reverts, hm.files⟩
  · rw [hr]
    refine ⟨⟨hm.since.perform hp, ?_, hm.record, hm.reverts, hm.files⟩, ?_⟩
    · exact (Host.outside_perform hp hw).trans hm.outside
    · show machine.applies.tail = _
      rw [hm.applies, tail_drop, length_append, length_singleton]

/-- A loop that follows other operations. Its induction is on the operations still to do. -/
theorem meets_applyAll {ι : Type} {t : ι → Operation}
    (hl : .crash ∉ start.applies.tail) (b : List Operation) {re : List ι}
    (c : List ι) (hw : ∀ operation ∈ re, (t operation).Within footprint) :
    Meets (OnTrack start footprint (b ++ c.map t)) (applyAll t c re)
      (fun outcome machine => match outcome.2 with
        | none => outcome.1 = c ++ re ∧ OnTrack start footprint (b ++ (c ++ re).map t) machine
        | some _ => outcome.1 <+: c ++ re ∧ Partway start footprint (b ++ outcome.1.map t) machine)
      (fun _ machine => Within start machine ∧ .crash ∈ start.applies) := by
  induction re generalizing c with
  | nil =>
    apply meets_pure
    intro machine hm
    rw [append_nil]
    exact ⟨rfl, hm⟩
  | cons operation re ih =>
    apply meets_bind (meets_apply hl (hw operation mem_cons_self) _)
    intro r
    cases r with
    | error error =>
      apply meets_pure
      intro machine hm
      exact ⟨prefix_append _ _, hm⟩
    | ok _ =>
      have hr := ih (c ++ [operation])
        fun o ho => hw o (mem_cons_of_mem _ ho)
      simp only [map_append, map_cons, map_nil, append_assoc, singleton_append] at hr ⊢
      exact hr

end

end Machine

namespace LinuxRuntimePlan

variable (plan : LinuxRuntimePlan)

/-- What a rolled back plan leaves: some of its operations were done, and are undone. -/
def RolledBack (start : Machine) (footprint : Footprint) (machine : Machine) : Prop :=
  ∃ completed middle, (∀ operation ∈ completed, operation ∈ plan.operations) ∧
    Partway start footprint completed middle ∧
    ∃ reverts, reverts <:+ start.reverts ∧
      machine = { middle with host := middle.host.undoAll (revertsOf completed), reverts }

/-- What `apply_with_rollback` leaves when it returns. -/
def Outcome (start : Machine) (footprint : Footprint) :
    Except String Unit → Machine → Prop
  | .ok () => Partway start footprint plan.operations
  | .error _ => plan.RolledBack start footprint

theorem meets_rollbackError {p : LinuxRuntimePlan} {start : Machine}
    {stopped : Crash → Machine → Prop} (hc : start.Calm) (or : String)
    (ne : List NetworkOperation) (n : List NftablesOperation) :
    Meets (fun machine => (ne <+: p.network.operations ∧ n <+: p.nftables.operations) ∧
        Partway start footprint (ne.map .network ++ n.map .nftables) machine)
      (do
        let message ← rollbackError or ne n
        pure (.error message))
      (p.Outcome start footprint) stopped := by
  intro machine hm
  obtain ⟨⟨hne, hn⟩, hp⟩ := hm
  have hc' : machine.Calm := hc.of_suffix (hp.reverts ▸ suffix_refl _)
  obtain ⟨r, hs, hr⟩ := rollbackError_of_calm hc' or ne n
  rw [bind_of_ok hr]
  refine ⟨_, machine, fun o ho => ?_, hp, r, ?_, rfl⟩
  · obtain he | he := mem_append.mp ho
    · exact mem_append_left _ (map_subset _ hne.subset he)
    · exact mem_append_right _ (map_subset _ hn.subset he)
  · rw [← hp.reverts]
    exact hs

theorem meets_applyWithRollback {p : LinuxRuntimePlan} {footprint : Footprint} {start : Machine}
    (hw : ∀ operation ∈ p.operations, operation.Within footprint)
    (hl : .crash ∉ start.applies.tail) (hc : start.Calm) :
    Meets (OnTrack start footprint []) p.applyWithRollback (p.Outcome start footprint)
      (fun _ machine => Within start machine ∧ .crash ∈ start.applies) := by
  have hne : ∀ operation ∈ p.network.operations,
      (Operation.network operation).Within footprint := fun operation he =>
    hw _ (mem_append_left _ (mem_map_of_mem he))
  have hn : ∀ operation ∈ p.nftables.operations,
      (Operation.nftables operation).Within footprint := fun operation he =>
    hw _ (mem_append_right _ (mem_map_of_mem he))
  apply meets_bind (meets_applyAll hl [] [] hne)
  intro o
  obtain ⟨co, f⟩ := o
  cases f with
  | some error =>
    apply (meets_rollbackError hc ("network apply failed: " ++ error) co []).weaken
    · intro machine hm
      obtain ⟨hf, ha⟩ := hm
      rw [map_nil, append_nil]
      exact ⟨⟨hf, nil_prefix⟩, ha⟩
    · exact fun _ _ hp => hp
    · exact fun _ _ hs => hs
  | none =>
    intro machine hm
    obtain ⟨rfl, ht⟩ := hm
    apply meets_bind
      (meets_applyAll hl (p.network.operations.map .network) [] hn) _ machine
    · rw [map_nil, append_nil]
      exact ht
    · intro o
      obtain ⟨c, f⟩ := o
      cases f with
      | some error =>
        apply (meets_rollbackError hc ("nftables apply failed: " ++ error)
          p.network.operations c).weaken
        · intro machine hm
          exact ⟨⟨prefix_refl _, hm.1⟩, hm.2⟩
        · exact fun _ _ hp => hp
        · exact fun _ _ hs => hs
      | none =>
        apply meets_pure
        intro machine hm
        exact hm.2.toPartway

end LinuxRuntimePlan

/-! ## The plan of a configuration -/

/-- The device, rule and table of every plan for the configuration. -/
def Footprint.ofConfig (config : DaemonConfig) : Footprint where
  interface := config.interfaceName
  rule := (qlinkFwmark, qlinkRouteTable)
  table := (nftFamily, nftTable)

namespace LinuxRuntimePlan

theorem nftablesFor_table (co : DaemonConfig) : ∀ operation ∈ (nftablesFor co).operations,
      (operation.family, operation.table) = (nftFamily, nftTable) := by
  have hb : ∀ c, ∀ operation ∈ NftablesPlan.bypasses c co.underlayExemptions,
      (operation.family, operation.table) = (nftFamily, nftTable) := by
    intro c operation hm
    obtain ⟨ci, -, rfl⟩ := mem_map.mp hm
    rfl
  intro operation hm
  unfold nftablesFor at hm
  split at hm
  · simp only [NftablesPlan.gameOnlyFailClosed, NftablesPlan.fromOperations,
      NftablesPlan.tableAndChains, mem_append, mem_cons, not_mem_nil] at hm
    grind [NftablesOperation.family, NftablesOperation.table]
  · simp only [NftablesPlan.failClosedWithExemptions, NftablesPlan.fromOperations,
      NftablesPlan.tableAndChains, mem_append, mem_cons, not_mem_nil] at hm
    grind [NftablesOperation.family, NftablesOperation.table]

theorem For.within {p : LinuxRuntimePlan} (h : p.For config) :
    ∀ operation ∈ p.operations, operation.Within (.ofConfig config) := by
  intro operation hm
  rw [operations, h.network, h.nftables] at hm
  obtain hn | hf := mem_append.mp hm
  · simp only [LinuxNetworkPlan.forInterface, LinuxNetworkPlan.fromOperations, map_cons,
      map_nil, mem_cons, not_mem_nil, or_false] at hn
    obtain rfl | rfl | rfl | rfl | rfl := hn <;> rfl
  · obtain ⟨operation', hm', rfl⟩ := mem_map.mp hf
    exact nftablesFor_table config operation' hm'

theorem mem_runtimePlan {c : DaemonConfig} {now : UInt64} :
    operation ∈ (NetworkOwnershipRecord.fromConfig c now).runtimePlan.operations ↔
      operation = .network (.createTun c.interfaceName) ∨
      operation = .network (.addRule qlinkFwmark qlinkRouteTable) ∨
      operation = .network (.addRoute (protectedCidrForRouteMode c) c.interfaceName
        qlinkRouteTable) ∨
      operation = .nftables (.addTable nftFamily nftTable) := by
  simp [operations, NetworkOwnershipRecord.runtimePlan, LinuxNetworkPlan.fromOperations,
    NftablesPlan.fromOperations, NetworkOwnershipRecord.fromConfig]

theorem within_runtimePlan (c : DaemonConfig) (now : UInt64) :
    ∀ operation ∈ (NetworkOwnershipRecord.fromConfig c now).runtimePlan.operations,
      operation.Within (.ofConfig c) := by
  intro operation hm
  obtain rfl | rfl | rfl | rfl := mem_runtimePlan.mp hm <;> rfl

theorem For.covers {p : LinuxRuntimePlan} (h : p.For config) (now : UInt64) :
    Host.Covers (NetworkOwnershipRecord.fromConfig config now).runtimePlan.operations
      p.operations := by
  intro operation hm o hc
  rw [operations, h.network, h.nftables] at hm
  obtain hn | hf := mem_append.mp hm
  · simp only [LinuxNetworkPlan.forInterface, LinuxNetworkPlan.fromOperations, map_cons,
      map_nil, mem_cons, not_mem_nil, or_false] at hn
    obtain rfl | rfl | rfl | rfl | rfl := hn
    · exact ⟨_, mem_runtimePlan.mpr (by simp), hc⟩
    · contradiction
    · contradiction
    · exact ⟨_, mem_runtimePlan.mpr (by simp), hc⟩
    · exact ⟨_, mem_runtimePlan.mpr (by simp), hc⟩
  · obtain ⟨operation', hm', rfl⟩ := mem_map.mp hf
    have ht := nftablesFor_table config operation' hm'
    cases operation' with
    | addTable f t =>
      obtain ⟨rfl, rfl⟩ := Prod.mk.inj ht
      exact ⟨_, mem_runtimePlan.mpr (by simp), hc⟩
    | _ => contradiction

/-- On a host with none of the plan's objects, a plan that fails leaves the host as it was, and a
plan that succeeds is undone by its own deactivation and by that of the record. -/
theorem apply_all_or_nothing (socketAddrs : SocketAddrs) (config : DaemonConfig)
    (gameUdpPorts : List UInt16) (plan : LinuxRuntimePlan)
    (hplan : fromConfigWithGameUdpPorts socketAddrs config gameUdpPorts = .ok plan)
    (host : Host) (hclear : host.Clear (.ofConfig config)) (applies files : List Fate)
    (hcrash : .crash ∉ applies) (stored : Option NetworkOwnershipRecord) (now : UInt64) :
    (∃ message after,
      plan.applyWithRollback ⟨host, stored, applies, [], files⟩ = (.ok (.error message), after) ∧
        after.host = host) ∨
      ∃ after, plan.applyWithRollback ⟨host, stored, applies, [], files⟩ = (.ok (.ok ()), after) ∧
        (∃ last, plan.deactivate after = (.ok (.ok ()), last) ∧ last.host = host) ∧
        ∃ last, (NetworkOwnershipRecord.fromConfig config now).runtimePlan.deactivate after =
          (.ok (.ok ()), last) ∧ last.host = host := by
  have hf := (for_of_fromConfig hplan).1
  have ha : Calm ⟨host, stored, applies, [], files⟩ := by simp [Calm]
  have hl : .crash ∉ applies.tail := fun he => hcrash (mem_of_mem_tail he)
  have hm := meets_applyWithRollback hf.within hl ha
    ⟨host, stored, applies, [], files⟩ (OnTrack.refl _ _)
  rcases hr : plan.applyWithRollback ⟨host, stored, applies, [], files⟩ with ⟨s | _ | _, after⟩
  · rw [hr] at hm
    exact absurd hm.2 hcrash
  · rename_i message
    rw [hr] at hm
    obtain ⟨c, m, hc, hp, r, -, rfl⟩ := hm
    refine Or.inl ⟨message, _, rfl, ?_⟩
    exact hp.since.undoAll_eq hclear hp.outside (Host.Covers.refl c)
      fun o he => hf.within o (hc o he)
  · rw [hr] at hm
    have hp : Partway _ _ plan.operations after := hm
    have hc' : after.Calm := ha.of_suffix (hp.reverts ▸ suffix_refl _)
    refine Or.inr ⟨after, rfl, ?_, ?_⟩
    · obtain ⟨r, -, hd⟩ := deactivate_of_calm hc' plan
      refine ⟨_, hd, ?_⟩
      exact hp.since.undoAll_eq hclear hp.outside (Host.Covers.refl _) hf.within
    · obtain ⟨r, -, hd⟩ :=
        deactivate_of_calm hc' (NetworkOwnershipRecord.fromConfig config now).runtimePlan
      refine ⟨_, hd, ?_⟩
      exact hp.since.undoAll_eq hclear hp.outside (hf.covers now)
        (within_runtimePlan config now)

theorem default_undone : ∃ plan, fromConfigWithGameUdpPorts (fun _ => none) .default [] = .ok plan ∧
      Host.empty.Clear (.ofConfig .default) ∧
      ((∃ message after, plan.applyWithRollback
            ⟨.empty, none, [.proceed, .proceed, .proceed, .fail "ip: busy"], [], []⟩ =
          (.ok (.error message), after) ∧ after.host = .empty) ∨
        ∃ after, plan.applyWithRollback
              ⟨.empty, none, [.proceed, .proceed, .proceed, .fail "ip: busy"], [], []⟩ =
            (.ok (.ok ()), after) ∧
          (∃ last, plan.deactivate after = (.ok (.ok ()), last) ∧ last.host = .empty) ∧
          ∃ last, (NetworkOwnershipRecord.fromConfig .default 7).runtimePlan.deactivate after =
            (.ok (.ok ()), last) ∧ last.host = .empty) := by
  obtain ⟨plan, hp⟩ := fromConfigWithGameUdpPorts_eq_ok_iff.mpr
    ⟨default_validate, by decide, (not_mem_nil : (0 : UInt16) ∉ [])⟩
  have hc : Host.empty.Clear (.ofConfig .default) := Host.clear_empty _
  exact ⟨plan, hp, hc, apply_all_or_nothing (fun _ => none) .default [] plan hp .empty
    hc _ [] (by decide) none 7⟩

end LinuxRuntimePlan

end QuantumLink.Network
