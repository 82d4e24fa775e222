import QuantumLink.Foundation.Run
import QuantumLink.Network.Plan

/-! # Game process classification

`begin_game_process_with` and `end_game_process_with` of `qlinkd`: while a game runs, one rule for
each UDP port and direction marks the traffic of its control group. The rules are added and deleted
one by one through an executor that may refuse each of them. A rule whose addition is refused is
not installed; a rule whose deletion is refused stays.
-/

namespace QuantumLink.Network

open List

/-! ## The checks before a game starts -/

def qlinkGameSlice : String := "quantumlink-game.slice"
def qlinkGameScopePrefix : String := "quantumlink-game-"

structure GameProfile where
  id : String
  executables : List String
  udpPorts : List UInt16

variable (path : String)

/-- `Path::file_name`: the last component, unless it is the parent directory. -/
def fileName : Option String :=
  match ((path.toList.splitOn '/').filter fun part => part ≠ [] ∧ part ≠ ['.']).getLast? with
  | none => none
  | some ['.', '.'] => none
  | some name => some (String.ofList name)

def executableBasename (executable : String) : String := (fileName executable).getD executable

def GameProfile.matchesExecutable (profile : GameProfile) (executable : String) : Bool :=
  profile.executables.any (· = executableBasename executable)

structure GameCgroupIdentity where
  relativePath : String
  level : UInt32
  scopeUnit : String

def validateSessionId (sessionId : String) : Except String Unit :=
  ensure (sessionId ≠ "" ∧ sessionId.utf8ByteSize ≤ 48 ∧
      sessionId.toList.all (fun c => c.isLower || c.isDigit) = true)
    "game session ID must contain 1-48 lowercase ASCII letters or digits"

def isCgroupChar (c : Char) : Bool := c.isAlphanum || c ∈ ['-', '_', '.', '@', ':']

/-- The components of an absolute path that are not empty. -/
def cgroupComponents : Option (List (List Char)) :=
  match path.toList with
  | '/' :: rest => some ((rest.splitOn '/').filter (· ≠ []))
  | _ => none

def validateGameCgroupPath (uid : UInt32) (sessionId : String) :
    Except String GameCgroupIdentity := do
  validateSessionId sessionId
  ensure (¬ " (deleted)".toList <:+: path.toList) "game cgroup was deleted"
  let components ← okOr (cgroupComponents path) "game cgroup path must be absolute"
  ensure (5 ≤ components.length) "game cgroup path is too shallow"
  ensure (components[0]? = some "user.slice".toList ∧
      components[1]? = some ("user-" ++ toString uid.toNat ++ ".slice").toList)
    "game cgroup is outside the caller user slice"
  ensure (qlinkGameSlice.toList ∈ components) "game cgroup is outside the QuantumLink game slice"
  let scopeUnit := qlinkGameScopePrefix ++ sessionId ++ ".scope"
  ensure (components.getLast? = some scopeUnit.toList)
    "game cgroup scope does not match the launch session"
  ensure (components.all (fun component =>
      component ≠ [] && component ≠ ['.'] && component ≠ ['.', '.'] &&
        component.all isCgroupChar) = true)
    "game cgroup path contains an invalid component"
  pure
    { relativePath := "/".intercalate (components.map String.ofList)
      level := UInt32.ofNat components.length
      scopeUnit }

/-- Two rules for each port, towards it and from it. -/
def NftablesPlan.gameProcessMarkOperations (protectedCidr cgroupPath : String)
    (cgroupLevel : UInt32) (udpPorts : List UInt16) (comment : String) : List NftablesOperation :=
  udpPorts.flatMap fun port =>
    [UdpPortDirection.destination, UdpPortDirection.source].map fun direction =>
      .markCgroupUdpPortTraffic nftFamily nftTable nftRouteOutputChain protectedCidr cgroupPath
        cgroupLevel port direction qlinkFwmark comment

abbrev GameRule := NftablesOperation × UInt64

/-- The game rules on the host, and what the executor will answer. -/
structure RuleHandleExecutor where
  installed : Multiset GameRule
  adds : Stream' (Except String UInt64)
  deletes : Stream' (Except String Unit)

namespace RuleHandleExecutor

variable (executor : RuleHandleExecutor)

def addRuleWithHandle (operation : NftablesOperation) :
    Except String UInt64 × RuleHandleExecutor :=
  match executor.adds.head with
  | .ok handle => (.ok handle, { executor with
      installed := (operation, handle) ::ₘ executor.installed
      adds := executor.adds.tail })
  | .error error => (.error error, { executor with adds := executor.adds.tail })

def deleteRuleHandle (rule : GameRule) :
    Except String Unit × RuleHandleExecutor :=
  match executor.deletes.head with
  | .ok () => (.ok (), { executor with
      installed := executor.installed.erase rule
      deletes := executor.deletes.tail })
  | .error error => (.error error, { executor with deletes := executor.deletes.tail })

def addRules (executor : RuleHandleExecutor) (rules : List GameRule) :
    List NftablesOperation → (List GameRule × Option String) × RuleHandleExecutor
  | [] => ((rules, none), executor)
  | operation :: rest =>
    match executor.addRuleWithHandle operation with
    | (.ok handle, next) => next.addRules (rules ++ [(operation, handle)]) rest
    | (.error error, next) => ((rules, some error), next)

/-- Delete rules one after the other: the refused ones, each with its error. -/
def deleteRules (executor : RuleHandleExecutor) :
    List GameRule → List (GameRule × String) × RuleHandleExecutor
  | [] => ([], executor)
  | rule :: rest =>
    match executor.deleteRuleHandle rule with
    | (.ok (), next) => next.deleteRules rest
    | (.error error, next) =>
      ((rule, error) :: (next.deleteRules rest).1, (next.deleteRules rest).2)

end RuleHandleExecutor

structure ActiveGameProcess where
  sessionId : String
  profileId : String
  executable : String
  cgroupUnit : String
  udpPorts : List UInt16
  rules : List GameRule

structure GameProcessRuntime where
  active : Option ActiveGameProcess
  lastError : Option String

/-- What the two calls read and write of `DaemonEngine`. -/
structure DaemonEngine where
  config : DaemonConfig
  selectedProfile : Option GameProfile
  /-- The game profile of the applied network plan, if a plan is applied. -/
  appliedGameProfileId : Option (Option String)
  gameProcess : GameProcessRuntime

structure GameLaunch where
  profileId : String
  executable : String
  sessionId : String
  callerUid : UInt32
  cgroupPath : String

namespace DaemonEngine

/-- The checks of a launch: the process to record, without rules, and the rules to add. -/
def checkLaunch (engine : DaemonEngine) (launch : GameLaunch) :
    Except String (ActiveGameProcess × List NftablesOperation) := do
  ensure (engine.config.routeMode = .gameOnly)
    "game process classification requires gameOnly route mode"
  ensure (engine.gameProcess.active = none) "a classified game process is already active"
  let profile ← okOr (engine.selectedProfile.filter (·.id = launch.profileId))
    "launch profile must match the selected game profile"
  ensure (engine.appliedGameProfileId = some (some launch.profileId))
    "game process classification requires an applied matching network plan"
  ensure (profile.matchesExecutable launch.executable = true)
    ("executable is not allowed by game profile `" ++ launch.profileId ++ "`")
  let cgroup ← validateGameCgroupPath launch.cgroupPath launch.callerUid launch.sessionId
  pure
    ({ sessionId := launch.sessionId
       profileId := profile.id
       executable := executableBasename launch.executable
       cgroupUnit := cgroup.scopeUnit
       udpPorts := profile.udpPorts
       rules := [] },
      NftablesPlan.gameProcessMarkOperations (protectedCidrForRouteMode engine.config)
        cgroup.relativePath cgroup.level profile.udpPorts ("qlink-game-" ++ launch.sessionId))

def beginGameProcessWith (engine : DaemonEngine) (launch : GameLaunch)
    (executor : RuleHandleExecutor) : (Except String Unit × DaemonEngine) × RuleHandleExecutor :=
  match engine.checkLaunch launch with
  | .error error => ((.error error, engine), executor)
  | .ok (process, operations) =>
    match executor.addRules [] operations with
    | ((rules, none), next) =>
      ((.ok (), { engine with gameProcess := ⟨some { process with rules }, none⟩ }), next)
    | ((rules, some error), next) =>
      -- the errors of the deletions are dropped
      let message := "failed to apply game process classification: " ++ error
      ((.error message,
          { engine with gameProcess := { engine.gameProcess with lastError := some message } }),
        (next.deleteRules rules.reverse).2)

def endGameProcessWith (engine : DaemonEngine) (sessionId : String)
    (executor : RuleHandleExecutor) : (Except String Unit × DaemonEngine) × RuleHandleExecutor :=
  match engine.gameProcess.active with
  | none => ((.ok (), engine), executor)
  | some active =>
    if active.sessionId ≠ sessionId then
      ((.error "game session does not match the active classification", engine), executor)
    else
      let (refused, next) := executor.deleteRules active.rules.reverse
      match refused with
      | [] => ((.ok (), { engine with gameProcess := ⟨none, none⟩ }), next)
      | (_, error) :: _ =>
        let message := "failed to remove game process classification: " ++ error
        let retained := (refused.map Prod.fst).reverse
        ((.error message, { engine with
            gameProcess := ⟨some { active with rules := retained }, some message⟩ }), next)

end DaemonEngine

/-! ## What the loops leave -/

namespace RuleHandleExecutor

/-- The answer to the call with this number. -/
def Accepts {α : Type} (answers : Stream' (Except String α)) (call : Nat) : Prop :=
  ∃ answer, answers.get call = .ok answer

variable (e : RuleHandleExecutor)

variable (ru : List GameRule)

/-- Added rules are installed and nothing else changes. A refusal is the answer to the call that
follows the last accepted one. -/
theorem addRules_spec (op : List NftablesOperation) :
    ∃ a failure next, e.addRules ru op = ((ru ++ a, failure), next) ∧
      next.installed = e.installed + (a : Multiset GameRule) ∧
      next.deletes = e.deletes ∧
      (∀ call < a.length, Accepts e.adds call) ∧
      (failure = none → a.length = op.length) ∧
      ∀ error, failure = some error → a.length < op.length ∧ ¬ Accepts e.adds a.length := by
  induction op generalizing e ru with
  | nil =>
    refine ⟨[], none, e, ?_, ?_, rfl, ?_, fun _ => rfl, ?_⟩
    · rw [addRules, append_nil]
    · rw [Multiset.coe_nil, add_zero]
    · intro call hc
      simp at hc
    · intro error he
      contradiction
  | cons o r ih =>
    cases hh : e.adds.head with
    | error error =>
      refine ⟨[], some error, { e with adds := e.adds.tail }, ?_, ?_, rfl, ?_, ?_, ?_⟩
      · rw [addRules, addRuleWithHandle, hh, append_nil]
      · rw [Multiset.coe_nil, add_zero]
      · intro call hc
        simp at hc
      · intro hn
        contradiction
      · intro _ _
        refine ⟨by simp, ?_⟩
        rintro ⟨han, hha⟩
        have hfi : e.adds.get 0 = .error error := hh
        simp [hfi] at hha
    | ok han =>
      obtain ⟨a, failure, next, hu, hi, hd, ha, hn, he⟩ :=
        ih { e with installed := (o, han) ::ₘ e.installed, adds := e.adds.tail } (ru ++ [(o, han)])
      refine ⟨(o, han) :: a, failure, next, ?_, ?_, hd, ?_, ?_, ?_⟩
      · rw [addRules, addRuleWithHandle, hh]
        simp only
        rw [hu, append_assoc, singleton_append]
      · rw [hi, ← Multiset.cons_coe, Multiset.cons_add, Multiset.add_cons]
      · intro call hc
        cases call with
        | zero => exact ⟨han, hh⟩
        | succ call => exact ha call (by simpa using hc)
      · intro hf
        simp [hn hf]
      · intro error hf
        have hr := he error hf
        exact ⟨by simpa using hr.1, hr.2⟩

/-- Deleted rules are gone, refused ones stay, and nothing is refused exactly if every call is
accepted. -/
theorem deleteRules_spec (h : e.installed = others + (ru : Multiset GameRule)) :
    (e.deleteRules ru).2.installed =
        others + ((e.deleteRules ru).1.map Prod.fst : List GameRule) ∧
      ((e.deleteRules ru).1 = [] ↔ ∀ call < ru.length, Accepts e.deletes call) := by
  induction ru generalizing e others with
  | nil =>
    refine ⟨h, fun _ call hc => ?_, fun _ => rfl⟩
    simp at hc
  | cons r rest ih =>
    rw [← Multiset.cons_coe, Multiset.add_cons] at h
    cases hh : e.deletes.head with
    | ok _ =>
      have hn : ({ e with
          installed := e.installed.erase r
          deletes := e.deletes.tail } : RuleHandleExecutor).installed =
            others + (rest : Multiset GameRule) := by
        rw [h]
        exact Multiset.erase_cons_head _ _
      have hr : e.deleteRules (r :: rest) =
          ({ e with
            installed := e.installed.erase r
            deletes := e.deletes.tail } : RuleHandleExecutor).deleteRules rest := by
        rw [deleteRules, deleteRuleHandle, hh]
      rw [hr]
      obtain ⟨hi, hni⟩ := ih _ hn
      refine ⟨hi, hni.trans ⟨fun ha call hc => ?_, fun ha call hc => ?_⟩⟩
      · cases call with
        | zero => exact ⟨(), hh⟩
        | succ call => exact ha call (by simpa using hc)
      · exact ha (call + 1) (by simpa using hc)
    | error error =>
      have hn : ({ e with deletes := e.deletes.tail } :
          RuleHandleExecutor).installed = r ::ₘ others + (rest : Multiset GameRule) := by
        rw [Multiset.cons_add]
        exact h
      have hr : e.deleteRules (r :: rest) =
          ((r, error) :: (({ e with deletes := e.deletes.tail } :
                RuleHandleExecutor).deleteRules rest).1, (({ e with deletes := e.deletes.tail } :
                RuleHandleExecutor).deleteRules rest).2) := by
        rw [deleteRules, deleteRuleHandle, hh]
      rw [hr]
      refine ⟨?_, ⟨fun hni => by contradiction, fun ha => ?_⟩⟩
      · rw [(ih _ hn).1, map_cons, ← Multiset.cons_coe, Multiset.cons_add, Multiset.add_cons]
      · obtain ⟨a, han⟩ := ha 0 (by simp)
        have hf : e.deletes.get 0 = .error error := hh
        simp [hf] at han

end RuleHandleExecutor

/-- The daemon's engine and the game rules on the host. -/
structure GameHost where
  engine : DaemonEngine
  installed : Multiset GameRule

/-- A call, with the answers its executor will give. -/
inductive GameCall where
  | start (launch : GameLaunch) (adds : Stream' (Except String UInt64))
      (deletes : Stream' (Except String Unit))
  | stop (sessionId : String) (deletes : Stream' (Except String Unit))

namespace GameHost

open RuleHandleExecutor

variable (host : GameHost)

def call : GameCall → Except String Unit × GameHost
  | .start launch adds deletes =>
    let ((result, engine), executor) :=
      host.engine.beginGameProcessWith launch ⟨host.installed, adds, deletes⟩
    (result, ⟨engine, executor.installed⟩)
  | .stop sessionId deletes =>
    let ((result, engine), executor) := host.engine.endGameProcessWith sessionId
      ⟨host.installed, Stream'.const (.error "no rule is added"), deletes⟩
    (result, ⟨engine, executor.installed⟩)

def recorded : List GameRule :=
  match host.engine.gameProcess.active with
  | none => []
  | some active => active.rules

/-- The rules on the host are the rules on record. -/
def Exact : Prop := host.installed = (host.recorded : Multiset GameRule)

/-- If an addition is refused, every deletion of the rules added before it is accepted. -/
def Tidy (adds : Stream' (Except String UInt64)) (deletes : Stream' (Except String Unit))
    (count : Nat) : Prop :=
  ∀ refused < count, (∀ call < refused, Accepts adds call) → ¬ Accepts adds refused →
    ∀ call < refused, Accepts deletes call

/-- A start that passes its checks cleans up after itself. -/
def Clean : GameCall → Prop
  | .start launch adds deletes => ∀ process operations,
      host.engine.checkLaunch launch = .ok (process, operations) →
        Tidy adds deletes operations.length
  | .stop _ _ => True

end GameHost

theorem DaemonEngine.active_of_checkLaunch {e : DaemonEngine}
    (h : e.checkLaunch launch = .ok (process, operations)) :
    e.gameProcess.active = none := by
  simp only [checkLaunch, bind_eq_ok_iff, ensure_eq_ok_iff, exists_const] at h
  exact h.2.1

namespace GameHost

open RuleHandleExecutor

theorem exact_start_iff {host : GameHost}
    {ad : Stream' (Except String UInt64)} {d : Stream' (Except String Unit)}
    (h : host.Exact) :
    (host.call (.start launch ad d)).2.Exact ↔ host.Clean (.start launch ad d) := by
  cases hc : host.engine.checkLaunch launch with
  | error error =>
    have hsa : (host.call (.start launch ad d)).2 = host := by
      simp [call, DaemonEngine.beginGameProcessWith, hc]
    rw [hsa]
    exact ⟨fun _ _ _ hk => by simp [hc] at hk, fun _ => h⟩
  | ok l =>
    obtain ⟨process, operations⟩ := l
    have hac := DaemonEngine.active_of_checkLaunch hc
    have hm : host.installed = 0 := by
      rw [Exact, recorded, hac] at h
      exact h
    have hcl : host.Clean (.start launch ad d) ↔ Tidy ad d operations.length :=
      ⟨fun hcl => hcl process operations hc, fun ht process' operations' hk => by
        rw [hc] at hk
        cases hk
        exact ht⟩
    obtain ⟨a, f, n, hu, hi, hd, ha, ho, her⟩ := addRules_spec ⟨host.installed, ad, d⟩ [] operations
    rw [nil_append] at hu
    rw [hcl]
    cases f with
    | none =>
      have hf : (host.call (.start launch ad d)).2 =
          ⟨{ host.engine with gameProcess := ⟨some { process with rules := a }, none⟩ },
            n.installed⟩ := by
        simp [call, DaemonEngine.beginGameProcessWith, hc, hu]
      have he : (host.call (.start launch ad d)).2.Exact := by
        rw [hf, Exact, hi, hm, zero_add]
        rfl
      refine ⟨fun _ r hr _ hn => ?_, fun _ => he⟩
      rw [← ho rfl] at hr
      exact absurd (ha r hr) hn
    | some error =>
      obtain ⟨hs, hr⟩ := her error rfl
      have hf : (host.call (.start launch ad d)).2 =
          ⟨{ host.engine with gameProcess := { host.engine.gameProcess with
              lastError := some ("failed to apply game process classification: " ++ error) } },
            (n.deleteRules a.reverse).2.installed⟩ := by
        simp [call, DaemonEngine.beginGameProcessWith, hc, hu]
      have had : n.installed = 0 + (a.reverse : Multiset GameRule) := by
        rw [hi, hm, Multiset.coe_reverse]
      obtain ⟨hl, hni⟩ := deleteRules_spec n a.reverse had
      have he : (host.call (.start launch ad d)).2.Exact ↔
          ∀ call < a.length, Accepts d call := by
        rw [hf, Exact, recorded, hac, hl, zero_add, Multiset.coe_nil,
          Multiset.coe_eq_zero, map_eq_nil_iff, hni, length_reverse, hd]
      rw [he]
      constructor
      · intro hal r hlt hb hn call hca
        -- the first refused call is the one the loop stopped at
        have hle : r ≤ a.length := by
          by_contra hg
          exact hr (hb a.length (by omega))
        exact hal call (by omega)
      · intro ht
        exact ht a.length hs ha hr

theorem exact_stop {host : GameHost} {d : Stream' (Except String Unit)}
    (h : host.Exact) : (host.call (.stop sessionId d)).2.Exact := by
  cases ha : host.engine.gameProcess.active with
  | none =>
    have hs : (host.call (.stop sessionId d)).2 = host := by
      simp [call, DaemonEngine.endGameProcessWith, ha]
    rw [hs]
    exact h
  | some a =>
    by_cases he : a.sessionId = sessionId
    · have hr : host.installed = 0 + (a.rules.reverse : Multiset GameRule) := by
        rw [Exact, recorded, ha] at h
        rw [h, zero_add, Multiset.coe_reverse]
      have hp := deleteRules_spec
        ⟨host.installed, Stream'.const (.error "no rule is added"), d⟩ a.rules.reverse
        hr
      simp only [call, DaemonEngine.endGameProcessWith, ha, he, ne_eq, not_true_eq_false, if_false]
      generalize deleteRules _ _ = outcome at hp
      obtain ⟨r, n⟩ := outcome
      cases r with
      | nil =>
        show n.installed = 0
        rw [hp.1]
        rfl
      | cons f re =>
        show n.installed = _
        rw [hp.1, zero_add, ← Multiset.coe_reverse]
        rfl
    · have hs : (host.call (.stop sessionId d)).2 = host := by
        simp [call, DaemonEngine.endGameProcessWith, ha, he]
      rw [hs]
      exact h

/-- The rules on the host are those on record throughout exactly if every start whose additions
are refused part-way deletes what it had added. -/
theorem game_rules_exact_iff (engine : DaemonEngine) (hidle : engine.gameProcess.active = none)
    (calls : List GameCall) :
    (∀ front, front <+: calls → (run call ⟨engine, 0⟩ front).Exact ∧
      ((run call ⟨engine, 0⟩ front).engine.gameProcess.active = none →
        (run call ⟨engine, 0⟩ front).installed = 0)) ↔
      Along call Clean ⟨engine, 0⟩ calls := by
  have hi : (⟨engine, 0⟩ : GameHost).Exact := by
    rw [Exact, recorded, hidle]
    rfl
  have hs : ∀ (ho : GameHost) (g : GameCall), True → ho.Exact →
      ((ho.call g).2.Exact ↔ ho.Clean g) := by
    intro ho g _ he
    cases g with
    | start l a d => exact exact_start_iff he
    | stop s d => exact ⟨fun _ => trivial, fun _ => exact_stop he⟩
  rw [← forall_prefix_iff_along (fun _ => True) Exact (fun _ _ _ => trivial) hs trivial hi]
  refine forall₂_congr fun front _ => ⟨fun hb => hb.1, fun he => ⟨he, fun hn => ?_⟩⟩
  rw [Exact, recorded, hn] at he
  exact he

def factorioLaunch : GameLaunch where
  profileId := "factorio"
  executable := "/home/deck/factorio"
  sessionId := "s456def"
  callerUid := 1000
  cgroupPath := "/user.slice/user-1000.slice/user@1000.service/app.slice/quantumlink-game.slice/quantumlink-game-s456def.scope"

def factorioEngine : DaemonEngine where
  config := .default
  selectedProfile := some ⟨"factorio", ["factorio"], [34197]⟩
  appliedGameProfileId := some (some "factorio")
  gameProcess := ⟨none, none⟩

def secondRefused : Stream' (Except String UInt64) :=
  Stream'.cons (.ok 47) (Stream'.const (.error "nft: busy"))

/-- The second rule is refused and the first one deleted. -/
def tidyCalls : List GameCall := [.start factorioLaunch secondRefused (Stream'.const (.ok ()))]

theorem tidyCalls_exact : factorioEngine.gameProcess.active = none ∧
      ∀ front, front <+: tidyCalls → (run call ⟨factorioEngine, 0⟩ front).Exact ∧
        ((run call ⟨factorioEngine, 0⟩ front).engine.gameProcess.active = none →
          (run call ⟨factorioEngine, 0⟩ front).installed = 0) := by
  have hc : Along call Clean ⟨factorioEngine, 0⟩ tidyCalls :=
    ⟨fun _ _ _ _ _ _ _ _ _ => ⟨(), rfl⟩, trivial⟩
  exact ⟨rfl, (game_rules_exact_iff factorioEngine rfl tidyCalls).mpr hc⟩

/-- The second rule is refused and so is the deletion of the first. -/
def leakedCalls : List GameCall :=
  [.start factorioLaunch secondRefused (Stream'.const (.error "nft: busy"))]

/-- No game is active, and a rule that marks game traffic is installed. -/
theorem rule_leaked : (run call ⟨factorioEngine, 0⟩ leakedCalls).engine.gameProcess.active = none ∧
      (run call ⟨factorioEngine, 0⟩ leakedCalls).installed ≠ 0 := by
  decide +kernel

end GameHost

end QuantumLink.Network
