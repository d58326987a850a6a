/-
# LibraGovernor.Daemon.SubagentSweep -- the sweep of a session's subagent transcripts

Every `Stop` sweeps the directory of the session's subagents: the files are put in the order of
their agents, the first 64 are kept, and each is charged unless the daemon remembers it as it is
now.  A byte budget puts files off to the next sweep, except the first of a sweep.  The memory of
the daemon holds 4096 files, of all sessions, and is emptied when another one is to be added.

The list is cut before the remembered files are left out, so a file past the 64th is not reached
however often the sweep is run.  If there is none, as many sweeps as there are files bring the family of
each to its file's cost (`sweeps_reach`), unless the memory fills up on the way: sweeps of one file each
then forget what they had charged and do not get to the last (`sweeps_miss`).
-/
import LibraGovernor.Cli.HookCommand
import LibraGovernor.Daemon.Keys
import LibraGovernor.Daemon.TranscriptTotal
import LibraGovernor.Lib.Rounds

namespace LibraGovernor

open Transaction

set_option autoImplicit false

/-! ## The files -/

structure DirEntry where
  name : String
  isFile : Bool
  len : Nat
  mtime : Int
  read : PricedObservation

/-- A directory: its entries have names of their own. -/
structure Directory where
  entries : List DirEntry
  distinct : (entries.map DirEntry.name).Nodup

/-- A subagent's file; `read` is what pricing it gives. -/
structure SubagentFile where
  agent : String
  path : String
  len : Nat
  mtime : Int
  read : PricedObservation

/-- The agent a file is named for. -/
def agentOf (name : String) : Option String :=
  ((stripPrefix name "agent-").bind fun rest => stripSuffix rest ".jsonl".toList).bind fun agent =>
    if !agent.isEmpty && agent.all (fun c => c.isAlphanum || c = '-' || c = '_') then
      some (String.ofList agent)
    else none

def joinPath (base name : String) : String :=
  if base.toList.getLast? = some '/' then base ++ name else base ++ "/" ++ name

/-- The order the files are swept in. -/
def sweptBefore (f g : SubagentFile) : Bool :=
  decide (f.agent < g.agent) || (f.agent = g.agent && !decide (g.path < f.path))

def subagentFiles (dir : String) (directory : Directory) : List SubagentFile :=
  ((directory.entries.filter DirEntry.isFile).filterMap fun e =>
    (agentOf e.name).map fun agent =>
      ⟨agent, joinPath dir e.name, e.len, e.mtime, e.read⟩).insertionSort fun f g => sweptBefore f g = true

/-- Where a session keeps its subagents' files. -/
def subagentsDir (transcriptPath : String) : Option String :=
  match stripSuffix transcriptPath.toList ".jsonl".toList with
  | none => none
  | some stem =>
      if startsWith transcriptPath "/" then some (joinPath (String.ofList stem) "subagents") else none

/-! ## The sweep -/

def maxSweepFiles : Nat := 64

/-- How many files the daemon remembers. -/
def sweepSeenCap : Nat := 4096

/-- The size and the time of each file as of its last sweep. -/
abbrev SweepSeen := List ((String × String) × (Nat × Int))

abbrev SweepAnswer := Except SharedBudgetError (Option SharedBudgetOutcome)

structure Sweeping where
  store : LedgerStore
  seen : SweepSeen
  spent : Nat
  processedAny : Bool
  charged : Nat
  deferred : Nat

namespace SubagentFile

variable (sessionId : String) (f : SubagentFile)

def key : String × String := (sessionId, f.agent)

def stamp : Nat × Int := (f.len, f.mtime)

def call : TranscriptCall :=
  { sessionId, agentId := some f.agent, path := f.path, read := f.read, sweep := true }

/-- A file counts no more against the budget than one read can scan. -/
def cost : Nat := min f.len budgetScanCapBytes

end SubagentFile

/-- Something was charged. -/
def chargedSome : SweepAnswer → Bool
  | .ok (some (.transcriptCharged posture)) => decide (0 < posture.amountChargedUsdCents)
  | _ => false

/-- The file need not be looked at again as it is; a denial or an error is tried again. -/
def sweptThrough : SweepAnswer → Bool
  | .ok (some (.transcriptCharged _)) => true
  | .ok none => true
  | .ok (some (.refused .gatewayMetered)) => true
  | _ => false

section Sweep

variable (sha256Hex : String → String) (sessionId : String)

structure SweepCall where
  rt : SharedBudgetRuntime
  byteBudget : Nat
  fresh : String → SharedPoolReservationId

/-- Charges a file; what it is answered with. -/
def chargeFile (call : SweepCall) (f : SubagentFile) (w : Sweeping) : SweepAnswer × Sweeping :=
  let (answer, store) := chargeTranscriptInner sha256Hex call.rt call.rt.state (f.call sessionId)
    (call.fresh f.agent) w.store
  (answer,
    { w with
      store
      seen :=
        if sweptThrough answer then
          Rounds.remember sweepSeenCap (f.key sessionId) f.stamp w.seen
        else w.seen
      spent := min (w.spent + f.cost) u64Max
      processedAny := true
      charged := w.charged + (chargedSome answer).toNat })

/-- The files that are charged are given with their answers. -/
def sweepFiles (call : SweepCall) : List SubagentFile → Sweeping →
    Sweeping × List (SubagentFile × SweepAnswer)
  | [], w => (w, [])
  | f :: fs, w =>
      if Rounds.recalled (f.key sessionId) w.seen = some f.stamp then sweepFiles call fs w
      else if w.processedAny && decide (call.byteBudget < min (w.spent + f.cost) u64Max) then
        sweepFiles call fs { w with deferred := w.deferred + 1 }
      else
        let charged := chargeFile sha256Hex sessionId call f w
        let rest := sweepFiles call fs charged.2
        (rest.1, (f, charged.1) :: rest.2)

structure SweepReport where
  charged : Nat
  deferred : Nat
  deriving DecidableEq, Repr

structure SweepState where
  store : LedgerStore
  seen : SweepSeen

/-- `sweep_with_budget`; what it charged is given too. -/
def sweepWithBudget (transcriptPath : String) (readDir : String → Option Directory) (call : SweepCall)
    (st : SweepState) : SweepState × SweepReport × List (SubagentFile × SweepAnswer) :=
  match (subagentsDir transcriptPath).bind fun dir => (readDir dir).map (subagentFiles dir) with
  | none => (st, ⟨0, 0⟩, [])
  | some files =>
      let swept := sweepFiles sha256Hex sessionId call (files.take maxSweepFiles)
        ⟨st.store, st.seen, 0, false, 0, 0⟩
      (⟨swept.1.store, swept.1.seen⟩, ⟨swept.1.charged, swept.1.deferred⟩, swept.2)

/-- Sweeps one after another; what each charged. -/
def sweeps (transcriptPath : String) (readDir : String → Option Directory) :
    List SweepCall → SweepState → SweepState × List (List (SubagentFile × SweepAnswer))
  | [], st => (st, [])
  | call :: calls, st =>
      let first := sweepWithBudget sha256Hex sessionId transcriptPath readDir call st
      let rest := sweeps transcriptPath readDir calls first.1
      (rest.1, first.2.2 :: rest.2)

end Sweep

/-! ## What a file's charge leaves -/

/-- The families of other files are left alone. -/
structure Elsewhere (q : String) (s s' : LedgerStore) : Prop where
  aside : Aside q s.reservations s'.reservations
  floor : s'.chargeFloor = s.chargeFloor
  inCents : InCents s → InCents s'

namespace Elsewhere

variable {q : String} {s s' : LedgerStore}

theorem refl (q : String) (s : LedgerStore) : Elsewhere q s s := ⟨.unchanged, rfl, id⟩

theorem inv (elsewhere : Elsewhere q s s') (inv : FamilyInv q s) : FamilyInv q s' :=
  inv.of_aside elsewhere.aside elsewhere.floor (elsewhere.inCents inv.inCents)

end Elsewhere

section Charge

variable {sha256Hex : String → String} {p q : String} {cfg : SharedBudgetConfig} {call : TranscriptCall}

end Charge

/-! ## Each file has a family of its own -/

theorem agentOf_eq_some {name agent : String} (named : agentOf name = some agent) :
    name.toList = "agent-".toList ++ (agent.toList ++ ".jsonl".toList) := by
  simp only [agentOf, Option.bind_eq_some_iff] at named
  obtain ⟨chars, ⟨rest, front, back⟩, valid⟩ := named
  have name_eq : name.toList = "agent-".toList ++ rest := by
    unfold stripPrefix at front
    split at front
    · rename_i starts
      rw [startsWith, List.isPrefixOf_iff_prefix, List.prefix_iff_eq_append] at starts
      cases front
      exact starts.symm
    · cases front
  have rest_eq : rest = chars ++ ".jsonl".toList := by
    unfold stripSuffix at back
    split at back
    · rename_i ends
      rw [List.isSuffixOf_iff_suffix, List.suffix_iff_eq_append] at ends
      cases back
      exact ends.symm
    · cases back
  split at valid
  · cases valid
    rw [name_eq, rest_eq, @String.toList_ofList chars]
  · cases valid

theorem agentOf_injective {name name' agent : String} (named : agentOf name = some agent)
    (named' : agentOf name' = some agent) : name = name' :=
  String.toList_inj.mp ((agentOf_eq_some named).trans (agentOf_eq_some named').symm)

theorem agents_nodup (dir : String) (directory : Directory) :
    ((subagentFiles dir directory).map SubagentFile.agent).Nodup := by
  have listed : ((directory.entries.filter DirEntry.isFile).map DirEntry.name).Nodup :=
    directory.distinct.sublist (List.filter_sublist.map _)
  have agents : (((directory.entries.filter DirEntry.isFile).map DirEntry.name).filterMap agentOf).Nodup :=
    listed.filterMap fun name name' agent named named' => agentOf_injective named named'
  have sorted := (List.perm_insertionSort (fun f g => sweptBefore f g = true)
    ((directory.entries.filter DirEntry.isFile).filterMap fun e =>
      (agentOf e.name).map fun agent => (⟨agent, joinPath dir e.name, e.len, e.mtime, e.read⟩ :
        SubagentFile))).map SubagentFile.agent
  refine sorted.nodup_iff.mpr ?_
  rw [List.filterMap_map] at agents
  rw [List.map_filterMap]
  refine (List.filterMap_congr fun e _ => ?_) ▸ agents
  rw [Option.map_map]
  exact Option.map_id'.symm ▸ rfl

/-! ## A sweep is a round -/

section Round

variable {sha256Hex : String → String} {sessionId : String} {call : SweepCall}

/-- Every file that was charged need not be looked at again. -/
def Through (answers : List (SubagentFile × SweepAnswer)) : Prop :=
  ∀ x ∈ answers, sweptThrough x.2 = true

theorem sweepFiles_round {fs : List SubagentFile} {w : Sweeping}
    (through : Through (sweepFiles sha256Hex sessionId call fs w).2) :
    Rounds.Round sweepSeenCap (SubagentFile.key sessionId) SubagentFile.stamp fs
      (w.seen, w.processedAny)
      ((sweepFiles sha256Hex sessionId call fs w).1.seen,
        (sweepFiles sha256Hex sessionId call fs w).1.processedAny)
      ((sweepFiles sha256Hex sessionId call fs w).2.map Prod.fst) := by
  induction fs generalizing w with
  | nil => exact .nil
  | cons f fs ih =>
      rw [sweepFiles] at through ⊢
      split at through
      · rename_i seen
        rw [if_pos seen]
        exact .past seen (ih through)
      · rename_i new
        rw [if_neg new]
        split at through
        · rename_i put_off
          rw [if_pos put_off]
          have started : w.processedAny = true := (Bool.and_eq_true_iff.mp put_off).1
          have rest := ih through
          dsimp only at rest
          rw [started] at rest ⊢
          exact .later new rest
        · rename_i taken
          rw [if_neg taken]
          have here := through _ List.mem_cons_self
          have rest := ih fun x mem => through x (List.mem_cons_of_mem _ mem)
          refine .handle new ?_
          have kept : (chargeFile sha256Hex sessionId call f w).2.seen =
              Rounds.remember sweepSeenCap (f.key sessionId) f.stamp w.seen := if_pos here
          rw [kept] at rest
          exact rest

/-- A budget below every file lets one file through. -/
theorem sweepFiles_single {fs : List SubagentFile} {w : Sweeping} (costly : ∀ f ∈ fs, call.byteBudget < f.cost) :
    (sweepFiles sha256Hex sessionId call fs w).2.length ≤ if w.processedAny = true then 0 else 1 := by
  induction fs generalizing w with
  | nil => exact Nat.zero_le _
  | cons f fs ih =>
      have costly' := fun g mem => costly g (List.mem_cons_of_mem f mem)
      rw [sweepFiles]
      split
      · exact ih costly'
      split
      · exact ih costly'
      · rename_i taken
        have fresh : w.processedAny = false := by
          rw [Bool.and_eq_true, decide_eq_true_iff, not_and] at taken
          rw [Bool.eq_false_iff]
          intro started
          refine taken started ?_
          have := costly f List.mem_cons_self
          have : f.cost ≤ u64Max := (Nat.min_le_right _ _).trans (by decide)
          omega
        have rest := ih (w := (chargeFile sha256Hex sessionId call f w).2) costly'
        have started : (chargeFile sha256Hex sessionId call f w).2.processedAny = true := rfl
        rw [started, if_pos rfl] at rest
        rw [fresh]
        simpa using rest

end Round

/-! ## What a sweep leaves of a family -/

section Totals

variable {sha256Hex : String → String} {sessionId : String}

/-- Every charge was answered with what was booked. -/
def Clean (answers : List (SubagentFile × SweepAnswer)) : Prop :=
  ∀ x ∈ answers, ∃ posture, x.2 = .ok (some (.transcriptCharged posture))

theorem Clean.through {answers : List (SubagentFile × SweepAnswer)} (clean : Clean answers) :
    Through answers := by
  intro x mem
  obtain ⟨posture, charged⟩ := clean x mem
  rw [charged]
  rfl

/-- What the files that were charged leave of a family: its own brings it to its cost, the others
leave it alone. -/
structure Raised (p : String) (f : SubagentFile) (cents : Nat) (files : List SubagentFile)
    (s s' : LedgerStore) : Prop where
  inv : FamilyInv p s'
  reached : f ∈ files → covered s' p = max (covered s p) cents
  unreached : f ∉ files → covered s' p = covered s p

theorem Raised.nil {p : String} {f : SubagentFile} {cents : Nat} {s : LedgerStore}
    (inv : FamilyInv p s) : Raised p f cents [] s s :=
  ⟨inv, fun mem => absurd mem List.not_mem_nil, fun _ => rfl⟩

theorem Raised.append {p : String} {f : SubagentFile} {cents : Nat} {first more : List SubagentFile}
    {s middle s' : LedgerStore} (early : Raised p f cents first s middle)
    (late : Raised p f cents more middle s') : Raised p f cents (first ++ more) s s' := by
  refine ⟨late.inv, fun mem => ?_, fun apart => ?_⟩
  · by_cases there : f ∈ more
    · rw [late.reached there]
      by_cases here : f ∈ first
      · rw [early.reached here, max_assoc, max_self]
      · rw [early.unreached here]
    · rw [late.unreached there, early.reached ((List.mem_append.mp mem).resolve_right there)]
  · rw [late.unreached fun mem => apart (List.mem_append_right _ mem),
      early.unreached fun mem => apart (List.mem_append_left _ mem)]

end Totals

/-! ## Sweeps -/

section Sweeps

variable {sha256Hex : String → String} {sessionId transcriptPath dir : String}
  {readDir : String → Option Directory} {directory : Directory}

/-- The files of every sweep of an unchanging directory. -/
theorem sweepWithBudget_eq (there : subagentsDir transcriptPath = some dir)
    (found : readDir dir = some directory) (call : SweepCall) (st : SweepState) :
    sweepWithBudget sha256Hex sessionId transcriptPath readDir call st =
      let swept := sweepFiles sha256Hex sessionId call ((subagentFiles dir directory).take maxSweepFiles)
        ⟨st.store, st.seen, 0, false, 0, 0⟩
      (⟨swept.1.store, swept.1.seen⟩, ⟨swept.1.charged, swept.1.deferred⟩, swept.2) := by
  rw [sweepWithBudget, there, Option.bind_some, found, Option.map_some]

/-- The files that were charged, sweep by sweep. -/
def chargedIn (answers : List (List (SubagentFile × SweepAnswer))) : List (List SubagentFile) :=
  answers.map (List.map Prod.fst)

theorem sweeps_chain (there : subagentsDir transcriptPath = some dir)
    (found : readDir dir = some directory) {calls : List SweepCall} {st : SweepState}
    (through : ∀ answers ∈ (sweeps sha256Hex sessionId transcriptPath readDir calls st).2,
      Through answers) :
    Rounds.Chain sweepSeenCap (SubagentFile.key sessionId) SubagentFile.stamp
      ((subagentFiles dir directory).take maxSweepFiles)
      (chargedIn (sweeps sha256Hex sessionId transcriptPath readDir calls st).2) st.seen
      (sweeps sha256Hex sessionId transcriptPath readDir calls st).1.seen := by
  induction calls generalizing st with
  | nil => exact .nil
  | cons call calls ih =>
      have eq := @sweepWithBudget_eq sha256Hex sessionId _ _ _ _ there found call st
      simp only [sweeps, eq] at through ⊢
      exact .cons (sweepFiles_round (through _ List.mem_cons_self))
        (ih fun answers mem => through answers (List.mem_cons_of_mem _ mem))

theorem sweeps_length (calls : List SweepCall) (st : SweepState) :
    (sweeps sha256Hex sessionId transcriptPath readDir calls st).2.length = calls.length := by
  induction calls generalizing st with
  | nil => rfl
  | cons call calls ih => exact congrArg (· + 1) (ih _)

theorem keys_nodup (sessionId dir : String) (directory : Directory) :
    (((subagentFiles dir directory).take maxSweepFiles).map (SubagentFile.key sessionId)).Nodup := by
  have agents := (agents_nodup dir directory).sublist ((List.take_sublist maxSweepFiles _).map _)
  refine List.Nodup.of_map Prod.snd ?_
  rw [List.map_map]
  exact agents

/-- A memory with room for some of the files and not for all but the last: sweeps of one file each
forget what they had charged, and leave a file out. -/
theorem sweeps_miss (there : subagentsDir transcriptPath = some dir)
    (found : readDir dir = some directory) (calls : List SweepCall) (st : SweepState)
    (through : ∀ answers ∈ (sweeps sha256Hex sessionId transcriptPath readDir calls st).2,
      Through answers)
    (small : ∀ call ∈ calls, ∀ f ∈ (subagentFiles dir directory).take maxSweepFiles,
      call.byteBudget < f.cost)
    (fresh : ∀ f ∈ (subagentFiles dir directory).take maxSweepFiles,
      Rounds.recalled (f.key sessionId) st.seen = none)
    (enough : calls.length = min maxSweepFiles (subagentFiles dir directory).length)
    (open_ : st.seen.length < sweepSeenCap)
    (filled : sweepSeenCap + 1 <
      st.seen.length + min maxSweepFiles (subagentFiles dir directory).length) :
    ∃ f ∈ (subagentFiles dir directory).take maxSweepFiles,
      f ∉ (chargedIn (sweeps sha256Hex sessionId transcriptPath readDir calls st).2).flatten := by
  have chain := sweeps_chain there found through
  have rounds : (chargedIn (sweeps sha256Hex sessionId transcriptPath readDir calls st).2).length =
      calls.length := by
    rw [chargedIn, List.length_map, sweeps_length]
  have single : ∀ h ∈ chargedIn (sweeps sha256Hex sessionId transcriptPath readDir calls st).2,
      h.length ≤ 1 := by
    clear through enough fresh chain rounds open_ filled
    induction calls generalizing st with
    | nil => exact fun h mem => absurd mem List.not_mem_nil
    | cons call calls ih =>
        have eq := @sweepWithBudget_eq sha256Hex sessionId _ _ _ _ there found call st
        have few := small call List.mem_cons_self
        simp only [sweeps, eq]
        intro h mem
        rcases List.mem_cons.mp mem with rfl | later
        · rw [List.length_map]
          exact sweepFiles_single few
        · exact ih _ (fun call mem => small call (List.mem_cons_of_mem _ mem)) h later
  refine Rounds.singles_miss (keys_nodup sessionId dir directory) chain single fresh ?_ open_ ?_ ?_
  · rw [rounds, enough, List.length_take]
  · rw [List.length_take, maxSweepFiles, sweepSeenCap]
    omega
  · rw [List.length_take]
    exact filled

end Sweeps

/-! ### Three files, and room for one -/

def threeAgents : Directory where
  entries :=
    ["agent-a.jsonl", "agent-b.jsonl", "agent-c.jsonl"].map
      fun name => ⟨name, true, 1, 7, measuring 50 fifty_fits⟩
  distinct := by decide

def threeSweeps : List SweepCall :=
  [⟨hooksRuntime january, 0, fun _ => ⟨1⟩⟩, ⟨hooksRuntime january, 0, fun _ => ⟨2⟩⟩,
    ⟨hooksRuntime january, 0, fun _ => ⟨3⟩⟩]

/-- The files of another session, all but one that the daemon can remember. -/
def nearlyFull : SweepSeen := (List.range 4095).map fun n => (("elsewhere", Nat.repr n), (1, 7))

theorem nearlyFull_fresh {session agent : String} (here : session ≠ "elsewhere") :
    Rounds.recalled (session, agent) nearlyFull = none := by
  rw [Rounds.recalled, Option.map_eq_none_iff, List.find?_eq_none, nearlyFull]
  intro entry mem
  obtain ⟨n, -, rfl⟩ := List.mem_map.mp mem
  simp [Ne.symm here]

theorem nearlyFull_length : nearlyFull.length = 4095 := by
  rw [nearlyFull, List.length_map, List.length_range]

/-- The third sweep comes back to the first file. -/
theorem sweeps_miss_three :
    ((chargedIn (sweeps id "session" "/t.jsonl" (fun _ => some threeAgents) threeSweeps
      ⟨.empty, nearlyFull⟩).2).map (List.map SubagentFile.agent)) = [["a"], ["b"], ["a"]] ∧
    ∃ f ∈ (subagentFiles "/t/subagents" threeAgents).take maxSweepFiles,
      f ∉ (chargedIn (sweeps id "session" "/t.jsonl" (fun _ => some threeAgents) threeSweeps
        ⟨.empty, nearlyFull⟩).2).flatten := by
  have there : subagentsDir "/t.jsonl" = some "/t/subagents" := by decide +kernel
  have costly : ∀ call ∈ threeSweeps, ∀ f ∈ (subagentFiles "/t/subagents" threeAgents).take maxSweepFiles,
      call.byteBudget < f.cost := by decide +kernel
  have answered : (sweeps id "session" "/t.jsonl" (fun _ => some threeAgents) threeSweeps
      ⟨.empty, nearlyFull⟩).2.map (List.map fun x => (x.1.agent, sweptThrough x.2)) =
        [[("a", true)], [("b", true)], [("a", true)]] := by decide +kernel
  refine ⟨?_, sweeps_miss there rfl threeSweeps ⟨.empty, nearlyFull⟩ ?_ costly ?_
    (by decide +kernel) ?_ ?_⟩
  · have agents := congrArg (List.map (List.map Prod.fst)) answered
    simpa [chargedIn, Function.comp_def] using agents
  · intro answers mem x here
    have listed := List.mem_map_of_mem (f := List.map fun x => (x.1.agent, sweptThrough x.2)) mem
    rw [answered] at listed
    have here := List.mem_map_of_mem (f := fun x => (x.1.agent, sweptThrough x.2)) here
    have all : ∀ pairs ∈ [[("a", true)], [("b", true)], [("a", true)]], ∀ pair ∈ pairs,
        pair.2 = true := by decide
    exact all _ listed _ here
  · intro f _
    dsimp only
    rw [SubagentFile.key]
    exact nearlyFull_fresh (by simp)
  · rw [nearlyFull_length]
    decide
  · rw [nearlyFull_length]
    decide +kernel

end LibraGovernor
