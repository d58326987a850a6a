/-
# LibraGovernor.Cli.HookGroups -- the hooks object of a settings document

A settings document is an object; its `hooks` are an object keyed by event, an event is an array
of groups, and a group has its handlers in an array of its own.  The two installers read and
write it alike: they go through the events they own, make the ones that are missing, and give
each event's groups to an edit of their own (`editRoot`).  A document of another shape is
refused, and nothing is written (`editRoot_isOk_iff`).
-/
import LibraGovernor.Lib.Document
import LibraGovernor.Lib.KeepFirst
import LibraGovernor.Lib.Transaction
import LibraGovernor.Cli.HookCommand

namespace LibraGovernor

open Transaction KeepFirst

set_option autoImplicit false

/-- What a document's object holds. -/
abbrev Root := List (String × Json)

inductive HookFileError where
  | unsafeBinaryPath (binary : String)
  | notAnObject
  | hooksFieldNotAnObject
  | hookEventNotAnArray (event : String)
  | writeLockUnavailable
  | concurrentModification
  | io
  deriving DecidableEq, Repr

/-- What becomes of a call's lock and of its write: the error each ends with, if any. -/
structure FileSystem where
  lock : Option HookFileError
  write : Option HookFileError

def FileSystem.fails : Option HookFileError → Except HookFileError Unit
  | some e => .error e
  | none => .ok ()

/-- The object of a file; `none` when there is no file. -/
def readObject : Option Json → Except HookFileError (Option Root)
  | none => .ok none
  | some (.object root) => .ok (some root)
  | some _ => .error .notAnObject

/-! ## Handlers and groups -/

def commandOf (h : Json) : Option String := (h.get "command").bind Json.asStr

/-- A group with no matcher, or an empty or `*` one, applies to every tool. -/
def matcherIsAllTools (group : Json) : Bool :=
  match group.get "matcher" with
  | none => true
  | some .null => true
  | some (.string m) => m.isEmpty || m = "*"
  | some _ => false

/-- A group's handlers, when it has an array of them. -/
def groupHooks (group : Json) : Option (List Json) := (group.get "hooks").bind Json.asArray

def fillHooks (group : Json) (handlers : List Json) : Json := group.replace "hooks" (.array handlers)

/-- The handlers an installer looks at. -/
def allToolsHooks (group : Json) : Option (List Json) :=
  if matcherIsAllTools group then groupHooks group else none

/-- Whether a command is Libra's for an event. -/
def commandIsOursFor (command subcommand : String) : Bool :=
  commandIsOursWithSuffix command.toList subcommand.toList true

/-- A handler whose command is Libra's for an event. -/
def handlerIsOursFor (subcommand : String) (h : Json) : Bool :=
  (commandOf h).any fun command => commandIsOursFor command subcommand

/-- Whether an installer takes a handler for the one it would write. -/
def ownsFor (command subcommand : String) (h : Json) : Bool :=
  (commandOf h).any fun existing => existing = command || commandIsOursFor existing subcommand

/-- Points a handler at the command; says whether it did not already. -/
def repoint (command : String) (h : Json) : Json × Bool :=
  if commandOf h = some command then (h, false)
  else (h.replace "command" (.string command), true)

/-- A group without the handlers that are owned, and whether that emptied it. -/
def stripGroup (owned : Json → Bool) (group : Json) : Json × Bool :=
  match groupHooks group with
  | none => (group, false)
  | some inner =>
      let kept := inner.filter fun h => !owned h
      (fillHooks group kept, !inner.isEmpty && kept.isEmpty)

/-- How many handlers of a group are owned. -/
def ownedCount (owned : Json → Bool) (group : Json) : Nat :=
  (((groupHooks group).getD []).filter owned).length

section Groups

variable {g : Json} {hs hs' : List Json}

theorem groupHooks_eq_some : groupHooks g = some hs ↔ g.get "hooks" = some (.array hs) := by
  rw [groupHooks, Option.bind_eq_some_iff]
  constructor
  · rintro ⟨j, here, array⟩
    rw [here, Json.asArray_eq_some.mp array]
  · intro here
    exact ⟨_, here, rfl⟩

theorem groupHooks_fill (found : groupHooks g = some hs) (hs' : List Json) :
    groupHooks (fillHooks g hs') = some hs' := by
  rw [groupHooks_eq_some] at found ⊢
  rw [fillHooks, Json.get_replace, if_pos rfl, found]
  rfl

theorem fillHooks_self (found : groupHooks g = some hs) : fillHooks g hs = g :=
  Json.replace_self (groupHooks_eq_some.mp found)

theorem fillHooks_fill (g : Json) (hs hs' : List Json) :
    fillHooks (fillHooks g hs) hs' = fillHooks g hs' := Json.replace_replace _ _ _ _

@[simp] theorem matcherIsAllTools_fill (g : Json) (hs : List Json) :
    matcherIsAllTools (fillHooks g hs) = matcherIsAllTools g := by
  have same : (fillHooks g hs).get "matcher" = g.get "matcher" := by
    rw [fillHooks, Json.get_replace, if_neg (by decide)]
  rw [matcherIsAllTools, same, matcherIsAllTools]

theorem allToolsHooks_eq_some :
    allToolsHooks g = some hs ↔ matcherIsAllTools g = true ∧ groupHooks g = some hs := by
  rw [allToolsHooks]
  by_cases all : matcherIsAllTools g = true
  · rw [if_pos all]
    exact ⟨fun found => ⟨all, found⟩, And.right⟩
  · rw [if_neg all]
    exact ⟨nofun, fun found => absurd found.1 all⟩

theorem allToolsHooks_fill (g : Json) (hs hs' : List Json) (found : allToolsHooks g = some hs) :
    allToolsHooks (fillHooks g hs') = some hs' := by
  rw [allToolsHooks_eq_some] at found ⊢
  exact ⟨by rw [matcherIsAllTools_fill, found.1], groupHooks_fill found.2 hs'⟩

theorem allToolsHooks_self (g : Json) (hs : List Json) (found : allToolsHooks g = some hs) :
    fillHooks g hs = g := fillHooks_self (allToolsHooks_eq_some.mp found).2

theorem commandOf_eq_some {h : Json} {c : String} :
    commandOf h = some c ↔ h.get "command" = some (.string c) := by
  rw [commandOf, Option.bind_eq_some_iff]
  constructor
  · rintro ⟨j, here, text⟩
    cases j <;> simp [Json.asStr] at text
    rw [here, text]
  · intro here
    exact ⟨_, here, rfl⟩

/-- A repointed handler has the command. -/
theorem commandOf_repoint {h : Json} {c command : String} (here : commandOf h = some c) :
    commandOf (repoint command h).1 = some command := by
  unfold repoint
  split
  · rename_i same
    exact same
  · rw [commandOf_eq_some] at here ⊢
    rw [Json.get_replace, if_pos rfl, here]
    rfl

theorem stripGroup_none {owned : Json → Bool} (none : groupHooks g = none) :
    stripGroup owned g = (g, false) := by
  rw [stripGroup, none]

theorem stripGroup_some {owned : Json → Bool} (found : groupHooks g = some hs) :
    stripGroup owned g = (fillHooks g (hs.filter fun h => !owned h),
      !hs.isEmpty && (hs.filter fun h => !owned h).isEmpty) := by
  rw [stripGroup, found]

/-- A group is emptied when it had handlers, all of them owned. -/
theorem stripGroup_emptied {owned : Json → Bool} :
    (stripGroup owned g).2 = true ↔
      ∃ hs, groupHooks g = some hs ∧ hs ≠ [] ∧ ∀ h ∈ hs, owned h = true := by
  cases found : groupHooks g with
  | none => simp [stripGroup_none found]
  | some hs => simp [stripGroup_some found, List.filter_eq_nil_iff]

/-- The handlers a group has after are those it had that are not owned. -/
theorem groupHooks_stripGroup (owned : Json → Bool) (g : Json) :
    groupHooks (stripGroup owned g).1 = (groupHooks g).map fun hs => hs.filter fun h => !owned h := by
  cases found : groupHooks g with
  | none => rw [stripGroup_none found, found]; rfl
  | some hs => rw [stripGroup_some found, groupHooks_fill found]; rfl

/-- Nothing changes where nothing is owned. -/
theorem stripGroup_of_none {owned : Json → Bool}
    (none : ∀ hs, groupHooks g = some hs → ∀ h ∈ hs, owned h = false) :
    stripGroup owned g = (g, false) := by
  cases found : groupHooks g with
  | none => exact stripGroup_none found
  | some hs =>
      have all : hs.filter (fun h => !owned h) = hs := by
        rw [List.filter_eq_self]
        intro h mem
        rw [none hs found h mem]
        rfl
      rw [stripGroup_some found, all, fillHooks_self found]
      cases hs <;> rfl

end Groups

/-! ## Installing for one event -/

/-- What an installer writes for one event: the command, what it does to the handler it keeps
and to the groups that were emptied, and the group it adds when it keeps none. -/
structure Installer where
  command : String
  subcommand : String
  touch : Json → Json × Bool
  drop : List (Json × Bool) → List Json
  group : Json

namespace Installer

/-- The scan of an event's groups for the handlers the installer takes for its own. -/
def scan (w : Installer) (groups : List Json) : List (Json × Bool) × Scan :=
  KeepFirst.groups (ownsFor w.command w.subcommand) w.touch allToolsHooks fillHooks .start groups

/-- The groups of an event after, and how many hooks were added or changed. -/
def install (w : Installer) (groups : List Json) : List Json × Nat :=
  let (scanned, scan) := w.scan groups
  let rest := w.drop scanned
  if scan.kept then (rest, scan.changed.toNat)
  else (rest ++ [w.group], scan.changed.toNat + 1)

/-- What the two installers have in common: the command is Libra's, a handler that was touched
has it and is not touched again, groups with handlers are not dropped, and the group that
is added has the one handler. -/
structure Lawful (w : Installer) : Prop where
  ours : commandIsOursFor w.command w.subcommand = true
  touched : ∀ h c, commandOf h = some c →
    commandOf (w.touch h).1 = some w.command ∧ w.touch (w.touch h).1 = ((w.touch h).1, false)
  members : ∀ scanned : List (Json × Bool),
    (∀ out ∈ scanned, out.2 = true → (allToolsHooks out.1).getD [] = []) →
    members allToolsHooks (w.drop scanned) = members allToolsHooks (scanned.map Prod.fst)
  none : ∀ scanned : List (Json × Bool), (∀ out ∈ scanned, out.2 = false) →
    w.drop scanned = scanned.map Prod.fst
  group : ∃ h, allToolsHooks w.group = some [h] ∧ commandOf h = some w.command ∧
    w.touch h = (h, false)

variable {w : Installer} (lawful : w.Lawful) (groups : List Json)

include lawful in
theorem oursFor_of_command {h : Json} (command : commandOf h = some w.command) :
    handlerIsOursFor w.subcommand h = true := by
  rw [handlerIsOursFor, command]
  exact lawful.ours

include lawful in
/-- The installer takes exactly Libra's handlers of the event for its own. -/
theorem ownsFor_eq : ownsFor w.command w.subcommand = handlerIsOursFor w.subcommand := by
  funext h
  rw [ownsFor, handlerIsOursFor]
  cases commandOf h with
  | none => rfl
  | some existing =>
      by_cases same : existing = w.command
      · simp [same, lawful.ours]
      · simp [same]

include lawful in
theorem scan_eq : w.scan groups =
    KeepFirst.groups (handlerIsOursFor w.subcommand) w.touch allToolsHooks fillHooks .start groups := by
  rw [scan, ownsFor_eq lawful]

include lawful in
theorem touched_ours {h : Json} (ours : handlerIsOursFor w.subcommand h = true) :
    handlerIsOursFor w.subcommand (w.touch h).1 = true := by
  obtain ⟨c, command, -⟩ := (Option.any_eq_true _ _).mp ours
  exact oursFor_of_command lawful (lawful.touched h c command).1

include lawful in
/-- A group that the scan emptied has no handlers left. -/
theorem members_scan : members allToolsHooks (w.drop (w.scan groups).1) =
    members allToolsHooks ((w.scan groups).1.map Prod.fst) := by
  refine lawful.members _ ?_
  intro out mem emptied
  obtain ⟨g, -, scanned⟩ := mem_groups mem
  rcases inner_scanned allToolsHooks_fill scanned with ⟨-, rfl⟩ | ⟨hs, s, -, inner, -, iff⟩
  · cases emptied
  · rw [inner, (iff.mp emptied).2]
    rfl

include lawful in
theorem scan_kept : (w.scan groups).2.kept =
    (members allToolsHooks groups).any (handlerIsOursFor w.subcommand) := by
  rw [scan_eq lawful, groups_kept]
  rfl

include lawful in
/-- Where no handler is Libra's, the scan leaves the groups. -/
theorem scan_of_none
    (none : ∀ h ∈ members allToolsHooks groups, handlerIsOursFor w.subcommand h = false) :
    w.scan groups = (groups.map fun g => (g, false), .start) := by
  rw [scan_eq lawful, groups_of_none allToolsHooks_self none]

include lawful in
/-- After it one handler of the event is Libra's; it has the command and is not touched again. -/
theorem install_one : ∃ h,
    (members allToolsHooks (w.install groups).1).filter (handlerIsOursFor w.subcommand) = [h] ∧
    commandOf h = some w.command ∧ w.touch h = (h, false) := by
  have owned := @groups_owned _ _ (handlerIsOursFor w.subcommand) w.touch allToolsHooks fillHooks
    allToolsHooks_fill (fun _ => touched_ours lawful) .start groups
  rw [← scan_eq lawful, ← members_scan lawful] at owned
  simp only [install, scan_kept lawful]
  cases found : (members allToolsHooks groups).find? (handlerIsOursFor w.subcommand) with
  | some h =>
      have ours : handlerIsOursFor w.subcommand h = true := List.find?_some found
      have loud : (members allToolsHooks groups).any (handlerIsOursFor w.subcommand) = true :=
        List.any_eq_true.mpr ⟨h, List.mem_of_find?_eq_some found, ours⟩
      obtain ⟨c, command, -⟩ := (Option.any_eq_true _ _).mp ours
      rw [found] at owned
      rw [loud, if_pos rfl]
      exact ⟨_, owned, lawful.touched h c command⟩
  | none =>
      have quiet : (members allToolsHooks groups).any (handlerIsOursFor w.subcommand) = false := by
        simpa using List.find?_eq_none.mp found
      obtain ⟨h, inner, command, still⟩ := lawful.group
      have ours := oursFor_of_command lawful command
      rw [found] at owned
      rw [quiet, if_neg Bool.false_ne_true, members_append, List.filter_append, owned, members_cons,
        inner]
      exact ⟨h, by simp [members, Scan.start, ours], command, still⟩

include lawful in
/-- A second time it changes nothing. -/
theorem install_again : w.install (w.install groups).1 = ((w.install groups).1, 0) := by
  obtain ⟨h, one, -, still⟩ := install_one lawful groups
  generalize (w.install groups).1 = after at one
  have some_ : (members allToolsHooks after).any (handlerIsOursFor w.subcommand) = true := by
    have mem : h ∈ (members allToolsHooks after).filter (handlerIsOursFor w.subcommand) := by
      rw [one]
      exact List.mem_singleton_self h
    exact List.any_eq_true.mpr ⟨h, List.mem_filter.mp mem⟩
  have settled := @groups_settled _ _ (handlerIsOursFor w.subcommand) w.touch allToolsHooks fillHooks
    allToolsHooks_self .start after nofun
    (by rw [one]; exact Nat.le_refl 1) (by
      intro h' mem ours
      have same : h' = h := by
        have listed := List.mem_filter.mpr ⟨mem, ours⟩
        rwa [one, List.mem_singleton] at listed
      rw [same, still])
  rw [← scan_eq lawful, some_] at settled
  have dropped : w.drop (after.map fun g => (g, false)) = after := by
    rw [lawful.none _ (by simp), List.map_map]
    exact List.map_id _
  simp only [install, settled, dropped]
  rfl

end Installer

/-! ## The hooks object -/

/-- The hooks object of a document. -/
def hooksObject (root : Root) : Option Root := (Fields.get "hooks" root).bind Json.asObject

/-- The value of an event. -/
def eventValue (root : Root) (event : String) : Option Json :=
  (hooksObject root).bind (Fields.get event)

/-- The groups of an event. -/
def eventGroups (root : Root) (event : String) : Option (List Json) :=
  (eventValue root event).bind Json.asArray

def groupAt (root : Root) (event : String) (group : Nat) : Option Json :=
  (eventGroups root event).bind fun groups => groups[group]?

/-- The handler at a place of an event: its group, and its place there. -/
def handlerAt (root : Root) (event : String) (group handler : Nat) : Option Json :=
  ((groupAt root event group).bind groupHooks).bind fun handlers => handlers[handler]?

theorem hooksObject_eq_some {root hooks : Root} :
    hooksObject root = some hooks ↔ Fields.get "hooks" root = some (.object hooks) := by
  rw [hooksObject, Option.bind_eq_some_iff]
  constructor
  · rintro ⟨j, here, object⟩
    rw [here, Json.asObject_eq_some.mp object]
  · intro here
    exact ⟨_, here, rfl⟩

theorem eventGroups_eq_some {root : Root} {event : String} {groups : List Json} :
    eventGroups root event = some groups ↔ eventValue root event = some (.array groups) := by
  rw [eventGroups, Option.bind_eq_some_iff]
  constructor
  · rintro ⟨j, here, array⟩
    rw [here, Json.asArray_eq_some.mp array]
  · intro here
    exact ⟨_, here, rfl⟩

theorem eventValue_of_hooks {root hooks : Root} (found : hooksObject root = some hooks)
    (event : String) : eventValue root event = Fields.get event hooks := by
  rw [eventValue, found, Option.bind_some]

theorem handlerAt_eq_some {root : Root} {event : String} {i j : Nat} {h : Json} :
    handlerAt root event i j = some h ↔ ∃ groups g hs, eventGroups root event = some groups ∧
      groups[i]? = some g ∧ groupHooks g = some hs ∧ hs[j]? = some h := by
  simp only [handlerAt, groupAt, Option.bind_eq_some_iff]
  constructor
  · rintro ⟨hs, ⟨g, ⟨groups, found, at_⟩, inner⟩, here⟩
    exact ⟨groups, g, hs, found, at_, inner, here⟩
  · rintro ⟨groups, g, hs, found, at_, inner, here⟩
    exact ⟨hs, ⟨g, ⟨groups, found, at_⟩, inner⟩, here⟩

/-! ## Editing the events -/

section Edit

variable {σ : Type} (event : σ → String) (edit : σ → List Json → List Json × Nat)

/-- Gives the groups of each event to the edit; a missing event has none. -/
def editEvents : List σ → Root → Except HookFileError (Root × Nat)
  | [], hooks => .ok (hooks, 0)
  | spec :: specs, hooks =>
      match (Fields.get (event spec) hooks).getD (.array []) with
      | .array groups => do
          let (hooks', n) ← editEvents specs
            (Fields.put (event spec) (.array (edit spec groups).1) hooks)
          return (hooks', (edit spec groups).2 + n)
      | _ => .error (.hookEventNotAnArray (event spec))

def editRoot (specs : List σ) (root : Root) : Except HookFileError (Root × Nat) :=
  match (Fields.get "hooks" root).getD (.object []) with
  | .object hooks => do
      let (hooks', n) ← editEvents event edit specs hooks
      return (Fields.put "hooks" (.object hooks') root, n)
  | _ => .error .hooksFieldNotAnObject

/-- The hooks are missing or an object, and each event is missing or an array. -/
def Editable (specs : List σ) (root : Root) : Prop :=
  ∃ hooks, (Fields.get "hooks" root).getD (.object []) = .object hooks ∧
    ∀ spec ∈ specs, ∃ groups, (Fields.get (event spec) hooks).getD (.array []) = .array groups

variable {event edit}

/-- What the edit of the events leaves. -/
theorem editEvents_ok {specs : List σ} (distinct : (specs.map event).Nodup) {hooks hooks' : Root}
    {n : Nat} (done : editEvents event edit specs hooks = .ok (hooks', n)) :
    (∀ key, key ∉ specs.map event → Fields.get key hooks' = Fields.get key hooks) ∧
    ∀ spec ∈ specs, ∃ groups, (Fields.get (event spec) hooks).getD (.array []) = .array groups ∧
      Fields.get (event spec) hooks' = some (.array (edit spec groups).1) := by
  induction specs generalizing hooks n with
  | nil =>
      cases done
      exact ⟨fun _ _ => rfl, nofun⟩
  | cons spec specs ih =>
      rw [editEvents] at done
      split at done
      · rename_i groups found
        obtain ⟨⟨mid, m⟩, rest, done⟩ := (bind_eq_ok_iff _ _ _).mp done
        cases done
        rw [List.map_cons, List.nodup_cons] at distinct
        obtain ⟨others, each⟩ := ih distinct.2 rest
        refine ⟨?_, ?_⟩
        · intro key apart
          rw [List.map_cons, List.mem_cons, not_or] at apart
          rw [others key apart.2, Fields.get_put, if_neg apart.1]
        · intro spec' mem
          rcases List.mem_cons.mp mem with rfl | mem
          · refine ⟨groups, found, ?_⟩
            rw [others _ distinct.1, Fields.get_put, if_pos rfl]
          · have apart : event spec' ≠ event spec := by
              intro same
              exact distinct.1 (same ▸ List.mem_map_of_mem mem)
            obtain ⟨groups', found', written⟩ := each spec' mem
            rw [Fields.get_put, if_neg apart] at found'
            exact ⟨groups', found', written⟩
      · cases done

variable (edit) in
theorem editEvents_isOk {specs : List σ} (distinct : (specs.map event).Nodup) {hooks : Root}
    (arrays : ∀ spec ∈ specs, ∃ groups,
      (Fields.get (event spec) hooks).getD (.array []) = .array groups) :
    ∃ done, editEvents event edit specs hooks = .ok done := by
  induction specs generalizing hooks with
  | nil => exact ⟨_, rfl⟩
  | cons spec specs ih =>
      obtain ⟨groups, found⟩ := arrays spec List.mem_cons_self
      rw [List.map_cons, List.nodup_cons] at distinct
      have arrays' : ∀ spec' ∈ specs, ∃ groups', (Fields.get (event spec')
          (Fields.put (event spec) (.array (edit spec groups).1) hooks)).getD (.array []) =
          .array groups' := by
        intro spec' mem
        have apart : event spec' ≠ event spec := by
          intro same
          exact distinct.1 (same ▸ List.mem_map_of_mem mem)
        obtain ⟨groups', found'⟩ := arrays spec' (List.mem_cons_of_mem spec mem)
        exact ⟨groups', by rw [Fields.get_put, if_neg apart, found']⟩
      obtain ⟨done, rest⟩ := ih distinct.2 arrays'
      refine ⟨(done.1, (edit spec groups).2 + done.2), ?_⟩
      simp only [editEvents, found, rest]
      rfl

/-- An edit that changes nothing of what it left is not made a second time. -/
theorem editEvents_still {specs : List σ} {hooks : Root}
    (still : ∀ spec ∈ specs, ∃ groups, Fields.get (event spec) hooks = some (.array groups) ∧
      edit spec groups = (groups, 0)) : editEvents event edit specs hooks = .ok (hooks, 0) := by
  induction specs with
  | nil => rfl
  | cons spec specs ih =>
      obtain ⟨groups, found, quiet⟩ := still spec List.mem_cons_self
      have rest := ih fun spec' mem => still spec' (List.mem_cons_of_mem spec mem)
      simp only [editEvents, found, Option.getD_some, quiet, Fields.put_self found, rest]
      rfl

/-- An edit of a document that can be edited is done. -/
theorem editRoot_isOk_iff {specs : List σ} (distinct : (specs.map event).Nodup) (root : Root) :
    (∃ done, editRoot event edit specs root = .ok done) ↔ Editable event specs root := by
  unfold editRoot Editable
  constructor
  · rintro ⟨done, ok⟩
    split at ok
    · rename_i hooks found
      obtain ⟨⟨hooks', n⟩, edited, -⟩ := (bind_eq_ok_iff _ _ _).mp ok
      refine ⟨hooks, found, ?_⟩
      intro spec mem
      obtain ⟨groups, array, -⟩ := (editEvents_ok distinct edited).2 spec mem
      exact ⟨groups, array⟩
    · cases ok
  · rintro ⟨hooks, found, arrays⟩
    obtain ⟨⟨hooks', n⟩, edited⟩ := editEvents_isOk edit distinct arrays
    refine ⟨(Fields.put "hooks" (.object hooks') root, n), ?_⟩
    simp only [found, edited]
    rfl

/-- What an edit leaves of a document. -/
theorem editRoot_ok {specs : List σ} (distinct : (specs.map event).Nodup) {root root' : Root}
    {n : Nat} (done : editRoot event edit specs root = .ok (root', n)) :
    (∀ key, key ≠ "hooks" → Fields.get key root' = Fields.get key root) ∧
    (∃ hooks', hooksObject root' = some hooks') ∧
    (∀ e, e ∉ specs.map event → eventValue root' e = eventValue root e) ∧
    ∀ spec ∈ specs,
      (eventValue root (event spec) = none ∨ ∃ groups, eventGroups root (event spec) = some groups) ∧
      eventGroups root' (event spec) =
        some (edit spec ((eventGroups root (event spec)).getD [])).1 := by
  unfold editRoot at done
  split at done
  · rename_i hooks found
    obtain ⟨⟨hooks', m⟩, edited, done⟩ := (bind_eq_ok_iff _ _ _).mp done
    cases done
    obtain ⟨others, each⟩ := editEvents_ok distinct edited
    have after : hooksObject (Fields.put "hooks" (.object hooks') root) = some hooks' := by
      rw [hooksObject_eq_some, Fields.get_put, if_pos rfl]
    have before : ∀ e, eventValue root e = Fields.get e hooks := by
      intro e
      rw [eventValue, hooksObject]
      cases here : Fields.get "hooks" root with
      | none =>
          rw [here] at found
          cases found
          rfl
      | some j =>
          rw [here] at found
          cases found
          rfl
    refine ⟨?_, ⟨hooks', after⟩, ?_, ?_⟩
    · intro key apart
      rw [Fields.get_put, if_neg apart]
    · intro e apart
      rw [eventValue_of_hooks after, others e apart, before]
    · intro spec mem
      obtain ⟨groups, array, written⟩ := each spec mem
      rw [eventGroups_eq_some, eventValue_of_hooks after, eventGroups, before, written]
      cases here : Fields.get (event spec) hooks with
      | none =>
          rw [here] at array
          cases array
          exact ⟨.inl rfl, rfl⟩
      | some j =>
          rw [here] at array
          cases array
          exact ⟨.inr ⟨groups, rfl⟩, rfl⟩
  · cases done

/-- An edit that each event can be filtered back from leaves what a filter makes of the events. -/
theorem editEvents_filterMap {choose : String × Json → Option (String × Json)} {specs : List σ}
    (distinct : (specs.map event).Nodup) {hooks hooks' : Root} {n : Nat}
    (back : ∀ spec ∈ specs, ∀ groups,
      (Fields.get (event spec) hooks).getD (.array []) = .array groups →
      choose (event spec, .array (edit spec groups).1) =
        (Fields.get (event spec) hooks).bind fun old => choose (event spec, old))
    (done : editEvents event edit specs hooks = .ok (hooks', n)) :
    hooks'.filterMap choose = hooks.filterMap choose := by
  induction specs generalizing hooks n with
  | nil =>
      cases done
      rfl
  | cons spec specs ih =>
      rw [editEvents] at done
      split at done
      · rename_i groups found
        obtain ⟨⟨mid, m⟩, rest, done⟩ := (bind_eq_ok_iff _ _ _).mp done
        cases done
        rw [List.map_cons, List.nodup_cons] at distinct
        have step := Fields.filterMap_put (back spec List.mem_cons_self groups found)
        rw [ih distinct.2 ?_ rest, step]
        intro spec' mem groups' found'
        have apart : event spec' ≠ event spec := by
          intro same
          exact distinct.1 (same ▸ List.mem_map_of_mem mem)
        rw [Fields.get_put, if_neg apart] at found' ⊢
        exact back spec' (List.mem_cons_of_mem spec mem) groups' found'
      · cases done

theorem editRoot_eq {specs : List σ} {root root' : Root} {n : Nat}
    (done : editRoot event edit specs root = .ok (root', n)) :
    ∃ hooks hooks', (Fields.get "hooks" root).getD (.object []) = .object hooks ∧
      editEvents event edit specs hooks = .ok (hooks', n) ∧
      root' = Fields.put "hooks" (.object hooks') root := by
  unfold editRoot at done
  split at done
  · rename_i hooks found
    obtain ⟨⟨hooks', m⟩, edited, done⟩ := (bind_eq_ok_iff _ _ _).mp done
    cases done
    exact ⟨hooks, hooks', found, edited, rfl⟩
  · cases done

theorem editRoot_still {specs : List σ} {root hooks : Root} (found : hooksObject root = some hooks)
    (still : ∀ spec ∈ specs, ∃ groups, eventGroups root (event spec) = some groups ∧
      edit spec groups = (groups, 0)) : editRoot event edit specs root = .ok (root, 0) := by
  have object := hooksObject_eq_some.mp found
  have quiet : editEvents event edit specs hooks = .ok (hooks, 0) := by
    refine editEvents_still ?_
    intro spec mem
    obtain ⟨groups, array, same⟩ := still spec mem
    rw [eventGroups_eq_some, eventValue_of_hooks found] at array
    exact ⟨groups, array, same⟩
  simp only [editRoot, object, Option.getD_some, quiet]
  show Except.ok (Fields.put "hooks" (.object hooks) root, 0) = _
  rw [Fields.put_self object]

end Edit

end LibraGovernor
