/-
# LibraGovernor.Cli.CodexHooksFile -- editing Codex's `hooks.json`

Codex keys the trust of a hook by its event, the index of its group and its index in the
group.  `apply` keeps the first handler of each event that is Libra's and drops later ones,
`remove` drops every one; a group that this empties is dropped only while it is the last of
its event, so the groups after it keep their index.

The handlers of one group have no such care: what stands after a dropped handler moves up.
So no foreign handler moves exactly when no handler of Libra's stands before one in its group
(`filter_places_iff`).  And `remove` drops an event all of whose groups are empty, and an
empty `hooks`, also when it removed nothing from them; together that is `Orderly`, and
`keepsTrustKeys_iff` says that it is exactly when the edits leave everything else alone.
-/
import LibraGovernor.Cli.HookGroups
import Mathlib.Algebra.GroupWithZero.Nat

namespace LibraGovernor.CodexHooksFile

open Transaction KeepFirst

set_option autoImplicit false

def HOOK_TIMEOUT_SECS : Nat := 15

def OWNED_COMMAND_SUFFIXES : List String :=
  ["codex-hook user-prompt-submit", "codex-hook post-tool-use", "codex-hook stop"]

def HOOK_EVENTS : List String := ["UserPromptSubmit", "PostToolUse", "Stop"]

def commandIsOurs (command : String) : Bool :=
  OWNED_COMMAND_SUFFIXES.any fun suffix =>
    commandIsOursWithSuffix command.toList suffix.toList true

/-- A handler whose command is Libra's. -/
def handlerIsOurs (h : Json) : Bool := (commandOf h).any commandIsOurs

/-! ## Installing -/

structure HookSpec where
  event : String
  subcommand : String
  isAsync : Bool
  deriving DecidableEq, Repr

def HOOK_SPECS : List HookSpec :=
  [⟨"UserPromptSubmit", "codex-hook user-prompt-submit", false⟩,
    ⟨"PostToolUse", "codex-hook post-tool-use", true⟩, ⟨"Stop", "codex-hook stop", false⟩]

/-- The handler that is written for an event. -/
def hookEntry (spec : HookSpec) (command : String) : Json :=
  .object ((if spec.isAsync then [("async", .bool true)] else []) ++
    [("command", .string command), ("timeout", .number (.integer HOOK_TIMEOUT_SECS)),
      ("type", .string "command")])

def hookGroup (spec : HookSpec) (command : String) : Json :=
  .object [("hooks", .array [hookEntry spec command])]

/-- What `apply` writes for an event.  A group it empties is dropped only while it is the last. -/
def installer (binary : String) (spec : HookSpec) : Installer where
  command := hookCommand binary spec.subcommand
  subcommand := spec.subcommand
  touch := repoint (hookCommand binary spec.subcommand)
  drop := dropTail
  group := hookGroup spec (hookCommand binary spec.subcommand)

def installEvent (binary : String) (spec : HookSpec) (groups : List Json) : List Json × Nat :=
  (installer binary spec).install groups

/-- The edit of `apply`: the document, and how many events it changed. -/
def install (binary : String) (root : Root) : Except HookFileError (Root × Nat) :=
  editRoot HookSpec.event (installEvent binary) HOOK_SPECS root

/-- `apply`: what the file holds after, and how many hooks were added. -/
def apply (fs : FileSystem) (binary : String) (file : Option Json) :
    Except HookFileError (Nat × Option Json) := do
  if hasShellUnsafeChar binary.toList then throw (.unsafeBinaryPath binary)
  else
    FileSystem.fails fs.lock
    let existing ← readObject file
    let (root, hooksAdded) ← install binary (existing.getD [])
    FileSystem.fails fs.write
    return (hooksAdded, some (.object root))

/-! ## Removing -/

/-- One event: its groups without Libra's handlers, or nothing when all its groups are empty
then. -/
def removeEvent (hooks : Root) (event : String) : Root × Nat :=
  match Fields.get event hooks with
  | some (.array groups) =>
      let removed := (groups.map (ownedCount handlerIsOurs)).sum
      let rest := dropTail (groups.map (stripGroup handlerIsOurs))
      if rest.all fun group => groupHooks group = some [] then (Fields.remove event hooks, removed)
      else (Fields.put event (.array rest) hooks, removed)
  | _ => (hooks, 0)

def removeEvents : List String → Root → Root × Nat
  | [], hooks => (hooks, 0)
  | event :: events, hooks =>
      let (hooks', n) := removeEvent hooks event
      let (hooks'', m) := removeEvents events hooks'
      (hooks'', n + m)

/-- The edit of `remove`: the document, and how many handlers it removed. -/
def uninstall (root : Root) : Except HookFileError (Root × Nat) :=
  match Fields.get "hooks" root with
  | none => .ok (root, 0)
  | some (.object hooks) =>
      let (hooks', removed) := removeEvents HOOK_EVENTS hooks
      if hooks'.isEmpty then .ok (Fields.remove "hooks" root, removed)
      else .ok (Fields.put "hooks" (.object hooks') root, removed)
  | some _ => .error .hooksFieldNotAnObject

/-- `remove`: a missing file is left missing. -/
def remove (fs : FileSystem) (file : Option Json) : Except HookFileError (Nat × Option Json) := do
  FileSystem.fails fs.lock
  match ← readObject file with
  | none => return (0, file)
  | some root =>
      let (root, removed) ← uninstall root
      FileSystem.fails fs.write
      return (removed, some (.object root))

/-! ## What the edits should leave alone -/

/-- A group of handlers that are all Libra's, and not of none. -/
def OursAlone (g : Json) : Prop :=
  ∃ hs, groupHooks g = some hs ∧ hs ≠ [] ∧ ∀ h ∈ hs, handlerIsOurs h = true

/-- What both edits leave of a document: a group stays at its place but for its handlers, or goes
when taking Libra's out emptied it. -/
structure Frame (root root' : Root) : Prop where
  keys : ∀ key, key ≠ "hooks" → Fields.get key root' = Fields.get key root
  events : ∀ event, event ∉ HOOK_EVENTS → eventValue root' event = eventValue root event
  foreign : ∀ event i j h, handlerAt root event i j = some h → handlerIsOurs h = false →
    handlerAt root' event i j = some h
  values : ∀ event v, eventValue root event = some v → (∀ groups, v ≠ .array groups) →
    eventValue root' event = some v
  groups : ∀ event i g, groupAt root event i = some g →
    (∃ g', groupAt root' event i = some g' ∧ (g' = g ∨ ∃ hs, g' = fillHooks g hs)) ∨
      groupAt root' event i = none ∧ OursAlone g

/-- The first handler in a list of groups that is Libra's for an event, with what is around it. -/
structure FirstOurs (subcommand : String) (groups pre : List Json) (g : Json) (post before : List Json)
    (h : Json) (after : List Json) : Prop where
  split : groups = pre ++ g :: post
  inner : allToolsHooks g = some (before ++ h :: after)
  early : ∀ h' ∈ members allToolsHooks pre ++ before, handlerIsOursFor subcommand h' = false
  ours : handlerIsOursFor subcommand h = true

/-- What `apply` leaves. -/
structure Installed (binary : String) (root root' : Root) : Prop extends Frame root root' where
  one : ∀ spec ∈ HOOK_SPECS, ∃ groups h, eventGroups root' spec.event = some groups ∧
    (members allToolsHooks groups).filter (handlerIsOursFor spec.subcommand) = [h] ∧
    commandOf h = some (hookCommand binary spec.subcommand)
  place : ∀ spec ∈ HOOK_SPECS, ∀ groups pre g post before h after,
    eventGroups root spec.event = some groups →
    FirstOurs spec.subcommand groups pre g post before h after →
    handlerAt root' spec.event pre.length before.length =
      some (repoint (hookCommand binary spec.subcommand) h).1
  again : install binary root' = .ok (root', 0)

/-- What `remove` leaves: it drops an event or the hooks, as it does a group, only when that was
emptied by what it removed. -/
structure Uninstalled (root root' : Root) : Prop extends Frame root root' where
  gone : ∀ event ∈ HOOK_EVENTS, ∀ i j h, handlerAt root' event i j = some h → handlerIsOurs h = false
  event : ∀ event, eventValue root event ≠ none → eventValue root' event = none →
    (∃ i j h, handlerAt root event i j = some h ∧ handlerIsOurs h = true) ∧
    ∀ i g, groupAt root event i = some g → OursAlone g
  hooks : Fields.get "hooks" root ≠ none → Fields.get "hooks" root' = none →
    ∃ event ∈ HOOK_EVENTS, ∃ i j h, handlerAt root event i j = some h ∧ handlerIsOurs h = true
  untouched : (∀ event ∈ HOOK_EVENTS, ∀ i j h, handlerAt root event i j = some h →
    handlerIsOurs h = false) → root' = root

/-- The edits move no foreign hook, leave the rest of a document alone, and change nothing when
they fail. -/
def KeepsTrustKeys (binary : String) (root : Root) : Prop :=
  ∀ fs,
    (∀ n file, apply fs binary (some (.object root)) = .ok (n, file) →
      ∃ root', file = some (.object root') ∧ Installed binary root root') ∧
    (∀ n file, remove fs (some (.object root)) = .ok (n, file) →
      ∃ root', file = some (.object root') ∧ Uninstalled root root') ∧
    (∀ e, apply fs binary (some (.object root)) = .error e →
      commit (some (.object root)) (apply fs binary (some (.object root))) = some (.object root)) ∧
    (∀ e, remove fs (some (.object root)) = .error e →
      commit (some (.object root)) (remove fs (some (.object root))) = some (.object root))

/-- No group holds anything but handlers of Libra's. -/
def NoForeign (groups : List Json) : Prop :=
  ∀ g ∈ groups, ∃ hs, groupHooks g = some hs ∧ ∀ h ∈ hs, handlerIsOurs h = true

/-- No handler of Libra's stands before a foreign one in its group, an event of the three with no
foreign handler has groups and none of them empty, and the hooks are not empty. -/
def Orderly (root : Root) : Prop :=
  ∀ hooks, hooksObject root = some hooks → hooks ≠ [] ∧
    ∀ event ∈ HOOK_EVENTS, ∀ groups, eventGroups root event = some groups →
      (NoForeign groups → groups ≠ [] ∧ ∀ g ∈ groups, groupHooks g ≠ some []) ∧
      ∀ g ∈ groups, ∀ hs, groupHooks g = some hs →
        hs.Pairwise fun a b => handlerIsOurs a = true → handlerIsOurs b = true

/-! ## One event, installed -/

theorem specs_distinct : (HOOK_SPECS.map HookSpec.event).Nodup := by decide

theorem mem_events_iff {event : String} : event ∈ HOOK_EVENTS ↔ event ∈ HOOK_SPECS.map HookSpec.event :=
  Iff.rfl

theorem ours_of_oursFor {spec : HookSpec} (mem : spec ∈ HOOK_SPECS) {h : Json}
    (ours : handlerIsOursFor spec.subcommand h = true) : handlerIsOurs h = true := by
  have listed : spec.subcommand ∈ OWNED_COMMAND_SUFFIXES :=
    show spec.subcommand ∈ HOOK_SPECS.map HookSpec.subcommand from List.mem_map_of_mem mem
  obtain ⟨c, command, owned⟩ := (Option.any_eq_true _ _).mp ours
  exact (Option.any_eq_true _ _).mpr ⟨c, command, List.any_eq_true.mpr ⟨_, listed, owned⟩⟩

/-- With Libra's handlers last, none of them is before a foreign one. -/
theorem ours_before {hs : List Json} {j : Nat} {h h' : Json}
    (last : hs.Pairwise fun a b => handlerIsOurs a = true → handlerIsOurs b = true)
    (here : hs[j]? = some h) (early : h' ∈ hs.take (j + 1)) (owned : handlerIsOurs h' = true) :
    handlerIsOurs h = true := by
  obtain ⟨bound, rfl⟩ := List.getElem?_eq_some_iff.mp here
  obtain ⟨i, inside, rfl⟩ := List.mem_iff_getElem.mp early
  rw [List.getElem_take] at owned
  rw [List.length_take] at inside
  rcases Nat.lt_or_eq_of_le (Nat.le_of_lt_succ (Nat.lt_of_lt_of_le inside (Nat.min_le_left _ _))) with
    before | same
  · exact List.pairwise_iff_getElem.mp last i j (by omega) bound before owned
  · subst same
    exact owned

section Install

variable {binary : String} (plain : PlainBinary binary) (spec : HookSpec) (groups : List Json)

theorem commandOf_hookEntry (command : String) : commandOf (hookEntry spec command) = some command := by
  unfold hookEntry
  cases spec.isAsync with
  | true => rfl
  | false => rfl

include plain in
theorem installer_lawful : (installer binary spec).Lawful where
  ours := ours_of_plain plain spec.subcommand true
  touched := by
    intro h c command
    have after : commandOf (repoint (hookCommand binary spec.subcommand) h).1 =
        some (hookCommand binary spec.subcommand) := commandOf_repoint command
    exact ⟨after, if_pos after⟩
  members := fun _ empty => members_dropTail empty
  none := fun _ none => dropTail_of_none none
  group := by
    have command := commandOf_hookEntry spec (hookCommand binary spec.subcommand)
    exact ⟨hookEntry spec (hookCommand binary spec.subcommand), rfl, command, if_pos command⟩

include plain in
/-- What the edit of an event does at a place: it leaves what the scan makes of the group, or
drops it when that was emptied. -/
theorem installEvent_at {i : Nat} {g : Json} (at_ : groups[i]? = some g) :
    ∃ out, Scanned (handlerIsOursFor spec.subcommand) (installer binary spec).touch
        allToolsHooks fillHooks g out ∧
      ((installEvent binary spec groups).1[i]? = some out.1 ∨
        (installEvent binary spec groups).1[i]? = none ∧ out.2 = true) := by
  have lawful := installer_lawful plain spec
  obtain ⟨out, there, scanned⟩ := @groups_at _ _ (handlerIsOursFor spec.subcommand)
    (installer binary spec).touch allToolsHooks fillHooks .start groups i g at_
  refine ⟨out, scanned, ?_⟩
  have scan := Installer.scan_eq lawful groups
  rw [show (installer binary spec).subcommand = spec.subcommand from rfl] at scan
  rw [← scan] at there
  have dropped := dropTail_getElem? there
  simp only [installEvent, Installer.install]
  cases kept : ((installer binary spec).scan groups).2.kept with
  | true =>
      rw [if_pos rfl]
      exact dropped
  | false =>
      -- Nothing was owned, so nothing was emptied.
      rw [if_neg Bool.false_ne_true]
      rw [Installer.scan_kept lawful] at kept
      rw [Installer.scan_of_none lawful groups (by simpa using kept)] at there
      have quiet : out.2 = false := by
        obtain ⟨_, -, rfl⟩ := List.mem_map.mp (List.mem_of_getElem? there)
        rfl
      rcases dropped with stays | ⟨-, emptied⟩
      · left
        exact List.getElem?_append_left (List.getElem?_eq_some_iff.mp stays).1 |>.trans stays
      · rw [quiet] at emptied
        cases emptied

include plain in
/-- A foreign handler stays at its place, when none of Libra's stands before it in its group. -/
theorem installEvent_foreign (mem : spec ∈ HOOK_SPECS) {i j : Nat} {g h : Json} {hs : List Json}
    (at_ : groups[i]? = some g) (inner : groupHooks g = some hs) (here : hs[j]? = some h)
    (foreign : handlerIsOurs h = false)
    (last : hs.Pairwise fun a b => handlerIsOurs a = true → handlerIsOurs b = true) :
    ∃ g' hs', (installEvent binary spec groups).1[i]? = some g' ∧ groupHooks g' = some hs' ∧
      hs'[j]? = some h := by
  obtain ⟨out, scanned, result⟩ := installEvent_at plain spec groups at_
  cases scanned with
  | passed none =>
      rcases result with stays | ⟨-, emptied⟩
      · exact ⟨g, hs, stays, inner, here⟩
      · cases emptied
  | @read hs' s found =>
      have same := (allToolsHooks_eq_some.mp found).2
      rw [inner, Option.some.injEq] at same
      subst same
      have placed : (entries (handlerIsOursFor spec.subcommand) (installer binary spec).touch s hs).1[j]? = some h := by
        refine entries_getElem? s here ?_
        intro h' early
        by_contra ours
        have owned := ours_of_oursFor mem (Bool.not_eq_false _ ▸ ours)
        exact absurd (ours_before last here early owned) (by simp [foreign])
      rcases result with stays | ⟨-, emptied⟩
      · exact ⟨_, _, stays, groupHooks_fill inner _, placed⟩
      · have nothing : (entries (handlerIsOursFor spec.subcommand) (installer binary spec).touch s hs).1 = [] := by
          exact List.isEmpty_iff.mp (Bool.and_eq_true _ _ ▸ emptied).2
        rw [nothing] at placed
        cases placed

include plain in
/-- The group at a place keeps all but its handlers, or was of Libra's alone. -/
theorem installEvent_group (mem : spec ∈ HOOK_SPECS) {i : Nat} {g : Json} (at_ : groups[i]? = some g) :
    (∃ g', (installEvent binary spec groups).1[i]? = some g' ∧ (g' = g ∨ ∃ hs, g' = fillHooks g hs)) ∨
      (installEvent binary spec groups).1[i]? = none ∧ OursAlone g := by
  obtain ⟨out, scanned, result⟩ := installEvent_at plain spec groups at_
  rcases result with stays | ⟨gone, emptied⟩
  · refine .inl ⟨out.1, stays, ?_⟩
    cases scanned with
    | passed none => exact .inl rfl
    | read s found => exact .inr ⟨_, rfl⟩
  · refine .inr ⟨gone, ?_⟩
    cases scanned with
    | passed none => cases emptied
    | @read hs s found =>
        obtain ⟨filled, empty⟩ := Bool.and_eq_true_iff.mp emptied
        refine ⟨hs, (allToolsHooks_eq_some.mp found).2, by simpa using filled, fun h there => ?_⟩
        exact ours_of_oursFor mem (owned_of_emptied (List.isEmpty_iff.mp empty) h there)

include plain in
/-- The handler that is kept stays at its place. -/
theorem installEvent_place {pre post before after : List Json} {g h : Json}
    (first : FirstOurs spec.subcommand groups pre g post before h after) :
    ∃ g' hs', (installEvent binary spec groups).1[pre.length]? = some g' ∧ groupHooks g' = some hs' ∧
      hs'[before.length]? = some (repoint (hookCommand binary spec.subcommand) h).1 := by
  have early : ∀ h' ∈ members allToolsHooks pre, handlerIsOursFor spec.subcommand h' = false :=
    fun h' mem => first.early h' (List.mem_append_left _ mem)
  have none : ∀ h' ∈ before, handlerIsOursFor spec.subcommand h' = false :=
    fun h' mem => first.early h' (List.mem_append_right _ mem)
  have there := @groups_first _ _ (handlerIsOursFor spec.subcommand) (installer binary spec).touch
    allToolsHooks fillHooks .start rfl pre post g before after h early first.inner none first.ours
  have scan := Installer.scan_eq (installer_lawful plain spec) groups
  rw [show (installer binary spec).subcommand = spec.subcommand from rfl] at scan
  rw [← first.split, ← scan] at there
  have inner := (allToolsHooks_eq_some.mp first.inner).2
  have placed : (before ++ (repoint (hookCommand binary spec.subcommand) h).1 ::
      after.filter fun h => !handlerIsOursFor spec.subcommand h)[before.length]? =
        some (repoint (hookCommand binary spec.subcommand) h).1 := by
    simp
  refine ⟨_, _, ?_, groupHooks_fill inner _, placed⟩
  rcases dropTail_getElem? there with stays | ⟨-, emptied⟩
  · simp only [installEvent, Installer.install]
    split
    · exact stays
    · exact List.getElem?_append_left (List.getElem?_eq_some_iff.mp stays).1 |>.trans stays
  · cases emptied

end Install

/-! ## One event, uninstalled -/

/-- What the groups of an event come to. -/
def restOf (groups : List Json) : List Json := dropTail (groups.map (stripGroup handlerIsOurs))

/-- What becomes of an event. -/
def eventAfter : Option Json → Option Json
  | some (.array groups) =>
      if (restOf groups).all fun group => groupHooks group = some [] then none
      else some (.array (restOf groups))
  | value => value

theorem removeEvent_groups {hooks : Root} {event : String} {groups : List Json}
    (found : Fields.get event hooks = some (.array groups)) :
    (removeEvent hooks event).1 =
      if (restOf groups).all fun group => groupHooks group = some [] then Fields.remove event hooks
      else Fields.put event (.array (restOf groups)) hooks := by
  rw [removeEvent, found]
  exact apply_ite Prod.fst _ _ _

theorem removeEvent_other {hooks : Root} {event : String}
    (other : ∀ groups, Fields.get event hooks ≠ some (.array groups)) :
    (removeEvent hooks event).1 = hooks ∧ eventAfter (Fields.get event hooks) = Fields.get event hooks := by
  rw [removeEvent]
  cases found : Fields.get event hooks with
  | none => exact ⟨rfl, rfl⟩
  | some value =>
      cases value with
      | array groups => exact absurd found (other groups)
      | _ => exact ⟨rfl, rfl⟩

theorem removeEvent_get (hooks : Root) (event key : String) :
    Fields.get key (removeEvent hooks event).1 =
      if key = event then eventAfter (Fields.get event hooks) else Fields.get key hooks := by
  by_cases array : ∃ groups, Fields.get event hooks = some (.array groups)
  · obtain ⟨groups, found⟩ := array
    rw [removeEvent_groups found, found, eventAfter]
    split
    · rw [Fields.get_remove]
    · rw [Fields.get_put]
  · rw [not_exists] at array
    obtain ⟨same, still⟩ := removeEvent_other array
    rw [same, still]
    split
    · rename_i here
      rw [here]
    · rfl

theorem removeEvents_get {events : List String} (distinct : events.Nodup) (hooks : Root) (key : String) :
    Fields.get key (removeEvents events hooks).1 =
      if key ∈ events then eventAfter (Fields.get key hooks) else Fields.get key hooks := by
  induction events generalizing hooks with
  | nil => rfl
  | cons event events ih =>
      rw [List.nodup_cons] at distinct
      show Fields.get key (removeEvents events (removeEvent hooks event).1).1 = _
      rw [ih distinct.2, removeEvent_get]
      by_cases here : key = event
      · subst here
        simp [distinct.1]
      · simp [here]

theorem restOf_at {groups : List Json} {i : Nat} {g : Json} (at_ : groups[i]? = some g) :
    (restOf groups)[i]? = some (stripGroup handlerIsOurs g).1 ∨
      (restOf groups)[i]? = none ∧ (stripGroup handlerIsOurs g).2 = true := by
  refine dropTail_getElem? ?_
  rw [List.getElem?_map, at_]
  rfl

theorem mem_restOf {groups : List Json} {g' : Json} (mem : g' ∈ restOf groups) :
    ∃ g ∈ groups, g' = (stripGroup handlerIsOurs g).1 := by
  obtain ⟨out, there, rfl⟩ := mem_dropTail mem
  obtain ⟨g, mem', rfl⟩ := List.mem_map.mp there
  exact ⟨g, mem', rfl⟩

/-- An event that goes had handlers of Libra's alone. -/
theorem noForeign_of_eventAfter {groups : List Json} (gone : eventAfter (some (.array groups)) = none) :
    NoForeign groups := by
  intro g mem
  rw [eventAfter] at gone
  split at gone
  · rename_i empty
    obtain ⟨i, inside, rfl⟩ := List.mem_iff_getElem.mp mem
    rcases restOf_at (List.getElem?_eq_getElem inside) with stays | ⟨-, emptied⟩
    · have none_left := List.all_eq_true.mp empty _ (List.mem_of_getElem? stays)
      rw [decide_eq_true_eq, groupHooks_stripGroup, Option.map_eq_some_iff] at none_left
      obtain ⟨hs, found, filtered⟩ := none_left
      refine ⟨hs, found, ?_⟩
      simpa [List.filter_eq_nil_iff] using filtered
    · obtain ⟨hs, found, -, all⟩ := stripGroup_emptied.mp emptied
      exact ⟨hs, found, all⟩
  · cases gone

/-- An event of Libra's handlers alone goes. -/
theorem eventAfter_of_noForeign {groups : List Json} (none_ : NoForeign groups) :
    eventAfter (some (.array groups)) = none := by
  have all : (restOf groups).all (fun group => groupHooks group = some []) = true := by
    rw [List.all_eq_true]
    intro g' mem
    obtain ⟨g, mem', rfl⟩ := mem_restOf mem
    obtain ⟨hs, found, ours⟩ := none_ g mem'
    rw [decide_eq_true_eq, groupHooks_stripGroup, found, Option.map_some, Option.some.injEq,
      List.filter_eq_nil_iff]
    intro h there
    simp [ours h there]
  rw [eventAfter, if_pos all]

/-- Where nothing is Libra's, groups that are not all empty stay as they are. -/
theorem restOf_of_none {groups : List Json}
    (none : ∀ g ∈ groups, ∀ hs, groupHooks g = some hs → ∀ h ∈ hs, handlerIsOurs h = false) :
    restOf groups = groups := by
  have same : groups.map (stripGroup handlerIsOurs) = groups.map fun g => (g, false) :=
    List.map_congr_left fun g mem => stripGroup_of_none (none g mem)
  rw [restOf, same, dropTail_of_none (by simp), List.map_map]
  exact List.map_id _

/-! ## A document, uninstalled -/

theorem events_distinct : HOOK_EVENTS.Nodup := by decide

/-- What `remove` leaves of a document. -/
theorem uninstall_ok {root root' : Root} {n : Nat} (done : uninstall root = .ok (root', n)) :
    (∀ key, key ≠ "hooks" → Fields.get key root' = Fields.get key root) ∧
    (∀ event, eventValue root' event =
      if event ∈ HOOK_EVENTS then eventAfter (eventValue root event) else eventValue root event) ∧
    (Fields.get "hooks" root = none ∧ root' = root ∨ ∃ hooks, hooksObject root = some hooks ∧
      (Fields.get "hooks" root' = none ↔ (removeEvents HOOK_EVENTS hooks).1 = []) ∧
      ((removeEvents HOOK_EVENTS hooks).1 = hooks → hooks ≠ [] → root' = root)) := by
  unfold uninstall at done
  split at done
  · rename_i missing
    cases done
    refine ⟨fun _ _ => rfl, ?_, .inl ⟨missing, rfl⟩⟩
    intro event
    have none : eventValue root event = none := by
      rw [eventValue, hooksObject, missing]
      rfl
    rw [none]
    split <;> rfl
  · rename_i hooks object
    have found := hooksObject_eq_some.mpr object
    simp only at done
    split at done
    · rename_i empty
      rw [List.isEmpty_iff] at empty
      cases done
      have gone : Fields.get "hooks" (Fields.remove "hooks" root) = none := by
        rw [Fields.get_remove, if_pos rfl]
      refine ⟨?_, ?_, .inr ⟨hooks, found, ?_, ?_⟩⟩
      · intro key apart
        rw [Fields.get_remove, if_neg apart]
      · intro event
        have none : eventValue (Fields.remove "hooks" root) event = none := by
          rw [eventValue, hooksObject, gone]
          rfl
        rw [none, eventValue_of_hooks found, ← removeEvents_get events_distinct, empty]
        rfl
      · exact ⟨fun _ => empty, fun _ => gone⟩
      · intro same nonempty
        exact absurd (same.symm.trans empty) nonempty
    · rename_i filled
      rw [List.isEmpty_iff] at filled
      cases done
      have there : Fields.get "hooks" (Fields.put "hooks"
          (.object (removeEvents HOOK_EVENTS hooks).1) root) =
            some (.object (removeEvents HOOK_EVENTS hooks).1) := by
        rw [Fields.get_put, if_pos rfl]
      refine ⟨?_, ?_, .inr ⟨hooks, found, ?_, ?_⟩⟩
      · intro key apart
        rw [Fields.get_put, if_neg apart]
      · intro event
        rw [eventValue_of_hooks (hooksObject_eq_some.mpr there), eventValue_of_hooks found,
          removeEvents_get events_distinct]
      · rw [there]
        exact ⟨fun gone => absurd gone (Option.some_ne_none _), fun empty => absurd empty filled⟩
      · intro same _
        rw [same]
        exact Fields.put_self object
  · cases done

theorem uninstall_isOk {root hooks : Root} (found : hooksObject root = some hooks) :
    ∃ done, uninstall root = .ok done := by
  rw [hooksObject_eq_some] at found
  unfold uninstall
  rw [found]
  simp only
  split
  · exact ⟨_, rfl⟩
  · exact ⟨_, rfl⟩

/-! ## The two edits -/

theorem mem_event {event : String} (mem : event ∈ HOOK_EVENTS) :
    ∃ spec ∈ HOOK_SPECS, spec.event = event := List.mem_map.mp (mem_events_iff.mp mem)

theorem groupAt_eq_some {root : Root} {event : String} {i : Nat} {g : Json} :
    groupAt root event i = some g ↔ ∃ groups, eventGroups root event = some groups ∧
      groups[i]? = some g := Option.bind_eq_some_iff

/-- An orderly document has its handlers of Libra's last in each group of the events. -/
theorem Orderly.last {root : Root} (orderly : Orderly root) {event : String}
    (mem : event ∈ HOOK_EVENTS) {groups : List Json} (found : eventGroups root event = some groups) :
    (NoForeign groups → groups ≠ [] ∧ ∀ g ∈ groups, groupHooks g ≠ some []) ∧
      ∀ g ∈ groups, ∀ hs, groupHooks g = some hs →
        hs.Pairwise fun a b => handlerIsOurs a = true → handlerIsOurs b = true := by
  have value := eventGroups_eq_some.mp found
  obtain ⟨hooks, object, -⟩ := Option.bind_eq_some_iff.mp value
  exact (orderly hooks object).2 event mem groups found

theorem installed_of_orderly {binary : String} (plain : PlainBinary binary) {root root' : Root} {n : Nat}
    (orderly : Orderly root) (done : install binary root = .ok (root', n)) :
    Installed binary root root' := by
  obtain ⟨keys, ⟨hooks', object⟩, events, each⟩ := editRoot_ok specs_distinct done
  -- An event of the document, before and after.
  have event : ∀ spec ∈ HOOK_SPECS, ∀ groups, eventGroups root spec.event = some groups →
      eventGroups root' spec.event = some (installEvent binary spec groups).1 := by
    intro spec mem groups found
    rw [(each spec mem).2, found, Option.getD_some]
  have outside : ∀ e, e ∉ HOOK_EVENTS → eventValue root' e = eventValue root e :=
    fun e apart => events e fun mem => apart (mem_events_iff.mpr mem)
  refine { keys, events := outside, foreign := ?_, values := ?_, groups := ?_, one := ?_, place := ?_,
           again := ?_ }
  · intro e i j h at_ foreign
    obtain ⟨groups, g, hs, found, here, inner, there⟩ := handlerAt_eq_some.mp at_
    by_cases mem : e ∈ HOOK_EVENTS
    · obtain ⟨spec, listed, rfl⟩ := mem_event mem
      have last := (orderly.last mem found).2 g (List.mem_of_getElem? here) hs inner
      obtain ⟨g', hs', stays, inner', there'⟩ :=
        installEvent_foreign plain spec groups listed here inner there foreign last
      exact handlerAt_eq_some.mpr ⟨_, g', hs', event spec listed groups found, stays, inner', there'⟩
    · have same : eventGroups root' e = some groups := by
        rw [eventGroups_eq_some, outside e mem]
        exact eventGroups_eq_some.mp found
      exact handlerAt_eq_some.mpr ⟨groups, g, hs, same, here, inner, there⟩
  · intro e v value other
    by_cases mem : e ∈ HOOK_EVENTS
    · obtain ⟨spec, listed, rfl⟩ := mem_event mem
      rcases (each spec listed).1 with missing | ⟨groups, found⟩
      · rw [value] at missing
        cases missing
      · rw [eventGroups_eq_some, value, Option.some.injEq] at found
        exact absurd found (other groups)
    · rw [outside e mem, value]
  · intro e i g at_
    obtain ⟨groups, found, here⟩ := groupAt_eq_some.mp at_
    by_cases mem : e ∈ HOOK_EVENTS
    · obtain ⟨spec, listed, rfl⟩ := mem_event mem
      have after := event spec listed groups found
      have place : groupAt root' spec.event i = (installEvent binary spec groups).1[i]? := by
        rw [groupAt, after, Option.bind_some]
      rw [place]
      exact installEvent_group plain spec groups listed here
    · have same : groupAt root' e i = some g := by
        rw [groupAt_eq_some]
        refine ⟨groups, ?_, here⟩
        rw [eventGroups_eq_some, outside e mem]
        exact eventGroups_eq_some.mp found
      exact .inl ⟨g, same, .inl rfl⟩
  · intro spec mem
    obtain ⟨h, one, command, -⟩ := Installer.install_one (installer_lawful plain spec)
      ((eventGroups root spec.event).getD [])
    exact ⟨_, h, (each spec mem).2, one, command⟩
  · intro spec mem groups pre g post before h after found first
    obtain ⟨g', hs', stays, inner, there⟩ := installEvent_place plain spec groups first
    exact handlerAt_eq_some.mpr ⟨_, g', hs', event spec mem groups found, stays, inner, there⟩
  · refine editRoot_still object ?_
    intro spec mem
    exact ⟨_, (each spec mem).2, Installer.install_again (installer_lawful plain spec) _⟩

section Uninstall

variable {root root' : Root} (events : ∀ event, eventValue root' event =
  if event ∈ HOOK_EVENTS then eventAfter (eventValue root event) else eventValue root event)
  {e : String} {groups : List Json}

include events in
theorem outside_groups (apart : e ∉ HOOK_EVENTS) : eventGroups root' e = eventGroups root e := by
  rw [eventGroups, events, if_neg apart, eventGroups]

include events in
/-- An event that is there after has the groups that are left of it. -/
theorem groups_after (mem : e ∈ HOOK_EVENTS) (found : eventGroups root e = some groups)
    (there : eventValue root' e ≠ none) : eventGroups root' e = some (restOf groups) := by
  rw [events, if_pos mem, eventGroups_eq_some.mp found, eventAfter] at there
  rw [eventGroups_eq_some, events, if_pos mem, eventGroups_eq_some.mp found, eventAfter]
  split
  · rename_i empty
    rw [if_pos empty] at there
    exact absurd rfl there
  · rfl

include events in
theorem groups_before (mem : e ∈ HOOK_EVENTS) {groups' : List Json}
    (found' : eventGroups root' e = some groups') :
    ∃ groups, eventGroups root e = some groups ∧ groups' = restOf groups := by
  have value := eventGroups_eq_some.mp found'
  rw [events, if_pos mem] at value
  cases here : eventValue root e with
  | none =>
      rw [here] at value
      cases value
  | some v =>
      cases v with
      | array groups =>
          have found := eventGroups_eq_some.mpr here
          have after := groups_after events mem found (by rw [eventGroups_eq_some.mp found']; nofun)
          rw [found', Option.some.injEq] at after
          exact ⟨groups, found, after⟩
      | _ =>
          rw [here] at value
          cases value

include events in
/-- An event that went was one of the three. -/
theorem dropped_event (there : eventValue root e ≠ none) (gone : eventValue root' e = none) :
    e ∈ HOOK_EVENTS ∧ ∃ groups, eventGroups root e = some groups ∧
      eventAfter (some (.array groups)) = none := by
  by_cases mem : e ∈ HOOK_EVENTS
  · refine ⟨mem, ?_⟩
    rw [events, if_pos mem] at gone
    cases here : eventValue root e with
    | none => exact absurd here there
    | some v =>
        rw [here] at gone
        cases v with
        | array groups => exact ⟨groups, eventGroups_eq_some.mpr here, gone⟩
        | _ => cases gone
  · rw [events, if_neg mem] at gone
    exact absurd gone there

include events in
theorem foreign_after (orderly : Orderly root) {i j : Nat} {h : Json}
    (at_ : handlerAt root e i j = some h) (foreign : handlerIsOurs h = false) :
    handlerAt root' e i j = some h := by
  obtain ⟨groups, g, hs, found, here, inner, there⟩ := handlerAt_eq_some.mp at_
  by_cases mem : e ∈ HOOK_EVENTS
  · have last := (orderly.last mem found).2 g (List.mem_of_getElem? here) hs inner
    have placed := (filter_places_iff hs).mpr last j h there foreign
    have mixed : ¬ ∃ hs', groupHooks g = some hs' ∧ ∀ h ∈ hs', handlerIsOurs h = true := by
      rintro ⟨hs', inner', all⟩
      rw [inner, Option.some.injEq] at inner'
      subst inner'
      have ours := all h (List.mem_of_getElem? there)
      rw [foreign] at ours
      cases ours
    have present : eventValue root' e ≠ none := by
      intro gone
      rw [events, if_pos mem, eventGroups_eq_some.mp found] at gone
      exact mixed (noForeign_of_eventAfter gone g (List.mem_of_getElem? here))
    rcases restOf_at here with stays | ⟨-, emptied⟩
    · refine handlerAt_eq_some.mpr ⟨_, _, _, groups_after events mem found present, stays, ?_, placed⟩
      rw [groupHooks_stripGroup, inner]
      rfl
    · obtain ⟨hs', inner', -, all⟩ := stripGroup_emptied.mp emptied
      exact absurd ⟨hs', inner', all⟩ mixed
  · exact handlerAt_eq_some.mpr
      ⟨groups, g, hs, (outside_groups events mem).trans found, here, inner, there⟩

include events in
/-- A group keeps all but its handlers, or was of Libra's alone. -/
theorem group_after (orderly : Orderly root) {i : Nat} {g : Json} (at_ : groupAt root e i = some g) :
    (∃ g', groupAt root' e i = some g' ∧ (g' = g ∨ ∃ hs, g' = fillHooks g hs)) ∨
      groupAt root' e i = none ∧ OursAlone g := by
  obtain ⟨groups, found, here⟩ := groupAt_eq_some.mp at_
  have mem_groups := List.mem_of_getElem? here
  by_cases mem : e ∈ HOOK_EVENTS
  · by_cases present : eventValue root' e = none
    · -- The event went, and in an orderly document none of its groups was empty.
      have gone : eventAfter (some (.array groups)) = none := by
        rw [← eventGroups_eq_some.mp found, ← present, events, if_pos mem]
      have none_ := noForeign_of_eventAfter gone
      obtain ⟨hs, inner, ours⟩ := none_ g mem_groups
      refine .inr ⟨by rw [groupAt, eventGroups, present]; rfl, hs, inner, ?_, ours⟩
      rintro rfl
      exact ((orderly.last mem found).1 none_).2 g mem_groups inner
    · have after := groups_after events mem found present
      have place : groupAt root' e i = (restOf groups)[i]? := by rw [groupAt, after, Option.bind_some]
      rw [place]
      rcases restOf_at here with stays | ⟨gone, emptied⟩
      · refine .inl ⟨_, stays, ?_⟩
        cases inner : groupHooks g with
        | none => rw [stripGroup_none inner]; exact .inl rfl
        | some hs => rw [stripGroup_some inner]; exact .inr ⟨_, rfl⟩
      · exact .inr ⟨gone, stripGroup_emptied.mp emptied⟩
  · exact .inl ⟨g, groupAt_eq_some.mpr ⟨groups, (outside_groups events mem).trans found, here⟩, .inl rfl⟩

end Uninstall

/-- In an orderly document an event that goes had groups, each of Libra's alone. -/
theorem Orderly.alone {root : Root} (orderly : Orderly root) {e : String} (mem : e ∈ HOOK_EVENTS)
    {groups : List Json} (found : eventGroups root e = some groups)
    (gone : eventAfter (some (.array groups)) = none) : groups ≠ [] ∧ ∀ g ∈ groups, OursAlone g := by
  have none_ := noForeign_of_eventAfter gone
  obtain ⟨some_, filled⟩ := (orderly.last mem found).1 none_
  refine ⟨some_, fun g listed => ?_⟩
  obtain ⟨hs, inner, ours⟩ := none_ g listed
  exact ⟨hs, inner, fun empty => filled g listed (empty ▸ inner), ours⟩

/-- Such an event had a handler of Libra's. -/
theorem Orderly.owned {root : Root} (orderly : Orderly root) {e : String} (mem : e ∈ HOOK_EVENTS)
    {groups : List Json} (found : eventGroups root e = some groups)
    (gone : eventAfter (some (.array groups)) = none) :
    ∃ i j h, handlerAt root e i j = some h ∧ handlerIsOurs h = true := by
  obtain ⟨some_, alone⟩ := orderly.alone mem found gone
  obtain ⟨g, rest, rfl⟩ := List.exists_cons_of_ne_nil some_
  obtain ⟨hs, inner, filled, ours⟩ := alone g List.mem_cons_self
  obtain ⟨h, more, rfl⟩ := List.exists_cons_of_ne_nil filled
  exact ⟨0, 0, h, handlerAt_eq_some.mpr ⟨g :: rest, g, h :: more, found, rfl, inner, rfl⟩,
    ours h List.mem_cons_self⟩

/-- Where nothing is Libra's, an orderly document keeps its events. -/
theorem Orderly.removeEvents_self {root hooks : Root} (orderly : Orderly root)
    (object : hooksObject root = some hooks) (foreign : ∀ event ∈ HOOK_EVENTS, ∀ i j h,
      handlerAt root event i j = some h → handlerIsOurs h = false) {events : List String}
    (listed : ∀ e ∈ events, e ∈ HOOK_EVENTS) : (removeEvents events hooks).1 = hooks := by
  induction events with
  | nil => rfl
  | cons e events ih =>
      have mem := listed e List.mem_cons_self
      have rest := ih fun e' mem' => listed e' (List.mem_cons_of_mem e mem')
      have still : (removeEvent hooks e).1 = hooks := by
        by_cases array : ∃ groups, Fields.get e hooks = some (.array groups)
        · obtain ⟨groups, value⟩ := array
          have found : eventGroups root e = some groups := by
            rw [eventGroups_eq_some, eventValue_of_hooks object, value]
          have quiet : restOf groups = groups := by
            refine restOf_of_none ?_
            intro g mem' hs inner h here
            obtain ⟨i, at_⟩ := List.mem_iff_getElem?.mp mem'
            obtain ⟨j, there⟩ := List.mem_iff_getElem?.mp here
            exact foreign e mem i j h (handlerAt_eq_some.mpr ⟨groups, g, hs, found, at_, inner, there⟩)
          have filled : ¬ ((restOf groups).all fun group => groupHooks group = some []) = true := by
            intro empty
            have gone : eventAfter (some (.array groups)) = none := by rw [eventAfter, if_pos empty]
            obtain ⟨i, j, h, at_, ours⟩ := orderly.owned mem found gone
            rw [foreign e mem i j h at_] at ours
            cases ours
          rw [removeEvent_groups value, if_neg filled, quiet, Fields.put_self value]
        · rw [not_exists] at array
          exact (removeEvent_other array).1
      show (removeEvents events (removeEvent hooks e).1).1 = hooks
      rw [still, rest]

theorem uninstalled_of_orderly {root root' : Root} {n : Nat} (orderly : Orderly root)
    (done : uninstall root = .ok (root', n)) : Uninstalled root root' := by
  obtain ⟨keys, events, hooks⟩ := uninstall_ok done
  refine { keys, events := ?_, foreign := fun _ _ _ _ => foreign_after events orderly, values := ?_,
           groups := fun _ _ _ => group_after events orderly, gone := ?_, event := ?_, hooks := ?_,
           untouched := ?_ }
  · intro e apart
    rw [events, if_neg apart]
  · intro e v value other
    rw [events, value]
    split
    · cases v with
      | array groups => exact absurd rfl (other groups)
      | _ => rfl
    · rfl
  · intro e mem i j h at_
    obtain ⟨groups', g', hs', found', here', inner', there'⟩ := handlerAt_eq_some.mp at_
    obtain ⟨groups, -, rfl⟩ := groups_before events mem found'
    obtain ⟨g, -, rfl⟩ := mem_restOf (List.mem_of_getElem? here')
    rw [groupHooks_stripGroup, Option.map_eq_some_iff] at inner'
    obtain ⟨hs, -, rfl⟩ := inner'
    simpa using (List.mem_filter.mp (List.mem_of_getElem? there')).2
  · intro e there gone
    obtain ⟨mem, groups, found, goes⟩ := dropped_event events there gone
    refine ⟨orderly.owned mem found goes, ?_⟩
    intro i g at_
    obtain ⟨groups', found', here⟩ := groupAt_eq_some.mp at_
    rw [found, Option.some.injEq] at found'
    subst found'
    exact (orderly.alone mem found goes).2 g (List.mem_of_getElem? here)
  · intro there gone
    rcases hooks with ⟨missing, -⟩ | ⟨hooks, object, iff, -⟩
    · exact absurd missing there
    -- The hooks had a key, and each of their keys is an event that went.
    obtain ⟨x, rest, split⟩ : ∃ x rest, hooks = x :: rest := by
      cases hooks with
      | nil => exact absurd rfl (orderly [] object).1
      | cons x rest => exact ⟨x, rest, rfl⟩
    have key : eventValue root x.1 ≠ none := by
      rw [eventValue_of_hooks object, split, Fields.get_cons_self]
      nofun
    have gone' : eventValue root' x.1 = none := by
      rw [eventValue, hooksObject, gone]
      rfl
    obtain ⟨mem, groups, found, goes⟩ := dropped_event events key gone'
    exact ⟨x.1, mem, orderly.owned mem found goes⟩
  · intro foreign
    rcases hooks with ⟨-, same⟩ | ⟨hooks, object, -, same⟩
    · exact same
    · exact same (orderly.removeEvents_self object foreign fun _ mem => mem) (orderly hooks object).1

/-- An event that `remove` may drop has groups, and none of them was empty before. -/
theorem filled_of_uninstalled {root root' : Root} {n : Nat} (done : uninstall root = .ok (root', n))
    (result : Uninstalled root root') {event : String} (mem : event ∈ HOOK_EVENTS) {groups : List Json}
    (found : eventGroups root event = some groups) (none_ : NoForeign groups) :
    groups ≠ [] ∧ ∀ g ∈ groups, groupHooks g ≠ some [] := by
  obtain ⟨-, events, -⟩ := uninstall_ok done
  have gone : eventValue root' event = none := by
    rw [events, if_pos mem, eventGroups_eq_some.mp found, eventAfter_of_noForeign none_]
  obtain ⟨⟨i, j, h, at_, -⟩, alone⟩ :=
    result.event event (by rw [eventGroups_eq_some.mp found]; nofun) gone
  refine ⟨?_, ?_⟩
  · rintro rfl
    obtain ⟨groups', g, hs, found', here, -⟩ := handlerAt_eq_some.mp at_
    rw [found, Option.some.injEq] at found'
    subst found'
    cases here
  · intro g listed empty
    obtain ⟨i, here⟩ := List.mem_iff_getElem?.mp listed
    obtain ⟨hs, inner, filled, -⟩ := alone i g (groupAt_eq_some.mpr ⟨groups, found, here⟩)
    rw [empty, Option.some.injEq] at inner
    exact filled inner.symm

/-- The groups that `remove` leaves of an event. -/
theorem restOf_of_uninstall {root root' : Root} {n : Nat} (done : uninstall root = .ok (root', n))
    {event : String} (mem : event ∈ HOOK_EVENTS) {groups groups' : List Json}
    (found : eventGroups root event = some groups) (left_ : eventGroups root' event = some groups') :
    groups' = restOf groups := by
  obtain ⟨-, events, -⟩ := uninstall_ok done
  have value := eventGroups_eq_some.mp left_
  rw [events, if_pos mem, eventGroups_eq_some.mp found, eventAfter] at value
  split at value
  · cases value
  · cases value
    rfl

/-- Where `remove` moves no foreign handler, Libra's are last in each group. -/
theorem last_of_uninstalled {root root' : Root} {n : Nat} (done : uninstall root = .ok (root', n))
    (result : Uninstalled root root') {event : String} (mem : event ∈ HOOK_EVENTS) {groups : List Json}
    (found : eventGroups root event = some groups) {g : Json} (listed : g ∈ groups) {hs : List Json}
    (inner : groupHooks g = some hs) :
    hs.Pairwise fun a b => handlerIsOurs a = true → handlerIsOurs b = true := by
  refine (filter_places_iff hs).mp ?_
  intro j h here foreign
  obtain ⟨i, at_⟩ := List.mem_iff_getElem?.mp listed
  have stays := result.foreign event i j h
    (handlerAt_eq_some.mpr ⟨groups, g, hs, found, at_, inner, here⟩) foreign
  obtain ⟨groups', g', hs', found', here', inner', there'⟩ := handlerAt_eq_some.mp stays
  obtain rfl := restOf_of_uninstall done mem found found'
  rcases restOf_at at_ with same | ⟨gone, -⟩
  · rw [same, Option.some.injEq] at here'
    subst here'
    rw [groupHooks_stripGroup, inner, Option.map_some, Option.some.injEq] at inner'
    rw [inner']
    exact there'
  · rw [gone] at here'
    cases here'

/-- What `remove` leaves alone tells what the document was. -/
theorem orderly_of_uninstalled {root : Root}
    (uninstalled : ∀ root' n, uninstall root = .ok (root', n) → Uninstalled root root') :
    Orderly root := by
  intro hooks object
  obtain ⟨⟨root', n⟩, done⟩ := uninstall_isOk object
  have result := uninstalled root' n done
  obtain ⟨-, -, shape⟩ := uninstall_ok done
  have there : Fields.get "hooks" root ≠ none := by
    rw [hooksObject_eq_some.mp object]
    nofun
  refine ⟨?_, fun event mem groups found => ⟨filled_of_uninstalled done result mem found,
    fun g listed hs inner => last_of_uninstalled done result mem found listed inner⟩⟩
  rintro rfl
  rcases shape with ⟨missing, -⟩ | ⟨hooks, object', iff, -⟩
  · exact there missing
  · rw [object, Option.some.injEq] at object'
    subst object'
    obtain ⟨event, -, i, j, h, at_, -⟩ := result.hooks there (iff.mpr rfl)
    obtain ⟨groups, g, hs, found, -⟩ := handlerAt_eq_some.mp at_
    rw [eventGroups_eq_some, eventValue_of_hooks object] at found
    cases found

/-- What `remove` does where nothing else goes wrong. -/
theorem remove_quiet (root : Root) : remove ⟨none, none⟩ (some (.object root)) =
    (uninstall root).map fun done => (done.2, some (.object done.1)) := by
  show (do let (root, removed) ← uninstall root; _) = _
  cases uninstall root with
  | error e => rfl
  | ok done => rfl

theorem orderly_of_keeps {binary : String} {root : Root} (keeps : KeepsTrustKeys binary root) :
    Orderly root := by
  refine orderly_of_uninstalled ?_
  intro root' n done
  obtain ⟨root'', same, result⟩ := (keeps ⟨none, none⟩).2.1 n (some (.object root')) (by
    rw [remove_quiet, done]
    rfl)
  cases same
  exact result

/-- The edits leave all but Libra's own hooks alone, and every foreign hook at its trust key,
exactly when the document is orderly. -/
theorem keepsTrustKeys_iff {binary : String} (plain : PlainBinary binary) (root : Root) :
    KeepsTrustKeys binary root ↔ Orderly root := by
  constructor
  · exact orderly_of_keeps
  · intro orderly fs
    refine ⟨?_, ?_, ?_, ?_⟩
    · intro n file done
      unfold apply at done
      rw [plain.safe] at done
      simp only [Bool.false_eq_true, if_false, bind_eq_ok_iff] at done
      obtain ⟨-, -, existing, read, ⟨root', m⟩, installed, -, -, done⟩ := done
      cases read
      cases done
      exact ⟨root', rfl, installed_of_orderly plain orderly installed⟩
    · intro n file done
      unfold remove at done
      simp only [bind_eq_ok_iff] at done
      obtain ⟨-, -, existing, read, done⟩ := done
      cases read
      simp only [bind_eq_ok_iff] at done
      obtain ⟨⟨root', m⟩, uninstalled, -, -, done⟩ := done
      cases done
      exact ⟨root', rfl, uninstalled_of_orderly orderly uninstalled⟩
    · intro e failed
      rw [failed]
      rfl
    · intro e failed
      rw [failed]
      rfl

/-! ## Poles -/

def codexBinary : String := "/usr/local/bin/libra-governor"

theorem codexBinary_plain : PlainBinary codexBinary where
  absolute := by decide +kernel
  safe := by decide +kernel
  name := by decide +kernel
  noTrailingSlash := by decide +kernel

/-- A command handler. -/
def commandHook (command : String) : Json :=
  .object [("command", .string command), ("type", .string "command")]

/-- A document whose `Stop` event has one group of the handlers. -/
def stopGroup (handlers : List Json) : Root :=
  [("hooks", .object [("Stop", .array [.object [("hooks", .array handlers)]])])]

/-- A foreign hook after Libra's in one group takes its place when Libra's goes. -/
theorem shared_group_moves : ¬ KeepsTrustKeys codexBinary
    (stopGroup [commandHook "/usr/local/bin/libra-governor codex-hook stop",
      commandHook "/opt/notify done"]) := by
  intro keeps
  obtain ⟨-, last⟩ := (orderly_of_keeps keeps _ rfl).2 "Stop" (by decide) _ rfl
  exact absurd (last _ List.mem_cons_self _ rfl) (by decide +kernel)

-- The group that was empty before goes with the one that `remove` emptied.
example : uninstall [("hooks", .object [("Stop", .array
    [.object [("hooks", .array []), ("matcher", .string "Bash")],
      .object [("hooks", .array [commandHook "/usr/local/bin/libra-governor codex-hook stop"])]])])] =
    .ok ([], 1) := by
  decide +kernel

/-- With Libra's hook after it, the foreign one stays. -/
theorem libra_last_stays : KeepsTrustKeys codexBinary
    (stopGroup [commandHook "/opt/notify done",
      commandHook "/usr/local/bin/libra-governor codex-hook stop"]) := by
  refine (keepsTrustKeys_iff codexBinary_plain _).mpr ?_
  intro hooks object
  cases object
  refine ⟨nofun, ?_⟩
  intro event mem groups found
  have stop : event = "Stop" := by
    by_contra other
    have none : eventGroups (stopGroup [commandHook "/opt/notify done",
        commandHook "/usr/local/bin/libra-governor codex-hook stop"]) event = Option.none := by
      simp [eventGroups, eventValue, hooksObject, stopGroup, Fields.get, Json.asObject, Ne.symm other]
    rw [none] at found
    cases found
  subst stop
  cases found
  refine ⟨fun _ => ⟨List.cons_ne_nil _ _, by decide +kernel⟩, ?_⟩
  intro g mem' hs inner
  rw [List.mem_singleton] at mem'
  subst mem'
  cases inner
  decide +kernel

end LibraGovernor.CodexHooksFile
