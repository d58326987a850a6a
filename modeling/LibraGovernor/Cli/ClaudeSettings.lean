/-
# LibraGovernor.Cli.ClaudeSettings -- editing Claude Code's `settings.json`

`apply` leaves one handler of Libra's for each of six events, in a group that applies to every
tool, and a status line where there is none; `remove` takes away every command that is
Libra's, with the groups and the events that this empties.

Two things of the user's do not survive.  A status line that has no command text, such as a
bare string, is taken for a missing one and written over.  And `remove` drops an event that
is an empty array, and `hooks` that are an empty object, though it removed nothing from them.
Without these (`Sound`) everything foreign stays, and `remove` takes back what `apply` did
(`leavesForeign_iff`).
-/
import LibraGovernor.Cli.HookGroups
import LibraGovernor.Lib.Pruned
import Mathlib.Algebra.GroupWithZero.Nat

namespace LibraGovernor.ClaudeSettings

open Transaction KeepFirst

set_option autoImplicit false

def OWNED_COMMAND_SUFFIXES : List String :=
  ["hook user-prompt-submit", "hook post-tool-use", "hook stop", "hook pre-tool-use",
    "hook subagent-stop", "hook session-end", "statusline", "gateway token"]

def HOOK_EVENTS : List String := ["UserPromptSubmit", "PostToolUse", "Stop"]

def SHARED_BUDGET_HOOK_EVENTS : List String := ["PreToolUse", "SubagentStop", "SessionEnd"]

structure HookSpec where
  event : String
  subcommand : String
  deriving DecidableEq, Repr

def HOOK_SUBCOMMANDS : List HookSpec :=
  [⟨"UserPromptSubmit", "hook user-prompt-submit"⟩, ⟨"PostToolUse", "hook post-tool-use"⟩,
    ⟨"Stop", "hook stop"⟩, ⟨"PreToolUse", "hook pre-tool-use"⟩,
    ⟨"SubagentStop", "hook subagent-stop"⟩, ⟨"SessionEnd", "hook session-end"⟩]

def SETTLEMENT_HOOK_TIMEOUT_SECS : Nat := 10

def commandIsOurs (command : String) : Bool :=
  OWNED_COMMAND_SUFFIXES.any fun suffix =>
    commandIsOursWithSuffix command.toList suffix.toList true

def handlerIsOurs (h : Json) : Bool := (commandOf h).any commandIsOurs

/-! ## The base URL -/

/-- `str::split_once` of a text. -/
def splitOnceText (sep : List Char) : List Char → Option (List Char × List Char)
  | [] => if sep.isEmpty then some ([], []) else none
  | c :: cs =>
      if sep.isPrefixOf (c :: cs) then some ([], (c :: cs).drop sep.length)
      else (splitOnceText sep cs).map fun parts => (c :: parts.1, parts.2)

/-- `str::rsplit_once`. -/
def rsplitOnce (sep : Char) (s : List Char) : Option (List Char × List Char) :=
  (splitOnce sep s.reverse).map fun parts => (parts.2.reverse, parts.1.reverse)

def isPort (port : List Char) : Bool :=
  !port.isEmpty && port.length ≤ 5 && port.all fun c => '0' ≤ c && c ≤ '9'

/-- The host of an authority, when what follows it is a port or nothing. -/
def hostOf : List Char → Option (List Char)
  | '[' :: bracketed =>
      match splitOnce ']' bracketed with
      | none => none
      | some (inside, []) => some inside
      | some (inside, ':' :: port) => if isPort port then some inside else none
      | some (_, _) => none
  | authority =>
      match rsplitOnce ':' authority with
      | some (host, port) => if isPort port then some host else none
      | none => some authority

/-- Whether a URL's host is a loopback one. -/
def isLoopbackBaseUrl (url : String) : Bool :=
  match splitOnceText "://".toList url.toList with
  | none => false
  | some (scheme, rest) =>
      let authority := rest.takeWhile fun c => c ≠ '/' && c ≠ '?' && c ≠ '#'
      ["http".toList, "https".toList].contains (scheme.map Char.toLower) &&
        !authority.isEmpty && !(authority.any fun c => c = '@' || c = '\\' || c = ' ') &&
        (hostOf authority).any fun host =>
          ["127.0.0.1".toList, "localhost".toList, "::1".toList].contains (host.map Char.toLower)

/-! ## Installing -/

def wantsTimeout (spec : HookSpec) : Bool := spec.event = "SubagentStop" || spec.event = "SessionEnd"

def settlementTimeout : Json := .number (.integer SETTLEMENT_HOOK_TIMEOUT_SECS)

/-- Gives a handler the settlement timeout it lacks. -/
def addTimeout (spec : HookSpec) (h : Json) : Json × Bool :=
  if wantsTimeout spec && (h.get "timeout").isNone then
    match h with
    | .object fields => (.object (Fields.upsert "timeout" settlementTimeout id fields), true)
    | h => (h, false)
  else (h, false)

/-- Points a handler at the command, and gives it the timeout. -/
def touchHook (spec : HookSpec) (command : String) (h : Json) : Json × Bool :=
  let (h, moved) := repoint command h
  let (h, timed) := addTimeout spec h
  (h, moved || timed)

/-- The handler that is written for an event. -/
def hookEntry (spec : HookSpec) (command : String) : Json :=
  .object ([("command", .string command)] ++
    (if wantsTimeout spec then [("timeout", settlementTimeout)] else []) ++
    [("type", .string "command")])

def hookGroup (spec : HookSpec) (command : String) : Json :=
  .object [("hooks", .array [hookEntry spec command])]

/-- What `apply` writes for an event.  A group it empties is dropped. -/
def installer (binary : String) (spec : HookSpec) : Installer where
  command := hookCommand binary spec.subcommand
  subcommand := spec.subcommand
  touch := touchHook spec (hookCommand binary spec.subcommand)
  drop := dropEmptied
  group := hookGroup spec (hookCommand binary spec.subcommand)

/-- The command of a status line, when it has one. -/
def statusCommand (root : Root) : Option String := (Fields.get "statusLine" root).bind commandOf

structure Applied where
  hooksAdded : Nat
  statuslineAdded : Bool
  statuslineConflict : Bool
  deriving DecidableEq, Repr

/-- Writes the status line unless one with another command is there; whether it was added, and
whether there was a conflict. -/
def installStatusline (binary : String) (root : Root) : Root × Bool × Bool :=
  let command := hookCommand binary "statusline"
  let alreadyOurs : Bool := statusCommand root = some command
  let conflict := (statusCommand root).isSome && !alreadyOurs
  if !alreadyOurs && !conflict then
    (Fields.put "statusLine"
      (.object [("command", .string command), ("type", .string "command")]) root, true, conflict)
  else (root, false, conflict)

/-- The edit of `apply`. -/
def install (binary : String) (statusline : Bool) (root : Root) :
    Except HookFileError (Root × Applied) := do
  let (root, hooksAdded) ←
    editRoot HookSpec.event (fun spec => (installer binary spec).install) HOOK_SUBCOMMANDS root
  if statusline then
    let (root, added, conflict) := installStatusline binary root
    return (root, ⟨hooksAdded, added, conflict⟩)
  else return (root, ⟨hooksAdded, false, false⟩)

/-- `apply_locked`, behind `reject_unsafe_binary` and the write lock. -/
def applyLocked (statusline : Bool) (fs : FileSystem) (binary : String) (file : Option Json) :
    Except HookFileError (Applied × Option Json) := do
  if hasShellUnsafeChar binary.toList then throw (.unsafeBinaryPath binary)
  else
    FileSystem.fails fs.lock
    let existing ← readObject file
    let (root, applied) ← install binary statusline (existing.getD [])
    FileSystem.fails fs.write
    return (applied, some (.object root))

def apply := applyLocked true

def applyHooksOnly := applyLocked false

/-! ## Removing -/

/-- The groups of an event without Libra's handlers. -/
def stripGroups (groups : List Json) : List Json := dropEmptied (groups.map (stripGroup handlerIsOurs))

/-- One entry of the hooks: an event without Libra's handlers, or nothing when it is empty. -/
def stripEvent (entry : String × Json) : Option (String × Json) :=
  match entry.2 with
  | .array groups =>
      if (stripGroups groups).isEmpty then none else some (entry.1, .array (stripGroups groups))
  | _ => some entry

def eventCount (entry : String × Json) : Nat :=
  match entry.2 with
  | .array groups => (groups.map (ownedCount handlerIsOurs)).sum
  | _ => 0

/-- The hooks without Libra's handlers, and how many there were. -/
def removeHooks (root : Root) : Root × Nat :=
  match Fields.get "hooks" root with
  | some (.object hooks) =>
      let rest := hooks.filterMap stripEvent
      (if rest.isEmpty then Fields.remove "hooks" root else Fields.put "hooks" (.object rest) root,
        (hooks.map eventCount).sum)
  | _ => (root, 0)

def statuslineIsOurs (root : Root) : Bool := (statusCommand root).any commandIsOurs

def apiKeyHelperIsOurs (root : Root) : Bool :=
  ((Fields.get "apiKeyHelper" root).bind Json.asStr).any commandIsOurs

/-- The base URL of the environment a document sets. -/
def baseUrl (root : Root) : Option String :=
  ((Fields.get "env" root).bind fun env => env.get "ANTHROPIC_BASE_URL").bind Json.asStr

def baseUrlIsOurs (root : Root) : Bool := (baseUrl root).any isLoopbackBaseUrl

def removeStatusline (root : Root) : Root :=
  if statuslineIsOurs root then Fields.remove "statusLine" root else root

def removeApiKeyHelper (root : Root) : Root :=
  if apiKeyHelperIsOurs root then Fields.remove "apiKeyHelper" root else root

def removeBaseUrl (root : Root) : Root :=
  match Fields.get "env" root with
  | some (.object env) =>
      if baseUrlIsOurs root then
        Fields.put "env" (.object (Fields.remove "ANTHROPIC_BASE_URL" env)) root
      else root
  | _ => root

structure Removed where
  hookCommandsRemoved : Nat
  statuslineRemoved : Bool
  apiKeyHelperRemoved : Bool
  baseUrlRemoved : Bool
  fileAbsent : Bool
  deriving DecidableEq, Repr

/-- The edit of `remove`. -/
def uninstall (root : Root) : Root × Removed :=
  let (root₁, removed) := removeHooks root
  let root₂ := removeStatusline root₁
  let root₃ := removeApiKeyHelper root₂
  (removeBaseUrl root₃,
    ⟨removed, statuslineIsOurs root₁, apiKeyHelperIsOurs root₂, baseUrlIsOurs root₃, false⟩)

/-- `remove`: a missing file is left missing. -/
def remove (fs : FileSystem) (file : Option Json) : Except HookFileError (Removed × Option Json) := do
  FileSystem.fails fs.lock
  match ← readObject file with
  | none => return (⟨0, false, false, false, true⟩, file)
  | some root =>
      let (root, removed) := uninstall root
      FileSystem.fails fs.write
      return (removed, some (.object root))

/-! ## Inspecting -/

structure Inspection where
  filePresent : Bool
  hooksWired : List Bool
  sharedBudgetHooksWired : List Bool
  statuslineWired : Bool
  apiKeyHelperWired : Bool
  baseUrlPresent : Bool
  baseUrlIsLoopback : Bool
  unusableCommands : Nat
  deriving DecidableEq, Repr

/-- Whether an event has a command of Libra's in a group that applies to every tool. -/
def wired (root : Root) (event : String) : Bool :=
  (eventGroups root event).any fun groups => (members allToolsHooks groups).any handlerIsOurs

/-- A command of Libra's that a shell would split. -/
def commandIsUnusable (command : String) : Bool :=
  commandIsOurs command && OWNED_COMMAND_SUFFIXES.any fun suffix =>
    (stripSuffix command.toList suffix.toList).any fun before =>
      let binary := before.rdropWhile isWhitespace
      !isHandQuotedAndRunnable binary && hasShellUnsafeChar binary

/-- The handlers of every event in the groups that apply to every tool. -/
def allToolsHandlers (root : Root) : List Json :=
  ((hooksObject root).getD []).flatMap fun entry =>
    members allToolsHooks (entry.2.asArray.getD [])

def unusableCommands (root : Root) : Nat :=
  ((allToolsHandlers root).filter fun h => (commandOf h).any commandIsUnusable).length +
    ((statusCommand root).any commandIsUnusable).toNat

def inspect (file : Option Json) : Inspection :=
  match readObject file with
  | .ok (some root) =>
      { filePresent := true
        hooksWired := HOOK_EVENTS.map (wired root)
        sharedBudgetHooksWired := SHARED_BUDGET_HOOK_EVENTS.map (wired root)
        statuslineWired := statuslineIsOurs root
        apiKeyHelperWired := apiKeyHelperIsOurs root
        baseUrlPresent := (baseUrl root).isSome
        baseUrlIsLoopback := baseUrlIsOurs root
        unusableCommands := unusableCommands root }
  | _ => ⟨file.isSome, [false, false, false], [false, false, false], false, false, false, false, 0⟩

/-! ## What the edits should leave alone -/

def HOOKS : List String := HOOK_SUBCOMMANDS.map HookSpec.event

/-- What of an event's groups is not Libra's for the event. -/
def foreignGroups (spec : HookSpec) (groups : List Json) : List Json :=
  groups.filterMap (others (handlerIsOursFor spec.subcommand) allToolsHooks fillHooks)

/-- What `apply` leaves. -/
structure Installed (binary : String) (root root' : Root) : Prop where
  keys : ∀ key, key ≠ "hooks" → key ≠ "statusLine" → Fields.get key root' = Fields.get key root
  statusline : ∀ v, Fields.get "statusLine" root = some v →
    (commandOf v).any commandIsOurs = false → Fields.get "statusLine" root' = some v
  events : ∀ event, event ∉ HOOKS → eventValue root' event = eventValue root event
  foreign : ∀ spec ∈ HOOK_SUBCOMMANDS,
    foreignGroups spec ((eventGroups root' spec.event).getD []) =
      foreignGroups spec ((eventGroups root spec.event).getD [])
  one : ∀ spec ∈ HOOK_SUBCOMMANDS, ∃ groups h, eventGroups root' spec.event = some groups ∧
    (members allToolsHooks groups).filter (handlerIsOursFor spec.subcommand) = [h] ∧
    commandOf h = some (hookCommand binary spec.subcommand)
  again : ∃ conflict, install binary true root' = .ok (root', ⟨0, false, conflict⟩)
  wired : (inspect (some (.object root'))).hooksWired = [true, true, true] ∧
    (inspect (some (.object root'))).sharedBudgetHooksWired = [true, true, true]

/-- A document in which nothing is Libra's. -/
structure NothingOwned (root : Root) : Prop where
  handlers : ∀ event i j h, handlerAt root event i j = some h → handlerIsOurs h = false
  statusline : statuslineIsOurs root = false
  apiKeyHelper : apiKeyHelperIsOurs root = false
  baseUrl : baseUrlIsOurs root = false

/-- A group without the handlers that were Libra's. -/
def Stripped (g' g : Json) : Prop :=
  g' = g ∨ ∃ hs, groupHooks g = some hs ∧ g' = fillHooks g (hs.filter fun h => !handlerIsOurs h)

/-- A group that had handlers, all of them Libra's. -/
def Emptied (g : Json) : Prop :=
  ∃ hs, groupHooks g = some hs ∧ hs ≠ [] ∧ ∀ h ∈ hs, handlerIsOurs h = true

/-- Whether an event has a handler of Libra's. -/
def HasOurs (root : Root) (event : String) : Prop :=
  ∃ i j h, handlerAt root event i j = some h ∧ handlerIsOurs h = true

/-- What `remove` leaves: it drops a group, an event or the hooks only when that was emptied by
what it removed. -/
structure Uninstalled (root root' : Root) : Prop where
  keys : ∀ key, key ∉ ["hooks", "statusLine", "apiKeyHelper", "env"] →
    Fields.get key root' = Fields.get key root
  statusline : statuslineIsOurs root = false →
    Fields.get "statusLine" root' = Fields.get "statusLine" root
  apiKeyHelper : apiKeyHelperIsOurs root = false →
    Fields.get "apiKeyHelper" root' = Fields.get "apiKeyHelper" root
  env : baseUrlIsOurs root = false → Fields.get "env" root' = Fields.get "env" root
  envKeys : ∀ key, key ≠ "ANTHROPIC_BASE_URL" →
    ((Fields.get "env" root').bind fun env => env.get key) =
      (Fields.get "env" root).bind fun env => env.get key
  gone : (∀ event i j h, handlerAt root' event i j = some h → handlerIsOurs h = false) ∧
    statuslineIsOurs root' = false ∧ apiKeyHelperIsOurs root' = false
  groups : ∀ event groups, eventGroups root event = some groups →
    ∃ groups', Pruned Stripped Emptied groups' groups ∧
      (eventGroups root' event = some groups' ∨
        eventValue root' event = none ∧ groups' = [] ∧ HasOurs root event)
  events : ∀ event, eventGroups root event = none → eventValue root' event = eventValue root event
  hooks : Fields.get "hooks" root' = none → Fields.get "hooks" root = none ∨
    ∃ event, HasOurs root event
  shape : hooksObject root = none → Fields.get "hooks" root' = Fields.get "hooks" root
  untouched : NothingOwned root → root' = root

/-- The two calls leave what is foreign alone, `remove` takes back what `apply` did to a document
that held nothing of Libra's, and a call that fails changes nothing. -/
def LeavesForeign (binary : String) (root : Root) : Prop :=
  ∀ fs,
    (∀ applied file, apply fs binary (some (.object root)) = .ok (applied, file) →
      ∃ root', file = some (.object root') ∧ Installed binary root root') ∧
    (∀ removed file, remove fs (some (.object root)) = .ok (removed, file) →
      ∃ root', file = some (.object root') ∧ Uninstalled root root') ∧
    (NothingOwned root → ∀ applied file, apply fs binary (some (.object root)) = .ok (applied, file) →
      ∀ fs' removed file', remove fs' file = .ok (removed, file') → file' = some (.object root)) ∧
    (∀ e, apply fs binary (some (.object root)) = .error e →
      commit (some (.object root)) (apply fs binary (some (.object root))) = some (.object root)) ∧
    (∀ e, remove fs (some (.object root)) = .error e →
      commit (some (.object root)) (remove fs (some (.object root))) = some (.object root))

/-- The status line of a document that `apply` can edit has a command text, the hooks are not an
empty object, and none of their events is an empty array. -/
def Sound (root : Root) : Prop :=
  (Editable HookSpec.event HOOK_SUBCOMMANDS root →
    ∀ v, Fields.get "statusLine" root = some v → commandOf v ≠ none) ∧
  ∀ hooks, hooksObject root = some hooks → hooks ≠ [] ∧
    ∀ event, Fields.get event hooks ≠ some (.array [])

/-! ## Installing, proved -/

theorem specs_distinct : (HOOK_SUBCOMMANDS.map HookSpec.event).Nodup := by decide

theorem ours_of_oursFor {spec : HookSpec} (mem : spec ∈ HOOK_SUBCOMMANDS) {h : Json}
    (ours : handlerIsOursFor spec.subcommand h = true) : handlerIsOurs h = true := by
  have listed : spec.subcommand ∈ OWNED_COMMAND_SUFFIXES := by
    have all : ∀ spec ∈ HOOK_SUBCOMMANDS, spec.subcommand ∈ OWNED_COMMAND_SUFFIXES := by decide
    exact all spec mem
  obtain ⟨c, command, owned⟩ := (Option.any_eq_true _ _).mp ours
  exact (Option.any_eq_true _ _).mpr ⟨c, command, List.any_eq_true.mpr ⟨_, listed, owned⟩⟩

section Touch

variable (spec : HookSpec) (command : String)

theorem addTimeout_spec {h : Json} {c : String} (here : commandOf h = some c) :
    commandOf (addTimeout spec h).1 = some c ∧
      (wantsTimeout spec = true → (addTimeout spec h).1.get "timeout" ≠ none) := by
  unfold addTimeout
  split
  · rename_i wants
    obtain ⟨fields, rfl⟩ : ∃ fields, h = .object fields := by
      rw [commandOf_eq_some] at here
      cases h with
      | object fields => exact ⟨fields, rfl⟩
      | _ => cases here
    have missing : Fields.get "timeout" fields = none :=
      Option.isNone_iff_eq_none.mp ((Bool.and_eq_true _ _).mp wants).2
    refine ⟨?_, ?_⟩
    · rw [commandOf_eq_some] at here ⊢
      exact (Fields.get_upsert_ne (by decide) settlementTimeout id fields).trans here
    · intro _
      show Fields.get "timeout" (Fields.upsert "timeout" settlementTimeout id fields) ≠ none
      rw [Fields.get_upsert_missing missing]
      nofun
  · rename_i had
    refine ⟨here, ?_⟩
    intro wants missing
    rw [wants, missing] at had
    exact had rfl

/-- A touched handler has the command, and the timeout where one is wanted. -/
theorem touchHook_spec {h : Json} {c : String} (here : commandOf h = some c) :
    commandOf (touchHook spec command h).1 = some command ∧
      (wantsTimeout spec = true → (touchHook spec command h).1.get "timeout" ≠ none) :=
  addTimeout_spec spec (commandOf_repoint here)

/-- A handler that has both is not touched. -/
theorem touchHook_fixed {h : Json} (here : commandOf h = some command)
    (timeout : wantsTimeout spec = true → h.get "timeout" ≠ none) :
    touchHook spec command h = (h, false) := by
  have same : repoint command h = (h, false) := if_pos here
  have timed : addTimeout spec h = (h, false) := by
    refine if_neg ?_
    intro wants
    obtain ⟨wants, missing⟩ := (Bool.and_eq_true _ _).mp wants
    exact timeout wants (Option.isNone_iff_eq_none.mp missing)
  simp only [touchHook, same, timed]
  rfl

theorem hookEntry_spec : commandOf (hookEntry spec command) = some command ∧
    (wantsTimeout spec = true → (hookEntry spec command).get "timeout" ≠ none) := by
  unfold hookEntry
  cases wantsTimeout spec with
  | true => exact ⟨rfl, fun _ => nofun⟩
  | false => exact ⟨rfl, nofun⟩

end Touch

theorem installer_lawful {binary : String} (plain : PlainBinary binary) (spec : HookSpec) :
    (installer binary spec).Lawful where
  ours := ours_of_plain plain spec.subcommand true
  touched := by
    intro h c here
    obtain ⟨command, timeout⟩ := touchHook_spec spec (hookCommand binary spec.subcommand) here
    exact ⟨command, touchHook_fixed spec _ command timeout⟩
  members := fun _ empty => members_dropEmptied empty
  none := fun _ none => dropEmptied_of_none none
  group := by
    obtain ⟨command, timeout⟩ := hookEntry_spec spec (hookCommand binary spec.subcommand)
    exact ⟨_, rfl, command, touchHook_fixed spec _ command timeout⟩

section Install

variable {binary : String} (plain : PlainBinary binary) (spec : HookSpec) (groups : List Json)

include plain in
theorem others_hookGroup :
    others (handlerIsOursFor spec.subcommand) allToolsHooks fillHooks
      (hookGroup spec (hookCommand binary spec.subcommand)) = none := by
  have inner : allToolsHooks (hookGroup spec (hookCommand binary spec.subcommand)) =
      some [hookEntry spec (hookCommand binary spec.subcommand)] := rfl
  have ours : handlerIsOursFor spec.subcommand
      (hookEntry spec (hookCommand binary spec.subcommand)) = true :=
    Installer.oursFor_of_command (installer_lawful plain spec) (hookEntry_spec spec _).1
  simp [others, inner, ours]

include plain in
/-- What is foreign in an event is as it was. -/
theorem install_foreign :
    foreignGroups spec ((installer binary spec).install groups).1 = foreignGroups spec groups := by
  have lawful := installer_lawful plain spec
  have scan := Installer.scan_eq lawful groups
  have same := @groups_others _ _ (handlerIsOursFor spec.subcommand) (installer binary spec).touch
    allToolsHooks fillHooks allToolsHooks_fill fillHooks_fill
    (fun _ => Installer.touched_ours lawful) .start groups
  rw [show (installer binary spec).subcommand = spec.subcommand from rfl] at scan
  rw [← scan] at same
  simp only [Installer.install]
  split
  · exact same
  · rw [foreignGroups, List.filterMap_append]
    have added : [(installer binary spec).group].filterMap
        (others (handlerIsOursFor spec.subcommand) allToolsHooks fillHooks) = [] :=
      List.filterMap_cons_none (others_hookGroup plain spec)
    rw [added, List.append_nil]
    exact same

include plain in
/-- Where nothing is Libra's, a group is added. -/
theorem install_of_none
    (none : ∀ h ∈ members allToolsHooks groups, handlerIsOursFor spec.subcommand h = false) :
    ((installer binary spec).install groups).1 =
      groups ++ [hookGroup spec (hookCommand binary spec.subcommand)] := by
  have scan := Installer.scan_of_none (installer_lawful plain spec) groups none
  have kept : (dropEmptied (groups.map fun g => (g, false))) = groups := by
    rw [dropEmptied_of_none (by simp), List.map_map]
    exact List.map_id _
  simp only [Installer.install, scan]
  show dropEmptied _ ++ _ = _
  rw [kept]
  rfl

end Install

/-! ## The status line, proved -/

section Statusline

variable (binary : String) (root : Root)

theorem installStatusline_get {key : String} (other : key ≠ "statusLine") :
    Fields.get key (installStatusline binary root).1 = Fields.get key root := by
  simp only [installStatusline]
  split
  · rw [Fields.get_put, if_neg other]
  · rfl

/-- A status line with a command text is left. -/
theorem installStatusline_some {c : String} (here : statusCommand root = some c) :
    (installStatusline binary root).1 = root ∧ (installStatusline binary root).2.1 = false := by
  simp only [installStatusline, here]
  by_cases same : c = hookCommand binary "statusline"
  · simp [same]
  · simp [same]

/-- One without is written over. -/
theorem installStatusline_none (missing : statusCommand root = none) :
    (installStatusline binary root).1 = Fields.put "statusLine"
      (.object [("command", .string (hookCommand binary "statusline")), ("type", .string "command")])
      root := by
  simp [installStatusline, missing]

theorem statusCommand_installed : ∃ c, statusCommand (installStatusline binary root).1 = some c := by
  cases here : statusCommand root with
  | some c => exact ⟨c, by rw [(installStatusline_some binary root here).1, here]⟩
  | none =>
      refine ⟨hookCommand binary "statusline", ?_⟩
      rw [installStatusline_none binary root here, statusCommand, Fields.get_put, if_pos rfl]
      rfl

end Statusline

theorem hooksObject_congr {root root' : Root} (same : Fields.get "hooks" root' = Fields.get "hooks" root) :
    hooksObject root' = hooksObject root := by
  rw [hooksObject, same, hooksObject]

theorem eventValue_congr {root root' : Root} (same : Fields.get "hooks" root' = Fields.get "hooks" root)
    (event : String) : eventValue root' event = eventValue root event := by
  rw [eventValue, hooksObject_congr same, eventValue]

theorem eventGroups_congr {root root' : Root} (same : Fields.get "hooks" root' = Fields.get "hooks" root)
    (event : String) : eventGroups root' event = eventGroups root event := by
  rw [eventGroups, eventValue_congr same, eventGroups]

/-- The edit of `apply`, taken apart. -/
theorem install_ok {binary : String} {root root' : Root} {applied : Applied}
    (done : install binary true root = .ok (root', applied)) :
    ∃ mid n, editRoot HookSpec.event (fun spec => (installer binary spec).install) HOOK_SUBCOMMANDS root =
        .ok (mid, n) ∧ root' = (installStatusline binary mid).1 := by
  unfold install at done
  obtain ⟨⟨mid, n⟩, edited, done⟩ := (bind_eq_ok_iff _ _ _).mp done
  simp only [if_true] at done
  cases done
  exact ⟨mid, n, edited, rfl⟩

/-- A second `apply` changes nothing. -/
theorem install_again {binary : String} (plain : PlainBinary binary) {root root' : Root}
    {applied : Applied} (done : install binary true root = .ok (root', applied)) :
    ∃ conflict, install binary true root' = .ok (root', ⟨0, false, conflict⟩) := by
  obtain ⟨mid, n, edited, rfl⟩ := install_ok done
  obtain ⟨-, ⟨hooks', object⟩, -, each⟩ := editRoot_ok specs_distinct edited
  have hooks : Fields.get "hooks" (installStatusline binary mid).1 = Fields.get "hooks" mid :=
    installStatusline_get binary mid (by decide)
  have still : editRoot HookSpec.event (fun spec => (installer binary spec).install) HOOK_SUBCOMMANDS
      (installStatusline binary mid).1 = .ok ((installStatusline binary mid).1, 0) := by
    refine editRoot_still ((hooksObject_congr hooks).trans object) ?_
    intro spec mem
    refine ⟨_, (eventGroups_congr hooks _).trans (each spec mem).2, ?_⟩
    exact Installer.install_again (installer_lawful plain spec) _
  obtain ⟨c, command⟩ := statusCommand_installed binary mid
  obtain ⟨same, quiet⟩ := installStatusline_some binary _ command
  refine ⟨(installStatusline binary (installStatusline binary mid).1).2.2, ?_⟩
  simp only [install, still]
  show Except.ok ((installStatusline binary (installStatusline binary mid).1).1,
    (⟨0, (installStatusline binary (installStatusline binary mid).1).2.1, _⟩ : Applied)) = _
  rw [same, quiet]

/-- What `apply` leaves of a document that keeps its status line. -/
theorem installed {binary : String} (plain : PlainBinary binary) {root root' : Root}
    {applied : Applied} (sound : Sound root)
    (done : install binary true root = .ok (root', applied)) : Installed binary root root' := by
  have again := install_again plain done
  obtain ⟨mid, n, edited, rfl⟩ := install_ok done
  obtain ⟨keys, -, events, each⟩ := editRoot_ok specs_distinct edited
  have hooks : Fields.get "hooks" (installStatusline binary mid).1 = Fields.get "hooks" mid :=
    installStatusline_get binary mid (by decide)
  have groups : ∀ spec ∈ HOOK_SUBCOMMANDS,
      eventGroups (installStatusline binary mid).1 spec.event =
        some ((installer binary spec).install ((eventGroups root spec.event).getD [])).1 := by
    intro spec mem
    rw [eventGroups_congr hooks, (each spec mem).2]
  have one := fun spec => Installer.install_one (installer_lawful plain spec)
    ((eventGroups root spec.event).getD [])
  have reported : ∀ events : List String, (∀ event ∈ events, event ∈ HOOKS) →
      events.map (wired (installStatusline binary mid).1) = events.map fun _ => true := by
    intro events listed
    refine List.map_congr_left fun event among => ?_
    obtain ⟨spec, mem, rfl⟩ := List.mem_map.mp (listed event among)
    obtain ⟨h, only, -⟩ := one spec
    have ours := List.mem_filter.mp (only ▸ List.mem_singleton_self h)
    rw [wired, groups spec mem, Option.any_some, List.any_eq_true]
    exact ⟨h, ours.1, ours_of_oursFor mem ours.2⟩
  refine ⟨?_, ?_, ?_, ?_, ?_, again, reported HOOK_EVENTS (by decide),
    reported SHARED_BUDGET_HOOK_EVENTS (by decide)⟩
  · intro key notHooks notStatusline
    rw [installStatusline_get binary mid notStatusline, keys key notHooks]
  · intro v here _
    have editable := (editRoot_isOk_iff specs_distinct root).mp ⟨_, edited⟩
    obtain ⟨c, command⟩ := Option.ne_none_iff_exists'.mp (sound.1 editable v here)
    have here' : Fields.get "statusLine" mid = some v := (keys _ (by decide)).trans here
    rw [(installStatusline_some binary mid (c := c) (by rw [statusCommand, here']; exact command)).1]
    exact here'
  · intro event apart
    rw [eventValue_congr hooks, events event apart]
  · intro spec mem
    rw [groups spec mem]
    exact install_foreign plain spec _
  · intro spec mem
    obtain ⟨h, only, command, -⟩ := one spec
    exact ⟨_, h, groups spec mem, only, command⟩

/-! ## Removing, proved -/

section Strip

variable (groups : List Json)

theorem stripGroups_append (groups' : List Json) :
    stripGroups (groups ++ groups') = stripGroups groups ++ stripGroups groups' := by
  simp [stripGroups, dropEmptied]

theorem stripGroups_cons (g : Json) : stripGroups (g :: groups) =
    if (stripGroup handlerIsOurs g).2 then stripGroups groups
    else (stripGroup handlerIsOurs g).1 :: stripGroups groups := by
  cases emptied : (stripGroup handlerIsOurs g).2 <;> simp [stripGroups, dropEmptied, emptied]

theorem stripGroups_pruned : Pruned Stripped Emptied (stripGroups groups) groups := by
  induction groups with
  | nil => exact .nil
  | cons g groups ih =>
      rw [stripGroups_cons]
      split
      · rename_i emptied
        exact .drop (stripGroup_emptied.mp emptied) ih
      · refine .keep ?_ ih
        cases found : groupHooks g with
        | none =>
            rw [stripGroup_none found]
            exact .inl rfl
        | some hs =>
            rw [stripGroup_some found]
            exact .inr ⟨hs, found, rfl⟩

/-- No handler of Libra's is left. -/
theorem stripGroups_clean {g : Json} (mem : g ∈ stripGroups groups) {hs : List Json}
    (found : groupHooks g = some hs) : ∀ h ∈ hs, handlerIsOurs h = false := by
  obtain ⟨out, kept, rfl⟩ := List.mem_map.mp mem
  obtain ⟨g, -, rfl⟩ := List.mem_map.mp (List.mem_filter.mp kept).1
  rw [groupHooks_stripGroup, Option.map_eq_some_iff] at found
  obtain ⟨hs, -, rfl⟩ := found
  intro h mem
  simpa using (List.mem_filter.mp mem).2

variable {groups}

theorem stripGroups_of_none
    (none : ∀ g ∈ groups, ∀ hs, groupHooks g = some hs → ∀ h ∈ hs, handlerIsOurs h = false) :
    stripGroups groups = groups := by
  induction groups with
  | nil => rfl
  | cons g groups ih =>
      rw [stripGroups_cons, stripGroup_of_none (none g List.mem_cons_self),
        ih fun g' mem => none g' (List.mem_cons_of_mem g mem)]
      rfl

/-- Groups of which nothing is left had handlers of Libra's. -/
theorem ours_of_stripped (some_ : groups ≠ []) (empty : stripGroups groups = []) :
    ∃ (i j : Nat) (g : Json) (hs : List Json) (h : Json), groups[i]? = some g ∧
      groupHooks g = some hs ∧ hs[j]? = some h ∧ handlerIsOurs h = true := by
  cases groups with
  | nil => exact absurd rfl some_
  | cons g groups =>
      rw [stripGroups_cons] at empty
      split at empty
      · rename_i emptied
        obtain ⟨hs, found, nonempty, all⟩ := stripGroup_emptied.mp emptied
        cases hs with
        | nil => exact absurd rfl nonempty
        | cons h hs => exact ⟨0, 0, g, _, h, rfl, found, rfl, all h List.mem_cons_self⟩
      · cases empty

end Strip

theorem stripEvent_key (x y : String × Json) (chosen : stripEvent x = some y) : y.1 = x.1 := by
  unfold stripEvent at chosen
  split at chosen
  · split at chosen
    · cases chosen
    · cases chosen
      rfl
  · cases chosen
    rfl

theorem stripEvent_array (event : String) (groups : List Json) :
    stripEvent (event, .array groups) =
      if (stripGroups groups).isEmpty then none else some (event, .array (stripGroups groups)) := rfl

theorem stripEvent_other {entry : String × Json} (other : entry.2.asArray = none) :
    stripEvent entry = some entry := by
  obtain ⟨event, v⟩ := entry
  cases v with
  | array groups => cases other
  | _ => rfl

section RemoveHooks

variable {root hooks : Root}

theorem removeHooks_none (none : hooksObject root = none) : (removeHooks root).1 = root := by
  unfold removeHooks
  split
  · rename_i hooks found
    rw [hooksObject_eq_some.mpr found] at none
    cases none
  · rfl

theorem removeHooks_some (found : hooksObject root = some hooks) :
    (removeHooks root).1 = if (hooks.filterMap stripEvent).isEmpty then Fields.remove "hooks" root
      else Fields.put "hooks" (.object (hooks.filterMap stripEvent)) root := by
  rw [removeHooks, hooksObject_eq_some.mp found]

theorem removeHooks_get {key : String} (other : key ≠ "hooks") :
    Fields.get key (removeHooks root).1 = Fields.get key root := by
  cases found : hooksObject root with
  | none => rw [removeHooks_none found]
  | some hooks =>
      rw [removeHooks_some found]
      split
      · rw [Fields.get_remove, if_neg other]
      · rw [Fields.get_put, if_neg other]

/-- The hooks stay exactly when an entry of theirs does. -/
theorem removeHooks_hooks (found : hooksObject root = some hooks) :
    Fields.get "hooks" (removeHooks root).1 =
      if (hooks.filterMap stripEvent).isEmpty then none
      else some (.object (hooks.filterMap stripEvent)) := by
  rw [removeHooks_some found]
  split
  · rw [Fields.get_remove, if_pos rfl]
  · rw [Fields.get_put, if_pos rfl]

theorem hooks_ascending (ordered : (Json.object root).Ordered)
    (found : hooksObject root = some hooks) : Fields.Ascending hooks := by
  cases ordered with
  | object _ each =>
      cases each _ (Fields.get_mem (hooksObject_eq_some.mp found)) with
      | object ascending _ => exact ascending

/-- What an event has after. -/
theorem eventValue_removeHooks (ordered : (Json.object root).Ordered) (event : String) :
    eventValue (removeHooks root).1 event =
      (eventValue root event).bind fun v => (stripEvent (event, v)).map Prod.snd := by
  cases found : hooksObject root with
  | none =>
      rw [removeHooks_none found]
      simp [eventValue, found]
  | some hooks =>
      rw [eventValue_of_hooks found,
        ← Fields.get_filterMap stripEvent_key (hooks_ascending ordered found) event]
      have after := removeHooks_hooks found
      split at after
      · rename_i empty
        have none : hooksObject (removeHooks root).1 = none := by rw [hooksObject, after]; rfl
        rw [eventValue, none, List.isEmpty_iff.mp empty]
        rfl
      · rw [eventValue_of_hooks (hooksObject_eq_some.mpr after)]

end RemoveHooks

section Uninstall

variable (root : Root)

theorem removeStatusline_get (key : String) : Fields.get key (removeStatusline root) =
    if key = "statusLine" ∧ statuslineIsOurs root = true then none else Fields.get key root := by
  unfold removeStatusline
  split
  · rename_i ours
    rw [Fields.get_remove]
    simp [ours]
  · rename_i foreign
    simp [foreign]

theorem removeApiKeyHelper_get (key : String) : Fields.get key (removeApiKeyHelper root) =
    if key = "apiKeyHelper" ∧ apiKeyHelperIsOurs root = true then none else Fields.get key root := by
  unfold removeApiKeyHelper
  split
  · rename_i ours
    rw [Fields.get_remove]
    simp [ours]
  · rename_i foreign
    simp [foreign]

theorem removeBaseUrl_foreign (foreign : baseUrlIsOurs root = false) : removeBaseUrl root = root := by
  unfold removeBaseUrl
  split
  · rw [foreign, if_neg Bool.false_ne_true]
  · rfl

theorem removeBaseUrl_get {key : String} (other : key ≠ "env") :
    Fields.get key (removeBaseUrl root) = Fields.get key root := by
  unfold removeBaseUrl
  split
  · split
    · rw [Fields.get_put, if_neg other]
    · rfl
  · rfl

theorem removeBaseUrl_env {key : String} (other : key ≠ "ANTHROPIC_BASE_URL") :
    ((Fields.get "env" (removeBaseUrl root)).bind fun env => env.get key) =
      (Fields.get "env" root).bind fun env => env.get key := by
  unfold removeBaseUrl
  split
  · rename_i env here
    split
    · rw [Fields.get_put, if_pos rfl, here]
      show Fields.get key (Fields.remove "ANTHROPIC_BASE_URL" env) = Fields.get key env
      rw [Fields.get_remove, if_neg other]
    · rfl
  · rfl

/-- The four removals do not meet: what is Libra's is seen by each as it was at first. -/
theorem statuslineIsOurs_removeHooks :
    statuslineIsOurs (removeHooks root).1 = statuslineIsOurs root := by
  rw [statuslineIsOurs, statusCommand, removeHooks_get (by decide), statuslineIsOurs, statusCommand]

theorem apiKeyHelperIsOurs_removeStatusline :
    apiKeyHelperIsOurs (removeStatusline (removeHooks root).1) = apiKeyHelperIsOurs root := by
  rw [apiKeyHelperIsOurs, removeStatusline_get, if_neg (by simp), removeHooks_get (by decide),
    apiKeyHelperIsOurs]

theorem env_before : Fields.get "env" (removeApiKeyHelper (removeStatusline (removeHooks root).1)) =
    Fields.get "env" root := by
  rw [removeApiKeyHelper_get, if_neg (by simp), removeStatusline_get, if_neg (by simp),
    removeHooks_get (by decide)]

theorem baseUrlIsOurs_before :
    baseUrlIsOurs (removeApiKeyHelper (removeStatusline (removeHooks root).1)) = baseUrlIsOurs root := by
  rw [baseUrlIsOurs, baseUrl, env_before, baseUrlIsOurs, baseUrl]

theorem uninstall_eq : (uninstall root).1 =
    removeBaseUrl (removeApiKeyHelper (removeStatusline (removeHooks root).1)) := rfl

theorem uninstall_hooks :
    Fields.get "hooks" (uninstall root).1 = Fields.get "hooks" (removeHooks root).1 := by
  rw [uninstall_eq, removeBaseUrl_get _ (by decide), removeApiKeyHelper_get, if_neg (by simp),
    removeStatusline_get, if_neg (by simp)]

theorem uninstall_statusline : Fields.get "statusLine" (uninstall root).1 =
    if statuslineIsOurs root then none else Fields.get "statusLine" root := by
  rw [uninstall_eq, removeBaseUrl_get _ (by decide), removeApiKeyHelper_get, if_neg (by simp),
    removeStatusline_get, statuslineIsOurs_removeHooks, removeHooks_get (by decide)]
  simp

theorem uninstall_apiKeyHelper : Fields.get "apiKeyHelper" (uninstall root).1 =
    if apiKeyHelperIsOurs root then none else Fields.get "apiKeyHelper" root := by
  have before : Fields.get "apiKeyHelper" (removeStatusline (removeHooks root).1) =
      Fields.get "apiKeyHelper" root := by
    rw [removeStatusline_get, if_neg (by simp), removeHooks_get (by decide)]
  rw [uninstall_eq, removeBaseUrl_get _ (by decide), removeApiKeyHelper_get,
    apiKeyHelperIsOurs_removeStatusline, before]
  simp

theorem uninstall_get {key : String} (other : key ∉ ["hooks", "statusLine", "apiKeyHelper", "env"]) :
    Fields.get key (uninstall root).1 = Fields.get key root := by
  simp only [List.mem_cons, List.not_mem_nil, or_false, not_or] at other
  obtain ⟨notHooks, notStatusline, notHelper, notEnv⟩ := other
  rw [uninstall_eq, removeBaseUrl_get _ notEnv, removeApiKeyHelper_get,
    if_neg (fun both => notHelper both.1), removeStatusline_get,
    if_neg (fun both => notStatusline both.1), removeHooks_get notHooks]

variable {root}

/-- Where nothing of the document's is Libra's, no entry of the hooks changes but an empty one. -/
theorem stripEvent_of_none (ordered : (Json.object root).Ordered) (nothing : NothingOwned root)
    {hooks : Root} (found : hooksObject root = some hooks) {entry : String × Json}
    (mem : entry ∈ hooks) : (∀ groups, entry.2 = .array groups → stripGroups groups = groups) ∧
      (entry.2 ≠ .array [] → stripEvent entry = some entry) := by
  obtain ⟨event, v⟩ := entry
  have here : eventValue root event = some v := by
    rw [eventValue_of_hooks found]
    exact Fields.get_of_mem (hooks_ascending ordered found) mem
  have kept : ∀ groups, v = .array groups → stripGroups groups = groups := by
    rintro groups rfl
    refine stripGroups_of_none fun g mem hs inner h mem' => ?_
    obtain ⟨i, at_i⟩ := List.mem_iff_getElem?.mp mem
    obtain ⟨j, at_j⟩ := List.mem_iff_getElem?.mp mem'
    refine nothing.handlers event i j h (handlerAt_eq_some.mpr ⟨groups, g, hs, ?_, at_i, inner, at_j⟩)
    rw [eventGroups_eq_some, here]
  refine ⟨kept, ?_⟩
  intro filled
  cases array : v.asArray with
  | none => exact stripEvent_other array
  | some groups =>
      obtain rfl := Json.asArray_eq_some.mp array
      rw [stripEvent_array, kept groups rfl, if_neg]
      intro empty
      exact filled (congrArg Json.array (List.isEmpty_iff.mp empty))

theorem filterMap_of_none (ordered : (Json.object root).Ordered) (sound : Sound root)
    (nothing : NothingOwned root) {hooks : Root} (found : hooksObject root = some hooks) :
    hooks.filterMap stripEvent = hooks := by
  have same : ∀ entry ∈ hooks, stripEvent entry = some entry := by
    intro entry mem
    refine (stripEvent_of_none ordered nothing found mem).2 fun empty => ?_
    refine (sound.2 hooks found).2 entry.1 ?_
    rw [Fields.get_of_mem (hooks_ascending ordered found) mem, empty]
  rw [List.filterMap_congr same, List.filterMap_some]

theorem removeHooks_of_none (ordered : (Json.object root).Ordered) (sound : Sound root)
    (nothing : NothingOwned root) : (removeHooks root).1 = root := by
  cases found : hooksObject root with
  | none => exact removeHooks_none found
  | some hooks =>
      rw [removeHooks_some found, filterMap_of_none ordered sound nothing found, if_neg,
        Fields.put_self (hooksObject_eq_some.mp found)]
      intro empty
      exact (sound.2 hooks found).1 (List.isEmpty_iff.mp empty)

/-- The other removals leave a document of which nothing is Libra's. -/
theorem removed_of_none (nothing : NothingOwned root) :
    removeBaseUrl (removeApiKeyHelper (removeStatusline root)) = root := by
  rw [removeStatusline, nothing.statusline, if_neg Bool.false_ne_true, removeApiKeyHelper,
    nothing.apiKeyHelper, if_neg Bool.false_ne_true, removeBaseUrl_foreign root nothing.baseUrl]

theorem uninstalled (ordered : (Json.object root).Ordered) (sound : Sound root) :
    Uninstalled root (uninstall root).1 := by
  have value := fun event => (eventValue_congr (uninstall_hooks root) event).trans
    (eventValue_removeHooks ordered event)
  -- An event that is dropped had handlers, all of them Libra's.
  have emptied : ∀ event groups, eventGroups root event = some groups → stripGroups groups = [] →
      HasOurs root event := by
    intro event groups found empty
    have filled : groups ≠ [] := by
      rintro rfl
      rw [eventGroups_eq_some] at found
      cases object : hooksObject root with
      | none => simp [eventValue, object] at found
      | some hooks =>
          rw [eventValue_of_hooks object] at found
          exact (sound.2 hooks object).2 event found
    obtain ⟨i, j, g, hs, h, at_i, inner, at_j, ours⟩ := ours_of_stripped filled empty
    exact ⟨i, j, h, handlerAt_eq_some.mpr ⟨groups, g, hs, found, at_i, inner, at_j⟩, ours⟩
  refine ⟨fun key => uninstall_get root, ?_, ?_, ?_, ?_, ⟨?_, ?_, ?_⟩, ?_, ?_, ?_, ?_, ?_⟩
  · intro foreign
    rw [uninstall_statusline, foreign, if_neg Bool.false_ne_true]
  · intro foreign
    rw [uninstall_apiKeyHelper, foreign, if_neg Bool.false_ne_true]
  · intro foreign
    rw [uninstall_eq, removeBaseUrl_foreign _ (by rw [baseUrlIsOurs_before, foreign]), env_before]
  · intro key other
    rw [uninstall_eq, removeBaseUrl_env _ other, env_before]
  · intro event i j h here
    obtain ⟨groups', g, hs, found, at_i, inner, at_j⟩ := handlerAt_eq_some.mp here
    rw [eventGroups_eq_some, value event, Option.bind_eq_some_iff] at found
    obtain ⟨v, -, chosen⟩ := found
    cases array : v.asArray with
    | none =>
        rw [stripEvent_other array] at chosen
        cases chosen
        cases array
    | some groups =>
        obtain rfl := Json.asArray_eq_some.mp array
        rw [stripEvent_array] at chosen
        split at chosen
        · cases chosen
        · cases chosen
          exact stripGroups_clean groups (List.mem_of_getElem? at_i) inner h
            (List.mem_of_getElem? at_j)
  · have after := uninstall_statusline root
    rw [statuslineIsOurs, statusCommand, after]
    cases ours : statuslineIsOurs root with
    | true => rfl
    | false => exact ours
  · rw [apiKeyHelperIsOurs, uninstall_apiKeyHelper]
    cases ours : apiKeyHelperIsOurs root with
    | true => rfl
    | false => exact ours
  · intro event groups found
    refine ⟨stripGroups groups, stripGroups_pruned groups, ?_⟩
    have after := value event
    rw [eventGroups_eq_some.mp found, Option.bind_some, stripEvent_array] at after
    split at after
    · rename_i empty
      have empty := List.isEmpty_iff.mp empty
      exact .inr ⟨after, empty, emptied event groups found empty⟩
    · exact .inl (eventGroups_eq_some.mpr after)
  · intro event none
    rw [value event]
    cases here : eventValue root event with
    | none => rfl
    | some v =>
        rw [eventGroups, here, Option.bind_some] at none
        rw [Option.bind_some, stripEvent_other none]
        rfl
  · intro gone
    cases object : hooksObject root with
    | none =>
        rw [uninstall_hooks, removeHooks_none object] at gone
        exact .inl gone
    | some hooks =>
        rw [uninstall_hooks, removeHooks_hooks object] at gone
        split at gone
        · rename_i empty
          cases hooks with
          | nil => exact absurd rfl (sound.2 [] object).1
          | cons entry hooks =>
              obtain ⟨event, v⟩ := entry
              have dropped : stripEvent (event, v) = none := by
                cases chosen : stripEvent (event, v) with
                | none => rfl
                | some y =>
                    rw [List.filterMap_cons_some chosen] at empty
                    cases empty
              have here : eventValue root event = some v := by
                rw [eventValue_of_hooks object]
                exact Fields.get_cons_self (event, v) hooks
              refine .inr ⟨event, ?_⟩
              cases array : v.asArray with
              | none =>
                  rw [stripEvent_other array] at dropped
                  cases dropped
              | some groups =>
                  obtain rfl := Json.asArray_eq_some.mp array
                  rw [stripEvent_array] at dropped
                  split at dropped
                  · rename_i none
                    exact emptied event groups (eventGroups_eq_some.mpr here) (List.isEmpty_iff.mp none)
                  · cases dropped
        · cases gone
  · intro none
    rw [uninstall_hooks, removeHooks_none none]
  · intro nothing
    rw [uninstall_eq, removeHooks_of_none ordered sound nothing, removed_of_none nothing]

end Uninstall

/-! ## There and back -/

section Return

variable {binary : String} (plain : PlainBinary binary)

include plain in
theorem statusline_installed (root : Root) : statuslineIsOurs (Fields.put "statusLine"
    (.object [("command", .string (hookCommand binary "statusline")), ("type", .string "command")])
    root) = true := by
  rw [statuslineIsOurs, statusCommand, Fields.get_put, if_pos rfl]
  have listed : "statusline" ∈ OWNED_COMMAND_SUFFIXES := by decide
  exact List.any_eq_true.mpr ⟨_, listed, ours_of_plain plain "statusline" true⟩

include plain in
/-- The group that is added goes again. -/
theorem stripGroups_hookGroup {spec : HookSpec} (mem : spec ∈ HOOK_SUBCOMMANDS) (groups : List Json) :
    stripGroups (groups ++ [hookGroup spec (hookCommand binary spec.subcommand)]) =
      stripGroups groups := by
  have emptied : (stripGroup handlerIsOurs (hookGroup spec (hookCommand binary spec.subcommand))).2 =
      true := by
    refine stripGroup_emptied.mpr ⟨[hookEntry spec (hookCommand binary spec.subcommand)], rfl,
      List.cons_ne_nil _ _, ?_⟩
    intro h among
    rw [List.mem_singleton.mp among]
    refine ours_of_oursFor mem ?_
    exact Installer.oursFor_of_command (installer_lawful plain spec) (hookEntry_spec spec _).1
  rw [stripGroups_append, stripGroups_cons, emptied, if_pos rfl]
  exact List.append_nil _

theorem removeStatusline_removeHooks (root : Root) :
    removeStatusline (removeHooks root).1 = (removeHooks (removeStatusline root)).1 := by
  rw [removeStatusline, statuslineIsOurs_removeHooks, removeStatusline]
  split
  · have same : Fields.get "hooks" (Fields.remove "statusLine" root) = Fields.get "hooks" root := by
      rw [Fields.get_remove, if_neg (by decide)]
    cases found : hooksObject root with
    | none => rw [removeHooks_none found, removeHooks_none ((hooksObject_congr same).trans found)]
    | some hooks =>
        rw [removeHooks_some found, removeHooks_some ((hooksObject_congr same).trans found)]
        split
        · exact Fields.remove_remove _ _ root
        · refine Fields.remove_put_ne (by decide) ?_
          rw [hooksObject_eq_some.mp found]
          nofun
  · rfl

variable {root : Root}

include plain in
/-- What the hooks were is what taking Libra's handlers out of the edited ones leaves. -/
theorem filterMap_edited (ordered : (Json.object root).Ordered) (sound : Sound root)
    (nothing : NothingOwned root) {hooks hooks' : Root} {n : Nat}
    (found : (Fields.get "hooks" root).getD (.object []) = .object hooks)
    (edited : editEvents HookSpec.event (fun spec => (installer binary spec).install)
      HOOK_SUBCOMMANDS hooks = .ok (hooks', n)) :
    hooks'.filterMap stripEvent = hooks := by
  have events : ∀ event, eventValue root event = Fields.get event hooks := by
    intro event
    cases here : Fields.get "hooks" root with
    | none =>
        rw [here] at found
        cases found
        rw [eventValue, hooksObject, here]
        rfl
    | some j =>
        rw [here] at found
        cases found
        exact eventValue_of_hooks (hooksObject_eq_some.mpr here) event
  have same : hooks.filterMap stripEvent = hooks := by
    cases here : Fields.get "hooks" root with
    | none =>
        rw [here] at found
        cases found
        rfl
    | some j =>
        rw [here] at found
        cases found
        exact filterMap_of_none ordered sound nothing (hooksObject_eq_some.mpr here)
  refine (editEvents_filterMap specs_distinct ?_ edited).trans same
  intro spec mem groups array
  have foreign : ∀ h ∈ members allToolsHooks groups, handlerIsOursFor spec.subcommand h = false := by
    intro h among
    by_contra ours
    have ours := ours_of_oursFor mem (Bool.not_eq_false _ ▸ ours)
    obtain ⟨g, mem_g, within⟩ := List.mem_flatMap.mp among
    cases inner : allToolsHooks g with
    | none =>
        rw [inner] at within
        cases within
    | some hs =>
        rw [inner] at within
        obtain ⟨i, at_i⟩ := List.mem_iff_getElem?.mp mem_g
        obtain ⟨j, at_j⟩ := List.mem_iff_getElem?.mp within
        cases here : Fields.get spec.event hooks with
        | none =>
            rw [here] at array
            cases array
            cases mem_g
        | some old =>
            rw [here] at array
            cases array
            have not := nothing.handlers spec.event i j h (handlerAt_eq_some.mpr
              ⟨groups, g, hs, by rw [eventGroups_eq_some, events, here], at_i,
                (allToolsHooks_eq_some.mp inner).2, at_j⟩)
            rw [ours] at not
            cases not
  rw [install_of_none plain spec groups foreign, stripEvent_array,
    stripGroups_hookGroup plain mem groups, ← stripEvent_array]
  cases here : Fields.get spec.event hooks with
  | none =>
      rw [here] at array
      cases array
      rfl
  | some old =>
      rw [here] at array
      cases array
      rfl

include plain in
theorem uninstall_install (ordered : (Json.object root).Ordered) (sound : Sound root)
    (nothing : NothingOwned root) {root' : Root} {applied : Applied}
    (done : install binary true root = .ok (root', applied)) : (uninstall root').1 = root := by
  obtain ⟨mid, n, edited, rfl⟩ := install_ok done
  have editable := (editRoot_isOk_iff specs_distinct root).mp ⟨_, edited⟩
  obtain ⟨keys, -⟩ := editRoot_ok specs_distinct edited
  have statusline : Fields.get "statusLine" mid = Fields.get "statusLine" root := keys _ (by decide)
  -- The status line goes first: it was there, and is not Libra's, or it was added.
  have first : removeStatusline (installStatusline binary mid).1 = mid := by
    cases here : statusCommand mid with
    | some c =>
        have foreign : statuslineIsOurs mid = false := by
          rw [statuslineIsOurs, statusCommand, statusline]
          exact nothing.statusline
        rw [(installStatusline_some binary mid here).1, removeStatusline, foreign,
          if_neg Bool.false_ne_true]
    | none =>
        have missing : Fields.get "statusLine" mid = none := by
          rw [statusline]
          rw [statusCommand, statusline] at here
          cases field : Fields.get "statusLine" root with
          | none => rfl
          | some v =>
              rw [field] at here
              exact absurd here (sound.1 editable v field)
        rw [installStatusline_none binary mid here, removeStatusline,
          if_pos (statusline_installed plain mid), Fields.remove_put missing]
  obtain ⟨hooks, hooks', found, events, rfl⟩ := editRoot_eq edited
  have back := filterMap_edited plain ordered sound nothing found events
  have object : hooksObject (Fields.put "hooks" (.object hooks') root) = some hooks' := by
    rw [hooksObject_eq_some, Fields.get_put, if_pos rfl]
  have second : (removeHooks (Fields.put "hooks" (.object hooks') root)).1 = root := by
    rw [removeHooks_some object, back]
    cases here : Fields.get "hooks" root with
    | none =>
        rw [here] at found
        cases found
        exact Fields.remove_put here
    | some j =>
        rw [here] at found
        cases found
        have filled : hooks ≠ [] := (sound.2 hooks (hooksObject_eq_some.mpr here)).1
        rw [if_neg fun empty => filled (List.isEmpty_iff.mp empty)]
        exact Fields.put_put_self here
  have settled : removeStatusline root = root := by
    rw [removeStatusline, nothing.statusline, if_neg Bool.false_ne_true]
  rw [uninstall_eq, removeStatusline_removeHooks, first, second]
  have rest := removed_of_none nothing
  rwa [settled] at rest

end Return

/-! ## The calls -/

section Calls

variable {binary : String} (plain : PlainBinary binary) {root : Root} {fs : FileSystem}

theorem apply_ok {applied : Applied} {file : Option Json}
    (done : apply fs binary (some (.object root)) = .ok (applied, file)) :
    ∃ root', install binary true root = .ok (root', applied) ∧ file = some (.object root') := by
  unfold apply applyLocked at done
  split at done
  · cases done
  · obtain ⟨_, -, done⟩ := (bind_eq_ok_iff _ _ _).mp done
    obtain ⟨_, read, done⟩ := (bind_eq_ok_iff _ _ _).mp done
    cases read
    obtain ⟨⟨root', applied'⟩, installed, done⟩ := (bind_eq_ok_iff _ _ _).mp done
    obtain ⟨_, -, done⟩ := (bind_eq_ok_iff _ _ _).mp done
    cases done
    exact ⟨root', installed, rfl⟩

include plain in
theorem apply_of_install {root' : Root} {applied : Applied}
    (installed : install binary true root = .ok (root', applied)) :
    apply ⟨none, none⟩ binary (some (.object root)) = .ok (applied, some (.object root')) := by
  rw [apply, applyLocked, plain.safe, if_neg Bool.false_ne_true]
  show (do
    let (root, applied) ← install binary true root
    FileSystem.fails none
    return (applied, some (Json.object root))) = _
  rw [installed]
  rfl

theorem remove_ok {removed : Removed} {file : Option Json}
    (done : remove fs (some (.object root)) = .ok (removed, file)) :
    file = some (.object (uninstall root).1) := by
  unfold remove at done
  obtain ⟨_, -, done⟩ := (bind_eq_ok_iff _ _ _).mp done
  obtain ⟨_, read, done⟩ := (bind_eq_ok_iff _ _ _).mp done
  cases read
  obtain ⟨_, -, done⟩ := (bind_eq_ok_iff _ _ _).mp done
  cases done
  rfl

theorem leaves_of_sound (ordered : (Json.object root).Ordered) (plain : PlainBinary binary)
    (sound : Sound root) : LeavesForeign binary root := by
  refine fun fs => ⟨?_, ?_, ?_, ?_, ?_⟩
  · intro applied file done
    obtain ⟨root', install, rfl⟩ := apply_ok done
    exact ⟨root', rfl, installed plain sound install⟩
  · intro removed file done
    exact ⟨_, remove_ok done, uninstalled ordered sound⟩
  · intro nothing applied file done fs' removed file' done'
    obtain ⟨root', install, rfl⟩ := apply_ok done
    rw [remove_ok done', uninstall_install plain ordered sound nothing install]
  · intro e failed
    rw [failed]
    rfl
  · intro e failed
    rw [failed]
    rfl

/-- After an edit the status line has a command text. -/
theorem apply_statusline (plain : PlainBinary binary)
    (editable : Editable HookSpec.event HOOK_SUBCOMMANDS root) :
    ∃ applied root', apply ⟨none, none⟩ binary (some (.object root)) =
      .ok (applied, some (.object root')) ∧ statusCommand root' ≠ none := by
  have edited : ∃ done, editRoot HookSpec.event (fun spec => (installer binary spec).install)
      HOOK_SUBCOMMANDS root = .ok done := (editRoot_isOk_iff specs_distinct root).mpr editable
  obtain ⟨⟨mid, n⟩, edited⟩ := edited
  obtain ⟨c, command⟩ := statusCommand_installed binary mid
  refine ⟨⟨n, (installStatusline binary mid).2.1, (installStatusline binary mid).2.2⟩,
    (installStatusline binary mid).1, apply_of_install plain ?_, ?_⟩
  · rw [install, edited]
    rfl
  · rw [command]
    nofun

theorem sound_of_leaves (ordered : (Json.object root).Ordered) (plain : PlainBinary binary)
    (leaves : LeavesForeign binary root) : Sound root := by
  refine ⟨?_, ?_⟩
  · intro editable v here none
    obtain ⟨applied, root', done, overwritten⟩ := apply_statusline plain editable
    obtain ⟨_, same, installed⟩ := (leaves ⟨.none, .none⟩).1 applied _ done
    cases same
    refine overwritten ?_
    rw [statusCommand, installed.statusline v here (by rw [none]; rfl)]
    exact none
  · intro hooks object
    have removed : Uninstalled root (uninstall root).1 := by
      obtain ⟨root', same, removed⟩ := (leaves ⟨none, none⟩).2.1 (uninstall root).2
        (some (.object (uninstall root).1)) rfl
      rwa [← Json.object.inj (Option.some.inj same)] at removed
    refine ⟨?_, ?_⟩
    · rintro rfl
      rcases removed.hooks (by rw [uninstall_hooks, removeHooks_hooks object]; rfl) with none | ⟨_, ours⟩
      · rw [hooksObject_eq_some, none] at object
        cases object
      · obtain ⟨i, j, h, here, -⟩ := ours
        obtain ⟨groups, g, hs, found, -⟩ := handlerAt_eq_some.mp here
        rw [eventGroups_eq_some, eventValue_of_hooks object] at found
        cases found
    · intro event empty
      have here : eventValue root event = some (.array []) := by
        rw [eventValue_of_hooks object, empty]
      obtain ⟨groups', -, still | ⟨-, -, i, j, h, at_, -⟩⟩ := removed.groups event []
        (eventGroups_eq_some.mpr here)
      · rw [eventGroups_eq_some, eventValue_congr (uninstall_hooks root),
          eventValue_removeHooks ordered, here] at still
        cases still
      · obtain ⟨groups, g, hs, found, at_i, -⟩ := handlerAt_eq_some.mp at_
        rw [eventGroups_eq_some, here] at found
        cases found
        cases at_i

end Calls

/-- `apply` and `remove` leave everything foreign alone exactly when the document is `Sound`. -/
theorem leavesForeign_iff {binary : String} (plain : PlainBinary binary) {root : Root}
    (ordered : (Json.object root).Ordered) : LeavesForeign binary root ↔ Sound root :=
  ⟨sound_of_leaves ordered plain, leaves_of_sound ordered plain⟩

/-! ## Two documents -/

def claudeBinary : String := "/opt/libra/bin/libra-governor"

theorem claudeBinary_plain : PlainBinary claudeBinary where
  absolute := by decide +kernel
  safe := by decide +kernel
  name := by decide +kernel
  noTrailingSlash := by decide +kernel

/-- A document with a hook and a status line of the user's. -/
def usersSettings : Root :=
  [("hooks", .object [("Stop", .array [.object
      [("hooks", .array [.object [("command", .string "say done"), ("type", .string "command")]]),
        ("matcher", .string "Bash")]])]),
    ("statusLine", .object [("command", .string "my-line"), ("type", .string "command")])]

theorem usersSettings_ordered : (Json.object usersSettings).Ordered := by
  have hook : (Json.object [("command", .string "say done"), ("type", .string "command")]).Ordered :=
    .object (by decide) (by simp [Json.Ordered.string])
  have line : (Json.object [("command", .string "my-line"), ("type", .string "command")]).Ordered :=
    .object (by decide) (by simp [Json.Ordered.string])
  have group : (Json.object [("hooks", .array [.object
      [("command", .string "say done"), ("type", .string "command")]]),
      ("matcher", .string "Bash")]).Ordered :=
    .object (by decide) (by simp [Json.Ordered.string, Json.Ordered.array, hook])
  have hooks : (Json.object [("Stop", .array [.object [("hooks", .array [.object
      [("command", .string "say done"), ("type", .string "command")]]),
      ("matcher", .string "Bash")]])]).Ordered :=
    .object (by decide) (by simp [Json.Ordered.array, group])
  exact .object (by decide) (by simp [usersSettings, hooks, line])

theorem usersSettings_sound : Sound usersSettings := by
  refine ⟨?_, ?_⟩
  · intro _ v here
    cases here
    nofun
  · intro hooks object
    cases object
    refine ⟨List.cons_ne_nil _ _, ?_⟩
    intro event empty
    rw [Fields.get] at empty
    split at empty
    · cases empty
    · cases empty

/-- The user's hook and status line stay. -/
theorem leavesForeign_users : LeavesForeign claudeBinary usersSettings :=
  (leavesForeign_iff claudeBinary_plain usersSettings_ordered).mpr usersSettings_sound

/-- A status line that is a text is written over. -/
theorem text_statusLine_overwritten :
    ¬ LeavesForeign claudeBinary [("statusLine", .string "my line")] := by
  intro leaves
  have editable : Editable HookSpec.event HOOK_SUBCOMMANDS [("statusLine", .string "my line")] :=
    ⟨[], rfl, fun _ _ => ⟨[], rfl⟩⟩
  obtain ⟨applied, root', done, overwritten⟩ := apply_statusline claudeBinary_plain editable
  obtain ⟨_, same, installed⟩ := (leaves ⟨none, none⟩).1 applied _ done
  cases same
  refine overwritten ?_
  rw [statusCommand, installed.statusline _ rfl rfl]
  rfl

end LibraGovernor.ClaudeSettings
