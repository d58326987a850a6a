/-
# LibraGovernor.Daemon.ConfigSettings -- the callbacks a settings document owns

A settings document has, under `hooks`, groups of handlers for each event.  Three handlers are
the host's own, each recognised by its command: `observe` says which of them are there, and
refuses a document that is not laid out so or has one of their commands anywhere but in its
place.  `connect` adds those that are missing, each in a group of its own, or takes all of them
off and drops the groups, events and the `hooks` object that are empty after it.

A document that passes is its layout, and the places where an owned command stands
(`observe_ok_iff`).
-/
import LibraGovernor.Lib.Json
import Mathlib.Data.Fintype.Basic
import Mathlib.Data.List.FinRange
import Mathlib.Logic.Function.Basic

namespace LibraGovernor

set_option autoImplicit false

inductive RegistryEffect where
  | noChange
  | effectUnconfirmed
  deriving DecidableEq, Repr

structure RegistryFailure where
  stage : String
  reason : String
  effect : RegistryEffect
  deriving DecidableEq, Repr

def RegistryFailure.new (stage reason : String) : RegistryFailure := ⟨stage, reason, .noChange⟩

namespace ConfigSettings

structure OwnedCallback where
  event : String
  command : String
  deriving DecidableEq, Repr

/-- The host's callbacks, one for each of its events; each has a command of its own. -/
structure OwnedCallbacks where
  callback : Fin 3 → OwnedCallback
  event_inj : ∀ i j, (callback i).event = (callback j).event → i = j
  command_inj : ∀ i j, (callback i).command = (callback j).command → i = j

inductive CallbackPresence where
  | absent
  | exactOwned
  deriving DecidableEq, Repr

abbrev Presence := Fin 3 → CallbackPresence

def fail (reason : String) : RegistryFailure := .new "configuration" reason

def handler (callback : OwnedCallback) : Json :=
  .object [("command", .string callback.command), ("type", .string "command")]

/-! ## Observing -/

/-- A handler's command. -/
def commandOf (member : Json) : Option String := (member.get "command").bind Json.asStr

def matcherOk (matcher : Option Json) : Bool := matcher == none || matcher == some .null

/-- A handler where it stands: its event, and its group's matcher. -/
structure Site where
  event : String
  matcher : Option Json
  member : Json
  deriving DecidableEq

/-- The owned handler in its place. -/
def Site.Exact (callback : OwnedCallback) (site : Site) : Prop :=
  site.event = callback.event ∧ matcherOk site.matcher = true ∧ site.member = handler callback

instance (callback : OwnedCallback) (site : Site) : Decidable (site.Exact callback) :=
  inferInstanceAs (Decidable (_ ∧ _ ∧ _))

variable (callbacks : OwnedCallbacks)

/-- Compares one handler with one callback. -/
def observeCallback (presence : Presence) (check : Site × Fin 3) :
    Except RegistryFailure Presence :=
  let callback := callbacks.callback check.2
  if commandOf check.1.member ≠ some callback.command then .ok presence
  else if ¬ check.1.Exact callback ∨ presence check.2 ≠ .absent then
    .error (fail "owned_callback_conflict")
  else .ok (Function.update presence check.2 .exactOwned)

def observeMember (event : String) (matcher : Option Json) (presence : Presence) (member : Json) :
    Except RegistryFailure Presence :=
  match member with
  | .object _ =>
      if (commandOf member).isNone then .ok presence
      else ((List.finRange 3).map fun i => (⟨event, matcher, member⟩, i)).foldlM
        (observeCallback callbacks) presence
  | _ => .error (fail "invalid_hook_layout")

def observeGroup (event : String) (presence : Presence) (group : Json) :
    Except RegistryFailure Presence :=
  match group with
  | .object fields =>
      match Fields.get "hooks" fields with
      | some (.array members) =>
          members.foldlM (observeMember callbacks event (Fields.get "matcher" fields)) presence
      | _ => .error (fail "invalid_hook_layout")
  | _ => .error (fail "invalid_hook_layout")

def observeEvent (presence : Presence) (entry : String × Json) : Except RegistryFailure Presence :=
  match entry.2 with
  | .array groups => groups.foldlM (observeGroup callbacks entry.1) presence
  | _ => .error (fail "invalid_hook_layout")

/-- Which of the callbacks the document has. -/
def observe (document : Json) : Except RegistryFailure Presence :=
  match document with
  | .object fields =>
      match Fields.get "hooks" fields with
      | none => .ok fun _ => .absent
      | some (.object events) => events.foldlM (observeEvent callbacks) fun _ => .absent
      | some _ => .error (fail "invalid_hook_layout")
  | _ => .error (fail "configuration_not_object")

/-! ## Connecting and disconnecting -/

/-- A group of one owned handler. -/
def ownGroup (callback : OwnedCallback) : Json :=
  .object [("hooks", .array [handler callback])]

def pushGroup (callback : OwnedCallback) : Json → Json
  | .array groups => .array (groups ++ [ownGroup callback])
  | other => other

/-- Adds a callback that is absent. -/
def addCallback (presence : Presence) (events : List (String × Json)) (i : Fin 3) :
    List (String × Json) :=
  if presence i = .absent then
    Fields.upsert (callbacks.callback i).event (.array []) (pushGroup (callbacks.callback i)) events
  else events

def addCallbacks (presence : Presence) : Json → Json
  | .object events => .object ((List.finRange 3).foldl (addCallback callbacks presence) events)
  | other => other

def keptMembers (callback : OwnedCallback) (members : List Json) : List Json :=
  members.filter fun member => decide (member ≠ handler callback)

/-- Takes a callback off a group's handlers, and drops a plain group that this empties. -/
def stripGroup (callback : OwnedCallback) (group : Json) : Option Json :=
  match group with
  | .object fields =>
      match Fields.get "hooks" fields with
      | some (.array members) =>
          let kept := keptMembers callback members
          if members.length ≠ kept.length ∧ kept = [] ∧ fields.length = 1 then none
          else some (.object (Fields.modify "hooks" (fun _ => .array kept) fields))
      | _ => some group
  | other => some other

/-- Takes a callback off its event, and drops the event if it is empty after it. -/
def dropCallback (events : List (String × Json)) (i : Fin 3) : List (String × Json) :=
  let callback := callbacks.callback i
  match Fields.get callback.event events with
  | some (.array groups) =>
      let kept := groups.filterMap (stripGroup callback)
      if kept = [] then Fields.remove callback.event events
      else Fields.modify callback.event (fun _ => .array kept) events
  | _ => events

/-- The settings with all of the callbacks, or with none. -/
def connect (document : Json) (enabled : Bool) : Except RegistryFailure Json :=
  match observe callbacks document with
  | .error e => .error e
  | .ok presence =>
      match document with
      | .object fields =>
          if enabled then
            if ∀ i, presence i = .exactOwned then .ok document
            else .ok (.object (Fields.upsert "hooks" (.object []) (addCallbacks callbacks presence)
              fields))
          else if ∃ i, presence i = .exactOwned then
            match Fields.get "hooks" fields with
            | some (.object events) =>
                let kept := (List.finRange 3).foldl (dropCallback callbacks) events
                if kept = [] then .ok (.object (Fields.remove "hooks" fields))
                else .ok (.object (Fields.modify "hooks" (fun _ => .object kept) fields))
            | _ => .ok document
          else .ok document
      | _ => .ok document

/-! ## What is accepted -/

/-- A fold that runs another over the parts of each item, and refuses an item that is not good,
is the other over all the parts. -/
theorem foldlM_flatMap {ε α β γ : Type} {step : β → α → Except ε β} {inner : β → γ → Except ε β}
    {parts : α → List γ} {good : α → Prop}
    (spec : ∀ x b b', step b x = .ok b' ↔ good x ∧ (parts x).foldlM inner b = .ok b')
    (xs : List α) (b b' : β) :
    xs.foldlM step b = .ok b' ↔
      (∀ x ∈ xs, good x) ∧ (xs.flatMap parts).foldlM inner b = .ok b' := by
  induction xs generalizing b with
  | nil => simp
  | cons x xs ih =>
      rw [List.foldlM_cons, List.flatMap_cons, List.foldlM_append, List.forall_mem_cons]
      constructor
      · intro done
        cases here : step b x with
        | error e =>
            rw [here] at done
            cases done
        | ok middle =>
            rw [here] at done
            obtain ⟨good_x, first⟩ := (spec x b middle).mp here
            obtain ⟨rest, second⟩ := (ih middle).mp done
            refine ⟨⟨good_x, rest⟩, ?_⟩
            rw [first]
            exact second
      · rintro ⟨⟨good_x, rest⟩, done⟩
        cases first : (parts x).foldlM inner b with
        | error e =>
            rw [first] at done
            cases done
        | ok middle =>
            rw [first] at done
            rw [(spec x b middle).mpr ⟨good_x, first⟩]
            exact (ih middle).mpr ⟨rest, done⟩

def GroupLaidOut (group : Json) : Prop :=
  ∃ fields members, group = .object fields ∧ Fields.get "hooks" fields = some (.array members) ∧
    ∀ member ∈ members, ∃ own, member = .object own

def EventLaidOut (entry : String × Json) : Prop :=
  ∃ groups, entry.2 = .array groups ∧ ∀ group ∈ groups, GroupLaidOut group

def groupSites (event : String) (group : Json) : List Site :=
  match group with
  | .object fields =>
      match Fields.get "hooks" fields with
      | some (.array members) => members.map fun member => ⟨event, Fields.get "matcher" fields, member⟩
      | _ => []
  | _ => []

def eventSites (entry : String × Json) : List Site :=
  match entry.2 with
  | .array groups => groups.flatMap (groupSites entry.1)
  | _ => []

/-- Every handler of the events, where it stands. -/
def sites (events : List (String × Json)) : List Site := events.flatMap eventSites

/-- The sites that have the command of a callback. -/
def owned (callback : OwnedCallback) (sites : List Site) : List Site :=
  sites.filter fun site => commandOf site.member = some callback.command

/-- The comparisons made at a site. -/
def checks (site : Site) : List (Site × Fin 3) :=
  if (commandOf site.member).isNone then [] else (List.finRange 3).map fun i => (site, i)

theorem observeMember_iff (event : String) (matcher : Option Json) (member : Json)
    (presence after : Presence) :
    observeMember callbacks event matcher presence member = .ok after ↔
      (∃ own, member = .object own) ∧
        (checks ⟨event, matcher, member⟩).foldlM (observeCallback callbacks) presence = .ok after := by
  cases member with
  | object own =>
      rw [observeMember, checks]
      dsimp only
      by_cases silent : (commandOf (.object own)).isNone = true
      · rw [if_pos silent, if_pos silent]
        exact ⟨fun done => ⟨⟨own, rfl⟩, done⟩, fun done => done.2⟩
      · rw [if_neg silent, if_neg silent]
        exact ⟨fun done => ⟨⟨own, rfl⟩, done⟩, fun done => done.2⟩
  | _ => simp [observeMember]

/-- A group's handlers, if it is laid out so. -/
def membersOf (group : Json) : Option (List Json) :=
  match group with
  | .object fields =>
      match Fields.get "hooks" fields with
      | some (.array members) => some members
      | _ => none
  | _ => none

theorem groupLaidOut_iff {group : Json} :
    GroupLaidOut group ↔ ∃ members, membersOf group = some members ∧
      ∀ member ∈ members, ∃ own, member = .object own := by
  constructor
  · rintro ⟨fields, members, rfl, hooks, own⟩
    refine ⟨members, ?_, own⟩
    rw [membersOf, hooks]
  · rintro ⟨members, here, own⟩
    cases group with
    | object fields =>
        rw [membersOf] at here
        split at here
        · rename_i members' hooks
          cases here
          exact ⟨fields, members, rfl, hooks, own⟩
        · cases here
    | _ => cases here

theorem observeGroup_iff (event : String) (group : Json) (presence after : Presence) :
    observeGroup callbacks event presence group = .ok after ↔
      GroupLaidOut group ∧
        ((groupSites event group).flatMap checks).foldlM (observeCallback callbacks) presence =
          .ok after := by
  rw [groupLaidOut_iff]
  cases group with
  | object fields =>
      rw [observeGroup, membersOf, groupSites]
      split
      · rename_i members hooks
        rw [foldlM_flatMap (observeMember_iff callbacks event (Fields.get "matcher" fields)) members,
          List.flatMap_map]
        simp
      · simp
  | _ => simp [observeGroup, membersOf]

theorem observeEvent_iff (entry : String × Json) (presence after : Presence) :
    observeEvent callbacks presence entry = .ok after ↔
      EventLaidOut entry ∧
        ((eventSites entry).flatMap checks).foldlM (observeCallback callbacks) presence =
          .ok after := by
  obtain ⟨event, groups⟩ := entry
  cases groups with
  | array groups =>
      rw [observeEvent, EventLaidOut, eventSites]
      rw [foldlM_flatMap (observeGroup_iff callbacks event) groups, List.flatMap_assoc]
      simp
  | _ => simp [observeEvent, EventLaidOut]

/-- The checks that compare a callback with its own command. -/
def hits (i : Fin 3) (made : List (Site × Fin 3)) : List (Site × Fin 3) :=
  made.filter fun check =>
    check.2 = i ∧ commandOf check.1.member = some (callbacks.callback i).command

/-- A callback is found once, in its place, or not at all. -/
def Found (i : Fin 3) (before after : CallbackPresence) (sites : List Site) : Prop :=
  (sites = [] ∧ after = before) ∨
    ∃ site, sites = [site] ∧ site.Exact (callbacks.callback i) ∧ before = .absent ∧
      after = .exactOwned

/-- Comparing a site with another callback leaves the presence of this one. -/
theorem foldlM_observeCallback (made : List (Site × Fin 3)) (presence after : Presence) :
    made.foldlM (observeCallback callbacks) presence = .ok after ↔
      ∀ i, Found callbacks i (presence i) (after i) ((hits callbacks i made).map Prod.fst) := by
  induction made generalizing presence with
  | nil =>
      rw [List.foldlM_nil]
      constructor
      · intro done i
        cases done
        exact .inl ⟨rfl, rfl⟩
      · intro each
        have same : presence = after := by
          funext i
          rcases each i with ⟨-, same⟩ | ⟨_, none_here, -⟩
          · exact same.symm
          · cases none_here
        rw [same]
        rfl
  | cons check made ih =>
      rw [List.foldlM_cons]
      by_cases named : commandOf check.1.member = some (callbacks.callback check.2).command
      case neg =>
        -- Another command, or none: the check finds nothing.
        have step : observeCallback callbacks presence check = .ok presence := if_pos named
        have same : ∀ i, hits callbacks i (check :: made) = hits callbacks i made := by
          intro i
          refine List.filter_cons_of_neg ?_
          rw [decide_eq_true_iff]
          rintro ⟨rfl, here⟩
          exact named here
        rw [step]
        simp only [same]
        exact ih presence
      case pos =>
        have here : hits callbacks check.2 (check :: made) = check :: hits callbacks check.2 made :=
          List.filter_cons_of_pos (by simpa using named)
        have elsewhere : ∀ i, i ≠ check.2 →
            hits callbacks i (check :: made) = hits callbacks i made := by
          intro i other
          refine List.filter_cons_of_neg ?_
          rw [decide_eq_true_iff]
          exact fun both => other both.1.symm
        by_cases place : check.1.Exact (callbacks.callback check.2) ∧ presence check.2 = .absent
        · have step : observeCallback callbacks presence check =
              .ok (Function.update presence check.2 .exactOwned) := by
            rw [observeCallback, if_neg (not_not.mpr named),
              if_neg (by rintro (wrong | twice); exact wrong place.1; exact twice place.2)]
          rw [step]
          refine (ih _).trans (forall_congr' fun i => ?_)
          by_cases at_i : i = check.2
          · subst at_i
            rw [Function.update_self, here, List.map_cons, Found, Found]
            constructor
            · rintro (⟨none_left, owned⟩ | ⟨_, _, _, impossible, _⟩)
              · rw [none_left]
                exact .inr ⟨check.1, rfl, place.1, place.2, owned⟩
              · cases impossible
            · rintro (⟨impossible, _⟩ | ⟨site, one, _, _, owned⟩)
              · cases impossible
              · exact .inl ⟨(List.cons_eq_cons.mp one).2, owned⟩
          · rw [Function.update_of_ne at_i, elsewhere i at_i]
        · have step : observeCallback callbacks presence check =
              .error (fail "owned_callback_conflict") := by
            rw [observeCallback, if_neg (not_not.mpr named), if_pos (by tauto)]
          rw [step]
          constructor
          · intro done
            cases done
          · intro each
            have found := each check.2
            rw [here, List.map_cons] at found
            rcases found with ⟨impossible, _⟩ | ⟨site, one, exact_, before, _⟩
            · cases impossible
            · rw [← (List.cons_eq_cons.mp one).1] at exact_
              exact absurd ⟨exact_, before⟩ place

/-- The sites that are compared with a callback's own command are those that have it. -/
theorem hits_checks (i : Fin 3) (sites : List Site) :
    (hits callbacks i (sites.flatMap checks)).map Prod.fst = owned (callbacks.callback i) sites := by
  induction sites with
  | nil => rfl
  | cons site sites ih =>
      have rest := ih
      rw [hits] at rest ⊢
      rw [List.flatMap_cons, List.filter_append, List.map_append, rest, owned, owned,
        List.filter_cons, checks]
      have each : ∀ i : Fin 3, (List.finRange 3).filter (fun j => decide (j = i)) = [i] := by decide
      have only := each i
      cases here : commandOf site.member with
      | none => simp
      | some command =>
          by_cases named : command = (callbacks.callback i).command
          · simp [named, List.filter_map, Function.comp_def, here, only]
          · simp [named, List.filter_map, Function.comp_def, here]

/-- A document with a `hooks` object is accepted when it is laid out, and each callback's command
stands in its place or nowhere. -/
theorem observe_ok_iff {fields events : List (String × Json)}
    (hooks : Fields.get "hooks" fields = some (.object events)) (presence : Presence) :
    observe callbacks (.object fields) = .ok presence ↔
      (∀ entry ∈ events, EventLaidOut entry) ∧
        ∀ i, Found callbacks i .absent (presence i) (owned (callbacks.callback i) (sites events)) := by
  rw [observe, hooks]
  dsimp only
  rw [foldlM_flatMap (observeEvent_iff callbacks) events, ← List.flatMap_assoc,
    foldlM_observeCallback]
  simp only [hits_checks]
  rfl

end ConfigSettings

end LibraGovernor
