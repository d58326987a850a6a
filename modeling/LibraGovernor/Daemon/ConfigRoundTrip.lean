/-
# LibraGovernor.Daemon.ConfigRoundTrip -- disconnecting undoes connecting

Connecting adds the missing handlers and disconnecting takes the owned ones off, so what is owned
afterwards is known (`connected_observe`, `disconnected_observe`) and a second time changes
nothing.  Connecting changes nothing else.  Disconnecting drops an event whose groups are empty
afterwards, and a `hooks` object without events, whether or not an owned handler was in it: a
document that has an empty one is not what it was before (`undone_iff`).
-/
import LibraGovernor.Daemon.ConfigSettings
import LibraGovernor.Lib.Pruned

namespace LibraGovernor

namespace ConfigSettings

set_option autoImplicit false

/-- Events in order, each laid out. -/
structure Laid (events : List (String × Json)) : Prop where
  ascending : Fields.Ascending events
  each : ∀ entry ∈ events, EventLaidOut entry

/-! ## Adding -/

section Add

variable {callbacks : OwnedCallbacks} {presence : Presence} {events : List (String × Json)}

def ownSite (callback : OwnedCallback) : Site := ⟨callback.event, none, handler callback⟩

theorem ownSite_exact (callback : OwnedCallback) : (ownSite callback).Exact callback :=
  ⟨rfl, rfl, rfl⟩

theorem commandOf_handler (callback : OwnedCallback) :
    commandOf (handler callback) = some callback.command := rfl

theorem groupSites_own (callback : OwnedCallback) :
    groupSites callback.event (ownGroup callback) = [ownSite callback] := by
  have matcher : Fields.get "matcher" [("hooks", Json.array [handler callback])] = none := by
    rw [Fields.get, if_neg (by decide), Fields.get]
  rw [ownGroup, groupSites, Fields.get, if_pos rfl]
  simp only [List.map_cons, List.map_nil, matcher]
  rfl

theorem ownGroup_laidOut (callback : OwnedCallback) : GroupLaidOut (ownGroup callback) := by
  refine ⟨_, [handler callback], rfl, if_pos rfl, ?_⟩
  intro member mem
  rw [List.mem_singleton] at mem
  exact ⟨_, mem⟩

def groupsIn : Option Json → List Json
  | some (.array groups) => groups
  | _ => []

/-- The groups of an event, none if it is missing. -/
def groupsAt (event : String) (events : List (String × Json)) : List Json :=
  groupsIn (Fields.get event events)

theorem Laid.get_eq (laid : Laid events) (event : String) :
    Fields.get event events = none ∧ groupsAt event events = [] ∨
      Fields.get event events = some (.array (groupsAt event events)) := by
  cases here : Fields.get event events with
  | none =>
      rw [groupsAt, here]
      exact .inl ⟨rfl, rfl⟩
  | some value =>
      obtain ⟨groups, is_array, -⟩ := laid.each _ (Fields.get_mem here)
      dsimp only at is_array
      rw [groupsAt, here, is_array]
      exact .inr rfl

theorem Laid.groups (laid : Laid events) (event : String) :
    ∀ group ∈ groupsAt event events, GroupLaidOut group := by
  intro group mem
  rcases laid.get_eq event with ⟨-, none_here⟩ | here
  · rw [none_here] at mem
    cases mem
  · obtain ⟨groups, is_array, each⟩ := laid.each _ (Fields.get_mem here)
    cases is_array
    exact each group mem

/-- The sites of the events are those of one of them and those of the rest. -/
theorem Laid.sites_perm (laid : Laid events) (event : String) :
    (sites events).Perm ((groupsAt event events).flatMap (groupSites event) ++
      sites (Fields.remove event events)) := by
  rcases laid.get_eq event with ⟨missing, none_here⟩ | here
  · rw [none_here, Fields.remove_eq_self missing]
    exact .refl _
  · exact (Fields.perm_of_get laid.ascending here).flatMap_right eventSites

theorem addCallback_absent {i : Fin 3} (absent : presence i = .absent) :
    addCallback callbacks presence events i =
      Fields.upsert (callbacks.callback i).event (.array []) (pushGroup (callbacks.callback i))
        events := if_pos absent

theorem addCallback_present {i : Fin 3} (present : ¬ presence i = .absent) :
    addCallback callbacks presence events i = events := if_neg present

theorem pushGroup_getD (laid : Laid events) (callback : OwnedCallback) (event : String) :
    pushGroup callback ((Fields.get event events).getD (.array [])) =
      .array (groupsAt event events ++ [ownGroup callback]) := by
  rcases laid.get_eq event with ⟨missing, none_here⟩ | here
  · rw [missing, none_here]
    rfl
  · rw [here]
    rfl

theorem addCallback_laid (laid : Laid events) (i : Fin 3) :
    Laid (addCallback callbacks presence events i) := by
  by_cases absent : presence i = .absent
  · rw [addCallback_absent absent]
    refine ⟨Fields.ascending_upsert laid.ascending, ?_⟩
    intro entry mem
    have perm := (Fields.upsert_perm laid.ascending (callbacks.callback i).event (.array [])
      (pushGroup (callbacks.callback i))).mem_iff.mp mem
    rcases List.mem_cons.mp perm with rfl | rest
    · rw [pushGroup_getD laid]
      refine ⟨_, rfl, List.forall_mem_append.mpr ⟨laid.groups _, ?_⟩⟩
      exact List.forall_mem_singleton.mpr (ownGroup_laidOut _)
    · exact laid.each entry (List.mem_filter.mp rest).1
  · rw [addCallback_present absent]
    exact laid

theorem addCallback_sites (laid : Laid events) (i : Fin 3) :
    (sites (addCallback callbacks presence events i)).Perm
      (sites events ++ if presence i = .absent then [ownSite (callbacks.callback i)] else []) := by
  by_cases absent : presence i = .absent
  · rw [addCallback_absent absent, if_pos absent]
    have perm := (Fields.upsert_perm laid.ascending (callbacks.callback i).event (.array [])
      (pushGroup (callbacks.callback i))).flatMap_right eventSites
    rw [List.flatMap_cons, pushGroup_getD laid] at perm
    refine perm.trans ?_
    have before := laid.sites_perm (callbacks.callback i).event
    rw [eventSites]
    dsimp only
    rw [List.flatMap_append, List.flatMap_singleton, groupSites_own, List.append_assoc]
    refine .trans ?_ (before.symm.append_right _)
    rw [List.append_assoc]
    exact List.perm_append_comm.append_left _
  · rw [addCallback_present absent, if_neg absent, List.append_nil]

/-- Steps that keep the layout keep it over a run of them. -/
theorem foldl_laid {step : List (String × Json) → Fin 3 → List (String × Json)}
    (keeps : ∀ events i, Laid events → Laid (step events i)) (laid : Laid events) (is : List (Fin 3)) :
    Laid (is.foldl step events) := by
  induction is generalizing events with
  | nil => exact laid
  | cons i is ih => exact ih (keeps events i laid)

/-- The sites after adding: those before, and those of the callbacks that were absent. -/
theorem addCallbacks_sites (callbacks : OwnedCallbacks) (presence : Presence) (laid : Laid events)
    (is : List (Fin 3)) :
    (sites (is.foldl (addCallback callbacks presence) events)).Perm
      (sites events ++ (is.filter fun i => presence i = .absent).map
        fun i => ownSite (callbacks.callback i)) := by
  induction is generalizing events with
  | nil => simp
  | cons i is ih =>
      refine (ih (addCallback_laid laid i)).trans ?_
      refine ((addCallback_sites laid i).append_right _).trans ?_
      rw [List.append_assoc]
      refine List.Perm.append_left _ (.of_eq ?_)
      by_cases absent : presence i = .absent
      · simp [absent]
      · simp [absent]

end Add

/-! ## Dropping -/

section Drop

variable {callbacks : OwnedCallbacks} {events : List (String × Json)}

/-- What a group keeps of its handlers. -/
theorem stripGroup_cases (callback : OwnedCallback) {group : Json} (laid : GroupLaidOut group) :
    ∃ fields members, group = .object fields ∧ Fields.get "hooks" fields = some (.array members) ∧
      (∀ member ∈ members, ∃ own, member = .object own) ∧
      ((stripGroup callback group = none ∧ fields.length = 1 ∧ members ≠ [] ∧
          ∀ member ∈ members, member = handler callback) ∨
        stripGroup callback group = some (.object (Fields.modify "hooks"
          (fun _ => .array (keptMembers callback members)) fields))) := by
  obtain ⟨fields, members, rfl, hooks, own⟩ := laid
  refine ⟨fields, members, rfl, hooks, own, ?_⟩
  rw [stripGroup, hooks]
  dsimp only
  split
  · rename_i emptied
    obtain ⟨shorter, none_kept, plain⟩ := emptied
    refine .inl ⟨rfl, plain, ?_, ?_⟩
    · rintro rfl
      exact shorter rfl
    · intro member mem
      have gone := List.filter_eq_nil_iff.mp none_kept member mem
      simpa using gone
  · exact .inr rfl

theorem stripGroup_laidOut (callback : OwnedCallback) {group stripped : Json}
    (laid : GroupLaidOut group) (here : stripGroup callback group = some stripped) :
    GroupLaidOut stripped := by
  obtain ⟨fields, members, rfl, hooks, own, ⟨gone, -⟩ | kept⟩ := stripGroup_cases callback laid
  · rw [gone] at here
    cases here
  · rw [kept] at here
    cases here
    refine ⟨_, keptMembers callback members, rfl, ?_,
      fun member mem => own member (List.mem_filter.mp mem).1⟩
    rw [Fields.get_modify, if_pos rfl, hooks]
    rfl

/-- A group's sites, without those of the callback. -/
theorem stripGroup_sites (callback : OwnedCallback) (event : String) {group : Json}
    (laid : GroupLaidOut group) :
    (stripGroup callback group).toList.flatMap (groupSites event) =
      (groupSites event group).filter fun site => decide (site.member ≠ handler callback) := by
  obtain ⟨fields, members, rfl, hooks, own, ⟨gone, -, -, all_own⟩ | kept⟩ :=
    stripGroup_cases callback laid
  · rw [gone, groupSites, hooks]
    symm
    rw [Option.toList_none, List.flatMap_nil, List.filter_eq_nil_iff]
    intro site mem
    obtain ⟨member, inside, rfl⟩ := List.mem_map.mp mem
    simpa using all_own member inside
  · have matcher : Fields.get "matcher" (Fields.modify "hooks"
        (fun _ => Json.array (keptMembers callback members)) fields) = Fields.get "matcher" fields := by
      rw [Fields.get_modify, if_neg (by decide)]
    have hooks' : Fields.get "hooks" (Fields.modify "hooks"
        (fun _ => Json.array (keptMembers callback members)) fields) =
        some (.array (keptMembers callback members)) := by
      rw [Fields.get_modify, if_pos rfl, hooks]
      rfl
    rw [kept, Option.toList_some, List.flatMap_singleton, groupSites, groupSites, hooks, hooks']
    dsimp only
    rw [matcher, keptMembers, List.filter_map]
    rfl

theorem stripGroups_sites (callback : OwnedCallback) (event : String) {groups : List Json}
    (laid : ∀ group ∈ groups, GroupLaidOut group) :
    (groups.filterMap (stripGroup callback)).flatMap (groupSites event) =
      (groups.flatMap (groupSites event)).filter fun site =>
        decide (site.member ≠ handler callback) := by
  induction groups with
  | nil => rfl
  | cons group groups ih =>
      obtain ⟨laid_group, laid⟩ := List.forall_mem_cons.mp laid
      rw [List.flatMap_cons, List.filter_append, ← ih laid, ← stripGroup_sites callback event laid_group]
      cases here : stripGroup callback group with
      | none => rw [List.filterMap_cons_none here]; rfl
      | some stripped => rw [List.filterMap_cons_some here]; simp

theorem groupSites_event {event : String} {group : Json} :
    ∀ site ∈ groupSites event group, site.event = event := by
  intro site mem
  unfold groupSites at mem
  split at mem
  · split at mem
    · obtain ⟨member, -, rfl⟩ := List.mem_map.mp mem
      rfl
    · cases mem
  · cases mem

theorem eventSites_event {entry : String × Json} :
    ∀ site ∈ eventSites entry, site.event = entry.1 := by
  intro site mem
  unfold eventSites at mem
  split at mem
  · obtain ⟨group, -, inside⟩ := List.mem_flatMap.mp mem
    exact groupSites_event site inside
  · cases mem

/-- What is left of an event. -/
def leftOf (callback : OwnedCallback) (events : List (String × Json)) : List Json :=
  (groupsAt callback.event events).filterMap (stripGroup callback)

theorem dropCallback_get (laid : Laid events) (i : Fin 3) (event : String) :
    Fields.get event (dropCallback callbacks events i) =
      if event = (callbacks.callback i).event then
        if leftOf (callbacks.callback i) events = [] then none
        else some (.array (leftOf (callbacks.callback i) events))
      else Fields.get event events := by
  rw [dropCallback, leftOf]
  rcases laid.get_eq (callbacks.callback i).event with ⟨missing, none_here⟩ | here
  · rw [missing, none_here]
    by_cases same : event = (callbacks.callback i).event
    · rw [if_pos same, same, List.filterMap_nil, if_pos rfl]
      exact missing
    · rw [if_neg same]
  · rw [here]
    dsimp only
    split
    · rw [Fields.get_remove]
    · rw [Fields.get_modify, here]
      rfl

theorem leftOf_laid (laid : Laid events) (callback : OwnedCallback) :
    ∀ group ∈ leftOf callback events, GroupLaidOut group := by
  intro group mem
  obtain ⟨before, inside, here⟩ := List.mem_filterMap.mp mem
  exact stripGroup_laidOut callback (laid.groups _ before inside) here

theorem dropCallback_ascending (ascending : Fields.Ascending events) (i : Fin 3) :
    Fields.Ascending (dropCallback callbacks events i) := by
  unfold dropCallback
  dsimp only
  split
  · split
    · exact Fields.ascending_remove ascending
    · exact Fields.ascending_modify ascending
  · exact ascending

theorem dropCallback_laid (laid : Laid events) (i : Fin 3) :
    Laid (dropCallback callbacks events i) := by
  refine ⟨dropCallback_ascending laid.ascending i, ?_⟩
  intro entry mem
  have here := Fields.get_of_mem (dropCallback_ascending laid.ascending i) mem
  rw [dropCallback_get laid] at here
  split at here
  · split at here
    · cases here
    · exact ⟨_, (Option.some.inj here).symm, leftOf_laid laid _⟩
  · exact laid.each entry (Fields.get_mem here)

/-- The site is the callback's own. -/
def Site.Own (callback : OwnedCallback) (site : Site) : Prop :=
  site.event = callback.event ∧ site.member = handler callback

instance (callback : OwnedCallback) (site : Site) : Decidable (site.Own callback) :=
  inferInstanceAs (Decidable (_ ∧ _))

theorem dropCallback_sites (laid : Laid events) (i : Fin 3) :
    (sites (dropCallback callbacks events i)).Perm
      ((sites events).filter fun site => decide (¬ site.Own (callbacks.callback i))) := by
  have groups : groupsAt (callbacks.callback i).event (dropCallback callbacks events i) =
      leftOf (callbacks.callback i) events := by
    rw [groupsAt, dropCallback_get laid, if_pos rfl]
    by_cases none_left : leftOf (callbacks.callback i) events = []
    · rw [if_pos none_left, none_left]
      rfl
    · rw [if_neg none_left]
      rfl
  have rest : Fields.remove (callbacks.callback i).event (dropCallback callbacks events i) =
      Fields.remove (callbacks.callback i).event events := by
    apply Fields.ext (Fields.ascending_remove (dropCallback_ascending laid.ascending i))
      (Fields.ascending_remove laid.ascending)
    intro event
    rw [Fields.get_remove, Fields.get_remove, dropCallback_get laid]
    split <;> rfl
  have laid_after : Laid (dropCallback callbacks events i) := dropCallback_laid laid i
  have after := laid_after.sites_perm (callbacks.callback i).event
  have before := (laid.sites_perm (callbacks.callback i).event).filter
    fun site => decide (¬ site.Own (callbacks.callback i))
  rw [groups, rest] at after
  refine (after.trans (.of_eq ?_)).trans before.symm
  rw [List.filter_append, leftOf, stripGroups_sites _ _ (laid.groups _)]
  congr 1
  · -- Every site of the event has that event.
    apply List.filter_congr
    intro site mem
    obtain ⟨group, -, inside⟩ := List.mem_flatMap.mp mem
    have event := groupSites_event site inside
    rw [decide_eq_decide, Site.Own, event]
    simp
  · -- No site of the rest has it.
    symm
    rw [List.filter_eq_self]
    intro site mem
    obtain ⟨entry, inside, at_entry⟩ := List.mem_flatMap.mp mem
    have other : entry.1 ≠ (callbacks.callback i).event := by
      simpa using (List.mem_filter.mp inside).2
    rw [decide_eq_true_iff]
    rintro ⟨event, -⟩
    exact other (eventSites_event site at_entry ▸ event)

/-- The sites after dropping: those that are no callback's own. -/
theorem dropCallbacks_sites (laid : Laid events) (is : List (Fin 3)) :
    (sites (is.foldl (dropCallback callbacks) events)).Perm
      ((sites events).filter fun site =>
        decide (∀ i ∈ is, ¬ site.Own (callbacks.callback i))) := by
  induction is generalizing events with
  | nil => simp
  | cons i is ih =>
      refine (ih (dropCallback_laid laid i)).trans ?_
      refine ((dropCallback_sites laid i).filter _).trans (.of_eq ?_)
      rw [List.filter_filter]
      apply List.filter_congr
      intro site _
      rw [← Bool.decide_and, decide_eq_decide, List.forall_mem_cons]
      exact and_comm

end Drop

/-! ## What is owned afterwards -/

section Owned

variable {callbacks : OwnedCallbacks} {presence : Presence} {fields : List (String × Json)}

/-- The events of a document's fields, none if there is no `hooks` object. -/
def eventsOf (fields : List (String × Json)) : List (String × Json) :=
  match Fields.get "hooks" fields with
  | some (.object events) => events
  | _ => []

/-- What a document that is observed is like. -/
structure Accepted (callbacks : OwnedCallbacks) (fields : List (String × Json))
    (presence : Presence) : Prop where
  shape : Fields.get "hooks" fields = none ∧ eventsOf fields = [] ∨
    Fields.get "hooks" fields = some (.object (eventsOf fields))
  laid : Laid (eventsOf fields)
  found : ∀ i, Found callbacks i .absent (presence i)
    (owned (callbacks.callback i) (sites (eventsOf fields)))

theorem accepted_of_observe (ordered : (Json.object fields).Ordered)
    (ok : observe callbacks (.object fields) = .ok presence) :
    Accepted callbacks fields presence := by
  cases hooks : Fields.get "hooks" fields with
  | none =>
      have none_yet : eventsOf fields = [] := by rw [eventsOf, hooks]
      rw [observe, hooks] at ok
      cases ok
      refine ⟨.inl ⟨hooks, none_yet⟩, ?_, ?_⟩
      · rw [none_yet]
        exact ⟨List.Pairwise.nil, by simp⟩
      · intro i
        rw [none_yet]
        exact .inl ⟨rfl, rfl⟩
  | some value =>
      cases value with
      | object events =>
          have here : eventsOf fields = events := by rw [eventsOf, hooks]
          obtain ⟨each, found⟩ := (observe_ok_iff callbacks hooks presence).mp ok
          refine ⟨.inr (here ▸ hooks), ?_, here ▸ found⟩
          rw [here]
          cases ordered with
          | object _ ordered =>
              cases ordered _ (Fields.get_mem hooks) with
              | object ascending _ => exact ⟨ascending, each⟩
      | _ =>
          rw [observe, hooks] at ok
          cases ok

theorem Accepted.observe (accepted : Accepted callbacks fields presence) :
    ConfigSettings.observe callbacks (.object fields) = .ok presence := by
  rcases accepted.shape with ⟨missing, none_yet⟩ | hooks
  · rw [ConfigSettings.observe, missing]
    have absent : presence = fun _ => .absent := by
      funext i
      have found := accepted.found i
      rw [none_yet] at found
      rcases found with ⟨-, same⟩ | ⟨_, impossible, -⟩
      · exact same
      · cases impossible
    rw [absent]
  · exact (observe_ok_iff callbacks hooks presence).mpr ⟨accepted.laid.each, accepted.found⟩

theorem Found.perm {i : Fin 3} {before after : CallbackPresence} {first second : List Site}
    (found : Found callbacks i before after first) (perm : first.Perm second) :
    Found callbacks i before after second := by
  rcases found with ⟨rfl, same⟩ | ⟨site, rfl, rest⟩
  · exact .inl ⟨perm.nil_eq.symm, same⟩
  · exact .inr ⟨site, (List.singleton_perm.mp perm).symm, rest⟩

/-- The commands are different, so only one of the added sites has a callback's. -/
theorem owned_added (callbacks : OwnedCallbacks) (presence : Presence) (i : Fin 3) :
    owned (callbacks.callback i) (((List.finRange 3).filter fun j => presence j = .absent).map
      fun j => ownSite (callbacks.callback j)) =
      if presence i = .absent then [ownSite (callbacks.callback i)] else [] := by
  have only : ∀ i : Fin 3, (List.finRange 3).filter (fun j => decide (j = i)) = [i] := by decide
  rw [owned, List.filter_map, List.filter_filter]
  have same : (List.finRange 3).filter (fun j => ((fun site : Site => decide (commandOf site.member =
      some (callbacks.callback i).command)) ∘ fun j => ownSite (callbacks.callback j)) j &&
        decide (presence j = .absent)) =
      ((List.finRange 3).filter fun j => decide (j = i)).filter fun j => decide (presence j = .absent) := by
    rw [List.filter_filter]
    apply List.filter_congr
    intro j _
    rw [Bool.and_comm]
    congr 1
    rw [Function.comp_apply, decide_eq_decide]
    show some (callbacks.callback j).command = some (callbacks.callback i).command ↔ j = i
    rw [Option.some_inj]
    exact ⟨callbacks.command_inj j i, fun eq => eq ▸ rfl⟩
  rw [same, only]
  by_cases absent : presence i = .absent
  · simp [absent]
  · simp [absent]

/-- A document with the callbacks added, those it did not have. -/
def added (callbacks : OwnedCallbacks) (presence : Presence) (fields : List (String × Json)) :
    List (String × Json) :=
  Fields.upsert "hooks" (.object []) (addCallbacks callbacks presence) fields

theorem Accepted.hooks_added (accepted : Accepted callbacks fields presence)
    (ascending : Fields.Ascending fields) :
    Fields.get "hooks" (added callbacks presence fields) =
      some (.object ((List.finRange 3).foldl (addCallback callbacks presence) (eventsOf fields))) := by
  rw [added, Fields.get_upsert ascending, if_pos rfl]
  rcases accepted.shape with ⟨missing, none_yet⟩ | hooks
  · rw [missing, none_yet]
    rfl
  · rw [hooks]
    rfl

/-- Connected, a document has all of the callbacks. -/
theorem Accepted.added (accepted : Accepted callbacks fields presence)
    (ascending : Fields.Ascending fields) :
    Accepted callbacks (ConfigSettings.added callbacks presence fields) fun _ => .exactOwned := by
  have hooks := accepted.hooks_added ascending
  have events : eventsOf (ConfigSettings.added callbacks presence fields) =
      (List.finRange 3).foldl (addCallback callbacks presence) (eventsOf fields) := by
    rw [eventsOf, hooks]
  refine ⟨.inr (events ▸ hooks), ?_, ?_⟩
  · rw [events]
    exact foldl_laid (fun _ i laid => addCallback_laid laid i) accepted.laid _
  · intro i
    rw [events]
    have perm := (addCallbacks_sites callbacks presence accepted.laid (List.finRange 3)).filter
      fun site => decide (commandOf site.member = some (callbacks.callback i).command)
    rw [List.filter_append] at perm
    refine Found.perm ?_ perm.symm
    have one := owned_added callbacks presence i
    rw [owned] at one
    rw [one]
    rcases accepted.found i with ⟨none_yet, absent⟩ | ⟨site, here, exact_, -, present⟩
    · rw [owned] at none_yet
      rw [none_yet, if_pos absent]
      exact .inr ⟨_, rfl, ownSite_exact _, rfl, rfl⟩
    · rw [owned] at here
      rw [here, if_neg (by rw [present]; simp)]
      exact .inr ⟨site, rfl, exact_, rfl, rfl⟩

/-- A document without the callbacks. -/
def dropped (callbacks : OwnedCallbacks) (fields : List (String × Json)) : List (String × Json) :=
  let kept := (List.finRange 3).foldl (dropCallback callbacks) (eventsOf fields)
  if kept = [] then Fields.remove "hooks" fields
  else Fields.modify "hooks" (fun _ => .object kept) fields

theorem eventsOf_modify {value : Json} (hooks : Fields.get "hooks" fields = some value)
    (kept : List (String × Json)) :
    Fields.get "hooks" (Fields.modify "hooks" (fun _ => .object kept) fields) =
        some (.object kept) ∧
      eventsOf (Fields.modify "hooks" (fun _ => .object kept) fields) = kept := by
  have here : Fields.get "hooks" (Fields.modify "hooks" (fun _ => .object kept) fields) =
      some (.object kept) := by
    rw [Fields.get_modify, if_pos rfl, hooks]
    rfl
  exact ⟨here, by rw [eventsOf, here]⟩

theorem Accepted.eventsOf_dropped (accepted : Accepted callbacks fields presence) :
    eventsOf (ConfigSettings.dropped callbacks fields) =
        (List.finRange 3).foldl (dropCallback callbacks) (eventsOf fields) ∧
      (Fields.get "hooks" (ConfigSettings.dropped callbacks fields) = none ∧
          eventsOf (ConfigSettings.dropped callbacks fields) = [] ∨
        Fields.get "hooks" (ConfigSettings.dropped callbacks fields) =
          some (.object (eventsOf (ConfigSettings.dropped callbacks fields)))) := by
  have nothing : ∀ is : List (Fin 3), is.foldl (dropCallback callbacks) [] = [] := by
    intro is
    induction is with
    | nil => rfl
    | cons i is ih => exact ih
  unfold ConfigSettings.dropped
  dsimp only
  by_cases none_left : (List.finRange 3).foldl (dropCallback callbacks) (eventsOf fields) = []
  · rw [if_pos none_left, none_left]
    have missing : Fields.get "hooks" (Fields.remove "hooks" fields) = none := by
      rw [Fields.get_remove, if_pos rfl]
    have empty : eventsOf (Fields.remove "hooks" fields) = [] := by rw [eventsOf, missing]
    exact ⟨empty, .inl ⟨missing, empty⟩⟩
  · rw [if_neg none_left]
    rcases accepted.shape with ⟨-, none_yet⟩ | hooks
    · rw [none_yet] at none_left
      exact absurd (nothing _) none_left
    · obtain ⟨here, events⟩ := eventsOf_modify hooks
        ((List.finRange 3).foldl (dropCallback callbacks) (eventsOf fields))
      exact ⟨events, .inr (by rw [here, events])⟩

/-- Disconnected, a document has none of the callbacks. -/
theorem Accepted.dropped (accepted : Accepted callbacks fields presence) :
    Accepted callbacks (ConfigSettings.dropped callbacks fields) fun _ => .absent := by
  obtain ⟨events, shape⟩ := accepted.eventsOf_dropped
  refine ⟨shape, ?_, ?_⟩
  · rw [events]
    exact foldl_laid (fun _ i laid => dropCallback_laid laid i) accepted.laid _
  · intro i
    refine .inl ⟨?_, rfl⟩
    rw [owned, List.filter_eq_nil_iff, events]
    intro site mem
    have kept := (dropCallbacks_sites accepted.laid _).mem_iff.mp mem
    obtain ⟨before, not_own⟩ := List.mem_filter.mp kept
    rw [decide_eq_true_iff] at not_own ⊢
    intro named
    -- It had the command before, so it was in its place.
    have inside : site ∈ owned (callbacks.callback i) (sites (eventsOf fields)) :=
      List.mem_filter.mpr ⟨before, decide_eq_true named⟩
    rcases accepted.found i with ⟨none_here, -⟩ | ⟨only, one, exact_, -⟩
    · rw [none_here] at inside
      cases inside
    · rw [one, List.mem_singleton] at inside
      subst inside
      exact not_own i (List.mem_finRange i) ⟨exact_.1, exact_.2.2⟩

end Owned

/-! ## Connecting and disconnecting -/

section Connect

variable {callbacks : OwnedCallbacks} {presence : Presence} {fields : List (String × Json)}

theorem connect_refused {document : Json} {e : RegistryFailure}
    (refused : observe callbacks document = .error e) (enabled : Bool) :
    connect callbacks document enabled = .error e := by
  rw [connect, refused]

theorem connect_all (accepted : Accepted callbacks fields presence)
    (all : ∀ i, presence i = .exactOwned) :
    connect callbacks (.object fields) true = .ok (.object fields) := by
  rw [connect, accepted.observe]
  dsimp only
  rw [if_pos rfl, if_pos all]

theorem connect_some (accepted : Accepted callbacks fields presence)
    (missing : ¬ ∀ i, presence i = .exactOwned) :
    connect callbacks (.object fields) true = .ok (.object (added callbacks presence fields)) := by
  rw [connect, accepted.observe]
  dsimp only
  rw [if_pos rfl, if_neg missing]
  rfl

theorem disconnect_none (accepted : Accepted callbacks fields presence)
    (none_owned : ¬ ∃ i, presence i = .exactOwned) :
    connect callbacks (.object fields) false = .ok (.object fields) := by
  rw [connect, accepted.observe]
  dsimp only
  rw [if_neg (by decide), if_neg none_owned]

theorem disconnect_some (accepted : Accepted callbacks fields presence)
    (some_owned : ∃ i, presence i = .exactOwned) :
    connect callbacks (.object fields) false = .ok (.object (dropped callbacks fields)) := by
  rw [connect, accepted.observe]
  dsimp only
  rw [if_neg (by decide), if_pos some_owned]
  rcases accepted.shape with ⟨-, none_yet⟩ | hooks
  · obtain ⟨i, present⟩ := some_owned
    have found := accepted.found i
    rw [none_yet] at found
    rcases found with ⟨-, absent⟩ | ⟨_, impossible, -⟩
    · rw [absent] at present
      cases present
    · cases impossible
  · rw [hooks, dropped]
    dsimp only
    split <;> rfl

/-- What a document is connected to is connected to itself. -/
theorem connect_idempotent (accepted : Accepted callbacks fields presence)
    (ascending : Fields.Ascending fields) (enabled : Bool) {once : Json}
    (ok : connect callbacks (.object fields) enabled = .ok once) :
    connect callbacks once enabled = .ok once := by
  cases enabled with
  | true =>
      by_cases all : ∀ i, presence i = .exactOwned
      · have same := connect_all accepted all
        rw [same] at ok
        cases ok
        exact same
      · rw [connect_some accepted all] at ok
        cases ok
        exact connect_all (accepted.added ascending) fun _ => rfl
  | false =>
      by_cases some_owned : ∃ i, presence i = .exactOwned
      · rw [disconnect_some accepted some_owned] at ok
        cases ok
        exact disconnect_none accepted.dropped (by simp)
      · have same := disconnect_none accepted some_owned
        rw [same] at ok
        cases ok
        exact same

end Connect

/-! ## What is left of each event -/

section Events

variable {callbacks : OwnedCallbacks} {events : List (String × Json)}

/-- Steps that each write one event, in turn: another event is as before, and an event is written
once. -/
theorem foldl_get {step : List (String × Json) → Fin 3 → List (String × Json)}
    (write : Fin 3 → Option Json → Option Json)
    (keeps : ∀ events i, Laid events → Laid (step events i))
    (at_ : ∀ events i event, Laid events → Fields.get event (step events i) =
      if event = (callbacks.callback i).event then write i (Fields.get event events)
      else Fields.get event events)
    (laid : Laid events) {is : List (Fin 3)} (distinct : is.Nodup) (event : String) :
    (∀ i ∈ is, event = (callbacks.callback i).event →
        Fields.get event (is.foldl step events) = write i (Fields.get event events)) ∧
      ((∀ i ∈ is, event ≠ (callbacks.callback i).event) →
        Fields.get event (is.foldl step events) = Fields.get event events) := by
  induction is generalizing events with
  | nil => exact ⟨by simp, fun _ => rfl⟩
  | cons j is ih =>
      obtain ⟨fresh, distinct⟩ := List.nodup_cons.mp distinct
      obtain ⟨written, left⟩ := ih (keeps events j laid) distinct
      rw [List.foldl_cons]
      constructor
      · intro i mem here
        rcases List.mem_cons.mp mem with rfl | mem
        · rw [left, at_ events i event laid, if_pos here]
          intro k inside there
          exact fresh (callbacks.event_inj i k (here.symm.trans there) ▸ inside)
        · have other : event ≠ (callbacks.callback j).event := fun there =>
            fresh (callbacks.event_inj i j (here.symm.trans there) ▸ mem)
          rw [written i mem here, at_ events j event laid, if_neg other]
      · intro other
        obtain ⟨not_j, rest⟩ := List.forall_mem_cons.mp other
        rw [left rest, at_ events j event laid, if_neg not_j]

theorem addCallback_get {presence : Presence} (laid : Laid events) (i : Fin 3) (event : String) :
    Fields.get event (addCallback callbacks presence events i) =
      if event = (callbacks.callback i).event then
        if presence i = .absent then
          some (pushGroup (callbacks.callback i) ((Fields.get event events).getD (.array [])))
        else Fields.get event events
      else Fields.get event events := by
  by_cases absent : presence i = .absent
  · rw [addCallback_absent absent, Fields.get_upsert laid.ascending, if_pos absent]
    by_cases here : event = (callbacks.callback i).event
    · rw [if_pos here, if_pos here, here]
    · rw [if_neg here, if_neg here]
  · rw [addCallback_present absent, if_neg absent, ite_self]

/-- The events after adding. -/
theorem addCallbacks_get (callbacks : OwnedCallbacks) (presence : Presence) (laid : Laid events) (event : String) :
    (∀ i, event = (callbacks.callback i).event →
        Fields.get event ((List.finRange 3).foldl (addCallback callbacks presence) events) =
          if presence i = .absent then
            some (.array (groupsAt event events ++ [ownGroup (callbacks.callback i)]))
          else Fields.get event events) ∧
      ((∀ i, event ≠ (callbacks.callback i).event) →
        Fields.get event ((List.finRange 3).foldl (addCallback callbacks presence) events) =
          Fields.get event events) := by
  let write := fun i (value : Option Json) =>
    if presence i = .absent then
      some (pushGroup (callbacks.callback i) (value.getD (.array [])))
    else value
  obtain ⟨written, left⟩ := foldl_get write (fun _ i laid => addCallback_laid laid i)
    (fun _ i event laid => addCallback_get laid i event) laid (List.nodup_finRange 3) event
  refine ⟨fun i here => ?_, fun other => left fun i _ => other i⟩
  rw [written i (List.mem_finRange i) here]
  dsimp only [write]
  rw [pushGroup_getD laid]

/-- The events after dropping. -/
theorem dropCallbacks_get (callbacks : OwnedCallbacks) (laid : Laid events) (event : String) :
    (∀ i, event = (callbacks.callback i).event →
        Fields.get event ((List.finRange 3).foldl (dropCallback callbacks) events) =
          if leftOf (callbacks.callback i) events = [] then none
          else some (.array (leftOf (callbacks.callback i) events))) ∧
      ((∀ i, event ≠ (callbacks.callback i).event) →
        Fields.get event ((List.finRange 3).foldl (dropCallback callbacks) events) =
          Fields.get event events) := by
  let write := fun i (value : Option Json) =>
    if (groupsIn value).filterMap (stripGroup (callbacks.callback i)) = [] then none
    else some (Json.array ((groupsIn value).filterMap (stripGroup (callbacks.callback i))))
  have at_ : ∀ events i event, Laid events →
      Fields.get event (dropCallback callbacks events i) =
        if event = (callbacks.callback i).event then write i (Fields.get event events)
        else Fields.get event events := by
    intro events i event laid
    rw [dropCallback_get laid]
    split
    · rename_i here
      rw [here]
      rfl
    · rfl
  obtain ⟨written, left⟩ := foldl_get write (fun _ i laid => dropCallback_laid laid i) at_ laid
    (List.nodup_finRange 3) event
  refine ⟨fun i here => ?_, fun other => left fun i _ => other i⟩
  rw [written i (List.mem_finRange i) here, here]
  rfl

end Events

/-! ## What may change -/

section Change

variable (callbacks : OwnedCallbacks)

/-- An owned handler, under its event. -/
def OwnMember (event : String) (member : Json) : Prop :=
  ∃ i, event = (callbacks.callback i).event ∧ member = handler (callbacks.callback i)

/-- A plain group that only owned handlers occupy. -/
def OwnGroup (event : String) (group : Json) : Prop :=
  ∃ fields members, group = .object fields ∧ fields.length = 1 ∧
    Fields.get "hooks" fields = some (.array members) ∧ members ≠ [] ∧
    ∀ member ∈ members, OwnMember callbacks event member

/-- A group without some of its owned handlers. -/
def GroupLess (event : String) (less more : Json) : Prop :=
  ∃ fields members kept, more = .object fields ∧ Fields.get "hooks" fields = some (.array members) ∧
    Pruned Eq (OwnMember callbacks event) kept members ∧
    less = .object (Fields.modify "hooks" (fun _ => .array kept) fields)

/-- An event that only such groups occupy. -/
def OwnEvent (event : String) (value : Json) : Prop :=
  ∃ groups, value = .array groups ∧ groups ≠ [] ∧ ∀ group ∈ groups, OwnGroup callbacks event group

def EventLess (event : String) (less more : Json) : Prop :=
  ∃ kept groups, less = .array kept ∧ more = .array groups ∧
    Pruned (GroupLess callbacks event) (OwnGroup callbacks event) kept groups

/-- A `hooks` object that only such events occupy. -/
def OwnHooks (value : Json) : Prop :=
  ∃ events, value = .object events ∧ events ≠ [] ∧
    ∀ event, Kept (fun _ _ => False) (OwnEvent callbacks event) none (Fields.get event events)

def HooksLess (less more : Json) : Prop :=
  ∃ kept events, less = .object kept ∧ more = .object events ∧
    ∀ event, Kept (EventLess callbacks event) (OwnEvent callbacks event) (Fields.get event kept)
      (Fields.get event events)

/-- The first document is the second without some owned handlers and containers that only they
occupy: everything else is there, in order. -/
def OnlyOwned (less more : Json) : Prop :=
  ∃ kept fields, less = .object kept ∧ more = .object fields ∧
    (∀ key, key ≠ "hooks" → Fields.get key kept = Fields.get key fields) ∧
    Kept (HooksLess callbacks) (OwnHooks callbacks) (Fields.get "hooks" kept)
      (Fields.get "hooks" fields)

variable {callbacks} {presence : Presence} {fields events : List (String × Json)}

theorem groupLess_refl {event : String} {group : Json} (laid : GroupLaidOut group) :
    GroupLess callbacks event group group := by
  obtain ⟨fields, members, rfl, hooks, -⟩ := laid
  refine ⟨fields, members, members, rfl, hooks, Pruned.refl fun _ _ => rfl, ?_⟩
  rw [Fields.modify_self hooks]

theorem eventLess_refl {event : String} {groups : List Json}
    (laid : ∀ group ∈ groups, GroupLaidOut group) :
    EventLess callbacks event (.array groups) (.array groups) :=
  ⟨groups, groups, rfl, rfl, Pruned.refl fun group mem => groupLess_refl (laid group mem)⟩

theorem ownGroup_own (i : Fin 3) :
    OwnGroup callbacks (callbacks.callback i).event (ownGroup (callbacks.callback i)) := by
  refine ⟨_, [handler (callbacks.callback i)], rfl, rfl, if_pos rfl, by simp, ?_⟩
  intro member mem
  exact ⟨i, rfl, List.mem_singleton.mp mem⟩

/-- An event of the layout, unchanged. -/
theorem kept_refl (laid : Laid events) (event : String) :
    Kept (EventLess callbacks event) (OwnEvent callbacks event) (Fields.get event events)
      (Fields.get event events) := by
  rcases laid.get_eq event with ⟨missing, -⟩ | here
  · rw [missing]
    exact .none
  · rw [here]
    exact .keep (eventLess_refl (laid.groups event))

theorem onlyOwned_refl (accepted : Accepted callbacks fields presence) :
    OnlyOwned callbacks (.object fields) (.object fields) := by
  refine ⟨fields, fields, rfl, rfl, fun _ _ => rfl, ?_⟩
  rcases accepted.shape with ⟨missing, -⟩ | hooks
  · rw [missing]
    exact .none
  · rw [hooks]
    exact .keep ⟨_, _, rfl, rfl, kept_refl accepted.laid⟩

/-- Adding changes an event by a group that only the callback occupies. -/
theorem kept_added (callbacks : OwnedCallbacks) (presence : Presence) (laid : Laid events) (event : String) :
    Kept (EventLess callbacks event) (OwnEvent callbacks event) (Fields.get event events)
      (Fields.get event ((List.finRange 3).foldl (addCallback callbacks presence) events)) := by
  obtain ⟨written, left⟩ := addCallbacks_get callbacks presence laid event
  by_cases own : ∃ i, event = (callbacks.callback i).event
  · obtain ⟨i, here⟩ := own
    rw [written i here]
    split
    · rcases laid.get_eq event with ⟨missing, none_yet⟩ | found
      · rw [missing, none_yet]
        refine .drop ⟨_, rfl, by simp, List.forall_mem_singleton.mpr ?_⟩
        rw [here]
        exact ownGroup_own i
      · rw [found]
        refine .keep ⟨_, _, rfl, rfl, Pruned.concat (fun group mem =>
          groupLess_refl (laid.groups event group mem)) ?_⟩
        rw [here]
        exact ownGroup_own i
    · exact kept_refl laid event
  · rw [left fun i here => own ⟨i, here⟩]
    exact kept_refl laid event

theorem onlyOwned_added (accepted : Accepted callbacks fields presence)
    (ascending : Fields.Ascending fields) (missing : ¬ ∀ i, presence i = .exactOwned) :
    OnlyOwned callbacks (.object fields) (.object (added callbacks presence fields)) := by
  refine ⟨fields, _, rfl, rfl, ?_, ?_⟩
  · intro key other
    rw [added, Fields.get_upsert ascending, if_neg other]
  · rw [accepted.hooks_added ascending]
    rcases accepted.shape with ⟨absent, none_yet⟩ | hooks
    · rw [absent, none_yet]
      have each := fun event => kept_added callbacks presence
        (none_yet ▸ accepted.laid) event
      refine .drop ⟨_, rfl, ?_, ?_⟩
      · intro empty
        push Not at missing
        obtain ⟨i, not_owned⟩ := missing
        have absent_i : presence i = .absent := by
          cases here : presence i with
          | absent => rfl
          | exactOwned => exact absurd here not_owned
        have written := (addCallbacks_get callbacks presence
          (none_yet ▸ accepted.laid) (callbacks.callback i).event).1 i rfl
        rw [empty, if_pos absent_i] at written
        cases written
      · intro event
        have here := each event
        rw [show Fields.get event ([] : List (String × Json)) = none from rfl] at here
        generalize Fields.get event ((List.finRange 3).foldl (addCallback callbacks presence) []) =
          value at here ⊢
        cases here with
        | none => exact .none
        | drop gone => exact .drop gone
    · rw [hooks]
      exact .keep ⟨_, _, rfl, rfl, kept_added callbacks presence accepted.laid⟩

/-- What a group is stripped to is the group without owned handlers, or it is dropped. -/
theorem stripGroup_related (callbacks : OwnedCallbacks) (i : Fin 3) {group : Json} (laid : GroupLaidOut group) :
    (∃ kept, stripGroup (callbacks.callback i) group = some kept ∧
        GroupLess callbacks (callbacks.callback i).event kept group) ∨
      (stripGroup (callbacks.callback i) group = none ∧
        OwnGroup callbacks (callbacks.callback i).event group) := by
  obtain ⟨fields, members, rfl, hooks, -, ⟨gone, plain, occupied, own⟩ | kept⟩ :=
    stripGroup_cases (callbacks.callback i) laid
  · exact .inr ⟨gone, fields, members, rfl, plain, hooks, occupied, fun member mem =>
      ⟨i, rfl, own member mem⟩⟩
  · refine .inl ⟨_, kept, fields, members, _, rfl, hooks, ?_, rfl⟩
    refine Pruned.of_filter fun member _ gone => ⟨i, rfl, ?_⟩
    simpa using gone

/-- The event has groups if it is there at all, for every event of a callback. -/
def NoEmptyEvent (callbacks : OwnedCallbacks) (events : List (String × Json)) : Prop :=
  ∀ i, Fields.get (callbacks.callback i).event events ≠ some (.array [])

theorem kept_dropped (laid : Laid events) (tidy : NoEmptyEvent callbacks events) (event : String) :
    Kept (EventLess callbacks event) (OwnEvent callbacks event)
      (Fields.get event ((List.finRange 3).foldl (dropCallback callbacks) events))
      (Fields.get event events) := by
  obtain ⟨written, left⟩ := dropCallbacks_get callbacks laid event
  by_cases own : ∃ i, event = (callbacks.callback i).event
  · obtain ⟨i, rfl⟩ := own
    rw [written i rfl]
    have related := fun group mem => stripGroup_related callbacks i (laid.groups (callbacks.callback i).event group mem)
    rcases laid.get_eq (callbacks.callback i).event with ⟨missing, none_here⟩ | found
    · rw [if_pos (by rw [leftOf, none_here]; rfl), missing]
      exact .none
    · by_cases none_left : leftOf (callbacks.callback i) events = []
      · rw [if_pos none_left, found]
        refine .drop ⟨_, rfl, fun empty => ?_, fun group mem => ?_⟩
        · rw [empty] at found
          exact tidy i found
        · rcases related group mem with ⟨kept, here, -⟩ | ⟨-, own⟩
          · have inside : kept ∈ leftOf (callbacks.callback i) events :=
              List.mem_filterMap.mpr ⟨group, mem, here⟩
            rw [none_left] at inside
            cases inside
          · exact own
      · rw [if_neg none_left, found]
        exact .keep ⟨_, _, rfl, rfl, Pruned.of_filterMap related⟩
  · rw [left fun i here => own ⟨i, here⟩]
    exact kept_refl laid event

/-- The `hooks` object of a disconnected document. -/
theorem hooks_dropped (callbacks : OwnedCallbacks) {value : Json} (hooks : Fields.get "hooks" fields = some value) :
    Fields.get "hooks" (dropped callbacks fields) =
      if (List.finRange 3).foldl (dropCallback callbacks) (eventsOf fields) = [] then none
      else some (.object ((List.finRange 3).foldl (dropCallback callbacks) (eventsOf fields))) := by
  unfold dropped
  dsimp only
  split
  · rw [Fields.get_remove, if_pos rfl]
  · exact (eventsOf_modify hooks _).1

theorem dropped_other {key : String} (other : key ≠ "hooks") :
    Fields.get key (dropped callbacks fields) = Fields.get key fields := by
  unfold dropped
  dsimp only
  split
  · rw [Fields.get_remove, if_neg other]
  · rw [Fields.get_modify, if_neg other]

theorem Accepted.hooks_of_owned (accepted : Accepted callbacks fields presence)
    (some_owned : ∃ i, presence i = .exactOwned) :
    Fields.get "hooks" fields = some (.object (eventsOf fields)) ∧ eventsOf fields ≠ [] := by
  obtain ⟨i, present⟩ := some_owned
  have occupied : eventsOf fields ≠ [] := by
    intro empty
    have found := accepted.found i
    rw [empty] at found
    rcases found with ⟨-, absent⟩ | ⟨_, impossible, -⟩
    · rw [absent] at present
      cases present
    · cases impossible
  rcases accepted.shape with ⟨-, none_yet⟩ | hooks
  · exact absurd none_yet occupied
  · exact ⟨hooks, occupied⟩

/-- Dropping changes nothing else exactly when no event of a callback was empty before. -/
theorem onlyOwned_dropped_iff (accepted : Accepted callbacks fields presence)
    (some_owned : ∃ i, presence i = .exactOwned) :
    OnlyOwned callbacks (.object (dropped callbacks fields)) (.object fields) ↔
      NoEmptyEvent callbacks (eventsOf fields) := by
  obtain ⟨hooks, occupied⟩ := accepted.hooks_of_owned some_owned
  constructor
  · rintro ⟨kept, more, same, same', -, related⟩ i empty
    cases same
    cases same'
    -- Nothing is left of the empty event, and it was no callback's.
    have gone : Fields.get (callbacks.callback i).event
        ((List.finRange 3).foldl (dropCallback callbacks) (eventsOf fields)) = none := by
      rw [(dropCallbacks_get callbacks accepted.laid _).1 i rfl, if_pos]
      rw [leftOf, groupsAt, empty]
      rfl
    have not_own : ¬ OwnEvent callbacks (callbacks.callback i).event (.array []) := by
      rintro ⟨groups, same, occupied, -⟩
      cases same
      exact occupied rfl
    rw [hooks, hooks_dropped callbacks hooks] at related
    split at related
    · cases related with
      | drop own =>
          obtain ⟨events, same, -, each⟩ := own
          cases same
          have here := each (callbacks.callback i).event
          rw [empty] at here
          cases here with
          | drop own => exact not_own own
    · cases related with
      | keep less =>
          obtain ⟨kept, events, same, same', each⟩ := less
          cases same
          cases same'
          have here := each (callbacks.callback i).event
          rw [empty, gone] at here
          cases here with
          | drop own => exact not_own own
  · intro tidy
    refine ⟨_, fields, rfl, rfl, fun key other => dropped_other other, ?_⟩
    have each := kept_dropped accepted.laid tidy
    rw [hooks, hooks_dropped callbacks hooks]
    split
    · rename_i none_left
      refine .drop ⟨_, rfl, occupied, fun event => ?_⟩
      have here := each event
      rw [none_left, show Fields.get event ([] : List (String × Json)) = none from rfl] at here
      generalize Fields.get event (eventsOf fields) = value at here ⊢
      cases here with
      | none => exact .none
      | drop gone => exact .drop gone
    · exact .keep ⟨_, _, rfl, rfl, each⟩

end Change

/-! ## Connecting and disconnecting again -/

section RoundTrip

variable {callbacks : OwnedCallbacks} {fields : List (String × Json)}

theorem stripGroup_own (callback : OwnedCallback) :
    stripGroup callback (ownGroup callback) = none := by
  have kept : keptMembers callback [handler callback] = [] := by
    rw [keptMembers, List.filter_eq_nil_iff]
    intro member mem
    rw [List.mem_singleton.mp mem]
    simp
  rw [ownGroup, stripGroup, Fields.get, if_pos rfl]
  dsimp only
  rw [kept, if_pos ⟨by simp, rfl, rfl⟩]

/-- A group that has none of the callback's handlers is left as it is. -/
theorem stripGroup_foreign {callback : OwnedCallback} {event : String} {group : Json}
    (laid : GroupLaidOut group)
    (foreign : ∀ site ∈ groupSites event group, site.member ≠ handler callback) :
    stripGroup callback group = some group := by
  obtain ⟨fields, members, rfl, hooks, own⟩ := laid
  have kept : keptMembers callback members = members := by
    rw [keptMembers, List.filter_eq_self]
    intro member mem
    refine decide_eq_true (foreign ⟨event, Fields.get "matcher" fields, member⟩ ?_)
    rw [groupSites, hooks]
    exact List.mem_map.mpr ⟨member, mem, rfl⟩
  rw [stripGroup, hooks]
  dsimp only
  rw [kept, if_neg (fun emptied => emptied.1 rfl), Fields.modify_self hooks]

/-- The document has none of the callbacks. -/
abbrev Foreign (callbacks : OwnedCallbacks) (fields : List (String × Json)) : Prop :=
  Accepted callbacks fields fun _ => .absent

theorem Foreign.strip (foreign : Foreign callbacks fields) (i : Fin 3) :
    (groupsAt (callbacks.callback i).event (eventsOf fields)).filterMap
        (stripGroup (callbacks.callback i)) =
      groupsAt (callbacks.callback i).event (eventsOf fields) := by
  have each : ∀ group ∈ groupsAt (callbacks.callback i).event (eventsOf fields),
      stripGroup (callbacks.callback i) group = some group := by
    intro group mem
    apply stripGroup_foreign (foreign.laid.groups _ group mem)
    intro site inside same
    have before : site ∈ sites (eventsOf fields) :=
      ((foreign.laid.sites_perm (callbacks.callback i).event).mem_iff).mpr
        (List.mem_append_left _ (List.mem_flatMap.mpr ⟨group, mem, inside⟩))
    have named : site ∈ owned (callbacks.callback i) (sites (eventsOf fields)) := by
      refine List.mem_filter.mpr ⟨before, decide_eq_true ?_⟩
      rw [same]
      exact commandOf_handler _
    rcases foreign.found i with ⟨none_here, -⟩ | ⟨_, _, _, _, impossible⟩
    · rw [none_here] at named
      cases named
    · cases impossible
  rw [List.filterMap_congr each, List.filterMap_some]

/-- The events after adding all the callbacks and dropping them. -/
theorem Foreign.events (foreign : Foreign callbacks fields) (event : String) :
    (∀ i, event = (callbacks.callback i).event →
        Fields.get event ((List.finRange 3).foldl (dropCallback callbacks)
          ((List.finRange 3).foldl (addCallback callbacks fun _ => .absent) (eventsOf fields))) =
          if groupsAt event (eventsOf fields) = [] then none
          else some (.array (groupsAt event (eventsOf fields)))) ∧
      ((∀ i, event ≠ (callbacks.callback i).event) →
        Fields.get event ((List.finRange 3).foldl (dropCallback callbacks)
          ((List.finRange 3).foldl (addCallback callbacks fun _ => .absent) (eventsOf fields))) =
          Fields.get event (eventsOf fields)) := by
  have laid : Laid ((List.finRange 3).foldl (addCallback callbacks fun _ => .absent)
      (eventsOf fields)) := foldl_laid (fun _ i laid => addCallback_laid laid i) foreign.laid _
  obtain ⟨written, left⟩ := dropCallbacks_get callbacks laid event
  obtain ⟨written', left'⟩ := addCallbacks_get callbacks (fun _ => .absent) foreign.laid event
  constructor
  · rintro i rfl
    have groups : groupsAt (callbacks.callback i).event ((List.finRange 3).foldl
        (addCallback callbacks fun _ => .absent) (eventsOf fields)) =
        groupsAt (callbacks.callback i).event (eventsOf fields) ++ [ownGroup (callbacks.callback i)] := by
      rw [groupsAt, written' i rfl, if_pos rfl]
      rfl
    have kept : leftOf (callbacks.callback i) ((List.finRange 3).foldl
        (addCallback callbacks fun _ => .absent) (eventsOf fields)) =
        groupsAt (callbacks.callback i).event (eventsOf fields) := by
      rw [leftOf, groups, List.filterMap_append, foreign.strip i,
        List.filterMap_cons_none (stripGroup_own _), List.filterMap_nil, List.append_nil]
    rw [written i rfl, kept]
  · intro other
    rw [left other, left' other]

/-- They are what they were exactly when none was empty. -/
theorem Foreign.events_iff (foreign : Foreign callbacks fields) :
    (List.finRange 3).foldl (dropCallback callbacks)
        ((List.finRange 3).foldl (addCallback callbacks fun _ => .absent) (eventsOf fields)) =
      eventsOf fields ↔ NoEmptyEvent callbacks (eventsOf fields) := by
  constructor
  · intro same i empty
    have here := (foreign.events (callbacks.callback i).event).1 i rfl
    rw [same, empty, groupsAt, empty] at here
    cases here
  · intro tidy
    have added : Laid ((List.finRange 3).foldl (addCallback callbacks fun _ => .absent)
        (eventsOf fields)) := foldl_laid (fun _ i laid => addCallback_laid laid i) foreign.laid _
    have laid : Laid ((List.finRange 3).foldl (dropCallback callbacks)
        ((List.finRange 3).foldl (addCallback callbacks fun _ => .absent) (eventsOf fields))) :=
      foldl_laid (fun _ i laid => dropCallback_laid laid i) added _
    apply Fields.ext laid.ascending foreign.laid.ascending
    intro event
    obtain ⟨written, left⟩ := foreign.events event
    by_cases own : ∃ i, event = (callbacks.callback i).event
    · obtain ⟨i, rfl⟩ := own
      rw [written i rfl]
      rcases foreign.laid.get_eq (callbacks.callback i).event with ⟨missing, none_here⟩ | found
      · rw [missing, none_here, if_pos rfl]
      · rw [found, if_neg]
        intro empty
        rw [empty] at found
        exact tidy i found
    · exact left fun i here => own ⟨i, here⟩

/-- A `hooks` object has events, and none of them that is a callback's is empty. -/
def Tidy (callbacks : OwnedCallbacks) (document : Json) : Prop :=
  ∀ fields events, document = .object fields → Fields.get "hooks" fields = some (.object events) →
    events ≠ [] ∧ NoEmptyEvent callbacks events

theorem Foreign.roundTrip_iff (foreign : Foreign callbacks fields)
    (ascending : Fields.Ascending fields) :
    dropped callbacks (added callbacks (fun _ => .absent) fields) = fields ↔
      Tidy callbacks (.object fields) := by
  have hooks_added := foreign.hooks_added ascending
  have events_added : eventsOf (added callbacks (fun _ => .absent) fields) =
      (List.finRange 3).foldl (addCallback callbacks fun _ => .absent) (eventsOf fields) := by
    rw [eventsOf, hooks_added]
  have hooks_after := hooks_dropped callbacks hooks_added
  rw [events_added] at hooks_after
  constructor
  · rintro same fields' events ⟨⟩ hooks
    rw [same, hooks] at hooks_after
    have here : eventsOf fields = events := by rw [eventsOf, hooks]
    split at hooks_after
    · cases hooks_after
    · rename_i some_left
      have events_same := Json.object.inj (Option.some.inj hooks_after)
      rw [← events_same] at some_left
      refine ⟨some_left, ?_⟩
      rw [← here]
      exact foreign.events_iff.mp (here.trans events_same).symm
  · intro tidy
    have no_empty : NoEmptyEvent callbacks (eventsOf fields) := by
      rcases foreign.shape with ⟨-, none_yet⟩ | hooks
      · intro i
        rw [none_yet]
        simp [Fields.get]
      · exact (tidy fields _ rfl hooks).2
    rw [foreign.events_iff.mpr no_empty] at hooks_after
    have ascending_after : Fields.Ascending (dropped callbacks (added callbacks (fun _ => .absent) fields)) := by
      unfold dropped
      dsimp only
      split
      · exact Fields.ascending_remove (Fields.ascending_upsert ascending)
      · exact Fields.ascending_modify (Fields.ascending_upsert ascending)
    apply Fields.ext ascending_after ascending
    intro key
    by_cases at_hooks : key = "hooks"
    · subst at_hooks
      rw [hooks_after]
      rcases foreign.shape with ⟨missing, none_yet⟩ | hooks
      · rw [if_pos none_yet, missing]
      · rw [if_neg (tidy fields _ rfl hooks).1, hooks]
    · rw [dropped_other at_hooks, added, Fields.get_upsert ascending, if_neg at_hooks]

end RoundTrip

/-- What connecting and disconnecting promise of a document. -/
structure Undone (callbacks : OwnedCallbacks) (document : Json) : Prop where
  /-- Connected and disconnected, a document without the callbacks is what it was. -/
  roundTrip : observe callbacks document = .ok (fun _ => .absent) →
    ∃ connected, connect callbacks document true = .ok connected ∧
      connect callbacks connected false = .ok document
  idempotent : ∀ enabled once, connect callbacks document enabled = .ok once →
    connect callbacks once enabled = .ok once
  /-- Nothing changes but owned handlers and the containers that only they occupy. -/
  connects : ∀ connected, connect callbacks document true = .ok connected →
    OnlyOwned callbacks document connected
  disconnects : ∀ disconnected, connect callbacks document false = .ok disconnected →
    OnlyOwned callbacks disconnected document

/-- A refused document has no delta; an accepted one keeps the promises exactly when it has
neither an empty `hooks` object nor an empty event of a callback. -/
theorem undone_iff (callbacks : OwnedCallbacks) (document : Json) :
    (∀ e, observe callbacks document = .error e →
      ∀ enabled, connect callbacks document enabled = .error e) ∧
    ∀ presence, document.Ordered → observe callbacks document = .ok presence →
      (Undone callbacks document ↔ Tidy callbacks document) := by
  refine ⟨fun e refused enabled => connect_refused refused enabled, ?_⟩
  intro presence ordered ok
  cases document with
  | object fields =>
      have accepted := accepted_of_observe ordered ok
      have ascending : Fields.Ascending fields := by
        cases ordered with
        | object ascending _ => exact ascending
      constructor
      · intro undone
        by_cases some_owned : ∃ i, presence i = .exactOwned
        · rintro fields' events ⟨⟩ hooks
          have here : eventsOf fields = events := by rw [eventsOf, hooks]
          have only := undone.disconnects _ (disconnect_some accepted some_owned)
          rw [onlyOwned_dropped_iff accepted some_owned] at only
          rw [← here]
          exact ⟨(accepted.hooks_of_owned some_owned).2, only⟩
        · have absent : presence = fun _ => .absent := by
            funext i
            cases here : presence i with
            | absent => rfl
            | exactOwned => exact absurd ⟨i, here⟩ some_owned
          subst absent
          obtain ⟨connected, first, second⟩ := undone.roundTrip ok
          have missing : ¬ ∀ i : Fin 3, (fun _ => CallbackPresence.absent) i = .exactOwned :=
            fun all => nomatch all 0
          rw [connect_some accepted missing] at first
          cases first
          rw [disconnect_some (accepted.added ascending) ⟨0, rfl⟩] at second
          exact (Foreign.roundTrip_iff accepted ascending).mp (Json.object.inj (Except.ok.inj second))
      · intro tidy
        constructor
        · intro absent
          have foreign := accepted_of_observe ordered absent
          have missing : ¬ ∀ i : Fin 3, (fun _ => CallbackPresence.absent) i = .exactOwned :=
            fun all => nomatch all 0
          refine ⟨_, connect_some foreign missing, ?_⟩
          rw [disconnect_some (foreign.added ascending) ⟨0, rfl⟩,
            (Foreign.roundTrip_iff foreign ascending).mpr tidy]
        · exact fun enabled once ok => connect_idempotent accepted ascending enabled ok
        · intro connected ok
          by_cases all : ∀ i, presence i = .exactOwned
          · rw [connect_all accepted all] at ok
            cases ok
            exact onlyOwned_refl accepted
          · rw [connect_some accepted all] at ok
            cases ok
            exact onlyOwned_added accepted ascending all
        · intro disconnected ok
          by_cases some_owned : ∃ i, presence i = .exactOwned
          · rw [disconnect_some accepted some_owned] at ok
            cases ok
            obtain ⟨hooks, -⟩ := accepted.hooks_of_owned some_owned
            exact (onlyOwned_dropped_iff accepted some_owned).mpr (tidy fields _ rfl hooks).2
          · rw [disconnect_none accepted some_owned] at ok
            cases ok
            exact onlyOwned_refl accepted
  | _ => cases ok

/-- The host's callbacks. -/
def hostCallbacks : OwnedCallbacks where
  callback
    | 0 => ⟨"UserPromptSubmit", "libra adapter-hook --slot prompt_submit"⟩
    | 1 => ⟨"PostToolUse", "libra adapter-hook --slot tool_completed"⟩
    | 2 => ⟨"Stop", "libra adapter-hook --slot turn_completed"⟩
  event_inj := by decide
  command_inj := by decide

/-- Settings with an event that has no groups. -/
def emptyStop : Json := .object [("hooks", .object [("Stop", .array [])])]

/-- They are accepted, and lose their `hooks` object. -/
theorem empty_stop_is_dropped :
    observe hostCallbacks emptyStop = .ok (fun _ => .absent) ∧
      ((connect hostCallbacks emptyStop true).bind fun connected =>
        connect hostCallbacks connected false) = .ok (.object []) ∧
      emptyStop ≠ .object [] := by
  refine ⟨rfl, by decide +kernel, by decide⟩

/-- Settings with a group of another product. -/
def foreignStop : Json :=
  .object [("hooks", .object [("Stop", .array [.object [("hooks", .array [.object
    [("command", .string "other-product"), ("type", .string "command")]])]])])]

theorem foreign_stop_undone :
    Undone hostCallbacks foreignStop ↔ Tidy hostCallbacks foreignStop := by
  refine (undone_iff hostCallbacks foreignStop).2 (fun _ => .absent) ?_ rfl
  have handler : Json.Ordered (.object
      [("command", .string "other-product"), ("type", .string "command")]) :=
    .object (by decide) (by simp [Json.Ordered.string])
  have members : Json.Ordered (.array [.object
      [("command", .string "other-product"), ("type", .string "command")]]) :=
    .array (by simpa using handler)
  have group : Json.Ordered (.object [("hooks", .array [.object
      [("command", .string "other-product"), ("type", .string "command")]])]) :=
    .object (by decide) (by simpa using members)
  have groups : Json.Ordered (.array [.object [("hooks", .array [.object
      [("command", .string "other-product"), ("type", .string "command")]])]]) :=
    .array (by simpa using group)
  have events : Json.Ordered (.object [("Stop", .array [.object [("hooks", .array [.object
      [("command", .string "other-product"), ("type", .string "command")]])]])]) :=
    .object (by decide) (by simpa using groups)
  exact .object (by decide) (by simpa using events)

end ConfigSettings

end LibraGovernor
