/-
# LibraGovernor.Cli.HookCommand -- whose hook command it is

A command is Libra's when it is a path token and one of the documented invocations, and the
last component of the path is `libra-governor`.  The token is one unquoted word, or wrapped
whole in one pair of quotes; the legacy form also takes what older installers pasted
unquoted.  A text is its characters here, as the tests below read it.

The command an installer writes for a plain binary is Libra's (`ours_of_plain`).
-/
import LibraGovernor.Domain.Period
import Mathlib.Data.List.DropRight

namespace LibraGovernor

set_option autoImplicit false

/-! ## Characters and paths -/

/-- The control characters `char::is_control` tests. -/
def isControl (c : Char) : Bool :=
  c.toNat < 0x20 || (0x7F ≤ c.toNat && c.toNat ≤ 0x9F)

/-- The components of a path; an empty one and `.` are none. -/
def pathComponents (path : List Char) : List (List Char) :=
  (path.splitOn '/').filter fun part => !part.isEmpty && part ≠ ['.']

/-- `Path::file_name`. -/
def fileName (path : List Char) : Option (List Char) :=
  ((pathComponents path).getLast?).filter fun name => name ≠ ['.', '.']

/-- `Path::parent` of an absolute path. -/
def parentDir (path : List Char) : Option (List Char) :=
  let trim := List.rdropWhile fun part : List Char => part.isEmpty || part = ['.']
  match trim (path.splitOn '/') with
  | [] => none
  | parts =>
      match trim parts.dropLast with
      | [] => some ['/']
      | parts => some (['/'].intercalate parts)

def stripSuffix (s suffix : List Char) : Option (List Char) :=
  if suffix.isSuffixOf s then some (s.take (s.length - suffix.length)) else none

/-- Whether the text would be split or interpreted by a shell. -/
def hasShellUnsafeChar (text : List Char) : Bool :=
  text.any fun c => isWhitespace c || isControl c ||
    "\"'\\$`;&|<>()*?[]\x7b\x7d!#^".toList.contains c

/-! ## Ownership -/

def isPlainToken (binary : List Char) : Bool :=
  !binary.isEmpty && !hasShellUnsafeChar binary && !(['~'].isPrefixOf binary)

/-- The text inside one pair of the quote. -/
def unwrapped (quote : Char) (binary : List Char) : Option (List Char) :=
  match binary with
  | [] => none
  | c :: rest => if c = quote ∧ rest.getLast? = some quote then some rest.dropLast else none

def singleQuote : Char := Char.ofNat 0x27

def doubleQuote : Char := Char.ofNat 0x22

/-- The path inside one pair of matching quotes around the whole binary part. -/
def unquote (binary : List Char) : Option (List Char) :=
  ((unwrapped singleQuote binary).or (unwrapped doubleQuote binary)).filter fun inner =>
    !inner.contains singleQuote && !inner.contains doubleQuote

/-- Whether a shell passes the quoted binary to the program as one word. -/
def isHandQuotedAndRunnable (binary : List Char) : Bool :=
  match unquote binary with
  | none => false
  | some inner =>
      if [singleQuote].isPrefixOf binary then !inner.isEmpty
      else !inner.isEmpty && !inner.any fun c => "$`\\".toList.contains c

def LAUNCHER_BASENAMES : List String :=
  ["env", "sudo", "doas", "su", "runuser", "nice", "ionice", "nohup", "time", "timeout", "stdbuf",
    "xargs", "exec", "command", "builtin", "eval", "setsid", "caffeinate", "arch", "taskpolicy", "sh",
    "bash", "zsh", "dash", "ksh", "fish", "watch", "strace", "ltrace", "chroot", "flock", "nsenter",
    "parallel", "unbuffer", "script", "firejail", "sandbox-exec", "systemd-run", "open", "osascript"]

def SYSTEM_BIN_DIRS : List String :=
  ["/usr/bin", "/bin", "/usr/sbin", "/sbin", "/usr/local/bin", "/opt/homebrew/bin"]

def isLegacyUnquotedPath (binary : List Char) : Bool :=
  if !(['/'].isPrefixOf binary) || binary.any fun c => isControl c || ";&|<>$`".toList.contains c then
    false
  else
    let words := binary.splitOn ' '
    let first := words.headD []
    let launcher := (fileName first).any fun n => (LAUNCHER_BASENAMES.map String.toList).contains n
    let systemDir := (parentDir first).any fun d => (SYSTEM_BIN_DIRS.map String.toList).contains d
    !launcher && !systemDir &&
      !(words.any fun word => word.contains '=' || ['-'].isPrefixOf word) &&
      !(words.tail.any fun word =>
        ['/'].isPrefixOf word || ['~'].isPrefixOf word || ['.'].isPrefixOf word)

/-- The path token of a binary part, when it is one. -/
def pathToken (binary : List Char) (allowLegacyUnquotedSpace : Bool) : Option (List Char) :=
  match unquote binary with
  | some inner =>
      if !isHandQuotedAndRunnable binary || inner.contains '\n' || inner.contains '\t' then none
      else some inner
  | none =>
      if isPlainToken binary || (allowLegacyUnquotedSpace && isLegacyUnquotedPath binary) then
        some binary
      else none

def isBlankOrTab (c : Char) : Bool := c = ' ' || c = '\t'

/-- The one rule the Claude and the Codex installers share. -/
def commandIsOursWithSuffix (command suffix : List Char) (allowLegacyUnquotedSpace : Bool) : Bool :=
  match stripSuffix command suffix with
  | none => false
  | some before =>
  if !(before.getLast?.any isBlankOrTab) then false
  else
  match pathToken (before.rdropWhile isBlankOrTab) allowLegacyUnquotedSpace with
  | none => false
  | some path =>
      (path.contains '/' || allowLegacyUnquotedSpace) && path.getLast? ≠ some '/' &&
        fileName path = some "libra-governor".toList

/-- A plain absolute path whose last component is `libra-governor`: what the installers write
hooks for.  A path that ends in `/` has nothing after its last separator. -/
structure PlainBinary (binary : String) : Prop where
  absolute : ['/'].isPrefixOf binary.toList = true
  safe : hasShellUnsafeChar binary.toList = false
  name : fileName binary.toList = some "libra-governor".toList
  noTrailingSlash : binary.toList.getLast? ≠ some '/'

/-- The command of an invocation. -/
def hookCommand (binary subcommand : String) : String := binary ++ " " ++ subcommand

theorem stripSuffix_append (s suffix : List Char) : stripSuffix (s ++ suffix) suffix = some s := by
  have is_suffix : suffix.isSuffixOf (s ++ suffix) = true := by
    rw [List.isSuffixOf_iff_suffix]
    exact List.suffix_append s suffix
  rw [stripSuffix, if_pos is_suffix]
  simp

/-- What is written for a plain binary is Libra's, in the strict form and in the legacy one. -/
theorem ours_of_plain {binary : String} (plain : PlainBinary binary) (subcommand : String)
    (allow : Bool) :
    commandIsOursWithSuffix (hookCommand binary subcommand).toList subcommand.toList allow = true := by
  have text : (hookCommand binary subcommand).toList =
      (binary.toList ++ [' ']) ++ subcommand.toList := by
    simp [hookCommand, String.toList_append]
  obtain ⟨absolute, safe, name, noTrailing⟩ := plain
  generalize binary.toList = path at *
  obtain ⟨rest, rfl⟩ : ∃ rest, path = '/' :: rest := by
    cases path with
    | nil => cases absolute
    | cons c rest =>
        refine ⟨rest, ?_⟩
        have same : '/' = c := by simpa [List.isPrefixOf] using absolute
        rw [same]
  have unblank : ∀ c ∈ '/' :: rest, isBlankOrTab c = false := by
    intro c mem
    have fine := List.any_eq_false.mp safe c mem
    by_contra blank
    simp only [isBlankOrTab, Bool.not_eq_false, Bool.or_eq_true, decide_eq_true_eq] at blank
    rcases blank with rfl | rfl
    · exact fine (by decide)
    · exact fine (by decide)
  have trimmed : List.rdropWhile isBlankOrTab ('/' :: rest ++ [' ']) = '/' :: rest := by
    rw [List.rdropWhile_concat_pos _ _ _ (by decide), List.rdropWhile_eq_self_iff]
    intro nonempty
    simpa using unblank _ (List.getLast_mem nonempty)
  have unquoted : unquote ('/' :: rest) = none := by
    have apart : ¬ '/' = singleQuote ∧ ¬ '/' = doubleQuote := by decide
    simp [unquote, unwrapped, apart.1, apart.2]
  have token : pathToken ('/' :: rest) allow = some ('/' :: rest) := by
    have plain : isPlainToken ('/' :: rest) = true := by
      simp [isPlainToken, safe, List.isPrefixOf]
    simp [pathToken, unquoted, plain]
  unfold commandIsOursWithSuffix
  rw [text, stripSuffix_append]
  have blank : ('/' :: rest ++ [' ']).getLast?.any isBlankOrTab = true := by
    rw [List.getLast?_concat]
    rfl
  simp only [trimmed, token, blank]
  simp [noTrailing, name]

end LibraGovernor
