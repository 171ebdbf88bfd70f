import Beale.Library.PosixShell

/-!
# Commands on a remote machine

`remoteShellCommand` quotes a working directory and an argument vector into a script, and the script into a command
line for `ssh`.

- `remoteRun_iff`: it changes to that directory and executes that vector, unless the directory is taken for an option of
  `cd`.
-/

namespace Beale.Shell

open Beale.Library

/-- The script that is passed to `sh -lc`. -/
def remoteScript (utility : JsString) (args : List JsString) (cwd : JsString) : JsString :=
  js "cd " ++ singleQuote cwd ++ js " && " ++ joinWith (js " ") ((utility :: args).map singleQuote)

/-- The command line, where the platform is not `win32`. -/
def remoteShellCommand (utility : JsString) (args : List JsString) (cwd : JsString) : JsString :=
  js "sh -lc " ++ singleQuote (remoteScript utility args cwd)

/-- The directory of `resolveRemoteInvocation`: a blank one or one with a NUL is rejected. -/
def resolveCwd (rawCwd : Option JsString) (defaultCwd : JsString) : Option JsString :=
  match rawCwd with
  | none => some defaultCwd
  | some cwd => if isBlank cwd || cwd.contains 0 then none else some cwd

/-! ## What the shell does -/

/-- What `cd` changes to. -/
inductive CdTarget where
  | directory (path : JsString)
  /-- `$OLDPWD` -/
  | previous
  /-- `$HOME` -/
  | home
  | invalid
deriving DecidableEq

def cdOperands : List JsString → CdTarget
  | [] => .home
  | [path] => if path = [] then .invalid else if path = js "-" then .previous else .directory path
  | _ :: _ :: _ => .invalid

/-- The arguments of `cd`: options up to `--` or the first operand; `-` is an operand. -/
def cdTarget : List JsString → CdTarget
  | [] => .home
  | (45 :: flag :: flags) :: args =>
    if flag :: flags = js "-" then cdOperands args
    else if (flag :: flags).all (js "LP").contains then cdTarget args
    else .invalid
  | args => cdOperands args

/-- The command string of `sh -lc`. -/
def shScript : List (List JsString) → Option JsString
  | [[utility, flags, script]] => if utility = js "sh" ∧ flags = js "-lc" then some script else none
  | _ => none

/-- The directory and the vector of the script. -/
def runScript : List (List JsString) → Option (CdTarget × List JsString)
  | [cd :: operands, argv] => if cd = js "cd" then some (cdTarget operands, argv) else none
  | _ => none

/-- Where a command line executes which vector. -/
def remoteRun (line : JsString) : Option (CdTarget × List JsString) :=
  ((shellCommands line).bind shScript).bind fun script => (shellCommands script).bind runScript

/-! ## Both levels -/

section

variable (utility : JsString) (args : List JsString) (cwd : JsString)
include utility args cwd

theorem shellCommands_remoteShellCommand :
    shellCommands (remoteShellCommand utility args cwd) = some [[js "sh", js "-lc", remoteScript utility args cwd]] := by
  have hstart : ∀ tail : JsString, lexWords .plain none (js "sh -lc " ++ tail) =
      ((lexWords .plain none tail).map (.word (js "-lc") false :: ·)).map (.word (js "sh") false :: ·) := fun tail => rfl
  have hscript := lexWords_singleQuote (remoteScript utility args cwd) []
  rw [List.append_nil] at hscript
  rw [shellCommands, remoteShellCommand, hstart, hscript]
  rfl

theorem shellCommands_remoteScript :
    shellCommands (remoteScript utility args cwd) = some [[js "cd", cwd], utility :: args] := by
  have hstart : ∀ tail : JsString, lexWords .plain none (js "cd " ++ tail) =
      (lexWords .plain none tail).map (.word (js "cd") false :: ·) := fun tail => rfl
  have hand : ∀ tail : JsString, lexWords .plain (some (cwd, true)) (js " && " ++ tail) =
      (((lexWords .plain none tail).map fun tokens => ShellToken.andIf :: tokens).map (.word cwd true :: ·)) := by
    intro tail
    cases htail : lexWords .plain none tail with
    | none =>
      have hnext : lexWords .plain none (js " " ++ tail) = none := by
        show (lexWords .plain none tail).map _ = none
        rw [htail, Option.map_none]
      show ((lexWords .plain none (js " " ++ tail)).map _).map _ = none
      rw [hnext]
      rfl
    | some tokens =>
      have hnext : lexWords .plain none (js " " ++ tail) = some tokens := by
        show (lexWords .plain none tail).map _ = some tokens
        rw [htail]
        rfl
      show ((lexWords .plain none (js " " ++ tail)).map _).map _ = some _
      rw [hnext]
      rfl
  rw [shellCommands, remoteScript, List.append_assoc, List.append_assoc, hstart, lexWords_singleQuote, hand, lexWords_join]
  have hcd : andList [] (.word (js "cd") false :: .word cwd true :: .andIf :: (utility :: args).map (.word · true)) =
      (andList [] ((utility :: args).map (.word · true))).map ([js "cd", cwd] :: ·) := rfl
  rw [Option.map_some, Option.map_some, Option.map_some, Option.bind_some, hcd, andList_quoted, Option.map_some]

theorem remoteRun_remoteShellCommand :
    remoteRun (remoteShellCommand utility args cwd) = some (cdTarget [cwd], utility :: args) := by
  rw [remoteRun, shellCommands_remoteShellCommand, Option.bind_some]
  have hscript : shScript [[js "sh", js "-lc", remoteScript utility args cwd]] = some (remoteScript utility args cwd) := by
    rw [shScript, if_pos ⟨rfl, rfl⟩]
  rw [hscript, Option.bind_some, shellCommands_remoteScript, Option.bind_some, runScript, if_pos rfl]

end

/-- An operand of `cd` is a directory, and not an option, if it is not empty and starts with no hyphen. -/
theorem cdTarget_iff (cwd : JsString) : cdTarget [cwd] = .directory cwd ↔ cwd ≠ [] ∧ cwd.head? ≠ some 45 := by
  match cwd with
  | [] => exact ⟨nofun, fun h => absurd rfl h.1⟩
  | [u] =>
    have hoperand : cdTarget [[u]] = cdOperands [[u]] := by simp [cdTarget]
    rw [hoperand, cdOperands, if_neg (List.cons_ne_nil _ _)]
    split
    · next hhyphen =>
      refine ⟨nofun, fun h => absurd ?_ h.2⟩
      rw [hhyphen]
      rfl
    · next hplain =>
      refine ⟨fun _ => ⟨List.cons_ne_nil _ _, fun hhead => hplain ?_⟩, fun _ => rfl⟩
      rw [List.head?_cons, Option.some.injEq] at hhead
      rw [hhead]
      rfl
  | u :: v :: rest =>
    by_cases hhyphen : u = 45
    · subst hhyphen
      refine ⟨fun h => ?_, fun h => absurd rfl h.2⟩
      rw [cdTarget] at h
      split at h
      · cases h
      · split at h <;> cases h
    · have hoperand : cdTarget [u :: v :: rest] = cdOperands [u :: v :: rest] := by
        rw [cdTarget]
        · nofun
        · intro flag flags args heq
          exact hhyphen (by simpa using congrArg (fun l => l.head?.bind List.head?) heq)
      rw [hoperand, cdOperands, if_neg (List.cons_ne_nil _ _), if_neg (by rintro heq; cases heq)]
      exact ⟨fun _ => ⟨List.cons_ne_nil _ _, fun hhead => hhyphen (Option.some.inj hhead)⟩, fun _ => rfl⟩

theorem remoteRun_iff (utility : JsString) (args : List JsString) (cwd : JsString) :
    remoteRun (remoteShellCommand utility args cwd) = some (.directory cwd, utility :: args) ↔
      cwd ≠ [] ∧ cwd.head? ≠ some 45 := by
  rw [remoteRun_remoteShellCommand, ← cdTarget_iff, Option.some.injEq, Prod.mk.injEq]
  exact ⟨And.left, fun h => ⟨h, rfl⟩⟩

/-- A directory that is taken for an option, or for `$OLDPWD`. -/
theorem remoteRun_hyphen :
    resolveCwd (some (js "-P")) (js "/root") = some (js "-P") ∧
      remoteRun (remoteShellCommand (js "ls") [] (js "-P")) = some (.home, [js "ls"]) ∧
        remoteRun (remoteShellCommand (js "ls") [] (js "-")) = some (.previous, [js "ls"]) := by
  decide +kernel

end Beale.Shell
