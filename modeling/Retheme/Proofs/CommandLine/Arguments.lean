import Mathlib.Tactic.Common
import Retheme.CommandLine.Arguments

/-!
# One more option at the end of a command line

Arguments that ask for a build ask for the same build into a directory when the
option of the output directory is put behind them, unless two hyphens are among
them, behind which nothing is an option.
-/

namespace Retheme.CommandLine

variable {arguments : List Text} {directory : Text} {options : BuildOptions} {progress : Progress}
  {run tokens : List Token} {rejected : Bool}

def outputArgument (directory : Text) : Text := "--output-dir=" ++ directory

def BuildOptions.into (options : BuildOptions) (directory : Text) : BuildOptions :=
  { options with outputDir := some directory }

-- ---------------------------------------------------------------------------
-- Tokens
-- ---------------------------------------------------------------------------

theorem classify_outputArgument (directory : Text) :
    classify buildSwitches (outputArgument directory) = .switch .outputDir (some directory) := rfl

theorem tokens_concat (switches : List (Text × Switch)) (h : ['-', '-'] ∉ arguments)
    {last : Text} (hl : last ≠ ['-', '-']) :
    CommandLine.tokens switches (arguments ++ [last]) =
      CommandLine.tokens switches arguments ++ [classify switches last] := by
  induction arguments with
  | nil => simp [CommandLine.tokens, hl]
  | cons argument arguments ih =>
    obtain ⟨ha, h⟩ := List.ne_and_not_mem_of_not_mem_cons h
    simp only [List.cons_append, CommandLine.tokens, if_neg ha.symm, ih h]

-- ---------------------------------------------------------------------------
-- Requests
-- ---------------------------------------------------------------------------

theorem Progress.request_into (h : progress.request = .build options) :
    { progress with outputDir := some directory : Progress }.request =
      .build (options.into directory) := by
  rw [Progress.request] at h ⊢
  cases hp : progress.positionals with
  | none => simp [hp] at h
  | some found =>
    cases hr : progress.rejected with
    | true => simp [hp, hr] at h
    | false =>
      simp only [hp, hr, Bool.false_eq_true, if_false, Request.build.injEq] at h ⊢
      subst h
      rfl

theorem Progress.assign?_outputDir (hd : directory ≠ ['-', '-']) (progress : Progress) :
    progress.assign? .outputDir directory = some { progress with outputDir := some directory } := by
  rw [Progress.assign?, if_neg hd]

/-- The option is read after everything else, and changes nothing else. -/
theorem Progress.read_concat (hd : directory ≠ ['-', '-'])
    (h : Progress.read progress run tokens = .build options) :
    Progress.read progress run (tokens ++ [.switch .outputDir (some directory)]) =
      .build (options.into directory) := by
  fun_induction Progress.read progress run tokens with
  | case1 progress run =>
    rw [List.nil_append, Progress.read, if_neg (by simp [isPositional])]
    simp only [assign?_outputDir hd]
    rw [Progress.read]
    exact request_into h
  | case2 progress run token rest hp ih =>
    rw [List.cons_append, Progress.read, if_pos hp]
    exact ih h
  | case4 progress run before switch value rest after ha hp ih =>
    rw [List.cons_append, Progress.read, if_neg hp]
    simp only [before] at ha
    simp only [ha]
    exact ih h
  | case6 progress run before switch value rest hs after ha hp ih =>
    rw [List.cons_append, List.cons_append, Progress.read, if_neg hp]
    simp only [before] at ha
    cases switch with
    | help => exact absurd rfl hs
    | _ =>
      simp only [ha]
      exact ih h
  | case8 progress run before rest hp ih =>
    rw [List.cons_append, Progress.read, if_neg hp]
    exact ih h
  | case3 | case5 | case7 | case9 => cases h

theorem readBuild_concat (hs : ['-', '-'] ∉ arguments) (hd : directory ≠ ['-', '-'])
    (h : readBuild arguments = .build options) :
    readBuild (arguments ++ [outputArgument directory]) = .build (options.into directory) := by
  have ho : outputArgument directory ≠ ['-', '-'] := by
    rintro ⟨⟩
  have ht := tokens_concat buildSwitches hs ho
  rw [classify_outputArgument] at ht
  rw [readBuild] at h ⊢
  rw [ht]
  cases ha : (CommandLine.tokens buildSwitches arguments).contains .ambiguous with
  | true =>
    rw [ha, if_pos rfl] at h
    cases h
  | false =>
    rw [ha, if_neg Bool.false_ne_true] at h
    rw [List.contains_append, ha, if_neg (by simp)]
    exact Progress.read_concat hd h

theorem read_concat (hs : ['-', '-'] ∉ arguments) (hd : directory ≠ ['-', '-'])
    (h : read rejected arguments = .build options) :
    read rejected (arguments ++ [outputArgument directory]) = .build (options.into directory) := by
  induction arguments generalizing rejected with
  | nil => cases h
  | cons argument arguments ih =>
    obtain ⟨ha, hs⟩ := List.ne_and_not_mem_of_not_mem_cons hs
    rw [List.cons_append]
    rw [read.eq_def] at h ⊢
    simp only [if_neg ha.symm] at h ⊢
    split at h
    · split at h
      · cases h
      · next hb =>
        rw [if_neg hb]
        split at h
        · next found hf =>
          rw [readBuild_concat hs hd hf]
          cases rejected with
          | true => cases h
          | false =>
            cases h
            rfl
        · next hf => exact absurd h (hf options)
    · cases h
    · exact ih hs h
    · cases h

end Retheme.CommandLine
