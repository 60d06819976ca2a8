import CallWire.Proofs.ProgramSettings

/-!
This module contains where the largest size of frames comes from when settings are loaded, and when
it is within the limits. A size from the environment is brought within them; one from a file is not.
-/

namespace CallWire

def IsFrameLimit (n : Nat) : Prop := minFrameSizeLimit ≤ n ∧ n ≤ maxFrameSizeLimit

theorem isFrameLimit_clampFrameSize (n : Nat) : IsFrameLimit (clampFrameSize n) := by
  unfold IsFrameLimit clampFrameSize minFrameSizeLimit maxFrameSizeLimit
  omega

theorem isFrameLimit_default : IsFrameLimit ({} : Settings).maxFrameSize := by
  unfold IsFrameLimit minFrameSizeLimit maxFrameSizeLimit
  decide

def Environment.frameSize? (env : Environment) : Option Nat :=
  (env.text? "SURREALRPC_MAX_FRAME_SIZE").bind word?

namespace Settings

variable {env : Environment} {files : FileTree} {s : Settings}

/-- Where a size of frames comes from: each source has a say if those before it say nothing. -/
inductive FrameSizeFrom (env : Environment) (files : FileTree) : Nat → Prop where
  | environment {n : Nat} (henv : env.frameSize? = some n)
      : FrameSizeFrom env files (clampFrameSize n)
  | file {path : Path} {m : Mentions} {n : Nat} (henv : env.frameSize? = none)
      (hpath : env.configPath? = some path) (hfile : Mentions.ofFile files path = .ok m)
      (hsize : m.maxFrameSize = some n)
      : FrameSizeFrom env files n
  | default (henv : env.frameSize? = none)
      (hfile : ∀ path m, env.configPath? = some path → Mentions.ofFile files path = .ok m →
        m.maxFrameSize = none)
      : FrameSizeFrom env files ({} : Settings).maxFrameSize

theorem maxFrameSize_override (s : Settings) (env : Environment)
    : (s.override env.mentions).maxFrameSize
        =
      match env.frameSize? with
      | some n => clampFrameSize n
      | none => s.maxFrameSize := by
  unfold override Environment.mentions Environment.frameSize?
  dsimp only
  cases (env.text? "SURREALRPC_MAX_FRAME_SIZE").bind Environment.word? <;> rfl

theorem frameSizeFrom_of_load (h : load env files = .ok s)
    : FrameSizeFrom env files s.maxFrameSize := by
  cases henv : env.frameSize? with
  | some n =>
    obtain ⟨base, rfl⟩ := Program.exists_override_of_load h
    rw [maxFrameSize_override, henv]
    exact .environment henv
  | none =>
    rcases load_cases h with ⟨hpath, rfl⟩ | ⟨path, m, hpath, hfile, rfl⟩
    . rw [maxFrameSize_override, henv]
      apply FrameSizeFrom.default henv
      intro path m hpath'
      rw [hpath] at hpath'
      cases hpath'
    . rw [maxFrameSize_override, henv]
      cases hsize : m.maxFrameSize with
      | some n =>
        have hsame : (override {} m).maxFrameSize = n := by
          unfold override
          rw [hsize]
          rfl
        dsimp only
        rw [hsame]
        exact .file henv hpath hfile hsize
      | none =>
        have hsame : (override {} m).maxFrameSize = ({} : Settings).maxFrameSize := by
          unfold override
          rw [hsize]
          rfl
        dsimp only
        rw [hsame]
        apply FrameSizeFrom.default henv
        intro path' m' hpath' hfile'
        rw [hpath] at hpath'
        cases hpath'
        rw [hfile] at hfile'
        cases hfile'
        exact hsize

/--
The largest size of frames in settings that are loaded is that of the environment, brought within
the limits, or else that of the file as it stands there, or else the default. So it is within the
limits unless the environment says nothing and the file tells a size that is not.
-/
theorem loaded_frame_size (env : Environment) (files : FileTree) (s : Settings)
    (h : load env files = .ok s)
    : FrameSizeFrom env files s.maxFrameSize
      ∧ (IsFrameLimit s.maxFrameSize
          ↔
        ∀ path m n, env.frameSize? = none → env.configPath? = some path →
          Mentions.ofFile files path = .ok m → m.maxFrameSize = some n → IsFrameLimit n) := by
  have hfrom := frameSizeFrom_of_load h
  refine ⟨hfrom, ?_⟩
  generalize s.maxFrameSize = size at hfrom
  cases hfrom with
  | environment henv =>
    constructor
    . intro _ path m n hnone
      rw [henv] at hnone
      cases hnone
    . intro _
      exact isFrameLimit_clampFrameSize _
  | file henv hpath hfile hsize =>
    constructor
    . intro hlimit path' m' n' _ hpath' hfile' hsize'
      rw [hpath] at hpath'
      cases hpath'
      rw [hfile] at hfile'
      cases hfile'
      rw [hsize] at hsize'
      cases hsize'
      exact hlimit
    . intro hlimit
      exact hlimit _ _ _ henv hpath hfile hsize
  | default henv hfile =>
    constructor
    . intro _ path m n _ hpath hm hsize
      rw [hfile path m hpath hm] at hsize
      cases hsize
    . intro _
      exact isFrameLimit_default

/-- A size from the environment that is too small becomes the least one. -/
theorem loaded_frame_size_environment
    : let env : Environment := .ofTexts [("SURREALRPC_MAX_FRAME_SIZE", "10")]
      load env {} = .ok { maxFrameSize := 1024 }
        ∧ FrameSizeFrom env {} 1024 ∧ IsFrameLimit 1024 := by
  intro env
  have hload : load env {} = .ok { maxFrameSize := 1024 } := by decide +kernel
  have hsize : env.frameSize? = some 10 := by decide +kernel
  obtain ⟨hfrom, hlimit⟩ := loaded_frame_size env {} _ hload
  refine ⟨hload, hfrom, hlimit.mpr ?_⟩
  intro path m n hnone
  rw [hsize] at hnone
  cases hnone

/-- A size from a file that is too small is loaded as it is. -/
theorem small_frame_size_loaded
    : let env : Environment := .ofTexts [("SURREALRPC_CONFIG", "c.yaml")]
      let files : FileTree :=
        { entries := [([.ofText "c.yaml"], .file (.ofText "max_frame_size: 10\n"))] }
      load env files = .ok { maxFrameSize := 10 } ∧ ¬IsFrameLimit 10 := by
  intro env files
  constructor
  . decide +kernel
  . unfold IsFrameLimit minFrameSizeLimit
    omega

end Settings
end CallWire
