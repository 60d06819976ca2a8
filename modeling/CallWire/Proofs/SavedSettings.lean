import CallWire.Config.Load
import CallWire.Proofs.SettingsText
import CallWire.Proofs.WrittenFiles

/-!
This module contains what becomes of settings that are saved to a file and loaded from it. A file
tells spans of time in whole seconds and milliseconds; all else is as it was.
-/

namespace CallWire

namespace Settings

variable {s : Settings} {files files' : FileTree} {path : Path} {text : String}

theorem save_cases (h : s.save files path = .ok files')
    : ∃ text, s.toYaml? = some text ∧ files.writeText path text = .ok files' := by
  unfold save at h
  cases htext : s.toYaml? with
  | none =>
    rw [htext] at h
    cases h
  | some text =>
    rw [htext] at h
    dsimp only at h
    cases hwrite : files.writeText path text with
    | error fault =>
      rw [hwrite] at h
      cases h
    | ok written =>
      rw [hwrite] at h
      cases h
      exact ⟨text, rfl, hwrite⟩

theorem save_of_writeText (htext : s.toYaml? = some text)
    (hwrite : files.writeText path text = .ok files')
    : s.save files path = .ok files' := by
  unfold save
  rw [htext]
  dsimp only
  rw [hwrite]
  rfl

theorem exists_save_iff
    : (∃ files', s.save files path = .ok files')
        ↔
      s.HasTextPaths ∧ ∃ text files', files.writeText path text = .ok files' := by
  constructor
  . rintro ⟨files', hsave⟩
    obtain ⟨text, htext, hwrite⟩ := save_cases hsave
    exact ⟨.of_toYaml? htext, text, files', hwrite⟩
  . rintro ⟨hpaths, _, _, hwrite⟩
    obtain ⟨text, htext⟩ := hpaths.exists_toYaml?
    obtain ⟨files', hwrite'⟩ := FileTree.exists_writeText_other hwrite text
    exact ⟨files', save_of_writeText htext hwrite'⟩

theorem ofYaml?_of_toYaml? (hsecs : s.connectTimeout.secs < 2 ^ 64) (hframe : s.maxFrameSize < 2 ^ 64)
    (h : s.toYaml? = some text)
    : Mentions.ofYaml? text = some s.written := by
  unfold Mentions.ofYaml?
  rw [document?_of_toYaml? h]
  exact readNode_node (.of_toYaml? h) hsecs hframe

theorem ofFile_of_save (hsecs : s.connectTimeout.secs < 2 ^ 64) (hframe : s.maxFrameSize < 2 ^ 64)
    (hsave : s.save files path = .ok files')
    : ofFile files' path = .ok s.kept := by
  obtain ⟨text, htext, hwrite⟩ := save_cases hsave
  unfold ofFile Mentions.ofFile
  rw [FileTree.readText_of_writeText hwrite]
  dsimp only
  rw [ofYaml?_of_toYaml? hsecs hframe htext]
  exact congrArg Except.ok (override_written {} s)

/--
Settings whose paths are texts can be saved wherever a file can be written, and no others can. From
that file they can be loaded with their spans of time in whole seconds and milliseconds: they are
what was saved just if the spans are whole. What is loaded can be saved again, and is then loaded as
it is.
-/
theorem save_reload (s : Settings) (files : FileTree) (path : Path)
    (hsecs : s.connectTimeout.secs < 2 ^ 64) (hframe : s.maxFrameSize < 2 ^ 64)
    : ((∃ files', s.save files path = .ok files')
          ↔
        s.HasTextPaths ∧ ∃ text files', files.writeText path text = .ok files')
      ∧ ∀ files', s.save files path = .ok files' →
          ∃ loaded, ofFile files' path = .ok loaded
            ∧ (loaded = s
                ↔
              10 ^ 9 ∣ s.connectTimeout.nanos
                ∧ ∀ d ∈ s.requestTimeout, 10 ^ 6 ∣ d.nanos ∧ d.millis < 2 ^ 64)
            ∧ loaded = { s with
                connectTimeout := .ofSecs s.connectTimeout.secs
                requestTimeout := s.requestTimeout.map (fun d => .ofMillis (d.millis % 2 ^ 64)) }
            ∧ (∃ again, loaded.save files' path = .ok again)
            ∧ ∀ (files files' : FileTree) (path : Path), loaded.save files path = .ok files' →
                ofFile files' path = .ok loaded := by
  refine ⟨exists_save_iff, ?_⟩
  intro files' hsave
  refine ⟨s.kept, ofFile_of_save hsecs hframe hsave, kept_eq_iff, rfl, ?_, ?_⟩
  . obtain ⟨text, htext, hwrite⟩ := save_cases hsave
    obtain ⟨again, hagain⟩ := FileTree.exists_writeText_again hwrite text
    exact ⟨again, save_of_writeText ((toYaml?_kept s).trans htext) hagain⟩
  . intro files files' path hsave'
    have hsecs' : s.kept.connectTimeout.secs < 2 ^ 64 := (Duration.secs_ofSecs _).symm ▸ hsecs
    have hload := ofFile_of_save hsecs' hframe hsave'
    rwa [kept_kept] at hload

/-- Parts of seconds and milliseconds are lost. -/
theorem save_reload_parts
    : let s : Settings :=
        { url := "ws://host", connectTimeout := ⟨1500000000⟩, requestTimeout := some ⟨2500000⟩
          maxFrameSize := 4096 }
      let text := "url: ws://host\nconnect_timeout_secs: 1\nrequest_timeout_ms: 2\n"
        ++ "auto_connect: false\nmax_frame_size: 4096\ntls:\n  ca_cert_path: null\n"
        ++ "  client_cert_path: null\n  client_key_path: null\n  insecure: false\n"
      let files' : FileTree := { entries := [([.ofText "c.yaml"], .file (.ofText text))] }
      s.save {} (.ofText "c.yaml") = .ok files'
        ∧ ∃ loaded, ofFile files' (.ofText "c.yaml") = .ok loaded ∧ loaded ≠ s
          ∧ loaded.connectTimeout = .ofSecs 1 ∧ loaded.requestTimeout = some (.ofMillis 2) := by
  intro s text files'
  have hyaml : s.toYaml? = some text := by decide +kernel
  have hplace : ({} : FileTree).locateTarget (.ofText "c.yaml")
      = .ok ([.ofText "c.yaml"], none) := by
    decide +kernel
  have hwrite : ({} : FileTree).writeText (.ofText "c.yaml") text = .ok files' := by
    unfold FileTree.writeText
    rw [hplace]
    rfl
  have hsave : s.save {} (.ofText "c.yaml") = .ok files' := save_of_writeText hyaml hwrite
  obtain ⟨loaded, hload, hwhole, hparts, _⟩ :=
    (save_reload s {} (.ofText "c.yaml") (by decide) (by decide)).2 files' hsave
  refine ⟨hsave, loaded, hload, ?_, ?_, ?_⟩
  . intro hsame
    exact absurd (hwhole.mp hsame).1 (by decide)
  . rw [hparts]
    exact congrArg Duration.ofSecs (show 1500000000 / 10 ^ 9 = 1 by decide)
  . rw [hparts]
    exact congrArg (fun n => some (Duration.ofMillis n))
      (show 2500000 / 10 ^ 6 % 2 ^ 64 = 2 by decide)

end Settings
end CallWire
