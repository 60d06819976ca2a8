import CallWire.Program.Run
import CallWire.Proofs.Results
import CallWire.Proofs.Texts

/-!
This module contains what settings a run of the program uses that is given a command and no options
about the connection. The variables of the environment are read twice then: as settings, and as the
options that they stand in for.
-/

namespace CallWire

namespace Environment

variable {env : Environment} {name : String}

def pathVariables : List String :=
  ["SURREALRPC_TLS_CA_CERT", "SURREALRPC_TLS_CLIENT_CERT", "SURREALRPC_TLS_CLIENT_KEY"]

/-- Variables that can be read as options: the address is a text, and no file has an empty name. -/
structure Legible (env : Environment) : Prop where
  url : ∀ b, env.bindings.lookup "SURREALRPC_URL" = some b → b.text?.isSome = true
  paths : ∀ name ∈ pathVariables, env.bindings.lookup name ≠ some []

def Textual (env : Environment) : Prop :=
  ∀ name ∈ pathVariables, ∀ b, env.bindings.lookup name = some b → b.text?.isSome = true

def optionPath? (env : Environment) (name : String) : Option Path :=
  (env.bindings.lookup name).map Path.mk

def Paired (env : Environment) : Prop :=
  (env.optionPath? "SURREALRPC_TLS_CLIENT_CERT").isSome
    = (env.optionPath? "SURREALRPC_TLS_CLIENT_KEY").isSome

/-- The options that the variables stand in for. -/
def boundOptions (env : Environment) (traceWire : Bool) : Options where
  url := env.text? "SURREALRPC_URL"
  traceWire := traceWire
  caCert := env.optionPath? "SURREALRPC_TLS_CA_CERT"
  clientCert := env.optionPath? "SURREALRPC_TLS_CLIENT_CERT"
  clientKey := env.optionPath? "SURREALRPC_TLS_CLIENT_KEY"

theorem orUrl_none
    : Invocation.orUrl env none
        =
      match env.bindings.lookup "SURREALRPC_URL" with
      | none => some none
      | some b => b.text?.map some := by
  unfold Invocation.orUrl
  cases env.bindings.lookup "SURREALRPC_URL" <;> rfl

theorem orPath_none (name : String)
    : Invocation.orPath env none name
        =
      if env.bindings.lookup name = some [] then none else some (env.optionPath? name) := by
  unfold Invocation.orPath optionPath?
  cases env.bindings.lookup name with
  | none => rfl
  | some b => cases b <;> rfl

theorem complete_of_legible (h : env.Legible) (traceWire : Bool)
    : Invocation.complete env { traceWire } = some (env.boundOptions traceWire) := by
  have hurl : Invocation.orUrl env none = some (env.text? "SURREALRPC_URL") := by
    rw [orUrl_none]
    unfold text?
    cases hb : env.bindings.lookup "SURREALRPC_URL" with
    | none => rfl
    | some b =>
      obtain ⟨s, hs⟩ := Option.isSome_iff_exists.mp (h.url b hb)
      dsimp only [Option.bind_some]
      rw [hs]
      rfl
  have hpath (name : String) (hname : name ∈ pathVariables)
      : Invocation.orPath env none name = some (env.optionPath? name) := by
    rw [orPath_none, if_neg (h.paths name hname)]
  unfold Invocation.complete
  dsimp only
  rw [hurl, hpath _ (by decide), hpath _ (by decide), hpath _ (by decide)]
  rfl

theorem complete_of_not_legible (h : ¬env.Legible) (traceWire : Bool)
    : Invocation.complete env { traceWire } = none := by
  cases hcomplete : Invocation.complete env { traceWire } with
  | none => rfl
  | some o =>
    refine absurd ?_ h
    obtain ⟨url, hurl, hcomplete⟩ := Option.bind_eq_some_iff.mp hcomplete
    obtain ⟨caCert, hcaCert, hcomplete⟩ := Option.bind_eq_some_iff.mp hcomplete
    obtain ⟨clientCert, hclientCert, hcomplete⟩ := Option.bind_eq_some_iff.mp hcomplete
    obtain ⟨clientKey, hclientKey, -⟩ := Option.bind_eq_some_iff.mp hcomplete
    dsimp only at hurl hcaCert hclientCert hclientKey
    rw [orUrl_none] at hurl
    rw [orPath_none] at hcaCert hclientCert hclientKey
    constructor
    . intro b hb
      rw [hb] at hurl
      obtain ⟨s, hs, -⟩ := Option.map_eq_some_iff.mp hurl
      rw [hs]
      rfl
    . intro name hname hempty
      simp only [pathVariables, List.mem_cons, List.not_mem_nil, or_false] at hname
      rcases hname with rfl | rfl | rfl
      . rw [if_pos hempty] at hcaCert
        cases hcaCert
      . rw [if_pos hempty] at hclientCert
        cases hclientCert
      . rw [if_pos hempty] at hclientKey
        cases hclientKey

theorem path?_eq_optionPath? (h : env.Textual) (hname : name ∈ pathVariables)
    : env.path? name = env.optionPath? name := by
  unfold path? text? optionPath?
  cases hb : env.bindings.lookup name with
  | none => rfl
  | some b =>
    obtain ⟨s, hs⟩ := Option.isSome_iff_exists.mp (h name hname b hb)
    dsimp only [Option.bind_some]
    rw [hs]
    unfold Path.ofText
    exact congrArg (fun b => some (Path.mk b)) (Bytes.ofText_of_text? hs)

def ofTexts (texts : List (String × String)) : Environment :=
  { bindings := texts.map fun (name, s) => (name, .ofText s) }

theorem lookup_ofTexts (texts : List (String × String)) (name : String)
    : (ofTexts texts).bindings.lookup name = (texts.lookup name).map .ofText := by
  unfold ofTexts
  induction texts with
  | nil => rfl
  | cons entry texts ih =>
    obtain ⟨k, s⟩ := entry
    rw [List.map_cons, List.lookup_cons, List.lookup_cons, ih]
    cases name == k <;> rfl

theorem exists_text_of_lookup {texts : List (String × String)} {b : Bytes}
    (h : (ofTexts texts).bindings.lookup name = some b)
    : ∃ s, texts.lookup name = some s ∧ b.text? = some s := by
  rw [lookup_ofTexts] at h
  obtain ⟨s, hs, rfl⟩ := Option.map_eq_some_iff.mp h
  exact ⟨s, hs, Bytes.text?_ofText s⟩

theorem textual_ofTexts (texts : List (String × String)) : (ofTexts texts).Textual := by
  intro name _ b hb
  obtain ⟨s, -, hs⟩ := exists_text_of_lookup hb
  rw [hs]
  rfl

theorem legible_ofTexts {texts : List (String × String)}
    (h : ∀ name ∈ pathVariables, texts.lookup name ≠ some "")
    : (ofTexts texts).Legible := by
  constructor
  . intro b hb
    obtain ⟨s, -, hs⟩ := exists_text_of_lookup hb
    rw [hs]
    rfl
  . intro name hname hb
    obtain ⟨s, hlookup, hs⟩ := exists_text_of_lookup hb
    have hempty : Bytes.text? [] = some "" := by decide +kernel
    rw [hempty] at hs
    cases hs
    exact h name hname hlookup

end Environment

namespace Settings

theorem load_cases {env : Environment} {files : FileTree} {s : Settings}
    (h : load env files = .ok s)
    : (env.configPath? = none ∧ s = override {} env.mentions)
      ∨ ∃ path m, env.configPath? = some path ∧ Mentions.ofFile files path = .ok m
          ∧ s = (override {} m).override env.mentions := by
  unfold load at h
  dsimp only at h
  split at h
  . next hpath =>
    cases h
    exact .inl ⟨hpath, rfl⟩
  . next path hpath =>
    apply Or.inr
    unfold ofFile at h
    cases hfile : Mentions.ofFile files path with
    | error e =>
      rw [hfile] at h
      cases h
    | ok m =>
      rw [hfile] at h
      cases h
      exact ⟨path, m, hpath, hfile, rfl⟩

end Settings

namespace Program

variable {around : Surroundings} {args : List String} {cmd : Command} {traceWire : Bool}

def withPaths (s : Settings) (env : Environment) : Settings :=
  { s with
    tls :=
      { s.tls with
        caCert := env.optionPath? "SURREALRPC_TLS_CA_CERT" <|> s.tls.caCert
        clientCert := env.optionPath? "SURREALRPC_TLS_CLIENT_CERT" <|> s.tls.clientCert
        clientKey := env.optionPath? "SURREALRPC_TLS_CLIENT_KEY" <|> s.tls.clientKey } }

theorem applyOptions_override (s : Settings) (env : Environment) (traceWire : Bool)
    : applyOptions (s.override env.mentions) (env.boundOptions traceWire)
        =
      withPaths (s.override env.mentions) env := by
  have hgetD {α : Type} (o : Option α) (a : α) : o.getD (o.getD a) = o.getD a := by
    cases o <;> rfl
  unfold applyOptions withPaths Settings.override Environment.boundOptions Environment.mentions
  dsimp only
  rw [hgetD]
  rfl

theorem withPaths_override (s : Settings) {env : Environment} (h : env.Textual)
    : withPaths (s.override env.mentions) env = s.override env.mentions := by
  have horElse (o p : Option Path) : (o <|> (o.map some).getD p) = (o.map some).getD p := by
    cases o <;> rfl
  unfold withPaths Settings.override Environment.mentions
  dsimp only
  rw [← Environment.path?_eq_optionPath? h (by decide), horElse]
  rw [← Environment.path?_eq_optionPath? h (by decide), horElse]
  rw [← Environment.path?_eq_optionPath? h (by decide), horElse]

theorem exists_override_of_load {env : Environment} {files : FileTree} {s : Settings}
    (h : Settings.load env files = .ok s)
    : ∃ base : Settings, s = base.override env.mentions := by
  rcases Settings.load_cases h with ⟨_, rfl⟩ | ⟨_, m, _, _, rfl⟩
  . exact ⟨{}, rfl⟩
  . exact ⟨Settings.override {} m, rfl⟩

def misused : Report := { exit := 2, showsUsage := true }

/-- The report of a run that finds no settings that it can use. -/
def Unconfigured (env : Environment) (r : Report) : Prop :=
  ∃ message, r = { exit := 1, stderr := complaint env "Invalid configuration" message }

def unpaired (env : Environment) : Report :=
  { exit := 1
    stderr := complaint env "Error" "--client-cert and --client-key must be used together\n" }

/-- What a run with some settings comes to: it is refused where they are not valid. -/
inductive Uses (around : Surroundings) (cmd : Command) (traceWire : Bool) :
    Settings → Report → Prop where
  | invalid {s : Settings} {fault : SettingsFault} {r : Report} :
    s.validate = .error fault → Unconfigured around.env r → Uses around cmd traceWire s r
  | valid {s : Settings} :
    s.validate = .ok () → Uses around cmd traceWire s (converse around { traceWire } cmd s)

theorem run_of_not_legible (hargs : Invocation.read {} args = .run { traceWire } cmd)
    (henv : ¬around.env.Legible)
    : run around args = misused := by
  unfold run Invocation.ofArguments
  rw [hargs]
  dsimp only
  rw [Environment.complete_of_not_legible henv]
  rfl

theorem run_of_legible (hargs : Invocation.read {} args = .run { traceWire } cmd)
    (henv : around.env.Legible)
    : run around args
        =
      match settings around (around.env.boundOptions traceWire) with
      | .error report => report
      | .ok s => converse around { traceWire } cmd s := by
  unfold run Invocation.ofArguments
  rw [hargs]
  dsimp only
  rw [Environment.complete_of_legible henv]
  rfl

theorem unconfigured_of_load {e : ConfigError}
    (h : Settings.load around.env around.files = .error e) (o : Options)
    : ∃ report, settings around o = .error report ∧ Unconfigured around.env report := by
  unfold settings
  rw [h]
  cases e with
  | malformed path => exact ⟨_, rfl, _, rfl⟩
  | file path fault => exact ⟨_, rfl, _, rfl⟩
  | invalid fault => exact ⟨_, rfl, _, rfl⟩

section

variable {s : Settings} (h : Settings.load around.env around.files = .ok s)

include h

theorem settings_of_unpaired (hpaired : ¬around.env.Paired) (traceWire : Bool)
    : settings around (around.env.boundOptions traceWire) = .error (unpaired around.env) := by
  unfold settings
  rw [h]
  dsimp only
  exact if_pos hpaired

theorem settings_of_paired (hpaired : around.env.Paired) (traceWire : Bool)
    : settings around (around.env.boundOptions traceWire)
        =
      match (withPaths s around.env).validate with
      | .error fault =>
        .error
          { exit := 1
            stderr :=
              complaint around.env "Invalid configuration"
                ((ConfigError.invalid fault).message ++ "\n") }
      | .ok _ => .ok (withPaths s around.env) := by
  obtain ⟨base, rfl⟩ := exists_override_of_load h
  unfold settings
  rw [h]
  dsimp only
  rw [applyOptions_override]
  exact if_neg (not_not_intro hpaired)

theorem uses_of_paired (hargs : Invocation.read {} args = .run { traceWire } cmd)
    (henv : around.env.Legible) (hpaired : around.env.Paired)
    : Uses around cmd traceWire (withPaths s around.env) (run around args) := by
  rw [run_of_legible hargs henv, settings_of_paired h hpaired]
  cases hvalidate : (withPaths s around.env).validate with
  | error fault => exact .invalid hvalidate ⟨_, rfl⟩
  | ok _ => exact .valid hvalidate

end

/--
A run without options about the connection, in any environment and with any files. Variables that
cannot be read as options are misuse. Else the run ends where no settings can be loaded. It is
refused where variables name a certificate without its key or a key alone, even if the file names
the other one. In all other cases it uses the settings that are loaded, with the files that the
variables name in their place. If these names are texts, that leaves the settings as they are.
-/
theorem run_without_options (around : Surroundings) (args : List String) (cmd : Command)
    (traceWire : Bool) (hargs : Invocation.read {} args = .run { traceWire } cmd)
    : (¬around.env.Legible → run around args = misused)
        ∧
      (around.env.Legible →
          (∀ e, Settings.load around.env around.files = .error e →
              Unconfigured around.env (run around args))
            ∧
          ∀ s, Settings.load around.env around.files = .ok s →
            (¬around.env.Paired → run around args = unpaired around.env)
              ∧
            (around.env.Paired →
              Uses around cmd traceWire (withPaths s around.env) (run around args)))
        ∧
      (around.env.Textual → ∀ s, Settings.load around.env around.files = .ok s →
          withPaths s around.env = s) := by
  refine ⟨run_of_not_legible hargs, ?_, ?_⟩
  . intro henv
    constructor
    . intro e hload
      obtain ⟨report, hreport, hmessage⟩ :=
        unconfigured_of_load hload (around.env.boundOptions traceWire)
      rw [run_of_legible hargs henv, hreport]
      exact hmessage
    . intro s hload
      constructor
      . intro hpaired
        rw [run_of_legible hargs henv, settings_of_unpaired hload hpaired]
      . exact uses_of_paired hload hargs henv
  . intro htextual s hload
    obtain ⟨base, rfl⟩ := exists_override_of_load hload
    exact withPaths_override base htextual

def identity : Settings :=
  { tls := { clientCert := some (.ofText "cert.pem"), clientKey := some (.ofText "key.pem") } }

/-- A certificate and its key from variables are used as they are. -/
theorem run_without_options_identity
    : let around : Surroundings :=
        { env := .ofTexts [("SURREALRPC_TLS_CLIENT_CERT", "cert.pem"),
            ("SURREALRPC_TLS_CLIENT_KEY", "key.pem")] }
      run around ["version"] = converse around {} .version identity := by
  intro around
  have hargs : Invocation.read {} ["version"] = .run { traceWire := false } .version := by decide
  have henv : around.env.Legible := Environment.legible_ofTexts (by decide)
  have hpaired : around.env.Paired := rfl
  have hload : Settings.load around.env around.files = .ok identity := by decide +kernel
  have hvalid : identity.validate = .ok () := by decide +kernel
  obtain ⟨-, hlegible, hsame⟩ := run_without_options around ["version"] .version false hargs
  have huses := ((hlegible henv).2 identity hload).2 hpaired
  rw [hsame (Environment.textual_ofTexts _) identity hload] at huses
  generalize run around ["version"] = r at huses
  cases huses with
  | invalid hinvalid _ =>
    rw [hvalid] at hinvalid
    cases hinvalid
  | valid _ => rfl

/-- A certificate from a variable and its key from the file are valid settings that no run uses. -/
theorem half_identity_refused
    : let around : Surroundings :=
        { env := .ofTexts [("SURREALRPC_CONFIG", "c.yaml"),
            ("SURREALRPC_TLS_CLIENT_CERT", "cert.pem"),
            ("SURREALRPC_URL", "ws://localhost:8000/rpc")]
          files :=
            { entries :=
                [([.ofText "c.yaml"], .file (.ofText "tls:\n  client_key_path: key.pem\n"))] } }
      Settings.load around.env around.files = .ok identity
        ∧ identity.validate = .ok ()
        ∧ (run around ["ping"]).exit = 1
        ∧ (run around ["ping"]).stderr
            = "Error: --client-cert and --client-key must be used together\n" := by
  intro around
  have hload : Settings.load around.env around.files = .ok identity := by decide +kernel
  have hargs : Invocation.read {} ["ping"] = .run { traceWire := false } .ping := by decide
  have henv : around.env.Legible := Environment.legible_ofTexts (by decide)
  have hpaired : ¬around.env.Paired := Bool.noConfusion
  have hrun : run around ["ping"] = unpaired around.env := by
    rw [run_of_legible hargs henv, settings_of_unpaired hload hpaired]
  refine ⟨hload, by decide +kernel, ?_, ?_⟩
  . rw [hrun]
    rfl
  . rw [hrun]
    decide +kernel

end Program
end CallWire
