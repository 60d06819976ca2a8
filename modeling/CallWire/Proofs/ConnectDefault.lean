import CallWire.Proofs.Attempts
import CallWire.Proofs.ProgramSettings
import CallWire.Proofs.Results
import CallWire.Proofs.SettingsKept

/-!
This module contains how an attempt to connect can end whose settings are valid: with a connection,
because the time is over, or because of what is in the files that the settings name. Only a time that
no clock can show is not foreseen.
-/

namespace CallWire

inductive TlsFault.OfFiles (t : TlsSettings) (files : FileTree) : TlsFault → Prop where
  | certificates {path : Path} {fault : TlsFault}
      (hpath : t.caCert = some path ∨ t.clientCert = some path)
      (hload : TlsSettings.loadCertificates files path = .error fault)
      : OfFiles t files fault
  | key {path : Path} {fault : TlsFault} (hpath : t.clientKey = some path)
      (hload : TlsSettings.loadKey files path = .error fault)
      : OfFiles t files fault
  | authority {path : Path} {certificates : List Bytes} {fault : CertificateFault}
      (hpath : t.caCert = some path)
      (hload : TlsSettings.loadCertificates files path = .ok certificates)
      (hbad : certificates.mapM Certificate.ofTrusted = .error fault)
      : OfFiles t files (.invalidAuthority fault)
  | identity {certificate key : Path} {certificates : List Bytes} {item : Pem.Item}
      {fault : TlsFault} (hcert : t.clientCert = some certificate) (hkey : t.clientKey = some key)
      (hload : TlsSettings.loadCertificates files certificate = .ok certificates)
      (hloadKey : TlsSettings.loadKey files key = .ok item)
      (hbad : TlsSettings.checkIdentity certificates item = .error fault)
      : OfFiles t files fault

namespace TlsSettings

variable {t : TlsSettings} {files : FileTree} {path : Path} {fault : TlsFault}

theorem readPem_ne_halfIdentity {α : Type} {cannotOpen : FileFault → TlsFault}
    {invalid : Pem.Fault → TlsFault} {read : Bytes → Except Pem.Fault α}
    (hopen : ∀ f, cannotOpen f ≠ .halfIdentity) (hinvalid : ∀ f, invalid f ≠ .halfIdentity)
    : readPem files path cannotOpen invalid read ≠ .error .halfIdentity := by
  unfold readPem
  split
  . exact fun h => hinvalid _ (Except.error.inj h)
  . exact fun h => hopen _ (Except.error.inj h)
  . next content _ =>
    cases read content with
    | error f => exact fun h => hinvalid f (Except.error.inj h)
    | ok a => exact nofun

theorem loadCertificates_ne_halfIdentity
    : loadCertificates files path ≠ .error .halfIdentity := by
  intro h
  unfold loadCertificates at h
  rcases error_of_bind h with h | ⟨items, _, h⟩
  . apply readPem_ne_halfIdentity _ _ h
    . exact fun _ => nofun
    . exact fun _ => nofun
  . split at h <;> cases h

theorem loadKey_ne_halfIdentity : loadKey files path ≠ .error .halfIdentity := by
  intro h
  unfold loadKey at h
  rcases error_of_bind h with h | ⟨found, _, h⟩
  . apply readPem_ne_halfIdentity _ _ h
    . exact fun _ => nofun
    . exact fun _ => nofun
  . split at h <;> cases h

theorem checkIdentity_ne_halfIdentity {certificates : List Bytes} {item : Pem.Item}
    : checkIdentity certificates item ≠ .error .halfIdentity := by
  intro h
  unfold checkIdentity at h
  split at h
  . cases h
  . rcases error_of_bind h with h | ⟨certificate, _, h⟩
    . cases hder : Certificate.ofDer (certificates.headD []) with
      | error f =>
        rw [hder] at h
        cases h
      | ok certificate =>
        rw [hder] at h
        cases h
    . split at h <;> cases h

end TlsSettings

theorem TlsFault.OfFiles.ne_halfIdentity {t : TlsSettings} {files : FileTree} {fault : TlsFault}
    (h : fault.OfFiles t files)
    : fault ≠ .halfIdentity := by
  rintro rfl
  cases h with
  | certificates _ hload => exact TlsSettings.loadCertificates_ne_halfIdentity hload
  | key _ hload => exact TlsSettings.loadKey_ne_halfIdentity hload
  | identity _ _ _ _ hbad => exact TlsSettings.checkIdentity_ne_halfIdentity hbad

theorem append_ne_of_not_prefix {a b : String} (h : ¬a.toList <+: b.toList) (s : String)
    : a ++ s ≠ b := by
  rintro rfl
  apply h
  rw [String.toList_append]
  exact List.prefix_append _ _

theorem TlsFault.message_ne_halfIdentity {fault : TlsFault} (h : fault ≠ .halfIdentity)
    : fault.message ≠ TlsFault.halfIdentity.message := by
  unfold message
  cases fault with
  | halfIdentity => exact absurd rfl h
  | cannotOpenCertificates | cannotOpenKey | invalidCertificates | invalidKeyFile =>
    dsimp only
    rw [String.append_assoc, String.append_assoc]
    apply append_ne_of_not_prefix
    decide +kernel
  | noCertificates | noKey | invalidAuthority | invalidIdentity =>
    apply append_ne_of_not_prefix
    decide +kernel
  | unknownKey | foreignKey => decide +kernel

namespace TlsSettings

variable {t : TlsSettings} {files : FileTree} {fault : TlsFault}

theorem ofFiles_of_loadTrust (h : t.loadTrust files = .error fault) : fault.OfFiles t files := by
  unfold loadTrust at h
  cases hpath : t.caCert with
  | none =>
    rw [hpath] at h
    cases h
  | some path =>
    rw [hpath] at h
    rcases error_of_bind h with h | ⟨certificates, hload, h⟩
    . exact .certificates (.inl hpath) h
    . rcases error_of_bind h with h | ⟨authorities, _, h⟩
      . cases hbad : certificates.mapM Certificate.ofTrusted with
        | ok _ =>
          rw [hbad] at h
          cases h
        | error f =>
          rw [hbad] at h
          cases h
          exact .authority hpath hload hbad
      . cases h

theorem ofFiles_of_loadIdentity (hvalid : t.validate = .ok ())
    (h : t.loadIdentity files = .error fault)
    : fault.OfFiles t files := by
  unfold validate at hvalid
  unfold loadIdentity at h
  cases hcert : t.clientCert with
  | none =>
    cases hkey : t.clientKey with
    | none =>
      rw [hcert, hkey] at h
      cases h
    | some key =>
      rw [hcert, hkey] at hvalid
      cases hvalid
  | some certificate =>
    cases hkey : t.clientKey with
    | none =>
      rw [hcert, hkey] at hvalid
      cases hvalid
    | some key =>
      rw [hcert, hkey] at h
      rcases error_of_bind h with h | ⟨certificates, hload, h⟩
      . exact .certificates (.inr hcert) h
      rcases error_of_bind h with h | ⟨item, hloadKey, h⟩
      . exact .key hkey h
      rcases error_of_bind h with h | ⟨_, _, h⟩
      . exact .identity hcert hkey hload hloadKey h
      . cases h

theorem ofFiles_of_setup (hvalid : t.validate = .ok ()) (h : t.setup files = .error fault)
    : fault.OfFiles t files := by
  unfold setup at h
  split at h
  . cases h
  . rcases error_of_bind h with h | ⟨trust, _, h⟩
    . exact ofFiles_of_loadTrust h
    . rcases error_of_bind h with h | ⟨identified, _, h⟩
      . exact ofFiles_of_loadIdentity hvalid h
      . cases h

end TlsSettings

theorem Settings.scheme_of_validate {s : Settings} (h : s.validate = .ok ())
    : (∃ scheme, s.scheme? = some scheme) ∧ s.tls.validate = .ok () := by
  unfold validate at h
  cases hscheme : s.scheme? with
  | none =>
    rw [hscheme] at h
    cases h
  | some scheme =>
    rw [hscheme] at h
    exact ⟨⟨scheme, rfl⟩, h⟩

namespace Client

variable {c : Client} {net : Network} {files : FileTree} {timeout : Duration}

/-- How an attempt to connect ends that is made with valid settings. -/
inductive Connects (s : Settings) (files : FileTree) : Except ConnectFailure Unit → Prop where
  | connected : Connects s files (.ok ())
  | timedOut : Connects s files (.error (.client .connectionTimeout))
  | tls {fault : TlsFault} (hsecure : s.scheme? = some .secure)
      (hsetup : s.tls.setup files = .error fault) (hfault : fault.OfFiles s.tls files)
      : Connects s files (.error (.client (.tlsConfig fault.message)))

theorem dialServer_of_current {generation : Nat} (hcurrent : c.transport.generation = generation)
    (route : Route) (timeout : Duration) (net : Network)
    : (c.dialServer generation route timeout net).1 = .ok generation
      ∨ (c.dialServer generation route timeout net).1 = .error .connectionTimeout := by
  unfold dialServer
  generalize hseen : (if net.isAbsent route then c.tell (.absent c.settings.url) else c) = seen
  have htransport : seen.transport = c.transport := by
    rw [← hseen]
    split <;> rfl
  dsimp only
  rw [htransport]
  unfold Transport.settleOpening
  cases net.dial route timeout with
  | opened =>
    apply Or.inl
    simp [Transport.finishOpening, hcurrent]
  | refused | timedOut => exact .inr rfl

theorem transport_setTransport (c : Client) (t : Transport) : (c.setTransport t).transport = t := by
  rw [← transport_core, core_setTransport]

theorem connects_openSession (hvalid : c.settings.validate = .ok ())
    : Connects c.settings files (c.openSession timeout net files).1 := by
  obtain ⟨⟨scheme, hscheme⟩, htls⟩ := Settings.scheme_of_validate hvalid
  unfold openSession openSocket
  generalize hwarned : c.settings.routeWarnings.foldl
    (fun c message => c.warn (.insecure message)) c = warned
  have hsettings : warned.settings = c.settings := by
    rw [← hwarned]
    exact settings_warnAll c _
  dsimp only
  cases hroute : warned.settings.route files with
  | error e =>
    dsimp only
    unfold Settings.route at hroute
    rw [hsettings, hscheme] at hroute
    cases scheme with
    | plain => cases hroute
    | secure =>
      dsimp only at hroute
      cases hsetup : c.settings.tls.setup files with
      | ok setup =>
        rw [hsetup] at hroute
        cases hroute
      | error fault =>
        rw [hsetup] at hroute
        cases hroute
        exact .tls hscheme hsetup (TlsSettings.ofFiles_of_setup htls hsetup)
  | ok route =>
    dsimp only
    generalize hopening : (warned.setTransport warned.transport.startOpening.2).tell
      (.opening warned.transport.startOpening.1 warned.settings.url) = opening
    have hcurrent : opening.transport.generation = warned.transport.startOpening.1 := by
      rw [← hopening]
      change (warned.setTransport warned.transport.startOpening.2).transport.generation = _
      rw [transport_setTransport]
      exact Transport.generation_setState _ _
    have hdialled := dialServer_of_current hcurrent route timeout net
    cases hdial : opening.dialServer warned.transport.startOpening.1 route timeout net with
    | mk opened c' =>
      rw [hdial] at hdialled
      rcases hdialled with rfl | rfl
      . exact .connected
      . exact .timedOut

theorem connects_connectBy (hvalid : c.settings.validate = .ok ()) (deadline : Duration)
    : Connects c.settings files (c.connectBy deadline net files).1 := by
  unfold connectBy
  split
  . exact .connected
  . rw [← settings_endSession c] at hvalid ⊢
    exact connects_openSession hvalid

theorem deadline?_eq_none_iff
    : c.deadline? timeout = none ↔ clockLimit * 10 ^ 9 ≤ c.now.nanos + timeout.nanos := by
  rw [← Nat.le_div_iff_mul_le (by decide)]
  unfold deadline? Duration.secs
  dsimp only
  split
  . next hshown => simp [hshown]
  . next hbeyond => simp [Nat.le_of_not_lt hbeyond]

/-- An attempt to connect comes to nothing whose time ends when no clock can show it. -/
theorem connectDefault_of_beyond
    (h : clockLimit * 10 ^ 9 ≤ c.now.nanos + c.settings.connectTimeout.nanos)
    : (c.connectDefault net files).1 = .error .clockOverflow := by
  unfold connectDefault connect
  rw [deadline?_eq_none_iff.mpr h]

theorem connects_connectDefault (hvalid : c.settings.validate = .ok ())
    (hshown : ¬clockLimit * 10 ^ 9 ≤ c.now.nanos + c.settings.connectTimeout.nanos)
    : Connects c.settings files (c.connectDefault net files).1 := by
  rw [← deadline?_eq_none_iff] at hshown
  obtain ⟨deadline, hdeadline⟩ := Option.ne_none_iff_exists'.mp hshown
  unfold connectDefault connect
  rw [hdeadline]
  exact connects_connectBy hvalid deadline

namespace Connects

variable {s : Settings} {result : Except ConnectFailure Unit}

theorem ne_clockOverflow (h : Connects s files result) : result ≠ .error .clockOverflow := by
  cases h <;> exact nofun

theorem ne_invalidUrl (h : Connects s files result) (url : String)
    : result ≠ .error (.client (.invalidUrl url)) := by
  cases h <;> exact nofun

theorem ne_halfIdentity (h : Connects s files result)
    : result ≠ .error (.client (.tlsConfig TlsFault.halfIdentity.message)) := by
  cases h with
  | connected | timedOut => exact nofun
  | tls _ _ hfault =>
    intro hsame
    apply TlsFault.message_ne_halfIdentity hfault.ne_halfIdentity
    exact ClientError.tlsConfig.inj (ConnectFailure.client.inj (Except.error.inj hsame))

end Connects

/--
A client connects with valid settings, whatever is in the files and whoever answers. It is connected
then, or its time is over, or something is wrong with the certificates or the key in the files that
the settings name. It never says that the address is of no use or that a certificate comes without its
key. The only exception is a time that ends when no clock can show it.
-/
theorem connectDefault_of_valid (c : Client) (net : Network) (files : FileTree)
    (hvalid : c.settings.validate = .ok ())
    : let result := (c.connectDefault net files).1
      (result = .error .clockOverflow
          ↔
        clockLimit * 10 ^ 9 ≤ c.now.nanos + c.settings.connectTimeout.nanos)
      ∧ (result ≠ .error .clockOverflow → Connects c.settings files result)
      ∧ (∀ url, result ≠ .error (.client (.invalidUrl url)))
      ∧ result ≠ .error (.client (.tlsConfig TlsFault.halfIdentity.message)) := by
  intro result
  by_cases hbeyond : clockLimit * 10 ^ 9 ≤ c.now.nanos + c.settings.connectTimeout.nanos
  . have hresult : result = .error .clockOverflow := connectDefault_of_beyond hbeyond
    rw [hresult]
    exact ⟨⟨fun _ => hbeyond, fun _ => rfl⟩, fun h => absurd rfl h, fun _ => nofun, nofun⟩
  . have hends : Connects c.settings files result := connects_connectDefault hvalid hbeyond
    refine ⟨?_, fun _ => hends, hends.ne_invalidUrl, hends.ne_halfIdentity⟩
    constructor
    . exact fun h => absurd h hends.ne_clockOverflow
    . exact fun h => absurd h hbeyond

/-- The time that a certificate and its key have by default is one that a clock can show. -/
theorem connectDefault_of_valid_identity
    : let settings : Settings :=
        { url := "wss://a"
          tls := { clientCert := some (.ofText "c.pem"), clientKey := some (.ofText "k.pem") } }
      settings.validate = .ok ()
        ∧ ∀ net files, Connects settings files (({ settings } : Client).connectDefault net files).1 := by
  intro settings
  have hvalid : settings.validate = .ok () := by decide +kernel
  refine ⟨hvalid, ?_⟩
  intro net files
  obtain ⟨hoverflow, hends, _, _⟩ := connectDefault_of_valid { settings } net files hvalid
  apply hends
  intro hresult
  exact absurd (hoverflow.mp hresult) (by decide)

/--
A variable sets the longest time that it can tell. The settings are valid, and no clock shows it.
-/
theorem longest_time_overflows
    : let env : Environment :=
        .ofTexts [("SURREALRPC_CONNECT_TIMEOUT", "18446744073709551615")]
      let settings : Settings := { connectTimeout := .ofSecs 18446744073709551615 }
      Settings.load env {} = .ok settings
        ∧ settings.validate = .ok ()
        ∧ ∀ net files,
          (({ settings } : Client).connectDefault net files).1 = .error .clockOverflow := by
  intro env settings
  have hpath : env.configPath? = none := by decide +kernel
  have hmentions : env.mentions = { connectTimeout := some (.ofSecs 18446744073709551615) } := by
    decide +kernel
  have hvalid : settings.validate = .ok () := by decide +kernel
  refine ⟨?_, hvalid, ?_⟩
  . unfold Settings.load
    rw [hpath, hmentions]
    rfl
  . intro net files
    apply connectDefault_of_beyond
    decide

end Client
end CallWire
