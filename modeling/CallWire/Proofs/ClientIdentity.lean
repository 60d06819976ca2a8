import CallWire.Proofs.ConnectDefault
import CallWire.Proofs.Routes

/-!
This module contains that a client shows a certificate only with the key to it. The rule is checked
twice: in the settings as they are, and when the files are read for a secure connection. The checks
agree unless all servers are trusted, where the second one is left out and no certificate is shown.
-/

namespace CallWire

namespace TlsSettings

variable {t : TlsSettings} {files : FileTree} {setup : TlsSetup} {identified : Bool}

def IsHalf (t : TlsSettings) : Prop := t.clientCert.isSome ≠ t.clientKey.isSome

def IsWhole (t : TlsSettings) : Prop := t.clientCert.isSome = true ∧ t.clientKey.isSome = true

theorem validate_eq_ok_iff : t.validate = .ok () ↔ ¬t.IsHalf := by
  unfold validate IsHalf
  rw [not_not]
  split
  . next hsame => exact ⟨fun _ => hsame, fun _ => rfl⟩
  . next hne => exact ⟨nofun, fun hsame => absurd hsame hne⟩

theorem loadIdentity_of_half (h : t.IsHalf) : t.loadIdentity files = .error .halfIdentity := by
  unfold IsHalf at h
  unfold loadIdentity
  cases hcert : t.clientCert with
  | none =>
    cases hkey : t.clientKey with
    | none => simp [hcert, hkey] at h
    | some key => rfl
  | some certificate =>
    cases hkey : t.clientKey with
    | none => rfl
    | some key => simp [hcert, hkey] at h

theorem loadIdentity_eq_halfIdentity_iff
    : t.loadIdentity files = .error .halfIdentity ↔ t.IsHalf := by
  refine ⟨?_, loadIdentity_of_half⟩
  intro h
  by_contra hhalf
  exact (ofFiles_of_loadIdentity (validate_eq_ok_iff.mpr hhalf) h).ne_halfIdentity rfl

theorem of_loadIdentity (h : t.loadIdentity files = .ok identified)
    : ¬t.IsHalf ∧ (identified = true ↔ t.IsWhole) := by
  constructor
  . intro hhalf
    rw [loadIdentity_of_half hhalf] at h
    cases h
  . unfold loadIdentity at h
    unfold IsWhole
    split at h
    . next hcert hkey =>
      obtain ⟨_, _, h⟩ := ok_of_bind h
      obtain ⟨_, _, h⟩ := ok_of_bind h
      obtain ⟨_, _, h⟩ := ok_of_bind h
      cases h
      simp [hcert, hkey]
    . next hcert hkey =>
      cases h
      simp [hcert, hkey]
    . cases h

theorem setup_of_insecure (h : t.insecure = true)
    : t.setup files = .ok { trust := .anyServer, identified := false } := by
  exact if_pos h

theorem setup_of_secure (h : t.insecure = false)
    : t.setup files
        =
      (t.loadTrust files >>= fun trust =>
        t.loadIdentity files >>= fun identified => .ok { trust, identified }) := by
  unfold setup
  rw [h]
  rfl

theorem of_setup (hsecure : t.insecure = false) (h : t.setup files = .ok setup)
    : ¬t.IsHalf ∧ (setup.identified = true ↔ t.IsWhole) := by
  rw [setup_of_secure hsecure] at h
  obtain ⟨trust, _, h⟩ := ok_of_bind h
  obtain ⟨identified, hidentity, h⟩ := ok_of_bind h
  cases h
  exact of_loadIdentity hidentity

theorem loadTrust_ne_halfIdentity : t.loadTrust files ≠ .error .halfIdentity := by
  exact fun h => (ofFiles_of_loadTrust h).ne_halfIdentity rfl

theorem setup_eq_halfIdentity_iff
    : t.setup files = .error .halfIdentity
        ↔
      t.insecure = false ∧ t.IsHalf ∧ ∃ trust, t.loadTrust files = .ok trust := by
  constructor
  . intro h
    cases hinsecure : t.insecure with
    | true =>
      rw [setup_of_insecure hinsecure] at h
      cases h
    | false =>
      rw [setup_of_secure hinsecure] at h
      rcases error_of_bind h with h | ⟨trust, htrust, h⟩
      . exact absurd h loadTrust_ne_halfIdentity
      rcases error_of_bind h with h | ⟨_, _, h⟩
      . exact ⟨rfl, loadIdentity_eq_halfIdentity_iff.mp h, trust, htrust⟩
      . cases h
  . rintro ⟨hinsecure, hhalf, trust, htrust⟩
    rw [setup_of_secure hinsecure, htrust]
    change t.loadIdentity files >>= _ = _
    rw [loadIdentity_of_half hhalf]
    rfl

/-- Settings that are accepted and not valid have half an identity, and all servers are trusted. -/
theorem accepts_invalid_iff
    : (∃ setup, t.setup files = .ok setup) ∧ t.validate ≠ .ok ()
        ↔
      t.insecure = true ∧ t.IsHalf := by
  rw [Ne, validate_eq_ok_iff, not_not]
  constructor
  . rintro ⟨⟨setup, h⟩, hhalf⟩
    cases hinsecure : t.insecure with
    | true => exact ⟨rfl, hhalf⟩
    | false => exact absurd hhalf (of_setup hinsecure h).1
  . rintro ⟨hinsecure, hhalf⟩
    exact ⟨⟨_, setup_of_insecure hinsecure⟩, hhalf⟩

theorem identified_iff (h : t.setup files = .ok setup)
    : setup.identified = true ↔ t.insecure = false ∧ t.IsWhole := by
  cases hinsecure : t.insecure with
  | true =>
    rw [setup_of_insecure hinsecure] at h
    cases h
    exact ⟨nofun, nofun⟩
  | false =>
    rw [(of_setup hinsecure h).2]
    exact ⟨fun hwhole => ⟨rfl, hwhole⟩, fun hwhole => hwhole.2⟩

end TlsSettings

theorem Settings.setup_of_route {s : Settings} {files : FileTree} {route : Route}
    (hsecure : s.scheme? = some .secure) (h : s.route files = .ok route)
    : ∃ setup, s.tls.setup files = .ok setup ∧ route.trust = some setup.trust := by
  unfold Settings.route at h
  rw [hsecure] at h
  dsimp only at h
  cases hsetup : s.tls.setup files with
  | error fault =>
    rw [hsetup] at h
    cases h
  | ok setup =>
    rw [hsetup] at h
    cases h
    exact ⟨setup, rfl, rfl⟩

namespace World

variable {settings : Settings} {acts : List Act} {session : Session}

theorem setup_of_session (hsecure : settings.scheme? = some .secure)
    (hs : session ∈ ((World.start settings).run acts).client.sessions)
    : ∃ route files setup,
        ((World.start settings).run acts).Opens session.generation route files
        ∧ settings.tls.setup files = .ok setup ∧ route.trust = some setup.trust := by
  obtain ⟨route, files, hopens⟩ := (Routed.run settings acts).opens hs
  have hroute := hopens.route_eq
  rw [settings_run] at hroute
  obtain ⟨setup, hsetup, htrust⟩ := Settings.setup_of_route hsecure hroute
  exact ⟨route, files, setup, hopens, hsetup, htrust⟩

end World

namespace TlsSettings

/--
Settings that a client can be set up with are valid, whatever is in the files, unless all servers
are trusted: with half an identity a client is set up then, and only then. A client has an identity
once it is set up if both parts are named, but none if all servers are trusted. Half an identity is
refused as such as soon as it is known whom to trust. In every run, each session over a secure
address was begun by an operation that set the client up, and the settings were valid or the client
had no identity.
-/
theorem identity_checks_agree (t : TlsSettings) (files : FileTree)
    : ((∃ setup, t.setup files = .ok setup) ∧ t.validate ≠ .ok ()
        ↔
      t.insecure = true ∧ t.IsHalf)
      ∧ (∀ setup, t.setup files = .ok setup →
        (setup.identified = true ↔ t.insecure = false ∧ t.IsWhole))
      ∧ (t.setup files = .error .halfIdentity
          ↔
        t.insecure = false ∧ t.IsHalf ∧ ∃ trust, t.loadTrust files = .ok trust)
      ∧ ∀ settings acts session, settings.tls = t → settings.scheme? = some .secure →
        session ∈ ((World.start settings).run acts).client.sessions →
        ∃ route found setup,
          ((World.start settings).run acts).Opens session.generation route found
          ∧ t.setup found = .ok setup ∧ route.trust = some setup.trust
          ∧ (t.validate = .ok () ∨ t.insecure = true ∧ setup.identified = false) := by
  refine ⟨accepts_invalid_iff, fun _ => identified_iff, setup_eq_halfIdentity_iff, ?_⟩
  rintro settings acts session rfl hsecure hs
  obtain ⟨route, found, setup, hopens, hsetup, htrust⟩ := World.setup_of_session hsecure hs
  refine ⟨route, found, setup, hopens, hsetup, htrust, ?_⟩
  by_cases hvalid : settings.tls.validate = .ok ()
  . exact .inl hvalid
  . obtain ⟨hinsecure, _⟩ := accepts_invalid_iff.mp ⟨⟨setup, hsetup⟩, hvalid⟩
    rw [setup_of_insecure hinsecure] at hsetup
    cases hsetup
    exact .inr ⟨hinsecure, rfl⟩

/--
A key alone is refused as half an identity. A client that trusts all servers starts a session without
an identity.
-/
theorem identity_checks_agree_anyServer
    : let t : TlsSettings := { clientKey := some (.ofText "client.key") }
      let settings : Settings := { url := "wss://a", tls := { insecure := true } }
      let net : Network :=
        { reachable := true, hosts := ["a"], port := 443, reception := .secure default }
      let acts : List Act :=
        [.begin (.connect (.ofSecs 15) net {}), .advance 0, .advance 0, .advance 0, .advance 0,
          .advance 0]
      t.setup {} = .error .halfIdentity
        ∧ ∃ session ∈ ((World.start settings).run acts).client.sessions, ∃ route found,
          ((World.start settings).run acts).Opens session.generation route found
            ∧ route.trust = some .anyServer := by
  intro t settings net acts
  constructor
  . obtain ⟨_, _, hrefused, _⟩ := identity_checks_agree t {}
    exact hrefused.mpr ⟨rfl, by unfold IsHalf; decide, .webAuthorities, rfl⟩
  . have hsecure : settings.scheme? = some .secure := by decide +kernel
    have hone : ((World.start settings).run acts).client.sessions.length = 1 := by
      dsimp only [acts, net, settings]
      decide +kernel
    obtain ⟨session, hs⟩ :=
      List.exists_mem_of_length_pos (Nat.lt_of_lt_of_eq Nat.one_pos hone.symm)
    obtain ⟨_, _, _, hsession⟩ := identity_checks_agree settings.tls {}
    obtain ⟨route, found, setup, hopens, hsetup, htrust, _⟩ :=
      hsession settings acts session rfl hsecure hs
    rw [setup_of_insecure rfl] at hsetup
    cases hsetup
    exact ⟨session, hs, route, found, hopens, htrust⟩

/-- A client that trusts all servers connects with settings that are not valid. -/
theorem half_identity_accepted
    : let t : TlsSettings := { clientKey := some (.ofText "client.key"), insecure := true }
      let settings : Settings := { url := "wss://a", tls := t }
      let net : Network :=
        { reachable := true, hosts := ["a"], port := 443, reception := .secure default }
      (∃ setup, t.setup {} = .ok setup)
        ∧ t.validate = .error .halfIdentity
        ∧ (({ settings } : Client).connectDefault net {}).1 = .ok () := by
  intro t settings net
  refine ⟨⟨_, setup_of_insecure rfl⟩, rfl, ?_⟩
  decide +kernel

end TlsSettings
end CallWire
