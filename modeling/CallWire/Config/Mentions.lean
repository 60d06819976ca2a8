import CallWire.Config.Settings
/-!
This module contains what a source of settings says: a value for some of the settings, and nothing
about the others.
-/

namespace CallWire

structure Mentions where
  url : Option String := none
  connectTimeout : Option Duration := none
  requestTimeout : Option (Option Duration) := none
  autoConnect : Option Bool := none
  maxFrameSize : Option Nat := none
  caCert : Option (Option Path) := none
  clientCert : Option (Option Path) := none
  clientKey : Option (Option Path) := none
  insecure : Option Bool := none
  deriving DecidableEq, Repr, Inhabited

def Settings.override (s : Settings) (m : Mentions) : Settings where
  url := m.url.getD s.url
  connectTimeout := m.connectTimeout.getD s.connectTimeout
  requestTimeout := m.requestTimeout.getD s.requestTimeout
  autoConnect := m.autoConnect.getD s.autoConnect
  maxFrameSize := m.maxFrameSize.getD s.maxFrameSize
  tls :=
    { caCert := m.caCert.getD s.tls.caCert
      clientCert := m.clientCert.getD s.tls.clientCert
      clientKey := m.clientKey.getD s.tls.clientKey
      insecure := m.insecure.getD s.tls.insecure }

@[simp]
theorem Settings.override_empty (s : Settings) : s.override {} = s := rfl

end CallWire
