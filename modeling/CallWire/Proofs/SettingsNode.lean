import CallWire.Config.Document
import CallWire.Proofs.Texts
import CallWire.Proofs.YamlValues

/-!
This module contains what a file keeps of settings, which is all but parts of seconds and
milliseconds, and that it is what the data of a file are read as.
-/

namespace CallWire

namespace Duration

variable {d : Duration} {n : Nat}

theorem secs_ofSecs (n : Nat) : (ofSecs n).secs = n := Nat.mul_div_cancel n (by decide)

theorem millis_ofMillis (n : Nat) : (ofMillis n).millis = n := Nat.mul_div_cancel n (by decide)

theorem ofSecs_secs_iff : ofSecs d.secs = d ↔ 10 ^ 9 ∣ d.nanos := by
  obtain ⟨nanos⟩ := d
  unfold ofSecs secs
  rw [mk.injEq]
  dsimp only
  exact ⟨fun h => h ▸ Nat.dvd_mul_left _ _, Nat.div_mul_cancel⟩

theorem ofMillis_millis_iff : ofMillis d.millis = d ↔ 10 ^ 6 ∣ d.nanos := by
  obtain ⟨nanos⟩ := d
  unfold ofMillis millis
  rw [mk.injEq]
  dsimp only
  exact ⟨fun h => h ▸ Nat.dvd_mul_left _ _, Nat.div_mul_cancel⟩

end Duration

namespace Settings

variable {s : Settings} {d : Duration} {text : String}

theorem savedMillis_lt (d : Duration) : savedMillis d < 2 ^ 64 := Nat.mod_lt _ (by decide)

theorem savedMillis_ofMillis {n : Nat} (h : n < 2 ^ 64) : savedMillis (.ofMillis n) = n := by
  unfold savedMillis
  rw [Duration.millis_ofMillis, Nat.mod_eq_of_lt h]

theorem savedMillis_savedMillis (d : Duration)
    : savedMillis (.ofMillis (savedMillis d)) = savedMillis d := by
  exact savedMillis_ofMillis (savedMillis_lt d)

theorem ofMillis_savedMillis_iff
    : Duration.ofMillis (savedMillis d) = d ↔ 10 ^ 6 ∣ d.nanos ∧ d.millis < 2 ^ 64 := by
  constructor
  . intro h
    have hmillis : d.millis = savedMillis d :=
      (congrArg Duration.millis h).symm.trans (Duration.millis_ofMillis _)
    rw [← hmillis] at h
    exact ⟨Duration.ofMillis_millis_iff.mp h, hmillis ▸ savedMillis_lt d⟩
  . rintro ⟨hwhole, hfits⟩
    have hmillis : savedMillis d = d.millis := Nat.mod_eq_of_lt hfits
    rw [hmillis]
    exact Duration.ofMillis_millis_iff.mpr hwhole

/-- Settings as a file keeps them, with the spans of time that it can tell. -/
def kept (s : Settings) : Settings :=
  { s with
    connectTimeout := .ofSecs s.connectTimeout.secs
    requestTimeout := s.requestTimeout.map (fun d => .ofMillis (savedMillis d)) }

theorem kept_eq_iff
    : s.kept = s
        ↔
      10 ^ 9 ∣ s.connectTimeout.nanos
        ∧ ∀ d ∈ s.requestTimeout, 10 ^ 6 ∣ d.nanos ∧ d.millis < 2 ^ 64 := by
  obtain ⟨url, connectTimeout, requestTimeout, autoConnect, maxFrameSize, tls⟩ := s
  unfold kept
  simp only [mk.injEq, true_and, and_true, Duration.ofSecs_secs_iff]
  apply and_congr_right'
  cases requestTimeout with
  | none => simp
  | some d => simp [ofMillis_savedMillis_iff]

theorem kept_kept (s : Settings) : s.kept.kept = s.kept := by
  rw [kept_eq_iff]
  refine ⟨Nat.dvd_mul_left _ _, ?_⟩
  intro d hd
  obtain ⟨d', _, rfl⟩ := Option.map_eq_some_iff.mp hd
  refine ⟨Nat.dvd_mul_left _ _, ?_⟩
  rw [Duration.millis_ofMillis]
  exact savedMillis_lt d'

theorem toYaml?_kept (s : Settings) : s.kept.toYaml? = s.toYaml? := by
  have hmillis : optionText (fun d => wordText (savedMillis d)) s.kept.requestTimeout
      = optionText (fun d => wordText (savedMillis d)) s.requestTimeout := by
    unfold kept
    cases s.requestTimeout with
    | none => rfl
    | some d =>
      dsimp only [Option.map_some, optionText]
      rw [savedMillis_savedMillis]
  unfold toYaml?
  rw [hmillis]
  unfold kept
  dsimp only
  rw [Duration.secs_ofSecs]

def written (s : Settings) : Mentions where
  url := some s.kept.url
  connectTimeout := some s.kept.connectTimeout
  requestTimeout := some s.kept.requestTimeout
  autoConnect := some s.kept.autoConnect
  maxFrameSize := some s.kept.maxFrameSize
  caCert := some s.kept.tls.caCert
  clientCert := some s.kept.tls.clientCert
  clientKey := some s.kept.tls.clientKey
  insecure := some s.kept.tls.insecure

theorem override_written (base s : Settings) : base.override s.written = s.kept := rfl

def boolNode (b : Bool) : Yaml.Node := Yaml.plainNode (if b then "true" else "false")

def optionNode {α} (node : α → Yaml.Node) : Option α → Yaml.Node
  | none => Yaml.plainNode "null"
  | some a => node a

def pathNode (path : Option Path) : Yaml.Node :=
  optionNode (fun path => Yaml.textNode (path.text?.getD "")) path

def mappingNode (members : List (String × Yaml.Node)) : Yaml.Node :=
  .mapping (members.map (fun (key, value) => (Yaml.plainNode key, value)))

def tlsMembers (s : Settings) : List (String × Yaml.Node) :=
  [("ca_cert_path", pathNode s.tls.caCert), ("client_cert_path", pathNode s.tls.clientCert),
    ("client_key_path", pathNode s.tls.clientKey), ("insecure", boolNode s.tls.insecure)]

def members (s : Settings) : List (String × Yaml.Node) :=
  [("url", Yaml.textNode s.url),
    ("connect_timeout_secs", Yaml.plainNode s.connectTimeout.secs.repr),
    ("request_timeout_ms",
      optionNode (fun d => Yaml.plainNode (savedMillis d).repr) s.requestTimeout),
    ("auto_connect", boolNode s.autoConnect),
    ("max_frame_size", Yaml.plainNode s.maxFrameSize.repr),
    ("tls", mappingNode s.tlsMembers)]

def node (s : Settings) : Yaml.Node := mappingNode s.members

theorem readMembers_mappingNode (d : Yaml.Document) (members : List (String × Yaml.Node))
    : Yaml.readMembers d (mappingNode members) = some members := by
  unfold Yaml.readMembers mappingNode Yaml.Document.follow
  dsimp only
  induction members with
  | nil => rfl
  | cons member members ih =>
    rw [List.map_cons, List.mapM_cons, ih]
    rfl

theorem readBool_boolNode (d : Yaml.Document) (b : Bool)
    : Yaml.readBool d (boolNode b) = some b := by
  cases b with
  | true => rfl
  | false => rfl

def HasTextPaths (s : Settings) : Prop := ∀ path ∈ s.tls.paths, ∃ text, path.text? = some text

theorem HasTextPaths.exists_toYaml? (h : s.HasTextPaths) : ∃ text, s.toYaml? = some text := by
  have hpath (option : Option Path)
      (hoption : option ∈ [s.tls.caCert, s.tls.clientCert, s.tls.clientKey])
      : ∃ chars, pathText? option = some chars := by
    cases option with
    | none => exact ⟨_, rfl⟩
    | some path =>
      obtain ⟨text, htext⟩ := h path (List.mem_filterMap.mpr ⟨_, hoption, rfl⟩)
      exact ⟨_, Option.map_eq_some_iff.mpr ⟨text, htext, rfl⟩⟩
  obtain ⟨caCert, hca⟩ := hpath s.tls.caCert (by simp)
  obtain ⟨clientCert, hcert⟩ := hpath s.tls.clientCert (by simp)
  obtain ⟨clientKey, hkey⟩ := hpath s.tls.clientKey (by simp)
  unfold toYaml?
  rw [hca, hcert, hkey]
  exact ⟨_, rfl⟩

theorem HasTextPaths.of_toYaml? (h : s.toYaml? = some text) : s.HasTextPaths := by
  unfold toYaml? at h
  obtain ⟨caCert, hca, h⟩ := Option.bind_eq_some_iff.mp h
  obtain ⟨clientCert, hcert, h⟩ := Option.bind_eq_some_iff.mp h
  obtain ⟨clientKey, hkey, _⟩ := Option.bind_eq_some_iff.mp h
  have hpath {option : Option Path} {chars : List Char} (hchars : pathText? option = some chars)
      : ∀ path ∈ option, ∃ text, path.text? = some text := by
    rintro path rfl
    obtain ⟨text, htext, _⟩ := Option.map_eq_some_iff.mp hchars
    exact ⟨text, htext⟩
  intro path hmem
  obtain ⟨option, hoption, hsome⟩ := List.mem_filterMap.mp hmem
  simp only [List.mem_cons, List.not_mem_nil, or_false] at hoption
  rcases hoption with rfl | rfl | rfl
  . exact hpath hca path hsome
  . exact hpath hcert path hsome
  . exact hpath hkey path hsome

theorem readOption_pathNode {d : Yaml.Document} {option : Option Path}
    (h : ∀ path ∈ option, ∃ text, path.text? = some text)
    : Yaml.readOption (fun d node => (Yaml.readText d node).map Path.ofText) d (pathNode option)
        =
      some option := by
  cases option with
  | none => rfl
  | some path =>
    obtain ⟨text, htext⟩ := h path rfl
    unfold pathNode optionNode
    dsimp only
    rw [htext, Option.getD_some]
    apply Yaml.readOption_textNode
    rw [Yaml.readText_textNode, Option.map_some, Path.ofText_of_text? htext]

theorem readOption_millis (d : Yaml.Document) (span : Option Duration)
    : Yaml.readOption Yaml.readWord d
        (optionNode (fun d => Yaml.plainNode (savedMillis d).repr) span)
        =
      some (span.map savedMillis) := by
  cases span with
  | none => rfl
  | some span => exact Yaml.readOption_repr d (savedMillis_lt span)

theorem nodup_tlsMembers (s : Settings) : (s.tlsMembers.map Prod.fst).Nodup := by
  change ["ca_cert_path", "client_cert_path", "client_key_path", "insecure"].Nodup
  decide

theorem nodup_members (s : Settings) : (s.members.map Prod.fst).Nodup := by
  change ["url", "connect_timeout_secs", "request_timeout_ms", "auto_connect", "max_frame_size",
    "tls"].Nodup
  decide

theorem readTls_tlsMembers {d : Yaml.Document} {m : Mentions} (hpaths : s.HasTextPaths)
    : Mentions.readTls d (mappingNode s.tlsMembers) m
        =
      some { m with
        caCert := some s.tls.caCert
        clientCert := some s.tls.clientCert
        clientKey := some s.tls.clientKey
        insecure := some s.tls.insecure } := by
  have hpath (key : String) (option : Option Path)
      (hoption : option ∈ [s.tls.caCert, s.tls.clientCert, s.tls.clientKey])
      (hmem : (key, pathNode option) ∈ s.tlsMembers)
      : Yaml.readMember
          (Yaml.readOption (fun d node => (Yaml.readText d node).map Path.ofText)) d s.tlsMembers key
          =
        some (some option) := by
    apply Yaml.readMember_of_mem (nodup_tlsMembers s) hmem
    apply readOption_pathNode
    rintro path rfl
    exact hpaths path (List.mem_filterMap.mpr ⟨_, hoption, rfl⟩)
  have hca := hpath "ca_cert_path" s.tls.caCert (by simp) (by simp [tlsMembers])
  have hcert := hpath "client_cert_path" s.tls.clientCert (by simp) (by simp [tlsMembers])
  have hkey := hpath "client_key_path" s.tls.clientKey (by simp) (by simp [tlsMembers])
  have hinsecure : Yaml.readMember Yaml.readBool d s.tlsMembers "insecure"
      = some (some s.tls.insecure) :=
    Yaml.readMember_of_mem (nodup_tlsMembers s) (by simp [tlsMembers]) (readBool_boolNode d _)
  unfold Mentions.readTls
  rw [readMembers_mappingNode]
  dsimp only [Option.bind_eq_bind, Option.bind_some]
  rw [hca, hcert, hkey, hinsecure]
  rfl

theorem readNode_node {d : Yaml.Document} (hpaths : s.HasTextPaths)
    (hsecs : s.connectTimeout.secs < 2 ^ 64) (hframe : s.maxFrameSize < 2 ^ 64)
    : Mentions.readNode d s.node = some s.written := by
  have hurl : Yaml.readMember Yaml.readText d s.members "url" = some (some s.url) :=
    Yaml.readMember_of_mem (nodup_members s) (by simp [members]) (Yaml.readText_textNode d _)
  have hconnect : Yaml.readMember Yaml.readWord d s.members "connect_timeout_secs"
      = some (some s.connectTimeout.secs) :=
    Yaml.readMember_of_mem (nodup_members s) (by simp [members]) (Yaml.readWord_repr d hsecs)
  have hrequest : Yaml.readMember (Yaml.readOption Yaml.readWord) d s.members "request_timeout_ms"
      = some (some (s.requestTimeout.map savedMillis)) :=
    Yaml.readMember_of_mem (nodup_members s) (by simp [members]) (readOption_millis d _)
  have hauto : Yaml.readMember Yaml.readBool d s.members "auto_connect"
      = some (some s.autoConnect) :=
    Yaml.readMember_of_mem (nodup_members s) (by simp [members]) (readBool_boolNode d _)
  have hsize : Yaml.readMember Yaml.readWord d s.members "max_frame_size"
      = some (some s.maxFrameSize) :=
    Yaml.readMember_of_mem (nodup_members s) (by simp [members]) (Yaml.readWord_repr d hframe)
  have htls : Yaml.readMember (fun _ node => some node) d s.members "tls"
      = some (some (mappingNode s.tlsMembers)) :=
    Yaml.readMember_of_mem (nodup_members s) (by simp [members]) rfl
  unfold Mentions.readNode node
  rw [readMembers_mappingNode]
  dsimp only [Option.bind_eq_bind, Option.bind_some]
  rw [hurl, hconnect, hrequest, hauto, hsize, htls]
  dsimp only [Option.bind_some]
  rw [readTls_tlsMembers hpaths]
  cases hspan : s.requestTimeout <;> simp [written, kept, hspan]

end Settings
end CallWire
