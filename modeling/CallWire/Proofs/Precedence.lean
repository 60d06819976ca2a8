import CallWire.Proofs.NumberLiteral
import CallWire.Proofs.ProgramSettings
import Mathlib.Data.List.Forall2

/-!
This module contains where each setting comes from when settings are loaded: from its variable if
that says anything about it, or else from the file that is named if that mentions it, or else it is
the default. No setting depends on the variable of another one.
-/

namespace CallWire

inductive Setting where
  | url
  | connectTimeout
  | requestTimeout
  | autoConnect
  | maxFrameSize
  | caCert
  | clientCert
  | clientKey
  | insecure
  deriving DecidableEq

def WritesNumber (text : String) (n : Nat) : Prop :=
  ∃ digits : Numeral.Digits,
    (text.toList = digits.chars ∨ text.toList = '+' :: digits.chars) ∧ digits.value = n

def WritesWord (text : String) (n : Nat) : Prop := WritesNumber text n ∧ n < 2 ^ 64

def SaysYes (text : String) : Prop :=
  text = "1" ∨ List.Forall₂ (fun c letter => c = letter ∨ c = letter.toUpper) text.toList
    ['t', 'r', 'u', 'e']

namespace Setting

abbrev Value : Setting → Type
  | url => String
  | connectTimeout => Duration
  | requestTimeout => Option Duration
  | autoConnect => Bool
  | maxFrameSize => Nat
  | caCert => Option Path
  | clientCert => Option Path
  | clientKey => Option Path
  | insecure => Bool

def of : (k : Setting) → Settings → k.Value
  | url, s => s.url
  | connectTimeout, s => s.connectTimeout
  | requestTimeout, s => s.requestTimeout
  | autoConnect, s => s.autoConnect
  | maxFrameSize, s => s.maxFrameSize
  | caCert, s => s.tls.caCert
  | clientCert, s => s.tls.clientCert
  | clientKey, s => s.tls.clientKey
  | insecure, s => s.tls.insecure

def mention : (k : Setting) → Mentions → Option k.Value
  | url, m => m.url
  | connectTimeout, m => m.connectTimeout
  | requestTimeout, m => m.requestTimeout
  | autoConnect, m => m.autoConnect
  | maxFrameSize, m => m.maxFrameSize
  | caCert, m => m.caCert
  | clientCert, m => m.clientCert
  | clientKey, m => m.clientKey
  | insecure, m => m.insecure

def variableName : Setting → String
  | url => "SURREALRPC_URL"
  | connectTimeout => "SURREALRPC_CONNECT_TIMEOUT"
  | requestTimeout => "SURREALRPC_REQUEST_TIMEOUT_MS"
  | autoConnect => "SURREALRPC_AUTO_CONNECT"
  | maxFrameSize => "SURREALRPC_MAX_FRAME_SIZE"
  | caCert => "SURREALRPC_TLS_CA_CERT"
  | clientCert => "SURREALRPC_TLS_CLIENT_CERT"
  | clientKey => "SURREALRPC_TLS_CLIENT_KEY"
  | insecure => "SURREALRPC_TLS_INSECURE"

/-- What the text of its variable says of a setting. -/
def Says : (k : Setting) → String → k.Value → Prop
  | url, text, v => v = text
  | connectTimeout, text, v => ∃ n, WritesWord text n ∧ v = .ofSecs n
  | requestTimeout, text, v => ∃ n, WritesWord text n ∧ v = some (.ofMillis n)
  | autoConnect, text, v => v = true ↔ SaysYes text
  | maxFrameSize, text, v =>
    ∃ n, WritesWord text n ∧ v = max minFrameSizeLimit (min n maxFrameSizeLimit)
  | caCert, text, v => v = some (.ofText text)
  | clientCert, text, v => v = some (.ofText text)
  | clientKey, text, v => v = some (.ofText text)
  | insecure, text, v => v = true ↔ SaysYes text

def isInTls : Setting → Bool
  | caCert => true
  | clientCert => true
  | clientKey => true
  | insecure => true
  | _ => false

def key : Setting → String
  | url => "url"
  | connectTimeout => "connect_timeout_secs"
  | requestTimeout => "request_timeout_ms"
  | autoConnect => "auto_connect"
  | maxFrameSize => "max_frame_size"
  | caCert => "ca_cert_path"
  | clientCert => "client_cert_path"
  | clientKey => "client_key_path"
  | insecure => "insecure"

def readPath : Yaml.NodeReading (Option Path) :=
  Yaml.readOption (fun d node => (Yaml.readText d node).map .ofText)

def read : (k : Setting) → Yaml.NodeReading k.Value
  | url => Yaml.readText
  | connectTimeout => fun d node => (Yaml.readWord d node).map .ofSecs
  | requestTimeout => fun d node =>
    (Yaml.readOption Yaml.readWord d node).map (·.map .ofMillis)
  | autoConnect => Yaml.readBool
  | maxFrameSize => Yaml.readWord
  | caCert => readPath
  | clientCert => readPath
  | clientKey => readPath
  | insecure => Yaml.readBool

end Setting

def Yaml.HasMember (d : Document) (mapping : Node) (key : String) (node : Node) : Prop :=
  ∃ members, readMembers d mapping = some members ∧ (key, node) ∈ members

/-- A mapping gives a member once at most, and the node that it gives is read. -/
def Yaml.MemberReads {α : Type} (read : NodeReading α) (d : Document)
    (members : List (String × Node)) (key : String) : Prop :=
  members.countP (·.1 = key) ≤ 1 ∧ ∀ node, (key, node) ∈ members → ∃ v, read d node = some v

namespace Setting

def PartReads (inTls : Bool) (d : Yaml.Document) (members : List (String × Yaml.Node)) : Prop :=
  ∀ k : Setting, k.isInTls = inTls → Yaml.MemberReads k.read d members k.key

/-- A node is a mapping of settings, and its member `tls` is one of the other settings. -/
structure NodeReads (d : Yaml.Document) (root : Yaml.Node) (members : List (String × Yaml.Node)) :
    Prop where
  mapping : Yaml.readMembers d root = some members
  part : PartReads false d members
  once : members.countP (·.1 = "tls") ≤ 1
  tls : ∀ tls, ("tls", tls) ∈ members →
    ∃ inner, Yaml.readMembers d tls = some inner ∧ PartReads true d inner

def IsFile (text : String) : Prop :=
  ∃ d, Yaml.document? text = some d ∧ ∀ root, d.root = some root → ∃ members, NodeReads d root members

/-- A node is what a file gives for a setting. -/
def Told (k : Setting) (d : Yaml.Document) (root node : Yaml.Node) : Prop :=
  match k.isInTls with
  | false => Yaml.HasMember d root k.key node
  | true => ∃ tls, Yaml.HasMember d root "tls" tls ∧ Yaml.HasMember d tls k.key node

theorem of_override (k : Setting) (s : Settings) (m : Mentions)
    : k.of (s.override m) = (k.mention m).getD (k.of s) := by
  cases k <;> rfl

theorem eq_of_mention {m m' : Mentions} (h : ∀ k : Setting, k.mention m = k.mention m')
    : m = m' := by
  obtain ⟨_, _, _, _, _, _, _, _, _⟩ := m
  obtain ⟨_, _, _, _, _, _, _, _, _⟩ := m'
  rw [Mentions.mk.injEq]
  exact ⟨h .url, h .connectTimeout, h .requestTimeout, h .autoConnect, h .maxFrameSize, h .caCert,
    h .clientCert, h .clientKey, h .insecure⟩

theorem config_ne_variableName (k : Setting) : "SURREALRPC_CONFIG" ≠ k.variableName := by
  cases k <;> decide

theorem variableName_injective {j k : Setting} (h : j.variableName = k.variableName) : j = k := by
  cases j <;> cases k <;> first | rfl | (revert h; decide)

end Setting

namespace Environment

variable {env env' : Environment} {name : String}

theorem foldl_eq_ofDigitChars (digits : List Char)
    : digits.foldl (fun n c => n * 10 + (c.toNat - '0'.toNat)) 0
        =
      Nat.ofDigitChars 10 digits 0 := by
  unfold Nat.ofDigitChars
  congr 1
  funext n c
  rw [Nat.mul_comm]

theorem exists_digits_iff {digits : List Char}
    : (∃ d : Numeral.Digits, digits = d.chars)
        ↔
      ¬(digits.isEmpty || !digits.all Char.isDigit) = true := by
  simp only [Bool.or_eq_true, Bool.not_eq_true', not_or, Bool.not_eq_false, List.isEmpty_iff,
    List.all_eq_true]
  constructor
  . rintro ⟨d, rfl⟩
    exact ⟨d.nonempty, d.digit⟩
  . rintro ⟨hnonempty, hdigit⟩
    exact ⟨⟨digits, hnonempty, hdigit⟩, rfl⟩

theorem wordOf_digits_eq_some_iff {digits : List Char} {n : Nat}
    : (if digits.isEmpty || !digits.all Char.isDigit then none
        else
          let n := digits.foldl (fun n c => n * 10 + (c.toNat - '0'.toNat)) 0
          if n < 2 ^ 64 then some n else none) = some n
        ↔
      ∃ d : Numeral.Digits, digits = d.chars ∧ d.value = n ∧ n < 2 ^ 64 := by
  rw [foldl_eq_ofDigitChars]
  dsimp only
  split
  . next hnone =>
    constructor
    . intro h
      cases h
    . rintro ⟨d, hd, -⟩
      exact absurd hnone (exists_digits_iff.mp ⟨d, hd⟩)
  . next hdigits =>
    obtain ⟨d, rfl⟩ := exists_digits_iff.mpr hdigits
    rw [Option.ite_none_right_eq_some, Option.some.injEq]
    constructor
    . rintro ⟨hlt, rfl⟩
      exact ⟨d, rfl, rfl, hlt⟩
    . rintro ⟨d', hd, rfl, hlt⟩
      have hvalue : Nat.ofDigitChars 10 d.chars 0 = d'.value :=
        congrArg (Nat.ofDigitChars 10 · 0) hd
      rw [hvalue]
      exact ⟨hlt, rfl⟩

theorem word?_eq_some_iff {text : String} {n : Nat} : word? text = some n ↔ WritesWord text n := by
  have hplus (d : Numeral.Digits) (rest : List Char) : d.chars ≠ '+' :: rest := by
    intro hd
    have hdigit := d.digit '+' (by simp [hd])
    revert hdigit
    decide
  unfold word? WritesWord WritesNumber
  dsimp only
  split
  . next rest htext =>
    rw [wordOf_digits_eq_some_iff, htext]
    constructor
    . rintro ⟨d, rfl, hvalue, hlt⟩
      exact ⟨⟨d, .inr rfl, hvalue⟩, hlt⟩
    . rintro ⟨⟨d, hd | hd, hvalue⟩, hlt⟩
      . exact absurd hd.symm (hplus d rest)
      . exact ⟨d, (List.cons.inj hd).2, hvalue, hlt⟩
  . next hplain =>
    rw [wordOf_digits_eq_some_iff]
    constructor
    . rintro ⟨d, hd, hvalue, hlt⟩
      exact ⟨⟨d, .inl hd, hvalue⟩, hlt⟩
    . rintro ⟨⟨d, hd | hd, hvalue⟩, hlt⟩
      . exact ⟨d, hd, hvalue, hlt⟩
      . exact absurd hd (hplain _)

theorem toLower_eq_iff {letter : Char} (h : letter.isLower = true) (c : Char)
    : c.toLower = letter ↔ c = letter ∨ c = letter.toUpper := by
  have hrange : letter.isLower = (letter.val ≥ 'a'.val && letter.val ≤ 'z'.val) := rfl
  have hlower : 'a'.val ≤ letter.val ∧ letter.val ≤ 'z'.val := by
    rwa [hrange, Bool.and_eq_true, decide_eq_true_eq, decide_eq_true_eq] at h
  have hletter : 97 ≤ letter.val.toNat ∧ letter.val.toNat ≤ 122 := by
    simpa [UInt32.le_iff_toNat_le] using hlower
  have hupper : (c.val ≥ 'A'.val ∧ c.val ≤ 'Z'.val) ↔ 65 ≤ c.val.toNat ∧ c.val.toNat ≤ 90 := by
    simp [UInt32.le_iff_toNat_le]
  have hdown : ('a'.val - 'A'.val).toNat = 32 := rfl
  have hup : ('A'.val - 'a'.val).toNat = 2 ^ 32 - 32 := rfl
  unfold Char.toLower Char.toUpper
  rw [dif_pos hlower]
  simp only [Char.ext_iff, ← UInt32.toNat_inj, UInt32.toNat_add, hup]
  split
  . next hc =>
    have hcapital := hupper.mp hc
    dsimp only
    rw [UInt32.toNat_add, hdown]
    omega
  . next hc =>
    have hother := hupper.not.mp hc
    omega

theorem isYes_iff {text : String} : isYes text = true ↔ SaysYes text := by
  have hcasing : text.map Char.toLower = "true"
      ↔ List.Forall₂ (fun c letter => c = letter ∨ c = letter.toUpper) text.toList
          ['t', 'r', 'u', 'e'] := by
    have htrue : "true".toList = ['t', 'r', 'u', 'e'] := rfl
    rw [← String.toList_inj, String.toList_map, htrue, ← List.forall₂_eq_eq_eq]
    rw [List.forall₂_map_left_iff]
    simp [List.forall₂_cons_right_iff, toLower_eq_iff]
  unfold isYes SaysYes
  rw [Bool.or_eq_true, decide_eq_true_iff, decide_eq_true_iff, hcasing]

theorem map_text?_eq_some_iff {α : Type} {f : String → α} {v : α}
    : (env.text? name).map f = some v ↔ ∃ text, env.text? name = some text ∧ v = f text := by
  rw [Option.map_eq_some_iff]
  simp only [eq_comm]

theorem map_path?_eq_some_iff {v : Option Path}
    : (env.path? name).map some = some v
        ↔
      ∃ text, env.text? name = some text ∧ v = some (.ofText text) := by
  unfold path?
  rw [Option.map_map]
  exact map_text?_eq_some_iff

theorem map_word?_eq_some_iff {α : Type} {f : Nat → α} {v : α}
    : ((env.text? name).bind word?).map f = some v
        ↔
      ∃ text, env.text? name = some text ∧ ∃ n, WritesWord text n ∧ v = f n := by
  simp only [Option.map_eq_some_iff, Option.bind_eq_some_iff, word?_eq_some_iff]
  constructor
  . rintro ⟨n, ⟨text, htext, hn⟩, rfl⟩
    exact ⟨text, htext, n, hn, rfl⟩
  . rintro ⟨text, htext, n, hn, rfl⟩
    exact ⟨n, ⟨text, htext, hn⟩, rfl⟩

theorem map_isYes_eq_some_iff {v : Bool}
    : (env.text? name).map isYes = some v
        ↔
      ∃ text, env.text? name = some text ∧ (v = true ↔ SaysYes text) := by
  rw [Option.map_eq_some_iff]
  apply exists_congr
  intro text
  rw [← isYes_iff, ← Bool.eq_iff_iff, eq_comm (a := v)]

end Environment

namespace Setting

variable {k : Setting} {env : Environment}

theorem mention_mentions {v : k.Value}
    : k.mention env.mentions = some v
        ↔
      ∃ text, env.text? k.variableName = some text ∧ k.Says text v := by
  cases k with
  | url =>
    constructor
    . intro h
      exact ⟨v, h, rfl⟩
    . rintro ⟨text, htext, rfl⟩
      exact htext
  | connectTimeout => exact Environment.map_word?_eq_some_iff
  | requestTimeout => exact Environment.map_word?_eq_some_iff
  | autoConnect => exact Environment.map_isYes_eq_some_iff
  | maxFrameSize => exact Environment.map_word?_eq_some_iff
  | caCert => exact Environment.map_path?_eq_some_iff
  | clientCert => exact Environment.map_path?_eq_some_iff
  | clientKey => exact Environment.map_path?_eq_some_iff
  | insecure => exact Environment.map_isYes_eq_some_iff

end Setting

namespace Yaml

variable {d : Document} {mapping node : Node} {members : List (String × Node)} {key : String}

theorem hasMember_iff (hmembers : readMembers d mapping = some members)
    : HasMember d mapping key node ↔ (key, node) ∈ members := by
  unfold HasMember
  rw [hmembers]
  constructor
  . rintro ⟨_, hsame, hmem⟩
    rw [Option.some.inj hsame]
    exact hmem
  . intro hmem
    exact ⟨members, rfl, hmem⟩

theorem readMember_cases {α : Type} {read : NodeReading α} {o : Option α}
    (h : readMember read d members key = some o)
    : (o = none ∧ ∀ node, (key, node) ∉ members)
      ∨ ∃ node v, o = some v ∧ read d node = some v
          ∧ ∀ other, (key, other) ∈ members ↔ other = node := by
  have hmem : ∀ node, (key, node) ∈ members ↔ (key, node) ∈ members.filter (·.1 = key) := by
    intro node
    simp
  unfold readMember at h
  split at h
  . next hfilter =>
    cases h
    left
    refine ⟨rfl, ?_⟩
    intro node
    rw [hmem, hfilter]
    exact List.not_mem_nil
  . next k node hfilter =>
    obtain ⟨v, hv, rfl⟩ := Option.map_eq_some_iff.mp h
    obtain rfl : k = key := by
      have := List.mem_filter.mp (hfilter ▸ List.mem_singleton_self (k, node))
      simpa using this.2
    right
    refine ⟨node, v, rfl, hv, ?_⟩
    intro other
    rw [hmem, hfilter]
    simp
  . cases h

theorem memberReads_iff {α : Type} {read : NodeReading α}
    : MemberReads read d members key ↔ ∃ o, readMember read d members key = some o := by
  have hmem : ∀ node, (key, node) ∈ members ↔ (key, node) ∈ members.filter (·.1 = key) := by
    intro node
    simp
  have hkeys : ∀ member ∈ members.filter (·.1 = key), member.1 = key := by
    intro member hmember
    simpa using (List.mem_filter.mp hmember).2
  unfold MemberReads readMember
  simp only [hmem, List.countP_eq_length_filter]
  generalize members.filter (·.1 = key) = found at hkeys
  rcases found with _ | ⟨⟨k, node⟩, _ | ⟨second, more⟩⟩
  . simp
  . obtain rfl : k = key := hkeys _ List.mem_cons_self
    cases hread : read d node <;> simp [hread]
  . simp

theorem MemberReads.of_map {α β : Type} {read : NodeReading α} {f : α → β}
    (h : MemberReads (fun d node => (read d node).map f) d members key)
    : MemberReads read d members key := by
  refine ⟨h.1, ?_⟩
  intro node hnode
  obtain ⟨_, hv⟩ := h.2 node hnode
  obtain ⟨v, hv, _⟩ := Option.map_eq_some_iff.mp hv
  exact ⟨v, hv⟩

theorem readMember_map {α β : Type} {read : NodeReading α} {o : Option α} (f : α → β)
    (h : readMember read d members key = some o)
    : readMember (fun d node => (read d node).map f) d members key = some (o.map f) := by
  unfold readMember at h ⊢
  split at h
  . cases h
    rfl
  . next node hfilter =>
    obtain ⟨v, hv, rfl⟩ := Option.map_eq_some_iff.mp h
    dsimp only
    rw [hv]
    rfl
  . cases h

end Yaml

namespace Setting

variable {k : Setting} {d : Yaml.Document} {root : Yaml.Node} {m m' : Mentions}
variable {members : List (String × Yaml.Node)}

def Reads (inTls : Bool) (d : Yaml.Document) (members : List (String × Yaml.Node)) (m : Mentions) :
    Prop :=
  ∀ k : Setting, k.isInTls = inTls → Yaml.readMember k.read d members k.key = some (k.mention m)

theorem exists_reads_of_readTls (h : Mentions.readTls d root m = some m')
    : ∃ members, Yaml.readMembers d root = some members ∧ Reads true d members m'
        ∧ ∀ k : Setting, k.isInTls = false → k.mention m' = k.mention m := by
  unfold Mentions.readTls at h
  simp only [Option.bind_eq_bind, Option.bind_eq_some_iff] at h
  obtain ⟨members, hmembers, caCert, hcaCert, clientCert, hclientCert, clientKey, hclientKey,
    insecure, hinsecure, h⟩ := h
  cases h
  refine ⟨members, hmembers, ?_, ?_⟩
  . intro k hk
    cases k <;> cases hk
    . exact hcaCert
    . exact hclientCert
    . exact hclientKey
    . exact hinsecure
  . intro k hk
    cases k <;> cases hk <;> rfl

theorem exists_reads_of_readNode (h : Mentions.readNode d root = some m)
    : ∃ members, Yaml.readMembers d root = some members ∧ Reads false d members m
        ∧ (((∀ tls, ("tls", tls) ∉ members)
              ∧ ∀ k : Setting, k.isInTls = true → k.mention m = none)
            ∨ ∃ tls inner, (∀ other, ("tls", other) ∈ members ↔ other = tls)
                ∧ Yaml.readMembers d tls = some inner ∧ Reads true d inner m) := by
  unfold Mentions.readNode at h
  simp only [Option.bind_eq_bind, Option.bind_eq_some_iff] at h
  obtain ⟨members, hmembers, url, hurl, secs, hsecs, millis, hmillis, auto, hauto, size, hsize,
    tls?, htls, h⟩ := h
  have htop : Reads false d members
      { url, autoConnect := auto, maxFrameSize := size
        connectTimeout := secs.map .ofSecs
        requestTimeout := millis.map (·.map .ofMillis) } := by
    intro k hk
    cases k <;> cases hk
    . exact hurl
    . exact Yaml.readMember_map _ hsecs
    . exact Yaml.readMember_map _ hmillis
    . exact hauto
    . exact hsize
  refine ⟨members, hmembers, ?_⟩
  rcases Yaml.readMember_cases htls with ⟨rfl, habsent⟩ | ⟨tls, _, rfl, ⟨⟩, hunique⟩
  . cases h
    refine ⟨htop, .inl ⟨habsent, ?_⟩⟩
    intro k hk
    cases k <;> cases hk <;> rfl
  . obtain ⟨inner, hinner, hreads, hsame⟩ := exists_reads_of_readTls h
    refine ⟨?_, .inr ⟨tls, inner, hunique, hinner, hreads⟩⟩
    intro k hk
    rw [hsame k hk]
    exact htop k hk

theorem exists_readTls_iff
    : (∃ m', Mentions.readTls d root m = some m')
        ↔
      ∃ members, Yaml.readMembers d root = some members ∧ PartReads true d members := by
  constructor
  . rintro ⟨m', h⟩
    obtain ⟨members, hmembers, hreads, _⟩ := exists_reads_of_readTls h
    exact ⟨members, hmembers, fun k hk => Yaml.memberReads_iff.mpr ⟨_, hreads k hk⟩⟩
  . rintro ⟨members, hmembers, hreads⟩
    obtain ⟨caCert, hcaCert⟩ := Yaml.memberReads_iff.mp (hreads .caCert rfl)
    obtain ⟨clientCert, hclientCert⟩ := Yaml.memberReads_iff.mp (hreads .clientCert rfl)
    obtain ⟨clientKey, hclientKey⟩ := Yaml.memberReads_iff.mp (hreads .clientKey rfl)
    obtain ⟨insecure, hinsecure⟩ := Yaml.memberReads_iff.mp (hreads .insecure rfl)
    refine ⟨{ m with caCert, clientCert, clientKey, insecure }, ?_⟩
    unfold Mentions.readTls
    simp only [Option.bind_eq_bind, Option.bind_eq_some_iff]
    exact ⟨members, hmembers, caCert, hcaCert, clientCert, hclientCert, clientKey, hclientKey,
      insecure, hinsecure, rfl⟩

theorem exists_readNode_iff
    : (∃ m, Mentions.readNode d root = some m) ↔ ∃ members, NodeReads d root members := by
  constructor
  . rintro ⟨m, h⟩
    obtain ⟨members, hmembers, htop, _⟩ := exists_reads_of_readNode h
    have hpart : PartReads false d members :=
      fun k hk => Yaml.memberReads_iff.mpr ⟨_, htop k hk⟩
    unfold Mentions.readNode at h
    simp only [Option.bind_eq_bind, Option.bind_eq_some_iff] at h
    obtain ⟨members', hmembers', _, _, _, _, _, _, _, _, _, _, tls?, htls, h⟩ := h
    rw [hmembers] at hmembers'
    cases hmembers'
    refine ⟨members, hmembers, hpart, (Yaml.memberReads_iff.mpr ⟨_, htls⟩).1, ?_⟩
    intro tls hmem
    rcases Yaml.readMember_cases htls with ⟨_, habsent⟩ | ⟨tls', _, rfl, ⟨⟩, hunique⟩
    . exact absurd hmem (habsent tls)
    . rw [(hunique tls).mp hmem]
      exact exists_readTls_iff.mp ⟨m, h⟩
  . rintro ⟨members, hmembers, hpart, honce, htls⟩
    obtain ⟨url, hurl⟩ := Yaml.memberReads_iff.mp (hpart .url rfl)
    obtain ⟨secs, hsecs⟩ := Yaml.memberReads_iff.mp (hpart .connectTimeout rfl).of_map
    obtain ⟨millis, hmillis⟩ := Yaml.memberReads_iff.mp (hpart .requestTimeout rfl).of_map
    obtain ⟨auto, hauto⟩ := Yaml.memberReads_iff.mp (hpart .autoConnect rfl)
    obtain ⟨size, hsize⟩ := Yaml.memberReads_iff.mp (hpart .maxFrameSize rfl)
    have honly : Yaml.MemberReads (fun _ node => some node) d members "tls" :=
      ⟨honce, fun node _ => ⟨node, rfl⟩⟩
    obtain ⟨tls?, htls?⟩ := Yaml.memberReads_iff.mp honly
    let told : Mentions :=
      { url, autoConnect := auto, maxFrameSize := size
        connectTimeout := secs.map .ofSecs
        requestTimeout := millis.map (·.map .ofMillis) }
    unfold Mentions.readNode
    simp only [Option.bind_eq_bind, Option.bind_eq_some_iff]
    rcases Yaml.readMember_cases htls? with ⟨rfl, _⟩ | ⟨tls, _, rfl, ⟨⟩, hunique⟩
    . exact ⟨told, members, hmembers, url, hurl, secs, hsecs, millis, hmillis, auto, hauto, size,
        hsize, none, htls?, rfl⟩
    . obtain ⟨m, hm⟩ := (exists_readTls_iff (m := told)).mpr (htls tls ((hunique tls).mpr rfl))
      exact ⟨m, members, hmembers, url, hurl, secs, hsecs, millis, hmillis, auto, hauto, size,
        hsize, some tls, htls?, hm⟩

theorem told_iff_of_top (hmembers : Yaml.readMembers d root = some members)
    (hk : k.isInTls = false) (node : Yaml.Node)
    : k.Told d root node ↔ (k.key, node) ∈ members := by
  unfold Told
  rw [hk]
  exact Yaml.hasMember_iff hmembers

theorem told_iff_of_tls (hmembers : Yaml.readMembers d root = some members)
    (hk : k.isInTls = true) (node : Yaml.Node)
    : k.Told d root node
        ↔
      ∃ tls, ("tls", tls) ∈ members ∧ Yaml.HasMember d tls k.key node := by
  unfold Told
  rw [hk]
  simp only [Yaml.hasMember_iff hmembers]

theorem told_cases (h : Mentions.readNode d root = some m) (k : Setting)
    : (k.mention m = none ∧ ∀ node, ¬k.Told d root node)
      ∨ ∃ node v, k.mention m = some v ∧ k.read d node = some v
          ∧ ∀ other, k.Told d root other ↔ other = node := by
  obtain ⟨members, hmembers, htop, htls⟩ := exists_reads_of_readNode h
  cases hk : k.isInTls with
  | false =>
    simp only [told_iff_of_top hmembers hk]
    exact Yaml.readMember_cases (htop k hk)
  | true =>
    simp only [told_iff_of_tls hmembers hk]
    rcases htls with ⟨habsent, hnone⟩ | ⟨tls, inner, hunique, hinner, hreads⟩
    . left
      refine ⟨hnone k hk, ?_⟩
      rintro node ⟨tls, htls, _⟩
      exact habsent tls htls
    . simp only [hunique, exists_eq_left, Yaml.hasMember_iff hinner]
      exact Yaml.readMember_cases (hreads k hk)

def Unsaid (k : Setting) (env : Environment) : Prop :=
  ∀ text v, env.text? k.variableName = some text → ¬k.Says text v

def FileGives (k : Setting) (env : Environment) (files : FileTree) (d : Yaml.Document)
    (node : Yaml.Node) : Prop :=
  ∃ path text root, env.configPath? = some path ∧ files.readText path = .ok text
    ∧ Yaml.document? text = some d ∧ d.root = some root ∧ k.Told d root node

/-- Where a value of a setting comes from: each source has a say if those before it have none. -/
inductive Comes (k : Setting) (env : Environment) (files : FileTree) : k.Value → Prop where
  | fromVariable {text : String} {v : k.Value} (htext : env.text? k.variableName = some text)
      (hsaid : k.Says text v)
    : Comes k env files v
  | fromFile {d : Yaml.Document} {node : Yaml.Node} {v : k.Value} (hunsaid : k.Unsaid env)
      (hgives : k.FileGives env files d node) (hread : k.read d node = some v)
    : Comes k env files v
  | fromDefault (hunsaid : k.Unsaid env) (hsilent : ∀ d node, ¬k.FileGives env files d node)
    : Comes k env files (k.of {})

variable {env env' : Environment} {files : FileTree} {s : Settings} {path : Path}

theorem mention_mentions_eq_none_iff : k.mention env.mentions = none ↔ k.Unsaid env := by
  rw [Option.eq_none_iff_forall_ne_some]
  simp only [ne_eq, mention_mentions, not_exists, not_and]
  exact forall_comm

theorem mention_mentions_congr (h : env.text? k.variableName = env'.text? k.variableName)
    : k.mention env.mentions = k.mention env'.mentions := by
  apply Option.ext
  intro v
  rw [mention_mentions, mention_mentions, h]

theorem fileGives_cases (hpath : env.configPath? = some path)
    (hfile : Mentions.ofFile files path = .ok m) (k : Setting)
    : (k.mention m = none ∧ ∀ d node, ¬k.FileGives env files d node)
      ∨ ∃ d node v, k.mention m = some v ∧ k.read d node = some v
          ∧ ∀ d' other, k.FileGives env files d' other ↔ d' = d ∧ other = node := by
  unfold Mentions.ofFile at hfile
  split at hfile
  . cases hfile
  next text htext =>
  split at hfile
  . cases hfile
  next m' hyaml =>
  cases hfile
  unfold Mentions.ofYaml? at hyaml
  obtain ⟨d, hd, hm⟩ := Option.bind_eq_some_iff.mp hyaml
  have hgives : ∀ d' node, k.FileGives env files d' node
      ↔ d' = d ∧ ∃ root, d.root = some root ∧ k.Told d root node := by
    intro d' node
    constructor
    . rintro ⟨path', text', root, hpath', htext', hd', hroot, htold⟩
      rw [hpath] at hpath'
      cases hpath'
      rw [htext] at htext'
      cases htext'
      rw [hd] at hd'
      cases hd'
      exact ⟨rfl, root, hroot, htold⟩
    . rintro ⟨rfl, root, hroot, htold⟩
      exact ⟨path, text, root, hpath, htext, hd, hroot, htold⟩
  simp only [hgives]
  cases hroot : d.root with
  | none =>
    rw [hroot] at hm
    cases hm
    left
    refine ⟨by cases k <;> rfl, ?_⟩
    rintro _ _ ⟨_, _, hsome, _⟩
    cases hsome
  | some root =>
    rw [hroot] at hm
    simp only [Option.some.injEq, exists_eq_left']
    rcases told_cases hm k with ⟨hnone, habsent⟩ | ⟨node, v, hv, hread, hunique⟩
    . left
      refine ⟨hnone, ?_⟩
      rintro _ node ⟨_, htold⟩
      exact habsent node htold
    . right
      refine ⟨d, node, v, hv, hread, ?_⟩
      intro d' other
      rw [hunique]

end Setting

namespace Environment

def assign (env : Environment) (name : String) (value? : Option Bytes) : Environment :=
  { bindings := (value?.map (name, ·)).toList ++ env.bindings.filter (·.1 ≠ name) }

variable {env : Environment} {name other : String} {value? : Option Bytes}

theorem lookup_filter_of_ne {bindings : List (String × Bytes)} (h : other ≠ name)
    : (bindings.filter (·.1 ≠ name)).lookup other = bindings.lookup other := by
  induction bindings with
  | nil => rfl
  | cons entry bindings ih =>
    obtain ⟨key, b⟩ := entry
    by_cases hkey : key = name
    . subst hkey
      rw [List.filter_cons_of_neg (by simp), ih, List.lookup_cons, beq_false_of_ne h]
    . rw [List.filter_cons_of_pos (by simpa using hkey), List.lookup_cons, List.lookup_cons, ih]

theorem text?_assign_of_ne (h : other ≠ name)
    : (env.assign name value?).text? other = env.text? other := by
  unfold text? assign
  dsimp only
  rw [List.lookup_append, lookup_filter_of_ne h]
  cases value? with
  | none => rfl
  | some b => simp [List.lookup_cons, beq_false_of_ne h]

theorem text?_unset : (env.assign name none).text? name = none := by
  have hnone : (env.bindings.filter (·.1 ≠ name)).lookup name = none := by
    rw [List.lookup_eq_none_iff]
    intro entry hentry
    have hne : entry.1 ≠ name := by simpa using (List.mem_filter.mp hentry).2
    exact bne_iff_ne.mpr hne.symm
  unfold text? assign
  dsimp only
  rw [Option.map_none, Option.toList_none, List.nil_append, hnone]
  rfl

end Environment

theorem Setting.isFile_iff {text : String}
    : Setting.IsFile text ↔ ∃ m, Mentions.ofYaml? text = some m := by
  unfold Setting.IsFile Mentions.ofYaml?
  simp only [Option.bind_eq_bind, Option.bind_eq_some_iff]
  rw [exists_comm]
  apply exists_congr
  intro d
  rw [exists_and_left]
  apply and_congr_right
  intro _
  cases d.root with
  | none => simp
  | some root => simp [Setting.exists_readNode_iff]

theorem Setting.not_isFile_iff {text : String}
    : ¬Setting.IsFile text ↔ Mentions.ofYaml? text = none := by
  rw [Setting.isFile_iff, ← Option.isSome_iff_exists, Option.not_isSome_iff_eq_none]

namespace Settings

variable {env env' : Environment} {files : FileTree} {s : Settings}

theorem load_eq_error_iff
    : (∃ e, load env files = .error e)
        ↔
      ∃ path, env.configPath? = some path
        ∧ ((∃ fault, files.readText path = .error fault)
            ∨ ∃ text, files.readText path = .ok text ∧ ¬Setting.IsFile text) := by
  unfold load ofFile Mentions.ofFile
  simp only [Setting.not_isFile_iff]
  cases env.configPath? with
  | none => simp [Except.map]
  | some path =>
    cases hread : files.readText path with
    | error fault => simp [Except.map, hread]
    | ok text => cases hyaml : Mentions.ofYaml? text <;> simp [Except.map, hread, hyaml]

theorem exists_of_eq_of_load (h : load env files = .ok s) (k : Setting)
    : ∃ told : Option k.Value,
        k.of s = (k.mention env.mentions).getD (told.getD (k.of {}))
          ∧ ((told = none ∧ ∀ d node, ¬k.FileGives env files d node)
              ∨ ∃ d node v, told = some v ∧ k.read d node = some v
                  ∧ ∀ d' other, k.FileGives env files d' other ↔ d' = d ∧ other = node) := by
  rcases load_cases h with ⟨hpath, rfl⟩ | ⟨path, m, hpath, hfile, rfl⟩
  . refine ⟨none, k.of_override _ _, .inl ⟨rfl, ?_⟩⟩
    rintro d node ⟨path, _, _, hpath', _⟩
    rw [hpath] at hpath'
    cases hpath'
  . refine ⟨k.mention m, ?_, Setting.fileGives_cases hpath hfile k⟩
    rw [k.of_override, k.of_override]

theorem comes_iff_of_load (h : load env files = .ok s) (k : Setting) (v : k.Value)
    : k.Comes env files v ↔ k.of s = v := by
  obtain ⟨told, hof, htold⟩ := exists_of_eq_of_load h k
  rw [hof]
  cases hmention : k.mention env.mentions with
  | some w =>
    obtain ⟨text, htext, hsaid⟩ := Setting.mention_mentions.mp hmention
    constructor
    . intro hcomes
      cases hcomes with
      | fromVariable htext' hsaid' =>
        have hsame := Setting.mention_mentions.mpr ⟨_, htext', hsaid'⟩
        rw [hmention] at hsame
        exact Option.some.inj hsame
      | fromFile hunsaid _ _ => exact absurd hsaid (hunsaid text w htext)
      | fromDefault hunsaid _ => exact absurd hsaid (hunsaid text w htext)
    . rintro rfl
      exact .fromVariable htext hsaid
  | none =>
    have hunsaid := Setting.mention_mentions_eq_none_iff.mp hmention
    rcases htold with ⟨rfl, hsilent⟩ | ⟨d, node, w, rfl, hread, hunique⟩
    . constructor
      . intro hcomes
        cases hcomes with
        | fromVariable htext hsaid => exact absurd hsaid (hunsaid _ _ htext)
        | fromFile _ hgives _ => exact absurd hgives (hsilent _ _)
        | fromDefault _ _ => rfl
      . rintro rfl
        exact .fromDefault hunsaid hsilent
    . have hgives := (hunique d node).mpr ⟨rfl, rfl⟩
      constructor
      . intro hcomes
        cases hcomes with
        | fromVariable htext hsaid => exact absurd hsaid (hunsaid _ _ htext)
        | fromFile _ hgives' hread' =>
          obtain ⟨rfl, rfl⟩ := (hunique _ _).mp hgives'
          rw [hread] at hread'
          exact Option.some.inj hread'
        | fromDefault _ hsilent => exact absurd hgives (hsilent d node)
      . rintro rfl
        exact .fromFile hunsaid hgives hread

theorem map_of_load_congr {k : Setting} (hpath : env.configPath? = env'.configPath?)
    (hmention : k.mention env.mentions = k.mention env'.mentions)
    : (load env files).map k.of = (load env' files).map k.of := by
  obtain ⟨base, hload, hload'⟩ : ∃ base : Except ConfigError Settings,
      load env files = base.map (·.override env.mentions)
        ∧ load env' files = base.map (·.override env'.mentions) := by
    refine ⟨_, rfl, ?_⟩
    rw [hpath]
    rfl
  rw [hload, hload']
  cases base with
  | error e => rfl
  | ok s =>
    apply congrArg Except.ok
    rw [k.of_override, k.of_override, hmention]

theorem load_congr (hpath : env.configPath? = env'.configPath?)
    (hmention : ∀ k : Setting, k.mention env.mentions = k.mention env'.mentions)
    : load env files = load env' files := by
  unfold load
  rw [hpath, Setting.eq_of_mention hmention]

/--
Settings can be loaded unless a file is named that cannot be read or that is no file of settings.
Each of them comes from its own variable if that says anything of it, or else from the file, or else
it is the default.
-/
theorem settings_precedence (env : Environment) (files : FileTree)
    : ((∃ e, load env files = .error e)
          ↔
        ∃ path, env.configPath? = some path
          ∧ ((∃ fault, files.readText path = .error fault)
              ∨ ∃ text, files.readText path = .ok text ∧ ¬Setting.IsFile text))
      ∧ (∀ s, load env files = .ok s → ∀ (k : Setting) (v : k.Value),
          k.Comes env files v ↔ k.of s = v)
      -- A variable that says nothing of its setting may as well be unset.
      ∧ (∀ (k : Setting) (b : Bytes), k.Unsaid (env.assign k.variableName (some b)) →
          load (env.assign k.variableName (some b)) files
            =
          load (env.assign k.variableName none) files)
      -- To set a variable or to unset it leaves all other settings as they are.
      ∧ (∀ (k : Setting) (value? : Option Bytes) (other : Setting), other ≠ k →
          (load (env.assign k.variableName value?) files).map other.of
            =
          (load env files).map other.of) := by
  have hconfig : ∀ (k : Setting) (value? : Option Bytes),
      (env.assign k.variableName value?).configPath? = env.configPath? := by
    intro k value?
    unfold Environment.configPath? Environment.path?
    rw [Environment.text?_assign_of_ne (Setting.config_ne_variableName k)]
  have hother : ∀ (k : Setting) (value? : Option Bytes) (other : Setting), other ≠ k →
      other.mention (env.assign k.variableName value?).mentions
        = other.mention env.mentions := by
    intro k value? other hne
    apply Setting.mention_mentions_congr
    rw [Environment.text?_assign_of_ne]
    exact fun hsame => hne (Setting.variableName_injective hsame)
  refine ⟨load_eq_error_iff, fun s hload => comes_iff_of_load hload, ?_, ?_⟩
  . intro k b hunsaid
    apply load_congr
    . rw [hconfig, hconfig]
    . intro other
      by_cases hne : other = k
      . subst hne
        have hunset : other.Unsaid (env.assign other.variableName none) := by
          intro text v htext
          rw [Environment.text?_unset] at htext
          cases htext
        rw [Setting.mention_mentions_eq_none_iff.mpr hunsaid]
        rw [Setting.mention_mentions_eq_none_iff.mpr hunset]
      . rw [hother k _ other hne, hother k _ other hne]
  . intro k value? other hne
    exact map_of_load_congr (hconfig k value?) (hother k value? other hne)

/-- A size that is too small for a frame, a time that is no number, and a file that gives both. -/
theorem settings_precedence_file_and_variables
    : let env : Environment := .ofTexts
        [("SURREALRPC_CONFIG", "c.yaml"), ("SURREALRPC_MAX_FRAME_SIZE", "10"),
          ("SURREALRPC_CONNECT_TIMEOUT", "20s")]
      let text := "url: ws://file\nconnect_timeout_secs: 5\nmax_frame_size: 4096\n"
      let files : FileTree := { entries := [([.ofText "c.yaml"], .file (.ofText text))] }
      load env files
          = .ok { url := "ws://file", connectTimeout := .ofSecs 5, maxFrameSize := 1024 }
        ∧ Setting.url.Comes env files "ws://file"
        ∧ Setting.connectTimeout.Comes env files (.ofSecs 5)
        ∧ Setting.maxFrameSize.Comes env files (1024 : Nat)
        ∧ Setting.autoConnect.Comes env files false
        ∧ Setting.caCert.Comes env files none := by
  intro env text files
  have hload : load env files
      = .ok { url := "ws://file", connectTimeout := .ofSecs 5, maxFrameSize := 1024 } := by
    decide +kernel
  have hcomes := (settings_precedence env files).2.1 _ hload
  exact ⟨hload, (hcomes .url _).mpr rfl, (hcomes .connectTimeout _).mpr rfl,
    (hcomes .maxFrameSize _).mpr rfl, (hcomes .autoConnect _).mpr rfl,
    (hcomes .caCert _).mpr rfl⟩

end Settings
end CallWire
