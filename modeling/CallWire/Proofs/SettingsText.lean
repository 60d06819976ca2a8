import CallWire.Proofs.SettingsNode
import CallWire.Proofs.YamlNodes

/-!
This module contains that the text of settings is a document of their data: the members that have
scalars, and the mapping of those that are about certificates.
-/

namespace CallWire

open Yaml.Lexer (Member IsKey)

namespace Settings

variable {s : Settings} {text : String} {key : String} {column : Nat}

/-! ## Members -/

def textMember (column : Nat) (key text : String) : Member :=
  { key, value := Yaml.writeText (column + 2) text, style := (Yaml.form text).style, text }

def plainMember (key text : String) : Member :=
  { key, value := text.toList ++ ['\n'], style := .plain, text }

def pathMember (key : String) : Option Path → Member
  | none => plainMember key "null"
  | some path => textMember 2 key (path.text?.getD "")

def boolMember (key : String) (b : Bool) : Member := plainMember key (if b then "true" else "false")

def millisMember (key : String) : Option Duration → Member
  | none => plainMember key "null"
  | some d => plainMember key (savedMillis d).repr

@[simp]
theorem key_pathMember (key : String) (path : Option Path) : (pathMember key path).key = key := by
  cases path <;> rfl

@[simp]
theorem key_millisMember (key : String) (span : Option Duration)
    : (millisMember key span).key = key := by
  cases span <;> rfl

@[simp]
theorem key_boolMember (key : String) (b : Bool) : (boolMember key b).key = key := rfl

theorem fits_textMember (text : String) (hkey : IsKey key)
    : (textMember column key text).Fits column where
  isKey := hkey
  value := Yaml.Lexer.readsAs_writeText column text
  allowed := fun _ hx => Yaml.Lexer.isAllowed_of_mem_writeText hx

theorem fits_plainMember (hkey : IsKey key) (hne : text.toList ≠ [])
    (hplain : ∀ x ∈ text.toList, Yaml.isPlainChar x = true)
    : (plainMember key text).Fits column where
  isKey := hkey
  value := by
    have hread := Yaml.Lexer.readsAs_plain column (Yaml.plainScalar_of_isPlainChar hne hplain)
    rwa [String.ofList_toList] at hread
  allowed := by
    intro x hx
    rcases List.mem_append.mp hx with hx | hx
    . exact Yaml.Lexer.isAllowed_of_isPlainChar (hplain x hx)
    . rw [List.mem_singleton.mp hx]
      rfl

theorem fits_numberMember (n : Nat) (hkey : IsKey key)
    : (plainMember key n.repr).Fits column := by
  apply fits_plainMember hkey
  . rw [Nat.toList_repr]
    exact Nat.toDigits_ne_nil
  . intro x hx
    rw [Nat.toList_repr] at hx
    have hdigit : x.isDigit = true := Numeral.isDigit_of_mem_toDigits hx
    unfold Yaml.isPlainChar Char.isAlphanum
    rw [hdigit, Bool.or_true, Bool.true_or]

theorem fits_wordMember (hkey : IsKey key) (htext : IsKey text)
    : (plainMember key text).Fits column := by
  exact fits_plainMember hkey htext.ne_nil htext.chars

theorem fits_boolMember (b : Bool) (hkey : IsKey key) : (boolMember key b).Fits column := by
  cases b with
  | true => exact fits_wordMember hkey (by decide +kernel)
  | false => exact fits_wordMember hkey (by decide +kernel)

theorem fits_millisMember (span : Option Duration) (hkey : IsKey key)
    : (millisMember key span).Fits column := by
  cases span with
  | none => exact fits_wordMember hkey (by decide +kernel)
  | some d => exact fits_numberMember (savedMillis d) hkey

theorem fits_pathMember (path : Option Path) (hkey : IsKey key) : (pathMember key path).Fits 2 := by
  cases path with
  | none => exact fits_wordMember hkey (by decide +kernel)
  | some path => exact fits_textMember _ hkey

def scalarMembers (s : Settings) : List Member :=
  [textMember 0 "url" s.url, plainMember "connect_timeout_secs" s.connectTimeout.secs.repr,
    millisMember "request_timeout_ms" s.requestTimeout, boolMember "auto_connect" s.autoConnect,
    plainMember "max_frame_size" s.maxFrameSize.repr]

def tlsScalarMembers (s : Settings) : List Member :=
  [pathMember "ca_cert_path" s.tls.caCert, pathMember "client_cert_path" s.tls.clientCert,
    pathMember "client_key_path" s.tls.clientKey, boolMember "insecure" s.tls.insecure]

theorem fits_scalarMembers (s : Settings) : ∀ m ∈ s.scalarMembers, m.Fits 0 := by
  intro m hm
  simp only [scalarMembers, List.mem_cons, List.not_mem_nil, or_false] at hm
  rcases hm with rfl | rfl | rfl | rfl | rfl
  . exact fits_textMember s.url (by decide +kernel)
  . exact fits_numberMember s.connectTimeout.secs (by decide +kernel)
  . exact fits_millisMember s.requestTimeout (by decide +kernel)
  . exact fits_boolMember s.autoConnect (by decide +kernel)
  . exact fits_numberMember s.maxFrameSize (by decide +kernel)

theorem fits_tlsScalarMembers (s : Settings) : ∀ m ∈ s.tlsScalarMembers, m.Fits 2 := by
  intro m hm
  simp only [tlsScalarMembers, List.mem_cons, List.not_mem_nil, or_false] at hm
  rcases hm with rfl | rfl | rfl | rfl
  . exact fits_pathMember s.tls.caCert (by decide +kernel)
  . exact fits_pathMember s.tls.clientCert (by decide +kernel)
  . exact fits_pathMember s.tls.clientKey (by decide +kernel)
  . exact fits_boolMember s.tls.insecure (by decide +kernel)

/-! ## The text -/

theorem writeMembers_cons (indent : String) (key : String) (value : List Char)
    (members : List (String × List Char))
    : writeMembers indent ((key, value) :: members)
        =
      indent.toList ++ (key.toList ++ ':' :: ' ' :: (value ++ writeMembers indent members)) := by
  unfold writeMembers
  rw [List.flatMap_cons]
  simp

theorem nextText_eq_writeMembers (indent : String) (column column' : Nat) (left : List Char)
    (hindent : indent.toList = List.replicate column ' ') (members : List Member)
    : List.replicate (Yaml.Lexer.nextColumn column column' members) ' '
          ++ Yaml.Lexer.nextText column column' left members
        =
      writeMembers indent (members.map (fun m => (m.key, m.value)))
        ++ (List.replicate column' ' ' ++ left) := by
  induction members with
  | nil => rfl
  | cons m members ih =>
    rw [List.map_cons, writeMembers_cons, hindent]
    unfold Yaml.Lexer.nextText
    rw [ih]
    simp [Yaml.Lexer.nextColumn]

theorem value_pathMember {path : Option Path} {chars : List Char} (key : String)
    (h : pathText? path = some chars)
    : (pathMember key path).value = chars := by
  cases path with
  | none => exact Option.some.inj h
  | some path =>
    obtain ⟨text, htext, rfl⟩ := Option.map_eq_some_iff.mp h
    unfold pathMember textMember
    dsimp only
    rw [htext, Option.getD_some]

theorem value_millisMember (key : String) (span : Option Duration)
    : (millisMember key span).value = optionText (fun d => wordText (savedMillis d)) span := by
  cases span <;> rfl

theorem value_boolMember (key : String) (b : Bool) : (boolMember key b).value = boolText b := by
  cases b <;> rfl

theorem toList_of_toYaml? (h : s.toYaml? = some text)
    : text.toList = Yaml.Lexer.nestedText s.scalarMembers "tls" s.tlsScalarMembers := by
  unfold toYaml? at h
  obtain ⟨caCert, hca, h⟩ := Option.bind_eq_some_iff.mp h
  obtain ⟨clientCert, hcert, h⟩ := Option.bind_eq_some_iff.mp h
  obtain ⟨clientKey, hkey, h⟩ := Option.bind_eq_some_iff.mp h
  have hscalars := nextText_eq_writeMembers "" 0 0
    (Yaml.Lexer.innerText "tls" s.tlsScalarMembers) rfl s.scalarMembers
  have htls := nextText_eq_writeMembers "  " 2 0 [] rfl s.tlsScalarMembers
  change Yaml.Lexer.nextText 0 0 _ s.scalarMembers = _ at hscalars
  change List.replicate 2 ' ' ++ Yaml.Lexer.nextText 2 0 [] s.tlsScalarMembers = _ at htls
  have hfront : "tls:\n".toList = "tls".toList ++ [':', '\n'] := by decide +kernel
  unfold Yaml.Lexer.nestedText
  rw [hscalars, Yaml.Lexer.innerText, htls, ← Option.some.inj h, String.toList_ofList, hfront]
  simp only [scalarMembers, tlsScalarMembers, List.map_cons, List.map_nil, value_pathMember _ hca,
    value_pathMember _ hcert, value_pathMember _ hkey, value_millisMember, value_boolMember]
  simp [textMember, plainMember, wordText]

theorem nestedNode_members (s : Settings)
    : Yaml.Composer.nestedNode s.scalarMembers "tls" s.tlsScalarMembers = s.node := by
  have hmillis (key : String) (span : Option Duration)
      : (millisMember key span).nodes
          =
        (Yaml.plainNode key, optionNode (fun d => Yaml.plainNode (savedMillis d).repr) span) := by
    cases span <;> rfl
  have hpath (key : String) (path : Option Path)
      : (pathMember key path).nodes = (Yaml.plainNode key, pathNode path) := by
    cases path <;> rfl
  unfold Yaml.Composer.nestedNode scalarMembers tlsScalarMembers node members tlsMembers mappingNode
  simp only [List.map_cons, List.map_nil, hmillis, hpath]
  rfl

theorem document?_of_toYaml? (h : s.toYaml? = some text)
    : Yaml.document? text = some { root := some s.node, anchored := [] } := by
  rw [← nestedNode_members]
  exact Yaml.document?_nested (fits_scalarMembers s) (by decide +kernel) (fits_tlsScalarMembers s)
    (toList_of_toYaml? h)

end Settings
end CallWire
