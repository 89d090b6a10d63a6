import StoryMend.Chat.Service
import StoryMend.Proofs.Environment
import StoryMend.Proofs.Json.Text
import StoryMend.Proofs.Number.Binary

/-!
Settings of a language model that pass the reader of the environment.  They describe a service,
unless the provider needs a key and there is none that can be sent: what the reader has checked
is what the service checks again, each with blanks of its own taken away.
-/

namespace StoryMend.Chat

open Text

/-! ### Header values -/

/-- Whether a text can be the value of a header: no byte of it is a control, other than the
tab. -/
def IsHeaderValue (s : String) : Prop :=
  ∀ b ∈ s.toUTF8.data, b.toNat = 9 ∨ 32 ≤ b.toNat ∧ b.toNat ≠ 127

theorem data_toUTF8 (s : String) :
    s.toUTF8.data.toList = s.toList.flatMap String.utf8EncodeChar := by
  conv_lhs => rw [← String.ofList_toList (s := s)]
  rw [String.toUTF8_eq_toByteArray, String.toByteArray_ofList, List.utf8Encode,
    List.data_toByteArray]

/-- A character is one of a header if its bytes are. -/
theorem isHeaderChar_iff {c : Char} :
    isHeaderChar c = true ↔
      ∀ b ∈ String.utf8EncodeChar c, b.toNat = 9 ∨ 32 ≤ b.toNat ∧ b.toNat ≠ 127 := by
  have htab : c = '\t' ↔ c.toNat = 9 := Char.toNat_inj.symm
  simp only [isHeaderChar, Bool.or_eq_true, Bool.and_eq_true, decide_eq_true_eq, beq_iff_eq, htab]
  by_cases hplain : c.toNat < 128
  · rw [Json.utf8EncodeChar_of_lt hplain, List.forall_mem_singleton, Json.toNat_byte hplain]
    omega
  · refine iff_of_true (by omega) fun b hb => ?_
    have hle := Json.le_of_mem_utf8EncodeChar (Nat.not_lt.1 hplain) hb
    omega

theorem all_isHeaderChar_iff {s : String} :
    s.toList.all isHeaderChar = true ↔ IsHeaderValue s := by
  simp only [List.all_eq_true, isHeaderChar_iff, IsHeaderValue, ← Array.mem_toList_iff,
    data_toUTF8, List.mem_flatMap]
  constructor
  · rintro h b ⟨c, hc, hb⟩
    exact h c hc b hb
  · intro h c hc b hb
    exact h b ⟨c, hc, hb⟩

/-! ### What the reader checks -/

theorem value?_of_required {env : Environment} {variableName v : String}
    (h : required env variableName = .ok v) : env.value? variableName = some v := by
  unfold required at h
  split at h
  next hvalue => rw [hvalue, Except.ok.inj h]
  next => cases h

theorem isWebAddress_of_checkEndpoint {variableName endpoint : String} {u : Unit}
    (h : checkEndpoint variableName endpoint = .ok u) : isWebAddress endpoint = true := by
  unfold checkEndpoint at h
  split at h
  next hweb => exact hweb
  next => cases h

theorem isWithin_of_checkRange {field : String} {least most x : Number.Binary} {u : Unit}
    (h : checkRange field least most x = .ok u) : x.isWithin least most = true := by
  unfold checkRange at h
  split at h
  next hwithin => exact hwithin
  next => cases h

/-- Settings that are read have a model and the address of a web server, the key of the
environment, and a temperature within its range. -/
theorem Settings.fields_of_ofKind {env : Environment} {kind : String} {s : Settings}
    (h : ofKind env kind = .ok s) :
    env.value? "LLM_MODEL" = some s.model ∧ isWebAddress s.endpoint = true ∧
      env.value? "LLM_API_KEY" = s.key ∧
      ∃ t, s.options.temperature = some t ∧
        t.isWithin (Number.single.ofNat 0) (Number.single.ofNat 2) = true := by
  rw [ofKind] at h
  split at h
  next provider _ =>
    obtain ⟨provider, -, h⟩ := exists_of_bind_eq_ok h
    obtain ⟨model, hmodel, h⟩ := exists_of_bind_eq_ok h
    obtain ⟨u, hendpoint, h⟩ := exists_of_bind_eq_ok h
    obtain ⟨maxTokens, -, h⟩ := exists_of_bind_eq_ok h
    obtain ⟨temperature, -, h⟩ := exists_of_bind_eq_ok h
    obtain ⟨u', hrange, h⟩ := exists_of_bind_eq_ok h
    obtain ⟨timeout, -, h⟩ := exists_of_bind_eq_ok h
    obtain rfl := Except.ok.inj h
    exact ⟨value?_of_required hmodel, isWebAddress_of_checkEndpoint hendpoint, rfl, _, rfl,
      isWithin_of_checkRange hrange⟩
  next =>
    obtain ⟨provider, hnone, -⟩ := exists_of_bind_eq_ok h
    cases hnone

/-- The address of a web server is one without the blanks at its ends, too. -/
theorem isWebAddress_trimmed {s : String} (h : isWebAddress s = true) :
    isWebAddress (trimmed s) = true := by
  rw [isWebAddress, Bool.or_eq_true, List.isPrefixOf_iff_prefix, List.isPrefixOf_iff_prefix] at h ⊢
  have hkeeps {start : List Char} (hstart : trimStart s.toList = s.toList)
      (hend : trimEnd start = start) (h : start <+: s.toList) :
      start <+: (trimmed s).toList := by
    obtain ⟨rest, hrest⟩ := h
    rw [trimmed, String.toList_ofList, trim, hstart, ← hrest]
    exact isPrefix_trimEnd_append hend rest
  refine h.imp (fun h => hkeeps ?_ rfl h) (fun h => hkeeps ?_ rfl h)
  · obtain ⟨rest, hrest⟩ := h
    rw [← hrest]
    rfl
  · obtain ⟨rest, hrest⟩ := h
    rw [← hrest]
    rfl

/-! ### The service of settings -/

section Service

variable {s : Settings}

theorem Service.checkServer_eq_ok (hmodel : ∃ c ∈ s.model.toList, isBlank c = false)
    (hweb : isWebAddress s.endpoint = true) : checkServer s.provider s = .ok () := by
  have hblank : isBlankText s.model.toList = false := by
    rw [isBlankText, List.all_eq_false]
    simpa using hmodel
  simp [checkServer, hblank, isWebAddress_trimmed hweb]

/-- Settings that pass the checks on the server describe a service of a provider without keys. -/
theorem Service.ofSettings_ollama (hchecked : checkServer s.provider s = .ok ())
    (hprovider : s.provider = .ollama) : ofSettings s = .ok ⟨s, none⟩ := by
  rw [ofSettings, hprovider]
  unfold forProvider
  rw [← hprovider, hchecked, hprovider]

theorem Service.ofSettings_openai (hchecked : checkServer s.provider s = .ok ())
    (hprovider : s.provider = .openai) :
    ofSettings s = (bearer s).map fun b => ⟨s, some b⟩ := by
  rw [ofSettings, hprovider]
  unfold forProvider
  rw [← hprovider, hchecked, hprovider]

/-- A key is sent as the value of a header, if it can be. -/
theorem Service.bearer_of_key {key : String} (hkey : s.key = some key)
    (hblank : ∃ c ∈ key.toList, isBlank c = false) :
    bearer s = if key.toList.all isHeaderChar then .ok ("Bearer " ++ key)
      else .error (.provider .openai
        (.undecodable "invalid API key header: failed to parse header value")) := by
  have hblank : isBlankText key.toList = false := by
    rw [isBlankText, List.all_eq_false]
    simpa using hblank
  rw [bearer, hkey]
  simp [hblank]

end Service

theorem isHeaderValue_bearer_iff {key : String} :
    IsHeaderValue ("Bearer " ++ key) ↔ key.toList.all isHeaderChar = true := by
  have hstart : "Bearer ".toList.all isHeaderChar = true := rfl
  rw [← all_isHeaderChar_iff, String.toList_append, List.all_append, hstart, Bool.true_and]

namespace Settings

variable {env : Environment} {s : Settings}

theorem ofEnvironment_eq_ok_none_iff :
    ofEnvironment env = .ok none ↔ env.IsUnset "LLM_KIND" := by
  rw [← Environment.value?_eq_none_iff, ofEnvironment]
  cases env.value? "LLM_KIND" with
  | none => simp
  | some kind => cases hread : ofKind env kind <;> simp [hread, Except.map]

theorem exists_ofKind_of_ofEnvironment (h : ofEnvironment env = .ok (some s)) :
    ∃ kind, ofKind env kind = .ok s := by
  rw [ofEnvironment] at h
  cases hvalue : env.value? "LLM_KIND" with
  | none => simp [hvalue] at h
  | some kind =>
      refine ⟨kind, ?_⟩
      rw [hvalue] at h
      cases hread : ofKind env kind <;> simp_all [Except.map]

/-- The range of temperatures. -/
theorem temperature_range_values :
    (Number.single.ofNat 0).value? = some 0 ∧ (Number.single.ofNat 2).value? = some 2 := by
  have hzero : Number.single.ofNat 0 = .finite false 0 (-149) := rfl
  have htwo : Number.single.ofNat 2 = .finite false (2 ^ 23) (-22) := by decide +kernel
  rw [hzero, htwo]
  norm_num [Number.Binary.value?]

/-- Whether a provider that needs a key gets one is told by the key in the settings. -/
theorem map_bearer_outcome (hkey : env.value? "LLM_API_KEY" = s.key) :
    (∀ service, (Service.bearer s).map (fun b => (⟨s, some b⟩ : Service)) = .ok service ↔
      ∃ key, env.Holds "LLM_API_KEY" key ∧ IsHeaderValue ("Bearer " ++ key) ∧
        service = ⟨s, some ("Bearer " ++ key)⟩) ∧
    ∀ e, (Service.bearer s).map (fun b => (⟨s, some b⟩ : Service)) = .error e ↔
      env.IsUnset "LLM_API_KEY" ∧ e = .provider .openai .noKey ∨
      (∃ key, env.Holds "LLM_API_KEY" key ∧ ¬ IsHeaderValue ("Bearer " ++ key)) ∧
        e = .provider .openai
          (.undecodable "invalid API key header: failed to parse header value") := by
  cases hvalue : env.value? "LLM_API_KEY" with
  | none =>
      rw [hvalue] at hkey
      simp only [← Environment.value?_eq_none_iff, ← Environment.value?_eq_some_iff, hvalue]
      rw [Service.bearer, ← hkey]
      constructor
      · simp [Except.map]
      · intro e
        simp [Except.map, eq_comm]
  | some key =>
      rw [hvalue] at hkey
      have hblank := (Environment.value?_eq_some_iff.1 hvalue).exists_not_blank
      rw [Service.bearer_of_key hkey.symm hblank]
      simp only [← Environment.value?_eq_none_iff, ← Environment.value?_eq_some_iff, hvalue,
        isHeaderValue_bearer_iff]
      by_cases hvalid : key.toList.all isHeaderChar = true
      · rw [if_pos hvalid]
        constructor
        · intro service
          simp only [Except.map, Except.ok.injEq, Option.some.injEq, exists_eq_left', hvalid,
            true_and]
          exact eq_comm
        · intro e
          simp only [Except.map, reduceCtorEq, Option.some.injEq, exists_eq_left', hvalid,
            not_true_eq_false, false_and, or_self]
      · rw [if_neg hvalid]
        constructor
        · intro service
          simp only [Except.map, reduceCtorEq, Option.some.injEq, exists_eq_left', hvalid,
            false_and]
        · intro e
          simp only [Except.map, Except.error.injEq, reduceCtorEq, Option.some.injEq,
            exists_eq_left', hvalid, not_false_eq_true, true_and, false_and, false_or]
          exact eq_comm

/-- Settings are read unless no kind of server is set.  They have a model without blanks at its
ends, the address of a web server, and a finite temperature between zero and two.  For `ollama`
they always give a service; for `openai` exactly if a key is set and can be sent in a header, and
otherwise it is the key that is at fault. -/
theorem ofEnvironment_service (env : Environment) :
    (ofEnvironment env = .ok none ↔ env.IsUnset "LLM_KIND") ∧
    ∀ s, ofEnvironment env = .ok (some s) →
      (trimmed s.model = s.model ∧ ∃ c ∈ s.model.toList, isBlank c = false) ∧
      ("http://".toList <+: s.endpoint.toList ∨ "https://".toList <+: s.endpoint.toList) ∧
      (∃ t v, s.options.temperature = some t ∧ t.value? = some v ∧ 0 ≤ v ∧ v ≤ 2) ∧
      (s.provider = .ollama → Service.ofSettings s = .ok ⟨s, none⟩) ∧
      (s.provider = .openai →
        (∀ service, Service.ofSettings s = .ok service ↔
          ∃ key, env.Holds "LLM_API_KEY" key ∧ IsHeaderValue ("Bearer " ++ key) ∧
            service = ⟨s, some ("Bearer " ++ key)⟩) ∧
        ∀ e, Service.ofSettings s = .error e ↔
          env.IsUnset "LLM_API_KEY" ∧ e = .provider .openai .noKey ∨
          (∃ key, env.Holds "LLM_API_KEY" key ∧ ¬ IsHeaderValue ("Bearer " ++ key)) ∧
            e = .provider .openai
              (.undecodable "invalid API key header: failed to parse header value")) := by
  refine ⟨ofEnvironment_eq_ok_none_iff, fun s hs => ?_⟩
  obtain ⟨kind, hkind⟩ := exists_ofKind_of_ofEnvironment hs
  obtain ⟨hmodel, hweb, hkey, t, ht, hwithin⟩ := fields_of_ofKind hkind
  have hholds := Environment.value?_eq_some_iff.1 hmodel
  have hchecked := Service.checkServer_eq_ok hholds.exists_not_blank hweb
  refine ⟨⟨hholds.trimmed_eq, hholds.exists_not_blank⟩, ?_, ?_, ?_, ?_⟩
  · simpa [isWebAddress] using hweb
  · obtain ⟨hzero, htwo⟩ := temperature_range_values
    obtain ⟨v, hv, hlow, hhigh⟩ := (Number.Binary.isWithin_iff hzero htwo).1 hwithin
    exact ⟨t, v, ht, hv, hlow, hhigh⟩
  · exact Service.ofSettings_ollama hchecked
  · intro hprovider
    rw [Service.ofSettings_openai hchecked hprovider]
    exact map_bearer_outcome hkey

/-- An environment with a key, with blanks around the values. -/
def keyed : Environment :=
  .ofList [("LLM_KIND", " OpenAI\n"), ("LLM_MODEL", " gpt-4o "), ("LLM_API_KEY", "\tk e y ")]

/-- What is read of it. -/
def ofKeyed : Settings where
  provider := .openai
  model := "gpt-4o"
  endpoint := "https://api.openai.com"
  key := some "k e y"
  options := { temperature := some usualTemperature }
  timeout := some 120

theorem ofSettings_keyed :
    ofEnvironment keyed = .ok (some ofKeyed) ∧
      Service.ofSettings ofKeyed = .ok ⟨ofKeyed, some "Bearer k e y"⟩ := by
  have hread : ofEnvironment keyed = .ok (some ofKeyed) := by
    decide +kernel
  have hkey : keyed.Holds "LLM_API_KEY" "k e y" :=
    Environment.value?_eq_some_iff.1 (by decide +kernel)
  obtain ⟨-, -, -, -, hopenai⟩ := (ofEnvironment_service keyed).2 ofKeyed hread
  exact ⟨hread, ((hopenai rfl).1 _).2 ⟨"k e y", hkey, isHeaderValue_bearer_iff.2 rfl, rfl⟩⟩

end Settings

end StoryMend.Chat
