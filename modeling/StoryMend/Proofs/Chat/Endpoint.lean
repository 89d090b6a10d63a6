import StoryMend.Proofs.Http.Address
import StoryMend.Proofs.Server.Generation

/-!
Where requests for conversations go.  Their address is the endpoint in the settings, without the
slashes at its end, and a path.  The endpoint is checked before the slashes are taken away, so it
may lose those of its scheme.  The main statement is that the requests go to the server that the
endpoint names, unless it names none: then the path names the server.  It holds for every lawful
reader of the names of servers.
-/

namespace StoryMend.Chat

open Text
open Http.Address (authority authority_append authority_append_of_low authority_append_of_slashes
  isKept isSlash map_server_read? origin origin_of_scheme server? server?_append_of_low)

/-- What follows the scheme of an address and its colon. -/
def afterScheme (address : String) : List Char :=
  (Http.Address.cut (· == ':') address.toList).2.drop 1

/-- After its scheme, an address has more than slashes, tabs and line breaks. -/
def NamesServer (address : String) : Prop :=
  ∃ c ∈ afterScheme address, isKept c = true ∧ isSlash c = false

/-- An address names the server of an endpoint, with controls or spaces after it at most. -/
def KeepsOrigin (endpoint address : String) : Prop :=
  ∃ lows, (∀ c ∈ lows, c.toNat ≤ 32) ∧
    origin address = ((origin endpoint).1, (origin endpoint).2 ++ lows)

/-- An address of a web server has its scheme before two slashes. -/
theorem exists_scheme {address : String} (h : isWebAddress address = true) :
    ∃ scheme, (scheme = "http" ∨ scheme = "https") ∧
      ∃ rest, ['/', '/'] <+: rest ∧ address = String.ofList (scheme.toList ++ ':' :: rest) := by
  have hsplit {front : List Char} {rest : List Char} (hrest : front ++ rest = address.toList) :
      address = String.ofList (front ++ rest) := by rw [hrest, String.ofList_toList]
  rw [isWebAddress, Bool.or_eq_true, List.isPrefixOf_iff_prefix, List.isPrefixOf_iff_prefix] at h
  rcases h with ⟨rest, hrest⟩ | ⟨rest, hrest⟩
  · exact ⟨"http", .inl rfl, _, List.prefix_append _ rest, hsplit hrest⟩
  · exact ⟨"https", .inr rfl, _, List.prefix_append _ rest, hsplit hrest⟩

section

variable {rest : List Char} (p : Provider)

/-- The slashes at the end of an endpoint and the path after it change nothing if something in
the endpoint names a server. -/
theorem authority_base_append (hnames : ∃ c ∈ rest, isKept c = true ∧ isSlash c = false) :
    authority ((dropWhileEnd (· == '/') rest).filter isKept ++ p.chatPath.toList) =
      authority (rest.filter isKept) := by
  obtain ⟨slashes, hslashes, hsplit⟩ := exists_dropWhileEnd_append (· == '/') rest
  have hpath : ∀ c ∈ p.chatPath.toList.head?, c = '/' := by cases p <;> simp [Provider.chatPath]
  have hhead : ∀ c ∈ (slashes.filter isKept).head?, c = '/' := fun c hc =>
    beq_iff_eq.1 (hslashes c (List.mem_of_mem_filter (List.mem_of_mem_head? hc)))
  have hbase : ∃ c ∈ (dropWhileEnd (· == '/') rest).filter isKept, isSlash c = false := by
    obtain ⟨c, hc, hkept, hslash⟩ := hnames
    rw [hsplit, List.mem_append] at hc
    rcases hc with hc | hc
    · exact ⟨c, List.mem_filter.2 ⟨hc, hkept⟩, hslash⟩
    · rw [beq_iff_eq.1 (hslashes c hc)] at hslash
      cases hslash
  rw [authority_append hbase hpath]
  conv_rhs => rw [hsplit, List.filter_append, authority_append hbase hhead]

variable (hnames : ¬∃ c ∈ rest, isKept c = true ∧ isSlash c = false)

include hnames

theorem isSlash_of_mem_filter {c : Char} (hc : c ∈ rest.filter isKept) : isSlash c = true := by
  rw [List.mem_filter] at hc
  by_contra hslash
  exact hnames ⟨c, hc.1, hc.2, Bool.eq_false_iff.2 hslash⟩

/-- Where nothing in the endpoint names a server, the path does. -/
theorem authority_base_append_of_not :
    authority ((dropWhileEnd (· == '/') rest).filter isKept ++ p.chatPath.toList) =
      authority p.chatPath.toList := by
  refine authority_append_of_slashes (fun c hc => isSlash_of_mem_filter hnames ?_) _
  exact ((dropWhileEnd_isPrefix _ rest).sublist.filter isKept).subset hc

/-- Then the endpoint itself has nothing where the server should be named. -/
theorem authority_endpoint_of_not :
    authority (dropWhileEnd (·.toNat ≤ 32) (rest.filter isKept)) = [] := by
  rw [← List.append_nil (dropWhileEnd _ _)]
  refine authority_append_of_slashes (fun c hc => isSlash_of_mem_filter hnames ?_) []
  exact (dropWhileEnd_isPrefix _ _).subset hc

end

/-- The path names a server that no controls or spaces make up. -/
theorem authority_chatPath (p : Provider) :
    ∃ c ∈ authority p.chatPath.toList, 32 < c.toNat := by
  cases p with
  | ollama => exact ⟨'a', List.mem_cons_self, by decide⟩
  | openai => exact ⟨'v', List.mem_cons_self, by decide⟩

/-- The first part of the path passes for the name of a server. -/
theorem exists_server?_chatPath {hosts : Http.HostReader} (hlawful : hosts.Lawful)
    (scheme : String) (p : Provider) :
    ∃ named, server? hosts scheme (authority p.chatPath.toList) = some named := by
  cases p with
  | ollama =>
      have hname : hosts "api".toList = some "api".toList := hlawful.some_of_word rfl rfl
      exact ⟨("api", none), congrArg (Option.bind · _) hname⟩
  | openai =>
      have hname : hosts "v1".toList = some "v1".toList := hlawful.some_of_word rfl rfl
      exact ⟨("v1", none), congrArg (Option.bind · _) hname⟩

theorem ofList_append_chatPath (scheme base : List Char) (p : Provider) :
    String.ofList (scheme ++ ':' :: base) ++ p.chatPath =
      String.ofList (scheme ++ ':' :: (base ++ p.chatPath.toList)) :=
  String.toList_inj.1 (by simp)

section

variable {scheme : String} (hscheme : scheme = "http" ∨ scheme = "https")

include hscheme

theorem afterScheme_of_scheme (rest : List Char) :
    afterScheme (String.ofList (scheme.toList ++ ':' :: rest)) = rest := by
  rw [afterScheme, String.toList_ofList]
  rcases hscheme with rfl | rfl <;> rfl

/-- Only a scheme that has kept its two slashes makes an address of a web server. -/
theorem isWebAddress_of_scheme_iff (rest : List Char) :
    isWebAddress (String.ofList (scheme.toList ++ ':' :: rest)) = true ↔
      ['/', '/'] <+: rest := by
  rw [isWebAddress, Bool.or_eq_true, List.isPrefixOf_iff_prefix, List.isPrefixOf_iff_prefix,
    String.toList_ofList]
  rcases hscheme with rfl | rfl
  · simp
  · simp

/-- The address for conversations has lost the slashes of its scheme if the endpoint has nothing
else. -/
theorem isWebAddress_append_iff (p : Provider) {rest : List Char} (hrest : ['/', '/'] <+: rest) :
    isWebAddress
        (String.ofList (scheme.toList ++ ':' :: dropWhileEnd (· == '/') rest) ++ p.chatPath) =
      true ↔ ∃ c ∈ rest, c ≠ '/' := by
  rw [ofList_append_chatPath, isWebAddress_of_scheme_iff hscheme]
  constructor
  · intro hprefix
    by_contra hslashes
    have hnone : dropWhileEnd (· == '/') rest = [] :=
      dropWhileEnd_append [] fun c hc => by
        by_contra hne
        exact hslashes ⟨c, hc, by simpa using hne⟩
    rw [hnone] at hprefix
    cases p <;> simp [Provider.chatPath] at hprefix
  · rintro ⟨c, hc, hne⟩
    obtain ⟨tail, rfl⟩ := hrest
    have htail : c ∈ tail := by simpa [hne] using hc
    obtain ⟨front, back, rfl⟩ := List.append_of_mem htail
    rw [← List.append_assoc, dropWhileEnd_append_cons _ (by simpa using hne), List.append_assoc,
      List.append_assoc]
    exact List.prefix_append _ _

/-- What the path for conversations is appended to decides which server is asked. -/
theorem origin_append_chatPath (p : Provider) (base : List Char) :
    origin (String.ofList (scheme.toList ++ ':' :: base) ++ p.chatPath) =
      (scheme.toList, authority (base.filter isKept ++ p.chatPath.toList)) := by
  have hkept : p.chatPath.toList.filter isKept = p.chatPath.toList := by cases p <;> rfl
  have hend : ∃ front c, p.chatPath.toList = front ++ [c] ∧ 32 < c.toNat := by
    cases p with
    | ollama => exact ⟨"/api/cha".toList, 't', rfl, by decide⟩
    | openai => exact ⟨"/v1/chat/completion".toList, 's', rfl, by decide⟩
  obtain ⟨front, c, hpath, hc⟩ := hend
  rw [ofList_append_chatPath, origin_of_scheme hscheme, List.filter_append, hkept, hpath,
    ← List.append_assoc, dropWhileEnd_concat _ (by simpa using hc)]

/-- The address for conversations keeps the server that the endpoint names, and only that. -/
theorem keepsOrigin_iff (p : Provider) (rest : List Char) :
    KeepsOrigin (String.ofList (scheme.toList ++ ':' :: rest))
        (String.ofList (scheme.toList ++ ':' :: dropWhileEnd (· == '/') rest) ++ p.chatPath) ↔
      NamesServer (String.ofList (scheme.toList ++ ':' :: rest)) := by
  rw [KeepsOrigin, NamesServer, origin_append_chatPath hscheme, origin_of_scheme hscheme,
    afterScheme_of_scheme hscheme]
  constructor
  · rintro ⟨lows, hlows, heq⟩
    by_contra hnames
    rw [authority_base_append_of_not p hnames, authority_endpoint_of_not hnames] at heq
    obtain ⟨c, hc, hhigh⟩ := authority_chatPath p
    rw [(Prod.mk.inj heq).2, List.nil_append] at hc
    exact absurd (hlows c hc) (Nat.not_le.2 hhigh)
  · intro hnames
    obtain ⟨lows, hlows, hsplit⟩ := exists_dropWhileEnd_append (·.toNat ≤ 32) (rest.filter isKept)
    replace hlows : ∀ c ∈ lows, c.toNat ≤ 32 := by simpa using hlows
    rw [authority_base_append p hnames]
    rcases authority_append_of_low (dropWhileEnd (·.toNat ≤ 32) (rest.filter isKept)) hlows with
      hsame | hlonger
    · refine ⟨[], by simp, ?_⟩
      rw [List.append_nil, ← hsame, ← hsplit]
    · refine ⟨lows, hlows, ?_⟩
      rw [← hlonger, ← hsplit]

/-- What the address for conversations is read to name is what the endpoint is read to name. -/
theorem reads_server_iff {hosts : Http.HostReader} (hlawful : hosts.Lawful) (p : Provider)
    {rest : List Char} {endpoint address : String}
    (hendpoint : endpoint = String.ofList (scheme.toList ++ ':' :: rest))
    (haddress : address =
      String.ofList (scheme.toList ++ ':' :: dropWhileEnd (· == '/') rest) ++ p.chatPath) :
    (∀ b, Http.Address.read? address hosts = some b →
        ∃ a, Http.Address.read? endpoint hosts = some a ∧ a.server = b.server) ↔
      NamesServer endpoint := by
  have hread := map_server_read? hosts hscheme _ hendpoint
  have hreadAddress :=
    map_server_read? hosts hscheme _ (haddress.trans (ofList_append_chatPath _ _ p))
  constructor
  · intro hserver
    by_contra hnames
    have hnone : ¬∃ c ∈ rest, isKept c = true ∧ isSlash c = false := by
      rwa [NamesServer, hendpoint, afterScheme_of_scheme hscheme] at hnames
    obtain ⟨named, hnamed⟩ := exists_server?_chatPath hlawful scheme p
    have hpath : (origin address).2 = authority p.chatPath.toList := by
      rw [haddress, origin_append_chatPath hscheme, authority_base_append_of_not p hnone]
    have hnothing : (origin endpoint).2 = [] := by
      rw [hendpoint, origin_of_scheme hscheme, authority_endpoint_of_not hnone]
    rw [hpath, hnamed, Option.map_some, Option.map_eq_some_iff] at hreadAddress
    obtain ⟨b, hb, -⟩ := hreadAddress
    obtain ⟨a, ha, -⟩ := hserver b hb
    rw [ha, hnothing] at hread
    cases hread
  · intro hnames b hb
    have hkeeps : KeepsOrigin endpoint address := by
      rw [hendpoint] at hnames ⊢
      rw [haddress]
      exact (keepsOrigin_iff hscheme p rest).2 hnames
    obtain ⟨lows, hlows, horigin⟩ := hkeeps
    have hauthority : (origin address).2 = (origin endpoint).2 ++ lows := congrArg Prod.snd horigin
    rw [hb, Option.map_some, hauthority] at hreadAddress
    have hnil : lows = [] := by
      by_contra hne
      rw [server?_append_of_low hlawful scheme _ hlows hne] at hreadAddress
      cases hreadAddress
    rw [hnil, List.append_nil] at hreadAddress
    exact Option.map_eq_some_iff.1 (hread.trans hreadAddress.symm)

end

namespace Service

variable {p : Provider} {s : Settings} {service : Service}

/-- A service has the settings that it is made of, and their endpoint has been checked. -/
theorem of_forProvider (h : forProvider p s = .ok service) :
    service.settings = s ∧ s.provider = p ∧ isWebAddress (trimmed s.endpoint) = true := by
  have hchecked : checkServer p s = .ok () := by
    cases hserver : checkServer p s with
    | ok => rfl
    | error e =>
        unfold forProvider at h
        rw [hserver] at h
        cases h
  have hsettings : service.settings = s := by
    unfold forProvider at h
    rw [hchecked] at h
    cases p with
    | ollama => exact (congrArg settings (Except.ok.inj h)).symm
    | openai =>
        cases hbearer : bearer s with
        | error e =>
            simp only [hbearer] at h
            cases h
        | ok b =>
            simp only [hbearer] at h
            exact (congrArg settings (Except.ok.inj h)).symm
  unfold checkServer at hchecked
  split_ifs at hchecked with hprovider hmodel hweb
  exact ⟨hsettings, not_not.1 hprovider, hweb⟩

/-- A request is sent for some conversation in some world. -/
def Sends (service : Service) (post : Http.Post) : Prop :=
  ∃ (σ : Type) (peer : Http.Peer σ) (state : σ) (messages : List Message) (o : Options),
    post ∈ (service.ask peer.recorded messages o (state, [])).2.2

/-- Every request whose address is read to name a server goes to the one that another address is
read to name. -/
def AsksServerOf (service : Service) (hosts : Http.HostReader) (address : String) : Prop :=
  ∀ post, service.Sends post → ∀ b, Http.Address.read? post.address hosts = some b →
    ∃ a, Http.Address.read? address hosts = some a ∧ a.server = b.server

theorem sends_iff {post : Http.Post} :
    service.Sends post ↔ ∃ messages o, service.post messages o = post := by
  constructor
  · rintro ⟨σ, peer, state, messages, o, hpost⟩
    rw [ask_recorded, List.nil_append, List.mem_singleton] at hpost
    exact ⟨messages, o, hpost.symm⟩
  · rintro ⟨messages, o, rfl⟩
    refine ⟨Unit, Http.silent, (), messages, o, ?_⟩
    rw [ask_recorded, List.nil_append]
    exact List.mem_singleton_self _

theorem asksServerOf_iff {hosts : Http.HostReader} {address : String} :
    service.AsksServerOf hosts address ↔
      ∀ b, Http.Address.read? service.settings.chatAddress hosts = some b →
        ∃ a, Http.Address.read? address hosts = some a ∧ a.server = b.server := by
  constructor
  · intro hasks b hread
    exact hasks (service.post [] {}) (sends_iff.2 ⟨[], {}, rfl⟩) b hread
  · intro hreads post hpost b hread
    obtain ⟨messages, o, rfl⟩ := sends_iff.1 hpost
    exact hreads b hread

/-- The requests for conversations go to the endpoint in the settings, without the slashes at its
end, and a path after it.  This address has the scheme of a web server unless the endpoint has
nothing but slashes after its own.  It names the server that the endpoint names, and the requests
go to that one, exactly if the endpoint has something there that can name a server; this holds
whoever reads the names of servers. -/
theorem forProvider_asks_endpoint (h : forProvider p s = .ok service) :
    service.settings.chatAddress =
        String.ofList (dropWhileEnd (· == '/') (trimmed s.endpoint).toList) ++ p.chatPath ∧
      (∀ post, service.Sends post → post.address = service.settings.chatAddress) ∧
      (isWebAddress service.settings.chatAddress = true ↔
        ∃ c ∈ afterScheme (trimmed s.endpoint), c ≠ '/') ∧
      (KeepsOrigin (trimmed s.endpoint) service.settings.chatAddress ↔
        NamesServer (trimmed s.endpoint)) ∧
      ∀ hosts : Http.HostReader, hosts.Lawful →
        (service.AsksServerOf hosts (trimmed s.endpoint) ↔ NamesServer (trimmed s.endpoint)) := by
  obtain ⟨hsettings, rfl, hweb⟩ := of_forProvider h
  obtain ⟨scheme, hscheme, rest, hrest, hendpoint⟩ := exists_scheme hweb
  have haddress : service.settings.chatAddress =
      String.ofList (dropWhileEnd (· == '/') (trimmed s.endpoint).toList) ++
        s.provider.chatPath := by
    rw [hsettings, Settings.chatAddress, Settings.baseAddress, trimmed, String.toList_ofList]
  have hchat : service.settings.chatAddress =
      String.ofList (scheme.toList ++ ':' :: dropWhileEnd (· == '/') rest) ++
        s.provider.chatPath := by
    rw [haddress, hendpoint, String.toList_ofList, dropWhileEnd_append_cons _ (by decide)]
  refine ⟨haddress, ?_, ?_, ?_, ?_⟩
  · intro post hpost
    obtain ⟨messages, o, rfl⟩ := sends_iff.1 hpost
    rfl
  · rw [hchat, hendpoint, afterScheme_of_scheme hscheme]
    exact isWebAddress_append_iff hscheme s.provider hrest
  · rw [hchat, hendpoint]
    exact keepsOrigin_iff hscheme s.provider rest
  · intro hosts hlawful
    rw [asksServerOf_iff]
    exact reads_server_iff hscheme hlawful s.provider hendpoint hchat

end Service

end StoryMend.Chat

namespace StoryMend.Endpoints

open Chat

/-- The settings of a model at an endpoint. -/
def settings (endpoint : String) : Chat.Settings where
  provider := .ollama
  model := "m"
  endpoint := endpoint

def service (endpoint : String) : Service where
  settings := settings endpoint
  authorization := none

/-- Blanks around an endpoint and a slash at its end do not change which server is asked. -/
theorem named_asks_endpoint :
    Service.forProvider .ollama (settings " https://llm.test/ ") =
        .ok (service " https://llm.test/ ") ∧
      (service " https://llm.test/ ").settings.chatAddress = "https://llm.test/api/chat" ∧
      isWebAddress (service " https://llm.test/ ").settings.chatAddress = true ∧
      (service " https://llm.test/ ").AsksServerOf Http.readHost? "https://llm.test/" := by
  have hservice : Service.forProvider .ollama (settings " https://llm.test/ ") =
      .ok (service " https://llm.test/ ") := rfl
  have htrimmed : Text.trimmed (settings " https://llm.test/ ").endpoint = "https://llm.test/" :=
    rfl
  obtain ⟨haddress, -, hweb, -, hasks⟩ := Service.forProvider_asks_endpoint hservice
  rw [htrimmed] at haddress hweb hasks
  refine ⟨hservice, haddress.trans rfl, hweb.2 ⟨'l', ?_, by decide⟩,
    (hasks Http.readHost? Http.lawful_readHost?).2 ⟨'l', ?_, rfl, rfl⟩⟩
  · decide
  · decide

/-- An endpoint that is a scheme alone is taken, and requests go to a server that the path
names. -/
theorem unnamed_asks_path :
    Service.forProvider .ollama (settings "http://") = .ok (service "http://") ∧
      (service "http://").settings.chatAddress = "http:/api/chat" ∧
      isWebAddress (service "http://").settings.chatAddress = false ∧
      Http.Address.read? (Text.trimmed (settings "http://").endpoint) = none ∧
      ∃ post, (service "http://").Sends post ∧
        (Http.Address.read? post.address).map Http.Address.host = some "api" := by
  have hhost : (Http.Address.read? "http:/api/chat").map Http.Address.host = some "api" := by
    decide +kernel
  exact ⟨rfl, rfl, rfl, rfl, _, Service.sends_iff.2 ⟨[], {}, rfl⟩, hhost⟩

end StoryMend.Endpoints
