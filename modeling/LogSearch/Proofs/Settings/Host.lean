import LogSearch.Proofs.Search.Requests
import LogSearch.Proofs.Search.Sessions
import LogSearch.Proofs.Text.Cutting
import LogSearch.Settings.Load

/-!
# The host of the search backend

A host is accepted if it begins as a web address does (`BeginsAsUrl`), and then the slashes at its
end are taken away.  What is left is stored, and the client posts to addresses below it.

This is right for a host that says anything behind its scheme: what is stored is a web address, it
would be accepted again and stored as it is, and so would be every address below it.  A host that is
nothing but a scheme and slashes (`IsBareScheme`) is accepted too, but the slashes that are taken
away are those of the scheme.  What is stored then is no web address, and it would be refused.

`host_addresses` says this of every section that is loaded, with the addresses to which its client
posts, whatever is asked of it.
-/

namespace LogSearch

open Validation

/-! ## Hosts -/

/-- The text begins with the scheme of a web address and its slashes. -/
def BeginsAsUrl (t : Text) : Prop := ∃ start ∈ hostStarts, start <+: t

/-- The text is a scheme with its slashes, and nothing but slashes behind them. -/
def IsBareScheme (t : Text) : Prop :=
  ∃ start ∈ hostStarts, ∃ slashes, t = start ++ slashes ∧ ∀ c ∈ slashes, c = '/'

/-- What is left of the schemes without their slashes. -/
def schemes : List Text := [['h', 't', 't', 'p', ':'], ['h', 't', 't', 'p', 's', ':']]

variable {t : Text} {s raw : SearchSettings}

lemma getLast?_trimSlashes (t : Text) : (Text.trimEndBy (· == '/') t).getLast? ≠ some '/' := by
  intro hlast
  have hslash := Text.drop_of_mem_getLast?_trimEndBy hlast
  contradiction

lemma trimSlashes_eq_self (h : t.getLast? ≠ some '/') : Text.trimEndBy (· == '/') t = t := by
  refine Text.trimEndBy_eq_self fun c hc => beq_eq_false_iff_ne.2 ?_
  rintro rfl
  exact h hc

lemma any_hostStarts_iff :
    (hostStarts.any fun start => start.isPrefixOf t) = true ↔ BeginsAsUrl t := by
  simp [BeginsAsUrl, List.isPrefixOf_iff_prefix]

lemma SearchSettings.withHost_of_not_beginsAsUrl (h : ¬ BeginsAsUrl raw.host) :
    raw.withHost = Checked.fail (.refused hostRefusal) := by
  rw [SearchSettings.withHost, if_neg (mt any_hostStarts_iff.1 h)]

lemma SearchSettings.withHost_eq_ok_iff :
    raw.withHost = .ok s ↔
      BeginsAsUrl raw.host ∧ s = { raw with host := Text.trimEndBy (· == '/') raw.host } := by
  by_cases h : BeginsAsUrl raw.host
  · rw [SearchSettings.withHost, if_pos (any_hostStarts_iff.2 h), Except.ok.injEq, eq_comm,
      and_iff_right h]
  · rw [SearchSettings.withHost_of_not_beginsAsUrl h]
    exact iff_of_false nofun fun hs => h hs.1

lemma SearchSettings.withHost_eq_self (h : BeginsAsUrl s.host)
    (hlast : s.host.getLast? ≠ some '/') : s.withHost = .ok s :=
  SearchSettings.withHost_eq_ok_iff.2 ⟨h, by rw [trimSlashes_eq_self hlast]⟩

/-- Of a bare scheme nothing is left but the name. -/
lemma IsBareScheme.trimSlashes_mem (h : IsBareScheme t) :
    Text.trimEndBy (· == '/') t ∈ schemes := by
  obtain ⟨start, hstart, slashes, rfl, hslashes⟩ := h
  have hnothing : Text.trimEndBy (· == '/') slashes = [] :=
    Text.trimEndBy_eq_nil_iff.2 fun c hc => beq_iff_eq.2 (hslashes c hc)
  have htable : ∀ start ∈ hostStarts, Text.trimEndBy (· == '/') start ∈ schemes := by decide
  rw [Text.trimEndBy_append, if_pos hnothing]
  exact htable start hstart

/-- Any other host stays a web address. -/
lemma BeginsAsUrl.trimSlashes (h : BeginsAsUrl t) (hbare : ¬ IsBareScheme t) :
    BeginsAsUrl (Text.trimEndBy (· == '/') t) := by
  obtain ⟨start, hstart, more, rfl⟩ := h
  have hsomething : Text.trimEndBy (· == '/') more ≠ [] := by
    intro hnothing
    refine hbare ⟨start, hstart, more, rfl, fun c hc => ?_⟩
    exact beq_iff_eq.1 (Text.trimEndBy_eq_nil_iff.1 hnothing c hc)
  rw [Text.trimEndBy_append, if_neg hsomething]
  exact ⟨start, hstart, List.prefix_append _ _⟩

lemma BeginsAsUrl.append (h : BeginsAsUrl t) (more : Text) : BeginsAsUrl (t ++ more) := by
  obtain ⟨start, hstart, hprefix⟩ := h
  exact ⟨start, hstart, hprefix.trans (List.prefix_append t more)⟩

lemma not_beginsAsUrl_of_mem_schemes (h : t ∈ schemes) : ¬ BeginsAsUrl t := by
  have htable : ∀ scheme ∈ schemes, ∀ start ∈ hostStarts, ¬ start <+: scheme := by decide
  rintro ⟨start, hstart, hprefix⟩
  exact htable t h start hstart hprefix

/-! ## The section -/

/-- The host that the members set, or else the one that is set when nothing is said. -/
def hostMember (ms : Members) : Checked Text := member ms "host" "http://localhost:9200" readText

lemma SearchSettings.exists_check_of_load {e : Environment} {given : Members}
    (h : SearchSettings.load e given = .ok s) :
    ∃ ms, e.members "SEARCH_" searchSettings given = .ok ms ∧ SearchSettings.check ms = .ok s := by
  obtain ⟨ms, hms, hcheck⟩ := Except.bind_eq_ok_iff.1 h
  exact ⟨ms, hms, Except.mapError_eq_ok_iff.1 hcheck⟩

/-- The host of a section is the one that is set, once it is accepted. -/
lemma SearchSettings.exists_withHost_of_check {ms : Members} (h : SearchSettings.check ms = .ok s) :
    ∃ raw : SearchSettings, hostMember ms = .ok raw.host ∧ raw.withHost = .ok s := by
  obtain ⟨raw, hfields, hraw⟩ := Except.bind_eq_ok_iff.1 h
  refine ⟨raw, ?_, hraw⟩
  simp only [Checked.ap_eq_ok_iff] at hfields
  -- the host is the first of the nine members
  obtain ⟨_, _, ⟨_, _, ⟨_, _, ⟨_, _, ⟨_, _, ⟨_, _, ⟨_, _, ⟨_, _, ⟨_, host, hmk, hhost, rfl⟩, -,
    rfl⟩, -, rfl⟩, -, rfl⟩, -, rfl⟩, -, rfl⟩, -, rfl⟩, -, rfl⟩, -, rfl⟩ := hfields
  obtain rfl := Except.ok.inj hmk
  exact hhost

/-! ## The addresses of a client -/

namespace Sessions

/-- The address below a host to which the request of an event goes, if the event is a request. -/
def Step.url? (host : Text) : Step → Option Text
  | .bulk _ => some (host ++ "/_bulk?refresh=false")
  | .search index _ => some (host ++ "/" ++ index ++ "/_search")
  | .close | .lose _ => none

lemma Step.beginsAsUrl {host url : Text} {step : Step} (hhost : BeginsAsUrl host)
    (h : step.url? host = some url) : BeginsAsUrl url := by
  cases step with
  | bulk body =>
    obtain rfl := Option.some.inj h
    exact hhost.append _
  | search index payload =>
    obtain rfl := Option.some.inj h
    exact ((hhost.append _).append _).append _
  | close => contradiction
  | lose number => contradiction

/-- The addresses to which a client has posted, last one last. -/
def urls (s : Sessions) : List Text := s.view.posts.map (·.url)

variable {s : Sessions}

lemma flatMap_sent_modify_close (made : List Session) (number : Nat) :
    (made.modify number (·.close)).flatMap (·.sent) = made.flatMap (·.sent) := by
  have hsent : (made.modify number (·.close)).map (·.sent) = made.map (·.sent) := by
    refine List.ext_getElem? fun k => ?_
    simp only [List.getElem?_map, List.getElem?_modify]
    split
    · cases made[k]? <;> rfl
    · simp
  rw [List.flatMap_def, List.flatMap_def, hsent]

lemma urls_eq (s : Sessions) : s.urls = (s.made.flatMap (·.sent)).map (·.url) := rfl

lemma urls_close : s.close.urls = s.urls := by
  rw [urls_eq, urls_eq, close]
  split
  · rw [flatMap_sent_modify_close]
  · rfl

lemma urls_lose (number : Nat) : (s.lose number).urls = s.urls := by
  rw [urls_eq, urls_eq, lose, flatMap_sent_modify_close]

lemma Tidy.urls_post (h : s.Tidy) (p : Post) : (s.post p).2.urls = s.urls ++ [p.url] := by
  have hview := congrArg Prod.snd (h.view_post p)
  have hposts : s.view.withSession.posts = s.view.posts := by
    rw [Connection.withSession]
    split <;> rfl
  simp only at hview
  rw [urls, hview, Connection.post, urls, hposts, List.map_append]
  rfl

lemma client_acquire : s.acquire.2.client = s.client := by
  rw [acquire]
  split <;> rfl

lemma client_post (p : Post) : (s.post p).2.client = s.client := client_acquire

lemma client_close : s.close.client = s.client := by
  rw [close]
  split <;> rfl

lemma client_apply (step : Step) : (s.apply step).client = s.client := by
  cases step with
  | bulk body => exact client_post _
  | search index payload => exact client_post _
  | close => exact client_close
  | lose number => rfl

/-- The step: a request goes to its address, and nothing else is posted. -/
lemma Tidy.urls_apply (h : s.Tidy) (step : Step) :
    (s.apply step).urls = s.urls ++ (step.url? s.client.host).toList := by
  cases step with
  | bulk body => exact h.urls_post _
  | search index payload => exact h.urls_post _
  | close => exact urls_close.trans (List.append_nil _).symm
  | lose number => exact (urls_lose number).trans (List.append_nil _).symm

/-- The run: the requests go to their addresses, in their order. -/
lemma Tidy.urls_run (h : s.Tidy) (steps : List Step) :
    (s.run steps).urls = s.urls ++ steps.filterMap (Step.url? s.client.host) := by
  induction steps generalizing s with
  | nil => exact (List.append_nil _).symm
  | cons step steps ih =>
    have hrest := ih (h.apply step)
    rw [client_apply, h.urls_apply, List.append_assoc] at hrest
    rw [List.filterMap_cons]
    refine hrest.trans ?_
    cases step.url? s.client.host <;> rfl

end Sessions

/-- A client takes the host as it is stored, and posts below it. -/
lemma urls_of_settings {c : Client} (h : Client.ofSettings? s = some c)
    (hlast : s.host.getLast? ≠ some '/') (decode : Json.Decoder) (exchanges : List Exchange)
    (steps : List Sessions.Step) :
    ((Sessions.new c decode exchanges).run steps).urls =
      steps.filterMap (Sessions.Step.url? s.host) := by
  have hhost : c.host = s.host := by
    rw [Client.ofSettings?, Client.new?] at h
    split at h
    · contradiction
    · obtain rfl := Option.some.inj h
      exact trimSlashes_eq_self hlast
  have hnew : (Sessions.new c decode exchanges).Tidy := .inl (List.forall_mem_nil _)
  rw [← hhost]
  exact hnew.urls_run steps

/-! ## Every section -/

/-- **What becomes of a host.**  Let a section be loaded.  Its host was set as a text that begins as
a web address does, and no slash is at its end any more.

* If the host was more than a scheme with slashes, what is stored is a web address.  Settings with
  it are accepted as they are.
* If it was no more than that, the scheme is stored without its slashes.  Settings with it are
  refused.

The client of the section posts to the addresses that its requests have below the stored host, and
to no others.  They are web addresses unless the host was a bare scheme. -/
theorem host_addresses {e : Environment} {given : Members} {s : SearchSettings}
    (h : SearchSettings.load e given = .ok s) :
    ∃ ms host, e.members "SEARCH_" searchSettings given = .ok ms ∧ hostMember ms = .ok host ∧
      BeginsAsUrl host ∧ s.host.getLast? ≠ some '/' ∧
      (¬ IsBareScheme host → BeginsAsUrl s.host ∧
        ∀ other : SearchSettings, other.host = s.host → other.withHost = .ok other) ∧
      (IsBareScheme host → s.host ∈ schemes ∧ ∀ other : SearchSettings, other.host = s.host →
        other.withHost = Checked.fail (.refused hostRefusal)) ∧
      ∀ c decode exchanges steps, Client.ofSettings? s = some c →
        let urls := ((Sessions.new c decode exchanges).run steps).urls
        urls = steps.filterMap (Sessions.Step.url? s.host) ∧
          (¬ IsBareScheme host → ∀ url ∈ urls, BeginsAsUrl url) := by
  obtain ⟨ms, hms, hcheck⟩ := SearchSettings.exists_check_of_load h
  obtain ⟨raw, hhost, hraw⟩ := SearchSettings.exists_withHost_of_check hcheck
  obtain ⟨hbegins, hs⟩ := SearchSettings.withHost_eq_ok_iff.1 hraw
  have hstored : s.host = Text.trimEndBy (· == '/') raw.host := congrArg SearchSettings.host hs
  have hlast : s.host.getLast? ≠ some '/' := hstored ▸ getLast?_trimSlashes raw.host
  have hurl (hmore : ¬ IsBareScheme raw.host) : BeginsAsUrl s.host :=
    hstored ▸ hbegins.trimSlashes hmore
  have hscheme (hbare : IsBareScheme raw.host) : s.host ∈ schemes :=
    hstored ▸ hbare.trimSlashes_mem
  refine ⟨ms, raw.host, hms, hhost, hbegins, hlast,
    fun hmore => ⟨hurl hmore, fun other hother => ?_⟩,
    fun hbare => ⟨hscheme hbare, fun other hother => ?_⟩,
    fun c decode exchanges steps hclient => ?_⟩
  · exact SearchSettings.withHost_eq_self (hother ▸ hurl hmore) (hother ▸ hlast)
  · have hno : ¬ BeginsAsUrl s.host := not_beginsAsUrl_of_mem_schemes (hscheme hbare)
    exact SearchSettings.withHost_of_not_beginsAsUrl (hother ▸ hno)
  · intro urls
    have hurls : urls = _ := urls_of_settings hclient hlast decode exchanges steps
    refine ⟨hurls, fun hmore url hmem => ?_⟩
    rw [hurls, List.mem_filterMap] at hmem
    obtain ⟨step, -, hstep⟩ := hmem
    exact Sessions.Step.beginsAsUrl (hurl hmore) hstep

/-- A host with a path and too many slashes. -/
theorem host_addresses_of_path :
    let given : Members := [("host", .text "https:///logs//")]
    ∃ s, SearchSettings.load ⟨[], none⟩ given = .ok s ∧ s.host = "https:///logs" ∧
      BeginsAsUrl s.host ∧ s.withHost = .ok s ∧
      ∀ c decode exchanges, Client.ofSettings? s = some c →
        ((Sessions.new c decode exchanges).run [.search "a b" .null, .close, .bulk []]).urls =
          ["https:///logs/a b/_search".toList, "https:///logs/_bulk?refresh=false".toList] := by
  intro given
  let s : SearchSettings := ⟨"https:///logs", none, none, "application-logs", false, true, true,
    Binary64.ofInt 5, Binary64.ofInt 30⟩
  have hload : SearchSettings.load ⟨[], none⟩ given = .ok s := by decide +kernel
  have hmembers : Environment.members ⟨[], none⟩ "SEARCH_" searchSettings given = .ok given := rfl
  obtain ⟨ms, host, hms, hhost, -, -, hurl, -, hposts⟩ := host_addresses hload
  obtain rfl := Except.ok.inj (hmembers.symm.trans hms)
  obtain rfl : "https:///logs//".toList = host := Except.ok.inj hhost
  have hmore : ¬ IsBareScheme "https:///logs//" := fun h =>
    absurd h.trimSlashes_mem (by decide +kernel)
  obtain ⟨hbegins, haccepted⟩ := hurl hmore
  exact ⟨s, hload, rfl, hbegins, haccepted s rfl,
    fun c decode exchanges hclient => (hposts c decode exchanges _ hclient).1⟩

/-- A bare scheme is accepted.  It is stored as a text that is no web address and would be refused,
and the client posts to an address that is none either. -/
theorem bare_scheme_accepted :
    ∃ s c, SearchSettings.load ⟨[], none⟩ [("host", .text "https://")] = .ok s ∧
      s.host = "https:" ∧ ¬ BeginsAsUrl s.host ∧ s.withHost ≠ .ok s ∧
      Client.ofSettings? s = some c ∧
      ((Sessions.new c Json.decoder []).run [.bulk []]).urls =
        ["https:/_bulk?refresh=false".toList] := by
  let s : SearchSettings := ⟨"https:", none, none, "application-logs", false, true, true,
    Binary64.ofInt 5, Binary64.ofInt 30⟩
  refine ⟨s, ⟨"https:", none, Binary64.ofInt 5, Binary64.ofInt 30⟩, by decide +kernel, rfl, ?_,
    by decide +kernel, by decide +kernel, by decide +kernel⟩
  exact not_beginsAsUrl_of_mem_schemes (by decide +kernel)

end LogSearch
