import Rathole.ClientReload
import Rathole.ServerHotReload
import Rathole.ServerReload

set_option autoImplicit false

/- Hot reload against a fresh start, for both roles and any two accepted
configurations. -/
namespace Rathole

/-- `calculate_events` is silent on equal configurations, restarts when more than
services differs, and otherwise gives events that bring either role to the tables of
the new configuration, touching the services that differ and no others. -/
theorem hot_reload_matches_fresh_start {Text D : Type} [DecidableEq D] {digest : List UInt8 → D}
    (injective : Function.Injective digest) {tomlFromStr : Text → Except String Config}
    {first second : HashOrder} (order : HashOrder) {before after : Text} {old new : Config}
    (readOld : Config.fromStr tomlFromStr first before = .ok old)
    (readNew : Config.fromStr tomlFromStr second after = .ok new) :
    (calculateEvents order old new = none ↔ old = new) ∧
    (∀ config, calculateEvents order old new = some [.general config] ↔
      config = new ∧ old.withoutServices ≠ new.withoutServices) ∧
    (∀ events, calculateEvents order old new = some events →
      old.withoutServices = new.withoutServices →
      (∀ e ∈ events, e.isGeneral = false) ∧
      (∀ o n, old.server = some o → new.server = some n →
        (∀ s, Server.Built digest o s → Server.Steady digest s ∧ Server.Serves digest o s) ∧
        ∀ s, Server.Steady digest s → Server.Serves digest o s →
          ∃ t, events.foldlM (Server.State.hotReload digest) s = some t ∧
            Server.Steady digest t ∧ Server.Serves digest n t ∧ Server.Reloaded digest o n s t) ∧
      (∀ o n, old.client = some o → new.client = some n →
        (∀ s, Client.Built o s → Client.Steady s ∧ Client.Serves o s) ∧
        ∀ s, Client.Steady s → Client.Serves o s →
          ∃ t, events.foldlM Client.State.hotReload s = some t ∧
            Client.Steady t ∧ Client.Serves n t ∧ Client.Reloaded o n s t ∧
            (∃ fresh, Client.Built n fresh) ∧ ∀ fresh, Client.Built n fresh →
              t.serviceHandles.keys = fresh.serviceHandles.keys ∧
              t.runtime.services.keys = fresh.runtime.services.keys)) := by
  have filledOld : old.Filled := Config.filled_of_fromStr readOld
  have filledNew : new.Filled := Config.filled_of_fromStr readNew
  refine ⟨calculateEvents_none, calculateEvents_general, fun events told alike => ?_⟩
  have service : ServiceEvents old new events := calculateEvents_services filledNew told alike
  refine ⟨service.special, fun o n had has => ⟨fun s built => ?_, fun s steady serves => ?_⟩,
    fun o n had has => ⟨fun s built => built.current, fun s steady serves => ?_⟩⟩
  · exact built.current injective fun name cfg found => (filledOld.server o had name cfg found).name
  · exact Server.hot_reload_reconciles injective service had has steady serves
  · obtain ⟨t, ran, settled, current, reloaded⟩ :=
      Client.hot_reload_reconciles service filledNew had has steady serves
    have startable : ∃ fresh, Client.Built n fresh := Client.exists_built fun name cfg found =>
      (filledNew.client n has name cfg found).retryInterval
    exact ⟨t, ran, settled, current, reloaded, startable,
      fun fresh built => current.keys built.current.2⟩

/-- A configuration with the one server service `web`. -/
def webConfig (token : String) : Config := ⟨some (Server.webServer token).config, none⟩

theorem webConfig_accepted (order : HashOrder) :
    Config.fromStr .ok order (webConfig "old") = .ok (webConfig "old") ∧
      Config.fromStr .ok order (webConfig "new") = .ok (webConfig "new") := by
  simp only [Config.fromStr, Config.validateSections, webConfig, Server.webServer, Server.State.start,
    Option.mapM_some, Config.validateServerConfig, order.entries_single]
  exact ⟨rfl, rfl⟩

/-- A changed token: the server drops the control channel of the service and holds the
table that a fresh start would build. -/
theorem web_token_replaced : ∃ events t,
    calculateEvents HashOrder.some (webConfig "old") (webConfig "new") = some events ∧
    events.foldlM (Server.State.hotReload id) (Server.webServer "old") = some t ∧
    Server.Serves id (Server.webServer "new").config t := by
  obtain ⟨readOld, readNew⟩ := webConfig_accepted HashOrder.some
  have differs : webConfig "old" ≠ webConfig "new" := by decide +kernel
  have alike : (webConfig "old").withoutServices = (webConfig "new").withoutServices := rfl
  have told := calculateEvents_eq HashOrder.some (webConfig "old") (webConfig "new")
  rw [if_neg differs, if_pos alike] at told
  have built : Server.Built id (Server.webServer "old").config (Server.webServer "old") :=
    ⟨_, 1, 0, [], enumerates_single "web" (Server.webService "old"), .nil _, rfl, rfl⟩
  obtain ⟨-, -, services⟩ :=
    hot_reload_matches_fresh_start Function.injective_id HashOrder.some readOld readNew
  obtain ⟨start, fold⟩ := (services _ told alike).2.1 _ _ rfl rfl
  obtain ⟨steady, serves⟩ := start _ built
  obtain ⟨t, ran, -, current, -⟩ := fold _ steady serves
  exact ⟨_, t, told, ran, current⟩

end Rathole
