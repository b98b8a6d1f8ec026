import Rathole.ConfigAccepted

set_option autoImplicit false

/- Whether a configuration is accepted, and as what, does not depend on the order in
which the validation meets its services. -/
namespace Rathole

theorem Enumerates.perm {V : Type} {l l' : List (String × V)} {m : HashMap String V}
    (left : Enumerates l m) (right : Enumerates l' m) : l.Perm l' := by
  rw [List.perm_ext_iff_of_nodup left.nodup.of_map right.nodup.of_map]
  rintro ⟨name, v⟩
  rw [left.mem_iff, right.mem_iff]

namespace Config

section Order

variable {V : Type}

/-- Writing every entry of a table back after filling it in. -/
theorem lookup_writeBack_fill {services : HashMap String V} {entries : List (String × V)}
    (enumerates : Enumerates entries services) (fill : String → V → V) (name : String) :
    (writeBack services (entries.map fun e => (e.1, fill e.1 e.2))).lookup name =
      (services.lookup name).map (fill name) := by
  have keys : (entries.map fun e => (e.1, fill e.1 e.2)).map Prod.fst = entries.map Prod.fst := by
    rw [List.map_map]
    rfl
  cases held : services.lookup name with
  | none =>
    cases found : (writeBack services (entries.map fun e => (e.1, fill e.1 e.2))).lookup name with
    | none => rfl
    | some v =>
      rcases lookup_writeBack found with member | ⟨-, before⟩
      · obtain ⟨⟨other, w⟩, listed, same⟩ := List.mem_map.mp member
        cases same
        cases held.symm.trans ((enumerates.mem_iff other w).mp listed)
      · cases held.symm.trans before
  | some w =>
    have listed : (name, w) ∈ entries := (enumerates.mem_iff name w).mpr held
    have written : name ∈ writeBack services (entries.map fun e => (e.1, fill e.1 e.2)) := by
      rw [writeBack, mem_foldl_insert, keys]
      exact .inr (List.mem_map.mpr ⟨(name, w), listed, rfl⟩)
    obtain ⟨v, found⟩ := Option.isSome_iff_exists.mp (Finmap.lookup_isSome.mpr written)
    rw [found]
    rcases lookup_writeBack found with member | ⟨absent, -⟩
    · obtain ⟨⟨other, x⟩, listed', same⟩ := List.mem_map.mp member
      cases same
      cases held.symm.trans ((enumerates.mem_iff other x).mp listed')
      rfl
    · rw [keys] at absent
      exact absurd (List.mem_map.mpr ⟨(name, w), listed, rfl⟩) absent

theorem writeBack_fill_order {services : HashMap String V} {entries entries' : List (String × V)}
    (left : Enumerates entries services) (right : Enumerates entries' services)
    (fill : String → V → V) :
    writeBack services (entries.map fun e => (e.1, fill e.1 e.2)) =
      writeBack services (entries'.map fun e => (e.1, fill e.1 e.2)) := by
  apply Finmap.ext_lookup
  intro name
  rw [lookup_writeBack_fill left, lookup_writeBack_fill right]

theorem validateServerConfig_order (order order' : HashOrder) {server valid : ServerConfig}
    (checked : validateServerConfig order server = .ok valid) :
    validateServerConfig order' server = .ok valid := by
  obtain ⟨entries, loop, rfl⟩ := validateServerConfig_ok checked
  have met := (validateServerServices_iff _ _ _ _).mp loop
  have left := order.enumerates server.services
  have right := order'.enumerates server.services
  have perm := left.perm right
  have again : validateServerServices server.defaultToken [] (order'.entries server.services) =
      .ok ((order'.entries server.services).map
        fun e => (e.1, fillServer server.defaultToken e.1 e.2)) := by
    apply (validateServerServices_iff _ _ _ _).mpr
    refine ⟨fun e member => met.tokens e (perm.mem_iff.mpr member),
      fun e member => met.free e (perm.mem_iff.mpr member), ?_, rfl⟩
    exact (perm.map _).nodup_iff.mp met.nodup
  have same := writeBack_fill_order left right (fillServer server.defaultToken)
  rw [← met.filled] at same
  simp only [validateServerConfig, loop, bind, Except.bind] at checked
  simp only [validateServerConfig, again, bind, Except.bind, ← same]
  exact checked

theorem validateClientConfig_order (order order' : HashOrder) {client valid : ClientConfig}
    (checked : validateClientConfig order client = .ok valid) :
    validateClientConfig order' client = .ok valid := by
  obtain ⟨entries, loop, rfl⟩ := validateClientConfig_ok checked
  obtain ⟨each, filled⟩ := (validateClientServices_iff _ _ _).mp loop
  have left := order.enumerates client.services
  have right := order'.enumerates client.services
  have perm := left.perm right
  have again : validateClientServices client (order'.entries client.services) =
      .ok ((order'.entries client.services).map fun e => (e.1, fillClient client e.1 e.2)) := by
    apply (validateClientServices_iff _ _ _).mpr
    exact ⟨fun e member => each e (perm.mem_iff.mpr member), rfl⟩
  have same := writeBack_fill_order left right (fillClient client)
  rw [← filled] at same
  simp only [validateClientConfig, loop, bind, Except.bind] at checked
  simp only [validateClientConfig, again, bind, Except.bind, ← same]
  exact checked

theorem mapM_order {A : Type} {check check' : A → Except String A}
    (agree : ∀ x y, check x = .ok y → check' x = .ok y) {x y : Option A}
    (mapped : x.mapM check = .ok y) : x.mapM check' = .ok y := by
  cases x with
  | none => exact mapped
  | some x =>
    change (some <$> check x : Except String (Option A)) = .ok y at mapped
    change (some <$> check' x : Except String (Option A)) = .ok y
    cases checked : check x with
    | error message =>
      rw [checked] at mapped
      cases mapped
    | ok z =>
      rw [checked] at mapped
      rw [agree x z checked]
      exact mapped

/-- A text is accepted as the same configuration whatever the order. -/
theorem fromStr_order {Text : Type} {tomlFromStr : Text → Except String Config}
    (order order' : HashOrder) {text : Text} {config : Config}
    (accepted : fromStr tomlFromStr order text = .ok config) :
    fromStr tomlFromStr order' text = .ok config := by
  unfold fromStr at accepted ⊢
  cases read : tomlFromStr text with
  | error message =>
    rw [read] at accepted
    cases accepted
  | ok parsed =>
    rw [read] at accepted
    simp only [validateSections, bind, Except.bind] at accepted ⊢
    cases server : parsed.server.mapM (validateServerConfig order) with
    | error message =>
      rw [server] at accepted
      cases accepted
    | ok validServer =>
      rw [server] at accepted
      rw [mapM_order (fun _ _ => validateServerConfig_order order order') server]
      cases client : parsed.client.mapM (validateClientConfig order) with
      | error message =>
        rw [client] at accepted
        cases accepted
      | ok validClient =>
        rw [client] at accepted
        rw [mapM_order (fun _ _ => validateClientConfig_order order order') client]
        exact accepted

end Order

end Config

end Rathole
