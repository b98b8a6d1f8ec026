import Rathole.ConfigSetFrame
import Rathole.ConfigSpec
import Rathole.TomlHeaders

set_option autoImplicit false

/- What `config add` and `config remove` make of the services of a configuration. -/
namespace Rathole.ConfigEdit

open Toml (Item Entries TableKind Table Value under)

/-- A service that is asked for. A token is generated when none is given. -/
structure Requested where
  side : ServiceSide
  name : String
  addr : String
  udp : Bool
  token : Option String

namespace Requested

variable (r : Requested) (fresh : String)

def entry : Table :=
  (if r.udp then [("type", .string "udp")] else []) ++
    [(r.side.serviceAddrKey, .string r.addr), ("token", .string (r.token.getD fresh))]

def place : List String := [r.side.key, "services", r.name]

/-- The generated token, which is reported. -/
def generated : Option String := if r.token.isNone then some fresh else none

end Requested

/-- What the noise transport puts into a section. -/
def noiseValues (key v : String) : List (List String × Value) :=
  under "transport" [(["type"], .string "noise"), (["noise", key], .string v)]

def NoisePlan.values : NoisePlan → List (List String × Value)
  | .none => []
  | .server privateKey _ =>
    under ServiceSide.server.key (noiseValues "local_private_key" privateKey)
  | .client remotePublicKey =>
    under ServiceSide.client.key (noiseValues "remote_public_key" remotePublicKey)

/-- The services are put, with the tokens generated for them, where none of their names was. -/
structure AddsServices (before t : Table) (requested : List (Requested × String))
    (plan : NoisePlan) (results : List Added) : Prop where
  listed : ∀ r ∈ requested, ∃ services,
    (Value.table before).follow [r.1.side.key, "services"] = some (.table services) ∧
      services.lookup r.1.name = none
  distinct : (requested.map fun r => (r.1.side, r.1.name)).Nodup
  same : Table.Same t (before.puts
    (plan.values ++ requested.map fun r => (r.1.place, .table (r.1.entry r.2))))
  reported : (results.map fun a => (a.name, a.side, a.token)) =
    requested.map fun r => (r.1.name, r.1.side, r.1.generated r.2)

/-- The service goes out of the table of services. -/
structure RemovesService (before t : Table) (side : ServiceSide) (name : String) : Prop where
  held : ((Value.table before).follow [side.key, "services", name]).isSome = true
  same : Table.Same t (before.put [side.key, "services"]
    (.table (Toml.removeKey ((before.inner side.key).inner "services") name)))

section Pending

variable {Text : Type} {env : Env Text} {doc after : Entries} {t : Table}

/-- A pending service and the request that it is for. -/
structure PendingService.Writes (p : PendingService) (r : Requested × String) : Prop where
  side : p.side = r.1.side
  name : p.name = r.1.name
  formed : p.entry.wellFormed = true
  scalar : ∀ e ∈ p.entry, e.2.isScalar = true
  entry : p.entry.written = r.1.entry r.2
  token : p.generatedToken = r.1.generated r.2

theorem intoEntries_scalar {entries : Entries} (scalar : ∀ e ∈ entries, e.2.isScalar = true) :
    Item.intoValue.intoEntries entries = entries := by
  induction entries with
  | nil => rfl
  | cons e rest ih =>
    show (e.1, e.2.intoValue) :: Item.intoValue.intoEntries rest = e :: rest
    rw [Item.intoValue_scalar (scalar e List.mem_cons_self),
      ih fun e' there => scalar e' (List.mem_cons_of_mem e there)]

/-- A service is put into the services of its side. -/
theorem insertPending_ok {p : PendingService} {r : Requested × String} {added : Added}
    (writes : p.Writes r) (formed : Formed .header doc) (same : Table.Same doc.written t)
    (ran : insertPending doc p = .ok (after, added)) :
    Formed .header after ∧
      Table.Same after.written (t.put r.1.place (.table (r.1.entry r.2))) ∧
      (added.name, added.side, added.token) = (r.1.name, r.1.side, r.1.generated r.2) := by
  obtain ⟨⟨kind, entries⟩, outer, ran⟩ := bind_ok ran
  obtain ⟨⟨inner, services⟩, found, ran⟩ := bind_ok ran
  cases ran
  have held := bind_asTableLike (okOrElse_ok outer)
  have listed := bind_asTableLike (okOrElse_ok found)
  have outside : Formed kind entries := formed.lookup held
  have inside : Formed inner services := outside.lookup listed
  have entry : Formed .header p.entry := formed_document.mpr writes.formed
  have formed' : Formed inner (services.insert inner p.name (.table .header p.entry)) :=
    inside.insert entry inner p.name
  refine ⟨formed.insertKey (outside.insertKey formed' "services") _, ?_, ?_⟩
  · have section_ : Table.Same entries.written (t.inner p.side.key) :=
      Toml.Entries.same_opened kind (wellFormed_of_formed formed) same (by rw [held]; rfl)
    have old : Table.Same services.written ((t.inner p.side.key).inner "services") :=
      Toml.Entries.same_opened inner (wellFormed_of_formed outside) section_
        (by rw [listed]; rfl)
    have put : Table.Same (Entries.written (services.insert inner p.name (.table .header p.entry)))
        (Toml.insertKey ((t.inner p.side.key).inner "services") p.name
          (.table (r.1.entry r.2))) := by
      have shown : Table.Same p.entry.written (r.1.entry r.2) := writes.entry ▸ .refl _
      unfold Toml.Entries.insert
      split
      · show Table.Same (Entries.written (Toml.insertKey services p.name
          (.table .inline (Item.intoValue.intoEntries p.entry)))) _
        rw [intoEntries_scalar writes.scalar]
        exact Toml.Entries.same_insertKey_table (wellFormed_of_formed inside)
          ((Toml.Entries.wellFormed_table .inline _).mpr ⟨Or.inl rfl, writes.formed⟩) shown old
      · exact Toml.Entries.same_insertKey_table (wellFormed_of_formed inside) entry shown old
    rw [Requested.place, ← writes.side, ← writes.name]
    exact Toml.Entries.same_insertKey_table (wellFormed_of_formed formed)
      (outside.insertKey formed' "services") (Toml.Entries.same_insertKey_table
        (wellFormed_of_formed outside) formed' put section_) same
  · rw [writes.name, writes.side, writes.token]

/-- The whole batch is put, one service after the other. -/
theorem insertAll_ok {pending : List PendingService} {requested : List (Requested × String)}
    {results : List Added} (writes : List.Forall₂ PendingService.Writes pending requested)
    (formed : Formed .header doc) (same : Table.Same doc.written t)
    (ran : insertAll doc pending = .ok (after, results)) :
    Formed .header after ∧
      Table.Same after.written
        (t.puts (requested.map fun r => (r.1.place, .table (r.1.entry r.2)))) ∧
      (results.map fun a => (a.name, a.side, a.token)) =
        requested.map fun r => (r.1.name, r.1.side, r.1.generated r.2) := by
  induction writes generalizing doc t results with
  | nil =>
    cases ran
    exact ⟨formed, same, rfl⟩
  | cons here rest ih =>
    obtain ⟨⟨next, added⟩, first, ran⟩ := bind_ok ran
    obtain ⟨⟨last, others⟩, later, ran⟩ := bind_ok ran
    cases ran
    obtain ⟨formed', same', reported⟩ := insertPending_ok here formed same first
    obtain ⟨formed'', same'', others⟩ := ih formed' same' later
    refine ⟨formed'', same'', ?_⟩
    rw [List.map_cons, List.map_cons, reported, others]

theorem same_unwrapTable {kind inner : TableKind} {entries table : Entries} {key : String}
    (formed : Formed kind entries) (same : Table.Same entries.written t)
    (found : unwrapTable kind entries key = .ok (inner, table)) :
    Table.Same table.written (t.inner key) := by
  have item := asTableLike_eq_some (okOrElse_ok found)
  rw [← apply_ite (fun made => Item.table made [])] at item
  exact Toml.Entries.same_opened _ (wellFormed_of_formed formed) same item

/-- The transport gets its type and its key. -/
theorem noiseTransport_ok {side : ServiceSide} {key v : String} (formed : Formed .header doc)
    (same : Table.Same doc.written t) (ran : noiseTransport env doc side key v = .ok after) :
    Formed .header after ∧ Table.Same after.written (t.puts (under side.key (noiseValues key v))) := by
  have edits := edits_noiseTransport ran
  obtain ⟨⟨kind, entries⟩, outer, ran⟩ := bind_ok ran
  obtain ⟨-, -, ran⟩ := bind_ok ran
  obtain ⟨⟨transportKind, transport⟩, found, ran⟩ := bind_ok ran
  obtain ⟨⟨noiseKind, noise⟩, noiseFound, ran⟩ := bind_ok ran
  cases ran
  refine ⟨edits.formed formed, ?_⟩
  have held := sectionOf_ok outer
  have outside : Formed kind entries := formed.lookup held
  have inside := formed_unwrapTable outside found
  have section_ : Table.Same entries.written (t.inner side.key) :=
    Toml.Entries.same_opened kind (wellFormed_of_formed formed) same (by rw [held]; rfl)
  have typed : Formed transportKind (transport.insert transportKind "type" (.string "noise")) :=
    inside.insert rfl _ _
  have typed' : Table.Same (transport.insert transportKind "type" (.string "noise")).written
      (((t.inner side.key).inner "transport").put ["type"] (.string "noise")) :=
    Toml.Entries.same_insert transportKind (wellFormed_of_formed inside) rfl rfl
      (same_unwrapTable outside section_ found)
  have keyed : Formed noiseKind (noise.insert noiseKind key (.string v)) :=
    (formed_unwrapTable typed noiseFound).insert rfl _ _
  have keyed' : Table.Same (noise.insert noiseKind key (.string v)).written (Toml.insertKey
      ((((t.inner side.key).inner "transport").put ["type"] (.string "noise")).inner "noise") key
      (.string v)) :=
    Toml.Entries.same_insert noiseKind
      (wellFormed_of_formed (formed_unwrapTable typed noiseFound)) rfl rfl
      (same_unwrapTable typed typed' noiseFound)
  have deep : ∀ a ∈ [(["type"], Value.string "noise"), (["noise", key], .string v)], a.1 ≠ [] := by
    intro a there
    simp only [List.mem_cons, List.not_mem_nil, or_false] at there
    rcases there with rfl | rfl <;> exact List.cons_ne_nil _ _
  have filled : noiseValues key v ≠ [] := List.cons_ne_nil _ _
  apply Toml.Entries.same_under (wellFormed_of_formed formed)
    (outside.insertKey (typed.insertKey keyed "noise") "transport") filled
    (Toml.under_deep "transport" _) _ same
  apply Toml.Entries.same_under (wellFormed_of_formed outside) (typed.insertKey keyed "noise")
    (List.cons_ne_nil _ _) deep _ section_
  exact Toml.Entries.same_insertKey_table (wellFormed_of_formed typed) keyed keyed' typed'

end Pending

section Specs

variable {side : ServiceSide} {fresh : Nat → String} {pending : List PendingService}

/-- The request of a spec. -/
def ServiceSpec.requested (spec : ServiceSpec) (side : ServiceSide) : Requested where
  side := side
  name := spec.name
  addr := (match side with
    | .client => spec.localAddr
    | .server => spec.bindAddr).getD ""
  udp := spec.udp
  token := spec.token

def requestsOf (side : ServiceSide) (specs : List String) : Except String (List Requested) :=
  specs.mapM fun spec => (parseSpec spec side).map fun out => out.requested side

/-- The services of a batch, each with the token that would be generated for it. -/
def requestedBatch (clientSpecs serverSpecs : List String) (fresh : Nat → String) :
    Except String (List (Requested × String)) := do
  let clients ← requestsOf .client clientSpecs
  let servers ← requestsOf .server serverSpecs
  .ok ((clients ++ servers).zipIdx.map fun r => (r.1, fresh r.2))

/-- A spec has the address of its side, and no other. -/
theorem address_of_parseSpec {spec : String} {out : ServiceSpec}
    (parsed : parseSpec spec side = .ok out) :
    (side = .client → out.localAddr.isSome = true ∧ out.bindAddr = none) ∧
      (side = .server → out.bindAddr.isSome = true ∧ out.localAddr = none) := by
  have complete := (parseSpec_ok.mp parsed).2
  have same := (parseSpec_iff.mp parsed).2
  constructor
  · intro client
    refine ⟨Option.isSome_iff_ne_none.mpr (by simpa [client] using complete.client), ?_⟩
    rw [same, client]
    simp [ServiceSpec.after, ServiceSpec.empty]
  · intro server
    refine ⟨Option.isSome_iff_ne_none.mpr (by simpa [server] using complete.server), ?_⟩
    rw [same, server]
    simp [ServiceSpec.after, ServiceSpec.empty]

theorem specToPending_writes {spec token : String} {out : ServiceSpec}
    (parsed : parseSpec spec side = .ok out) :
    (specToPending out side token).Writes (out.requested side, token) := by
  have address := address_of_parseSpec parsed
  obtain ⟨name, local_, bind, given, udp⟩ := out
  cases side with
  | client =>
    obtain ⟨there, none⟩ := address.1 rfl
    obtain ⟨addr, rfl⟩ := Option.isSome_iff_exists.mp there
    cases none
    refine ⟨rfl, rfl, formed_specToPending _ _ _, ?_, ?_, rfl⟩
    · cases udp <;> simp [specToPending, Item.isScalar]
    · cases udp <;> rfl
  | server =>
    obtain ⟨there, none⟩ := address.2 rfl
    obtain ⟨addr, rfl⟩ := Option.isSome_iff_exists.mp there
    cases none
    refine ⟨rfl, rfl, formed_specToPending _ _ _, ?_, ?_, rfl⟩
    · cases udp <;> simp [specToPending, Item.isScalar]
    · cases udp <;> rfl

theorem requestsOf_cons (spec : String) (rest : List String) :
    requestsOf side (spec :: rest) =
      (parseSpec spec side).map (fun out => out.requested side) >>= fun r =>
        requestsOf side rest >>= fun others => .ok (r :: others) := List.mapM_cons

/-- The pending services are those of the requests, with the tokens in their order. -/
theorem specsToPending_ok {specs : List String} {i : Nat}
    (ran : specsToPending fresh side i specs = .ok pending) :
    ∃ requests, requestsOf side specs = .ok requests ∧ requests.length = specs.length ∧
      List.Forall₂ PendingService.Writes pending
        ((requests.zipIdx i).map fun r => (r.1, fresh r.2)) := by
  induction specs generalizing i pending with
  | nil =>
    cases ran
    exact ⟨[], rfl, rfl, .nil⟩
  | cons spec rest ih =>
    obtain ⟨out, parsed, ran⟩ := bind_ok ran
    obtain ⟨others, later, ran⟩ := bind_ok ran
    cases ran
    obtain ⟨requests, asked, counted, writes⟩ := ih later
    refine ⟨out.requested side :: requests, ?_, ?_, ?_⟩
    · rw [requestsOf_cons, parsed, asked]
      rfl
    · rw [List.length_cons, List.length_cons, counted]
    · rw [List.zipIdx_cons, List.map_cons]
      exact .cons (specToPending_writes parsed) writes

/-- No name is twice in the batch for one side. -/
theorem firstRepeated_none {seen : List (ServiceSide × String)}
    (none : firstRepeated seen pending = none) :
    (pending.map fun p => (p.side, p.name)).Nodup ∧ ∀ p ∈ pending, (p.side, p.name) ∉ seen := by
  induction pending generalizing seen with
  | nil => exact ⟨List.nodup_nil, by simp⟩
  | cons p rest ih =>
    unfold firstRepeated at none
    split at none
    · cases none
    · next fresh =>
      obtain ⟨distinct, unseen⟩ := ih none
      constructor
      · rw [List.map_cons, List.nodup_cons]
        refine ⟨?_, distinct⟩
        intro again
        obtain ⟨q, there, same⟩ := List.mem_map.mp again
        exact unseen q there (same ▸ List.mem_cons_self)
      · intro q there
        cases List.mem_cons.mp there with
        | inl here =>
          rw [here]
          exact fresh
        | inr later => exact fun held => unseen q later (List.mem_cons_of_mem _ held)

theorem distinct_of_checkRepeated (ran : checkRepeated pending = .ok ()) :
    (pending.map fun p => (p.side, p.name)).Nodup := by
  unfold checkRepeated at ran
  split at ran
  · cases ran
  · next none => exact (firstRepeated_none none).1

theorem vacant_of_checkVacant {doc : Entries} (ran : checkVacant doc pending = .ok ()) :
    ∀ p ∈ pending, serviceExists doc p.side p.name = false := by
  unfold checkVacant at ran
  split at ran
  · cases ran
  · next none =>
    intro p there
    simpa using List.find?_eq_none.mp none p there

theorem names_of_writes {requested : List (Requested × String)}
    (writes : List.Forall₂ PendingService.Writes pending requested) :
    (pending.map fun p => (p.side, p.name)) = requested.map fun r => (r.1.side, r.1.name) := by
  induction writes with
  | nil => rfl
  | cons here rest ih => rw [List.map_cons, List.map_cons, ih, here.side, here.name]

theorem exists_pending {requested : List (Requested × String)}
    (writes : List.Forall₂ PendingService.Writes pending requested) :
    ∀ r ∈ requested, ∃ p ∈ pending, p.Writes r := by
  induction writes with
  | nil =>
    intro r there
    cases there
  | cons here rest ih =>
    intro r there
    cases List.mem_cons.mp there with
    | inl first => exact ⟨_, List.mem_cons_self, first ▸ here⟩
    | inr later =>
      obtain ⟨p, member, writes⟩ := ih r later
      exact ⟨p, List.mem_cons_of_mem _ member, writes⟩

theorem pending_of_singleton {r : Requested × String}
    (writes : List.Forall₂ PendingService.Writes pending [r]) :
    ∃ p, pending = [p] ∧ p.Writes r := by
  cases writes with
  | cons here rest =>
    cases rest
    exact ⟨_, rfl, here⟩

end Specs

section Removed

variable {doc entries services : Entries} {kind inner : TableKind} {side : ServiceSide}
  {name : String}

/-- The text is without the one entry exactly when the table of services is printed still. -/
theorem removed_iff (formed : doc.wellFormed = true)
    (held : doc.lookup side.key = some (.table kind entries))
    (listed : entries.lookup "services" = some (.table inner services)) :
    Table.Same (doc.removeAt name [side.key, "services"]).written
        (doc.written.put [side.key, "services"]
          (.table (Toml.removeKey services.written name))) ↔
      inner.written = true ∨ ∃ other ∈ services.map Prod.fst, other ≠ name := by
  have outside : Formed kind entries := (formed_document.mpr formed).lookup held
  have inside : Formed inner services := outside.lookup listed
  have kept := wellFormed_of_formed inside
  have left : Entries.written (Toml.removeKey services name) ≠ [] ↔
    ∃ other ∈ services.map Prod.fst, other ≠ name := left_iff kept
  have edited : doc.removeAt name [side.key, "services"] = Toml.insertKey doc side.key (.table kind
      (Toml.insertKey entries "services" (.table inner (Toml.removeKey services name)))) := by
    simp only [Entries.removeAt, held, listed]
  rw [edited]
  constructor
  · intro same
    have there := ((same.inner side.key) "services").isSome
    rw [Table.put, Toml.inner_insertKey, Table.put, Toml.lookup_insertKey, if_pos rfl] at there
    have shown : (Item.table inner (Toml.removeKey services name)).written.isSome = true := by
      rw [Table.inner, Toml.Entries.lookup_written_insertKey (Toml.mem_keys_of_lookup held),
        if_pos rfl, Toml.Entries.written_table] at there
      split at there
      · next u found =>
        split at found
        · cases found
          rw [Toml.Entries.lookup_written_insertKey (Toml.mem_keys_of_lookup listed),
            if_pos rfl] at there
          exact there
        · cases found
      · cases there
    rw [Toml.Entries.written_table] at shown
    split at shown
    · next visible => exact visible.imp_right left.mp
    · cases shown
  · intro keeps
    have inside' : Formed inner (Toml.removeKey services name) := by
      apply (Toml.Entries.wellFormed_table _ _).mpr
      refine ⟨keeps.imp_right ?_, Toml.Entries.wellFormed_removeKey kept⟩
      intro other
      have filled := left.mpr other
      intro empty
      rw [empty] at filled
      exact filled rfl
    have old : doc.written.inner side.key = entries.written := by
      rw [Table.inner, Toml.Entries.lookup_written_table formed held]
    rw [← Entries.written_removeKey, Table.put, Table.put, old]
    exact Toml.Entries.same_insertKey_table formed (outside.insertKey inside' "services")
      (Toml.Entries.same_insertKey_table (wellFormed_of_formed outside) inside' (.refl _) (.refl _))
      (.refl _)

end Removed

section Restored

variable {Text : Type} {env : Env Text} {text after : Text}
  {doc doc' next entries services : Entries} {kind inner : TableKind} {side : ServiceSide}
  {name : String} {t : Table}

theorem serviceExists_of_lookup (held : doc.lookup side.key = some (.table kind entries))
    (listed : entries.lookup "services" = some (.table inner services)) (name : String) :
    serviceExists doc side name = (services.lookup name).isSome := by
  have found : servicesOf doc side = some (inner, services) := by
    simp only [servicesOf, held, Option.bind_some, Item.get, Item.asTableLike, listed]
  unfold serviceExists
  rw [found]

theorem serviceExists_absent (absent : doc.lookup side.key = none) (name : String) :
    serviceExists doc side name = false := by
  have none : servicesOf doc side = none := by
    simp only [servicesOf, absent, Option.bind_none]
  unfold serviceExists
  rw [none]

theorem definingSide_of_lookup (held : doc.lookup side.key = some (.table kind entries))
    (listed : entries.lookup "services" = some (.table inner services))
    (other : doc.lookup side.other.key = none) (present : (services.lookup name).isSome = true) :
    definingSide doc name = some side := by
  have own := (serviceExists_of_lookup held listed name).trans present
  have foreign := serviceExists_absent other name
  unfold definingSide
  cases side with
  | client => simp [own]
  | server =>
    have client : serviceExists doc .client name = false := foreign
    simp [own, client]

/-- The name of a new service is found again and removed. -/
def Restores (env : Env Text) (after : Text) (name : String) (before : Table) : Prop :=
  ∃ again removed u, runRemove env (some after) name = .ok (again, removed) ∧
    env.crate.read again = .ok u ∧ Table.Same u before

theorem runRemove_of_parse (parsed : env.crate.parse text = .ok doc)
    (defined : definingSide doc name = some side) :
    ∃ removed, runRemove env (some text) name =
      .ok (env.crate.print (doc.removeAt name [side.key, "services"]), removed) := by
  have loaded : loadDocument env (some text) = .ok doc := withContext_of_ok parsed
  unfold runRemove listServices removeService
  simp only [loaded, defined, okOrElse, bind, Except.bind]
  exact ⟨_, rfl⟩

/-- What an inserted service leaves of the tables around it. -/
theorem insertPending_tables {p : PendingService} {added : Added}
    (held : doc.lookup p.side.key = some (.table kind entries))
    (listed : entries.lookup "services" = some (.table inner services))
    (ran : insertPending doc p = .ok (next, added)) : ∃ entries',
      next.lookup p.side.key = some (.table kind entries') ∧
      entries'.lookup "services" =
        some (.table inner (services.insert inner p.name (.table .header p.entry))) ∧
      ∀ key, key ≠ p.side.key → next.lookup key = doc.lookup key := by
  obtain ⟨⟨kind', entries'⟩, outer, ran⟩ := bind_ok ran
  obtain ⟨⟨inner', services'⟩, found, ran⟩ := bind_ok ran
  cases ran
  have held' := bind_asTableLike (okOrElse_ok outer)
  have listed' := bind_asTableLike (okOrElse_ok found)
  cases held.symm.trans held'
  cases listed.symm.trans listed'
  refine ⟨_, by rw [Toml.lookup_insertKey, if_pos rfl], by rw [Toml.lookup_insertKey, if_pos rfl],
    ?_⟩
  intro key apart
  rw [Toml.lookup_insertKey, if_neg apart]

/-- A saved document is read as what it denotes. -/
theorem saved_ok (prints : env.crate.Prints) (formed : next.wellFormed = true)
    (ran : saveWithSkeleton env next false = .ok after) : ∃ t doc',
      env.crate.read after = .ok t ∧ env.crate.parse after = .ok doc' ∧
      after = env.crate.print next ∧ Table.Same t next.written := by
  obtain ⟨⟨⟩, valid, ran⟩ := bind_ok ran
  cases ran
  obtain ⟨config, loaded, -⟩ := map_ok valid
  obtain ⟨t, readable, -⟩ := (loadable_iff _).mp ⟨config, loaded⟩
  obtain ⟨doc', parsed⟩ := prints.parsed formed readable
  exact ⟨t, doc', readable, parsed, rfl, prints.printed formed readable⟩

/-- A service that is inserted and removed again leaves no trace. -/
theorem restores_of_insert {p : PendingService} {r : Requested × String} {added : Added}
    (lawful : env.crate.Lawful) (prints : env.crate.Prints) (styles : env.crate.Styles)
    (stands : env.crate.Stands) (formed : doc.wellFormed = true) (writes : p.Writes r)
    (held : doc.lookup p.side.key = some (.table kind entries))
    (listed : entries.lookup "services" = some (.table inner services))
    (other : doc.lookup p.side.other.key = none) (fresh : services.lookup p.name = none)
    (ran : insertPending doc p = .ok (next, added))
    (saved : saveWithSkeleton env next false = .ok after) :
    Restores env after p.name doc.written := by
  obtain ⟨formed', same, -⟩ := insertPending_ok writes (formed_document.mpr formed)
    (Table.Same.refl doc.written) ran
  have formed' := wellFormed_of_formed formed'
  obtain ⟨t, doc', readable, parsed, printed, same'⟩ := saved_ok prints formed' saved
  obtain ⟨entries₂, held₂, listed₂, frame⟩ := insertPending_tables held listed ran
  rw [printed] at readable parsed
  have alike := Toml.Crate.alike_of_parse lawful prints styles formed' readable parsed
  obtain ⟨kind', entries', held', -, inside⟩ := alike.table held₂
  obtain ⟨inner', services', listed', -, within⟩ := inside.table listed₂
  have other' : doc'.lookup p.side.other.key = none := by
    rw [← Option.not_isSome_iff_eq_none, ← alike.lookup_isSome,
      frame _ (key_ne_of_ne (ServiceSide.other_ne p.side)), other]
    exact Bool.false_ne_true
  have present : (services'.lookup p.name).isSome = true := by
    rw [← within.lookup_isSome, Toml.Entries.lookup_insert, if_pos rfl]
    rfl
  have keeps : inner'.written = true ∨ ∃ other ∈ services'.map Prod.fst, other ≠ p.name := by
    have outside := (formed_document.mpr formed).lookup held
    have own := (Toml.Entries.wellFormed_table inner services).mp
      (Formed.lookup outside listed)
    rcases own.1 with standing | filled
    · left
      have follow : (Item.table .header next).follow [p.side.key, "services"] =
          some (.table inner (services.insert inner p.name (.table .header p.entry))) := by
        simp only [Item.follow, Item.get, Item.asTableLike, Option.bind_some, held₂, listed₂]
      obtain ⟨kind₃, entries₃, follow', standing'⟩ :=
        stands.stands formed' readable parsed follow standing
      simp only [Item.follow, Item.get, Item.asTableLike, Option.bind_some, held', listed',
        Option.some.injEq, Item.table.injEq] at follow'
      rw [follow'.1]
      exact standing'
    · right
      obtain ⟨e, rest, here⟩ := List.exists_cons_of_ne_nil filled
      have there : (services.lookup e.1).isSome = true := by
        rw [Toml.lookup_isSome, here]
        exact List.mem_cons_self
      have apart : e.1 ≠ p.name := by
        intro same
        rw [same, fresh] at there
        cases there
      refine ⟨e.1, ?_, apart⟩
      rw [← Toml.lookup_isSome, ← within.lookup_isSome, Toml.Entries.lookup_insert, if_neg apart]
      exact there
  obtain ⟨removed, ran'⟩ := runRemove_of_parse parsed
    (definingSide_of_lookup held' listed' other' present)
  rw [← printed] at ran' readable parsed
  refine ⟨_, removed, _, ran', lawful.removed parsed readable _ _, ?_⟩
  have gone := (removed_iff alike.formed' held' listed').mpr keeps
  have within' : (doc'.written.inner p.side.key).inner "services" =
      Entries.written services' := by
    simp only [Table.inner, Toml.Entries.lookup_written_table alike.formed' held',
      Toml.Entries.lookup_written_table inside.formed' listed']
  rw [← within'] at gone
  have outside := (formed_document.mpr formed).lookup held
  apply gone.trans
  apply Toml.put_removed (Toml.Entries.lookup_written_table formed held)
    (Toml.Entries.lookup_written_table (wellFormed_of_formed outside) listed)
  · rw [Toml.Entries.lookup_written (wellFormed_of_formed (Formed.lookup outside listed)), fresh]
    rfl
  · rw [Requested.place, ← writes.side, ← writes.name] at same
    exact alike.same.symm.trans same

end Restored

/-- The commands that edit the services of a configuration. -/
inductive ServiceCommand
  | remove (name : String)
  | addSingle (args : AddArgs) (answers : Option Answers) (fresh : String)
      (keypair : Except String (String × String))
  | addBatch (clientSpecs serverSpecs : List String) (fresh : Nat → String)

def ServiceCommand.command {Text : Type} : ServiceCommand → Command Text
  | remove name => .remove name
  | addSingle args answers fresh keypair => .addSingle args answers fresh keypair
  | addBatch clientSpecs serverSpecs fresh => .addBatch clientSpecs serverSpecs fresh

/-- The service that flags and answers ask for. -/
structure RequestedSingle {Text : Type} (env : Env Text) (text : Text) (args : AddArgs)
    (answers : Option Answers) (r : Requested) : Prop where
  side : singleSide args answers (loadDocument env (some text)).toOption = .ok r.side
  name : r.name = args.entry
  addr : singleAddr args answers r.side = .ok (some r.addr)
  udp : r.udp = decide (args.serviceType = .udp)
  token : ∃ prompted, promptedToken args answers = .ok prompted ∧ r.token = args.token.or prompted

/-- The noise key that `--noise` generates or `--noise-key` names, and none without them. -/
structure AsksNoise (args : AddArgs) (answers : Option Answers)
    (keypair : Except String (String × String)) (side : ServiceSide) (plan : NoisePlan) :
    Prop where
  unasked : args.noise = false → args.noiseKey = none → plan = .none
  server : ∀ privateKey publicKey, plan = .server privateKey publicKey →
    side = .server ∧ args.noise = true ∧ keypair = .ok (privateKey, publicKey)
  client : ∀ key, plan = .client key →
    side = .client ∧ singleNoiseKey args answers side = .ok (some key)

/-- What was asked for is done to the tables of services, and nothing else is done. A new service
that is removed again leaves the configuration as it was. -/
inductive EditsTables {Text : Type} (env : Env Text) (text : Text) :
    ServiceCommand → Text → Prop
  | remove {name : String} {after : Text} {before t : Table} {side : ServiceSide}
    (read : env.crate.read text = .ok before) (readAfter : env.crate.read after = .ok t)
    (first : side = .server →
      (Value.table before).follow [ServiceSide.client.key, "services", name] = none)
    (removes : RemovesService before t side name) : EditsTables env text (.remove name) after
  | addSingle {args : AddArgs} {answers : Option Answers} {fresh : String}
    {keypair : Except String (String × String)} {after : Text} {before t : Table}
    {r : Requested} {added : Added} {plan : NoisePlan}
    (ran : runAddSingle env args answers fresh keypair (some text) = .ok (after, added, plan))
    (read : env.crate.read text = .ok before) (readAfter : env.crate.read after = .ok t)
    (asked : RequestedSingle env text args answers r)
    (noise : AsksNoise args answers keypair r.side plan)
    (adds : AddsServices before t [(r, fresh)] plan [added])
    (restores : plan = .none → Restores env after r.name before) :
    EditsTables env text (.addSingle args answers fresh keypair) after
  | addBatch {clientSpecs serverSpecs : List String} {fresh : Nat → String} {after : Text}
    {before t : Table} {requested : List (Requested × String)} {results : List Added}
    (ran : runAddBatch env clientSpecs serverSpecs fresh (some text) = .ok (after, results))
    (read : env.crate.read text = .ok before) (readAfter : env.crate.read after = .ok t)
    (asked : requestedBatch clientSpecs serverSpecs fresh = .ok requested)
    (adds : AddsServices before t requested .none results)
    (restores : ∀ r, requested = [r] → Restores env after r.1.name before) :
    EditsTables env text (.addBatch clientSpecs serverSpecs fresh) after

section Commands

variable {Text : Type} {env : Env Text} {text after : Text} {doc doc' : Entries}
  {side : ServiceSide} {before : Table}

/-- A section that is accepted has a table of services. -/
theorem services_of_loads {u : Table} (loads : SectionLoads env side (.table u)) :
    ∃ services, u.lookup "services" = some (.table services) := by
  have table : ∀ {A : Type} {read : Value → Option A} {m : HashMap String A},
      Schema.required u "services" (Schema.hashMap read) = some m →
      ∃ services, u.lookup "services" = some (.table services) := by
    intro A read m found
    obtain ⟨w, held, here⟩ := Option.bind_eq_some_iff.mp found
    cases w with
    | table services => exact ⟨services, held⟩
    | _ => cases here
  cases side with
  | client =>
    obtain ⟨client, read, -⟩ := loads
    exact table ((Schema.client_iff client).mp read).services
  | server =>
    obtain ⟨server, read, -⟩ := loads
    exact table ((Schema.server_iff server).mp read).services

/-- The services of a section of an accepted configuration. -/
theorem services_of_loadable {kind : TableKind} {entries : Entries} (lawful : env.crate.Lawful)
    (loadable : Loadable env text) (parsed : env.crate.parse text = .ok doc)
    (held : doc.lookup side.key = some (.table kind entries)) :
    ∃ inner services, entries.lookup "services" = some (.table inner services) := by
  obtain ⟨t, read, loads⟩ := (loadable_iff text).mp loadable
  have formed := lawful.wellFormed parsed
  rw [lawful.read parsed read] at loads
  have there := Toml.Entries.lookup_written_table formed held
  obtain ⟨services, found⟩ := services_of_loads (loads.sections side _ there)
  have inside := (formed_document.mpr formed).lookup held
  obtain ⟨inner, services, listed, -⟩ :=
    Toml.Entries.table_of_written (wellFormed_of_formed inside) found
  exact ⟨inner, services, listed⟩

theorem serviceExists_written (formed : doc.wellFormed = true) (side : ServiceSide)
    (name : String) : serviceExists doc side name =
      ((Value.table doc.written).follow [side.key, "services", name]).isSome := by
  have shown : (Item.table .header doc).written = some (.table doc.written) := rfl
  rw [Item.isSome_follow_written (formed_document.mpr formed) shown]
  have follow : (Item.table .header doc).follow [side.key, "services", name] =
      ((doc.lookup side.key).bind fun section_ => section_.get "services").bind fun services =>
        services.get name := by
    simp only [Item.follow, Option.bind_fun_some, Option.bind_assoc]
    rfl
  rw [follow]
  unfold serviceExists servicesOf
  cases (doc.lookup side.key).bind fun section_ => section_.get "services" with
  | none => rfl
  | some services => cases services <;> rfl

/-- The side that a service is removed from is the first one that has it. -/
theorem definingSide_iff {name : String} : definingSide doc name = some side ↔
    serviceExists doc side name = true ∧
      (side = .server → serviceExists doc .client name = false) := by
  unfold definingSide
  cases client : serviceExists doc .client name with
  | true => cases side <;> simp [client]
  | false =>
    cases server : serviceExists doc .server name with
    | true => cases side <;> simp [client, server]
    | false => cases side <;> simp [client, server]

/-- The service is removed as it should be when the table of services is printed still. -/
theorem editsTables_remove {name : String} (lawful : env.crate.Lawful)
    (loadable : Loadable env text) (ran : run env (some text) (.remove name) = .ok after) :
    EditsTables env text (.remove name) after ↔ KeepsServices env text (.remove name) := by
  obtain ⟨out, done, same⟩ := map_ok ran
  obtain ⟨infos, -, done⟩ := bind_ok done
  obtain ⟨written, removed, done⟩ := bind_ok done
  cases done
  cases same
  obtain ⟨doc, parsed, removed⟩ := bind_ok removed
  have parsed := withContext_ok parsed
  obtain ⟨side, found, removed⟩ := bind_ok removed
  cases removed
  have found := okOrElse_ok found
  obtain ⟨⟨inner, services⟩, table⟩ := exists_servicesOf found
  obtain ⟨kind, section_, held, listed⟩ := servicesOf_eq_some table
  obtain ⟨before, read, -⟩ := (loadable_iff text).mp loadable
  have formed := lawful.wellFormed parsed
  have denotes := lawful.read parsed read
  have readable := lawful.removed parsed read [side.key, "services"] name
  have old : (doc.written.inner side.key).inner "services" = Entries.written services := by
    have outside := (formed_document.mpr formed).lookup held
    simp only [Table.inner, Toml.Entries.lookup_written_table formed held,
      Toml.Entries.lookup_written_table (wellFormed_of_formed outside) listed]
  have defined := definingSide_iff.mp found
  have printed : Table.Same (doc.removeAt name [side.key, "services"]).written
      (doc.written.put [side.key, "services"]
        (.table (Toml.removeKey (Entries.written services) name))) ↔
    inner.written = true ∨ ∃ other ∈ services.map Prod.fst, other ≠ name :=
    removed_iff formed held listed
  constructor
  · intro edits
    cases edits with
    | remove read' readAfter first removes =>
      next before' t side' =>
      cases read.symm.trans read'
      cases readable.symm.trans readAfter
      rw [denotes] at first removes
      have same : definingSide doc name = some side' := by
        apply definingSide_iff.mpr
        rw [serviceExists_written formed, serviceExists_written formed]
        refine ⟨removes.held, fun server => ?_⟩
        rw [first server]
        rfl
      cases found.symm.trans same
      have kept := removes.same
      rw [old] at kept
      intro doc' side' inner' services' parsed' found' table'
      cases parsed.symm.trans parsed'
      cases found.symm.trans found'
      cases table.symm.trans table'
      exact printed.mp kept
  · intro keeps
    rw [serviceExists_written formed, serviceExists_written formed] at defined
    have removes : RemovesService before (doc.removeAt name [side.key, "services"]).written side
        name := by
      rw [denotes]
      refine ⟨defined.1, ?_⟩
      rw [old]
      exact printed.mpr (keeps doc side inner services parsed found table)
    refine .remove read readable (fun server => ?_) removes
    rw [denotes]
    simpa using defined.2 server

theorem prepareSection_held {kind inner : TableKind} {entries services : Entries}
    (formed : doc.wellFormed = true) (held : doc.lookup side.key = some (.table kind entries))
    (listed : entries.lookup "services" = some (.table inner services)) :
    prepareSection env doc side = .ok doc := by
  have there : (doc.lookup side.key).isNone = false := by
    rw [held]
    rfl
  have services : (entries.lookup "services").isNone = false := by
    rw [listed]
    rfl
  have found : sectionOf env doc side = .ok (kind, entries) := by
    unfold sectionOf
    rw [held]
    rfl
  unfold prepareSection
  simp only [there, found, services, bind, Except.bind, Bool.false_eq_true, if_false,
    insertKey_of_lookup formed held]

theorem section_of_prepareSection {prepared : Entries}
    (present : (doc.lookup side.key).isSome = true)
    (opened : prepareSection env doc side = .ok prepared) :
    ∃ kind entries, doc.lookup side.key = some (.table kind entries) := by
  unfold prepareSection at opened
  rw [if_neg (by simpa using present)] at opened
  obtain ⟨⟨kind, entries⟩, found, -⟩ := bind_ok opened
  exact ⟨kind, entries, sectionOf_ok found⟩

/-- Every service of a batch goes into a table of services that the document has. -/
theorem tables_of_insertAll {pending : List PendingService} {last : Entries} {added : List Added}
    (placed : insertAll doc pending = .ok (last, added)) : ∀ p ∈ pending,
      ∃ (kind inner : TableKind) (entries services : Entries),
        doc.lookup p.side.key = some (.table kind entries) ∧
        entries.lookup "services" = some (.table inner services) := by
  induction pending generalizing doc last added with
  | nil => exact fun _ member => absurd member List.not_mem_nil
  | cons p rest ih =>
    obtain ⟨⟨next, own⟩, first, placed⟩ := bind_ok placed
    obtain ⟨⟨later, others⟩, after, -⟩ := bind_ok placed
    obtain ⟨⟨kind, entries⟩, outer, first⟩ := bind_ok first
    obtain ⟨⟨inner, services⟩, listed, first⟩ := bind_ok first
    cases first
    have held := bind_asTableLike (okOrElse_ok outer)
    have there := bind_asTableLike (okOrElse_ok listed)
    intro q member
    rcases List.mem_cons.mp member with rfl | member
    · exact ⟨kind, inner, entries, services, held, there⟩
    · obtain ⟨kind', inner', entries', services', held', there'⟩ := ih after q member
      by_cases same : q.side = p.side
      · rw [same]
        exact ⟨kind, inner, entries, services, held, there⟩
      · rw [Toml.lookup_insertKey, if_neg (key_ne_of_ne same)] at held'
        exact ⟨kind', inner', entries', services', held', there'⟩

/-- The transport gets what the plan says. -/
theorem applyNoiseTransport_ok {plan : NoisePlan} {t : Table} (formed : Formed .header doc)
    (same : Table.Same doc.written t) (ran : applyNoiseTransport env doc plan = .ok doc') :
    Formed .header doc' ∧ Table.Same doc'.written (t.puts plan.values) := by
  cases plan with
  | none =>
    cases ran
    exact ⟨formed, same⟩
  | server privateKey publicKey => exact noiseTransport_ok formed same ran
  | client remotePublicKey => exact noiseTransport_ok formed same ran

theorem asksNoise {args : AddArgs} {answers : Option Answers} {noiseKey : Option String}
    {keypair : Except String (String × String)} {plan : NoisePlan}
    (asked : singleNoiseKey args answers side = .ok noiseKey)
    (planned : noisePlan args keypair side noiseKey = .ok plan) :
    AsksNoise args answers keypair side plan := by
  unfold noisePlan at planned
  cases side with
  | server =>
    dsimp only at planned
    split at planned
    · next noise =>
      obtain ⟨keys, made, rfl⟩ := map_ok planned
      refine ⟨?_, ?_, ?_⟩
      · intro without
        rw [noise] at without
        cases without
      · intro privateKey publicKey same
        cases same
        exact ⟨rfl, noise, made⟩
      · intro key same
        cases same
    · cases planned
      refine ⟨fun _ _ => rfl, ?_, ?_⟩
      · intro privateKey publicKey same
        cases same
      · intro key same
        cases same
  | client =>
    dsimp only at planned
    cases noiseKey with
    | none =>
      cases planned
      refine ⟨fun _ _ => rfl, ?_, ?_⟩
      · intro privateKey publicKey same
        cases same
      · intro key same
        cases same
    | some own =>
      cases planned
      refine ⟨?_, ?_, ?_⟩
      · intro noise without
        simp [singleNoiseKey, noise, without] at asked
      · intro privateKey publicKey same
        cases same
      · intro key same
        cases same
        exact ⟨rfl, asked⟩

/-- The name is none of the services of the text. -/
theorem listed_of_vacant {kind inner : TableKind} {entries services : Entries} {name : String}
    (formed : doc.wellFormed = true) (held : doc.lookup side.key = some (.table kind entries))
    (listed : entries.lookup "services" = some (.table inner services))
    (vacant : serviceExists doc side name = false) :
    services.lookup name = none ∧ ∃ inside,
      (Value.table doc.written).follow [side.key, "services"] = some (.table inside) ∧
        inside.lookup name = none := by
  have outside := (formed_document.mpr formed).lookup held
  have within := Formed.lookup outside listed
  rw [serviceExists_of_lookup held listed, Option.isSome_eq_false_iff,
    Option.isNone_iff_eq_none] at vacant
  refine ⟨vacant, Entries.written services, ?_, ?_⟩
  · rw [Toml.follow_inner, Table.inner, Toml.Entries.lookup_written_table formed held]
    exact Toml.Entries.lookup_written_table (wellFormed_of_formed outside) listed
  · rw [Toml.Entries.lookup_written (wellFormed_of_formed within), vacant]
    rfl

theorem singlePending_writes (args : AddArgs) (side : ServiceSide) (addr : String)
    (given : Option String) (fresh : String) : PendingService.Writes
      ⟨side, args.entry, (if args.serviceType = .udp then [("type", .string "udp")] else []) ++
        [(side.serviceAddrKey, .string addr), ("token", .string (given.getD fresh))],
        if given.isNone then some fresh else none⟩
      (⟨side, args.entry, addr, decide (args.serviceType = .udp), given⟩, fresh) := by
  refine ⟨rfl, rfl, ?_, ?_, ?_, rfl⟩
  · split <;> cases side <;> rfl
  · split <;> simp [Item.isScalar]
  · cases args.serviceType <;> rfl

theorem editsTables_addSingle {args : AddArgs} {answers : Option Answers} {fresh : String}
    {keypair : Except String (String × String)} {added : Added} {plan : NoisePlan}
    (lawful : env.crate.Lawful) (prints : env.crate.Prints) (styles : env.crate.Styles)
    (stands : env.crate.Stands) (loadable : Loadable env text)
    (ran : runAddSingle env args answers fresh keypair (some text) = .ok (after, added, plan)) :
    EditsTables env text (.addSingle args answers fresh keypair) after := by
  have whole := ran
  obtain ⟨side, chosen, ran⟩ := bind_ok ran
  obtain ⟨-, -, ran⟩ := bind_ok ran
  obtain ⟨addr, address, ran⟩ := bind_ok ran
  obtain ⟨noiseKey, noise, ran⟩ := bind_ok ran
  obtain ⟨⟨⟩, missing, ran⟩ := bind_ok ran
  obtain ⟨-, -, ran⟩ := bind_ok ran
  obtain ⟨prompted, token, ran⟩ := bind_ok ran
  obtain ⟨plan', planned, ran⟩ := bind_ok ran
  obtain ⟨doc, loaded, ran⟩ := bind_ok ran
  obtain ⟨⟨⟩, allowed, ran⟩ := bind_ok ran
  obtain ⟨⟨⟩, vacant, ran⟩ := bind_ok ran
  obtain ⟨prepared, opened, ran⟩ := bind_ok ran
  obtain ⟨noisy, applied, ran⟩ := bind_ok ran
  obtain ⟨⟨last, inserted⟩, placed, ran⟩ := bind_ok ran
  obtain ⟨printed, saved, ran⟩ := bind_ok ran
  cases ran
  have parsed := withContext_ok loaded
  have formed := lawful.wellFormed parsed
  obtain ⟨before, read, -⟩ := (loadable_iff text).mp loadable
  have denotes := lawful.read parsed read
  obtain ⟨kind, entries, held⟩ := section_of_prepareSection
    (sectioned_of_loadable lawful loadable parsed allowed) opened
  obtain ⟨inner, services, listed⟩ := services_of_loadable lawful loadable parsed held
  rw [prepareSection_held formed held listed] at opened
  cases opened
  obtain ⟨addr, rfl⟩ : ∃ a, addr = some a := by
    cases addr with
    | none =>
      have none := bailIf_ok.mp missing
      simp at none
    | some a => exact ⟨a, rfl⟩
  obtain ⟨fresh', inside, found, absent⟩ :=
    listed_of_vacant formed held listed (bailIf_ok.mp vacant)
  obtain ⟨formed', same⟩ := applyNoiseTransport_ok (formed_document.mpr formed)
    (Table.Same.refl doc.written) applied
  have writes := singlePending_writes args side addr (args.token.or prompted) fresh
  obtain ⟨formed'', same', reported⟩ := insertPending_ok writes formed' same placed
  obtain ⟨t, doc', readable, parsed', -, same''⟩ :=
    saved_ok prints (wellFormed_of_formed formed'') saved
  have asked : RequestedSingle env text args answers
      ⟨side, args.entry, addr, decide (args.serviceType = .udp), args.token.or prompted⟩ :=
    ⟨chosen, rfl, address, rfl, prompted, token, rfl⟩
  refine .addSingle whole read readable asked (asksNoise noise planned) ⟨?_, ?_, ?_, ?_⟩ ?_
  · intro r there
    rw [List.mem_singleton.mp there, denotes]
    exact ⟨inside, found, absent⟩
  · exact List.nodup_singleton _
  · rw [denotes, Toml.puts_append]
    exact same''.trans same'
  · rw [List.map_singleton, reported]
    rfl
  · intro none
    rw [none] at applied
    cases applied
    rw [denotes]
    have restored := restores_of_insert lawful prints styles stands formed writes held listed
      (other_of_ensureRoleAllows allowed) fresh' placed saved
    exact restored

/-- A batch is for sides that the document may have services of. -/
theorem allowed_of_batch {clients servers : List PendingService}
    (clientsAllowed : checkIf ((clients ++ servers).any fun q => q.side = .client) (do
      ensureRoleAllows doc .client
      ensureClientRemoteSet env doc) = .ok ())
    (serversAllowed : checkIf ((clients ++ servers).any fun q => q.side = .server)
      (ensureRoleAllows doc .server) = .ok ()) :
    ∀ p ∈ clients ++ servers, ensureRoleAllows doc p.side = .ok () := by
  intro p there
  have any : (clients ++ servers).any (fun q => q.side = p.side) = true :=
    List.any_eq_true.mpr ⟨p, there, by simp⟩
  cases own : p.side with
  | client =>
    rw [own] at any
    obtain ⟨⟨⟩, here, -⟩ := bind_ok (checkIf_ok clientsAllowed any)
    exact here
  | server =>
    rw [own] at any
    exact checkIf_ok serversAllowed any

/-- The section of the servers of a batch is there. -/
theorem withServerSection_held {pending : List PendingService}
    (present : ∀ p ∈ pending, (doc.lookup p.side.key).isSome = true) :
    withServerSection doc pending = doc := by
  apply if_neg
  intro missing
  obtain ⟨p, there, server⟩ := List.any_eq_true.mp missing.1
  have server : p.side = .server := of_decide_eq_true server
  have held := present p there
  rw [server] at held
  have absent : (doc.lookup ServiceSide.server.key).isNone = true := missing.2
  rw [Option.isNone_iff_eq_none.mp absent] at held
  cases held

/-- The services of a batch are new ones of tables that are there. -/
theorem vacant_of_batch {pending : List PendingService} {requested : List (Requested × String)}
    {last : Entries} {added : List Added} (formed : doc.wellFormed = true)
    (writes : List.Forall₂ PendingService.Writes pending requested)
    (vacant : checkVacant doc pending = .ok ())
    (placed : insertAll doc pending = .ok (last, added)) : ∀ r ∈ requested, ∃ s,
      (Value.table doc.written).follow [r.1.side.key, "services"] = some (.table s) ∧
        s.lookup r.1.name = none := by
  intro r there
  obtain ⟨p, pending, here⟩ := exists_pending writes r there
  obtain ⟨kind, inner, entries, services, held, listed⟩ := tables_of_insertAll placed p pending
  obtain ⟨-, inside, found, absent⟩ :=
    listed_of_vacant formed held listed (vacant_of_checkVacant vacant p pending)
  rw [← here.side, ← here.name]
  exact ⟨inside, found, absent⟩

/-- A batch of one service is undone by the removal of the service. -/
theorem restores_of_batch {pending : List PendingService} {r : Requested × String}
    {last : Entries} {added : List Added} (lawful : env.crate.Lawful) (prints : env.crate.Prints)
    (styles : env.crate.Styles) (stands : env.crate.Stands) (formed : doc.wellFormed = true)
    (writes : List.Forall₂ PendingService.Writes pending [r])
    (allowed : ∀ p ∈ pending, ensureRoleAllows doc p.side = .ok ())
    (vacant : checkVacant doc pending = .ok ())
    (placed : insertAll doc pending = .ok (last, added))
    (saved : saveWithSkeleton env last false = .ok after) :
    Restores env after r.1.name doc.written := by
  obtain ⟨p, single, here⟩ := pending_of_singleton writes
  have pending : p ∈ pending := single ▸ List.mem_singleton_self p
  obtain ⟨kind, inner, entries, services, held, listed⟩ := tables_of_insertAll placed p pending
  rw [single] at placed
  obtain ⟨⟨next, added⟩, first, placed⟩ := bind_ok placed
  cases placed
  obtain ⟨fresh, -⟩ :=
    listed_of_vacant formed held listed (vacant_of_checkVacant vacant p pending)
  rw [← here.name]
  exact restores_of_insert lawful prints styles stands formed here held listed
    (other_of_ensureRoleAllows (allowed p pending)) fresh first saved

theorem editsTables_addBatch {clientSpecs serverSpecs : List String} {fresh : Nat → String}
    {results : List Added} (lawful : env.crate.Lawful) (prints : env.crate.Prints)
    (styles : env.crate.Styles) (stands : env.crate.Stands) (loadable : Loadable env text)
    (ran : runAddBatch env clientSpecs serverSpecs fresh (some text) = .ok (after, results)) :
    EditsTables env text (.addBatch clientSpecs serverSpecs fresh) after := by
  have whole := ran
  obtain ⟨clients, clientsMade, ran⟩ := bind_ok ran
  obtain ⟨servers, serversMade, ran⟩ := bind_ok ran
  obtain ⟨⟨⟩, distinct, ran⟩ := bind_ok ran
  obtain ⟨⟨⟩, clientsAllowed, ran⟩ := bind_ok ran
  obtain ⟨⟨⟩, serversAllowed, ran⟩ := bind_ok ran
  obtain ⟨doc, loaded, ran⟩ := bind_ok ran
  obtain ⟨⟨⟩, vacant, ran⟩ := bind_ok ran
  obtain ⟨⟨last, added⟩, placed, ran⟩ := bind_ok ran
  obtain ⟨printed, saved, ran⟩ := bind_ok ran
  cases ran
  have parsed := withContext_ok loaded
  have formed := lawful.wellFormed parsed
  obtain ⟨before, read, -⟩ := (loadable_iff text).mp loadable
  have denotes := lawful.read parsed read
  obtain ⟨clientRequests, clientsAsked, clientCount, clientWrites⟩ := specsToPending_ok clientsMade
  obtain ⟨serverRequests, serversAsked, serverCount, serverWrites⟩ := specsToPending_ok serversMade
  have existing : (loadDocument env (some text)).toOption.getD [] = doc := by
    rw [loaded]
    rfl
  rw [existing] at clientsAllowed serversAllowed
  have allowed := allowed_of_batch clientsAllowed serversAllowed
  have writes : List.Forall₂ PendingService.Writes (clients ++ servers)
      ((clientRequests ++ serverRequests).zipIdx.map fun r => (r.1, fresh r.2)) := by
    rw [List.zipIdx_append, List.map_append, Nat.zero_add, clientCount]
    exact List.rel_append clientWrites serverWrites
  have opened : withServerSection doc (clients ++ servers) = doc := withServerSection_held
    fun p there => sectioned_of_loadable lawful loadable parsed (allowed p there)
  rw [opened] at vacant placed
  obtain ⟨formed', same, reported⟩ := insertAll_ok writes (formed_document.mpr formed)
    (Table.Same.refl doc.written) placed
  obtain ⟨t, doc', readable, parsed', -, same'⟩ :=
    saved_ok prints (wellFormed_of_formed formed') saved
  have asked : requestedBatch clientSpecs serverSpecs fresh =
      .ok ((clientRequests ++ serverRequests).zipIdx.map fun r => (r.1, fresh r.2)) := by
    unfold requestedBatch
    rw [clientsAsked, serversAsked]
    rfl
  refine .addBatch whole read readable asked ⟨?_, ?_, ?_, reported⟩ fun r one => ?_
  · rw [denotes]
    exact vacant_of_batch formed writes vacant placed
  · rw [← names_of_writes writes]
    exact distinct_of_checkRepeated distinct
  · rw [denotes]
    exact same'.trans same
  · rw [one] at writes
    rw [denotes]
    exact restores_of_batch lawful prints styles stands formed writes allowed vacant placed saved

/-- Every service that is added or removed goes into the tables as it should, and nothing else
changes, except when `config remove` takes the last one out of a table without a header. -/
theorem edits_tables_iff {command : ServiceCommand} (lawful : env.crate.Lawful)
    (prints : env.crate.Prints) (styles : env.crate.Styles) (stands : env.crate.Stands)
    (loadable : Loadable env text) (ran : run env (some text) command.command = .ok after) :
    EditsTables env text command after ↔ KeepsServices env text command.command := by
  cases command with
  | remove name => exact editsTables_remove lawful loadable ran
  | addSingle args answers fresh keypair =>
    obtain ⟨out, done, same⟩ := map_ok ran
    rw [← same]
    exact iff_of_true (editsTables_addSingle lawful prints styles stands loadable done) trivial
  | addBatch clientSpecs serverSpecs fresh =>
    obtain ⟨out, done, same⟩ := map_ok ran
    rw [← same]
    exact iff_of_true (editsTables_addBatch lawful prints styles stands loadable done) trivial

end Commands

/-- A table of services with a header is empty after its only service was removed. -/
theorem removes_web : ∃ after,
    run (treeEnv .some) (some (webDocument .header)) (.remove "web") = .ok after ∧
    EditsTables (treeEnv .some) (webDocument .header) (.remove "web") after := by
  have ran : ∃ after, run (treeEnv .some) (some (webDocument .header))
      (ServiceCommand.remove "web").command = .ok after := ⟨_, rfl⟩
  obtain ⟨after, ran⟩ := ran
  refine ⟨after, ran, ?_⟩
  apply (edits_tables_iff Toml.Crate.tree_lawful Toml.Crate.tree_prints Toml.Crate.tree_styles
    Toml.Crate.tree_stands (webDocument_loadable .some .header) ran).mpr
  intro doc side inner services parsed found table
  cases Except.ok.inj parsed
  cases found
  cases table
  exact Or.inl rfl

/-- Without a header the table itself is gone. -/
theorem services_gone : ¬ ∀ (env : Env Entries) (text after : Entries) (command : ServiceCommand),
    env.crate.Lawful → env.crate.Prints → env.crate.Styles → env.crate.Stands →
    Loadable env text → run env (some text) command.command = .ok after →
    EditsTables env text command after := by
  intro edits
  have accepted := webDocument_loadable .some .implicit
  have removed := edits (treeEnv .some) _ _ (.remove "web") Toml.Crate.tree_lawful
    Toml.Crate.tree_prints Toml.Crate.tree_styles Toml.Crate.tree_stands accepted rfl
  have kept := (editsTables_remove Toml.Crate.tree_lawful accepted rfl).mp removed
  have left := kept (webDocument .implicit) .client .implicit _ rfl rfl rfl
  rcases left with header | ⟨other, member, apart⟩
  · cases header
  · rw [List.map_cons, List.map_nil, List.mem_singleton] at member
    exact apart member

end Rathole.ConfigEdit
