import Rathole.ConfigAdd
import Rathole.ConfigImport
import Rathole.ConfigSet
import Rathole.TomlSame

set_option autoImplicit false

/- The edits of the commands leave a document well formed, and make no section but the one of
the side they work on. -/
namespace Rathole.ConfigEdit

open Toml (Item Entries TableKind)

section Tables

variable {kind inner : TableKind} {entries table : Entries} {key : String}

theorem asTableLike_eq_some {item : Item} (like : item.asTableLike = some (kind, table)) :
    item = .table kind table := by
  cases item with
  | table kind' table' =>
    cases like
    rfl
  | _ => cases like

theorem asTable_eq_some {item : Item} (like : item.asTable = some (kind, table)) :
    item = .table kind table ∧ kind.isInline = false := by
  cases item with
  | table kind' table' =>
    rw [Item.asTable] at like
    split at like
    · cases like
    · next plain =>
      cases like
      exact ⟨rfl, by simpa using plain⟩
  | _ => cases like

theorem bind_asTableLike {x : Option Item}
    (like : x.bind Item.asTableLike = some (kind, table)) : x = some (.table kind table) := by
  obtain ⟨item, held, like⟩ := Option.bind_eq_some_iff.mp like
  rw [held, asTableLike_eq_some like]

/-- The table is printed, and nothing in it is hidden. -/
abbrev Formed (kind : TableKind) (entries : Entries) : Prop :=
  (Item.table kind entries).wellFormed = true

/-- A document is printed as a table with a header. -/
theorem formed_document : Formed .header entries ↔ entries.wellFormed = true := by
  rw [Formed, Entries.wellFormed_table]
  simp [TableKind.written]

theorem Formed.lookup {item : Item} (formed : Formed kind entries)
    (held : entries.lookup key = some item) : item.wellFormed = true :=
  Entries.wellFormed_of_lookup ((Entries.wellFormed_table kind entries).mp formed).2 held

theorem Formed.insertKey {item : Item} (formed : Formed kind entries)
    (here : item.wellFormed = true) (key : String) :
    Formed kind (Toml.insertKey entries key item) := by
  have inside := ((Entries.wellFormed_table kind entries).mp formed).2
  apply (Entries.wellFormed_table kind _).mpr
  exact ⟨Or.inr (Entries.insertKey_ne_nil _ _ _), Entries.wellFormed_insertKey inside here⟩

theorem Formed.insert {item : Item} (formed : Formed kind entries)
    (here : item.wellFormed = true) (outer : TableKind) (key : String) :
    Formed kind (entries.insert outer key item) := by
  apply formed.insertKey
  split
  · exact Entries.wellFormed_intoValue item here
  · exact here

theorem Formed.insertSome {item : Option Item} (formed : Formed kind entries)
    (here : ∀ i, item = some i → i.wellFormed = true) (outer : TableKind) (key : String) :
    Formed kind (insertSome outer entries key item) := by
  cases item with
  | none => exact formed
  | some i => exact formed.insert (here i rfl) outer key

theorem wellFormed_map {A : Type} {f : A → Item} (each : ∀ a, (f a).wellFormed = true)
    (x : Option A) (i : Item) (made : x.map f = some i) : i.wellFormed = true := by
  obtain ⟨a, -, rfl⟩ := Option.map_eq_some_iff.mp made
  exact each a

end Tables

section Set

variable {Text : Type} {env : Env Text} {args : SetArgs} {kind inner : TableKind}
  {entries after table : Entries} {key : String}

theorem formed_ensureTable (formed : Formed kind entries)
    (found : ensureTable env kind entries key = .ok (inner, table)) : Formed inner table := by
  have item := (asTable_eq_some (okOrElse_ok found)).1
  rw [Formed, ← item]
  cases held : entries.lookup key with
  | none => cases kind <;> rfl
  | some item => exact formed.lookup held

theorem formed_seconds {v : Option Nat} {item : Option Item} (made : seconds v = .ok item) (i : Item)
    (same : item = some i) : i.wellFormed = true := by
  cases v with
  | none =>
    rw [← Except.ok.inj made] at same
    cases same
  | some v =>
    simp only [seconds] at made
    split at made
    · rw [← Except.ok.inj made] at same
      cases same
      rfl
    · cases made

theorem formed_setFields (formed : Formed kind entries)
    (ran : setFields args kind entries = .ok after) : Formed kind after := by
  obtain ⟨timeout, first, ran⟩ := bind_ok ran
  obtain ⟨retry, second, ran⟩ := bind_ok ran
  obtain ⟨interval, third, ran⟩ := bind_ok ran
  cases ran
  have texts : ∀ (x : Option String) i, x.map Item.string = some i → i.wellFormed = true :=
    wellFormed_map fun _ => rfl
  have booleans : ∀ (x : Option Bool) i, x.map Item.boolean = some i → i.wellFormed = true :=
    wellFormed_map fun _ => rfl
  apply Formed.insertSome _ (formed_seconds third)
  apply Formed.insertSome _ (formed_seconds second)
  apply Formed.insertSome _ (formed_seconds first)
  apply Formed.insertSome _ (booleans _)
  apply Formed.insertSome _ (texts _)
  apply Formed.insertSome _ (texts _)
  exact formed.insertSome (texts _) kind _

theorem formed_setTls (formed : Formed kind entries)
    (ran : setTls args kind entries = .ok after) : Formed kind after := by
  cases ran
  have texts : ∀ (x : Option String) i, x.map Item.string = some i → i.wellFormed = true :=
    wellFormed_map fun _ => rfl
  apply Formed.insertSome _ (texts _)
  apply Formed.insertSome _ (texts _)
  apply Formed.insertSome _ (texts _)
  exact formed.insertSome (texts _) kind _

theorem formed_setTcp (formed : Formed kind entries)
    (ran : setTcp args kind entries = .ok after) : Formed kind after := by
  obtain ⟨secs, first, ran⟩ := bind_ok ran
  obtain ⟨interval, second, ran⟩ := bind_ok ran
  cases ran
  apply Formed.insertSome _ (wellFormed_map (fun _ => rfl) _)
  apply Formed.insertSome _ (formed_seconds second)
  apply Formed.insertSome _ (formed_seconds first)
  exact formed.insertSome (wellFormed_map (fun _ => rfl) _) kind _

theorem formed_setType (formed : Formed kind entries) : Formed kind (setType args kind entries) := by
  have chosen : Formed kind (insertSome kind entries "type"
      ((args.transport.or args.impliedType).map fun t => .string (transportKey t))) :=
    formed.insertSome (wellFormed_map (fun _ => rfl) _) kind "type"
  simp only [setType]
  split
  · exact chosen.insert rfl kind "type"
  · exact chosen

theorem formed_setNested {given : Bool} {f : TableKind → Entries → Except String Entries}
    (keeps : ∀ inner table after, Formed inner table → f inner table = .ok after →
      Formed inner after)
    (formed : Formed kind entries) (ran : setNested env given kind entries key f = .ok after) :
    Formed kind after := by
  unfold setNested at ran
  split at ran
  · obtain ⟨⟨inner, table⟩, found, ran⟩ := bind_ok ran
    obtain ⟨table', made, ran⟩ := bind_ok ran
    cases ran
    exact formed.insertKey (keeps inner table table' (formed_ensureTable formed found) made) key
  · cases ran
    exact formed

theorem formed_setNoise {keypair : Except String (String × String)} (formed : Formed kind entries)
    (ran : setNoise env args keypair kind entries = .ok after) : Formed kind after := by
  unfold setNoise at ran
  split at ran
  · obtain ⟨keys, -, ran⟩ := bind_ok ran
    apply formed_setNested _ formed ran
    intro inner table after inside made
    cases made
    exact inside.insert rfl inner _
  · cases ran
    exact formed

theorem formed_setTransport {keypair : Except String (String × String)} (formed : Formed kind entries)
    (ran : setTransport env args keypair kind entries = .ok after) : Formed kind after := by
  obtain ⟨noise, first, ran⟩ := bind_ok ran
  obtain ⟨noise', second, ran⟩ := bind_ok ran
  obtain ⟨tls, third, ran⟩ := bind_ok ran
  obtain ⟨websocket, fourth, ran⟩ := bind_ok ran
  have first := formed_setNoise (formed_setType formed) first
  have second := formed_setNested (fun inner table after inside made => by
    cases made
    exact inside.insertSome (wellFormed_map (fun _ => rfl) _) inner _) first second
  have third := formed_setNested (fun inner table after => formed_setTls) second third
  have fourth := formed_setNested (fun inner table after inside made => by
    cases made
    exact inside.insertSome (wellFormed_map (fun _ => rfl) _) inner _) third fourth
  exact formed_setNested (fun inner table after => formed_setTcp) fourth ran

end Set

section Add

variable {Text : Type} {env : Env Text} {doc after : Entries} {side : ServiceSide}

/-- An edit inside the section of a side that is there. -/
structure Edits (side : ServiceSide) (doc after : Entries) : Prop where
  formed : Formed .header doc → Formed .header after
  held : (doc.lookup side.key).isSome = true
  others : ∀ key, key ≠ side.key → after.lookup key = doc.lookup key

theorem edits_insertKey {kind : TableKind} {entries entries' : Entries}
    (held : doc.lookup side.key = some (.table kind entries))
    (keeps : Formed kind entries → Formed kind entries') :
    Edits side doc (Toml.insertKey doc side.key (.table kind entries')) := by
  constructor
  · intro formed
    exact formed.insertKey (keeps (formed.lookup held)) _
  · rw [held]
    rfl
  · intro key apart
    rw [Toml.lookup_insertKey, if_neg apart]

theorem formed_serverSection : serverSection.wellFormed = true := rfl

theorem formed_specToPending (spec : ServiceSpec) (side : ServiceSide) (fresh : String) :
    (specToPending spec side fresh).entry.wellFormed = true := by
  obtain ⟨name, local_, bind, token, udp⟩ := spec
  cases local_ <;> cases bind <;> cases udp <;> rfl

theorem formed_roundPending {name fresh : String} {r : Round} {p : PendingService}
    (made : roundPending side name fresh r = .ok p) :
    p.entry.wellFormed = true ∧ p.side = side := by
  obtain ⟨addr, -, made⟩ := bind_ok made
  obtain ⟨choice, -, made⟩ := bind_ok made
  obtain ⟨entered, -, made⟩ := bind_ok made
  cases made
  refine ⟨?_, rfl⟩
  by_cases udp : choice = 1
  · cases side <;> simp only [udp] <;> rfl
  · cases side <;> simp only [udp] <;> rfl

theorem edits_insertPending {p : PendingService} {added : Added}
    (entry : p.entry.wellFormed = true) (ran : insertPending doc p = .ok (after, added)) :
    Edits p.side doc after := by
  obtain ⟨⟨kind, entries⟩, outer, ran⟩ := bind_ok ran
  obtain ⟨⟨inner, services⟩, found, ran⟩ := bind_ok ran
  cases ran
  have held := bind_asTableLike (okOrElse_ok outer)
  have listed := bind_asTableLike (okOrElse_ok found)
  apply edits_insertKey held
  intro formed
  have service : Formed .header p.entry := formed_document.mpr entry
  have inside : Formed inner services := formed.lookup listed
  exact formed.insertKey (inside.insert service inner p.name) "services"

theorem formed_unwrapTable {kind inner : TableKind} {entries table : Entries} {key : String}
    (formed : Formed kind entries) (found : unwrapTable kind entries key = .ok (inner, table)) :
    Formed inner table := by
  have item := asTableLike_eq_some (okOrElse_ok found)
  rw [Formed, ← item]
  cases held : entries.lookup key with
  | none => cases kind <;> rfl
  | some item => exact formed.lookup held

theorem sectionOf_ok {kind : TableKind} {entries : Entries}
    (found : sectionOf env doc side = .ok (kind, entries)) :
    doc.lookup side.key = some (.table kind entries) :=
  bind_asTableLike (okOrElse_ok found)

theorem edits_noiseTransport {key v : String}
    (ran : noiseTransport env doc side key v = .ok after) : Edits side doc after := by
  obtain ⟨⟨kind, entries⟩, outer, ran⟩ := bind_ok ran
  obtain ⟨-, -, ran⟩ := bind_ok ran
  obtain ⟨⟨transportKind, transport⟩, found, ran⟩ := bind_ok ran
  obtain ⟨⟨noiseKind, noise⟩, noiseFound, ran⟩ := bind_ok ran
  cases ran
  apply edits_insertKey (sectionOf_ok outer)
  intro formed
  have typed : Formed transportKind (transport.insert transportKind "type" (.string "noise")) :=
    (formed_unwrapTable formed found).insert rfl _ _
  have keyed : Formed noiseKind (noise.insert noiseKind key (.string v)) :=
    (formed_unwrapTable typed noiseFound).insert rfl _ _
  exact formed.insertKey (typed.insertKey keyed "noise") "transport"

/-- The document, with the section of the side at most in addition. -/
structure Opens (side : ServiceSide) (doc after : Entries) : Prop where
  formed : Formed .header doc → Formed .header after
  others : ∀ key, key ≠ side.key → after.lookup key = doc.lookup key

theorem Edits.opens (edits : Edits side doc after) : Opens side doc after :=
  ⟨edits.formed, edits.others⟩

theorem Opens.refl (side : ServiceSide) (doc : Entries) : Opens side doc doc := ⟨id, fun _ _ => rfl⟩

theorem Opens.trans {last : Entries} (first : Opens side doc after) (second : Opens side after last) :
    Opens side doc last :=
  ⟨fun formed => second.formed (first.formed formed),
    fun key apart => (second.others key apart).trans (first.others key apart)⟩

theorem opens_insertKey {item : Item} (side : ServiceSide) (formed : item.wellFormed = true) :
    Opens side doc (Toml.insertKey doc side.key item) := by
  constructor
  · intro before
    exact before.insertKey formed _
  · intro key apart
    rw [Toml.lookup_insertKey, if_neg apart]

theorem opens_applyNoiseTransport {plan : NoisePlan}
    (planned : ∀ privateKey publicKey, plan = .server privateKey publicKey → side = .server)
    (planned' : ∀ key, plan = .client key → side = .client)
    (ran : applyNoiseTransport env doc plan = .ok after) : Opens side doc after := by
  cases plan with
  | none =>
    cases ran
    exact .refl side doc
  | server privateKey publicKey =>
    rw [planned privateKey publicKey rfl]
    exact (edits_noiseTransport ran).opens
  | client key =>
    rw [planned' key rfl]
    exact (edits_noiseTransport ran).opens

theorem opens_prepareSection (ran : prepareSection env doc side = .ok after) :
    Opens side doc after := by
  unfold prepareSection at ran
  split at ran
  · cases side with
    | client => cases ran
    | server =>
      cases ran
      exact opens_insertKey .server formed_serverSection
  · obtain ⟨⟨kind, entries⟩, found, ran⟩ := bind_ok ran
    cases ran
    apply Edits.opens
    apply edits_insertKey (sectionOf_ok found)
    intro formed
    split
    · exact formed.insert rfl kind "services"
    · exact formed

theorem opens_createSection {args : SetArgs} (ran : createSection args doc side = .ok after) :
    Opens side doc after := by
  unfold createSection at ran
  split at ran
  · cases ran
    exact .refl side doc
  · cases side with
    | client =>
      cases given : args.remoteAddr with
      | none =>
        simp only [given] at ran
        cases ran
      | some addr =>
        simp only [given] at ran
        cases ran
        exact opens_insertKey .client rfl
    | server =>
      cases given : args.bindAddr with
      | none =>
        simp only [given] at ran
        cases ran
      | some addr =>
        simp only [given] at ran
        cases ran
        exact opens_insertKey .server rfl

theorem opens_withImportSection (doc : Entries) (side : ServiceSide) :
    Opens side doc (withImportSection doc side) := by
  unfold withImportSection
  split
  · exact opens_insertKey side rfl
  · exact .refl side doc

theorem planned_of_noisePlan {args : AddArgs} {keypair : Except String (String × String)}
    {noiseKey : Option String} {plan : NoisePlan}
    (made : noisePlan args keypair side noiseKey = .ok plan) :
    (∀ privateKey publicKey, plan = .server privateKey publicKey → side = .server) ∧
      ∀ key, plan = .client key → side = .client := by
  cases side with
  | client =>
    refine ⟨fun privateKey publicKey same => ?_, fun key same => rfl⟩
    subst same
    cases noiseKey <;> cases made
  | server =>
    refine ⟨fun privateKey publicKey same => rfl, fun key same => ?_⟩
    subst same
    simp only [noisePlan] at made
    split at made
    · cases keypair <;> cases made
    · cases made

end Add

section Import

variable {Text : Type} {env : Env Text} {side : ServiceSide} {kind inner : TableKind}
  {entries after src : Entries} {r report : Imported}

/-- A scalar of a whitelisted kind. -/
theorem formed_of_matches {scalar : ScalarKind} {item : Item}
    (matched : scalar.matches_ item = true) : item.wellFormed = true := by
  cases item with
  | array items => cases scalar <;> cases matched
  | table kind entries => cases scalar <;> cases matched
  | _ => rfl

theorem formed_importGlobal (field : String × ScalarKind) (formed : Formed kind entries) :
    Formed kind (importGlobal side src kind (entries, r) field).1 := by
  simp only [importGlobal]
  split
  · exact formed
  · next item found =>
    split
    · exact formed
    · next matched =>
      split
      · exact formed
      · exact formed.insert (formed_of_matches (by simpa using matched)) kind _

theorem formed_importScalar {label : String} (field : String × ScalarKind)
    (formed : Formed inner entries) :
    Formed inner (importScalar label src kind (entries, r) field).1 := by
  simp only [importScalar]
  split
  · exact formed
  · split
    · next matched => exact formed.insert (formed_of_matches matched) kind _
    · exact formed

/-- A loop that inserts fields one after the other. -/
theorem formed_foldl {A : Type} {f : Entries × Imported → A → Entries × Imported}
    (each : ∀ entries r x, Formed kind entries → Formed kind (f (entries, r) x).1)
    (xs : List A) (state : Entries × Imported) (formed : Formed kind state.1) :
    Formed kind (xs.foldl f state).1 := by
  induction xs generalizing state with
  | nil => exact formed
  | cons x xs ih => exact ih _ (each state.1 state.2 x formed)

theorem formed_importType {label : String} (formed : Formed kind entries) :
    Formed kind (importType label src kind (entries, r)).1 := by
  simp only [importType]
  split
  · exact formed
  · split
    · split
      · exact formed.insert rfl kind _
      · exact formed
    · exact formed

theorem formed_importSub {label : String} {sub : String × ImportKeys}
    (formed : Formed kind entries)
    (ran : importSub env label src kind (entries, r) sub = .ok (after, report)) :
    Formed kind after := by
  simp only [importSub] at ran
  split at ran
  · cases ran
    exact formed
  · split at ran
    · cases ran
      exact formed
    · obtain ⟨⟨inner, table⟩, found, ran⟩ := bind_ok ran
      cases ran
      apply formed.insertKey
      apply formed_foldl
      · intro entries r field inside
        exact formed_importScalar field inside
      · exact formed_ensureTable formed found

theorem formed_importSubs {label : String} (subs : List (String × ImportKeys))
    (formed : Formed kind entries)
    (ran : subs.foldlM (importSub env label src kind) (entries, r) = .ok (after, report)) :
    Formed kind after := by
  induction subs generalizing entries r with
  | nil =>
    cases ran
    exact formed
  | cons sub subs ih =>
    rw [List.foldlM_cons] at ran
    obtain ⟨⟨next, r'⟩, first, ran⟩ := bind_ok ran
    exact ih (formed_importSub formed first) ran

theorem formed_importTransport (formed : Formed kind entries)
    (ran : importTransport env side src kind (entries, r) = .ok (after, report)) :
    Formed kind after := by
  simp only [importTransport] at ran
  split at ran
  · cases ran
    exact formed
  · split at ran
    · cases ran
      exact formed
    · obtain ⟨⟨inner, table⟩, found, ran⟩ := bind_ok ran
      obtain ⟨⟨transport, r'⟩, subs, ran⟩ := bind_ok ran
      cases ran
      apply formed.insertKey
      apply formed_importSubs _ _ subs
      exact formed_importType (formed_ensureTable formed found)

theorem formed_importedEntry {defaultTokenPresent : Bool} {entry : Entries}
    (made : importedEntry side defaultTokenPresent src = .ok entry) : Formed .header entry := by
  obtain ⟨type, first, made⟩ := bind_ok made
  obtain ⟨addr, second, made⟩ := bind_ok made
  obtain ⟨token, third, made⟩ := bind_ok made
  cases made
  have types : type = [] ∨ ∃ s, type = [("type", .string s)] := by
    unfold importedType at first
    split at first
    · exact Or.inl (Except.ok.inj first).symm
    · obtain ⟨s, -, first⟩ := bind_ok first
      obtain ⟨-, -, first⟩ := bind_ok first
      exact Or.inr ⟨s, (Except.ok.inj first).symm⟩
  have addrs : ∃ a, addr = [(side.serviceAddrKey, .string a)] := by
    obtain ⟨a, -, second⟩ := bind_ok second
    obtain ⟨-, -, second⟩ := bind_ok second
    exact ⟨a, (Except.ok.inj second).symm⟩
  have tokens : token = [] ∨ ∃ t, token = [("token", .string t)] := by
    unfold importedToken at third
    split at third
    · obtain ⟨t, -, third⟩ := bind_ok third
      obtain ⟨-, -, third⟩ := bind_ok third
      exact Or.inr ⟨t, (Except.ok.inj third).symm⟩
    · obtain ⟨-, -, third⟩ := bind_ok third
      exact Or.inl (Except.ok.inj third).symm
  obtain ⟨a, rfl⟩ := addrs
  rcases types with rfl | ⟨s, rfl⟩ <;> rcases tokens with rfl | ⟨t, rfl⟩ <;> cases side <;> rfl

theorem formed_importService {existing : List String} {defaultTokenPresent : Bool}
    (e : String × Item) (formed : Formed kind entries) :
    Formed kind (importService side existing defaultTokenPresent kind (entries, r) e).1 := by
  simp only [importService]
  split
  · exact formed
  · split
    · exact formed
    · split
      · exact formed
      · split
        · exact formed
        · next entry made =>
          apply formed.insert
          apply formed_foldl
          · intro entries r field inside
            exact formed_importScalar field inside
          · exact formed_importedEntry made

theorem formed_importServices (formed : Formed kind entries)
    (ran : importServices env side src kind (entries, r) = .ok (after, report)) :
    Formed kind after := by
  simp only [importServices] at ran
  split at ran
  · cases ran
    exact formed
  · split at ran
    · cases ran
      exact formed
    · obtain ⟨⟨inner, table⟩, found, ran⟩ := bind_ok ran
      cases ran
      apply formed.insertKey
      apply formed_foldl
      · intro entries r e inside
        exact formed_importService e inside
      · exact formed_ensureTable formed found

theorem formed_importSection (formed : Formed kind entries)
    (ran : importSection env side src kind entries = .ok (after, report)) : Formed kind after := by
  obtain ⟨⟨transported, r⟩, transport, ran⟩ := bind_ok ran
  apply formed_importServices _ ran
  apply formed_importTransport _ transport
  apply formed_foldl
  · intro entries r field inside
    exact formed_importGlobal field inside
  · exact formed

end Import

end Rathole.ConfigEdit
