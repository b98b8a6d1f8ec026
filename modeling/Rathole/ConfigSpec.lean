import Rathole.ConfigAdd

set_option autoImplicit false

/- The compact specs of `config add`: which strings are one, and what each stands for. -/
namespace Rathole.ConfigEdit

/-- The segments of a spec, trimmed and without the empty ones. -/
def segmentsOf (parts : List String) : List String := (parts.map trim).filter (· ≠ "")

def segments (spec : String) : List String := segmentsOf (splitAll ';' spec)

/-- A segment is split at its first colon. -/
def keyValue (segment : String) : Option (String × String) :=
  (splitOnce ':' segment).map fun pair => (trim pair.1, trim pair.2)

/-- The values that segments give to a key, in their order. -/
def valuesIn (key : String) (segments : List String) : List String :=
  (segments.filterMap keyValue).filterMap fun pair => if pair.1 = key then some pair.2 else none

def valuesOf (key spec : String) : List String := valuesIn key (segments spec)

/-- The key of the address of a side. -/
def ServiceSide.addressKey : ServiceSide → String
  | client => "local"
  | server => "bind"

/-- The pairs that a spec of the side may hold. -/
structure IsPair (side : ServiceSide) (key val : String) : Prop where
  known : key = "name" ∨ key = "token" ∨ key = "type" ∨ key = side.addressKey
  typed : key = "type" → val = "tcp" ∨ val = "udp"
  addressed : key = side.addressKey → validateHostPort val key = .ok ()

def IsSegment (side : ServiceSide) (segment : String) : Prop :=
  ∃ key val, keyValue segment = some (key, val) ∧ IsPair side key val

/-- The grammar of the specs of a side. -/
structure IsSpec (side : ServiceSide) (spec : String) : Prop where
  segments : ∀ segment ∈ segments spec, IsSegment side segment
  named : (valuesOf "name" spec).getLast?.getD "" ≠ ""
  addressed : valuesOf side.addressKey spec ≠ []

/-- Each key has the value of its last occurrence. -/
def lastValues (side : ServiceSide) (spec : String) : ServiceSpec where
  name := (valuesOf "name" spec).getLast?.getD ""
  localAddr := if side = .client then (valuesOf "local" spec).getLast? else none
  bindAddr := if side = .server then (valuesOf "bind" spec).getLast? else none
  token := (valuesOf "token" spec).getLast?
  udp := (valuesOf "type" spec).getLast? = some "udp"

/-- Two specs that differ in the order of segments with different keys, in white space and in
empty segments only. -/
structure SameFields (spec other : String) : Prop where
  values : ∀ key, valuesOf key spec = valuesOf key other
  split : (∀ segment ∈ segments spec, (keyValue segment).isSome = true) ↔
    ∀ segment ∈ segments other, (keyValue segment).isSome = true

/-- The parser accepts the spec exactly when it is one, reads the last value of each key, and
does not depend on the order of different keys. -/
structure ReadsSpec (side : ServiceSide) (spec : String) : Prop where
  accepted : (∃ out, parseSpec spec side = .ok out) ↔ IsSpec side spec
  last : ∀ out, parseSpec spec side = .ok out → out = lastValues side spec
  unordered : ∀ other, SameFields spec other →
    (parseSpec other side).toOption = (parseSpec spec side).toOption

/-- No `type:tcp` takes a `type:udp` back. -/
def KeepsType (spec : String) : Prop :=
  "udp" ∈ valuesOf "type" spec → (valuesOf "type" spec).getLast? = some "udp"

section Values

variable {key val segment : String} {rest : List String}

theorem valuesIn_cons (split : keyValue segment = some (key, val)) (wanted : String) :
    valuesIn wanted (segment :: rest) =
      if key = wanted then val :: valuesIn wanted rest else valuesIn wanted rest := by
  unfold valuesIn
  rw [List.filterMap_cons_some split]
  by_cases same : key = wanted
  · simp [same]
  · simp [same]

theorem mem_valuesIn (key val : String) (segments : List String) :
    val ∈ valuesIn key segments ↔ ∃ segment ∈ segments, keyValue segment = some (key, val) := by
  unfold valuesIn
  simp only [List.mem_filterMap, Option.ite_none_right_eq_some, Option.some.injEq, Prod.exists]
  constructor
  · intro ⟨other, found, ⟨segment, there, split⟩, same, same'⟩
    subst same same'
    exact ⟨segment, there, split⟩
  · intro ⟨segment, there, split⟩
    exact ⟨key, val, ⟨segment, there, split⟩, rfl, rfl⟩

theorem segmentsOf_cons_empty {pair : String} {parts : List String} (empty : trim pair = "") :
    segmentsOf (pair :: parts) = segmentsOf parts := by
  simp [segmentsOf, empty]

theorem segmentsOf_cons {pair : String} {parts : List String} (there : trim pair ≠ "") :
    segmentsOf (pair :: parts) = trim pair :: segmentsOf parts := by
  simp [segmentsOf, there]

end Values

/-- What the parser holds after a pair. A `type` that is not `udp` leaves it as it is. -/
def ServiceSpec.take (out : ServiceSpec) (side : ServiceSide) (key val : String) : ServiceSpec where
  name := if key = "name" then val else out.name
  localAddr := if side = .client ∧ key = "local" then some val else out.localAddr
  bindAddr := if side = .server ∧ key = "bind" then some val else out.bindAddr
  token := if key = "token" then some val else out.token
  udp := out.udp || (key = "type" && val = "udp")

/-- What the parser holds after some segments. -/
def ServiceSpec.after (out : ServiceSpec) (side : ServiceSide) (segments : List String) :
    ServiceSpec where
  name := (valuesIn "name" segments).getLast?.getD out.name
  localAddr := if side = .client then (valuesIn "local" segments).getLast?.or out.localAddr
    else out.localAddr
  bindAddr := if side = .server then (valuesIn "bind" segments).getLast?.or out.bindAddr
    else out.bindAddr
  token := (valuesIn "token" segments).getLast?.or out.token
  udp := out.udp || (valuesIn "type" segments).contains "udp"

theorem parsePair_empty (side : ServiceSide) (out : ServiceSpec) {pair : String}
    (empty : trim pair = "") : parsePair side out pair = .ok out := by
  simp [parsePair, empty]

theorem parsePair_unsplit (side : ServiceSide) (out : ServiceSpec) {pair : String}
    (there : trim pair ≠ "") (unsplit : keyValue (trim pair) = none) (other : ServiceSpec) :
    parsePair side out pair ≠ .ok other := by
  have none : splitOnce ':' (trim pair) = none := by
    simpa [keyValue] using unsplit
  simp [parsePair, there, none]

section Pairs

variable {side : ServiceSide} {key val : String}

theorem addressKey_ne (side : ServiceSide) : side.addressKey ≠ "name" ∧
    side.addressKey ≠ "token" ∧ side.addressKey ≠ "type" := by
  cases side <;> decide

theorem isPair_plain (plain : key = "name" ∨ key = "token") : IsPair side key val := by
  have ⟨name, token, type⟩ := addressKey_ne side
  cases plain with
  | inl named =>
    subst named
    exact ⟨.inl rfl, by simp, fun same => absurd same.symm name⟩
  | inr secret =>
    subst secret
    exact ⟨.inr (.inl rfl), by simp, fun same => absurd same.symm token⟩

theorem isPair_type : IsPair side "type" val ↔ val = "tcp" ∨ val = "udp" := by
  constructor
  · intro pair
    exact pair.typed rfl
  · intro either
    exact ⟨.inr (.inr (.inl rfl)), fun _ => either,
      fun same => absurd same.symm (addressKey_ne side).2.2⟩

theorem isPair_address (same : key = side.addressKey) :
    IsPair side key val ↔ validateHostPort val key = .ok () := by
  constructor
  · intro pair
    exact pair.addressed same
  · intro valid
    exact ⟨.inr (.inr (.inr same)),
      fun type => absurd (same.symm.trans type) (addressKey_ne side).2.2, fun _ => valid⟩

end Pairs

/-- One turn of the loop, for a pair that splits. -/
theorem parsePair_split (side : ServiceSide) (out : ServiceSpec) {pair key val : String}
    (there : trim pair ≠ "") (split : keyValue (trim pair) = some (key, val))
    (other : ServiceSpec) : parsePair side out pair = .ok other ↔
      IsPair side key val ∧ other = out.take side key val := by
  obtain ⟨⟨left, right⟩, parts, same⟩ := Option.map_eq_some_iff.mp split
  obtain ⟨rfl, rfl⟩ := Prod.mk.inj same
  simp only [parsePair, there, parts, if_false]
  generalize trim left = key
  generalize trim right = val
  by_cases named : key = "name"
  · subst named
    simp [isPair_plain (.inl rfl), ServiceSpec.take, eq_comm]
  by_cases secret : key = "token"
  · subst secret
    simp [isPair_plain (.inr rfl), ServiceSpec.take, eq_comm]
  by_cases typed : key = "type"
  · subst typed
    rw [isPair_type]
    by_cases tcp : val = "tcp"
    · simp [tcp, ServiceSpec.take, @eq_comm _ other]
    by_cases udp : val = "udp"
    · simp [udp, ServiceSpec.take, eq_comm]
    simp [tcp, udp]
  have known (pair : IsPair side key val) : key = side.addressKey :=
    ((pair.known.resolve_left named).resolve_left secret).resolve_left typed
  by_cases gone : key = "server" ∨ key = "remote"
  · have unknown : ¬ IsPair side key val := by
      intro pair
      rw [known pair] at gone
      revert gone
      cases side <;> decide
    simp [named, secret, typed, gone, unknown]
  simp only [named, secret, typed, gone, if_false]
  by_cases address : key = side.addressKey
  · rw [isPair_address address]
    subst address
    cases side with
    | client =>
      cases valid : validateHostPort val "local" with
      | error _ => simp [ServiceSide.addressKey, valid, bind, Except.bind]
      | ok _ => simp [ServiceSide.addressKey, valid, bind, Except.bind, ServiceSpec.take, eq_comm]
    | server =>
      cases valid : validateHostPort val "bind" with
      | error _ => simp [ServiceSide.addressKey, valid, bind, Except.bind]
      | ok _ => simp [ServiceSide.addressKey, valid, bind, Except.bind, ServiceSpec.take, eq_comm]
  · have unknown : ¬ IsPair side key val := fun pair => address (known pair)
    cases side with
    | client =>
      have here : key ≠ "local" := address
      simp [here, unknown]
    | server =>
      have here : key ≠ "bind" := address
      simp [here, unknown]

section After

variable {side : ServiceSide} {out : ServiceSpec}

theorem ServiceSpec.after_nil : out.after side [] = out := by
  simp [ServiceSpec.after, valuesIn]

theorem ServiceSpec.after_cons {segment key val : String} {rest : List String}
    (split : keyValue segment = some (key, val)) :
    out.after side (segment :: rest) = (out.take side key val).after side rest := by
  unfold ServiceSpec.after ServiceSpec.take
  simp only [valuesIn_cons split]
  congr 1
  · by_cases named : key = "name"
    · simp [named, List.getLast?_cons]
    · simp [named]
  · by_cases own : side = .client
    · by_cases address : key = "local"
      · simp [own, address, List.getLast?_cons]
      · simp [own, address]
    · simp [own]
  · by_cases own : side = .server
    · by_cases address : key = "bind"
      · simp [own, address, List.getLast?_cons]
      · simp [own, address]
    · simp [own]
  · by_cases secret : key = "token"
    · simp [secret, List.getLast?_cons]
    · simp [secret]
  · by_cases typed : key = "type"
    · simp [typed, Bool.or_assoc, eq_comm]
    · simp [typed]

/-- The loop over the segments, from any value that it may hold. -/
theorem foldl_parsePair (parts : List String) (other : ServiceSpec) :
    parts.foldlM (parsePair side) out = .ok other ↔
      (∀ segment ∈ segmentsOf parts, IsSegment side segment) ∧
        other = out.after side (segmentsOf parts) := by
  induction parts generalizing out with
  | nil => simp [segmentsOf, ServiceSpec.after_nil, pure, Except.pure, eq_comm]
  | cons pair parts ih =>
    rw [List.foldlM_cons]
    by_cases empty : trim pair = ""
    · rw [parsePair_empty side out empty, segmentsOf_cons_empty empty]
      exact ih
    rw [segmentsOf_cons empty]
    cases split : keyValue (trim pair) with
    | none =>
      have failed : ∀ other, parsePair side out pair ≠ .ok other :=
        parsePair_unsplit side out empty split
      have unsplit : ¬ IsSegment side (trim pair) := by
        intro ⟨key, val, split', _⟩
        rw [split] at split'
        cases split'
      cases turn : parsePair side out pair with
      | ok next => exact absurd turn (failed next)
      | error message => simp [unsplit, bind, Except.bind]
    | some found =>
      have turns := parsePair_split side out empty split
      have segment : IsSegment side (trim pair) ↔ IsPair side found.1 found.2 := by
        unfold IsSegment
        rw [split]
        obtain ⟨key, val⟩ := found
        simp [and_assoc]
      rw [ServiceSpec.after_cons split]
      cases turn : parsePair side out pair with
      | ok next =>
        obtain ⟨valid, rfl⟩ := (turns next).mp turn
        simp [bind, Except.bind, ih, segment, valid]
      | error message =>
        have invalid : ¬ IsPair side found.1 found.2 := by
          intro valid
          have := (turns _).mpr ⟨valid, rfl⟩
          rw [turn] at this
          cases this
        simp [bind, Except.bind, segment, invalid]

end After

/-- The spec from which the parser starts. -/
def ServiceSpec.empty : ServiceSpec := ⟨"", none, none, none, false⟩

/-- What is asked of a spec behind the loop. -/
structure ServiceSpec.Complete (out : ServiceSpec) (side : ServiceSide) : Prop where
  named : out.name ≠ ""
  client : ¬ (side = .client ∧ out.localAddr.isNone)
  server : ¬ (side = .server ∧ out.bindAddr.isNone)

theorem parseSpec_ok {side : ServiceSide} {spec : String} {out : ServiceSpec} :
    parseSpec spec side = .ok out ↔
      (splitAll ';' spec).foldlM (parsePair side) .empty = .ok out ∧ out.Complete side := by
  constructor
  · intro parsed
    obtain ⟨read, ran, parsed⟩ := bind_ok parsed
    obtain ⟨_, named, parsed⟩ := bind_ok parsed
    obtain ⟨_, client, parsed⟩ := bind_ok parsed
    obtain ⟨_, server, parsed⟩ := bind_ok parsed
    cases parsed
    exact ⟨ran, of_decide_eq_false (bailIf_ok.mp named), of_decide_eq_false (bailIf_ok.mp client),
      of_decide_eq_false (bailIf_ok.mp server)⟩
  · intro ⟨ran, complete⟩
    have started : (splitAll ';' spec).foldlM (parsePair side) ⟨"", none, none, none, false⟩ =
      .ok out := ran
    unfold parseSpec
    rw [started]
    simp only [bind, Except.bind, bailIf_ok.mpr (decide_eq_false complete.named),
      bailIf_ok.mpr (decide_eq_false complete.client),
      bailIf_ok.mpr (decide_eq_false complete.server)]

theorem complete_after {side : ServiceSide} {spec : String} :
    (ServiceSpec.empty.after side (segments spec)).Complete side ↔
      (valuesOf "name" spec).getLast?.getD "" ≠ "" ∧ valuesOf side.addressKey spec ≠ [] := by
  constructor
  · intro complete
    refine ⟨complete.named, ?_⟩
    intro without
    cases side with
    | client =>
      apply complete.client
      have without : valuesIn "local" (segments spec) = [] := without
      simp [ServiceSpec.after, ServiceSpec.empty, without]
    | server =>
      apply complete.server
      have without : valuesIn "bind" (segments spec) = [] := without
      simp [ServiceSpec.after, ServiceSpec.empty, without]
  · intro ⟨named, addressed⟩
    cases side with
    | client =>
      have addressed : valuesIn "local" (segments spec) ≠ [] := addressed
      exact ⟨named, by simp [ServiceSpec.after, ServiceSpec.empty, addressed], by simp⟩
    | server =>
      have addressed : valuesIn "bind" (segments spec) ≠ [] := addressed
      exact ⟨named, by simp, by simp [ServiceSpec.after, ServiceSpec.empty, addressed]⟩

theorem parseSpec_iff {side : ServiceSide} {spec : String} {out : ServiceSpec} :
    parseSpec spec side = .ok out ↔
      IsSpec side spec ∧ out = ServiceSpec.empty.after side (segments spec) := by
  rw [parseSpec_ok, foldl_parsePair]
  constructor
  · intro ⟨⟨valid, same⟩, complete⟩
    rw [same] at complete
    have ⟨named, addressed⟩ := complete_after.mp complete
    exact ⟨⟨valid, named, addressed⟩, same⟩
  · intro ⟨isSpec, same⟩
    refine ⟨⟨isSpec.segments, same⟩, ?_⟩
    rw [same]
    exact complete_after.mpr ⟨isSpec.named, isSpec.addressed⟩

/-- Of the keys, `type` alone has a rule of its own. -/
theorem after_eq_lastValues (side : ServiceSide) (spec : String) :
    ServiceSpec.empty.after side (segments spec) = lastValues side spec ↔ KeepsType spec := by
  have same : ServiceSpec.empty.after side (segments spec) =
      { lastValues side spec with udp := (valuesOf "type" spec).contains "udp" } := by
    unfold ServiceSpec.after ServiceSpec.empty lastValues
    simp [valuesOf]
  rw [same]
  unfold KeepsType lastValues
  simp only [ServiceSpec.mk.injEq, true_and]
  constructor
  · intro agrees held
    rw [List.contains_iff_mem.mpr held] at agrees
    exact of_decide_eq_true agrees.symm
  · intro keeps
    by_cases held : "udp" ∈ valuesOf "type" spec
    · rw [List.contains_iff_mem.mpr held, decide_eq_true (keeps held)]
    · rw [decide_eq_false fun last => held (List.mem_of_getLast? last)]
      simpa using held

section Unordered

variable {spec other : String}

theorem isSegment_iff {side : ServiceSide} (spec : String) :
    (∀ segment ∈ segments spec, IsSegment side segment) ↔
      (∀ segment ∈ segments spec, (keyValue segment).isSome = true) ∧
        ∀ key, ∀ val ∈ valuesOf key spec, IsPair side key val := by
  constructor
  · intro valid
    constructor
    · intro segment there
      obtain ⟨key, val, split, _⟩ := valid segment there
      rw [split]
      rfl
    · intro key val held
      obtain ⟨segment, there, split⟩ := (mem_valuesIn key val _).mp held
      obtain ⟨key', val', split', pair⟩ := valid segment there
      rw [split] at split'
      cases split'
      exact pair
  · intro ⟨splits, pairs⟩ segment there
    obtain ⟨⟨key, val⟩, split⟩ := Option.isSome_iff_exists.mp (splits segment there)
    exact ⟨key, val, split, pairs key val ((mem_valuesIn key val _).mpr ⟨segment, there, split⟩)⟩

theorem SameFields.isSpec {side : ServiceSide} (same : SameFields spec other) :
    IsSpec side spec ↔ IsSpec side other := by
  have valid : (∀ segment ∈ segments spec, IsSegment side segment) ↔
      ∀ segment ∈ segments other, IsSegment side segment := by
    rw [isSegment_iff, isSegment_iff, same.split]
    simp only [same.values]
  constructor
  · intro isSpec
    have ⟨segments, named, addressed⟩ := isSpec
    rw [same.values] at named addressed
    exact ⟨valid.mp segments, named, addressed⟩
  · intro isSpec
    have ⟨segments, named, addressed⟩ := isSpec
    rw [← same.values] at named addressed
    exact ⟨valid.mpr segments, named, addressed⟩

theorem SameFields.after {side : ServiceSide} (same : SameFields spec other) :
    ServiceSpec.empty.after side (segments spec) =
      ServiceSpec.empty.after side (segments other) := by
  have values : ∀ key, valuesIn key (segments spec) = valuesIn key (segments other) := same.values
  unfold ServiceSpec.after
  simp only [values]

theorem SameFields.parse {side : ServiceSide} (same : SameFields spec other) :
    (parseSpec other side).toOption = (parseSpec spec side).toOption := by
  apply Option.ext
  intro out
  have ok_iff {x : Except String ServiceSpec} : x.toOption = some out ↔ x = .ok out := by
    cases x <;> simp [Except.toOption]
  rw [ok_iff, ok_iff, parseSpec_iff, parseSpec_iff, same.isSpec, same.after]

end Unordered

/-- The parser accepts exactly the specs of a side, whatever the order of different keys, and the
last value of each key is the one that counts unless a `type:tcp` comes behind a `type:udp`. -/
theorem reads_spec_iff (side : ServiceSide) (spec : String) :
    ReadsSpec side spec ↔ (IsSpec side spec → KeepsType spec) := by
  constructor
  · intro reads isSpec
    have parsed := parseSpec_iff.mpr ⟨isSpec, rfl⟩
    exact (after_eq_lastValues side spec).mp (reads.last _ parsed)
  · intro keeps
    refine ⟨?_, ?_, fun other same => same.parse⟩
    · constructor
      · intro ⟨out, parsed⟩
        exact (parseSpec_iff.mp parsed).1
      · intro isSpec
        exact ⟨_, parseSpec_iff.mpr ⟨isSpec, rfl⟩⟩
    · intro out parsed
      obtain ⟨isSpec, rfl⟩ := parseSpec_iff.mp parsed
      exact (after_eq_lastValues side spec).mpr (keeps isSpec)

/-- A service that was to be `tcp` in the end is read as `udp`. -/
theorem udp_not_taken_back :
    ¬ ∀ (side : ServiceSide) (spec : String), ReadsSpec side spec := by
  intro reads
  have parsed : (parseSpec "name:a;local:b:1;type:udp;type:tcp" .client).toOption =
      some ⟨"a", some "b:1", none, none, true⟩ := by
    decide +kernel
  have last : lastValues .client "name:a;local:b:1;type:udp;type:tcp" =
      ⟨"a", some "b:1", none, none, false⟩ := by
    decide +kernel
  cases ran : parseSpec "name:a;local:b:1;type:udp;type:tcp" .client with
  | error message =>
    rw [ran] at parsed
    cases parsed
  | ok out =>
    have read := (reads .client "name:a;local:b:1;type:udp;type:tcp").last out ran
    rw [ran, read, last] at parsed
    revert parsed
    decide

end Rathole.ConfigEdit
