import Rathole.StatusTree

set_option autoImplicit false

/- Two configurations print the same tree only when the tree shows the same of both. -/
namespace Rathole.StatusCommand

open RuntimeStatus

section OneLine

instance (s : String) : Decidable (OneLine s) := inferInstanceAs (Decidable ('\n' ∉ s.toList))

theorem oneLine_append {a b : String} : OneLine (a ++ b) ↔ OneLine a ∧ OneLine b := by
  simp [OneLine, String.toList_append, not_or]

theorem newline_notMem_toDigits {radix : Nat} (positive : 1 < radix) (hex : radix ≤ 16) (n : Nat) :
    '\n' ∉ Nat.toDigits radix n := by
  intro member
  have digit := SocketAddr.digitOf_lt_of_mem_toDigits positive hex _ member
  exact absurd hex (Nat.not_le.mpr digit)

theorem oneLine_toString (n : Nat) : OneLine (toString n) := by
  change '\n' ∉ (String.ofList (Nat.toDigits 10 n)).toList
  rw [String.toList_ofList]
  exact newline_notMem_toDigits (by decide) (by decide) n

theorem toString_inj {m n : Nat} (same : toString m = toString n) : m = n := by
  have digits : Nat.toDigits 10 m = Nat.toDigits 10 n := String.ofList_injective same
  rw [← SocketAddr.value_toDigits (by decide : 1 < 10) (by decide) m, digits,
    SocketAddr.value_toDigits (by decide) (by decide)]

theorem mem_joinWith {sep c : Char} {parts : List (List Char)}
    (member : c ∈ SocketAddr.joinWith sep parts) : c = sep ∨ ∃ part ∈ parts, c ∈ part := by
  induction parts with
  | nil => cases member
  | cons part rest ih =>
    cases rest with
    | nil => exact .inr ⟨part, List.mem_cons_self, member⟩
    | cons next rest =>
      rw [SocketAddr.joinWith, List.mem_append, List.mem_cons] at member
      rcases member with here | here | later
      · exact .inr ⟨part, List.mem_cons_self, here⟩
      · exact .inl here
      · exact (ih later).imp_right fun found => found.imp fun p h =>
          ⟨List.mem_cons_of_mem part h.1, h.2⟩

theorem newline_notMem_numbers {sep : Char} (other : '\n' ≠ sep) {radix : Nat}
    (positive : 1 < radix) (hex : radix ≤ 16) (numbers : List Nat) :
    '\n' ∉ SocketAddr.joinWith sep (numbers.map (Nat.toDigits radix)) := by
  intro member
  rcases mem_joinWith member with same | ⟨part, held, here⟩
  · exact other same
  · obtain ⟨n, -, rfl⟩ := List.mem_map.mp held
    exact newline_notMem_toDigits positive hex n here

theorem newline_notMem_displayIpv4 (ip : Nat) : '\n' ∉ SocketAddr.displayIpv4 ip :=
  newline_notMem_numbers (by decide) (by decide) (by decide) _

theorem newline_notMem_displayIpv6 (ip : Nat) : '\n' ∉ SocketAddr.displayIpv6 ip := by
  have segments : ∀ numbers, '\n' ∉ SocketAddr.displaySegments numbers :=
    newline_notMem_numbers (by decide) (by decide) (by decide)
  have mapped := newline_notMem_displayIpv4 (ip % 2 ^ 32)
  have elided : '\n' ∉ "::".toList := by decide
  have leads : '\n' ∉ "::ffff:".toList := by decide
  unfold SocketAddr.displayIpv6
  split
  · simp only [List.mem_append, leads, mapped, or_self, not_false_eq_true]
  · simp only
    split
    · simp only [List.mem_append, segments, elided, or_self, not_false_eq_true]
    · exact segments _

theorem oneLine_display (addr : SocketAddr) : OneLine (String.ofList addr.display) := by
  have number : ∀ n, '\n' ∉ Nat.toDigits 10 n :=
    newline_notMem_toDigits (by decide) (by decide)
  unfold OneLine
  rw [String.toList_ofList]
  cases addr with
  | v4 ip port =>
    have front := newline_notMem_displayIpv4 ip.toNat
    simp [SocketAddr.display, number, front]
  | v6 ip port flowinfo scopeId =>
    have front := newline_notMem_displayIpv6 ip.toNat
    simp [SocketAddr.display, number, front]

variable (tty : Bool)

theorem oneLine_colorize {text code : String} (line : OneLine text) (plain : OneLine code) :
    OneLine (colorize tty text code) := by
  unfold colorize
  split
  · have opens : OneLine "\x1b[" := by decide
    have middle : OneLine "m" := by decide
    have closes : OneLine "\x1b[0m" := by decide
    simp only [oneLine_append, opens, plain, middle, line, closes, and_self]
  · exact line

end OneLine

/-- What a badge says: on one line, and neither `udp` nor a token. -/
structure StateText (s : String) : Prop where
  line : OneLine s
  first : ∃ c rest, s.toList = c :: rest ∧ c ≠ 'u' ∧ c ≠ 't'

section Badges

variable (tty : Bool) (runtime : Option RuntimeSnapshot)

theorem StateText.append {s t : String} (state : StateText s) (line : OneLine t) :
    StateText (s ++ t) := by
  obtain ⟨c, rest, first, other⟩ := state.first
  refine ⟨oneLine_append.mpr ⟨state.line, line⟩, c, rest ++ t.toList, ?_, other⟩
  rw [String.toList_append, first]
  rfl

theorem stateText_colorize (text : String) {code : String} (line : OneLine text)
    (plain : OneLine code) : StateText (colorize tty ("status: " ++ text) code) := by
  refine ⟨oneLine_colorize tty (oneLine_append.mpr ⟨by decide, line⟩) plain, ?_⟩
  cases tty with
  | false =>
    refine ⟨'s', "tatus: ".toList ++ text.toList, ?_, by decide, by decide⟩
    simp only [colorize, Bool.false_eq_true, if_false, String.toList_append]
    rfl
  | true =>
    refine ⟨'\x1b', '[' :: (code ++ "m" ++ ("status: " ++ text) ++ "\x1b[0m").toList, ?_, by decide,
      by decide⟩
    simp only [colorize, if_true, String.toList_append]
    rfl

theorem stateText_unknown : StateText (statusUnknown tty) :=
  stateText_colorize tty "unknown" (by decide) (by decide)

theorem stateText_ok (ok : Bool) : StateText (statusBadge tty ok) := by
  cases ok with
  | true => exact stateText_colorize tty "ok" (by decide) (by decide)
  | false => exact stateText_colorize tty "error" (by decide) (by decide)

/-- A state in brackets. -/
def IsBadge (s : String) : Prop := ∃ text, StateText text ∧ s = bracketed text

theorem clientServiceDetail_badge (name : String) :
    IsBadge (clientServiceDetail tty runtime name) := by
  cases runtime with
  | none => exact ⟨_, stateText_unknown tty, rfl⟩
  | some snapshot =>
    refine ⟨_, ?_, rfl⟩
    cases snapshot.services.lookup name with
    | none => exact stateText_unknown tty
    | some service =>
      cases service with
      | server entry => exact stateText_unknown tty
      | client entry =>
        simp only
        cases entry.state with
        | connected => exact stateText_ok tty true
        | connecting => exact stateText_colorize tty _ (by decide) (by decide)
        | retrying => exact stateText_colorize tty _ (by decide) (by decide)
        | stopped => exact stateText_colorize tty _ (by decide) (by decide)

theorem serverServiceDetail_badge (name : String) :
    IsBadge (serverServiceDetail tty runtime name) := by
  cases runtime with
  | none => exact ⟨_, stateText_unknown tty, rfl⟩
  | some snapshot =>
    refine ⟨_, ?_, rfl⟩
    cases snapshot.services.lookup name with
    | none => exact stateText_unknown tty
    | some service =>
      cases service with
      | client entry => exact stateText_unknown tty
      | server entry =>
        simp only
        cases entry.state with
        | connected =>
          apply (stateText_ok tty true).append
          cases entry.controlChannelSource with
          | none => decide
          | some address =>
            have opens : OneLine " [client: " := by decide
            have closes : OneLine "]" := by decide
            simp only [Option.map_some, Option.getD_some, oneLine_append, opens,
              oneLine_display, closes, and_self]
        | waiting => exact stateText_colorize tty _ (by decide) (by decide)
        | stopped => exact stateText_colorize tty _ (by decide) (by decide)

theorem oneLine_bracketed {text : String} (line : OneLine text) : OneLine (bracketed text) := by
  have opens : OneLine " [" := by decide
  have closes : OneLine "]" := by decide
  simp only [bracketed, oneLine_append, opens, line, closes, and_self]

theorem oneLine_clientRemoteDetail : OneLine (clientRemoteDetail tty runtime) := by
  have state : ∀ text code, OneLine text → OneLine code →
      OneLine (bracketed (stateBadge tty text code)) := fun text code line plain =>
    oneLine_bracketed (stateText_colorize tty _ line plain).line
  have unknown := oneLine_bracketed (stateText_unknown tty).line
  unfold clientRemoteDetail
  cases runtime with
  | none => exact unknown
  | some snapshot =>
    simp only
    split
    · next address found =>
      have opens : OneLine " [resolved: " := by decide
      have closes : OneLine "]" := by decide
      simp only [oneLine_append, oneLine_bracketed (stateText_ok tty true).line, opens,
        oneLine_display, closes, and_self]
    · split
      · exact state _ _ (by decide) (by decide)
      · split
        · exact state _ _ (by decide) (by decide)
        · exact unknown

theorem oneLine_serverBindDetail : OneLine (serverBindDetail tty runtime) := by
  cases runtime with
  | none => exact oneLine_bracketed (stateText_unknown tty).line
  | some snapshot =>
    apply oneLine_bracketed
    cases snapshot.serverListener.map ServerListenerSnapshot.state with
    | none => exact (stateText_unknown tty).line
    | some state =>
      cases state with
      | listening => exact (stateText_ok tty true).line
      | pending => exact (stateText_colorize tty _ (by decide) (by decide)).line
      | error => exact (stateText_ok tty false).line
      | stopped => exact (stateText_colorize tty _ (by decide) (by decide)).line

end Badges

section Lines

variable (tty : Bool) (runtime : Option RuntimeSnapshot)

theorem oneLine_serviceLabel {name addr detail : String} (named : OneLine name)
    (addressed : OneLine addr) (line : OneLine detail) (serviceType : ServiceType) (token : Bool) :
    OneLine (serviceLabel name addr serviceType token detail) := by
  have arrow : OneLine " → " := by decide
  have udp : OneLine (if serviceType = .udp then " [udp]" else "") := by
    split <;> decide
  have masked : OneLine (if token then " [token " ++ mask ++ "]" else "") := by
    split <;> decide
  simp only [serviceLabel, oneLine_append, named, arrow, addressed, udp, masked, line, and_self]

theorem leafIf_all {P : Prop} [Decidable P] {label : String} (line : OneLine label) :
    ∀ node ∈ leafIf P label, node.All OneLine := by
  intro node here
  unfold leafIf at here
  split at here
  · cases here
    exact ⟨line, trivial⟩
  · cases here

theorem sectionNode_all {title addr transport : String} {detail : Option String}
    {leaves : List (Option Node)} {services : List String} (titled : OneLine title)
    (addressed : OneLine addr) (transported : OneLine transport)
    (detailed : ∀ d ∈ detail, OneLine d)
    (others : ∀ o ∈ leaves, ∀ node ∈ o, node.All OneLine) (served : ∀ s ∈ services, OneLine s) :
    (sectionNode tty title addr transport detail leaves services).All OneLine := by
  have lead : OneLine "transport   = " := by decide
  have leadDetail : OneLine "transport detail = " := by decide
  refine ⟨oneLine_colorize tty titled (by decide), (Outline.allIn_iff _).mpr fun t member => ?_⟩
  rcases List.mem_append.mp member with front | last
  · rcases List.mem_cons.mp front with rfl | front
    · exact ⟨addressed, trivial⟩
    rcases List.mem_cons.mp front with rfl | front
    · exact ⟨oneLine_append.mpr ⟨lead, transported⟩, trivial⟩
    rcases List.mem_cons.mp (List.reduceOption_mem_iff.mp front) with here | here
    · obtain ⟨d, found, rfl⟩ := Option.map_eq_some_iff.mp here.symm
      exact ⟨oneLine_append.mpr ⟨leadDetail,
        oneLine_colorize tty (detailed d found) (by decide)⟩, trivial⟩
    · exact others _ here t rfl
  · rw [List.mem_singleton.mp last]
    have opens : OneLine "services (" := by decide
    have closes : OneLine ")" := by decide
    refine ⟨?_, (Outline.allIn_iff _).mpr fun t member => ?_⟩
    · change OneLine ("services (" ++ toString services.length ++ ")")
      simp only [oneLine_append, opens, oneLine_toString, closes, and_self]
    · obtain ⟨s, held, rfl⟩ := List.mem_map.mp member
      exact ⟨served s held, trivial⟩

end Lines

section Same

/-- What is there of a list of optional items, each with its own key. -/
def Keyed {T K : Type} (key : T → K) (keys : List K) (items : List (Option T)) : Prop :=
  List.Forall₂ (fun k o => ∀ t ∈ o, key t = k) keys items

theorem Keyed.key_mem {T K : Type} {key : T → K} {keys : List K} {items : List (Option T)}
    (keyed : Keyed key keys items) {t : T} (member : t ∈ items.reduceOption) : key t ∈ keys := by
  have held := List.reduceOption_mem_iff.mp member
  induction keyed with
  | nil => cases held
  | cons here _ ih =>
    rcases List.mem_cons.mp held with same | later
    · exact List.mem_cons.mpr (.inl (here t same.symm))
    · exact List.mem_cons_of_mem _ (ih (List.reduceOption_mem_iff.mpr later) later)

theorem Keyed.inj {T K : Type} {key : T → K} {keys : List K} {items items' : List (Option T)}
    (keyed : Keyed key keys items) (keyed' : Keyed key keys items') (distinct : keys.Nodup)
    (same : items.reduceOption = items'.reduceOption) : items = items' := by
  induction keyed generalizing items' with
  | nil =>
    cases keyed'
    rfl
  | @cons k o keys items here rest ih =>
    cases keyed' with
    | @cons _ o' _ items' here' rest' =>
      obtain ⟨other, distinct⟩ := List.nodup_cons.mp distinct
      cases o with
      | none =>
        cases o' with
        | none =>
          rw [List.reduceOption_cons_of_none, List.reduceOption_cons_of_none] at same
          rw [ih rest' distinct same]
        | some t =>
          rw [List.reduceOption_cons_of_none, List.reduceOption_cons_of_some] at same
          have held := Keyed.key_mem rest (same ▸ List.mem_cons_self : t ∈ items.reduceOption)
          exact absurd (here' t rfl ▸ held) other
      | some t =>
        cases o' with
        | none =>
          rw [List.reduceOption_cons_of_none, List.reduceOption_cons_of_some] at same
          have held := Keyed.key_mem rest' (same ▸ List.mem_cons_self : t ∈ items'.reduceOption)
          exact absurd (here t rfl ▸ held) other
        | some t' =>
          rw [List.reduceOption_cons_of_some, List.reduceOption_cons_of_some] at same
          obtain ⟨first, later⟩ := List.cons.inj same
          rw [first, ih rest' distinct later]

/-- The letter that the label of a node starts with. -/
def initial : Node → Option Char
  | .node label _ => label.toList.head?

variable (tty : Bool) (runtime : Option RuntimeSnapshot)

theorem colorize_inj {a b code : String} (same : colorize tty a code = colorize tty b code) :
    a = b := by
  unfold colorize at same
  split at same
  · rw [String.append_left_inj, String.append_right_inj] at same
    exact same
  · exact same

theorem leaf_injective : Function.Injective leaf := by
  intro a b same
  cases same
  rfl

theorem leafIf_initial {P : Prop} [Decidable P] {label : String} {c : Char}
    (starts : label.toList.head? = some c) : ∀ node ∈ leafIf P label, initial node = some c := by
  intro node here
  unfold leafIf at here
  split at here
  · cases here
    exact starts
  · cases here

theorem leafIf_inj {P Q : Prop} [Decidable P] [Decidable Q] {a b : String}
    (same : leafIf P a = leafIf Q b) : (P ↔ Q) ∧ (P → a = b) := by
  unfold leafIf at same
  split at same
  · next p =>
    split at same
    · next q => exact ⟨iff_of_true p q, fun _ => leaf_injective (Option.some.inj same)⟩
    · cases same
  · next p =>
    split at same
    · cases same
    · next q => exact ⟨iff_of_false p q, fun h => absurd h p⟩

theorem numberLeaf_inj {label : String} {default a b : Nat}
    (same : numberLeaf label default a = numberLeaf label default b) : a = b := by
  obtain ⟨both, texts⟩ := leafIf_inj same
  by_cases plain : a = default
  · rw [plain]
    by_contra other
    exact both.mpr (Ne.symm other) plain
  · have digits := (String.append_right_inj _).mp (texts plain)
    exact toString_inj digits

theorem sectionNode_inj {title addr addr' transport transport' : String}
    {detail detail' : Option String} {leaves leaves' : List (Option Node)}
    {services services' : List String} {keys : List (Option Char)}
    (keyed : Keyed initial keys leaves) (keyed' : Keyed initial keys leaves')
    (distinct : (some 't' :: keys).Nodup)
    (same : sectionNode tty title addr transport detail leaves services =
      sectionNode tty title addr' transport' detail' leaves' services') :
    addr = addr' ∧ transport = transport' ∧ detail = detail' ∧ leaves = leaves' ∧
      services = services' := by
  have children := (Outline.Tree.node.inj same).2
  obtain ⟨front, last⟩ := List.append_inj' children rfl
  obtain ⟨first, front⟩ := List.cons.inj front
  obtain ⟨second, front⟩ := List.cons.inj front
  have detailKey : ∀ detail : Option String, ∀ node ∈ detail.map fun detail =>
      leaf ("transport detail = " ++ colorize tty detail dim), initial node = some 't' := by
    intro detail node here
    obtain ⟨d, -, rfl⟩ := Option.map_eq_some_iff.mp here
    rw [leaf, initial, String.toList_append]
    rfl
  have whole := Keyed.inj (List.Forall₂.cons (detailKey detail) keyed)
    (List.Forall₂.cons (detailKey detail') keyed') distinct front
  obtain ⟨details, others⟩ := List.cons.inj whole
  have transports := (String.append_right_inj _).mp (leaf_injective second)
  refine ⟨leaf_injective first, transports, ?_, others, ?_⟩
  · apply Option.map_injective _ details
    intro a b same
    exact colorize_inj tty ((String.append_right_inj _).mp (leaf_injective same))
  · exact leaf_injective.list_map (Outline.Tree.node.inj (List.singleton_inj.mp last)).2

/-- What follows the address on the line of a service. -/
def flags (serviceType : ServiceType) (token : Bool) (detail : String) : String :=
  (if serviceType = .udp then " [udp]" else "") ++
    ((if token then " [token " ++ mask ++ "]" else "") ++ detail)

/-- The letter behind the second blank tells what comes first. -/
theorem flags_tcp {detail : String} (badge : IsBadge detail) (token : Bool) :
    ∃ c rest, (flags .tcp token detail).toList = ' ' :: '[' :: c :: rest ∧ c ≠ 'u' ∧
      (c = 't' ↔ token = true) := by
  obtain ⟨text, state, rfl⟩ := badge
  obtain ⟨c, rest, first, notU, notT⟩ := state.first
  cases token with
  | true =>
    refine ⟨'t', "oken ".toList ++ mask.toList ++ ("]" ++ bracketed text).toList, ?_, by decide,
      by simp⟩
    simp only [flags, reduceCtorEq, if_false, if_true, String.toList_append, List.append_assoc]
    rfl
  | false =>
    refine ⟨c, rest ++ "]".toList, ?_, notU, by simp [notT]⟩
    simp only [flags, bracketed, reduceCtorEq, Bool.false_eq_true, if_false, String.toList_append,
      first]
    rfl

theorem flags_udp (detail : String) (token : Bool) :
    ∃ rest, (flags .udp token detail).toList = ' ' :: '[' :: 'u' :: rest := by
  refine ⟨"dp]".toList ++ (flags .tcp token detail).toList, ?_⟩
  simp only [flags, reduceCtorEq, if_false, if_true, String.toList_append]
  rfl

theorem flags_blank {detail : String} (badge : IsBadge detail) (serviceType : ServiceType)
    (token : Bool) : ∃ rest, (flags serviceType token detail).toList = ' ' :: rest := by
  cases serviceType with
  | tcp =>
    obtain ⟨c, rest, text, -⟩ := flags_tcp badge token
    exact ⟨_, text⟩
  | udp =>
    obtain ⟨rest, text⟩ := flags_udp detail token
    exact ⟨_, text⟩

theorem flags_inj {detail : String} (badge : IsBadge detail) {a b : ServiceType}
    {s t : Bool} (same : flags a s detail = flags b t detail) : a = b ∧ s = t := by
  have tokens : ∀ {s t}, flags .tcp s detail = flags .tcp t detail → s = t := by
    intro s t same
    obtain ⟨c, rest, text, -, token⟩ := flags_tcp badge s
    obtain ⟨d, rest', text', -, token'⟩ := flags_tcp badge t
    rw [same, text'] at text
    have letter : d = c := (List.cons.inj (List.cons.inj (List.cons.inj text).2).2).1
    rw [letter] at token'
    exact Bool.eq_iff_iff.mpr (token.symm.trans token')
  have other : ∀ {s t}, flags .udp s detail ≠ flags .tcp t detail := by
    intro s t same
    obtain ⟨rest, text⟩ := flags_udp detail s
    obtain ⟨c, rest', text', notU, -⟩ := flags_tcp badge t
    rw [same, text'] at text
    exact notU (List.cons.inj (List.cons.inj (List.cons.inj text).2).2).1
  cases a with
  | tcp =>
    cases b with
    | tcp => exact ⟨rfl, tokens same⟩
    | udp => exact absurd same.symm other
  | udp =>
    cases b with
    | tcp => exact absurd same other
    | udp =>
      refine ⟨rfl, tokens ?_⟩
      simp only [flags, if_true, reduceCtorEq, if_false, String.append_right_inj] at same ⊢
      exact same

theorem serviceLabel_toList (name addr detail : String) (serviceType : ServiceType) (token : Bool) :
    (serviceLabel name addr serviceType token detail).toList =
      name.toList ++
        ' ' :: '→' :: ' ' :: (addr.toList ++ (flags serviceType token detail).toList) := by
  simp only [serviceLabel, flags, String.toList_append, List.append_assoc]
  rfl

/-- A service is read off its line. -/
theorem label_inj {detail : String → String} (badge : ∀ name, IsBadge (detail name))
    {a b : ShownService} (named : Word a.name) (addressed : Word a.addr) (named' : Word b.name)
    (addressed' : Word b.addr) (same : a.label detail = b.label detail) : a = b := by
  have texts := congrArg String.toList same
  rw [ShownService.label, ShownService.label, serviceLabel_toList, serviceLabel_toList] at texts
  obtain ⟨names, rest⟩ := Outline.append_stop_inj named.blank named'.blank texts
  have behind := (List.cons.inj (List.cons.inj rest).2).2
  have name : a.name = b.name := String.toList_injective names
  rw [name] at behind
  obtain ⟨r, front⟩ := flags_blank (badge b.name) a.serviceType a.token
  obtain ⟨r', front'⟩ := flags_blank (badge b.name) b.serviceType b.token
  have split := behind
  rw [front, front'] at split
  obtain ⟨addrs, -⟩ := Outline.append_stop_inj addressed.blank addressed'.blank split
  have addr : a.addr = b.addr := String.toList_injective addrs
  rw [addr] at behind
  obtain ⟨types, tokens⟩ := flags_inj (badge b.name)
    (String.toList_injective (List.append_cancel_left behind))
  obtain ⟨nameA, addrA, typeA, tokenA⟩ := a
  obtain ⟨nameB, addrB, typeB, tokenB⟩ := b
  cases name
  cases addr
  cases types
  cases tokens
  rfl

theorem map_inj_of_mem {A B : Type} {f : A → B} {as bs : List A}
    (each : ∀ a ∈ as, ∀ b ∈ bs, f a = f b → a = b) (same : as.map f = bs.map f) : as = bs := by
  induction as generalizing bs with
  | nil => exact (List.map_eq_nil_iff.mp same.symm).symm
  | cons a as ih =>
    cases bs with
    | nil => cases same
    | cons b bs =>
      obtain ⟨first, rest⟩ := List.cons.inj same
      rw [each a List.mem_cons_self b List.mem_cons_self first,
        ih (fun a ha b hb => each a (List.mem_cons_of_mem _ ha) b (List.mem_cons_of_mem _ hb)) rest]

def Words (services : List ShownService) : Prop := ∀ s ∈ services, Word s.name ∧ Word s.addr

theorem labels_inj {detail : String → String} (badge : ∀ name, IsBadge (detail name))
    {as bs : List ShownService} (words : Words as) (words' : Words bs)
    (same : as.map (ShownService.label detail) = bs.map (ShownService.label detail)) : as = bs :=
  map_inj_of_mem (fun a ha b hb => label_inj badge (words a ha).1 (words a ha).2 (words' b hb).1
    (words' b hb).2) same

theorem drawClient_inj {c c' : ShownClient} (words : Words c.services) (words' : Words c'.services)
    (same : drawClient tty runtime c = drawClient tty runtime c') : c = c' := by
  have keyed : ∀ c : ShownClient, Keyed initial [some 'p', some 'h', some 'r', some 'd']
      [leafIf (c.preferIpv6 = true) "prefer_ipv6 = true",
        numberLeaf "heartbeat_timeout = " 40 c.heartbeatTimeout,
        numberLeaf "retry_interval = " 1 c.retryInterval,
        leafIf (c.defaultToken = true) ("default_token = " ++ mask)] := fun c =>
    .cons (leafIf_initial (by decide)) (.cons (leafIf_initial (by rw [String.toList_append]; rfl))
      (.cons (leafIf_initial (by rw [String.toList_append]; rfl))
        (.cons (leafIf_initial (by decide)) .nil)))
  obtain ⟨addr, label, detail, leaves, services⟩ :=
    sectionNode_inj tty (keyed c) (keyed c') (by decide) same
  obtain ⟨prefer, leaves⟩ := List.cons.inj leaves
  obtain ⟨timeout, leaves⟩ := List.cons.inj leaves
  obtain ⟨retry, leaves⟩ := List.cons.inj leaves
  obtain ⟨token, -⟩ := List.cons.inj leaves
  have lists := labels_inj (clientServiceDetail_badge tty runtime) words words' services
  rw [String.append_left_inj, String.append_right_inj] at addr
  have prefer := Bool.eq_iff_iff.mpr (leafIf_inj prefer).1
  have token := Bool.eq_iff_iff.mpr (leafIf_inj token).1
  have timeout := numberLeaf_inj timeout
  have retry := numberLeaf_inj retry
  obtain ⟨remoteAddr, ⟨tLabel, tDetail⟩, preferIpv6, heartbeat, interval, default, list⟩ := c
  cases c'
  simp_all

theorem drawServer_inj {s s' : ShownServer} (words : Words s.services) (words' : Words s'.services)
    (same : drawServer tty runtime s = drawServer tty runtime s') : s = s' := by
  have keyed : ∀ s : ShownServer, Keyed initial [some 'h', some 'd']
      [numberLeaf "heartbeat_interval = " 30 s.heartbeatInterval,
        leafIf (s.defaultToken = true) ("default_token = " ++ mask)] := fun s =>
    .cons (leafIf_initial (by rw [String.toList_append]; rfl))
      (.cons (leafIf_initial (by decide)) .nil)
  obtain ⟨addr, label, detail, leaves, services⟩ :=
    sectionNode_inj tty (keyed s) (keyed s') (by decide) same
  obtain ⟨interval, leaves⟩ := List.cons.inj leaves
  obtain ⟨token, -⟩ := List.cons.inj leaves
  have lists := labels_inj (serverServiceDetail_badge tty runtime) words words' services
  rw [String.append_left_inj, String.append_right_inj] at addr
  have token := Bool.eq_iff_iff.mpr (leafIf_inj token).1
  have interval := numberLeaf_inj interval
  obtain ⟨bindAddr, ⟨tLabel, tDetail⟩, heartbeat, default, list⟩ := s
  cases s'
  simp_all

/-- The texts that are shown stand on one line, and those of the services have no blank. -/
structure ShownConfig.Plain (config : ShownConfig) : Prop where
  client : ∀ c ∈ config.client, OneLine c.remoteAddr ∧ OneLine c.transport.label ∧
    (∀ detail ∈ c.transport.detail, OneLine detail) ∧ Words c.services
  server : ∀ s ∈ config.server, OneLine s.bindAddr ∧ OneLine s.transport.label ∧
    (∀ detail ∈ s.transport.detail, OneLine detail) ∧ Words s.services

theorem oneLine_transportLabel (t : TransportConfig) : OneLine (transportLabel t) := by
  unfold transportLabel
  split <;> decide

theorem Plain.shown {config : Config} (plain : Plain config) : (shownConfig config).Plain := by
  refine ⟨fun c here => ?_, fun s here => ?_⟩
  · obtain ⟨client, found, rfl⟩ := Option.map_eq_some_iff.mp here
    obtain ⟨addr, transport, services⟩ := plain.client client found
    refine ⟨addr, oneLine_transportLabel _, transport, fun s held => ?_⟩
    obtain ⟨e, member, rfl⟩ := List.mem_map.mp held
    exact services e.1 e.2 (mem_sortedEntries.mp member)
  · obtain ⟨server, found, rfl⟩ := Option.map_eq_some_iff.mp here
    obtain ⟨addr, transport, services⟩ := plain.server server found
    refine ⟨addr, oneLine_transportLabel _, transport, fun s held => ?_⟩
    obtain ⟨e, member, rfl⟩ := List.mem_map.mp held
    exact services e.1 e.2 (mem_sortedEntries.mp member)

theorem oneLine_labels {detail : String → String} (badge : ∀ name, IsBadge (detail name))
    {services : List ShownService} (words : Words services) :
    ∀ label ∈ services.map (ShownService.label detail), OneLine label := by
  intro label member
  obtain ⟨s, held, rfl⟩ := List.mem_map.mp member
  obtain ⟨text, state, shown⟩ := badge s.name
  exact oneLine_serviceLabel (words s held).1.line (words s held).2.line
    (shown ▸ oneLine_bracketed state.line) _ _

theorem numberLeaf_all {label : String} (line : OneLine label) (default n : Nat) :
    ∀ node ∈ numberLeaf label default n, node.All OneLine :=
  leafIf_all (oneLine_append.mpr ⟨line, oneLine_toString n⟩)

theorem drawClient_all {c : ShownClient} (plain : OneLine c.remoteAddr ∧
    OneLine c.transport.label ∧ (∀ detail ∈ c.transport.detail, OneLine detail) ∧
    Words c.services) : (drawClient tty runtime c).All OneLine := by
  obtain ⟨addr, label, detail, words⟩ := plain
  have lead : OneLine "remote_addr = " := by decide
  refine sectionNode_all tty (by decide) ?_ label detail ?_
    (oneLine_labels (clientServiceDetail_badge tty runtime) words)
  · simp only [oneLine_append, lead, addr, oneLine_clientRemoteDetail, and_self]
  · intro o member
    simp only [List.mem_cons, List.not_mem_nil, or_false] at member
    rcases member with rfl | rfl | rfl | rfl
    · exact leafIf_all (by decide)
    · exact numberLeaf_all (by decide) _ _
    · exact numberLeaf_all (by decide) _ _
    · exact leafIf_all (by decide)

theorem drawServer_all {s : ShownServer} (plain : OneLine s.bindAddr ∧
    OneLine s.transport.label ∧ (∀ detail ∈ s.transport.detail, OneLine detail) ∧
    Words s.services) : (drawServer tty runtime s).All OneLine := by
  obtain ⟨addr, label, detail, words⟩ := plain
  have lead : OneLine "bind_addr   = " := by decide
  refine sectionNode_all tty (by decide) ?_ label detail ?_
    (oneLine_labels (serverServiceDetail_badge tty runtime) words)
  · simp only [oneLine_append, lead, addr, oneLine_serverBindDetail, and_self]
  · intro o member
    simp only [List.mem_cons, List.not_mem_nil, or_false] at member
    rcases member with rfl | rfl
    · exact numberLeaf_all (by decide) _ _
    · exact leafIf_all (by decide)

theorem drawConfig_all {config : ShownConfig} (plain : config.Plain) :
    (drawConfig tty runtime config).All OneLine := by
  refine ⟨oneLine_colorize tty (by decide) (by decide), ?_⟩
  refine (Outline.allIn_iff _).mpr fun t member => ?_
  rcases List.mem_append.mp member with here | here
  · obtain ⟨c, found, rfl⟩ := Option.map_eq_some_iff.mp (Option.mem_toList.mp here)
    exact drawClient_all tty runtime (plain.client c found)
  · obtain ⟨s, found, rfl⟩ := Option.map_eq_some_iff.mp (Option.mem_toList.mp here)
    exact drawServer_all tty runtime (plain.server s found)

/-- The title of a node. -/
def title : Node → String
  | .node label _ => label

theorem drawConfig_inj {config config' : ShownConfig} (plain : config.Plain)
    (plain' : config'.Plain)
    (same : drawConfig tty runtime config = drawConfig tty runtime config') : config = config' := by
  have sections := (Outline.Tree.node.inj same).2
  have keyed : ∀ config : ShownConfig,
      Keyed title [colorize tty "[client]" green, colorize tty "[server]" green]
        [config.client.map (drawClient tty runtime),
          config.server.map (drawServer tty runtime)] := by
    intro config
    refine .cons (fun t here => ?_) (.cons (fun t here => ?_) .nil)
    · obtain ⟨c, -, rfl⟩ := Option.map_eq_some_iff.mp here
      rfl
    · obtain ⟨s, -, rfl⟩ := Option.map_eq_some_iff.mp here
      rfl
  have distinct : [colorize tty "[client]" green, colorize tty "[server]" green].Nodup := by
    refine List.nodup_cons.mpr ⟨fun held => ?_, List.nodup_singleton _⟩
    exact absurd (colorize_inj tty (List.mem_singleton.mp held)) (by decide)
  have listed : ∀ a b : Option Node, [a, b].reduceOption = a.toList ++ b.toList := by
    intro a b
    cases a <;> cases b <;> rfl
  have parts := Keyed.inj (keyed config) (keyed config') distinct
    (by rw [listed, listed]; exact sections)
  obtain ⟨clients, rest⟩ := List.cons.inj parts
  obtain ⟨servers, -⟩ := List.cons.inj rest
  obtain ⟨client, server⟩ := config
  obtain ⟨client', server'⟩ := config'
  have sameClient : client = client' := by
    cases client with
    | none =>
      cases client' with
      | none => rfl
      | some c' => cases clients
    | some c =>
      cases client' with
      | none => cases clients
      | some c' =>
        rw [drawClient_inj tty runtime (plain.client c rfl).2.2.2 (plain'.client c' rfl).2.2.2
          (Option.some.inj clients)]
  have sameServer : server = server' := by
    cases server with
    | none =>
      cases server' with
      | none => rfl
      | some s' => cases servers
    | some s =>
      cases server' with
      | none => cases servers
      | some s' =>
        rw [drawServer_inj tty runtime (plain.server s rfl).2.2.2 (plain'.server s' rfl).2.2.2
          (Option.some.inj servers)]
  rw [sameClient, sameServer]

/-- The printed tree tells two configurations apart exactly when it shows something else of them,
in whatever order their services are listed. -/
theorem printed_iff_shown (order order' : HashOrder) {config config' : Config}
    (plain : Plain config) (plain' : Plain config') :
    renderTree (configTree tty order runtime config) "" true =
        renderTree (configTree tty order' runtime config') "" true ↔
      shownConfig config = shownConfig config' := by
  rw [configTree_eq, configTree_eq]
  constructor
  · intro same
    have texts : Outline.draw drawing String.toList (drawConfig tty runtime (shownConfig config))
          [] true ++ [] =
        Outline.draw drawing String.toList (drawConfig tty runtime (shownConfig config')) [] true ++
          [] := by
      rw [List.append_nil, List.append_nil]
      exact String.ofList_injective same
    have outside : ¬ [] ++ drawing.fill true <+: [] := by decide
    have text : Function.Injective String.toList := fun a b same => String.toList_injective same
    obtain ⟨trees, -⟩ := Outline.draw_inj (m := drawing) text
      (drawConfig_all tty runtime plain.shown) (drawConfig_all tty runtime plain'.shown)
      outside outside texts
    exact drawConfig_inj tty runtime plain.shown plain'.shown trees
  · intro same
    rw [same]

end Same

section Demo

def demo (token : MaskedString) : Config where
  server := none
  client := some {
    remoteAddr := "example.com:2333"
    defaultToken := none
    preferIpv6 := none
    services := (∅ : HashMap String ClientServiceConfig).insert "web"
      ⟨.tcp, "", "127.0.0.1:80", false, some token, none, none⟩
    transport := .default
    heartbeatTimeout := 40
    retryInterval := 1 }

theorem plain_demo (token : MaskedString) : Plain (demo token) := by
  refine ⟨fun c here => ?_, fun s here => absurd here (by simp [demo])⟩
  cases here
  have line : OneLine "example.com:2333" := by decide
  have local_ : Word "127.0.0.1:80" := ⟨by decide, by decide⟩
  refine ⟨line, fun detail here => absurd here (by simp [transportDetail, TransportConfig.default]),
    fun name s found => ?_⟩
  obtain ⟨rfl, rfl⟩ := lookup_single found
  exact ⟨⟨by decide, by decide⟩, local_⟩

theorem sortedEntries_single {V : Type} (name : String) (v : V) :
    sortedEntries ((∅ : HashMap String V).insert name v) = [(name, v)] := by
  rw [← sortByName_entries .some, HashOrder.entries_single]
  exact List.mergeSort_singleton _

theorem printed_demo : renderTree (configTree true .some none (demo "abc")) "" true =
    renderTree (configTree true .some none (demo "xyz")) "" true := by
  refine (printed_iff_shown true none .some .some (plain_demo "abc") (plain_demo "xyz")).mpr ?_
  simp only [shownConfig, shownClient, demo, Option.map_some, sortedEntries_single]
  rfl

end Demo

end Rathole.StatusCommand
