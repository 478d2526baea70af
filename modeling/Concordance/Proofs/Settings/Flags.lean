import Concordance.Settings.Arguments
import Mathlib.Data.List.Induction

/-!
# Flags for settings

Arguments are flags with their values, and between them what is no flag. Each flag that names no
file sets one value or adds a peer. So of several flags for one setting the last one counts, and
peers come after those that were there.

* `flags`, `missing?`, `applyArguments_eq`: arguments as flags.
* `ofArguments_insert`: what is no flag makes no difference.
* `Scalar`: the settings with one value, each with its flag.
* `Flag.apply_cases`: all that a flag can do.
* `Layered`, `layered_applyFlags`: what flags make of settings, one after the other.
-/

namespace Concordance.Settings

/-! ## Arguments as flags -/

/-- The flags among arguments, each with the argument after it. -/
def flags : List String → List (Flag × String)
  | [] | [_] => []
  | argument :: value :: rest =>
    match Flag.ofArgument? argument with
    | none => flags (value :: rest)
    | some flag => (flag, value) :: flags rest

/-- The flag at the end of arguments that lacks its value, if there is one. -/
def missing? : List String → Option String
  | [] => none
  | [argument] => (Flag.ofArgument? argument).map fun _ => argument
  | argument :: value :: rest =>
    match Flag.ofArgument? argument with
    | none => missing? (value :: rest)
    | some _ => missing? rest

/-- The settings after flags with their values, one after the other. -/
def applyFlags (files : Files) (s : Settings) (flags : List (Flag × String)) :
    Except Fault Settings :=
  flags.foldlM (fun s f => f.1.apply files f.2 s) s

variable {files : Files} {s s' base : Settings} {given : List (Flag × String)}

theorem applyFlags_cons (files : Files) (s : Settings) (f : Flag × String)
    (rest : List (Flag × String)) : applyFlags files s (f :: rest) =
      (f.1.apply files f.2 s).bind fun s => applyFlags files s rest := rfl

theorem applyFlags_append (files : Files) (s : Settings) (given rest : List (Flag × String)) :
    applyFlags files s (given ++ rest) =
      (applyFlags files s given).bind fun s => applyFlags files s rest :=
  List.foldlM_append

/-- Arguments do what their flags do, unless a value is missing at the end. -/
theorem applyArguments_eq (files : Files) (s : Settings) (arguments : List String) :
    applyArguments files s arguments = (applyFlags files s (flags arguments)).bind fun s =>
      match missing? arguments with
      | none => .ok s
      | some flag => .error (.missingValue flag) := by
  fun_induction applyArguments files s arguments with
  | case1 s => rfl
  | case2 s argument unknown =>
    simp only [flags, missing?, unknown]
    rfl
  | case3 s argument flag known =>
    simp only [flags, missing?, known]
    rfl
  | case4 s argument value rest unknown ih => simp only [flags, missing?, unknown, ih]
  | case5 s argument value rest flag known ih =>
    simp only [flags, missing?, known, applyFlags_cons, ih]
    exact (bind_assoc (m := Except Fault) _ _ _).symm

theorem applyFlags_of_ok {arguments : List String}
    (accepted : ofArguments files arguments = .ok s) :
    applyFlags files standard (flags arguments) = .ok s := by
  rw [ofArguments, applyArguments_eq] at accepted
  cases applied : applyFlags files standard (flags arguments) with
  | error fault =>
    rw [applied] at accepted
    cases accepted
  | ok s' =>
    rw [applied] at accepted
    cases missing : missing? arguments with
    | none =>
      rw [missing] at accepted
      exact accepted
    | some flag =>
      rw [missing] at accepted
      cases accepted

/-! ## Arguments in two parts -/

section

variable {earlier : List String} (complete : missing? earlier = none) (later : List String)

include complete

/-- Where all flags have their values, flags can go on. -/
theorem flags_append : flags (earlier ++ later) = flags earlier ++ flags later := by
  fun_induction flags earlier with
  | case1 => rfl
  | case2 argument =>
    have unknown : Flag.ofArgument? argument = none := by simpa [missing?] using complete
    cases later with
    | nil => rfl
    | cons value rest => simp only [List.singleton_append, flags, unknown, List.nil_append]
  | case3 argument value rest unknown ih =>
    rw [missing?, unknown] at complete
    simp only [List.cons_append, flags, unknown]
    exact ih complete
  | case4 argument value rest flag known ih =>
    rw [missing?, known] at complete
    simp only [List.cons_append, flags, known, ih complete]

theorem missing?_append : missing? (earlier ++ later) = missing? later := by
  fun_induction missing? earlier with
  | case1 => rfl
  | case2 argument =>
    have unknown : Flag.ofArgument? argument = none := by simpa using complete
    cases later with
    | nil => simp only [List.append_nil, missing?, unknown, Option.map_none]
    | cons value rest => simp only [List.singleton_append, missing?, unknown]
  | case3 argument value rest unknown ih =>
    simp only [List.cons_append, missing?, unknown]
    exact ih complete
  | case4 argument value rest flag known ih =>
    simp only [List.cons_append, missing?, known]
    exact ih complete

/-- An argument that is no flag, where a flag can stand, makes no difference. -/
theorem ofArguments_insert (files : Files) {unknown : String}
    (stray : Flag.ofArgument? unknown = none) :
    ofArguments files (earlier ++ unknown :: later) = ofArguments files (earlier ++ later) := by
  have same : flags (unknown :: later) = flags later ∧
      missing? (unknown :: later) = missing? later := by
    cases later with
    | nil => simp only [flags, missing?, stray, Option.map_none, and_self]
    | cons value rest => simp only [flags, missing?, stray, and_self]
  simp only [ofArguments, applyArguments_eq, flags_append complete, missing?_append complete, same]

end

/-! ## Settings with one value -/

/-- The settings with one value, in the order in which a file has them. -/
inductive Scalar
  | bind
  | analyticsPort
  | defaultLanguage
  | numPartitions
  | replicationFactor
  | reportIntervalSecs
  | nodeId
  deriving DecidableEq

namespace Scalar

/-- The values that the setting can have. -/
def Value : Scalar → Type
  | bind => Net.SocketAddress
  | analyticsPort => UInt16
  | defaultLanguage => Language
  | numPartitions => UInt32
  | replicationFactor | reportIntervalSecs => UInt64
  | nodeId => Option NodeId

/-- The value of the setting. -/
def get : (x : Scalar) → Settings → x.Value
  | bind, s => s.bind
  | analyticsPort, s => s.analyticsPort
  | defaultLanguage, s => s.defaultLanguage
  | numPartitions, s => s.numPartitions
  | replicationFactor, s => s.replicationFactor
  | reportIntervalSecs, s => s.reportIntervalSecs
  | nodeId, s => s.nodeId

/-- The settings with another value of this one. -/
def set : (x : Scalar) → Settings → x.Value → Settings
  | bind, s, a => { s with bind := a }
  | analyticsPort, s, a => { s with analyticsPort := a }
  | defaultLanguage, s, a => { s with defaultLanguage := a }
  | numPartitions, s, a => { s with numPartitions := a }
  | replicationFactor, s, a => { s with replicationFactor := a }
  | reportIntervalSecs, s, a => { s with reportIntervalSecs := a }
  | nodeId, s, a => { s with nodeId := a }

/-- The flag for the setting. The interval has none. -/
def flag? : Scalar → Option Flag
  | bind => some .bind
  | analyticsPort => some .analyticsPort
  | defaultLanguage => some .language
  | numPartitions => some .partitions
  | replicationFactor => some .replication
  | reportIntervalSecs => none
  | nodeId => some .nodeId

/-- The value of the setting that a text writes after its flag. -/
def read? : (x : Scalar) → String → Option x.Value
  | bind, text => Net.SocketAddress.read? text
  | analyticsPort, text => (Decimal.readUInt16 text.toList).toOption
  | defaultLanguage, text => (Language.read text).toOption
  | numPartitions, text => (Decimal.readUInt32 text.toList).toOption
  | replicationFactor, text => (Decimal.readUInt64 text.toList).toOption
  | reportIntervalSecs, _ => none
  | nodeId, text => some (some text)

/-- The text after the last flag for the setting. -/
def last? (x : Scalar) (given : List (Flag × String)) : Option String :=
  ((given.filter fun f => x.flag? = some f.1).getLast?).map (·.2)

theorem get_set_self (x : Scalar) (s : Settings) (a : x.Value) : x.get (x.set s a) = a := by
  cases x <;> rfl

theorem get_set_of_ne {x y : Scalar} (ne : y ≠ x) (s : Settings) (a : x.Value) :
    y.get (x.set s a) = y.get s := by
  cases x <;> cases y <;> first | rfl | exact absurd rfl ne

theorem peers_set (x : Scalar) (s : Settings) (a : x.Value) : (x.set s a).peers = s.peers := by
  cases x <;> rfl

theorem get_peers (x : Scalar) (s : Settings) (peers : List Peer) :
    x.get { s with peers } = x.get s := by
  cases x <;> rfl

theorem flag?_ne_peer (x : Scalar) : x.flag? ≠ some .peer := by
  cases x <;> nofun

/-- No flag sets two of them. -/
theorem eq_of_flag? {x y : Scalar} {flag : Flag} (hx : x.flag? = some flag)
    (hy : y.flag? = some flag) : y = x := by
  cases x <;> cases y <;> cases hx <;> cases hy <;> rfl

theorem last?_concat_of_eq {x : Scalar} {f : Flag × String} (own : x.flag? = some f.1)
    (given : List (Flag × String)) : x.last? (given ++ [f]) = some f.2 := by
  simp [last?, own]

theorem last?_concat_of_ne {x : Scalar} {f : Flag × String} (other : x.flag? ≠ some f.1)
    (given : List (Flag × String)) : x.last? (given ++ [f]) = x.last? given := by
  simp [last?, other]

end Scalar

/-! ## One flag -/

theorem bind_eq_ok_iff {ε α β : Type} {m : Except ε α} {k : α → Except ε β} {b : β} :
    m >>= k = .ok b ↔ ∃ a, m = .ok a ∧ k a = .ok b := by
  cases m with
  | error fault => exact ⟨nofun, nofun⟩
  | ok a => exact ⟨fun h => ⟨a, rfl, h⟩, fun ⟨_, same, h⟩ => by cases same; exact h⟩

theorem parsed_eq_ok_iff {ε α : Type} {field value : String} {fault : ε → ValueFault}
    {read : Except ε α} {a : α} : parsed field value fault read = .ok a ↔ read = .ok a := by
  cases read <;> simp [parsed, Except.mapError]

/-- A flag whose value is read sets one value. -/
theorem Scalar.set_of_parsed (x : Scalar) {flag : Flag} {ε : Type} {field value : String}
    {fault : ε → ValueFault} {read : Except ε x.Value} (own : x.flag? = some flag)
    (same : x.read? value = read.toOption)
    (accepted : (do return x.set s (← parsed field value fault read)) = .ok s') :
    ∃ x : Scalar, x.flag? = some flag ∧ ∃ a, x.read? value = some a ∧ s' = x.set s a := by
  obtain ⟨a, found, left⟩ := bind_eq_ok_iff.mp accepted
  refine ⟨x, own, a, ?_, (Except.ok.inj left).symm⟩
  rw [same, parsed_eq_ok_iff.mp found]
  rfl

/-- A flag that is accepted takes the settings from a file, or adds a peer, or sets one value. -/
theorem Flag.apply_cases {flag : Flag} {value : String}
    (accepted : flag.apply files value s = .ok s') :
    flag = .config ∧ ofFile files value = .ok s' ∨
      (flag = .peer ∧ ∃ p, Peer.read value = .ok p ∧ s' = { s with peers := s.peers ++ [p] }) ∨
      ∃ x : Scalar, x.flag? = some flag ∧ ∃ a, x.read? value = some a ∧ s' = x.set s a := by
  cases flag with
  | config => exact .inl ⟨rfl, accepted⟩
  | peer =>
    obtain ⟨p, found, left⟩ := bind_eq_ok_iff.mp accepted
    exact .inr (.inl ⟨rfl, p, parsed_eq_ok_iff.mp found, (Except.ok.inj left).symm⟩)
  | bind =>
    rw [Flag.apply] at accepted
    split at accepted
    · next address read =>
      exact .inr (.inr ⟨.bind, rfl, address, read, (Except.ok.inj accepted).symm⟩)
    · cases accepted
  | nodeId => exact .inr (.inr ⟨.nodeId, rfl, some value, rfl, (Except.ok.inj accepted).symm⟩)
  | analyticsPort => exact .inr (.inr (Scalar.set_of_parsed .analyticsPort rfl rfl accepted))
  | language => exact .inr (.inr (Scalar.set_of_parsed .defaultLanguage rfl rfl accepted))
  | partitions => exact .inr (.inr (Scalar.set_of_parsed .numPartitions rfl rfl accepted))
  | replication => exact .inr (.inr (Scalar.set_of_parsed .replicationFactor rfl rfl accepted))

/-! ## Flags one after the other -/

/-- The texts of the peers that flags name. -/
def peerTexts (given : List (Flag × String)) : List String :=
  (given.filter fun f => f.1 = .peer).map (·.2)

/-- The settings `s` are `base`, changed by flags: a setting has the value of the last flag for
it, if there is one, and the peers of the flags come after the others. -/
structure Layered (base : Settings) (given : List (Flag × String)) (s : Settings) : Prop where
  scalar : ∀ x : Scalar, match x.last? given with
    | some text => x.read? text = some (x.get s)
    | none => x.get s = x.get base
  peers : ∃ added, (peerTexts given).mapM Peer.read = .ok added ∧ s.peers = base.peers ++ added

theorem applyFlags_concat_eq_ok_iff {f : Flag × String} :
    applyFlags files base (given ++ [f]) = .ok s' ↔
      ∃ s, applyFlags files base given = .ok s ∧ f.1.apply files f.2 s = .ok s' := by
  rw [applyFlags_append]
  refine bind_eq_ok_iff.trans (exists_congr fun s => and_congr_right fun _ => ?_)
  rw [applyFlags_cons]
  cases f.1.apply files f.2 s <;> rfl

theorem peerTexts_concat_of_eq {f : Flag × String} (peer : f.1 = .peer) :
    peerTexts (given ++ [f]) = peerTexts given ++ [f.2] := by
  simp [peerTexts, peer]

theorem peerTexts_concat_of_ne {f : Flag × String} (other : f.1 ≠ .peer) :
    peerTexts (given ++ [f]) = peerTexts given := by
  simp [peerTexts, other]

namespace Layered

/-- One more flag, for a peer. -/
theorem concat_peer (h : Layered base given s) {f : Flag × String} (peer : f.1 = .peer) {p : Peer}
    (named : Peer.read f.2 = .ok p) :
    Layered base (given ++ [f]) { s with peers := s.peers ++ [p] } := by
  obtain ⟨added, read, peers⟩ := h.peers
  refine ⟨fun x => ?_, added ++ [p], ?_, ?_⟩
  · have other : x.flag? ≠ some f.1 := by
      rw [peer]
      exact x.flag?_ne_peer
    rw [Scalar.last?_concat_of_ne other, Scalar.get_peers]
    exact h.scalar x
  · rw [peerTexts_concat_of_eq peer, List.mapM_append, read, List.mapM_cons, named]
    rfl
  · show s.peers ++ [p] = base.peers ++ (added ++ [p])
    rw [peers, List.append_assoc]

/-- One more flag, for a setting with one value. -/
theorem concat_scalar (h : Layered base given s) {f : Flag × String} {x : Scalar}
    (own : x.flag? = some f.1) {a : x.Value} (found : x.read? f.2 = some a) :
    Layered base (given ++ [f]) (x.set s a) := by
  obtain ⟨added, read, peers⟩ := h.peers
  refine ⟨fun y => ?_, added, ?_, ?_⟩
  · by_cases same : y = x
    · subst same
      rw [Scalar.last?_concat_of_eq own, Scalar.get_set_self]
      exact found
    · have other : y.flag? ≠ some f.1 := fun own' => same (Scalar.eq_of_flag? own own')
      rw [Scalar.last?_concat_of_ne other, Scalar.get_set_of_ne same]
      exact h.scalar y
  · have other : f.1 ≠ .peer := fun peer => x.flag?_ne_peer (own.trans (congrArg some peer))
    rw [peerTexts_concat_of_ne other, read]
  · rw [Scalar.peers_set, peers]

end Layered

/-- Flags that name no file change the settings as they say, the last one for each. -/
theorem layered_applyFlags (single : ∀ f ∈ given, f.1 ≠ .config)
    (applied : applyFlags files base given = .ok s) : Layered base given s := by
  induction given using List.reverseRecOn generalizing s with
  | nil =>
    obtain rfl := Except.ok.inj applied
    exact ⟨fun x => rfl, [], rfl, (List.append_nil _).symm⟩
  | append_singleton given f ih =>
    obtain ⟨s₁, before, last⟩ := applyFlags_concat_eq_ok_iff.mp applied
    have earlier := ih (fun f mem => single f (List.mem_append_left _ mem)) before
    rcases Flag.apply_cases last with ⟨config, -⟩ | ⟨peer, p, named, rfl⟩ | ⟨x, own, a, found, rfl⟩
    · exact absurd config (single f List.mem_concat_self)
    · exact earlier.concat_peer peer named
    · exact earlier.concat_scalar own found

end Concordance.Settings
