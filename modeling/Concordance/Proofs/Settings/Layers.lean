import Concordance.Proofs.Settings.Flags

/-!
# Layers of settings

The last file that arguments name gives the settings to begin with; they are the standard ones if
no file is named. The flags after it change them. What stands before that file can make the whole
fail, and no more.

* `FromFile`, `ofFile_eq_ok_iff`: the settings that a file holds.
* `Base`: the settings to begin with, and the flags that change them.
* `ofArguments_layered`: the settings that arguments give.
-/

namespace Concordance.Settings

variable {files : Files} {s s' : Settings} {given : List (Flag × String)}

/-! ## Settings in a file -/

/-- The name of the setting in a file. -/
def Scalar.key : Scalar → String
  | bind => "bind"
  | analyticsPort => "analytics_port"
  | defaultLanguage => "default_language"
  | numPartitions => "num_partitions"
  | replicationFactor => "replication_factor"
  | reportIntervalSecs => "report_interval_secs"
  | nodeId => "node_id"

instance (x : Scalar) : OfJson x.Value :=
  match x with
  | .bind => inferInstanceAs (OfJson Net.SocketAddress)
  | .analyticsPort => inferInstanceAs (OfJson UInt16)
  | .defaultLanguage => inferInstanceAs (OfJson Language)
  | .numPartitions => inferInstanceAs (OfJson UInt32)
  | .replicationFactor | .reportIntervalSecs => inferInstanceAs (OfJson UInt64)
  | .nodeId => inferInstanceAs (OfJson (Option NodeId))

/-- The names of all settings in a file, in order. -/
def fieldNames : List String :=
  [Scalar.bind, .analyticsPort, .defaultLanguage, .numPartitions, .replicationFactor,
    .reportIntervalSecs, .nodeId].map Scalar.key ++ ["peers"]

/-- The file at the path holds these settings: it is the text of a record, and a setting that is
left out has its standard value. -/
def FromFile (files : Files) (path : String) (s : Settings) : Prop :=
  ∃ bytes text fields, files path = .ok bytes ∧ String.fromUTF8? bytes = some text ∧
    (Json.read? text).bind (Fields.of? fieldNames) = some fields ∧
    (∀ x : Scalar, fields.orElse x.key (x.get standard) = some (x.get s)) ∧
    fields.orElse "peers" standard.peers = some s.peers

/-- A record gives settings by its fields. -/
theorem ofJson?_eq_some_iff {j : Json} : ofJson? j = some s ↔
    ∃ fields, Fields.of? fieldNames j = some fields ∧
      (∀ x : Scalar, fields.orElse x.key (x.get standard) = some (x.get s)) ∧
      fields.orElse "peers" standard.peers = some s.peers := by
  have step {α β : Type} {m : Option α} {k : α → Option β} {b : β} :
      m >>= k = some b ↔ ∃ a, m = some a ∧ k a = some b := Option.bind_eq_some_iff
  constructor
  · intro read
    obtain ⟨fields, found, read⟩ := step.mp read
    obtain ⟨_, bind, read⟩ := step.mp read
    obtain ⟨_, port, read⟩ := step.mp read
    obtain ⟨_, language, read⟩ := step.mp read
    obtain ⟨_, partitions, read⟩ := step.mp read
    obtain ⟨_, replication, read⟩ := step.mp read
    obtain ⟨_, interval, read⟩ := step.mp read
    obtain ⟨_, nodeId, read⟩ := step.mp read
    obtain ⟨_, peers, read⟩ := step.mp read
    obtain rfl := Option.some.inj read
    refine ⟨fields, found, fun x => ?_, peers⟩
    cases x with
    | bind => exact bind
    | analyticsPort => exact port
    | defaultLanguage => exact language
    | numPartitions => exact partitions
    | replicationFactor => exact replication
    | reportIntervalSecs => exact interval
    | nodeId => exact nodeId
  · rintro ⟨fields, found, scalar, peers⟩
    exact step.mpr ⟨fields, found, step.mpr ⟨_, scalar .bind, step.mpr ⟨_, scalar .analyticsPort,
      step.mpr ⟨_, scalar .defaultLanguage, step.mpr ⟨_, scalar .numPartitions,
      step.mpr ⟨_, scalar .replicationFactor, step.mpr ⟨_, scalar .reportIntervalSecs,
      step.mpr ⟨_, scalar .nodeId, step.mpr ⟨_, peers, rfl⟩⟩⟩⟩⟩⟩⟩⟩⟩

theorem ofFile_eq_ok_iff {path : String} : ofFile files path = .ok s ↔ FromFile files path s := by
  constructor
  · intro read
    unfold ofFile at read
    split at read
    · cases read
    · next bytes held =>
      split at read
      · cases read
      · next text decoded =>
        split at read
        · cases read
        · next s' given =>
          obtain rfl := Except.ok.inj read
          obtain ⟨j, tree, record⟩ := Option.bind_eq_some_iff.mp given
          obtain ⟨fields, found, settings⟩ := ofJson?_eq_some_iff.mp record
          exact ⟨bytes, text, fields, held, decoded,
            Option.bind_eq_some_iff.mpr ⟨j, tree, found⟩, settings⟩
  · rintro ⟨bytes, text, fields, held, decoded, read, settings⟩
    obtain ⟨j, tree, found⟩ := Option.bind_eq_some_iff.mp read
    have given : decode? Settings text = some s :=
      Option.bind_eq_some_iff.mpr ⟨j, tree, ofJson?_eq_some_iff.mpr ⟨fields, found, settings⟩⟩
    simp only [ofFile, held, decoded, given]

/-! ## The last file -/

/-- The flags start from the settings `base` and end in the flags `since`, which name no file.
Right before these stands the last file, and it holds the settings; or no file is named, and
they are the standard ones. -/
inductive Base (files : Files) : List (Flag × String) → Settings → List (Flag × String) → Prop
  | noFile {given : List (Flag × String)} (single : ∀ f ∈ given, f.1 ≠ .config) :
      Base files given standard given
  | file {earlier since : List (Flag × String)} {path : String} {base : Settings}
      (held : FromFile files path base) (single : ∀ f ∈ since, f.1 ≠ .config) :
      Base files (earlier ++ (.config, path) :: since) base since

theorem exists_last_config (given : List (Flag × String)) :
    (∀ f ∈ given, f.1 ≠ .config) ∨ ∃ earlier path since,
      given = earlier ++ (.config, path) :: since ∧ ∀ f ∈ since, f.1 ≠ .config := by
  induction given with
  | nil => exact .inl nofun
  | cons f rest ih =>
    rcases ih with single | ⟨earlier, path, since, rfl, single⟩
    · by_cases config : f.1 = .config
      · exact .inr ⟨[], f.2, rest, by rw [← config]; rfl, single⟩
      · exact .inl (List.forall_mem_cons.mpr ⟨config, single⟩)
    · exact .inr ⟨f :: earlier, path, since, rfl, single⟩

/-- Flags that lead somewhere after a file lead there from the settings in it. -/
theorem exists_base_of_applyFlags {earlier since : List (Flag × String)} {path : String}
    (applied : applyFlags files s (earlier ++ (.config, path) :: since) = .ok s') :
    ∃ base, FromFile files path base ∧ applyFlags files base since = .ok s' := by
  rw [applyFlags_append] at applied
  obtain ⟨s₁, -, applied⟩ := bind_eq_ok_iff.mp applied
  rw [applyFlags_cons] at applied
  obtain ⟨base, read, applied⟩ := bind_eq_ok_iff.mp applied
  exact ⟨base, ofFile_eq_ok_iff.mp read, applied⟩

namespace Base

variable {since : List (Flag × String)}

theorem single (h : Base files given base since) : ∀ f ∈ since, f.1 ≠ .config := by
  cases h with
  | noFile single => exact single
  | file _ single => exact single

/-- What is accepted is what the flags since the last file make of its settings. -/
theorem applyFlags_eq (h : Base files given base since)
    (applied : applyFlags files standard given = .ok s) : applyFlags files base since = .ok s := by
  cases h with
  | noFile => exact applied
  | file held =>
    obtain ⟨base', held', applied⟩ := exists_base_of_applyFlags applied
    have same := (ofFile_eq_ok_iff.mpr held).symm.trans (ofFile_eq_ok_iff.mpr held')
    rwa [Except.ok.inj same]

/-- Flags that are accepted start from somewhere. -/
theorem exists_of_applyFlags (applied : applyFlags files standard given = .ok s) :
    ∃ base since, Base files given base since := by
  rcases exists_last_config given with single | ⟨earlier, path, since, rfl, single⟩
  · exact ⟨_, _, .noFile single⟩
  · obtain ⟨base, held, -⟩ := exists_base_of_applyFlags applied
    exact ⟨base, since, .file held single⟩

end Base

/-- Let arguments be accepted. The settings they give are those of the last file they name, or
the standard ones if they name none, changed by the flags after it: a setting has the value of
the last flag for it, if there is one, and the peers of the flags come after the others. What
stands before that file can make the whole fail and do no more: other arguments that start from
the same settings and end in the same flags give the same, unless they fail. An argument that is
no flag, where a flag can stand, makes no difference. -/
theorem ofArguments_layered {arguments : List String}
    (accepted : ofArguments files arguments = .ok s) :
    (∃ base since, Base files (flags arguments) base since ∧ Layered base since s) ∧
      (∀ base since arguments', Base files (flags arguments) base since →
        Base files (flags arguments') base since →
          ofArguments files arguments' = .ok s ∨
            ∃ fault, ofArguments files arguments' = .error fault) ∧
      ∀ earlier unknown later, missing? earlier = none → Flag.ofArgument? unknown = none →
        ofArguments files (earlier ++ unknown :: later) = ofArguments files (earlier ++ later) := by
  have applied := applyFlags_of_ok accepted
  refine ⟨?_, fun base since arguments' start start' => ?_,
    fun _ _ later complete stray => ofArguments_insert complete later files stray⟩
  · obtain ⟨base, since, start⟩ := Base.exists_of_applyFlags applied
    exact ⟨base, since, start, layered_applyFlags start.single (start.applyFlags_eq applied)⟩
  · cases accepted' : ofArguments files arguments' with
    | error fault => exact .inr ⟨fault, rfl⟩
    | ok s' =>
      have same := start'.applyFlags_eq (applyFlags_of_ok accepted')
      rw [start.applyFlags_eq applied] at same
      exact .inl same.symm

/-- A file with some settings. -/
def portFile : Files := fun path =>
  if path = "node.json" then
    .ok "\x7b\"analytics_port\": 9200, \"default_language\": \"ru\", \"peers\":
      [\x7b\"id\": \"p\", \"addresses\": [\"10.1.1.1\"]\x7d]\x7d".toUTF8
  else .error .notFound

/-- Arguments with flags before and after that file. One value looks like a flag, and one
argument is none. -/
def portArguments : List String :=
  ["--peer", "a@10.0.0.1", "--analytics-port", "9100", "--config", "node.json", "--verbose",
    "--analytics-port", "9300", "--node-id", "--peer", "--peer", "b@10.0.0.2", "--analytics-port",
    "9400"]

/-- What these arguments give. -/
def portSettings : Settings :=
  { standard with
    analyticsPort := 9400
    defaultLanguage := .ru
    nodeId := some "--peer"
    peers := [⟨"p", ["10.1.1.1"]⟩, ⟨"b", ["10.0.0.2"]⟩] }

theorem ofArguments_layered_ports : ofArguments portFile portArguments = .ok portSettings ∧
    (∃ base since, Base portFile (flags portArguments) base since ∧
      Layered base since portSettings) ∧
    ofArguments portFile ("--quiet" :: portArguments) = .ok portSettings := by
  have accepted : ofArguments portFile portArguments = .ok portSettings := by decide +kernel
  obtain ⟨layers, -, insert⟩ := ofArguments_layered accepted
  refine ⟨accepted, layers, ?_⟩
  rw [← accepted]
  exact insert [] "--quiet" portArguments rfl rfl

end Concordance.Settings
